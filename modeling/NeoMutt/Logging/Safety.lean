import NeoMutt.Logging.Contracts

/-! # Runs without undefined behaviour

`logging.c` leaves C's defined behaviour in seven places: `LevelAbbr[level + 3]` read outside
the literal; `buf + ret` outside the buffer of `log_disp_queue`; the `int` increments of
`LogQueueCount` and of the count of `log_queue_save`; a NULL from `localtime` given to
`strftime` (lines 105 and 364); a NULL message given to `"%s"` by the replay and by
`log_queue_save` (lines 338 and 365); and the buffer of `log_disp_stderr` read after a failed
`vsnprintf` left it uninitialised. The file and console sinks index `LevelAbbr` only below a
threshold of at most `LL_DEBUG5`. So a run stays defined when the clock and the stamps are
times `localtime` converts, what reaches the queue has a level with a letter, a message that
is not empty and, for `LL_PERROR`, an expansion that fits, the console sink gets expansions
that succeed, and at most `INT_MAX` operations are made.
-/
namespace NeoMutt.Logging

/-- What `log_disp_queue` keeps of a call before the error text, cut to `LONG_STRING - 1`. -/
def queuePrefix (env : Env) (c : LogCall) : CStr :=
  (c.fmt.getD [] ++ if c.level = LL.perror then ": ".toList else []).take (env.longString - 1)

/-- A call the queue takes, and later prints, without undefined behaviour. -/
def LogCall.Queueable (env : Env) (c : LogCall) : Prop :=
  LL.perror ≤ c.level ∧ c.level ≤ LL.debug5 ∧
    (c.level = LL.perror → 0 ≤ printfRet c.fmt ∧ printfRet c.fmt ≤ env.longString) ∧
    cstr (queuePrefix env c) ≠ [] ∧ env.StampOk c.stamp

instance (env : Env) (c : LogCall) : Decidable (c.Queueable env) :=
  inferInstanceAs (Decidable (_ ∧ _ ∧ _ ∧ _ ∧ _))

/-- A record `log_queue_save` and the replay print without undefined behaviour. -/
def LogLine.Printable (env : Env) (ll : LogLine) : Prop :=
  LL.perror ≤ ll.level ∧ ll.level ≤ LL.debug5 ∧ ll.message.isSome ∧ env.localtime ll.time = true

instance (env : Env) (ll : LogLine) : Decidable (ll.Printable env) :=
  inferInstanceAs (Decidable (_ ∧ _ ∧ _ ∧ _))

def LogCall.SafeFor (env : Env) (c : LogCall) : Dispatcher → Prop
  | .file => env.StampOk c.stamp
  | .queue => c.Queueable env
  | .stderr => env.StampOk c.stamp ∧ c.fmt.isSome = true

instance (env : Env) (c : LogCall) : (d : Dispatcher) → Decidable (c.SafeFor env d)
  | .file => inferInstanceAs (Decidable (env.StampOk c.stamp))
  | .queue => inferInstanceAs (Decidable (c.Queueable env))
  | .stderr => inferInstanceAs (Decidable (_ ∧ _))

/-- An operation safe for every dispatcher it can reach. -/
def Op.Safe (env : Env) : Op → Prop
  | .log c => c.SafeFor env .file ∧ c.SafeFor env .queue ∧ c.SafeFor env .stderr
  | .disp d c => c.SafeFor env d
  | .queueAdd ll => ll.Printable env
  | .setLogger _ | .queueSetMaxSize _ | .queueEmpty | .queueFlush _ | .queueSave _
  | .fileSetFilename _ | .fileSetLevel _ | .fileSetVersion _ | .fileOpen _ | .fileClose _ => True

instance (env : Env) : (op : Op) → Decidable (op.Safe env)
  | .log _ => inferInstanceAs (Decidable (_ ∧ _ ∧ _))
  | .disp d c => inferInstanceAs (Decidable (c.SafeFor env d))
  | .queueAdd ll => inferInstanceAs (Decidable (ll.Printable env))
  | .setLogger _ | .queueSetMaxSize _ | .queueEmpty | .queueFlush _ | .queueSave _
  | .fileSetFilename _ | .fileSetLevel _ | .fileSetVersion _ | .fileOpen _ | .fileClose _ =>
    isTrue trivial

section Faults
variable {env : Env} {s : State} {c : LogCall} {ll : LogLine}

theorem logQueueAdd_mem {x : LogLine} (hx : x ∈ (logQueueAdd ll s).2.queue.logQueue) :
    x ∈ s.queue.logQueue ∨ x = ll := by
  unfold logQueueAdd at hx
  split at hx
  · simpa using List.mem_of_mem_tail (l := s.queue.logQueue ++ [ll]) hx
  · simpa using hx

theorem logQueueAdd_length_le :
    (logQueueAdd ll s).2.queue.logQueue.length ≤ s.queue.logQueue.length + 1 := by
  unfold logQueueAdd
  split <;> simp

theorem queueBuffer_outside_eq_false {n : ℕ} {fmt : Printf} {level : ℤ} {e : CStr}
    (h : level = LL.perror → 0 ≤ printfRet fmt ∧ printfRet fmt ≤ n) :
    (queueBuffer n fmt level e).outside = false := by
  unfold queueBuffer
  split_ifs with hp
  · simp [h hp]
  · rfl

theorem queueRecord_level :
    (queueRecord env s c).level = if c.level = LL.perror then LL.error else c.level := by
  unfold queueRecord queueBuffer
  split_ifs <;> rfl

theorem cstr_append_ne_nil {a : CStr} (h : cstr a ≠ []) (b : CStr) : cstr (a ++ b) ≠ [] := by
  cases a with
  | nil => exact absurd rfl h
  | cons x a =>
    simp only [cstr, List.cons_append, List.takeWhile_cons] at h ⊢
    split_ifs at h ⊢ <;> simp_all

theorem printfRet_fits {fmt : Printf} {n : ℕ} (h0 : 0 ≤ printfRet fmt) (h : printfRet fmt ≤ n) :
    ∃ m, fmt = some m ∧ m.length ≤ n := by
  cases fmt with
  | none => exact absurd h0 (by decide)
  | some m =>
    simp only [printfRet] at h0 h
    split_ifs at h0 h
    · exact ⟨m, rfl, by omega⟩
    · omega

theorem queueRecord_message (hc : c.Queueable env) : (queueRecord env s c).message.isSome := by
  obtain ⟨-, -, hfit, hne, -⟩ := hc
  have hbuf : cstr (queueBuffer env.longString c.fmt c.level (env.strerror s.errno)).buf ≠ [] := by
    by_cases hp : c.level = LL.perror
    · obtain ⟨m, hm, hlen⟩ := printfRet_fits (hfit hp).1 (hfit hp).2
      rw [hp, hm, queueBuffer_perror_of_le env.longString_le hlen]
      dsimp only
      rw [List.take_append_eq_append_take]
      simp only [queuePrefix, hp, hm, if_true, Option.getD_some] at hne
      exact cstr_append_ne_nil hne _
    · have hv : vsnprintfBuf env.longString c.fmt = (c.fmt.getD []).take (env.longString - 1) := by
        cases c.fmt <;> simp [vsnprintfBuf]
      simpa [queueBuffer, hp, hv, queuePrefix] using hne
  simpa [queueRecord, muttStrStrdup, nonull] using hbuf

theorem queueRecord_printable (hclock : env.ClockOk) (hc : c.Queueable env) :
    (queueRecord env s c).Printable env := by
  have hm := queueRecord_message (s := s) hc
  obtain ⟨h1, h2, -, -, hst⟩ := hc
  refine ⟨?_, ?_, hm, ?_⟩
  · rw [queueRecord_level]
    split_ifs <;> simp only [LL.perror, LL.error] at * <;> omega
  · rw [queueRecord_level]
    split_ifs <;> simp only [LL.error, LL.debug5] at * <;> omega
  · simp only [queueRecord]
    split_ifs with h0
    · exact hclock _
    · exact hst.resolve_left h0

theorem logDispQueue_fault_of (hc : c.Queueable env) (h : s.queue.logQueueCount < INT_MAX) :
    (logDispQueue env s c).2.fault = s.fault := by
  have hq : (queueFormat env s c).queue = s.queue := by unfold queueFormat; split_ifs <;> rfl
  have hf : (queueFormat env s c).fault = s.fault := by
    unfold queueFormat
    split_ifs <;> simp [queueBuffer_outside_eq_false hc.2.2.1]
  unfold logDispQueue
  dsimp only
  rw [logQueueAdd_fault_of_lt (by split_ifs <;> simpa [hq] using h)]
  split_ifs <;> simp [hf]

theorem logDispFile_fault (hclock : env.ClockOk) (h : s.fileSink.logFileLevel ≤ LL.debug5)
    (hst : env.StampOk c.stamp) : (logDispFile env s c).2.fault = s.fault := by
  unfold logDispFile
  split
  · rfl
  · by_cases hpass : c.level < LL.perror ∨ s.fileSink.logFileLevel < c.level
    · rw [if_pos hpass]
    · rw [if_neg hpass]
      have hl := @levelAbbrAt_isNone c.level (by omega) (by omega)
      dsimp only
      split_ifs <;> simp [hl, timestamp_fault hclock hst]

theorem logDispStderr_fault (hclock : env.ClockOk) (h : s.fileSink.logFileLevel ≤ LL.debug5)
    (hst : env.StampOk c.stamp) (hfmt : c.fmt.isSome = true) :
    (logDispStderr env s c).2.fault = s.fault := by
  unfold logDispStderr
  split_ifs
  · rfl
  · obtain ⟨m, hm⟩ := Option.isSome_iff_exists.1 hfmt
    rw [stderrWrite_fault, @logDispFile_fault env _ { c with fmt := percentS (vsnprintfBuf _ c.fmt) }
      hclock (by simpa using h) hst]
    simp [hm]

theorem Sink.replay_fault (hclock : env.ClockOk) {k : Sink}
    (h : s.fileSink.logFileLevel ≤ LL.debug5) (hll : ll.Printable env) :
    (k.replay env s ll).fault = s.fault := by
  rw [Sink.replay_of_isSome hll.2.2.1]
  have hst : env.StampOk ll.replay.stamp := .inr hll.2.2.2
  cases k
  · exact logDispFile_fault hclock h hst
  · exact logDispStderr_fault hclock h hst rfl

theorem foldl_replay_fault (hclock : env.ClockOk) (k : Sink) : ∀ (lls : List LogLine) (s : State),
    s.fileSink.logFileLevel ≤ LL.debug5 → (∀ ll ∈ lls, ll.Printable env) →
      (lls.foldl (k.replay env) s).fault = s.fault
  | [], _, _, _ => rfl
  | ll :: lls, s, h, hl => by
    rw [List.foldl_cons, foldl_replay_fault hclock k lls _ (by rwa [Sink.replay_fileSink])
      (fun x hx => hl x (List.mem_cons_of_mem _ hx)), Sink.replay_fault hclock h (hl ll (by simp))]

theorem saveLine_fault (hl : ll.Printable env) {r : ℤ × State} (hr : r.1 + 1 ≤ INT_MAX) :
    (saveLine env r ll).2.fault = r.2.fault := by
  obtain ⟨h1, h2, hm, ht⟩ := hl
  obtain ⟨m, hm⟩ := Option.isSome_iff_exists.1 hm
  rw [saveLine]
  split_ifs <;> simp [levelAbbrAt_isNone h1 h2, ht, hm, show ¬INT_MAX < r.1 + 1 by omega]

theorem foldl_saveLine_fault : ∀ (lls : List LogLine) (r : ℤ × State),
    (∀ ll ∈ lls, ll.Printable env) → 0 ≤ r.1 → r.1 + lls.length ≤ INT_MAX →
      (lls.foldl (saveLine env) r).2.fault = r.2.fault
  | [], _, _, _, _ => rfl
  | ll :: lls, r, hl, h0, hn => by
    simp only [List.length_cons, Nat.cast_add, Nat.cast_one] at hn
    have h1 : (saveLine env r ll).1 = r.1 + 1 := cInt_of_le (by omega) (by omega)
    rw [List.foldl_cons, foldl_saveLine_fault lls _ (fun x hx => hl x (List.mem_cons_of_mem _ hx))
      (by rw [h1]; omega) (by rw [h1]; omega), saveLine_fault (hl ll (List.mem_cons_self _ _))
      (by omega)]

theorem logQueueSave_fault {fp : Bool} (hl : ∀ ll ∈ s.queue.logQueue, ll.Printable env)
    (hn : (s.queue.logQueue.length : ℤ) ≤ INT_MAX) : (logQueueSave env fp s).2.fault = s.fault := by
  unfold logQueueSave
  split_ifs
  · exact foldl_saveLine_fault _ _ hl (Int.le_refl 0) (by simpa using hn)
  · rfl

section Files
variable (hclock : env.ClockOk)
include hclock

theorem logFileClose_fault {v : Bool} : (logFileClose env v s).fault = s.fault := by
  unfold logFileClose
  split
  · rfl
  · split_ifs <;> simp [State.fclose, timestamp_fault hclock (.inl rfl)]

theorem logFileOpen_fault {v : Bool} : (logFileOpen env v s).2.fault = s.fault := by
  unfold logFileOpen
  split
  · rfl
  · dsimp only
    split
    · split_ifs <;> simp [logFileClose_fault hclock, timestamp_fault hclock (.inl rfl)]
    · simp [logFileClose_fault hclock]

theorem logFileSetFilename_fault {f : Option CStr} :
    (logFileSetFilename env f s).2.fault = s.fault := by
  unfold logFileSetFilename
  split_ifs
  · rfl
  · dsimp only
    split
    · rfl
    · exact logFileOpen_fault hclock

theorem logFileSetLevel_fault {l : ℤ} : (logFileSetLevel env l s).2.fault = s.fault := by
  unfold logFileSetLevel
  split_ifs
  · rfl
  · rfl
  · exact logFileClose_fault hclock
  · dsimp only
    split
    · rfl
    · exact logFileOpen_fault hclock

end Files

end Faults

/-- A defined state after `k` operations, with at most `k` records, all printable. -/
structure SafeQueue (env : Env) (k : ℕ) (s : State) : Prop where
  no_fault : s.fault = false
  printable : ∀ ll ∈ s.queue.logQueue, ll.Printable env
  length_le : s.queue.logQueue.length ≤ k

section Steps
variable {env : Env} {s t : State} {k : ℕ} {c : LogCall}

theorem SafeQueue.of_eq (h : SafeQueue env k s) (hf : t.fault = s.fault)
    (hq : t.queue.logQueue = s.queue.logQueue) : SafeQueue env (k + 1) t :=
  ⟨hf.trans h.no_fault, hq ▸ h.printable, by rw [hq]; exact Nat.le_succ_of_le h.length_le⟩

theorem SafeQueue.of_empty (h : SafeQueue env k s) (hf : t.fault = s.fault)
    (hq : t.queue.logQueue = []) : SafeQueue env (k + 1) t :=
  ⟨hf.trans h.no_fault, by simp [hq], by simp [hq]⟩

theorem SafeQueue.count_lt (h : SafeQueue env k s) (hq : CountOk s.queue)
    (hk : (k : ℤ) < INT_MAX) : s.queue.logQueueCount < INT_MAX := by
  have hl : (s.queue.logQueue.length : ℤ) ≤ k := by exact_mod_cast h.length_le
  rw [hq, cInt_of_le (by omega) (by omega)]
  omega

theorem SafeQueue.logQueueAdd {ll : LogLine} (h : SafeQueue env k s) (hq : CountOk s.queue)
    (hk : (k : ℤ) < INT_MAX) (hll : ll.Printable env) :
    SafeQueue env (k + 1) (logQueueAdd ll s).2 :=
  ⟨(logQueueAdd_fault_of_lt (h.count_lt hq hk)).trans h.no_fault,
    fun _ hx => (logQueueAdd_mem hx).elim (h.printable _) fun e => e ▸ hll,
    logQueueAdd_length_le.trans (Nat.succ_le_succ h.length_le)⟩

theorem SafeQueue.disp (hclock : env.ClockOk) (h : SafeQueue env k s) (hq : CountOk s.queue)
    (hl : s.fileSink.logFileLevel ≤ LL.debug5) (hk : (k : ℤ) < INT_MAX) (d : Dispatcher)
    (hc : c.SafeFor env d) : SafeQueue env (k + 1) (d.disp env s c).2 := by
  cases d
  · exact h.of_eq (logDispFile_fault hclock hl hc) (by rw [Dispatcher.disp, logDispFile_queue])
  · have ha := h.logQueueAdd hq hk (queueRecord_printable (s := s) hclock hc)
    refine ⟨(logDispQueue_fault_of hc (h.count_lt hq hk)).trans h.no_fault, ?_, ?_⟩ <;>
      rw [Dispatcher.disp, logDispQueue_queue]
    exacts [ha.printable, ha.length_le]
  · exact h.of_eq (logDispStderr_fault hclock hl hc.1 hc.2)
      (by rw [Dispatcher.disp, logDispStderr_queue])

theorem SafeQueue.step (hclock : env.ClockOk) (hr : Reachable env s) (h : SafeQueue env k s)
    (hk : (k : ℤ) < INT_MAX) (op : Op) (hop : op.Safe env) :
    SafeQueue env (k + 1) (step env s op) := by
  have hq := hr.queueOk.count
  have hl := hr.fileLogOk.level_le
  cases op with
  | setLogger _ => exact h.of_eq rfl rfl
  | log c =>
    show SafeQueue env (k + 1) (s.muttLogger.disp env s c).2
    cases s.muttLogger
    exacts [h.disp hclock hq hl hk .file hop.1, h.disp hclock hq hl hk .queue hop.2.1,
      h.disp hclock hq hl hk .stderr hop.2.2]
  | disp d c => exact h.disp hclock hq hl hk d hop
  | queueAdd ll => exact h.logQueueAdd hq hk hop
  | queueSetMaxSize _ => exact h.of_eq rfl rfl
  | queueEmpty => exact h.of_empty rfl rfl
  | queueFlush _ =>
    exact h.of_empty (foldl_replay_fault hclock _ _ s hl h.printable)
      (by simp [Logging.step, logQueueFlush, logQueueEmpty])
  | queueSave _ =>
    have hn : (s.queue.logQueue.length : ℤ) ≤ INT_MAX := by
      have : (s.queue.logQueue.length : ℤ) ≤ k := by exact_mod_cast h.length_le
      omega
    exact h.of_eq (logQueueSave_fault h.printable hn) (by rw [Logging.step, logQueueSave_queue])
  | fileSetFilename _ =>
    exact h.of_eq (logFileSetFilename_fault hclock)
      (by rw [Logging.step, logFileSetFilename_frame.2.1])
  | fileSetLevel _ =>
    exact h.of_eq (logFileSetLevel_fault hclock) (by rw [Logging.step, logFileSetLevel_frame.2.1])
  | fileSetVersion _ => exact h.of_eq rfl rfl
  | fileOpen _ =>
    exact h.of_eq (logFileOpen_fault hclock) (by rw [Logging.step, logFileOpen_frame.2.1])
  | fileClose _ =>
    exact h.of_eq (logFileClose_fault hclock) (by rw [Logging.step, logFileClose_frame.2.1])

theorem SafeQueue.run (hclock : env.ClockOk) : ∀ (ops : List Op) {s : State} {k : ℕ},
    Reachable env s → SafeQueue env k s → (∀ op ∈ ops, op.Safe env) →
      (k : ℤ) + ops.length ≤ INT_MAX → SafeQueue env (k + ops.length) (run env s ops)
  | [], _, _, _, h, _, _ => h
  | op :: ops, s, k, hr, h, hops, hn => by
    simp only [List.length_cons, Nat.cast_add, Nat.cast_one] at hn
    have h' := SafeQueue.run hclock ops (hr.step op)
      (h.step hclock hr (by omega) op (hops op (List.mem_cons_self _ _)))
      (fun o ho => hops o (List.mem_cons_of_mem _ ho)) (by push_cast; omega)
    rw [run_cons, List.length_cons, ← Nat.add_assoc, Nat.add_right_comm]
    exact h'

end Steps

/-- The bytes `log_queue_save` writes for one record. -/
def savedLine (env : Env) (ll : LogLine) : CStr :=
  "[".toList ++ env.timeOfDay ll.time ++ "]<".toList ++ [(levelAbbrAt ll.level).getD '\x00'] ++
    "> ".toList ++ cstr (ll.message.getD nullText) ++ if ll.level ≤ 0 then "\n".toList else []

theorem saveLine_saved {env : Env} (r : ℤ × State) (ll : LogLine) :
    (saveLine env r ll).2.saved = r.2.saved ++ savedLine env ll := by
  rw [saveLine, savedLine]
  split_ifs <;> simp

theorem foldl_saveLine_saved {env : Env} : ∀ (lls : List LogLine) (r : ℤ × State),
    (lls.foldl (saveLine env) r).2.saved = r.2.saved ++ (lls.map (savedLine env)).flatten
  | [], _ => by simp
  | ll :: lls, r => by
    rw [List.foldl_cons, foldl_saveLine_saved lls, saveLine_saved, List.map_cons,
      List.flatten_cons, List.append_assoc]

/-- After insertions into an empty queue, `log_queue_save` writes the kept records in order. -/
theorem save_writes_kept_records (env : Env) (s : State) (hs : Reachable env s)
    (hempty : s.queue.logQueue = []) (ins : List Insert)
    (hkept : ∀ ll ∈ keepLast s.queue.logQueueMax.toNat (insertedRecords env s ins),
      ll.Printable env) :
    let t := run env s (ins.map Insert.op)
    let kept := keepLast s.queue.logQueueMax.toNat (insertedRecords env s ins)
    (logQueueSave env true t).1 = cInt kept.length ∧
      (logQueueSave env true t).2.saved = t.saved ++ (kept.map (savedLine env)).flatten ∧
      ((kept.length : ℤ) ≤ INT_MAX → (logQueueSave env true t).2.fault = t.fault) := by
  have hq := @run_inserts_keepLast env ins s [] hs.queueOk (by rw [hempty, keepLast_nil])
  rw [List.nil_append] at hq
  refine ⟨by rw [logQueueSave_fst, if_pos rfl, hq], ?_, fun hn => ?_⟩
  · rw [logQueueSave, if_pos rfl, foldl_saveLine_saved, hq]
  · exact logQueueSave_fault (by rwa [hq]) (by rwa [hq])

theorem save_writes_kept_records_two :
    let s : State := run Env.quiet State.init [.queueSetMaxSize ⟨2, by decide⟩]
    let ins := [Insert.add ⟨1, none, 0, none, 0, some ['a']⟩,
      .add ⟨2, none, 0, none, 1, some ['b']⟩, .add ⟨3, none, 0, none, -1, some ['c']⟩]
    let t := run Env.quiet s (ins.map Insert.op)
    Reachable Env.quiet s ∧ s.queue.logQueue = [] ∧
      (∀ ll ∈ keepLast s.queue.logQueueMax.toNat (insertedRecords Env.quiet s ins),
        ll.Printable Env.quiet) ∧
      (logQueueSave Env.quiet true t).2.saved = t.saved ++ "[2]<1> b[3]<W> c\n".toList := by
  intro s ins t
  have hk : ∀ ll ∈ keepLast s.queue.logQueueMax.toNat (insertedRecords Env.quiet s ins),
      ll.Printable Env.quiet := by decide
  exact ⟨⟨_, rfl⟩, rfl, hk,
    (save_writes_kept_records _ s ⟨_, rfl⟩ rfl ins hk).2.1.trans rfl⟩

end NeoMutt.Logging
