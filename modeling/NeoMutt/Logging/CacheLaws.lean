import NeoMutt.Logging.System

/-! # The cache of `timestamp`

`timestamp` keeps, in two statics, the last time it formatted and the text it made (lines
97-109). The cache holds the formatting of the time beside it, or the initial empty text with
the time 0, and every public operation keeps this. So in every reachable state a nonzero
stamp comes back formatted as itself: a dispatcher never prints the time of an earlier call.
-/
namespace NeoMutt.Logging

section Cache
variable {env : Env} {s t : State} {c : LogCall} {st : ℤ}

theorem TsCacheOk.of_cache (h : TsCacheOk env s) (hc : t.cache = s.cache) : TsCacheOk env t := by
  unfold TsCacheOk
  rw [hc]
  exact h

/-- The time `timestamp(stamp)` formats: the stamp, or `time(NULL)` when it is 0 (line 101). -/
def effectiveTime (env : Env) (s : State) (stamp : ℤ) : ℤ :=
  if stamp = 0 then env.clock s.calls else stamp

theorem timestampAt_of_ne {t : ℤ} (h : TsCacheOk env s) (ht : t ≠ 0) :
    (timestampAt env t s).1 = env.dateTime t := by
  unfold timestampAt
  split_ifs with hne
  · rfl
  · rcases h with h | ⟨h0, -⟩
    · rw [h, not_not.1 hne]
    · exact absurd ((not_not.1 hne).trans h0) ht

theorem timestamp_effective (h : TsCacheOk env s) (ht : effectiveTime env s st ≠ 0) :
    (timestamp env s st).1 = env.dateTime (effectiveTime env s st) := by
  unfold timestamp effectiveTime at *
  split_ifs at ht ⊢
  · exact timestampAt_of_ne (h.of_cache rfl) ht
  · exact timestampAt_of_ne h ht

theorem timestamp_of_ne (h : TsCacheOk env s) (hst : st ≠ 0) :
    (timestamp env s st).1 = env.dateTime st := by
  have he : effectiveTime env s st = st := if_neg hst
  rw [timestamp_effective h (by rw [he]; exact hst), he]

theorem TsCacheOk.timestamp (h : TsCacheOk env s) : TsCacheOk env (timestamp env s st).2 := by
  unfold Logging.timestamp timestampAt
  split_ifs <;> first | exact .inl rfl | exact h

end Cache

section Ops
variable {env : Env} {s : State} {c : LogCall}

theorem TsCacheOk.logDispFile (h : TsCacheOk env s) : TsCacheOk env (logDispFile env s c).2 := by
  have ht := @TsCacheOk.timestamp env s c.stamp h
  unfold Logging.logDispFile
  split
  · exact h
  · split_ifs
    · exact h
    all_goals
      unfold TsCacheOk at ht ⊢
      simpa only [State.fwrite, State.libc, State.readLevelAbbr_snd_eq, State.ub] using ht

theorem TsCacheOk.logDispStderr (h : TsCacheOk env s) : TsCacheOk env (logDispStderr env s c).2 := by
  unfold Logging.logDispStderr
  split_ifs
  · exact h
  · exact (TsCacheOk.logDispFile
      (h.of_cache (t := (s.libc env).ub c.fmt.isNone) rfl)).of_cache stderrWrite_cache

theorem TsCacheOk.disp (h : TsCacheOk env s) (d : Dispatcher) :
    TsCacheOk env (d.disp env s c).2 := by
  cases d
  · exact h.logDispFile
  · exact h.of_cache logDispQueue_cache
  · exact h.logDispStderr

theorem TsCacheOk.logQueueFlush (h : TsCacheOk env s) (k : Sink) :
    TsCacheOk env (logQueueFlush env k s) := by
  unfold Logging.logQueueFlush
  suffices hf : ∀ (lls : List LogLine) (s : State), TsCacheOk env s →
      TsCacheOk env (lls.foldl (k.replay env) s) from
    (hf _ s h).of_cache rfl
  intro lls
  induction lls with
  | nil => exact fun _ hs => hs
  | cons ll lls ih =>
    intro s hs
    have hs' := hs.of_cache (t := s.ub (ll.message.isNone && k.reads s ll.level)) rfl
    cases k
    · exact ih _ hs'.logDispFile
    · exact ih _ hs'.logDispStderr

theorem TsCacheOk.logFileClose (h : TsCacheOk env s) (v : Bool) :
    TsCacheOk env (logFileClose env v s) := by
  unfold Logging.logFileClose
  split
  · exact h
  · exact (@TsCacheOk.timestamp env s 0 h).of_cache (by dsimp only; split_ifs <;> rfl)

theorem TsCacheOk.logFileOpen (h : TsCacheOk env s) (v : Bool) :
    TsCacheOk env (logFileOpen env v s).2 := by
  have hc := h.logFileClose false
  unfold Logging.logFileOpen
  split
  · exact h
  · dsimp only
    split
    · split_ifs <;> simp only [TsCacheOk, State.notice, State.fwrite, State.libc] <;>
        exact TsCacheOk.timestamp (hc.of_cache rfl)
    · exact hc.of_cache rfl

theorem TsCacheOk.logFileSetFilename (h : TsCacheOk env s) (f : Option CStr) :
    TsCacheOk env (logFileSetFilename env f s).2 := by
  unfold Logging.logFileSetFilename
  split_ifs
  · exact h
  · dsimp only
    split
    · exact h.of_cache rfl
    · exact (h.of_cache (t := { s with fileSink.logFileName := muttStrStrdup f }) rfl).logFileOpen true

theorem TsCacheOk.logFileSetLevel (h : TsCacheOk env s) (l : ℤ) :
    TsCacheOk env (logFileSetLevel env l s).2 := by
  have h' := h.of_cache (t := { s with fileSink.logFileLevel := l }) rfl
  unfold Logging.logFileSetLevel
  split_ifs
  · exact h
  · exact h
  · exact h'.logFileClose true
  · dsimp only
    split
    · exact h.of_cache rfl
    · exact h'.logFileOpen true

theorem TsCacheOk.step (h : TsCacheOk env s) (op : Op) : TsCacheOk env (step env s op) := by
  cases op with
  | setLogger d => exact h.of_cache rfl
  | log c => exact h.disp _
  | disp d c => exact h.disp d
  | queueAdd ll =>
    obtain ⟨q, f, hq⟩ := @logQueueAdd_frame ll s
    exact h.of_cache (by rw [Logging.step, hq])
  | queueSetMaxSize size => exact h.of_cache rfl
  | queueEmpty => exact h.of_cache rfl
  | queueFlush k => exact h.logQueueFlush k
  | queueSave fp =>
    obtain ⟨sv, e, n, f, hq⟩ := @logQueueSave_frame env s fp
    exact h.of_cache (by rw [Logging.step, hq])
  | fileSetFilename f => exact h.logFileSetFilename f
  | fileSetLevel l => exact h.logFileSetLevel l
  | fileSetVersion v => exact h.of_cache rfl
  | fileOpen v => exact h.logFileOpen v
  | fileClose v => exact h.logFileClose v

end Ops

theorem Reachable.tsCacheOk {env : Env} {s : State} (h : Reachable env s) : TsCacheOk env s :=
  h.invariant (P := TsCacheOk env) (.inr ⟨rfl, rfl⟩) fun _ op hs => hs.step op

/-- A call of `timestamp` itself, or a public operation with the calls of `timestamp` it makes. -/
inductive TsEvent
  | call (stamp : ℤ)
  | op (o : Op)

def TsEvent.apply (env : Env) (s : State) : TsEvent → State
  | .call stamp => (timestamp env s stamp).2
  | .op o => step env s o

theorem TsCacheOk.foldl_apply {env : Env} (evs : List TsEvent) :
    ∀ {s : State}, TsCacheOk env s → TsCacheOk env (evs.foldl (TsEvent.apply env) s) := by
  induction evs with
  | nil => exact fun h => h
  | cons ev evs ih =>
    intro s h
    cases ev with
    | call stamp => exact ih h.timestamp
    | op o => exact ih (h.step o)

end NeoMutt.Logging
