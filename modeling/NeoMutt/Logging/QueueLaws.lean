import NeoMutt.Logging.System

/-! # The record queue over whole runs

`LogQueueCount` follows the length of `LogQueue` through every operation, wrapped to an
`int`, until the insertion of record `2^31` overflows it. From an empty queue under a fixed
limit only the oldest records are dropped. A limit lowered below the length is never reached
again: each insertion then drops one record and adds one.
-/
namespace NeoMutt.Logging

section Steps
variable {env : Env} {s : State}

theorem Dispatcher.disp_queue_cases (d : Dispatcher) (c : LogCall) :
    (d.disp env s c).2.queue = s.queue ∨
    (d.disp env s c).2.queue = (logQueueAdd (queueRecord env s c) s).2.queue := by
  cases d
  · exact .inl logDispFile_queue
  · exact .inr logDispQueue_queue
  · exact .inl logDispStderr_queue

/-- What an operation can do to the queue: nothing, an insertion, emptying it, or a limit. -/
theorem step_queue_cases (op : Op) :
    (step env s op).queue = s.queue ∨
    (∃ ll, (step env s op).queue = (logQueueAdd ll s).2.queue) ∨
    (step env s op).queue = { s.queue with logQueue := [], logQueueCount := 0 } ∨
    ∃ size : CInt,
      (step env s op).queue = { s.queue with logQueueMax := if size.1 < 0 then 0 else size.1 } := by
  cases op with
  | log c => exact (s.muttLogger.disp_queue_cases c).imp_right fun h => .inl ⟨_, h⟩
  | disp d c => exact (d.disp_queue_cases c).imp_right fun h => .inl ⟨_, h⟩
  | queueAdd ll => exact .inr (.inl ⟨ll, rfl⟩)
  | queueSetMaxSize size => exact .inr (.inr (.inr ⟨size, rfl⟩))
  | queueEmpty => exact .inr (.inr (.inl rfl))
  | queueFlush k =>
    exact .inr (.inr (.inl (by simp [step, logQueueFlush, logQueueEmpty,
      (foldl_replay_frame k s.queue.logQueue).2.2])))
  | queueSave fp => exact .inl logQueueSave_queue
  | fileSetFilename f => exact .inl logFileSetFilename_frame.2.1
  | fileSetLevel l => exact .inl logFileSetLevel_frame.2.1
  | fileOpen v => exact .inl logFileOpen_frame.2.1
  | fileClose v => exact .inl logFileClose_frame.2.1
  | setLogger d => exact .inl rfl
  | fileSetVersion v => exact .inl rfl

end Steps

/-- The count tracks the length, and the limit is a nonnegative `int`. -/
structure QueueOk (q : QueueState) : Prop where
  count : CountOk q
  max_nonneg : 0 ≤ q.logQueueMax
  max_le : q.logQueueMax ≤ INT_MAX

theorem QueueOk.init : QueueOk State.init.queue :=
  ⟨by simp [State.init, CountOk, cInt], by decide, by decide⟩

theorem QueueOk.step {env : Env} {s : State} (h : QueueOk s.queue) (op : Op) :
    QueueOk (step env s op).queue := by
  rcases @step_queue_cases env s op with h1 | ⟨ll, h1⟩ | h1 | ⟨size, h1⟩ <;> rw [h1]
  · exact h
  · exact ⟨h.count.logQueueAdd ll, by simpa using h.max_nonneg, by simpa using h.max_le⟩
  · exact ⟨by simp [CountOk, cInt], h.max_nonneg, h.max_le⟩
  · refine ⟨h.count, by dsimp only; split <;> omega, ?_⟩
    dsimp only; split
    · decide
    · exact size.2.2

theorem Reachable.queueOk {env : Env} {s : State} (h : Reachable env s) : QueueOk s.queue :=
  h.invariant (P := fun s => QueueOk s.queue) QueueOk.init fun _ op h => h.step op

theorem run_replicate_queueAdd (env : Env) (ll : LogLine) (n : ℕ) :
    ∀ s : State, s.queue.logQueueMax = 0 →
      (run env s (List.replicate n (.queueAdd ll))).queue.logQueueMax = 0 ∧
      (run env s (List.replicate n (.queueAdd ll))).queue.logQueue =
        s.queue.logQueue ++ List.replicate n ll := by
  induction n with
  | zero => simp
  | succ n ih =>
    intro s h0
    have hq : (step env s (.queueAdd ll)).queue.logQueue = s.queue.logQueue ++ [ll] := by
      simp [step, logQueueAdd, h0]
    rw [List.replicate_succ, run_cons]
    obtain ⟨h1, h2⟩ := ih (step env s (.queueAdd ll)) (by simpa [step] using h0)
    rw [h2, hq]
    exact ⟨h1, by simp [List.replicate_succ]⟩

theorem run_replicate_queueAdd_fault (env : Env) (ll : LogLine) (n : ℕ) :
    ∀ s : State, s.queue.logQueueMax = 0 → CountOk s.queue →
      (s.queue.logQueue.length : ℤ) + n ≤ INT_MAX →
      (run env s (List.replicate n (.queueAdd ll))).fault = s.fault := by
  induction n with
  | zero => simp
  | succ n ih =>
    intro s h0 hc hn
    have hlt : s.queue.logQueueCount < INT_MAX := by
      rw [hc, cInt_of_le (by omega) (by omega)]; push_cast at hn; omega
    rw [List.replicate_succ, run_cons,
      ih (step env s (.queueAdd ll)) (by simpa [step] using h0) (hc.logQueueAdd ll)
        (by simp [step, logQueueAdd, h0]; push_cast at hn; omega)]
    exact logQueueAdd_fault_of_lt hlt

/-- `LogQueueCount` counts the records up to `INT_MAX`; record `2^31` overflows it. -/
theorem queue_count_overflows (env : Env) (ops : List Op) :
    (let s : State := run env State.init ops
    (s.queue.logQueue.length ≤ INT_MAX → s.queue.logQueueCount = s.queue.logQueue.length) ∧
    (∀ ll, (logQueueAdd ll s).2.queue.logQueue.length ≤ INT_MAX →
      (logQueueAdd ll s).1 = (logQueueAdd ll s).2.queue.logQueue.length) ∧
    (logQueueSave env true s).1 = s.queue.logQueueCount ∧
    (logQueueSave env true s).2.queue = s.queue) ∧
    (let l : LogLine := ⟨1, none, 0, none, 0, some []⟩
    let u : State := run env State.init (List.replicate (2 ^ 31 - 1) (.queueAdd l))
    u.fault = false ∧ u.queue.logQueue.length = INT_MAX ∧ u.queue.logQueueCount = INT_MAX ∧
    (logQueueAdd l u).2.fault = true ∧ (logQueueAdd l u).2.queue.logQueue.length = 2 ^ 31 ∧
    (logQueueAdd l u).1 = -2 ^ 31) := by
  constructor
  · intro s
    have h : CountOk s.queue := (Reachable.queueOk ⟨ops, rfl⟩).count
    refine ⟨fun hl => h.trans (cInt_of_le (by omega) hl), fun ll hl => ?_, ?_, logQueueSave_queue⟩
    · rw [logQueueAdd_fst, h.logQueueAdd ll, cInt_of_le (by omega) hl]
    · rw [logQueueSave_fst, if_pos rfl, h]
  · intro l u
    -- name the run, so that no check of a projection of `u` computes its `2^31 - 1` steps
    have hu : u = run env State.init (List.replicate (2 ^ 31 - 1) (.queueAdd l)) := rfl
    have hr : Reachable env u := ⟨_, hu.symm⟩
    clear_value u
    obtain ⟨hmax, hq⟩ := run_replicate_queueAdd env l (2 ^ 31 - 1) State.init rfl
    have hf := run_replicate_queueAdd_fault env l (2 ^ 31 - 1) State.init rfl QueueOk.init.count
      (by simp [State.init, INT_MAX])
    rw [← hu] at hmax hq hf
    have hn : u.queue.logQueue.length = 2 ^ 31 - 1 := by
      rw [hq, List.length_append, List.length_replicate]; exact Nat.zero_add _
    have hl : (u.queue.logQueue.length : ℤ) = INT_MAX := by rw [hn]; rfl
    have hc : u.queue.logQueueCount = INT_MAX := by
      rw [hr.queueOk.count, hl]; decide
    obtain ⟨h1, h2, h3⟩ := @logQueueAdd_overflow l u hmax hc
    refine ⟨hf, hl, hc, h1, ?_, h2⟩
    rw [h3, List.length_append, hn, List.length_singleton]
    exact Nat.sub_add_cancel Nat.one_le_two_pow

theorem queue_over_lowered_limit :
    let l : LogLine := ⟨1, none, 0, none, 0, some []⟩
    let s : State := run Env.quiet State.init
      [.queueAdd l, .queueAdd l, .queueAdd l, .queueSetMaxSize ⟨1, by decide⟩, .queueAdd l]
    s.queue.logQueueMax = 1 ∧ s.queue.logQueueCount = 3 ∧ s.queue.logQueue.length = 3 := by
  decide

/-- An operation that may insert into the queue. -/
inductive Insert
  | add (ll : LogLine)
  | disp (c : LogCall)
  | log (c : LogCall)

def Insert.op : Insert → Op
  | .add ll => .queueAdd ll
  | .disp c => .disp .queue c
  | .log c => .log c

def Insert.records (env : Env) (s : State) : Insert → List LogLine
  | .add ll => [ll]
  | .disp c => [queueRecord env s c]
  | .log c => if s.muttLogger = .queue then [queueRecord env s c] else []

def insertedRecords (env : Env) : State → List Insert → List LogLine
  | _, [] => []
  | s, i :: is => i.records env s ++ insertedRecords env (step env s i.op) is

section Inserts
variable {env : Env} {s : State} {rs : List LogLine}

theorem QueueOk.add_keepLast (hs : QueueOk s.queue)
    (hq : s.queue.logQueue = keepLast s.queue.logQueueMax.toNat rs) (ll : LogLine) :
    (logQueueAdd ll s).2.queue.logQueueMax = s.queue.logQueueMax ∧
    (logQueueAdd ll s).2.queue.logQueue = keepLast s.queue.logQueueMax.toNat (rs ++ [ll]) :=
  ⟨logQueueAdd_logQueueMax, logQueueAdd_keepLast hs.count hs.max_nonneg hs.max_le hq ll⟩

/-- One insertion keeps the queue the last `LogQueueMax` records added, under the same limit. -/
theorem Insert.step_keepLast (hs : QueueOk s.queue)
    (hq : s.queue.logQueue = keepLast s.queue.logQueueMax.toNat rs) (i : Insert) :
    (step env s i.op).queue.logQueueMax = s.queue.logQueueMax ∧
    (step env s i.op).queue.logQueue = keepLast s.queue.logQueueMax.toNat (rs ++ i.records env s) := by
  cases i with
  | add ll => exact QueueOk.add_keepLast hs hq ll
  | disp c =>
    show (logDispQueue env s c).2.queue.logQueueMax = _ ∧ (logDispQueue env s c).2.queue.logQueue = _
    rw [logDispQueue_queue]
    exact QueueOk.add_keepLast hs hq _
  | log c =>
    show (s.muttLogger.disp env s c).2.queue.logQueueMax = _ ∧
      (s.muttLogger.disp env s c).2.queue.logQueue = _
    cases hd : s.muttLogger
    · simp only [Dispatcher.disp, logDispFile_queue, Insert.records, hd, reduceCtorEq, if_false,
        List.append_nil, hq, and_self]
    · simp only [Dispatcher.disp, logDispQueue_queue, Insert.records, hd, if_true]
      exact QueueOk.add_keepLast hs hq _
    · simp only [Dispatcher.disp, logDispStderr_queue, Insert.records, hd, reduceCtorEq, if_false,
        List.append_nil, hq, and_self]

theorem run_inserts_keepLast (ins : List Insert) : ∀ (s : State) (rs : List LogLine),
    QueueOk s.queue → s.queue.logQueue = keepLast s.queue.logQueueMax.toNat rs →
    (run env s (ins.map Insert.op)).queue.logQueue =
      keepLast s.queue.logQueueMax.toNat (rs ++ insertedRecords env s ins) := by
  induction ins with
  | nil => simp [insertedRecords]
  | cons i is ih =>
    intro s rs hs hq
    obtain ⟨hmax, hstep⟩ := @Insert.step_keepLast env s rs hs hq i
    rw [List.map_cons, run_cons, ih _ _ (hs.step _) (by rw [hstep, hmax]), hmax]
    simp [insertedRecords]

end Inserts

/-- From an empty queue, insertions under the limit `N` leave the last `N` records in order. -/
theorem queue_keeps_latest (env : Env) (s : State) (hs : Reachable env s)
    (hempty : s.queue.logQueue = []) (ins : List Insert) :
    (run env s (ins.map Insert.op)).queue.logQueue =
      keepLast s.queue.logQueueMax.toNat (insertedRecords env s ins) :=
  run_inserts_keepLast ins s [] hs.queueOk (by rw [hempty, keepLast_nil])

theorem queue_keeps_latest_two :
    let s : State := run Env.quiet State.init [.queueSetMaxSize ⟨2, by decide⟩]
    let ins := [Insert.add ⟨1, none, 0, none, 0, some ['a']⟩, .add ⟨2, none, 0, none, 0, some ['b']⟩,
      .add ⟨3, none, 0, none, 0, some ['c']⟩]
    Reachable Env.quiet s ∧ s.queue.logQueue = [] ∧
      (run Env.quiet s (ins.map Insert.op)).queue.logQueue =
        keepLast s.queue.logQueueMax.toNat (insertedRecords Env.quiet s ins) :=
  by intro s ins; exact ⟨⟨_, rfl⟩, rfl, queue_keeps_latest _ s ⟨_, rfl⟩ rfl ins⟩

end NeoMutt.Logging
