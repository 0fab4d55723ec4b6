import NeoMutt.Logging.FileSink

/-! # Runs of the logging dispatcher

Every public function of `logging.c` is an operation, and `MuttLogger` routes the calls made
through it. A run applies operations in order; a state is reachable when a run from the
state at program start ends in it. The environment fixes how the C library behaves along the
whole run.
-/
namespace NeoMutt.Logging

def Dispatcher.disp (env : Env) : Dispatcher → State → LogCall → ℤ × State
  | .file => logDispFile env
  | .queue => logDispQueue env
  | .stderr => logDispStderr env

/-- A call of a public function of `logging.c`, or a change of `MuttLogger`. -/
inductive Op
  | setLogger (d : Dispatcher)
  | log (c : LogCall)
  | disp (d : Dispatcher) (c : LogCall)
  | queueAdd (ll : LogLine)
  | queueSetMaxSize (size : CInt)
  | queueEmpty
  | queueFlush (k : Sink)
  | queueSave (fp : Bool)
  | fileSetFilename (file : Option CStr)
  | fileSetLevel (level : ℤ)
  | fileSetVersion (version : Option CStr)
  | fileOpen (verbose : Bool)
  | fileClose (verbose : Bool)

def step (env : Env) (s : State) : Op → State
  | .setLogger d => { s with muttLogger := d }
  | .log c => (s.muttLogger.disp env s c).2
  | .disp d c => (d.disp env s c).2
  | .queueAdd ll => (logQueueAdd ll s).2
  | .queueSetMaxSize size => logQueueSetMaxSize size.1 s
  | .queueEmpty => logQueueEmpty s
  | .queueFlush k => logQueueFlush env k s
  | .queueSave fp => (logQueueSave env fp s).2
  | .fileSetFilename f => (logFileSetFilename env f s).2
  | .fileSetLevel l => (logFileSetLevel env l s).2
  | .fileSetVersion v => logFileSetVersion v s
  | .fileOpen v => (logFileOpen env v s).2
  | .fileClose v => logFileClose env v s

def run (env : Env) (s : State) (ops : List Op) : State := ops.foldl (step env) s

def Reachable (env : Env) (s : State) : Prop := ∃ ops, run env State.init ops = s

@[simp] theorem run_nil (env : Env) (s : State) : run env s [] = s := rfl

@[simp] theorem run_cons (env : Env) (s : State) (op : Op) (ops : List Op) :
    run env s (op :: ops) = run env (step env s op) ops := rfl

theorem run_append (env : Env) (s : State) (ops ops' : List Op) :
    run env s (ops ++ ops') = run env (run env s ops) ops' := List.foldl_append _ _ _ _

theorem Reachable.init (env : Env) : Reachable env State.init := ⟨[], rfl⟩

theorem Reachable.step {env : Env} {s : State} (h : Reachable env s) (op : Op) :
    Reachable env (step env s op) := by
  obtain ⟨ops, rfl⟩ := h
  exact ⟨ops ++ [op], by simp [run_append]⟩

theorem run_invariant {env : Env} {P : State → Prop} (hstep : ∀ s op, P s → P (step env s op))
    (ops : List Op) : ∀ s, P s → P (run env s ops) := by
  induction ops with
  | nil => exact fun _ h => h
  | cons op ops ih => exact fun s h => ih _ (hstep s op h)

/-- A property of the initial state kept by every operation holds in every reachable state. -/
theorem Reachable.invariant {env : Env} {P : State → Prop} (h0 : P State.init)
    (hstep : ∀ s op, P s → P (Logging.step env s op)) {s : State} (h : Reachable env s) :
    P s := by
  obtain ⟨ops, rfl⟩ := h
  exact run_invariant hstep ops _ h0

/-- A C library for the examples: 1024-byte buffers, a clock at 1, and no failures. -/
def Env.quiet : Env where
  longString := 1024
  longString_pos := by decide
  longString_le := by decide
  dateTime t := (toString t).toList
  timeOfDay t := (toString t).toList
  localtime _ := true
  strerror e := if e = 5 then "Input/output error".toList else "No such file or directory".toList
  strerror_cstr e := by dsimp only; split <;> decide
  stderrIsTty := false
  clock _ := 1
  fopen _ := true
  errno _ e := e

end NeoMutt.Logging
