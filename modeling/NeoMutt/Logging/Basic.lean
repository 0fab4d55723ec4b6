import Mathlib.Data.List.Basic
import Mathlib.Algebra.Group.Int

/-! # C strings, levels and the state of the logging dispatcher

`logging.c` keeps its state in globals: the active dispatcher, the log file and its
settings, the record queue, and the static cache of `timestamp`. The model puts them in
one record with what the code changes outside itself: the streams `fopen` returned, stderr,
`errno`, and the number of C library calls made so far, by which an environment decides
what each call does. Undefined behaviour is recorded in a flag, after which the model
carries on with the value glibc gives or, where there is none, some value.
-/
namespace NeoMutt.Logging

abbrev CStr := List Char

/-- What `%s`, `fputs` and `strdup` read of a `char` array: the bytes before the first NUL. -/
def cstr (b : CStr) : CStr := b.takeWhile (· != '\x00')

theorem cstr_eq_self {b : CStr} (h : '\x00' ∉ b) : cstr b = b :=
  List.takeWhile_eq_self_iff.mpr fun c hc => by simpa using ne_of_mem_of_not_mem hc h

@[simp] theorem cstr_cstr (b : CStr) : cstr (cstr b) = cstr b := List.takeWhile_idem

theorem nul_not_mem_cstr (b : CStr) : '\x00' ∉ cstr b := fun h => by
  simpa using List.mem_takeWhile_imp h

/-- `NONULL(s)` read as a C string: NULL reads as `""`. -/
def nonull (s : Option CStr) : CStr := cstr (s.getD [])

/-- `mutt_str_strdup` (`mutt/string.c`, not under src/): NULL for NULL and for `""`. -/
def muttStrStrdup (s : Option CStr) : Option CStr := if nonull s = [] then none else some (nonull s)

theorem muttStrStrdup_of_cstr {b : CStr} (h0 : '\x00' ∉ b) (hne : b ≠ []) :
    muttStrStrdup (some b) = some b := by
  simp [muttStrStrdup, nonull, cstr_eq_self h0, hne]

@[simp] theorem nonull_muttStrStrdup (s : Option CStr) : nonull (muttStrStrdup s) = nonull s := by
  unfold muttStrStrdup
  split_ifs with h
  · exact h.symm
  · simp [nonull]

def INT_MAX : ℤ := 2 ^ 31 - 1

/-- The 32-bit `int` an integer wraps to. -/
def cInt (x : ℤ) : ℤ := (x + 2 ^ 31) % 2 ^ 32 - 2 ^ 31

theorem cInt_of_le {x : ℤ} (h0 : 0 ≤ x) (h : x ≤ INT_MAX) : cInt x = x := by
  unfold cInt INT_MAX at *
  rw [Int.emod_eq_of_lt (by omega) (by omega)]
  omega

theorem cInt_succ_cInt (x : ℤ) : cInt (cInt x + 1) = cInt (x + 1) := by
  unfold cInt
  omega

def CInt := {n : ℤ // -2 ^ 31 ≤ n ∧ n ≤ INT_MAX}

/-- The levels of `enum LogLevel`; `logging.h` is not under src/. -/
def LL.perror : ℤ := -3
def LL.error : ℤ := -2
def LL.warning : ℤ := -1
def LL.message : ℤ := 0
def LL.debug1 : ℤ := 1
def LL.debug5 : ℤ := 5

/-- `LevelAbbr`, the abbreviations of the level names, indexed by `level + 3`. -/
def levelAbbr : CStr := "PEWM12345".toList

/-- `LevelAbbr[level + 3]`, or `none` when the index leaves the literal and its NUL. -/
def levelAbbrAt (level : ℤ) : Option Char :=
  if level + 3 < 0 then none else (levelAbbr ++ ['\x00'])[(level + 3).toNat]?

theorem levelAbbrAt_of_mem {level : ℤ} (h0 : LL.perror ≤ level) (h : level ≤ LL.debug5) :
    levelAbbrAt level = levelAbbr[(level + 3).toNat]? := by
  unfold levelAbbrAt
  rw [if_neg (by unfold LL.perror at h0; omega), List.getElem?_append_left]
  simp only [levelAbbr, LL.debug5] at *
  simp only [List.length, String.toList]
  omega

theorem levelAbbrAt_isNone {level : ℤ} (h0 : LL.perror ≤ level) (h : level ≤ LL.debug5) :
    (levelAbbrAt level).isNone = false := by
  rw [levelAbbrAt_of_mem h0 h]
  cases hc : levelAbbr[(level + 3).toNat]? with
  | none =>
    rw [List.getElem?_eq_none_iff] at hc
    simp only [levelAbbr, LL.perror, LL.debug5, List.length, String.toList] at *
    omega
  | some _ => rfl

/-- `LONG_STRING` and the C library, the `n`-th library call of a run reading `clock n`. -/
structure Env where
  longString : ℕ
  longString_pos : 0 < longString
  longString_le : longString ≤ INT_MAX
  /-- `strftime` with `"%Y-%m-%d %H:%M:%S"` of `localtime(t)`. -/
  dateTime : ℤ → CStr
  /-- `strftime` with `"%H:%M:%S"` of `localtime(t)`. -/
  timeOfDay : ℤ → CStr
  /-- `localtime(&t)` is not NULL: the year of `t` fits an `int` in the time zone. -/
  localtime : ℤ → Bool
  strerror : ℤ → CStr
  strerror_cstr : ∀ e, '\x00' ∉ strerror e
  /-- `isatty(fileno(stderr)) == 1`. -/
  stderrIsTty : Bool
  clock : ℕ → ℤ
  fopen : ℕ → Bool
  errno : ℕ → ℤ → ℤ

structure Handle where
  name : CStr
  text : CStr
  closed : Bool
  deriving DecidableEq, Repr

/-- `struct LogLine`; a NULL `message` is `none`. -/
structure LogLine where
  time : ℤ
  file : Option CStr
  line : ℤ
  function : Option CStr
  level : ℤ
  message : Option CStr
  deriving DecidableEq, Repr

/-- A format expanded with its arguments, or `none` when `vsnprintf` fails. -/
abbrev Printf := Option CStr

def percentS (m : CStr) : Printf := some (cstr m)

/-- The arguments of a `log_dispatcher_t` call. -/
structure LogCall where
  stamp : ℤ
  file : Option CStr
  line : ℤ
  function : Option CStr
  level : ℤ
  fmt : Printf

inductive Dispatcher
  | file
  | queue
  | stderr
  deriving DecidableEq, Repr

/-- A confirmation passed to `mutt_message` (`message.h`, not under src/). -/
inductive Notice
  | loggingAtLevel (level : ℤ)
  | closedLogFile (name : Option CStr)
  | debuggingAtLevel (level : ℤ) (name : Option CStr)
  deriving DecidableEq, Repr

structure FileSink where
  logFileFP : Option ℕ
  logFileName : Option CStr
  logFileLevel : ℤ
  logFileVersion : Option CStr

structure QueueState where
  logQueue : List LogLine
  logQueueCount : ℤ
  logQueueMax : ℤ

structure TimestampCache where
  buf : CStr
  last : ℤ

/-- The globals of `logging.c`, the cache of `timestamp`, and the outside world. -/
structure State where
  muttLogger : Dispatcher
  fileSink : FileSink
  queue : QueueState
  cache : TimestampCache
  /-- Every stream `fopen` has returned; `logFileFP` is an index into it. -/
  files : List Handle
  stderr : CStr
  /-- The stream given to `log_queue_save`. -/
  saved : CStr
  notices : List Notice
  errno : ℤ
  calls : ℕ
  /-- Whether undefined behaviour has happened. -/
  fault : Bool

def State.init : State where
  muttLogger := .stderr
  fileSink := ⟨none, none, 0, none⟩
  queue := ⟨[], 0, 0⟩
  cache := ⟨[], 0⟩
  files := []
  stderr := []
  saved := []
  notices := []
  errno := 0
  calls := 0
  fault := false

/-- One call into the C library, which may overwrite `errno`. -/
@[simp] def State.libc (env : Env) (s : State) : State :=
  { s with errno := env.errno s.calls s.errno, calls := s.calls + 1 }

def appendText (h : ℕ) (t : CStr) (fs : List Handle) : List Handle :=
  fs.modify (fun f => { f with text := f.text ++ t }) h

@[simp] def State.fwrite (env : Env) (fp : ℕ) (t : CStr) (s : State) : State :=
  { s with files := appendText fp t s.files }.libc env

@[simp] def State.ewrite (env : Env) (t : CStr) (s : State) : State :=
  { s with stderr := s.stderr ++ t }.libc env

@[simp] def State.swrite (env : Env) (t : CStr) (s : State) : State :=
  { s with saved := s.saved ++ t }.libc env

@[simp] def State.notice (n : Notice) (s : State) : State := { s with notices := s.notices ++ [n] }

/-- Undefined behaviour, when `b` holds. -/
@[simp] def State.ub (b : Bool) (s : State) : State := { s with fault := s.fault || b }

/-- Read `LevelAbbr[level + 3]`; a read outside the literal is undefined behaviour. -/
def State.readLevelAbbr (s : State) (level : ℤ) : Char × State :=
  match levelAbbrAt level with
  | some c => (c, s)
  | none => ('\x00', s.ub true)

theorem appendText_appendText (h : ℕ) (t u : CStr) (fs : List Handle) :
    appendText h u (appendText h t fs) = appendText h (t ++ u) fs := by
  simp only [appendText, List.modify_modify_eq, Function.comp_def, List.append_assoc]

@[simp] theorem length_appendText (h : ℕ) (t : CStr) (fs : List Handle) :
    (appendText h t fs).length = fs.length := List.length_modify _ _ _

section Frame
variable {s : State} {l : ℤ}

@[simp] theorem State.ub_false : s.ub false = s := by simp

@[simp] theorem State.readLevelAbbr_fst : (s.readLevelAbbr l).1 = (levelAbbrAt l).getD '\x00' := by
  unfold State.readLevelAbbr; split <;> simp_all

@[simp] theorem State.readLevelAbbr_snd_eq :
    (s.readLevelAbbr l).2 = s.ub (levelAbbrAt l).isNone := by
  unfold State.readLevelAbbr; split <;> simp_all

end Frame

/-- Lines 103-109 of `timestamp`; a NULL from `localtime` given to `strftime` is a fault. -/
def timestampAt (env : Env) (t : ℤ) (s : State) : CStr × State :=
  if t ≠ s.cache.last then
    (env.dateTime t, ({ s with cache := ⟨env.dateTime t, t⟩ }.libc env).ub !(env.localtime t))
  else (s.cache.buf, s)

/-- `timestamp`: the formatted `stamp`, or the current time when `stamp` is 0. -/
def timestamp (env : Env) (s : State) (stamp : ℤ) : CStr × State :=
  if stamp = 0 then timestampAt env (env.clock s.calls) (s.libc env) else timestampAt env stamp s

/-- Every reading of the clock is a time `localtime` converts. -/
def Env.ClockOk (env : Env) : Prop := ∀ n, env.localtime (env.clock n) = true

/-- A stamp `timestamp` formats without a NULL from `localtime`. -/
def Env.StampOk (env : Env) (st : ℤ) : Prop := st = 0 ∨ env.localtime st = true

instance (env : Env) (st : ℤ) : Decidable (env.StampOk st) := inferInstanceAs (Decidable (_ ∨ _))

section Frame
variable {env : Env} {s : State} {st t : ℤ}

theorem timestamp_frame : ∃ c e n f,
    (timestamp env s st).2 = { s with cache := c, errno := e, calls := n, fault := f } := by
  unfold timestamp timestampAt
  split_ifs <;> exact ⟨_, _, _, _, rfl⟩

@[simp] theorem timestamp_fileSink : (timestamp env s st).2.fileSink = s.fileSink := by
  obtain ⟨_, _, _, _, h⟩ := @timestamp_frame env s st; rw [h]
@[simp] theorem timestamp_queue : (timestamp env s st).2.queue = s.queue := by
  obtain ⟨_, _, _, _, h⟩ := @timestamp_frame env s st; rw [h]
@[simp] theorem timestamp_files : (timestamp env s st).2.files = s.files := by
  obtain ⟨_, _, _, _, h⟩ := @timestamp_frame env s st; rw [h]
@[simp] theorem timestamp_stderr : (timestamp env s st).2.stderr = s.stderr := by
  obtain ⟨_, _, _, _, h⟩ := @timestamp_frame env s st; rw [h]
@[simp] theorem timestamp_muttLogger : (timestamp env s st).2.muttLogger = s.muttLogger := by
  obtain ⟨_, _, _, _, h⟩ := @timestamp_frame env s st; rw [h]
@[simp] theorem timestamp_saved : (timestamp env s st).2.saved = s.saved := by
  obtain ⟨_, _, _, _, h⟩ := @timestamp_frame env s st; rw [h]

theorem timestampAt_fault (ht : env.localtime t = true) :
    (timestampAt env t s).2.fault = s.fault := by
  unfold timestampAt
  split_ifs <;> simp [ht]

theorem timestamp_fault (hclock : env.ClockOk) (hst : env.StampOk st) :
    (timestamp env s st).2.fault = s.fault := by
  unfold timestamp
  split_ifs with h0
  · exact timestampAt_fault (hclock _)
  · exact timestampAt_fault (hst.resolve_left h0)

end Frame

/-- The cache holds the formatting of `last`, or is still empty with `last` = 0. -/
def TsCacheOk (env : Env) (s : State) : Prop :=
  s.cache.buf = env.dateTime s.cache.last ∨ (s.cache.last = 0 ∧ s.cache.buf = [])

end NeoMutt.Logging
