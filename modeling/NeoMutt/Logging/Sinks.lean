import NeoMutt.Logging.Queue

/-! # The three dispatchers, replay and save

`log_disp_file` and `log_disp_stderr` filter by level and write at once; `log_disp_queue`
formats into a buffer of `LONG_STRING` bytes and queues a record, which `log_queue_flush`
later replays through one of the other two with the format `"%s"`. `mutt_str_strdup` makes a
NULL message of an empty buffer, and the replay and `log_queue_save` pass it to `"%s"`:
undefined behaviour, which glibc prints as `(null)`.
-/
namespace NeoMutt.Logging

/-- What `vsnprintf` and `vfprintf` return: the length, or -1 when it fails or overflows. -/
def printfRet : Printf → ℤ
  | some m => if (m.length : ℤ) ≤ INT_MAX then m.length else -1
  | none => -1

def vsnprintfBuf (n : ℕ) : Printf → CStr
  | some m => m.take (n - 1)
  | none => []

/-- The header `"[%s]<%c> %s() "`; a NULL function is `UNKNOWN`. -/
def fileHeader (ts : CStr) (letter : Char) (function : Option CStr) : CStr :=
  "[".toList ++ ts ++ "]<".toList ++ [letter] ++ "> ".toList ++
    function.getD "UNKNOWN".toList ++ "() ".toList

/-- `log_disp_file`; `ret = vfprintf(...)` drops the count of the header. -/
def logDispFile (env : Env) (s : State) (c : LogCall) : ℤ × State :=
  match s.fileSink.logFileFP with
  | none => (0, s)
  | some fp =>
    if c.level < LL.perror ∨ s.fileSink.logFileLevel < c.level then (0, s) else
    let err := s.errno
    let ts := timestamp env s c.stamp
    let abbr := ts.2.readLevelAbbr c.level
    let s := (abbr.2.fwrite env fp (fileHeader ts.1 abbr.1 c.function)).fwrite env fp (c.fmt.getD [])
    if c.level = LL.perror then
      (printfRet c.fmt, s.fwrite env fp (": ".toList ++ env.strerror err ++ "\n".toList))
    else if c.level ≤ 0 then (printfRet c.fmt + 1, s.fwrite env fp "\n".toList)
    else (printfRet c.fmt, s)

def fileEnding (level : ℤ) (errText : CStr) : CStr :=
  if level = LL.perror then ": ".toList ++ errText ++ "\n".toList
  else if level ≤ 0 then "\n".toList else []

def fileLine (ts : CStr) (level : ℤ) (function : Option CStr) (m errText : CStr) : CStr :=
  fileHeader ts ((levelAbbrAt level).getD '\x00') function ++ m ++ fileEnding level errText

/-- `log_disp_file` appends one line, with the error text of the `errno` found on entry. -/
theorem logDispFile_files (env : Env) (s : State) (c : LogCall) :
    (logDispFile env s c).2.files =
      match s.fileSink.logFileFP with
      | none => s.files
      | some fp =>
        if c.level < LL.perror ∨ s.fileSink.logFileLevel < c.level then s.files
        else appendText fp (fileLine (timestamp env s c.stamp).1 c.level c.function
          (c.fmt.getD []) (env.strerror s.errno)) s.files := by
  unfold logDispFile
  split
  · rfl
  · split_ifs <;> simp [appendText_appendText, fileLine, fileEnding, *]

/-- `log_disp_file` counts the message and the newline, not the header or the error text. -/
theorem logDispFile_fst (env : Env) (s : State) (c : LogCall) :
    (logDispFile env s c).1 =
      match s.fileSink.logFileFP with
      | none => 0
      | some _ =>
        if c.level < LL.perror ∨ s.fileSink.logFileLevel < c.level then 0
        else printfRet c.fmt + if c.level ≠ LL.perror ∧ c.level ≤ 0 then 1 else 0 := by
  unfold logDispFile
  split
  · rfl
  · split_ifs <;> simp_all

def sizeSub (n : ℕ) (ret : ℤ) : ℕ := ((n - ret) % 2 ^ 64).toNat

def snprintfAt (off size : ℕ) (b text : CStr) : CStr :=
  if size = 0 then b else b.take off ++ text.take (size - 1)

/-- Lines 395-408 of `log_disp_queue`; `outside` is whether `buf + ret` leaves the buffer. -/
structure QueueBuffer where
  ret : ℤ
  buf : CStr
  level : ℤ
  outside : Bool

def queueBuffer (n : ℕ) (fmt : Printf) (level : ℤ) (errText : CStr) : QueueBuffer :=
  let ret := printfRet fmt
  let buf := vsnprintfBuf n fmt
  if level = LL.perror then
    let text := ": ".toList ++ errText
    { ret := ret + text.length, level := LL.error, outside := !decide (0 ≤ ret ∧ ret ≤ n),
      buf := if 0 ≤ ret ∧ ret ≤ n then snprintfAt ret.toNat (sizeSub n ret) buf text else buf }
  else { ret, buf, level, outside := false }

theorem printfRet_some {m : CStr} (h : (m.length : ℤ) ≤ INT_MAX) : printfRet (some m) = m.length :=
  if_pos h

theorem sizeSub_of_le {n : ℕ} {ret : ℤ} (h0 : 0 ≤ ret) (h : ret ≤ n) (hn : (n : ℤ) ≤ INT_MAX) :
    sizeSub n ret = n - ret.toNat := by
  unfold sizeSub INT_MAX at *
  rw [Int.emod_eq_of_lt (by omega) (by omega)]
  omega

/-- An `LL_PERROR` expansion that fits is followed by `": "` and the error text, cut to `n - 1`
bytes, at the level `LL_ERROR`. -/
theorem queueBuffer_perror_of_le {n : ℕ} {m e : CStr} (hn : (n : ℤ) ≤ INT_MAX) (hm : m.length ≤ n) :
    queueBuffer n (some m) LL.perror e =
      ⟨m.length + (": ".toList ++ e).length, (m ++ ": ".toList ++ e).take (n - 1), LL.error,
        false⟩ := by
  have hr : printfRet (some m) = m.length := printfRet_some (by omega)
  have hin : 0 ≤ (m.length : ℤ) ∧ (m.length : ℤ) ≤ n := ⟨by omega, by omega⟩
  unfold queueBuffer
  rw [if_pos rfl]
  dsimp only
  rw [hr, if_pos hin, decide_eq_true hin, sizeSub_of_le hin.1 hin.2 hn]
  simp only [Int.toNat_ofNat, snprintfAt, vsnprintfBuf, List.append_assoc, Bool.not_true]
  congr 1
  split_ifs with h0
  · rw [List.take_append_of_le_length (by omega)]
  · rw [List.take_take, min_eq_left (by omega), List.take_length,
      show n - 1 = m.length + (n - m.length - 1) by omega, List.take_append]

theorem queueBuffer_perror_outside {n : ℕ} {fmt : Printf} {e : CStr}
    (h : ∀ m, fmt = some m → n < m.length) : (queueBuffer n fmt LL.perror e).outside = true := by
  unfold queueBuffer
  rw [if_pos rfl]
  cases fmt with
  | none => simp [printfRet]
  | some m =>
    have := h m rfl
    simp only [printfRet]
    split_ifs <;> simp; omega

def queueFormat (env : Env) (s : State) (c : LogCall) : State :=
  let s' := (s.libc env).ub (queueBuffer env.longString c.fmt c.level (env.strerror s.errno)).outside
  if c.level = LL.perror then s'.libc env else s'

/-- The record `log_disp_queue` builds in the state `s`. -/
def queueRecord (env : Env) (s : State) (c : LogCall) : LogLine :=
  let q := queueBuffer env.longString c.fmt c.level (env.strerror s.errno)
  ⟨if c.stamp = 0 then env.clock (queueFormat env s c).calls else c.stamp, c.file, c.line,
    c.function, q.level, muttStrStrdup (some q.buf)⟩

def logDispQueue (env : Env) (s : State) (c : LogCall) : ℤ × State :=
  let s' := queueFormat env s c
  ((queueBuffer env.longString c.fmt c.level (env.strerror s.errno)).ret,
    (logQueueAdd (queueRecord env s c) (if c.stamp = 0 then s'.libc env else s')).2)

def levelColour (level : ℤ) : ℕ :=
  if level = LL.perror ∨ level = LL.error then 31 else if level = LL.warning then 33 else 0

def colourOn (colour : ℕ) : CStr := "\x1b[1;".toList ++ (toString colour).toList ++ "m".toList

def colourOff : CStr := "\x1b[0m".toList

def eprintf (env : Env) (b : Bool) (t : CStr) (r : ℤ × State) : ℤ × State :=
  if b then (r.1 + t.length, r.2.ewrite env t) else r

def efputs (env : Env) (t : CStr) (r : ℤ × State) : ℤ × State := (r.1, r.2.ewrite env t)

@[simp] theorem eprintf_fst {env : Env} {b : Bool} {t : CStr} {r : ℤ × State} :
    (eprintf env b t r).1 = r.1 + ((if b then t.length else 0 : ℕ) : ℤ) := by
  unfold eprintf; cases b <;> simp

@[simp] theorem eprintf_stderr {env : Env} {b : Bool} {t : CStr} {r : ℤ × State} :
    (eprintf env b t r).2.stderr = r.2.stderr ++ if b then t else [] := by
  unfold eprintf; cases b <;> simp

/-- Lines 457-498 of `log_disp_stderr`, after the nested `log_disp_file`. -/
def stderrWrite (env : Env) (c : LogCall) (buf : CStr) (ret : ℤ) (s : State) : ℤ × State :=
  let colour := if env.stderrIsTty then levelColour c.level else 0
  (ret, s.libc env)
    |> eprintf env (0 < colour) (colourOn colour)
    |> efputs env (cstr buf)
    |> eprintf env (c.level = LL.perror) (": ".toList ++ env.strerror s.errno)
    |> eprintf env (0 < colour) colourOff
    |> eprintf env (c.level < 1) "\n".toList

def stderrText (tty : Bool) (level : ℤ) (buf e : CStr) : CStr :=
  let colour := if tty then levelColour level else 0
  (if 0 < colour then colourOn colour else []) ++ cstr buf ++
    (if level = LL.perror then ": ".toList ++ e else []) ++
    (if 0 < colour then colourOff else []) ++ (if level < 1 then "\n".toList else [])

theorem stderrWrite_stderr (env : Env) (c : LogCall) (buf : CStr) (ret : ℤ) (s : State) :
    (stderrWrite env c buf ret s).2.stderr =
      s.stderr ++ stderrText env.stderrIsTty c.level buf (env.strerror s.errno) := by
  simp only [stderrWrite, stderrText, eprintf_stderr, efputs, State.ewrite, State.libc,
    decide_eq_true_eq, List.append_assoc]

theorem stderrWrite_fst (env : Env) (c : LogCall) (buf : CStr) (ret : ℤ) (s : State) :
    (stderrWrite env c buf ret s).1 + (cstr buf).length =
      ret + (stderrText env.stderrIsTty c.level buf (env.strerror s.errno)).length := by
  simp only [stderrWrite, stderrText, eprintf_fst, efputs, decide_eq_true_eq, List.length_append,
    apply_ite List.length, List.length_nil, Nat.cast_add]
  omega

/-- `log_disp_stderr`; a failed `vsnprintf` leaves `buf` uninitialised, a fault. -/
def logDispStderr (env : Env) (s : State) (c : LogCall) : ℤ × State :=
  if c.level < LL.perror ∨ s.fileSink.logFileLevel < c.level then (0, s) else
  let buf := vsnprintfBuf env.longString c.fmt
  stderrWrite env c buf (printfRet c.fmt)
    (logDispFile env ((s.libc env).ub c.fmt.isNone) { c with fmt := percentS buf }).2

inductive Sink
  | file
  | stderr
  deriving DecidableEq, Repr

def Sink.disp (env : Env) : Sink → State → LogCall → ℤ × State
  | .file => logDispFile env
  | .stderr => logDispStderr env

/-- Whether the sink gets past its filter (lines 240 and 444) and so expands its arguments. -/
def Sink.reads : Sink → State → ℤ → Bool
  | .file, s, level =>
    s.fileSink.logFileFP.isSome && !decide (level < LL.perror ∨ s.fileSink.logFileLevel < level)
  | .stderr, s, level => !decide (level < LL.perror ∨ s.fileSink.logFileLevel < level)

/-- What glibc prints for a NULL `%s`. -/
def nullText : CStr := "(null)".toList

def LogLine.replay (ll : LogLine) : LogCall :=
  ⟨ll.time, ll.file, ll.line, ll.function, ll.level, percentS (ll.message.getD nullText)⟩

/-- Replaying one record: a NULL message that the sink expands is undefined behaviour. -/
def Sink.replay (env : Env) (k : Sink) (s : State) (ll : LogLine) : State :=
  (k.disp env (s.ub (ll.message.isNone && k.reads s ll.level)) ll.replay).2

def logQueueFlush (env : Env) (disp : Sink) (s : State) : State :=
  logQueueEmpty (s.queue.logQueue.foldl (disp.replay env) s)

/-- Lines 364-368 of `log_queue_save`; NULL from `localtime` and a NULL message are faults. -/
def saveLine (env : Env) (r : ℤ × State) (ll : LogLine) : ℤ × State :=
  let abbr := ((r.2.libc env).ub !(env.localtime ll.time)).readLevelAbbr ll.level
  let s := (abbr.2.ub ll.message.isNone).swrite env ("[".toList ++ env.timeOfDay ll.time ++
    "]<".toList ++ [abbr.1] ++ "> ".toList ++ cstr (ll.message.getD nullText))
  let s := if ll.level ≤ 0 then s.swrite env "\n".toList else s
  (cInt (r.1 + 1), s.ub (INT_MAX < r.1 + 1))

def logQueueSave (env : Env) (fp : Bool) (s : State) : ℤ × State :=
  if fp then s.queue.logQueue.foldl (saveLine env) (0, s) else (0, s)

section Frame
variable {env : Env} {s : State} {c : LogCall}

/-- What `log_disp_file` changes: the cache, the streams, and what library calls change. -/
theorem logDispFile_frame : ∃ ca fs e n f,
    (logDispFile env s c).2 = { s with cache := ca, files := fs, errno := e, calls := n, fault := f } := by
  unfold logDispFile
  split
  · exact ⟨_, _, _, _, _, rfl⟩
  · obtain ⟨ca, e, n, f, h⟩ := @timestamp_frame env s c.stamp
    split_ifs <;> simp only [h, State.readLevelAbbr_snd_eq, State.fwrite, State.libc, State.ub] <;>
      exact ⟨_, _, _, _, _, rfl⟩

@[simp] theorem logDispFile_fileSink : (logDispFile env s c).2.fileSink = s.fileSink := by
  obtain ⟨_, _, _, _, _, h⟩ := @logDispFile_frame env s c; rw [h]
@[simp] theorem logDispFile_queue : (logDispFile env s c).2.queue = s.queue := by
  obtain ⟨_, _, _, _, _, h⟩ := @logDispFile_frame env s c; rw [h]
@[simp] theorem logDispFile_stderr : (logDispFile env s c).2.stderr = s.stderr := by
  obtain ⟨_, _, _, _, _, h⟩ := @logDispFile_frame env s c; rw [h]
@[simp] theorem logDispFile_muttLogger : (logDispFile env s c).2.muttLogger = s.muttLogger := by
  obtain ⟨_, _, _, _, _, h⟩ := @logDispFile_frame env s c; rw [h]

theorem eprintf_frame {b : Bool} {t : CStr} {r : ℤ × State}
    (h : ∃ se e n, r.2 = { s with stderr := se, errno := e, calls := n }) :
    ∃ se e n, (eprintf env b t r).2 = { s with stderr := se, errno := e, calls := n } := by
  obtain ⟨se, e, n, h⟩ := h
  unfold eprintf
  split_ifs
  · rw [h]; exact ⟨_, _, _, rfl⟩
  · exact ⟨se, e, n, h⟩

theorem efputs_frame {t : CStr} {r : ℤ × State}
    (h : ∃ se e n, r.2 = { s with stderr := se, errno := e, calls := n }) :
    ∃ se e n, (efputs env t r).2 = { s with stderr := se, errno := e, calls := n } := by
  obtain ⟨se, e, n, h⟩ := h
  rw [efputs, State.ewrite, h]
  exact ⟨_, _, _, rfl⟩

theorem stderrWrite_frame {buf : CStr} {ret : ℤ} :
    ∃ se e n, (stderrWrite env c buf ret s).2 = { s with stderr := se, errno := e, calls := n } :=
  eprintf_frame (eprintf_frame (eprintf_frame (efputs_frame (eprintf_frame ⟨_, _, _, rfl⟩))))

@[simp] theorem stderrWrite_fileSink {buf : CStr} {ret : ℤ} :
    (stderrWrite env c buf ret s).2.fileSink = s.fileSink := by
  obtain ⟨_, _, _, h⟩ := @stderrWrite_frame env s c buf ret; rw [h]
@[simp] theorem stderrWrite_files {buf : CStr} {ret : ℤ} :
    (stderrWrite env c buf ret s).2.files = s.files := by
  obtain ⟨_, _, _, h⟩ := @stderrWrite_frame env s c buf ret; rw [h]
@[simp] theorem stderrWrite_fault {buf : CStr} {ret : ℤ} :
    (stderrWrite env c buf ret s).2.fault = s.fault := by
  obtain ⟨_, _, _, h⟩ := @stderrWrite_frame env s c buf ret; rw [h]
@[simp] theorem stderrWrite_cache {buf : CStr} {ret : ℤ} :
    (stderrWrite env c buf ret s).2.cache = s.cache := by
  obtain ⟨_, _, _, h⟩ := @stderrWrite_frame env s c buf ret; rw [h]

theorem logDispStderr_frame : ∃ ca fs se e n f, (logDispStderr env s c).2 =
    { s with cache := ca, files := fs, stderr := se, errno := e, calls := n, fault := f } := by
  unfold logDispStderr
  split_ifs
  · exact ⟨_, _, _, _, _, _, rfl⟩
  · obtain ⟨ca, fs, e, n, f, h⟩ := @logDispFile_frame env ((s.libc env).ub c.fmt.isNone)
      { c with fmt := percentS (vsnprintfBuf env.longString c.fmt) }
    obtain ⟨se, e', n', h'⟩ := @stderrWrite_frame env
      (logDispFile env ((s.libc env).ub c.fmt.isNone)
        { c with fmt := percentS (vsnprintfBuf env.longString c.fmt) }).2
      c (vsnprintfBuf env.longString c.fmt) (printfRet c.fmt)
    dsimp only
    rw [h', h]
    exact ⟨_, _, _, _, _, _, rfl⟩

@[simp] theorem logDispStderr_fileSink : (logDispStderr env s c).2.fileSink = s.fileSink := by
  obtain ⟨_, _, _, _, _, _, h⟩ := @logDispStderr_frame env s c; rw [h]
@[simp] theorem logDispStderr_queue : (logDispStderr env s c).2.queue = s.queue := by
  obtain ⟨_, _, _, _, _, _, h⟩ := @logDispStderr_frame env s c; rw [h]
@[simp] theorem logDispStderr_muttLogger : (logDispStderr env s c).2.muttLogger = s.muttLogger := by
  obtain ⟨_, _, _, _, _, _, h⟩ := @logDispStderr_frame env s c; rw [h]

/-- What `log_disp_stderr` returns and writes for a call that passes its filter. -/
theorem logDispStderr_spec (hpass : ¬(c.level < LL.perror ∨ s.fileSink.logFileLevel < c.level)) :
    let buf := vsnprintfBuf env.longString c.fmt
    let t := (logDispFile env ((s.libc env).ub c.fmt.isNone) { c with fmt := percentS buf }).2
    (logDispStderr env s c).1 + (cstr buf).length =
      printfRet c.fmt + (stderrText env.stderrIsTty c.level buf (env.strerror t.errno)).length ∧
    (logDispStderr env s c).2.stderr =
      s.stderr ++ stderrText env.stderrIsTty c.level buf (env.strerror t.errno) := by
  unfold logDispStderr
  rw [if_neg hpass]
  exact ⟨stderrWrite_fst .., by rw [stderrWrite_stderr, logDispFile_stderr]; rfl⟩

theorem queueFormat_frame :
    ∃ e n f, queueFormat env s c = { s with errno := e, calls := n, fault := f } := by
  unfold queueFormat
  split_ifs <;> exact ⟨_, _, _, rfl⟩

theorem logDispQueue_frame : ∃ q e n f,
    (logDispQueue env s c).2 = { s with queue := q, errno := e, calls := n, fault := f } := by
  obtain ⟨e, n, f, h⟩ := @queueFormat_frame env s c
  obtain ⟨q, f', h'⟩ := @logQueueAdd_frame (queueRecord env s c)
    (if c.stamp = 0 then (queueFormat env s c).libc env else queueFormat env s c)
  unfold logDispQueue
  dsimp only
  rw [h', h]
  split <;> exact ⟨_, _, _, _, rfl⟩

/-- On the queue, `log_disp_queue` is `log_queue_add` of the record it builds. -/
theorem logDispQueue_queue :
    (logDispQueue env s c).2.queue = (logQueueAdd (queueRecord env s c) s).2.queue := by
  unfold logDispQueue
  apply logQueueAdd_queue_congr
  unfold queueFormat; split_ifs <;> rfl

theorem logDispQueue_fault_of_outside
    (h : (queueBuffer env.longString c.fmt c.level (env.strerror s.errno)).outside = true) :
    (logDispQueue env s c).2.fault = true := by
  unfold logDispQueue
  apply logQueueAdd_fault_of
  unfold queueFormat
  split_ifs <;> simp [h]

@[simp] theorem logDispQueue_fileSink : (logDispQueue env s c).2.fileSink = s.fileSink := by
  obtain ⟨_, _, _, _, h⟩ := @logDispQueue_frame env s c; rw [h]
@[simp] theorem logDispQueue_files : (logDispQueue env s c).2.files = s.files := by
  obtain ⟨_, _, _, _, h⟩ := @logDispQueue_frame env s c; rw [h]
@[simp] theorem logDispQueue_stderr : (logDispQueue env s c).2.stderr = s.stderr := by
  obtain ⟨_, _, _, _, h⟩ := @logDispQueue_frame env s c; rw [h]
@[simp] theorem logDispQueue_cache : (logDispQueue env s c).2.cache = s.cache := by
  obtain ⟨_, _, _, _, h⟩ := @logDispQueue_frame env s c; rw [h]
@[simp] theorem logDispQueue_muttLogger : (logDispQueue env s c).2.muttLogger = s.muttLogger := by
  obtain ⟨_, _, _, _, h⟩ := @logDispQueue_frame env s c; rw [h]

@[simp] theorem Sink.disp_fileSink {k : Sink} : (k.disp env s c).2.fileSink = s.fileSink := by
  cases k <;> simp [Sink.disp]
@[simp] theorem Sink.disp_queue {k : Sink} : (k.disp env s c).2.queue = s.queue := by
  cases k <;> simp [Sink.disp]
@[simp] theorem Sink.disp_muttLogger {k : Sink} : (k.disp env s c).2.muttLogger = s.muttLogger := by
  cases k <;> simp [Sink.disp]

/-- `reads` is the sinks' filter: a call it stops leaves the state alone. -/
theorem Sink.disp_of_reads {k : Sink} (h : k.reads s c.level = false) : k.disp env s c = (0, s) := by
  cases k with
  | file =>
    show logDispFile env s c = (0, s)
    unfold logDispFile
    cases hfp : s.fileSink.logFileFP with
    | none => rfl
    | some _ =>
      simp only [Sink.reads, hfp, Option.isSome_some, Bool.true_and, Bool.not_eq_false',
        decide_eq_true_eq] at h
      exact if_pos h
  | stderr =>
    simp only [Sink.reads, Bool.not_eq_false', decide_eq_true_eq] at h
    exact if_pos h

theorem Sink.replay_of_isSome {k : Sink} {ll : LogLine} (h : ll.message.isSome = true) :
    k.replay env s ll = (k.disp env s ll.replay).2 := by
  obtain ⟨m, hm⟩ := Option.isSome_iff_exists.1 h
  simp [Sink.replay, hm]

@[simp] theorem Sink.replay_fileSink {k : Sink} {ll : LogLine} :
    (k.replay env s ll).fileSink = s.fileSink := by simp [Sink.replay]
@[simp] theorem Sink.replay_queue {k : Sink} {ll : LogLine} :
    (k.replay env s ll).queue = s.queue := by simp [Sink.replay]
@[simp] theorem Sink.replay_muttLogger {k : Sink} {ll : LogLine} :
    (k.replay env s ll).muttLogger = s.muttLogger := by simp [Sink.replay]

theorem foldl_replay_frame (k : Sink) (lls : List LogLine) :
    let t := lls.foldl (k.replay env) s
    t.muttLogger = s.muttLogger ∧ t.fileSink = s.fileSink ∧ t.queue = s.queue := by
  induction lls generalizing s with
  | nil => exact ⟨rfl, rfl, rfl⟩
  | cons ll lls ih => simpa using ih (s := k.replay env s ll)

@[simp] theorem logQueueFlush_fileSink {k : Sink} : (logQueueFlush env k s).fileSink = s.fileSink :=
  (foldl_replay_frame k s.queue.logQueue).2.1
@[simp] theorem logQueueFlush_muttLogger {k : Sink} :
    (logQueueFlush env k s).muttLogger = s.muttLogger :=
  (foldl_replay_frame k s.queue.logQueue).1
@[simp] theorem logQueueFlush_logQueueMax {k : Sink} :
    (logQueueFlush env k s).queue.logQueueMax = s.queue.logQueueMax := by
  simp [logQueueFlush, logQueueEmpty, (foldl_replay_frame k s.queue.logQueue).2.2]

theorem foldl_saveLine_frame (lls : List LogLine) (r : ℤ × State) : ∃ sv e n f,
    (lls.foldl (saveLine env) r).2 = { r.2 with saved := sv, errno := e, calls := n, fault := f } := by
  induction lls generalizing r with
  | nil => exact ⟨_, _, _, _, rfl⟩
  | cons ll lls ih =>
    obtain ⟨sv, e, n, f, h⟩ := ih (saveLine env r ll)
    refine ⟨sv, e, n, f, ?_⟩
    rw [List.foldl_cons, h, saveLine]
    split_ifs <;> simp only [State.readLevelAbbr_snd_eq, State.swrite, State.libc, State.ub]

theorem logQueueSave_fst {fp : Bool} :
    (logQueueSave env fp s).1 = if fp then cInt s.queue.logQueue.length else 0 := by
  unfold logQueueSave
  split_ifs
  · suffices ∀ (lls : List LogLine) (r : ℤ × State) (k : ℤ), r.1 = cInt k →
        (lls.foldl (saveLine env) r).1 = cInt (k + lls.length) by
      simpa [cInt] using this s.queue.logQueue (0, s) 0 (by simp [cInt])
    intro lls
    induction lls with
    | nil => simp
    | cons ll lls ih =>
      intro r k hr
      rw [List.foldl_cons, ih _ (k + 1) (by simp only [saveLine, hr, cInt_succ_cInt])]
      congr 1; simp only [List.length_cons]; omega
  · rfl

theorem logQueueSave_frame {fp : Bool} : ∃ sv e n f,
    (logQueueSave env fp s).2 = { s with saved := sv, errno := e, calls := n, fault := f } := by
  unfold logQueueSave
  split_ifs
  · exact foldl_saveLine_frame _ _
  · exact ⟨_, _, _, _, rfl⟩

@[simp] theorem logQueueSave_fileSink {fp : Bool} :
    (logQueueSave env fp s).2.fileSink = s.fileSink := by
  obtain ⟨_, _, _, _, h⟩ := @logQueueSave_frame env s fp; rw [h]
@[simp] theorem logQueueSave_queue {fp : Bool} : (logQueueSave env fp s).2.queue = s.queue := by
  obtain ⟨_, _, _, _, h⟩ := @logQueueSave_frame env s fp; rw [h]
@[simp] theorem logQueueSave_files {fp : Bool} : (logQueueSave env fp s).2.files = s.files := by
  obtain ⟨_, _, _, _, h⟩ := @logQueueSave_frame env s fp; rw [h]
@[simp] theorem logQueueSave_muttLogger {fp : Bool} :
    (logQueueSave env fp s).2.muttLogger = s.muttLogger := by
  obtain ⟨_, _, _, _, h⟩ := @logQueueSave_frame env s fp; rw [h]

end Frame

end NeoMutt.Logging
