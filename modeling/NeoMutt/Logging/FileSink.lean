import NeoMutt.Logging.Sinks

/-! # Opening, closing and configuring the log file

The file sink's lifecycle: `log_file_open` closes the current stream before it opens
`LogFileName` again, and the setters of the name and the level reopen or close the log.
-/
namespace NeoMutt.Logging

def State.fclose (env : Env) (fp : ℕ) (s : State) : State :=
  { s with files := s.files.modify (fun f => { f with closed := true }) fp,
           fileSink.logFileFP := none }.libc env

def closingLine (ts : CStr) : CStr := "[".toList ++ ts ++ "] Closing log.\n".toList

/-- The banner `"[%s] NeoMutt%s debugging at level %d\n"`, with `NONULL(LogFileVersion)`. -/
def openBanner (ts : CStr) (version : Option CStr) (level : ℤ) : CStr :=
  "[".toList ++ ts ++ "] NeoMutt".toList ++ version.getD [] ++ " debugging at level ".toList ++
    (toString level).toList ++ "\n".toList

def logFileClose (env : Env) (verbose : Bool) (s : State) : State :=
  match s.fileSink.logFileFP with
  | none => s
  | some fp =>
    let ts := timestamp env s 0
    let s := (ts.2.fwrite env fp (closingLine ts.1)).fclose env fp
    if verbose then s.notice (.closedLogFile s.fileSink.logFileName) else s

/-- `log_file_open`: close any open log, open `LogFileName` for appending, write the banner. -/
def logFileOpen (env : Env) (verbose : Bool) (s : State) : ℤ × State :=
  match s.fileSink.logFileName with
  | none => (-1, s)
  | some name =>
    let s := logFileClose env false s
    if env.fopen s.calls then
      let fp := s.files.length
      let s := { s with files := s.files ++ [Handle.mk name [] false],
                        fileSink.logFileFP := some fp }.libc env
      let ts := timestamp env s 0
      let s := ts.2.fwrite env fp
        (openBanner ts.1 s.fileSink.logFileVersion s.fileSink.logFileLevel)
      (0, if verbose then s.notice (.debuggingAtLevel s.fileSink.logFileLevel s.fileSink.logFileName)
          else s)
    else (-1, { s with fileSink.logFileFP := none }.libc env)

/-- `log_file_set_filename`; `mutt_str_strcmp` takes NULL for `""` (`mutt/string.c`). -/
def logFileSetFilename (env : Env) (file : Option CStr) (s : State) : ℤ × State :=
  if nonull s.fileSink.logFileName = nonull file then (0, s) else
  let s := { s with fileSink.logFileName := muttStrStrdup file }
  match s.fileSink.logFileFP with
  | none => (-1, s)
  | some _ => (0, (logFileOpen env true s).2)

def logFileSetLevel (env : Env) (level : ℤ) (s : State) : ℤ × State :=
  if level < 0 ∨ 5 < level then (-1, s) else
  if level = s.fileSink.logFileLevel then (0, s) else
  let s := { s with fileSink.logFileLevel := level }
  (0, if level = 0 then logFileClose env true s
      else match s.fileSink.logFileFP with
        | some _ => s.notice (.loggingAtLevel level)
        | none => (logFileOpen env true s).2)

def logFileSetVersion (version : Option CStr) (s : State) : State :=
  { s with fileSink.logFileVersion := muttStrStrdup version }

section Frame
variable {env : Env} {s : State} {v : Bool}

/-- What the file-sink operations may change. -/
def FileOpFrame (s t : State) : Prop :=
  t.muttLogger = s.muttLogger ∧ t.queue = s.queue ∧ t.stderr = s.stderr ∧ t.saved = s.saved

theorem FileOpFrame.trans {s t u : State} (h1 : FileOpFrame s t) (h2 : FileOpFrame t u) :
    FileOpFrame s u :=
  ⟨h2.1.trans h1.1, h2.2.1.trans h1.2.1, h2.2.2.1.trans h1.2.2.1, h2.2.2.2.trans h1.2.2.2⟩

theorem logFileClose_frame : FileOpFrame s (logFileClose env v s) := by
  unfold logFileClose; split
  · exact ⟨rfl, rfl, rfl, rfl⟩
  · split_ifs <;> simp [FileOpFrame, State.fclose]

theorem logFileOpen_frame : FileOpFrame s (logFileOpen env v s).2 := by
  unfold logFileOpen; split
  · exact ⟨rfl, rfl, rfl, rfl⟩
  · obtain ⟨h1, h2, h3, h4⟩ := @logFileClose_frame env s false
    dsimp only
    split
    · split <;> simp [FileOpFrame, h1, h2, h3, h4]
    · simp [FileOpFrame, h1, h2, h3, h4]

theorem logFileSetFilename_frame {f : Option CStr} :
    FileOpFrame s (logFileSetFilename env f s).2 := by
  unfold logFileSetFilename; split_ifs
  · exact ⟨rfl, rfl, rfl, rfl⟩
  · dsimp only; split
    · exact ⟨rfl, rfl, rfl, rfl⟩
    · exact logFileOpen_frame (s := { s with fileSink.logFileName := muttStrStrdup f })

theorem logFileSetLevel_frame {l : ℤ} : FileOpFrame s (logFileSetLevel env l s).2 := by
  unfold logFileSetLevel; split_ifs
  · exact ⟨rfl, rfl, rfl, rfl⟩
  · exact ⟨rfl, rfl, rfl, rfl⟩
  · exact logFileClose_frame (s := { s with fileSink.logFileLevel := l })
  · dsimp only; split
    · exact ⟨rfl, rfl, rfl, rfl⟩
    · exact logFileOpen_frame (s := { s with fileSink.logFileLevel := l })

end Frame

end NeoMutt.Logging
