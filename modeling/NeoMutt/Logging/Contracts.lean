import NeoMutt.Logging.FileLaws

/-! # Contracts of single dispatcher calls

What one call of a dispatcher reads, writes and returns. `log_disp_file` and
`log_disp_queue` read `errno` on entry; `log_disp_stderr` reads it only after its nested
`log_disp_file` (line 457). `log_disp_file` returns the count of the message alone, since
line 255 overwrites the header's count, and `log_disp_stderr` counts the whole expansion
where it prints the buffer cut to `LONG_STRING - 1` bytes. The file and console sinks read
`LevelAbbr` only at levels their filter passes; `log_queue_save` reads it at whatever level
`log_disp_queue` stored. An `LL_PERROR` expansion that does not fit the queue's buffer puts
the error text past its end.
-/
namespace NeoMutt.Logging

/-- An `LL_PERROR` record holds the error text of the `errno` found on entry. -/
theorem queueRecord_perror {env : Env} {s : State} {c : LogCall} {m : CStr}
    (hl : c.level = LL.perror) (hf : c.fmt = some m) (hm : m.length ≤ env.longString) :
    (queueRecord env s c).level = LL.error ∧
    (queueRecord env s c).message =
      muttStrStrdup (some ((m ++ ": ".toList ++ env.strerror s.errno).take (env.longString - 1))) := by
  constructor <;> simp [queueRecord, hl, hf, queueBuffer_perror_of_le env.longString_le hm]

/-- `log_disp_stderr` reads `errno` after the nested `log_disp_file` has changed it. -/
theorem stderr_reads_errno_late :
    let env : Env := { Env.quiet with errno := fun _ _ => 5 }
    let s := { run Env.quiet State.init
      [.fileSetFilename (some "neomutt.log".toList), .fileSetLevel 5] with errno := 2 }
    let c : LogCall := ⟨1, none, 0, some "f".toList, LL.perror, some "x".toList⟩
    env.strerror s.errno = "No such file or directory".toList ∧
    (logDispStderr env s c).2.stderr = "x: Input/output error\n".toList ∧
    (logDispStderr env s c).2.files.map Handle.text =
      ["[1] NeoMutt debugging at level 5\n[1]<P> f() x: Input/output error\n".toList] ∧
    (logDispFile env s c).2.files.map Handle.text =
      ["[1] NeoMutt debugging at level 5\n[1]<P> f() x: No such file or directory\n".toList] := by
  decide

theorem stderrText_of_debug {tty : Bool} {level : ℤ} (htty : tty = false) (h : LL.debug1 ≤ level)
    (buf e : CStr) : stderrText tty level buf e = cstr buf := by
  unfold LL.debug1 at h
  simp [stderrText, htty, show level ≠ LL.perror by unfold LL.perror; omega,
    show ¬level < 1 by omega]

/-- The sinks return byte counts other than what they write. -/
theorem disp_return_miscounts :
    let s : State := run Env.quiet State.init
      [.fileSetFilename (some "neomutt.log".toList), .fileSetLevel 5]
    let r := logDispFile Env.quiet s ⟨1, none, 0, some "f".toList, LL.debug1, some []⟩
    let r' := logDispStderr Env.quiet s
      ⟨1, none, 0, some "f".toList, LL.debug1, some (List.replicate 1024 'x')⟩
    r.1 = 0 ∧ r.2.files.map Handle.text =
      ["[1] NeoMutt debugging at level 5\n[1]<1> f() ".toList] ∧
    r'.1 = 1024 ∧ r'.2.stderr = List.replicate 1023 'x' := by
  intro s
  dsimp only
  have hs : s.fileSink.logFileLevel = 5 ∧ s.stderr = [] := by decide
  have hbuf : vsnprintfBuf Env.quiet.longString (some (List.replicate 1024 'x')) =
      List.replicate 1023 'x' := by
    show (List.replicate 1024 'x').take (1024 - 1) = _
    rw [List.take_replicate]
    rfl
  have hc : cstr (List.replicate 1023 'x') = List.replicate 1023 'x' :=
    cstr_eq_self (by simp only [List.mem_replicate]; decide)
  have hp : printfRet (some (List.replicate 1024 'x')) = 1024 := by
    rw [printfRet_some (by rw [List.length_replicate]; decide), List.length_replicate]
    rfl
  obtain ⟨hret, hout⟩ := @logDispStderr_spec Env.quiet s
    ⟨1, none, 0, some "f".toList, LL.debug1, some (List.replicate 1024 'x')⟩
    (by rw [hs.1]; decide)
  have hd := @stderrText_of_debug Env.quiet.stderrIsTty LL.debug1 rfl (Int.le_refl _)
  dsimp only at hret hout
  rw [hbuf, hd, hc, hp, List.length_replicate] at hret
  rw [hbuf, hd, hc, hs.2, List.nil_append] at hout
  exact ⟨by decide, by decide, by omega, hout⟩

/-- An `LL_PERROR` expansion longer than `LONG_STRING` puts `buf + ret` past the buffer. -/
theorem perror_suffix_past_buffer :
    printfRet (some (List.replicate 1025 'x')) = 1025 ∧
    sizeSub Env.quiet.longString 1025 = 2 ^ 64 - 1 ∧
    (logDispQueue Env.quiet State.init
      ⟨1, none, 0, none, LL.perror, some (List.replicate 1025 'x')⟩).2.fault = true := by
  refine ⟨?_, by decide, logDispQueue_fault_of_outside (queueBuffer_perror_outside ?_)⟩
  · rw [printfRet_some (by rw [List.length_replicate]; decide), List.length_replicate]
    rfl
  · intro m hm
    cases hm
    rw [List.length_replicate]
    decide

/-- `log_queue_save` of a record at level 7 reads `LevelAbbr[10]`, past the literal. -/
theorem save_reads_past_levelAbbr :
    let s : State := run Env.quiet State.init [.disp .queue ⟨1, none, 0, none, 7, some "x".toList⟩]
    s.queue.logQueue.map LogLine.level = [7] ∧ s.fault = false ∧ levelAbbrAt 7 = none ∧
      (logQueueSave Env.quiet true s).2.fault = true := by
  decide

end NeoMutt.Logging
