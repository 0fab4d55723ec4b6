import NeoMutt.Logging.CacheLaws
import NeoMutt.Logging.Contracts

/-! # Route independence

Calls logged through `log_disp_file`, through `log_disp_stderr`, or queued by
`log_disp_queue` and replayed by `log_queue_flush`, leave the same bytes in the log file and
on stderr, when the library keeps `errno`, stamps are nonzero, and each expansion holds no
NUL byte, fits `LONG_STRING` with its error text, and is not empty below `LL_PERROR`'s suffix.
The one difference is the letter of an `LL_PERROR` call replayed from the queue, whose record
`log_disp_queue` stored at `LL_ERROR`. A NUL byte in an expansion tells the routes apart:
`vfprintf` writes it, and `strdup` stops at it; an empty one is queued as NULL.
-/
namespace NeoMutt.Logging

/-- The library leaves `errno` as it found it. -/
def Env.KeepsErrno (env : Env) : Prop := ∀ n e, env.errno n e = e

section Errno
variable {env : Env} {s : State} {c : LogCall} {st : ℤ}

theorem timestamp_errno (henv : env.KeepsErrno) : (timestamp env s st).2.errno = s.errno := by
  unfold timestamp timestampAt
  split_ifs <;> simp [henv _ _]

theorem logDispFile_errno (henv : env.KeepsErrno) : (logDispFile env s c).2.errno = s.errno := by
  unfold logDispFile
  split
  · rfl
  · split_ifs <;> simp [henv _ _, timestamp_errno henv]

theorem eprintf_errno (henv : env.KeepsErrno) {b : Bool} {t : CStr} {r : ℤ × State} :
    (eprintf env b t r).2.errno = r.2.errno := by
  unfold eprintf
  split_ifs <;> simp only [State.ewrite, State.libc, henv _ _]

theorem stderrWrite_errno (henv : env.KeepsErrno) {buf : CStr} {ret : ℤ} :
    (stderrWrite env c buf ret s).2.errno = s.errno := by
  simp only [stderrWrite, eprintf_errno henv, efputs, State.ewrite, State.libc, henv _ _]

theorem logDispStderr_errno (henv : env.KeepsErrno) :
    (logDispStderr env s c).2.errno = s.errno := by
  unfold logDispStderr
  split_ifs
  · rfl
  · rw [stderrWrite_errno henv, logDispFile_errno henv]
    exact henv _ _

theorem logDispQueue_errno (henv : env.KeepsErrno) : (logDispQueue env s c).2.errno = s.errno := by
  unfold logDispQueue queueFormat
  obtain ⟨q, f, h⟩ := @logQueueAdd_frame (queueRecord env s c)
    (if c.stamp = 0 then (queueFormat env s c).libc env else queueFormat env s c)
  unfold queueFormat at h
  rw [h]
  split_ifs <;> simp [henv _ _]

end Errno

/-- A call the routes agree on, with the error text `e`. -/
structure RouteCall (env : Env) (e : CStr) (c : LogCall) : Prop where
  stamp_ne : c.stamp ≠ 0
  stamp_ok : env.localtime c.stamp = true
  level_ge : LL.perror ≤ c.level
  level_le : c.level ≤ LL.debug5
  fmt_eq : c.fmt = some (c.fmt.getD [])
  no_nul : '\x00' ∉ c.fmt.getD []
  nonempty : c.level = LL.perror ∨ c.fmt.getD [] ≠ []
  fits : (c.fmt.getD [] ++ if c.level = LL.perror then ": ".toList ++ e else []).length <
    env.longString

def levelLetter (level : ℤ) : Char := (levelAbbrAt level).getD '\x00'

def queuedLetter (level : ℤ) : Char := if level = LL.perror then 'E' else levelLetter level

/-- The bytes a call adds to the log file below the threshold `T`. -/
def routeLine (env : Env) (T : ℤ) (e : CStr) (letter : ℤ → Char) (c : LogCall) : CStr :=
  if T < c.level then [] else
    fileHeader (env.dateTime c.stamp) (letter c.level) c.function ++ c.fmt.getD [] ++
      fileEnding c.level e

def routeConsole (env : Env) (T : ℤ) (e : CStr) (c : LogCall) : CStr :=
  if T < c.level then [] else stderrText env.stderrIsTty c.level (c.fmt.getD []) e

def routeMessage (e : CStr) (c : LogCall) : CStr :=
  c.fmt.getD [] ++ if c.level = LL.perror then ": ".toList ++ e else []

def routeRecord (e : CStr) (c : LogCall) : LogLine :=
  ⟨c.stamp, c.file, c.line, c.function, if c.level = LL.perror then LL.error else c.level,
    some (routeMessage e c)⟩

section Replay
variable {env : Env} {e : CStr} {c : LogCall} {T : ℤ}

theorem RouteCall.msg_no_nul (hc : RouteCall env e c) (he : '\x00' ∉ e) :
    '\x00' ∉ routeMessage e c := by
  have h1 : '\x00' ∉ ": ".toList := by decide
  have h2 := hc.no_nul
  unfold routeMessage
  split_ifs <;> simp_all

theorem RouteCall.msg_ne_nil (hc : RouteCall env e c) : routeMessage e c ≠ [] := by
  unfold routeMessage
  rcases hc.nonempty with hp | hne
  · simp [hp]
  · simp [hne]

theorem RouteCall.vsnprintfBuf (hc : RouteCall env e c) :
    vsnprintfBuf env.longString c.fmt = c.fmt.getD [] := by
  have hf := hc.fits
  rw [List.length_append] at hf
  rw [hc.fmt_eq, Logging.vsnprintfBuf, Option.getD_some, List.take_of_length_le (by omega)]

theorem RouteCall.replay (hc : RouteCall env e c) (he : '\x00' ∉ e) :
    RouteCall env e (routeRecord e c).replay := by
  have hm := hc.msg_no_nul he
  have hf := hc.fits
  have hge := hc.level_ge
  refine ⟨hc.stamp_ne, hc.stamp_ok, ?_, ?_, rfl, ?_, .inr ?_, ?_⟩ <;>
    simp only [routeRecord, LogLine.replay, percentS, cstr_eq_self hm, Option.getD_some]
  · split_ifs <;> simp only [LL.perror, LL.error] at * <;> omega
  · have := hc.level_le
    split_ifs <;> simp only [LL.error, LL.debug5] at * <;> omega
  · exact hm
  · exact hc.msg_ne_nil
  · have hne : ¬(if c.level = LL.perror then LL.error else c.level) = LL.perror := by
      split_ifs <;> simp_all [LL.perror, LL.error]
    rw [if_neg hne, List.append_nil]
    exact hf

theorem routeLine_replay (hc : RouteCall env e c) (he : '\x00' ∉ e) (hT : LL.error ≤ T) :
    routeLine env T e levelLetter (routeRecord e c).replay = routeLine env T e queuedLetter c := by
  have hm := hc.msg_no_nul he
  simp only [routeLine, routeRecord, LogLine.replay, percentS, cstr_eq_self hm, Option.getD_some]
  unfold routeMessage
  by_cases hp : c.level = LL.perror
  · have hE : levelLetter (-2) = 'E' := by decide
    simp only [hp, eq_self_iff_true, if_true, queuedLetter, fileEnding, LL.perror,
      LL.error] at hT ⊢
    split_ifs <;> first | omega | simp [hE]
  · simp [hp, queuedLetter]

theorem routeConsole_replay (hc : RouteCall env e c) (he : '\x00' ∉ e) (hT : LL.error ≤ T) :
    routeConsole env T e (routeRecord e c).replay = routeConsole env T e c := by
  have hm := hc.msg_no_nul he
  simp only [routeConsole, routeRecord, LogLine.replay, percentS, cstr_eq_self hm,
    Option.getD_some]
  unfold routeMessage at hm ⊢
  by_cases hp : c.level = LL.perror
  · have hcol : levelColour LL.error = levelColour LL.perror := by decide
    have h1 : ¬LL.error = LL.perror := by decide
    have h2 : LL.error < 1 := by decide
    have h3 : LL.perror < 1 := by decide
    simp only [hp, eq_self_iff_true, if_true] at hm ⊢
    rw [if_neg (show ¬T < LL.error by omega),
      if_neg (show ¬T < LL.perror by unfold LL.perror LL.error at *; omega)]
    simp only [stderrText, hcol, h1, h2, h3, if_true, if_false, eq_self_iff_true,
      cstr_eq_self hm, cstr_eq_self hc.no_nul, List.append_assoc, List.nil_append,
      List.append_nil]
  · simp [hp]

end Replay

/-- What the routes keep: the file sink's settings, `errno`, and a consistent cache. -/
structure RouteState (env : Env) (fs : FileSink) (e0 : ℤ) (s : State) : Prop where
  sink : s.fileSink = fs
  errno : s.errno = e0
  cache : TsCacheOk env s

section Calls
variable {env : Env} {fs : FileSink} {e0 : ℤ} {fp : ℕ} {s : State} {c : LogCall}

theorem RouteState.logDispFile (henv : env.KeepsErrno) (h : RouteState env fs e0 s) :
    RouteState env fs e0 (logDispFile env s c).2 :=
  ⟨by simp [h.sink], by rw [logDispFile_errno henv, h.errno], h.cache.logDispFile⟩

theorem logDispFile_route (h : RouteState env fs e0 s) (hfp : fs.logFileFP = some fp)
    (hc : RouteCall env (env.strerror e0) c) :
    (logDispFile env s c).2.files =
      appendText fp (routeLine env fs.logFileLevel (env.strerror e0) levelLetter c) s.files := by
  rw [logDispFile_files, h.sink, hfp, routeLine]
  dsimp only
  by_cases hT : fs.logFileLevel < c.level
  · rw [if_pos (Or.inr hT), if_pos hT, appendText_nil]
  · have := hc.level_ge
    rw [if_neg (by omega), if_neg hT,
      timestamp_of_ne h.cache hc.stamp_ne, h.errno]
    rfl

theorem logDispStderr_route (henv : env.KeepsErrno) (h : RouteState env fs e0 s)
    (hfp : fs.logFileFP = some fp) (hc : RouteCall env (env.strerror e0) c) :
    RouteState env fs e0 (logDispStderr env s c).2 ∧
    (logDispStderr env s c).2.files =
      appendText fp (routeLine env fs.logFileLevel (env.strerror e0) levelLetter c) s.files ∧
    (logDispStderr env s c).2.stderr =
      s.stderr ++ routeConsole env fs.logFileLevel (env.strerror e0) c := by
  have hstate : RouteState env fs e0 (logDispStderr env s c).2 :=
    ⟨by simp [h.sink], by rw [logDispStderr_errno henv, h.errno], h.cache.logDispStderr⟩
  by_cases hpass : c.level < LL.perror ∨ s.fileSink.logFileLevel < c.level
  · have hT : fs.logFileLevel < c.level := by
      have := hc.level_ge
      rw [← h.sink]; omega
    have h0 : logDispStderr env s c = (0, s) := if_pos hpass
    rw [h0, routeLine, routeConsole, if_pos hT, if_pos hT, appendText_nil, List.append_nil]
    exact ⟨h, rfl, rfl⟩
  · have hT : ¬fs.logFileLevel < c.level := by rw [← h.sink]; exact fun hT => hpass (.inr hT)
    have hbuf := hc.vsnprintfBuf
    have hc' : ({ c with fmt := percentS (vsnprintfBuf env.longString c.fmt) } : LogCall) =
        { c with fmt := some (c.fmt.getD []) } := by
      rw [hbuf, percentS, cstr_eq_self hc.no_nul]
    have hl : RouteState env fs e0 ((s.libc env).ub c.fmt.isNone) :=
      ⟨h.sink, by rw [← h.errno]; exact henv _ _, h.cache⟩
    have hcall : RouteCall env (env.strerror e0) { c with fmt := some (c.fmt.getD []) } :=
      ⟨hc.stamp_ne, hc.stamp_ok, hc.level_ge, hc.level_le, rfl, hc.no_nul, hc.nonempty, hc.fits⟩
    obtain ⟨-, hout⟩ := @logDispStderr_spec env s c hpass
    refine ⟨hstate, ?_, ?_⟩
    · unfold logDispStderr
      rw [if_neg hpass]
      dsimp only
      rw [stderrWrite_files, hc', logDispFile_route hl hfp hcall]
      rfl
    · rw [hout, hc', hbuf, logDispFile_errno henv, hl.errno, routeConsole, if_neg hT]

theorem queueRecord_route (h : s.errno = e0) (hc : RouteCall env (env.strerror e0) c) :
    queueRecord env s c = routeRecord (env.strerror e0) c := by
  have hm := hc.msg_no_nul (env.strerror_cstr e0)
  have hne := hc.msg_ne_nil
  have hf := hc.fits
  by_cases hp : c.level = LL.perror
  · obtain ⟨hlev, hmsg⟩ := @queueRecord_perror env s c (c.fmt.getD []) hp hc.fmt_eq
      (by simp only [hp, if_true, List.length_append] at hf; omega)
    simp only [routeMessage, hp, if_true] at hm hf hne
    rw [h, List.take_of_length_le (by simp only [List.length_append] at hf ⊢; omega),
      List.append_assoc, muttStrStrdup_of_cstr hm hne] at hmsg
    simp only [queueRecord, if_neg hc.stamp_ne] at hlev hmsg ⊢
    simp only [routeRecord, routeMessage, hp, if_true, ← hlev, ← hmsg]
  · simp only [routeMessage, hp, if_false, List.append_nil] at hm hne
    simp only [queueRecord, routeRecord, routeMessage, queueBuffer, if_neg hc.stamp_ne, hp,
      if_false, List.append_nil, hc.vsnprintfBuf, muttStrStrdup_of_cstr hm hne]

theorem logQueueAdd_logQueue_of_max_zero {ll : LogLine} (h : s.queue.logQueueMax = 0) :
    (logQueueAdd ll s).2.queue.logQueue = s.queue.logQueue ++ [ll] := by
  simp [logQueueAdd, h]

theorem logDispQueue_route (henv : env.KeepsErrno) (h : RouteState env fs e0 s)
    (hmax : s.queue.logQueueMax = 0) (hc : RouteCall env (env.strerror e0) c) :
    (RouteState env fs e0 (logDispQueue env s c).2 ∧ (logDispQueue env s c).2.queue.logQueueMax = 0 ∧
      (logDispQueue env s c).2.files = s.files ∧ (logDispQueue env s c).2.stderr = s.stderr) ∧
    (logDispQueue env s c).2.queue.logQueue = s.queue.logQueue ++ [routeRecord (env.strerror e0) c] :=
  ⟨⟨⟨by simp [h.sink], by rw [logDispQueue_errno henv, h.errno], by
      unfold TsCacheOk; rw [logDispQueue_cache]; exact h.cache⟩,
    by rw [logDispQueue_queue, logQueueAdd_logQueueMax, hmax], logDispQueue_files,
    logDispQueue_stderr⟩,
    by rw [logDispQueue_queue, logQueueAdd_logQueue_of_max_zero hmax, queueRecord_route h.errno hc]⟩

end Calls

theorem foldl_appends {α β γ : Type} (f : State → α → State) (P : State → Prop)
    (out : State → β) (act : List γ → β → β) (line : α → List γ)
    (hact : ∀ t u b, act u (act t b) = act (t ++ u) b) (hnil : ∀ b, act [] b = b) :
    ∀ xs : List α, (∀ x ∈ xs, ∀ s, P s → P (f s x) ∧ out (f s x) = act (line x) (out s)) →
      ∀ s, P s → P (xs.foldl f s) ∧ out (xs.foldl f s) = act (xs.map line).flatten (out s)
  | [], _, _, hs => ⟨hs, (hnil _).symm⟩
  | x :: xs, h, s, hs => by
    obtain ⟨h1, h2⟩ := h x (List.mem_cons_self _ _) s hs
    obtain ⟨h3, h4⟩ := foldl_appends f P out act line hact hnil xs
      (fun y hy => h y (List.mem_cons_of_mem _ hy)) _ h1
    rw [List.foldl_cons, List.map_cons, List.flatten_cons, ← hact, ← h2]
    exact ⟨h3, h4⟩

theorem run_map_disp (env : Env) (d : Dispatcher) (s : State) (cs : List LogCall) :
    run env s (cs.map (.disp d)) = cs.foldl (fun t c => (d.disp env t c).2) s := by
  rw [run, List.foldl_map]
  rfl

theorem run_flush (env : Env) (k : Sink) (s : State) (ops : List Op) :
    run env s (ops ++ [.queueFlush k]) = logQueueFlush env k (run env s ops) := by
  rw [run_append, run_cons, run_nil]
  rfl

section Runs
variable {env : Env} {fs : FileSink} {e0 : ℤ} {fp : ℕ} {s : State} {cs : List LogCall}

theorem run_file_route (henv : env.KeepsErrno) (h : RouteState env fs e0 s)
    (hfp : fs.logFileFP = some fp) (hcs : ∀ c ∈ cs, RouteCall env (env.strerror e0) c) :
    let t := run env s (cs.map (.disp .file))
    RouteState env fs e0 t ∧
    t.files = appendText fp
      (cs.map (routeLine env fs.logFileLevel (env.strerror e0) levelLetter)).flatten s.files := by
  rw [run_map_disp]
  exact foldl_appends (fun (t : State) (c : LogCall) => (Dispatcher.file.disp env t c).2)
    (RouteState env fs e0) State.files (appendText fp) _ (appendText_appendText fp)
    (appendText_nil fp) cs
    (fun c hc t ht => ⟨ht.logDispFile henv, logDispFile_route ht hfp (hcs c hc)⟩) s h

theorem run_stderr_route (henv : env.KeepsErrno) (h : RouteState env fs e0 s)
    (hfp : fs.logFileFP = some fp) (hcs : ∀ c ∈ cs, RouteCall env (env.strerror e0) c) :
    let t := run env s (cs.map (.disp .stderr))
    t.files = appendText fp
      (cs.map (routeLine env fs.logFileLevel (env.strerror e0) levelLetter)).flatten s.files ∧
    t.stderr = s.stderr ++ (cs.map (routeConsole env fs.logFileLevel (env.strerror e0))).flatten := by
  rw [run_map_disp]
  have hstep := fun c (hc : c ∈ cs) (t : State) (ht : RouteState env fs e0 t) =>
    logDispStderr_route henv ht hfp (hcs c hc)
  exact ⟨(foldl_appends (fun (t : State) (c : LogCall) => (Dispatcher.stderr.disp env t c).2)
      (RouteState env fs e0) State.files (appendText fp) _ (appendText_appendText fp)
      (appendText_nil fp) cs (fun c hc t ht => ⟨(hstep c hc t ht).1, (hstep c hc t ht).2.1⟩) s h).2,
    (foldl_appends (fun (t : State) (c : LogCall) => (Dispatcher.stderr.disp env t c).2)
      (RouteState env fs e0) State.stderr (fun t b => b ++ t) _
      (fun _ _ _ => List.append_assoc _ _ _) List.append_nil cs
      (fun c hc t ht => ⟨(hstep c hc t ht).1, (hstep c hc t ht).2.2⟩) s h).2⟩

theorem run_queue_route (henv : env.KeepsErrno) (h : RouteState env fs e0 s)
    (hmax : s.queue.logQueueMax = 0) (hcs : ∀ c ∈ cs, RouteCall env (env.strerror e0) c) :
    let t := run env s (cs.map (.disp .queue))
    (RouteState env fs e0 t ∧ t.queue.logQueueMax = 0 ∧ t.files = s.files ∧ t.stderr = s.stderr) ∧
    t.queue.logQueue = s.queue.logQueue ++ cs.map (routeRecord (env.strerror e0)) := by
  rw [run_map_disp, List.map_eq_flatMap, List.flatMap.eq_1]
  refine foldl_appends (fun (t : State) (c : LogCall) => (Dispatcher.queue.disp env t c).2)
    (fun t => RouteState env fs e0 t ∧ t.queue.logQueueMax = 0 ∧ t.files = s.files ∧
      t.stderr = s.stderr) (fun t => t.queue.logQueue) (fun t b => b ++ t)
    (fun c => [routeRecord (env.strerror e0) c]) (fun _ _ _ => List.append_assoc _ _ _)
    List.append_nil cs ?_ s ⟨h, hmax, rfl, rfl⟩
  rintro c hc t ⟨ht, hm, hfl, hst⟩
  obtain ⟨⟨h1, h2, h3, h4⟩, h5⟩ := logDispQueue_route henv ht hm (hcs c hc)
  exact ⟨⟨h1, h2, h3.trans hfl, h4.trans hst⟩, h5⟩

theorem replay_route_files (henv : env.KeepsErrno) (h : RouteState env fs e0 s)
    (hfp : fs.logFileFP = some fp) (hT : LL.error ≤ fs.logFileLevel)
    (hcs : ∀ c ∈ cs, RouteCall env (env.strerror e0) c) (k : Sink) :
    ((cs.map (routeRecord (env.strerror e0))).foldl (k.replay env) s).files =
      appendText fp (cs.map (routeLine env fs.logFileLevel (env.strerror e0) queuedLetter)).flatten
        s.files := by
  have he := env.strerror_cstr e0
  have hlines : (cs.map (routeRecord (env.strerror e0))).map
      (fun ll => routeLine env fs.logFileLevel (env.strerror e0) levelLetter ll.replay) =
      cs.map (routeLine env fs.logFileLevel (env.strerror e0) queuedLetter) := by
    rw [List.map_map]
    exact List.map_congr_left fun c hc => routeLine_replay (hcs c hc) he hT
  rw [← hlines]
  refine (foldl_appends (k.replay env)
    (RouteState env fs e0) State.files (appendText fp) _ (appendText_appendText fp)
    (appendText_nil fp) _ ?_ s h).2
  intro ll hll t ht
  obtain ⟨c, hc, rfl⟩ := List.mem_map.1 hll
  have hrc := (hcs c hc).replay he
  rw [@Sink.replay_of_isSome env t k (routeRecord (env.strerror e0) c) rfl]
  cases k
  · exact ⟨ht.logDispFile henv, logDispFile_route ht hfp hrc⟩
  · exact ⟨(logDispStderr_route henv ht hfp hrc).1, (logDispStderr_route henv ht hfp hrc).2.1⟩

theorem replay_route_stderr (henv : env.KeepsErrno) (h : RouteState env fs e0 s)
    (hfp : fs.logFileFP = some fp) (hT : LL.error ≤ fs.logFileLevel)
    (hcs : ∀ c ∈ cs, RouteCall env (env.strerror e0) c) :
    ((cs.map (routeRecord (env.strerror e0))).foldl (Sink.stderr.replay env) s).stderr =
      s.stderr ++ (cs.map (routeConsole env fs.logFileLevel (env.strerror e0))).flatten := by
  have he := env.strerror_cstr e0
  have hcons : (cs.map (routeRecord (env.strerror e0))).map
      (fun ll => routeConsole env fs.logFileLevel (env.strerror e0) ll.replay) =
      cs.map (routeConsole env fs.logFileLevel (env.strerror e0)) := by
    rw [List.map_map]
    exact List.map_congr_left fun c hc => routeConsole_replay (hcs c hc) he hT
  rw [← hcons]
  refine (foldl_appends (Sink.stderr.replay env)
    (RouteState env fs e0) State.stderr (fun t b => b ++ t) _
    (fun _ _ _ => List.append_assoc _ _ _) List.append_nil _ ?_ s h).2
  intro ll hll t ht
  obtain ⟨c, hc, rfl⟩ := List.mem_map.1 hll
  rw [@Sink.replay_of_isSome env t .stderr (routeRecord (env.strerror e0) c) rfl]
  obtain ⟨h1, -, h3⟩ := logDispStderr_route henv ht hfp ((hcs c hc).replay he)
  exact ⟨h1, h3⟩

end Runs

end NeoMutt.Logging
