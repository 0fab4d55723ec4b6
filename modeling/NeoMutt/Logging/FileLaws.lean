import NeoMutt.Logging.QueueLaws

/-! # The log file over whole runs

`LogFileLevel` stays in 0..5. The streams the log has opened form an append-only history:
the open one, when there is one, is the newest and `LogFileFP` holds it, and every older one
is closed; each holds one banner, the lines of the records logged while it was open, and
the closing line once it is closed. Every operation only appends to the open stream, closes
it, or opens a new one. While `LogFileName` is set, the open stream is the one opened on it;
clearing the name leaves the stream open under no name. `LogFileName` is NULL or a nonempty
string, as `mutt_str_replace` stores it, so NULL and `""` name the same log.
-/
namespace NeoMutt.Logging

theorem appendText_nil (h : ℕ) (fs : List Handle) : appendText h [] fs = fs := by
  unfold appendText
  simp only [List.append_nil]
  exact List.modify_id h fs

theorem modify_length_append {α : Type} (g : α → α) (fs : List α) (f : α) :
    (fs ++ [f]).modify g fs.length = fs ++ [g f] := by
  induction fs with
  | nil => rfl
  | cons a fs ih => simp [ih]

def IsRecordLine (l : CStr) : Prop :=
  ∃ (ts : CStr) (level : ℤ) (function : Option CStr) (m errText : CStr), LL.perror ≤ level ∧ level ≤ LL.debug5 ∧
    l = fileLine ts level function m errText

/-- A stream of the log: the banner, record lines, and the closing line when it is closed. -/
def IsLogText (f : Handle) : Prop :=
  ∃ (ts : CStr) (version : Option CStr) (level : ℤ) (lines : List CStr),
    (∀ l ∈ lines, IsRecordLine l) ∧
    if f.closed then ∃ tc, f.text = openBanner ts version level ++ lines.flatten ++ closingLine tc
    else f.text = openBanner ts version level ++ lines.flatten

theorem IsLogText.banner (name ts : CStr) (version : Option CStr) (level : ℤ) :
    IsLogText ⟨name, [] ++ openBanner ts version level, false⟩ :=
  ⟨ts, version, level, [], by simp, by simp⟩

theorem IsLogText.line {f : Handle} (h : IsLogText f) (hc : f.closed = false) {l : CStr}
    (hl : IsRecordLine l) : IsLogText { f with text := f.text ++ l } := by
  obtain ⟨ts, v, n, lines, hlines, ht⟩ := h
  rw [hc, if_neg Bool.false_ne_true] at ht
  refine ⟨ts, v, n, lines ++ [l], ?_, ?_⟩
  · intro x hx
    rcases List.mem_append.1 hx with hx | hx
    · exact hlines x hx
    · rw [List.mem_singleton.1 hx]
      exact hl
  · simp [hc, ht]

theorem IsLogText.close {f : Handle} (h : IsLogText f) (hc : f.closed = false) (tc : CStr) :
    IsLogText { f with text := f.text ++ closingLine tc, closed := true } := by
  obtain ⟨ts, v, n, lines, hlines, ht⟩ := h
  rw [hc, if_neg Bool.false_ne_true] at ht
  exact ⟨ts, v, n, lines, hlines, by simp [ht]⟩

/-- No stream is open while `LogFileFP` is NULL; otherwise only the newest, which it holds. -/
def HandlesOk : Option ℕ → List Handle → Prop
  | none, fs => ∀ f ∈ fs, f.closed = true
  | some h, fs =>
    ∃ old f, fs = old ++ [f] ∧ h = old.length ∧ (∀ g ∈ old, g.closed = true) ∧ f.closed = false

theorem HandlesOk.countP_open_le {fp : Option ℕ} {fs : List Handle} (h : HandlesOk fp fs) :
    fs.countP (fun f => !f.closed) ≤ 1 := by
  cases fp with
  | none =>
    have : fs.countP (fun f => !f.closed) = 0 := List.countP_eq_zero.2 fun f hf => by simp [h f hf]
    omega
  | some _ =>
    obtain ⟨old, f, rfl, -, hold, -⟩ := h
    rw [List.countP_append, List.countP_eq_zero.2 fun (g : Handle) hg => by simp [hold g hg]]
    simp only [List.countP_singleton]
    split <;> omega

structure FileLogOk (s : State) : Prop where
  level_nonneg : 0 ≤ s.fileSink.logFileLevel
  level_le : s.fileSink.logFileLevel ≤ LL.debug5
  text : ∀ f ∈ s.files, IsLogText f
  handles : HandlesOk s.fileSink.logFileFP s.files

theorem FileLogOk.init : FileLogOk State.init :=
  ⟨by decide, by decide, by simp [State.init], by simp [State.init, HandlesOk]⟩

def FilesGrow (a b : List Handle) : Prop :=
  ∀ (i : ℕ) (f : Handle), a[i]? = some f →
    ∃ g : Handle, b[i]? = some g ∧ g.name = f.name ∧ f.text <+: g.text ∧ (f.closed = true → g = f)

theorem FilesGrow.refl (a : List Handle) : FilesGrow a a :=
  fun _ f h => ⟨f, h, rfl, List.prefix_refl _, fun _ => rfl⟩

theorem FilesGrow.trans {a b c : List Handle} (h1 : FilesGrow a b) (h2 : FilesGrow b c) :
    FilesGrow a c := by
  intro i f hf
  obtain ⟨g, hg, hgn, hgt, hgc⟩ := h1 i f hf
  obtain ⟨k, hk, hkn, hkt, hkc⟩ := h2 i g hg
  refine ⟨k, hk, hkn.trans hgn, hgt.trans hkt, fun hc => ?_⟩
  rw [hgc hc] at hkc
  exact hkc hc

theorem FilesGrow.append (a c : List Handle) : FilesGrow a (a ++ c) := by
  intro i f hf
  obtain ⟨hi, -⟩ := List.getElem?_eq_some_iff.1 hf
  exact ⟨f, by rw [List.getElem?_append_left hi, hf], rfl, List.prefix_refl _, fun _ => rfl⟩

theorem FilesGrow.snoc {old : List Handle} {f g : Handle} (hf : f.closed = false)
    (hn : g.name = f.name) (ht : f.text <+: g.text) : FilesGrow (old ++ [f]) (old ++ [g]) := by
  intro i x hx
  rcases Nat.lt_or_ge i old.length with hi | hi
  · rw [List.getElem?_append_left hi] at hx ⊢
    exact ⟨x, hx, rfl, List.prefix_refl _, fun _ => rfl⟩
  · rw [List.getElem?_append_right hi] at hx ⊢
    cases h : i - old.length with
    | zero =>
      simp only [h, List.getElem?_cons_zero, Option.some.injEq] at hx ⊢
      subst hx
      exact ⟨g, rfl, hn, ht, fun hc => absurd hc (by simp [hf])⟩
    | succ k => simp [h] at hx

/-- A transition that keeps `FileLogOk` and only appends to streams. -/
def FileTrans (s t : State) : Prop := FileLogOk s → FileLogOk t ∧ FilesGrow s.files t.files

section Trans
variable {env : Env} {s t u : State}

theorem FileTrans.trans (h1 : FileTrans s t) (h2 : FileTrans t u) : FileTrans s u := fun hs =>
  let ⟨ht, g1⟩ := h1 hs
  let ⟨hu, g2⟩ := h2 ht
  ⟨hu, g1.trans g2⟩

theorem FileTrans.of_eq (hfp : t.fileSink.logFileFP = s.fileSink.logFileFP)
    (hlevel : t.fileSink.logFileLevel = s.fileSink.logFileLevel) (hfiles : t.files = s.files) :
    FileTrans s t := fun hs =>
  ⟨⟨hlevel ▸ hs.level_nonneg, hlevel ▸ hs.level_le, hfiles ▸ hs.text, hfp ▸ hfiles ▸ hs.handles⟩,
    hfiles ▸ FilesGrow.refl _⟩

theorem FileTrans.appendLine {fp : ℕ} {l : CStr} (hsfp : s.fileSink.logFileFP = some fp)
    (hfp : t.fileSink.logFileFP = s.fileSink.logFileFP)
    (hlevel : t.fileSink.logFileLevel = s.fileSink.logFileLevel) (hl : IsRecordLine l)
    (hfiles : t.files = appendText fp l s.files) : FileTrans s t := by
  intro hs
  have hh := hs.handles
  rw [hsfp] at hh
  obtain ⟨old, f, hsf, rfl, hold, hf⟩ := hh
  obtain ⟨hto, htf⟩ := List.forall_mem_append.1 (hsf ▸ hs.text)
  rw [hsf, appendText, modify_length_append] at hfiles
  refine ⟨⟨hlevel ▸ hs.level_nonneg, hlevel ▸ hs.level_le, ?_, ?_⟩, ?_⟩
  · rw [hfiles]
    exact List.forall_mem_append.2
      ⟨hto, List.forall_mem_singleton.2 ((List.forall_mem_singleton.1 htf).line hf hl)⟩
  · rw [hfp, hsfp, hfiles]
    exact ⟨old, _, rfl, rfl, hold, hf⟩
  · rw [hsf, hfiles]
    exact FilesGrow.snoc hf rfl (List.prefix_append _ _)

theorem FileTrans.closeLast {fp : ℕ} (tc : CStr) (hsfp : s.fileSink.logFileFP = some fp)
    (hfp : t.fileSink.logFileFP = none)
    (hlevel : t.fileSink.logFileLevel = s.fileSink.logFileLevel)
    (hfiles : t.files = (appendText fp (closingLine tc) s.files).modify
      (fun f => { f with closed := true }) fp) : FileTrans s t := by
  intro hs
  have hh := hs.handles
  rw [hsfp] at hh
  obtain ⟨old, f, hsf, rfl, hold, hf⟩ := hh
  obtain ⟨hto, htf⟩ := List.forall_mem_append.1 (hsf ▸ hs.text)
  rw [hsf, appendText, modify_length_append, modify_length_append] at hfiles
  refine ⟨⟨hlevel ▸ hs.level_nonneg, hlevel ▸ hs.level_le, ?_, ?_⟩, ?_⟩
  · rw [hfiles]
    exact List.forall_mem_append.2
      ⟨hto, List.forall_mem_singleton.2 ((List.forall_mem_singleton.1 htf).close hf tc)⟩
  · rw [hfp, hfiles]
    exact List.forall_mem_append.2 ⟨hold, List.forall_mem_singleton.2 rfl⟩
  · rw [hsf, hfiles]
    exact FilesGrow.snoc hf rfl (List.prefix_append _ _)

theorem FileTrans.openNew {name : CStr} (hsfp : s.fileSink.logFileFP = none)
    (hfp : t.fileSink.logFileFP = some s.files.length)
    (hlevel : t.fileSink.logFileLevel = s.fileSink.logFileLevel)
    (hfiles : ∃ ts version level, t.files = appendText s.files.length
      (openBanner ts version level) (s.files ++ [⟨name, [], false⟩])) :
    FileTrans s t := by
  intro hs
  have hh := hs.handles
  rw [hsfp] at hh
  obtain ⟨ts, version, level, hfiles⟩ := hfiles
  rw [appendText, modify_length_append] at hfiles
  refine ⟨⟨hlevel ▸ hs.level_nonneg, hlevel ▸ hs.level_le, ?_, ?_⟩, hfiles ▸ FilesGrow.append _ _⟩
  · rw [hfiles]
    exact List.forall_mem_append.2
      ⟨hs.text, List.forall_mem_singleton.2 (IsLogText.banner name ts version level)⟩
  · rw [hfp, hfiles]
    exact ⟨s.files, _, rfl, rfl, hh, rfl⟩

theorem FileTrans.setLevel {l : ℤ} (h0 : 0 ≤ l) (h5 : l ≤ LL.debug5) :
    FileTrans s { s with fileSink.logFileLevel := l } := fun hs =>
  ⟨⟨h0, h5, hs.text, hs.handles⟩, FilesGrow.refl _⟩

end Trans

section Ops
variable {env : Env} {s : State} {c : LogCall} {v : Bool}

theorem FileTrans.logDispFile : FileTrans s (logDispFile env s c).2 := by
  have hfiles := logDispFile_files env s c
  cases hsfp : s.fileSink.logFileFP with
  | none => exact .of_eq (by simp) (by simp) (by simpa [hsfp] using hfiles)
  | some fp =>
    rw [hsfp] at hfiles
    split_ifs at hfiles with hpass
    · exact .of_eq (by simp) (by simp) hfiles
    · intro hs
      have h5 := hs.level_le
      exact FileTrans.appendLine hsfp (by simp) (by simp)
        ⟨_, c.level, _, _, _, by omega, by omega, rfl⟩ hfiles hs

theorem FileTrans.logDispStderr : FileTrans s (logDispStderr env s c).2 := by
  unfold Logging.logDispStderr
  split_ifs
  · exact .of_eq rfl rfl rfl
  · dsimp only
    refine (FileTrans.of_eq rfl rfl rfl : FileTrans s ((s.libc env).ub c.fmt.isNone)).trans
      ((@FileTrans.logDispFile env ((s.libc env).ub c.fmt.isNone)
        { c with fmt := percentS (vsnprintfBuf env.longString c.fmt) }).trans
        (.of_eq (by simp) (by simp) (by simp)))

theorem FileTrans.disp (d : Dispatcher) : FileTrans s (d.disp env s c).2 := by
  cases d
  · exact .logDispFile
  · exact .of_eq (by simp [Dispatcher.disp]) (by simp [Dispatcher.disp]) logDispQueue_files
  · exact .logDispStderr

theorem FileTrans.logQueueFlush (k : Sink) : FileTrans s (logQueueFlush env k s) := by
  unfold Logging.logQueueFlush
  suffices h : ∀ (lls : List LogLine) (s : State), FileTrans s (lls.foldl (k.replay env) s) from
    (h _ s).trans (.of_eq rfl rfl rfl)
  intro lls
  induction lls with
  | nil => exact fun _ => .of_eq rfl rfl rfl
  | cons ll lls ih =>
    intro s
    refine ((FileTrans.of_eq rfl rfl rfl :
      FileTrans s (s.ub (ll.message.isNone && k.reads s ll.level))).trans ?_).trans (ih _)
    cases k
    · exact .logDispFile
    · exact .logDispStderr

@[simp] theorem logFileClose_logFileFP : (logFileClose env v s).fileSink.logFileFP = none := by
  unfold logFileClose
  split
  · assumption
  · dsimp only
    split_ifs <;> rfl

@[simp] theorem logFileClose_logFileLevel :
    (logFileClose env v s).fileSink.logFileLevel = s.fileSink.logFileLevel := by
  unfold logFileClose
  split
  · rfl
  · split_ifs <;> simp [State.fclose]

theorem FileTrans.logFileClose : FileTrans s (logFileClose env v s) := by
  unfold Logging.logFileClose
  split
  · exact .of_eq rfl rfl rfl
  · next fp hsfp =>
    refine FileTrans.closeLast (timestamp env s 0).1 hsfp ?_ ?_ ?_ <;>
      split_ifs <;> simp [State.fclose]

theorem FileTrans.logFileOpen : FileTrans s (logFileOpen env v s).2 := by
  unfold Logging.logFileOpen
  split
  · exact .of_eq rfl rfl rfl
  · next name _ =>
    dsimp only
    refine (@FileTrans.logFileClose env s false).trans ?_
    split
    · refine @FileTrans.openNew _ _ name logFileClose_logFileFP (by split_ifs <;> simp)
        (by split_ifs <;> simp) ⟨_, _, _, by
          split_ifs <;> simp only [State.notice, State.fwrite, State.libc, timestamp_files] <;> rfl⟩
    · exact .of_eq (by simp) rfl rfl

theorem FileTrans.logFileSetFilename {f : Option CStr} :
    FileTrans s (logFileSetFilename env f s).2 := by
  unfold Logging.logFileSetFilename
  split_ifs
  · exact .of_eq rfl rfl rfl
  · dsimp only
    split
    · exact .of_eq rfl rfl rfl
    · exact (FileTrans.of_eq rfl rfl rfl :
        FileTrans s { s with fileSink.logFileName := muttStrStrdup f }).trans .logFileOpen

theorem FileTrans.logFileSetLevel {l : ℤ} : FileTrans s (logFileSetLevel env l s).2 := by
  unfold Logging.logFileSetLevel
  split_ifs with h1 h2 h3
  · exact .of_eq rfl rfl rfl
  · exact .of_eq rfl rfl rfl
  · exact (@FileTrans.setLevel s l (by omega) (by unfold LL.debug5; omega)).trans .logFileClose
  · refine (@FileTrans.setLevel s l (by omega) (by unfold LL.debug5; omega)).trans ?_
    dsimp only
    split
    · exact .of_eq rfl rfl rfl
    · exact .logFileOpen

theorem FileTrans.step (op : Op) : FileTrans s (step env s op) := by
  cases op with
  | setLogger d => exact .of_eq rfl rfl rfl
  | log c => exact .disp _
  | disp d c => exact .disp d
  | queueAdd ll =>
    obtain ⟨q, f, h⟩ := @logQueueAdd_frame ll s
    exact .of_eq (by simp [Logging.step, h]) (by simp [Logging.step, h]) (by simp [Logging.step, h])
  | queueSetMaxSize size => exact .of_eq rfl rfl rfl
  | queueEmpty => exact .of_eq rfl rfl rfl
  | queueFlush k => exact .logQueueFlush k
  | queueSave fp => exact .of_eq (by simp [Logging.step]) (by simp [Logging.step]) logQueueSave_files
  | fileSetFilename f => exact .logFileSetFilename
  | fileSetLevel l => exact .logFileSetLevel
  | fileSetVersion v => exact .of_eq rfl rfl rfl
  | fileOpen v => exact .logFileOpen
  | fileClose v => exact .logFileClose

end Ops

theorem Reachable.fileLogOk {env : Env} {s : State} (h : Reachable env s) : FileLogOk s :=
  h.invariant (P := FileLogOk) .init fun _ op hs => (FileTrans.step op hs).1

/-- Every stream is a well-formed log, at most the newest is open, and streams only grow. -/
theorem log_file_streams (env : Env) (ops : List Op) :
    let s : State := run env State.init ops
    (∀ f ∈ s.files, IsLogText f) ∧
    s.files.countP (fun f => !f.closed) ≤ 1 ∧
    HandlesOk s.fileSink.logFileFP s.files ∧
    ∀ op, FilesGrow s.files (step env s op).files := by
  intro s
  have hs : FileLogOk s := Reachable.fileLogOk ⟨ops, rfl⟩
  exact ⟨hs.text, hs.handles.countP_open_le, hs.handles, fun op => (FileTrans.step op hs).2⟩

def NameOk (s : State) : Prop :=
  ∀ h name, s.fileSink.logFileFP = some h → s.fileSink.logFileName = some name →
    ∃ f, s.files[h]? = some f ∧ f.name = name

section Names
variable {env : Env} {s t : State} {c : LogCall} {v : Bool}

theorem NameOk.of_fp_none (h : t.fileSink.logFileFP = none) : NameOk t := by
  intro _ _ hh
  rw [h] at hh
  cases hh

theorem NameOk.of_grow (hn : NameOk s) (hfp : t.fileSink.logFileFP = s.fileSink.logFileFP)
    (hname : t.fileSink.logFileName = s.fileSink.logFileName) (hg : FilesGrow s.files t.files) :
    NameOk t := by
  intro h name hh hn'
  obtain ⟨f, hf, rfl⟩ := hn h name (hfp ▸ hh) (hname ▸ hn')
  obtain ⟨g, hg', hgn, -⟩ := hg h f hf
  exact ⟨g, hg', hgn⟩

@[simp] theorem logFileClose_logFileName :
    (logFileClose env v s).fileSink.logFileName = s.fileSink.logFileName := by
  unfold logFileClose
  split
  · rfl
  · split_ifs <;> simp [State.fclose]

@[simp] theorem logFileOpen_logFileName :
    (logFileOpen env v s).2.fileSink.logFileName = s.fileSink.logFileName := by
  unfold logFileOpen
  split
  · rfl
  · dsimp only
    split
    · split_ifs <;> simp
    · simp

theorem logFileSetLevel_logFileName {l : ℤ} :
    (logFileSetLevel env l s).2.fileSink.logFileName = s.fileSink.logFileName := by
  unfold logFileSetLevel
  split_ifs
  · rfl
  · rfl
  · simp
  · dsimp only
    split <;> simp

theorem logFileSetFilename_logFileName {f : Option CStr} :
    (logFileSetFilename env f s).2.fileSink.logFileName =
      if nonull s.fileSink.logFileName = nonull f then s.fileSink.logFileName else muttStrStrdup f := by
  unfold logFileSetFilename
  split_ifs
  · rfl
  · dsimp only
    split <;> simp

theorem NameOk.logFileOpen (hn : s.fileSink.logFileName = none → NameOk s) :
    NameOk (logFileOpen env v s).2 := by
  unfold Logging.logFileOpen
  split
  · next hname => exact hn hname
  · next name hname =>
    dsimp only
    split
    · intro h n hh hn'
      split_ifs at hh hn' ⊢ <;>
        simp only [State.notice, State.fwrite, State.libc, timestamp_files, timestamp_fileSink,
          logFileClose_logFileName, hname, Option.some.injEq] at hh hn' ⊢ <;>
        subst hh hn' <;>
        exact ⟨_, by rw [appendText, modify_length_append, List.getElem?_concat_length], rfl⟩
    · exact .of_fp_none rfl

theorem NameOk.of_name_none (h : t.fileSink.logFileName = none) : NameOk t := by
  intro _ _ _ hn
  rw [h] at hn
  cases hn

theorem NameOk.logFileSetFilename (hn : NameOk s) (f : Option CStr) :
    NameOk (logFileSetFilename env f s).2 := by
  unfold Logging.logFileSetFilename
  split_ifs
  · exact hn
  · dsimp only
    split
    · next hfp => exact .of_fp_none hfp
    · exact NameOk.logFileOpen NameOk.of_name_none

theorem NameOk.logFileSetLevel (hn : NameOk s) (l : ℤ) :
    NameOk (logFileSetLevel env l s).2 := by
  have hl : NameOk { s with fileSink.logFileLevel := l } := hn.of_grow rfl rfl (.refl _)
  unfold Logging.logFileSetLevel
  split_ifs
  · exact hn
  · exact hn
  · exact .of_fp_none logFileClose_logFileFP
  · dsimp only
    split
    · exact hl.of_grow rfl rfl (.refl _)
    · exact NameOk.logFileOpen fun _ => hl

theorem Dispatcher.disp_fileSink (d : Dispatcher) : (d.disp env s c).2.fileSink = s.fileSink := by
  cases d <;> simp [Dispatcher.disp]

theorem NameOk.step (hs : FileLogOk s) (hn : NameOk s) (op : Op) : NameOk (step env s op) := by
  have hg := (@FileTrans.step env s op hs).2
  have hsink : (Logging.step env s op).fileSink = s.fileSink → NameOk (Logging.step env s op) :=
    fun h => hn.of_grow (by rw [h]) (by rw [h]) hg
  cases op with
  | fileSetFilename f => exact hn.logFileSetFilename f
  | fileSetLevel l => exact hn.logFileSetLevel l
  | fileOpen v => exact NameOk.logFileOpen fun _ => hn
  | fileClose v => exact .of_fp_none logFileClose_logFileFP
  | fileSetVersion v => exact hn.of_grow rfl rfl hg
  | log c => exact hsink (Dispatcher.disp_fileSink _)
  | disp d c => exact hsink (Dispatcher.disp_fileSink d)
  | queueAdd ll =>
    obtain ⟨q, f, h⟩ := @logQueueAdd_frame ll s
    exact hsink (show (logQueueAdd ll s).2.fileSink = _ by rw [h])
  | queueFlush k => exact hsink logQueueFlush_fileSink
  | queueSave fp => exact hsink logQueueSave_fileSink
  | setLogger d => exact hsink rfl
  | queueSetMaxSize size => exact hsink rfl
  | queueEmpty => exact hsink rfl

end Names

theorem Reachable.nameOk {env : Env} {s : State} (h : Reachable env s) : NameOk s :=
  (h.invariant (P := fun s => FileLogOk s ∧ NameOk s) ⟨.init, .of_fp_none rfl⟩
    fun _ op hs => ⟨(FileTrans.step op hs.1).1, hs.2.step hs.1 op⟩).2

/-- While `LogFileName` is set, `LogFileFP` holds the open stream that was opened on it. -/
theorem log_stream_matches_name (env : Env) (ops : List Op) (h : ℕ) (name : CStr) :
    let s := run env State.init ops
    s.fileSink.logFileFP = some h → s.fileSink.logFileName = some name →
    ∃ f, s.files[h]? = some f ∧ f.name = name ∧ f.closed = false := by
  intro s hfp hname
  obtain ⟨f, hf, hfn⟩ := Reachable.nameOk ⟨ops, rfl⟩ h name hfp hname
  have hh := (Reachable.fileLogOk ⟨ops, rfl⟩ : FileLogOk s).handles
  rw [hfp] at hh
  obtain ⟨old, g, hfs, rfl, -, hg⟩ := hh
  rw [hfs, List.getElem?_concat_length] at hf
  cases hf
  exact ⟨f, by rw [hfs, List.getElem?_concat_length], hfn, hg⟩

theorem log_stream_matches_name_after_open :
    let s := run Env.quiet State.init [.fileSetFilename (some "neomutt.log".toList), .fileSetLevel 1]
    s.fileSink.logFileFP = some 0 ∧ s.fileSink.logFileName = some "neomutt.log".toList ∧
    ∃ f, s.files[0]? = some f ∧ f.name = "neomutt.log".toList ∧ f.closed = false :=
  ⟨by decide, by decide, log_stream_matches_name Env.quiet _ 0 _ (by decide) (by decide)⟩

/-- `LogFileName` is NULL or a nonempty C string, as `mutt_str_replace` stores it. -/
def NameStored (s : State) : Prop :=
  ∀ name, s.fileSink.logFileName = some name → name ≠ [] ∧ '\x00' ∉ name

section Stored
variable {env : Env} {s : State}

theorem muttStrStrdup_stored {f : Option CStr} {name : CStr} (h : muttStrStrdup f = some name) :
    name ≠ [] ∧ '\x00' ∉ name := by
  unfold muttStrStrdup at h
  split_ifs at h with h0
  cases h
  exact ⟨h0, nul_not_mem_cstr _⟩

theorem NameStored.step (hn : NameStored s) (op : Op) : NameStored (Logging.step env s op) := by
  have keep : (Logging.step env s op).fileSink.logFileName = s.fileSink.logFileName →
      NameStored (Logging.step env s op) := fun h name hname => hn name (h ▸ hname)
  cases op with
  | fileSetFilename f =>
    intro name h
    rw [Logging.step, logFileSetFilename_logFileName] at h
    split_ifs at h
    exacts [hn name h, muttStrStrdup_stored h]
  | fileSetLevel l => exact keep logFileSetLevel_logFileName
  | fileOpen v => exact keep logFileOpen_logFileName
  | fileClose v => exact keep logFileClose_logFileName
  | log c => exact keep (by rw [Logging.step, Dispatcher.disp_fileSink])
  | disp d c => exact keep (by rw [Logging.step, Dispatcher.disp_fileSink])
  | queueAdd ll =>
    obtain ⟨q, f, h⟩ := @logQueueAdd_frame ll s
    exact keep (by rw [Logging.step, h])
  | queueFlush k => exact keep (by rw [Logging.step, logQueueFlush_fileSink])
  | queueSave fp => exact keep (by rw [Logging.step, logQueueSave_fileSink])
  | setLogger d => exact keep rfl
  | queueSetMaxSize size => exact keep rfl
  | queueEmpty => exact keep rfl
  | fileSetVersion v => exact keep rfl

theorem Reachable.nameStored (h : Reachable env s) : NameStored s :=
  h.invariant (fun _ h => nomatch h) fun _ op hs => hs.step op

end Stored

theorem clearing_name_keeps_log_open :
    let s : State := run Env.quiet State.init
      [.fileSetFilename (some "neomutt.log".toList), .fileSetLevel 1, .fileSetFilename none]
    s.fileSink.logFileFP = some 0 ∧ s.fileSink.logFileName = none ∧
      s.files.map (fun f => (f.name, f.closed)) = [("neomutt.log".toList, false)] := by
  decide

theorem rename_reports_success_without_reopen :
    let env : Env := { Env.quiet with fopen := fun n => decide (n < 3) }
    let s : State := run env State.init [.fileSetFilename (some "a.log".toList), .fileSetLevel 1]
    let r := logFileSetFilename env (some "b.log".toList) s
    let r' := logFileSetFilename env none s
    s.fileSink.logFileFP = some 0 ∧ s.fileSink.logFileName = some "a.log".toList ∧
    r.1 = 0 ∧ r.2.fileSink.logFileFP = none ∧
    r'.1 = 0 ∧ r'.2.fileSink.logFileFP = some 0 ∧
      r'.2.files.map (fun f => (f.name, f.closed)) = [("a.log".toList, false)] := by
  decide

end NeoMutt.Logging
