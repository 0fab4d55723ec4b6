import NeoMutt.Account.Basic

/-! # Matching accounts

`mutt_account_match` decides whether a connection made for one account serves another: the
same protocol, the same host ignoring case, the same port, and the same user, where an account
without `MUTT_ACCT_USER` stands for the user configured for its protocol. NNTP departs from
this: unless both accounts carry a user, the first matches exactly when it has no user of its
own, whatever the second stands for. The relation is an equivalence on every other protocol;
on NNTP it is reflexive only.
-/
namespace NeoMutt.MuttAccount

variable {sz : AccountSizes}

/-- Lines 42-67: the user configured for the first account's protocol. -/
def matchUser (cfg : Config) (type : AcctType) : CString :=
  let user := nonull cfg.username
  let user := if type = .imap then cfg.imapUser.getD user else user
  let user := if type = .pop then cfg.popUser.getD user else user
  if type = .nntp then cfg.nntpUser.getD user else user

/-- Lines 69-80: the users of two accounts of one protocol, host and port. -/
def matchUsers (cfg : Config) (a1 a2 : Account sz) : Bool :=
  let user := matchUser cfg a1.type
  if a1.flags.user && a2.flags.user then decide (strcmp a1.user a2.user = 0)
  else if a1.type = .nntp then !(a1.flags.user && !a1.user.1.isEmpty)
  else if a1.flags.user then decide (strcmp a1.user user = 0)
  else if a2.flags.user then decide (strcmp a2.user user = 0)
  else true

/-- `mutt_account_match`, with `true` for a nonzero result. -/
def muttAccountMatch (cfg : Config) (a1 a2 : Account sz) : Bool :=
  if a1.type ≠ a2.type then false
  else if muttStrStrcasecmp a1.host a2.host ≠ 0 then false
  else if a1.port ≠ a2.port then false
  else matchUsers cfg a1 a2

/-- The user configured for a protocol. -/
def configuredUser (cfg : Config) : AcctType → CString
  | .imap => cfg.imapUser.getD (nonull cfg.username)
  | .pop => cfg.popUser.getD (nonull cfg.username)
  | .nntp => cfg.nntpUser.getD (nonull cfg.username)
  | .none => nonull cfg.username
  | .smtp => nonull cfg.username

/-- The user an account stands for: its own under `MUTT_ACCT_USER`, else the configured one. -/
def effectiveUser (cfg : Config) (a : Account sz) : CString :=
  if a.flags.user then a.user else configuredUser cfg a.type

def hostKey (a : Account sz) : List Char := a.host.1.map Char.toLower

theorem matchUser_eq (cfg : Config) (type : AcctType) :
    matchUser cfg type = configuredUser cfg type := by
  cases type <;> rfl

theorem matchUsers_iff {cfg : Config} {a1 a2 : Account sz} (htype : a1.type = a2.type) :
    matchUsers cfg a1 a2 = true ↔
      if a1.type = .nntp ∧ (a1.flags.user && a2.flags.user) = false
      then (a1.flags.user && !a1.user.1.isEmpty) = false
      else effectiveUser cfg a1 = effectiveUser cfg a2 := by
  unfold matchUsers effectiveUser
  rw [matchUser_eq, ← htype]
  cases h1 : a1.flags.user <;> cases h2 : a2.flags.user <;> by_cases hn : a1.type = .nntp <;>
    simp [hn, strcmp_eq_zero, @eq_comm _ (configuredUser cfg a1.type) a2.user]

theorem muttAccountMatch_iff {cfg : Config} {a1 a2 : Account sz} :
    muttAccountMatch cfg a1 a2 = true ↔
      a1.type = a2.type ∧ hostKey a1 = hostKey a2 ∧ a1.port = a2.port ∧
        if a1.type = .nntp ∧ (a1.flags.user && a2.flags.user) = false
        then (a1.flags.user && !a1.user.1.isEmpty) = false
        else effectiveUser cfg a1 = effectiveUser cfg a2 := by
  unfold muttAccountMatch hostKey
  rw [← muttStrStrcasecmp_eq_zero]
  by_cases ht : a1.type = a2.type
  · rw [← matchUsers_iff ht]
    by_cases hh : muttStrStrcasecmp a1.host a2.host = 0 <;> by_cases hp : a1.port = a2.port <;>
      simp [ht, hh, hp]
  · simp [ht]

section Laws
variable {cfg : Config}

theorem muttAccountMatch_iff_of_ne {a1 a2 : Account sz} (hn : a1.type ≠ .nntp) :
    muttAccountMatch cfg a1 a2 = true ↔ a1.type = a2.type ∧ hostKey a1 = hostKey a2 ∧
      a1.port = a2.port ∧ effectiveUser cfg a1 = effectiveUser cfg a2 := by
  rw [muttAccountMatch_iff, if_neg fun h => hn h.1]

theorem muttAccountMatch_refl (a : Account sz) : muttAccountMatch cfg a a = true := by
  refine muttAccountMatch_iff.2 ⟨rfl, rfl, rfl, ?_⟩
  split_ifs with h
  · rw [Bool.and_self] at h
    rw [h.2, Bool.false_and]
  · rfl

theorem muttAccountMatch_symm {a1 a2 : Account sz} (hn : a1.type ≠ .nntp)
    (h : muttAccountMatch cfg a1 a2 = true) : muttAccountMatch cfg a2 a1 = true := by
  obtain ⟨ht, hh, hp, he⟩ := (muttAccountMatch_iff_of_ne hn).1 h
  exact (muttAccountMatch_iff_of_ne (ht ▸ hn)).2 ⟨ht.symm, hh.symm, hp.symm, he.symm⟩

theorem muttAccountMatch_trans {a1 a2 a3 : Account sz} (hn : a1.type ≠ .nntp)
    (h12 : muttAccountMatch cfg a1 a2 = true) (h23 : muttAccountMatch cfg a2 a3 = true) :
    muttAccountMatch cfg a1 a3 = true := by
  obtain ⟨ht, hh, hp, he⟩ := (muttAccountMatch_iff_of_ne hn).1 h12
  obtain ⟨ht', hh', hp', he'⟩ := (muttAccountMatch_iff_of_ne (ht ▸ hn)).1 h23
  exact (muttAccountMatch_iff_of_ne hn).2 ⟨ht.trans ht', hh.trans hh', hp.trans hp', he.trans he'⟩

theorem muttAccountMatch_congr {a a' : Account sz} (hn : a.type ≠ .nntp) (ht : a'.type = a.type)
    (hh : hostKey a' = hostKey a) (hp : a'.port = a.port)
    (he : effectiveUser cfg a' = effectiveUser cfg a) (b : Account sz) :
    muttAccountMatch cfg a' b = muttAccountMatch cfg a b ∧
      muttAccountMatch cfg b a' = muttAccountMatch cfg b a := by
  constructor
  · rw [Bool.eq_iff_iff, muttAccountMatch_iff_of_ne hn, muttAccountMatch_iff_of_ne (ht ▸ hn), ht,
      hh, hp, he]
  · by_cases hb : b.type = .nntp
    · have h1 : b.type ≠ a.type := hb ▸ Ne.symm hn
      rw [Bool.eq_iff_iff]
      exact iff_of_false (fun h => h1 (ht ▸ (muttAccountMatch_iff.1 h).1))
        (fun h => h1 (muttAccountMatch_iff.1 h).1)
    · rw [Bool.eq_iff_iff, muttAccountMatch_iff_of_ne hb, muttAccountMatch_iff_of_ne hb, ht, hh, hp,
        he]

end Laws

/-- What `mutt_account_match` reads of an account. -/
def matchView (a : Account sz) : AcctType × List Char × UInt16 × Option CString :=
  (a.type, hostKey a, a.port, if a.flags.user then some a.user else none)

theorem muttAccountMatch_view {a a' : Account sz} (h : matchView a' = matchView a)
    (cfg : Config) (b : Account sz) :
    muttAccountMatch cfg a' b = muttAccountMatch cfg a b ∧
      muttAccountMatch cfg b a' = muttAccountMatch cfg b a := by
  simp only [matchView, Prod.mk.injEq] at h
  obtain ⟨ht, hh, hp, hu⟩ := h
  have hf : a'.flags.user = a.flags.user ∧ (a.flags.user = true → a'.user = a.user) := by
    cases h1 : a'.flags.user <;> cases h2 : a.flags.user <;> simp_all
  have he : effectiveUser cfg a' = effectiveUser cfg a := by
    unfold effectiveUser
    rw [hf.1, ht]
    split_ifs with h
    exacts [hf.2 h, rfl]
  have hn : (a.flags.user && !a'.user.1.isEmpty) = (a.flags.user && !a.user.1.isEmpty) := by
    cases h : a.flags.user
    · rfl
    · rw [hf.2 h]
  constructor <;> rw [Bool.eq_iff_iff, muttAccountMatch_iff, muttAccountMatch_iff] <;>
    simp only [ht, hh, hp, he, hn, hf.1]

/-- What `mutt_account_match` decides; an equivalence off NNTP. -/
theorem account_match_law (cfg : Config) :
    (∀ a1 a2 : Account sz, muttAccountMatch cfg a1 a2 = true ↔
      a1.type = a2.type ∧ hostKey a1 = hostKey a2 ∧ a1.port = a2.port ∧
        if a1.type = .nntp ∧ (a1.flags.user && a2.flags.user) = false
        then (a1.flags.user && !a1.user.1.isEmpty) = false
        else effectiveUser cfg a1 = effectiveUser cfg a2) ∧
    (∀ a : Account sz, muttAccountMatch cfg a a = true) ∧
    (∀ a1 a2 : Account sz, a1.type ≠ .nntp →
      muttAccountMatch cfg a1 a2 = true → muttAccountMatch cfg a2 a1 = true) ∧
    (∀ a1 a2 a3 : Account sz, a1.type ≠ .nntp → muttAccountMatch cfg a1 a2 = true →
      muttAccountMatch cfg a2 a3 = true → muttAccountMatch cfg a1 a3 = true) :=
  ⟨fun _ _ => muttAccountMatch_iff, muttAccountMatch_refl, fun _ _ => muttAccountMatch_symm,
    fun _ _ _ => muttAccountMatch_trans⟩

theorem account_match_law_imap :
    let cfg : Config := { Config.unset with imapUser := some ⟨"bob".toList, by decide⟩ }
    let a1 : Account AccountSizes.sample :=
      { user := ⟨[], by decide⟩, login := ⟨[], by decide⟩, pass := ⟨[], by decide⟩,
        host := ⟨"IMAP.example".toList, by decide⟩, port := 993, type := .imap,
        flags := ⟨false, false, false, false, true⟩ }
    let a2 : Account AccountSizes.sample :=
      { user := ⟨"bob".toList, by decide⟩, login := ⟨[], by decide⟩, pass := ⟨[], by decide⟩,
        host := ⟨"imap.example".toList, by decide⟩, port := 993, type := .imap,
        flags := ⟨false, true, false, false, true⟩ }
    a1.type ≠ .nntp ∧ muttAccountMatch cfg a1 a2 = true ∧ muttAccountMatch cfg a2 a1 = true :=
  ⟨by decide, by decide, (account_match_law _).2.2.1 _ _ (by decide) (by decide)⟩

/-- On NNTP the match is neither symmetric nor transitive. -/
theorem nntp_match_not_equivalence :
    let news (user : CString) (flag : Bool) (h : user.1.length < 128) : Account AccountSizes.sample :=
      { user := user, login := ⟨[], by decide⟩, pass := ⟨[], by decide⟩,
        host := ⟨"news".toList, by decide⟩, port := 119, type := .nntp,
        flags := ⟨false, flag, false, false, false⟩, user_fits := h }
    let cfg : Config := { Config.unset with nntpUser := some ⟨"x".toList, by decide⟩ }
    let x := news ⟨"x".toList, by decide⟩ true (by decide)
    let none := news ⟨[], by decide⟩ false (by decide)
    let empty := news ⟨[], by decide⟩ true (by decide)
    let z := news ⟨"z".toList, by decide⟩ true (by decide)
    (effectiveUser cfg x = effectiveUser cfg none ∧
      muttAccountMatch cfg x none = false ∧ muttAccountMatch cfg none x = true) ∧
    (muttAccountMatch .unset empty none = true ∧ muttAccountMatch .unset none z = true ∧
      muttAccountMatch .unset empty z = false) := by
  decide

end NeoMutt.MuttAccount
