import NeoMutt.Account.Login
import NeoMutt.Account.Url

/-! # Reusing connections

NeoMutt reuses a connection for an account when `mutt_account_match` holds, and that reads
only the protocol, the host up to case, the port, and the user under `MUTT_ACCT_USER`. Once
the user is known no credential call changes this view, so an account keeps matching the same
accounts while its login and password are filled in and forgotten. An account written to its
URL and read back keeps it too, and so stands in for the account it came from.
-/
namespace NeoMutt.MuttAccount

variable {sz : AccountSizes}

section Credentials
variable {cfg : Config} {ui : Prompter} {a : Account sz}

theorem muttAccountGetuser_of_user (hu : a.flags.user = true) :
    muttAccountGetuser cfg ui a = (0, a) := by
  simp [muttAccountGetuser, hu]

theorem muttAccountGetlogin_view (hu : a.flags.user = true) :
    matchView (muttAccountGetlogin cfg ui a).2 = matchView a := by
  rcases muttAccountGetlogin_cases cfg ui a with ⟨-, e⟩ | ⟨_, e⟩ | ⟨-, e⟩
  · rw [e]
  · rw [e]
    rfl
  · rw [e, muttAccountGetuser_of_user hu]
    rfl

theorem muttAccountGetpass_view : matchView (muttAccountGetpass cfg ui a).2 = matchView a := by
  rcases muttAccountGetpass_cases cfg ui a with ⟨-, e⟩ | ⟨_, e⟩ | ⟨-, e | e⟩ <;> rw [e] <;> rfl

theorem CredOp.apply_view (hu : a.flags.user = true) :
    ∀ op : CredOp, matchView (op.apply cfg a) = matchView a
  | .getuser _ => by rw [CredOp.apply, muttAccountGetuser_of_user hu]
  | .getlogin _ => muttAccountGetlogin_view hu
  | .getpass _ => muttAccountGetpass_view
  | .unsetpass => rfl

theorem CredOp.foldl_view : ∀ (ops : List CredOp) (a : Account sz), a.flags.user = true →
    matchView (ops.foldl (CredOp.apply cfg) a) = matchView a
  | [], _, _ => rfl
  | op :: ops, a, hu =>
    (CredOp.foldl_view ops _ ((CredOp.apply_keeps cfg a op).2.1 hu)).trans
      (CredOp.apply_view hu op)

end Credentials

/-- Once an account has a user, the credential calls keep every match of it. -/
theorem credentials_keep_matches (cfg : Config) (ops : List CredOp) (a : Account sz)
    (hu : a.flags.user = true) (b : Account sz) :
    let a' := ops.foldl (CredOp.apply cfg) a
    muttAccountMatch cfg a' b = muttAccountMatch cfg a b ∧
      muttAccountMatch cfg b a' = muttAccountMatch cfg b a :=
  muttAccountMatch_view (CredOp.foldl_view ops a hu) cfg b

theorem credentials_keep_matches_nntp :
    let cfg : Config := { Config.unset with nntpUser := some ⟨"ann".toList, by decide⟩ }
    let a : Account AccountSizes.sample :=
      { user := ⟨"ann".toList, by decide⟩, login := ⟨[], by decide⟩, pass := ⟨[], by decide⟩,
        host := ⟨"news".toList, by decide⟩, port := 119, type := .nntp,
        flags := ⟨true, true, false, false, false⟩ }
    let b : Account AccountSizes.sample :=
      { user := ⟨[], by decide⟩, login := ⟨[], by decide⟩, pass := ⟨[], by decide⟩,
        host := ⟨"NEWS".toList, by decide⟩, port := 119, type := .nntp,
        flags := ⟨true, false, false, false, false⟩ }
    let a' := [CredOp.getpass .cancelled, .unsetpass, .getlogin .cancelled,
      .getuser .cancelled].foldl (CredOp.apply cfg) a
    a.flags.user = true ∧ muttAccountMatch cfg a' b = muttAccountMatch cfg a b :=
  ⟨rfl, (credentials_keep_matches _ _ _ rfl _).1⟩

theorem muttAccountFromurl_tourl_view {a b : Account sz} (ha : a.flags.port = true → a.port ≠ 0)
    (hb : b.flags.user = false ∧ b.flags.pass = false ∧ b.flags.port = false)
    (ht : b.type = a.type) (hp : a.flags.port = false → b.port = a.port) :
    matchView (muttAccountFromurl b (muttAccountTourl a)).2 = matchView a := by
  obtain ⟨-, hh, hfu, -, -, hu, -, hpo⟩ := muttAccountFromurl_tourl (b := b) ha hb
  obtain ⟨-, -, -, -, hport, -, htype, -⟩ :=
    @muttAccountFromurl_spec _ b (muttAccountTourl a) _ rfl
  simp only [matchView, hostKey, hh, hfu, htype, ht, Prod.mk.injEq, true_and]
  constructor
  · cases hpf : a.flags.port
    · rw [hport]
      simp [muttAccountTourl, hpf, hp hpf]
    · exact hpo hpf
  · cases huf : a.flags.user
    · rfl
    · simp [hu huf]

/-- An account read back from its URL matches exactly as the account does. -/
theorem url_round_trip_keeps_matches (cfg : Config) {a b : Account sz}
    (ha : a.flags.port = true → a.port ≠ 0)
    (hb : b.flags.user = false ∧ b.flags.pass = false ∧ b.flags.port = false)
    (ht : b.type = a.type) (hp : a.flags.port = false → b.port = a.port) :
    let r := (muttAccountFromurl b (muttAccountTourl a)).2
    muttAccountMatch cfg r a = true ∧ muttAccountMatch cfg a r = true ∧
      ∀ c : Account sz, muttAccountMatch cfg r c = muttAccountMatch cfg a c ∧
        muttAccountMatch cfg c r = muttAccountMatch cfg c a := by
  have hv := muttAccountFromurl_tourl_view ha hb ht hp
  refine ⟨?_, ?_, muttAccountMatch_view hv cfg⟩
  · rw [(muttAccountMatch_view hv cfg a).1]
    exact muttAccountMatch_refl a
  · rw [(muttAccountMatch_view hv cfg a).2]
    exact muttAccountMatch_refl a

theorem url_round_trip_keeps_matches_imaps :
    let a : Account AccountSizes.sample :=
      { user := ⟨"bob".toList, by decide⟩, login := ⟨[], by decide⟩,
        pass := ⟨"pw".toList, by decide⟩, host := ⟨"Mail.Example".toList, by decide⟩,
        port := 993, type := .imap, flags := ⟨true, true, false, true, true⟩ }
    let b : Account AccountSizes.sample :=
      { user := ⟨[], by decide⟩, login := ⟨[], by decide⟩, pass := ⟨[], by decide⟩,
        host := ⟨[], by decide⟩, port := 0, type := .imap,
        flags := ⟨false, false, false, false, false⟩ }
    (a.flags.port = true → a.port ≠ 0) ∧
      (b.flags.user = false ∧ b.flags.pass = false ∧ b.flags.port = false) ∧
      b.type = a.type ∧ (a.flags.port = false → b.port = a.port) ∧
      muttAccountMatch Config.unset (muttAccountFromurl b (muttAccountTourl a)).2 a = true :=
  ⟨by decide, by decide, rfl, by decide,
    And.left (url_round_trip_keeps_matches _ (by decide) (by decide) rfl (by decide))⟩

end NeoMutt.MuttAccount
