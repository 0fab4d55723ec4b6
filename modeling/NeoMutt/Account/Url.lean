import NeoMutt.Account.Basic

/-! # Accounts to URLs and back

`mutt_account_tourl` writes every field of a `Url` from an account, exposing the user, the
password and the port only under their flags; `mutt_account_fromurl` copies what a URL has into
an account and sets the matching flags. Read back into an account whose user, password and
port flags are clear, a URL gives the account it came from on everything it exposes; and a URL
whose strings fit the account comes back unchanged on its host, user, password and port.
-/
namespace NeoMutt.MuttAccount

variable {sz : AccountSizes}

/-- `mutt_account_fromurl`: the return value and the filled account. -/
def muttAccountFromurl (account : Account sz) (url : Url) : ℤ × Account sz :=
  match url.host with
  | none => (-1, account)
  | some host =>
    let account : Account sz := { account with
      host := muttStrStrfcpy sz.host host,
      host_fits := muttStrStrfcpy_length_lt sz.host_pos host }
    let account : Account sz := match url.user with
      | some user => { account with
          user := muttStrStrfcpy sz.user user,
          user_fits := muttStrStrfcpy_length_lt sz.user_pos user,
          flags := { account.flags with user := true } }
      | none => account
    let account : Account sz := match url.pass with
      | some pass => { account with
          pass := muttStrStrfcpy sz.pass pass,
          pass_fits := muttStrStrfcpy_length_lt sz.pass_pos pass,
          flags := { account.flags with pass := true } }
      | none => account
    let account : Account sz := if url.port ≠ 0 then
        { account with port := url.port, flags := { account.flags with port := true } }
      else account
    (0, account)

/-- The scheme `mutt_account_tourl` writes for a protocol, with or without `MUTT_ACCT_SSL`. -/
def urlScheme (type : AcctType) (ssl : Bool) : UrlScheme :=
  match type with
  | .imap => if ssl then .imaps else .imap
  | .pop => if ssl then .pops else .pop
  | .smtp => if ssl then .smtps else .smtp
  | .nntp => if ssl then .nntps else .nntp
  | .none => .unknown

/-- `mutt_account_tourl`: every field of `url` is written, so the URL is the result. -/
def muttAccountTourl (account : Account sz) : Url where
  scheme := urlScheme account.type account.flags.ssl
  user := if account.flags.user then some account.user else none
  pass := if account.flags.pass then some account.pass else none
  host := some account.host
  port := if account.flags.port then account.port else 0
  path := none

/-- The strings of a URL fit the arrays of an account of sizes `sz`. -/
def Url.FitsIn (url : Url) (sz : AccountSizes) : Prop :=
  (∀ s ∈ url.host, s.1.length < sz.host) ∧ (∀ s ∈ url.user, s.1.length < sz.user) ∧
    ∀ s ∈ url.pass, s.1.length < sz.pass

instance (url : Url) (sz : AccountSizes) : Decidable (url.FitsIn sz) :=
  inferInstanceAs (Decidable (_ ∧ _ ∧ _))

def AcctFlags.fromurl (flags : AcctFlags) (url : Url) : AcctFlags :=
  { flags with user := flags.user || url.user.isSome, pass := flags.pass || url.pass.isSome,
               port := flags.port || decide (url.port ≠ 0) }

theorem muttAccountFromurl_spec {account : Account sz} {url : Url} {host : CString}
    (h : url.host = some host) :
    let r := muttAccountFromurl account url
    r.1 = 0 ∧ r.2.host = muttStrStrfcpy sz.host host ∧
      r.2.user = (url.user.map (muttStrStrfcpy sz.user)).getD account.user ∧
      r.2.pass = (url.pass.map (muttStrStrfcpy sz.pass)).getD account.pass ∧
      r.2.port = (if url.port ≠ 0 then url.port else account.port) ∧
      r.2.login = account.login ∧ r.2.type = account.type ∧
      r.2.flags = account.flags.fromurl url := by
  unfold muttAccountFromurl AcctFlags.fromurl
  rw [h]
  cases url.user <;> cases url.pass <;> by_cases hp : url.port = 0 <;> simp [hp]

theorem muttAccountFromurl_of_host_none {account : Account sz} {url : Url}
    (h : url.host = none) : muttAccountFromurl account url = (-1, account) := by
  simp only [muttAccountFromurl, h]

section RoundTrip
variable {b : Account sz}

theorem muttAccountFromurl_tourl {a : Account sz} (ha : a.flags.port = true → a.port ≠ 0)
    (hb : b.flags.user = false ∧ b.flags.pass = false ∧ b.flags.port = false) :
    let r := muttAccountFromurl b (muttAccountTourl a)
    r.1 = 0 ∧ r.2.host = a.host ∧ r.2.flags.user = a.flags.user ∧
      r.2.flags.pass = a.flags.pass ∧ r.2.flags.port = a.flags.port ∧
      (a.flags.user = true → r.2.user = a.user) ∧ (a.flags.pass = true → r.2.pass = a.pass) ∧
      (a.flags.port = true → r.2.port = a.port) := by
  obtain ⟨h0, hh, hu, hp, hport, -, -, hf⟩ :=
    @muttAccountFromurl_spec _ b (muttAccountTourl a) _ rfl
  refine ⟨h0, hh.trans (muttStrStrfcpy_of_lt a.host_fits), ?_⟩
  rw [hf, hu, hp, hport]
  obtain ⟨hbu, hbp, hbport⟩ := hb
  simp only [muttAccountTourl, AcctFlags.fromurl, hbu, hbp, hbport, Bool.false_or]
  cases hau : a.flags.user <;> cases hap : a.flags.pass <;> by_cases hpo : a.flags.port <;>
    simp [muttStrStrfcpy_of_lt a.user_fits, muttStrStrfcpy_of_lt a.pass_fits, ha, hpo]

theorem muttAccountTourl_fromurl {u : Url} (hb : b.flags.user = false ∧ b.flags.pass = false ∧
      b.flags.port = false) (hhost : u.host.isSome) (hfits : u.FitsIn sz) :
    let u' := muttAccountTourl (muttAccountFromurl b u).2
    u'.host = u.host ∧ u'.user = u.user ∧ u'.pass = u.pass ∧ u'.port = u.port := by
  obtain ⟨host, hh⟩ := Option.isSome_iff_exists.1 hhost
  obtain ⟨-, hrh, hu, hp, hport, -, -, hf⟩ := @muttAccountFromurl_spec _ b _ _ hh
  obtain ⟨hfh, hfu, hfp⟩ := hfits
  obtain ⟨hbu, hbp, hbport⟩ := hb
  simp only [muttAccountTourl, hrh, hu, hp, hport, hf, AcctFlags.fromurl, hbu, hbp, hbport,
    Bool.false_or, hh, muttStrStrfcpy_of_lt (hfh host hh), true_and]
  refine ⟨?_, ?_, ?_⟩
  · cases hu' : u.user with
    | none => rfl
    | some user => simp [muttStrStrfcpy_of_lt (hfu user hu')]
  · cases hp' : u.pass with
    | none => rfl
    | some pass => simp [muttStrStrfcpy_of_lt (hfp pass hp')]
  · by_cases h0 : u.port = 0 <;> simp [h0]

end RoundTrip

/-- `mutt_account_tourl` and `mutt_account_fromurl` undo each other. -/
theorem account_url_round_trip (b : Account sz)
    (hb : b.flags.user = false ∧ b.flags.pass = false ∧ b.flags.port = false) :
    (∀ a : Account sz, (a.flags.port = true → a.port ≠ 0) →
      let r := muttAccountFromurl b (muttAccountTourl a)
      r.1 = 0 ∧ r.2.host = a.host ∧ r.2.flags.user = a.flags.user ∧
        r.2.flags.pass = a.flags.pass ∧ r.2.flags.port = a.flags.port ∧
        (a.flags.user = true → r.2.user = a.user) ∧ (a.flags.pass = true → r.2.pass = a.pass) ∧
        (a.flags.port = true → r.2.port = a.port)) ∧
    (∀ u : Url, u.host.isSome → u.FitsIn sz →
      let u' := muttAccountTourl (muttAccountFromurl b u).2
      u'.host = u.host ∧ u'.user = u.user ∧ u'.pass = u.pass ∧ u'.port = u.port) :=
  ⟨fun _ ha => muttAccountFromurl_tourl ha hb, fun _ hh hf => muttAccountTourl_fromurl hb hh hf⟩

theorem account_url_round_trip_imap :
    let b : Account AccountSizes.sample :=
      { user := ⟨[], by decide⟩, login := ⟨[], by decide⟩, pass := ⟨[], by decide⟩,
        host := ⟨[], by decide⟩, port := 0, type := .imap,
        flags := ⟨false, false, false, false, false⟩ }
    let a : Account AccountSizes.sample :=
      { user := ⟨"bob".toList, by decide⟩, login := ⟨[], by decide⟩,
        pass := ⟨"pw".toList, by decide⟩, host := ⟨"mail.example".toList, by decide⟩,
        port := 993, type := .imap, flags := ⟨true, true, false, true, true⟩ }
    let u : Url :=
      { scheme := .imap, user := some ⟨"ann".toList, by decide⟩, pass := none,
        host := some ⟨"mail.example".toList, by decide⟩, port := 0, path := none }
    (b.flags.user = false ∧ b.flags.pass = false ∧ b.flags.port = false) ∧
      (a.flags.port = true → a.port ≠ 0) ∧ u.host.isSome ∧ u.FitsIn AccountSizes.sample ∧
      (muttAccountFromurl b (muttAccountTourl a)).2.user = a.user ∧
      (muttAccountTourl (muttAccountFromurl b u).2).user = u.user :=
  ⟨by decide, by decide, rfl, by decide,
    ((account_url_round_trip _ (by decide)).1 _ (by decide)).2.2.2.2.2.1 rfl,
    ((account_url_round_trip _ (by decide)).2 _ (by decide) (by decide)).2.1⟩

end NeoMutt.MuttAccount
