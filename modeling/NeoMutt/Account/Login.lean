import NeoMutt.Account.Match

/-! # Credentials

`mutt_account_getuser`, `mutt_account_getlogin` and `mutt_account_getpass` fill in what an
account lacks: from the setting of its protocol when that is set, else by prompting, unless
curses is off; `mutt_account_unsetpass` forgets the password. Each returns 0 exactly when its
flag is set afterwards. None of them touches the protocol, the host, the port or `MUTT_ACCT_SSL`,
so an account keeps naming its server through any sequence of them, and a user or login, once
set, stays set. A user filled in from the settings is the one `mutt_account_match` already
assumed, so the accounts it matches stay the same.
-/
namespace NeoMutt.MuttAccount

variable {sz : AccountSizes}

/-- The prompts, each giving the text entered or `none`; `string` is `STRING`. -/
structure Prompter where
  string : ℕ
  getField : List Char → CString → Option CString
  getPassword : List Char → Option CString

def Prompter.cancelled : Prompter := ⟨256, fun _ _ => none, fun _ => none⟩

/-- `snprintf(prompt, sizeof(prompt), ...)` into `char prompt[STRING]`. -/
def Prompter.format (ui : Prompter) (text : List Char) : List Char :=
  text.take (ui.string - 1)

/-- The user set for a protocol: `ImapUser`, `PopUser` or `NntpUser`. -/
def protocolUser (cfg : Config) : AcctType → Option CString
  | .imap => cfg.imapUser
  | .pop => cfg.popUser
  | .nntp => cfg.nntpUser
  | .smtp => none
  | .none => none

def protocolPass (cfg : Config) : AcctType → Option CString
  | .imap => cfg.imapPass
  | .pop => cfg.popPass
  | .smtp => cfg.smtpPass
  | .nntp => cfg.nntpPass
  | .none => none

/-- `mutt_str_strfcpy(account->user, user, sizeof(account->user))`. -/
def Account.copyUser (a : Account sz) (user : CString) : Account sz :=
  { a with user := muttStrStrfcpy sz.user user,
           user_fits := muttStrStrfcpy_length_lt sz.user_pos user }

def Account.copyLogin (a : Account sz) (login : CString) : Account sz :=
  { a with login := muttStrStrfcpy sz.login login,
           login_fits := muttStrStrfcpy_length_lt sz.login_pos login }

def Account.copyPass (a : Account sz) (pass : CString) : Account sz :=
  { a with pass := muttStrStrfcpy sz.pass pass,
           pass_fits := muttStrStrfcpy_length_lt sz.pass_pos pass }

/-- `account->flags |= MUTT_ACCT_USER`. -/
def Account.setUserFlag (a : Account sz) : Account sz := { a with flags.user := true }

def Account.setLoginFlag (a : Account sz) : Account sz := { a with flags.login := true }

def Account.setPassFlag (a : Account sz) : Account sz := { a with flags.pass := true }

/-- `mutt_account_getuser`. -/
def muttAccountGetuser (cfg : Config) (ui : Prompter) (account : Account sz) : ℤ × Account sz :=
  if account.flags.user then (0, account)
  else
    match protocolUser cfg account.type with
    | some user => (0, (account.copyUser user).setUserFlag)
    | none =>
      if cfg.noCurses then (-1, account)
      else
        let prompt := ui.format ("Username at ".toList ++ account.host.1 ++ ": ".toList)
        let account := account.copyUser (nonull cfg.username)
        match ui.getField prompt account.user with
        | some user => (0, (account.copyUser user).setUserFlag)
        | none => (-1, account)

/-- `mutt_account_getlogin`; the debug message of a failure is not modelled. -/
def muttAccountGetlogin (cfg : Config) (ui : Prompter) (account : Account sz) :
    ℤ × Account sz :=
  if account.flags.login then (0, account)
  else
    let account := if account.type = .imap then
        match cfg.imapLogin with
        | some login => (account.copyLogin login).setLoginFlag
        | none => account
      else account
    if !account.flags.login then
      let r := muttAccountGetuser cfg ui account
      if r.1 = 0 then (0, (r.2.copyLogin r.2.user).setLoginFlag)
      else (-1, r.2)
    else (0, account)

def muttAccountGetpass (cfg : Config) (ui : Prompter) (account : Account sz) : ℤ × Account sz :=
  if account.flags.pass then (0, account)
  else
    match protocolPass cfg account.type with
    | some pass => (0, (account.copyPass pass).setPassFlag)
    | none =>
      if cfg.noCurses then (-1, account)
      else
        let who := if account.flags.login then account.login else account.user
        let prompt := ui.format
          ("Password for ".toList ++ who.1 ++ "@".toList ++ account.host.1 ++ ": ".toList)
        let account := account.copyPass ⟨[], List.not_mem_nil _⟩
        match ui.getPassword prompt with
        | some pass => (0, (account.copyPass pass).setPassFlag)
        | none => (-1, account)

def muttAccountUnsetpass (account : Account sz) : Account sz := { account with flags.pass := false }

/-- The server an account names: protocol, host, port and `MUTT_ACCT_SSL`. -/
def Account.server (a : Account sz) : AcctType × CString × UInt16 × Bool :=
  (a.type, a.host, a.port, a.flags.ssl)

section Cases
variable (cfg : Config) (ui : Prompter) (a : Account sz)

theorem Account.copyUser_copyUser (u v : CString) : (a.copyUser u).copyUser v = a.copyUser v :=
  rfl

/-- What `mutt_account_getuser` can do. -/
theorem muttAccountGetuser_cases :
    (a.flags.user = true ∧ muttAccountGetuser cfg ui a = (0, a)) ∨
    (∃ user, muttAccountGetuser cfg ui a = (0, (a.copyUser user).setUserFlag)) ∨
    (a.flags.user = false ∧ (muttAccountGetuser cfg ui a = (-1, a) ∨
      muttAccountGetuser cfg ui a = (-1, a.copyUser (nonull cfg.username)))) := by
  unfold muttAccountGetuser
  cases hu : a.flags.user
  · simp only [Bool.false_eq_true, if_false]
    split
    · exact .inr (.inl ⟨_, rfl⟩)
    · split
      · exact .inr (.inr ⟨trivial, .inl rfl⟩)
      · split
        · exact .inr (.inl ⟨_, rfl⟩)
        · exact .inr (.inr ⟨trivial, .inr rfl⟩)
  · exact .inl ⟨rfl, rfl⟩

theorem Account.copyPass_copyPass (u v : CString) : (a.copyPass u).copyPass v = a.copyPass v :=
  rfl

theorem muttAccountGetlogin_cases :
    (a.flags.login = true ∧ muttAccountGetlogin cfg ui a = (0, a)) ∨
    (∃ login, muttAccountGetlogin cfg ui a = (0, (a.copyLogin login).setLoginFlag)) ∨
    (a.flags.login = false ∧
      let r := muttAccountGetuser cfg ui a
      muttAccountGetlogin cfg ui a =
        if r.1 = 0 then (0, (r.2.copyLogin r.2.user).setLoginFlag) else (-1, r.2)) := by
  unfold muttAccountGetlogin
  cases hl : a.flags.login
  · simp only [Bool.false_eq_true, if_false]
    by_cases ht : a.type = .imap
    · cases hi : cfg.imapLogin with
      | some login => exact .inr (.inl ⟨login, by simp [ht, hi, Account.setLoginFlag]⟩)
      | none => exact .inr (.inr ⟨trivial, by simp [ht, hi, hl]⟩)
    · exact .inr (.inr ⟨trivial, by simp [ht, hl]⟩)
  · exact .inl ⟨rfl, rfl⟩

theorem muttAccountGetpass_cases :
    (a.flags.pass = true ∧ muttAccountGetpass cfg ui a = (0, a)) ∨
    (∃ pass, muttAccountGetpass cfg ui a = (0, (a.copyPass pass).setPassFlag)) ∨
    (a.flags.pass = false ∧ (muttAccountGetpass cfg ui a = (-1, a) ∨
      muttAccountGetpass cfg ui a = (-1, a.copyPass ⟨[], List.not_mem_nil _⟩))) := by
  unfold muttAccountGetpass
  cases hp : a.flags.pass
  · simp only [Bool.false_eq_true, if_false]
    split
    · exact .inr (.inl ⟨_, rfl⟩)
    · split
      · exact .inr (.inr ⟨trivial, .inl rfl⟩)
      · split
        · exact .inr (.inl ⟨_, rfl⟩)
        · exact .inr (.inr ⟨trivial, .inr rfl⟩)
  · exact .inl ⟨rfl, rfl⟩

end Cases

/-- `a'` names the same server as `a`, and has the user and the login `a` has. -/
def Account.Keeps (a a' : Account sz) : Prop :=
  a'.server = a.server ∧ (a.flags.user = true → a'.flags.user = true) ∧
    (a.flags.login = true → a'.flags.login = true)

theorem Account.Keeps.trans {a b c : Account sz} (h : a.Keeps b) (h' : b.Keeps c) : a.Keeps c :=
  ⟨h'.1.trans h.1, fun hu => h'.2.1 (h.2.1 hu), fun hl => h'.2.2 (h.2.2 hl)⟩

section Laws
variable {cfg : Config} {ui : Prompter} {a : Account sz}

theorem muttAccountGetuser_rc :
    (muttAccountGetuser cfg ui a).1 =
      if (muttAccountGetuser cfg ui a).2.flags.user then 0 else -1 := by
  rcases muttAccountGetuser_cases cfg ui a with ⟨h, e⟩ | ⟨_, e⟩ | ⟨h, e | e⟩ <;>
    simp [*, Account.copyUser, Account.setUserFlag]

theorem muttAccountGetuser_keeps :
    a.Keeps (muttAccountGetuser cfg ui a).2 ∧
      (muttAccountGetuser cfg ui a).2.flags.login = a.flags.login := by
  rcases muttAccountGetuser_cases cfg ui a with ⟨h, e⟩ | ⟨_, e⟩ | ⟨h, e | e⟩ <;>
    simp [*, Account.Keeps, Account.server, Account.copyUser, Account.setUserFlag]

theorem muttAccountGetlogin_rc :
    (muttAccountGetlogin cfg ui a).1 =
      if (muttAccountGetlogin cfg ui a).2.flags.login then 0 else -1 := by
  rcases muttAccountGetlogin_cases cfg ui a with ⟨h, e⟩ | ⟨_, e⟩ | ⟨h, e⟩
  · simp [e, h]
  · simp [e, Account.setLoginFlag]
  · rw [e]
    by_cases h0 : (muttAccountGetuser cfg ui a).1 = 0 <;>
      simp [h0, muttAccountGetuser_keeps.2, h, Account.setLoginFlag]

theorem muttAccountGetlogin_keeps : a.Keeps (muttAccountGetlogin cfg ui a).2 := by
  rcases muttAccountGetlogin_cases cfg ui a with ⟨h, e⟩ | ⟨_, e⟩ | ⟨h, e⟩
  · simp [e, Account.Keeps]
  · simp [e, Account.Keeps, Account.server, Account.copyLogin, Account.setLoginFlag]
  · rw [e]
    have hu := (@muttAccountGetuser_keeps _ cfg ui a).1
    split_ifs
    · exact hu.trans ⟨rfl, fun h => h, fun _ => rfl⟩
    · exact hu

theorem muttAccountGetpass_rc :
    (muttAccountGetpass cfg ui a).1 =
      if (muttAccountGetpass cfg ui a).2.flags.pass then 0 else -1 := by
  rcases muttAccountGetpass_cases cfg ui a with ⟨h, e⟩ | ⟨_, e⟩ | ⟨h, e | e⟩ <;>
    simp [*, Account.copyPass, Account.setPassFlag]

theorem muttAccountGetpass_keeps : a.Keeps (muttAccountGetpass cfg ui a).2 := by
  rcases muttAccountGetpass_cases cfg ui a with ⟨h, e⟩ | ⟨_, e⟩ | ⟨h, e | e⟩ <;>
    simp [e, Account.Keeps, Account.server, Account.copyPass, Account.setPassFlag]

theorem muttAccountUnsetpass_keeps : a.Keeps (muttAccountUnsetpass a) :=
  ⟨rfl, id, id⟩

end Laws

/-- The calls that fill in or forget an account's credentials. -/
inductive CredOp
  | getuser (ui : Prompter)
  | getlogin (ui : Prompter)
  | getpass (ui : Prompter)
  | unsetpass

def CredOp.apply (cfg : Config) (a : Account sz) : CredOp → Account sz
  | .getuser ui => (muttAccountGetuser cfg ui a).2
  | .getlogin ui => (muttAccountGetlogin cfg ui a).2
  | .getpass ui => (muttAccountGetpass cfg ui a).2
  | .unsetpass => muttAccountUnsetpass a

theorem CredOp.apply_keeps (cfg : Config) (a : Account sz) : ∀ op : CredOp, a.Keeps (op.apply cfg a)
  | .getuser _ => muttAccountGetuser_keeps.1
  | .getlogin _ => muttAccountGetlogin_keeps
  | .getpass _ => muttAccountGetpass_keeps
  | .unsetpass => muttAccountUnsetpass_keeps

theorem CredOp.foldl_keeps (cfg : Config) :
    ∀ (ops : List CredOp) (a : Account sz), a.Keeps (ops.foldl (CredOp.apply cfg) a)
  | [], _ => ⟨rfl, id, id⟩
  | op :: ops, a => (CredOp.apply_keeps cfg a op).trans (CredOp.foldl_keeps cfg ops _)

/-- The credential calls keep the server, and a user or a login once set. -/
theorem credentials_keep_server (cfg : Config) :
    (∀ (ui : Prompter) (a : Account sz),
      (muttAccountGetuser cfg ui a).1 =
          (if (muttAccountGetuser cfg ui a).2.flags.user then 0 else -1) ∧
        (muttAccountGetlogin cfg ui a).1 =
          (if (muttAccountGetlogin cfg ui a).2.flags.login then 0 else -1) ∧
        (muttAccountGetpass cfg ui a).1 =
          (if (muttAccountGetpass cfg ui a).2.flags.pass then 0 else -1)) ∧
    ∀ (ops : List CredOp) (a : Account sz),
      let a' := ops.foldl (CredOp.apply cfg) a
      a'.server = a.server ∧ (a.flags.user = true → a'.flags.user = true) ∧
        (a.flags.login = true → a'.flags.login = true) :=
  ⟨fun _ _ => ⟨muttAccountGetuser_rc, muttAccountGetlogin_rc, muttAccountGetpass_rc⟩,
    CredOp.foldl_keeps cfg⟩

theorem credentials_keep_server_after_unsetpass :
    let a : Account AccountSizes.sample :=
      { user := ⟨"bob".toList, by decide⟩, login := ⟨"bob".toList, by decide⟩,
        pass := ⟨[], by decide⟩, host := ⟨"mail.example".toList, by decide⟩, port := 993,
        type := .imap, flags := ⟨true, true, true, false, true⟩ }
    let a' := [CredOp.getpass .cancelled, .unsetpass, .getlogin .cancelled].foldl
      (CredOp.apply Config.unset) a
    a.flags.user = true ∧ a'.server = a.server ∧ a'.flags.user = true :=
  ⟨rfl, ((credentials_keep_server _).2 _ _).1, ((credentials_keep_server _).2 _ _).2.1 rfl⟩

theorem configuredUser_eq (cfg : Config) (type : AcctType) :
    configuredUser cfg type = (protocolUser cfg type).getD (nonull cfg.username) := by
  cases type <;> rfl

theorem muttAccountGetuser_of_protocolUser {cfg : Config} (ui : Prompter) {a : Account sz}
    {u : CString} (hp : protocolUser cfg a.type = some u) :
    muttAccountGetuser cfg ui a =
      if a.flags.user then (0, a) else (0, (a.copyUser u).setUserFlag) := by
  cases h : a.flags.user <;> simp [muttAccountGetuser, h, hp]

/-- Getting the user from the settings keeps every match of the account. -/
theorem getuser_from_settings_keeps_matches (cfg : Config) (ui : Prompter) (a : Account sz)
    {u : CString} (hn : a.type ≠ .nntp) (hp : protocolUser cfg a.type = some u)
    (hu : u.1.length < sz.user) :
    let r := muttAccountGetuser cfg ui a
    r.1 = 0 ∧ r.2.flags.user = true ∧ effectiveUser cfg r.2 = effectiveUser cfg a ∧
      ∀ b : Account sz, muttAccountMatch cfg r.2 b = muttAccountMatch cfg a b ∧
        muttAccountMatch cfg b r.2 = muttAccountMatch cfg b a := by
  rw [muttAccountGetuser_of_protocolUser ui hp]
  cases h : a.flags.user
  · have he : effectiveUser cfg (a.copyUser u).setUserFlag = effectiveUser cfg a := by
      simp [effectiveUser, h, Account.copyUser, Account.setUserFlag, muttStrStrfcpy_of_lt hu,
        configuredUser_eq, hp]
    exact ⟨rfl, rfl, he, muttAccountMatch_congr hn rfl rfl rfl he⟩
  · exact ⟨rfl, h, rfl, fun _ => ⟨rfl, rfl⟩⟩

theorem getuser_from_settings_keeps_matches_imap :
    let cfg : Config := { Config.unset with imapUser := some ⟨"bob".toList, by decide⟩ }
    let a : Account AccountSizes.sample :=
      { user := ⟨[], by decide⟩, login := ⟨[], by decide⟩, pass := ⟨[], by decide⟩,
        host := ⟨"mail.example".toList, by decide⟩, port := 993, type := .imap,
        flags := ⟨true, false, false, false, true⟩ }
    a.type ≠ .nntp ∧ protocolUser cfg a.type = some ⟨"bob".toList, by decide⟩ ∧
      "bob".toList.length < AccountSizes.sample.user ∧ (muttAccountGetuser cfg .cancelled a).1 = 0 :=
  ⟨by decide, rfl, by decide,
    And.left (@getuser_from_settings_keeps_matches _ _ _ _ ⟨"bob".toList, by decide⟩ (by decide)
      (by decide) (by decide))⟩

end NeoMutt.MuttAccount
