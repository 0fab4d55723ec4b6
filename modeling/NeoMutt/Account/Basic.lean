import Mathlib.Data.List.Basic

/-! # Accounts, URLs and the settings they are read with

`struct Account` and `struct Url` as `mutt_account.c` reads and writes them. Their declarations
(`mutt_account.h`, `url.h`) and the string functions of `mutt/string.c` are not under src/:
the sizes of the account's arrays are parameters, each `MUTT_ACCT_*` bit of `flags` is a
Boolean, and `mutt_str_strfcpy`, `strcmp` and `mutt_str_strcasecmp` compute what their C
definitions compute on NUL-terminated strings. Every protocol (`USE_IMAP`, `USE_POP`,
`USE_SMTP`, `USE_NNTP`) is compiled in.
-/
namespace NeoMutt.MuttAccount

/-- A NUL-terminated string, as the bytes before its NUL. -/
abbrev CString := {s : List Char // '\x00' ∉ s}

/-- `NONULL(s)`: the string, or `""` for NULL. -/
def nonull : Option CString → CString
  | some s => s
  | none => ⟨[], List.not_mem_nil _⟩

/-- `mutt_str_strfcpy(dest, src, dsize)`: at most `dsize - 1` bytes of `src`, then a NUL. -/
def muttStrStrfcpy (dsize : ℕ) (src : CString) : CString :=
  ⟨src.1.take (dsize - 1), fun h => src.2 (List.mem_of_mem_take h)⟩

theorem muttStrStrfcpy_length_lt {dsize : ℕ} (h : 0 < dsize) (src : CString) :
    (muttStrStrfcpy dsize src).1.length < dsize := by
  simp only [muttStrStrfcpy, List.length_take]
  omega

theorem muttStrStrfcpy_of_lt {dsize : ℕ} {src : CString} (h : src.1.length < dsize) :
    muttStrStrfcpy dsize src = src :=
  Subtype.ext (List.take_of_length_le (by omega))

/-- `strcmp` after mapping each byte by `f`; `mutt_str_strcasecmp` maps by `tolower`. -/
def compareBy (f : Char → Char) : List Char → List Char → ℤ
  | [], [] => 0
  | [], b :: _ => -((f b).toNat : ℤ)
  | a :: _, [] => (f a).toNat
  | a :: as, b :: bs => if f a = f b then compareBy f as bs else (f a).toNat - (f b).toNat

def strcmp (a b : CString) : ℤ := compareBy id a.1 b.1

def muttStrStrcasecmp (a b : CString) : ℤ := compareBy Char.toLower a.1 b.1

theorem toNat_ne_zero {c : Char} (h : c ≠ '\x00') : c.toNat ≠ 0 := fun h0 =>
  h (by rw [← Char.ofNat_toNat c, h0])

theorem eq_of_toNat_eq {a b : Char} (h : a.toNat = b.toNat) : a = b := by
  rw [← Char.ofNat_toNat a, h, Char.ofNat_toNat]

section Compare
variable {f : Char → Char}

theorem compareBy_eq_zero (hf : ∀ c, f c = '\x00' → c = '\x00') :
    ∀ {a b : List Char}, '\x00' ∉ a → '\x00' ∉ b → (compareBy f a b = 0 ↔ a.map f = b.map f)
  | [], [], _, _ => by simp [compareBy]
  | [], b :: _, _, hb => by
    have hne := toNat_ne_zero fun h => hb (hf b h ▸ List.mem_cons_self _ _)
    simp only [compareBy, List.map_nil, List.map_cons]
    exact ⟨fun h => absurd (by omega) hne, fun h => absurd h.symm (List.cons_ne_nil _ _)⟩
  | a :: _, [], ha, _ => by
    have hne := toNat_ne_zero fun h => ha (hf a h ▸ List.mem_cons_self _ _)
    simp only [compareBy, List.map_nil, List.map_cons]
    exact ⟨fun h => absurd (by omega) hne, fun h => absurd h (List.cons_ne_nil _ _)⟩
  | a :: as, b :: bs, ha, hb => by
    simp only [compareBy, List.map_cons, List.cons.injEq]
    split_ifs with hab
    · exact (compareBy_eq_zero hf (fun h => ha (List.mem_cons_of_mem _ h))
        (fun h => hb (List.mem_cons_of_mem _ h))).trans (and_iff_right hab).symm
    · exact ⟨fun h => absurd (eq_of_toNat_eq (by omega)) hab, fun h => absurd h.1 hab⟩

end Compare

theorem strcmp_eq_zero {a b : CString} : strcmp a b = 0 ↔ a = b := by
  rw [strcmp, @compareBy_eq_zero id (fun _ h => h) _ _ a.2 b.2, List.map_id, List.map_id]
  exact Subtype.ext_iff.symm

theorem toLower_eq_nul {c : Char} (h : c.toLower = '\x00') : c = '\x00' := by
  unfold Char.toLower at h
  dsimp only at h
  split_ifs at h with hu
  · have key : ∀ n < 91, 65 ≤ n → Char.ofNat (n + 32) ≠ '\x00' := by decide
    exact absurd h (key _ (by omega) hu.1)
  · exact h

theorem muttStrStrcasecmp_eq_zero {a b : CString} :
    muttStrStrcasecmp a b = 0 ↔ a.1.map Char.toLower = b.1.map Char.toLower :=
  compareBy_eq_zero (fun _ => toLower_eq_nul) a.2 b.2

/-- `MUTT_ACCT_TYPE_*`: the protocol of an account. -/
inductive AcctType
  | none
  | imap
  | pop
  | smtp
  | nntp
  deriving DecidableEq, Repr

/-- The `MUTT_ACCT_*` bits of `account->flags`. -/
structure AcctFlags where
  port : Bool
  user : Bool
  login : Bool
  pass : Bool
  ssl : Bool
  deriving DecidableEq, Repr

structure AccountSizes where
  user : ℕ
  login : ℕ
  pass : ℕ
  host : ℕ
  user_pos : 0 < user
  login_pos : 0 < login
  pass_pos : 0 < pass
  host_pos : 0 < host

/-- `struct Account`: each string fits its array with its NUL. -/
structure Account (sz : AccountSizes) where
  user : CString
  login : CString
  pass : CString
  host : CString
  port : UInt16
  type : AcctType
  flags : AcctFlags
  user_fits : user.1.length < sz.user := by decide
  login_fits : login.1.length < sz.login := by decide
  pass_fits : pass.1.length < sz.pass := by decide
  host_fits : host.1.length < sz.host := by decide
  deriving DecidableEq

def AccountSizes.sample : AccountSizes :=
  ⟨128, 128, 256, 128, by decide, by decide, by decide, by decide⟩

/-- The `enum UrlScheme` values `mutt_account_tourl` writes. -/
inductive UrlScheme
  | unknown
  | imap
  | imaps
  | pop
  | pops
  | smtp
  | smtps
  | nntp
  | nntps
  deriving DecidableEq, Repr

/-- `struct Url`; NULL strings are `none`. -/
structure Url where
  scheme : UrlScheme
  user : Option CString
  pass : Option CString
  host : Option CString
  port : UInt16
  path : Option CString
  deriving DecidableEq

/-- The settings `mutt_account.c` reads, and `OPT_NO_CURSES`. -/
structure Config where
  username : Option CString
  imapUser : Option CString
  popUser : Option CString
  nntpUser : Option CString
  imapLogin : Option CString
  imapPass : Option CString
  popPass : Option CString
  smtpPass : Option CString
  nntpPass : Option CString
  noCurses : Bool

def Config.unset : Config := ⟨none, none, none, none, none, none, none, none, none, false⟩

end NeoMutt.MuttAccount
