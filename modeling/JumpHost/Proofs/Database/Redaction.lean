/-
**What is shown of a URL.**

A URL may hold a password, and what is reported before a connection may be shown to anybody.  A URL
that cannot be read is reported without its userinfo, and one whose scheme nobody registered by its
scheme alone.  The reader and the redaction look for different separators, and a userinfo may hold
all of them, so a URL can fail to be read in other ways with another userinfo.  What is shown is the
same all the same: it is made up from the scheme and from what stands behind the last `@`, and both
stand outside the userinfo.

Main results:

* `JumpHost.DatabaseUrl.redact_eq` — what is shown of a URL with a userinfo;
* `JumpHost.Pool.connect_eq_configuration_iff` — the refusals of a URL before any connection;
* `JumpHost.Pool.refusal_hides_userinfo` — **no refusal depends on the userinfo**.
-/

import JumpHost.Database.Connect
import JumpHost.Proofs.Database.Url

set_option autoImplicit false

namespace JumpHost

namespace DatabaseUrl

/-! ### Redaction -/

/-- What is shown of a URL with a userinfo: its scheme and what stands behind its last `@`. -/
theorem redact_eq {scheme before behind : List Char} (h : ¬schemeMark <:+: scheme)
    (hlast : '@' ∉ behind) :
    redact (String.ofList (scheme ++ schemeMark ++ (before ++ '@' :: behind))) =
      String.ofList (scheme ++ schemeMark ++ ['*', '*', '*', '@'] ++ behind) := by
  have hcut := Text.cutLast_append_cons hlast (scheme ++ schemeMark ++ before)
  rw [List.append_assoc] at hcut
  simp only [redact, String.toList_ofList, cut_schemeMark h, hcut]

end DatabaseUrl

namespace Pool

/-! ### Refusals -/

variable {α : Type} {d : Driver} {engineOf : α → Engine} {r : Registry α} {url : String}
  {e : TunnelError}

/-- A URL is refused before any connection exactly if it cannot be read or nobody registered its
scheme. -/
theorem connect_eq_configuration_iff :
    connect d engineOf r url = .error e ∧ e.kind = .configuration ↔
      DatabaseUrl.ofText? url.toList = none ∧ e = .invalidUrl (DatabaseUrl.redact url) ∨
        ∃ u, DatabaseUrl.ofText? url.toList = some u ∧ r.resolve u.scheme = none ∧
          e = .notRegistered u.scheme := by
  unfold connect DatabaseUrl.read
  cases hu : DatabaseUrl.ofText? url.toList with
  | none =>
    simp only [Except.error.injEq, reduceCtorEq, false_and, exists_false, or_false, true_and]
    constructor
    · exact fun h => h.1.symm
    · rintro rfl
      exact ⟨rfl, rfl⟩
  | some u =>
    simp only [reduceCtorEq, false_and, false_or, Option.some.injEq, exists_eq_left']
    cases ha : r.resolve u.scheme with
    | none =>
      simp only [Except.error.injEq, true_and]
      constructor
      · exact fun h => h.1.symm
      · rintro rfl
        exact ⟨rfl, rfl⟩
    | some adapter =>
      simp only [reduceCtorEq, false_and, iff_false, not_and]
      intro h hkind
      rcases kind_of_connectOver_eq_error h with hother | hother <;> cases hkind.symm.trans hother

/-- **No refusal depends on the userinfo.**  Whatever stands between the scheme and an `@`, a URL
that cannot be read is refused with one and the same error, which shows the scheme and what stands
behind the last `@` of the URL; and a URL whose scheme nobody registered is refused with an error
that shows the scheme alone. -/
theorem refusal_hides_userinfo {scheme : String} (h : ¬schemeMark <:+: scheme.toList)
    (tail : String) :
    let url (userinfo : String) := scheme ++ "://" ++ userinfo ++ "@" ++ tail
    ∃ behind : String, '@' ∉ behind.toList ∧
      (∀ userinfo, ∃ before, url userinfo = before ++ "@" ++ behind) ∧
      (∀ userinfo e, DatabaseUrl.read (url userinfo) = .error e →
        e = .invalidUrl (scheme ++ "://***@" ++ behind) ∧
          e.message = "invalid database URL '" ++ (scheme ++ "://***@" ++ behind) ++ "'") ∧
      (∀ userinfo userinfo' e e', DatabaseUrl.read (url userinfo) = .error e →
        DatabaseUrl.read (url userinfo') = .error e' → e.message = e'.message) ∧
      ∀ (α : Type) (d : Driver) (engineOf : α → Engine) (r : Registry α) userinfo e,
        connect d engineOf r (url userinfo) = .error e → e.kind = .configuration →
          e = .invalidUrl (scheme ++ "://***@" ++ behind) ∨
            r.resolve scheme = none ∧ e = .notRegistered scheme ∧
              e.message = "no dial adapter registered under '" ++ scheme ++ "'" := by
  intro url
  -- the last `@` of a URL is that behind the userinfo or stands in the tail
  obtain ⟨before, behind, htail, hlast⟩ : ∃ before behind : List Char,
      '@' :: tail.toList = before ++ '@' :: behind ∧ '@' ∉ behind := by
    cases hcut : Text.cutLast '@' ('@' :: tail.toList) with
    | none => exact absurd List.mem_cons_self (Text.cutLast_eq_none_iff.1 hcut)
    | some parts =>
      exact ⟨parts.1, parts.2, Text.eq_append_of_cutLast hcut, Text.not_mem_of_cutLast hcut⟩
  have hurl (userinfo : String) : (url userinfo).toList =
      scheme.toList ++ schemeMark ++ ((userinfo.toList ++ before) ++ '@' :: behind) := by
    rw [List.append_assoc userinfo.toList, ← htail]
    simp [url, schemeMark]
  have hshown (userinfo : String) : DatabaseUrl.redact (url userinfo) =
      scheme ++ "://***@" ++ String.ofList behind := by
    rw [← String.ofList_toList (s := url userinfo), hurl, DatabaseUrl.redact_eq h hlast]
    apply String.toList_injective
    simp [schemeMark]
  have hread (userinfo : String) (e : TunnelError)
      (he : DatabaseUrl.read (url userinfo) = .error e) :
      e = .invalidUrl (scheme ++ "://***@" ++ String.ofList behind) := by
    rw [(DatabaseUrl.read_eq_error_iff.1 he).2, hshown]
  refine ⟨String.ofList behind, by simpa using hlast, ?_, ?_, ?_, ?_⟩
  · intro userinfo
    refine ⟨String.ofList (scheme.toList ++ schemeMark ++ (userinfo.toList ++ before)), ?_⟩
    apply String.toList_injective
    rw [hurl]
    simp
  · intro userinfo e he
    obtain rfl := hread userinfo e he
    exact ⟨rfl, rfl⟩
  · intro userinfo userinfo' e e' he he'
    rw [hread userinfo e he, hread userinfo' e' he']
  · intro α d engineOf r userinfo e he hkind
    rcases connect_eq_configuration_iff.1 ⟨he, hkind⟩ with ⟨-, rfl⟩ | ⟨u, hu, hr, rfl⟩
    · exact Or.inl (congrArg _ (hshown userinfo))
    · rw [hurl] at hu
      have hscheme := DatabaseUrl.scheme_of_ofText? (DatabaseUrl.cut_schemeMark h _) hu
      rw [String.ofList_toList] at hscheme
      rw [hscheme] at hr ⊢
      exact Or.inr ⟨hr, rfl, rfl⟩

/-- A URL whose port cannot be read and one whose password ends the authority too early are refused
with the same words. -/
theorem refusal_hides_userinfo_separators :
    let url (userinfo : String) := "postgres+ssh" ++ "://" ++ userinfo ++ "@" ++ "db:x/app"
    let shown := "invalid database URL 'postgres+ssh://***@db:x/app'"
    ¬schemeMark <:+: "postgres+ssh".toList ∧
      (∃ e, DatabaseUrl.read (url "app:a@b://c") = .error e ∧ e.message = shown) ∧
      ∃ e, DatabaseUrl.read (url "app:p/q?") = .error e ∧ e.message = shown := by
  intro url shown
  have hscheme : ¬schemeMark <:+: "postgres+ssh".toList := by decide +kernel
  have hone : DatabaseUrl.read (url "app:a@b://c") =
      .error (.invalidUrl "postgres+ssh://***@db:x/app") := by
    decide +kernel
  have hother : DatabaseUrl.ofText? (url "app:p/q?").toList = none := by decide +kernel
  have hread := DatabaseUrl.read_eq_error_iff.2 ⟨hother, rfl⟩
  obtain ⟨-, -, -, -, hsame, -⟩ := refusal_hides_userinfo hscheme "db:x/app"
  have hwords : (TunnelError.invalidUrl "postgres+ssh://***@db:x/app").message = shown := by
    decide +kernel
  exact ⟨hscheme, ⟨_, hone, hwords⟩, _, hread, (hsame _ _ _ _ hread hone).trans hwords⟩

end Pool

end JumpHost
