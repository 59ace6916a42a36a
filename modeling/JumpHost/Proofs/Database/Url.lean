/-
**Reading database URLs.**

What stands behind the scheme of a URL is read in one way only: the authority ends before the first
slash or question mark, the userinfo before the last `@` of the authority, and what is left spells a
host and a port.  The reader finds the parts exactly if they are there, so they depend on nothing
that stands before them, and a URL whose scheme is replaced is read as before.

Main definitions:

* `JumpHost.DatabaseUrl.credentials` — the userinfo with its `@`;
* `JumpHost.DatabaseUrl.Spells` — **a text spells a host and a port**;
* `JumpHost.DatabaseUrl.IsSplit` — **a text is split into the parts of a URL**.

Main results:

* `JumpHost.DatabaseUrl.splitPort?_eq_some_iff` — the reader of hosts and ports is right;
* `JumpHost.DatabaseUrl.ofRemainder?_eq_some_iff` — and so is the reader of everything else;
* `JumpHost.DatabaseUrl.ofText?_respelt` — a URL with another scheme has the same parts.
-/

import JumpHost.Database.Url
import JumpHost.Proofs.Text.Pieces

set_option autoImplicit false

namespace JumpHost.DatabaseUrl

/-! ### Hosts and ports -/

/-- **A text spells a host and a port**, with or without brackets around the host. -/
inductive Spells (host : List Char) : Option UInt16 → List Char → Prop where
  | bare (hhost : host.head? ≠ some '[') (hcolon : ':' ∉ host) : Spells host none host
  | port {p : UInt16} {digits : List Char} (hhost : host.head? ≠ some '[') (hcolon : ':' ∉ host)
      (hport : Text.port? digits = some p) : Spells host (some p) (host ++ ':' :: digits)
  | bracketed (hhost : ']' ∉ host) : Spells host none ('[' :: host ++ [']'])
  | bracketedPort {p : UInt16} {digits : List Char} (hhost : ']' ∉ host)
      (hport : Text.port? digits = some p) :
      Spells host (some p) ('[' :: host ++ ']' :: ':' :: digits)

/-- What stands behind a host in brackets is nothing, or a colon and a port. -/
theorem portBehindBracket?_eq_some_iff {behind : List Char} {port : Option UInt16} :
    portBehindBracket? behind = some port ↔
      (behind = [] ∧ port = none) ∨
        ∃ digits p, behind = ':' :: digits ∧ Text.port? digits = some p ∧ port = some p := by
  constructor
  · intro h
    unfold portBehindBracket? at h
    split at h
    · exact Or.inl ⟨rfl, (Option.some.inj h).symm⟩
    · rename_i digits
      obtain ⟨p, hp, he⟩ := Option.map_eq_some_iff.1 h
      exact Or.inr ⟨digits, p, rfl, hp, he.symm⟩
    · cases h
  · rintro (⟨rfl, rfl⟩ | ⟨digits, p, rfl, hp, rfl⟩)
    · rfl
    · simp only [portBehindBracket?, hp, Option.map_some]

theorem splitPort?_of_head?_ne {hostPort : List Char} (h : hostPort.head? ≠ some '[') :
    splitPort? hostPort =
      match Text.cut [':'] hostPort with
      | some (host, port) => (Text.port? port).map fun port => (host, some port)
      | none => some (hostPort, none) := by
  unfold splitPort?
  split
  · exact absurd rfl h
  · rfl

/-- **The reader of hosts and ports finds what is spelt.** -/
theorem splitPort?_eq_some_iff {hostPort host : List Char} {port : Option UInt16} :
    splitPort? hostPort = some (host, port) ↔ Spells host port hostPort := by
  constructor
  · intro h
    by_cases hhead : hostPort.head? = some '['
    · -- a host in brackets ends at the first one that closes
      obtain ⟨rest, rfl⟩ := List.head?_eq_some_iff.1 hhead
      simp only [splitPort?] at h
      split at h
      · rename_i found behind hcut
        obtain ⟨port', hport, he⟩ := Option.map_eq_some_iff.1 h
        cases he
        have hhost := Text.notMem_of_cut_singleton hcut
        have htext := Text.eq_append_of_cut hcut
        rw [List.append_assoc] at htext
        subst htext
        rcases portBehindBracket?_eq_some_iff.1 hport with
          ⟨rfl, rfl⟩ | ⟨digits, p, rfl, hp, rfl⟩
        · exact .bracketed hhost
        · exact .bracketedPort hhost hp
      · cases h
    · rw [splitPort?_of_head?_ne hhead] at h
      split at h
      · rename_i found digits hcut
        obtain ⟨p, hp, he⟩ := Option.map_eq_some_iff.1 h
        cases he
        have hcolon := Text.notMem_of_cut_singleton hcut
        have htext := Text.eq_append_of_cut hcut
        rw [List.append_assoc] at htext
        subst htext
        refine .port (fun hh => hhead ?_) hcolon hp
        rw [List.head?_append, hh]
        rfl
      · rename_i hcut
        cases h
        exact .bare hhead (Text.cut_singleton_eq_none_iff.1 hcut)
  · intro h
    cases h with
    | bare hhost hcolon =>
      rw [splitPort?_of_head?_ne hhost, Text.cut_singleton_eq_none_iff.2 hcolon]
    | port hhost hcolon hport =>
      rename_i p digits
      have hcut := Text.cut_singleton_append hcolon digits
      have hhead : (host ++ ':' :: digits).head? ≠ some '[' := by
        cases host with
        | nil => simp
        | cons c host => simpa using hhost
      rw [splitPort?_of_head?_ne hhead, hcut]
      simp only [hport, Option.map_some]
    | bracketed hhost =>
      have hcut := Text.cut_singleton_append hhost []
      simp only [splitPort?, List.cons_append, hcut]
      rfl
    | bracketedPort hhost hport =>
      rename_i p digits
      have hcut := Text.cut_singleton_append hhost (':' :: digits)
      simp only [splitPort?, List.cons_append, hcut, portBehindBracket?, hport, Option.map_some]

/-! ### The parts of a URL -/

/-- The userinfo with its `@`. -/
def credentials (u : DatabaseUrl) : String :=
  match u.userinfo with
  | some user => user ++ "@"
  | none => ""

/-- **A text is split into the parts of a URL**: the authority ends before the first slash or
question mark, the userinfo ends at the last `@` of the authority, and what is left spells the host
and the port. -/
structure IsSplit (text : List Char) (u : DatabaseUrl) (hostPort : List Char) : Prop where
  text : text = u.credentials.toList ++ hostPort ++ u.rest.toList
  authority : ∀ c ∈ u.credentials.toList ++ hostPort, endsAuthority c = false
  rest : ∀ c, u.rest.toList.head? = some c → endsAuthority c = true
  last : '@' ∉ hostPort
  spells : Spells u.host.toList u.port hostPort

/-- The userinfo ends at the last `@`. -/
theorem splitUserinfo_eq_iff {authority hostPort : List Char} {userinfo : Option (List Char)} :
    splitUserinfo authority = (userinfo, hostPort) ↔
      '@' ∉ hostPort ∧
        authority = (match userinfo with | some user => user ++ ['@'] | none => []) ++ hostPort := by
  unfold splitUserinfo
  constructor
  · intro h
    split at h
    · rename_i user found hcut
      cases h
      refine ⟨Text.not_mem_of_cutLast hcut, ?_⟩
      simpa using Text.eq_append_of_cutLast hcut
    · rename_i hcut
      cases h
      exact ⟨Text.cutLast_eq_none_iff.1 hcut, rfl⟩
  · rintro ⟨hlast, rfl⟩
    cases userinfo with
    | some user =>
      have hcut := Text.cutLast_append_cons hlast user
      simp [hcut]
    | none =>
      simp [Text.cutLast_eq_none_iff.2 hlast]

theorem toList_credentials (u : DatabaseUrl) :
    u.credentials.toList =
      match u.userinfo.map String.toList with
      | some user => user ++ ['@']
      | none => [] := by
  unfold credentials
  cases u.userinfo with
  | none => rfl
  | some user => simp

/-- The userinfo of a URL is nothing or ends in an `@`. -/
theorem toList_credentials_eq (u : DatabaseUrl) :
    u.credentials.toList = [] ∨ ∃ w, u.credentials.toList = w ++ ['@'] := by
  rw [toList_credentials]
  cases u.userinfo.map String.toList with
  | none => exact Or.inl rfl
  | some user => exact Or.inr ⟨user, rfl⟩

/-- **The reader finds the parts into which a text is split**, and no text is split in two ways. -/
theorem ofRemainder?_eq_some_iff {scheme text : List Char} {u : DatabaseUrl} :
    ofRemainder? scheme text = some u ↔
      u.scheme = String.ofList scheme ∧ u.host ≠ "" ∧ ∃ hostPort, IsSplit text u hostPort := by
  constructor
  · intro h
    unfold ofRemainder? at h
    dsimp only at h
    cases hsplit : splitUserinfo (text.takeWhile (!endsAuthority ·)) with
    | mk userinfo hostPort =>
      rw [hsplit] at h
      dsimp only at h
      split at h
      · cases h
      · cases h
      · -- what the three readers cut off makes up the text
        rename_i host port hne hport
        cases h
        refine ⟨rfl, by simpa using hne, hostPort, ?_⟩
        obtain ⟨hlast, hauthority⟩ := splitUserinfo_eq_iff.1 hsplit
        obtain ⟨htext, htake, hdrop⟩ := Text.takeWhile_dropWhile_iff.1 ⟨hauthority, rfl⟩
        have hcredentials := toList_credentials
          ⟨String.ofList scheme, userinfo.map String.ofList, String.ofList host, port,
            String.ofList (text.dropWhile (!endsAuthority ·))⟩
        have hmap : (userinfo.map String.ofList).map String.toList = userinfo := by
          cases userinfo <;> simp
        dsimp only at hcredentials
        rw [hmap] at hcredentials
        refine ⟨?_, ?_, ?_, hlast, ?_⟩
        · rw [hcredentials]
          simpa using htext
        · rw [hcredentials]
          simpa using htake
        · simpa using hdrop
        · simpa using splitPort?_eq_some_iff.1 hport
  · -- the first of the three readers finds the authority, the others what it is made of
    rintro ⟨hscheme, hhost, hostPort, hsplit⟩
    have hauthority : text.takeWhile (!endsAuthority ·) = u.credentials.toList ++ hostPort ∧
        text.dropWhile (!endsAuthority ·) = u.rest.toList := by
      refine Text.takeWhile_dropWhile_iff.2 ⟨hsplit.text, ?_, ?_⟩
      · intro c hc
        simp [hsplit.authority c hc]
      · intro c hc
        simp [hsplit.rest c hc]
    have huserinfo : splitUserinfo (u.credentials.toList ++ hostPort) =
        (u.userinfo.map String.toList, hostPort) :=
      splitUserinfo_eq_iff.2 ⟨hsplit.last, by rw [toList_credentials]⟩
    have hport := splitPort?_eq_some_iff.2 hsplit.spells
    have hne : u.host.toList ≠ [] := by simpa using hhost
    unfold ofRemainder?
    simp only [hauthority.1, hauthority.2, huserinfo, hport]
    have hmap : (u.userinfo.map String.toList).map String.ofList = u.userinfo := by
      cases u.userinfo <;> simp
    rw [hmap, String.ofList_toList, String.ofList_toList, ← hscheme]

/-! ### Schemes -/

variable {url scheme remainder : List Char}

theorem ofText?_of_cut (h : Text.cut schemeMark url = some (scheme, remainder))
    (hscheme : scheme ≠ []) : ofText? url = ofRemainder? scheme remainder := by
  unfold ofText?
  rw [h]
  cases scheme with
  | nil => exact absurd rfl hscheme
  | cons c scheme => rfl

theorem isSplit_of_ofText? {u : DatabaseUrl} (h : ofText? url = some u) :
    ∃ text hostPort, IsSplit text u hostPort := by
  unfold ofText? at h
  split at h
  · cases h
  · cases h
  · rename_i scheme remainder hne hcut
    obtain ⟨-, -, hostPort, hsplit⟩ := ofRemainder?_eq_some_iff.1 h
    exact ⟨remainder, hostPort, hsplit⟩

/-- The scheme of a URL that is read is the text before its first mark. -/
theorem scheme_of_ofText? {u : DatabaseUrl}
    (hcut : Text.cut schemeMark url = some (scheme, remainder)) (hu : ofText? url = some u) :
    u.scheme = String.ofList scheme := by
  have hscheme : scheme ≠ [] := by
    rintro rfl
    simp [ofText?, hcut] at hu
  rw [ofText?_of_cut hcut hscheme] at hu
  exact (ofRemainder?_eq_some_iff.1 hu).1

theorem ofRemainder?_scheme (scheme other remainder : List Char) :
    ofRemainder? other remainder =
      (ofRemainder? scheme remainder).map ({ · with scheme := String.ofList other }) := by
  unfold ofRemainder?
  dsimp only
  split <;> rfl

/-- **The scheme of a URL is found** where it holds no mark itself: no end of one mark begins
another, so none is made up where the two meet. -/
theorem cut_schemeMark {scheme : List Char} (h : ¬schemeMark <:+: scheme)
    (remainder : List Char) :
    Text.cut schemeMark (scheme ++ schemeMark ++ remainder) = some (scheme, remainder) := by
  rw [List.append_assoc]
  exact Text.cut_append_of_not_infix (by decide) h remainder

theorem not_infix_of_colon {scheme : List Char} (h : ':' ∉ scheme) : ¬schemeMark <:+: scheme :=
  fun hi => h (hi.subset (by simp [schemeMark]))

/-- **A URL with another scheme has the same parts.** -/
theorem ofText?_respelt {other : List Char} (h : Text.cut schemeMark url = some (scheme, remainder))
    (hscheme : scheme ≠ []) (hother : other ≠ []) (hcolon : ':' ∉ other) :
    ofText? (other ++ schemeMark ++ remainder) =
      (ofText? url).map ({ · with scheme := String.ofList other }) := by
  have hcut := cut_schemeMark (not_infix_of_colon hcolon) remainder
  rw [ofText?_of_cut h hscheme, ofText?_of_cut hcut hother]
  exact ofRemainder?_scheme scheme other remainder

/-! ### Refusals -/

theorem read_eq_ok_iff {url : String} {u : DatabaseUrl} :
    read url = .ok u ↔ ofText? url.toList = some u := by
  unfold read
  cases ofText? url.toList <;> simp

theorem read_eq_error_iff {url : String} {e : TunnelError} :
    read url = .error e ↔ ofText? url.toList = none ∧ e = .invalidUrl (redact url) := by
  unfold read
  cases ofText? url.toList with
  | none => simp [eq_comm]
  | some u => simp

end JumpHost.DatabaseUrl
