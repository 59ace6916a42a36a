/-
**Names of endpoints as host fields.**

A name that is written into a ledger is read as a host field, so it must not say anything in the
language of host fields.  A literal name says only itself: as a field it covers one name, up to the
case of ASCII; a plain name is one that stands in a line as well.  The name of an endpoint is in
small letters already, and it tells the port and the host apart, so the literal name of an endpoint
covers that endpoint and no other.

Main definitions:

* `JumpHost.HostPattern.IsLiteral` — a name without wildcards, commas or marks;
* `JumpHost.HostPattern.IsPlain` — a literal name that is a word and begins no comment.

Main results:

* `JumpHost.HostPattern.covers_of_isLiteral` — **a literal name covers itself only**, up to case;
* `JumpHost.HostPattern.ofEndpoint_eq_iff` — **endpoints with one name are one endpoint**;
* `JumpHost.HostPattern.ofEndpoint_identifies` — **a name identifies its endpoint**, to those who
  compare names and to those who read them as fields.
-/

import JumpHost.Ledger.Line
import JumpHost.Proofs.HostKey.Field

set_option autoImplicit false

namespace JumpHost.HostPattern

/-! ### Plain and literal names -/

/-- A name that says nothing in the language of host fields and begins no comment and no marker. -/
structure IsPlain (name : String) : Prop where
  word : Text.IsWord name.toList
  comma : ',' ∉ name.toList
  star : '*' ∉ name.toList
  anyChar : '?' ∉ name.toList
  notExclusion : name.toList.head? ≠ some '!'
  notRemark : HostRecord.isRemark name.toList = false
  notHashed : ¬hashMark <+: name.toList

instance (name : String) : Decidable (IsPlain name) :=
  decidable_of_iff
    (Text.IsWord name.toList ∧ ',' ∉ name.toList ∧ '*' ∉ name.toList ∧ '?' ∉ name.toList ∧
      name.toList.head? ≠ some '!' ∧ HostRecord.isRemark name.toList = false ∧
      ¬hashMark <+: name.toList)
    ⟨fun ⟨h₁, h₂, h₃, h₄, h₅, h₆, h₇⟩ => ⟨h₁, h₂, h₃, h₄, h₅, h₆, h₇⟩,
      fun ⟨h₁, h₂, h₃, h₄, h₅, h₆, h₇⟩ => ⟨h₁, h₂, h₃, h₄, h₅, h₆, h₇⟩⟩

/-- A name that says nothing in the language of host fields.  It may hold white space, or begin as a
comment does, so a line need not read back as it was written under such a name. -/
structure IsLiteral (name : String) : Prop where
  comma : ',' ∉ name.toList
  star : '*' ∉ name.toList
  anyChar : '?' ∉ name.toList
  notExclusion : name.toList.head? ≠ some '!'
  notHashed : ¬hashMark <+: name.toList

instance (name : String) : Decidable (IsLiteral name) :=
  decidable_of_iff
    (',' ∉ name.toList ∧ '*' ∉ name.toList ∧ '?' ∉ name.toList ∧
      name.toList.head? ≠ some '!' ∧ ¬hashMark <+: name.toList)
    ⟨fun ⟨h₁, h₂, h₃, h₄, h₅⟩ => ⟨h₁, h₂, h₃, h₄, h₅⟩,
      fun ⟨h₁, h₂, h₃, h₄, h₅⟩ => ⟨h₁, h₂, h₃, h₄, h₅⟩⟩

theorem IsPlain.isLiteral {name : String} (h : IsPlain name) : IsLiteral name :=
  ⟨h.comma, h.star, h.anyChar, h.notExclusion, h.notHashed⟩

/-- **A literal name covers itself only**, up to the case of ASCII. -/
theorem covers_of_isLiteral {name : String} (h : IsLiteral name) (host : String) :
    covers name host = true ↔ Text.lower name.toList = Text.lower host.toList := by
  have hstar : Glob.star ∉ folded name.toList := notMem_folded (by decide) h.star
  have hany : Glob.anyByte ∉ folded name.toList := notMem_folded (by decide) h.anyChar
  rw [covers_of_not_hashed h.notHashed, listCovers_iff, List.splitOn_eq_singleton h.comma]
  have hex : excludes host name.toList = false := by simp [excludes, h.notExclusion]
  have hin : includes host name.toList = true ↔
      Text.lower name.toList = Text.lower host.toList := by
    simp only [includes, Bool.and_eq_true, bne_iff_ne, Glob.matches?_literal hstar hany]
    constructor
    · exact fun hm => Text.utf8_injective hm.2
    · exact fun hl => ⟨h.notExclusion, congrArg Text.utf8 hl⟩
  simp [hex, hin]

theorem covers_of_isPlain {name : String} (h : IsPlain name) (host : String) :
    covers name host = true ↔ Text.lower name.toList = Text.lower host.toList :=
  covers_of_isLiteral h.isLiteral host

/-! ### Names of endpoints -/

theorem toList_canonicalHost (host : String) :
    ∃ opened : List Char, opened.head? ≠ some '[' ∧ (canonicalHost host).toList =
      Text.lower (opened.reverse.dropWhile (· == ']')).reverse := by
  refine ⟨(Text.trim host.toList).dropWhile (· == '['), ?_, by simp [canonicalHost]⟩
  intro h
  have := List.head?_dropWhile_not (· == '[') (Text.trim host.toList)
  rw [h] at this
  simp at this

theorem lower_canonicalHost (host : String) :
    Text.lower (canonicalHost host).toList = (canonicalHost host).toList := by
  obtain ⟨opened, -, hc⟩ := toList_canonicalHost host
  rw [hc, Text.lower_lower]

theorem head?_canonicalHost (host : String) : (canonicalHost host).toList.head? ≠ some '[' := by
  obtain ⟨opened, ho, hc⟩ := toList_canonicalHost host
  intro h
  rw [hc, Text.lower, List.head?_map] at h
  obtain ⟨c, hcc, hl⟩ := Option.map_eq_some_iff.1 h
  have hb : c = '[' := Text.eq_of_toLower_eq (by decide) hl
  -- taking brackets off the end leaves the beginning
  have hpre : (opened.reverse.dropWhile (· == ']')).reverse <+: opened := by
    rw [← List.reverse_suffix, List.reverse_reverse]
    exact List.dropWhile_suffix _
  obtain ⟨rest, hr⟩ := hpre
  refine ho ?_
  rw [← hr, List.head?_append, hcc, hb]
  rfl

theorem toList_ofEndpoint_of_ne {port : UInt16} (h : port ≠ 22) (host : String) :
    (ofEndpoint host port).toList =
      '[' :: ((canonicalHost host).toList ++ [']'] ++ ':' :: Text.numeral port.toNat) := by
  simp [ofEndpoint, h]

theorem ofEndpoint_22 (host : String) : ofEndpoint host 22 = canonicalHost host := rfl

theorem lower_ofEndpoint (host : String) (port : UInt16) :
    Text.lower (ofEndpoint host port).toList = (ofEndpoint host port).toList := by
  by_cases h : port = 22
  · rw [h, ofEndpoint_22, lower_canonicalHost]
  · rw [toList_ofEndpoint_of_ne h]
    have hl := lower_canonicalHost host
    have hn := Text.lower_numeral port.toNat
    simp only [Text.lower, List.map_cons, List.map_append, List.map_nil] at hl hn ⊢
    rw [hl, hn]
    rfl

/-- **Endpoints with one name are one endpoint**: the name tells port and host apart. -/
theorem ofEndpoint_eq_iff {host host' : String} {port port' : UInt16} :
    ofEndpoint host port = ofEndpoint host' port' ↔
      port = port' ∧ canonicalHost host = canonicalHost host' := by
  -- the name of an endpoint on another port begins with a bracket, that of one on port 22 does not
  have hne {h₁ h₂ : String} {p : UInt16} (hp : p ≠ 22) : ofEndpoint h₁ 22 ≠ ofEndpoint h₂ p := by
    intro e
    have hb := head?_canonicalHost h₁
    rw [← ofEndpoint_22, e, toList_ofEndpoint_of_ne hp] at hb
    exact hb rfl
  constructor
  · intro h
    by_cases hp : port = 22
    · by_cases hp' : port' = 22
      · rw [hp, hp', ofEndpoint_22, ofEndpoint_22] at h
        exact ⟨hp.trans hp'.symm, h⟩
      · rw [hp] at h
        exact absurd h (hne hp')
    · by_cases hp' : port' = 22
      · rw [hp'] at h
        exact absurd h.symm (hne hp)
      · have hl := congrArg String.toList h
        rw [toList_ofEndpoint_of_ne hp, toList_ofEndpoint_of_ne hp', List.cons.injEq] at hl
        -- the last colon stands before the port
        have hcut := congrArg (Text.cutLast ':') hl.2
        rw [Text.cutLast_append_cons (Text.colon_notMem_numeral _),
          Text.cutLast_append_cons (Text.colon_notMem_numeral _)] at hcut
        simp only [Option.some.injEq, Prod.mk.injEq, List.append_cancel_right_eq] at hcut
        exact ⟨UInt16.toNat_inj.1 (Text.numeral_injective hcut.2), String.toList_inj.1 hcut.1⟩
  · rintro ⟨rfl, hc⟩
    rw [ofEndpoint, ofEndpoint, hc]

/-- **The literal name of an endpoint covers that endpoint and no other.** -/
theorem covers_ofEndpoint {host host' : String} {port port' : UInt16}
    (h : IsLiteral (ofEndpoint host port)) :
    covers (ofEndpoint host port) (ofEndpoint host' port') = true ↔
      port = port' ∧ canonicalHost host = canonicalHost host' := by
  rw [covers_of_isLiteral h, lower_ofEndpoint, lower_ofEndpoint, String.toList_inj,
    ofEndpoint_eq_iff]

/-- **A name identifies its endpoint.**  Two endpoints have one name exactly if they have one port,
and one host up to white space and brackets around it and the case of ASCII; no host makes the name
of an endpoint on port 22 that of an endpoint on another port.  Read as a field, a literal name
covers the endpoints that it is the name of and no other. -/
theorem ofEndpoint_identifies (host host' : String) (port port' : UInt16) :
    (ofEndpoint host port = ofEndpoint host' port' ↔
      port = port' ∧ canonicalHost host = canonicalHost host') ∧
    (port ≠ 22 → ofEndpoint host port ≠ ofEndpoint host' 22) ∧
    (IsLiteral (ofEndpoint host port) →
      (covers (ofEndpoint host port) (ofEndpoint host' port') = true ↔
        port = port' ∧ canonicalHost host = canonicalHost host')) := by
  refine ⟨ofEndpoint_eq_iff, fun hport h => ?_, covers_ofEndpoint⟩
  exact hport (ofEndpoint_eq_iff.1 h).1

/-- A host on port 22 that is spelt as the name of an endpoint on another port has a name of its
own, which covers it in any spelling and does not cover the other. -/
theorem ofEndpoint_identifies_bracketed :
    let tricky := "[A]:2222"
    ofEndpoint tricky 22 ≠ ofEndpoint "a" 2222 ∧
      covers (ofEndpoint tricky 22) (ofEndpoint "a" 2222) = false ∧
      covers (ofEndpoint tricky 22) (ofEndpoint " a]:2222] " 22) = true ∧
      ofEndpoint " [A] " 2222 = ofEndpoint "a" 2222 := by
  intro tricky
  have hliteral : IsLiteral (ofEndpoint tricky 22) := by decide +kernel
  obtain ⟨-, -, hcovers⟩ := ofEndpoint_identifies tricky "a" 22 2222
  obtain ⟨-, -, hspelt⟩ := ofEndpoint_identifies tricky " a]:2222] " 22 22
  obtain ⟨-, hport, -⟩ := ofEndpoint_identifies "a" tricky 2222 22
  obtain ⟨hsame, -, -⟩ := ofEndpoint_identifies " [A] " "a" 2222 2222
  refine ⟨(hport (by decide)).symm, ?_, (hspelt hliteral).2 ⟨rfl, by decide +kernel⟩,
    hsame.2 ⟨rfl, by decide +kernel⟩⟩
  rw [Bool.eq_false_iff, ne_eq, hcovers hliteral]
  exact fun h => absurd h.1 (by decide)

end JumpHost.HostPattern
