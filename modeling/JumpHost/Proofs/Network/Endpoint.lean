/-
**Reading the address of a dial.**

An address names a host and a port in one of two ways, and no text names two endpoints: a host
without colons stands before the only colon, and any other host stands in brackets, up to the first
`]:`.  The reader finds the endpoint that is named and refuses every other text.

Addresses are also written, of the jump host and of a database behind it, by one rule: a host with
a colon is put in brackets and any other one is not.  What is written is read back unless the host
itself looks like a part of an address.

Main definitions:

* `JumpHost.Endpoint.IsNamedBy` — **a text names an endpoint**;
* `JumpHost.Endpoint.spelled` — an address as it is written.

Main results:

* `JumpHost.Endpoint.ofAddress_eq_ok_iff` — the reader finds what is named;
* `JumpHost.Endpoint.eq_of_isNamedBy_spelled` — what an address that is written can name;
* `JumpHost.Endpoint.ofAddress_spelled_iff` — when it is read back;
* `JumpHost.Endpoint.ofAddress_decides` — **the reader accepts the texts that name an endpoint**,
  and the address of a jump host among them.
-/

import JumpHost.Config
import JumpHost.Network.Endpoint
import JumpHost.Proofs.Text.Numeral
import JumpHost.Proofs.Text.Pieces
import Mathlib.Data.List.Basic

set_option autoImplicit false

namespace JumpHost.Endpoint

variable {e : Endpoint}

/-! ### What a text names -/

/-- **A text names an endpoint**: its host and its port with a colon between them, or with the host
in brackets.  Without brackets the host holds no colon and the text does not begin with a bracket;
in brackets the host may hold anything but `]:`. -/
def IsNamedBy (e : Endpoint) (address : String) : Prop :=
  e.host ≠ "" ∧ 1 ≤ e.port.toNat ∧ ∃ port : String, Text.IsPort e.port port.toList ∧
    (address = e.host ++ ":" ++ port ∧ ':' ∉ e.host.toList ∧ address.toList.head? ≠ some '[' ∨
      address = "[" ++ e.host ++ "]:" ++ port ∧ ¬"]:".toList <:+: e.host.toList)

theorem split?_of_head?_ne {address : List Char} (h : address.head? ≠ some '[') :
    split? address =
      match Text.cutLast ':' address with
      | some (host, port) => if ':' ∈ host then none else some (host, port)
      | none => none := by
  unfold split?
  split
  · exact absurd rfl h
  · rfl

theorem split?_eq_some_iff {address host port : List Char} :
    split? address = some (host, port) ↔
      (address = host ++ ':' :: port ∧ ':' ∉ host ∧ ':' ∉ port ∧ address.head? ≠ some '[') ∨
        address = '[' :: (host ++ ("]:".toList ++ port)) ∧ ¬"]:".toList <:+: host := by
  have hclose : ']' ∉ [':'] := by decide
  by_cases hhead : address.head? = some '['
  · -- behind a bracket the first `]:` ends the host
    obtain ⟨rest, rfl⟩ := List.head?_eq_some_iff.1 hhead
    have hcut : split? ('[' :: rest) = some (host, port) ↔
        rest = host ++ ("]:".toList ++ port) ∧ ¬"]:".toList <:+: host :=
      Text.cut_eq_some_iff hclose
    rw [hcut]
    simp
  · -- the last colon is the only one
    rw [split?_of_head?_ne hhead]
    constructor
    · intro h
      cases hcut : Text.cutLast ':' address with
      | none =>
        rw [hcut] at h
        cases h
      | some parts =>
        obtain ⟨found, digits⟩ := parts
        obtain ⟨htext, hport⟩ := Text.cutLast_eq_some_iff.1 hcut
        rw [hcut] at h
        dsimp only at h
        split at h
        · cases h
        · rename_i hcolon
          cases h
          exact Or.inl ⟨htext, hcolon, hport, hhead⟩
    · rintro (⟨rfl, hcolon, hport, -⟩ | ⟨rfl, -⟩)
      · rw [Text.cutLast_append_cons hport]
        exact if_neg hcolon
      · exact absurd rfl hhead

theorem ofText?_eq_some_iff {address : List Char} :
    ofText? address = some e ↔
      e.host ≠ "" ∧ e.port ≠ 0 ∧
        ∃ port, split? address = some (e.host.toList, port) ∧ Text.IsPort e.port port := by
  unfold ofText?
  constructor
  · intro h
    split at h
    · cases h
    · rename_i host digits hsplit
      split at h
      · cases h
      · rename_i port hport
        split at h
        · cases h
        · rename_i hne
          obtain ⟨hhost, hzero⟩ := not_or.1 hne
          cases h
          refine ⟨by simpa using hhost, hzero, digits, by simpa using hsplit, ?_⟩
          exact Text.port?_eq_some_iff.1 hport
  · rintro ⟨hhost, hzero, port, hsplit, hport⟩
    have hne : ¬(e.host.toList = [] ∨ e.port = 0) := by simpa using ⟨hhost, hzero⟩
    simp only [hsplit, Text.port?_eq_some_iff.2 hport, if_neg hne, String.ofList_toList]

theorem ne_zero_iff {port : UInt16} : port ≠ 0 ↔ 1 ≤ port.toNat := by
  rw [Nat.one_le_iff_ne_zero, ne_eq, ne_eq, ← UInt16.toNat_inj]
  rfl

theorem ofAddress_eq_ok_iff_ofText? {address : String} :
    ofAddress address = .ok e ↔ ofText? address.toList = some e := by
  unfold ofAddress
  cases ofText? address.toList <;> simp

/-- **The reader finds the endpoint that a text names.** -/
theorem ofAddress_eq_ok_iff {address : String} :
    ofAddress address = .ok e ↔ e.IsNamedBy address := by
  rw [ofAddress_eq_ok_iff_ofText?, ofText?_eq_some_iff, ne_zero_iff]
  refine and_congr_right fun _ => and_congr_right fun _ => ⟨?_, ?_⟩
  · rintro ⟨port, hsplit, hport⟩
    refine ⟨String.ofList port, by simpa using hport, ?_⟩
    rcases split?_eq_some_iff.1 hsplit with ⟨htext, hcolon, -, hhead⟩ | ⟨htext, hhost⟩
    · exact Or.inl ⟨String.toList_injective (by simpa using htext), hcolon, hhead⟩
    · exact Or.inr ⟨String.toList_injective (by simpa using htext), hhost⟩
  · rintro ⟨port, hport, ⟨rfl, hcolon, hhead⟩ | ⟨rfl, hhost⟩⟩
    · refine ⟨port.toList, split?_eq_some_iff.2 (Or.inl ?_), hport⟩
      exact ⟨by simp, hcolon, hport.colon_notMem, hhead⟩
    · exact ⟨port.toList, split?_eq_some_iff.2 (Or.inr ⟨by simp, hhost⟩), hport⟩

theorem ofAddress_eq_error {address : String} (h : ∀ e : Endpoint, ¬e.IsNamedBy address) :
    ofAddress address = .error (.channel s!"invalid dial address '{address}'") := by
  cases hread : ofText? address.toList with
  | none => simp only [ofAddress, hread]
  | some e => exact absurd (ofAddress_eq_ok_iff.1 (by simp only [ofAddress, hread])) (h e)

/-! ### Addresses as they are written -/

/-- The address of a host and a port, with brackets around a host that holds a colon. -/
def spelled (host : String) (port : UInt16) : String :=
  let digits := String.ofList (Text.numeral port.toNat)
  if ':' ∈ host.toList then "[" ++ host ++ "]:" ++ digits else host ++ ":" ++ digits

variable {host : String} {port : UInt16}

theorem toList_spelled (host : String) (port : UInt16) :
    (spelled host port).toList =
      (if ':' ∈ host.toList then '[' :: host.toList ++ [']'] else host.toList) ++
        ':' :: Text.numeral port.toNat := by
  unfold spelled
  dsimp only
  split <;> simp

/-- An address that is written is cut at its last colon in one way only. -/
theorem eq_of_toList_spelled {frame digits : List Char} {p : UInt16}
    (h : (spelled host port).toList = frame ++ ':' :: digits) (hdigits : Text.IsPort p digits) :
    frame = (if ':' ∈ host.toList then '[' :: host.toList ++ [']'] else host.toList) ∧ p = port := by
  rw [toList_spelled] at h
  generalize (if ':' ∈ host.toList then _ else _ : List Char) = written at h ⊢
  have hcut := Text.cutLast_append_cons (Text.colon_notMem_numeral port.toNat) written
  rw [h, Text.cutLast_append_cons hdigits.colon_notMem] at hcut
  obtain ⟨rfl, rfl⟩ := Prod.mk.inj (Option.some.inj hcut)
  rw [← Text.port?_eq_some_iff, Text.port?_numeral] at hdigits
  exact ⟨rfl, (Option.some.inj hdigits).symm⟩

/-- What an address that is written can name: the host and the port that it was written for, or a
host that stood in brackets before it was written. -/
theorem eq_of_isNamedBy_spelled (h : e.IsNamedBy (spelled host port)) :
    e.port = port ∧
      (e.host = host ∨ ':' ∉ host.toList ∧ host.toList = '[' :: e.host.toList ++ [']']) := by
  obtain ⟨-, -, digits, hdigits, ⟨htext, -, hhead⟩ | ⟨htext, -⟩⟩ := h
  · have hcut : (spelled host port).toList = e.host.toList ++ ':' :: digits.toList := by
      rw [htext]
      simp
    obtain ⟨hframe, hport⟩ := eq_of_toList_spelled hcut hdigits
    refine ⟨hport, Or.inl ?_⟩
    split at hframe
    · -- a host that was put in brackets is not named without them
      rename_i hcolon
      exact absurd (by rw [toList_spelled, if_pos hcolon]; rfl) hhead
    · exact String.toList_injective hframe
  · have hcut : (spelled host port).toList =
        ('[' :: e.host.toList ++ [']']) ++ ':' :: digits.toList := by
      rw [htext]
      simp
    obtain ⟨hframe, hport⟩ := eq_of_toList_spelled hcut hdigits
    refine ⟨hport, ?_⟩
    split at hframe
    · exact Or.inl (String.toList_injective (by simpa using hframe))
    · rename_i hcolon
      exact Or.inr ⟨hcolon, hframe.symm⟩

/-- **When an address is read back**: the host and the port are none that no address has, `]:` does
not stand in the host, and a host that begins with a bracket is put in brackets. -/
theorem ofAddress_spelled_iff :
    ofAddress (spelled host port) = .ok ⟨host, port⟩ ↔
      host ≠ "" ∧ 1 ≤ port.toNat ∧ ¬"]:".toList <:+: host.toList ∧
        (host.toList.head? = some '[' → ':' ∈ host.toList) := by
  rw [ofAddress_eq_ok_iff]
  constructor
  · intro h
    obtain ⟨hhost, hport, digits, hdigits, ⟨htext, hcolon, hhead⟩ | ⟨htext, hclose⟩⟩ := id h
    · refine ⟨hhost, hport, fun hi => hcolon (hi.subset (by simp)), fun hh => ?_⟩
      refine absurd ?_ hhead
      rw [htext]
      simp [hh]
    · refine ⟨hhost, hport, hclose, fun _ => ?_⟩
      -- without a colon the host would be what stands in its own brackets
      refine by_contra fun hcolon => ?_
      have hcut : (spelled host port).toList =
          ('[' :: host.toList ++ [']']) ++ ':' :: digits.toList := by
        rw [htext]
        simp
      obtain ⟨hframe, -⟩ := eq_of_toList_spelled hcut hdigits
      rw [if_neg hcolon] at hframe
      have hlength := congrArg List.length hframe
      simp only [List.length_append, List.length_cons, List.length_nil] at hlength
      omega
  · rintro ⟨hhost, hport, hclose, hhead⟩
    refine ⟨hhost, hport, String.ofList (Text.numeral port.toNat), ?_, ?_⟩
    · simpa using Text.isPort_numeral port
    · by_cases hcolon : ':' ∈ host.toList
      · exact Or.inr ⟨if_pos hcolon, hclose⟩
      · refine Or.inl ⟨if_neg hcolon, hcolon, ?_⟩
        rw [toList_spelled, if_neg hcolon,
          List.head?_append_of_ne_nil _ (by simpa using hhost)]
        exact mt hhead hcolon

/-! ### The reader -/

/-- **The reader accepts the texts that name an endpoint**: it finds what is named, no text names
two endpoints, and every text that names none is refused.  The address of a jump host is read back
exactly if its host is not empty and its port not zero, `]:` does not stand in the host, and the
host does not begin with a bracket unless it holds a colon. -/
theorem ofAddress_decides (address : String) :
    (∀ e, ofAddress address = .ok e ↔ e.IsNamedBy address) ∧
    (∀ e e' : Endpoint, e.IsNamedBy address → e'.IsNamedBy address → e = e') ∧
    ((∀ e : Endpoint, ¬e.IsNamedBy address) →
      ofAddress address = .error (.channel s!"invalid dial address '{address}'")) ∧
    ∀ c : Config, ofAddress c.remoteAddress = .ok ⟨c.sshHost, c.sshPort⟩ ↔
      c.sshHost ≠ "" ∧ 1 ≤ c.sshPort.toNat ∧ ¬"]:".toList <:+: c.sshHost.toList ∧
        (c.sshHost.toList.head? = some '[' → ':' ∈ c.sshHost.toList) := by
  refine ⟨fun e => ofAddress_eq_ok_iff, ?_, ofAddress_eq_error, fun c => ofAddress_spelled_iff⟩
  intro e e' he he'
  rw [← ofAddress_eq_ok_iff] at he he'
  exact Except.ok.inj (he.symm.trans he')

/-- A host in brackets may hold brackets itself, the port may be written with a plus sign and zeros,
and a text with two colons names nothing. -/
theorem ofAddress_decides_brackets :
    let c : Config := { sshUser := "u", sshHost := "fe80::1]%eth0", sshPort := 2222, dbUrl := "" }
    IsNamedBy ⟨"[db]", 5432⟩ "[[db]]:+005432" ∧
      (∀ e : Endpoint, e.IsNamedBy "[[db]]:+005432" → e = ⟨"[db]", 5432⟩) ∧
      (∀ e : Endpoint, ¬e.IsNamedBy "db:1:5432") ∧
      ofAddress "db:1:5432" = .error (.channel "invalid dial address 'db:1:5432'") ∧
      ofAddress c.remoteAddress = .ok ⟨"fe80::1]%eth0", 2222⟩ := by
  intro c
  obtain ⟨hread, hone, -, hconfig⟩ := ofAddress_decides "[[db]]:+005432"
  have hnamed := (hread ⟨"[db]", 5432⟩).1 (by decide +kernel)
  obtain ⟨hread', -, hrefused, -⟩ := ofAddress_decides "db:1:5432"
  have hnone (e : Endpoint) : ¬e.IsNamedBy "db:1:5432" := by
    have hunread : ofText? "db:1:5432".toList = none := by decide +kernel
    rw [← hread', ofAddress, hunread]
    nofun
  refine ⟨hnamed, fun e he => hone e _ he hnamed, hnone, hrefused hnone, (hconfig c).2 ?_⟩
  exact ⟨by decide +kernel, by decide, by decide +kernel, by decide +kernel⟩

end JumpHost.Endpoint
