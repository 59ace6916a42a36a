/-
**The text of a socket address.**

The text of an address is put into URLs and into messages as it is.  It is made up of digits, the
letters up to `f`, dots, colons, the percent sign of a zone and the brackets around the long form,
so it holds none of the characters that separate the parts of a URL.

Main definitions:

* `JumpHost.SocketAddress.bracketedHost` — the host as it stands in the text;
* `JumpHost.SocketAddress.hostAlphabet`, `JumpHost.SocketAddress.alphabet` — the characters of hosts
  and of whole addresses.

Main results:

* `JumpHost.Ipv4.mem_text`, `JumpHost.Ipv6.mem_text` — the characters of an address of either form;
* `JumpHost.Ipv6.colon_mem_text` — the long form holds a colon, which the short one does not;
* `JumpHost.SocketAddress.characters_eq` — the host comes before the last colon, the port behind it;
* `JumpHost.SocketAddress.characters_subset` — **the text of an address is in the alphabet**.
-/

import JumpHost.Network.SocketAddress
import JumpHost.Proofs.Text.Pieces

set_option autoImplicit false

namespace JumpHost

/-! ### Digits -/

theorem Text.mem_hexNumeral {n : Nat} {c : Char} (h : c ∈ hexNumeral n) :
    ∃ d < 16, c = hexDigit d := by
  induction n using Nat.strongRecOn with
  | ind n ih =>
    rw [hexNumeral] at h
    split at h
    · rename_i hn
      exact ⟨n, hn, by simpa using h⟩
    · rename_i hn
      rcases List.mem_append.1 h with h | h
      · exact ih (n / 16) (by omega) h
      · exact ⟨n % 16, by omega, by simpa using h⟩

/-! ### Addresses -/

theorem Ipv4.mem_text {ip : Ipv4} {c : Char} (h : c ∈ ip.text) :
    c = '.' ∨ ∃ d < 10, c = Text.digit d := by
  rcases Text.mem_intercalate h with hdot | ⟨piece, hpiece, hc⟩
  · exact Or.inl (by simpa using hdot)
  · obtain ⟨o, -, rfl⟩ := List.mem_map.1 hpiece
    exact Or.inr (Text.mem_numeral hc)

theorem Ipv6.mem_joined {segments : List UInt16} {c : Char} (h : c ∈ joined segments) :
    c = ':' ∨ ∃ d < 16, c = Text.hexDigit d := by
  rcases Text.mem_intercalate h with hcolon | ⟨piece, hpiece, hc⟩
  · exact Or.inl (by simpa using hcolon)
  · obtain ⟨s, -, rfl⟩ := List.mem_map.1 hpiece
    exact Or.inr (Text.mem_hexNumeral hc)

theorem Ipv6.mem_text {ip : Ipv6} {c : Char} (h : c ∈ ip.text) :
    c = ':' ∨ c = '.' ∨ ∃ d < 16, c = Text.hexDigit d := by
  have hdecimal : ∀ d : Fin 10, Text.digit d = Text.hexDigit d := by decide
  unfold text at h
  split at h
  · rename_i short _
    rcases List.mem_append.1 h with h | h
    · simp only [List.mem_cons, List.not_mem_nil, or_false] at h
      rcases h with rfl | rfl | rfl | rfl | rfl | rfl | rfl
      · exact Or.inl rfl
      · exact Or.inl rfl
      · exact Or.inr (Or.inr ⟨15, by decide, rfl⟩)
      · exact Or.inr (Or.inr ⟨15, by decide, rfl⟩)
      · exact Or.inr (Or.inr ⟨15, by decide, rfl⟩)
      · exact Or.inr (Or.inr ⟨15, by decide, rfl⟩)
      · exact Or.inl rfl
    · rcases Ipv4.mem_text h with hdot | ⟨d, hd, rfl⟩
      · exact Or.inr (Or.inl hdot)
      · exact Or.inr (Or.inr ⟨d, by omega, hdecimal ⟨d, hd⟩⟩)
  · dsimp only at h
    have hrest : c = ':' ∨ ∃ d < 16, c = Text.hexDigit d := by
      split at h
      · exact mem_joined h
      · rcases List.mem_append.1 h with h | h
        · rcases List.mem_append.1 h with h | h
          · exact mem_joined h
          · exact Or.inl (by simpa using h)
        · exact mem_joined h
    exact hrest.imp_right Or.inr

theorem Ipv6.colon_mem_joined (s t : UInt16) (rest : List UInt16) :
    ':' ∈ joined (s :: t :: rest) := by
  unfold joined
  rw [List.map_cons, List.intercalate_cons_of_ne_nil (by simp)]
  simp

/-- An address of eight segments holds a colon, also where segments are left out. -/
theorem Ipv6.colon_mem_text (ip : Ipv6) : ':' ∈ ip.text := by
  unfold text
  split
  · simp
  · dsimp only
    split
    · exact colon_mem_joined ip.a ip.b _
    · simp

namespace SocketAddress

/-- The characters of the hosts of addresses. -/
def hostAlphabet : List Char := "0123456789abcdef.:%".toList

theorem hexDigit_mem_hostAlphabet {d : Nat} (h : d < 16) : Text.hexDigit d ∈ hostAlphabet := by
  have : ∀ d : Fin 16, Text.hexDigit d ∈ hostAlphabet := by decide +kernel
  exact this ⟨d, h⟩

theorem digit_mem_hostAlphabet {d : Nat} (h : d < 10) : Text.digit d ∈ hostAlphabet := by
  have : ∀ d : Fin 10, Text.digit d ∈ hostAlphabet := by decide +kernel
  exact this ⟨d, h⟩

/-- The host of an address is made up of digits, dots, colons and the mark of a zone. -/
theorem host_subset (address : SocketAddress) : address.host ⊆ hostAlphabet := by
  intro c hc
  cases address with
  | v4 ip port =>
    rcases Ipv4.mem_text hc with rfl | ⟨d, hd, rfl⟩
    · decide +kernel
    · exact digit_mem_hostAlphabet hd
  | v6 ip zone port =>
    rcases List.mem_append.1 hc with hc | hc
    · rcases Ipv6.mem_text hc with rfl | rfl | ⟨d, hd, rfl⟩
      · decide +kernel
      · decide +kernel
      · exact hexDigit_mem_hostAlphabet hd
    · split at hc
      · cases hc
      · rcases List.mem_cons.1 hc with rfl | hc
        · decide +kernel
        · obtain ⟨d, hd, rfl⟩ := Text.mem_numeral hc
          exact digit_mem_hostAlphabet hd

theorem notMem_host {c : Char} (h : c ∉ hostAlphabet) (address : SocketAddress) :
    c ∉ address.host :=
  fun hc => h (address.host_subset hc)

theorem colon_notMem_text (ip : Ipv4) : ':' ∉ ip.text := by
  intro h
  rcases Ipv4.mem_text h with hdot | ⟨d, hd, he⟩
  · cases hdot
  · have : ∀ d : Fin 10, ':' ≠ Text.digit d := by decide
    exact this ⟨d, hd⟩ he

/-- The host as it stands in the text: that of the long form is in brackets. -/
def bracketedHost : SocketAddress → List Char
  | v4 ip _ => ip.text
  | v6 ip zone port => '[' :: (v6 ip zone port).host ++ [']']

theorem bracketedHost_ne_nil (address : SocketAddress) : address.bracketedHost ≠ [] := by
  cases address with
  | v4 ip port => simp [bracketedHost, Ipv4.text, List.intercalate]
  | v6 ip zone port => simp [bracketedHost]

/-- The text of an address is its host, a colon and the digits of its port. -/
theorem characters_eq (address : SocketAddress) :
    address.characters = address.bracketedHost ++ ':' :: Text.numeral address.port.toNat := by
  cases address with
  | v4 ip port => rfl
  | v6 ip zone port => simp [characters, bracketedHost]

/-- The characters of addresses. -/
def alphabet : List Char := '[' :: ']' :: hostAlphabet

/-- **The text of an address is in the alphabet.** -/
theorem characters_subset (address : SocketAddress) : address.characters ⊆ alphabet := by
  intro c hc
  rw [characters_eq] at hc
  rcases List.mem_append.1 hc with hc | hc
  · cases address with
    | v4 ip port =>
      exact List.mem_cons_of_mem _ (List.mem_cons_of_mem _ (host_subset (v4 ip port) hc))
    | v6 ip zone port =>
      rcases List.mem_append.1 hc with hc | hc
      · rcases List.mem_cons.1 hc with rfl | hc
        · decide +kernel
        · exact List.mem_cons_of_mem _ (List.mem_cons_of_mem _ (host_subset _ hc))
      · rw [List.mem_singleton.1 hc]
        decide +kernel
  · rcases List.mem_cons.1 hc with rfl | hc
    · decide +kernel
    · obtain ⟨d, hd, rfl⟩ := Text.mem_numeral hc
      exact List.mem_cons_of_mem _ (List.mem_cons_of_mem _ (digit_mem_hostAlphabet hd))

end SocketAddress

end JumpHost
