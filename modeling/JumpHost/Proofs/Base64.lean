/-
**Reading base64 back.**

What is written in base64 reads back as the bytes that were written, and nothing else is read: a
text with padding out of place, or with stray bits behind the last byte, is no spelling of any
bytes.  The text of any bytes holds symbols of the alphabet and padding alone, so it is a single
word in a line.

Main results:

* `JumpHost.Base64.decode?_encode` — **what is written reads back**;
* `JumpHost.Base64.decode?_eq_some_iff` — **the texts that are read are those that are written**;
* `JumpHost.Base64.mem_encode` — the characters of a text that is written;
* `JumpHost.Base64.isWord_encode` — the text of a key blob is a word;
* `JumpHost.Base64.encodeUnpadded_injective` — different bytes have different texts without padding
  too.
-/

import JumpHost.Base64
import JumpHost.Proofs.Text.Pieces

set_option autoImplicit false

namespace JumpHost.Base64

/-! ### The symbols -/

theorem symbol_ne_pad {v : Nat} (h : v < 64) : symbol v ≠ '=' := by
  have : ∀ v : Fin 64, symbol v ≠ '=' := by decide
  exact this ⟨v, h⟩

theorem isBlank_symbol {v : Nat} (h : v < 64) : Text.isBlank (symbol v) = false := by
  have : ∀ v : Fin 64, Text.isBlank (symbol v) = false := by decide
  exact this ⟨v, h⟩

/-- The two tables of the alphabet agree the other way round. -/
theorem symbol_of_value? {c : Char} {v : Nat} (h : value? c = some v) : v < 64 ∧ symbol v = c := by
  have hc : c.toNat < 123 := by
    refine Nat.lt_of_not_le fun hn => ?_
    have hnone : value? c = none := by
      rw [value?, if_neg (by omega), if_neg (by omega), if_neg (by omega), if_neg (by omega),
        if_neg (by omega)]
    rw [hnone] at h
    cases h
  have table : ∀ n : Fin 123, ∀ v ∈ value? (Char.ofNat n), v < 64 ∧ symbol v = Char.ofNat n := by
    decide
  have hv := table ⟨c.toNat, hc⟩ v
  rw [Char.ofNat_toNat] at hv
  exact hv h

/-! ### The groups -/

variable (x y z : UInt8)

theorem fullGroup?_symbol :
    fullGroup? (symbol (x.toNat / 4)) (symbol (x.toNat % 4 * 16 + y.toNat / 16))
      (symbol (y.toNat % 16 * 4 + z.toNat / 64)) (symbol (z.toNat % 64)) = some [x, y, z] := by
  have hx := x.toNat_lt
  have hy := y.toNat_lt
  have hz := z.toNat_lt
  have hx' : x.toNat / 4 * 4 + (x.toNat % 4 * 16 + y.toNat / 16) / 16 = x.toNat := by omega
  have hy' : (x.toNat % 4 * 16 + y.toNat / 16) % 16 * 16 +
      (y.toNat % 16 * 4 + z.toNat / 64) / 4 = y.toNat := by omega
  have hz' : (y.toNat % 16 * 4 + z.toNat / 64) % 4 * 64 + z.toNat % 64 = z.toNat := by omega
  simp only [fullGroup?, value?_symbol (show x.toNat / 4 < 64 by omega),
    value?_symbol (show x.toNat % 4 * 16 + y.toNat / 16 < 64 by omega),
    value?_symbol (show y.toNat % 16 * 4 + z.toNat / 64 < 64 by omega),
    value?_symbol (show z.toNat % 64 < 64 by omega), Option.bind_eq_bind, Option.bind_some, hx',
    hy', hz', UInt8.ofNat_toNat]

theorem lastGroup?_one :
    lastGroup? (symbol (x.toNat / 4)) (symbol (x.toNat % 4 * 16)) '=' '=' = some [x] := by
  have hx := x.toNat_lt
  have hx' : x.toNat / 4 * 4 + x.toNat % 4 * 16 / 16 = x.toNat := by omega
  have hrest : x.toNat % 4 * 16 % 16 = 0 := by omega
  simp only [lastGroup?, if_true, value?_symbol (show x.toNat / 4 < 64 by omega),
    value?_symbol (show x.toNat % 4 * 16 < 64 by omega), Option.bind_eq_bind, Option.bind_some,
    hrest, hx', UInt8.ofNat_toNat]

theorem lastGroup?_two :
    lastGroup? (symbol (x.toNat / 4)) (symbol (x.toNat % 4 * 16 + y.toNat / 16))
      (symbol (y.toNat % 16 * 4)) '=' = some [x, y] := by
  have hx := x.toNat_lt
  have hy := y.toNat_lt
  have hx' : x.toNat / 4 * 4 + (x.toNat % 4 * 16 + y.toNat / 16) / 16 = x.toNat := by omega
  have hy' : (x.toNat % 4 * 16 + y.toNat / 16) % 16 * 16 + y.toNat % 16 * 4 / 4 = y.toNat := by
    omega
  have hrest : y.toNat % 16 * 4 % 4 = 0 := by omega
  have hpad := symbol_ne_pad (show y.toNat % 16 * 4 < 64 by omega)
  simp only [lastGroup?, if_true, if_neg hpad, value?_symbol (show x.toNat / 4 < 64 by omega),
    value?_symbol (show x.toNat % 4 * 16 + y.toNat / 16 < 64 by omega),
    value?_symbol (show y.toNat % 16 * 4 < 64 by omega), Option.bind_eq_bind, Option.bind_some,
    hrest, hx', hy', UInt8.ofNat_toNat]

/-! ### Whole texts -/

/-- A group without padding may stand last too. -/
theorem lastGroup?_of_ne_pad {a b c d : Char} (h : d ≠ '=') :
    lastGroup? a b c d = fullGroup? a b c d := if_neg h

/-- A group without padding is read before the rest. -/
theorem decode?_cons {a b c d : Char} {rest : List Char} (h : d ≠ '=') :
    decode? (a :: b :: c :: d :: rest) =
      (fullGroup? a b c d).bind fun group => (decode? rest).map (group ++ ·) := by
  cases rest with
  | nil =>
    change lastGroup? a b c d = _
    rw [lastGroup?_of_ne_pad h]
    cases fullGroup? a b c d <;> simp [decode?]
  | cons e rest =>
    rw [decode?]
    · cases fullGroup? a b c d with
      | none => rfl
      | some group => cases decode? (e :: rest) <;> rfl
    · simp

/-- **What is written reads back.** -/
@[simp] theorem decode?_encode (bytes : List UInt8) : decode? (encode bytes) = some bytes := by
  fun_induction encode bytes with
  | case1 => rfl
  | case2 x => exact lastGroup?_one x
  | case3 x y => exact lastGroup?_two x y
  | case4 x y z rest ih =>
    have hz := z.toNat_lt
    rw [decode?_cons (symbol_ne_pad (by omega)), fullGroup?_symbol, ih]
    rfl

/-- The characters of a text that is written: symbols of the alphabet, and padding. -/
theorem mem_encode {bytes : List UInt8} {c : Char} (h : c ∈ encode bytes) :
    c = '=' ∨ ∃ v < 64, c = symbol v := by
  fun_induction encode bytes with
  | case1 => simp at h
  | case2 x =>
    have hx := x.toNat_lt
    simp only [List.mem_cons, List.not_mem_nil, or_false] at h
    rcases h with rfl | rfl | rfl | rfl
    · exact Or.inr ⟨_, by omega, rfl⟩
    · exact Or.inr ⟨_, by omega, rfl⟩
    · exact Or.inl rfl
    · exact Or.inl rfl
  | case3 x y =>
    have hx := x.toNat_lt
    have hy := y.toNat_lt
    simp only [List.mem_cons, List.not_mem_nil, or_false] at h
    rcases h with rfl | rfl | rfl | rfl
    · exact Or.inr ⟨_, by omega, rfl⟩
    · exact Or.inr ⟨_, by omega, rfl⟩
    · exact Or.inr ⟨_, by omega, rfl⟩
    · exact Or.inl rfl
  | case4 x y z rest ih =>
    have hx := x.toNat_lt
    have hy := y.toNat_lt
    have hz := z.toNat_lt
    simp only [List.mem_cons] at h
    rcases h with rfl | rfl | rfl | rfl | h
    · exact Or.inr ⟨_, by omega, rfl⟩
    · exact Or.inr ⟨_, by omega, rfl⟩
    · exact Or.inr ⟨_, by omega, rfl⟩
    · exact Or.inr ⟨_, by omega, rfl⟩
    · exact ih h

theorem isBlank_of_mem_encode {bytes : List UInt8} {c : Char} (h : c ∈ encode bytes) :
    Text.isBlank c = false := by
  rcases mem_encode h with rfl | ⟨v, hv, rfl⟩
  · decide
  · exact isBlank_symbol hv

theorem isWord_encode {bytes : List UInt8} (h : bytes ≠ []) : Text.IsWord (encode bytes) :=
  ⟨fun e => h (encode_eq_nil_iff.1 e), fun _ => isBlank_of_mem_encode⟩

/-! ### One text for each byte string -/

theorem encode_of_fullGroup? {a b c d : Char} {group : List UInt8}
    (h : fullGroup? a b c d = some group) :
    ∃ x y z, group = [x, y, z] ∧ encode group = [a, b, c, d] := by
  simp only [fullGroup?, Option.bind_eq_bind, Option.bind_eq_some_iff, Option.some.injEq] at h
  obtain ⟨va, ha, vb, hb, vc, hc, vd, hd, rfl⟩ := h
  obtain ⟨hla, rfl⟩ := symbol_of_value? ha
  obtain ⟨hlb, rfl⟩ := symbol_of_value? hb
  obtain ⟨hlc, rfl⟩ := symbol_of_value? hc
  obtain ⟨hld, rfl⟩ := symbol_of_value? hd
  have hx : (UInt8.ofNat (va * 4 + vb / 16)).toNat = va * 4 + vb / 16 :=
    UInt8.toNat_ofNat_of_lt' (show _ < 256 by omega)
  have hy : (UInt8.ofNat (vb % 16 * 16 + vc / 4)).toNat = vb % 16 * 16 + vc / 4 :=
    UInt8.toNat_ofNat_of_lt' (show _ < 256 by omega)
  have hz : (UInt8.ofNat (vc % 4 * 64 + vd)).toNat = vc % 4 * 64 + vd :=
    UInt8.toNat_ofNat_of_lt' (show _ < 256 by omega)
  have hva : (va * 4 + vb / 16) / 4 = va := by omega
  have hvb : (va * 4 + vb / 16) % 4 * 16 + (vb % 16 * 16 + vc / 4) / 16 = vb := by omega
  have hvc : (vb % 16 * 16 + vc / 4) % 16 * 4 + (vc % 4 * 64 + vd) / 64 = vc := by omega
  have hvd : (vc % 4 * 64 + vd) % 64 = vd := by omega
  refine ⟨_, _, _, rfl, ?_⟩
  simp only [encode, hx, hy, hz, hva, hvb, hvc, hvd]

theorem encode_of_lastGroup? {a b c d : Char} {group : List UInt8}
    (h : lastGroup? a b c d = some group) : encode group = [a, b, c, d] := by
  by_cases hd : d = '='
  · subst hd
    by_cases hc : c = '='
    · subst hc
      simp only [lastGroup?, if_true, Option.bind_eq_bind, Option.bind_eq_some_iff,
        Option.ite_none_right_eq_some, Option.some.injEq] at h
      obtain ⟨va, ha, vb, hb, hrest, rfl⟩ := h
      obtain ⟨hla, rfl⟩ := symbol_of_value? ha
      obtain ⟨hlb, rfl⟩ := symbol_of_value? hb
      have hx : (UInt8.ofNat (va * 4 + vb / 16)).toNat = va * 4 + vb / 16 :=
        UInt8.toNat_ofNat_of_lt' (show _ < 256 by omega)
      have hva : (va * 4 + vb / 16) / 4 = va := by omega
      have hvb : (va * 4 + vb / 16) % 4 * 16 = vb := by omega
      simp only [encode, hx, hva, hvb]
    · simp only [lastGroup?, if_true, if_neg hc, Option.bind_eq_bind, Option.bind_eq_some_iff,
        Option.ite_none_right_eq_some, Option.some.injEq] at h
      obtain ⟨va, ha, vb, hb, vc, hvc, hrest, rfl⟩ := h
      obtain ⟨hla, rfl⟩ := symbol_of_value? ha
      obtain ⟨hlb, rfl⟩ := symbol_of_value? hb
      obtain ⟨hlc, rfl⟩ := symbol_of_value? hvc
      have hx : (UInt8.ofNat (va * 4 + vb / 16)).toNat = va * 4 + vb / 16 :=
        UInt8.toNat_ofNat_of_lt' (show _ < 256 by omega)
      have hy : (UInt8.ofNat (vb % 16 * 16 + vc / 4)).toNat = vb % 16 * 16 + vc / 4 :=
        UInt8.toNat_ofNat_of_lt' (show _ < 256 by omega)
      have hva : (va * 4 + vb / 16) / 4 = va := by omega
      have hvb : (va * 4 + vb / 16) % 4 * 16 + (vb % 16 * 16 + vc / 4) / 16 = vb := by omega
      have hvc : (vb % 16 * 16 + vc / 4) % 16 * 4 = vc := by omega
      simp only [encode, hx, hy, hva, hvb, hvc]
  · rw [lastGroup?_of_ne_pad hd] at h
    obtain ⟨x, y, z, -, hgroup⟩ := encode_of_fullGroup? h
    exact hgroup

/-- **Only what is written is read**: every byte string has one text. -/
theorem encode_of_decode? {text : List Char} {bytes : List UInt8} (h : decode? text = some bytes) :
    encode bytes = text := by
  fun_induction decode? text generalizing bytes with
  | case1 =>
    cases h
    rfl
  | case2 a b c d => exact encode_of_lastGroup? h
  | case3 a b c d rest hrest ih =>
    simp only [Option.bind_eq_bind, Option.bind_eq_some_iff, Option.some.injEq] at h
    obtain ⟨group, hgroup, more, hmore, rfl⟩ := h
    obtain ⟨x, y, z, rfl, hencode⟩ := encode_of_fullGroup? hgroup
    have happend : encode ([x, y, z] ++ more) = encode [x, y, z] ++ encode more := rfl
    rw [happend, hencode, ih hmore]
    rfl
  | case4 => cases h

/-- **The texts that are read are those that are written.** -/
theorem decode?_eq_some_iff {text : List Char} {bytes : List UInt8} :
    decode? text = some bytes ↔ text = encode bytes := by
  constructor
  · exact fun h => (encode_of_decode? h).symm
  · rintro rfl
    exact decode?_encode bytes

/-! ### Without padding -/

/-- Three bytes take four characters, and one or two bytes behind them two or three. -/
theorem encodeUnpadded_cons (rest : List UInt8) :
    encodeUnpadded (x :: y :: z :: rest) =
      symbol (x.toNat / 4) :: symbol (x.toNat % 4 * 16 + y.toNat / 16) ::
        symbol (y.toNat % 16 * 4 + z.toNat / 64) :: symbol (z.toNat % 64) ::
          encodeUnpadded rest := by
  have hx := x.toNat_lt
  have hy := y.toNat_lt
  have hz := z.toNat_lt
  simp only [encodeUnpadded, encode, List.filter_cons, ne_eq, decide_not,
    symbol_ne_pad (show x.toNat / 4 < 64 by omega),
    symbol_ne_pad (show x.toNat % 4 * 16 + y.toNat / 16 < 64 by omega),
    symbol_ne_pad (show y.toNat % 16 * 4 + z.toNat / 64 < 64 by omega),
    symbol_ne_pad (show z.toNat % 64 < 64 by omega), decide_false, Bool.not_false, if_true]

/-- The padding is what a text without it lacks of whole groups. -/
theorem encode_eq_append (bytes : List UInt8) :
    encode bytes = encodeUnpadded bytes ++
      List.replicate ((4 - (encodeUnpadded bytes).length % 4) % 4) '=' := by
  fun_induction encode bytes with
  | case1 => rfl
  | case2 x =>
    have hx := x.toNat_lt
    simp [encodeUnpadded, encode, symbol_ne_pad (show x.toNat / 4 < 64 by omega),
      symbol_ne_pad (show x.toNat % 4 * 16 < 64 by omega)]
  | case3 x y =>
    have hx := x.toNat_lt
    have hy := y.toNat_lt
    simp [encodeUnpadded, encode, symbol_ne_pad (show x.toNat / 4 < 64 by omega),
      symbol_ne_pad (show x.toNat % 4 * 16 + y.toNat / 16 < 64 by omega),
      symbol_ne_pad (show y.toNat % 16 * 4 < 64 by omega)]
  | case4 x y z rest ih =>
    rw [encodeUnpadded_cons]
    have hlength : ∀ n, (4 - (n + 1 + 1 + 1 + 1) % 4) % 4 = (4 - n % 4) % 4 := by omega
    simp only [List.length_cons, hlength, List.cons_append, ← ih]

/-- **Different bytes have different texts without padding.** -/
theorem encodeUnpadded_injective : Function.Injective encodeUnpadded := by
  intro a b h
  have htext : encode a = encode b := by rw [encode_eq_append a, encode_eq_append b, h]
  have hbytes := decode?_encode a
  rw [htext, decode?_encode] at hbytes
  exact (Option.some.inj hbytes).symm

end JumpHost.Base64
