/-
**White space.**

Ledger lines, host names and user names may carry any white space of Unicode, so the class is the
whole `White_Space` property and not only its ASCII part.  Two readings of a text rest on it: the
text without the white space at its ends, and the text as a list of words.

Main definitions:

* `JumpHost.Text.isBlank` — the characters of white space;
* `JumpHost.Text.trim` — a text without the white space at both ends;
* `JumpHost.Text.words` — the maximal runs without white space, in order.

Main statements:

* `JumpHost.Text.not_isBlank_of_mem_words`, `JumpHost.Text.ne_nil_of_mem_words` — a word is not
  empty and holds no white space.
-/

set_option autoImplicit false

namespace JumpHost.Text

/-- The characters with the property `White_Space`: six of ASCII, the next-line control, the
no-break space, and the spaces and separators of the general punctuation block and beyond. -/
def isBlank (c : Char) : Bool :=
  let n := c.toNat
  (9 ≤ n && n ≤ 13) || n == 32 || n == 0x85 || n == 0xA0 || n == 0x1680 ||
    (0x2000 ≤ n && n ≤ 0x200A) || n == 0x2028 || n == 0x2029 || n == 0x202F || n == 0x205F ||
    n == 0x3000

/-- The text without the white space at its end. -/
def trimRight (s : List Char) : List Char := (s.reverse.dropWhile isBlank).reverse

/-- The text without the white space at its two ends. -/
def trim (s : List Char) : List Char := trimRight (s.dropWhile isBlank)

/-- The maximal runs of characters that are not white space, in order. -/
def words (s : List Char) : List (List Char) := (s.splitOnP isBlank).filter (· ≠ [])

theorem ne_nil_of_mem_words {s w : List Char} (h : w ∈ words s) : w ≠ [] := by
  simpa using (List.mem_filter.1 h).2

theorem not_of_mem_splitOnP {α : Type} {p : α → Bool} {s w : List α} {a : α}
    (hw : w ∈ s.splitOnP p) (ha : a ∈ w) : p a = false := by
  induction s generalizing w with
  | nil => simp_all
  | cons x s ih =>
    rw [List.splitOnP_cons_eq_if_modifyHead] at hw
    split at hw
    · rcases List.mem_cons.1 hw with rfl | hw
      · simp at ha
      · exact ih hw ha
    · rename_i hx
      cases hs : s.splitOnP p with
      | nil => simp [hs] at hw
      | cons v vs =>
        rw [hs, List.modifyHead_cons] at hw
        rcases List.mem_cons.1 hw with rfl | hw
        · rcases List.mem_cons.1 ha with rfl | ha
          · simpa using hx
          · exact ih (hs ▸ List.mem_cons_self) ha
        · exact ih (hs ▸ List.mem_cons_of_mem _ hw) ha

theorem not_isBlank_of_mem_words {s w : List Char} {c : Char} (hw : w ∈ words s) (hc : c ∈ w) :
    isBlank c = false :=
  not_of_mem_splitOnP (List.mem_filter.1 hw).1 hc

end JumpHost.Text
