/-
**The matcher as a loop.**

The matcher of wildcards is a recursion on what is left of the pattern and of the text.  It is a
loop as well, which never takes the lists apart: it keeps a place in the pattern, a place in the
text and the last star that it met, with the place up to which that star reaches in the text.  A
byte that fits moves both places on.  A misfit lets the star reach over one byte more and takes both
places back behind it.

The place in the text goes back, so it is no measure of the loop.  What never goes back is the reach
of the last star: a star that is met reaches at least as far as the one before.  Between two misfits
the place in the pattern moves on at every turn, which bounds the turns by the product of the two
lengths.  At every turn the places lie within pattern and text, and what the matcher says of the
rest from there on is what it says of the whole.

Main definitions:

* `JumpHost.Glob.Place`, `JumpHost.Glob.turn` — where the loop stands, and one turn of it;
* `JumpHost.Glob.after` — what the loop has come to after a number of turns;
* `JumpHost.Glob.Place.InRange` — the places lie within pattern and text;
* `JumpHost.Glob.Place.ahead` — a bound of the turns that lie ahead;
* `JumpHost.Glob.Place.answer` — what the matcher says from a place on.

Main results:

* `JumpHost.Glob.keeps_turn` — what one turn keeps;
* `JumpHost.Glob.after_cases` — where the loop stands after any number of turns;
* `JumpHost.Glob.loop_decides` — **the loop ends, within its range, and says what fits**.
-/

import JumpHost.Proofs.HostKey.Wildcard

set_option autoImplicit false

namespace JumpHost.Glob

/-! ### The loop -/

/-- A star that was met: its place in the pattern, and the place up to which it reaches in the
text. -/
structure MetStar where
  inPattern : Nat
  reach : Nat
deriving DecidableEq, Repr

/-- Where the loop stands. -/
structure Place where
  inPattern : Nat
  inText : Nat
  lastStar : Option MetStar
deriving DecidableEq, Repr

/-- What a turn of the loop leads to: another place, the end of the loop, or a read outside of the
pattern. -/
inductive Turn where
  | goesOn (place : Place)
  | ends (matched : Bool)
  | outside
deriving DecidableEq, Repr

/-- The star reaches over one byte more. -/
def MetStar.extended (s : MetStar) : MetStar := { s with reach := s.reach + 1 }

/-- The place behind a star, in the text where it reaches to. -/
def MetStar.behind (s : MetStar) : Place := ⟨s.inPattern + 1, s.reach, some s⟩

/-- The place where the loop begins. -/
def Place.start : Place := ⟨0, 0, none⟩

/-- The place behind a byte that fits. -/
def Place.next (place : Place) : Place :=
  { place with inPattern := place.inPattern + 1, inText := place.inText + 1 }

/-- After a misfit the last star takes up one byte more, and what is behind it starts again. -/
def Place.fallBack (place : Place) : Turn :=
  match place.lastStar with
  | none => .ends false
  | some s => .goesOn s.extended.behind

/-- **One turn of the loop.**  At the end of the text the rest of the pattern is looked at, which is
cut off at its place; that place must not lie behind the end. -/
def turn (pattern text : List UInt8) (place : Place) : Turn :=
  match text[place.inText]?, pattern[place.inPattern]? with
  | none, _ =>
    if place.inPattern ≤ pattern.length then .ends (onlyStars (pattern.drop place.inPattern))
    else .outside
  | some b, some p =>
    if p = anyByte ∨ p = b then .goesOn place.next
    else if p = star then .goesOn (MetStar.behind ⟨place.inPattern, place.inText⟩)
    else place.fallBack
  | some _, none => place.fallBack

/-- What the loop has come to after a number of turns. -/
def after (pattern text : List UInt8) : Nat → Turn
  | 0 => .goesOn .start
  | turns + 1 =>
    match after pattern text turns with
    | .goesOn place => turn pattern text place
    | stopped => stopped

/-! ### Where the loop stands -/

/-- **The places lie within pattern and text**, and the last star is one of the pattern and reaches
no further than the place in the text. -/
structure Place.InRange (pattern text : List UInt8) (place : Place) : Prop where
  inPattern_le : place.inPattern ≤ pattern.length
  inText_le : place.inText ≤ text.length
  lastStar : ∀ s ∈ place.lastStar, pattern[s.inPattern]? = some star ∧ s.reach ≤ place.inText

/-- The place up to which the last star reaches in the text. -/
def Place.reach (place : Place) : Nat :=
  match place.lastStar with
  | none => 0
  | some s => s.reach

/-- A bound of the turns that lie ahead of a place: for each byte that the last star may still take
up the pattern is gone through once at most. -/
def Place.ahead (pattern text : List UInt8) (place : Place) : Nat :=
  (text.length - place.reach) * (pattern.length + 1) + (pattern.length - place.inPattern)

/-- What the matcher says from a place on: what is left of the pattern is scanned in what is left of
the text, and a misfit leads behind the last star. -/
def Place.answer (pattern text : List UInt8) (place : Place) : Bool :=
  match scan (pattern.drop place.inPattern) (text.drop place.inText) with
  | .ended rest => onlyStars rest
  | .star pattern' text' => resume pattern' text'
  | .misfit =>
    match place.lastStar with
    | none => false
    | some s => resume (pattern.drop (s.inPattern + 1)) (text.drop (s.reach + 1))

/-! ### What one turn keeps -/

section Turn

variable {pattern text : List UInt8} {place : Place} {s : MetStar} {p b : UInt8}

/-- What a turn keeps: it leads to a place in range with fewer turns ahead and the same answer, or
it ends the loop with that answer. -/
def Turn.Keeps (pattern text : List UInt8) (place : Place) : Turn → Prop
  | .goesOn place' => place'.InRange pattern text ∧
      place'.ahead pattern text < place.ahead pattern text ∧
      place'.answer pattern text = place.answer pattern text
  | .ends matched => matched = place.answer pattern text
  | .outside => False

theorem drop_of_getElem? {l : List UInt8} {i : Nat} (h : l[i]? = some b) :
    l.drop i = b :: l.drop (i + 1) := by
  obtain ⟨hi, rfl⟩ := List.getElem?_eq_some_iff.1 h
  exact List.drop_eq_getElem_cons hi

theorem reach_le_inText (h : place.InRange pattern text) : place.reach ≤ place.inText := by
  unfold Place.reach
  split
  · exact Nat.zero_le _
  · rename_i s hs
    exact (h.lastStar s hs).2

theorem inRange_behind (hstar : pattern[s.inPattern]? = some star) (hreach : s.reach ≤ text.length) :
    s.behind.InRange pattern text := by
  refine ⟨(List.getElem?_eq_some_iff.1 hstar).1, hreach, fun s' hs => ?_⟩
  cases hs
  exact ⟨hstar, Nat.le_refl _⟩

theorem answer_behind (pattern text : List UInt8) (s : MetStar) :
    s.behind.answer pattern text =
      resume (pattern.drop (s.inPattern + 1)) (text.drop s.reach) := by
  unfold Place.answer
  split
  · rename_i rest h
    exact (resume_of_ended h).symm
  · rename_i pattern' text' h
    exact (resume_of_star h).symm
  · rename_i h
    change scan (pattern.drop (s.inPattern + 1)) (text.drop s.reach) = .misfit at h
    change resume _ (text.drop (s.reach + 1)) = _
    cases htext : text.drop s.reach with
    | nil =>
      rw [htext, scan_nil] at h
      cases h
    | cons b rest =>
      have hrest : text.drop (s.reach + 1) = rest := by
        rw [← List.tail_drop, htext]
        rfl
      rw [htext] at h
      rw [hrest, resume_of_misfit h]

/-- A byte that fits moves both places on. -/
theorem keeps_next (h : place.InRange pattern text) (hb : text[place.inText]? = some b)
    (hp : pattern[place.inPattern]? = some p) (hfit : p = anyByte ∨ p = b) :
    (Turn.goesOn place.next).Keeps pattern text place := by
  have hpattern : place.inPattern < pattern.length := (List.getElem?_eq_some_iff.1 hp).1
  have htext : place.inText < text.length := (List.getElem?_eq_some_iff.1 hb).1
  refine ⟨⟨hpattern, htext, fun s hs => ?_⟩, ?_, ?_⟩
  · obtain ⟨hstar, hreach⟩ := h.lastStar s hs
    exact ⟨hstar, Nat.le_succ_of_le hreach⟩
  · exact Nat.add_lt_add_left (Nat.sub_lt_sub_left hpattern (Nat.lt_succ_self _)) _
  · have hscan : scan (pattern.drop place.inPattern) (text.drop place.inText) =
        scan (pattern.drop (place.inPattern + 1)) (text.drop (place.inText + 1)) := by
      rw [drop_of_getElem? hp, drop_of_getElem? hb, scan, if_pos hfit]
    unfold Place.answer
    rw [hscan]
    rfl

/-- A star of the pattern that is met is kept in mind, and what is behind it begins. -/
theorem keeps_star (h : place.InRange pattern text) (hb : text[place.inText]? = some b)
    (hp : pattern[place.inPattern]? = some star) (hfit : ¬(star = anyByte ∨ star = b)) :
    (Turn.goesOn (MetStar.behind ⟨place.inPattern, place.inText⟩)).Keeps pattern text place := by
  have hpattern : place.inPattern < pattern.length := (List.getElem?_eq_some_iff.1 hp).1
  refine ⟨inRange_behind hp h.inText_le, ?_, ?_⟩
  · -- the star that is met reaches as far as the one before at least
    have hreach : text.length - place.inText ≤ text.length - place.reach :=
      Nat.sub_le_sub_left (reach_le_inText h) _
    exact Nat.add_lt_add_of_le_of_lt (Nat.mul_le_mul_right _ hreach)
      (Nat.sub_lt_sub_left hpattern (Nat.lt_succ_self _))
  · have hscan : scan (pattern.drop place.inPattern) (text.drop place.inText) =
        .star (pattern.drop (place.inPattern + 1)) (text.drop place.inText) := by
      rw [drop_of_getElem? hp, drop_of_getElem? hb, scan, if_neg hfit, if_pos rfl]
    rw [answer_behind]
    unfold Place.answer
    rw [hscan]

/-- A misfit leads back behind the last star, which reaches over one byte more. -/
theorem keeps_fallBack (h : place.InRange pattern text) (htext : place.inText < text.length)
    (hmisfit : scan (pattern.drop place.inPattern) (text.drop place.inText) = .misfit) :
    place.fallBack.Keeps pattern text place := by
  have hanswer : place.answer pattern text =
      match place.lastStar with
      | none => false
      | some s => resume (pattern.drop (s.inPattern + 1)) (text.drop (s.reach + 1)) := by
    unfold Place.answer
    rw [hmisfit]
  unfold Place.fallBack
  cases hs : place.lastStar with
  | none =>
    rw [hs] at hanswer
    exact hanswer.symm
  | some s =>
    rw [hs] at hanswer
    obtain ⟨hstar, hreach⟩ := h.lastStar s hs
    refine ⟨inRange_behind hstar (Nat.lt_of_le_of_lt hreach htext), ?_, ?_⟩
    · -- the byte that is taken up pays for going through the whole pattern again
      have hone : text.length - (s.reach + 1) + 1 = text.length - s.reach := by omega
      have hreached : place.reach = s.reach := by simp only [Place.reach, hs]
      calc s.extended.behind.ahead pattern text
          = (text.length - (s.reach + 1)) * (pattern.length + 1) +
              (pattern.length - (s.inPattern + 1)) := rfl
        _ < (text.length - (s.reach + 1) + 1) * (pattern.length + 1) := by
          rw [Nat.succ_mul]
          omega
        _ = (text.length - place.reach) * (pattern.length + 1) := by rw [hone, hreached]
        _ ≤ place.ahead pattern text := Nat.le_add_right _ _
    · rw [answer_behind, hanswer]
      rfl

/-- **What one turn keeps.** -/
theorem keeps_turn (h : place.InRange pattern text) :
    (turn pattern text place).Keeps pattern text place := by
  unfold turn
  split
  · rename_i hb
    rw [if_pos h.inPattern_le]
    have hscan : scan (pattern.drop place.inPattern) (text.drop place.inText) =
        .ended (pattern.drop place.inPattern) := by
      rw [List.drop_eq_nil_of_le (List.getElem?_eq_none_iff.1 hb), scan_nil]
    change _ = place.answer pattern text
    unfold Place.answer
    rw [hscan]
  · rename_i b p hb hp
    split_ifs with hfit hstar
    · exact keeps_next h hb hp hfit
    · subst hstar
      exact keeps_star h hb hp hfit
    · refine keeps_fallBack h (List.getElem?_eq_some_iff.1 hb).1 ?_
      rw [drop_of_getElem? hp, drop_of_getElem? hb, scan, if_neg hfit, if_neg hstar]
  · rename_i b hb hp
    refine keeps_fallBack h (List.getElem?_eq_some_iff.1 hb).1 ?_
    rw [List.drop_eq_nil_of_le (List.getElem?_eq_none_iff.1 hp), drop_of_getElem? hb]
    rfl

end Turn

/-! ### What the loop comes to -/

section Loop

variable (pattern text : List UInt8)

theorem inRange_start : Place.start.InRange pattern text :=
  ⟨Nat.zero_le _, Nat.zero_le _, fun _ hs => by cases hs⟩

theorem answer_start : Place.start.answer pattern text = matches? pattern text := rfl

/-- **Where the loop stands after any number of turns**: it has ended with what the matcher says, or
it goes on from a place in range, from which the matcher says the same, and its turns are
counted. -/
theorem after_cases (turns : Nat) :
    after pattern text turns = .ends (matches? pattern text) ∨
      ∃ place, after pattern text turns = .goesOn place ∧ place.InRange pattern text ∧
        place.answer pattern text = matches? pattern text ∧
        turns + place.ahead pattern text ≤ Place.start.ahead pattern text := by
  -- a turn takes at least one from the turns ahead, so turns and turns ahead never add up to more
  induction turns with
  | zero =>
    exact Or.inr ⟨.start, rfl, inRange_start pattern text, answer_start pattern text,
      Nat.le_of_eq (Nat.zero_add _)⟩
  | succ turns ih =>
    obtain hended | ⟨place, hafter, hrange, hanswer, hahead⟩ := ih
    · left
      simp only [after, hended]
    · have hkeeps := keeps_turn hrange
      simp only [after, hafter]
      cases hturn : turn pattern text place with
      | goesOn place' =>
        rw [hturn] at hkeeps
        obtain ⟨hrange', hahead', hanswer'⟩ := hkeeps
        exact Or.inr ⟨place', rfl, hrange', hanswer'.trans hanswer, by omega⟩
      | ends matched =>
        rw [hturn] at hkeeps
        exact Or.inl (congrArg Turn.ends (hkeeps.trans hanswer))
      | outside =>
        rw [hturn] at hkeeps
        exact hkeeps.elim

/-- The loop has ended when the pattern might have been gone through once for each byte of the text
and once more. -/
theorem after_of_le {turns : Nat} (h : (text.length + 1) * (pattern.length + 1) ≤ turns) :
    after pattern text turns = .ends (matches? pattern text) := by
  obtain hended | ⟨place, -, -, -, hahead⟩ := after_cases pattern text turns
  · exact hended
  · have hstart : Place.start.ahead pattern text =
        text.length * (pattern.length + 1) + pattern.length := rfl
    rw [Nat.succ_mul] at h
    omega

/-- **The loop ends, within its range, and says what fits.**  At every turn it stands at a place
within pattern and text or has ended, and it has ended after as many turns as the product of the
lengths allows, a byte more on either side.  What it says is what the matcher says: a text that is
matched fits, whatever bytes it holds, and a text without stars that fits is matched. -/
theorem loop_decides :
    (∀ turns, after pattern text turns = .ends (matches? pattern text) ∨
      ∃ place, after pattern text turns = .goesOn place ∧ place.InRange pattern text) ∧
    (∀ turns, (text.length + 1) * (pattern.length + 1) ≤ turns →
      after pattern text turns = .ends (matches? pattern text)) ∧
    (matches? pattern text = true → Fits pattern text) ∧
    (star ∉ text → Fits pattern text → matches? pattern text = true) := by
  refine ⟨fun turns => ?_, fun turns => after_of_le pattern text, fits_of_matches?,
    matches?_of_fits⟩
  obtain hended | ⟨place, hafter, hrange, -, -⟩ := after_cases pattern text turns
  · exact Or.inl hended
  · exact Or.inr ⟨place, hafter, hrange⟩

/-- The first star takes up one byte and the second one two before what is behind them fits; at the
fourth turn the place in the text goes back. -/
theorem loop_decides_repeated :
    let pattern : List UInt8 := [star, 97, 97, 98, star, 98, anyByte]
    let text : List UInt8 := [97, 97, 97, 98, 98, 97, 98, 99]
    after pattern text 3 = .goesOn ⟨3, 2, some ⟨0, 0⟩⟩ ∧
      after pattern text 4 = .goesOn ⟨1, 1, some ⟨0, 1⟩⟩ ∧
      Place.InRange pattern text ⟨1, 1, some ⟨0, 1⟩⟩ ∧
      after pattern text 72 = .ends true ∧ star ∉ text ∧ Fits pattern text := by
  intro pattern text
  obtain ⟨hplaces, hends, hsound, hcomplete⟩ := loop_decides pattern text
  have hback : after pattern text 4 = .goesOn ⟨1, 1, some ⟨0, 1⟩⟩ := by decide
  have hstar : star ∉ text := by decide
  have hfits : Fits pattern text := by
    have hlast : Fits [anyByte] [99] := Fits.any 99 Fits.nil
    have hsecond : Fits [star, 98, anyByte] [98, 97, 98, 99] :=
      Fits.run [98, 97] (hlast.append_left [98])
    exact Fits.run [97] (hsecond.append_left [97, 97, 98])
  have hmatched := hcomplete hstar hfits
  refine ⟨by decide, hback, ?_, ?_, hstar, hsound hmatched⟩
  · obtain hended | ⟨place, hafter, hrange⟩ := hplaces 4
    · rw [hback] at hended
      cases hended
    · rw [hback] at hafter
      cases hafter
      exact hrange
  · rw [hends 72 (by decide), hmatched]

end Loop

end JumpHost.Glob
