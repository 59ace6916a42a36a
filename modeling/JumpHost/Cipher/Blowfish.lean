/-
**A cipher whose tables are its key.**

The cipher turns two words into two words by sixteen rounds.  A round takes the half of the table of
sums that is its own and four boxes of 256 words, and all of these are changed by the key: first the
key is added to the sums, and then the cipher, begun with zeros or with a salt, puts its own output
in the place of every two words.  To begin with, sums and boxes hold the digits of pi.

Main definitions:

* `JumpHost.Blowfish.Tables` — the sums and the boxes;
* `JumpHost.Blowfish.encrypt` — two words through the cipher;
* `JumpHost.Blowfish.Tables.expand` — the tables after a key and a salt.
-/

import JumpHost.Cipher.PiDigits

set_option autoImplicit false

namespace JumpHost.Blowfish

/-- The sums and the boxes. -/
structure Tables where
  sums : Array UInt32
  boxes : Array UInt32

/-- The digits of pi: eighteen sums and four boxes. -/
def digits : List UInt32 := PiDigits.words 1042

/-- The tables before any key. -/
def initial : Tables := ⟨(digits.take 18).toArray, (digits.drop 18).toArray⟩

/-! ### The cipher -/

/-- What the boxes make of a word: each of its bytes picks a word of the box of its own. -/
def picked (boxes : Array UInt32) (x : UInt32) : UInt32 :=
  let a := boxes.getD (x >>> 24).toNat 0
  let b := boxes.getD (256 + (x >>> 16 &&& 0xff).toNat) 0
  let c := boxes.getD (512 + (x >>> 8 &&& 0xff).toNat) 0
  let d := boxes.getD (768 + (x &&& 0xff).toNat) 0
  ((a + b) ^^^ c) + d

/-- The rounds from round `i` on, of which `n` pairs are left. -/
def rounds (sums boxes : Array UInt32) (i : Nat) : Nat → UInt32 → UInt32 → UInt32 × UInt32
  | 0, left, right => (right ^^^ sums.getD 17 0, left ^^^ sums.getD 16 0)
  | n + 1, left, right =>
    let left := left ^^^ sums.getD i 0
    let right := right ^^^ picked boxes left ^^^ sums.getD (i + 1) 0
    rounds sums boxes (i + 2) n (left ^^^ picked boxes right) right

/-- Two words through the cipher. -/
def encrypt (sums boxes : Array UInt32) (left right : UInt32) : UInt32 × UInt32 :=
  rounds sums boxes 0 8 left right

/-! ### Keys -/

/-- The words of a key that are added to the sums, over and over. -/
def addKey (sums : Array UInt32) (key : Array UInt32) : Array UInt32 :=
  sums.mapIdx fun i sum => sum ^^^ key.getD (i % key.size) 0

/-- The word of a salt at a place, over and over; zero without one. -/
def saltAt (salt : Array UInt32) (i : Nat) : UInt32 := salt.getD (i % salt.size) 0

/-- Puts the output of the cipher in the place of the sums from place `i` on, `n` pairs of them. -/
def fillSums (boxes salt : Array UInt32) (i : Nat) :
    Nat → Array UInt32 → UInt32 → UInt32 → Array UInt32 × UInt32 × UInt32
  | 0, sums, left, right => (sums, left, right)
  | n + 1, sums, left, right =>
    let (left, right) := encrypt sums boxes (left ^^^ saltAt salt i) (right ^^^ saltAt salt (i + 1))
    fillSums boxes salt (i + 2) n
      ((sums.setIfInBounds i left).setIfInBounds (i + 1) right) left right

/-- Puts the output of the cipher in the place of the boxes from place `i` on, `n` pairs of them.
The salt goes on where it stopped after the sums. -/
def fillBoxes (sums salt : Array UInt32) (i : Nat) :
    Nat → Array UInt32 → UInt32 → UInt32 → Array UInt32
  | 0, boxes, _, _ => boxes
  | n + 1, boxes, left, right =>
    let (left, right) :=
      encrypt sums boxes (left ^^^ saltAt salt (18 + i)) (right ^^^ saltAt salt (19 + i))
    fillBoxes sums salt (i + 2) n
      ((boxes.setIfInBounds i left).setIfInBounds (i + 1) right) left right

/-- The tables after a key and a salt, each of any number of words. -/
def Tables.expand (t : Tables) (salt key : Array UInt32) : Tables :=
  let ⟨sums, boxes⟩ := t
  let (sums, left, right) := fillSums boxes salt 0 9 (addKey sums key) 0 0
  ⟨sums, fillBoxes sums salt 0 512 boxes left right⟩

end JumpHost.Blowfish
