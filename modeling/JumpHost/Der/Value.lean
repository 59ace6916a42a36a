/-
**Values in distinguished encodings.**

Numbers, strings, names and what is made of them.  A number is written with its sign, in as few
bytes as it needs, so that a zero stands in front of one that would look negative.

Main definitions:

* `JumpHost.Der.Decoder.integer`, `JumpHost.Der.Decoder.number` — numbers of any size, and of a
  given one;
* `JumpHost.Der.Decoder.octets`, `JumpHost.Der.Decoder.bits`, `JumpHost.Der.Decoder.objectId` —
  strings and names;
* `JumpHost.Der.Any`, `JumpHost.Der.Algorithm` — any value, and an algorithm with its parameters;
* `JumpHost.Der.Decoder.sequence`, `JumpHost.Der.Decoder.explicit?`,
  `JumpHost.Der.Decoder.implicitBits?` — rows, and values that are numbered where they stand.
-/

import JumpHost.Bytes
import JumpHost.Der.Decoder

set_option autoImplicit false

namespace JumpHost.Der

/-! ### Numbers -/

/-- The bytes of a number without its sign, if it is not negative and in as few bytes as it
needs. -/
def unsigned : List UInt8 → Except Fault (List UInt8)
  | [] => .error ⟨.noncanonical .integer, none⟩
  | [b] => if b < 0x80 then .ok [b] else .error ⟨.value .integer, none⟩
  | b :: next :: rest =>
    if b = 0 then
      if next < 0x80 then .error ⟨.noncanonical .integer, none⟩ else .ok (next :: rest)
    else if b < 0x80 then .ok (b :: next :: rest)
    else .error ⟨.value .integer, none⟩

namespace Decoder

/-- A number that is not negative, as it is written. -/
def integer : Decoder (List UInt8) :=
  expect .integer fun n => do
    let bytes ← take n
    let _ ← lift (unsigned bytes)
    return bytes

/-- A number that is not negative and has `size` bytes at most. -/
def number (size : Nat) : Decoder Nat :=
  expect .integer fun n => do
    if n = 0 then fail (.length .integer)
    if n > size + 1 then fail (.noncanonical .integer)
    let bytes ← lift (unsigned (← take n))
    if bytes.length > size then fail (.length .integer)
    return Bytes.toNat bytes

/-! ### Strings and names -/

/-- A string of bytes. -/
def octets : Decoder (List UInt8) := expect .octetString take

/-- The content of a string of bits, which must be one of bytes; nothing if it is not. -/
def bitContent (n : Nat) : Decoder (Option (List UInt8)) := do
  if n = 0 then fail .overflow
  let unused ← byte
  let bytes ← take (n - 1)
  if unused > 7 ∨ unused ≠ 0 ∧ bytes = [] then fail (.value .bitString)
  return if unused = 0 then some bytes else none

/-- A string of bits, which must be one of bytes; nothing if it is not. -/
def bits : Decoder (Option (List UInt8)) := expect .bitString bitContent

/-- A name. -/
def objectId : Decoder ObjectId :=
  expect .objectId fun n => do
    if n > ObjectId.lengthLimit then fail (.length .objectId)
    match ObjectId.ofBytes? (← take n) with
    | some id => return id
    | none => fail .malformedId

end Decoder

/-! ### Any value -/

/-- A value that was not looked into. -/
structure Any where
  tag : Tag
  content : List UInt8
  deriving DecidableEq

namespace Any

/-- What is read from the content of a row. -/
def sequence {α : Type} (a : Any) (d : Decoder α) : Except Fault α := do
  Decoder.checkTag .sequence a.tag
  d.run a.content

/-- The content of a string of bytes. -/
def octets (a : Any) : Except Fault (List UInt8) :=
  if a.tag = .octetString then .ok a.content else .error ⟨.unexpectedTag none a.tag, none⟩

/-- The name that a value is. -/
def objectId (a : Any) : Except Fault ObjectId := do
  Decoder.checkTag .objectId a.tag
  match ObjectId.ofBytes? a.content with
  | some id => .ok id
  | none => .error ⟨.malformedId, none⟩

end Any

/-- An algorithm, by its name and its parameters. -/
structure Algorithm where
  id : ObjectId
  parameters : Option Any
  deriving DecidableEq

namespace Decoder

/-- Any value. -/
def any : Decoder Any := do
  let (tag, n) ← header
  return ⟨tag, ← take n⟩

/-- A row of values, all of which must be used. -/
def sequence {α : Type} (d : Decoder α) : Decoder α := expect .sequence fun n => within n d

/-- An algorithm. -/
def algorithm : Decoder Algorithm :=
  sequence do return ⟨← field objectId, ← field (optional (fun _ => true) any)⟩

/-- One value after another until nothing is left; there are no more of them than bytes. -/
def untilFinished (d : Decoder Unit) : Nat → Decoder Unit
  | 0 => pure ()
  | fuel + 1 => do
    if ← isFinished then return
    d
    untilFinished d fuel

/-- As many values as there are. -/
def many (d : Decoder Unit) : Decoder Unit := do untilFinished d (← get).remaining

/-! ### Values that are numbered where they stand -/

/-- Passes over the values with smaller numbers and reads the one with the number, if it is there.
There are no more of them than bytes. -/
def seekNumber {α : Type} (number : Nat) (d : Decoder α) : Nat → Decoder (Option α)
  | 0 => return none
  | fuel + 1 => do
    match ← peek? with
    | none => return none
    | some tag =>
      if tag.scope ≠ .context ∨ number < tag.number then return none
      if tag.number = number then return some (← d)
      let _ ← any
      seekNumber number d fuel

/-- The value with a number, if it is there. -/
def numbered? {α : Type} (number : Nat) (d : Decoder α) : Decoder (Option α) := do
  seekNumber number d ((← get).remaining + 1)

/-- A value within one that is numbered. -/
def explicit {α : Type} (d : Decoder α) : Decoder α := do
  let (tag, n) ← header
  if tag.scope ≠ .context ∨ !tag.constructed then fail (.unexpectedTag none tag)
  within n d

/-- The value within one that has a number, if it is there. -/
def explicit? {α : Type} (number : Nat) (d : Decoder α) : Decoder (Option α) :=
  numbered? number (explicit d)

/-- A string of bits must be one of bytes. -/
def wholeBytes : Option (Option (List UInt8)) → Decoder (Option (List UInt8))
  | none => return none
  | some (some bytes) => return some bytes
  | some none => fail (.value .bitString)

/-- The string of bytes that is written as bits within a value that has a number, if it is there. -/
def explicitBits? (number : Nat) : Decoder (Option (List UInt8)) := do
  wholeBytes (← explicit? number bits)

/-- The string of bytes that is written as bits in a value that has a number instead of its own
tag, if it is there. -/
def implicitBits? (number : Nat) : Decoder (Option (List UInt8)) := do
  let content : Decoder (Option (List UInt8)) := do
    let (tag, n) ← header
    let content ← bitContent n
    if tag.constructed then fail (.noncanonical tag)
    return content
  wholeBytes (← numbered? number content)

end Decoder

end JumpHost.Der
