/-
**Unpacking a container.**

A container is a row of numbers and strings, and a string can hold a row of its own.  A string
promises its length before it comes; what is read within it counts against the promise, and against
those of all strings around it, and the bytes must be there as well.  A string that is not read to
its end is left where its reading stopped.

Main definitions:

* `JumpHost.Cursor`, `JumpHost.Unpacking` — where reading stands, and steps of reading;
* `JumpHost.Unpacking.take`, `JumpHost.Unpacking.number`, `JumpHost.Unpacking.within` — bytes,
  numbers and what is read within a string;
* `JumpHost.Unpacking.bytes`, `JumpHost.Unpacking.text`, `JumpHost.Unpacking.label`,
  `JumpHost.Unpacking.integer` — kinds of strings.

Main statements:

* `JumpHost.Unpacking.length_take` — as many bytes as were asked for.
-/

import JumpHost.Bytes
import JumpHost.PrivateKey.Error
import JumpHost.Text.Utf8

set_option autoImplicit false

namespace JumpHost

/-- Where reading stands. -/
structure Cursor where
  /-- The bytes that are left. -/
  rest : List UInt8
  /-- What the strings that are being read still promise, the innermost first. -/
  promised : List Nat := []

/-- A step of reading. -/
abbrev Unpacking (α : Type) : Type := StateT Cursor (Except ContainerFault) α

/-- How many bytes the innermost string still promises, or how many are left of all. -/
def Cursor.remaining (c : Cursor) : Nat := c.promised.headD c.rest.length

namespace Unpacking

/-- How many bytes are left to be read where reading stands. -/
def remaining : Unpacking Nat := do return (← get).remaining

/-- The next bytes. -/
def take (n : Nat) : Unpacking (List UInt8) := fun c =>
  if n ≤ c.rest.length ∧ ∀ limit ∈ c.promised, n ≤ limit then
    .ok (c.rest.take n, ⟨c.rest.drop n, c.promised.map (· - n)⟩)
  else .error .length

theorem length_take {n : Nat} {c c' : Cursor} {bytes : List UInt8}
    (h : take n c = .ok (bytes, c')) : bytes.length = n := by
  unfold take at h
  split at h
  · rename_i enough
    cases h
    simp [enough.1]
  · cases h

/-- The next byte. -/
def byte : Unpacking UInt8 := do return (← take 1).headD 0

/-- The next number of four bytes. -/
def number : Unpacking Nat := do return Bytes.toNat (← take 4)

/-- The largest length of a string. -/
def lengthLimit : Nat := 0xFFFFF

/-- The next number, which is a length or a count. -/
def size : Unpacking Nat := do
  let n ← number
  if n > lengthLimit then throw .overflow
  return n

/-- What is read within the next string. -/
def within {α : Type} (r : Unpacking α) : Unpacking α := do
  let n ← size
  modify fun c => { c with promised := n :: c.promised }
  let a ← r
  modify fun c => { c with promised := c.promised.tail }
  return a

/-- The bytes of the next string. -/
def bytes : Unpacking (List UInt8) := within do take (← remaining)

/-- The bytes of the next string, which are `limit` at most. -/
def bytesUpTo (limit : Nat) : Unpacking (List UInt8) := within do
  let n ← remaining
  if n > limit then throw .length
  take n

/-- Bytes that must be text. -/
def asText (content : List UInt8) : Unpacking String :=
  match Text.ofUtf8? content with
  | some text => return String.ofList text
  | none => throw .notText

/-- The next string, which is text. -/
def text : Unpacking String := do asText (← bytes)

/-- The most bytes of a name. -/
def labelLimit : Nat := 48

/-- The next string, which is one of the names of something. -/
def label {α : Type} (ofName? : String → Option α) : Unpacking α := do
  let name ← asText (← bytesUpTo labelLimit)
  match ofName? name with
  | some a => return a
  | none => throw (.label name)

/-- Zeros in front of a number that it does not need. -/
def hasIdleZero : List UInt8 → Bool
  | [b] => b = 0
  | b :: next :: _ => b = 0 && next < 0x80
  | [] => false

/-- The next string, which is a number in as few bytes as it needs. -/
def integer : Unpacking (List UInt8) := do
  let content ← bytes
  if hasIdleZero content then throw .format
  return content

/-- What is read from some bytes, all of which must be used. -/
def run {α : Type} (r : Unpacking α) (content : List UInt8) : Except ContainerFault α :=
  match r ⟨content, []⟩ with
  | .error e => .error e
  | .ok (a, c) => if c.rest = [] then .ok a else .error (.trailing c.rest.length)

end Unpacking

end JumpHost
