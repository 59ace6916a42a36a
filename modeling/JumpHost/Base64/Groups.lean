/-
**Base64 in groups.**

Key files hold base64 that is read more generously than that of ledgers: every group of four
characters may end in padding, not the last one alone.  What is refused is told with its place in
the text.  Within a group the length of its padding is looked at first, then the symbols, and then
the bits that the padding leaves over; the groups are read in order, and a rest that is no group
comes last.

Main definitions:

* `JumpHost.Base64.Fault`, `JumpHost.Base64.Fault.message` — what is refused, and where;
* `JumpHost.Base64.decodeGroup`, `JumpHost.Base64.decodeGroups` — the bytes of a group, and of a
  text.
-/

import JumpHost.Base64

set_option autoImplicit false

namespace JumpHost.Base64

/-- What is refused in a text. -/
inductive Fault where
  /-- The rest of the text is no group. -/
  | length (place : Nat)
  /-- A character stands where it must not. -/
  | symbol (place : Nat)
  /-- A group is padded too much; its padding starts here. -/
  | padding (place : Nat)
  /-- Bits are left over that are not zero. -/
  | bits (place : Nat)
  deriving DecidableEq

/-- The wording of what is refused. -/
def Fault.message : Fault → String
  | length place => s!"invalid length at {place}"
  | symbol place => s!"invalid symbol at {place}"
  | padding place => s!"invalid padding length at {place}"
  | bits place => s!"non-zero trailing bits at {place}"

/-- The values of characters of which the first is at a place. -/
def values (place : Nat) : List Char → Except Fault (List Nat)
  | [] => .ok []
  | c :: s =>
    match value? c with
    | none => .error (.symbol place)
    | some v => (values (place + 1) s).map (v :: ·)

/-- The bytes of the values of a group. -/
def groupBytes (place : Nat) : List Nat → Except Fault (List UInt8)
  | [a, b, c, d] =>
    .ok [UInt8.ofNat (a * 4 + b / 16), UInt8.ofNat (b % 16 * 16 + c / 4),
      UInt8.ofNat (c % 4 * 64 + d)]
  | [a, b, c] =>
    if c % 4 = 0 then .ok [UInt8.ofNat (a * 4 + b / 16), UInt8.ofNat (b % 16 * 16 + c / 4)]
    else .error (.bits (place + 2))
  | [a, b] =>
    if b % 16 = 0 then .ok [UInt8.ofNat (a * 4 + b / 16)] else .error (.bits (place + 1))
  | short => .error (.padding (place + short.length))

/-- A group without the padding at its end. -/
def unpadded (group : List Char) : List Char := (group.reverse.dropWhile (· = '=')).reverse

/-- The bytes of a group of four characters. -/
def decodeGroup (place : Nat) (group : List Char) : Except Fault (List UInt8) :=
  let symbols := unpadded group
  if symbols.length < 2 then .error (.padding (place + symbols.length))
  else
    match values place symbols with
    | .error e => .error e
    | .ok vs => groupBytes place vs

/-- The bytes of a text of which the first character is at a place. -/
def decodeGroups (place : Nat) : List Char → Except Fault (List UInt8)
  | [] => .ok []
  | a :: b :: c :: d :: rest =>
    match decodeGroup place [a, b, c, d] with
    | .error e => .error e
    | .ok bytes => (decodeGroups (place + 4) rest).map (bytes ++ ·)
  | _ => .error (.length place)

end JumpHost.Base64
