/-
**What is wrong with a distinguished encoding.**

A distinguished encoding leaves no choice in how a value is written, so that much can be wrong with
it: tags, lengths and the values themselves.  A fault may tell its place, which is counted from the
start of the value around it.

Main definitions:

* `JumpHost.Der.FaultKind`, `JumpHost.Der.Fault` — what is wrong, and where;
* `JumpHost.Der.Fault.message` — the wording.
-/

import JumpHost.Der.ObjectId
import JumpHost.Der.Tag
import JumpHost.Text.Hex

set_option autoImplicit false

namespace JumpHost.Der

/-- What is wrong. -/
inductive FaultKind where
  /-- The bytes end early. -/
  | incomplete (expected actual : Nat)
  /-- A value does not tell its length. -/
  | indefiniteLength
  /-- A value has a length that it cannot have. -/
  | length (tag : Tag)
  /-- A value could be written in another way, which must be used. -/
  | noncanonical (tag : Tag)
  /-- A value is none of its kind. -/
  | value (tag : Tag)
  /-- A name is not written as one. -/
  | malformedId
  /-- A name is not one of those that can stand here. -/
  | unknownId (id : ObjectId)
  /-- A length is larger than any that there is. -/
  | overflow
  /-- A tag is of the kind that takes more than one byte. -/
  | longTag
  /-- A tag is none. -/
  | unknownTag (byte : UInt8)
  /-- A tag is not the one that must stand here. -/
  | unexpectedTag (expected : Option Tag) (found : Tag)
  /-- Bytes are left over. -/
  | trailing (decoded remaining : Nat)
  deriving DecidableEq

/-- The wording of what is wrong. -/
def FaultKind.message : FaultKind → String
  | incomplete expected actual =>
    s!"ASN.1 DER message is incomplete: expected {expected}, actual {actual}"
  | indefiniteLength => "indefinite length disallowed"
  | length tag => "incorrect length for " ++ tag.text
  | noncanonical tag => "ASN.1 " ++ tag.text ++ " not canonically encoded as DER"
  | value tag => "malformed ASN.1 DER value for " ++ tag.text
  | malformedId => "malformed OID"
  | unknownId id => "unknown/unsupported OID: " ++ id.text
  | overflow => "integer overflow"
  | longTag => "invalid tag number"
  | unknownTag byte =>
    "unknown/unsupported ASN.1 DER tag: 0x" ++
      String.ofList [Text.hexDigit (byte.toNat / 16), Text.hexDigit (byte.toNat % 16)]
  | unexpectedTag (some expected) found =>
    "unexpected ASN.1 DER tag: expected " ++ expected.text ++ ", got " ++ found.text
  | unexpectedTag none found => "unexpected ASN.1 DER tag: got " ++ found.text
  | trailing decoded remaining =>
    s!"trailing data at end of DER message: decoded {decoded} bytes, {remaining} bytes remaining"

/-- What is wrong, and where. -/
structure Fault where
  kind : FaultKind
  place : Option Nat := none
  deriving DecidableEq

/-- The wording of what is wrong, and where. -/
def Fault.message (f : Fault) : String :=
  match f.place with
  | none => f.kind.message
  | some place => s!"{f.kind.message} at DER byte {place}"

end JumpHost.Der
