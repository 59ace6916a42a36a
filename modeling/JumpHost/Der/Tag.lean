/-
**Tags of distinguished encodings.**

Every value in a distinguished encoding begins with a tag of one byte.  Two bits of it tell whose
numbers are meant, one bit whether the value is made of others, and five bits are the number.  The
number with all bits set would stand for a longer tag, which is not used here.

Main definitions:

* `JumpHost.Der.Tag`, with `ofByte?` and `text` — a tag, and the way it is shown.
-/

set_option autoImplicit false

namespace JumpHost.Der

/-- Whose numbers are meant. -/
inductive TagScope where
  | common
  | application
  | context
  | privateUse
  deriving DecidableEq

/-- A tag. -/
structure Tag where
  scope : TagScope
  /-- The value is made of other values. -/
  constructed : Bool
  number : Nat
  deriving DecidableEq

namespace Tag

/-- The tags that mean the same everywhere, and how they are shown. -/
def common : List (Tag × String) :=
  [(1, "BOOLEAN"), (2, "INTEGER"), (3, "BIT STRING"), (4, "OCTET STRING"), (5, "NULL"),
   (6, "OBJECT IDENTIFIER"), (9, "REAL"), (10, "ENUMERATED"), (12, "UTF8String"),
   (18, "NumericString"), (19, "PrintableString"), (20, "TeletexString"),
   (21, "VideotexString"), (22, "IA5String"), (23, "UTCTime"), (24, "GeneralizedTime"),
   (26, "VisibleString"), (27, "GeneralString"), (30, "BMPString")].map (simple false) ++
    [(16, "SEQUENCE"), (17, "SET")].map (simple true)
where
  /-- A tag from its number. -/
  simple (constructed : Bool) (entry : Nat × String) : Tag × String :=
    (⟨.common, constructed, entry.1⟩, entry.2)

/-- A whole number. -/
def integer : Tag := ⟨.common, false, 2⟩

/-- A string of bits. -/
def bitString : Tag := ⟨.common, false, 3⟩

/-- A string of bytes. -/
def octetString : Tag := ⟨.common, false, 4⟩

/-- Nothing. -/
def null : Tag := ⟨.common, false, 5⟩

/-- The name of something that is known to all. -/
def objectId : Tag := ⟨.common, false, 6⟩

/-- A row of values. -/
def sequence : Tag := ⟨.common, true, 16⟩

/-- A value made of others, numbered by what it stands in. -/
def inContext (number : Nat) : Tag := ⟨.context, true, number⟩

/-- Whose numbers a byte means. -/
def scopeOf (byte : UInt8) : TagScope :=
  if byte < 0x40 then .common
  else if byte < 0x80 then .application
  else if byte < 0xC0 then .context
  else .privateUse

/-- The tag of a byte. -/
def ofByte? (byte : UInt8) : Option Tag :=
  let tag : Tag := ⟨scopeOf byte, byte &&& 0x20 != 0, byte.toNat % 32⟩
  if tag.scope = .common ∧ (common.lookup tag).isNone then none else some tag

/-- The way a tag is shown. -/
def text (tag : Tag) : String :=
  let numbered (scope : String) : String :=
    let shape := if tag.constructed then "constructed" else "primitive"
    s!"{scope} [{tag.number}] ({shape})"
  match tag.scope with
  | .common => (common.lookup tag).getD ""
  | .application => numbered "APPLICATION"
  | .context => numbered "CONTEXT-SPECIFIC"
  | .privateUse => numbered "PRIVATE"

end Tag

end JumpHost.Der
