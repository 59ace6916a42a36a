/-
**The lines of a ledger.**

A line of a ledger is `patterns key-type blob` with anything behind it, the blob in base64.  Blank
lines, comments behind `#` and markers behind `@` carry no record, and neither does a line whose
blob is not canonical.  A record is written as its three fields with single blanks between them.

Main definitions:

* `JumpHost.HostRecord.line` — the line of a record;
* `JumpHost.HostRecord.ofLine?` — the record of a line, if it carries one;
* `JumpHost.HostRecord.listOfText` — the records of a text, in order.
-/

import JumpHost.HostKey
import JumpHost.Text.Blank

set_option autoImplicit false

namespace JumpHost.HostRecord

/-- The line of a record, without a line break. -/
def line (r : HostRecord) : String :=
  r.pattern ++ " " ++ r.key.keyType ++ " " ++ String.ofList (Base64.encode r.key.blob)

/-- A first word that makes a line a comment or a marker. -/
def isRemark (word : List Char) : Bool := word.head? == some '#' || word.head? == some '@'

/-- The record of a line, if it carries one: its first three words, of which the first is no
comment or marker and the third is a blob. -/
def ofLine? (line : List Char) : Option HostRecord :=
  match Text.words line with
  | pattern :: keyType :: blob :: _ =>
    if isRemark pattern then none
    else
      (Base64.decode? blob).map fun blob =>
        ⟨String.ofList pattern, ⟨String.ofList keyType, blob⟩⟩
  | _ => none

/-- The records of a text, in the order of its lines. -/
def listOfText (text : List Char) : List HostRecord := (text.splitOn '\n').filterMap ofLine?

end JumpHost.HostRecord
