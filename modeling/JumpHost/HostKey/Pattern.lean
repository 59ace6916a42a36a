/-
**Host patterns.**

The first field of a ledger line says which hosts the line is about.  It is either a hashed name, a
salt and the authentication code of the name under it, or a list of wildcard patterns separated by
commas, where a pattern behind `!` excludes the hosts that it matches.  An endpoint has one name in
this language: the host alone on the standard port, `[host]:port` on any other.

Main definitions:

* `JumpHost.HostPattern.canonicalHost`, `JumpHost.HostPattern.ofEndpoint` — the name of an
  endpoint;
* `JumpHost.HostPattern.covers` — a field names a host;
* `JumpHost.HostPattern.hashedCovers`, `JumpHost.HostPattern.listCovers` — the two kinds of field.

Main statements:

* `JumpHost.HostPattern.listCovers_iff` — a list names a host when one of its patterns matches and
  none of its exclusions does.
-/

import JumpHost.Base64
import JumpHost.Digest.Sha1
import JumpHost.HostKey.Glob
import JumpHost.Text.Ascii
import JumpHost.Text.Blank
import JumpHost.Text.Cut
import JumpHost.Text.Numeral
import JumpHost.Text.Utf8

set_option autoImplicit false

namespace JumpHost.HostPattern

/-! ### The name of an endpoint -/

/-- The host without white space and brackets around it, in small letters. -/
def canonicalHost (host : String) : String :=
  let opened := (Text.trim host.toList).dropWhile (· == '[')
  String.ofList (Text.lower (opened.reverse.dropWhile (· == ']')).reverse)

/-- The name of an endpoint: the host alone on port 22, `[host]:port` on any other. -/
def ofEndpoint (host : String) (port : UInt16) : String :=
  if port = 22 then canonicalHost host
  else "[" ++ canonicalHost host ++ "]:" ++ String.ofList (Text.numeral port.toNat)

/-! ### Hashed names -/

/-- The mark at the start of a hashed name. -/
def hashMark : List Char := ['|', '1', '|']

/-- The text behind the mark of a hashed name, `salt|code` in base64, is that of the host.  The
host is hashed as it is written. -/
def hashedCovers (hashed : List Char) (host : String) : Bool :=
  match Text.cut ['|'] hashed with
  | none => false
  | some (salt, code) =>
    match Base64.decode? salt, Base64.decode? code with
    | some salt, some code => code == Digest.hmacSha1 salt (Text.bytesOf host)
    | _, _ => false

/-! ### Lists of patterns -/

/-- The bytes that are compared: those of the text with the capital letters of ASCII made small. -/
def folded (s : List Char) : List UInt8 := Text.utf8 (Text.lower s)

/-- The element of a list is a pattern that matches the host. -/
def includes (host : String) (element : List Char) : Bool :=
  element.head? != some '!' && Glob.matches? (folded element) (folded host.toList)

/-- The element of a list is an exclusion that matches the host. -/
def excludes (host : String) (element : List Char) : Bool :=
  element.head? == some '!' && Glob.matches? (folded element.tail) (folded host.toList)

/-- The list names the host: one of its patterns matches and none of its exclusions does. -/
def listCovers (field : List Char) (host : String) : Bool :=
  let elements := field.splitOn ','
  !elements.any (excludes host) && elements.any (includes host)

/-- A list names a host when one of its patterns matches and none of its exclusions does. -/
theorem listCovers_iff {field : List Char} {host : String} :
    listCovers field host = true ↔
      (∀ e ∈ field.splitOn ',', excludes host e = false) ∧
        ∃ e ∈ field.splitOn ',', includes host e = true := by
  simp [listCovers]

/-- **A field names a host.** -/
def covers (field host : String) : Bool :=
  match hashMark.isPrefixOf? field.toList with
  | some hashed => hashedCovers hashed host
  | none => listCovers field.toList host

end JumpHost.HostPattern
