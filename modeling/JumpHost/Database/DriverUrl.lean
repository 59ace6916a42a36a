/-
**URLs as drivers read them.**

A driver reads its URL by the rules of URLs in general, which differ from those of database URLs:
blanks and controls at the ends do not count, nor do tabs and line breaks anywhere, the authority
ends at a fragment too, and dots that are parts of the path are walked.  What is behind the fragment
is nothing to it.

Main definitions:

* `JumpHost.DriverUrl`, with `ofText` — the parts of a URL, or what is wrong with it;
* `JumpHost.DriverUrl.database` — the path without its first slashes;
* `JumpHost.DriverUrl.options` — the options in the query, in order.
-/

import JumpHost.Database.Fault
import JumpHost.Network.SocketAddress
import JumpHost.Text.Percent

set_option autoImplicit false

namespace JumpHost

/-- The parts of a URL. -/
structure DriverUrl where
  user : List Char
  password : List Char
  /-- The host; a host in brackets keeps them. -/
  host : Option (List Char)
  port : Option UInt16
  path : List Char
  query : List Char
  deriving DecidableEq

namespace DriverUrl

/-! ### Characters that do not count -/

/-- A blank or a control at an end does not count. -/
def isEdge (c : Char) : Bool := c.toNat ≤ 32

/-- Tabs and line breaks do not count. -/
def isPassedOver (c : Char) : Bool := c = '\t' || c = '\n' || c = '\r'

/-- A URL without the characters that do not count. -/
def cleaned (url : List Char) : List Char :=
  let trimmed := ((url.dropWhile isEdge).reverse.dropWhile isEdge).reverse
  trimmed.filter (!isPassedOver ·)

/-! ### The authority -/

/-- A character that ends the authority. -/
def endsAuthority (c : Char) : Bool := c = '/' || c = '?' || c = '#'

/-- The user and the password, which begins behind the first colon. -/
def splitCredentials (userinfo : List Char) : List Char × List Char :=
  (Text.cut [':'] userinfo).getD (userinfo, [])

/-- The host and what follows it: it ends at the first colon that is not in brackets. -/
def spanHost (inBrackets : Bool) : List Char → List Char × List Char
  | [] => ([], [])
  | ':' :: s =>
    if inBrackets then
      let (host, rest) := spanHost inBrackets s
      (':' :: host, rest)
    else ([], ':' :: s)
  | c :: s =>
    let (host, rest) := spanHost (if c = '[' then true else if c = ']' then false else inBrackets) s
    (c :: host, rest)

/-- A character that no host holds. -/
def isHostBreaker (c : Char) : Bool := "\x00\t\n\r #/:<>?@[\\]^|".toList.contains c

/-- Checks a host. -/
def checkHost : List Char → Except SettingFault Unit
  | '[' :: s =>
    if s.getLast? = some ']' ∧ (Ipv6.ofText? s.dropLast).isSome then .ok ()
    else .error .bracketedHost
  | s => if s.any isHostBreaker then .error .hostCharacter else .ok ()

/-- The port behind a host, and what follows it, which begins with a backslash if there is
anything. -/
def readPort : List Char → Except SettingFault (Option UInt16 × List Char)
  | ':' :: s =>
    let digits := s.takeWhile fun c => (Text.digitValue? c).isSome
    let rest := s.drop digits.length
    match Text.natural? digits with
    | none => if rest = [] ∨ rest.head? = some '\\' then .ok (none, rest) else .error .port
    | some n =>
      if n < UInt16.size ∧ (rest = [] ∨ rest.head? = some '\\') then
        .ok (some (UInt16.ofNat n), rest)
      else .error .port
  | rest => .ok (none, rest)

/-! ### The path and the query -/

/-- A part of a path that stays where it is. -/
def isDot (part : List Char) : Bool := [".", "%2e", "%2E"].contains (String.ofList part)

/-- A part of a path that leads one part back. -/
def isDoubleDot (part : List Char) : Bool :=
  ["..", ".%2e", ".%2E", "%2e.", "%2E.", "%2e%2e", "%2e%2E", "%2E%2e", "%2E%2E"].contains
    (String.ofList part)

/-- Walks the parts of a path; those that were walked stand in reverse. -/
def walkDots (walked : List (List Char)) : List (List Char) → List (List Char)
  | [] => walked.reverse
  | part :: rest =>
    if isDoubleDot part then walkDots (if rest = [] then [] :: walked.tail else walked.tail) rest
    else if isDot part then walkDots (if rest = [] then [] :: walked else walked) rest
    else walkDots (part :: walked) rest

/-- The path behind its first slash, with the dots in it walked. -/
def walkPath (path : List Char) : List Char :=
  let parts := (if path.head? = some '/' then path.tail else path).splitOn '/'
  List.intercalate ['/'] (walkDots [] parts)

/-- The parts behind the scheme. -/
def ofRemainder (s : List Char) : Except SettingFault DriverUrl := do
  let authority := s.takeWhile (!endsAuthority ·)
  let behind := s.drop authority.length
  let (userinfo, hostPort) := (Text.cutLast '@' authority).getD ([], authority)
  if authority = ['@'] ∧ behind ≠ [] then throw .emptyHost
  let (user, password) := splitCredentials userinfo
  let (host, portText) := spanHost false hostPort
  checkHost host
  if host = [] ∧ portText ≠ [] then throw .emptyHost
  let (port, rest) ← readPort portText
  if host = [] ∧ (user ≠ [] ∨ password ≠ []) then throw .emptyHost
  let rest := rest ++ behind
  let path := rest.takeWhile fun c => c ≠ '?' ∧ c ≠ '#'
  let query := ((rest.drop path.length).takeWhile (· ≠ '#')).drop 1
  return ⟨user, password, if host = [] then none else some host, port, walkPath path, query⟩

/-- The parts of a URL. -/
def ofText (url : List Char) : Except SettingFault DriverUrl :=
  match Text.cut [':', '/', '/'] (cleaned url) with
  | none => .error .noScheme
  | some (_, remainder) => ofRemainder remainder

/-! ### What the parts mean -/

/-- The name of the database, before it is decoded. -/
def database (u : DriverUrl) : List Char := u.path.dropWhile (· = '/')

/-- The text of a name or a value in a query, in which a plus sign is a blank. -/
def decode (s : List Char) : List Char :=
  Text.ofUtf8Lossy (Text.percentBytes (s.map fun c => if c = '+' then ' ' else c))

/-- The name and the value of an option. -/
def option (s : List Char) : List Char × List Char :=
  match Text.cut ['='] s with
  | some (name, value) => (decode name, decode value)
  | none => (decode s, [])

/-- The options in order. -/
def options (u : DriverUrl) : List (List Char × List Char) :=
  ((u.query.splitOn '&').filter (· ≠ [])).map option

end DriverUrl

end JumpHost
