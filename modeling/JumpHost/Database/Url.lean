/-
**Database URLs.**

A database URL is `scheme://[userinfo@]host[:port]` with a path or a query behind.  The scheme
decides how the database is reached, so a URL is kept in its parts: the host and the port are what
is dialed from the jump host, and everything else goes to the driver as it was written.

A URL may hold a password.  A URL that cannot be read is shown with everything between the scheme
and the last `@` left out.

Main definitions:

* `JumpHost.DatabaseUrl`, with `ofText?` and `read` — the parts of a URL;
* `JumpHost.DatabaseUrl.redact` — a URL as it may be shown;
* `JumpHost.DatabaseUrl.target` — the address to dial;
* `JumpHost.DatabaseUrl.forDriver` — the URL for the driver, which connects to a local address.

Main statements:

* `JumpHost.DatabaseUrl.host_ne_empty` — a URL that is read has a host.
-/

import JumpHost.Network.SocketAddress
import JumpHost.Tunnel.Error

set_option autoImplicit false

namespace JumpHost

/-- The parts of a database URL. -/
structure DatabaseUrl where
  scheme : String
  /-- What stands before the `@`. -/
  userinfo : Option String
  host : String
  port : Option UInt16
  /-- The path and the query, with the character that they begin with. -/
  rest : String
  deriving DecidableEq

namespace DatabaseUrl

/-- A character that ends the authority of a URL. -/
def endsAuthority (c : Char) : Bool := c = '/' || c = '?'

/-- The userinfo of an authority, and its host and port. -/
def splitUserinfo (authority : List Char) : Option (List Char) × List Char :=
  match Text.cutLast '@' authority with
  | some (user, hostPort) => (some user, hostPort)
  | none => (none, authority)

/-- The port behind a host in brackets, which may be left out. -/
def portBehindBracket? : List Char → Option (Option UInt16)
  | [] => some none
  | ':' :: port => (Text.port? port).map some
  | _ => none

/-- The host and the port.  A host in brackets ends at the first `]`, any other one at the first
colon. -/
def splitPort? : List Char → Option (List Char × Option UInt16)
  | '[' :: rest =>
    match Text.cut [']'] rest with
    | some (host, behind) => (portBehindBracket? behind).map fun port => (host, port)
    | none => none
  | hostPort =>
    match Text.cut [':'] hostPort with
    | some (host, port) => (Text.port? port).map fun port => (host, some port)
    | none => some (hostPort, none)

/-- The parts of a URL behind its scheme. -/
def ofRemainder? (scheme remainder : List Char) : Option DatabaseUrl :=
  let (userinfo, hostPort) := splitUserinfo (remainder.takeWhile (!endsAuthority ·))
  match splitPort? hostPort with
  | none => none
  | some ([], _) => none
  | some (host, port) =>
    some ⟨String.ofList scheme, userinfo.map String.ofList, String.ofList host, port,
      String.ofList (remainder.dropWhile (!endsAuthority ·))⟩

/-- The parts of a URL. -/
def ofText? (url : List Char) : Option DatabaseUrl :=
  match Text.cut schemeMark url with
  | none => none
  | some ([], _) => none
  | some (scheme, remainder) => ofRemainder? scheme remainder

theorem host_ne_empty {url : List Char} {u : DatabaseUrl} (h : ofText? url = some u) :
    u.host ≠ "" := by
  unfold ofText? ofRemainder? at h
  split at h
  · cases h
  · cases h
  · simp only at h
    split at h
    · cases h
    · cases h
    · rename_i host _ hne _
      cases h
      simpa using hne

/-- A URL as it may be shown: what stands between the scheme and the last `@` is left out. -/
def redact (url : String) : String :=
  match Text.cut schemeMark url.toList, Text.cutLast '@' url.toList with
  | some (scheme, _), some (_, behind) =>
    String.ofList (scheme ++ schemeMark ++ ['*', '*', '*', '@'] ++ behind)
  | _, _ => url

/-- The parts of a URL, or the refusal to read it. -/
def read (url : String) : Except TunnelError DatabaseUrl :=
  match ofText? url.toList with
  | some u => .ok u
  | none => .error (.invalidUrl (redact url))

/-- The address to dial: the host and the port, which is by default the one of the engine. -/
def target (u : DatabaseUrl) (engine : Engine) : String :=
  let port := String.ofList (Text.numeral (u.port.getD engine.defaultPort).toNat)
  if ':' ∈ u.host.toList then "[" ++ u.host ++ "]:" ++ port else u.host ++ ":" ++ port

/-- The URL for the driver of the engine, which connects to a local address. -/
def forDriver (u : DatabaseUrl) (engine : Engine) (address : SocketAddress) : String :=
  let user := match u.userinfo with
    | some user => user ++ "@"
    | none => ""
  engine.scheme ++ "://" ++ user ++ address.text ++ u.rest

end DatabaseUrl

end JumpHost
