/-
**The address of a dial.**

A dial names a host and a port as one text: `host:port`, or `[host]:port` for a host that holds
colons itself.  Every other text names nothing, and port zero is no port.

Main definitions:

* `JumpHost.Endpoint` — a host and a port;
* `JumpHost.Endpoint.ofText?`, `JumpHost.Endpoint.ofAddress` — the endpoint that a text names.
-/

import JumpHost.Text.Cut
import JumpHost.Tunnel.Error

set_option autoImplicit false

namespace JumpHost

/-- A host and a port on it. -/
structure Endpoint where
  host : String
  port : UInt16
  deriving DecidableEq

namespace Endpoint

/-- The texts of the host and of the port.  A host in brackets ends at the first `]:`, any other
one at a colon that is the only one. -/
def split? : List Char → Option (List Char × List Char)
  | '[' :: rest => Text.cut [']', ':'] rest
  | address =>
    match Text.cutLast ':' address with
    | some (host, port) => if ':' ∈ host then none else some (host, port)
    | none => none

/-- The endpoint that a text names. -/
def ofText? (address : List Char) : Option Endpoint :=
  match split? address with
  | none => none
  | some (host, port) =>
    match Text.port? port with
    | none => none
    | some port => if host = [] ∨ port = 0 then none else some ⟨String.ofList host, port⟩

/-- The endpoint that an address names, or the refusal to dial it. -/
def ofAddress (address : String) : Except TunnelError Endpoint :=
  match ofText? address.toList with
  | some e => .ok e
  | none => .error (.channel s!"invalid dial address '{address}'")

end Endpoint

end JumpHost
