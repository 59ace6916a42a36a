/-
**Where no network is reached.**

Without a network an attempt to connect is refused at once, and the refusal tells how far it came.
A host that is written as an address needs no looking up and cannot be reached; neither can the
machine itself by its own name.  Any other name cannot be looked up.  A socket that is named by a
path does not exist, if the path can be that of a socket at all.

Main definitions:

* `JumpHost.Destination` — what can be connected to;
* `JumpHost.isAddress` — the hosts that are written as addresses;
* `JumpHost.Destination.refusal` — why a destination is not reached.
-/

import JumpHost.Files.Error
import JumpHost.Network.SocketAddress

set_option autoImplicit false

namespace JumpHost

/-- What can be connected to. -/
inductive Destination where
  /-- A port of a host. -/
  | host (name : String) (port : UInt16)
  /-- A socket in the tree of files. -/
  | socket (path : String)
  deriving DecidableEq

/-- The number of a part of an address: in hexadecimal behind `0x`, in octal behind another zero,
else in decimal. -/
def looseNumber? : List Char → Option Nat
  | ['0'] => some 0
  | '0' :: 'x' :: digits => Text.hexNatural? digits
  | '0' :: 'X' :: digits => Text.hexNatural? digits
  | '0' :: digits =>
    if digits.all (fun c => '0' ≤ c && c ≤ '7') then
      some (digits.foldl (fun n c => 8 * n + (c.toNat - 48)) 0)
    else none
  | digits => Text.natural? digits

/-- Numbers that are an address of four octets, the last of them standing for all octets that are
left. -/
def isLooseAddress (octets : Nat) : List (Option Nat) → Bool
  | [some last] => last < Nat.pow 256 octets
  | some octet :: rest => 1 < octets && octet < 256 && isLooseAddress (octets - 1) rest
  | _ => false

/-- The hosts that are written as addresses. -/
def isAddress (host : List Char) : Bool :=
  isLooseAddress 4 ((host.splitOn '.').map looseNumber?) || (Ipv6.ofText? host).isSome

/-- The most bytes of the path of a socket. -/
def socketPathLimit : Nat := 107

/-- Why a destination is not reached. -/
def Destination.refusal : Destination → OsError
  | host name _ =>
    if isAddress name.toList ∨ name = "localhost" then .networkUnreachable
    else if '\x00' ∈ name.toList then .nulInName
    else .nameUnresolved
  | socket path =>
    if '\x00' ∈ path.toList then .nulInSocketPath
    else if path.utf8ByteSize > socketPathLimit then .socketPathTooLong
    else if path = "" then .invalidArgument
    else .notFound

end JumpHost
