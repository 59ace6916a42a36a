/-
**Socket addresses.**

The address of a socket is an address of the fourth or the sixth version of the protocol and a
port.  The text of the long form is in brackets; within it the longest run of zero segments is left
out, the first one of several, and an address that stands for a short one ends in the short form.

Main definitions:

* `JumpHost.Ipv4`, `JumpHost.Ipv6`, `JumpHost.SocketAddress`, each with `text` and `ofText?`;
* `JumpHost.SocketAddress.isLoopback` — the addresses of the machine itself.
-/

import JumpHost.Text.Cut
import JumpHost.Text.Hex
import JumpHost.Text.Numeral

set_option autoImplicit false

namespace JumpHost

/-! ### The short form -/

/-- An address of four octets. -/
structure Ipv4 where
  a : UInt8
  b : UInt8
  c : UInt8
  d : UInt8
  deriving DecidableEq

namespace Ipv4

/-- The text of an address. -/
def text (ip : Ipv4) : List Char :=
  List.intercalate ['.'] ([ip.a, ip.b, ip.c, ip.d].map fun o => Text.numeral o.toNat)

/-- The octet of a numeral without leading zeros. -/
def octet? (s : List Char) : Option UInt8 :=
  (Text.natural? s).bind fun n =>
    if n < 256 ∧ Text.numeral n = s then some (UInt8.ofNat n) else none

/-- The address of a text. -/
def ofText? (s : List Char) : Option Ipv4 :=
  match s.splitOn '.' with
  | [a, b, c, d] => do return ⟨← octet? a, ← octet? b, ← octet? c, ← octet? d⟩
  | _ => none

end Ipv4

/-! ### The long form -/

/-- An address of eight segments. -/
structure Ipv6 where
  a : UInt16
  b : UInt16
  c : UInt16
  d : UInt16
  e : UInt16
  f : UInt16
  g : UInt16
  h : UInt16
  deriving DecidableEq

namespace Ipv6

/-- The segments in order. -/
def segments (ip : Ipv6) : List UInt16 := [ip.a, ip.b, ip.c, ip.d, ip.e, ip.f, ip.g, ip.h]

/-- The address of a list of eight segments. -/
def ofSegments? : List UInt16 → Option Ipv6
  | [a, b, c, d, e, f, g, h] => some ⟨a, b, c, d, e, f, g, h⟩
  | _ => none

/-- The short address that a long one stands for. -/
def mapped? (ip : Ipv6) : Option Ipv4 :=
  if [ip.a, ip.b, ip.c, ip.d, ip.e, ip.f] = [0, 0, 0, 0, 0, 0xFFFF] then
    some ⟨(ip.g / 256).toUInt8, ip.g.toUInt8, (ip.h / 256).toUInt8, ip.h.toUInt8⟩
  else none

/-- The start and the length of the longest run of zeros, the first one of several, in segments of
which the first is number `i`. -/
def longestRun (i : Nat) : List UInt16 → Nat × Nat
  | [] => (i, 0)
  | s :: rest =>
    let here := ((s :: rest).takeWhile (· == 0)).length
    let later := longestRun (i + 1) rest
    if later.2 ≤ here then (i, here) else later

/-- Segments with colons between them. -/
def joined (segments : List UInt16) : List Char :=
  List.intercalate [':'] (segments.map fun s => Text.hexNumeral s.toNat)

/-- The text of an address. -/
def text (ip : Ipv6) : List Char :=
  match ip.mapped? with
  | some short => [':', ':', 'f', 'f', 'f', 'f', ':'] ++ short.text
  | none =>
    let (start, length) := longestRun 0 ip.segments
    if length ≤ 1 then joined ip.segments
    else
      joined (ip.segments.take start) ++ [':', ':'] ++ joined (ip.segments.drop (start + length))

/-- The segment of up to four digits. -/
def segment? (s : List Char) : Option UInt16 :=
  if s.length ≤ 4 then (Text.hexNatural? s).map UInt16.ofNat else none

/-- The segments of groups between colons; the last group may be a short address. -/
def groups? (mayEndShort : Bool) : List (List Char) → Option (List UInt16)
  | [] => some []
  | [last] =>
    match segment? last with
    | some s => some [s]
    | none =>
      if mayEndShort then
        (Ipv4.ofText? last).map fun ip =>
          [ip.a.toUInt16 * 256 + ip.b.toUInt16, ip.c.toUInt16 * 256 + ip.d.toUInt16]
      else none
  | group :: groups => do return (← segment? group) :: (← groups? mayEndShort groups)

/-- The segments of a text without an omission. -/
def run? (mayEndShort : Bool) (s : List Char) : Option (List UInt16) :=
  groups? mayEndShort (if s = [] then [] else s.splitOn ':')

/-- The address of a text.  An omission stands for at least one segment. -/
def ofText? (s : List Char) : Option Ipv6 :=
  match Text.cut [':', ':'] s with
  | none => (run? true s).bind ofSegments?
  | some (front, back) =>
    match run? false front, run? true back with
    | some front, some back =>
      if front.length + back.length < 8 then
        ofSegments? (front ++ List.replicate (8 - front.length - back.length) 0 ++ back)
      else none
    | _, _ => none

end Ipv6

/-! ### Sockets -/

/-- The address of a socket. -/
inductive SocketAddress where
  | v4 (ip : Ipv4) (port : UInt16)
  /-- The zone tells links apart; zero is no zone. -/
  | v6 (ip : Ipv6) (zone : UInt32) (port : UInt16)
  deriving DecidableEq

namespace SocketAddress

/-- The port of a socket. -/
def port : SocketAddress → UInt16
  | v4 _ port => port
  | v6 _ _ port => port

/-- The text of the address without its port, and with its zone, if it has one. -/
def host : SocketAddress → List Char
  | v4 ip _ => ip.text
  | v6 ip zone _ => ip.text ++ if zone = 0 then [] else '%' :: Text.numeral zone.toNat

/-- The characters of the text of an address. -/
def characters (address : SocketAddress) : List Char :=
  let port := ':' :: Text.numeral address.port.toNat
  match address with
  | v4 _ _ => address.host ++ port
  | v6 _ _ _ => '[' :: address.host ++ ']' :: port

/-- The text of an address. -/
def text (address : SocketAddress) : String := String.ofList address.characters

/-- The port of a numeral, in which leading zeros are allowed and a sign is not. -/
def port? (s : List Char) : Option UInt16 :=
  (Text.natural? s).bind fun n => if n < UInt16.size then some (UInt16.ofNat n) else none

/-- The zone of a numeral. -/
def zone? (s : List Char) : Option UInt32 :=
  (Text.natural? s).bind fun n => if n < UInt32.size then some (UInt32.ofNat n) else none

/-- The address of a text. -/
def ofText? : List Char → Option SocketAddress
  | '[' :: s =>
    match Text.cut [']', ':'] s with
    | none => none
    | some (host, port) =>
      match Text.cut ['%'] host with
      | none => do return v6 (← Ipv6.ofText? host) 0 (← port? port)
      | some (host, zone) => do return v6 (← Ipv6.ofText? host) (← zone? zone) (← port? port)
  | s =>
    match Text.cut [':'] s with
    | none => none
    | some (host, port) => do return v4 (← Ipv4.ofText? host) (← port? port)

/-- The addresses of the machine itself. -/
def isLoopback : SocketAddress → Bool
  | v4 ip _ => ip.a = 127
  | v6 ip _ _ => ip.segments = [0, 0, 0, 0, 0, 0, 0, 1]

end SocketAddress

end JumpHost
