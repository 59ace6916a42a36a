/-
**Lengths of time and their text.**

A length of time is a number of nanoseconds.  Its text uses the largest of the units second,
millisecond, microsecond and nanosecond that fits into it at least once, and as many decimal places
as are needed to give it exactly.

Main definitions:

* `JumpHost.Duration` — a length of time, with `ofSeconds`;
* `JumpHost.Duration.text` — its text.
-/

import JumpHost.Text.Numeral

set_option autoImplicit false

namespace JumpHost

/-- A length of time. -/
structure Duration where
  /-- The number of nanoseconds. -/
  nanoseconds : Nat
  deriving DecidableEq

namespace Duration

/-- A number of seconds. -/
def ofSeconds (n : Nat) : Duration := ⟨n * 1000000000⟩

/-- The decimal places of `n / 10 ^ places`, without zeros at the end and with their point. -/
def fraction (places n : Nat) : List Char :=
  let digits := Text.numeral n
  let padded := List.replicate (places - digits.length) '0' ++ digits
  match (padded.reverse.dropWhile (· == '0')).reverse with
  | [] => []
  | shown => '.' :: shown

/-- The text in a unit of `10 ^ places` nanoseconds. -/
def inUnit (d : Duration) (places : Nat) (unit : String) : String :=
  String.ofList (Text.numeral (d.nanoseconds / Nat.pow 10 places) ++
    (if places = 0 then [] else fraction places (d.nanoseconds % Nat.pow 10 places))) ++ unit

/-- The text of a length of time, such as `1.5s`, `50ms` or `1.001µs`. -/
def text (d : Duration) : String :=
  if d.nanoseconds ≥ 1000000000 then d.inUnit 9 "s"
  else if d.nanoseconds ≥ 1000000 then d.inUnit 6 "ms"
  else if d.nanoseconds ≥ 1000 then d.inUnit 3 "µs"
  else d.inUnit 0 "ns"

end Duration

end JumpHost
