/-
**Percent encoding.**

A URL writes a byte that it cannot hold as a percent sign and two hexadecimal digits.  A percent
sign without them stands for itself, and every other character for its own bytes.

Main definitions:

* `JumpHost.Text.percentBytes` — the bytes that a part of a URL stands for.
-/

import JumpHost.Text.Hex
import JumpHost.Text.Utf8

set_option autoImplicit false

namespace JumpHost.Text

/-- The bytes that a part of a URL stands for. -/
def percentBytes : List Char → List UInt8
  | [] => []
  | '%' :: a :: b :: s =>
    match hexNatural? [a, b] with
    | some n => UInt8.ofNat n :: percentBytes s
    | none => utf8 ['%'] ++ percentBytes (a :: b :: s)
  | c :: s => utf8 [c] ++ percentBytes s

end JumpHost.Text
