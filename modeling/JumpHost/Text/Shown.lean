/-
**A text as messages show it.**

A message that shows a text puts it between quotation marks, so that its ends are seen, and shows
every character that would not be seen, or would be taken for a part of the message, by an escape.

Main definitions:

* `JumpHost.Text.shown` — a text between quotation marks.
-/

import JumpHost.Text.Hex
import JumpHost.Text.Unprintable

set_option autoImplicit false

namespace JumpHost.Text

/-- The escape of a character by its number. -/
def numberEscape (c : Char) : List Char := ['\\', 'u', '{'] ++ hexNumeral c.toNat ++ ['}']

/-- The text that shows a character. -/
def shownChar (c : Char) : List Char :=
  if c = '"' ∨ c = '\\' then ['\\', c]
  else if c = '\n' then ['\\', 'n']
  else if c = '\r' then ['\\', 'r']
  else if c = '\t' then ['\\', 't']
  else if c = '\x00' then ['\\', '0']
  else if isUnprintable c then numberEscape c
  else [c]

/-- A text between quotation marks. -/
def shown (s : List Char) : List Char := '"' :: s.flatMap shownChar ++ ['"']

end JumpHost.Text
