/-
**What is wrong with the URL of a driver.**

A driver reads its URL by the rules of URLs and then the options in it, and refuses what it does not
understand before it connects to anything.

Main definitions:

* `JumpHost.SettingFault` — the causes;
* `JumpHost.SettingFault.chain` — the wording, and below it those of its causes.
-/

import JumpHost.Text.BoundedNumeral
import JumpHost.Text.Malformed
import JumpHost.Text.Shown

set_option autoImplicit false

namespace JumpHost

/-- Why a driver refuses its URL. -/
inductive SettingFault where
  /-- There is no scheme. -/
  | noScheme
  | emptyHost
  /-- The port is no number, or too large. -/
  | port
  /-- What stands in brackets is no address. -/
  | bracketedHost
  /-- The host holds a character that no host holds. -/
  | hostCharacter
  /-- A part is no text once it is decoded. -/
  | malformed (m : Text.Malformed)
  /-- An option that is a number has another value. -/
  | numeral (fault : Text.NumeralFault)
  /-- An option that is an address has another value. -/
  | address
  /-- An option has a value that is none of its own. -/
  | unknownValue (name value : String)
  | characterSet (name : String)
  | collation (name : String)
  deriving DecidableEq

/-- The wording of why a driver refuses its URL, and below it those of its causes. -/
def SettingFault.chain : SettingFault → List String
  | noScheme => ["relative URL without a base"]
  | emptyHost => ["empty host"]
  | port => ["invalid port number"]
  | bracketedHost => ["invalid IPv6 address"]
  | hostCharacter => ["invalid domain character"]
  | malformed m => [m.message]
  | numeral fault => [fault.message]
  | address => ["invalid IP address syntax"]
  | unknownValue name value =>
    let shown := String.ofList (Text.shown value.toList)
    let cause := "unknown value " ++ shown ++ " for `" ++ name ++ "`"
    ["error with configuration: " ++ cause, cause]
  | characterSet name => ["unsupported MySQL charset: " ++ name]
  | collation name => ["unsupported MySQL collation: " ++ name]

end JumpHost
