/-
**The settings of a connection.**

A driver takes its settings from its URL: first from the parts of it and then from the options, each
of which goes over what was set before.  The first part or option that it cannot read is refused;
an option that it does not know is passed over.

Main definitions:

* `JumpHost.Settings` — where a driver connects to, and how it speaks there;
* `JumpHost.Settings.read` — the settings of a URL;
* `JumpHost.Settings.destination` — what is connected to.
-/

import JumpHost.Database.CharacterSet
import JumpHost.Database.DriverUrl
import JumpHost.Engine
import JumpHost.Network.Reach
import JumpHost.Text.Ascii

set_option autoImplicit false

namespace JumpHost

/-- Where a driver connects to, and how it speaks there. -/
structure Settings where
  host : String := "localhost"
  port : UInt16
  /-- A socket, or the directory of one, which goes before the host. -/
  socket : Option String := none
  characterSet : String := "utf8mb4"
  collation : Option String := none
  deriving DecidableEq

namespace Settings

/-! ### Reading -/

/-- Text that is encoded in a part of a URL. -/
def decoded (part : List Char) : Except SettingFault String :=
  match Text.decodeUtf8 (Text.percentBytes part) with
  | .ok text => .ok (String.ofList text)
  | .error m => .error (.malformed m)

/-- A number below a bound. -/
def number (bound : Nat) (value : List Char) : Except SettingFault Nat :=
  match Text.boundedNatural bound value with
  | .ok n => .ok n
  | .error fault => .error (.numeral fault)

/-- The ways in which a connection can be encrypted. -/
def encryptionModes : Engine → List String
  | .postgres => ["disable", "allow", "prefer", "require", "verify-ca", "verify-full"]
  | .mysql => ["disabled", "preferred", "required", "verify_ca", "verify_identity"]

/-- One of the ways of encryption, in letters of either case. -/
def checkEncryption (engine : Engine) (value : List Char) : Except SettingFault Unit :=
  if (encryptionModes engine).contains (String.ofList (Text.lower value)) then .ok ()
  else .error (.unknownValue "ssl_mode" (String.ofList value))

/-- The settings after an option of the first engine. -/
def setPostgres (s : Settings) (name : String) (value : List Char) :
    Except SettingFault Settings := do
  match name with
  | "port" => return { s with port := UInt16.ofNat (← number UInt16.size value) }
  | "hostaddr" =>
    if (Ipv4.ofText? value).isSome ∨ (Ipv6.ofText? value).isSome then
      return { s with host := String.ofList value }
    else throw .address
  | "host" =>
    if value.head? = some '/' then return { s with socket := some (String.ofList value) }
    else return { s with host := String.ofList value }
  | _ => return s

/-- The settings after an option of the second engine. -/
def setMysql (s : Settings) (name : String) (value : List Char) : Settings :=
  match name with
  | "socket" => { s with socket := some (String.ofList value) }
  | "charset" => { s with characterSet := String.ofList value }
  | "collation" => { s with collation := some (String.ofList value) }
  | _ => s

/-- The settings after an option. -/
def set (engine : Engine) (s : Settings) (option : List Char × List Char) :
    Except SettingFault Settings := do
  let (name, value) := option
  let name := String.ofList name
  if name = "sslmode" ∨ name = "ssl-mode" then
    checkEncryption engine value
    return s
  if name = "statement-cache-capacity" then
    let _ ← number UInt64.size value
    return s
  match engine with
  | .postgres => s.setPostgres name value
  | .mysql => return s.setMysql name value

/-- The settings with the host of a URL.  The first engine takes a path for a socket. -/
def setHost (engine : Engine) (s : Settings) (host : List Char) : Except SettingFault Settings := do
  if engine = .postgres ∧ (Text.percentBytes host).head? = some 47 then
    return { s with socket := some (← decoded host) }
  return { s with host := String.ofList host }

/-- The settings of the parts and the options of a URL. -/
def ofUrl (engine : Engine) (u : DriverUrl) : Except SettingFault Settings := do
  let s : Settings := { port := u.port.getD engine.defaultPort }
  let s ← match u.host with
    | some host => s.setHost engine host
    | none => pure s
  let _ ← decoded u.user
  let _ ← decoded u.password
  let _ ← decoded u.database
  u.options.foldlM (set engine) s

/-- The character set and the collation must be known to the second engine. -/
def check (engine : Engine) (s : Settings) : Except SettingFault Unit :=
  match engine, s.collation with
  | .postgres, _ => .ok ()
  | .mysql, collation =>
    if isCharacterSet s.characterSet then
      match collation with
      | none => .ok ()
      | some name => if isCollation name then .ok () else .error (.collation name)
    else .error (.characterSet s.characterSet)

/-- The settings of a URL. -/
def read (engine : Engine) (url : List Char) : Except SettingFault Settings := do
  let s ← ofUrl engine (← DriverUrl.ofText url)
  s.check engine
  return s

/-! ### Where they lead -/

/-- A host without the brackets around it. -/
def bare (host : String) : String :=
  let isBracket (c : Char) : Bool := c = '[' || c = ']'
  String.ofList ((host.toList.dropWhile isBracket).reverse.dropWhile isBracket).reverse

/-- What is connected to.  The first engine is given the directory of its socket. -/
def destination (engine : Engine) (s : Settings) : Destination :=
  let ofDirectory (directory : String) : Destination :=
    .socket (directory ++ "/.s.PGSQL." ++ String.ofList (Text.numeral s.port.toNat))
  match engine, s.socket with
  | .postgres, some directory => ofDirectory directory
  | .mysql, some path => .socket path
  | _, none => .host (bare s.host) s.port

end Settings

end JumpHost
