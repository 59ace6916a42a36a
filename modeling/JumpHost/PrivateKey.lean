/-
**Private keys.**

A private key is read from its file in one go: the lines of the file give base64, the header before
them tells what the base64 stands for, the passphrase opens it if it is closed, and the key in it
must be one that can sign.  The first of these that fails is the error.

Main definitions:

* `JumpHost.PrivateKey.ofText` — the key that a text holds, under a passphrase;
* `JumpHost.PrivateKey.load` — the key in a file.

Main statements:

* `JumpHost.PrivateKey.ofText_of_no_header` — without a header there is no key.
-/

import JumpHost.Files.Tree
import JumpHost.PrivateKey.Armor
import JumpHost.PrivateKey.Container
import JumpHost.PrivateKey.Encrypted

set_option autoImplicit false

namespace JumpHost.PrivateKey

/-- The key in a container, which must be one that can sign. -/
def ofContainer (bytes : List UInt8) (passphrase : Option String) : Except KeyError PrivateKey :=
  match Container.ofBytes bytes with
  | .error fault => .error (.container fault)
  | .ok container =>
    match container.unlock passphrase with
    | .error e => .error e
    | .ok key => key.check

/-- The key in a chain of blocks, which is one over a modulus. -/
def ofChain (start bytes : List UInt8) : Option String → Except KeyError PrivateKey
  | none => .error .isEncrypted
  | some passphrase =>
    match Armor.unchain? start bytes passphrase with
    | none => .error .badPadding
    | some message => RsaRecord.ofBytes message

/-- The key that bytes of a kind stand for. -/
def ofKind (passphrase : Option String) (bytes : List UInt8) :
    Armor.Kind → Except KeyError PrivateKey
  | .container => ofContainer bytes passphrase
  | .numbers => RsaRecord.ofBytes bytes
  | .info => KeyInfo.ofDocument bytes passphrase
  | .chain start => ofChain start bytes passphrase

/-- The key that lines stand for. -/
def ofArmor (armor : Armor) (passphrase : Option String) : Except KeyError PrivateKey :=
  match Base64.decodeGroups 0 armor.body with
  | .error fault => .error (.encoding fault)
  | .ok bytes =>
    match armor.kind with
    | none => .error .noKey
    | some kind => ofKind passphrase bytes kind

/-- The key that a text holds. -/
def ofText (text : List Char) (passphrase : Option String) : Except KeyError PrivateKey :=
  match Armor.ofText text with
  | .error e => .error e
  | .ok armor => ofArmor armor passphrase

/-- Without a header there is no key. -/
theorem ofText_of_no_header {text : List Char}
    (h : ∀ line ∈ Armor.lines text, Armor.kindOf? line = none) (passphrase : Option String) :
    ofText text passphrase = .error .noKey := by
  simp [ofText, Armor.ofText_of_headerless h, ofArmor, Base64.decodeGroups]

/-- The key in a file. -/
def load (t : FileTree) (path : String) (passphrase : Option String) :
    Except KeyError PrivateKey :=
  match t.readText path with
  | .error e => .error (.unreadable e)
  | .ok text => ofText text.toList passphrase

end JumpHost.PrivateKey
