/-
**Keys behind the names of their algorithms, encrypted.**

A key with the name of its algorithm can be encrypted as a whole.  Then it is the text of a scheme:
a way to stretch a passphrase into a key, with its parameters, and a cipher of chained blocks, with
the block before the first of them.  There is an outdated kind of schemes, which is read but not
used.

Main definitions:

* `JumpHost.EncryptedInfo`, `JumpHost.EncryptedInfo.read` — an encrypted key;
* `JumpHost.EncryptedInfo.Stretching`, `JumpHost.EncryptedInfo.Scheme` — how it is encrypted;
* `JumpHost.EncryptedInfo.decrypt`, `JumpHost.EncryptedInfo.unlock` — what was encrypted, under a
  passphrase;
* `JumpHost.KeyInfo.ofDocument` — the key in a file, encrypted or not.
-/

import JumpHost.Cipher.Aes
import JumpHost.Cipher.Mode
import JumpHost.Cipher.Stretch
import JumpHost.PrivateKey.Info

set_option autoImplicit false

namespace JumpHost

open Der

/-! ### Schemes -/

/-- The digest that a passphrase is stretched with. -/
inductive EncryptedInfo.StretchDigest where
  /-- A digest of the first family, which is known by name alone. -/
  | first
  | second (digest : Digest.Sha2)
  deriving DecidableEq

/-- How a passphrase becomes a key.  The length of the key can be told. -/
inductive EncryptedInfo.Stretching where
  | repeated (salt : List UInt8) (rounds : Nat) (length : Option Nat)
    (digest : EncryptedInfo.StretchDigest)
  | filled (salt : List UInt8) (cost : Stretch.MemoryCost) (length : Option Nat)
  deriving DecidableEq

/-- How a key is encrypted. -/
inductive EncryptedInfo.Scheme where
  /-- A scheme of a kind that is no longer used. -/
  | outdated
  /-- Chained blocks behind a first one, with a key of a size. -/
  | chained (stretching : EncryptedInfo.Stretching) (keySize : Nat) (start : List UInt8)
  deriving DecidableEq

/-- An encrypted key. -/
structure EncryptedInfo where
  scheme : EncryptedInfo.Scheme
  text : List UInt8
  deriving DecidableEq

namespace EncryptedInfo

/-! ### Names -/

/-- The name of the schemes in use. -/
def schemeId : ObjectId := .ofArcs [1, 2, 840, 113549, 1, 5, 13]

/-- The names of the outdated schemes. -/
def outdatedIds : List ObjectId :=
  [1, 3, 4, 6, 10, 11].map fun last => .ofArcs [1, 2, 840, 113549, 1, 5, last]

/-- The name of stretching by repetition. -/
def repeatedId : ObjectId := .ofArcs [1, 2, 840, 113549, 1, 5, 12]

/-- The name of stretching by filling a memory. -/
def filledId : ObjectId := .ofArcs [1, 3, 6, 1, 4, 1, 11591, 4, 11]

/-- The name of the digest of the first family. -/
def firstDigestId : ObjectId := .ofArcs [1, 2, 840, 113549, 2, 7]

/-- The names of the digests. -/
def digestIds : List (ObjectId × StretchDigest) :=
  [(firstDigestId, .first), (.ofArcs [1, 2, 840, 113549, 2, 8], .second .bits224),
   (.ofArcs [1, 2, 840, 113549, 2, 9], .second .bits256),
   (.ofArcs [1, 2, 840, 113549, 2, 10], .second .bits384),
   (.ofArcs [1, 2, 840, 113549, 2, 11], .second .bits512)]

/-- The names of the ciphers, and the sizes of their keys. -/
def cipherIds : List (ObjectId × Nat) :=
  [(2, 16), (22, 24), (42, 32)].map fun (last, keySize) =>
    (.ofArcs [2, 16, 840, 1, 101, 3, 4, 1, last], keySize)

/-! ### Reading -/

/-- The parameters of an algorithm, which must be there. -/
def parametersOf (a : Algorithm) : Except Fault Any :=
  match a.parameters with
  | some parameters => .ok parameters
  | none => .error ⟨.value .octetString, none⟩

/-- The entry of a name in a table. -/
def lookupId {α : Type} (table : List (ObjectId × α)) (id : ObjectId) : Except Fault α :=
  match table.lookup id with
  | some a => .ok a
  | none => .error ⟨.unknownId id, none⟩

/-- The digest of an algorithm, which has a parameter that says nothing. -/
def digestOf (a : Algorithm) : Except Fault StretchDigest :=
  match a.parameters with
  | none => .error ⟨.value .null, none⟩
  | some parameters =>
    if parameters = ⟨.null, []⟩ then lookupId digestIds a.id
    else .error ⟨.value parameters.tag, none⟩

open Decoder in
/-- Reads the length of a key, if it is told. -/
def readLength : Decoder (Option Nat) := field (optional (· = .integer) (number 2))

open Decoder in
/-- Reads the parameters of stretching by repetition. -/
def readRepeated : Decoder Stretching := do
  let salt ← octets
  let rounds ← field (number 4)
  let length ← readLength
  match ← optional (· = .sequence) algorithm with
  | none => return .repeated salt rounds length .first
  | some a => return .repeated salt rounds length (← lift (digestOf a))

open Decoder in
/-- Reads the parameters of stretching by filling a memory. -/
def readFilled : Decoder Stretching := do
  let salt ← octets
  let count ← field (number 8)
  let width ← field (number 2)
  let lanes ← field (number 2)
  return .filled salt ⟨count, width, lanes⟩ (← readLength)

/-- How an algorithm stretches a passphrase. -/
def stretchingOf (a : Algorithm) : Except Fault Stretching := do
  let parameters ← parametersOf a
  if a.id = repeatedId then parameters.sequence readRepeated
  else if a.id = filledId then parameters.sequence readFilled
  else .error ⟨.unknownId a.id, none⟩

/-- The size of the key of a cipher, and the block before the first one. -/
def cipherOf (a : Algorithm) : Except Fault (Nat × List UInt8) := do
  let start ← (← parametersOf a).octets
  let keySize ← lookupId cipherIds a.id
  if start.length ≠ 16 then throw ⟨.value .octetString, none⟩
  return (keySize, start)

open Decoder in
/-- Reads the parameters of a scheme in use. -/
def readChained : Decoder Scheme := do
  let stretching ← algorithm
  let cipher ← algorithm
  let stretching ← lift (stretchingOf stretching)
  let (keySize, start) ← lift (cipherOf cipher)
  return .chained stretching keySize start

open Decoder in
/-- Reads the parameters of an outdated scheme: eight bytes of salt and a number of rounds. -/
def readOutdated : Decoder Scheme := do
  if (← octets).length ≠ 8 then fail (.value .octetString)
  let _ ← field (number 2)
  return .outdated

/-- The scheme that an algorithm is. -/
def schemeOf (a : Algorithm) : Except Fault Scheme := do
  if a.id = schemeId then (← parametersOf a).sequence readChained
  else if a.id ∈ outdatedIds then (← parametersOf a).sequence readOutdated
  else .error ⟨.value .objectId, none⟩

open Decoder in
/-- Reads an encrypted key. -/
def read : Decoder EncryptedInfo :=
  sequence do
    let scheme ← field do lift (schemeOf (← algorithm))
    return ⟨scheme, ← octets⟩

/-! ### Decrypting -/

/-- A cost that can be used: the number of mixtures is a power of two and is not too large for their
width. -/
def isUsable (c : Stretch.MemoryCost) : Bool :=
  c.count == (1 <<< c.count.log2) && c.count.log2 < 16 * c.width && 0 < c.lanes &&
    c.width * c.lanes < (1 <<< 30)

/-- The key that a passphrase is stretched to. -/
def Stretching.key (s : Stretching) (passphrase : List UInt8) (size : Nat) :
    Except EncryptionFault (List UInt8) :=
  match s with
  | .repeated salt rounds length digest =>
    if length.any (· ≠ size) then .error (.parameters repeatedId)
    else
      match digest with
      | .first => .error (.unsupported firstDigestId)
      | .second digest => .ok (Stretch.repeated digest passphrase salt rounds size)
  | .filled salt cost length =>
    if length.any (· ≠ size) || !isUsable cost then .error (.parameters filledId)
    else .ok (Stretch.filled cost passphrase salt size)

/-- What was encrypted. -/
def decrypt (e : EncryptedInfo) (passphrase : String) : Except EncryptionFault (List UInt8) :=
  match e.scheme with
  | .outdated => .error .outdated
  | .chained stretching keySize start => do
    let key ← stretching.key (Text.bytesOf passphrase) keySize
    match Mode.filled? (Aes.decrypt (Aes.roundKeys key)) start e.text with
    | some message => .ok message
    | none => .error .blocks

open Decoder in
/-- What was encrypted, which must be a row. -/
def unlock (e : EncryptedInfo) (passphrase : String) : Except InfoFault (List UInt8) := do
  let message ← (e.decrypt passphrase).mapError .encryption
  ((whole (checkTag .sequence)).run message).mapError .encoding

end EncryptedInfo

/-! ### Documents -/

/-- What is read from a document, which is one whole value. -/
def KeyInfo.readDocument {α : Type} (d : Decoder α) (bytes : List UInt8) : Except KeyError α :=
  (d.run bytes).mapError .document

/-- The key in a file.  It must be encrypted if there is a passphrase, and must not be if there is
none. -/
def KeyInfo.ofDocument (bytes : List UInt8) (passphrase : Option String) :
    Except KeyError PrivateKey := do
  let document ← readDocument (Decoder.whole fun _ => .ok ()) bytes
  match passphrase with
  | none => (← readDocument read document).toKey
  | some passphrase =>
    let encrypted ← readDocument EncryptedInfo.read document
    let message ← (encrypted.unlock passphrase).mapError .info
    (← readDocument read message).toKey

end JumpHost
