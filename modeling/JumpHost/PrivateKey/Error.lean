/-
**Why a private key cannot be used.**

A key fails at one of four stages: its file is not read, the text in it holds no key, what the text
stands for is broken or stays closed, or the numbers in it are no key.

Main definitions:

* `JumpHost.ContainerFault`, `JumpHost.ModulusFault` — what is wrong with a container, and with the
  numbers of a key over a modulus;
* `JumpHost.EncryptionFault`, `JumpHost.InfoFault`, `JumpHost.AlgorithmFault` — what is wrong with a
  key behind the name of its algorithm, and with that name;
* `JumpHost.KeyError`, `JumpHost.KeyError.message` — why a key cannot be used.
-/

import JumpHost.Base64.Groups
import JumpHost.Der.Fault
import JumpHost.Files.Error

set_option autoImplicit false

namespace JumpHost

/-- What is wrong with a container. -/
inductive ContainerFault where
  /-- Something ends early, or is not as long as it must be. -/
  | length
  /-- A length is larger than any that there is. -/
  | overflow
  /-- A text is not UTF-8. -/
  | notText
  /-- A name is none of those that there are. -/
  | label (name : String)
  | algorithm
  /-- A check against forgery fails. -/
  | cryptographic
  /-- A key in the clear is to be decrypted. -/
  | notEncrypted
  | format
  /-- The public part in the clear is not that of the key. -/
  | publicPart
  /-- Bytes are left over. -/
  | trailing (count : Nat)
  /-- A point of a curve is not written as one. -/
  | point
  deriving DecidableEq

/-- The wording of what is wrong with a container. -/
def ContainerFault.message : ContainerFault → String
  | length => "length invalid"
  | overflow => "internal overflow error"
  | notText => "character encoding invalid"
  | label name => s!"invalid label: '{name}'"
  | algorithm => "unknown algorithm"
  | cryptographic => "cryptographic error"
  | notEncrypted => "private key is already decrypted"
  | format => "format encoding error"
  | publicPart => "public key is incorrect"
  | trailing count => s!"unexpected trailing data at end of message ({count} bytes)"
  | point => "ECDSA encoding error: elliptic curve point encoding error"

/-- What is wrong with the numbers of a key over a modulus. -/
inductive ModulusFault where
  | exponentTooLarge
  | exponentTooSmall
  | modulus
  | exponent
  | prime
  deriving DecidableEq

/-- The wording of what is wrong with the numbers of a key. -/
def ModulusFault.message : ModulusFault → String
  | exponentTooLarge => "public exponent too large"
  | exponentTooSmall => "public exponent too small"
  | modulus => "invalid modulus"
  | exponent => "invalid exponent"
  | prime => "invalid prime value"

/-- What is wrong with the encryption of a key behind the name of its algorithm. -/
inductive EncryptionFault where
  /-- The encryption is of a kind that is no longer used. -/
  | outdated
  /-- An algorithm has parameters that do not fit. -/
  | parameters (id : Der.ObjectId)
  | unsupported (id : Der.ObjectId)
  /-- The text is not of whole blocks, or what was decrypted does not end as it must. -/
  | blocks
  deriving DecidableEq

/-- The wording of what is wrong with an encryption. -/
def EncryptionFault.message : EncryptionFault → String
  | outdated => "PKCS#5 encryption/decryption unsupported for PBES1"
  | parameters id => s!"PKCS#5 parameters for algorithm {id.text} are invalid"
  | unsupported id => s!"PKCS#5 algorithm {id.text} is unsupported"
  | blocks => "PKCS#5 encryption failed"

/-- What is wrong with a key behind the name of its algorithm. -/
inductive InfoFault where
  | encoding (fault : Der.Fault)
  /-- The algorithm has parameters although it takes none. -/
  | parameters
  /-- The content is no key of the algorithm. -/
  | key
  | encryption (fault : EncryptionFault)
  deriving DecidableEq

/-- The wording of what is wrong with a key behind the name of its algorithm. -/
def InfoFault.message : InfoFault → String
  | encoding fault => s!"PKCS#8 ASN.1 error: {fault.message}"
  | parameters => "PKCS#8 algorithm parameters malformed"
  | key => "PKCS#8 cryptographic key data malformed"
  | encryption fault => fault.message

/-- What is wrong with the name of an algorithm that takes parameters. -/
inductive AlgorithmFault where
  | missing
  | encoding (fault : Der.Fault)
  deriving DecidableEq

/-- The wording of what is wrong with the name of an algorithm. -/
def AlgorithmFault.message : AlgorithmFault → String
  | missing => "AlgorithmIdentifier parameters missing"
  | encoding fault => s!"ASN.1 error: {fault.message}"

/-- Why a private key cannot be used. -/
inductive KeyError where
  | unreadable (e : OsError)
  /-- The text holds no key. -/
  | noKey
  /-- The text is not base64, or not hexadecimal where it must be. -/
  | encoding (fault : Base64.Fault)
  | isEncrypted
  /-- What was decrypted does not end as it must. -/
  | badPadding
  | container (fault : ContainerFault)
  /-- What should be the encoding of a key is none. -/
  | document (fault : Der.Fault)
  | info (fault : InfoFault)
  | algorithm (fault : AlgorithmFault)
  /-- The key is of an algorithm that is not known. -/
  | unknownAlgorithm (id : Der.ObjectId)
  /-- The numbers of a key over a modulus, alone in a file, cannot be used. -/
  | numbers (fault : InfoFault)
  /-- The numbers of a key over a modulus, behind the name of its algorithm, are not read. -/
  | numbersEncoding (fault : Der.Fault)
  /-- The numbers of a key over a modulus do not fit each other. -/
  | modulus (fault : ModulusFault)
  /-- A point or a factor is not one of its curve. -/
  | curve
  /-- The public and the secret numbers do not belong together. -/
  | corrupt
  /-- The key is of a kind that cannot sign here. -/
  | unsupported (name : String)
  deriving DecidableEq

/-- The wording of why a private key cannot be used. -/
def KeyError.message : KeyError → String
  | unreadable e => e.message
  | noKey => "Could not read key"
  | encoding fault => s!"Base64 decoding error: {fault.message}"
  | isEncrypted => "The key is encrypted"
  | badPadding => "Unpad Error"
  | container fault => s!"SshKey: {fault.message}"
  | document fault => s!"Der: {fault.message}"
  | info fault => s!"Pkcs8: {fault.message}"
  | algorithm fault => s!"Spki: {fault.message}"
  | unknownAlgorithm id => s!"Unknown key algorithm: {id.text}"
  | numbers fault => s!"Pkcs1: {fault.message}"
  | numbersEncoding fault => s!"Pkcs1: PKCS#1 ASN.1 error: {fault.message}"
  | modulus fault => s!"Rsa: {fault.message}"
  | curve => "Invalid Ed25519 key data"
  | corrupt => "The key is corrupt"
  | unsupported name => s!"Unsupported key type {name}"

end JumpHost
