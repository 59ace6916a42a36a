/-
**Host keys.**

A host key is the name of an algorithm and a blob in the wire format of that algorithm.  People
compare host keys by fingerprint, the digest of the blob.  A record of the ledger says that the
hosts of a pattern present a key.

Main definitions:

* `JumpHost.HostKey`, with `JumpHost.HostKey.fingerprint` and `JumpHost.HostKey.label`;
* `JumpHost.HostRecord` — a pattern and a key.

Main statements:

* `JumpHost.HostKey.label_eq` — a label is the type, a blank and the fingerprint.
-/

import JumpHost.Base64
import JumpHost.Digest.Sha256

set_option autoImplicit false

namespace JumpHost

/-- A host key as a server presents it. -/
structure HostKey where
  /-- The name of the algorithm. -/
  keyType : String
  /-- The key in wire format. -/
  blob : List UInt8
  deriving DecidableEq

/-- The fingerprint of a host key: the digest of its blob in unpadded base64. -/
def HostKey.fingerprint (k : HostKey) : String :=
  "SHA256:" ++ String.ofList (Base64.encodeUnpadded (Digest.sha256 k.blob))

/-- How messages name a host key: its type and its fingerprint. -/
def HostKey.label (k : HostKey) : String := s!"{k.keyType} {k.fingerprint}"

theorem HostKey.label_eq (k : HostKey) : k.label = k.keyType ++ " " ++ k.fingerprint := rfl

/-- A trusted entry of the ledger. -/
structure HostRecord where
  /-- The hosts that present the key, in the language of host patterns. -/
  pattern : String
  /-- The key that they present. -/
  key : HostKey
  deriving DecidableEq

end JumpHost
