/-
**Keys that are loaded.**

A file can hold a key in several ways, and each of them says the same thing more than once: the
public part of a key follows from its secret part, but both are written down.  Whatever a file
says, a key that is loaded from it is of one of three algorithms, and its secret part belongs to its
public part.

Main definitions:

* `JumpHost.RsaNumbers.Fit` — the numbers of a key over a modulus belong together;
* `JumpHost.PrivateKey.Fits` — **the secret part of a key belongs to its public part**.

Main results:

* `JumpHost.PrivateKey.isRead_of_read` — what is made sure of when a key is read;
* `JumpHost.PrivateKey.fits_of_check` — and what is when it is checked;
* `JumpHost.KeyInfo.fits_of_toKey`, `JumpHost.RsaRecord.fits_of_ofBytes` — keys behind the names of
  their algorithms, and keys over a modulus;
* `JumpHost.PrivateKey.fits_of_load` — **every key that is loaded fits**;
* `JumpHost.Session.fits_of_readCredential` — and so does every key that is presented.
-/

import JumpHost.Session.Establish

set_option autoImplicit false

namespace JumpHost

/-! ### Steps that succeed -/

section Steps

variable {ε ε' α β : Type}

theorem eq_ok_of_bind {x : Except ε α} {f : α → Except ε β} {b : β}
    (h : (x >>= f) = .ok b) : ∃ a, x = .ok a ∧ f a = .ok b := by
  cases x with
  | error e => cases h
  | ok a => exact ⟨a, rfl, h⟩

theorem mapError_eq_ok_iff {x : Except ε α} {f : ε → ε'} {a : α} :
    x.mapError f = .ok a ↔ x = .ok a := by
  cases x with
  | error e => exact iff_of_false nofun nofun
  | ok b => exact ⟨fun h => by cases h; rfl, fun h => by cases h; rfl⟩

namespace Unpacking

variable {r : Unpacking α} {f : α → Unpacking β} {c c' : Cursor} {a : α} {b : β}

/-- A step behind another one begins where that one stopped. -/
theorem of_bind (h : (r >>= f) c = .ok (b, c')) :
    ∃ a middle, r c = .ok (a, middle) ∧ f a middle = .ok (b, c') := by
  obtain ⟨⟨a, middle⟩, hr, hf⟩ := eq_ok_of_bind h
  exact ⟨a, middle, hr, hf⟩

theorem of_guard {fault : Prop} [Decidable fault] {e : ContainerFault}
    (h : (if fault then (throw e >>= fun _ : Unit => r) else r) c = .ok (a, c')) :
    ¬fault ∧ r c = .ok (a, c') := by
  split at h
  · cases h
  · exact ⟨‹_›, h⟩

theorem of_within (h : within r c = .ok (a, c')) :
    ∃ inside inside', r inside = .ok (a, inside') := by
  rw [within] at h
  obtain ⟨_, promised, -, h⟩ := of_bind h
  obtain ⟨_, inside, -, h⟩ := of_bind h
  obtain ⟨found, inside', hr, h⟩ := of_bind h
  obtain ⟨_, _, -, h⟩ := of_bind h
  cases h
  exact ⟨inside, inside', hr⟩

theorem of_run {content : List UInt8} (h : r.run content = .ok a) :
    ∃ c c', r c = .ok (a, c') := by
  rw [run] at h
  split at h
  · cases h
  · rename_i found rest hr
    split at h
    · cases h
      exact ⟨_, rest, hr⟩
    · cases h

end Unpacking

end Steps

/-! ### Reading -/

namespace PrivateKey

open Unpacking

/-- What reading a key makes sure of: the length of a secret, and the point of a seed. -/
def IsRead (parts : PublicPart × SecretPart) : Prop :=
  match parts.2, parts.1 with
  | .ed25519 seed, .ed25519 point => seed.length = 32 ∧ point = Edwards.publicKey seed
  | .ecdsa factor, .ecdsa curve _ => factor.length = curve.size
  | _, _ => True

theorem length_of_readFactor {curve : NistCurve} {c c' : Cursor} {factor : List UInt8}
    (h : readFactor curve c = .ok (factor, c')) : factor.length = curve.size := by
  obtain ⟨inside, _, h⟩ := of_within h
  obtain ⟨_, _, -, h⟩ := of_bind h
  dsimp only at h
  split at h
  · obtain ⟨_, _, -, h⟩ := of_bind h
    exact length_take (of_guard h).2
  · exact length_take h

theorem isRead_of_readParts {a : KeyAlgorithm} {c c' : Cursor} {parts : PublicPart × SecretPart}
    (h : readParts a c = .ok (parts, c')) : IsRead parts := by
  unfold readParts at h
  cases a with
  | ed25519 =>
    dsimp only at h
    obtain ⟨point, _, -, h⟩ := of_bind h
    obtain ⟨both, _, hboth, h⟩ := of_bind h
    obtain ⟨_, _, hboth⟩ := of_within hboth
    have hlength := length_take hboth
    obtain ⟨hderived, h⟩ := of_guard h
    cases h
    refine ⟨?_, ?_⟩
    · rw [List.length_take, hlength]
      rfl
    · exact (Decidable.byContradiction fun hne => hderived (Or.inr hne)).symm
  | ecdsa curve =>
    dsimp only at h
    obtain ⟨found, _, -, h⟩ := of_bind h
    obtain ⟨factor, _, hfactor, h⟩ := of_bind h
    obtain ⟨-, h⟩ := of_guard h
    cases h
    exact length_of_readFactor hfactor
  | dsa | named =>
    dsimp only at h
    obtain ⟨_, _, -, h⟩ := of_bind h
    obtain ⟨_, _, -, h⟩ := of_bind h
    cases h
    trivial
  | tokenEcdsa | tokenEd25519 =>
    dsimp only at h
    obtain ⟨_, _, -, h⟩ := of_bind h
    obtain ⟨_, _, -, h⟩ := of_bind h
    obtain ⟨_, _, -, h⟩ := of_bind h
    obtain ⟨_, _, -, h⟩ := of_bind h
    cases h
    trivial
  | rsa =>
    dsimp only at h
    obtain ⟨_, _, -, h⟩ := of_bind h
    obtain ⟨_, _, -, h⟩ := of_bind h
    obtain ⟨_, _, -, h⟩ := of_bind h
    obtain ⟨_, _, -, h⟩ := of_bind h
    obtain ⟨_, _, -, h⟩ := of_bind h
    obtain ⟨_, _, -, h⟩ := of_bind h
    cases h
    trivial

/-- A key is made up of the parts that were read. -/
theorem isRead_of_read {blockSize : Nat} {publicPart : PublicPart} {c c' : Cursor}
    {key : PrivateKey} (h : read blockSize publicPart c = .ok (key, c')) :
    IsRead (key.publicPart, key.secretPart) := by
  rw [read] at h
  -- the length, the number that comes twice, and the algorithm
  obtain ⟨_, _, -, h⟩ := of_bind h
  obtain ⟨-, h⟩ := of_guard h
  obtain ⟨_, _, -, h⟩ := of_bind h
  obtain ⟨_, _, -, h⟩ := of_bind h
  obtain ⟨-, h⟩ := of_guard h
  obtain ⟨_, _, -, h⟩ := of_bind h
  obtain ⟨⟨found, secretPart⟩, _, hparts, h⟩ := of_bind h
  obtain ⟨hfound, h⟩ := of_guard h
  -- the comment and what fills up the last block
  obtain ⟨_, _, -, h⟩ := of_bind h
  obtain ⟨_, _, -, h⟩ := of_bind h
  obtain ⟨-, h⟩ := of_guard h
  obtain ⟨_, _, -, h⟩ := of_bind h
  obtain ⟨-, h⟩ := of_guard h
  cases h
  have hread := isRead_of_readParts hparts
  rwa [Decidable.of_not_not hfound] at hread

end PrivateKey

namespace Container

open Unpacking PrivateKey

variable {container : Container} {key : PrivateKey} {c c' : Cursor}

theorem exists_of_readEncrypted {cipher : KeyCipher} {content : Content}
    (h : readEncrypted cipher c = .ok (content, c')) : ∃ text tag, content = .encrypted text tag := by
  rw [readEncrypted] at h
  obtain ⟨text, _, -, h⟩ := of_bind h
  obtain ⟨-, h⟩ := of_guard h
  dsimp only at h
  split at h
  · obtain ⟨tag, _, -, h⟩ := of_bind h
    cases h
    exact ⟨text, tag, rfl⟩
  · cases h
    exact ⟨text, [], rfl⟩

/-- A key in the clear was read as such. -/
theorem isRead_of_read (h : read c = .ok (container, c')) (hclear : container.content = .clear key) :
    IsRead (key.publicPart, key.secretPart) := by
  rw [read] at h
  obtain ⟨_, _, -, h⟩ := of_bind h
  obtain ⟨-, h⟩ := of_guard h
  obtain ⟨cipher, _, -, h⟩ := of_bind h
  obtain ⟨_, _, -, h⟩ := of_bind h
  obtain ⟨_, _, -, h⟩ := of_bind h
  obtain ⟨-, h⟩ := of_guard h
  obtain ⟨_, _, -, h⟩ := of_bind h
  dsimp only at h
  split at h
  · -- a key that is not in the clear is encrypted
    obtain ⟨content, _, hcontent, h⟩ := of_bind h
    obtain ⟨_, _, rfl⟩ := exists_of_readEncrypted hcontent
    cases h
    cases hclear
  · obtain ⟨-, h⟩ := of_guard h
    obtain ⟨found, _, hfound, h⟩ := of_bind h
    cases h
    cases hclear
    obtain ⟨_, _, hfound⟩ := of_within hfound
    exact PrivateKey.isRead_of_read hfound

theorem isRead_of_unlock {bytes : List UInt8} {passphrase : Option String}
    (hread : ofBytes bytes = .ok container) (h : container.unlock passphrase = .ok key) :
    IsRead (key.publicPart, key.secretPart) := by
  unfold unlock at h
  split at h
  · rename_i hclear
    cases h
    obtain ⟨_, _, hread⟩ := of_run hread
    exact isRead_of_read hread hclear
  · cases h
  · cases h
  · obtain ⟨blocks, -, h⟩ := eq_ok_of_bind (mapError_eq_ok_iff.1 h)
    obtain ⟨_, _, h⟩ := of_run h
    exact PrivateKey.isRead_of_read h

end Container

/-! ### Numbers that belong together -/

/-- The numbers of a key over a modulus belong together. -/
structure RsaNumbers.Fit (r : RsaNumbers) : Prop where
  modulus : r.modulus = r.first * r.second
  first : r.secret * r.exponent % (r.first - 1) = 1
  second : r.secret * r.exponent % (r.second - 1) = 1

theorem RsaNumbers.fit_of_check {r : RsaNumbers} (h : r.check = .ok ()) : r.Fit := by
  rw [check] at h
  obtain ⟨_, -, h⟩ := eq_ok_of_bind h
  obtain ⟨_, hproduct, hexponents⟩ := eq_ok_of_bind h
  rw [checkProduct] at hproduct
  rw [checkExponents] at hexponents
  split at hproduct
  · cases hproduct
  · split at hproduct
    · cases hproduct
    · split at hexponents
      · cases hexponents
      · rename_i hmodulus hboth
        exact ⟨by omega, by omega, by omega⟩

namespace PrivateKey

/-- **The secret part of a key belongs to its public part.** -/
def Fits (key : PrivateKey) : Prop :=
  match key.publicPart, key.secretPart with
  | .ed25519 point, .ed25519 seed => seed.length = 32 ∧ point = Edwards.publicKey seed
  | .ecdsa curve point, .ecdsa factor =>
    factor.length = curve.size ∧ ∃ derived,
      curve.publicPoint? (Bytes.toNat factor) = some derived ∧
        (curve.decode? point = some derived ∨ point = curve.encode derived)
  | .rsa exponent modulus, .rsa secret _ first second =>
    RsaNumbers.Fit ⟨Bytes.toNat modulus, Bytes.toNat exponent, Bytes.toNat secret,
      Bytes.toNat first, Bytes.toNat second⟩
  | _, _ => False

theorem checkNumbers_eq_ok {r : RsaNumbers} {coefficient : Nat}
    (h : checkNumbers r coefficient = .ok ()) :
    r.Fit ∧ coefficient * r.second % r.first = 1 % r.first := by
  rw [checkNumbers] at h
  obtain ⟨_, hcheck, h⟩ := eq_ok_of_bind h
  obtain ⟨inverse, hinverse, h⟩ := eq_ok_of_bind h
  refine ⟨RsaNumbers.fit_of_check (mapError_eq_ok_iff.1 hcheck), ?_⟩
  split at h
  · cases h
  · rename_i hsame
    rw [← Decidable.of_not_not hsame]
    exact RsaNumbers.coefficient_mul (mapError_eq_ok_iff.1 hinverse)

theorem checkCurve_eq_ok {curve : NistCurve} {point factor : List UInt8}
    (h : checkCurve curve point factor = .ok ()) :
    ∃ derived, curve.publicPoint? (Bytes.toNat factor) = some derived ∧
      curve.decode? point = some derived := by
  rw [checkCurve] at h
  split at h
  · rename_i derived found hderived hfound
    split at h
    · rename_i hsame
      exact ⟨derived, hderived, hsame ▸ hfound⟩
    · cases h
  · cases h

/-- A key that was read and checked fits. -/
theorem fits_of_check {key checked : PrivateKey}
    (hread : IsRead (key.publicPart, key.secretPart)) (h : key.check = .ok checked) :
    checked.Fits := by
  rw [check] at h
  split at h
  · rename_i point seed hpublic hsecret
    cases h
    rw [hpublic, hsecret] at hread
    rw [Fits, hpublic, hsecret]
    exact hread
  · rename_i curve point factor hpublic hsecret
    obtain ⟨_, hcurve, h⟩ := eq_ok_of_bind h
    cases h
    rw [hpublic, hsecret] at hread
    rw [Fits, hpublic, hsecret]
    obtain ⟨derived, hderived, hpoint⟩ := checkCurve_eq_ok hcurve
    exact ⟨hread, derived, hderived, Or.inl hpoint⟩
  · rename_i exponent modulus secret coefficient first second hpublic hsecret
    obtain ⟨_, hnumbers, h⟩ := eq_ok_of_bind h
    cases h
    rw [Fits, hpublic, hsecret]
    exact (checkNumbers_eq_ok hnumbers).1
  · cases h

theorem fits_of_ofContainer {bytes : List UInt8} {passphrase : Option String} {key : PrivateKey}
    (h : ofContainer bytes passphrase = .ok key) : key.Fits := by
  rw [ofContainer] at h
  split at h
  · cases h
  · rename_i container hread
    split at h
    · cases h
    · rename_i found hfound
      exact fits_of_check (Container.isRead_of_unlock hread hfound) h

end PrivateKey

/-! ### The other documents -/

theorem RsaRecord.fits_of_ofBytes {bytes : List UInt8} {key : PrivateKey}
    (h : ofBytes bytes = .ok key) : key.Fits := by
  rw [ofBytes] at h
  split at h
  · cases h
  · rename_i record _
    split at h
    · cases h
    · split at h
      · cases h
      · rename_i hcheck
        cases h
        exact RsaNumbers.fit_of_check hcheck

namespace KeyInfo

variable {i : KeyInfo} {key : PrivateKey}

theorem fits_of_seedKey (h : i.seedKey = .ok key) : key.Fits := by
  rw [seedKey] at h
  dsimp only at h
  split at h
  · cases h
  · split at h
    · cases h
    · rename_i hshape
      cases h
      exact ⟨Decidable.byContradiction fun hne => hshape (Or.inr (Or.inl hne)), rfl⟩

theorem fits_of_modulusKey (h : i.modulusKey = .ok key) : key.Fits := by
  rw [modulusKey] at h
  obtain ⟨record, -, h⟩ := eq_ok_of_bind h
  obtain ⟨checked, hcheck, h⟩ := eq_ok_of_bind h
  obtain ⟨_, -, h⟩ := eq_ok_of_bind h
  cases h
  have hread : PrivateKey.IsRead (record.toKey.publicPart, record.toKey.secretPart) := trivial
  exact PrivateKey.fits_of_check hread hcheck

theorem fits_of_ofFactor {curve : NistCurve} {factor : List UInt8} {point? : Option (List UInt8)}
    (h : ofFactor curve factor point? = .ok key) : key.Fits := by
  rw [ofFactor] at h
  split at h
  · rename_i full hfull
    split at h
    · rename_i derived hderived
      dsimp only at h
      split at h
      · cases h
      · cases h
        exact ⟨length_of_fullFactor? hfull, derived, hderived, Or.inr rfl⟩
    · cases h
  · cases h

theorem fits_of_curveKey (h : i.curveKey = .ok key) : key.Fits := by
  rw [curveKey] at h
  obtain ⟨curve, -, h⟩ := eq_ok_of_bind h
  obtain ⟨⟨factor, point?⟩, -, h⟩ := eq_ok_of_bind (mapError_eq_ok_iff.1 h)
  exact fits_of_ofFactor h

theorem fits_of_toKey (h : i.toKey = .ok key) : key.Fits := by
  rw [toKey] at h
  split at h
  · exact fits_of_seedKey h
  · split at h
    · exact fits_of_modulusKey h
    · split at h
      · exact fits_of_curveKey h
      · cases h

theorem fits_of_ofDocument {bytes : List UInt8} {passphrase : Option String}
    (h : ofDocument bytes passphrase = .ok key) : key.Fits := by
  rw [ofDocument] at h
  obtain ⟨document, -, h⟩ := eq_ok_of_bind h
  cases passphrase with
  | none =>
    obtain ⟨info, -, h⟩ := eq_ok_of_bind h
    exact fits_of_toKey h
  | some passphrase =>
    obtain ⟨encrypted, -, h⟩ := eq_ok_of_bind h
    obtain ⟨message, -, h⟩ := eq_ok_of_bind h
    obtain ⟨info, -, h⟩ := eq_ok_of_bind h
    exact fits_of_toKey h

end KeyInfo

/-! ### Files -/

namespace PrivateKey

variable {passphrase : Option String} {key : PrivateKey}

theorem fits_of_ofChain {start bytes : List UInt8} (h : ofChain start bytes passphrase = .ok key) :
    key.Fits := by
  cases passphrase with
  | none => cases h
  | some passphrase =>
    rw [ofChain] at h
    split at h
    · cases h
    · exact RsaRecord.fits_of_ofBytes h

theorem fits_of_ofText {text : List Char} (h : ofText text passphrase = .ok key) : key.Fits := by
  rw [ofText] at h
  split at h
  · cases h
  · rename_i armor _
    rw [ofArmor] at h
    split at h
    · cases h
    · rename_i bytes _
      split at h
      · cases h
      · rename_i kind _
        cases kind with
        | container => exact fits_of_ofContainer h
        | numbers => exact RsaRecord.fits_of_ofBytes h
        | info => exact KeyInfo.fits_of_ofDocument h
        | chain start => exact fits_of_ofChain h

/-- **Every key that is loaded fits**: it is of one of the three algorithms that can sign, and its
secret part belongs to its public part, whichever way the file holds it. -/
theorem fits_of_load {t : FileTree} {path : String} (h : load t path passphrase = .ok key) :
    key.Fits := by
  rw [load] at h
  split at h
  · cases h
  · exact fits_of_ofText h

end PrivateKey

/-- A key that is presented to a jump host fits. -/
theorem Session.fits_of_readCredential {t : FileTree} {auth : CredentialSource} {key : PrivateKey}
    (h : readCredential t auth = .ok (.key key)) : key.Fits := by
  unfold readCredential at h
  split at h
  · cases h
  · split at h
    · rename_i hload
      cases h
      exact PrivateKey.fits_of_load hload
    · cases h

end JumpHost
