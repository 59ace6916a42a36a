/-
**The address that a URL leads to.**

The host and the port of a URL are read by one rule and written as an address, and the adapter reads
the address by another rule.  The two rules agree on every host that a URL can have, in brackets or
not, but for one kind: a host without colons that begins with a bracket is written without brackets
of its own, and its first character is then taken for one.  Port zero cannot be dialed either.  A
dial of any other URL asks the jump host for the host and the port of the URL and for nothing else.

Main definitions:

* `JumpHost.DatabaseUrl.IsDialable` — **the URLs that can be dialed**.

Main results:

* `JumpHost.DatabaseUrl.Spells.close_notMem` — a host that stood in brackets holds none that closes;
* `JumpHost.DatabaseUrl.ofAddress_target_eq_ok_iff` — the URLs whose address is read, and what is
  read;
* `JumpHost.DatabaseUrl.dial_target` — **a dial asks for the host and the port of the URL**.
-/

import JumpHost.Proofs.Database.Url
import JumpHost.Proofs.Network.Endpoint
import JumpHost.Proofs.Session.Closing

set_option autoImplicit false

namespace JumpHost.DatabaseUrl

variable {u : DatabaseUrl} {engine : Engine}

/-! ### Addresses -/

/-- A host that holds a colon or begins with a bracket stood in brackets, so it does not hold the
one that closes. -/
theorem Spells.close_notMem {host hostPort : List Char} {port : Option UInt16}
    (h : Spells host port hostPort) (hhost : ':' ∈ host ∨ host.head? = some '[') : ']' ∉ host := by
  cases h with
  | bare hhead hcolon => exact absurd hhost (not_or.2 ⟨hcolon, hhead⟩)
  | port hhead hcolon _ => exact absurd hhost (not_or.2 ⟨hcolon, hhead⟩)
  | bracketed hclose => exact hclose
  | bracketedPort hclose _ => exact hclose

/-- **A URL can be dialed** unless its port is zero or its host, without a colon in it, begins with
a bracket. -/
def IsDialable (u : DatabaseUrl) (engine : Engine) : Prop :=
  u.port.getD engine.defaultPort ≠ 0 ∧ ¬(':' ∉ u.host.toList ∧ u.host.toList.head? = some '[')

instance (u : DatabaseUrl) (engine : Engine) : Decidable (u.IsDialable engine) :=
  instDecidableAnd

/-- **The address of a URL is read if the URL can be dialed**, and then it names the host and the
port of the URL. -/
theorem ofAddress_target_eq_ok_iff {hostPort : List Char} {e : Endpoint}
    (h : Spells u.host.toList u.port hostPort) (hne : u.host ≠ "") :
    Endpoint.ofAddress (u.target engine) = .ok e ↔
      u.IsDialable engine ∧ e = ⟨u.host, u.port.getD engine.defaultPort⟩ := by
  have hwritten : u.target engine = Endpoint.spelled u.host (u.port.getD engine.defaultPort) := rfl
  have hzero : u.port.getD engine.defaultPort ≠ 0 ↔ 1 ≤ (u.port.getD engine.defaultPort).toNat :=
    Endpoint.ne_zero_iff
  rw [hwritten]
  constructor
  · intro he
    obtain ⟨hport, hhost⟩ := Endpoint.eq_of_isNamedBy_spelled (Endpoint.ofAddress_eq_ok_iff.1 he)
    have hsame : e.host = u.host := by
      refine hhost.resolve_right ?_
      rintro ⟨-, hframe⟩
      -- such a host would hold the bracket that closes
      exact h.close_notMem (Or.inr (by rw [hframe]; rfl)) (by rw [hframe]; simp)
    obtain rfl : e = ⟨u.host, u.port.getD engine.defaultPort⟩ := by
      rw [← hsame, ← hport]
    obtain ⟨-, hpositive, -, hhead⟩ := Endpoint.ofAddress_spelled_iff.1 he
    exact ⟨⟨hzero.2 hpositive, fun hb => hb.1 (hhead hb.2)⟩, rfl⟩
  · rintro ⟨⟨hport, hhead⟩, rfl⟩
    refine Endpoint.ofAddress_spelled_iff.2 ⟨hne, hzero.1 hport, fun hi => ?_, fun hb => ?_⟩
    · exact h.close_notMem (Or.inl (hi.subset (by simp))) (hi.subset (by simp))
    · exact by_contra fun hcolon => hhead ⟨hcolon, hb⟩

theorem ofAddress_target {hostPort : List Char} {e : Engine}
    (h : Spells u.host.toList u.port hostPort) (hne : u.host ≠ "")
    (hport : u.port.getD e.defaultPort ≠ 0)
    (hhead : u.host.toList.head? = some '[' → ':' ∈ u.host.toList) :
    Endpoint.ofAddress (u.target e) = .ok ⟨u.host, u.port.getD e.defaultPort⟩ :=
  (ofAddress_target_eq_ok_iff h hne).2 ⟨⟨hport, fun hb => hb.1 (hhead hb.2)⟩, rfl⟩

/-! ### Dials -/

/-- **A dial asks for the host and the port of the URL.**  The address of a URL is read exactly if
the URL can be dialed, and it names the host of the URL and its port, or the one of the engine; so
every dial of a URL that can be dialed asks for a channel to them, unless the session has ended, and
a dial of any other URL fails without asking for one. -/
theorem dial_target {url : String} (h : read url = .ok u) (engine : Engine) :
    let endpoint : Endpoint := ⟨u.host, u.port.getD engine.defaultPort⟩
    let address := u.target engine
    ((∃ e, Endpoint.ofAddress address = .ok e) ↔ u.IsDialable engine) ∧
    (∀ e, Endpoint.ofAddress address = .ok e → e = endpoint) ∧
    ∀ s : Session, s.dial address = { s with dials := s.dials ++
      [if ¬u.IsDialable engine then
        ⟨address, none, .failed (.channel s!"invalid dial address '{address}'")⟩
      else if s.isOver = true ∨ s.isAlive = false then ⟨address, none, .failed .sessionClosed⟩
      else ⟨address, some endpoint, .waiting⟩] } := by
  intro endpoint address
  have hu := read_eq_ok_iff.1 h
  obtain ⟨text, hostPort, hsplit⟩ := isSplit_of_ofText? hu
  have hread {e : Endpoint} :
      Endpoint.ofAddress address = .ok e ↔ u.IsDialable engine ∧ e = endpoint :=
    ofAddress_target_eq_ok_iff hsplit.spells (host_ne_empty hu)
  refine ⟨⟨fun ⟨e, he⟩ => (hread.1 he).1, fun hd => ⟨endpoint, hread.2 ⟨hd, rfl⟩⟩⟩,
    fun e he => (hread.1 he).2, fun s => ?_⟩
  rw [Session.dial_eq]
  by_cases hd : u.IsDialable engine
  · have hfound := Endpoint.ofAddress_eq_ok_iff_ofText?.1 (hread.2 ⟨hd, rfl⟩)
    rw [Session.begun_of_ofText?_eq_some hfound, if_neg (not_not.2 hd)]
  · have hnone : Endpoint.ofText? address.toList = none := by
      refine Option.eq_none_iff_forall_ne_some.2 fun e he => hd ?_
      exact (hread.1 (Endpoint.ofAddress_eq_ok_iff_ofText?.2 he)).1
    rw [Session.begun_of_ofText?_eq_none hnone, if_pos hd]

/-- A host that begins with a bracket is dialed if it holds a colon and is not if it holds none. -/
theorem dial_target_brackets :
    let u : DatabaseUrl := ⟨"mysql+tcp", some "app", "[fd00::7", none, "/app"⟩
    let v : DatabaseUrl := ⟨"mysql+tcp", some "app", "[db", some 3307, "/app"⟩
    let s : Session := { remote := "jump:22" }
    (read "mysql+tcp://app@[[fd00::7]/app" = .ok u ∧
      s.dial "[[fd00::7]:3306" = { s with dials :=
        [⟨"[[fd00::7]:3306", some ⟨"[fd00::7", 3306⟩, .waiting⟩] }) ∧
    read "mysql+tcp://app@[[db]:3307/app" = .ok v ∧
      s.dial "[db:3307" = { s with dials :=
        [⟨"[db:3307", none, .failed (.channel "invalid dial address '[db:3307'")⟩] } := by
  intro u v s
  have hu : read "mysql+tcp://app@[[fd00::7]/app" = .ok u := by decide +kernel
  have hv : read "mysql+tcp://app@[[db]:3307/app" = .ok v := by decide +kernel
  have htu : u.target .mysql = "[[fd00::7]:3306" := by decide +kernel
  have htv : v.target .mysql = "[db:3307" := by decide +kernel
  have hdu : u.IsDialable .mysql := by decide +kernel
  have hdv : ¬v.IsDialable .mysql := by decide +kernel
  obtain ⟨-, -, hdialed⟩ := dial_target hu .mysql
  obtain ⟨-, -, hrefused⟩ := dial_target hv .mysql
  have hdialed := hdialed s
  have hrefused := hrefused s
  rw [htu, if_neg (not_not.2 hdu)] at hdialed
  rw [htv, if_pos hdv] at hrefused
  exact ⟨⟨hu, hdialed⟩, hv, hrefused⟩

end JumpHost.DatabaseUrl
