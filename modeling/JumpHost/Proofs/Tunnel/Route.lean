/-
**From the URL of a configuration to the database.**

A URL is spelled with the identifier of the tunnel, read again, turned into the address of a dial
and into the URL for the driver.  Each of these steps takes the URL apart on its own, and they
agree: whatever stands in the URL, the jump host is asked for its host and its port, and the driver
gets everything else as it was written.  The engine is that of the configuration, whatever the
scheme of the URL says.

Main results:

* `JumpHost.Bridge.accept_iterate` — the connections to a bridge are dials of its address;
* `JumpHost.Config.route_of_validate` — **what is dialed and what the driver gets are what the URL
  says**.
-/

import JumpHost.Proofs.Database.Target
import JumpHost.Proofs.Tunnel.Opening
import JumpHost.Tunnel.Bridge
import JumpHost.Tunnel.Query
import Mathlib.Logic.Function.Iterate

set_option autoImplicit false

namespace JumpHost

/-! ### Dials -/

theorem Session.address_begun (s : Session) (address : String) :
    (s.begun address).address = address := by
  unfold Session.begun
  split
  · rfl
  · split <;> rfl

namespace Bridge

theorem accept_spec (bridge : Bridge) {b : Switchboard} {s : Session}
    (hs : b.sessions[bridge.adapter.session]? = some s) :
    ∃ d, d.address = bridge.target ∧ (bridge.accept b).sessions[bridge.adapter.session]? =
      some { s with dials := s.dials ++ [d] } := by
  refine ⟨s.begun bridge.target, s.address_begun _, ?_⟩
  simp only [accept, Switchboard.onSession, List.getElem?_modify, hs]
  simp [Session.dial_eq]

/-- The connections to a bridge are dials of its address. -/
theorem accept_iterate (bridge : Bridge) {b : Switchboard} {s : Session}
    (hs : b.sessions[bridge.adapter.session]? = some s) (k : Nat) :
    ∃ s', ((accept bridge)^[k] b).sessions[bridge.adapter.session]? = some s' ∧
      s'.dials.map Dial.address = s.dials.map Dial.address ++ List.replicate k bridge.target := by
  induction k generalizing b s with
  | zero => exact ⟨s, hs, by simp⟩
  | succ k ih =>
    obtain ⟨d, hd, hs'⟩ := bridge.accept_spec hs
    obtain ⟨s', hk, haddresses⟩ := ih hs'
    refine ⟨s', hk, ?_⟩
    rw [haddresses]
    simp [hd, List.replicate_succ]

end Bridge

/-! ### The route -/

theorem Engine.identifier_spec (e : Engine) :
    e.identifier.toList ≠ [] ∧ ':' ∉ e.identifier.toList := by
  cases e <;> decide +kernel

theorem Pool.connectOver_ne_notRegistered (d : Driver) (e : Engine) (u : DatabaseUrl)
    (id : String) : Pool.connectOver d e u ≠ .error (.notRegistered id) := by
  intro h
  rcases Pool.kind_of_connectOver_eq_error h with hother | hother <;> cases hother

namespace Config

variable {c : Config} {auth : CredentialSource} {e : Engine} {scheme remainder : List Char}

theorem toList_respelt (e : Engine) (remainder : List Char) :
    (e.identifier ++ "://" ++ String.ofList remainder).toList =
      e.identifier.toList ++ schemeMark ++ remainder := by
  simp [schemeMark]

/-- The URL with the identifier of a tunnel has the parts of the URL that was configured. -/
theorem ofText?_tunneledUrl (hcut : Text.cut schemeMark c.dbUrl.toList = some (scheme, remainder))
    (hscheme : scheme ≠ []) (e : Engine) :
    DatabaseUrl.ofText? (e.identifier ++ "://" ++ String.ofList remainder).toList =
      (DatabaseUrl.ofText? c.dbUrl.toList).map ({ · with scheme := e.identifier }) := by
  obtain ⟨hne, hcolon⟩ := e.identifier_spec
  rw [toList_respelt, DatabaseUrl.ofText?_respelt hcut hscheme hne hcolon, String.ofList_toList]

/-- A URL that is read with the identifier of an adapter for its scheme leads over this adapter. -/
theorem connect_respelt {r : Registry Adapter} {a : Adapter} {url : String} {u : DatabaseUrl}
    (hread : DatabaseUrl.ofText? url.toList = some { u with scheme := a.engine.identifier })
    (ha : r.resolve a.engine.identifier = some a) :
    Bridge.ofUrl r url = .ok ⟨a, u.target a.engine⟩ ∧
      ∀ d, Pool.connect d Adapter.engine r url = Pool.connectOver d a.engine u := by
  have hu : DatabaseUrl.read url = .ok { u with scheme := a.engine.identifier } := by
    simp only [DatabaseUrl.read, hread]
  have hbridge : Bridge.ofUrl r url = .ok ⟨a, u.target a.engine⟩ := by
    simp only [Bridge.ofUrl, hu, ha]
    rfl
  refine ⟨hbridge, fun d => ?_⟩
  obtain ⟨v, hv, -, hconnect⟩ := Pool.connect_of_bridge hbridge d
  cases hu.symm.trans hv
  exact hconnect

/-- **What is dialed and what the driver gets are what the URL says.**  The URL with the identifier
of the tunnel is read as the configured one, with that identifier for its scheme; both have the
parts into which the text behind the scheme is split, and no others.  An opening registers its
adapter under the identifier.  As long as such an adapter is registered, every connection of the
driver is a dial of the host and the port of the URL, and the driver gets its own scheme, the
userinfo, the address of the bridge and the rest of the URL.  Where no bridge can listen, that is
an error of the network. -/
theorem route_of_validate (h : c.validate = .ok (auth, e))
    (hcut : Text.cut schemeMark c.dbUrl.toList = some (scheme, remainder)) (hscheme : scheme ≠ []) :
    let url := e.identifier ++ "://" ++ String.ofList remainder
    c.tunneledUrl e.identifier = .ok url ∧
    (∀ f, c.engine = some f → e = f) ∧
    DatabaseUrl.ofText? url.toList =
      (DatabaseUrl.ofText? c.dbUrl.toList).map ({ · with scheme := e.identifier }) ∧
    (∀ u, DatabaseUrl.ofText? c.dbUrl.toList = some u ↔
      u.scheme = String.ofList scheme ∧ u.host ≠ "" ∧
        ∃ hostPort, DatabaseUrl.IsSplit remainder u hostPort) ∧
    (∀ o t b tunnel, (Tunnel.establish o c t b).attempt.result = .ok tunnel →
      tunnel.identifier = e.identifier ∧ tunnel.adapter.engine = e ∧
      (Tunnel.establish o c t b).board.registry.resolve e.identifier = some tunnel.adapter) ∧
    ∀ (r : Registry Adapter) (a : Adapter), r.resolve e.identifier = some a → a.engine = e →
      (∀ d id, Pool.connect d Adapter.engine r url ≠ .error (.notRegistered id)) ∧
      (DatabaseUrl.ofText? c.dbUrl.toList = none → ∀ d,
        Pool.connect d Adapter.engine r url = .error (.invalidUrl (DatabaseUrl.redact url))) ∧
      ∀ u, DatabaseUrl.ofText? c.dbUrl.toList = some u →
        let port := u.port.getD e.defaultPort
        let digits := String.ofList (Text.numeral port.toNat)
        let address :=
          if ':' ∈ u.host.toList then "[" ++ u.host ++ "]:" ++ digits else u.host ++ ":" ++ digits
        Bridge.ofUrl r url = .ok ⟨a, address⟩ ∧
        (∀ b s k, b.sessions[a.session]? = some s →
          ∃ s', ((Bridge.accept ⟨a, address⟩)^[k] b).sessions[a.session]? = some s' ∧
            s'.dials.map Dial.address =
              s.dials.map Dial.address ++ List.replicate k address) ∧
        (port ≠ 0 → (u.host.toList.head? = some '[' → ':' ∈ u.host.toList) →
          Endpoint.ofAddress address = .ok ⟨u.host, port⟩) ∧
        ∃ hostPort : List Char, DatabaseUrl.IsSplit remainder u hostPort ∧
          c.dbUrl = String.ofList scheme ++ "://" ++ u.credentials ++ String.ofList hostPort ++
            u.rest ∧
          ∀ d : Driver,
            (∀ bridge, d.bridge = .ok bridge →
              Pool.connect d Adapter.engine r url = Pool.open? d ⟨e, address,
                e.scheme ++ "://" ++ u.credentials ++ bridge.text ++ u.rest⟩) ∧
            ∀ reason, d.bridge = .error reason →
              Pool.connect d Adapter.engine r url =
                .error (.network "127.0.0.1:0" reason.message) := by
  intro url
  have hread := ofText?_tunneledUrl hcut hscheme e
  have hparts (u : DatabaseUrl) : DatabaseUrl.ofText? c.dbUrl.toList = some u ↔
      u.scheme = String.ofList scheme ∧ u.host ≠ "" ∧
        ∃ hostPort, DatabaseUrl.IsSplit remainder u hostPort := by
    rw [DatabaseUrl.ofText?_of_cut hcut hscheme, DatabaseUrl.ofRemainder?_eq_some_iff]
  refine ⟨?_, ?_, hread, hparts, ?_, ?_⟩
  · simp only [tunneledUrl, hcut, url]
  · -- an engine that is configured is chosen before the scheme is looked at
    intro f hf
    have hchosen := (validate_eq_ok_iff.1 h).2.2
    rw [chosenEngine, hf] at hchosen
    exact (Except.ok.inj hchosen).symm
  · intro o t b tunnel htunnel
    have hresolve := Tunnel.resolve_of_ok htunnel
    rcases Tunnel.establish_cases o c t b with ⟨_, he, -⟩ | ⟨_, engine, hvalid, hok, -⟩
    · rw [he] at htunnel
      cases htunnel
    · rw [hok] at htunnel
      cases htunnel
      cases h.symm.trans hvalid
      exact ⟨rfl, rfl, by rw [hresolve]; exact if_pos rfl⟩
  · intro r a ha hengine
    subst hengine
    have hunread (hnone : DatabaseUrl.ofText? c.dbUrl.toList = none) (d : Driver) :
        Pool.connect d Adapter.engine r url = .error (.invalidUrl (DatabaseUrl.redact url)) :=
      Pool.connect_of_ofText?_eq_none (by rw [hread, hnone]; rfl) d Adapter.engine r
    have hrouted (u : DatabaseUrl) (hu : DatabaseUrl.ofText? c.dbUrl.toList = some u) :
        Bridge.ofUrl r url = .ok ⟨a, u.target a.engine⟩ ∧
          ∀ d, Pool.connect d Adapter.engine r url = Pool.connectOver d a.engine u :=
      connect_respelt (by rw [hread, hu]; rfl) ha
    refine ⟨?_, hunread, ?_⟩
    · intro d id
      cases hu : DatabaseUrl.ofText? c.dbUrl.toList with
      | none =>
        rw [hunread hu]
        nofun
      | some u =>
        rw [(hrouted u hu).2]
        exact Pool.connectOver_ne_notRegistered d _ _ id
    · intro u hu port digits address
      obtain ⟨hbridge, hconnect⟩ := hrouted u hu
      obtain ⟨-, hhost, hostPort, hsplit⟩ := (hparts u).1 hu
      refine ⟨hbridge, fun b s k hs => Bridge.accept_iterate ⟨a, address⟩ hs k,
        fun hport hhead => DatabaseUrl.ofAddress_target hsplit.spells hhost hport hhead,
        hostPort, hsplit, ?_, fun d => ⟨fun bridge hb => ?_, fun reason hb => ?_⟩⟩
      · -- the configured URL is its scheme and the parts behind it
        apply String.toList_injective
        rw [Text.eq_append_of_cut hcut, hsplit.text]
        simp [schemeMark]
      · rw [hconnect, Pool.connectOver_of_listening hb]
        rfl
      · rw [hconnect, Pool.connectOver_of_deaf hb]
        rfl

/-- The engine of the configuration decides where the scheme names another one. -/
theorem route_of_validate_disagreeing :
    let c : Config :=
      { sshUser := "u", sshHost := "h", password := some "p", engine := some .postgres,
        dbUrl := "mysql://a:b@c@[fd00::7]/x?y=://z" }
    let r : Registry Adapter := Registry.empty.register "postgres+ssh" ⟨0, .postgres, 0⟩
    c.validate = .ok (.password "p", .postgres) ∧
      Text.cut schemeMark c.dbUrl.toList =
        some ("mysql".toList, "a:b@c@[fd00::7]/x?y=://z".toList) ∧
      Bridge.ofUrl r "postgres+ssh://a:b@c@[fd00::7]/x?y=://z" =
        .ok ⟨⟨0, .postgres, 0⟩, "[fd00::7]:5432"⟩ := by
  intro c r
  have h : c.validate = .ok (.password "p", .postgres) := by decide +kernel
  have hcut : Text.cut schemeMark c.dbUrl.toList =
      some ("mysql".toList, "a:b@c@[fd00::7]/x?y=://z".toList) := by
    decide +kernel
  have hu : DatabaseUrl.ofText? c.dbUrl.toList =
      some ⟨"mysql", some "a:b@c", "fd00::7", none, "/x?y=://z"⟩ := by
    decide +kernel
  obtain ⟨-, -, -, -, -, hroute⟩ := route_of_validate h hcut (by decide +kernel)
  obtain ⟨-, -, hparts⟩ := hroute r ⟨0, .postgres, 0⟩ rfl rfl
  have hbridge := (hparts _ hu).1
  have hurl : Engine.postgres.identifier ++ "://" ++
      String.ofList "a:b@c@[fd00::7]/x?y=://z".toList =
        "postgres+ssh://a:b@c@[fd00::7]/x?y=://z" := by
    decide +kernel
  rw [hurl] at hbridge
  refine ⟨h, hcut, ?_⟩
  rw [hbridge]
  decide +kernel

end Config

end JumpHost
