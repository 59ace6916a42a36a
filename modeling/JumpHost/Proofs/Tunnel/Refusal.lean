/-
**Refusals of a configuration.**

A configuration is validated before anything is touched, and no stage of an attempt to establish its
session ends with an error of the configuration.  Its database URL is another matter: of this URL
validation reads at most the scheme, and the rest of it is read when the tunnel stands.  So a URL
that names no host is refused like any other part of the configuration, but only behind the
connection to the jump host, the check of its key and the login.

Main definitions:

* `JumpHost.Config.HasRoute` — **the URL of a configuration names a host**.

Main results:

* `JumpHost.Config.hasRoute_iff` — the URL with the identifier of a tunnel is read if it does so;
* `JumpHost.Query.overTunnel_spec` — what goes wrong over a tunnel that was opened;
* `JumpHost.Query.refusal_spec` — **when a configuration is refused, and what was done before**.
-/

import JumpHost.Proofs.Database.Redaction
import JumpHost.Proofs.Tunnel.Opening
import JumpHost.Proofs.Tunnel.Route
import JumpHost.Tunnel.Query

set_option autoImplicit false

namespace JumpHost

/-! ### Routes -/

/-- **The URL of a configuration names a host**: behind its scheme, whatever that is, stand the
parts of a URL. -/
def Config.HasRoute (c : Config) : Prop :=
  ∃ scheme remainder u, Text.cut schemeMark c.dbUrl.toList = some (scheme, remainder) ∧
    DatabaseUrl.ofRemainder? scheme remainder = some u

namespace Config

variable {c : Config} {engine : Engine} {url : String}

/-- The URL with the identifier of a tunnel has the identifier for its scheme. -/
theorem cut_of_tunneledUrl (h : c.tunneledUrl engine.identifier = .ok url) :
    ∃ scheme remainder, Text.cut schemeMark c.dbUrl.toList = some (scheme, remainder) ∧
      Text.cut schemeMark url.toList = some (engine.identifier.toList, remainder) := by
  unfold tunneledUrl at h
  split at h
  · rename_i scheme remainder hcut
    cases h
    refine ⟨scheme, remainder, hcut, ?_⟩
    rw [toList_respelt]
    exact DatabaseUrl.cut_schemeMark
      (DatabaseUrl.not_infix_of_colon engine.identifier_spec.2) remainder
  · cases h

theorem scheme_of_tunneledUrl {u : DatabaseUrl} (h : c.tunneledUrl engine.identifier = .ok url)
    (hu : DatabaseUrl.ofText? url.toList = some u) : u.scheme = engine.identifier := by
  obtain ⟨-, remainder, -, hcut⟩ := cut_of_tunneledUrl h
  rw [DatabaseUrl.scheme_of_ofText? hcut hu, String.ofList_toList]

/-- The URL with the identifier of a tunnel is read exactly if the configured one names a host. -/
theorem hasRoute_iff (h : c.tunneledUrl engine.identifier = .ok url) :
    c.HasRoute ↔ ∃ u, DatabaseUrl.ofText? url.toList = some u := by
  obtain ⟨scheme, remainder, hconfigured, hcut⟩ := cut_of_tunneledUrl h
  rw [DatabaseUrl.ofText?_of_cut hcut engine.identifier_spec.1,
    DatabaseUrl.ofRemainder?_scheme scheme]
  constructor
  · rintro ⟨_, _, u, hparts, hu⟩
    rw [hconfigured] at hparts
    cases hparts
    exact ⟨_, by rw [hu]; rfl⟩
  · rintro ⟨_, hu⟩
    obtain ⟨u, hu, -⟩ := Option.map_eq_some_iff.1 hu
    exact ⟨scheme, remainder, u, hconfigured, hu⟩

/-- A URL without the mark of a scheme names no host, and is refused as it stands. -/
theorem not_hasRoute_of_tunneledUrl {e : TunnelError}
    (h : c.tunneledUrl engine.identifier = .error e) : ¬c.HasRoute ∧ e = .invalidUrl c.dbUrl := by
  unfold tunneledUrl at h
  split at h
  · cases h
  · rename_i hcut
    cases h
    refine ⟨?_, rfl⟩
    rintro ⟨_, _, _, hparts, -⟩
    cases hcut.symm.trans hparts

end Config

namespace Query

variable {q : Query} {t : FileTree} {begun : Tunnel.Opening} {tunnel : Tunnel}

/-! ### Over a tunnel -/

/-- Over a tunnel that is registered a URL that is read leads to no error of the configuration. -/
theorem kind_of_output_eq_error {b : Switchboard} {url : String} {u : DatabaseUrl} {a : Adapter}
    {e : TunnelError} (hu : DatabaseUrl.ofText? url.toList = some u)
    (ha : b.registry.resolve u.scheme = some a) (h : (q.output b url).1 = .error e) :
    e.kind ≠ .configuration := by
  intro hkind
  cases hp : Pool.connect q.driver Adapter.engine b.registry url with
  | error e' =>
    simp only [output, hp] at h
    cases h
    rcases Pool.connect_eq_configuration_iff.1 ⟨hp, hkind⟩ with ⟨hnone, -⟩ | ⟨u', hu', hr, -⟩
    · cases hu.symm.trans hnone
    · cases hu.symm.trans hu'
      cases ha.symm.trans hr
  | ok pool =>
    simp only [output, hp] at h
    cases hkind.symm.trans (Pool.kind_of_query_eq_error h)

/-- **What goes wrong over a tunnel that was opened** is the configuration exactly if its URL names
no host.  The files and the acts are those of the opening either way. -/
theorem overTunnel_spec
    (hresolve : begun.board.registry.resolve tunnel.identifier = some tunnel.adapter) :
    (q.overTunnel begun tunnel).files = begun.attempt.files ∧
      (q.overTunnel begun tunnel).acts = begun.attempt.acts ∧
      (q.config.HasRoute →
        ∀ e, (q.overTunnel begun tunnel).result = .error e → e.kind ≠ .configuration) ∧
      (¬q.config.HasRoute →
        ∃ shown, (q.overTunnel begun tunnel).result = .error (.invalidUrl shown)) := by
  cases hurl : q.config.tunneledUrl tunnel.identifier with
  | error e =>
    obtain ⟨hnone, rfl⟩ := Config.not_hasRoute_of_tunneledUrl hurl
    simp only [overTunnel, hurl, true_and]
    exact ⟨fun h => absurd h hnone, fun _ => ⟨q.config.dbUrl, rfl⟩⟩
  | ok url =>
    have hroute := Config.hasRoute_iff hurl
    simp only [overTunnel, hurl, true_and]
    refine ⟨?_, ?_⟩
    · intro h e he
      obtain ⟨u, hu⟩ := hroute.1 h
      have hscheme : u.scheme = tunnel.identifier := Config.scheme_of_tunneledUrl hurl hu
      exact kind_of_output_eq_error hu (by rw [hscheme, hresolve]) he
    · intro h
      cases hu : DatabaseUrl.ofText? url.toList with
      | some u => exact absurd (hroute.2 ⟨u, hu⟩) h
      | none =>
        have hconnect := Pool.connect_of_ofText?_eq_none hu q.driver Adapter.engine
          begun.board.registry
        refine ⟨DatabaseUrl.redact url, ?_⟩
        simp only [output, hconnect]

/-! ### Whole queries -/

/-- The opening of the tunnel of a query. -/
def opening (q : Query) (t : FileTree) : Tunnel.Opening := Tunnel.establish q.outside q.config t {}

theorem run_of_error {e : TunnelError} (h : (q.opening t).attempt.result = .error e) :
    (q.run t).result = .error e := by
  unfold opening at h
  simp only [run, h]

theorem run_of_ok (h : (q.opening t).attempt.result = .ok tunnel) :
    q.run t = q.overTunnel (q.opening t) tunnel := by
  unfold opening at h
  simp only [run, h]
  rfl

/-- A query is refused by validation, or its tunnel is not opened for another reason, or it gets to
the jump host and as far as its URL allows. -/
theorem run_cases (q : Query) (t : FileTree) :
    (∃ e, q.config.validate = .error e ∧ (q.opening t).attempt.result = .error (.config e)) ∨
    (∃ e, (q.opening t).attempt.result = .error e ∧ (q.run t).result = .error e ∧
      e.kind ≠ .configuration) ∨
    ∃ tunnel, (q.opening t).attempt.result = .ok tunnel ∧
      .connect ⟨q.config.sshHost, q.config.sshPort⟩ ∈ (q.run t).acts ∧
      (q.run t).acts = (q.opening t).attempt.acts ∧
      (q.run t).files = (q.opening t).attempt.files ∧
      (q.config.HasRoute → ∀ e, (q.run t).result = .error e → e.kind ≠ .configuration) ∧
      (¬q.config.HasRoute → ∃ shown, (q.run t).result = .error (.invalidUrl shown)) := by
  cases h : q.config.validate with
  | error e =>
    refine Or.inl ⟨e, rfl, ?_⟩
    rw [opening, Tunnel.establish_of_validate h]
  | ok valid =>
    obtain ⟨auth, engine⟩ := valid
    cases hr : (q.opening t).attempt.result with
    | error e =>
      have hwith := (Tunnel.establish_eq_error_iff h).1 hr
      exact Or.inr (Or.inl ⟨e, rfl, run_of_error hr, Session.kind_of_establishWith_eq_error hwith⟩)
    | ok tunnel =>
      obtain ⟨s, hs⟩ := (Tunnel.establish_isOk_iff h).1 ⟨tunnel, hr⟩
      have hresolve : (q.opening t).board.registry.resolve tunnel.identifier =
          some tunnel.adapter := by
        rw [opening, Tunnel.resolve_of_ok hr]
        exact if_pos rfl
      obtain ⟨hfiles, hacts, hrouted, hlost⟩ := overTunnel_spec (q := q) hresolve
      refine Or.inr (Or.inr ⟨tunnel, rfl, ?_⟩)
      rw [run_of_ok hr]
      refine ⟨?_, hacts, hfiles, hrouted, hlost⟩
      rw [hacts, opening, (Tunnel.establish_files_acts h).2]
      exact Session.connect_mem_acts hs

/-- **When a configuration is refused, and what was done before.**  A query ends with an error of
the configuration if validation refuses it, and then it did nothing at all, or if its tunnel was
opened and its URL names no host, and then it had connected to the jump host and left the files as
the opening did.  So nothing was touched before such an error exactly if it is not of the second
sort. -/
theorem refusal_spec (q : Query) (t : FileTree) :
    let attempt := (q.opening t).attempt
    let jumpHost : Endpoint := ⟨q.config.sshHost, q.config.sshPort⟩
    let late := (∃ tunnel, attempt.result = .ok tunnel) ∧ ¬q.config.HasRoute
    ((∀ e, (q.run t).result = .error e → e.kind = .configuration →
        .connect jumpHost ∉ (q.run t).acts ∧ (q.run t).files = t) ↔ ¬late) ∧
    ((∃ e, (q.run t).result = .error e ∧ e.kind = .configuration) ↔
      (∃ e, q.config.validate = .error e) ∨ late) ∧
    (∀ e, q.config.validate = .error e → q.run t = ⟨.error (.config e), t, [], []⟩) ∧
    (late → (∃ shown, (q.run t).result = .error (.invalidUrl shown)) ∧
      .connect jumpHost ∈ (q.run t).acts ∧ (q.run t).acts = attempt.acts ∧
      (q.run t).files = attempt.files) := by
  intro attempt jumpHost late
  have hlate : late → (∃ shown, (q.run t).result = .error (.invalidUrl shown)) ∧
      .connect jumpHost ∈ (q.run t).acts ∧ (q.run t).acts = attempt.acts ∧
      (q.run t).files = attempt.files := by
    rintro ⟨⟨tunnel, hok⟩, hroute⟩
    rcases q.run_cases t with ⟨_, _, he⟩ | ⟨_, he, -⟩ | ⟨_, _, hmem, hacts, hfiles, -, hlost⟩
    · cases he.symm.trans hok
    · cases he.symm.trans hok
    · exact ⟨hlost hroute, hmem, hacts, hfiles⟩
  have hkind {e : TunnelError} (he : (q.run t).result = .error e) (hk : e.kind = .configuration) :
      (∃ e, q.config.validate = .error e) ∨ late := by
    rcases q.run_cases t with ⟨e', hvalid, -⟩ | ⟨e', -, he', hother⟩ |
      ⟨tunnel, hok, -, -, -, hrouted, -⟩
    · exact Or.inl ⟨e', hvalid⟩
    · cases he.symm.trans he'
      exact absurd hk hother
    · exact Or.inr ⟨⟨tunnel, hok⟩, fun hroute => hrouted hroute e he hk⟩
  refine ⟨⟨?_, ?_⟩, ⟨fun ⟨e, he, hk⟩ => hkind he hk, ?_⟩, fun e h => run_of_validate h t, hlate⟩
  · intro hnothing hl
    obtain ⟨⟨shown, hresult⟩, hmem, -⟩ := hlate hl
    exact (hnothing _ hresult rfl).1 hmem
  · intro hl e he hk
    obtain ⟨e', hvalid⟩ := (hkind he hk).resolve_right hl
    rw [run_of_validate hvalid]
    exact ⟨List.not_mem_nil, rfl⟩
  · rintro (⟨e, hvalid⟩ | hl)
    · exact ⟨.config e, by rw [run_of_validate hvalid], rfl⟩
    · obtain ⟨⟨shown, hresult⟩, -⟩ := hlate hl
      exact ⟨_, hresult, rfl⟩

/-- A URL whose port cannot be read is refused when the key of the jump host is in the ledger and
the user is logged in. -/
theorem refusal_after_login :
    let key : HostKey := ⟨"ssh-ed25519", [1, 2, 3]⟩
    let outside : Outside :=
      { connect _ := .ok ⟨some key, .ok (), .disconnected, fun _ _ => .ok true⟩
        ledgerPath := "kh" }
    let config : Config :=
      { sshUser := "deploy", sshHost := "bastion", password := some "pw",
        dbUrl := "postgres+ssh://db.internal:notaport/app" }
    let q : Query := ⟨outside, .unreachable (.v4 ⟨127, 0, 0, 1⟩ 40001), config, "SELECT 1"⟩
    let error : TunnelError := .invalidUrl "postgres+ssh://db.internal:notaport/app"
    (q.run {}).result = .error error ∧ error.kind = .configuration ∧
      (q.run {}).acts = [.connect ⟨"bastion", 22⟩, .verify key, .authenticate "deploy"] ∧
      Ledger.bytesAt {} "kh" = [] ∧
      Ledger.bytesAt (q.run {}).files "kh" = Text.bytesOf "bastion ssh-ed25519 AQID\n" := by
  intro key outside config q error
  have hshape : (q.run {}).result.map (fun _ => ()) = .error error := by decide +kernel
  have hresult : (q.run {}).result = .error error := by
    cases hr : (q.run {}).result with
    | ok output =>
      rw [hr] at hshape
      cases hshape
    | error e =>
      rw [hr] at hshape
      cases hshape
      rfl
  refine ⟨hresult, rfl, ?_, ?_, ?_⟩
  all_goals decide +kernel

end Query

end JumpHost
