/-
**Opening a tunnel.**

Opening goes through its stages in a fixed order: the configuration, the credential, the connection,
the host key and the user.  What was reached before the stage that fails stays as it is: the
registry is touched last, so an opening that fails leaves it alone, and of the files only the ledger
is ever written, by one consultation on the name of the jump host.

Main results:

* `JumpHost.Tunnel.establish_of_error`, `JumpHost.Tunnel.establish_of_ok` — an opening follows the
  attempt to establish its session;
* `JumpHost.Tunnel.establish_cases` — it fails and changes no switchboard, or it adds a session with
  an adapter that is registered;
* `JumpHost.Tunnel.establish_fails_in_order` — **an opening fails in order and leaves nothing
  half-open**.
-/

import JumpHost.Proofs.Ledger.Judgement
import JumpHost.Proofs.Session.Attempt
import JumpHost.Tunnel.Basic

set_option autoImplicit false

namespace JumpHost.Tunnel

variable {o : Outside} {c : Config} {t : FileTree} {b : Switchboard} {auth : CredentialSource}
  {engine : Engine}

/-! ### An opening and its session -/

theorem establish_of_error {e : TunnelError} (h : c.validate = .ok (auth, engine))
    (he : (Session.establishWith o c auth t).result = .error e) (b : Switchboard) :
    Tunnel.establish o c t b =
      ⟨⟨.error e, (Session.establishWith o c auth t).files,
        (Session.establishWith o c auth t).events, (Session.establishWith o c auth t).acts⟩, b⟩ := by
  have hrest := Session.establish_of_validate h o t
  simp only [Tunnel.establish, h, hrest, he]

theorem establish_of_ok {s : Session} (h : c.validate = .ok (auth, engine))
    (hs : (Session.establishWith o c auth t).result = .ok s) (b : Switchboard) :
    Tunnel.establish o c t b = register b engine s (Session.establishWith o c auth t) := by
  have hrest := Session.establish_of_validate h o t
  simp only [Tunnel.establish, h, hrest, hs]

/-- An opening does to the outside and to the files what the attempt on its session does. -/
theorem establish_files_acts (h : c.validate = .ok (auth, engine)) :
    (Tunnel.establish o c t b).attempt.files = (Session.establishWith o c auth t).files ∧
      (Tunnel.establish o c t b).attempt.acts = (Session.establishWith o c auth t).acts := by
  cases hr : (Session.establishWith o c auth t).result with
  | error e =>
    rw [establish_of_error h hr]
    exact ⟨rfl, rfl⟩
  | ok s =>
    rw [establish_of_ok h hr]
    exact ⟨rfl, rfl⟩

theorem establish_eq_error_iff (h : c.validate = .ok (auth, engine)) {e : TunnelError} :
    (Tunnel.establish o c t b).attempt.result = .error e ↔
      (Session.establishWith o c auth t).result = .error e := by
  cases hr : (Session.establishWith o c auth t).result with
  | error e' =>
    rw [establish_of_error h hr]
    simp only [Except.error.injEq]
  | ok s =>
    rw [establish_of_ok h hr]
    exact iff_of_false nofun nofun

theorem establish_isOk_iff (h : c.validate = .ok (auth, engine)) :
    (∃ tunnel, (Tunnel.establish o c t b).attempt.result = .ok tunnel) ↔
      ∃ s, (Session.establishWith o c auth t).result = .ok s := by
  cases hr : (Session.establishWith o c auth t).result with
  | error e =>
    rw [establish_of_error h hr]
    exact iff_of_false nofun nofun
  | ok s =>
    rw [establish_of_ok h hr]
    exact iff_of_true ⟨_, rfl⟩ ⟨s, rfl⟩

/-- The tunnel that an opening makes on a switchboard. -/
def next (b : Switchboard) (remote : String) (engine : Engine) : Tunnel :=
  ⟨b.sessions.length, remote, engine, ⟨b.adapters, engine, b.sessions.length⟩⟩

/-- **An opening fails and changes no switchboard, or it adds a session with an adapter that is
registered.** -/
theorem establish_cases (o : Outside) (c : Config) (t : FileTree) (b : Switchboard) :
    (∃ e, (Tunnel.establish o c t b).attempt.result = .error e ∧
      (Tunnel.establish o c t b).board = b) ∨
    ∃ auth engine, c.validate = .ok (auth, engine) ∧
      (Tunnel.establish o c t b).attempt.result = .ok (next b c.remoteAddress engine) ∧
      (Tunnel.establish o c t b).board =
        { registry := b.registry.register engine.identifier (next b c.remoteAddress engine).adapter
          sessions := b.sessions ++ [{ remote := c.remoteAddress }]
          adapters := b.adapters + 1 } := by
  cases h : c.validate with
  | error e =>
    refine Or.inl ⟨.config e, ?_⟩
    rw [establish_of_validate h]
    exact ⟨rfl, rfl⟩
  | ok valid =>
    obtain ⟨auth, engine⟩ := valid
    cases hr : (Session.establishWith o c auth t).result with
    | error e =>
      refine Or.inl ⟨e, ?_⟩
      rw [establish_of_error h hr]
      exact ⟨rfl, rfl⟩
    | ok s =>
      have hs : s = { remote := c.remoteAddress } := Session.eq_of_establish hr
      refine Or.inr ⟨auth, engine, rfl, ?_⟩
      rw [establish_of_ok h hr, hs]
      exact ⟨rfl, rfl⟩

/-- An opening that gets to a server goes on as the handshake with it does. -/
theorem establish_of_server {credential : Credential} {server : Server}
    (h : c.validate = .ok (auth, engine))
    (hcredential : Session.readCredential t auth = .ok credential)
    (hc : o.connect ⟨c.sshHost, c.sshPort⟩ = .ok server) (b : Switchboard) :
    let handshake := Session.handshake o c credential server t
    let attempt := (Tunnel.establish o c t b).attempt
    attempt.files = handshake.files ∧
      attempt.acts = Session.credentialActs auth ++ [.connect ⟨c.sshHost, c.sshPort⟩] ++
        handshake.acts ∧
      ((∃ tunnel, attempt.result = .ok tunnel) ↔ ∃ s, handshake.result = .ok s) ∧
      ∀ e, attempt.result = .error e ↔ handshake.result = .error e := by
  have hwith := Session.establishWith_of_server hcredential (Session.connect_eq_ok_iff.2 hc)
  obtain ⟨hfiles, hacts⟩ := establish_files_acts (o := o) (t := t) (b := b) h
  have hok := establish_isOk_iff (o := o) (t := t) (b := b) h
  have herror (e : TunnelError) := establish_eq_error_iff (o := o) (t := t) (b := b) h (e := e)
  rw [hwith] at hfiles hacts hok
  simp only [hwith] at herror
  exact ⟨hfiles, hacts, hok, herror⟩

/-! ### The stages before the handshake -/

/-- A key that cannot be loaded is the error, before any connection. -/
theorem establish_of_unreadable {file : String} {passphrase : Option String} {reason : KeyError}
    (h : c.validate = .ok (.privateKey file passphrase, engine))
    (hload : PrivateKey.load t file passphrase = .error reason) (b : Switchboard) :
    (Tunnel.establish o c t b).attempt =
      ⟨.error (.keyParse file reason.message), t, [], [.readKey file]⟩ := by
  have hcredential : Session.readCredential t (.privateKey file passphrase) =
      .error (.keyParse file reason.message) := by
    simp only [Session.readCredential, hload]
  have hwith := Session.establishWith_of_unreadable (o := o) (c := c) hcredential
  rw [establish_of_error h (congrArg Establishment.result hwith), hwith]
  rfl

/-- A connection that does not come about is an error of the network. -/
theorem establish_of_unreachable {credential : Credential} {reason : ConnectError}
    (h : c.validate = .ok (auth, engine))
    (hcredential : Session.readCredential t auth = .ok credential)
    (hreason : o.connect ⟨c.sshHost, c.sshPort⟩ = .error reason) (b : Switchboard) :
    ∃ e, e.kind = .network ∧ (Tunnel.establish o c t b).attempt =
      ⟨.error e, t, [], Session.credentialActs auth ++ [.connect ⟨c.sshHost, c.sshPort⟩]⟩ := by
  obtain ⟨e, he⟩ := Session.connect_of_error hreason
  have hwith := Session.establishWith_of_unreachable hcredential he
  refine ⟨e, Session.kind_of_connect_eq_error he, ?_⟩
  rw [establish_of_error h (congrArg Establishment.result hwith), hwith]

/-! ### Whatever happens -/

/-- An opening leaves the ledger alone, or it appends the key that the jump host presents. -/
theorem bytesAt_establish {path : String} {file? : Option (List UInt8)}
    (hpath : Session.ledgerPath o c = path) (hstands : Ledger.Stands t path file?) :
    Ledger.bytesAt (Tunnel.establish o c t b).attempt.files path = Ledger.bytesAt t path ∨
      ∃ server key, o.connect ⟨c.sshHost, c.sshPort⟩ = .ok server ∧
        server.presented = some key ∧
        (Ledger.consultAt t path (HostPattern.ofEndpoint c.sshHost c.sshPort) key).1 =
          .ok .learned ∧
        Ledger.bytesAt (Tunnel.establish o c t b).attempt.files path =
          Ledger.appended (Ledger.bytesAt t path)
            ⟨HostPattern.ofEndpoint c.sshHost c.sshPort, key⟩ := by
  subst hpath
  cases h : c.validate with
  | error e =>
    rw [establish_of_validate h]
    exact Or.inl rfl
  | ok valid =>
    obtain ⟨auth, engine⟩ := valid
    rw [(establish_files_acts h).1]
    rcases Session.establishWith_files o c auth t with
      hsame | ⟨server, key, hc, hkey, hchanged⟩
    · exact Or.inl (by rw [hsame])
    · rw [hchanged]
      rcases hstands.bytesAt_consultAt (HostPattern.ofEndpoint c.sshHost c.sshPort) key with
        hkept | ⟨hlearned, happended⟩
      · exact Or.inl hkept
      · exact Or.inr ⟨server, key, hc, hkey, hlearned, happended⟩

/-- An opening ends with a mismatch exactly if it gets to a server whose key the ledger refuses
so. -/
theorem establish_eq_mismatch_iff {host expected presented : String} :
    (Tunnel.establish o c t b).attempt.result =
        .error (.hostKeyMismatch host expected presented) ↔
      ∃ auth engine credential server key, c.validate = .ok (auth, engine) ∧
        Session.readCredential t auth = .ok credential ∧
        o.connect ⟨c.sshHost, c.sshPort⟩ = .ok server ∧ server.presented = some key ∧
        o.taskFault = none ∧ (Session.verified o c t key).result =
          .error (.hostKeyMismatch host expected presented) := by
  cases h : c.validate with
  | error e =>
    rw [establish_of_validate h]
    refine iff_of_false (fun he => ?_) ?_
    · cases Except.error.inj he
    · rintro ⟨_, _, _, _, _, hvalid, -⟩
      cases hvalid
  | ok valid =>
    obtain ⟨auth, engine⟩ := valid
    rw [establish_eq_error_iff h, Session.establishWith_eq_mismatch_iff]
    constructor
    · rintro ⟨credential, server, key, hall⟩
      exact ⟨auth, engine, credential, server, key, rfl, hall⟩
    · rintro ⟨_, _, credential, server, key, hvalid, hall⟩
      cases hvalid
      exact ⟨credential, server, key, hall⟩

theorem board_of_error {e : TunnelError}
    (he : (Tunnel.establish o c t b).attempt.result = .error e) :
    (Tunnel.establish o c t b).board = b := by
  rcases establish_cases o c t b with ⟨-, -, hboard⟩ | ⟨_, _, -, hok, -⟩
  · exact hboard
  · rw [hok] at he
    cases he

/-- An opening that succeeds binds its identifier to its adapter, and nothing else. -/
theorem resolve_of_ok {tunnel : Tunnel}
    (htunnel : (Tunnel.establish o c t b).attempt.result = .ok tunnel) (id : String) :
    (Tunnel.establish o c t b).board.registry.resolve id =
      if id = tunnel.identifier then some tunnel.adapter else b.registry.resolve id := by
  rcases establish_cases o c t b with ⟨_, he, -⟩ | ⟨_, engine, -, hok, hboard⟩
  · rw [he] at htunnel
    cases htunnel
  · rw [hok] at htunnel
    cases htunnel
    rw [hboard, Registry.resolve_register]
    rfl

/-! ### Order -/

/-- **An opening fails in order and leaves nothing half-open.** -/
theorem establish_fails_in_order (o : Outside) (c : Config) (t : FileTree) (b : Switchboard) :
    let opening := Tunnel.establish o c t b
    let attempt := opening.attempt
    let jumpHost : Endpoint := ⟨c.sshHost, c.sshPort⟩
    let path := Session.ledgerPath o c
    let name := HostPattern.ofEndpoint c.sshHost c.sshPort
    -- a configuration that is refused is the error, and nothing is touched
    (∀ e, c.validate = .error e → opening = ⟨⟨.error (.config e), t, [], []⟩, b⟩) ∧
    (∀ auth engine, c.validate = .ok (auth, engine) →
      -- then a key that cannot be loaded, before any connection
      (∀ file passphrase reason, auth = .privateKey file passphrase →
        PrivateKey.load t file passphrase = .error reason →
        attempt = ⟨.error (.keyParse file reason.message), t, [], [.readKey file]⟩) ∧
      -- then a connection that does not come about
      (∀ credential reason, Session.readCredential t auth = .ok credential →
        o.connect jumpHost = .error reason →
        ∃ e, e.kind = .network ∧
          attempt = ⟨.error e, t, [], Session.credentialActs auth ++ [.connect jumpHost]⟩) ∧
      -- then whatever the server makes of the handshake and of the user
      ∀ credential server, Session.readCredential t auth = .ok credential →
        o.connect jumpHost = .ok server →
        attempt.acts <+: Session.credentialActs auth ++ [.connect jumpHost] ++
          ((server.presented.map Act.verify).toList ++ [.authenticate c.sshUser]) ∧
        ((∃ tunnel, attempt.result = .ok tunnel) ↔
          (∀ key, server.presented = some key → o.taskFault = none ∧
            ∃ a, (Ledger.verifyAt t path c.sshHost c.sshPort key).result = .ok a) ∧
          server.handshake = .ok () ∧ server.accepts c.sshUser credential = .ok true) ∧
        (server.presented = none → attempt.files = t) ∧
        ∀ key, server.presented = some key →
          -- the check of its key comes to its end
          (o.taskFault = none →
            attempt.files = (Ledger.consultAt t path name key).2 ∧
            ∀ e, (Ledger.verifyAt t path c.sshHost c.sshPort key).result = .error e →
              attempt.result = .error (.ofLedger e) ∧
              attempt.acts =
                Session.credentialActs auth ++ [.connect jumpHost] ++ [.verify key]) ∧
          -- or it is lost, before or after it has consulted the ledger
          ∀ fault, o.taskFault = some fault →
            attempt.files = (if fault.isLate then (Ledger.consultAt t path name key).2 else t) ∧
            attempt.result = .error
              (if fault.isPassedOn then
                .ledger ("host-key verification task failed: " ++ fault.reason)
              else .ssh server.afterRefusal) ∧
            attempt.acts =
              Session.credentialActs auth ++ [.connect jumpHost] ++ [.verify key]) ∧
    -- the ledger is left alone, or one record is appended: the key that the jump host presents
    (∀ file?, Ledger.Stands t path file? →
      Ledger.bytesAt attempt.files path = Ledger.bytesAt t path ∨
      ∃ server key, o.connect jumpHost = .ok server ∧ server.presented = some key ∧
        (Ledger.consultAt t path name key).1 = .ok .learned ∧
        Ledger.bytesAt attempt.files path = Ledger.appended (Ledger.bytesAt t path) ⟨name, key⟩) ∧
    -- a mismatch is always one that the ledger finds
    (∀ host expected presented,
      attempt.result = .error (.hostKeyMismatch host expected presented) ↔
        ∃ auth engine credential server key, c.validate = .ok (auth, engine) ∧
          Session.readCredential t auth = .ok credential ∧ o.connect jumpHost = .ok server ∧
          server.presented = some key ∧ o.taskFault = none ∧
          (Ledger.verifyAt t path c.sshHost c.sshPort key).result =
            .error (.hostKeyMismatch host expected presented)) ∧
    -- the registry is touched by an opening that succeeds, and by no other
    (∀ e, attempt.result = .error e → opening.board = b) ∧
    ∀ tunnel, attempt.result = .ok tunnel →
      ∀ id, opening.board.registry.resolve id =
        if id = tunnel.identifier then some tunnel.adapter else b.registry.resolve id := by
  intro opening attempt jumpHost path name
  refine ⟨fun e h => establish_of_validate h o t b, ?_,
    fun file? hstands => bytesAt_establish rfl hstands,
    fun host expected presented => establish_eq_mismatch_iff, fun e => board_of_error,
    fun tunnel => resolve_of_ok⟩
  intro auth engine h
  refine ⟨?_, fun credential reason hcredential hreason =>
    establish_of_unreachable h hcredential hreason b, ?_⟩
  · rintro file passphrase reason rfl hload
    exact establish_of_unreadable h hload b
  · intro credential server hcredential hc
    obtain ⟨hfiles, hacts, hok, herror⟩ := establish_of_server h hcredential hc b
    refine ⟨?_, hok.trans Session.handshake_isOk_iff, ?_, ?_⟩
    · refine (congrArg (· <+: _) hacts).mpr ?_
      exact (List.prefix_append_right_inj _).2 Session.handshake_acts
    · intro hnone
      refine hfiles.trans ?_
      rw [Session.handshake_of_none hnone]
      exact (Session.finish_spec c credential server t).1
    · intro key hkey
      have hfiles' := hfiles.trans (Session.handshake_files hkey)
      -- a check that fails is the error of the opening, and nothing is done behind it
      have hfailed {e : TunnelError} (he : (Session.checkKey o c server key t).result = .error e) :
          attempt.result = .error e ∧
            attempt.acts =
              Session.credentialActs auth ++ [.connect jumpHost] ++ [.verify key] := by
        have hends : Session.handshake o c credential server t = _ :=
          Session.handshake_of_error hkey he
        refine ⟨(herror e).2 (congrArg Establishment.result hends), hacts.trans ?_⟩
        rw [hends, Session.checkKey_acts]
      refine ⟨fun hf => ⟨?_, ?_⟩, fun fault hf => ⟨?_, ?_⟩⟩
      · rw [hfiles', Session.checkKey_files hf, Session.verified_files]
      · intro e he
        exact hfailed (Session.checkKey_eq_error_iff.2 (Or.inr ⟨hf, e, he, rfl⟩))
      · rw [hfiles', Session.checkKey_files_of_lost hf, Session.verified_files]
      · exact hfailed (Session.checkKey_eq_error_iff.2 (Or.inl ⟨fault, hf, rfl⟩))

end JumpHost.Tunnel
