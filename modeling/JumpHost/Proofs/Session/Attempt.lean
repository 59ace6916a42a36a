/-
**Attempts to establish a session.**

An attempt goes through its stages in a fixed order and ends at the first that fails.  Of all
stages only the check of the host key touches the files, and it does so as the ledger does.  What
the check refuses is the error of the attempt, whatever the transport makes of the refusal, and no
other stage has an error of that kind; a check that is lost refuses nothing.

Main results:

* `JumpHost.Session.establishWith_of_unreadable`, `JumpHost.Session.establishWith_of_unreachable`,
  `JumpHost.Session.establishWith_of_server` — the stages before the handshake;
* `JumpHost.Session.checkKey_eq_error_iff` — how the check of a host key fails;
* `JumpHost.Session.handshake_files`, `JumpHost.Session.handshake_acts` — what a handshake does;
* `JumpHost.Session.handshake_isOk_iff` — when it succeeds;
* `JumpHost.Session.eq_of_establish` — a session that was established is a new one;
* `JumpHost.Session.kind_of_establishWith_eq_error` — no attempt ends with an error of the
  configuration;
* `JumpHost.Session.establishWith_files`, `JumpHost.Session.establishWith_eq_mismatch_iff` — what a
  whole attempt does to the files, and when it ends with a mismatch.
-/

import JumpHost.Session.Establish

set_option autoImplicit false

namespace JumpHost.Session

variable {o : Outside} {c : Config} {t : FileTree} {auth : CredentialSource}
  {credential : Credential} {server : Server}

/-! ### Before the handshake -/

/-- A valid configuration gets as far as its credential. -/
theorem establish_of_validate {engine : Engine} (h : c.validate = .ok (auth, engine))
    (o : Outside) (t : FileTree) : establish o c t = establishWith o c auth t := by
  obtain ⟨hendpoint, hsource, -⟩ := Config.validate_eq_ok_iff.1 h
  simp [establish, hendpoint, hsource]

/-- Only a key can be unreadable. -/
theorem readCredential_eq_error_iff {e : TunnelError} :
    readCredential t auth = .error e ↔
      ∃ path passphrase reason, auth = .privateKey path passphrase ∧
        PrivateKey.load t path passphrase = .error reason ∧
        e = .keyParse path reason.message := by
  cases auth with
  | password password => simp [readCredential]
  | privateKey path passphrase =>
    simp only [readCredential]
    cases hload : PrivateKey.load t path passphrase with
    | ok key => simp [hload]
    | error reason =>
      constructor
      · intro he
        exact ⟨path, passphrase, reason, rfl, hload, (Except.error.inj he).symm⟩
      · rintro ⟨path', passphrase', reason', hauth, hload', rfl⟩
        cases hauth
        rw [hload] at hload'
        cases hload'
        rfl

theorem kind_of_connect_eq_error {e : TunnelError} (h : connect o c = .error e) :
    e.kind = .network := by
  unfold connect at h
  split at h
  · cases h
  · cases h
    rfl
  · cases h
    rfl

theorem connect_eq_ok_iff :
    connect o c = .ok server ↔ o.connect ⟨c.sshHost, c.sshPort⟩ = .ok server := by
  unfold connect
  split <;> rename_i h <;> simp [h]

theorem connect_of_error {reason : ConnectError}
    (h : o.connect ⟨c.sshHost, c.sshPort⟩ = .error reason) : ∃ e, connect o c = .error e := by
  cases hc : connect o c with
  | error e => exact ⟨e, rfl⟩
  | ok server =>
    rw [connect_eq_ok_iff, h] at hc
    cases hc

theorem establishWith_of_unreadable {e : TunnelError} (h : readCredential t auth = .error e) :
    establishWith o c auth t = ⟨.error e, t, [], credentialActs auth⟩ := by
  simp only [establishWith, h]

theorem establishWith_of_unreachable {e : TunnelError}
    (h : readCredential t auth = .ok credential) (hc : connect o c = .error e) :
    establishWith o c auth t =
      ⟨.error e, t, [], credentialActs auth ++ [.connect ⟨c.sshHost, c.sshPort⟩]⟩ := by
  simp only [establishWith, h, hc]

theorem establishWith_of_server (h : readCredential t auth = .ok credential)
    (hc : connect o c = .ok server) :
    establishWith o c auth t =
      { handshake o c credential server t with
        acts := credentialActs auth ++ [.connect ⟨c.sshHost, c.sshPort⟩] ++
          (handshake o c credential server t).acts } := by
  simp only [establishWith, h, hc]

/-- An attempt ends with its credential or with its connection, or it gets to a handshake. -/
theorem establishWith_cases (o : Outside) (c : Config) (auth : CredentialSource) (t : FileTree) :
    (∃ e, readCredential t auth = .error e ∧
      establishWith o c auth t = ⟨.error e, t, [], credentialActs auth⟩) ∨
    (∃ e, connect o c = .error e ∧
      establishWith o c auth t =
        ⟨.error e, t, [], credentialActs auth ++ [.connect ⟨c.sshHost, c.sshPort⟩]⟩) ∨
    ∃ credential server, readCredential t auth = .ok credential ∧
      o.connect ⟨c.sshHost, c.sshPort⟩ = .ok server ∧
      (establishWith o c auth t).files = (handshake o c credential server t).files ∧
      (establishWith o c auth t).result = (handshake o c credential server t).result := by
  cases h : readCredential t auth with
  | error e => exact Or.inl ⟨e, rfl, establishWith_of_unreadable h⟩
  | ok credential =>
    refine Or.inr ?_
    cases hc : connect o c with
    | error e => exact Or.inl ⟨e, rfl, establishWith_of_unreachable h hc⟩
    | ok server =>
      refine Or.inr ⟨credential, server, rfl, connect_eq_ok_iff.1 hc, ?_⟩
      rw [establishWith_of_server h hc]
      exact ⟨rfl, rfl⟩

/-! ### The end of a handshake -/

/-- The end of a handshake touches no file and does nothing but authenticate the user. -/
theorem finish_spec (c : Config) (credential : Credential) (server : Server) (t : FileTree) :
    (finish c credential server t).files = t ∧
      (finish c credential server t).acts <+: [.authenticate c.sshUser] ∧
      ((finish c credential server t).result = .ok { remote := c.remoteAddress } ∨
        ∃ e, (finish c credential server t).result = .error e ∧
          (e.kind = .network ∨ e.kind = .authentication)) := by
  unfold finish authenticate
  cases server.handshake with
  | error e => exact ⟨rfl, List.nil_prefix, Or.inr ⟨_, rfl, Or.inl rfl⟩⟩
  | ok _ =>
    cases server.accepts c.sshUser credential with
    | error e => exact ⟨rfl, List.prefix_rfl, Or.inr ⟨_, rfl, Or.inl rfl⟩⟩
    | ok accepted =>
      cases accepted with
      | false => exact ⟨rfl, List.prefix_rfl, Or.inr ⟨_, rfl, Or.inr rfl⟩⟩
      | true => exact ⟨rfl, List.prefix_rfl, Or.inl rfl⟩

theorem finish_isOk_iff :
    (∃ s, (finish c credential server t).result = .ok s) ↔
      server.handshake = .ok () ∧ server.accepts c.sshUser credential = .ok true := by
  unfold finish authenticate
  cases server.handshake with
  | error e => simp
  | ok _ =>
    cases server.accepts c.sshUser credential with
    | error e => simp
    | ok accepted => cases accepted <;> simp

/-! ### The check of the host key -/

/-- What the ledger makes of the key that a server presents. -/
def verified (o : Outside) (c : Config) (t : FileTree) (key : HostKey) : Ledger.Verified :=
  Ledger.verifyAt t (ledgerPath o c) c.sshHost c.sshPort key

theorem verified_files (o : Outside) (c : Config) (t : FileTree) (key : HostKey) :
    (verified o c t key).files =
      (Ledger.consultAt t (ledgerPath o c) (HostPattern.ofEndpoint c.sshHost c.sshPort) key).2 := by
  unfold verified Ledger.verifyAt
  dsimp only
  split <;> rename_i h <;> rw [h]

theorem checkKey_acts (o : Outside) (c : Config) (server : Server) (key : HostKey)
    (t : FileTree) : (checkKey o c server key t).acts = [.verify key] := by
  unfold checkKey
  dsimp only
  split
  · split <;> rfl
  · split <;> rfl

theorem checkKey_files (h : o.taskFault = none) (c : Config) (server : Server) (key : HostKey)
    (t : FileTree) : (checkKey o c server key t).files = (verified o c t key).files := by
  unfold checkKey
  rw [h]
  dsimp only
  split <;> rfl

/-- A check that is lost leaves the files alone unless it had consulted the ledger. -/
theorem checkKey_files_of_lost {fault : TaskFault} (h : o.taskFault = some fault) (c : Config)
    (server : Server) (key : HostKey) (t : FileTree) :
    (checkKey o c server key t).files =
      if fault.isLate then (verified o c t key).files else t := by
  unfold checkKey
  rw [h]
  dsimp only
  split <;> rfl

/-- How a check fails: it is lost, or it comes to its end and refuses the key. -/
theorem checkKey_eq_error_iff {key : HostKey} {e : TunnelError} :
    (checkKey o c server key t).result = .error e ↔
      (∃ fault, o.taskFault = some fault ∧ e = lostError fault server) ∨
        o.taskFault = none ∧ ∃ refusal, (verified o c t key).result = .error refusal ∧
          e = .ofLedger refusal := by
  unfold checkKey verified
  cases o.taskFault with
  | some fault =>
    dsimp only [handshakeError]
    split <;> simp [eq_comm]
  | none =>
    dsimp only [handshakeError]
    split <;> rename_i hv <;> simp [hv, eq_comm]

theorem checkKey_eq_ok_iff {key : HostKey} {u : Unit} :
    (checkKey o c server key t).result = .ok u ↔
      o.taskFault = none ∧ ∃ a, (verified o c t key).result = .ok a := by
  unfold checkKey verified
  cases o.taskFault with
  | some fault =>
    dsimp only
    split <;> simp
  | none =>
    dsimp only
    split <;> rename_i hv <;> simp [hv]

theorem kind_of_lostError (fault : TaskFault) (server : Server) :
    (lostError fault server).kind = .ledger ∨ (lostError fault server).kind = .network := by
  unfold lostError
  split
  · exact Or.inl rfl
  · exact Or.inr rfl

/-! ### The handshake -/

theorem handshake_of_none (h : server.presented = none) :
    handshake o c credential server t = finish c credential server t := by
  simp only [handshake, h]

/-- A check that fails ends the handshake. -/
theorem handshake_of_error {key : HostKey} {e : TunnelError} (h : server.presented = some key)
    (he : (checkKey o c server key t).result = .error e) :
    handshake o c credential server t =
      ⟨.error e, (checkKey o c server key t).files, (checkKey o c server key t).events,
        (checkKey o c server key t).acts⟩ := by
  simp only [handshake, h, he]

theorem handshake_of_ok {key : HostKey} {u : Unit} (h : server.presented = some key)
    (hok : (checkKey o c server key t).result = .ok u) :
    handshake o c credential server t =
      { finish c credential server (checkKey o c server key t).files with
        events := (checkKey o c server key t).events ++
          (finish c credential server (checkKey o c server key t).files).events
        acts := (checkKey o c server key t).acts ++
          (finish c credential server (checkKey o c server key t).files).acts } := by
  simp only [handshake, h, hok]

theorem handshake_files {key : HostKey} (h : server.presented = some key) :
    (handshake o c credential server t).files = (checkKey o c server key t).files := by
  cases hr : (checkKey o c server key t).result with
  | error e => rw [handshake_of_error h hr]
  | ok u =>
    rw [handshake_of_ok h hr]
    exact (finish_spec c credential server _).1

/-- A handshake ends with a mismatch exactly if the ledger finds one. -/
theorem handshake_eq_mismatch_iff {host expected presented : String} :
    (handshake o c credential server t).result =
        .error (.hostKeyMismatch host expected presented) ↔
      ∃ key, server.presented = some key ∧ o.taskFault = none ∧
        (verified o c t key).result = .error (.hostKeyMismatch host expected presented) := by
  -- neither the end of a handshake nor a check that is lost has a mismatch of its own
  have hfinish (u : FileTree) : (finish c credential server u).result ≠
      .error (.hostKeyMismatch host expected presented) := by
    intro hf
    rcases (finish_spec c credential server u).2.2 with hok | ⟨e, he, hkind⟩
    · rw [hok] at hf
      cases hf
    · rw [he] at hf
      cases hf
      rcases hkind with hkind | hkind <;> cases hkind
  have hlost (fault : TaskFault) :
      TunnelError.hostKeyMismatch host expected presented ≠ lostError fault server := by
    intro he
    rcases kind_of_lostError fault server with hkind | hkind <;> rw [← he] at hkind <;> cases hkind
  cases h : server.presented with
  | none =>
    rw [handshake_of_none h]
    simpa using hfinish t
  | some key =>
    simp only [Option.some.injEq, exists_eq_left']
    cases hr : (checkKey o c server key t).result with
    | ok u =>
      rw [handshake_of_ok h hr]
      obtain ⟨-, a, ha⟩ := checkKey_eq_ok_iff.1 hr
      simpa [ha] using hfinish _
    | error e =>
      rw [handshake_of_error h hr]
      constructor
      · intro he
        obtain rfl := Except.error.inj he
        rcases checkKey_eq_error_iff.1 hr with ⟨fault, -, hother⟩ | ⟨hf, refusal, hv, hsame⟩
        · exact absurd hother (hlost fault)
        · refine ⟨hf, hv.trans (congrArg _ ?_)⟩
          cases refusal <;> cases hsame
          rfl
      · rintro ⟨hf, hv⟩
        cases hr.symm.trans (checkKey_eq_error_iff.2 (Or.inr ⟨hf, _, hv, rfl⟩))
        rfl

/-- What a handshake does is the check of the key that the server presents, if there is one, and
then at most the authentication of the user. -/
theorem handshake_acts :
    (handshake o c credential server t).acts <+:
      (server.presented.map Act.verify).toList ++ [.authenticate c.sshUser] := by
  cases h : server.presented with
  | none =>
    rw [handshake_of_none h]
    exact (finish_spec c credential server t).2.1
  | some key =>
    cases hr : (checkKey o c server key t).result with
    | error e =>
      rw [handshake_of_error h hr, checkKey_acts]
      exact ⟨[.authenticate c.sshUser], rfl⟩
    | ok u =>
      rw [handshake_of_ok h hr, checkKey_acts]
      exact List.prefix_cons_inj _ |>.2 (finish_spec c credential server _).2.1

theorem kind_of_handshake_eq_error {e : TunnelError}
    (h : (handshake o c credential server t).result = .error e) : e.kind ≠ .configuration := by
  have hfinish {u : FileTree} (hf : (finish c credential server u).result = .error e) :
      e.kind ≠ .configuration := by
    rcases (finish_spec c credential server u).2.2 with hok | ⟨e', he, hkind⟩
    · rw [hok] at hf
      cases hf
    · cases hf.symm.trans he
      rcases hkind with hkind | hkind <;> simp [hkind]
  cases hp : server.presented with
  | none =>
    rw [handshake_of_none hp] at h
    exact hfinish h
  | some key =>
    cases hr : (checkKey o c server key t).result with
    | ok u =>
      rw [handshake_of_ok hp hr] at h
      exact hfinish h
    | error e' =>
      rw [handshake_of_error hp hr] at h
      cases h
      rcases checkKey_eq_error_iff.1 hr with ⟨fault, -, rfl⟩ | ⟨-, refusal, -, rfl⟩
      · rcases kind_of_lostError fault server with hkind | hkind <;> simp [hkind]
      · cases refusal <;> simp [TunnelError.ofLedger, TunnelError.kind]

/-! ### Success -/

theorem eq_of_finish {s : Session} (h : (finish c credential server t).result = .ok s) :
    s = { remote := c.remoteAddress } := by
  rcases (finish_spec c credential server t).2.2 with hok | ⟨e, he, -⟩
  · rw [hok] at h
    exact (Except.ok.inj h).symm
  · rw [he] at h
    cases h

theorem eq_of_handshake {s : Session}
    (h : (handshake o c credential server t).result = .ok s) :
    s = { remote := c.remoteAddress } := by
  cases hp : server.presented with
  | none =>
    rw [handshake_of_none hp] at h
    exact eq_of_finish h
  | some key =>
    cases hr : (checkKey o c server key t).result with
    | error e =>
      rw [handshake_of_error hp hr] at h
      cases h
    | ok u =>
      rw [handshake_of_ok hp hr] at h
      exact eq_of_finish h

/-- A session that was established is a new one. -/
theorem eq_of_establish {s : Session} (h : (establishWith o c auth t).result = .ok s) :
    s = { remote := c.remoteAddress } := by
  rcases establishWith_cases o c auth t with
    ⟨e, -, he⟩ | ⟨e, -, he⟩ | ⟨credential, server, -, -, -, hr⟩
  · rw [he] at h
    cases h
  · rw [he] at h
    cases h
  · rw [hr] at h
    exact eq_of_handshake h

/-- A handshake succeeds exactly if no check is lost, no key is refused and its end succeeds. -/
theorem handshake_isOk_iff :
    (∃ s, (handshake o c credential server t).result = .ok s) ↔
      (∀ key, server.presented = some key →
        o.taskFault = none ∧ ∃ a, (verified o c t key).result = .ok a) ∧
        server.handshake = .ok () ∧ server.accepts c.sshUser credential = .ok true := by
  cases hp : server.presented with
  | none =>
    rw [handshake_of_none hp, finish_isOk_iff]
    simp
  | some key =>
    cases hr : (checkKey o c server key t).result with
    | error e =>
      rw [handshake_of_error hp hr]
      refine iff_of_false nofun fun h => ?_
      cases hr.symm.trans (checkKey_eq_ok_iff (u := ()).2 (h.1 key rfl))
    | ok u =>
      rw [handshake_of_ok hp hr, ← finish_isOk_iff (t := (checkKey o c server key t).files)]
      simp [checkKey_eq_ok_iff.1 hr]

/-! ### The whole attempt -/

/-- What goes wrong in an attempt is never the configuration. -/
theorem kind_of_establishWith_eq_error {e : TunnelError}
    (h : (establishWith o c auth t).result = .error e) : e.kind ≠ .configuration := by
  rcases establishWith_cases o c auth t with
    ⟨e', hcredential, he⟩ | ⟨e', hconnect, he⟩ | ⟨credential, server, -, -, -, hr⟩
  · obtain ⟨_, _, _, -, -, rfl⟩ := readCredential_eq_error_iff.1 hcredential
    rw [he] at h
    cases h
    nofun
  · have hkind := kind_of_connect_eq_error hconnect
    rw [he] at h
    cases h
    simp [hkind]
  · exact kind_of_handshake_eq_error (hr.symm.trans h)

/-- A session is not established without a connection. -/
theorem connect_mem_acts {s : Session} (h : (establishWith o c auth t).result = .ok s) :
    .connect ⟨c.sshHost, c.sshPort⟩ ∈ (establishWith o c auth t).acts := by
  cases hcredential : readCredential t auth with
  | error e =>
    rw [establishWith_of_unreadable hcredential] at h
    cases h
  | ok credential =>
    cases hc : connect o c with
    | error e =>
      rw [establishWith_of_unreachable hcredential hc] at h
      cases h
    | ok server =>
      rw [establishWith_of_server hcredential hc]
      simp

/-- An attempt changes the files by one consultation of the ledger, on the key that the jump host
presents, or not at all. -/
theorem establishWith_files (o : Outside) (c : Config) (auth : CredentialSource) (t : FileTree) :
    (establishWith o c auth t).files = t ∨
      ∃ server key, o.connect ⟨c.sshHost, c.sshPort⟩ = .ok server ∧
        server.presented = some key ∧
        (establishWith o c auth t).files = (Ledger.consultAt t (ledgerPath o c)
          (HostPattern.ofEndpoint c.sshHost c.sshPort) key).2 := by
  rcases establishWith_cases o c auth t with
    ⟨e, -, he⟩ | ⟨e, -, he⟩ | ⟨credential, server, -, hc, hf, -⟩
  · exact Or.inl (by rw [he])
  · exact Or.inl (by rw [he])
  · rw [hf]
    cases hp : server.presented with
    | none =>
      rw [handshake_of_none hp]
      exact Or.inl (finish_spec c credential server t).1
    | some key =>
      rw [handshake_files hp]
      cases hf : o.taskFault with
      | none => exact Or.inr ⟨server, key, hc, hp, by rw [checkKey_files hf, verified_files]⟩
      | some fault =>
        rw [checkKey_files_of_lost hf]
        split
        · exact Or.inr ⟨server, key, hc, hp, verified_files o c t key⟩
        · exact Or.inl rfl

/-- An attempt ends with a mismatch exactly if it gets to a server whose key the ledger refuses so.
No other stage makes one up. -/
theorem establishWith_eq_mismatch_iff {host expected presented : String} :
    (establishWith o c auth t).result = .error (.hostKeyMismatch host expected presented) ↔
      ∃ credential server key, readCredential t auth = .ok credential ∧
        o.connect ⟨c.sshHost, c.sshPort⟩ = .ok server ∧ server.presented = some key ∧
        o.taskFault = none ∧
        (verified o c t key).result = .error (.hostKeyMismatch host expected presented) := by
  constructor
  · intro h
    rcases establishWith_cases o c auth t with
      ⟨e, hcredential, he⟩ | ⟨e, hconnect, he⟩ | ⟨credential, server, hcredential, hc, -, hr⟩
    · -- the error of a credential is another one
      obtain ⟨_, _, _, -, -, rfl⟩ := readCredential_eq_error_iff.1 hcredential
      rw [he] at h
      cases h
    · -- and so is that of a connection
      have hkind := kind_of_connect_eq_error hconnect
      rw [he] at h
      cases h
      cases hkind
    · rw [hr] at h
      obtain ⟨key, hkey, hv⟩ := handshake_eq_mismatch_iff.1 h
      exact ⟨credential, server, key, hcredential, hc, hkey, hv⟩
  · rintro ⟨credential, server, key, hcredential, hc, hkey, hv⟩
    rw [establishWith_of_server hcredential (connect_eq_ok_iff.2 hc)]
    exact handshake_eq_mismatch_iff.2 ⟨key, hkey, hv⟩

end JumpHost.Session
