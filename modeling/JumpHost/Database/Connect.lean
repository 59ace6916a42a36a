/-
**Connecting a driver through a tunnel.**

The scheme of the URL is the identifier of an adapter.  A bridge on the machine itself listens for
the driver, and every connection to it becomes a dial of the adapter.  The driver gets the URL with
the plain scheme of its engine and the address of the bridge, and it reads the whole of the URL
before it connects to anything.  Where no bridge can listen, the driver is never asked.

Main definitions:

* `JumpHost.Driver` — the behaviour of the driver and of what it reaches;
* `JumpHost.Pool`, `JumpHost.Pool.connect` — connections to a database.

Main statements:

* `JumpHost.Pool.connect_of_ofText?_eq_none` — a URL that cannot be read is refused before anything
  else;
* `JumpHost.Pool.kind_of_connectOver_eq_error`, `JumpHost.Pool.kind_of_query_eq_error` — whatever
  goes wrong later is an error of the network or of the database.
-/

import JumpHost.Database.Query
import JumpHost.Database.Settings
import JumpHost.Database.Url
import JumpHost.Registry

set_option autoImplicit false

namespace JumpHost

/-! ### Connecting -/

/-- The behaviour of the driver and of what it reaches. -/
structure Driver where
  /-- What comes of listening on the machine itself: the address of the bridge. -/
  bridge : Except OsError SocketAddress
  /-- What comes of connecting to a destination. -/
  connect : Destination → Except SqlError Unit
  /-- What the database gives for a query. -/
  query : String → Except SqlError ResultSet

/-- A driver that reaches nothing. -/
def Driver.unreachable (bridge : SocketAddress) : Driver where
  bridge := .ok bridge
  connect d := .error (.communication d.refusal.message)
  query _ := .error .poolClosed

/-- Connections to a database. -/
structure Pool where
  engine : Engine
  /-- The address that the adapter dials. -/
  target : String
  /-- The URL that the driver got. -/
  url : String
  deriving DecidableEq

namespace Pool

/-- The connections that are asked for by a URL over an adapter of an engine and a bridge. -/
def ofUrl (bridge : SocketAddress) (engine : Engine) (u : DatabaseUrl) : Pool :=
  ⟨engine, u.target engine, u.forDriver engine bridge⟩

/-- Connects to where the URL of a pool leads. -/
def open? (d : Driver) (p : Pool) : Except TunnelError Pool :=
  match Settings.read p.engine p.url.toList with
  | .error fault => .error (.sql (.setting fault))
  | .ok settings =>
    match d.connect (settings.destination p.engine) with
    | .error e => .error (.sql e)
    | .ok _ => .ok p

theorem kind_of_open?_eq_error {d : Driver} {p : Pool} {e : TunnelError}
    (h : open? d p = .error e) : e.kind = .database := by
  unfold open? at h
  split at h
  · cases h
    rfl
  · split at h
    · cases h
      rfl
    · cases h

/-- The address on which a bridge is asked to listen: any free port of the machine itself. -/
def bridgeAddress : String := "127.0.0.1:0"

/-- Connects over an adapter of an engine: a bridge begins to listen, and the driver is pointed at
it. -/
def connectOver (d : Driver) (engine : Engine) (u : DatabaseUrl) : Except TunnelError Pool :=
  match d.bridge with
  | .error e => .error (.network bridgeAddress e.message)
  | .ok bridge => open? d (ofUrl bridge engine u)

theorem connectOver_of_listening {d : Driver} {bridge : SocketAddress} (h : d.bridge = .ok bridge)
    (engine : Engine) (u : DatabaseUrl) : connectOver d engine u = open? d (ofUrl bridge engine u) := by
  simp only [connectOver, h]

theorem connectOver_of_deaf {d : Driver} {reason : OsError} (h : d.bridge = .error reason)
    (engine : Engine) (u : DatabaseUrl) :
    connectOver d engine u = .error (.network bridgeAddress reason.message) := by
  simp only [connectOver, h]

/-- What goes wrong over an adapter is never the configuration. -/
theorem kind_of_connectOver_eq_error {d : Driver} {engine : Engine} {u : DatabaseUrl}
    {e : TunnelError} (h : connectOver d engine u = .error e) :
    e.kind = .network ∨ e.kind = .database := by
  unfold connectOver at h
  split at h
  · cases h
    exact Or.inl rfl
  · exact Or.inr (kind_of_open?_eq_error h)

/-- **Connects to a database over the adapter that is registered for the scheme of the URL.** -/
def connect {α : Type} (d : Driver) (engineOf : α → Engine) (r : Registry α) (url : String) :
    Except TunnelError Pool :=
  match DatabaseUrl.read url with
  | .error e => .error e
  | .ok u =>
    match r.resolve u.scheme with
    | none => .error (.notRegistered u.scheme)
    | some adapter => connectOver d (engineOf adapter) u

/-- The report of a connection that came about. -/
def reportConnect (p : Pool) (url : String) : List Event :=
  let identifier := (schemeOf? url).getD ""
  [⟨.info, s!"Connected {p.engine} pool to {p.target} through {identifier}"⟩]

/-- A URL that cannot be read is refused before anything else. -/
theorem connect_of_ofText?_eq_none {α : Type} {url : String}
    (h : DatabaseUrl.ofText? url.toList = none) (d : Driver) (engineOf : α → Engine)
    (r : Registry α) :
    connect d engineOf r url = .error (.invalidUrl (DatabaseUrl.redact url)) := by
  simp [connect, DatabaseUrl.read, h]

/-- The result of a query. -/
def query (d : Driver) (sql : String) : Except TunnelError QueryOutput :=
  match d.query sql with
  | .error e => .error (.sql e)
  | .ok r =>
    match QueryOutput.ofResult r with
    | .error e => .error (.sql e)
    | .ok q => .ok q

theorem kind_of_query_eq_error {d : Driver} {sql : String} {e : TunnelError}
    (h : query d sql = .error e) : e.kind = .database := by
  unfold query at h
  split at h
  · cases h
    rfl
  · split at h
    · cases h
      rfl
    · cases h

end Pool

end JumpHost
