/-
**Bridges.**

A driver only knows how to connect to a host and a port.  It is pointed at a bridge, which listens
on the machine itself, and every connection that the bridge accepts is one dial of its adapter, to
the address that the URL names.

Main definitions:

* `JumpHost.Bridge`, `JumpHost.Bridge.ofUrl` — a bridge, and that of a URL;
* `JumpHost.Bridge.accept` — what comes of a connection.

Main statements:

* `JumpHost.Pool.connect_of_bridge` — connecting a driver by a URL takes the bridge of the URL.
-/

import JumpHost.Database.Connect
import JumpHost.Tunnel.Basic

set_option autoImplicit false

namespace JumpHost

/-- A bridge on the machine itself. -/
structure Bridge where
  adapter : Adapter
  /-- The address that the adapter dials. -/
  target : String
  deriving DecidableEq

namespace Bridge

/-- The bridge of a URL, over the adapter that is registered for the scheme of the URL. -/
def ofUrl (r : Registry Adapter) (url : String) : Except TunnelError Bridge :=
  match DatabaseUrl.read url with
  | .error e => .error e
  | .ok u =>
    match r.resolve u.scheme with
    | none => .error (.notRegistered u.scheme)
    | some adapter => .ok ⟨adapter, u.target adapter.engine⟩

/-- A connection to the bridge becomes a dial over the session of its adapter. -/
def accept (bridge : Bridge) (b : Switchboard) : Switchboard :=
  b.onSession bridge.adapter.session (·.dial bridge.target)

end Bridge

/-- Connecting a driver by a URL takes the bridge of the URL. -/
theorem Pool.connect_of_bridge {r : Registry Adapter} {url : String} {bridge : Bridge}
    (h : Bridge.ofUrl r url = .ok bridge) (d : Driver) :
    ∃ u, DatabaseUrl.read url = .ok u ∧
      bridge.target = u.target bridge.adapter.engine ∧
      Pool.connect d Adapter.engine r url = Pool.connectOver d bridge.adapter.engine u := by
  unfold Bridge.ofUrl at h
  unfold Pool.connect
  cases hu : DatabaseUrl.read url with
  | error _ =>
    rw [hu] at h
    cases h
  | ok u =>
    rw [hu] at h
    dsimp only at h
    refine ⟨u, rfl, ?_⟩
    cases ha : r.resolve u.scheme with
    | none =>
      rw [ha] at h
      cases h
    | some adapter =>
      rw [ha] at h
      cases h
      simp only [ha, and_self]

end JumpHost
