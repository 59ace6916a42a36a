/-
**One query through a tunnel.**

A query opens a tunnel on a registry of its own, connects a driver through it, and closes both
again.  The driver knows tunnels by identifier only, so the URL of the configuration is spelled with
the identifier of the tunnel in place of its scheme.

Main definitions:

* `JumpHost.Config.tunneledUrl` — the URL with the identifier of a tunnel;
* `JumpHost.Query`, `JumpHost.Query.run` — a query and what comes of it.

Main statements:

* `JumpHost.Query.run_of_validate` — a configuration that is refused leads to no act at all.
-/

import JumpHost.Database.Connect
import JumpHost.Tunnel.Basic

set_option autoImplicit false

namespace JumpHost

/-- The URL of a configuration with the identifier of a tunnel in place of its scheme. -/
def Config.tunneledUrl (c : Config) (identifier : String) :
    Except TunnelError String :=
  match Text.cut schemeMark c.dbUrl.toList with
  | some (_, rest) => .ok (identifier ++ "://" ++ String.ofList rest)
  | none => .error (.invalidUrl c.dbUrl)

/-- A query and what it needs. -/
structure Query where
  outside : Outside
  driver : Driver
  config : Config
  sql : String

namespace Query

/-- The result of the query over a registry on which a tunnel was opened, and what is reported
before it. -/
def output (q : Query) (b : Switchboard) (url : String) :
    Except TunnelError QueryOutput × List Event :=
  match Pool.connect q.driver Adapter.engine b.registry url with
  | .error e => (.error e, [])
  | .ok pool => (Pool.query q.driver q.sql, pool.reportConnect url)

/-- The query over a tunnel that was opened, which is closed again. -/
def overTunnel (q : Query) (opening : Tunnel.Opening) (tunnel : Tunnel) :
    Establishment QueryOutput :=
  let opened := opening.attempt
  match q.config.tunneledUrl tunnel.identifier with
  | .error e => ⟨.error e, opened.files, opened.events, opened.acts⟩
  | .ok url =>
    let (result, events) := q.output opening.board url
    ⟨result, opened.files,
      opened.events ++ events ++ tunnel.reportClose (tunnel.unbind opening.board), opened.acts⟩

/-- **Runs a query.** -/
def run (q : Query) (t : FileTree) : Establishment QueryOutput :=
  let opening := Tunnel.establish q.outside q.config t {}
  match opening.attempt.result with
  | .error e => ⟨.error e, opening.attempt.files, opening.attempt.events, opening.attempt.acts⟩
  | .ok tunnel => q.overTunnel opening tunnel

theorem run_of_validate {q : Query} {e : ConfigError} (h : q.config.validate = .error e)
    (t : FileTree) : q.run t = ⟨.error (.config e), t, [], []⟩ := by
  simp [run, Tunnel.establish_of_validate h]

end Query

end JumpHost
