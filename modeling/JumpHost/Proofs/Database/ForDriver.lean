/-
**The URL for a driver is a database URL.**

The URL for a driver is written by the rules of database URLs, so it is read back into its parts.
Of the URL that it was made from it keeps the userinfo and the rest, to the character; the scheme is
that of the engine, and the host and the port are those of the address.  Nothing else of the first
URL is left in it, so it makes no difference whether a URL for a driver is made from a URL or from
another URL for a driver.

Main results:

* `JumpHost.DatabaseUrl.spells_characters` — the text of an address spells its host and its port;
* `JumpHost.DatabaseUrl.isSplit_forDriver` — the parts of the URL for a driver;
* `JumpHost.DatabaseUrl.ofText?_forDriver` — **the URL for a driver reads back**.
-/

import JumpHost.Proofs.Database.Authority

set_option autoImplicit false

namespace JumpHost

/-! ### Addresses -/

theorem SocketAddress.colon_mem_host (ip : Ipv6) (zone : UInt32) (port : UInt16) :
    ':' ∈ (v6 ip zone port).host :=
  List.mem_append_left _ (Ipv6.colon_mem_text ip)

theorem SocketAddress.host_ne_nil (address : SocketAddress) : address.host ≠ [] := by
  cases address with
  | v4 ip port => exact bracketedHost_ne_nil (.v4 ip port)
  | v6 ip zone port => exact List.ne_nil_of_mem (colon_mem_host ip zone port)

namespace DatabaseUrl

theorem spells_characters (address : SocketAddress) :
    Spells address.host (some address.port) address.characters := by
  have hport := Text.port?_numeral address.port
  cases address with
  | v4 ip port =>
    refine .port (fun hhead => ?_) (SocketAddress.colon_notMem_text ip) hport
    exact SocketAddress.notMem_host (by decide +kernel) (.v4 ip port) (List.mem_of_mem_head? hhead)
  | v6 ip zone port =>
    exact .bracketedPort (SocketAddress.notMem_host (by decide +kernel) _) hport

/-- What is dialed for a host and a port that were taken from an address is the address. -/
theorem target_of_address (address : SocketAddress) (engine : Engine) {u : DatabaseUrl}
    (hhost : u.host = String.ofList address.host) (hport : u.port = some address.port) :
    u.target engine = address.text := by
  apply String.toList_injective
  rw [target, hhost, hport, SocketAddress.text, SocketAddress.characters_eq]
  cases address with
  | v4 ip port =>
    rw [if_neg (by simpa [SocketAddress.host] using SocketAddress.colon_notMem_text ip)]
    simp [SocketAddress.host, SocketAddress.bracketedHost]
  | v6 ip zone port =>
    rw [if_pos (by simpa using SocketAddress.colon_mem_host ip zone port)]
    simp [SocketAddress.bracketedHost]

/-! ### Reading back -/

/-- A URL with the scheme of an engine, and with an address in place of its host and its port. -/
def readdressed (u : DatabaseUrl) (engine : Engine) (address : SocketAddress) : DatabaseUrl :=
  { u with
    scheme := engine.scheme
    host := String.ofList address.host
    port := some address.port }

section Driver

variable {url : List Char} {u : DatabaseUrl} (h : ofText? url = some u) (engine : Engine)
  (address : SocketAddress)
include h

/-- Behind its scheme the URL for a driver is split as the URL that it was made from, with the
address for its host and its port. -/
theorem isSplit_forDriver :
    IsSplit (u.credentials.toList ++ address.characters ++ u.rest.toList)
      (u.readdressed engine address) address.characters := by
  obtain ⟨text, hostPort, hsplit⟩ := isSplit_of_ofText? h
  refine ⟨rfl, ?_, hsplit.rest, ?_, ?_⟩
  · intro c hc
    rcases List.mem_append.1 hc with hc | hc
    · exact hsplit.authority c (List.mem_append_left _ hc)
    · -- what does not end the authority to a driver does not end it here
      have hends := (DriverUrl.of_mem_characters hc).1
      rw [← Bool.not_eq_true, endsAuthority_iff] at hends
      simpa using fun he => hends (Or.inl he)
  · exact fun hc => (DriverUrl.of_mem_characters hc).2.2 rfl
  · simpa [readdressed] using spells_characters address

/-- **The URL for a driver reads back.**  It has the scheme of the engine, the userinfo and the rest
of the URL that it was made from, and the host and the port of the address; what is dialed for it is
the text of the address; and the URLs for drivers that are made from it are those that are made from
the first URL. -/
theorem ofText?_forDriver :
    ∃ v, ofText? (u.forDriver engine address).toList = some v ∧
      v.scheme = engine.scheme ∧ v.userinfo = u.userinfo ∧ v.rest = u.rest ∧
      v.host = String.ofList address.host ∧ v.port = some address.port ∧
      (∀ engine', v.target engine' = address.text) ∧
      ∀ engine' address', v.forDriver engine' address' = u.forDriver engine' address' := by
  obtain ⟨hne, hscheme⟩ := toList_scheme engine
  have hcolon : ':' ∉ engine.scheme.toList := fun hc => (hscheme _ hc).1 rfl
  have hcut := cut_schemeMark (not_infix_of_colon hcolon)
    (u.credentials.toList ++ address.characters ++ u.rest.toList)
  have hread : ofText? (u.forDriver engine address).toList =
      some (u.readdressed engine address) := by
    rw [toList_forDriver, List.append_assoc (engine.scheme.toList ++ schemeMark),
      ofText?_of_cut hcut hne, ofRemainder?_eq_some_iff]
    refine ⟨by simp [readdressed], ?_, _, isSplit_forDriver h engine address⟩
    simpa [readdressed] using address.host_ne_nil
  refine ⟨_, hread, rfl, rfl, rfl, rfl, rfl, ?_, fun _ _ => rfl⟩
  exact fun engine' => target_of_address address engine' rfl rfl

end Driver

/-- A userinfo with separators and a rest with a mark of a scheme come back behind an address of the
long form, with its zone. -/
theorem ofText?_forDriver_zone :
    let address : SocketAddress := .v6 ⟨0xfe80, 0, 0, 0, 0, 0, 0, 1⟩ 3 40001
    ∃ u, ofText? "mysql+tcp://a:b@[c]@db.internal?to=x://y@z".toList = some u ∧
      u.forDriver .postgres address = "postgres://a:b@[c]@[fe80::1%3]:40001?to=x://y@z" ∧
      ∃ v, ofText? (u.forDriver .postgres address).toList = some v ∧
        v.userinfo = some "a:b@[c]" ∧ v.rest = "?to=x://y@z" ∧
        v.target .mysql = "[fe80::1%3]:40001" := by
  intro address
  have hread : ofText? "mysql+tcp://a:b@[c]@db.internal?to=x://y@z".toList =
      some ⟨"mysql+tcp", some "a:b@[c]", "db.internal", none, "?to=x://y@z"⟩ := by
    decide +kernel
  obtain ⟨v, hv, -, huser, hrest, -, -, htarget, -⟩ := ofText?_forDriver hread .postgres address
  refine ⟨_, hread, by decide +kernel, v, hv, huser, hrest, (htarget .mysql).trans ?_⟩
  decide +kernel

end DatabaseUrl

end JumpHost
