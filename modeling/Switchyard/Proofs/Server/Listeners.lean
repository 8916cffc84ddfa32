/-
  Switchyard.Proofs.Server.Listeners
  ──────────────────────────────────
  The listeners of a server that starts: the plain one goes first and searches
  for its port, the one for TLS needs exactly its own.  A valid configuration
  keeps the two ports apart, but not the search.

      HasKeys        — the certificate and the key of a configuration can be used
      SearchReaches  — the plain search comes up to a port

  Main statements:

      start_takes_tls_port_iff — when the plain listener has the TLS port
      Doubled.tls_dropped      — a start after which TLS is missing
-/
import Switchyard.Proofs.Net.PortSearch
import Switchyard.Proofs.Server.Startup

namespace Switchyard

/-! ## §1. Binding a port. -/

namespace Network

variable {n : Network} {host : String} {port : UInt16} {a : SocketAddress}

/-- A given port is bound if the host is local and the port is not taken. -/
theorem bind_eq_ok_iff (hport : port ≠ 0) :
    n.bind host port = .ok a
      ↔ ∃ ip, n.resolve host = .ok ip ∧ n.isLocal ip = true ∧ a = ⟨ip, port.toNat⟩
        ∧ a ∉ n.taken := by
  -- The host, the address and the port are looked at in this order.
  unfold bind
  cases n.resolve host with
  | error e => simp
  | ok ip =>
      cases hlocal : n.isLocal ip with
      | false => simp [hlocal]
      | true =>
          simp only [Bool.not_true, Bool.false_eq_true, if_false, if_neg hport, Except.ok.injEq,
            exists_eq_left', hlocal, true_and]
          by_cases htaken : (⟨ip, port.toNat⟩ : SocketAddress) ∈ n.taken
          · rw [if_pos htaken]
            refine ⟨fun h => absurd h (by simp), ?_⟩
            rintro ⟨rfl, hfree⟩
            exact absurd htaken hfree
          · rw [if_neg htaken, Except.ok.injEq]
            constructor
            · rintro rfl
              exact ⟨rfl, htaken⟩
            · rintro ⟨rfl, -⟩
              rfl

/-- What can be bound once a socket is taken could be bound before. -/
theorem bind_of_bind_take {b : SocketAddress} (hport : port ≠ 0)
    (h : (n.take b).bind host port = .ok a) : n.bind host port = .ok a := by
  obtain ⟨ip, hip, hlocal, ha, hfree⟩ := (bind_eq_ok_iff hport).mp h
  exact (bind_eq_ok_iff hport).mpr ⟨ip, hip, hlocal, ha, fun h => hfree (List.mem_cons_of_mem _ h)⟩

/-- The socket that is taken cannot; every other one still can. -/
theorem bind_take_eq_ok_iff (hport : port ≠ 0) (h : n.bind host port = .ok a)
    (b : SocketAddress) : (n.take b).bind host port = .ok a ↔ b ≠ a := by
  obtain ⟨ip, hip, hlocal, ha, hfree⟩ := (bind_eq_ok_iff hport).mp h
  have hresolve : (n.take b).resolve host = n.resolve host := rfl
  rw [bind_eq_ok_iff hport]
  constructor
  · rintro ⟨-, -, -, -, hfree'⟩ rfl
    exact hfree' List.mem_cons_self
  · intro hne
    refine ⟨ip, hresolve.trans hip, hlocal, ha, ?_⟩
    simp [take, hfree, Ne.symm hne]

/-- Sockets of one host differ in their ports. -/
theorem eq_iff_port_eq {q : UInt16} {b : SocketAddress} (hport : port ≠ 0) (hq : q ≠ 0)
    (ha : n.bind host port = .ok a) (hb : n.bind host q = .ok b) :
    (a = b ↔ port = q) ∧ (a.port = q.toNat ↔ port = q) := by
  obtain ⟨ip, hip, -, rfl, -⟩ := (bind_eq_ok_iff hport).mp ha
  obtain ⟨ip', hip', -, rfl, -⟩ := (bind_eq_ok_iff hq).mp hb
  obtain rfl : ip = ip' := Except.ok.inj (hip.symm.trans hip')
  refine ⟨?_, UInt16.toNat_inj⟩
  rw [SocketAddress.mk.injEq, UInt16.toNat_inj]
  exact and_iff_right rfl

end Network

/-! ## §2. Binding both listeners. -/

/-- A valid configuration has two ports. -/
theorem Config.IsValid.port_ne_tls_port {c : Config} {tls : TlsConfig} (h : c.IsValid)
    (htls : c.listener.tls = some tls) (hport : tls.port ≠ 0) : c.listener.port ≠ tls.port := by
  intro hsame
  have hcollision : .tlsPortCollision tls.port ∈ c.violations := by
    simp [violations, htls, tlsViolations, violates, hport, hsame]
  rw [show c.violations = [] from h] at hcollision
  exact absurd hcollision List.not_mem_nil

namespace Host

/-- The certificate and the key can be read and used. -/
def HasKeys (h : Host) (fs : FileSystem) (c : TlsConfig) : Prop :=
  ∃ keys, loadKeys h.usableKeys fs c.certPath c.keyPath = .ok keys

theorem bindTls_eq_ok_iff {h : Host} {fs : FileSystem} {name : String} {c : TlsConfig}
    {a : SocketAddress} :
    h.bindTls fs name c = .ok a ↔ h.HasKeys fs c ∧ h.network.bind name c.port = .ok a := by
  unfold bindTls HasKeys
  cases loadKeys h.usableKeys fs c.certPath c.keyPath with
  | error e => simp [Except.mapError, bind, Except.bind]
  | ok keys =>
      cases h.network.bind name c.port with
      | error e => simp [Except.mapError, bind, Except.bind]
      | ok b => simp [Except.mapError, bind, Except.bind]

/-- **The plain listener is bound first**, and TLS is left with the network that
this leaves. -/
theorem of_bindAll_eq_ok {h : Host} {fs : FileSystem} {c : ListenerConfig} {tls : TlsConfig}
    {a : BoundAddresses} {events : List Event} (htls : c.tls = some tls)
    (hall : h.bindAll fs c = .ok (a, events)) :
    Listener.bindFrom (h.network.bind c.host) c.host c.port c.portRetryAttempts = .ok a.plain
      ∧ ∀ address, a.tls = some address
        ↔ h.HasKeys fs tls ∧ (h.network.take a.plain).bind c.host tls.port = .ok address := by
  unfold bindAll at hall
  obtain ⟨plain, hplain, hall⟩ := of_bind_eq_ok hall
  simp only [htls] at hall
  -- That TLS fails is no failure of the start: there is no address for it then.
  cases hbound : ({ h with network := h.network.take plain } : Host).bindTls fs c.host tls with
  | error e =>
      rw [hbound] at hall
      obtain ⟨rfl, -⟩ := Prod.mk.inj (Except.ok.inj hall)
      refine ⟨hplain, fun address => ⟨fun hsome => absurd hsome (by simp), fun hboth => ?_⟩⟩
      exact absurd (hbound.symm.trans (bindTls_eq_ok_iff.mpr hboth)) (by simp)
  | ok b =>
      rw [hbound] at hall
      obtain ⟨rfl, -⟩ := Prod.mk.inj (Except.ok.inj hall)
      obtain ⟨hkeys, hbind⟩ := bindTls_eq_ok_iff.mp hbound
      refine ⟨hplain, fun address => ?_⟩
      rw [show (h.network.take plain).bind c.host tls.port = .ok b from hbind]
      simp [show h.HasKeys fs tls from hkeys]

/-- The plain search begins below a port and comes up to it: the attempts suffice,
and all ports before it are in use. -/
structure SearchReaches (h : Host) (c : ListenerConfig) (port : UInt16) : Prop where
  below : c.port < port
  within : port ≤ Listener.lastPort c.port c.portRetryAttempts
  before : ∀ q, c.port ≤ q → q < port → h.network.bind c.host q = .error .inUse

/-- What a search reaches and can bind is where it stops. -/
theorem searchReaches_iff {h : Host} {c : ListenerConfig} {port : UInt16} {free : SocketAddress}
    (hne : c.port ≠ port) (hfree : h.network.bind c.host port = .ok free) :
    h.SearchReaches c port
      ↔ Listener.StopsAt (h.network.bind c.host) c.port
          (Listener.lastPort c.port c.portRetryAttempts) port := by
  constructor
  · rintro ⟨hbelow, hwithin, hbefore⟩
    refine ⟨UInt16.le_of_lt hbelow, hwithin, ?_, hbefore⟩
    rw [hfree]
    simp
  · rintro ⟨habove, hwithin, -, hbefore⟩
    exact ⟨UInt16.lt_of_le_of_ne habove hne, hwithin, hbefore⟩

/-- **Which port a search takes away**, and with it the socket. -/
theorem takes_iff_searchReaches {h : Host} {c : ListenerConfig} {port : UInt16}
    {plain free : SocketAddress} (hfirst : c.port ≠ 0) (hport : port ≠ 0) (hne : c.port ≠ port)
    (hfree : h.network.bind c.host port = .ok free)
    (hplain : Listener.bindFrom (h.network.bind c.host) c.host c.port c.portRetryAttempts
      = .ok plain) :
    (plain.port = port.toNat ↔ h.SearchReaches c port)
      ∧ (plain = free ↔ h.SearchReaches c port) := by
  obtain ⟨q, hstops, hq⟩ := Listener.stopsAt_of_bindFrom hfirst hplain
  -- The port that is bound lies above the one asked for, so it is a number and not a wish.
  have hq_ne : q ≠ 0 := by
    rintro rfl
    have habove := UInt16.le_iff_toNat_le.mp hstops.above
    exact hfirst (UInt16.toNat_inj.mp (Nat.le_zero.mp habove))
  have hreaches : q = port ↔ h.SearchReaches c port := by
    rw [searchReaches_iff hne hfree]
    constructor
    · rintro rfl
      exact hstops
    · exact hstops.eq
  obtain ⟨hsocket, hnumber⟩ := Network.eq_iff_port_eq hq_ne hport hq hfree
  exact ⟨hnumber.trans hreaches, hsocket.trans hreaches⟩

end Host

/-! ## §3. Starting. -/

namespace Server

variable {α ω : Type}

/-- **The plain listener takes the TLS port exactly if its search comes up to it.**
Let a server start with a valid configuration that names both ports, where the
TLS port could be bound.  The plain listener is on the TLS port if the search
begins below it, the attempts suffice, and all ports before it are in use;
otherwise the TLS port can still be bound.  So there is a TLS listener, on that
port, exactly if the keys can be used and the search does not come up to it. -/
theorem start_takes_tls_port_iff {s s' : Server α ω} {host : Host} {tls : TlsConfig}
    {free : SocketAddress} {a : BoundAddresses} {events : List Event}
    (hvalid : s.context.config.IsValid)
    (htls : s.context.config.listener.tls = some tls)
    (hplain : s.context.config.listener.port ≠ 0) (hport : tls.port ≠ 0)
    (hfree : host.network.bind s.context.config.listener.host tls.port = .ok free)
    (hstart : s.start host = (.ok a, s', events)) :
    (a.plain.port = tls.port.toNat
        ↔ host.SearchReaches s.context.config.listener tls.port)
      ∧ ((host.network.take a.plain).bind s.context.config.listener.host tls.port = .ok free
        ↔ ¬ host.SearchReaches s.context.config.listener tls.port)
      ∧ (a.tls = some free
        ↔ host.HasKeys s.context.files tls
          ∧ ¬ host.SearchReaches s.context.config.listener tls.port)
      ∧ (a.tls = none
        ↔ ¬ host.HasKeys s.context.files tls
          ∨ host.SearchReaches s.context.config.listener tls.port) := by
  obtain ⟨-, warnings, -, hall, -⟩ := of_start_eq_ok hstart
  obtain ⟨hsearch, hbound⟩ := Host.of_bindAll_eq_ok htls hall
  obtain ⟨hnumber, hsocket⟩ := Host.takes_iff_searchReaches hplain hport
    (hvalid.port_ne_tls_port htls hport) hfree hsearch
  have hleft := (Network.bind_take_eq_ok_iff hport hfree a.plain).trans hsocket.not
  have hsome := (hbound free).trans (and_congr_right fun _ => hleft)
  refine ⟨hnumber, hleft, hsome, ?_⟩
  constructor
  · intro hnone
    by_contra hboth
    rw [not_or, not_not] at hboth
    exact absurd (hnone.symm.trans (hsome.mpr hboth)) (by simp)
  · intro hmissing
    cases haddress : a.tls with
    | none => rfl
    | some address =>
        -- Whatever is bound for TLS is what could be bound before.
        obtain ⟨hkeys, hbind⟩ := (hbound address).mp haddress
        have hsame := hfree.symm.trans (Network.bind_of_bind_take hport hbind)
        rw [← Except.ok.inj hsame] at hbind
        exact absurd hmissing (not_or.mpr ⟨not_not.mpr hkeys, hleft.mp hbind⟩)

/-! ## §4. Two ports side by side. -/

namespace Doubled

/-- The TLS port is the one after the plain one. -/
def config : Config where
  listener :=
    { host := "127.0.0.1", port := 8080, tls := some ⟨8081, "cert.pem", "key.pem"⟩ }

def files : FileSystem := (FileSystem.empty.addFile "cert.pem" []).addFile "key.pem" []

def server : Server Unit Unit := new config .empty files ()

/-- A machine where a port is in use, and any keys will do. -/
def machine (port : Nat) : Host where
  network := ⟨fun _ => true, true, [⟨.v4 [127, 0, 0, 1], port⟩]⟩
  usableKeys := fun _ _ => true
  parallelism := 1
  drainsInTime := true
  now := 0

/-- With the plain port free, both listeners have their ports. -/
theorem tls_started :
    ∃ a s events, config.IsValid
      ∧ server.start (machine 8079) = (.ok a, s, events)
      ∧ a.tls = some ⟨.v4 [127, 0, 0, 1], 8081⟩ := by
  have hvalid : config.IsValid := by decide +kernel
  have hok : (server.start (machine 8079)).1.toOption.isSome = true := by decide +kernel
  have hfree : (machine 8079).network.bind "127.0.0.1" 8081
      = .ok ⟨.v4 [127, 0, 0, 1], 8081⟩ := by
    decide +kernel
  have hkeys : (machine 8079).HasKeys files ⟨8081, "cert.pem", "key.pem"⟩ := ⟨([], []), by rfl⟩
  rcases hstart : server.start (machine 8079) with ⟨_ | a, s, events⟩
  · rw [hstart] at hok
    exact absurd hok (by simp [Except.toOption])
  · obtain ⟨-, -, htls, -⟩ :=
      start_takes_tls_port_iff (s := server) hvalid rfl (by decide) (by decide) hfree hstart
    refine ⟨a, s, events, hvalid, rfl, htls.mpr ⟨hkeys, fun hreaches => ?_⟩⟩
    exact absurd (hreaches.before 8080 (by decide) (by decide)) (by decide +kernel)

/-- **With it in use, the plain listener has the TLS port**, which was free, and
there is no TLS. -/
theorem tls_dropped :
    let tls : SocketAddress := ⟨.v4 [127, 0, 0, 1], 8081⟩
    let (started, _, _) := server.start (machine 8080)
    config.IsValid
      ∧ config.listener.tls.map TlsConfig.port = some 8081
      ∧ (machine 8080).network.bind config.listener.host 8081 = .ok tls
      ∧ started = .ok ⟨tls, none⟩
      ∧ ((machine 8080).network.take tls).bind config.listener.host 8081 = .error .inUse := by
  decide +kernel

end Doubled

end Server

end Switchyard
