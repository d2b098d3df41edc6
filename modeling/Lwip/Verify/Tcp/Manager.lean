import Mathlib.Data.FinEnum
import Lwip.Tcp.Manager
import Lwip.Verify.Tcp.Step

/-! Runs of a `TCPManager` together with the connections it hands out. The search for a local
port ends exactly when there is a port to find (`allocateLocalPort_isSome_iff`). A connection
made by `create_connection` is never entered in the table, so no call of
`find_or_create_connection` ever gives it back (`created_not_routed`). -/

namespace Lwip

open Registry (Later)

namespace TCPManager

variable {m m' m'' : TCPManager}

/-! ## Local ports -/

/-- The values that `next_port_` takes. -/
def PortValue (port : UInt16) : Prop := port = 0 ∨ 1024 ≤ port

theorem toNat_portValue {port : UInt16} :
    PortValue port ↔ port.toNat = 0 ∨ 1024 ≤ port.toNat := by
  rw [PortValue, ← UInt16.toNat_inj, UInt16.le_iff_toNat_le]
  rfl

/-- What a turn leaves in `next_port_` after looking at `port`. -/
def portAfter (port : UInt16) : UInt16 := if port < 1024 then 1024 else port + 1

theorem toNat_portAfter {port : UInt16} (h : PortValue port) :
    (portAfter port).toNat =
      if port.toNat = 0 then 1024 else if port.toNat = 65535 then 0 else port.toNat + 1 := by
  rw [toNat_portValue] at h
  have hlt := port.toNat_lt
  rw [portAfter]
  split
  · rename_i low
    rw [UInt16.lt_iff_toNat_lt] at low
    have low : port.toNat < 1024 := low
    rw [if_pos (by omega)]
    rfl
  · rename_i high
    rw [UInt16.lt_iff_toNat_lt] at high
    have high : ¬ port.toNat < 1024 := high
    rw [if_neg (by omega), UInt16.toNat_add]
    change (port.toNat + 1) % 65536 = _
    split <;> omega

theorem PortValue.after {port : UInt16} (h : PortValue port) : PortValue (portAfter port) := by
  have hval := toNat_portAfter h
  rw [toNat_portValue] at h ⊢
  split at hval
  · omega
  · split at hval <;> omega

theorem allocateTurn_eq (m : TCPManager) (port : UInt16) : m.allocateTurn port =
    if m.used port then .again (portAfter port) else .done (port, portAfter port) := rfl

theorem allocateTurn_again {port port' : UInt16} (hb : m.allocateTurn port = .again port') :
    m.used port = true ∧ port' = portAfter port := by
  rw [allocateTurn_eq] at hb
  split at hb <;> cases hb
  exact ⟨‹_›, rfl⟩

theorem allocateTurn_done {port : UInt16} {r : UInt16 × UInt16}
    (hb : m.allocateTurn port = .done r) : m.used port = false ∧ r = (port, portAfter port) := by
  rw [allocateTurn_eq] at hb
  split at hb <;> cases hb
  exact ⟨Bool.eq_false_iff.mpr ‹_›, rfl⟩

theorem PortValue.turn {port port' : UInt16} (h : PortValue port)
    (hb : m.allocateTurn port = .again port') : PortValue port' := by
  obtain ⟨-, rfl⟩ := allocateTurn_again hb
  exact h.after

/-- The number of turns from one value of `next_port_` to another. -/
def portDistance (target port : UInt16) : Nat :=
  let place (n : Nat) := if n = 0 then 64512 else n - 1024
  (place target.toNat + 64513 - place port.toNat) % 64513

theorem portDistance_after {target port : UInt16} (h : PortValue port) (ht : PortValue target)
    (ne : port ≠ target) : portDistance target (portAfter port) < portDistance target port := by
  have hval := toNat_portAfter h
  have hne : port.toNat ≠ target.toNat := fun eq => ne (UInt16.toNat_inj.mp eq)
  have := port.toNat_lt
  have := target.toNat_lt
  rw [toNat_portValue] at h ht
  unfold portDistance
  -- the places of `port` and its successor are adjacent, and only that of `target` is 0
  split at hval
  · rw [hval]
    dsimp only
    split_ifs <;> first | contradiction | omega
  · split at hval <;> rw [hval] <;> dsimp only <;> split_ifs <;> first | contradiction | omega

/-- The search finds a port as long as there is one. -/
theorem allocateLocalPort_isSome_iff (h : PortValue m.nextPort) :
    m.allocateLocalPort.isSome ↔ ∃ port, PortValue port ∧ m.used port = false := by
  simp only [allocateLocalPort, Option.isSome_map]
  refine ⟨fun found => ?_, fun ⟨target, ht, free⟩ => ?_⟩
  · obtain ⟨r, hr⟩ := Option.isSome_iff_exists.mp found
    obtain ⟨port, hport, hdone⟩ := Loop.run_invariant PortValue (fun _ _ => PortValue.turn) h hr
    exact ⟨port, hport, (allocateTurn_done hdone).1⟩
  · have near : portDistance target m.nextPort < UInt16.size :=
      lt_of_lt_of_le (Nat.mod_lt _ (by decide)) (by decide)
    have turn : ∀ port, PortValue port →
        (∃ port', m.allocateTurn port = .again port' ∧ PortValue port' ∧
          portDistance target port' < portDistance target port) ∨
        ∃ r, m.allocateTurn port = .done r ∧ True := by
      intro port hport
      rw [allocateTurn_eq]
      cases hused : m.used port with
      | true =>
        have ne : port ≠ target := fun eq => by simp [eq, free] at hused
        exact .inl ⟨portAfter port, rfl, hport.after, portDistance_after hport ht ne⟩
      | false => exact .inr ⟨(port, portAfter port), rfl, trivial⟩
    obtain ⟨r, hr, -⟩ := Loop.run_total PortValue (fun _ => True) (portDistance target) turn h near
    rw [hr]
    rfl

/-- A search that has not ended within the bound of `allocateLocalPort` never ends. -/
theorem allocateLocalPort_eq_none (h : m.allocateLocalPort = none) (fuel : Nat) :
    Loop.run m.allocateTurn fuel m.nextPort = none := by
  have hcard : Fintype.card UInt16 = UInt16.size := FinEnum.card_eq_fintypeCard.symm
  apply Loop.run_eq_none_of_card
  rw [hcard]
  exact Option.map_eq_none_iff.mp h

theorem allocateLocalPort_frame {port : UInt16} (h : m.allocateLocalPort = some (port, m')) :
    ∃ nextPort, m' = { m with nextPort } ∧ m.used port = false ∧
      (PortValue m.nextPort → PortValue nextPort) := by
  obtain ⟨⟨_, nextPort⟩, hr, eq⟩ := Option.map_eq_some_iff.mp h
  cases eq
  obtain ⟨port', hport, hdone⟩ := Loop.run_invariant
    (fun next => PortValue m.nextPort → PortValue next)
    (fun _ _ value turn start => (value start).turn turn) id hr
  obtain ⟨unused, eq⟩ := allocateTurn_done hdone
  cases eq
  exact ⟨_, rfl, unused, fun start => (hport start).after⟩

/-! ## Steps -/

/-- The calls on the manager and on its connections; `ret` is the value returned. -/
inductive Event where
  | create (isn : UInt32) (ret : Option ConnRef)
  | findOrCreate (isn remoteIp : UInt32) (remotePort : UInt16) (ret : Option ConnRef)
  | remove (remoteIp : UInt32) (remotePort : UInt16)
  | cleanup (now : ConnKey → Time)
  | setMax (max : Nat)
  | call (r : ConnRef) (op : TCPConnection.Op) (sent : List TCPPacket)

inductive Step : TCPManager → Event → TCPManager → Prop where
  | create {m m' : TCPManager} {isn : UInt32} {ret : Option ConnRef}
      (returns : m.createConnection isn = some (ret, m')) : Step m (.create isn ret) m'
  | findOrCreate {m m' : TCPManager} {isn remoteIp : UInt32} {remotePort : UInt16}
      {ret : Option ConnRef}
      (returns : m.findOrCreateConnection isn remoteIp remotePort = some (ret, m')) :
      Step m (.findOrCreate isn remoteIp remotePort ret) m'
  | remove {m : TCPManager} (remoteIp : UInt32) (remotePort : UInt16) :
      Step m (.remove remoteIp remotePort) (m.removeConnection remoteIp remotePort)
  | cleanup {m : TCPManager} (now : ConnKey → Time) :
      Step m (.cleanup now) (m.cleanupTimeoutConnections now)
  | setMax {m : TCPManager} (max : Nat) : Step m (.setMax max) (m.setMaxConnections max)
  | call {m : TCPManager} {r : ConnRef} {c c' : TCPConnection} {op : TCPConnection.Op}
      {sent : List TCPPacket} (held : m.connections.get? r = some c)
      (returns : c.exec op = some (c', sent)) :
      Step m (.call r op sent) { m with connections := m.connections.set r c' }

theorem createConnection_cases {isn : UInt32} {ret : Option ConnRef}
    (h : m.createConnection isn = some (ret, m')) :
    (maxConnectionsLimit ≤ m.connections.size ∧ ret = none ∧ m' = m) ∨
    (m.connections.size < maxConnectionsLimit ∧
      ∃ port nextPort, ret = some m.connections.next ∧
        m' = { m with
          connections := m.connections.make (freshConnection isn port)
          nextPort } ∧ (PortValue m.nextPort → PortValue nextPort) ∧
        m.allocateLocalPort = some (port, { m with nextPort })) := by
  rw [createConnection] at h
  split at h
  · rename_i full
    cases h
    exact .inl ⟨full, rfl, rfl⟩
  · rename_i room
    obtain ⟨⟨port, m₁⟩, halloc, eq⟩ := Option.map_eq_some_iff.mp h
    obtain ⟨nextPort, rfl, -, value⟩ := allocateLocalPort_frame halloc
    cases eq
    exact .inr ⟨Nat.lt_of_not_le room, port, nextPort, rfl, rfl, value, halloc⟩

/-- The connection found, a new one under the key, or none when the table is full. -/
theorem findOrCreateConnection_cases {isn remoteIp : UInt32} {remotePort : UInt16}
    {ret : Option ConnRef}
    (h : m.findOrCreateConnection isn remoteIp remotePort = some (ret, m')) :
    (∃ r, m.connections.find? (remoteIp, remotePort) = some r ∧ ret = some r ∧ m' = m) ∨
    (m.connections.find? (remoteIp, remotePort) = none ∧ m.maxConnections ≤ m.connections.size ∧
      ret = none ∧ m' = m) ∨
    (m.connections.find? (remoteIp, remotePort) = none ∧ m.connections.size < m.maxConnections ∧
      ∃ port nextPort, ret = some m.connections.next ∧
        m' = { m with
          connections := m.connections.insertNew (remoteIp, remotePort) (freshConnection isn port)
          nextPort } ∧ m.used port = false ∧ (PortValue m.nextPort → PortValue nextPort) ∧
        m.allocateLocalPort = some (port, { m with nextPort })) := by
  rw [findOrCreateConnection] at h
  split at h
  · rename_i r hr
    cases h
    exact .inl ⟨r, hr, rfl, rfl⟩
  · rename_i hr
    split at h
    · rename_i room
      obtain ⟨⟨port, m₁⟩, halloc, eq⟩ := Option.map_eq_some_iff.mp h
      obtain ⟨nextPort, rfl, unused, value⟩ := allocateLocalPort_frame halloc
      cases eq
      exact .inr (.inr ⟨hr, room, port, nextPort, rfl, rfl, unused, value, halloc⟩)
    · rename_i full
      cases h
      exact .inr (.inl ⟨hr, Nat.le_of_not_lt full, rfl, rfl⟩)

/-- The reference that `find_or_create_connection` gives is the one then listed under the key. -/
theorem findOrCreateConnection_listed {isn remoteIp : UInt32} {remotePort : UInt16} {r : ConnRef}
    (h : m.findOrCreateConnection isn remoteIp remotePort = some (some r, m')) :
    m'.connections.find? (remoteIp, remotePort) = some r := by
  rcases findOrCreateConnection_cases h with ⟨r', hr, eq, rfl⟩ | ⟨-, -, eq, -⟩ |
    ⟨-, -, port, nextPort, eq, rfl, -⟩
  · cases eq
    exact hr
  · cases eq
  · cases eq
    rw [Registry.find?_insertNew, if_pos rfl]

/-- The connection that `find_or_create_connection` gives is one there was or a new one, and it
leaves those there were as they are. -/
theorem findOrCreateConnection_objects {isn remoteIp : UInt32} {remotePort : UInt16} {r : ConnRef}
    (h : m.findOrCreateConnection isn remoteIp remotePort = some (some r, m')) :
    (∃ conn, m'.connections.get? r = some conn ∧ (m.connections.get? r = some conn ∨
      (r = m.connections.next ∧ ∃ port, conn = freshConnection isn port))) ∧
    ∀ r' < m.connections.next, m'.connections.get? r' = m.connections.get? r' := by
  rcases findOrCreateConnection_cases h with ⟨r', hr, eq, rfl⟩ | ⟨-, -, eq, -⟩ |
    ⟨-, -, port, nextPort, eq, rfl, -⟩
  · cases eq
    obtain ⟨conn, held⟩ := Registry.exists_get? (Registry.lt_next hr)
    exact ⟨⟨conn, held, .inl held⟩, fun _ _ => rfl⟩
  · cases eq
  · cases eq
    exact ⟨⟨_, Registry.get?_insertNew_next, .inr ⟨rfl, port, rfl⟩⟩,
      fun _ lt => Registry.get?_insertNew_of_lt lt⟩

/-- A connection is found or made for a peer exactly when there is one, or there is room in the
table and a port for it. -/
theorem findOrCreateConnection_some_iff (h : PortValue m.nextPort) (isn remoteIp : UInt32)
    (remotePort : UInt16) :
    (∃ r m', m.findOrCreateConnection isn remoteIp remotePort = some (some r, m')) ↔
      (m.connections.find? (remoteIp, remotePort)).isSome ∨
      (m.connections.size < m.maxConnections ∧ ∃ port, PortValue port ∧ m.used port = false) := by
  rw [← allocateLocalPort_isSome_iff h]
  rw [findOrCreateConnection]
  cases m.connections.find? (remoteIp, remotePort) with
  | some r => simp
  | none =>
    by_cases room : m.connections.size < m.maxConnections
    · cases m.allocateLocalPort <;> simp [room]
    · simp [room]

/-- The outcomes of a call that returns. -/
inductive Effect (m : TCPManager) : Event → TCPManager → Prop where
  | full {isn : UInt32} (full : maxConnectionsLimit ≤ m.connections.size) :
    Effect m (.create isn none) m
  | made {isn : UInt32} {port nextPort : UInt16} (room : m.connections.size < maxConnectionsLimit)
      (value : PortValue m.nextPort → PortValue nextPort) :
    Effect m (.create isn (some m.connections.next)) { m with
      connections := m.connections.make (freshConnection isn port)
      nextPort }
  | found {isn remoteIp : UInt32} {remotePort : UInt16} {r : ConnRef}
      (found : m.connections.find? (remoteIp, remotePort) = some r) :
    Effect m (.findOrCreate isn remoteIp remotePort (some r)) m
  | refused {isn remoteIp : UInt32} {remotePort : UInt16}
      (absent : m.connections.find? (remoteIp, remotePort) = none)
      (full : m.maxConnections ≤ m.connections.size) :
    Effect m (.findOrCreate isn remoteIp remotePort none) m
  | entered {isn remoteIp : UInt32} {remotePort port nextPort : UInt16}
      (absent : m.connections.find? (remoteIp, remotePort) = none)
      (room : m.connections.size < m.maxConnections) (unused : m.used port = false)
      (value : PortValue m.nextPort → PortValue nextPort) :
    Effect m (.findOrCreate isn remoteIp remotePort (some m.connections.next)) { m with
      connections := m.connections.insertNew (remoteIp, remotePort) (freshConnection isn port)
      nextPort }
  | removed (remoteIp : UInt32) (remotePort : UInt16) :
    Effect m (.remove remoteIp remotePort) (m.removeConnection remoteIp remotePort)
  | cleaned (now : ConnKey → Time) : Effect m (.cleanup now) (m.cleanupTimeoutConnections now)
  | limited (max : Nat) : Effect m (.setMax max) (m.setMaxConnections max)
  | called {r : ConnRef} {c c' : TCPConnection} {op : TCPConnection.Op} {sent : List TCPPacket}
      (held : m.connections.get? r = some c) (step : TCPConnection.Step c (op, sent) c') :
    Effect m (.call r op sent) { m with connections := m.connections.set r c' }

theorem Step.effect {e : Event} (h : Step m e m') : Effect m e m' := by
  cases h with
  | create returns =>
    rcases createConnection_cases returns with ⟨full, rfl, rfl⟩ |
      ⟨room, port, nextPort, rfl, rfl, value, -⟩
    · exact .full full
    · exact .made room value
  | findOrCreate returns =>
    rcases findOrCreateConnection_cases returns with ⟨r, found, rfl, rfl⟩ |
      ⟨absent, full, rfl, rfl⟩ | ⟨absent, room, port, nextPort, rfl, rfl, unused, value, -⟩
    · exact .found found
    · exact .refused absent full
    · exact .entered absent room unused value
  | remove => exact .removed _ _
  | cleanup now => exact .cleaned now
  | setMax max => exact .limited max
  | call held returns => exact .called held returns

theorem Step.portValue {e : Event} (h : Step m e m') (start : PortValue m.nextPort) :
    PortValue m'.nextPort := by
  cases h.effect with
  | made _ value | entered _ _ _ value => exact value start
  | full | found | refused | removed | cleaned | limited | called => exact start

theorem Step.later {e : Event} (h : Step m e m') : Later m.connections m'.connections := by
  cases h.effect with
  | full | found | refused | limited => exact .refl _
  | made => exact Registry.later_make
  | entered => exact Registry.later_insertNew
  | removed => exact Registry.later_erase
  | cleaned now =>
    exact m.connections.later_filter fun key conn =>
      !conn.any (TCPConnection.isTimeout · (now key))
  | called => exact Registry.later_set

theorem run_later {es : List Event} (h : Run Step m es m') : Later m.connections m'.connections :=
  h.invariant (fun t => Later m.connections t.connections) (Later.refl _)
    fun _ _ _ ht hs => ht.trans hs.later

/-! ## Routing -/

/-- An incoming segment from the peer `(remoteIp, remotePort)` is given to the connection `r`. -/
def RoutesTo (m : TCPManager) (isn remoteIp : UInt32) (remotePort : UInt16) (r : ConnRef) : Prop :=
  ∃ m', m.findOrCreateConnection isn remoteIp remotePort = some (some r, m')

/-- Whatever happens after `create_connection`, the connect of the connection it returned
included, no peer is ever routed to that connection: the table does not know it. -/
theorem created_not_routed {isn : UInt32} {r : ConnRef} {es : List Event}
    (created : Step m (.create isn (some r)) m') (run : Run Step m' es m'') (isn' remoteIp : UInt32)
    (remotePort : UInt16) : ¬ RoutesTo m'' isn' remoteIp remotePort r := by
  intro ⟨m₃, returns⟩
  have later : Later m'.connections m₃.connections :=
    (run_later run).trans (Step.findOrCreate returns).later
  cases created.effect with
  | made =>
    refine later.not_listed (by simp [Registry.next, Registry.make]) (fun k hk => ?_) _
      (findOrCreateConnection_listed returns)
    rw [Registry.find?_make] at hk
    exact absurd (Registry.lt_next hk) (Nat.lt_irrefl _)

theorem created_not_routed_new : ∃ m₁ m₂ sent,
    Step .new (.create 7 (some 0)) m₁ ∧
    Step m₁ (.call 0 (.connect 0x0100007F 80 true) sent) m₂ ∧
    ¬ RoutesTo m₂ 8 0x0100007F 80 0 := by
  let c := freshConnection 7 1024
  let m₁ : TCPManager := { new with connections := new.connections.make c, nextPort := 1025 }
  let m₂ := { m₁ with connections := m₁.connections.set 0 (c.connect 0x0100007F 80 true).conn }
  have created : Step .new (.create 7 (some 0)) m₁ := .create rfl
  have connected : Step m₁ (.call 0 (.connect 0x0100007F 80 true) [c.synPacket 80]) m₂ :=
    .call rfl rfl
  exact ⟨m₁, m₂, _, created, connected,
    created_not_routed created (.single connected) 8 0x0100007F 80⟩

/-- The peer's SYN-ACK goes to a connection of its own, not to the one that sent the SYN. -/
theorem syn_ack_elsewhere : ∃ m₁ m₂ m₃ c,
    Step .new (.create 7 (some 0)) m₁ ∧
    m₁.connections.get? 0 = some c ∧ (c.connect 0x0100007F 80 true).ret = true ∧
    Step m₁ (.call 0 (.connect 0x0100007F 80 true) [c.synPacket 80]) m₂ ∧
    Step m₂ (.findOrCreate 8 0x0100007F 80 (some 1)) m₃ ∧
    ¬ RoutesTo m₂ 8 0x0100007F 80 0 := by
  refine ⟨_, _, _, _, .create rfl, rfl, rfl, .call rfl rfl, .findOrCreate rfl, ?_⟩
  intro ⟨m, returns⟩
  have ret := congrArg (Option.map Prod.fst) returns
  cases ret

end TCPManager

end Lwip
