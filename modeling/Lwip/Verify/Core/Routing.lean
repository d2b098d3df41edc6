import Lwip.Verify.Core.Bounds
import Lwip.Verify.Tcp.Manager

/-! To which connection an incoming segment goes. The handler takes bytes 16 to 19 of the frame
for the source address; they are the destination address. So a segment reaches the connection of
the peer it came from exactly when the two addresses are the same (`delivers_iff`), and segments
of two peers are only kept apart by what they are addressed to. -/

namespace Lwip

open Registry (Later)

theorem bind_eq_ok {α β : Type} {x : Except Fault α} {f : α → Except Fault β} {b : β}
    (h : x >>= f = .ok b) : ∃ a, x = .ok a ∧ f a = .ok b := by
  cases x with
  | error e => cases h
  | ok a => exact ⟨a, rfl, h⟩

namespace StackManager

variable {host : Endian} {s s' : StackManager} {packet : Bytes} {now : Time} {isn : UInt32}

/-! ## Sending -/

theorem sendPacket_tcpManager (h : s.sendPacket packet = .ok s') :
    s'.tcpManager = s.tcpManager := by
  rw [sendPacket] at h
  split at h <;> cases h
  rfl

/-- What each `send_packet` preserves, the segments of a call preserve. -/
theorem sendAll_invariant (Inv : StackManager → Prop)
    (keep : ∀ t packet t', Inv t → sendPacket t packet = .ok t' → Inv t')
    {sent : List TCPPacket} (start : Inv s) (h : sendAll host s sent = .ok s') : Inv s' := by
  induction sent generalizing s with
  | nil =>
    cases h
    exact start
  | cons p sent ih =>
    rw [sendAll, List.foldlM_cons] at h
    obtain ⟨mid, hmid, hrest⟩ := bind_eq_ok h
    exact ih (keep s _ mid start hmid) hrest

theorem sendAll_tcpManager {sent : List TCPPacket} (h : sendAll host s sent = .ok s') :
    s'.tcpManager = s.tcpManager :=
  sendAll_invariant (fun t => t.tcpManager = s.tcpManager)
    (fun _ _ _ ht hs => (sendPacket_tcpManager hs).trans ht) rfl h

/-- With an interface, sending does not fail. -/
theorem sendAll_ok (up : s.interface.isSome) (sent : List TCPPacket) :
    ∃ s', sendAll host s sent = .ok s' := by
  induction sent generalizing s with
  | nil => exact ⟨s, rfl⟩
  | cons p sent ih =>
    obtain ⟨interface, hi⟩ := Option.isSome_iff_exists.mp up
    rw [sendAll, List.foldlM_cons, sendPacket, hi]
    exact ih rfl

/-! ## One segment -/

/-- The registry of connections. -/
abbrev conns (s : StackManager) : Registry ConnKey TCPConnection := s.tcpManager.connections

theorem deliver_conns {r : ConnRef} {conn : TCPConnection} {tcp : TCPPacket}
    (held : s.conns.get? r = some conn) (h : deliver host s r now tcp = .ok s') :
    s'.tcpManager = { s.tcpManager with
      connections := s.conns.set r (conn.handlePacket now tcp).conn } := by
  rw [deliver, held] at h
  exact sendAll_tcpManager h

theorem deliver_ok (host : Endian) (now : Time) (up : s.interface.isSome) (r : ConnRef)
    (tcp : TCPPacket) : ∃ s', deliver host s r now tcp = .ok s' := by
  rw [deliver]
  split
  · refine sendAll_ok ?_ _
    exact up
  · exact ⟨s, rfl⟩

def sourceAddress (packet : Bytes) : UInt32 :=
  be32 (packet.getD 12 0) (packet.getD 13 0) (packet.getD 14 0) (packet.getD 15 0)

def destinationAddress (packet : Bytes) : UInt32 :=
  be32 (packet.getD 16 0) (packet.getD 17 0) (packet.getD 18 0) (packet.getD 19 0)

def sourcePort (packet : Bytes) : UInt16 :=
  be16 (packet.getD (headerLen packet) 0) (packet.getD (headerLen packet + 1) 0)

/-- The segment that the handler parses from a frame. -/
def segment (host : Endian) (packet : Bytes) : TCPPacket :=
  (TCPPacket.new.parse host (packet.drop (headerLen packet))).2

/-- A frame with an IPv4 header of the length it states and a TCP header behind it. -/
structure TcpFrame (packet : Bytes) : Prop where
  header : 20 ≤ headerLen packet
  length : headerLen packet + 20 ≤ packet.length

theorem parse_segment (length : headerLen packet + 20 ≤ packet.length) (host : Endian) :
    TCPPacket.new.parse host (packet.drop (headerLen packet)) = (true, segment host packet) ∧
      (segment host packet).getSourcePort = sourcePort packet := by
  have len : ¬ (packet.drop (headerLen packet)).length < TCPHeader.size := by
    rw [List.length_drop, TCPHeader.size]
    omega
  have port : (TCPHeader.ofMem host (packet.drop (headerLen packet))).sourcePort =
      host.word16 (packet.getD (headerLen packet) 0) (packet.getD (headerLen packet + 1) 0) := by
    simp [TCPHeader.ofMem, Endian.load16, List.getD_eq_getElem?_getD]
  unfold segment TCPPacket.parse
  rw [if_neg len]
  dsimp only
  split <;>
    exact ⟨rfl, by rw [TCPPacket.getSourcePort]; dsimp only; rw [port, Endian.ntohs_word16]; rfl⟩

/-- What the handler does with a frame that has a TCP header where it says: the address it looks
up is the destination address. -/
theorem handleTcpPacket_segment (bytes : 20 ≤ packet.length)
    (length : headerLen packet + 20 ≤ packet.length) :
    handleTcpPacket host s now isn packet =
      match s.tcpManager.findOrCreateConnection isn (destinationAddress packet)
        (sourcePort packet) with
      | none => .error .noReturn
      | some (none, tcpManager) => .ok (none, { s with tcpManager })
      | some (some r, tcpManager) =>
        deliver host { s with tcpManager } r now (segment host packet) >>= fun s =>
          .ok (some r, s) := by
  obtain ⟨parsed, port⟩ := parse_segment length host
  rw [handleTcpPacket]
  rw [access_ipHeaderLen.1 (by omega), ok_bind, access_sliceFrom.1 (by omega), ok_bind, parsed]
  simp only [Bool.not_true, Bool.false_eq_true, if_false]
  rw [access_addressWord.1 (by omega), ok_bind, Endian.ntohl_word32, port]
  rw [destinationAddress]
  generalize be32 _ _ _ _ = address
  rcases s.tcpManager.findOrCreateConnection isn address (sourcePort packet) with
    _ | ⟨_ | r, m⟩ <;> rfl

theorem handleTcpPacket_eq (frame : TcpFrame packet) :
    handleTcpPacket host s now isn packet =
      match s.tcpManager.findOrCreateConnection isn (destinationAddress packet)
        (sourcePort packet) with
      | none => .error .noReturn
      | some (none, tcpManager) => .ok (none, { s with tcpManager })
      | some (some r, tcpManager) =>
        deliver host { s with tcpManager } r now (segment host packet) >>= fun s =>
          .ok (some r, s) := by
  have head := frame.header
  have length := frame.length
  exact handleTcpPacket_segment (by omega) length

/-! ## Delivery -/

/-- The connection listed under `key` has been given the segment, an existing or a new one, and
no other has changed. -/
structure DeliveredTo (host : Endian) (now : Time) (isn : UInt32) (packet : Bytes) (key : ConnKey)
    (s : StackManager) (r : ConnRef) (s' : StackManager) : Prop where
  listed : s'.conns.find? key = some r
  handled : ∃ conn, (s.conns.get? r = some conn ∨
      (r = s.conns.next ∧ ∃ port, conn = TCPManager.freshConnection isn port)) ∧
    s'.conns.get? r = some (conn.handlePacket now (segment host packet)).conn
  others : ∀ r' ≠ r, r' < s.conns.next → s'.conns.get? r' = s.conns.get? r'

/-- The handler delivers the segment of a frame to the connection listed under `key`. -/
def Delivers (host : Endian) (now : Time) (isn : UInt32) (packet : Bytes) (key : ConnKey)
    (s : StackManager) : Prop :=
  ∃ r s', handleTcpPacket host s now isn packet = .ok (some r, s') ∧
    DeliveredTo host now isn packet key s r s'

/-- A segment that is given to a connection is given to the one listed under the destination
address. -/
theorem deliveredTo_destination (frame : TcpFrame packet) {r : ConnRef}
    (h : handleTcpPacket host s now isn packet = .ok (some r, s')) :
    DeliveredTo host now isn packet (destinationAddress packet, sourcePort packet) s r s' := by
  rw [handleTcpPacket_eq frame] at h
  split at h
  · cases h
  · cases h
  · rename_i r' m found
    obtain ⟨t, ht, eq⟩ := bind_eq_ok h
    cases eq
    have listed := TCPManager.findOrCreateConnection_listed found
    obtain ⟨⟨conn, held, origin⟩, kept⟩ := TCPManager.findOrCreateConnection_objects found
    have result : s'.conns =
        m.connections.set r (conn.handlePacket now (segment host packet)).conn := by
      rw [conns, deliver_conns held ht]
    refine ⟨?_, ⟨conn, origin, ?_⟩, fun r' ne lt => ?_⟩
    · rw [result, Registry.find?_set, listed]
    · rw [result, Registry.get?_set (Registry.lt_next listed), if_pos rfl]
    · rw [result, Registry.get?_set (Registry.lt_next listed), if_neg ne, kept r' lt]

/-! ## Runs of the stack -/

/-- What a call on the TCP manager or on a connection sends. -/
def eventSent : TCPManager.Event → List TCPPacket
  | .call _ _ sent => sent
  | _ => []

inductive Event where
  | initialized (interface : Option NetworkInterface) (initOk : Bool)
  | sendPacket (packet : Bytes)
  | tcp (e : TCPManager.Event)
  | frame (now : Time) (isn : UInt32) (packet : Bytes)

/-- The public calls, and the frames that the receive thread takes from the interface. -/
inductive Step (host : Endian) : StackManager → Event → StackManager → Prop where
  | initialized {s : StackManager} (interface : Option NetworkInterface) (initOk : Bool) :
      Step host s (.initialized interface initOk) (s.initializeWith interface initOk).2
  | sendPacket {s s' : StackManager} {packet : Bytes} (returns : s.sendPacket packet = .ok s') :
      Step host s (.sendPacket packet) s'
  | tcp {s s' : StackManager} {e : TCPManager.Event} {m : TCPManager}
      (step : TCPManager.Step s.tcpManager e m)
      (returns : sendAll host { s with tcpManager := m } (eventSent e) = .ok s') :
      Step host s (.tcp e) s'
  | frame {s s' : StackManager} {now : Time} {isn : UInt32} {packet : Bytes}
      (up : s.interface.isSome)
      (returns : processIncomingPacket host s now isn packet = .ok s') :
      Step host s (.frame now isn packet) s'

def Reachable (host : Endian) (s : StackManager) : Prop := ∃ es, Run (Step host) {} es s

/-- What any step may do to the TCP manager. -/
structure Onward (m m' : TCPManager) : Prop where
  later : Later m.connections m'.connections
  portValue : TCPManager.PortValue m.nextPort → TCPManager.PortValue m'.nextPort

theorem Onward.refl (m : TCPManager) : Onward m m := ⟨.refl _, id⟩

theorem Onward.of_step {m m' : TCPManager} {e : TCPManager.Event} (h : TCPManager.Step m e m') :
    Onward m m' :=
  ⟨h.later, h.portValue⟩

theorem Onward.trans {m m' m'' : TCPManager} (h : Onward m m') (h' : Onward m' m'') :
    Onward m m'' :=
  ⟨h.later.trans h'.later, fun start => h'.portValue (h.portValue start)⟩

theorem deliver_onward {r : ConnRef} {tcp : TCPPacket}
    (h : deliver host s r now tcp = .ok s') : Onward s.tcpManager s'.tcpManager := by
  cases held : s.conns.get? r with
  | none =>
    rw [deliver, held] at h
    cases h
    exact .refl _
  | some conn =>
    rw [deliver_conns held h]
    exact ⟨Registry.later_set, id⟩

theorem handleTcpPacket_onward {ret : Option ConnRef}
    (h : handleTcpPacket host s now isn packet = .ok (ret, s')) :
    Onward s.tcpManager s'.tcpManager := by
  rw [handleTcpPacket] at h
  obtain ⟨len, -, h⟩ := bind_eq_ok h
  obtain ⟨data, -, h⟩ := bind_eq_ok h
  dsimp only at h
  split at h
  · cases h
    exact .refl _
  · obtain ⟨address, -, h⟩ := bind_eq_ok h
    split at h
    · cases h
    · rename_i found
      cases h
      exact .of_step (.findOrCreate found)
    · rename_i found
      obtain ⟨t, ht, eq⟩ := bind_eq_ok h
      cases eq
      exact (Onward.of_step (.findOrCreate found)).trans (deliver_onward ht)

theorem handleIcmpPacket_tcpManager (h : handleIcmpPacket host s packet = .ok s') :
    s'.tcpManager = s.tcpManager := by
  rw [handleIcmpPacket] at h
  split at h
  · cases h
    rfl
  · obtain ⟨len, -, h⟩ := bind_eq_ok h
    obtain ⟨data, -, h⟩ := bind_eq_ok h
    dsimp only at h
    split at h
    · cases h
      rfl
    · split at h
      · obtain ⟨reply, -, h⟩ := bind_eq_ok h
        obtain ⟨reply, -, h⟩ := bind_eq_ok h
        obtain ⟨reply, -, h⟩ := bind_eq_ok h
        obtain ⟨reply, -, h⟩ := bind_eq_ok h
        obtain ⟨reply, -, h⟩ := bind_eq_ok h
        exact sendPacket_tcpManager h
      · cases h
        rfl

theorem handleUdpPacket_eq (h : handleUdpPacket host s packet = .ok s') : s' = s := by
  rw [handleUdpPacket] at h
  obtain ⟨len, -, h⟩ := bind_eq_ok h
  obtain ⟨data, -, h⟩ := bind_eq_ok h
  dsimp only at h
  split at h
  · cases h
    rfl
  · split at h <;> cases h <;> rfl

theorem processIncomingPacket_onward (h : processIncomingPacket host s now isn packet = .ok s') :
    Onward s.tcpManager s'.tcpManager := by
  rw [processIncomingPacket] at h
  split at h
  · cases h
    exact .refl _
  · obtain ⟨protocol, -, h⟩ := bind_eq_ok h
    split at h
    · rw [handleIcmpPacket_tcpManager h]
      exact .refl _
    · split at h
      · obtain ⟨⟨ret, t⟩, ht, eq⟩ := bind_eq_ok h
        cases eq
        exact handleTcpPacket_onward ht
      · split at h
        · rw [handleUdpPacket_eq h]
          exact .refl _
        · cases h
          exact .refl _

theorem Step.onward {e : Event} (h : Step host s e s') : Onward s.tcpManager s'.tcpManager := by
  cases h with
  | initialized interface initOk => cases interface <;> exact .refl _
  | sendPacket returns =>
    rw [sendPacket_tcpManager returns]
    exact .refl _
  | tcp step returns =>
    rw [sendAll_tcpManager returns]
    exact .of_step step
  | frame up returns => exact processIncomingPacket_onward returns

theorem run_onward {es : List Event} (h : Run (Step host) s es s') :
    Onward s.tcpManager s'.tcpManager :=
  h.invariant (fun t => Onward s.tcpManager t.tcpManager) (.refl _) fun _ _ _ ht hs =>
    ht.trans hs.onward

theorem Reachable.portValue (h : Reachable host s) :
    TCPManager.PortValue s.tcpManager.nextPort := by
  obtain ⟨es, run⟩ := h
  exact (run_onward run).portValue (.inr (by decide))

/-! ## Peers -/

/-- There is a connection for the peer, or room in the table and a port for one. -/
def Admits (s : StackManager) (key : ConnKey) : Prop :=
  (s.conns.find? key).isSome ∨ (s.conns.size < s.tcpManager.maxConnections ∧
    ∃ port, TCPManager.PortValue port ∧ s.tcpManager.used port = false)

theorem handleTcpPacket_some_iff (reach : Reachable host s) (up : s.interface.isSome)
    (frame : TcpFrame packet) (now : Time) (isn : UInt32) :
    (∃ r s', handleTcpPacket host s now isn packet = .ok (some r, s')) ↔
      s.Admits (destinationAddress packet, sourcePort packet) := by
  rw [Admits, conns, ← TCPManager.findOrCreateConnection_some_iff reach.portValue isn,
    handleTcpPacket_eq frame]
  refine ⟨fun ⟨r, s', h⟩ => ?_, fun ⟨r, m, found⟩ => ?_⟩
  · split at h
    · cases h
    · cases h
    · exact ⟨_, _, ‹_›⟩
  · obtain ⟨s', hs⟩ := deliver_ok (s := { s with tcpManager := m }) host now up r
      (segment host packet)
    refine ⟨r, s', ?_⟩
    rw [found]
    dsimp only
    rw [hs]
    rfl

/-- A segment leaves alone a connection that was given a segment for another destination. -/
theorem get?_of_destination_ne {packet' : Bytes} {r : ConnRef} {s₁ s₂ s₃ : StackManager}
    {es : List Event} {now' : Time} {isn' : UInt32} {ret : Option ConnRef}
    (frame : TcpFrame packet) (first : handleTcpPacket host s now isn packet = .ok (some r, s₁))
    (run : Run (Step host) s₁ es s₂) (frame' : TcpFrame packet')
    (second : handleTcpPacket host s₂ now' isn' packet' = .ok (ret, s₃))
    (ne : destinationAddress packet' ≠ destinationAddress packet) :
    s₃.conns.get? r = s₂.conns.get? r := by
  have listed := (deliveredTo_destination frame first).listed
  have later := (run_onward run).later
  cases ret with
  | none =>
    rw [handleTcpPacket_eq frame'] at second
    split at second
    · cases second
    · rename_i m found
      cases second
      rcases TCPManager.findOrCreateConnection_cases found with ⟨_, -, eq, -⟩ | ⟨-, -, -, rfl⟩ |
        ⟨-, -, _, _, eq, -⟩
      · cases eq
      · rfl
      · cases eq
    · obtain ⟨t, -, eq⟩ := bind_eq_ok second
      cases eq
  | some r' =>
    have delivered := deliveredTo_destination frame' second
    refine delivered.others r ?_ (lt_of_lt_of_le (Registry.lt_next listed) later.next)
    rintro rfl
    have same := (later.trans (handleTcpPacket_onward second).later).key_eq listed delivered.listed
    exact ne (congrArg Prod.fst same)

/-- A segment is delivered to the connection of the peer it came from exactly when the frame's
two addresses are the same and that connection exists or can be made. Frames for which they are,
from two hosts, are kept apart. -/
theorem delivers_iff (reach : Reachable host s) (up : s.interface.isSome) (frame : TcpFrame packet)
    (now : Time) (isn : UInt32) :
    (Delivers host now isn packet (sourceAddress packet, sourcePort packet) s ↔
      sourceAddress packet = destinationAddress packet ∧
        s.Admits (sourceAddress packet, sourcePort packet)) ∧
    ∀ (r : ConnRef) (s₁ s₂ s₃ : StackManager) (es : List Event) (packet' : Bytes) (now' : Time)
      (isn' : UInt32) (ret : Option ConnRef),
      handleTcpPacket host s now isn packet = .ok (some r, s₁) → Run (Step host) s₁ es s₂ →
      TcpFrame packet' → handleTcpPacket host s₂ now' isn' packet' = .ok (ret, s₃) →
      sourceAddress packet = destinationAddress packet →
      sourceAddress packet' = destinationAddress packet' →
      sourceAddress packet' ≠ sourceAddress packet → s₃.conns.get? r = s₂.conns.get? r := by
  refine ⟨⟨fun ⟨r, s', h, delivered⟩ => ?_, fun ⟨same, admits⟩ => ?_⟩, ?_⟩
  · have same := Registry.key_unique delivered.listed (deliveredTo_destination frame h).listed
    have same : sourceAddress packet = destinationAddress packet := congrArg Prod.fst same
    refine ⟨same, ?_⟩
    rw [same, ← handleTcpPacket_some_iff reach up frame now isn]
    exact ⟨r, s', h⟩
  · rw [same] at admits ⊢
    obtain ⟨r, s', h⟩ := (handleTcpPacket_some_iff reach up frame now isn).mpr admits
    exact ⟨r, s', h, deliveredTo_destination frame h⟩
  · intro r s₁ s₂ s₃ es packet' now' isn' ret first run frame' second same same' ne
    exact get?_of_destination_ne frame first run frame' second (by rwa [← same, ← same'])

/-- A stack with its interface up. -/
def started : StackManager := { interface := some { ready := true } }

theorem reachable_started (host : Endian) : Reachable host started :=
  ⟨_, .single (.initialized (some {}) true)⟩

/-- A bare SYN from port 5000 of 10.0.0.`src` to 10.0.0.`dst`. -/
def synFrame (src dst : UInt8) : Bytes :=
  [0x45, 0, 0, 40, 0, 0, 0, 0, 64, 6, 0, 0, 10, 0, 0, src, 10, 0, 0, dst,
    0x13, 0x88, 0, 80, 0, 0, 0, 1, 0, 0, 0, 0, 0x50, 0x02, 1, 0, 0, 0, 0, 0]

theorem tcpFrame_synFrame (src dst : UInt8) : TcpFrame (synFrame src dst) := by
  have len : headerLen (synFrame src dst) = 20 := by simp [headerLen, synFrame]
  exact ⟨len.ge, by rw [len]; simp [synFrame]⟩

theorem delivers_to_self :
    Delivers .little 1 7 (synFrame 1 1)
      (sourceAddress (synFrame 1 1), sourcePort (synFrame 1 1)) started :=
  (delivers_iff (reachable_started .little) rfl (tcpFrame_synFrame 1 1) 1 7).1.mpr
    ⟨rfl, .inr ⟨by decide, 1024, .inr (by decide), rfl⟩⟩

/-- Two hosts that use the same port share a connection: the second changes what the first was
delivered to, and it is not listed under the address of either. -/
theorem two_hosts_one_connection : Reachable .little started ∧ TcpFrame (synFrame 2 1) ∧
    TcpFrame (synFrame 3 1) ∧ ∃ s₁ s₂,
    handleTcpPacket .little started 1 7 (synFrame 2 1) = .ok (some 0, s₁) ∧
    handleTcpPacket .little s₁ 2 8 (synFrame 3 1) = .ok (some 0, s₂) ∧
    sourceAddress (synFrame 2 1) ≠ sourceAddress (synFrame 3 1) ∧
    s₂.conns.get? 0 ≠ s₁.conns.get? 0 ∧
    ¬ Delivers .little 1 7 (synFrame 2 1)
      (sourceAddress (synFrame 2 1), sourcePort (synFrame 2 1)) started := by
  refine ⟨reachable_started .little, tcpFrame_synFrame 2 1, tcpFrame_synFrame 3 1, _, _, rfl, rfl,
    by decide, fun same => ?_, ?_⟩
  · have times := congrArg (Option.map TCPConnection.lastActivity) same
    cases times
  · intro ⟨r, s', h, delivered⟩
    cases h
    cases delivered.listed

end StackManager

end Lwip
