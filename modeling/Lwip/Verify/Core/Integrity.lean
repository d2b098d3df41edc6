import Lwip.Verify.Core.Routing
import Lwip.Verify.Tcp.Checksum

/-! Segments that were damaged on the way. The handler never asks `verify_checksum`: what it does
with a segment that fails the check is what it does with any other. `ignores_corrupt_iff` says
which segments that is nothing for. -/

namespace Lwip

namespace TCPConnection

variable {c c' : TCPConnection} {p : TCPPacket} {now : Time} {sent : List TCPPacket}

/-! ## Packets that change nothing -/

/-- An answer to the wrong SYN, with the sequence number of the one before it. -/
structure Stale (c : TCPConnection) (p : TCPPacket) : Prop where
  state : c.state = .synSent
  ack : p.getAckNumber ≠ c.localSeqNum + 1
  seq : c.remoteSeqNum = p.getSequenceNumber + 1

/-- There is no payload, or it is kept for later already. -/
def Known (c : TCPConnection) (p : TCPPacket) : Prop :=
  p.payload = [] ∨ (p.getSequenceNumber ≠ c.remoteSeqNum ∧
    c.outOfOrderData[p.getSequenceNumber]? = some p.payload)

/-- The window is the one advertised before, and the congestion window no longer grows. -/
structure Settled (c : TCPConnection) (p : TCPPacket) : Prop where
  sendWindow : c.window.sendWindow = p.getWindowSize.toUInt32
  state : c.congestionState = .congestionAvoidance
  large : tcpMss.toUInt32 * tcpMss.toUInt32 / c.window.cwnd = 0

/-- An ACK that says nothing new, with data that is nothing new. -/
structure Repeated (c : TCPConnection) (p : TCPPacket) : Prop where
  state : c.state = .established
  fin : p.hasFlag tcpFlagFin = false
  known : Known c p
  settled : Settled c p

/-- The packet is nothing new, and comes at the time of the last one. -/
structure Unmoved (now : Time) (c : TCPConnection) (p : TCPPacket) : Prop where
  lastActivity : c.lastActivity = now
  quiet : c.wants p = false ∨ Stale c p ∨ Repeated c p

theorem handleData_eq_self_iff : c.handleData p = c ↔ Known c p := by
  rcases handleData_cases c p with ⟨none, eq⟩ | ⟨some, seq, eq⟩ | ⟨some, seq, eq⟩
  · exact iff_of_true eq (.inl none)
  · refine iff_of_false (fun same => some ?_) ?_
    · have received : c.receivedData ++ p.payload = c.receivedData :=
        congrArg receivedData (eq.symm.trans same)
      simpa using received
    · rintro (none | ⟨ne, -⟩)
      · exact some none
      · exact ne seq
  · rw [eq]
    constructor
    · intro same
      have stored : c.outOfOrderData.insert p.getSequenceNumber p.payload = c.outOfOrderData :=
        congrArg outOfOrderData same
      refine .inr ⟨seq, ?_⟩
      rw [← stored, Std.ExtTreeMap.getElem?_insert_self]
    · intro known
      obtain ⟨-, stored⟩ := known.resolve_left some
      have same : c.outOfOrderData.insert p.getSequenceNumber p.payload = c.outOfOrderData := by
        refine Std.ExtTreeMap.ext_getElem? fun seq => ?_
        rw [Std.ExtTreeMap.getElem?_insert]
        split
        · rename_i eq
          rw [← Std.LawfulEqCmp.compare_eq_iff_eq.mp eq, stored]
        · rfl
      change { c with outOfOrderData := c.outOfOrderData.insert _ p.payload } = c
      rw [same]

theorem updateWindow_eq_self_iff (ack : p.hasFlag tcpFlagAck = true) :
    c.updateWindow p = c ↔ Settled c p := by
  rw [updateWindow, if_pos ack]
  have call := control
    { c with window := { c.window with sendWindow := p.getWindowSize.toUInt32 } } false
  generalize updateCongestionControl _ false = c' at *
  cases call with
  | reached st | recovery st =>
    refine iff_of_false (fun same => ?_) fun settled => ?_
    · cases (congrArg congestionState same).trans st
    · cases settled.state.symm.trans st
  | slowStart st =>
    refine iff_of_false (fun same => ?_) fun settled => ?_
    · have cwnd : c.window.cwnd + tcpMss.toUInt32 = c.window.cwnd :=
        congrArg (fun c => c.window.cwnd) same
      have zero : tcpMss.toUInt32 = 0 := by simpa using cwnd
      cases zero
    · cases settled.state.symm.trans st
  | avoidance st =>
    constructor
    · intro same
      have sendWindow : p.getWindowSize.toUInt32 = c.window.sendWindow :=
        congrArg (fun c => c.window.sendWindow) same
      have cwnd : c.window.cwnd + tcpMss.toUInt32 * tcpMss.toUInt32 / c.window.cwnd =
        c.window.cwnd := congrArg (fun c => c.window.cwnd) same
      exact ⟨sendWindow.symm, st, by simpa using cwnd⟩
    · intro settled
      rw [settled.large, UInt32.add_zero, ← settled.sendWindow]

theorem data_eq_self_iff (ack : p.hasFlag tcpFlagAck = true) :
    (c.handleData p).updateWindow p = c ↔ Known c p ∧ Settled c p := by
  rw [← handleData_eq_self_iff, ← updateWindow_eq_self_iff ack]
  constructor
  · intro same
    have unchanged : c.handleData p = c := by
      obtain ⟨_, _, hw⟩ := updateWindow_frame (c.handleData p) p
      obtain ⟨received, expected, later, hd⟩ := handleData_frame c p
      rw [hw, hd] at same
      have sameReceived : received = c.receivedData := congrArg receivedData same
      have sameExpected : expected = c.remoteSeqNum := congrArg remoteSeqNum same
      have sameLater : later = c.outOfOrderData := congrArg outOfOrderData same
      rw [hd, sameReceived, sameExpected, sameLater]
    rw [unchanged] at same
    exact ⟨unchanged, same⟩
  · rintro ⟨unchanged, same⟩
    rw [unchanged, same]

theorem Transition.of_ignored (h : Transition now c p c' sent) (ignored : c.wants p = false) :
    c' = { c with lastActivity := now } ∧ sent = [] := by
  cases h with
  | ignored => exact ⟨rfl, rfl⟩
  | passiveOpen st syn => rcases st with st | st <;> simp [wants, st, syn] at ignored
  | wrongAck st flag | activeOpen st flag | opened st flag | fin st flag | data st _ flag
  | finAcked st flag | peerFin st flag | closingAcked st flag | lastAcked st flag =>
    simp [wants, st, flag] at ignored

/-- The outcomes in SYN_SENT that do not open the connection. -/
theorem Transition.of_wrongAck (h : Transition now c p c' sent) (st : c.state = .synSent)
    (ack : p.getAckNumber ≠ c.localSeqNum + 1) : sent = [] ∧
      (c' = { c with lastActivity := now } ∨
        c' = { c with lastActivity := now, remoteSeqNum := p.getSequenceNumber + 1 }) := by
  cases h with
  | ignored => exact ⟨rfl, .inl rfl⟩
  | wrongAck => exact ⟨rfl, .inr rfl⟩
  | activeOpen _ _ right => exact absurd right ack
  | passiveOpen st' => rcases st' with st' | st' <;> simp [st] at st'
  | opened st' | fin st' | data st' | finAcked st' | peerFin st' | closingAcked st'
  | lastAcked st' => simp [st] at st'

theorem Unmoved.handlePacket (h : Unmoved now c p) (ht : Transition now c p c' sent) :
    c' = c ∧ sent = [] := by
  obtain ⟨rfl, ignored | stale | repeated⟩ := h
  · exact ht.of_ignored ignored
  · obtain ⟨quiet, same | same⟩ := ht.of_wrongAck stale.state stale.ack
    · exact ⟨same, quiet⟩
    · rw [← stale.seq] at same
      exact ⟨same, quiet⟩
  · have fin := repeated.fin
    cases ht with
    | ignored => exact ⟨rfl, rfl⟩
    | fin _ fin' =>
      rw [fin] at fin'
      cases fin'
    | data _ _ ack => exact ⟨(data_eq_self_iff ack).mpr ⟨repeated.known, repeated.settled⟩, rfl⟩
    | passiveOpen st => rcases st with st | st <;> simp [repeated.state] at st
    | wrongAck st | activeOpen st | opened st | finAcked st | peerFin st | closingAcked st
    | lastAcked st => simp [repeated.state] at st

/-- A packet leaves the connection as it is, to the time of its last activity, and is not answered,
exactly when it is nothing new. -/
theorem Transition.unmoved_iff (ht : Transition now c p c' sent) :
    (c' = c ∧ sent = []) ↔ Unmoved now c p := by
  refine ⟨?_, fun h => h.handlePacket ht⟩
  rintro ⟨same, quiet⟩
  have activity : c.lastActivity = now := by rw [← same, ht.frame.2]
  have state := congrArg TCPConnection.state same
  refine ⟨activity, ?_⟩
  cases ht with
  | ignored h => exact .inl h
  | wrongAck st flag ack =>
    exact .inr (.inl ⟨st, ack, (congrArg remoteSeqNum same).symm⟩)
  | data st fin ack =>
    subst activity
    obtain ⟨known, settled⟩ := (data_eq_self_iff ack).mp same
    exact .inr (.inr ⟨st, fin, known, settled⟩)
  | passiveOpen | activeOpen | fin | peerFin => cases quiet
  | opened st | finAcked st | closingAcked st | lastAcked st =>
    rw [st] at state
    cases state

end TCPConnection

namespace StackManager

variable {host : Endian} {s s' : StackManager} {packet : Bytes} {now : Time} {isn : UInt32}

/-! ## Frames that change nothing -/

/-- What has been sent shows in the interface. -/
theorem sendAll_silent {sent : List TCPPacket} (h : sendAll host s sent = .ok s')
    (same : s'.interface = s.interface) : sent = [] := by
  cases sent with
  | nil => rfl
  | cons p rest =>
    rw [sendAll, List.foldlM_cons, sendPacket] at h
    cases hi : s.interface with
    | none =>
      rw [hi] at h
      cases h
    | some interface =>
      rw [hi] at h same
      have more : ∃ interface', s'.interface = some interface' ∧
          interface.frames.length < interface'.frames.length := by
        refine sendAll_invariant (fun t => ∃ interface', t.interface = some interface' ∧
          interface.frames.length < interface'.frames.length) ?_ ⟨_, rfl, by simp⟩ h
        rintro t packet t' ⟨interface', ht, lt⟩ hs
        rw [sendPacket, ht] at hs
        cases hs
        exact ⟨_, rfl, by simp; omega⟩
      obtain ⟨interface', eq, lt⟩ := more
      rw [same] at eq
      cases eq
      exact absurd lt (Nat.lt_irrefl _)

/-- The handler returns and leaves the table, every connection and the interface as they are. -/
def Untouched (host : Endian) (now : Time) (isn : UInt32) (packet : Bytes) (s : StackManager) :
    Prop :=
  ∃ ret s', handleTcpPacket host s now isn packet = .ok (ret, s') ∧
    (∀ key, s'.conns.find? key = s.conns.find? key) ∧
    (∀ r, s'.conns.get? r = s.conns.get? r) ∧ s'.interface = s.interface

/-- The frame is nothing new to the connection it goes to, or there is none and no room for one. -/
def Inert (host : Endian) (now : Time) (packet : Bytes) (s : StackManager) : Prop :=
  match s.conns.lookup? (destinationAddress packet, sourcePort packet) with
  | some (_, c) => c.Unmoved now (segment host packet)
  | none => s.tcpManager.maxConnections ≤ s.conns.size

theorem untouched_iff_of_listed (frame : TcpFrame packet) {r : ConnRef} {c : TCPConnection}
    (entry : s.conns.lookup? (destinationAddress packet, sourcePort packet) = some (r, c)) :
    Untouched host now isn packet s ↔ c.Unmoved now (segment host packet) := by
  obtain ⟨listed, held⟩ := Registry.lookup?_eq_some.mp entry
  have found : s.tcpManager.findOrCreateConnection isn (destinationAddress packet)
      (sourcePort packet) = some (some r, s.tcpManager) := by
    rw [TCPManager.findOrCreateConnection, listed]
  rw [← (c.handlePacket_transition now (segment host packet)).unmoved_iff, Untouched,
    handleTcpPacket_eq frame, found]
  dsimp only
  constructor
  · rintro ⟨ret, s', h, -, objects, same⟩
    obtain ⟨t, ht, eq⟩ := bind_eq_ok h
    cases eq
    have object := objects r
    rw [conns, deliver_conns held ht, Registry.get?_set (Registry.lt_next_of_get? held),
      if_pos rfl, held] at object
    rw [deliver, held] at ht
    exact ⟨Option.some.inj object, sendAll_silent ht same⟩
  · rintro ⟨same, quiet⟩
    rw [deliver, held]
    dsimp only
    rw [same, quiet]
    refine ⟨some r, _, rfl, fun key => rfl, fun r' => ?_, rfl⟩
    change (s.conns.set r c).get? r' = _
    rw [Registry.get?_set (Registry.lt_next_of_get? held)]
    split
    · rename_i eq
      rw [eq, held]
    · rfl

theorem untouched_iff_of_absent (frame : TcpFrame packet)
    (absent : s.conns.find? (destinationAddress packet, sourcePort packet) = none) :
    Untouched host now isn packet s ↔ s.tcpManager.maxConnections ≤ s.conns.size := by
  rw [Untouched, handleTcpPacket_eq frame]
  constructor
  · rintro ⟨ret, s', h, table, -⟩
    have gone := table (destinationAddress packet, sourcePort packet)
    rw [absent] at gone
    by_contra room
    split at h
    · cases h
    · rename_i m found
      rcases TCPManager.findOrCreateConnection_cases found with ⟨_, -, eq, -⟩ | ⟨-, full, -⟩ |
        ⟨-, -, _, _, eq, -⟩
      · cases eq
      · exact room full
      · cases eq
    · rename_i r m found
      obtain ⟨t, ht, eq⟩ := bind_eq_ok h
      cases eq
      have delivered : s'.conns.find? (destinationAddress packet, sourcePort packet) = some r :=
        (deliveredTo_destination frame (by rw [handleTcpPacket_eq frame, found]; exact h)).listed
      rw [gone] at delivered
      cases delivered
  · intro full
    have refused : s.tcpManager.findOrCreateConnection isn (destinationAddress packet)
        (sourcePort packet) = some (none, s.tcpManager) := by
      rw [TCPManager.findOrCreateConnection, absent]
      exact if_neg (Nat.not_lt_of_le full)
    rw [refused]
    exact ⟨none, s, rfl, fun _ => rfl, fun _ => rfl, rfl⟩

/-- Whether the segment of the frame fails the check. -/
def Corrupt (host : Endian) (packet : Bytes) : Prop :=
  ((segment host packet).verifyChecksum host).1 = false

/-- A corrupt segment leaves the table, all connections and the interface as they are exactly when
it is nothing new to the connection it goes to, or finds neither a connection nor room for one. -/
theorem ignores_corrupt_iff (frame : TcpFrame packet) (now : Time) (isn : UInt32) :
    (Corrupt host packet → Untouched host now isn packet s) ↔
      (Corrupt host packet → Inert host now packet s) := by
  refine forall_congr' fun _ => ?_
  rw [Inert]
  cases entry : s.conns.lookup? (destinationAddress packet, sourcePort packet) with
  | some found => exact untouched_iff_of_listed frame entry
  | none =>
    refine untouched_iff_of_absent frame ?_
    cases listed : s.conns.find? (destinationAddress packet, sourcePort packet) with
    | none => rfl
    | some r =>
      obtain ⟨c, there⟩ := Registry.exists_lookup? listed
      rw [there] at entry
      cases entry

/-- A SYN from port 5000 with a checksum of zero, its flags as a little-endian host loads them. -/
def damagedSyn : Bytes :=
  [0x45, 0, 0, 40, 0, 0, 0, 0, 64, 6, 0, 0, 10, 0, 0, 2, 10, 0, 0, 1,
    0x13, 0x88, 0, 80, 0, 0, 0, 1, 0, 0, 0, 0, 0x02, 0x50, 1, 0, 0, 0, 0, 0]

theorem headerLen_damagedSyn : headerLen damagedSyn = 20 := by simp [headerLen, damagedSyn]

theorem tcpFrame_damagedSyn : TcpFrame damagedSyn :=
  ⟨headerLen_damagedSyn.ge, by rw [headerLen_damagedSyn]; decide⟩

theorem corrupt_damagedSyn : Corrupt .little damagedSyn := by
  rw [Corrupt, segment, headerLen_damagedSyn, Bool.eq_false_iff, ne_eq,
    TCPPacket.verifyChecksum_little (by decide) (by decide) (by decide)]
  decide

/-- A stack with no room for connections. -/
def crowded : StackManager := { started with tcpManager := TCPManager.new.setMaxConnections 0 }

theorem ignores_corrupt_crowded : Untouched .little 1 7 damagedSyn crowded :=
  (ignores_corrupt_iff tcpFrame_damagedSyn 1 7).mpr (fun _ => Nat.le_refl 0) corrupt_damagedSyn

/-- The damaged SYN makes a connection, and that answers it. -/
theorem corrupt_accepted : Reachable .little started ∧ TcpFrame damagedSyn ∧
    Corrupt .little damagedSyn ∧ started.conns.size = 0 ∧
    ∃ s' c, handleTcpPacket .little started 1 7 damagedSyn = .ok (some 0, s') ∧
      s'.conns.lookup? (destinationAddress damagedSyn, sourcePort damagedSyn) = some (0, c) ∧
      c.state = .synReceived ∧ s'.interface.map (·.frames.length) = some 1 ∧
      ¬ Untouched .little 1 7 damagedSyn started := by
  obtain ⟨s', c, h, entry, state, sent⟩ : ∃ s' c,
      handleTcpPacket .little started 1 7 damagedSyn = .ok (some 0, s') ∧
      s'.conns.lookup? (destinationAddress damagedSyn, sourcePort damagedSyn) = some (0, c) ∧
      c.state = .synReceived ∧ s'.interface.map (·.frames.length) = some 1 :=
    ⟨_, _, rfl, rfl, rfl, rfl⟩
  refine ⟨reachable_started .little, tcpFrame_damagedSyn, corrupt_damagedSyn, rfl, s', c, h, entry,
    state, sent, ?_⟩
  rintro ⟨ret, t, ht, -, -, same⟩
  rw [h] at ht
  cases ht
  rw [same] at sent
  cases sent

end StackManager

end Lwip
