import Lwip.Std.InOrder
import Lwip.Std.Run
import Lwip.Tcp.Connection

/-! What the calls on a `TCPConnection` can do. `Transition` lists the outcomes of
`handle_packet` with their guards, `send_cases` the outcomes of `send`; the runs of a connection
are the runs of `TCPConnection.Step`, and `Inv` holds of every state they reach. -/

namespace Lwip

namespace TCPConnection

theorem hasFlag_synPacket (c : TCPConnection) (remotePort : UInt16) (flag : UInt16) :
    (c.synPacket remotePort).hasFlag flag = (tcpFlagSyn &&& flag != 0) :=
  TCPPacket.hasFlag_of_flags rfl flag

theorem hasFlag_synAckPacket (c : TCPConnection) (flag : UInt16) :
    c.synAckPacket.hasFlag flag = ((tcpFlagSyn ||| tcpFlagAck) &&& flag != 0) :=
  TCPPacket.hasFlag_of_flags rfl flag

theorem hasFlag_ackPacket (c : TCPConnection) (flag : UInt16) :
    c.ackPacket.hasFlag flag = (tcpFlagAck &&& flag != 0) :=
  TCPPacket.hasFlag_of_flags rfl flag

/-- The packets that a state acts upon. -/
def wants (c : TCPConnection) (p : TCPPacket) : Bool :=
  match c.state with
  | .closed | .listen => p.hasFlag tcpFlagSyn
  | .synSent => p.hasFlag (tcpFlagSyn ||| tcpFlagAck)
  | .synReceived | .finWait1 | .closing | .lastAck => p.hasFlag tcpFlagAck
  | .established => p.hasFlag tcpFlagFin || p.hasFlag tcpFlagAck
  | .finWait2 => p.hasFlag tcpFlagFin
  | .closeWait | .timeWait => false

/-- The outcomes of `handle_packet` at time `now`: the object afterwards and the packets sent. -/
inductive Transition (now : Time) (c : TCPConnection) (p : TCPPacket) :
    TCPConnection → List TCPPacket → Prop where
  | ignored (h : c.wants p = false) : Transition now c p { c with lastActivity := now } []
  | passiveOpen (hs : c.state = .closed ∨ c.state = .listen) (syn : p.hasFlag tcpFlagSyn = true) :
    Transition now c p
      { c with lastActivity := now, remoteSeqNum := p.getSequenceNumber, state := .synReceived }
      [{ c with remoteSeqNum := p.getSequenceNumber }.synAckPacket]
  | wrongAck (hs : c.state = .synSent) (flag : p.hasFlag (tcpFlagSyn ||| tcpFlagAck) = true)
      (ack : p.getAckNumber ≠ c.localSeqNum + 1) :
    Transition now c p
      { c with lastActivity := now, remoteSeqNum := p.getSequenceNumber + 1 } []
  | activeOpen (hs : c.state = .synSent) (flag : p.hasFlag (tcpFlagSyn ||| tcpFlagAck) = true)
      (ack : p.getAckNumber = c.localSeqNum + 1) :
    Transition now c p
      { c with
        lastActivity := now
        remoteSeqNum := p.getSequenceNumber + 1
        localSeqNum := c.localSeqNum + 1
        state := .established }
      [{ c with
        remoteSeqNum := p.getSequenceNumber + 1
        localSeqNum := c.localSeqNum + 1 }.ackPacket]
  | opened (hs : c.state = .synReceived) (ack : p.hasFlag tcpFlagAck = true) :
    Transition now c p { c with lastActivity := now, state := .established } []
  | fin (hs : c.state = .established) (fin : p.hasFlag tcpFlagFin = true) :
    Transition now c p { c with lastActivity := now, state := .closeWait } [c.ackPacket]
  | data (hs : c.state = .established) (fin : p.hasFlag tcpFlagFin = false)
      (ack : p.hasFlag tcpFlagAck = true) :
    Transition now c p (({ c with lastActivity := now }.handleData p).updateWindow p) []
  | finAcked (hs : c.state = .finWait1) (ack : p.hasFlag tcpFlagAck = true) :
    Transition now c p { c with lastActivity := now, state := .finWait2 } []
  | peerFin (hs : c.state = .finWait2) (fin : p.hasFlag tcpFlagFin = true) :
    Transition now c p { c with lastActivity := now, state := .timeWait } [c.ackPacket]
  | closingAcked (hs : c.state = .closing) (ack : p.hasFlag tcpFlagAck = true) :
    Transition now c p { c with lastActivity := now, state := .timeWait } []
  | lastAcked (hs : c.state = .lastAck) (ack : p.hasFlag tcpFlagAck = true) :
    Transition now c p { c with lastActivity := now, state := .closed } []

theorem handlePacket_transition (c : TCPConnection) (now : Time) (p : TCPPacket) :
    Transition now c p (c.handlePacket now p).conn (c.handlePacket now p).sent := by
  rw [handlePacket]
  dsimp only
  split
  case h_1 hs | h_2 hs =>
    split
    · exact .passiveOpen (by simp [hs]) ‹_›
    · exact .ignored (by simp_all [wants])
  case h_3 hs =>
    split
    · split
      · exact .activeOpen hs ‹_› ‹_›
      · exact .wrongAck hs ‹_› ‹_›
    · exact .ignored (by simp_all [wants])
  case h_4 hs =>
    split
    · exact .opened hs ‹_›
    · exact .ignored (by simp_all [wants])
  case h_5 hs =>
    split
    · exact .fin hs ‹_›
    · split
      · exact .data hs (by simp_all) ‹_›
      · exact .ignored (by simp_all [wants])
  case h_6 hs =>
    split
    · exact .finAcked hs ‹_›
    · exact .ignored (by simp_all [wants])
  case h_7 hs =>
    split
    · exact .peerFin hs ‹_›
    · exact .ignored (by simp_all [wants])
  case h_9 hs =>
    split
    · exact .closingAcked hs ‹_›
    · exact .ignored (by simp_all [wants])
  case h_10 hs =>
    split
    · exact .lastAcked hs ‹_›
    · exact .ignored (by simp_all [wants])
  case h_8 hs | h_11 hs => exact .ignored (by simp_all [wants])

/-- The outcomes in ESTABLISHED, by the flags. -/
theorem Transition.of_established {now : Time} {c c' : TCPConnection} {p : TCPPacket}
    {sent : List TCPPacket} (h : Transition now c p c' sent) (st : c.state = .established) :
    (p.hasFlag tcpFlagFin = true ∧ c' = { c with lastActivity := now, state := .closeWait }) ∨
    (p.hasFlag tcpFlagFin = false ∧ p.hasFlag tcpFlagAck = true ∧
      c' = ({ c with lastActivity := now }.handleData p).updateWindow p) ∨
    (p.hasFlag tcpFlagFin = false ∧ p.hasFlag tcpFlagAck = false ∧
      c' = { c with lastActivity := now }) := by
  cases h with
  | ignored ig =>
    simp only [wants, st, Bool.or_eq_false_iff] at ig
    exact .inr (.inr ⟨ig.1, ig.2, rfl⟩)
  | fin _ fin => exact .inl ⟨fin, rfl⟩
  | data _ fin ack => exact .inr (.inl ⟨fin, ack, rfl⟩)
  | passiveOpen st' => rcases st' with st' | st' <;> simp [st] at st'
  | wrongAck st' | activeOpen st' | opened st' | finAcked st' | peerFin st' | closingAcked st'
  | lastAcked st' => simp [st] at st'

/-! ## Congestion control -/

/-- The outcomes of `update_congestion_control`. -/
inductive Control (c : TCPConnection) : Bool → TCPConnection → Prop where
  | timeout : Control c true
      { c with
        window := { c.window with ssthresh := c.window.cwnd / 2, cwnd := tcpMss.toUInt32 }
        congestionState := .slowStart }
  | reached (st : c.congestionState = .slowStart) (le : c.window.ssthresh ≤ c.window.cwnd) :
    Control c false { c with congestionState := .congestionAvoidance }
  | slowStart (st : c.congestionState = .slowStart) (lt : c.window.cwnd < c.window.ssthresh) :
    Control c false
      { c with window := { c.window with cwnd := c.window.cwnd + tcpMss.toUInt32 } }
  | avoidance (st : c.congestionState = .congestionAvoidance) : Control c false
      { c with
        window := { c.window with
          cwnd := c.window.cwnd + tcpMss.toUInt32 * tcpMss.toUInt32 / c.window.cwnd } }
  | recovery (st : c.congestionState = .fastRecovery) : Control c false
      { c with
        window := { c.window with cwnd := c.window.ssthresh }
        congestionState := .congestionAvoidance }

theorem control (c : TCPConnection) (isTimeout : Bool) :
    Control c isTimeout (c.updateCongestionControl isTimeout) := by
  cases isTimeout with
  | true => exact .timeout
  | false =>
    rw [updateCongestionControl, if_neg Bool.false_ne_true]
    split
    case h_1 st =>
      split
      · exact .reached st ‹_›
      · exact .slowStart st (UInt32.not_le.mp ‹_›)
    case h_2 st => exact .avoidance st
    case h_3 st => exact .recovery st

/-! ## Data -/

variable {c : TCPConnection} {p : TCPPacket}

theorem updateWindow_frame (c : TCPConnection) (p : TCPPacket) :
    ∃ window congestionState, c.updateWindow p = { c with window, congestionState } := by
  rw [updateWindow]
  split
  · have call := control
      { c with window := { c.window with sendWindow := p.getWindowSize.toUInt32 } } false
    generalize updateCongestionControl _ false = c' at *
    cases call with
    | reached | slowStart | avoidance | recovery => exact ⟨_, _, rfl⟩
  · exact ⟨_, _, rfl⟩

/-- What `handle_data` does with a packet: nothing when it has no payload, else take it or keep
it for later, as its sequence number is the expected one or not. -/
theorem handleData_cases (c : TCPConnection) (p : TCPPacket) :
    (p.payload = [] ∧ c.handleData p = c) ∨
    (p.payload ≠ [] ∧ p.getSequenceNumber = c.remoteSeqNum ∧
      c.handleData p = c.processInOrderData p) ∨
    (p.payload ≠ [] ∧ p.getSequenceNumber ≠ c.remoteSeqNum ∧
      c.handleData p = c.storeOutOfOrderData p) := by
  unfold handleData TCPPacket.getPayloadSize
  split
  · rename_i pos
    have ne := List.ne_nil_of_length_pos pos
    split
    · exact .inr (.inl ⟨ne, ‹_›, rfl⟩)
    · exact .inr (.inr ⟨ne, ‹_›, rfl⟩)
  · exact .inl ⟨List.eq_nil_of_length_eq_zero (by omega), rfl⟩

/-- `handle_data` touches the receive side only. -/
theorem handleData_frame (c : TCPConnection) (p : TCPPacket) :
    ∃ receivedData remoteSeqNum outOfOrderData,
      c.handleData p = { c with receivedData, remoteSeqNum, outOfOrderData } := by
  rcases handleData_cases c p with ⟨-, h⟩ | ⟨-, -, h⟩ | ⟨-, -, h⟩ <;>
    exact ⟨_, _, _, h⟩

/-- A data packet leaves the state and the send side of the sequence numbers alone. -/
theorem data_frame (c : TCPConnection) (p : TCPPacket) :
    ∃ receivedData remoteSeqNum outOfOrderData window congestionState,
      (c.handleData p).updateWindow p = { c with
        receivedData, remoteSeqNum, outOfOrderData, window, congestionState } := by
  obtain ⟨_, _, hw⟩ := updateWindow_frame (c.handleData p) p
  obtain ⟨_, _, _, hd⟩ := handleData_frame c p
  rw [hw, hd]
  exact ⟨_, _, _, _, _, rfl⟩

/-! ## Sending -/

section

variable {data : Bytes} {window fuel : Nat} {now : Nat → Time} {ok : Nat → Bool} {r : Call Bool}

theorem chunkSize_le (c : TCPConnection) (window rest : Nat) :
    (c.chunkSize window rest).toNat ≤ rest := by
  have h : c.chunkSize window rest ≤ UInt16.ofNat rest := by
    rw [chunkSize]
    exact UInt16.le_trans Std.min_le_left Std.min_le_right
  exact le_trans (UInt16.le_iff_toNat_le.mp h) (by simpa using Nat.mod_le _ _)

/-- The packet of the next turn of the loop of `send`. -/
def Sending.next (data : Bytes) (window : Nat) (s : Sending) : TCPPacket :=
  s.conn.dataPacket ((data.drop s.offset).take
    (s.conn.chunkSize window (data.length - s.offset)).toNat)

theorem Sending.size_next (data : Bytes) (window : Nat) (s : Sending) :
    (s.next data window).getPayloadSize =
      (s.conn.chunkSize window (data.length - s.offset)).toNat := by
  have := s.conn.chunkSize_le window (data.length - s.offset)
  change ((data.drop s.offset).take _).length = _
  rw [List.length_take, List.length_drop]
  omega

/-- What a turn of the loop of `send` does: it sends one packet and queues it, or fails to send
it, or finds nothing left to send. -/
theorem sendTurn_cases (data : Bytes) (window : Nat) (now : Nat → Time) (ok : Nat → Bool)
    (s : Sending) :
    (s.offset < data.length ∧ ok s.sent.length = true ∧
      sendTurn data window now ok s = .again
        ⟨s.offset + (s.next data window).getPayloadSize,
          s.conn.pushRetransmit (s.next data window).getPayload (now s.sent.length)
            (s.next data window).getPayloadSize,
          s.sent ++ [s.next data window]⟩) ∨
    (s.offset < data.length ∧ ok s.sent.length = false ∧
      sendTurn data window now ok s = .done ⟨false, s.conn, s.sent ++ [s.next data window]⟩) ∨
    (data.length ≤ s.offset ∧ sendTurn data window now ok s = .done ⟨true, s.conn, s.sent⟩) := by
  rw [sendTurn, Sending.size_next]
  split
  · rename_i lt
    dsimp only
    cases h : ok s.sent.length
    · exact .inr (.inl ⟨lt, rfl, rfl⟩)
    · exact .inl ⟨lt, rfl, rfl⟩
  · exact .inr (.inr ⟨by omega, rfl⟩)

/-- A turn that goes round again has sent a packet. -/
theorem sendTurn_again {s s' : Sending} (hb : sendTurn data window now ok s = .again s') :
    s.offset < data.length ∧ ok s.sent.length = true ∧
      s' = ⟨s.offset + (s.next data window).getPayloadSize,
        s.conn.pushRetransmit (s.next data window).getPayload (now s.sent.length)
          (s.next data window).getPayloadSize,
        s.sent ++ [s.next data window]⟩ := by
  rcases sendTurn_cases data window now ok s with ⟨lt, good, eq⟩ | ⟨-, -, eq⟩ | ⟨-, eq⟩ <;>
    rw [eq] at hb <;> cases hb
  exact ⟨lt, good, rfl⟩

/-- A turn that leaves the loop has failed to send a packet, or found nothing left to send. -/
theorem sendTurn_done {s : Sending} (hb : sendTurn data window now ok s = .done r) :
    (s.offset < data.length ∧ ok s.sent.length = false ∧
      r = ⟨false, s.conn, s.sent ++ [s.next data window]⟩) ∨
    (data.length ≤ s.offset ∧ r = ⟨true, s.conn, s.sent⟩) := by
  rcases sendTurn_cases data window now ok s with ⟨-, -, eq⟩ | ⟨lt, bad, eq⟩ | ⟨all, eq⟩ <;>
    rw [eq] at hb <;> cases hb
  · exact .inl ⟨lt, bad, rfl⟩
  · exact .inr ⟨all, rfl⟩

/-- `min(send_window, cwnd * max_segment_size_)` of `send`. -/
def sendingWindow (c : TCPConnection) : Nat :=
  min c.tcpParams.sendWindow.toNat (c.tcpParams.cwnd * c.maxSegmentSize.toUInt32).toNat

/-- The outcomes of `send`: nothing is sent, or the loop has run. -/
theorem send_loop (call : c.send data now ok fuel = some r) :
    (c.state ≠ .established ∧ r = ⟨false, c, []⟩) ∨
    (c.state = .established ∧ 0 < c.unackedData ∧
      r = ⟨true, { c with pendingData := c.pendingData ++ data }, []⟩) ∨
    (c.state = .established ∧
      Loop.run (sendTurn data c.sendingWindow now ok) fuel ⟨0, c, []⟩ = some r) := by
  rw [send] at call
  split at call
  · cases call
    exact .inl ⟨‹_›, rfl⟩
  · have st : c.state = .established := not_not.mp ‹_›
    split at call
    · rename_i nagle
      cases call
      simp only [Bool.and_eq_true, decide_eq_true_eq] at nagle
      exact .inr (.inl ⟨st, nagle.1.2, rfl⟩)
    · exact .inr (.inr ⟨st, call⟩)

/-- What holds at the head of the loop of `send`, called on `c`. -/
structure SendingInv (data : Bytes) (c : TCPConnection) (s : Sending) : Prop where
  conn : ∃ queue, s.conn = { c with
    retransmitQueue := queue
    localSeqNum := seqAt c.localSeqNum s.offset }
  le : s.offset ≤ data.length
  flags : ∀ p ∈ s.sent, p.getFlags = tcpFlagAck

theorem SendingInv.turn {s s' : Sending} (h : SendingInv data c s)
    (hb : sendTurn data window now ok s = .again s') : SendingInv data c s' := by
  obtain ⟨-, -, rfl⟩ := sendTurn_again hb
  obtain ⟨queue, hconn⟩ := h.conn
  have hle := h.le
  have hchunk := s.conn.chunkSize_le window (data.length - s.offset)
  rw [← Sending.size_next] at hchunk
  refine ⟨?_, by dsimp only; omega, fun p hp => ?_⟩
  · dsimp only [pushRetransmit]
    rw [seqAt_add, hconn]
    exact ⟨_, rfl⟩
  · rcases List.mem_append.mp hp with hp | hp
    · exact h.flags p hp
    · cases List.mem_singleton.mp hp
      rfl

theorem SendingInv.done {s : Sending} (h : SendingInv data c s)
    (hb : sendTurn data window now ok s = .done r) :
    (s.offset = data.length ∧ r = ⟨true, s.conn, s.sent⟩) ∨
      ∃ p, ok s.sent.length = false ∧ p.getFlags = tcpFlagAck ∧
        r = ⟨false, s.conn, s.sent ++ [p]⟩ := by
  rcases sendTurn_done hb with ⟨-, fail, rfl⟩ | ⟨all, rfl⟩
  · exact .inr ⟨_, fail, rfl, rfl⟩
  · exact .inl ⟨Nat.le_antisymm h.le all, rfl⟩

/-- The outcomes of `send`: refused, kept back for later, or sent chunk by chunk as far as
`send_packet` succeeded. -/
theorem send_cases (call : c.send data now ok fuel = some r) :
    (c.state ≠ .established ∧ r = ⟨false, c, []⟩) ∨
    (c.state = .established ∧ 0 < c.unackedData ∧
      r = ⟨true, { c with pendingData := c.pendingData ++ data }, []⟩) ∨
    ∃ s, c.state = .established ∧ SendingInv data c s ∧
      ((s.offset = data.length ∧ r = ⟨true, s.conn, s.sent⟩) ∨
        ∃ p, ok s.sent.length = false ∧ p.getFlags = tcpFlagAck ∧
          r = ⟨false, s.conn, s.sent ++ [p]⟩) := by
  rcases send_loop call with refused | kept | ⟨st, run⟩
  · exact .inl refused
  · exact .inr (.inl kept)
  · have start : SendingInv data c ⟨0, c, []⟩ :=
      ⟨⟨c.retransmitQueue, by rw [seqAt_zero]⟩, Nat.zero_le _, fun _ hp => by cases hp⟩
    obtain ⟨s, hs, hb⟩ :=
      Loop.run_invariant (SendingInv data c) (fun _ _ hs hb => hs.turn hb) start run
    exact .inr (.inr ⟨s, st, hs, hs.done hb⟩)

/-- `send` touches the send side only. -/
theorem send_frame (h : c.send data now ok fuel = some r) :
    ∃ localSeqNum retransmitQueue pendingData,
      r.conn = { c with localSeqNum, retransmitQueue, pendingData } := by
  rcases send_cases h with ⟨-, rfl⟩ | ⟨-, -, rfl⟩ |
    ⟨s, -, ⟨⟨queue, hconn⟩, -, -⟩, ⟨-, rfl⟩ | ⟨_, -, -, rfl⟩⟩
  · exact ⟨_, _, _, rfl⟩
  · exact ⟨_, _, _, rfl⟩
  · exact ⟨_, _, _, hconn⟩
  · exact ⟨_, _, _, hconn⟩

/-- Data packets carry the ACK flag and no other. -/
theorem send_flags (h : c.send data now ok fuel = some r) :
    ∀ p ∈ r.sent, p.getFlags = tcpFlagAck := by
  rcases send_cases h with ⟨-, rfl⟩ | ⟨-, -, rfl⟩ | ⟨s, -, hs, ⟨-, rfl⟩ | ⟨p, -, hp, rfl⟩⟩
  · exact fun _ h => by cases h
  · exact fun _ h => by cases h
  · exact hs.flags
  · intro q hq
    rcases List.mem_append.mp hq with hq | hq
    · exact hs.flags q hq
    · cases List.mem_singleton.mp hq
      exact hp

end

/-! ## Runs of one connection -/

/-- The calls that the application, the timer and the receive path make on a connection. -/
inductive Op where
  | connect (remoteIp : UInt32) (remotePort : UInt16) (ok : Bool)
  | close
  | send (data : Bytes) (now : Nat → Time) (ok : Nat → Bool) (fuel : Nat)
  | receive
  | handlePacket (now : Time) (packet : TCPPacket)
  | handleTimeout
  | setWindowSize (size : UInt16)
  | setMss (mss : UInt16)
  | enableTimestamps (enable : Bool)
  | enableNagle (enable : Bool)
  | setLocalPort (port : UInt16)

/-- The packet that a call hands to `handle_packet`. -/
def Op.packet? : Op → Option TCPPacket
  | .handlePacket _ packet => some packet
  | _ => none

/-- The data that a call hands to `send`. -/
def Op.data? : Op → Option Bytes
  | .send data _ _ _ => some data
  | _ => none

/-- The object after a call and the packets sent; `none` when the call has not returned. -/
def exec (c : TCPConnection) : Op → Option (TCPConnection × List TCPPacket)
  | .connect remoteIp remotePort ok =>
    let r := c.connect remoteIp remotePort ok
    some (r.conn, r.sent)
  | .close => some (c.close, [])
  | .send data now ok fuel => (c.send data now ok fuel).map fun r => (r.conn, r.sent)
  | .receive => some (c, [])
  | .handlePacket now packet =>
    let r := c.handlePacket now packet
    some (r.conn, r.sent)
  | .handleTimeout =>
    let r := c.handleTimeout
    some (r.conn, r.sent)
  | .setWindowSize size => some (c.setWindowSize size, [])
  | .setMss mss => some (c.setMss mss, [])
  | .enableTimestamps enable => some (c.enableTimestamps enable, [])
  | .enableNagle enable => some (c.enableNagle enable, [])
  | .setLocalPort port => some (c.setLocalPort port, [])

/-- A call that returns, with the packets it sent. -/
def Step (c : TCPConnection) (e : Op × List TCPPacket) (c' : TCPConnection) : Prop :=
  c.exec e.1 = some (c', e.2)

/-- The packets handed to `handle_packet` in a run, oldest first. -/
def handled (es : List (Op × List TCPPacket)) : List TCPPacket := es.filterMap (·.1.packet?)

/-- The packets sent in a run, oldest first. -/
def emitted (es : List (Op × List TCPPacket)) : List TCPPacket := es.flatMap Prod.snd

def Reachable (c : TCPConnection) : Prop := ∃ isn es, Run Step (new isn) es c

/-- What holds of every connection that calls have made from a new one. -/
structure Inv (c : TCPConnection) : Prop where
  state : c.state ≠ .listen ∧ c.state ≠ .closing ∧ c.state ≠ .lastAck
  opening : c.state = .closed ∨ c.state = .synSent ∨ c.state = .synReceived →
    c.receivedData = [] ∧ c.outOfOrderData = ∅
  unacked : c.unackedSegments = []

theorem Inv.new (isn : UInt32) : Inv (new isn) :=
  ⟨by simp [TCPConnection.new], fun _ => ⟨rfl, rfl⟩, rfl⟩

theorem Inv.transition {c' : TCPConnection} {now : Time} {sent : List TCPPacket} (h : Inv c)
    (ht : Transition now c p c' sent) : Inv c' := by
  obtain ⟨hs, ho, hu⟩ := h
  cases ht with
  | ignored => exact ⟨hs, ho, hu⟩
  | passiveOpen st => exact ⟨by simp, fun _ => ho (.inl (st.resolve_right hs.1)), hu⟩
  | wrongAck st => exact ⟨hs, fun _ => ho (.inr (.inl st)), hu⟩
  | activeOpen | opened | fin | finAcked | peerFin | closingAcked => exact ⟨by simp, by simp, hu⟩
  | data st =>
    obtain ⟨_, _, _, _, _, hd⟩ := data_frame { c with lastActivity := now } p
    rw [hd]
    exact ⟨hs, by simp [st], hu⟩
  | lastAcked st => exact absurd st hs.2.2

/-- What the calls that neither open, close, send nor handle a packet leave as it is. -/
structure SameSession (c c' : TCPConnection) : Prop where
  state : c'.state = c.state
  localSeqNum : c'.localSeqNum = c.localSeqNum
  remoteSeqNum : c'.remoteSeqNum = c.remoteSeqNum
  receivedData : c'.receivedData = c.receivedData
  outOfOrderData : c'.outOfOrderData = c.outOfOrderData
  retransmitQueue : c'.retransmitQueue = c.retransmitQueue
  sendWindow : c'.tcpParams.sendWindow = c.tcpParams.sendWindow
  cwnd : c'.tcpParams.cwnd = c.tcpParams.cwnd ∨ c'.tcpParams.cwnd = tcpMss.toUInt32
  unacked : c.unackedSegments = [] → c'.unackedSegments = []

theorem SameSession.refl (c : TCPConnection) : SameSession c c :=
  ⟨rfl, rfl, rfl, rfl, rfl, rfl, rfl, .inl rfl, id⟩

/-- The outcomes of a call that returns. -/
inductive Effect (c : TCPConnection) : Op → List TCPPacket → TCPConnection → Prop where
  | packet {now : Time} {p : TCPPacket} {sent : List TCPPacket} {c' : TCPConnection}
      (h : Transition now c p c' sent) : Effect c (.handlePacket now p) sent c'
  | synSent {remoteIp : UInt32} {remotePort : UInt16} (hs : c.state = .closed) :
    Effect c (.connect remoteIp remotePort true) [c.synPacket remotePort]
      { c with remoteIp, remotePort, state := .synSent }
  | synLost {remoteIp : UInt32} {remotePort : UInt16} (hs : c.state = .closed) :
    Effect c (.connect remoteIp remotePort false) [c.synPacket remotePort]
      { c with remoteIp, remotePort }
  | closed (hs : c.state = .established) : Effect c .close [] { c with state := .finWait1 }
  | sent {data : Bytes} {now : Nat → Time} {ok : Nat → Bool} {fuel : Nat} {r : Call Bool}
      (call : c.send data now ok fuel = some r) :
    Effect c (.send data now ok fuel) r.sent r.conn
  | other {op : Op} {sent : List TCPPacket} {c' : TCPConnection} (h : SameSession c c')
      (packet : op.packet? = none) (data : op.data? = none)
      (quiet : c.unackedSegments = [] → sent = []) : Effect c op sent c'

theorem Step.effect {c' : TCPConnection} {e : Op × List TCPPacket} (h : Step c e c') :
    Effect c e.1 e.2 c' := by
  obtain ⟨op, sent⟩ := e
  cases op with
  | connect remoteIp remotePort ok =>
    cases h
    dsimp only
    rw [connect]
    split
    · exact .other (.refl c) rfl rfl fun _ => rfl
    · have st : c.state = .closed := not_not.mp ‹_›
      cases ok
      · exact .synLost st
      · exact .synSent st
  | close =>
    cases h
    dsimp only
    rw [close]
    split
    · exact .closed ‹_›
    · exact .other (.refl c) rfl rfl fun _ => rfl
  | send data now ok fuel =>
    obtain ⟨r, hr, eq⟩ := Option.map_eq_some_iff.mp h
    cases eq
    exact .sent hr
  | handlePacket now packet =>
    cases h
    exact .packet (handlePacket_transition c now packet)
  | handleTimeout =>
    cases h
    unfold handleTimeout retransmitUnackedSegments
    dsimp only
    split
    · exact .other ⟨rfl, rfl, rfl, rfl, rfl, rfl, rfl, .inr rfl, fun hu => by simp [hu]⟩ rfl rfl id
    · exact .other ⟨rfl, rfl, rfl, rfl, rfl, rfl, rfl, .inr rfl, id⟩ rfl rfl fun _ => rfl
  | receive | setWindowSize | setMss | enableTimestamps | enableNagle | setLocalPort =>
    cases h
    exact .other ⟨rfl, rfl, rfl, rfl, rfl, rfl, rfl, .inl rfl, id⟩ rfl rfl fun _ => rfl

theorem Transition.frame {now : Time} {c' : TCPConnection} {sent : List TCPPacket}
    (h : Transition now c p c' sent) : c'.localPort = c.localPort ∧ c'.lastActivity = now := by
  cases h with
  | data =>
    obtain ⟨_, _, _, _, _, hd⟩ := data_frame { c with lastActivity := now } p
    rw [hd]
    exact ⟨rfl, rfl⟩
  | _ => exact ⟨rfl, rfl⟩

/-- The local port, the time of the last activity and the congestion control are each written by
one call only. -/
structure Frame (op : Op) (c c' : TCPConnection) : Prop where
  localPort : c'.localPort = match op with
    | .setLocalPort port => port
    | _ => c.localPort
  lastActivity : c'.lastActivity = match op with
    | .handlePacket now _ => now
    | _ => c.lastActivity
  congestion : op.packet? = none → c'.window.cwnd = c.window.cwnd ∧
    c'.window.ssthresh = c.window.ssthresh ∧ c'.congestionState = c.congestionState

theorem Step.frame {c' : TCPConnection} {e : Op × List TCPPacket} (h : Step c e c') :
    Frame e.1 c c' := by
  obtain ⟨op, sent⟩ := e
  cases op with
  | connect remoteIp remotePort ok =>
    cases h
    dsimp only
    rw [connect]
    split
    · exact ⟨rfl, rfl, fun _ => ⟨rfl, rfl, rfl⟩⟩
    · cases ok <;> exact ⟨rfl, rfl, fun _ => ⟨rfl, rfl, rfl⟩⟩
  | close =>
    cases h
    dsimp only
    rw [close]
    split <;> exact ⟨rfl, rfl, fun _ => ⟨rfl, rfl, rfl⟩⟩
  | send data now ok fuel =>
    obtain ⟨r, hr, eq⟩ := Option.map_eq_some_iff.mp h
    cases eq
    obtain ⟨_, _, _, hc⟩ := send_frame hr
    rw [hc]
    exact ⟨rfl, rfl, fun _ => ⟨rfl, rfl, rfl⟩⟩
  | handlePacket now packet =>
    cases h
    obtain ⟨localPort, lastActivity⟩ := (handlePacket_transition c now packet).frame
    exact ⟨localPort, lastActivity, nofun⟩
  | handleTimeout =>
    cases h
    unfold handleTimeout retransmitUnackedSegments
    dsimp only
    split <;> exact ⟨rfl, rfl, fun _ => ⟨rfl, rfl, rfl⟩⟩
  | receive | setWindowSize | setMss | enableTimestamps | enableNagle | setLocalPort =>
    cases h
    exact ⟨rfl, rfl, fun _ => ⟨rfl, rfl, rfl⟩⟩

theorem Inv.step {c' : TCPConnection} {e : Op × List TCPPacket} (h : Inv c)
    (hs : Step c e c') : Inv c' := by
  obtain ⟨op, sent⟩ := e
  obtain ⟨hst, ho, hu⟩ := h
  cases hs.effect with
  | packet ht => exact Inv.transition ⟨hst, ho, hu⟩ ht
  | synSent st => exact ⟨by simp, fun _ => ho (.inl st), hu⟩
  | synLost => exact ⟨hst, ho, hu⟩
  | closed => exact ⟨by simp, by simp, hu⟩
  | sent call =>
    obtain ⟨_, _, _, hc⟩ := send_frame call
    rw [hc]
    exact ⟨hst, ho, hu⟩
  | other same =>
    refine ⟨same.state ▸ hst, fun opening => ?_, same.unacked hu⟩
    rw [same.receivedData, same.outOfOrderData]
    exact ho (same.state ▸ opening)

theorem Reachable.run {c' : TCPConnection} {es : List (Op × List TCPPacket)} (h : Reachable c)
    (run : Run Step c es c') : Reachable c' := by
  obtain ⟨isn, es₀, run₀⟩ := h
  exact ⟨isn, _, run₀.trans run⟩

theorem Reachable.inv (h : Reachable c) : Inv c := by
  obtain ⟨isn, es, hr⟩ := h
  exact hr.invariant Inv (Inv.new isn) fun _ _ _ ht hs => ht.step hs

end TCPConnection

end Lwip
