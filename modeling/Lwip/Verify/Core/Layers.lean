import Lwip.Verify.Core.Routing
import Lwip.Verify.Tcp.Codec
import Lwip.Verify.Tcp.Sending

/-! From one stack to another. A connection hands bare segments to `send_packet`, and the receiver
takes them for IP packets: it finds the protocol in the acknowledgement number and the header
length in the source port. A segment gets across only when these happen to fit (`carried_iff`). -/

namespace Lwip

namespace StackManager

variable {sender receiver : Endian} {frame : Bytes}

/-- `process_incoming_packet` gives the frame to `handle_tcp_packet`, and that parses `tcp`. -/
structure Decoded (host : Endian) (frame : Bytes) (tcp : TCPPacket) : Prop where
  length : 20 ≤ frame.length
  protocol : frame.getD 9 0 = 6
  inside : headerLen frame ≤ frame.length
  parsed : TCPPacket.new.parse host (frame.drop (headerLen frame)) = (true, tcp)

/-- Given the frame, `process_incoming_packet` hands `tcp` to the connection that it looks up. -/
def Handles (host : Endian) (frame : Bytes) (tcp : TCPPacket) : Prop :=
  ∀ (s : StackManager) (now : Time) (isn : UInt32),
    processIncomingPacket host s now isn frame =
      match s.tcpManager.findOrCreateConnection isn (destinationAddress frame)
        tcp.getSourcePort with
      | none => .error .noReturn
      | some (none, tcpManager) => .ok { s with tcpManager }
      | some (some r, tcpManager) => deliver host { s with tcpManager } r now tcp

theorem Decoded.handles {host : Endian} {tcp : TCPPacket} (h : Decoded host frame tcp) :
    Handles host frame tcp := by
  intro s now isn
  have len := h.length
  rw [processIncomingPacket, if_neg (by omega), access_byteAt.1 (by omega), ok_bind, h.protocol,
    if_neg (by decide), if_pos rfl, handleTcpPacket, access_ipHeaderLen.1 (by omega), ok_bind,
    access_sliceFrom.1 h.inside, ok_bind, h.parsed]
  simp only [Bool.not_true, Bool.false_eq_true, if_false]
  rw [access_addressWord.1 (by omega), ok_bind, Endian.ntohl_word32, destinationAddress]
  generalize be32 _ _ _ _ = address
  rcases s.tcpManager.findOrCreateConnection isn address tcp.getSourcePort with _ | ⟨_ | r, m⟩
  · rfl
  · rfl
  · dsimp only
    cases deliver host { s with tcpManager := m } r now tcp <;> rfl

/-- The segment `p` that the connection `c` sends arrives: another stack decodes it with the ports
of `c` and what `c` put into it. -/
def Carried (sender receiver : Endian) (c : TCPConnection) (p : TCPPacket) : Prop :=
  ∃ tcp, Decoded receiver (p.serialize sender).1 tcp ∧
    Handles receiver (p.serialize sender).1 tcp ∧
    tcp.getSourcePort = c.localPort ∧ tcp.getDestPort = c.remotePort ∧
    tcp.getSequenceNumber = p.getSequenceNumber ∧
    tcp.getFlags &&& (0x0FFF : UInt16) = p.getFlags &&& (0x0FFF : UInt16) ∧
    tcp.getPayload = p.getPayload

/-! ## A segment as a frame -/

/-- Where the receiver looks for the header length is the high byte of the source port. -/
theorem getD_serialize_port (host : Endian) (p : TCPPacket) :
    (p.serialize host).1.getD 0 0 = hi16 p.getSourcePort := by
  cases host <;> simp [TCPPacket.serialize, TCPHeader.toMem, Endian.bytes16_htons,
    TCPPacket.setHeaderLength, TCPPacket.setFlags, TCPPacket.getSourcePort]

/-- Where it looks for the protocol is the second byte of the acknowledgement number. -/
theorem getD_serialize_ack (host : Endian) (p : TCPPacket) :
    (p.serialize host).1.getD 9 0 = lo16 (hi32 p.getAckNumber) := by
  cases host <;> simp [TCPPacket.serialize, TCPHeader.toMem, TCPPacket.setHeaderLength,
    TCPPacket.setFlags, TCPPacket.getAckNumber, Endian.htonl, Endian.bytes16, Endian.bytes32]

/-- The flags word is copied from the memory of one host to that of the other. -/
theorem load16_serialize_flags (sender receiver : Endian) (p : TCPPacket) :
    receiver.load16 (p.serialize sender).1 12 =
      if sender = receiver then p.setHeaderLength.getFlags
      else be16 (lo16 p.setHeaderLength.getFlags) (hi16 p.setHeaderLength.getFlags) := by
  cases sender <;> cases receiver <;> simp [TCPPacket.serialize, TCPHeader.toMem,
    TCPPacket.getFlags, Endian.load16, Endian.word16, Endian.bytes16, Endian.bytes32]

theorem getFlags_parse (host : Endian) {raw : Bytes} (len : 20 ≤ raw.length) :
    (TCPPacket.new.parse host raw).2.getFlags = host.load16 raw 12 := by
  rw [TCPPacket.parse, if_neg (by rw [TCPHeader.size]; omega)]
  dsimp only
  split <;> rfl

theorem length_serialize (host : Endian) (p : TCPPacket) :
    20 ≤ (p.serialize host).1.length := by
  simp [TCPPacket.serialize, TCPHeader.size]

/-! ## What a connection sends -/

/-- The answers to a packet: an acknowledgement, with the SYN flag or without. -/
def answer (flags : UInt16) (seq ack : UInt32) : TCPPacket :=
  ((TCPPacket.new.setFlags flags).setSequenceNumber seq).setAckNumber ack

/-- The bytes of an option are counted that is never written. -/
theorem getFlags_setHeaderLength_answer (flags : UInt16) (seq ack : UInt32) :
    (answer flags seq ack).setHeaderLength.getFlags =
      flags &&& (0x0FFF : UInt16) ||| (0x6000 : UInt16) := by
  have options : (answer flags seq ack).options = {} := rfl
  have len : (answer flags seq ack).optionsLen = 4 := by
    rw [TCPPacket.optionsLen, options]
    decide
  rw [TCPPacket.setHeaderLength, len]
  rfl

/-- Only an acknowledgement whose number reads as the protocol gets across, between hosts of one
byte order and as if from and to port 0. -/
theorem carried_answer_iff {c : TCPConnection} {flags : UInt16} {seq ack : UInt32}
    (kind : flags = tcpFlagAck ∨ flags = tcpFlagSyn ||| tcpFlagAck) :
    Carried sender receiver c (answer flags seq ack) ↔
      sender = receiver ∧ c.localPort = 0 ∧ c.remotePort = 0 ∧ lo16 (hi32 ack) = 6 := by
  have noHeader : headerLen ((answer flags seq ack).serialize sender).1 = 0 := by
    have port : (answer flags seq ack).getSourcePort = 0 := rfl
    rw [headerLen, getD_serialize_port, port]
    decide
  have protocol := getD_serialize_ack sender (answer flags seq ack)
  have length := length_serialize sender (answer flags seq ack)
  constructor
  · rintro ⟨tcp, decoded, -, source, dest, -, same, -⟩
    have parsed := decoded.parsed
    rw [noHeader, List.drop_zero] at parsed
    have host : sender = receiver := by
      by_contra ne
      have read := getFlags_parse receiver length
      have sent : (answer flags seq ack).getFlags = flags := rfl
      rw [parsed, load16_serialize_flags, if_neg ne, getFlags_setHeaderLength_answer] at read
      rw [read, sent] at same
      rcases kind with rfl | rfl
      · exact absurd same (by decide)
      · exact absurd same (by decide)
    subst host
    rw [TCPPacket.parse_serialize] at parsed
    cases parsed
    exact ⟨rfl, source.symm, dest.symm, protocol.symm.trans decoded.protocol⟩
  · rintro ⟨rfl, localPort, remotePort, number⟩
    have inside : headerLen ((answer flags seq ack).serialize sender).1 ≤
        ((answer flags seq ack).serialize sender).1.length := by omega
    have decoded : Decoded sender ((answer flags seq ack).serialize sender).1 _ :=
      ⟨length, protocol.trans number, inside, by
        rw [noHeader, List.drop_zero]
        exact TCPPacket.parse_serialize sender _⟩
    refine ⟨_, decoded, decoded.handles, localPort.symm, remotePort.symm, rfl, ?_, ?_⟩
    · exact TCPPacket.low_flags_setHeaderLength (answer flags seq ack)
    · exact List.drop_nil

theorem not_carried_of_ack {c : TCPConnection} {p : TCPPacket} (zero : p.getAckNumber = 0) :
    ¬ Carried sender receiver c p := by
  rintro ⟨tcp, decoded, -⟩
  have protocol := decoded.protocol
  rw [getD_serialize_ack, zero] at protocol
  exact absurd protocol (by decide)

/-- The number that a connection acknowledges when it answers a packet. -/
def acknowledged (c : TCPConnection) (p : TCPPacket) : UInt32 :=
  match c.state with
  | .closed | .listen => p.getSequenceNumber + 1
  | .synSent => p.getSequenceNumber + 1 + 1
  | _ => c.remoteSeqNum + 1

/-- What `handle_packet` sends is an answer. -/
theorem carried_answered_iff {now : Time} {q : TCPPacket} {c c' : TCPConnection}
    {sent : List TCPPacket} {p : TCPPacket} (h : TCPConnection.Transition now c q c' sent)
    (mem : p ∈ sent) :
    Carried sender receiver c' p ↔ sender = receiver ∧ c.localPort = 0 ∧ c.remotePort = 0 ∧
      lo16 (hi32 (acknowledged c q)) = 6 := by
  cases h with
  | passiveOpen hs =>
    cases List.mem_singleton.mp mem
    have number : acknowledged c q = q.getSequenceNumber + 1 := by
      rcases hs with hs | hs <;> simp only [acknowledged, hs]
    rw [number]
    exact carried_answer_iff (.inr rfl)
  | activeOpen hs =>
    cases List.mem_singleton.mp mem
    have number : acknowledged c q = q.getSequenceNumber + 1 + 1 := by
      simp only [acknowledged, hs]
    rw [number]
    exact carried_answer_iff (.inl rfl)
  | fin hs | peerFin hs =>
    cases List.mem_singleton.mp mem
    have number : acknowledged c q = c.remoteSeqNum + 1 := by simp only [acknowledged, hs]
    rw [number]
    exact carried_answer_iff (.inl rfl)
  | _ => cases mem

/-- Whatever the calls on a connection before, a segment that it sends arrives exactly when it
answers a packet, the number acknowledged has 6 for its second byte, both ports of the connection
are 0 and the hosts have the same byte order. -/
theorem carried_iff {isn : UInt32} {es : List (TCPConnection.Op × List TCPPacket)}
    {c c' : TCPConnection} {op : TCPConnection.Op} {sent : List TCPPacket} {p : TCPPacket}
    (run : Run TCPConnection.Step (.new isn) es c) (step : TCPConnection.Step c (op, sent) c')
    (mem : p ∈ sent) (sender receiver : Endian) :
    Carried sender receiver c' p ↔ ∃ now q, op = .handlePacket now q ∧ sender = receiver ∧
      c.localPort = 0 ∧ c.remotePort = 0 ∧ lo16 (hi32 (acknowledged c q)) = 6 := by
  cases step.effect with
  | packet h =>
    rw [carried_answered_iff h mem]
    constructor
    · intro fits
      exact ⟨_, _, rfl, fits⟩
    · rintro ⟨_, _, eq, fits⟩
      cases eq
      exact fits
  | synSent | synLost =>
    cases List.mem_singleton.mp mem
    refine iff_of_false (not_carried_of_ack rfl) ?_
    rintro ⟨_, _, eq, -⟩
    cases eq
  | closed => cases mem
  | sent call =>
    refine iff_of_false (not_carried_of_ack ((TCPConnection.send_outcome call).acks p mem).2) ?_
    rintro ⟨_, _, eq, -⟩
    cases eq
  | other same packet data quiet =>
    have inv : TCPConnection.Inv c := run.invariant _ (.new isn) fun _ _ _ h s => h.step s
    have nothing : sent = [] := quiet inv.unacked
    rw [nothing] at mem
    cases mem

/-- A SYN with a sequence number such that the one after it has the 6. -/
def syn : TCPPacket := (TCPPacket.new.setFlags tcpFlagSyn).setSequenceNumber 0x0005FFFF

/-- The SYN+ACK for it arrives. -/
theorem carried_synAck :
    Carried .little .little (((TCPConnection.new 7).handlePacket 0 syn).conn)
      (answer (tcpFlagSyn ||| tcpFlagAck) 7 0x00060000) := by
  have step : TCPConnection.Step (.new 7)
      (.handlePacket 0 syn, [answer (tcpFlagSyn ||| tcpFlagAck) 7 0x00060000])
      ((TCPConnection.new 7).handlePacket 0 syn).conn := rfl
  exact (carried_iff .nil step (List.mem_singleton_self _) .little .little).mpr
    ⟨0, syn, rfl, rfl, rfl, rfl, by decide⟩

/-- The SYN of a connection that opens does not: the receiver finds protocol 0. -/
theorem not_carried_syn :
    TCPConnection.Step (.new 7) (.connect 0x0A000001 80 true, [(TCPConnection.new 7).synPacket 80])
      ((TCPConnection.new 7).connect 0x0A000001 80 true).conn ∧
    ¬ Carried .little .little ((TCPConnection.new 7).connect 0x0A000001 80 true).conn
      ((TCPConnection.new 7).synPacket 80) ∧
    ∀ s now isn, processIncomingPacket .little s now isn
      (((TCPConnection.new 7).synPacket 80).serialize .little).1 = .ok s := by
  refine ⟨rfl, not_carried_of_ack rfl, ?_⟩
  intro s now isn
  rfl

end StackManager

end Lwip
