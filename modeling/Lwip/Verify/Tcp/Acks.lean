import Lwip.Verify.Tcp.Sending

/-! What a connection acknowledges, against the next number that it should expect from its peer.
That number is no field of the object: it is followed beside the run (`Tracked`). The SYN-ACK of a
passive open and the answer to a FIN out of order carry it; the ACK that completes an active open
is one too high, the answer to a FIN in order one too low, a data packet carries 0, and data is not
acknowledged at all. `acks_expected_iff` says that these are the only ways to go wrong. -/

namespace Lwip

namespace TCPConnection

variable {c c' : TCPConnection} {p : TCPPacket} {now : Time} {sent : List TCPPacket} {x : UInt32}

/-! ## The number expected -/

/-- The next number expected after a packet, if it was `x` before: a SYN that opens sets it, data
that is appended and a FIN in order move it. -/
def expectedAfter (c : TCPConnection) (p : TCPPacket) (c' : TCPConnection) (x : UInt32) : UInt32 :=
  match c.state with
  | .closed | .listen => if p.hasFlag tcpFlagSyn then p.getSequenceNumber + 1 else x
  | .synSent =>
    if c'.state = .established then
      p.getSequenceNumber + (if p.hasFlag tcpFlagSyn then 1 else 0)
    else x
  | .established | .finWait2 =>
    if p.hasFlag tcpFlagFin then
      if p.getSequenceNumber + UInt32.ofNat p.getPayloadSize = x then x + 1 else x
    else x + UInt32.ofNat (c'.receivedData.length - c.receivedData.length)
  | _ => x

/-- A connection and the next number that it expects. -/
structure Tracked where
  conn : TCPConnection
  expected : UInt32

def Tracked.Step (o : Tracked) (e : Op × List TCPPacket) (o' : Tracked) : Prop :=
  TCPConnection.Step o.conn e o'.conn ∧
    o'.expected = e.1.packet?.elim o.expected fun p => expectedAfter o.conn p o'.conn o.expected

/-- Every ACK that the call sends carries the number expected, and the call sends one when it
appends data. -/
structure AcksExpected (o : Tracked) (e : Op × List TCPPacket) (o' : Tracked) : Prop where
  number : ∀ q ∈ e.2, q.hasFlag tcpFlagAck = true → q.getAckNumber = o'.expected
  answer : o.conn.state = .established → e.1.packet?.isSome →
    o'.conn.receivedData ≠ o.conn.receivedData → ∃ q ∈ e.2, q.hasFlag tcpFlagAck = true

/-- The packet neither completes an active open nor is data or a FIN in its turn, as the code and
the peer count. -/
structure PacketSafe (c : TCPConnection) (p : TCPPacket) : Prop where
  activeOpen : c.state = .synSent → p.hasFlag (tcpFlagSyn ||| tcpFlagAck) = true →
    p.getAckNumber ≠ c.localSeqNum + 1
  data : c.state = .established → p.hasFlag tcpFlagFin = false → p.hasFlag tcpFlagAck = true →
    p.payload = [] ∨ p.getSequenceNumber ≠ c.remoteSeqNum
  fin : c.state = .established ∨ c.state = .finWait2 → p.hasFlag tcpFlagFin = true →
    p.getSequenceNumber + UInt32.ofNat p.getPayloadSize ≠ c.remoteSeqNum + 1

structure AckSafe (c : TCPConnection) (op : Op) : Prop where
  packet : ∀ p, op.packet? = some p → PacketSafe c p
  data : ∀ data, op.data? = some data → c.state = .established →
    data = [] ∨ c.remoteSeqNum + 1 = 0

/-- After a passive open the number expected is the one that `send_ack` and `send_syn_ack` send. -/
def Following (c : TCPConnection) (x : UInt32) : Prop :=
  c.state = .synReceived ∨ c.state = .established ∨ c.state = .finWait1 ∨ c.state = .finWait2 →
    x = c.remoteSeqNum + 1

theorem expectedAfter_ignored (h : c.wants p = false) :
    expectedAfter c p { c with lastActivity := now } x = x := by
  cases hs : c.state <;> simp_all [expectedAfter, wants]

theorem PacketSafe.of_ignored (h : c.wants p = false) : PacketSafe c p := by
  refine ⟨fun hs flag => ?_, fun hs _ ack => ?_, fun hs fin => ?_⟩
  · simp [wants, hs, flag] at h
  · simp [wants, hs, ack] at h
  · rcases hs with hs | hs <;> simp [wants, hs, fin] at h

/-- In the states that neither open actively nor receive. -/
theorem PacketSafe.of_state (synSent : c.state ≠ .synSent) (established : c.state ≠ .established)
    (finWait2 : c.state ≠ .finWait2) : PacketSafe c p :=
  ⟨fun hs => absurd hs synSent, fun hs => absurd hs established,
    fun hs => absurd hs (not_or.mpr ⟨established, finWait2⟩)⟩

theorem add_one_ne (x : UInt32) : x + 1 ≠ x := by
  intro h
  have h : x + 1 = x + 0 := by rw [h, UInt32.add_zero]
  exact absurd ((UInt32.add_right_inj x).mp h) (by decide)

theorem forall_ackPacket (c : TCPConnection) (x : UInt32) :
    (∀ q ∈ [c.ackPacket], q.hasFlag tcpFlagAck = true → q.getAckNumber = x) ↔
      c.remoteSeqNum + 1 = x := by
  have ack : c.ackPacket.hasFlag tcpFlagAck = true := hasFlag_ackPacket c tcpFlagAck
  simp only [List.mem_singleton, forall_eq, ack, true_imp_iff]
  rfl

theorem expectedAfter_fin (st : c.state = .established ∨ c.state = .finWait2)
    (fin : p.hasFlag tcpFlagFin = true) : expectedAfter c p c' x =
      if p.getSequenceNumber + UInt32.ofNat p.getPayloadSize = x then x + 1 else x := by
  rcases st with st | st <;> simp [expectedAfter, st, fin]

theorem expectedAfter_data (st : c.state = .established) (fin : p.hasFlag tcpFlagFin = false) :
    expectedAfter c p c' x =
      x + UInt32.ofNat (c'.receivedData.length - c.receivedData.length) := by
  simp [expectedAfter, st, fin]

/-- The answer to a FIN carries the number expected unless the FIN is in order. -/
theorem ack_of_fin_iff (st : c.state = .established ∨ c.state = .finWait2)
    (fin : p.hasFlag tcpFlagFin = true) (hx : Following c x) :
    (∀ q ∈ [c.ackPacket], q.hasFlag tcpFlagAck = true →
      q.getAckNumber = expectedAfter c p c' x) ↔ PacketSafe c p := by
  have follows : x = c.remoteSeqNum + 1 := hx (by rcases st with st | st <;> simp [st])
  rw [forall_ackPacket, expectedAfter_fin st fin, ← follows]
  refine ⟨fun number => ⟨fun hs => ?_, fun _ noFin => ?_, fun _ _ inOrder => ?_⟩, fun safe => ?_⟩
  · rcases st with st | st <;> simp [st] at hs
  · simp [fin] at noFin
  · rw [← follows] at inOrder
    rw [if_pos inOrder] at number
    exact add_one_ne x number.symm
  · rw [if_neg (follows ▸ safe.fin st fin)]

/-- What a data packet does to what has been received, when it is safe. -/
theorem data_received_iff (st : c.state = .established) (fin : p.hasFlag tcpFlagFin = false)
    (ack : p.hasFlag tcpFlagAck = true) :
    (({ c with lastActivity := now }.handleData p).updateWindow p).receivedData = c.receivedData ↔
      PacketSafe c p := by
  obtain ⟨_, _, hw⟩ := updateWindow_frame ({ c with lastActivity := now }.handleData p) p
  rw [hw]
  have safe (h : p.payload = [] ∨ p.getSequenceNumber ≠ c.remoteSeqNum) : PacketSafe c p := by
    refine ⟨fun hs => ?_, fun _ _ _ => h, fun _ fin' => ?_⟩
    · simp [st] at hs
    · simp [fin] at fin'
  rcases handleData_cases { c with lastActivity := now } p with
    ⟨nil, hd⟩ | ⟨ne, inOrder, hd⟩ | ⟨-, later, hd⟩ <;> rw [hd]
  · exact iff_of_true rfl (safe (.inl nil))
  · refine iff_of_false (fun same => ?_) fun safe => ?_
    · have same : c.receivedData ++ p.payload = c.receivedData := same
      exact ne (List.append_right_eq_self.mp same)
    · rcases safe.data st fin ack with nil | later
      · exact ne nil
      · exact later inOrder
  · exact iff_of_true rfl (safe (.inr later))

theorem data_remoteSeqNum (safe : PacketSafe c p) (st : c.state = .established)
    (fin : p.hasFlag tcpFlagFin = false) (ack : p.hasFlag tcpFlagAck = true) :
    (({ c with lastActivity := now }.handleData p).updateWindow p).remoteSeqNum =
      c.remoteSeqNum := by
  obtain ⟨_, _, hw⟩ := updateWindow_frame ({ c with lastActivity := now }.handleData p) p
  rw [hw]
  rcases handleData_cases { c with lastActivity := now } p with
    ⟨-, hd⟩ | ⟨ne, inOrder, hd⟩ | ⟨-, -, hd⟩ <;> rw [hd]
  · rcases safe.data st fin ack with nil | later
    · exact absurd nil ne
    · exact absurd inOrder later
  · rfl

theorem Transition.acks_iff (h : Transition now c p c' sent) (hx : Following c x) :
    ((∀ q ∈ sent, q.hasFlag tcpFlagAck = true → q.getAckNumber = expectedAfter c p c' x) ∧
      (c.state = .established → c'.receivedData ≠ c.receivedData →
        ∃ q ∈ sent, q.hasFlag tcpFlagAck = true)) ↔ PacketSafe c p := by
  cases h with
  | ignored h => exact iff_of_true ⟨by simp, fun _ ne => absurd rfl ne⟩ (.of_ignored h)
  | passiveOpen st syn =>
    refine iff_of_true ⟨fun q hq _ => ?_, fun _ ne => absurd rfl ne⟩ ?_
    · rw [List.mem_singleton.mp hq]
      rcases st with st | st <;> simp only [expectedAfter, st, syn, if_true] <;> rfl
    · rcases st with st | st <;> exact .of_state (by simp [st]) (by simp [st]) (by simp [st])
  | wrongAck st flag ack =>
    exact iff_of_true ⟨by simp, fun _ ne => absurd rfl ne⟩
      ⟨fun _ _ => ack, by simp [st], by simp [st]⟩
  | activeOpen st flag ack =>
    refine iff_of_false (fun h => ?_) fun safe => safe.activeOpen st flag ack
    -- the number is the packet's plus 2, and the packet counts for 1 at most
    have number := (forall_ackPacket _ _).mp h.1
    simp only [expectedAfter, st, if_true] at number
    rw [UInt32.add_assoc, UInt32.add_right_inj] at number
    split at number <;> exact absurd number (by decide)
  | opened st | finAcked st | closingAcked st | lastAcked st =>
    exact iff_of_true ⟨by simp, fun _ ne => absurd rfl ne⟩
      (.of_state (by simp [st]) (by simp [st]) (by simp [st]))
  | fin st fin =>
    rw [← ack_of_fin_iff (.inl st) fin hx]
    exact and_iff_left fun _ ne => absurd rfl ne
  | peerFin st fin =>
    rw [← ack_of_fin_iff (.inr st) fin hx]
    exact and_iff_left fun _ ne => absurd rfl ne
  | data st fin ack =>
    rw [← data_received_iff st fin ack]
    refine ⟨fun h => ?_, fun same => ⟨by simp, fun _ ne => absurd same ne⟩⟩
    by_contra ne
    obtain ⟨q, hq, -⟩ := h.2 st ne
    cases hq

theorem Following.transition (hx : Following c x) (h : Transition now c p c' sent)
    (safe : PacketSafe c p) : Following c' (expectedAfter c p c' x) := by
  cases h with
  | ignored h => rwa [expectedAfter_ignored h]
  | passiveOpen st syn =>
    intro _
    rcases st with st | st <;> simp [expectedAfter, st, syn]
  | wrongAck st => exact fun hs => by simp [st] at hs
  | activeOpen st flag ack => exact absurd ack (safe.activeOpen st flag)
  | opened st | finAcked st =>
    intro _
    simpa [expectedAfter, st] using hx (by simp [st])
  | fin | peerFin | closingAcked | lastAcked => exact fun hs => by simp at hs
  | data st fin ack =>
    intro _
    have received : (({ c with lastActivity := now }.handleData p).updateWindow p).receivedData =
        c.receivedData := (data_received_iff st fin ack).mpr safe
    rw [data_remoteSeqNum safe st fin ack, expectedAfter_data st fin, received, Nat.sub_self]
    simpa using hx (by simp [st])

/-! ## Runs -/

/-- The packets of `send` carry the acknowledgment number 0. -/
theorem send_acks_iff {data : Bytes} {now : Nat → Time} {ok : Nat → Bool} {fuel : Nat}
    {r : Call Bool} (unacked : c.unackedSegments = [])
    (call : c.send data now ok fuel = some r) :
    (∀ q ∈ r.sent, q.hasFlag tcpFlagAck = true → q.getAckNumber = x) ↔
      (c.state = .established → data = [] ∨ x = 0) := by
  have acks := (send_outcome call).acks
  have some_iff := send_nonempty_iff unacked call
  refine ⟨fun h st => ?_, fun h q hq _ => ?_⟩
  · by_cases none : data = []
    · exact .inl none
    · obtain ⟨q, hq⟩ := List.exists_mem_of_ne_nil _ (some_iff.mpr ⟨st, none⟩)
      have ack := TCPPacket.hasFlag_of_flags (acks q hq).1 tcpFlagAck
      rw [← h q hq ack, (acks q hq).2]
      exact .inr rfl
  · obtain ⟨st, some⟩ := some_iff.mp (List.ne_nil_of_mem hq)
    rw [(acks q hq).2, (h st).resolve_left some]

theorem AckSafe.of_other {op : Op} (packet : op.packet? = none) (data : op.data? = none) :
    AckSafe c op := by
  refine ⟨fun p hp => ?_, fun d hd => ?_⟩
  · rw [packet] at hp
    cases hp
  · rw [data] at hd
    cases hd

theorem Tracked.Step.acks_iff {o o' : Tracked} {e : Op × List TCPPacket} (h : o.Step e o')
    (inv : Inv o.conn) (hx : Following o.conn o.expected) :
    AcksExpected o e o' ↔ AckSafe o.conn e.1 := by
  obtain ⟨c, x⟩ := o
  obtain ⟨c', x'⟩ := o'
  obtain ⟨op, sent⟩ := e
  obtain ⟨step, expected⟩ := h
  dsimp only at step expected inv hx ⊢
  have silent (packet : op.packet? = none) (data : op.data? = none)
      (noAck : ∀ q ∈ sent, q.hasFlag tcpFlagAck = false) :
      AcksExpected ⟨c, x⟩ (op, sent) ⟨c', x'⟩ ↔ AckSafe c op := by
    refine iff_of_true ⟨fun q hq ack => ?_, fun _ some => ?_⟩ (.of_other packet data)
    · rw [noAck q hq] at ack
      cases ack
    · simp [packet] at some
  have effect : Effect c op sent c' := step.effect
  cases effect with
  | @packet now p _ _ ht =>
    have same := ht.acks_iff hx
    obtain rfl : x' = expectedAfter c p c' x := expected
    refine ⟨fun acks => ⟨fun q hq => ?_, fun d hd => by cases hd⟩, fun safe => ?_⟩
    · cases hq
      exact same.mp ⟨acks.number, fun st => acks.answer st rfl⟩
    · have acks := same.mpr (safe.packet p rfl)
      exact ⟨acks.1, fun st _ => acks.2 st⟩
  | synSent | synLost =>
    refine silent rfl rfl fun q hq => ?_
    rw [List.mem_singleton.mp hq]
    exact hasFlag_synPacket c _ _
  | closed => exact silent rfl rfl (by simp)
  | @sent data _ _ _ r call =>
    obtain rfl : x' = x := expected
    have same := send_acks_iff (x := x') inv.unacked call
    refine ⟨fun acks => ⟨?_, fun d hd st => ?_⟩, fun safe => ⟨?_, ?_⟩⟩
    · exact fun p hp => by cases hp
    · cases hd
      have follows := hx (.inr (.inl st))
      exact follows ▸ same.mp acks.number st
    · refine same.mpr fun st => ?_
      have follows := hx (.inr (.inl st))
      exact follows ▸ safe.data data rfl st
    · exact fun _ some => by cases some
  | other _ packet data quiet =>
    refine silent packet data fun q hq => ?_
    rw [quiet inv.unacked] at hq
    cases hq

theorem Following.step {o o' : Tracked} {e : Op × List TCPPacket} (h : o.Step e o')
    (hx : Following o.conn o.expected) (safe : AckSafe o.conn e.1) :
    Following o'.conn o'.expected := by
  obtain ⟨c, x⟩ := o
  obtain ⟨c', x'⟩ := o'
  obtain ⟨op, sent⟩ := e
  obtain ⟨step, expected⟩ := h
  dsimp only at step expected hx safe ⊢
  have effect : Effect c op sent c' := step.effect
  cases effect with
  | @packet now p _ _ ht =>
    obtain rfl : x' = expectedAfter c p c' x := expected
    exact hx.transition ht (safe.packet p rfl)
  | synSent => exact fun hs => by simp at hs
  | synLost st => exact fun hs => by simp [st] at hs
  | closed st =>
    obtain rfl : x' = x := expected
    exact fun _ => hx (.inr (.inl st))
  | sent call =>
    obtain rfl : x' = x := expected
    obtain ⟨_, _, _, hc⟩ := send_frame call
    rw [hc]
    exact hx
  | other same packet =>
    rw [packet] at expected
    obtain rfl : x' = x := expected
    intro hs
    rw [same.state] at hs
    rw [same.remoteSeqNum]
    exact hx hs

/-- In a run every ACK carries the number expected, and data is acknowledged when it is appended,
exactly when no active open completes, no data and no FIN arrives in its turn, and no data is sent
(unless the peer's numbers are such that 0 is the one to acknowledge). -/
theorem acks_expected_iff {isn : UInt32} {es : List (Op × List TCPPacket)} {o : Tracked} :
    Run (fun o e o' => o.Step e o' ∧ AcksExpected o e o') ⟨new isn, 0⟩ es o ↔
      Run (fun o e o' => o.Step e o' ∧ AckSafe o.conn e.1) ⟨new isn, 0⟩ es o := by
  apply Run.law_iff_guard (fun o => Inv o.conn ∧ Following o.conn o.expected)
    ⟨.new isn, fun hs => by simp [new] at hs⟩
  · intro o e o' inv h safe
    exact ⟨inv.1.step h.1, inv.2.step h safe⟩
  · intro o e o' inv h
    exact h.acks_iff inv.1 inv.2

/-- After an active open on number 300 the ACK that completes it carries 302, not 301, and a byte
that is then appended is not acknowledged. -/
theorem acks_unexpected :
    (∃ es, Run Tracked.Step ⟨new 100, 0⟩ es ⟨openedBy 100 300, 301⟩ ∧
      (openedBy 100 300).ackPacket ∈ emitted es ∧
      (openedBy 100 300).ackPacket.hasFlag tcpFlagAck = true ∧
      (openedBy 100 300).ackPacket.getAckNumber = 302) ∧
    ((openedBy 100 300).handlePacket 0 (peerData 301 [1])).conn.receivedData = [1] ∧
      ((openedBy 100 300).handlePacket 0 (peerData 301 [1])).sent = [] := by
  have connected : Tracked.Step ⟨new 100, 0⟩ (.connect 1 80 true, [(new 100).synPacket 80])
      ⟨((new 100).connect 1 80 true).conn, 0⟩ := ⟨rfl, rfl⟩
  have opened : Tracked.Step ⟨((new 100).connect 1 80 true).conn, 0⟩
      (.handlePacket 0 (peerSynAck 300 101), [(openedBy 100 300).ackPacket])
      ⟨openedBy 100 300, 301⟩ := ⟨rfl, rfl⟩
  have number : (openedBy 100 300).ackPacket.getAckNumber = 302 := by
    rw [openedBy_eq]
    rfl
  refine ⟨⟨_, (Run.single connected).snoc opened, by simp [emitted], hasFlag_ackPacket _ _, number⟩,
    ?_, ?_⟩
  · rw [openedBy_eq]
    rfl
  · rw [openedBy_eq]
    rfl

end TCPConnection

end Lwip
