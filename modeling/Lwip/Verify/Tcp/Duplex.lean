import Lwip.Verify.Tcp.Step

/-! Two connections joined by lossless FIFO channels: `a` opens actively, `b` answers from
CLOSED. The active side counts its SYN in `local_seq_num_` and the peer's SYN in
`remote_seq_num_`; the passive side counts neither. The joint invariant `Duplex.Inv` follows the
two counters of the direction from `a` to `b`: they stay one apart for every byte that `b` has
accepted, so the two ends never agree. -/

namespace Lwip

open TCPConnection

structure Duplex where
  a : TCPConnection
  b : TCPConnection
  /-- packets from `a` to `b`, oldest first -/
  ab : List TCPPacket
  ba : List TCPPacket
  /-- the data given to `send` so far -/
  sentA : Bytes := []
  sentB : Bytes := []

namespace Duplex

inductive Event where
  | deliverA (now : Time)
  | deliverB (now : Time)
  | sendA (data : Bytes)
  | sendB (data : Bytes)

/-- The deliveries, and the calls of `send` with fewer than 65536 bytes on an ESTABLISHED side;
every `send_packet` succeeds. -/
inductive Step : Duplex → Event → Duplex → Prop where
  | deliverA {s : Duplex} {p : TCPPacket} {rest : List TCPPacket} (now : Time)
      (head : s.ba = p :: rest) :
    Step s (.deliverA now) { s with
      a := (s.a.handlePacket now p).conn
      ba := rest
      ab := s.ab ++ (s.a.handlePacket now p).sent }
  | deliverB {s : Duplex} {p : TCPPacket} {rest : List TCPPacket} (now : Time)
      (head : s.ab = p :: rest) :
    Step s (.deliverB now) { s with
      b := (s.b.handlePacket now p).conn
      ab := rest
      ba := s.ba ++ (s.b.handlePacket now p).sent }
  | sendA {s : Duplex} {data : Bytes} {now : Nat → Time} {fuel : Nat} {r : Call Bool}
      (state : s.a.state = .established) (short : data.length < 65536)
      (call : s.a.send data now (fun _ => true) fuel = some r) :
    Step s (.sendA data)
      { s with a := r.conn, ab := s.ab ++ r.sent, sentA := s.sentA ++ data }
  | sendB {s : Duplex} {data : Bytes} {now : Nat → Time} {fuel : Nat} {r : Call Bool}
      (state : s.b.state = .established) (short : data.length < 65536)
      (call : s.b.send data now (fun _ => true) fuel = some r) :
    Step s (.sendB data)
      { s with b := r.conn, ba := s.ba ++ r.sent, sentB := s.sentB ++ data }

/-- `a` has called `connect`, and its SYN is on the way. -/
def start (a b : TCPConnection) (remoteIp : UInt32) (remotePort : UInt16) : Duplex where
  a := (a.connect remoteIp remotePort true).conn
  b := b
  ab := (a.connect remoteIp remotePort true).sent
  ba := []

/-- The ends agree on both sequence numbers, and each has received what the other sent. -/
structure Agree (s : Duplex) : Prop where
  seqBA : s.a.remoteSeqNum = s.b.localSeqNum
  seqAB : s.b.remoteSeqNum = s.a.localSeqNum
  dataA : s.a.receivedData = s.sentB
  dataB : s.b.receivedData = s.sentA

/-- Both sides are ESTABLISHED and nothing is on the way. -/
structure Quiet (s : Duplex) : Prop where
  stateA : s.a.state = .established
  stateB : s.b.state = .established
  ab : s.ab = []
  ba : s.ba = []

/-- The counters of the direction from `a` to `b`, where `isn` is the number of the SYN. -/
structure Inv (isn : UInt32) (s : Duplex) : Prop where
  sender : (s.a.state = .synSent ∧ s.a.localSeqNum = isn ∧ s.sentA = []) ∨
    ((s.a.state = .established ∨ s.a.state = .closeWait) ∧
      s.a.localSeqNum = seqAt (isn + 1) s.sentA.length)
  receiver : (s.b.state = .closed ∧ s.b.receivedData = []) ∨
    ((s.b.state = .synReceived ∨ s.b.state = .established ∨ s.b.state = .closeWait) ∧
      s.b.remoteSeqNum = seqAt isn s.b.receivedData.length)
  syn : ∀ p ∈ s.ab, p.hasFlag tcpFlagSyn = true → p.getSequenceNumber = isn
  unacked : s.a.unackedSegments = []

variable {isn : UInt32} {s s' : Duplex} {now : Time}

theorem not_syn_of_ack {p : TCPPacket} (h : p.getFlags = tcpFlagAck) :
    p.hasFlag tcpFlagSyn = false :=
  TCPPacket.hasFlag_of_flags h tcpFlagSyn

/-- Packets without the SYN flag may join the channel. -/
theorem Inv.syn_append (h : Inv isn s) {sent : List TCPPacket}
    (hs : ∀ p ∈ sent, p.hasFlag tcpFlagSyn = false) :
    ∀ p ∈ s.ab ++ sent, p.hasFlag tcpFlagSyn = true → p.getSequenceNumber = isn := by
  intro p hp syn
  rcases List.mem_append.mp hp with hp | hp
  · exact h.syn p hp syn
  · rw [hs p hp] at syn
    cases syn

/-- The passive side accepts a packet: its counter follows what it has received. -/
theorem Inv.receive (h : Inv isn s) {p : TCPPacket} {b : TCPConnection} {sent : List TCPPacket}
    (hsyn : p.hasFlag tcpFlagSyn = true → p.getSequenceNumber = isn)
    (ht : Transition now s.b p b sent) :
    (b.state = .closed ∧ b.receivedData = []) ∨
      ((b.state = .synReceived ∨ b.state = .established ∨ b.state = .closeWait) ∧
        b.remoteSeqNum = seqAt isn b.receivedData.length) := by
  have hr := h.receiver
  cases ht with
  | ignored => exact hr
  | passiveOpen st syn =>
    rcases hr with ⟨-, hrec⟩ | ⟨st', -⟩
    · refine .inr ⟨.inl rfl, ?_⟩
      simp [hsyn syn, hrec]
    · rcases st with st | st <;> simp [st] at st'
  | opened st | fin st =>
    rcases hr with ⟨st', -⟩ | ⟨-, hseq⟩
    · simp [st] at st'
    · exact .inr ⟨by simp, hseq⟩
  | data st =>
    rcases hr with ⟨st', -⟩ | ⟨-, hseq⟩
    · simp [st] at st'
    obtain ⟨_, _, hw⟩ := updateWindow_frame ({ s.b with lastActivity := now }.handleData p) p
    rw [hw]
    refine .inr ?_
    rcases handleData_cases { s.b with lastActivity := now } p with
      ⟨-, hd⟩ | ⟨-, -, hd⟩ | ⟨-, -, hd⟩ <;> rw [hd]
    · exact ⟨.inr (.inl st), hseq⟩
    · refine ⟨.inr (.inl st), ?_⟩
      simp only [processInOrderData, List.length_append]
      rw [seqAt_add, ← hseq]
      rfl
    · exact ⟨.inr (.inl st), hseq⟩
  | wrongAck st | activeOpen st | finAcked st | peerFin st | closingAcked st | lastAcked st =>
    rcases hr with ⟨st', -⟩ | ⟨st', -⟩ <;> simp [st] at st'

/-- The active side accepts a packet: its own counter moves past the SYN and no further. -/
theorem Inv.answer (h : Inv isn s) {p : TCPPacket} {a : TCPConnection} {sent : List TCPPacket}
    (ht : Transition now s.a p a sent) :
    ((a.state = .synSent ∧ a.localSeqNum = isn ∧ s.sentA = []) ∨
      ((a.state = .established ∨ a.state = .closeWait) ∧
        a.localSeqNum = seqAt (isn + 1) s.sentA.length)) ∧
      a.unackedSegments = [] ∧ ∀ q ∈ sent, q.hasFlag tcpFlagSyn = false := by
  have hu := h.unacked
  have ack : ∀ c : TCPConnection, ∀ q ∈ [c.ackPacket], q.hasFlag tcpFlagSyn = false := by
    intro c q hq
    cases List.mem_singleton.mp hq
    exact hasFlag_ackPacket c tcpFlagSyn
  cases ht with
  | ignored => exact ⟨h.sender, hu, by simp⟩
  | wrongAck => exact ⟨h.sender, hu, by simp⟩
  | activeOpen st =>
    rcases h.sender with ⟨-, hseq, hsent⟩ | ⟨st', -⟩
    · refine ⟨.inr ⟨.inl rfl, ?_⟩, hu, ack _⟩
      simp [hseq, hsent]
    · simp [st] at st'
  | fin st =>
    rcases h.sender with ⟨st', -⟩ | ⟨-, hseq⟩
    · simp [st] at st'
    · exact ⟨.inr ⟨.inr rfl, hseq⟩, hu, ack _⟩
  | data st =>
    rcases h.sender with ⟨st', -⟩ | ⟨-, hseq⟩
    · simp [st] at st'
    obtain ⟨_, _, _, _, _, hd⟩ := data_frame { s.a with lastActivity := now } p
    rw [hd]
    exact ⟨.inr ⟨.inl st, hseq⟩, hu, by simp⟩
  | passiveOpen st =>
    rcases h.sender with ⟨st', -⟩ | ⟨st', -⟩ <;> rcases st with st | st <;> simp [st] at st'
  | opened st | finAcked st | peerFin st | closingAcked st | lastAcked st =>
    rcases h.sender with ⟨st', -⟩ | ⟨st', -⟩ <;> simp [st] at st'

/-- A call of `send` on the active side moves its counter by the length of the data. -/
theorem Inv.send (h : Inv isn s) {data : Bytes} {now : Nat → Time} {fuel : Nat} {r : Call Bool}
    (st : s.a.state = .established) (call : s.a.send data now (fun _ => true) fuel = some r) :
    r.conn.state = .established ∧
      r.conn.localSeqNum = seqAt (isn + 1) (s.sentA ++ data).length ∧
      r.conn.unackedSegments = [] := by
  have hseq : s.a.localSeqNum = seqAt (isn + 1) s.sentA.length := by
    rcases h.sender with ⟨st', -⟩ | ⟨-, hseq⟩
    · simp [st] at st'
    · exact hseq
  rcases send_cases call with ⟨st', -⟩ | ⟨-, pos, -⟩ | ⟨t, -, ht, ⟨all, rfl⟩ | ⟨_, fail, -⟩⟩
  · exact absurd st st'
  · simp [unackedData, h.unacked] at pos
  · obtain ⟨queue, hc⟩ := ht.conn
    rw [hc, all]
    refine ⟨st, ?_, h.unacked⟩
    rw [List.length_append, seqAt_add, ← hseq]
    rfl
  · cases fail

theorem Inv.step {e : Event} (h : Inv isn s) (hs : Step s e s') : Inv isn s' := by
  cases hs with
  | deliverA now head =>
    obtain ⟨hsender, hu, hsent⟩ := h.answer (handlePacket_transition s.a now _)
    exact ⟨hsender, h.receiver, h.syn_append hsent, hu⟩
  | deliverB now head =>
    have hsyn := fun p hp => h.syn p (head ▸ hp)
    exact ⟨h.sender,
      h.receive (hsyn _ List.mem_cons_self) (handlePacket_transition s.b now _),
      fun p hp => hsyn p (List.mem_cons_of_mem _ hp), h.unacked⟩
  | sendA st _ call =>
    obtain ⟨hst, hseq, hu⟩ := h.send st call
    exact ⟨.inr ⟨.inl hst, hseq⟩, h.receiver,
      h.syn_append fun p hp => not_syn_of_ack (send_flags call p hp), hu⟩
  | sendB st _ call =>
    obtain ⟨_, _, _, hc⟩ := send_frame call
    exact ⟨h.sender, by rw [hc]; exact h.receiver, h.syn, h.unacked⟩

theorem connect_closed {a : TCPConnection} (sa : a.state = .closed) (remoteIp : UInt32)
    (remotePort : UInt16) : a.connect remoteIp remotePort true =
      ⟨true, { a with remoteIp, remotePort, state := .synSent }, [a.synPacket remotePort]⟩ := by
  rw [connect]
  rw [if_neg (not_not.mpr sa)]
  rfl

theorem Inv.start {a b : TCPConnection} {remoteIp : UInt32} {remotePort : UInt16}
    (ha : Reachable a) (hb : Reachable b) (sa : a.state = .closed) (sb : b.state = .closed) :
    Inv a.localSeqNum (start a b remoteIp remotePort) := by
  have hc := connect_closed sa remoteIp remotePort
  refine ⟨?_, .inl ⟨sb, (hb.inv.opening (.inl sb)).1⟩, ?_, ?_⟩
  · simp [Duplex.start, hc]
  · intro p hp _
    simp only [Duplex.start, hc, List.mem_singleton] at hp
    rw [hp]
    rfl
  · simp [Duplex.start, hc, ha.inv.unacked]

/-- The three-way handshake reaches a quiet state, from any two closed ends. -/
theorem handshake_run {a b : TCPConnection} (remoteIp : UInt32) (remotePort : UInt16)
    (sa : a.state = .closed) (sb : b.state = .closed) : ∃ s,
    Run Step (start a b remoteIp remotePort) [.deliverB 0, .deliverA 0, .deliverB 0] s ∧
      Quiet s := by
  let a₁ : TCPConnection := { a with remoteIp, remotePort, state := .synSent }
  let b₁ : TCPConnection :=
    { b with lastActivity := 0, remoteSeqNum := a.localSeqNum, state := .synReceived }
  let a₂ : TCPConnection :=
    { a₁ with
      lastActivity := 0
      localSeqNum := a.localSeqNum + 1
      remoteSeqNum := b.localSeqNum + 1
      state := .established }
  have hb₁ : b.handlePacket 0 (a.synPacket remotePort) = ⟨true, b₁, [b₁.synAckPacket]⟩ := by
    have syn : (a.synPacket remotePort).hasFlag tcpFlagSyn = true :=
      hasFlag_synPacket a remotePort tcpFlagSyn
    simp only [handlePacket, sb, syn, if_true]
    rfl
  have ha₂ : a₁.handlePacket 0 b₁.synAckPacket = ⟨true, a₂, [a₂.ackPacket]⟩ := by
    have synAck : b₁.synAckPacket.hasFlag (tcpFlagSyn ||| tcpFlagAck) = true :=
      hasFlag_synAckPacket b₁ (tcpFlagSyn ||| tcpFlagAck)
    have number : b₁.synAckPacket.getAckNumber = a.localSeqNum + 1 := rfl
    simp only [a₁, handlePacket, synAck, number, if_true]
    rfl
  have hb₂ : b₁.handlePacket 0 a₂.ackPacket = ⟨true, { b₁ with state := .established }, []⟩ := by
    have ack : a₂.ackPacket.hasFlag tcpFlagAck = true := hasFlag_ackPacket a₂ tcpFlagAck
    simp only [b₁, handlePacket, ack, if_true]
  have run₀ : Run Step (start a b remoteIp remotePort) []
      ⟨a₁, b, [a.synPacket remotePort], [], [], []⟩ := by
    rw [start, connect_closed sa]
    exact .nil
  have run₁ := run₀.snoc (.deliverB 0 rfl)
  simp only [hb₁] at run₁
  have run₂ := run₁.snoc (.deliverA 0 rfl)
  simp only [ha₂] at run₂
  have run₃ := run₂.snoc (.deliverB 0 rfl)
  simp only [hb₂] at run₃
  exact ⟨_, run₃, ⟨rfl, rfl, rfl, rfl⟩⟩

/-- Quiet states are reached, and the two ends agree in none of them. -/
theorem quiet_not_agree {a b : TCPConnection} (remoteIp : UInt32) (remotePort : UInt16)
    (ha : Reachable a) (hb : Reachable b) (sa : a.state = .closed) (sb : b.state = .closed) :
    (∃ es s, Run Step (start a b remoteIp remotePort) es s ∧ Quiet s) ∧
      ∀ es s, Run Step (start a b remoteIp remotePort) es s → Quiet s → ¬ Agree s := by
  refine ⟨⟨_, handshake_run remoteIp remotePort sa sb⟩, fun es s run quiet agree => ?_⟩
  have h : Inv a.localSeqNum s :=
    run.invariant _ (Inv.start ha hb sa sb) fun _ _ _ ht hs => ht.step hs
  have hseqA : s.a.localSeqNum = seqAt (a.localSeqNum + 1) s.sentA.length := by
    rcases h.sender with ⟨st, -⟩ | ⟨-, hseq⟩
    · simp [quiet.stateA] at st
    · exact hseq
  have hseqB : s.b.remoteSeqNum = seqAt a.localSeqNum s.b.receivedData.length := by
    rcases h.receiver with ⟨st, -⟩ | ⟨-, hseq⟩
    · simp [quiet.stateB] at st
    · exact hseq
  -- what was received is what was sent, so the counters differ by the SYN alone
  have := agree.seqAB
  rw [hseqA, hseqB, agree.dataB, seqAt, seqAt] at this
  grind

theorem reachable_new (isn : UInt32) : Reachable (new isn) := ⟨isn, [], .nil⟩

theorem quiet_not_agree_new : ∃ es s,
    Run Step (start (new 100) (new 300) 1 80) es s ∧ Quiet s ∧ ¬ Agree s := by
  obtain ⟨⟨es, s, run, quiet⟩, never⟩ :=
    quiet_not_agree 1 80 (reachable_new 100) (reachable_new 300) rfl rfl
  exact ⟨es, s, run, quiet, never es s run quiet⟩

/-- After the handshake both ends are off by one, each in its own direction. -/
theorem handshake_disagrees : ∃ s,
    Run Step (start (new 100) (new 300) 1 80) [.deliverB 0, .deliverA 0, .deliverB 0] s ∧
      Quiet s ∧ s.a.remoteSeqNum ≠ s.b.localSeqNum ∧ s.b.remoteSeqNum ≠ s.a.localSeqNum ∧
      ¬ Agree s := by
  refine ⟨_, .snoc (.snoc (.snoc .nil (.deliverB 0 rfl)) (.deliverA 0 rfl)) (.deliverB 0 rfl),
    ⟨rfl, rfl, rfl, rfl⟩, by decide, by decide, fun agree => ?_⟩
  exact absurd agree.seqAB (by decide)

end Duplex

end Lwip
