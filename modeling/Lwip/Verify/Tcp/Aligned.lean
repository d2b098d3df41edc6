import Lwip.Std.Ranking
import Lwip.Verify.Tcp.Duplex
import Lwip.Verify.Tcp.Sending

/-! Two ESTABLISHED ends that agree on the sequence numbers, joined by lossless FIFO channels.
What one end has received and what is on the way to it are what its peer has sent
(`Duplex.aligned_conserves`): the ends that no handshake brings together (`Duplex.quiet_not_agree`)
would keep agreeing once they do. -/

namespace Lwip

open TCPConnection

namespace TCPConnection

variable {c c' r r' : TCPConnection} {p : TCPPacket} {q rest sent : List TCPPacket} {now : Time}
  {n : UInt32} {before stream data : Bytes} {time : Nat → Time} {fuel : Nat} {call : Call Bool}

/-- With every packet going out and nothing held back, a call sends all its data. -/
theorem send_all (unacked : c.unackedSegments = []) (st : c.state = .established)
    (h : c.send data time (fun _ => true) fuel = some call) :
    call.sent.flatMap (·.getPayload) = data := by
  rcases send_loop h with ⟨st', -⟩ | ⟨-, pending, -⟩ | ⟨-, run⟩
  · exact absurd st st'
  · simp [unackedData, unacked] at pending
  · obtain ⟨s, inv, hb⟩ := Loop.run_invariant (Progressing data (fun _ => true) c)
      (fun _ _ h hb => h.turn hb) (.start data _ c) run
    rcases sendTurn_done hb with ⟨-, fail, -⟩ | ⟨all, rfl⟩
    · cases fail
    · rw [List.flatMap_def, inv.payloads, List.take_of_length_le all]

/-- One direction: `q` is on the way to `r`, up to the number `n`, and after `before` all of
`stream` has been received or is in `q`. -/
structure Flow (before stream : Bytes) (n : UInt32) (q : List TCPPacket) (r : TCPConnection) :
    Prop where
  tiles : Tiles r.remoteSeqNum q n
  flags : ∀ p ∈ q, p.getFlags = tcpFlagAck
  data : r.receivedData ++ q.flatMap (·.getPayload) = before ++ stream

/-- The expected packet is taken, with or without data in it. -/
theorem handleData_expected (seq : p.getSequenceNumber = c.remoteSeqNum) :
    (c.handleData p).remoteSeqNum = c.remoteSeqNum + UInt32.ofNat p.getPayloadSize ∧
      (c.handleData p).receivedData = c.receivedData ++ p.getPayload := by
  rcases handleData_cases c p with ⟨none, hd⟩ | ⟨-, -, hd⟩ | ⟨-, other, -⟩
  · simp [hd, TCPPacket.getPayloadSize, TCPPacket.getPayload, none]
  · rw [hd]
    exact ⟨rfl, rfl⟩
  · exact absurd seq other

theorem Flow.deliver (h : Flow before stream n (p :: rest) r) (st : r.state = .established)
    (ht : Transition now r p r' sent) :
    Flow before stream n rest r' ∧ r'.state = .established ∧ r'.localSeqNum = r.localSeqNum ∧
      sent = [] := by
  have flags := h.flags p List.mem_cons_self
  have fin : p.hasFlag tcpFlagFin = false := TCPPacket.hasFlag_of_flags flags tcpFlagFin
  have ack : p.hasFlag tcpFlagAck = true := TCPPacket.hasFlag_of_flags flags tcpFlagAck
  obtain ⟨rfl, rfl⟩ : r' = ({ r with lastActivity := now }.handleData p).updateWindow p ∧
      sent = [] := by
    cases ht with
    | data => exact ⟨rfl, rfl⟩
    | ignored ig => simp [wants, st, ack] at ig
    | fin _ fin' => simp [fin] at fin'
    | passiveOpen st' => rcases st' with st' | st' <;> simp [st] at st'
    | wrongAck st' | activeOpen st' | opened st' | finAcked st' | peerFin st' | closingAcked st'
    | lastAcked st' => simp [st] at st'
  obtain ⟨seq, tiles⟩ := h.tiles
  obtain ⟨next, received⟩ := handleData_expected (c := { r with lastActivity := now }) seq
  obtain ⟨_, _, hw⟩ := updateWindow_frame ({ r with lastActivity := now }.handleData p) p
  obtain ⟨_, _, _, hf⟩ := handleData_frame { r with lastActivity := now } p
  refine ⟨⟨?_, fun q hq => h.flags q (List.mem_cons_of_mem _ hq), ?_⟩, ?_, ?_, rfl⟩ <;> rw [hw]
  · exact next ▸ tiles
  · rw [received, List.append_assoc]
    exact h.data
  · rw [hf]
    exact st
  · rw [hf]

theorem Flow.send (h : Flow before stream c.localSeqNum q r) (unacked : c.unackedSegments = [])
    (st : c.state = .established) (hs : c.send data time (fun _ => true) fuel = some call) :
    Flow before (stream ++ data) call.conn.localSeqNum (q ++ call.sent) r := by
  have all := send_all unacked st hs
  have tiles := (send_outcome hs).sent.tiles
  have every : succeeded (fun _ => true) call.sent = call.sent := by
    simp [succeeded]
  rw [every] at tiles
  refine ⟨h.tiles.append tiles, fun p hp => ?_, ?_⟩
  · rcases List.mem_append.mp hp with hp | hp
    · exact h.flags p hp
    · exact send_flags hs p hp
  · rw [List.flatMap_append, all, ← List.append_assoc, h.data, List.append_assoc]

end TCPConnection

namespace Duplex

variable {s s' : Duplex} {e : Event} {beforeA beforeB : Bytes}

/-- Both ends are ESTABLISHED, and in either direction nothing is missing. -/
structure Aligned (beforeA beforeB : Bytes) (s : Duplex) : Prop where
  stateA : s.a.state = .established
  stateB : s.b.state = .established
  invA : TCPConnection.Inv s.a
  invB : TCPConnection.Inv s.b
  toA : Flow beforeA s.sentB s.b.localSeqNum s.ba s.a
  toB : Flow beforeB s.sentA s.a.localSeqNum s.ab s.b

/-- The same two ends under each other's names. -/
def swap (s : Duplex) : Duplex := ⟨s.b, s.a, s.ba, s.ab, s.sentB, s.sentA⟩

theorem Aligned.swap (h : Aligned beforeA beforeB s) : Aligned beforeB beforeA s.swap :=
  ⟨h.stateB, h.stateA, h.invB, h.invA, h.toB, h.toA⟩

theorem Aligned.silent (h : Aligned beforeA beforeB s) {p : TCPPacket} {rest : List TCPPacket}
    (head : s.ba = p :: rest) (now : Time) : (s.a.handlePacket now p).sent = [] :=
  ((head ▸ h.toA).deliver h.stateA (handlePacket_transition s.a now p)).2.2.2

theorem Aligned.deliver (h : Aligned beforeA beforeB s) {p : TCPPacket} {rest : List TCPPacket}
    (head : s.ba = p :: rest) (now : Time) : Aligned beforeA beforeB { s with
      a := (s.a.handlePacket now p).conn
      ba := rest
      ab := s.ab ++ (s.a.handlePacket now p).sent } := by
  have ht := handlePacket_transition s.a now p
  obtain ⟨toA, state, seq, silent⟩ := (head ▸ h.toA).deliver h.stateA ht
  refine ⟨state, h.stateB, h.invA.transition ht, h.invB, toA, ?_⟩
  rw [silent, seq, List.append_nil]
  exact h.toB

theorem Aligned.send (h : Aligned beforeA beforeB s) {data : Bytes} {now : Nat → Time} {fuel : Nat}
    {r : Call Bool} (call : s.a.send data now (fun _ => true) fuel = some r) :
    Aligned beforeA beforeB
      { s with a := r.conn, ab := s.ab ++ r.sent, sentA := s.sentA ++ data } := by
  have hs : TCPConnection.Step s.a (.send data now (fun _ => true) fuel, r.sent) r.conn := by
    rw [TCPConnection.Step, exec, call]
    rfl
  have inv := h.invA.step hs
  have toB := h.toB.send h.invA.unacked h.stateA call
  obtain ⟨_, _, _, hc⟩ := send_frame call
  refine ⟨?_, h.stateB, inv, h.invB, ?_, toB⟩ <;> rw [hc]
  · exact h.stateA
  · exact ⟨h.toA.tiles, h.toA.flags, h.toA.data⟩

theorem Aligned.step (h : Aligned beforeA beforeB s) (hs : Step s e s') :
    Aligned beforeA beforeB s' := by
  cases hs with
  | deliverA now head => exact h.deliver head now
  | deliverB now head => exact (h.swap.deliver head now).swap
  | sendA _ _ call => exact h.send call
  | sendB _ _ call => exact (h.swap.send call).swap

/-- What is on the way can be delivered, and nothing new comes of it. -/
theorem Aligned.drain (h : Aligned beforeA beforeB s) : ∃ es s', Run Step s es s' ∧
    Aligned beforeA beforeB s' ∧ Quiet s' ∧ s'.sentA = s.sentA ∧ s'.sentB = s.sentB := by
  have go (t : Duplex) (ht : Aligned beforeA beforeB t ∧ t.sentA = s.sentA ∧ t.sentB = s.sentB)
      (left : t.ba.length + t.ab.length ≠ 0) : ∃ e u, Step t e u ∧
        (Aligned beforeA beforeB u ∧ u.sentA = s.sentA ∧ u.sentB = s.sentB) ∧
        u.ba.length + u.ab.length < t.ba.length + t.ab.length := by
    obtain ⟨aligned, sent⟩ := ht
    -- the oldest packet to `a` if there is one, else the oldest to `b`
    cases toA : t.ba with
    | cons p rest =>
      have hs := Step.deliverA 0 toA
      refine ⟨_, _, hs, ⟨aligned.step hs, sent⟩, ?_⟩
      rw [List.length_cons]
      simp only [aligned.silent toA, List.append_nil]
      omega
    | nil =>
      cases toB : t.ab with
      | nil => simp [toA, toB] at left
      | cons p rest =>
        have hs := Step.deliverB 0 toB
        refine ⟨_, _, hs, ⟨aligned.step hs, sent⟩, ?_⟩
        rw [List.length_cons]
        have silent : (t.b.handlePacket 0 p).sent = [] := aligned.swap.silent toB 0
        simp only [silent, toA, List.append_nil]
        omega
  obtain ⟨es, t, run, ⟨aligned, sent⟩, empty, -⟩ := Run.exhaust _ _ go ⟨h, rfl, rfl⟩
  refine ⟨es, t, run, aligned, ⟨aligned.stateA, aligned.stateB, ?_, ?_⟩, sent⟩
  · exact List.eq_nil_of_length_eq_zero (by omega)
  · exact List.eq_nil_of_length_eq_zero (by omega)

/-- Between ends that agree when ESTABLISHED, what is received and what is on the way is what was
sent, in either direction and in every state reached; all of it can be delivered, and then they
agree again. -/
theorem aligned_conserves {a b : TCPConnection} (ha : Reachable a) (hb : Reachable b)
    (sa : a.state = .established) (sb : b.state = .established)
    (seqBA : a.remoteSeqNum = b.localSeqNum) (seqAB : b.remoteSeqNum = a.localSeqNum)
    (dataA : a.receivedData = []) (dataB : b.receivedData = []) {es : List Event}
    (run : Run Step ⟨a, b, [], [], [], []⟩ es s) :
    s.a.receivedData ++ s.ba.flatMap (·.getPayload) = s.sentB ∧
    s.b.receivedData ++ s.ab.flatMap (·.getPayload) = s.sentA ∧
    (Quiet s → Agree s) ∧
    ∃ es' s', Run Step s es' s' ∧ Quiet s' ∧ Agree s' ∧ s'.sentA = s.sentA ∧
      s'.sentB = s.sentB := by
  have agree (t : Duplex) (h : Aligned [] [] t) (quiet : Quiet t) : Agree t := by
    have toA := h.toA
    have toB := h.toB
    rw [quiet.ba] at toA
    rw [quiet.ab] at toB
    exact ⟨toA.tiles, toB.tiles, by simpa using toA.data, by simpa using toB.data⟩
  have start : Aligned [] [] ⟨a, b, [], [], [], []⟩ :=
    ⟨sa, sb, ha.inv, hb.inv, ⟨seqBA, nofun, by simp [dataA]⟩, ⟨seqAB, nofun, by simp [dataB]⟩⟩
  have h := run.invariant (Aligned [] []) start fun _ _ _ ht hs => ht.step hs
  obtain ⟨es', s', run', aligned, quiet, sentA, sentB⟩ := h.drain
  exact ⟨h.toA.data, h.toB.data, agree s h, es', s', run', quiet, agree s' aligned quiet, sentA,
    sentB⟩

/-- One byte on its way. -/
theorem aligned_conserves_openedBy : ∃ es s,
    Run Step ⟨openedBy 100 300, openedBy 300 100, [], [], [], []⟩ es s ∧ s.sentA = [7] ∧
      s.b.receivedData ++ s.ab.flatMap (·.getPayload) = [7] := by
  have state (isn x : UInt32) : (openedBy isn x).state = .established := by rw [openedBy_eq]
  have fresh (isn x : UInt32) : (openedBy isn x).receivedData = [] := by
    rw [openedBy_eq]
    rfl
  have call : (openedBy 100 300).send [7] (fun _ => 0) (fun _ => true) 2 =
      some ⟨true, (openedBy 100 300).pushRetransmit [7] 0 1, [peerData 101 [7]]⟩ := rfl
  have short : ([7] : Bytes).length < 65536 := by decide
  have run := Run.single (Step.sendA (s := ⟨openedBy 100 300, openedBy 300 100, [], [], [], []⟩)
    (state 100 300) short call)
  have conserves := aligned_conserves (reachable_openedBy 100 300) (reachable_openedBy 300 100)
    (state 100 300) (state 300 100) (by rw [openedBy_eq, openedBy_eq])
    (by rw [openedBy_eq, openedBy_eq]) (fresh 100 300) (fresh 300 100) run
  exact ⟨_, _, run, rfl, conserves.2.1⟩

end Duplex

end Lwip
