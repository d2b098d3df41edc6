import Lwip.Verify.Tcp.Receive

/-! What a connection has been told by the time it is ESTABLISHED. `handle_packet` completes an
active open on a packet that has either of the flags SYN and ACK, and a passive open on any ACK
whatever it acknowledges, so a peer that has seen none of the connection's packets can open it
(`opened_blindly`). As long as no packet takes those two ways the handshake is a real one
(`established_handshaken`). -/

namespace Lwip

namespace TCPConnection

variable {c c' : TCPConnection} {es : List (Op × List TCPPacket)} {e : Op × List TCPPacket}
  {isn : UInt32}

/-- The connection has sent a SYN, or a SYN-ACK, with the sequence number `x`. -/
def SynSentAt (x : UInt32) (es : List (Op × List TCPPacket)) : Prop :=
  ∃ q ∈ emitted es, q.hasFlag tcpFlagSyn = true ∧ q.getSequenceNumber = x

def SynHeard (es : List (Op × List TCPPacket)) : Prop :=
  ∃ p ∈ handled es, p.hasFlag tcpFlagSyn = true

/-- An ACK of the connection's own SYN has been handled. -/
def SynAcked (es : List (Op × List TCPPacket)) : Prop :=
  ∃ p ∈ handled es, p.hasFlag tcpFlagAck = true ∧
    ∃ x, SynSentAt x es ∧ p.getAckNumber = x + 1

/-- A packet that completes an active open has both flags, and one that completes a passive open
acknowledges the SYN-ACK. -/
structure Careful (c : TCPConnection) (op : Op) : Prop where
  active : ∀ p, op.packet? = some p → c.state = .synSent →
    p.hasFlag (tcpFlagSyn ||| tcpFlagAck) = true → p.getAckNumber = c.localSeqNum + 1 →
    p.hasFlag tcpFlagSyn = true ∧ p.hasFlag tcpFlagAck = true
  passive : ∀ p, op.packet? = some p → c.state = .synReceived →
    p.hasFlag tcpFlagAck = true → p.getAckNumber = c.localSeqNum + 1

/-- What has happened, by the state that the connection has come to. -/
structure Heard (es : List (Op × List TCPPacket)) (c : TCPConnection) : Prop where
  synSent : c.state = .synSent → SynSentAt c.localSeqNum es
  synReceived : c.state = .synReceived → SynHeard es ∧ SynSentAt c.localSeqNum es
  established : c.state = .established → SynHeard es ∧ SynAcked es

theorem SynSentAt.append {x : UInt32} (h : SynSentAt x es) (es' : List (Op × List TCPPacket)) :
    SynSentAt x (es ++ es') := by
  obtain ⟨q, hq, syn⟩ := h
  refine ⟨q, ?_, syn⟩
  rw [emitted, List.flatMap_append]
  exact List.mem_append_left _ hq

theorem mem_handled_append {p : TCPPacket} (h : p ∈ handled es)
    (es' : List (Op × List TCPPacket)) : p ∈ handled (es ++ es') := by
  rw [handled, List.filterMap_append]
  exact List.mem_append_left _ h

theorem mem_handled_snoc {p : TCPPacket} (now : Time) (sent : List TCPPacket) :
    p ∈ handled (es ++ [(.handlePacket now p, sent)]) := by
  rw [handled, List.filterMap_append]
  exact List.mem_append_right _ List.mem_cons_self

theorem synSentAt_snoc {op : Op} {q : TCPPacket} (syn : q.hasFlag tcpFlagSyn = true) :
    SynSentAt q.getSequenceNumber (es ++ [(op, [q])]) := by
  refine ⟨q, ?_, syn, rfl⟩
  rw [emitted, List.flatMap_append]
  exact List.mem_append_right _ List.mem_cons_self

theorem SynHeard.append (h : SynHeard es) (es' : List (Op × List TCPPacket)) :
    SynHeard (es ++ es') := by
  obtain ⟨p, hp, syn⟩ := h
  exact ⟨p, mem_handled_append hp es', syn⟩

theorem SynAcked.append (h : SynAcked es) (es' : List (Op × List TCPPacket)) :
    SynAcked (es ++ es') := by
  obtain ⟨p, hp, ack, x, sent, number⟩ := h
  exact ⟨p, mem_handled_append hp es', ack, x, sent.append es', number⟩

/-- A call that leaves the state and the own sequence number of an unfinished handshake. -/
theorem Heard.same (h : Heard es c) (es' : List (Op × List TCPPacket)) (state : c'.state = c.state)
    (seq : c.state ≠ .established → c'.localSeqNum = c.localSeqNum) : Heard (es ++ es') c' := by
  refine ⟨fun st => ?_, fun st => ?_, fun st => ?_⟩ <;> rw [state] at st
  · rw [seq (by simp [st])]
    exact (h.synSent st).append es'
  · rw [seq (by simp [st])]
    exact ⟨(h.synReceived st).1.append es', (h.synReceived st).2.append es'⟩
  · exact ⟨(h.established st).1.append es', (h.established st).2.append es'⟩

theorem Heard.of_later {es : List (Op × List TCPPacket)}
    (h : c.state ≠ .synSent ∧ c.state ≠ .synReceived ∧ c.state ≠ .established) : Heard es c :=
  ⟨fun st => absurd st h.1, fun st => absurd st h.2.1, fun st => absurd st h.2.2⟩

theorem Heard.transition {now : Time} {p : TCPPacket} {sent : List TCPPacket} (h : Heard es c)
    (careful : Careful c (.handlePacket now p)) (ht : Transition now c p c' sent) :
    Heard (es ++ [(.handlePacket now p, sent)]) c' := by
  have handled : p ∈ handled (es ++ [(.handlePacket now p, sent)]) := mem_handled_snoc now sent
  cases ht with
  | ignored | wrongAck => exact h.same _ rfl fun _ => rfl
  | data st =>
    obtain ⟨_, _, _, _, _, hd⟩ := data_frame { c with lastActivity := now } p
    rw [hd]
    exact h.same _ rfl fun _ => rfl
  | passiveOpen st syn =>
    exact ⟨by simp, fun _ => ⟨⟨p, handled, syn⟩, synSentAt_snoc (hasFlag_synAckPacket _ _)⟩,
      by simp⟩
  | activeOpen st flag ack =>
    have both := careful.active p rfl st flag ack
    exact ⟨by simp, by simp, fun _ => ⟨⟨p, handled, both.1⟩,
      p, handled, both.2, c.localSeqNum, (h.synSent st).append _, ack⟩⟩
  | opened st ack =>
    have number := careful.passive p rfl st ack
    have heard := h.synReceived st
    exact ⟨by simp, by simp, fun _ => ⟨heard.1.append _,
      p, handled, ack, c.localSeqNum, heard.2.append _, number⟩⟩
  | fin | finAcked | peerFin | closingAcked | lastAcked => exact .of_later (by simp)

theorem Heard.step (h : Heard es c) (careful : Careful c e.1) (hs : Step c e c') :
    Heard (es ++ [e]) c' := by
  obtain ⟨op, sent⟩ := e
  cases hs.effect with
  | packet ht => exact h.transition careful ht
  | synSent =>
    exact ⟨fun _ => synSentAt_snoc (hasFlag_synPacket c _ _), by simp, by simp⟩
  | synLost => exact h.same _ rfl fun _ => rfl
  | closed => exact .of_later (by simp)
  | sent call =>
    obtain ⟨_, _, _, hc⟩ := send_frame call
    refine h.same _ (by rw [hc]) fun st => ?_
    rcases send_cases call with ⟨-, rfl⟩ | ⟨st', -⟩ | ⟨_, st', -⟩
    · rfl
    · exact absurd st' st
    · exact absurd st' st
  | other same => exact h.same _ same.state fun _ => same.localSeqNum

/-- In a run whose packets are careful where `handle_packet` is not, an ESTABLISHED connection has
handled a SYN and an ACK of its own SYN. -/
theorem established_handshaken
    (run : Run (fun c e c' => Step c e c' ∧ Careful c e.1) (new isn) es c) :
    c.state = .established → SynHeard es ∧ SynAcked es := by
  have heard := run.history_invariant Heard (.of_later ⟨TCPState.noConfusion, TCPState.noConfusion,
    TCPState.noConfusion⟩) fun es t e t' ht hs => ht.step hs.2 hs.1
  exact heard.established

theorem established_handshaken_openedBy :
    SynHeard [(.connect 1 80 true, [(new 100).synPacket 80]),
      (.handlePacket 0 (peerSynAck 300 101), [(openedBy 100 300).ackPacket])] ∧
    SynAcked [(.connect 1 80 true, [(new 100).synPacket 80]),
      (.handlePacket 0 (peerSynAck 300 101), [(openedBy 100 300).ackPacket])] := by
  let step := fun (c : TCPConnection) (e : Op × List TCPPacket) c' => Step c e c' ∧ Careful c e.1
  have connected : step (new 100) (.connect 1 80 true, [(new 100).synPacket 80])
      ((new 100).connect 1 80 true).conn := ⟨rfl, (fun _ h => by cases h), (fun _ h => by cases h)⟩
  have opened : step ((new 100).connect 1 80 true).conn
      (.handlePacket 0 (peerSynAck 300 101), [(openedBy 100 300).ackPacket])
      (openedBy 100 300) := by
    refine ⟨rfl, fun p h _ _ _ => ?_, fun p _ st => by cases st⟩
    cases h
    exact ⟨hasFlag_peerSynAck 300 101 _, hasFlag_peerSynAck 300 101 _⟩
  have run := (Run.single connected).snoc opened
  exact established_handshaken run (by rw [openedBy_eq])

/-- A SYN and then an ACK of nothing open the passive side, and an ACK without SYN the active
one. -/
theorem opened_blindly :
    (∃ es c, Run Step (new 100) es c ∧ c.state = .established ∧ ¬ SynAcked es) ∧
    ∃ es c, Run Step (new 100) es c ∧ c.state = .established ∧ ¬ SynHeard es := by
  let syn := (TCPPacket.new.setFlags tcpFlagSyn).setSequenceNumber 300
  let ack := TCPPacket.new.setFlags tcpFlagAck
  let blindAck := ack.setAckNumber 101
  let conn : TCPConnection := { new 100 with remoteSeqNum := 300, state := .synReceived }
  let conn' : TCPConnection := { ((new 100).connect 1 80 true).conn with
    remoteSeqNum := 1, localSeqNum := 101, state := .established }
  have syn_flags : syn.getFlags = tcpFlagSyn := rfl
  have ack_flags : ack.getFlags = tcpFlagAck := rfl
  have blind_flags : blindAck.getFlags = tcpFlagAck := rfl
  have syn_flag := TCPPacket.hasFlag_of_flags syn_flags
  have ack_flag := TCPPacket.hasFlag_of_flags ack_flags
  have blind_flag := TCPPacket.hasFlag_of_flags blind_flags
  have hearsSyn : Step (new 100) (.handlePacket 0 syn, [conn.synAckPacket]) conn := by
    rw [Step, exec, handlePacket]
    simp only [new, syn_flag]
    rfl
  have hearsAck : Step conn (.handlePacket 0 ack, []) { conn with state := .established } := by
    rw [Step, exec, handlePacket]
    simp only [conn, ack_flag]
    rfl
  have connects : Step (new 100) (.connect 1 80 true, [(new 100).synPacket 80])
      ((new 100).connect 1 80 true).conn := rfl
  have hearsBlindAck : Step ((new 100).connect 1 80 true).conn
      (.handlePacket 0 blindAck, [conn'.ackPacket]) conn' := by
    rw [Step, exec, handlePacket]
    simp only [connect, new, blind_flag]
    rfl
  refine ⟨⟨_, _, (Run.single hearsSyn).snoc hearsAck, rfl, ?_⟩,
    ⟨_, _, (Run.single connects).snoc hearsBlindAck, rfl, ?_⟩⟩
  · intro acked
    obtain ⟨p, hp, flag, x, ⟨q, hq, -, rfl⟩, number⟩ := acked
    change p ∈ [syn, ack] at hp
    change q ∈ [conn.synAckPacket] at hq
    rw [List.mem_singleton.mp hq] at number
    rcases List.mem_pair.mp hp with rfl | rfl
    · rw [syn_flag] at flag
      cases flag
    · change (0 : UInt32) = 101 at number
      exact absurd number (by decide)
  · intro heard
    obtain ⟨p, hp, flag⟩ := heard
    change p ∈ [blindAck] at hp
    rw [List.mem_singleton.mp hp, blind_flag] at flag
    cases flag

end TCPConnection

end Lwip
