import Lwip.Std.Queue
import Lwip.Verify.Tcp.Sending

/-! What `handle_timeout` sends again. It goes through `unacked_segments_`, which no call ever
fills; `send` enters its segments in `retransmit_queue_`, which no call ever reads. So nothing is
sent again, and that is right only when everything has been acknowledged
(`resends_outstanding_iff`). -/

namespace Lwip

namespace TCPConnection

variable {c c' : TCPConnection} {sent : List TCPPacket} {isn : UInt32}

/-- An acknowledgment number comes at or after the end of a segment, in the order of sequence
numbers. -/
def covers (ackNumber : UInt32) (p : TCPPacket) : Bool :=
  decide ((ackNumber - (p.getSequenceNumber + UInt32.ofNat p.getPayloadSize)).toNat < 2 ^ 31)

/-- What a call does to the segments to be acknowledged: those that `send` got out are added, and
an ACK removes those that it covers. -/
def segmentOps : Op × List TCPPacket → List (QueueOp TCPPacket)
  | (.send _ _ ok _, sent) => (succeeded ok sent).map .add
  | (.handlePacket _ p, _) =>
    if p.hasFlag tcpFlagAck then [.drop (covers p.getAckNumber)] else []
  | _ => []

/-- The data segments sent in a run that no later ACK has covered, in the order of sending. -/
def outstanding (es : List (Op × List TCPPacket)) : List TCPPacket :=
  QueueOp.kept (es.flatMap segmentOps)

/-- `handle_timeout` in ESTABLISHED sends the outstanding segments, each once and in order. -/
def ResendsOutstanding (o : List (Op × List TCPPacket) × TCPConnection)
    (e : Op × List TCPPacket) : Prop :=
  e.1 = .handleTimeout → o.2.state = .established → e.2 = outstanding o.1

/-- `handle_timeout` is not called while a segment is outstanding. -/
def NothingOutstanding (o : List (Op × List TCPPacket) × TCPConnection)
    (e : Op × List TCPPacket) : Prop :=
  e.1 = .handleTimeout → o.2.state = .established → outstanding o.1 = []

/-- What `send` gets out becomes outstanding, after what was so before. -/
theorem outstanding_send (es : List (Op × List TCPPacket)) (data : Bytes) (now : Nat → Time)
    (ok : Nat → Bool) (fuel : Nat) (sent : List TCPPacket) :
    outstanding (es ++ [(.send data now ok fuel, sent)]) =
      outstanding es ++ succeeded ok sent := by
  rw [outstanding, List.flatMap_append, QueueOp.kept_append, List.flatMap_singleton]
  exact QueueOp.foldl_add _ _

theorem handleTimeout_silent (unacked : c.unackedSegments = [])
    (h : Step c (.handleTimeout, sent) c') : sent = [] := by
  have effect : Effect c .handleTimeout sent c' := h.effect
  cases effect with
  | other _ _ _ quiet => exact quiet unacked

/-- In a run `handle_timeout` sends what is outstanding exactly when it is never called while
something is. -/
theorem resends_outstanding_iff {es : List (Op × List TCPPacket)}
    {o : List (Op × List TCPPacket) × TCPConnection} :
    Run (fun o e o' => Logged Step o e o' ∧ ResendsOutstanding o e) ([], new isn) es o ↔
      Run (fun o e o' => Logged Step o e o' ∧ NothingOutstanding o e) ([], new isn) es o := by
  refine Run.law_iff_guard (fun o => Inv o.2) (.new isn) (fun o e o' inv h _ => inv.step h.1)
    fun o e o' inv h => ?_
  obtain ⟨op, sent⟩ := e
  have silent (eq : op = .handleTimeout) : sent = [] := by
    subst eq
    exact handleTimeout_silent inv.unacked h.1
  constructor
  · intro law eq st
    rw [← law eq st]
    exact silent eq
  · intro none eq st
    exact (silent eq).trans (none eq st).symm

/-- Three bytes are sent, never acknowledged and not sent again. -/
theorem not_resent : ∃ es c, Run Step (new 100) es c ∧ c.state = .established ∧
    (outstanding es).map (·.getPayload) = [[1, 2, 3]] ∧ c.handleTimeout.sent = [] := by
  let packet := (openedBy 100 300).dataPacket [1, 2, 3]
  let c := (openedBy 100 300).pushRetransmit [1, 2, 3] 0 3
  have sends : Step (openedBy 100 300)
      (.send [1, 2, 3] (fun _ => 0) (fun _ => true) 2, [packet]) c := by
    rw [Step, exec]
    simp only [packet, c, openedBy_eq]
    rfl
  have st : c.state = .established := by
    simp only [c, pushRetransmit, openedBy_eq]
  refine ⟨_, c, (run_openedBy 100 300).snoc sends, st, ?_, ?_⟩
  · rw [outstanding_send]
    rfl
  · simp only [c, pushRetransmit, openedBy_eq]
    rfl

end TCPConnection

end Lwip
