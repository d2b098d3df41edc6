import Mathlib.Data.List.Zip
import Mathlib.Tactic.Ring
import Lwip.Std.Queue
import Lwip.Std.Run
import Lwip.Tcp.Retransmitter

/-! Runs of a `TCPRetransmitter`. The history of each queued segment is followed beside the queue
(`Traced`): what its timer shows is what has happened to it, and the waits between two transmissions
double (`backs_off`). The queue holds the packets added that no later acknowledgment covers, and a
scan gives those to the callback that were last sent too long ago (`conserved`). -/

namespace Lwip

namespace TCPRetransmitter

/-- The calls; a scan comes with the packets that it has given to the callback. -/
inductive Event where
  | add (now : Time) (packet : TCPPacket)
  | ack (now : Time) (ackNumber : UInt32)
  | check (now : Time) (calls : List TCPPacket)

inductive Step : TCPRetransmitter → Event → TCPRetransmitter → Prop where
  | add {t : TCPRetransmitter} (now : Time) (packet : TCPPacket) :
    Step t (.add now packet) (t.addSegment now packet)
  | ack {t : TCPRetransmitter} (now : Time) (ackNumber : UInt32) :
    Step t (.ack now ackNumber) (t.handleAck now ackNumber)
  | check {t : TCPRetransmitter} (now : Time) :
    Step t (.check now (t.checkTimeouts now).1) (t.checkTimeouts now).2

/-- A new object, with a callback or without. -/
def start (callback : Bool) : TCPRetransmitter := { retransmitCallback := callback }

variable {t t' : TCPRetransmitter} {now : Time} {callback : Bool} {es : List Event}

/-! ## One call -/

/-- A segment after a scan. -/
def rescheduled (now : Time) (s : Segment) : Segment :=
  if Segment.due now s then
    { s with retries := s.retries + 1, timeout := s.timeout * 2, sendTime := now }
  else s

theorem foldl_checkTurn (now : Time) (callback : Bool) (done : List TCPPacket × List Segment)
    (l : List Segment) : l.foldl (checkTurn now callback) done =
      (done.1 ++ (if callback then (l.filter (Segment.due now)).map Segment.packet else []),
        done.2 ++ l.map (rescheduled now)) := by
  induction l generalizing done with
  | nil => cases callback <;> simp
  | cons s l ih =>
    rw [List.foldl_cons, ih, List.filter_cons, List.map_cons, rescheduled, checkTurn]
    cases Segment.due now s <;> cases callback <;> simp

theorem checkTimeouts_eq (t : TCPRetransmitter) (now : Time) : t.checkTimeouts now =
    (if t.retransmitCallback then (t.segments.filter (Segment.due now)).map Segment.packet else [],
      { t with segments := t.segments.map (rescheduled now) }) := by
  rw [checkTimeouts, foldl_checkTurn, List.nil_append, List.nil_append]

theorem updateRto_frame (t : TCPRetransmitter) (rtt : Rat) :
    ∃ srtt rttvar rto, t.updateRto rtt = { t with srtt, rttvar, rto } := by
  rw [updateRto]
  split <;> exact ⟨_, _, _, rfl⟩

/-- `handle_ack` removes the covered segments; what else it does it does to the estimator. -/
theorem handleAck_frame (t : TCPRetransmitter) (now : Time) (ackNumber : UInt32) :
    ∃ srtt rttvar rto, t.handleAck now ackNumber = { t with
      segments := t.segments.filter fun s => !acked ackNumber s.packet
      srtt, rttvar, rto } := by
  rw [handleAck]
  split
  · exact ⟨_, _, _, rfl⟩
  · exact updateRto_frame _ _

theorem handleAck_segments (t : TCPRetransmitter) (now : Time) (ackNumber : UInt32) :
    (t.handleAck now ackNumber).segments =
      t.segments.filter fun s => !acked ackNumber s.packet := by
  obtain ⟨_, _, _, h⟩ := t.handleAck_frame now ackNumber
  rw [h]

theorem rescheduled_packet (now : Time) (s : Segment) : (rescheduled now s).packet = s.packet := by
  rw [rescheduled]
  split <;> rfl

/-! ## What the queue holds -/

/-- What a call does to the queue of packets. -/
def Event.op? : Event → Option (QueueOp TCPPacket)
  | .add _ packet => some (.add packet)
  | .ack _ ackNumber => some (.drop (acked ackNumber))
  | .check _ _ => none

theorem Step.retransmitCallback {e : Event} (h : Step t e t') :
    t'.retransmitCallback = t.retransmitCallback := by
  cases h with
  | add | check => rfl
  | ack now ackNumber =>
    obtain ⟨_, _, _, eq⟩ := t.handleAck_frame now ackNumber
    rw [eq]

theorem Step.packets {e : Event} (h : Step t e t') : t'.segments.map Segment.packet =
    e.op?.toList.foldl QueueOp.apply (t.segments.map Segment.packet) := by
  cases h with
  | add now packet => exact List.map_append
  | ack now ackNumber =>
    change _ = (t.segments.map Segment.packet).filter fun p => !acked ackNumber p
    rw [handleAck_segments, List.filter_map]
    rfl
  | check now =>
    rw [checkTimeouts_eq, List.map_map]
    exact List.map_congr_left fun s _ => rescheduled_packet now s

/-! ## The history of a segment -/

/-- When a segment was added, the timeout that it began with, and when it has been sent again. -/
structure History where
  addedAt : Time
  initial : Int
  resent : List Time := []

/-- A retransmitter and the histories of its segments, in the order of the queue. -/
structure Traced where
  retransmitter : TCPRetransmitter
  histories : List History

/-- What a call adds to the histories. -/
def follows (t : TCPRetransmitter) (histories : List History) : Event → List History
  | .add now _ => histories ++ [{ addedAt := now, initial := t.calculateRto }]
  | .ack _ ackNumber => follow (fun s => !acked ackNumber s.packet) t.segments histories
  | .check now _ =>
    List.zipWith (fun s h =>
      if Segment.due now s then { h with resent := h.resent ++ [now] } else h) t.segments histories

def Traced.Step (o : Traced) (e : Event) (o' : Traced) : Prop :=
  TCPRetransmitter.Step o.retransmitter e o'.retransmitter ∧
    o'.histories = follows o.retransmitter o.histories e

/-- The timer of a segment shows its history, and each retransmission came later than the waits
before it add up to: the `k`-th comes after `2 ^ k - 1` initial timeouts. -/
structure Backoff (s : Segment) (h : History) : Prop where
  retries : s.retries = h.resent.length
  timeout : s.timeout = 2 ^ s.retries * h.initial
  sendTime : s.sendTime = h.resent.getLastD h.addedAt
  late : ∀ k now, h.resent[k]? = some now →
    h.addedAt + (2 ^ (k + 1) - 1) * h.initial * millisecond < now

/-- Every run has its histories. -/
theorem traced_run (run : Run Step t es t') (histories : List History) :
    ∃ histories', Run Traced.Step ⟨t, histories⟩ es ⟨t', histories'⟩ := by
  induction run with
  | nil => exact ⟨histories, .nil⟩
  | snoc _ hs ih =>
    obtain ⟨histories', run⟩ := ih
    exact ⟨_, run.snoc ⟨hs, rfl⟩⟩

theorem Backoff.elapsed {s : Segment} {h : History} (b : Backoff s h) :
    h.addedAt + (2 ^ s.retries - 1) * h.initial * millisecond ≤ s.sendTime := by
  rw [b.sendTime, b.retries]
  rcases List.eq_nil_or_concat h.resent with none | ⟨before, last, eq⟩
  · simp [none]
  · have late := b.late before.length last (by simp [eq])
    rw [eq, List.length_concat, List.concat_eq_append, List.getLastD_concat]
    exact late.le

theorem Backoff.resent {s : Segment} {h : History} (b : Backoff s h)
    (due : Segment.due now s = true) :
    Backoff { s with retries := s.retries + 1, timeout := s.timeout * 2, sendTime := now }
      { h with resent := h.resent ++ [now] } := by
  have elapsed := b.elapsed
  have overdue : s.timeout * millisecond < now - s.sendTime := of_decide_eq_true due
  refine ⟨?_, ?_, ?_, fun k at' hk => ?_⟩
  · rw [List.length_append, b.retries]
    rfl
  · dsimp only
    rw [b.timeout, Int.pow_succ]
    ring
  · exact (List.getLastD_concat ..).symm
  · dsimp only at hk ⊢
    by_cases old : k < h.resent.length
    · rw [List.getElem?_append_left old] at hk
      exact b.late k at' hk
    · obtain rfl : k = h.resent.length := by
        have := (List.getElem?_eq_some_iff.mp hk).1
        simp only [List.length_append, List.length_singleton] at this
        omega
      rw [List.getElem?_concat_length] at hk
      cases hk
      -- the waits so far, and one more of the present timeout
      rw [← b.retries]
      calc h.addedAt + (2 ^ (s.retries + 1) - 1) * h.initial * millisecond
          = h.addedAt + (2 ^ s.retries - 1) * h.initial * millisecond +
              s.timeout * millisecond := by
            rw [b.timeout, Int.pow_succ]
            ring
        _ ≤ s.sendTime + s.timeout * millisecond := Int.add_le_add_right elapsed _
        _ < now := Int.add_lt_of_lt_sub_left overdue

theorem Backoff.scanned {s : Segment} {h : History} (b : Backoff s h) (now : Time) :
    Backoff (rescheduled now s)
      (if Segment.due now s then { h with resent := h.resent ++ [now] } else h) := by
  rw [rescheduled]
  split
  · exact b.resent ‹_›
  · exact b

theorem Traced.Step.backoff {o o' : Traced} {e : Event} (h : o.Step e o')
    (inv : List.Forall₂ Backoff o.retransmitter.segments o.histories) :
    List.Forall₂ Backoff o'.retransmitter.segments o'.histories := by
  obtain ⟨t, histories⟩ := o
  obtain ⟨t', histories'⟩ := o'
  obtain ⟨step, eq⟩ := h
  dsimp only at step eq inv ⊢
  rw [eq]
  cases step with
  | add now packet =>
    refine List.rel_append inv (.cons ⟨rfl, ?_, rfl, fun k at' hk => by simp at hk⟩ .nil)
    simp
  | ack now ackNumber =>
    rw [handleAck_segments]
    exact forall₂_follow inv _
  | check now =>
    rw [checkTimeouts_eq]
    exact forall₂_map_zipWith inv fun s h b => b.scanned now

/-- Every run has queue and histories side by side. -/
theorem Traced.backoff {o : Traced} (h : Run Traced.Step ⟨start callback, []⟩ es o) :
    List.Forall₂ Backoff o.retransmitter.segments o.histories :=
  h.invariant (fun o => List.Forall₂ Backoff o.retransmitter.segments o.histories) .nil
    fun _ _ _ inv hs => hs.backoff inv

/-! ## The scans -/

/-- The last transmission that the history knows of is longer ago than the timeout. -/
def overdue (now : Time) (e : Segment × History) : Bool :=
  decide (now - e.2.resent.getLastD e.2.addedAt > e.1.timeout * millisecond)

theorem Backoff.overdue_eq {s : Segment} {h : History} (b : Backoff s h) (now : Time) :
    overdue now (s, h) = Segment.due now s := by
  rw [overdue, Segment.due, b.sendTime]

/-- A scan gives exactly the overdue packets to the callback, in the order of the queue, and
leaves the packets and the other timers as they are; an overdue packet is sent now. -/
structure Scanned (callback : Bool) (now : Time) (o : Traced) (calls : List TCPPacket)
    (o' : Traced) : Prop where
  aligned : o.histories.length = o.retransmitter.segments.length
  calls : calls =
    if callback then
      ((o.retransmitter.segments.zip o.histories).filter (overdue now)).map fun e => e.1.packet
    else []
  segments : List.Forall₂ (fun e s' => s'.packet = e.1.packet ∧ (overdue now e = false → s' = e.1))
    (o.retransmitter.segments.zip o.histories) o'.retransmitter.segments
  histories : o'.histories = List.zipWith
    (fun s h => if overdue now (s, h) then { h with resent := h.resent ++ [now] } else h)
    o.retransmitter.segments o.histories

theorem checkTimeouts_scanned {histories : List History} (now : Time)
    (beside : List.Forall₂ Backoff t.segments histories) :
    Scanned t.retransmitCallback now ⟨t, histories⟩ (t.checkTimeouts now).1
      ⟨(t.checkTimeouts now).2, follows t histories (.check now (t.checkTimeouts now).1)⟩ := by
  rw [checkTimeouts_eq]
  refine ⟨beside.length_eq.symm, ?_, ?_, ?_⟩
  · dsimp only
    rw [← filter_zip beside fun s h b => b.overdue_eq now, List.map_map]
    rfl
  · refine forall₂_zip_map beside fun s h b => ⟨rescheduled_packet now s, fun early => ?_⟩
    rw [b.overdue_eq] at early
    rw [rescheduled, early, if_neg Bool.false_ne_true]
  · apply List.zipWith_congr
    exact beside.imp fun s h b => by rw [b.overdue_eq]

/-- The queue holds the packets added that no later acknowledgment covers, in the order in which
they were added, and every scan sends again what was last sent too long ago. -/
theorem conserved (run : Run Step (start callback) es t) :
    t.segments.map Segment.packet = QueueOp.kept (es.filterMap Event.op?) ∧
    ∃ histories, Run Traced.Step ⟨start callback, []⟩ es ⟨t, histories⟩ ∧
      ∀ now calls t', Step t (.check now calls) t' →
        Scanned callback now ⟨t, histories⟩ calls
          ⟨t', follows t histories (.check now calls)⟩ := by
  have inv : t.segments.map Segment.packet = QueueOp.kept (es.filterMap Event.op?) ∧
      t.retransmitCallback = callback := by
    refine run.history_invariant (fun es (t : TCPRetransmitter) =>
      t.segments.map Segment.packet = QueueOp.kept (es.filterMap Event.op?) ∧
        t.retransmitCallback = callback) ⟨rfl, rfl⟩ fun es t e t' ht hs => ⟨?_, ?_⟩
    · rw [hs.packets, ht.1, List.filterMap_append, QueueOp.kept_append]
      cases h : e.op? <;> simp [h]
    · rw [hs.retransmitCallback, ht.2]
  obtain ⟨histories, traced⟩ := traced_run run []
  refine ⟨inv.1, histories, traced, fun now calls t' hs => ?_⟩
  cases hs with
  | check now => exact inv.2 ▸ checkTimeouts_scanned now (Traced.backoff traced)

/-- Three bytes, and the three after them. -/
def firstPacket : TCPPacket := (TCPPacket.new.setSequenceNumber 100).setPayload [1, 2, 3]

def nextPacket : TCPPacket := (TCPPacket.new.setSequenceNumber 103).setPayload [4, 5, 6]

/-- Both packets are sent again at two seconds, the first is acknowledged, and a second later the
other is not due again. -/
theorem conserved_next : ∃ (t : TCPRetransmitter) (histories : List History),
    t.segments.map Segment.packet = [nextPacket] ∧
    Run Traced.Step ⟨start true, []⟩ [.add 0 firstPacket, .add 1 nextPacket,
      .check 2000000000 [firstPacket, nextPacket], .ack 2500000000 103] ⟨t, histories⟩ ∧
    Scanned true 3000000000 ⟨t, histories⟩ []
      ⟨(t.checkTimeouts 3000000000).2, follows t histories (.check 3000000000 [])⟩ := by
  have added : Step (start true) (.add 0 firstPacket) ((start true).addSegment 0 firstPacket) :=
    .add 0 firstPacket
  have run := (((Run.single added).snoc (.add 1 nextPacket)).snoc (.check 2000000000)).snoc
    (.ack 2500000000 103)
  obtain ⟨queue, histories, traced, scans⟩ := conserved run
  exact ⟨_, histories, queue, traced, scans 3000000000 _ _ (.check 3000000000)⟩

/-- In every run, whatever else is added, acknowledged and scanned in between, the `k`-th
retransmission of a segment comes later than `2 ^ k - 1` initial timeouts after it was added, and
leaves it with `k` retries and `2 ^ k` times its initial timeout. -/
theorem backs_off (run : Run Step (start callback) es t) :
    ∃ histories, Run Traced.Step ⟨start callback, []⟩ es ⟨t, histories⟩ ∧
      List.Forall₂ Backoff t.segments histories := by
  obtain ⟨histories, traced⟩ := traced_run run []
  exact ⟨histories, traced, Traced.backoff traced⟩

theorem backs_off_once :
    ∃ histories, Run Traced.Step ⟨start false, []⟩ [.add 0 firstPacket, .check 2000000000 []]
        ⟨(((start false).addSegment 0 firstPacket).checkTimeouts 2000000000).2, histories⟩ ∧
      List.Forall₂ Backoff [⟨firstPacket, 2000000000, 2000, 1⟩] histories := by
  have added : Step (start false) (.add 0 firstPacket) ((start false).addSegment 0 firstPacket) :=
    .add 0 firstPacket
  exact backs_off ((Run.single added).snoc (.check 2000000000))

end TCPRetransmitter

end Lwip
