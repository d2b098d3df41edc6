import Lwip.Verify.Tcp.Retransmitter

/-! What `handle_ack` takes from the queue and what it measures. The test compares the numbers as
they stand, so that it goes wrong between a segment and an acknowledgment number that the sequence
space wraps between (`removes_exactly_iff`). The round-trip time is read after the removal, from the
first of the segments that stay: no sample is ever one of a segment that has been acknowledged
(`samples_removed_iff`). -/

namespace Lwip

namespace TCPRetransmitter

variable {t : TCPRetransmitter} {base ackNumber : UInt32} {width : Nat} {p : TCPPacket}

/-! ## What is removed -/

/-- The distance of a sequence number from the start of the window. -/
def place (base x : UInt32) : Nat := (x - base).toNat

/-- The segment lies in the window of `width` numbers that starts at `base`. -/
def Inside (base : UInt32) (width : Nat) (p : TCPPacket) : Prop :=
  place base p.getSequenceNumber + p.getPayloadSize ≤ width

/-- The whole range of the segment precedes the acknowledgment number, in the window. -/
def precedes (base ackNumber : UInt32) (p : TCPPacket) : Bool :=
  decide (place base p.getSequenceNumber + p.getPayloadSize ≤ place base ackNumber)

instance : Decidable (Inside base width p) := inferInstanceAs (Decidable (_ ≤ _))

/-- The start of the segment and the acknowledgment number compare as numbers as they do in the
window, unless the acknowledgment number falls inside the segment. -/
def ComparesRight (base ackNumber : UInt32) (p : TCPPacket) : Prop :=
  (place base p.getSequenceNumber ≤ place base ackNumber ∧
    place base ackNumber < place base p.getSequenceNumber + p.getPayloadSize) ∨
  (p.getSequenceNumber ≤ ackNumber ↔ place base p.getSequenceNumber ≤ place base ackNumber)

instance : Decidable (ComparesRight base ackNumber p) := inferInstanceAs (Decidable (_ ∨ _))

theorem toNat_eq_place (base x : UInt32) :
    x.toNat = (base.toNat + place base x) % 4294967296 := by
  have sum : base + (x - base) = x := by rw [UInt32.add_comm, UInt32.sub_add_cancel]
  have := congrArg UInt32.toNat sum
  rw [UInt32.toNat_add] at this
  exact this.symm

theorem acked_eq_precedes_iff (narrow : width < 2147483648)
    (inside : Inside base width p) (ack : place base ackNumber ≤ width) :
    acked ackNumber p = precedes base ackNumber p ↔ ComparesRight base ackNumber p := by
  have hb := base.toNat_lt
  have seq := toNat_eq_place base p.getSequenceNumber
  have num := toNat_eq_place base ackNumber
  rw [Inside] at inside
  rw [acked, precedes, ComparesRight, decide_eq_decide, UInt32.le_iff_toNat_le]
  omega

/-- For segments and an acknowledgment number in one window of fewer than 2^31 numbers,
`handle_ack` removes exactly the segments that wholly precede the number just when the numbers
compare as they do in the window. -/
theorem removes_exactly_iff (narrow : width < 2147483648)
    (inside : ∀ s ∈ t.segments, Inside base width s.packet) (ack : place base ackNumber ≤ width)
    (now : Time) :
    (t.handleAck now ackNumber).segments =
        t.segments.filter (fun s => !precedes base ackNumber s.packet) ↔
      ∀ s ∈ t.segments, ComparesRight base ackNumber s.packet := by
  rw [handleAck_segments, filter_eq_filter_iff]
  refine forall₂_congr fun s hs => ?_
  rw [Bool.not_inj_iff]
  exact acked_eq_precedes_iff narrow (inside s hs) ack

def dataAt (sequenceNumber : UInt32) (payload : Bytes) : TCPPacket :=
  (TCPPacket.new.setSequenceNumber sequenceNumber).setPayload payload

/-- Two segments, the first of them acknowledged. -/
def twoSegments (x y : UInt32) : TCPRetransmitter :=
  ((start true).addSegment 0 (dataAt x [1, 2])).addSegment 1 (dataAt y [3])

theorem removes_exactly_low : ((twoSegments 7 9).handleAck 5 9).segments =
    (twoSegments 7 9).segments.filter fun s => !precedes 7 9 s.packet :=
  (@removes_exactly_iff (twoSegments 7 9) 7 9 3 (by decide) (by decide) (by decide) 5).mpr
    (by decide)

/-- Around the wrap a segment that is wholly acknowledged stays in the queue, and one of which
nothing is acknowledged is removed. -/
theorem removes_wrongly : ∃ t : TCPRetransmitter, (∀ s ∈ t.segments, Inside 4294967294 3 s.packet) ∧
    place 4294967294 0 ≤ 3 ∧ (t.segments.filter fun s =>
      !precedes 4294967294 0 s.packet).map (·.packet) = [dataAt 0 [3]] ∧
    (t.handleAck 5 0).segments.map (·.packet) = [dataAt 4294967294 [1, 2], dataAt 0 [3]] ∧
    place 4294967294 4294967294 ≤ 3 ∧ (t.segments.filter fun s =>
      !precedes 4294967294 4294967294 s.packet).map (·.packet) =
        [dataAt 4294967294 [1, 2], dataAt 0 [3]] ∧
    (t.handleAck 5 4294967294).segments.map (·.packet) = [dataAt 4294967294 [1, 2]] := by
  refine ⟨twoSegments 4294967294 0, by decide, by decide, by decide, ?_, by decide, by decide, ?_⟩
  · rw [handleAck_segments]
    decide
  · rw [handleAck_segments]
    decide

/-! ## What is measured -/

/-- The sample of a segment, in milliseconds. -/
def sample (now : Time) (s : Segment) : Rat :=
  ((now - s.sendTime : Int) : Rat) / (second : Rat) * 1000

/-- The segments that an acknowledgment leaves in the queue. -/
def left (t : TCPRetransmitter) (ackNumber : UInt32) : List Segment :=
  t.segments.filter fun s => !acked ackNumber s.packet

/-- The segment whose sample `handle_ack` gives to `update_rto`, if it does. -/
def measured (t : TCPRetransmitter) (ackNumber : UInt32) : Option Segment :=
  (t.left ackNumber).head?

theorem handleAck_measured (t : TCPRetransmitter) (now : Time) (ackNumber : UInt32) :
    t.handleAck now ackNumber =
      match t.measured ackNumber with
      | none => { t with segments := t.left ackNumber }
      | some s => { t with segments := t.left ackNumber }.updateRto (sample now s) := by
  rw [handleAck, measured, left]
  dsimp only
  split
  · rename_i none
    rw [none]
    rfl
  · rename_i some
    rw [some]
    rfl

/-- The segment is acknowledged by the call and has never been retransmitted. -/
def Measurable (ackNumber : UInt32) (s : Segment) : Prop :=
  acked ackNumber s.packet = true ∧ s.retries = 0

/-- There is a sample exactly when the call removes a segment that was never retransmitted, and it
is the sample of such a segment. -/
structure SamplesRemoved (t : TCPRetransmitter) (ackNumber : UInt32) : Prop where
  sampled : (t.measured ackNumber).isSome ↔ ∃ s ∈ t.segments, Measurable ackNumber s
  removed : ∀ s, t.measured ackNumber = some s → s ∈ t.segments ∧ Measurable ackNumber s

/-- The segment measured is one that stays. -/
theorem acked_of_measured {s : Segment} (h : t.measured ackNumber = some s) :
    acked ackNumber s.packet = false := by
  have mem := (List.mem_filter.mp (List.mem_of_mem_head? h)).2
  simpa using mem

theorem measured_eq_none_iff :
    t.measured ackNumber = none ↔ ∀ s ∈ t.segments, acked ackNumber s.packet = true := by
  rw [measured, List.head?_eq_none_iff, left, List.filter_eq_nil_iff]
  simp

/-- `handle_ack` measures the first segment that it leaves in the queue. That is a segment it has
removed and that was never retransmitted only when there is nothing to measure: when the call
removes all the segments there are and each of them was retransmitted. -/
theorem samples_removed_iff (t : TCPRetransmitter) (now : Time) (ackNumber : UInt32) :
    t.handleAck now ackNumber =
      (match t.measured ackNumber with
      | none => { t with segments := t.left ackNumber }
      | some s => { t with segments := t.left ackNumber }.updateRto (sample now s)) ∧
    (SamplesRemoved t ackNumber ↔
      ∀ s ∈ t.segments, acked ackNumber s.packet = true ∧ s.retries ≠ 0) := by
  refine ⟨handleAck_measured t now ackNumber, fun law => ?_, fun all => ?_⟩
  · have none : t.measured ackNumber = none := by
      cases h : t.measured ackNumber with
      | none => rfl
      | some s =>
        have removed := (law.removed s h).2.1
        rw [acked_of_measured h] at removed
        cases removed
    have unmeasured : ¬ ∃ s ∈ t.segments, Measurable ackNumber s := by
      rw [← law.sampled, none]
      simp
    intro s hs
    have gone := measured_eq_none_iff.mp none s hs
    exact ⟨gone, fun zero => unmeasured ⟨s, hs, gone, zero⟩⟩
  · have none : t.measured ackNumber = none :=
      measured_eq_none_iff.mpr fun s hs => (all s hs).1
    constructor
    · rw [none]
      refine iff_of_false (by simp) ?_
      rintro ⟨s, hs, -, zero⟩
      exact (all s hs).2 zero
    · intro s h
      rw [none] at h
      cases h

/-- The first of two segments is acknowledged, and the second is measured. -/
theorem sample_of_unacked : ∃ s, (twoSegments 7 9).measured 9 = some s ∧
    acked 9 s.packet = false ∧ s.sendTime = 1 ∧
    (twoSegments 7 9).segments.map (fun s => decide (acked 9 s.packet ∧ s.retries = 0)) =
      [true, false] ∧
    (twoSegments 7 9).handleAck 5 9 =
      { twoSegments 7 9 with segments := [s] }.updateRto (sample 5 s) ∧
    ¬ SamplesRemoved (twoSegments 7 9) 9 := by
  refine ⟨_, rfl, rfl, rfl, rfl, handleAck_measured _ _ _, fun law => ?_⟩
  cases (law.removed _ rfl).2.1

end TCPRetransmitter

end Lwip
