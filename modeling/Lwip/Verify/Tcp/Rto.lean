import Mathlib.Data.Rat.Floor
import Lwip.Verify.Tcp.Retransmitter

/-! The bounds of the retransmission timeout. `update_rto` compares a number of milliseconds with
the counts of `RTO_MIN` and `RTO_MAX`, and the second is one of seconds: whatever the sample, what
comes out is 120 (`updateRto_rto`). The backoff of `check_timeouts` is not compared with anything.
`stays_in_bounds_iff` says which runs never come to either. -/

namespace Lwip

namespace TCPRetransmitter

variable {t t' : TCPRetransmitter} {callback : Bool} {es : List Event}

/-- Between `RTO_MIN` and `RTO_MAX`, in milliseconds. -/
structure InBounds (t : TCPRetransmitter) : Prop where
  rto : (rtoMinCount : Rat) ≤ t.rto ∧ t.rto ≤ (rtoMaxCount * 1000 : Int)
  timeouts : ∀ s ∈ t.segments, rtoMinCount ≤ s.timeout ∧ s.timeout ≤ rtoMaxCount * 1000

/-- An acknowledgment leaves nothing in the queue, and a scan doubles no timeout of more than half
of `RTO_MAX`. -/
structure Steady (t : TCPRetransmitter) (e : Event) : Prop where
  ack : ∀ now ackNumber, e = .ack now ackNumber →
    ∀ s ∈ t.segments, acked ackNumber s.packet = true
  check : ∀ now calls, e = .check now calls →
    ∀ s ∈ t.segments, Segment.due now s = true → s.timeout ≤ rtoMaxCount * 500

theorem updateRto_rto (t : TCPRetransmitter) (rtt : Rat) :
    (t.updateRto rtt).rto = rtoMaxCount := by
  have order : (rtoMaxCount : Rat) ≤ rtoMinCount := by decide
  rw [updateRto]
  exact min_eq_right (order.trans (le_max_right _ _))

theorem calculateRto_inBounds (h : InBounds t) :
    rtoMinCount ≤ t.calculateRto ∧ t.calculateRto ≤ rtoMaxCount * 1000 := by
  have nonneg : 0 ≤ t.rto := le_trans (by decide) h.rto.1
  have floor : t.calculateRto = ⌊t.rto⌋ := by
    rw [calculateRto, Int.tdiv_eq_ediv_of_nonneg (Rat.num_nonneg.mpr nonneg), Rat.floor_def']
  rw [floor]
  exact ⟨Int.le_floor.mpr h.rto.1, Int.cast_le.mp ((Int.floor_le t.rto).trans h.rto.2)⟩

/-- With nothing left in the queue the estimator is left alone, and else it comes out too low. -/
theorem handleAck_inBounds_iff (h : InBounds t) (now : Time) (ackNumber : UInt32) :
    InBounds (t.handleAck now ackNumber) ↔ ∀ s ∈ t.segments, acked ackNumber s.packet = true := by
  have low : ¬ (rtoMinCount : Rat) ≤ (rtoMaxCount : Rat) := by decide
  rw [handleAck]
  dsimp only
  split
  · rename_i none
    refine iff_of_true ⟨h.rto, fun s hs => ?_⟩ fun s hs => ?_
    · rw [none] at hs
      cases hs
    · simpa using List.filter_eq_nil_iff.mp none s hs
  · rename_i first rest some
    refine iff_of_false (fun bounds => low ?_) fun all => ?_
    · rw [← updateRto_rto]
      exact bounds.rto.1
    · have left : first ∈ t.segments.filter fun s => !acked ackNumber s.packet := by
        rw [some]
        exact List.mem_cons_self
      have hf := List.mem_filter.mp left
      simp [all first hf.1] at hf

theorem checkTimeouts_inBounds_iff (h : InBounds t) (now : Time) :
    InBounds (t.checkTimeouts now).2 ↔
      ∀ s ∈ t.segments, Segment.due now s = true → s.timeout ≤ rtoMaxCount * 500 := by
  rw [checkTimeouts_eq]
  dsimp only
  constructor
  · intro bounds s hs due
    have doubled := (bounds.timeouts _ (List.mem_map_of_mem hs)).2
    rw [rescheduled, if_pos due] at doubled
    dsimp only at doubled
    omega
  · intro steady
    refine ⟨h.rto, fun s' hs' => ?_⟩
    obtain ⟨s, hs, rfl⟩ := List.mem_map.mp hs'
    have bounds := h.timeouts s hs
    rw [rescheduled]
    split
    · have := steady s hs ‹_›
      have positive : (0 : Int) ≤ rtoMinCount := by decide
      dsimp only
      omega
    · exact bounds

theorem Step.inBounds_iff {e : Event} (step : Step t e t') (h : InBounds t) :
    InBounds t' ↔ Steady t e := by
  cases step with
  | add now packet =>
    refine iff_of_true ⟨h.rto, fun s hs => ?_⟩
      ⟨(fun _ _ eq => by cases eq), fun _ _ eq => by cases eq⟩
    rcases List.mem_append.mp hs with hs | hs
    · exact h.timeouts s hs
    · rw [List.mem_singleton.mp hs]
      exact calculateRto_inBounds h
  | ack now ackNumber =>
    rw [handleAck_inBounds_iff h]
    refine ⟨fun all => ⟨fun now' a eq => ?_, fun _ _ eq => by cases eq⟩,
      fun steady => steady.ack _ _ rfl⟩
    cases eq
    exact all
  | check now =>
    rw [checkTimeouts_inBounds_iff h]
    refine ⟨fun all => ⟨(fun _ _ eq => by cases eq), fun now' calls eq => ?_⟩,
      fun steady => steady.check _ _ rfl⟩
    cases eq
    exact all

theorem inBounds_start (callback : Bool) : InBounds (start callback) := by
  refine ⟨?_, fun _ hs => by cases hs⟩
  change (200 : Rat) ≤ 1000 ∧ (1000 : Rat) ≤ (120000 : Int)
  decide

/-- A run stays within the bounds exactly when every acknowledgment in it empties the queue and no
scan doubles a timeout of more than half of `RTO_MAX`. -/
theorem stays_in_bounds_iff :
    Run (fun t e t' => Step t e t' ∧ InBounds t') (start callback) es t ↔
      Run (fun t e t' => Step t e t' ∧ Steady t e) (start callback) es t := by
  apply Run.law_iff_guard InBounds (inBounds_start callback)
  · intro t e t' bounds step steady
    exact (step.inBounds_iff bounds).mpr steady
  · intro t e t' bounds step
    exact step.inBounds_iff bounds

/-- The first sample, of 300 ms, makes the timeout 120 ms; and the seventh retransmission of a
segment leaves it with one of 128 s. -/
theorem out_of_bounds :
    (∃ t, Run Step (start false) [.add 0 firstPacket, .ack 300000000 100] t ∧
      t.segments.length = 1 ∧ t.rto < rtoMinCount) ∧
    ∃ es t, Run Step (start false) es t ∧ ∃ s ∈ t.segments, rtoMaxCount * 1000 < s.timeout := by
  have added : Step (start false) (.add 0 firstPacket) ((start false).addSegment 0 firstPacket) :=
    .add 0 firstPacket
  have run := Run.single added
  have scans := ((((((run.snoc (.check 2000000000)).snoc (.check 5000000000)).snoc
    (.check 10000000000)).snoc (.check 20000000000)).snoc (.check 40000000000)).snoc
    (.check 80000000000)).snoc (.check 160000000000)
  refine ⟨⟨_, run.snoc (.ack 300000000 100), rfl, ?_⟩, _, _, scans,
    ⟨firstPacket, 160000000000, 128000, 7⟩, List.mem_singleton.mpr rfl, by decide⟩
  have rto : (((start false).addSegment 0 firstPacket).handleAck 300000000 100).rto =
    rtoMaxCount := updateRto_rto _ _
  rw [rto]
  decide

end TCPRetransmitter

end Lwip
