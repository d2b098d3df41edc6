import Lwip.Verify.Tcp.Step

/-! Congestion control. An acknowledgment adds a segment to the window below the threshold and
`MSS * MSS / cwnd` above it. That quotient is zero for a window beyond `MSS * MSS`, so the window
stops there; a timeout takes it back to one segment and leaves half of it as the threshold
(`congestion_bounded`). The quotient only falls while the window grows, so a window of
acknowledgments adds one segment at most (`grows_one_segment`). -/

namespace Lwip

/-- A divisor and a quotient are no more than what is divided, and one. -/
theorem add_div_le_succ {m n : Nat} (pos : 0 < n) (le : n ≤ m) : n + m / n ≤ m + 1 := by
  have quotient := Nat.div_pos le pos
  have product := Nat.add_sub_one_le_mul pos.ne' quotient.ne'
  calc n + m / n ≤ n * (m / n) + 1 := Nat.sub_le_iff_le_add.mp product
    _ ≤ m + 1 := Nat.succ_le_succ (Nat.mul_div_le m n)

namespace TCPConnection

variable {c c' : TCPConnection} {isTimeout : Bool}

/-! ## The quotient -/

theorem toNat_mss : tcpMss.toUInt32.toNat = tcpMss.toNat := rfl

/-- The window does not grow beyond the square of a segment, and one. -/
theorem add_quotient_le (n : Nat) :
    n + tcpMss.toNat * tcpMss.toNat / n ≤ max n (tcpMss.toNat * tcpMss.toNat + 1) := by
  rcases Nat.eq_zero_or_pos n with rfl | pos
  · exact Nat.zero_le _
  · rcases Nat.lt_or_ge (tcpMss.toNat * tcpMss.toNat) n with beyond | le
    · rw [Nat.div_eq_of_lt beyond, Nat.add_zero]
      exact Nat.le_max_left _ _
    · exact Nat.le_trans (add_div_le_succ pos le) (Nat.le_max_right _ _)

theorem toNat_quotient (cwnd : UInt32) :
    (tcpMss.toUInt32 * tcpMss.toUInt32 / cwnd).toNat =
      tcpMss.toNat * tcpMss.toNat / cwnd.toNat := by
  rw [UInt32.toNat_div]
  rfl

/-- The addition of congestion avoidance does not wrap, whatever the window is. -/
theorem toNat_add_quotient (cwnd : UInt32) :
    (cwnd + tcpMss.toUInt32 * tcpMss.toUInt32 / cwnd).toNat =
      cwnd.toNat + tcpMss.toNat * tcpMss.toNat / cwnd.toNat := by
  have le := add_quotient_le cwnd.toNat
  have lt := cwnd.toNat_lt
  have square : tcpMss.toNat * tcpMss.toNat = 2131600 := rfl
  rw [UInt32.toNat_add, toNat_quotient, Nat.mod_eq_of_lt]
  omega

/-! ## Any calls -/

/-- What every call leaves true. The threshold is half a window that was within the bounds. -/
structure CongestionInv (c : TCPConnection) : Prop where
  low : tcpMss.toNat ≤ c.window.cwnd.toNat
  high : c.window.cwnd.toNat ≤ tcpMss.toNat * tcpMss.toNat + 1
  threshold : tcpMss.toNat / 2 ≤ c.window.ssthresh.toNat
  threshold_le : c.window.ssthresh.toNat ≤ (tcpMss.toNat * tcpMss.toNat + 1) / 2
  state : c.congestionState ≠ .fastRecovery

theorem mss_le_square : tcpMss.toNat ≤ tcpMss.toNat * tcpMss.toNat + 1 := by decide

theorem CongestionInv.new (isn : UInt32) : CongestionInv (new isn) where
  low := Nat.le_refl _
  high := mss_le_square
  threshold := (by decide : tcpMss.toNat / 2 ≤ (65535 : UInt32).toNat)
  threshold_le := (by decide : (65535 : UInt32).toNat ≤ (tcpMss.toNat * tcpMss.toNat + 1) / 2)
  state := nofun

theorem CongestionInv.control (h : CongestionInv c) (call : Control c isTimeout c') :
    CongestionInv c' := by
  have square : tcpMss.toNat * tcpMss.toNat = 2131600 := rfl
  have mss : tcpMss.toNat = 1460 := rfl
  obtain ⟨low, high, threshold, threshold_le, state⟩ := h
  cases call with
  | timeout =>
    have half : (c.window.cwnd / 2).toNat = c.window.cwnd.toNat / 2 := UInt32.toNat_div _ _
    refine ⟨Nat.le_refl _, mss_le_square, ?_, ?_, nofun⟩
    · rw [half]
      exact Nat.div_le_div_right low
    · rw [half]
      exact Nat.div_le_div_right high
  | reached => exact ⟨low, high, threshold, threshold_le, nofun⟩
  | slowStart st lt =>
    have sum : (c.window.cwnd + tcpMss.toUInt32).toNat =
        c.window.cwnd.toNat + tcpMss.toNat := by
      rw [UInt32.toNat_add, toNat_mss, Nat.mod_eq_of_lt (by omega)]
    have lt := UInt32.lt_iff_toNat_lt.mp lt
    refine ⟨?_, ?_, threshold, threshold_le, state⟩
    · rw [sum]
      omega
    · rw [sum]
      omega
  | avoidance =>
    have le := add_quotient_le c.window.cwnd.toNat
    refine ⟨?_, ?_, threshold, threshold_le, state⟩
    · rw [toNat_add_quotient]
      exact Nat.le_add_right_of_le low
    · rw [toNat_add_quotient]
      exact Nat.le_trans le (Nat.max_le.mpr ⟨high, Nat.le_refl _⟩)
  | recovery st => exact absurd st state

theorem CongestionInv.foldl (h : CongestionInv c) (calls : List Bool) :
    CongestionInv (calls.foldl updateCongestionControl c) := by
  induction calls generalizing c with
  | nil => exact h
  | cons isTimeout calls ih => exact ih (h.control (c.control isTimeout))

/-- An acknowledgment does not make the window smaller. -/
theorem CongestionInv.le_acknowledged (h : CongestionInv c) (call : Control c false c') :
    c.window.cwnd ≤ c'.window.cwnd := by
  have square : tcpMss.toNat * tcpMss.toNat = 2131600 := rfl
  have mss : tcpMss.toNat = 1460 := rfl
  have high := h.high
  rw [UInt32.le_iff_toNat_le]
  cases call with
  | reached => exact Nat.le_refl _
  | slowStart =>
    rw [UInt32.toNat_add, toNat_mss, Nat.mod_eq_of_lt (by omega)]
    exact Nat.le_add_right _ _
  | avoidance =>
    rw [toNat_add_quotient]
    exact Nat.le_add_right _ _
  | recovery st => exact absurd st h.state

/-- The bounds of the congestion control: the next call divides by a window that is not zero, and
none of its additions wraps. -/
structure CongestionBounds (c : TCPConnection) : Prop where
  low : tcpMss.toNat ≤ c.window.cwnd.toNat
  high : c.window.cwnd.toNat ≤ tcpMss.toNat * tcpMss.toNat + 1
  divisor : c.window.cwnd ≠ 0
  slowStart : c.window.cwnd.toNat + tcpMss.toUInt32.toNat < 2 ^ 32
  avoidance : c.window.cwnd.toNat +
    (tcpMss.toUInt32 * tcpMss.toUInt32 / c.window.cwnd).toNat < 2 ^ 32
  threshold : tcpMss.toNat / 2 ≤ c.window.ssthresh.toNat
  acknowledged : c.window.cwnd ≤ (c.updateCongestionControl false).window.cwnd
  state : c.congestionState ≠ .fastRecovery

theorem CongestionInv.bounds (h : CongestionInv c) : CongestionBounds c := by
  have square : tcpMss.toNat * tcpMss.toNat = 2131600 := rfl
  have mss : tcpMss.toNat = 1460 := rfl
  have low := h.low
  have high := h.high
  have le := add_quotient_le c.window.cwnd.toNat
  refine ⟨low, high, fun zero => ?_, ?_, ?_, h.threshold, h.le_acknowledged (c.control false),
    h.state⟩
  · rw [zero] at low
    cases low
  · rw [toNat_mss]
    omega
  · rw [toNat_quotient]
    omega

/-- The bounds hold after any acknowledgments and timeouts. -/
theorem congestion_bounded (isn : UInt32) (calls : List Bool) :
    CongestionBounds (calls.foldl updateCongestionControl (new isn)) :=
  ((CongestionInv.new isn).foldl calls).bounds

/-! ## Runs of a connection -/

/-- The invariant is about the congestion window, the threshold and the congestion state. -/
theorem CongestionInv.congr (h : CongestionInv c) (cwnd : c'.window.cwnd = c.window.cwnd)
    (ssthresh : c'.window.ssthresh = c.window.ssthresh)
    (state : c'.congestionState = c.congestionState) : CongestionInv c' := by
  obtain ⟨low, high, threshold, threshold_le, st⟩ := h
  constructor
  · rwa [cwnd]
  · rwa [cwnd]
  · rwa [ssthresh]
  · rwa [ssthresh]
  · rwa [state]

theorem CongestionInv.updateWindow (h : CongestionInv c) (p : TCPPacket) :
    CongestionInv (c.updateWindow p) := by
  rw [TCPConnection.updateWindow]
  split
  · refine CongestionInv.control ?_ (TCPConnection.control _ false)
    exact h.congr rfl rfl rfl
  · exact h.congr rfl rfl rfl

theorem CongestionInv.transition {now : Time} {p : TCPPacket} {sent : List TCPPacket}
    (h : CongestionInv c) (ht : Transition now c p c' sent) : CongestionInv c' := by
  cases ht with
  | data =>
    obtain ⟨_, _, _, data⟩ := handleData_frame { c with lastActivity := now } p
    rw [data]
    refine CongestionInv.updateWindow ?_ p
    exact h.congr rfl rfl rfl
  | _ => exact h.congr rfl rfl rfl

theorem Step.congestionInv {e : Op × List TCPPacket} (h : Step c e c') (inv : CongestionInv c) :
    CongestionInv c' := by
  have frame := h.frame
  obtain ⟨op, sent⟩ := e
  cases op with
  | handlePacket now packet =>
    cases h
    exact inv.transition (handlePacket_transition c now packet)
  | connect | close | send | handleTimeout | receive | setWindowSize | setMss | enableTimestamps
  | enableNagle | setLocalPort =>
    obtain ⟨cwnd, ssthresh, state⟩ := frame.congestion rfl
    exact inv.congr cwnd ssthresh state

/-- The bounds hold of every connection that calls have made from a new one, its retransmission
timer included, which has a window of its own. -/
theorem Reachable.congestionBounds (h : Reachable c) : CongestionBounds c := by
  obtain ⟨isn, es, run⟩ := h
  exact (run.invariant CongestionInv (.new isn) fun _ _ _ inv hs => hs.congestionInv inv).bounds

/-! ## A window of acknowledgments -/

/-- The connection after `k` acknowledgments. -/
def acknowledge (k : Nat) (c : TCPConnection) : TCPConnection :=
  (updateCongestionControl · false)^[k] c

theorem acknowledge_succ (k : Nat) (c : TCPConnection) :
    acknowledge (k + 1) c = (acknowledge k c).updateCongestionControl false :=
  Function.iterate_succ_apply' _ k c

/-- In congestion avoidance every acknowledgment adds at most what the first one does. -/
theorem acknowledge_avoidance (st : c.congestionState = .congestionAvoidance)
    (pos : 0 < c.window.cwnd.toNat) (k : Nat) :
    (acknowledge k c).congestionState = .congestionAvoidance ∧
      c.window.cwnd.toNat ≤ (acknowledge k c).window.cwnd.toNat ∧
      (acknowledge k c).window.cwnd.toNat ≤
        c.window.cwnd.toNat + k * (tcpMss.toNat * tcpMss.toNat / c.window.cwnd.toNat) := by
  induction k with
  | zero => exact ⟨st, Nat.le_refl _, Nat.le_add_right _ _⟩
  | succ k ih =>
    obtain ⟨st', ge, le⟩ := ih
    have call := (acknowledge k c).control false
    rw [← acknowledge_succ] at call
    generalize acknowledge (k + 1) c = c' at *
    generalize acknowledge k c = before at *
    have falls : tcpMss.toNat * tcpMss.toNat / before.window.cwnd.toNat ≤
        tcpMss.toNat * tcpMss.toNat / c.window.cwnd.toNat := Nat.div_le_div_left ge pos
    cases call with
    | avoidance =>
      refine ⟨st', ?_, ?_⟩
      · rw [toNat_add_quotient]
        exact Nat.le_add_right_of_le ge
      · rw [toNat_add_quotient, Nat.succ_mul, ← Nat.add_assoc]
        exact Nat.add_le_add le falls
    | reached st | slowStart st | recovery st => cases st'.symm.trans st

/-- A window of acknowledgments adds at most one segment, whatever the window is. -/
theorem grows_one_segment (st : c.congestionState = .congestionAvoidance) {k : Nat}
    (le : k ≤ c.window.cwnd.toNat / tcpMss.toNat) :
    c.window.cwnd ≤ (acknowledge k c).window.cwnd ∧
      (acknowledge k c).window.cwnd.toNat ≤ c.window.cwnd.toNat + tcpMss.toNat := by
  rcases Nat.eq_zero_or_pos c.window.cwnd.toNat with zero | pos
  · rw [zero, Nat.zero_div, Nat.le_zero] at le
    subst le
    exact ⟨UInt32.le_refl _, Nat.le_add_right _ _⟩
  · obtain ⟨-, ge, bound⟩ := acknowledge_avoidance st pos k
    have segment : k * (tcpMss.toNat * tcpMss.toNat / c.window.cwnd.toNat) ≤ tcpMss.toNat := by
      have mss : 0 < tcpMss.toNat := by decide
      calc k * (tcpMss.toNat * tcpMss.toNat / c.window.cwnd.toNat)
          ≤ c.window.cwnd.toNat / tcpMss.toNat *
            (tcpMss.toNat * tcpMss.toNat / c.window.cwnd.toNat) := Nat.mul_le_mul_right _ le
        _ ≤ c.window.cwnd.toNat * (tcpMss.toNat * tcpMss.toNat) /
            (tcpMss.toNat * c.window.cwnd.toNat) := Nat.div_mul_div_le _ _ _ _
        _ = tcpMss.toNat := by
          rw [← Nat.mul_assoc, Nat.mul_comm c.window.cwnd.toNat,
            Nat.mul_div_cancel_left _ (Nat.mul_pos mss pos)]
    exact ⟨UInt32.le_iff_toNat_le.mpr ge, Nat.le_trans bound (Nat.add_le_add_left segment _)⟩

/-- A new connection that has left slow start, with a window of 45 segments. -/
def avoiding : TCPConnection := (List.replicate 45 false).foldl updateCongestionControl (new 0)

theorem grows_one_segment_avoiding : avoiding.window.cwnd = 65700 ∧
    avoiding.window.cwnd ≤ (acknowledge 45 avoiding).window.cwnd ∧
    (acknowledge 45 avoiding).window.cwnd.toNat ≤
      avoiding.window.cwnd.toNat + tcpMss.toNat := by
  refine ⟨by decide, grows_one_segment ?_ ?_⟩
  · decide
  · decide

end TCPConnection

end Lwip
