import Lwip.Verify.Tcp.Sending

/-! How far the loop of `send` gets. A segment takes what is left of the data modulo 65536, so that
the loop works through the first `data.length % 65536` bytes and stands still after these, unless
they are all (`send_returns_iff`). A failure of `send_packet` ends it wherever it is, with what has
gone out counted and queued: the caller who is told `false` and tries again sends that twice
(`send_atomic_iff`). -/

namespace Lwip

namespace TCPConnection

variable {c : TCPConnection} {data : Bytes} {fuel : Nat} {now : Nat → Time} {ok : Nat → Bool}
  {s s' : Sending} {r : Call Bool}

/-- The test of Nagle's algorithm: `data` is put off. -/
def putsOff (c : TCPConnection) (data : Bytes) : Bool :=
  c.nagleEnabled && decide (c.unackedData > 0) && decide (data.length < c.maxSegmentSize.toNat)

theorem send_of_putsOff (st : c.state = .established) (off : c.putsOff data = true) :
    c.send data now ok fuel = some ⟨true, { c with pendingData := c.pendingData ++ data }, []⟩ := by
  rw [putsOff] at off
  rw [send, if_neg (not_not.mpr st), if_pos off]

theorem send_eq_run (st : c.state = .established) (off : c.putsOff data = false) :
    c.send data now ok fuel =
      Loop.run (sendTurn data c.sendingWindow now ok) fuel ⟨0, c, []⟩ := by
  rw [putsOff] at off
  rw [send, if_neg (not_not.mpr st), off, if_neg Bool.false_ne_true, sendingWindow]

/-- The largest number of bytes in a segment. -/
def segmentBound (c : TCPConnection) : Nat :=
  min c.maxSegmentSize.toNat (c.sendingWindow % 65536)

/-- What holds at the head of the loop of `send`, called on `c`. -/
structure Reached (data : Bytes) (ok : Nat → Bool) (c : TCPConnection) (s : Sending) : Prop where
  mss : s.conn.maxSegmentSize = c.maxSegmentSize
  good : ∀ i < s.sent.length, ok i = true
  offset : s.offset = min (s.sent.length * c.segmentBound) (data.length % 65536)
  queue : s.conn.retransmitQueue.length = c.retransmitQueue.length + s.sent.length
  start : s.sent = [] → s.conn = c

theorem Reached.nothing (data : Bytes) (ok : Nat → Bool) (c : TCPConnection) :
    Reached data ok c ⟨0, c, []⟩ :=
  ⟨rfl, fun _ h => absurd h (Nat.not_lt_zero _), by simp, rfl, fun _ => rfl⟩

theorem Reached.size_next (h : Reached data ok c s) :
    (s.next data c.sendingWindow).getPayloadSize =
      min c.segmentBound (data.length % 65536 - s.offset) := by
  have offset := h.offset
  rw [Sending.size_next, chunkSize, toNat_min16, toNat_min16, h.mss, segmentBound,
    UInt16.toNat_ofNat', UInt16.toNat_ofNat']
  change min (min _ ((data.length - s.offset) % 65536)) (c.sendingWindow % 65536) = _
  omega

theorem Reached.turn (h : Reached data ok c s)
    (hb : sendTurn data c.sendingWindow now ok s = .again s') :
    Reached data ok c s' ∧ s'.sent.length = s.sent.length + 1 := by
  have size := h.size_next
  obtain ⟨-, good, rfl⟩ := sendTurn_again hb
  refine ⟨⟨h.mss, forall_succeeded_concat h.good good _, ?_, ?_, fun none => ?_⟩, by simp⟩
  · have offset := h.offset
    dsimp only
    rw [size, List.length_append, List.length_singleton, Nat.succ_mul]
    omega
  · dsimp only [pushRetransmit]
    rw [List.length_append, h.queue, List.length_append]
    rfl
  · simp at none

/-- `k` segments do not exhaust the data, or none ever do. -/
def Unfinished (c : TCPConnection) (data : Bytes) (k : Nat) : Prop :=
  k * c.segmentBound < data.length ∨ 65536 ≤ data.length

theorem Reached.unfinished_iff (h : Reached data ok c s) :
    s.offset < data.length ↔ c.Unfinished data s.sent.length := by
  have offset := h.offset
  rw [Unfinished]
  omega

/-! ## Whether the loop ends -/

theorem send_diverges (st : c.state = .established) (long : 65536 ≤ data.length)
    (now : Nat → Time) (fuel : Nat) : c.send data now (fun _ => true) fuel = none := by
  have off : c.putsOff data = false := by
    have := c.maxSegmentSize.toNat_lt
    have size : ¬ data.length < c.maxSegmentSize.toNat := by omega
    rw [putsOff, decide_eq_false size, Bool.and_false]
  rw [send_eq_run st off]
  refine Loop.run_diverges (Reached data (fun _ => true) c) (fun s h => ?_) (.nothing _ _ c) fuel
  rcases sendTurn_cases data c.sendingWindow now (fun _ => true) s with
    ⟨-, -, eq⟩ | ⟨-, bad, -⟩ | ⟨all, -⟩
  · exact ⟨_, eq, (h.turn eq).1⟩
  · cases bad
  · have := h.unfinished_iff.mpr (.inr long)
    omega

theorem Reached.advances (h : Reached data ok c s) (pos : 0 < c.segmentBound)
    (short : data.length < 65536) :
    (∃ s', sendTurn data c.sendingWindow now ok s = .again s' ∧ Reached data ok c s' ∧
      data.length - s'.offset < data.length - s.offset) ∨
    ∃ r, sendTurn data c.sendingWindow now ok s = .done r ∧ True := by
  have size := h.size_next
  rcases sendTurn_cases data c.sendingWindow now ok s with ⟨lt, -, eq⟩ | ⟨-, -, eq⟩ | ⟨-, eq⟩
  · refine .inl ⟨_, eq, (h.turn eq).1, ?_⟩
    dsimp only
    omega
  · exact .inr ⟨_, eq, trivial⟩
  · exact .inr ⟨_, eq, trivial⟩

theorem send_returns (st : c.state = .established) (pos : 0 < c.segmentBound)
    (short : data.length < 65536) (now : Nat → Time) (ok : Nat → Bool) :
    ∃ fuel r, c.send data now ok fuel = some r := by
  cases off : c.putsOff data with
  | true => exact ⟨0, _, send_of_putsOff st off⟩
  | false =>
    obtain ⟨r, run, -⟩ := Loop.run_total (Reached data ok c) (fun _ => True)
      (fun s => data.length - s.offset) (fun s h => h.advances pos short)
      (.nothing data ok c) (Nat.lt_succ_self _)
    exact ⟨_, r, (send_eq_run st off).trans run⟩

/-- When every `send_packet` succeeds, the loop of `send` ends exactly for data of fewer than 65536
bytes. -/
theorem send_returns_iff (hr : Reachable c) (st : c.state = .established)
    (pos : 1 ≤ c.maxSegmentSize.toNat) (data : Bytes) (now : Nat → Time) :
    (∃ fuel r, c.send data now (fun _ => true) fuel = some r) ↔ data.length < 65536 := by
  constructor
  · rintro ⟨fuel, r, call⟩
    by_contra long
    rw [send_diverges st (Nat.le_of_not_lt long)] at call
    cases call
  · intro short
    obtain ⟨wide, fits⟩ := hr.defaultWindow.sendingWindow pos
    refine send_returns st ?_ short now _
    rw [segmentBound, Nat.mod_eq_of_lt fits]
    omega

theorem send_returns_openedBy :
    ∃ fuel r, (openedBy 100 300).send [1, 2, 3] (fun _ => 0) (fun _ => true) fuel = some r :=
  (send_returns_iff (reachable_openedBy 100 300) (by rw [openedBy_eq])
    (by rw [openedBy_eq]; decide) [1, 2, 3] fun _ => 0).mpr (by decide)

/-- The data of 65536 zeros: the first segment is empty, and so are all that follow. -/
theorem send_stuck : ∃ c data, Reachable c ∧ c.state = .established ∧
    1 ≤ c.maxSegmentSize.toNat ∧ data.length = 65536 ∧
    ∀ fuel, c.send data (fun _ => 0) (fun _ => true) fuel = none := by
  have st : (openedBy 100 300).state = .established := by rw [openedBy_eq]
  refine ⟨openedBy 100 300, List.replicate 65536 0, reachable_openedBy 100 300, st, ?_,
    List.length_replicate, fun fuel => ?_⟩
  · rw [openedBy_eq]
    decide
  · refine send_diverges st ?_ _ fuel
    rw [List.length_replicate]

/-! ## What a failure leaves behind -/

/-- Nothing of a call's data has been sent, counted, queued or put off. -/
structure Undone (c : TCPConnection) (ok : Nat → Bool) (r : Call Bool) : Prop where
  localSeqNum : r.conn.localSeqNum = c.localSeqNum
  retransmitQueue : r.conn.retransmitQueue = c.retransmitQueue
  pendingData : r.conn.pendingData = c.pendingData
  emitted : (succeeded ok r.sent).flatMap (·.getPayload) = []

/-- What a call leaves that fails at its `k`-th segment. -/
def FailedAt (c : TCPConnection) (k : Nat) (r : Call Bool) : Prop :=
  r.ret = false ∧ r.conn.retransmitQueue.length = c.retransmitQueue.length + k

theorem Reached.fails {k : Nat} (h : Reached data ok c s) (le : s.sent.length ≤ k)
    (good : ∀ i < k, ok i = true) (bad : ok k = false) (more : c.Unfinished data k) :
    (∃ s', sendTurn data c.sendingWindow now ok s = .again s' ∧
      (Reached data ok c s' ∧ s'.sent.length ≤ k) ∧ k - s'.sent.length < k - s.sent.length) ∨
    ∃ r, sendTurn data c.sendingWindow now ok s = .done r ∧ FailedAt c k r := by
  have lt : s.offset < data.length := by
    rw [h.unfinished_iff, Unfinished]
    have := Nat.mul_le_mul_right c.segmentBound le
    rw [Unfinished] at more
    omega
  rcases sendTurn_cases data c.sendingWindow now ok s with
    ⟨-, sent, eq⟩ | ⟨-, failed, eq⟩ | ⟨all, -⟩
  · have ne : s.sent.length ≠ k := fun same => by simp [same, bad] at sent
    obtain ⟨h', length⟩ := h.turn eq
    exact .inl ⟨_, eq, ⟨h', by omega⟩, by omega⟩
  · have last : s.sent.length = k := by
      by_contra ne
      rw [good _ (by omega)] at failed
      cases failed
    exact .inr ⟨_, eq, rfl, last ▸ h.queue⟩
  · omega

theorem send_fails (st : c.state = .established) (off : c.putsOff data = false) {k : Nat}
    (good : ∀ i < k, ok i = true) (bad : ok k = false) (more : c.Unfinished data k)
    (now : Nat → Time) : ∃ fuel r, c.send data now ok fuel = some r ∧ FailedAt c k r := by
  obtain ⟨r, run, failed⟩ := Loop.run_total
    (fun s => Reached data ok c s ∧ s.sent.length ≤ k) (FailedAt c k)
    (fun s => k - s.sent.length) (fun s hs => hs.1.fails hs.2 good bad more)
    ⟨.nothing data ok c, Nat.zero_le k⟩ (Nat.lt_succ_self _)
  exact ⟨_, r, (send_eq_run st off).trans run, failed⟩

/-- A call that fails has done so at some segment, after it has sent those before it. -/
theorem send_failed (call : c.send data now ok fuel = some r) (st : c.state = .established)
    (failed : r.ret = false) : c.putsOff data = false ∧ ∃ k, (∀ i < k, ok i = true) ∧
      ok k = false ∧ c.Unfinished data k ∧ (k = 0 → Undone c ok r) := by
  cases off : c.putsOff data with
  | true =>
    rw [send_of_putsOff st off] at call
    cases call
    cases failed
  | false =>
    rw [send_eq_run st off] at call
    obtain ⟨s, h, hb⟩ := Loop.run_invariant (Reached data ok c) (fun _ _ h hb => (h.turn hb).1)
      (.nothing data ok c) call
    refine ⟨rfl, s.sent.length, h.good, ?_⟩
    rcases sendTurn_done hb with ⟨lt, bad, rfl⟩ | ⟨-, rfl⟩
    · refine ⟨bad, h.unfinished_iff.mp lt, fun zero => ?_⟩
      have none := List.eq_nil_of_length_eq_zero zero
      have same := h.start none
      refine ⟨by rw [same], by rw [same], by rw [same], ?_⟩
      rw [succeeded_append, bad, none]
      rfl
    · cases failed

/-- A call of `send` that fails leaves nothing behind, whatever its `send_packet` calls do, exactly
when the data is put off, the first of these calls fails, or all of them that there can be
succeed. -/
theorem send_atomic_iff (st : c.state = .established) (data : Bytes) (ok : Nat → Bool) :
    (∀ now fuel r, c.send data now ok fuel = some r → r.ret = false → Undone c ok r) ↔
      c.putsOff data = true ∨ ok 0 = false ∨ ∀ k, c.Unfinished data k → ok k = true := by
  constructor
  · intro atomic
    by_contra not
    simp only [not_or, Bool.not_eq_true, Bool.not_eq_false, not_forall] at not
    obtain ⟨off, first, k, more, bad⟩ := not
    -- the first failure comes at `k` or before it, and not at the first segment
    have some : ∃ j, ok j = false := ⟨k, bad⟩
    have least : ∀ i < Nat.find some, ok i = true := fun i lt => by
      simpa using Nat.find_min some lt
    have le : Nat.find some ≤ k := Nat.find_min' some bad
    have pos : Nat.find some ≠ 0 := fun zero => by
      have := Nat.find_spec some
      rw [zero, first] at this
      cases this
    have more' : c.Unfinished data (Nat.find some) := by
      have := Nat.mul_le_mul_right c.segmentBound le
      rw [Unfinished] at more ⊢
      omega
    obtain ⟨fuel, r, call, failed, queue⟩ :=
      send_fails st off least (Nat.find_spec some) more' fun _ => 0
    have undone := atomic _ fuel r call failed
    rw [undone.retransmitQueue] at queue
    omega
  · intro condition now fuel r call failed
    obtain ⟨off, k, good, bad, more, undone⟩ := send_failed call st failed
    rcases condition with off' | first | all
    · rw [off] at off'
      cases off'
    · refine undone ?_
      by_contra pos
      rw [good 0 (Nat.pos_of_ne_zero pos)] at first
      cases first
    · rw [all k more] at bad
      cases bad

/-- A call whose first `send_packet` fails. -/
theorem send_atomic_refused : ∃ r, (openedBy 100 300).send [1, 2, 3] (fun _ => 0)
    (fun _ => false) 1 = some r ∧ r.ret = false ∧ Undone (openedBy 100 300) (fun _ => false) r := by
  have st : (openedBy 100 300).state = .established := by rw [openedBy_eq]
  obtain ⟨r, call, failed⟩ : ∃ r, (openedBy 100 300).send [1, 2, 3] (fun _ => 0)
      (fun _ => false) 1 = some r ∧ r.ret = false := by
    rw [openedBy_eq]
    exact ⟨_, rfl, rfl⟩
  exact ⟨r, call, failed,
    (send_atomic_iff st [1, 2, 3] fun _ => false).mpr (.inr (.inl rfl)) _ _ r call failed⟩

/-- Three bytes in segments of two. The second segment is lost, and the next call sends all three
again. -/
theorem send_half_done : ∃ c r r', Reachable c ∧ c.state = .established ∧
    c.send [1, 2, 3] (fun _ => 0) (fun k => k == 0) 2 = some r ∧ r.ret = false ∧
    ¬ Undone c (fun k => k == 0) r ∧
    (succeeded (fun k => k == 0) r.sent).map (·.getPayload) = [[1, 2]] ∧
    r.conn.send [1, 2, 3] (fun _ => 0) (fun _ => true) 3 = some r' ∧
    r'.sent.map (·.getPayload) = [[1, 2], [3]] := by
  have reachable : Reachable ((openedBy 100 300).setMss 2) :=
    (reachable_openedBy 100 300).run (.single (rfl : Step _ (.setMss 2, []) _))
  obtain ⟨c, eq⟩ : ∃ c, (openedBy 100 300).setMss 2 = c := ⟨_, rfl⟩
  rw [eq] at reachable
  rw [openedBy_eq] at eq
  subst eq
  refine ⟨_, _, _, reachable, rfl, rfl, rfl, fun undone => ?_, rfl, rfl, rfl⟩
  have := congrArg List.length undone.retransmitQueue
  cases this

end TCPConnection

end Lwip
