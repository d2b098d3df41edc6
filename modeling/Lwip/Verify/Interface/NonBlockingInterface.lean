import Lwip.Interface.NonBlockingInterface

/-! What `process_io` delivers. The buffer is as long as the last frame read, so a frame is cut off
to the length of the shortest one before it (`processIo_eq`), and the frames come through whole
exactly when none is longer than one before it (`processIo_delivers_iff`). -/

namespace Lwip

namespace NonBlockingInterface

/-- What is delivered of some frames by a buffer of length `n`, and the frames left. -/
def cut (n : Nat) : List Bytes → List Bytes × List Bytes
  | [] => ([], [])
  | frame :: frames =>
    let data := frame.take n
    if data = [] then ([], frames) else
    (data :: (cut data.length frames).1, (cut data.length frames).2)

theorem resize_append (v rest : Bytes) : resize (v ++ rest) v.length = v := by
  simp [resize]

theorem run_processTurn {frames : List Bytes} {fuel : Nat} (enough : frames.length < fuel)
    (buffer : Bytes) (received : List Bytes) :
    ∃ buffer', Loop.run processTurn fuel ⟨buffer, frames, received⟩ =
      some ⟨buffer', (cut buffer.length frames).2, received ++ (cut buffer.length frames).1⟩ := by
  induction frames generalizing fuel buffer received with
  | nil =>
    obtain ⟨fuel, rfl⟩ : ∃ k, fuel = k + 1 := ⟨fuel - 1, by simp at enough; omega⟩
    exact ⟨buffer, Loop.run_done (by simp [processTurn, readFrame, cut]) fuel⟩
  | cons frame frames ih =>
    simp only [List.length_cons] at enough
    obtain ⟨fuel, rfl⟩ : ∃ k, fuel = k + 1 := ⟨fuel - 1, by omega⟩
    rw [cut]
    split
    · rename_i empty
      refine ⟨buffer, Loop.run_done ?_ fuel⟩
      simp [processTurn, readFrame, empty]
    · rename_i data
      have turn : processTurn ⟨buffer, frame :: frames, received⟩ =
          .again ⟨frame.take buffer.length, frames, received ++ [frame.take buffer.length]⟩ := by
        have some_bytes : ((frame.take buffer.length).length : Int) > 0 := by
          have := List.length_pos_iff.mpr data
          omega
        rw [processTurn, readFrame]
        simp only [if_pos some_bytes, Int.toNat_natCast, resize_append]
      obtain ⟨buffer', run⟩ := ih (by omega : frames.length < fuel) (frame.take buffer.length)
        (received ++ [frame.take buffer.length])
      refine ⟨buffer', (Loop.run_again turn fuel).trans ?_⟩
      rw [run, List.append_assoc, List.singleton_append]

/-- The loop ends, and has delivered what the buffer let through. -/
theorem processIo_eq {frames : List Bytes} {fuel : Nat} (enough : frames.length < fuel) :
    ∃ buffer, processIo frames fuel =
      some ⟨buffer, (cut maxFrameSize frames).2, (cut maxFrameSize frames).1⟩ := by
  obtain ⟨buffer, run⟩ := run_processTurn enough (List.replicate maxFrameSize 0) []
  rw [List.length_replicate] at run
  exact ⟨buffer, run⟩

/-- A buffer lets the frames through whole exactly when each fits, none is empty and none is longer
than one before it. -/
theorem cut_eq_iff {n : Nat} {frames : List Bytes} :
    cut n frames = (frames, []) ↔ (∀ frame ∈ frames, frame.length ≤ n) ∧
      (∀ frame ∈ frames, frame ≠ []) ∧
      frames.Pairwise fun frame later => later.length ≤ frame.length := by
  induction frames generalizing n with
  | nil => simp [cut]
  | cons frame frames ih =>
    rw [cut]
    simp only [List.forall_mem_cons, List.pairwise_cons]
    split
    · rename_i empty
      refine iff_of_false (by simp) fun h => h.2.1.1 ?_
      rwa [List.take_of_length_le h.1.1] at empty
    · rename_i data
      rw [Prod.mk.injEq, List.cons.injEq, and_assoc, ← Prod.mk.injEq, ih]
      constructor
      · rintro ⟨whole, fit, ne, ordered⟩
        have fits : frame.length ≤ n := List.take_eq_self_iff frame |>.mp whole
        rw [whole] at fit data
        exact ⟨⟨fits, fun later mem => (fit later mem).trans fits⟩, ⟨data, ne⟩, fit, ordered⟩
      · rintro ⟨⟨fits, -⟩, ⟨-, ne⟩, fit, ordered⟩
        rw [List.take_of_length_le fits]
        exact ⟨rfl, fit, ne, ordered⟩

/-- `process_io` calls `on_frame_received` with the frames that are there, each once and whole and
in order, exactly when no frame is empty and none is longer than one before it. -/
theorem processIo_delivers_iff {frames : List Bytes} {fuel : Nat}
    (small : ∀ frame ∈ frames, frame.length ≤ maxFrameSize) (enough : frames.length < fuel) :
    ∃ s, processIo frames fuel = some s ∧ (s.received = frames ∧ s.frames = [] ↔
      (∀ frame ∈ frames, frame ≠ []) ∧
        frames.Pairwise fun frame later => later.length ≤ frame.length) := by
  obtain ⟨buffer, run⟩ := processIo_eq enough
  refine ⟨_, run, ?_⟩
  have whole := @cut_eq_iff maxFrameSize frames
  rw [Prod.ext_iff, and_iff_right small] at whole
  exact whole

theorem processIo_delivers_shrinking :
    ∃ s, processIo [[1, 2], [3]] 3 = some s ∧ (s.received = [[1, 2], [3]] ∧ s.frames = [] ↔
      (∀ frame ∈ [[1, 2], [3]], frame ≠ ([] : Bytes)) ∧
        [[1, 2], [3]].Pairwise fun (frame later : Bytes) => later.length ≤ frame.length) :=
  processIo_delivers_iff (by decide) (by decide)

/-- A frame after a shorter one is cut off. -/
theorem second_frame_cut : ∃ buffer, processIo [[1], [2, 3]] 3 = some ⟨buffer, [], [[1], [2]]⟩ :=
  processIo_eq (by decide)

end NonBlockingInterface

end Lwip
