import Mathlib.Algebra.Group.Nat.Defs
import Mathlib.Data.List.Basic
import Mathlib.Data.List.Range

/-! A stream cut into pieces and a receiver that takes only the piece it waits for. The pieces
are numbered; `offset cut i` is the position in the stream where piece `i` starts. The receiver's
state is the number of pieces taken, and an arrival counts when it is the next one. It has taken
the whole stream exactly when the numbers in order are a subsequence of the arrivals. -/

namespace Lwip

universe u

/-! ## Sequence numbers -/

/-- The 32-bit sequence number of the stream position `i` when position 0 has number `base`. -/
def seqAt (base : UInt32) (i : Nat) : UInt32 := base + UInt32.ofNat i

@[simp] theorem seqAt_zero (base : UInt32) : seqAt base 0 = base := by
  simp [seqAt]

theorem seqAt_add (base : UInt32) (i j : Nat) :
    seqAt base (i + j) = seqAt base i + UInt32.ofNat j := by
  rw [seqAt, seqAt, UInt32.ofNat_add, UInt32.add_assoc]

/-- Positions less than one turn of the sequence space apart have different numbers. -/
theorem seqAt_inj {base : UInt32} {i j : Nat} (hi : i < 2 ^ 32) (hj : j < 2 ^ 32) :
    seqAt base i = seqAt base j ↔ i = j := by
  rw [seqAt, seqAt, UInt32.add_right_inj]
  refine ⟨fun h => ?_, fun eq => by rw [eq]⟩
  have := congrArg UInt32.toNat h
  rwa [UInt32.toNat_ofNat_of_lt' hi, UInt32.toNat_ofNat_of_lt' hj] at this

/-! ## Pieces of a stream -/

namespace Cut

variable {α : Type u} {cut : List (List α)}

def offset (cut : List (List α)) (i : Nat) : Nat := (cut.take i).flatten.length

theorem flatten_take_succ {i : Nat} {piece : List α} (h : cut[i]? = some piece) :
    (cut.take (i + 1)).flatten = (cut.take i).flatten ++ piece := by
  rw [List.take_add_one, h]
  simp

theorem offset_succ {i : Nat} {piece : List α} (h : cut[i]? = some piece) :
    offset cut (i + 1) = offset cut i + piece.length := by
  rw [offset, flatten_take_succ h, List.length_append]
  rfl

theorem offset_le (cut : List (List α)) (i : Nat) : offset cut i ≤ cut.flatten.length := by
  conv => rhs; rw [← List.take_append_drop i cut]
  rw [List.flatten_append, List.length_append]
  exact Nat.le_add_right _ _

variable (nonempty : ∀ piece ∈ cut, piece ≠ [])
include nonempty

theorem offset_lt_of_lt {i j : Nat} (lt : i < j) (le : j ≤ cut.length) :
    offset cut i < offset cut j := by
  induction j with
  | zero => omega
  | succ j ih =>
    have hj := List.getElem?_eq_getElem (l := cut) (i := j) (by omega)
    have pos := List.length_pos_of_ne_nil (nonempty _ (List.mem_of_getElem? hj))
    rw [offset_succ hj]
    rcases Nat.lt_succ_iff_lt_or_eq.mp lt with lt | rfl
    · have := ih lt (by omega)
      omega
    · omega

theorem offset_inj {i j : Nat} (hi : i ≤ cut.length) (hj : j ≤ cut.length) :
    offset cut i = offset cut j ↔ i = j := by
  refine ⟨fun h => ?_, fun eq => by rw [eq]⟩
  rcases Nat.lt_trichotomy i j with lt | eq | lt
  · have := offset_lt_of_lt nonempty lt hj
    omega
  · exact eq
  · have := offset_lt_of_lt nonempty lt hi
    omega

/-- The first `j` pieces are the whole stream only when they are all of them. -/
theorem flatten_take_eq_iff {j : Nat} (hj : j ≤ cut.length) :
    (cut.take j).flatten = cut.flatten ↔ j = cut.length := by
  refine ⟨fun h => ?_, fun eq => by rw [eq, List.take_length]⟩
  rw [← offset_inj nonempty hj le_rfl, offset, h, offset, List.take_length]

end Cut

/-! ## The receiver -/

namespace InOrder

/-- One arrival, `next` pieces having been taken. -/
def accept (next i : Nat) : Nat := if i = next then next + 1 else next

def acceptAll (next : Nat) (arrivals : List Nat) : Nat := arrivals.foldl accept next

@[simp] theorem acceptAll_nil (next : Nat) : acceptAll next [] = next := rfl

@[simp] theorem acceptAll_cons (next i : Nat) (arrivals : List Nat) :
    acceptAll next (i :: arrivals) = acceptAll (accept next i) arrivals := rfl

theorem le_acceptAll (next : Nat) (arrivals : List Nat) : next ≤ acceptAll next arrivals := by
  induction arrivals generalizing next with
  | nil => exact le_rfl
  | cons i arrivals ih =>
    refine le_trans ?_ (ih (accept next i))
    rw [accept]
    split <;> omega

theorem acceptAll_le {next n : Nat} {arrivals : List Nat} (hn : next ≤ n)
    (lt : ∀ i ∈ arrivals, i < n) : acceptAll next arrivals ≤ n := by
  induction arrivals generalizing next with
  | nil => exact hn
  | cons i arrivals ih =>
    refine ih ?_ fun j hj => lt j (List.mem_cons_of_mem _ hj)
    have := lt i List.mem_cons_self
    rw [accept]
    split <;> omega

/-- `k` more pieces have been taken exactly when their numbers in order are a subsequence of the
arrivals. -/
theorem le_acceptAll_iff {next k : Nat} {arrivals : List Nat} :
    next + k ≤ acceptAll next arrivals ↔ (List.range' next k).Sublist arrivals := by
  induction arrivals generalizing next k with
  | nil =>
    rw [acceptAll_nil, List.sublist_nil, List.range'_eq_nil_iff]
    omega
  | cons i arrivals ih =>
    cases k with
    | zero => simpa using le_acceptAll next (i :: arrivals)
    | succ k =>
      rw [acceptAll_cons, List.range'_succ]
      by_cases eq : i = next
      · subst eq
        rw [accept, if_pos rfl, List.cons_sublist_cons, ← ih]
        omega
      · rw [accept, if_neg eq, ih, List.range'_succ, List.sublist_cons_iff]
        refine ⟨.inl, fun h => h.resolve_right fun ⟨_, head, _⟩ => ?_⟩
        cases head
        exact eq rfl

end InOrder

end Lwip
