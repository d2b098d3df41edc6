import Lwip.Ip.Fragmenter
import Lwip.Verify.Ip.Packet

/-! What is stored in an `IPFragmenter`, seen as the pieces that `reassemble` copies. Pieces of
one byte string that supply all of it are put together to that string (`reassemble_eq`). -/

namespace Lwip

private theorem foldl_max_le_iff {α : Type} {g : α → Nat} {l : List α} {a n : Nat} :
    l.foldl (fun m x => max m (g x)) a ≤ n ↔ a ≤ n ∧ ∀ x ∈ l, g x ≤ n := by
  induction l generalizing a with
  | nil => simp
  | cons x l ih =>
    rw [List.foldl_cons, ih, List.forall_mem_cons, Nat.max_le]
    exact and_assoc

private theorem toNat_foldl_max {α : Type} {g : α → Nat} {l : List α} {a : UInt32}
    (h : ∀ x ∈ l, g x < 2 ^ 32) :
    (l.foldl (fun m x => max m (UInt32.ofNat (g x))) a).toNat =
      l.foldl (fun m x => max m (g x)) a.toNat := by
  induction l generalizing a with
  | nil => rfl
  | cons x l ih =>
    rw [List.forall_mem_cons] at h
    rw [List.foldl_cons, List.foldl_cons, ih h.2, UInt32.toNat_max, UInt32.toNat_ofNat_of_lt' h.1]

private theorem toNat_foldl_max_le {α : Type} {g : α → Nat} {l : List α} {a : UInt32} {b : Nat}
    (h : a.toNat ≤ b) : (l.foldl (fun m x => max m (UInt32.ofNat (g x))) a).toNat ≤
      l.foldl (fun m x => max m (g x)) b := by
  induction l generalizing a b with
  | nil => exact h
  | cons x l ih =>
    have := Nat.mod_le (g x) (2 ^ 32)
    rw [List.foldl_cons, List.foldl_cons]
    apply ih
    rw [UInt32.toNat_max, UInt32.toNat_ofNat']
    omega

namespace IPFragmenter

variable {host : Endian} {f : IPFragmenter} {data : Bytes}

/-! ## What is stored -/

theorem getElem?_addFragment (f : IPFragmenter) (now : Time) (p : IPPacket) (key : UInt16) :
    (f.addFragment now p).2.fragments[key]? =
      if offsetKey p = key then some ⟨p.getPayload, true, now⟩ else f.fragments[key]? := by
  simp only [addFragment, Std.ExtTreeMap.getElem?_insert, Std.LawfulEqCmp.compare_eq_iff_eq]

theorem getElem?_cleanupTimeoutFragments (f : IPFragmenter) (now : Time) (key : UInt16) :
    (f.cleanupTimeoutFragments now).fragments[key]? =
      (f.fragments[key]?).filter fun info => !expired now info :=
  Std.ExtTreeMap.getElem?_filter'

theorem toNat_offsetKey (p : IPPacket) :
    (offsetKey p).toNat = p.getFragmentOffset.toNat * 8 := by
  have := p.toNat_getFragmentOffset_lt
  rw [offsetKey, UInt16.toNat_mul]
  change p.getFragmentOffset.toNat * 8 % 65536 = _
  omega

/-- The entries come in the order of their keys. -/
theorem fragments_sorted (f : IPFragmenter) :
    f.fragments.toList.Pairwise fun e e' => e.1.toNat < e'.1.toNat :=
  (Std.ExtTreeMap.ordered_keys_toList (t := f.fragments)).imp fun lt =>
    UInt16.lt_iff_toNat_lt.mp (Std.compare_eq_lt.mp lt)

theorem mem_pieces {piece : Nat × Bytes} : piece ∈ f.pieces ↔
    ∃ (key : UInt16) (info : FragmentInfo),
      f.fragments[key]? = some info ∧ piece = (key.toNat, info.data) := by
  simp only [pieces, List.mem_map, Prod.exists, Std.ExtTreeMap.mem_toList_iff_getElem?_eq_some]
  exact ⟨fun ⟨key, info, h, eq⟩ => ⟨key, info, h, eq.symm⟩,
    fun ⟨key, info, h, eq⟩ => ⟨key, info, h, eq.symm⟩⟩

theorem expectedSize_le_iff {n : Nat} :
    f.expectedSize ≤ n ↔ ∀ piece ∈ f.pieces, piece.1 + piece.2.length ≤ n := by
  rw [expectedSize, Std.ExtTreeMap.foldl_eq_foldl_toList, foldl_max_le_iff, pieces,
    List.forall_mem_map]
  simp

theorem toNat_totalSize (h : f.expectedSize < 2 ^ 32) : f.totalSize.toNat = f.expectedSize := by
  have ends := expectedSize_le_iff.mp (Nat.le_sub_one_of_lt h)
  rw [pieces, List.forall_mem_map] at ends
  rw [totalSize, expectedSize, Std.ExtTreeMap.foldl_eq_foldl_toList,
    Std.ExtTreeMap.foldl_eq_foldl_toList]
  exact toNat_foldl_max (a := 0) fun x hx => by
    have := ends x hx
    simp only at this
    omega

theorem toNat_totalSize_le (f : IPFragmenter) : f.totalSize.toNat ≤ f.expectedSize := by
  rw [totalSize, expectedSize, Std.ExtTreeMap.foldl_eq_foldl_toList,
    Std.ExtTreeMap.foldl_eq_foldl_toList]
  exact toNat_foldl_max_le (Nat.le_refl 0)

/-- What is stored has been received. -/
def Received (f : IPFragmenter) : Prop :=
  ∀ (key : UInt16) (info : FragmentInfo), f.fragments[key]? = some info → info.received = true

/-- The test of `is_complete`: one stored byte, or one fragment not at the start, is enough. -/
theorem isComplete_iff (h : Received f) :
    f.isComplete = true ↔ ∃ piece ∈ f.pieces, 0 < piece.1 + piece.2.length := by
  have size : f.expectedSize > 0 ↔ ∃ piece ∈ f.pieces, 0 < piece.1 + piece.2.length := by
    rw [gt_iff_lt, ← not_le, expectedSize_le_iff]
    simp only [not_forall, not_le, exists_prop]
  rw [← size, isComplete]
  split
  · rename_i he
    rw [Std.ExtTreeMap.isEmpty_iff] at he
    simp only [Bool.false_eq_true, false_iff, not_lt, gt_iff_lt]
    rw [expectedSize_le_iff]
    intro piece hp
    obtain ⟨key, info, hk, -⟩ := mem_pieces.mp hp
    simp [he] at hk
  · rw [if_neg]
    · simp
    · simp only [List.any_eq_true, Prod.exists, Std.ExtTreeMap.mem_toList_iff_getElem?_eq_some]
      intro ⟨key, info, hk, hr⟩
      simp [h key info hk] at hr

/-- Stored slices of `data` that supply all of it are put together to `data`. -/
theorem reassemble_eq (complete : f.isComplete = true) (len : data.length < 2 ^ 32)
    (slices : ∀ piece ∈ f.pieces, SliceAt data piece.1 piece.2)
    (all : ∀ k < data.length, Supplied f.pieces k) :
    f.reassemble host = some ((IPPacket.new.parse host data).2, ⟨∅⟩) := by
  have le : f.expectedSize ≤ data.length := expectedSize_le_iff.mpr fun piece hp =>
    (slices piece hp).length_le
  have ge : data.length ≤ f.expectedSize := by
    rcases Nat.eq_zero_or_pos data.length with h0 | pos
    · omega
    · obtain ⟨piece, hp, -, hlt⟩ := all (data.length - 1) (by omega)
      have := expectedSize_le_iff.mp (Nat.le_refl _) piece hp
      omega
  have total : f.totalSize.toNat = data.length := by
    rw [toNat_totalSize (by omega)]
    omega
  have whole : overlay (List.replicate f.totalSize.toNat 0) f.pieces = some data :=
    overlay_eq_of_supplied slices (by rw [List.length_replicate, total]) all
  rw [reassemble, complete, whole]
  rfl

end IPFragmenter

end Lwip
