import Lwip.Verify.Ip.Reassembly

/-! Fragments that leave gaps or lie over each other. `reassemble` copies the entries in the order
of their offsets into a buffer of zeros, so that the last one to start decides about a byte and the
order of arrival about nothing. The size of the buffer is kept in 32 bits, and the copies stay
inside as long as no entry ends beyond that (`assembles_iff`). -/

namespace Lwip

namespace IPFragmenter

variable {host : Endian} {f f' : IPFragmenter} {arrivals arrivals' : List (Time × IPPacket)}

/-! ## The buffer -/

/-- A buffer as long as the largest end of a piece. Each byte is that of the piece with the largest
offset among those that have one for its position, or zero when there is none. -/
structure LaidOut (pieces : List (Nat × Bytes)) (out : Bytes) : Prop where
  inside : ∀ piece ∈ pieces, piece.1 + piece.2.length ≤ out.length
  tight : ∃ piece ∈ pieces, piece.1 + piece.2.length = out.length
  top : ∀ k, ∀ piece ∈ pieces, piece.1 ≤ k → k < piece.1 + piece.2.length →
    (∀ other ∈ pieces, other.1 ≤ k → k < other.1 + other.2.length → other.1 ≤ piece.1) →
    out[k]? = piece.2[k - piece.1]?
  gap : ∀ k < out.length, ¬ Supplied pieces k → out[k]? = some 0

theorem pieces_sorted (f : IPFragmenter) : f.pieces.Pairwise fun p q => p.1 < q.1 := by
  rw [pieces, List.pairwise_map]
  exact f.fragments_sorted

theorem exists_end_eq (pos : 0 < f.expectedSize) :
    ∃ piece ∈ f.pieces, piece.1 + piece.2.length = f.expectedSize := by
  by_contra none
  have below : f.expectedSize ≤ f.expectedSize - 1 := by
    refine expectedSize_le_iff.mpr fun piece hp => ?_
    have le := expectedSize_le_iff.mp (Nat.le_refl _) piece hp
    have ne : piece.1 + piece.2.length ≠ f.expectedSize := fun eq => none ⟨piece, hp, eq⟩
    omega
  omega

theorem laidOut_overlay {out : Bytes} (pos : 0 < f.expectedSize)
    (h : overlay (List.replicate f.expectedSize 0) f.pieces = some out) :
    LaidOut f.pieces out := by
  have len : out.length = f.expectedSize := by
    rw [length_overlay h, List.length_replicate]
  constructor
  · intro piece hp
    rw [len]
    exact expectedSize_le_iff.mp (Nat.le_refl _) piece hp
  · rw [len]
    exact exists_end_eq pos
  · intro k piece hp lo hi top
    exact getElem?_overlay_of_top h f.pieces_sorted hp lo hi top
  · intro k lt none
    rw [getElem?_overlay_of_not_supplied h none, List.getElem?_replicate, if_pos (by omega)]

/-! ## The order of arrival -/

theorem pieces_nodup (f : IPFragmenter) : f.pieces.Nodup := by
  refine f.pieces_sorted.imp fun lt eq => ?_
  rw [eq] at lt
  exact Nat.lt_irrefl _ lt

theorem totalSize_eq (f : IPFragmenter) : f.totalSize =
    f.pieces.foldl (fun n piece => max n (UInt32.ofNat (piece.1 + piece.2.length))) 0 := by
  rw [totalSize, pieces, Std.ExtTreeMap.foldl_eq_foldl_toList, List.foldl_map]

/-- `reassemble` depends on the pieces alone. -/
theorem reassemble_congr (received : Received f) (received' : Received f')
    (same : f.pieces = f'.pieces) :
    (f.reassemble host).map Prod.fst = (f'.reassemble host).map Prod.fst := by
  have complete : f.isComplete = f'.isComplete := by
    rw [Bool.eq_iff_iff, isComplete_iff received, isComplete_iff received', same]
  rw [reassemble, reassemble, totalSize_eq, totalSize_eq, same, complete]
  split <;> rfl

theorem offsetKey_inj {p q : IPPacket} (h : offsetKey p = offsetKey q) :
    p.getFragmentOffset = q.getFragmentOffset := by
  have same := congrArg UInt16.toNat h
  rw [toNat_offsetKey, toNat_offsetKey] at same
  exact UInt16.toNat_inj.mp (by omega)

/-- The offsets are different, so no arrival takes the place of another one. -/
theorem mem_pieces_addAll (distinct : (arrivals.map fun a => a.2.getFragmentOffset).Nodup)
    {piece : Nat × Bytes} : piece ∈ (addAll ⟨∅⟩ arrivals).pieces ↔
      ∃ p ∈ arrivals.map Prod.snd, piece = ((offsetKey p).toNat, p.payload) := by
  have stored := storedFrom_addAll arrivals
  rw [mem_pieces]
  constructor
  · rintro ⟨key, info, held, rfl⟩
    obtain ⟨a, ha, rfl, data⟩ := stored.from_arrival key info held
    exact ⟨a.2, List.mem_map_of_mem ha, by rw [data]⟩
  · rintro ⟨p, hp, rfl⟩
    obtain ⟨a, ha, rfl⟩ := List.mem_map.mp hp
    obtain ⟨info, held⟩ := stored.stored a ha
    obtain ⟨b, hb, key, data⟩ := stored.from_arrival _ info held
    have same : b = a := List.inj_on_of_nodup_map distinct hb ha (offsetKey_inj key)
    exact ⟨_, info, held, by rw [data, same]⟩

theorem pieces_eq_of_perm (distinct : (arrivals.map fun a => a.2.getFragmentOffset).Nodup)
    (perm : (arrivals'.map Prod.snd).Perm (arrivals.map Prod.snd)) :
    (addAll ⟨∅⟩ arrivals').pieces = (addAll ⟨∅⟩ arrivals).pieces := by
  have distinct' : (arrivals'.map fun a => a.2.getFragmentOffset).Nodup := by
    have offsets := perm.map IPPacket.getFragmentOffset
    rw [List.map_map, List.map_map] at offsets
    exact offsets.nodup_iff.mpr distinct
  refine List.Perm.eq_of_pairwise (fun p q _ _ lt lt' => ?_) (pieces_sorted _) (pieces_sorted _) ?_
  · omega
  · rw [List.perm_ext_iff_of_nodup (pieces_nodup _) (pieces_nodup _)]
    intro piece
    rw [mem_pieces_addAll distinct, mem_pieces_addAll distinct']
    simp only [perm.mem_iff]

/-! ## Whatever arrives -/

/-- What `reassemble` makes of some arrivals: no copy leaves the buffer and the buffer is laid out
by the offsets; of fragments with different offsets it makes the same in whatever order and at
whatever times they come. -/
structure Assembles (host : Endian) (arrivals : List (Time × IPPacket)) : Prop where
  contained : (addAll ⟨∅⟩ arrivals).isComplete = true →
    ∀ piece ∈ (addAll ⟨∅⟩ arrivals).pieces,
      piece.1 + piece.2.length ≤ (addAll ⟨∅⟩ arrivals).totalSize.toNat
  laidOut : (addAll ⟨∅⟩ arrivals).isComplete = true →
    ∃ out, overlay (List.replicate (addAll ⟨∅⟩ arrivals).totalSize.toNat 0)
        (addAll ⟨∅⟩ arrivals).pieces = some out ∧
      (addAll ⟨∅⟩ arrivals).reassemble host = some ((IPPacket.new.parse host out).2, ⟨∅⟩) ∧
      LaidOut (addAll ⟨∅⟩ arrivals).pieces out
  unordered : (arrivals.map fun a => a.2.getFragmentOffset).Nodup →
    ∀ arrivals' : List (Time × IPPacket),
      (arrivals'.map Prod.snd).Perm (arrivals.map Prod.snd) →
      ((addAll ⟨∅⟩ arrivals').reassemble host).map Prod.fst =
        ((addAll ⟨∅⟩ arrivals).reassemble host).map Prod.fst

/-- The ends of the entries fit in the 32 bits of `total_size`. -/
theorem laidOut_of_fits (received : Received f)
    (fits : ∀ piece ∈ f.pieces, piece.1 + piece.2.length < 2 ^ 32)
    (complete : f.isComplete = true) :
    (∀ piece ∈ f.pieces, piece.1 + piece.2.length ≤ f.totalSize.toNat) ∧
    ∃ out, overlay (List.replicate f.totalSize.toNat 0) f.pieces = some out ∧
      f.reassemble host = some ((IPPacket.new.parse host out).2, ⟨∅⟩) ∧ LaidOut f.pieces out := by
  have small : f.expectedSize ≤ 2 ^ 32 - 1 :=
    expectedSize_le_iff.mpr fun piece hp => Nat.le_sub_one_of_lt (fits piece hp)
  have total : f.totalSize.toNat = f.expectedSize := toNat_totalSize (by omega)
  have inside := expectedSize_le_iff.mp (Nat.le_refl f.expectedSize)
  have pos : 0 < f.expectedSize := by
    obtain ⟨piece, hp, lt⟩ := (isComplete_iff received).mp complete
    exact lt_of_lt_of_le lt (inside piece hp)
  rw [total]
  refine ⟨inside, ?_⟩
  obtain ⟨out, hout⟩ := Option.isSome_iff_exists.mp (@overlay_isSome _
    (List.replicate f.expectedSize (0 : UInt8)) f.pieces (by rwa [List.length_replicate]))
  refine ⟨out, hout, ?_, laidOut_overlay pos hout⟩
  rw [reassemble, complete, total, hout]
  rfl

/-- All that holds of any fragments exactly when each of those stored ends below 2 ^ 32. -/
theorem assembles_iff (host : Endian) (arrivals : List (Time × IPPacket)) :
    Assembles host arrivals ↔
      ∀ piece ∈ (addAll ⟨∅⟩ arrivals).pieces, piece.1 + piece.2.length < 2 ^ 32 := by
  have received := (storedFrom_addAll arrivals).received
  constructor
  · intro assembles piece hp
    by_cases complete : (addAll ⟨∅⟩ arrivals).isComplete = true
    · exact lt_of_le_of_lt (assembles.contained complete piece hp) (UInt32.toNat_lt _)
    · rw [isComplete_iff received] at complete
      have none : ¬ 0 < piece.1 + piece.2.length := fun pos => complete ⟨piece, hp, pos⟩
      omega
  · intro fits
    refine ⟨fun complete => (@laidOut_of_fits host _ received fits complete).1,
      fun complete => (laidOut_of_fits received fits complete).2, ?_⟩
    intro distinct arrivals' perm
    exact reassemble_congr (storedFrom_addAll arrivals').received received
      (pieces_eq_of_perm distinct perm)

/-- A fragment of 2 ^ 32 bytes: the buffer for it is empty. -/
theorem too_large (host : Endian) {p : IPPacket} (large : p.payload.length = 2 ^ 32)
    (first : offsetKey p = 0) : (addAll ⟨∅⟩ [(0, p)]).isComplete = true ∧
      (addAll ⟨∅⟩ [(0, p)]).totalSize = 0 ∧ (addAll ⟨∅⟩ [(0, p)]).reassemble host = none ∧
      ¬ Assembles host [(0, p)] := by
  have only {piece : Nat × Bytes} : piece ∈ (addAll ⟨∅⟩ [(0, p)]).pieces ↔
      piece = (0, p.payload) := by
    rw [@mem_pieces_addAll [(0, p)] (List.nodup_singleton _)]
    simp [first]
  have pieces : (addAll ⟨∅⟩ [(0, p)]).pieces = [(0, p.payload)] := by
    refine List.perm_singleton.mp ((List.perm_ext_iff_of_nodup (pieces_nodup _)
      (List.nodup_singleton _)).mpr fun piece => ?_)
    rw [only, List.mem_singleton]
  have complete : (addAll ⟨∅⟩ [(0, p)]).isComplete = true := by
    refine (isComplete_iff (storedFrom_addAll _).received).mpr ⟨_, only.mpr rfl, ?_⟩
    dsimp only
    omega
  have total : (addAll ⟨∅⟩ [(0, p)]).totalSize = 0 := by
    rw [totalSize_eq, pieces, List.foldl_cons, List.foldl_nil]
    dsimp only
    rw [large]
    decide
  have outside : ¬ 0 + p.payload.length ≤ 0 := by
    rw [large]
    decide
  refine ⟨complete, total, ?_, fun assembles => ?_⟩
  · have copy : copyInto (List.replicate (0 : UInt32).toNat (0 : UInt8)) 0 p.payload = none :=
      if_neg outside
    rw [reassemble, complete, total, pieces, overlay, List.foldlM_cons, copy]
    rfl
  · have inside := assembles.contained complete _ (only.mpr rfl)
    rw [total] at inside
    exact outside inside

/-- An offset of zero and 2 ^ 32 zeros. -/
def hugeFragment : IPPacket := IPPacket.new.setPayload (List.replicate (2 ^ 32) 0)

theorem huge_copied_outside : hugeFragment.payload.length = 2 ^ 32 ∧
    (addAll ⟨∅⟩ [(0, hugeFragment)]).isComplete = true ∧
    (addAll ⟨∅⟩ [(0, hugeFragment)]).totalSize = 0 ∧
    (addAll ⟨∅⟩ [(0, hugeFragment)]).reassemble .little = none ∧
    ¬ Assembles .little [(0, hugeFragment)] := by
  have large : hugeFragment.payload.length = 2 ^ 32 := List.length_replicate
  exact ⟨large, too_large .little large rfl⟩

end IPFragmenter

end Lwip
