import Lwip.Verify.Ip.Fragmenter

/-! Cutting a packet into fragments and putting it together again. `fragment_packet` makes equal
cells of the serialized packet, the last one shorter (`fragmentPacket_eq`); whatever the order in
which the cells come back and however often each does, `reassemble` finds the packet
(`reassemble_fragments`). -/

namespace Lwip

namespace IPFragmenter

variable {host : Endian} {data : Bytes} {mtu : UInt16} {size : Nat}

/-! ## Cutting -/

theorem fragmentSize_spec (h : 28 ≤ mtu.toNat) :
    8 ≤ fragmentSize mtu ∧ fragmentSize mtu % 8 = 0 ∧ fragmentSize mtu < 2 ^ 16 := by
  have := mtu.toNat_lt
  simp only [fragmentSize, IPHeader.size]
  omega

/-- The `j`-th cell of `data`, as a fragment. -/
def cell (data : Bytes) (size j : Nat) : IPPacket :=
  fragmentAt data (j * size) size (decide (data.length ≤ (j + 1) * size))

def cells (data : Bytes) (size n : Nat) : List IPPacket := (List.range n).map (cell data size)

/-- What holds at the head of the loop of `fragment_packet`. -/
def CutInv (data : Bytes) (size : Nat) (s : Cutting) : Prop :=
  ∃ n, s.fragments = cells data size n ∧ s.offset = min data.length (n * size) ∧
    ∀ j < n, j * size < data.length

theorem cutTurn_cell {n : Nat} {fragments : List IPPacket}
    (more : n * fragmentSize mtu < data.length) (fit : data.length + fragmentSize mtu < 2 ^ 64) :
    cutTurn data mtu ⟨n * fragmentSize mtu, fragments⟩ =
      .again ⟨min data.length ((n + 1) * fragmentSize mtu),
        fragments ++ [cell data (fragmentSize mtu) n]⟩ := by
  have succ : (n + 1) * fragmentSize mtu = n * fragmentSize mtu + fragmentSize mtu :=
    Nat.succ_mul n _
  have sum : (n * fragmentSize mtu + fragmentSize mtu) % 2 ^ 64 = (n + 1) * fragmentSize mtu := by
    rw [Nat.mod_eq_of_lt (by omega), succ]
  unfold cutTurn cell
  simp only [if_pos more, sum, ge_iff_le]
  by_cases last : data.length ≤ (n + 1) * fragmentSize mtu
  · -- both sizes reach the end of the data
    have rest : (data.drop (n * fragmentSize mtu)).take (data.length - n * fragmentSize mtu) =
        (data.drop (n * fragmentSize mtu)).take (fragmentSize mtu) := by
      rw [List.take_of_length_le (by simp), List.take_of_length_le (by simp; omega)]
    simp only [last, decide_true, if_true, fragmentAt, rest, Nat.min_eq_left last]
    rw [Nat.add_sub_cancel' more.le]
  · simp only [last, decide_false, Bool.false_eq_true, if_false]
    rw [Nat.min_eq_right (Nat.le_of_not_le last), succ]

theorem CutInv.turn {s : Cutting} (h : CutInv data (fragmentSize mtu) s)
    (pos : 0 < fragmentSize mtu) (fit : data.length + fragmentSize mtu < 2 ^ 64) :
    (∃ s', cutTurn data mtu s = .again s' ∧ CutInv data (fragmentSize mtu) s' ∧
      data.length - s'.offset < data.length - s.offset) ∨
    ∃ fragments, cutTurn data mtu s = .done fragments ∧
      ∃ n, fragments = cells data (fragmentSize mtu) n ∧
        (∀ j < n, j * fragmentSize mtu < data.length) ∧ data.length ≤ n * fragmentSize mtu := by
  obtain ⟨offset, fragments⟩ := s
  obtain ⟨n, rfl, rfl, hlt⟩ := h
  by_cases more : n * fragmentSize mtu < data.length
  · have succ : (n + 1) * fragmentSize mtu = n * fragmentSize mtu + fragmentSize mtu :=
      Nat.succ_mul n _
    rw [Nat.min_eq_right more.le, cutTurn_cell more fit]
    refine .inl ⟨_, rfl, ⟨n + 1, ?_, rfl, fun j hj => ?_⟩, ?_⟩
    · rw [cells, cells, List.range_succ, List.map_append, List.map_singleton]
    · rcases Nat.lt_succ_iff_lt_or_eq.mp hj with hj | rfl
      · exact hlt j hj
      · exact more
    · dsimp only
      omega
  · refine .inr ⟨_, ?_, n, rfl, hlt, Nat.le_of_not_lt more⟩
    rw [cutTurn, if_neg (by dsimp only; omega)]

/-- The fragments are the cells of the serialized packet, as many as it takes. -/
theorem fragmentPacket_eq {p : IPPacket} (h : 28 ≤ mtu.toNat)
    (short : (p.serialize host).length ≤ 65535) {fuel : Nat}
    (enough : (p.serialize host).length < fuel) :
    ∃ n, fragmentPacket host p mtu fuel =
        some (cells (p.serialize host) (fragmentSize mtu) n) ∧
      (∀ j < n, j * fragmentSize mtu < (p.serialize host).length) ∧
      (p.serialize host).length ≤ n * fragmentSize mtu := by
  obtain ⟨pos, -, small⟩ := fragmentSize_spec h
  have start : CutInv (p.serialize host) (fragmentSize mtu) ⟨0, []⟩ :=
    ⟨0, rfl, by simp, fun _ h => absurd h (Nat.not_lt_zero _)⟩
  obtain ⟨_, hrun, n, rfl, hlt, hle⟩ := Loop.run_total
    (CutInv (p.serialize host) (fragmentSize mtu)) _ (fun s => (p.serialize host).length - s.offset)
    (fun s hs => hs.turn (by omega) (by omega)) start enough
  exact ⟨n, hrun, hlt, hle⟩

/-! ## The cells on the wire -/

/-- A fragment after it has been sent and received. -/
def received (host : Endian) (fragment : IPPacket) : Bool × IPPacket :=
  IPPacket.new.parse host (fragment.serialize host)

theorem versionIhl_cell (j : Nat) : (cell data size j).header.versionIhl = 0x45 :=
  (((IPPacket.Built.new.setFragmentOffset _).setMoreFragments _).setPayload _).versionIhl

theorem received_cell (host : Endian) (j : Nat) :
    received host (cell data size j) =
      (true, ⟨(cell data size j).reparsedHeader host, (cell data size j).payload⟩) :=
  IPPacket.parse_serialize (versionIhl_cell j) _

theorem toNat_offsetKey_cell {j : Nat} (short : data.length ≤ 65535) (lt : j * size < data.length)
    (aligned : size % 8 = 0) :
    (offsetKey (received host (cell data size j)).2).toNat = j * size := by
  have dvd : j * size % 8 = 0 := by rw [Nat.mul_mod, aligned, Nat.mul_zero, Nat.zero_mod]
  have offset : (received host (cell data size j)).2.getFragmentOffset =
      UInt16.ofNat (j * size / 8) &&& (0x1FFF : UInt16) := by
    rw [received_cell]
    change (cell data size j).getFragmentOffset = _
    rw [cell, fragmentAt]
    change ((IPPacket.new.setFragmentOffset _).setMoreFragments _).getFragmentOffset = _
    rw [IPPacket.getFragmentOffset_setMoreFragments, IPPacket.getFragmentOffset_setFragmentOffset]
  rw [toNat_offsetKey, offset, toNat_and_mask16 _ 13 (by decide),
    UInt16.toNat_ofNat_of_lt' (by simp only [UInt16.size]; omega)]
  change j * size / 8 % 8192 * 8 = _
  omega

theorem payload_cell (j : Nat) :
    (received host (cell data size j)).2.payload = (data.drop (j * size)).take size := by
  rw [received_cell]
  rfl

/-! ## Putting together -/

/-- Fragments given to `add_fragment` in turn, each with the time of its arrival. -/
def addAll (f : IPFragmenter) (arrivals : List (Time × IPPacket)) : IPFragmenter :=
  arrivals.foldl (fun f a => (f.addFragment a.1 a.2).2) f

/-- What is stored after some arrivals: the payload of one of them under each key, and something
under the key of each. -/
structure StoredFrom (arrivals : List (Time × IPPacket)) (f : IPFragmenter) : Prop where
  received : Received f
  from_arrival : ∀ (key : UInt16) (info : FragmentInfo), f.fragments[key]? = some info →
    ∃ a ∈ arrivals, offsetKey a.2 = key ∧ info.data = a.2.payload
  stored : ∀ a ∈ arrivals, ∃ info, f.fragments[offsetKey a.2]? = some info

theorem storedFrom_addAll (arrivals : List (Time × IPPacket)) :
    StoredFrom arrivals (addAll ⟨∅⟩ arrivals) := by
  induction arrivals using List.reverseRecOn with
  | nil => exact ⟨fun _ _ h => by simp [addAll] at h, fun _ _ h => by simp [addAll] at h,
      fun _ h => by cases h⟩
  | append_singleton arrivals a ih =>
    have last : addAll ⟨∅⟩ (arrivals ++ [a]) = ((addAll ⟨∅⟩ arrivals).addFragment a.1 a.2).2 := by
      rw [addAll, List.foldl_concat]
      rfl
    have entry := getElem?_addFragment (addAll ⟨∅⟩ arrivals) a.1 a.2
    rw [last]
    refine ⟨fun key info h => ?_, fun key info h => ?_, fun b hb => ?_⟩
    · rw [entry] at h
      split at h
      · cases h
        rfl
      · exact ih.received key info h
    · rw [entry] at h
      split at h
      · cases h
        exact ⟨a, List.mem_append_right _ (List.mem_singleton_self a), ‹_›, rfl⟩
      · obtain ⟨b, hb, hkey, hdata⟩ := ih.from_arrival key info h
        exact ⟨b, List.mem_append_left _ hb, hkey, hdata⟩
    · rw [entry]
      split
      · exact ⟨_, rfl⟩
      · rename_i other
        rcases List.mem_append.mp hb with hb | hb
        · exact ih.stored b hb
        · cases List.mem_singleton.mp hb
          exact absurd rfl other

/-- The pieces stored after the cells have arrived: each is a slice, and none is missing. -/
theorem pieces_of_cells {n : Nat} {arrivals : List (Time × IPPacket)} {f : IPFragmenter}
    (stored : StoredFrom arrivals f) (short : data.length ≤ 65535) (aligned : size % 8 = 0)
    (pos : 0 < size) (inside : ∀ j < n, j * size < data.length) (covers : data.length ≤ n * size)
    (each : ∀ q, q ∈ arrivals.map Prod.snd ↔
      q ∈ (cells data size n).map fun fragment => (received host fragment).2) :
    (∀ piece ∈ f.pieces, SliceAt data piece.1 piece.2) ∧
      ∀ k < data.length, Supplied f.pieces k := by
  have arrived : ∀ a ∈ arrivals, ∃ j < n, a.2 = (received host (cell data size j)).2 := by
    intro a ha
    have := (each a.2).mp (List.mem_map_of_mem ha)
    simp only [cells, List.map_map, List.mem_map, List.mem_range] at this
    obtain ⟨j, hj, eq⟩ := this
    exact ⟨j, hj, eq.symm⟩
  -- the key of a piece determines the cell it came from
  have of_cell : ∀ (key : UInt16) (info : FragmentInfo), f.fragments[key]? = some info →
      ∃ j < n, key.toNat = j * size ∧ info.data = (data.drop (j * size)).take size := by
    intro key info h
    obtain ⟨a, ha, hkey, hdata⟩ := stored.from_arrival key info h
    obtain ⟨j, hj, eq⟩ := arrived a ha
    rw [eq] at hkey hdata
    refine ⟨j, hj, ?_, hdata.trans (payload_cell j)⟩
    rw [← hkey, toNat_offsetKey_cell short (inside j hj) aligned]
  constructor
  · intro piece hp
    obtain ⟨key, info, h, rfl⟩ := mem_pieces.mp hp
    obtain ⟨j, hj, hkey, hdata⟩ := of_cell key info h
    rw [hkey, hdata]
    exact SliceAt.take_drop (inside j hj).le size
  · intro k hk
    have hdiv : k / size < n := (Nat.div_lt_iff_lt_mul pos).mpr (lt_of_lt_of_le hk covers)
    have hcell : (received host (cell data size (k / size))).2 ∈ arrivals.map Prod.snd := by
      rw [each]
      exact List.mem_map_of_mem (List.mem_map_of_mem (List.mem_range.mpr hdiv))
    obtain ⟨a, ha, eq⟩ := List.mem_map.mp hcell
    obtain ⟨info, h⟩ := stored.stored a ha
    obtain ⟨j, hj, hkey, hdata⟩ := of_cell _ info h
    rw [eq, toNat_offsetKey_cell short (inside _ hdiv) aligned] at hkey
    have hj : j = k / size := (Nat.eq_of_mul_eq_mul_right pos hkey).symm
    refine ⟨_, mem_pieces.mpr ⟨_, info, h, rfl⟩, ?_⟩
    rw [eq, toNat_offsetKey_cell short (inside _ hdiv) aligned, hdata, hj]
    have := Nat.div_mul_le_self k size
    have := Nat.lt_div_mul_add pos (a := k)
    simp only [List.length_take, List.length_drop]
    omega

/-- A packet cut into fragments is put together again whatever way the fragments arrive, as long
as each does: the payload is the same, and of the header all that `serialize` does not set. -/
theorem reassemble_fragments (host : Endian) {p : IPPacket} (built : p.Built)
    (short : (p.serialize host).length ≤ 65535) (large : 28 ≤ mtu.toNat) {fuel : Nat}
    (enough : (p.serialize host).length < fuel) :
    ∃ fragments, fragmentPacket host p mtu fuel = some fragments ∧
      (∀ fragment ∈ fragments, (received host fragment).1 = true) ∧
      ∀ arrivals : List (Time × IPPacket),
        (∀ q, q ∈ arrivals.map Prod.snd ↔
          q ∈ fragments.map fun fragment => (received host fragment).2) →
        ∃ q, (addAll ⟨∅⟩ arrivals).reassemble host = some (q, ⟨∅⟩) ∧ q.payload = p.payload ∧
          q.header = { p.header with
            totalLength := UInt16.ofNat (IPHeader.size + p.payload.length)
            headerChecksum := q.header.headerChecksum } := by
  obtain ⟨pos, aligned, -⟩ := fragmentSize_spec large
  obtain ⟨n, hcut, inside, covers⟩ := fragmentPacket_eq large short enough
  refine ⟨_, hcut, fun fragment hf => ?_, fun arrivals each => ?_⟩
  · obtain ⟨j, -, rfl⟩ := List.mem_map.mp hf
    rw [received_cell]
  · have stored := storedFrom_addAll arrivals
    obtain ⟨slices, all⟩ :=
      pieces_of_cells stored short aligned (by omega) inside covers each
    have complete : (addAll ⟨∅⟩ arrivals).isComplete = true := by
      obtain ⟨piece, hp, hlt⟩ := all 0 (by rw [IPPacket.length_serialize, IPHeader.size]; omega)
      exact (isComplete_iff stored.received).mpr ⟨piece, hp, by omega⟩
    refine ⟨_, reassemble_eq complete (by omega) slices all, ?_⟩
    rw [IPPacket.parse_serialize built.versionIhl]
    exact ⟨rfl, rfl⟩

/-- Forty bytes in cells of 8, each arriving twice. -/
theorem reassemble_fragments_twice : ∃ fragments q,
    fragmentPacket .little (IPPacket.new.setPayload (List.replicate 20 7)) 28 50 = some fragments ∧
    (addAll ⟨∅⟩ ((fragments ++ fragments).map fun fragment =>
      (0, (received .little fragment).2))).reassemble .little = some (q, ⟨∅⟩) ∧
    q.payload = List.replicate 20 7 := by
  obtain ⟨fragments, hcut, -, all⟩ := reassemble_fragments .little
    (p := IPPacket.new.setPayload (List.replicate 20 7)) (.setPayload .new _)
    (by rw [IPPacket.length_serialize]; decide) (by decide : 28 ≤ (28 : UInt16).toNat)
    (by rw [IPPacket.length_serialize]; decide : _ < 50)
  obtain ⟨q, hq, hpay, -⟩ := all ((fragments ++ fragments).map fun fragment =>
    (0, (received .little fragment).2)) (by simp)
  exact ⟨fragments, q, hcut, hq, hpay⟩

end IPFragmenter

end Lwip
