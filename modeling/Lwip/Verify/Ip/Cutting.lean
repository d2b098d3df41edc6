import Lwip.Verify.Ip.Reassembly

/-! What `fragment_packet` makes of a packet. With 8 bytes of room behind the header the fragments
are the serialized packet in consecutive cells, each labelled with its place and with whether more
follow (`fragments_tile`). The room is computed with wrap-around: an MTU below the size of the
header gives one cell for everything, and one with no room for 8 bytes behind it gives cells of no
bytes, from which the loop does not return (`fragmentPacket_returns_iff`). -/

namespace Lwip

namespace IPFragmenter

variable {host : Endian} {data : Bytes} {mtu : UInt16} {size n : Nat}

/-! ## The cells -/

@[simp] theorem length_cells : (cells data size n).length = n := by
  rw [cells, List.length_map, List.length_range]

theorem getElem_cells {i : Nat} (h : i < (cells data size n).length) :
    (cells data size n)[i] = cell data size i := by
  simp [cells]

theorem take_cells {i : Nat} (h : i ≤ n) : (cells data size n).take i = cells data size i := by
  rw [cells, ← List.map_take, List.take_range, Nat.min_eq_left h, cells]

theorem length_getPayload_cell {j : Nat} :
    (cell data size j).getPayload.length = min size (data.length - j * size) := by
  change ((data.drop (j * size)).take size).length = _
  rw [List.length_take, List.length_drop]

theorem length_serialize_cell (host : Endian) (j : Nat) :
    ((cell data size j).serialize host).length = 20 + min size (data.length - j * size) := by
  rw [IPPacket.length_serialize, IPHeader.size]
  exact congrArg (20 + ·) length_getPayload_cell

theorem getFragmentOffset_cell {j : Nat} (short : data.length ≤ 65535)
    (lt : j * size < data.length) :
    (cell data size j).getFragmentOffset.toNat = j * size / 8 := by
  have offset : (cell data size j).getFragmentOffset =
      UInt16.ofNat (j * size / 8) &&& (0x1FFF : UInt16) := by
    change ((IPPacket.new.setFragmentOffset _).setMoreFragments _).getFragmentOffset = _
    rw [IPPacket.getFragmentOffset_setMoreFragments, IPPacket.getFragmentOffset_setFragmentOffset]
  rw [offset, toNat_and_mask16 _ 13 (by decide),
    UInt16.toNat_ofNat_of_lt' (by simp only [UInt16.size]; omega)]
  omega

theorem payloads_cells (n : Nat) :
    ((cells data size n).map (·.getPayload)).flatten = data.take (n * size) := by
  induction n with
  | zero => simp [cells]
  | succ n ih =>
    rw [cells, List.range_succ, List.map_append, ← cells, List.map_append, List.flatten_append, ih,
      Nat.succ_mul, List.take_add]
    simp only [List.map_singleton, List.flatten_singleton]
    rfl

/-- The place of a cell is what the cells before it hold. -/
theorem sum_payloads_cells {j : Nat} (lt : j * size < data.length) :
    ((cells data size j).map (·.getPayload.length)).sum = j * size := by
  have payloads := congrArg List.length (@payloads_cells data size j)
  rw [List.length_flatten, List.map_map, List.length_take, Nat.min_eq_left lt.le] at payloads
  exact payloads

theorem getPayload_dropLast_cells (inside : ∀ j < n, j * size < data.length) :
    ∀ fragment ∈ (cells data size n).dropLast, fragment.getPayload.length = size := by
  intro fragment hf
  obtain ⟨j, hj, rfl⟩ := List.getElem_of_mem hf
  rw [List.length_dropLast, length_cells] at hj
  have next := inside (j + 1) (by omega)
  rw [List.getElem_dropLast, getElem_cells, length_getPayload_cell]
  rw [Nat.succ_mul] at next
  omega

/-- More fragments follow a cell unless it reaches the end of the data. -/
theorem moreFragments_cell {j : Nat} (lt : j < n) (inside : ∀ j < n, j * size < data.length)
    (covers : data.length ≤ n * size) :
    (cell data size j).moreFragments = decide (j + 1 < n) := by
  have more : (cell data size j).moreFragments = !decide (data.length ≤ (j + 1) * size) := by
    change ((IPPacket.new.setFragmentOffset _).setMoreFragments _).moreFragments = _
    rw [IPPacket.moreFragments_setMoreFragments]
  rw [more, ← decide_not, decide_eq_decide, not_le]
  constructor
  · intro short
    by_contra last
    have := Nat.mul_le_mul_right size (show n ≤ j + 1 by omega)
    omega
  · exact inside (j + 1)

/-- Each piece is labelled with its place: the offset says how much comes before it, the
more-fragments bit whether anything comes after it. -/
structure Placed (fragments : List IPPacket) : Prop where
  offset : ∀ i, ∀ h : i < fragments.length, 8 * fragments[i].getFragmentOffset.toNat =
    ((fragments.take i).map (·.getPayload.length)).sum
  more : ∀ i, ∀ h : i < fragments.length,
    fragments[i].moreFragments = decide (i + 1 < fragments.length)

theorem placed_cells (short : data.length ≤ 65535) (aligned : size % 8 = 0)
    (inside : ∀ j < n, j * size < data.length) (covers : data.length ≤ n * size) :
    Placed (cells data size n) := by
  constructor
  · intro i h
    have hi : i < n := by rwa [length_cells] at h
    have dvd : i * size % 8 = 0 := by rw [Nat.mul_mod, aligned, Nat.mul_zero, Nat.zero_mod]
    rw [getElem_cells, take_cells hi.le, sum_payloads_cells (inside i hi),
      getFragmentOffset_cell short (inside i hi)]
    omega
  · intro i h
    rw [getElem_cells, length_cells]
    exact moreFragments_cell (by rwa [length_cells] at h) inside covers

theorem fragmentSize_le (large : 28 ≤ mtu.toNat) : fragmentSize mtu ≤ mtu.toNat - 20 := by
  have := mtu.toNat_lt
  rw [fragmentSize, IPHeader.size]
  omega

/-- A packet of at most 65535 bytes is cut into fragments that fit the MTU and that tile it. -/
theorem fragments_tile (host : Endian) (p : IPPacket) (mtu : UInt16)
    (short : (p.serialize host).length ≤ 65535) (large : 28 ≤ mtu.toNat) :
    ∃ fuel fragments, fragmentPacket host p mtu fuel = some fragments ∧ fragments ≠ [] ∧
      (∀ fragment ∈ fragments, (fragment.serialize host).length ≤ mtu.toNat) ∧
      (fragments.map (·.getPayload)).flatten = p.serialize host ∧
      (∃ size, 0 < size ∧ size % 8 = 0 ∧
        ∀ fragment ∈ fragments.dropLast, fragment.getPayload.length = size) ∧
      Placed fragments := by
  obtain ⟨pos, aligned, -⟩ := fragmentSize_spec large
  obtain ⟨n, cut, inside, covers⟩ := fragmentPacket_eq large short (Nat.lt_succ_self _)
  refine ⟨_, _, cut, fun none => ?_, fun fragment hf => ?_, ?_,
    ⟨fragmentSize mtu, by omega, aligned, getPayload_dropLast_cells inside⟩,
    placed_cells short aligned inside covers⟩
  · have zero := congrArg List.length none
    rw [length_cells, List.length_nil] at zero
    rw [zero, Nat.zero_mul, IPPacket.length_serialize, IPHeader.size] at covers
    omega
  · obtain ⟨j, -, rfl⟩ := List.mem_map.mp hf
    have := fragmentSize_le large
    rw [length_serialize_cell]
    omega
  · rw [payloads_cells, List.take_of_length_le covers]

/-- Forty bytes in cells of eight. -/
theorem fragments_tile_forty : ∃ fuel fragments,
    fragmentPacket .little (IPPacket.new.setPayload (List.replicate 20 7)) 28 fuel =
      some fragments ∧ fragments ≠ [] ∧ Placed fragments := by
  obtain ⟨fuel, fragments, cut, some, -, -, -, placed⟩ := fragments_tile .little
    (IPPacket.new.setPayload (List.replicate 20 7)) 28
    (by rw [IPPacket.length_serialize]; decide) (by decide)
  exact ⟨fuel, fragments, cut, some, placed⟩

/-! ## Whether the loop ends -/

theorem fragmentSize_eq_zero_iff :
    fragmentSize mtu = 0 ↔ 20 ≤ mtu.toNat ∧ mtu.toNat < 28 := by
  have := mtu.toNat_lt
  simp only [fragmentSize, IPHeader.size]
  omega

/-- A turn with room for some bytes leaves fewer of them, whatever the sum in it wraps to. -/
theorem cutTurn_advances (pos : 0 < fragmentSize mtu) (s : Cutting) :
    (∃ s', cutTurn data mtu s = .again s' ∧ True ∧
      data.length - s'.offset < data.length - s.offset) ∨
    ∃ fragments, cutTurn data mtu s = .done fragments ∧ True := by
  rw [cutTurn]
  split
  · refine .inl ⟨_, rfl, trivial, ?_⟩
    dsimp only
    split <;> omega
  · exact .inr ⟨_, rfl, trivial⟩

/-- A turn with room for no bytes at the start of the data stays there. -/
theorem cutTurn_stays (zero : fragmentSize mtu = 0) (some : 0 < data.length) {s : Cutting}
    (start : s.offset = 0) : ∃ s', cutTurn data mtu s = .again s' ∧ s'.offset = 0 := by
  have more : ¬ 0 % 2 ^ 64 ≥ data.length := by omega
  rw [cutTurn, start, if_pos some]
  simp only [zero, Nat.add_zero, more, decide_false, Bool.false_eq_true, if_false]
  exact ⟨_, rfl, rfl⟩

theorem fragmentPacket_returns (pos : 0 < fragmentSize mtu) (host : Endian) (p : IPPacket) :
    ∃ fuel fragments, fragmentPacket host p mtu fuel = some fragments := by
  obtain ⟨fragments, cut, -⟩ := Loop.run_total (fun _ => True) (fun _ => True)
    (fun s => (p.serialize host).length - s.offset) (fun s _ => cutTurn_advances pos s)
    trivial (Nat.lt_succ_self _)
  exact ⟨_, fragments, cut⟩

theorem fragmentPacket_diverges (zero : fragmentSize mtu = 0) (host : Endian) (p : IPPacket)
    (fuel : Nat) : fragmentPacket host p mtu fuel = none := by
  have some : 0 < (p.serialize host).length := by
    rw [IPPacket.length_serialize, IPHeader.size]
    omega
  exact Loop.run_diverges (fun s => s.offset = 0) (fun s => cutTurn_stays zero some) rfl fuel

/-- The loop of `fragment_packet` ends for every MTU but those that leave between 0 and 7 bytes
behind the header, and for these it never does. -/
theorem fragmentPacket_returns_iff (host : Endian) (p : IPPacket) (mtu : UInt16) :
    (∃ fuel fragments, fragmentPacket host p mtu fuel = some fragments) ↔
      ¬ (20 ≤ mtu.toNat ∧ mtu.toNat < 28) := by
  rw [← fragmentSize_eq_zero_iff]
  constructor
  · rintro ⟨fuel, fragments, cut⟩ zero
    rw [fragmentPacket_diverges zero] at cut
    cases cut
  · intro pos
    exact fragmentPacket_returns (Nat.pos_of_ne_zero pos) host p

/-- A packet without data at an MTU of 20. -/
theorem fragmentPacket_stuck :
    ¬ ∃ fuel fragments, fragmentPacket .little IPPacket.new 20 fuel = some fragments := by
  rintro ⟨fuel, fragments, cut⟩
  rw [fragmentPacket_diverges (by decide)] at cut
  cases cut

end IPFragmenter

end Lwip
