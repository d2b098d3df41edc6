import Lwip.Ip.Packet

/-! The IP codec and the fragment bits. A packet made by the constructor and the setters has a
header of 20 bytes and survives being serialized and parsed, but for the two fields that
`serialize` computes. One from the wire keeps its header length when its options are gone, and
loses the start of its payload (`sent_on_iff`). -/

namespace Lwip

namespace IPPacket

/-- The packets that the constructor and the setters make. -/
inductive Built : IPPacket → Prop where
  | new : Built .new
  | setPayload {p : IPPacket} (h : Built p) (data : Bytes) : Built (p.setPayload data)
  | setAddresses {p : IPPacket} (h : Built p) (src dst : UInt32) : Built (p.setAddresses src dst)
  | setFragmentOffset {p : IPPacket} (h : Built p) (offset : UInt16) :
      Built (p.setFragmentOffset offset)
  | setMoreFragments {p : IPPacket} (h : Built p) (more : Bool) : Built (p.setMoreFragments more)

variable {host : Endian} {p : IPPacket}

theorem Built.versionIhl (h : Built p) : p.header.versionIhl = 0x45 := by
  induction h with
  | new => rfl
  | setPayload _ _ ih | setAddresses _ _ _ ih | setFragmentOffset _ _ ih
  | setMoreFragments _ _ ih => exact ih

@[simp] theorem length_serialize (host : Endian) (p : IPPacket) :
    (p.serialize host).length = IPHeader.size + p.payload.length := by
  simp [serialize]

/-- The header after the bytes of a packet have been parsed. -/
def reparsedHeader (host : Endian) (p : IPPacket) : IPHeader :=
  { p.header with
    totalLength := UInt16.ofNat (IPHeader.size + p.payload.length)
    headerChecksum := host.ntohs (p.calculateHeaderChecksum host) }

/-- The header length that the first byte gives, in words of four bytes. -/
def ihl (p : IPPacket) : Nat := (p.header.versionIhl &&& (0x0F : UInt8)).toNat

/-- `serialize` writes 20 bytes of header whatever the header length says, and `parse` goes by
that: it takes the start of the payload for options, or finds too few bytes and leaves the payload
of the object alone. -/
theorem parse_serialize_ihl (long : 5 ≤ p.ihl) (q : IPPacket) :
    q.parse host (p.serialize host) = (true,
      { header := p.reparsedHeader host
        payload := if 4 * (p.ihl - 5) ≤ p.payload.length then p.payload.drop (4 * (p.ihl - 5))
          else q.payload }) := by
  have skip : (p.header.versionIhl &&& (0x0F : UInt8)).toNat * 4 =
      IPHeader.size + 4 * (p.ihl - 5) := by
    rw [ihl] at long ⊢
    rw [IPHeader.size]
    omega
  simp only [parse, serialize, List.length_append, IPHeader.length_toMem,
    IPHeader.ofMem_toMem_append, Endian.ntohs_htons, skip]
  rw [if_neg (by omega)]
  split
  · rw [if_pos (by omega), List.drop_append, IPHeader.length_toMem, Nat.add_sub_cancel_left,
      List.drop_eq_nil_of_le (by rw [IPHeader.length_toMem]; omega), List.nil_append]
    rfl
  · rw [if_neg (by omega)]
    rfl

theorem parse_serialize (ihl : p.header.versionIhl = 0x45) (q : IPPacket) :
    q.parse host (p.serialize host) =
      (true, { header := p.reparsedHeader host, payload := p.payload }) := by
  have five : p.ihl = 5 := by rw [IPPacket.ihl, ihl]; decide
  rw [parse_serialize_ihl (by omega), five, if_pos (Nat.zero_le _)]
  rfl

/-- What follows the packet counts as payload. -/
theorem parse_serialize_append (ihl : p.header.versionIhl = 0x45) (q : IPPacket) (t : Bytes) :
    q.parse host (p.serialize host ++ t) =
      (true, { header := p.reparsedHeader host, payload := p.payload ++ t }) := by
  have skip : (p.header.versionIhl &&& (0x0F : UInt8)).toNat * 4 = IPHeader.size := by
    rw [ihl]
    rfl
  simp only [parse, serialize, List.append_assoc, List.length_append, IPHeader.length_toMem,
    IPHeader.ofMem_toMem_append, Endian.ntohs_htons, skip]
  rw [if_neg (by omega), if_pos (by omega), List.drop_append, IPHeader.length_toMem,
    List.drop_eq_nil_of_le (by simp), Nat.sub_self]
  rfl

/-- What a packet sent on has to keep. -/
structure SameDatagram (p p' : IPPacket) : Prop where
  payload : p'.payload = p.payload
  sourceAddress : p'.header.sourceAddress = p.header.sourceAddress
  destinationAddress : p'.header.destinationAddress = p.header.destinationAddress
  protocol : p'.header.protocol = p.header.protocol
  identification : p'.header.identification = p.header.identification
  flagsFragmentOffset : p'.header.flagsFragmentOffset = p.header.flagsFragmentOffset

/-- All of that but the payload survives. -/
theorem sameDatagram_reparsed {payload : Bytes} :
    SameDatagram p { header := p.reparsedHeader host, payload } ↔ payload = p.payload :=
  ⟨fun h => h.payload, fun h => ⟨h, rfl, rfl, rfl, rfl, rfl⟩⟩

theorem cut_payload_iff {payload old : Bytes} {n : Nat} :
    (if n ≤ payload.length then payload.drop n else old) = payload ↔
      n = 0 ∨ (payload.length < n ∧ old = payload) := by
  split
  · rename_i le
    constructor
    · intro eq
      have := congrArg List.length eq
      rw [List.length_drop] at this
      omega
    · rintro (rfl | ⟨lt, -⟩)
      · rfl
      · omega
  · rename_i lt
    have : n ≠ 0 := by omega
    simp [this, Nat.lt_of_not_le lt]

/-- `IHL` of a packet on the wire. -/
def wireIhl (raw : Bytes) : Nat := (raw.getD 0 0 &&& (0x0F : UInt8)).toNat

theorem parse_eq {raw : Bytes} (ihl : 5 ≤ wireIhl raw) (long : 4 * wireIhl raw ≤ raw.length)
    (o : IPPacket) : ∃ p, o.parse host raw = (true, p) ∧ p.ihl = wireIhl raw ∧
      p.payload = raw.drop (4 * wireIhl raw) := by
  have size : IPHeader.size = 20 := rfl
  rw [parse, if_neg (by omega)]
  dsimp only
  rw [if_pos, Nat.mul_comm]
  · exact ⟨_, rfl, rfl, rfl⟩
  · rw [Nat.mul_comm]
    exact long

/-- The header length is one of five words at least, and the packet is as long as that. -/
def WellFormed (raw : Bytes) : Prop :=
  20 ≤ raw.length ∧ 5 ≤ wireIhl raw ∧ 4 * wireIhl raw ≤ raw.length

instance (raw : Bytes) : Decidable (WellFormed raw) := inferInstanceAs (Decidable (_ ∧ _ ∧ _))

/-- `parse` accepts exactly what is well formed, and takes all that follows the header for the
payload. -/
structure ParsesRight (host : Endian) (raw : Bytes) (o : IPPacket) : Prop where
  accepted : (o.parse host raw).1 = true ↔ WellFormed raw
  payload : (o.parse host raw).1 = true →
    (o.parse host raw).2.payload = raw.drop (4 * wireIhl raw)

theorem parse_accepts_iff {raw : Bytes} (o : IPPacket) :
    (o.parse host raw).1 = true ↔ 20 ≤ raw.length := by
  have size : IPHeader.size = 20 := rfl
  rw [parse]
  dsimp only
  split
  · rename_i short
    exact iff_of_false Bool.false_ne_true (by omega)
  · rename_i long
    refine iff_of_true ?_ (by omega)
    split <;> rfl

/-- The length of the header is looked at only when the payload is taken, and whatever it is the
answer is yes. -/
theorem parsesRight_iff (host : Endian) (raw : Bytes) (o : IPPacket) :
    ParsesRight host raw o ↔
      raw.length < 20 ∨ (5 ≤ wireIhl raw ∧ 4 * wireIhl raw ≤ raw.length) := by
  constructor
  · intro right
    by_cases short : raw.length < 20
    · exact .inl short
    · exact .inr (right.accepted.mp ((parse_accepts_iff o).mpr (Nat.le_of_not_lt short))).2
  · rintro (short | ⟨five, long⟩)
    · have refused : ¬ (o.parse host raw).1 = true := by
        rw [parse_accepts_iff]
        omega
      exact ⟨iff_of_false refused fun h => absurd h.1 (Nat.not_le_of_lt short),
        fun yes => absurd yes refused⟩
    · obtain ⟨p, hp, -, payload⟩ := @parse_eq host raw five long o
      refine ⟨iff_of_true (by rw [hp]) ⟨by omega, five, long⟩, fun _ => ?_⟩
      rw [hp]
      exact payload

/-- With a header of four words the payload begins inside the fixed header, and with one beyond the
end of the packet there is no payload to begin with; both are accepted. -/
theorem malformed_accepted : ¬ WellFormed (0x44 :: List.replicate 19 7) ∧
    ((IPPacket.new.parse .little (0x44 :: List.replicate 19 7)).1 = true ∧
      (IPPacket.new.parse .little (0x44 :: List.replicate 19 7)).2.payload = [7, 7, 7, 7]) ∧
    ¬ WellFormed (0x4F :: List.replicate 19 7) ∧
    (IPPacket.new.parse .little (0x4F :: List.replicate 19 7)).1 = true ∧
    ¬ ParsesRight .little (0x44 :: List.replicate 19 7) .new := by
  refine ⟨by decide, ⟨by decide, by decide⟩, by decide, by decide, fun right => ?_⟩
  exact absurd (right.accepted.mp (by decide)) (by decide)

/-- A received packet survives being serialized and parsed again exactly when it has no options,
or when the payload is too short to be parsed and happens to be in the object already. -/
theorem sent_on_iff {raw : Bytes} (ihl : 5 ≤ wireIhl raw) (long : 4 * wireIhl raw ≤ raw.length)
    (o q : IPPacket) : ∃ p, o.parse host raw = (true, p) ∧
      p.payload = raw.drop (4 * wireIhl raw) ∧
      ((q.parse host (p.serialize host)).1 = true ∧
          SameDatagram p (q.parse host (p.serialize host)).2 ↔
        wireIhl raw = 5 ∨
          (p.payload.length < 4 * (wireIhl raw - 5) ∧ q.payload = p.payload)) := by
  obtain ⟨p, hp, same, payload⟩ := @parse_eq host raw ihl long o
  refine ⟨p, hp, payload, ?_⟩
  rw [parse_serialize_ihl (by omega), sameDatagram_reparsed, cut_payload_iff, same]
  rw [eq_self_iff_true, true_and]
  exact or_congr_left (by omega)

theorem sent_on_plain : ∃ p,
    IPPacket.new.parse .little (0x45 :: List.replicate 19 0 ++ [1, 2, 3]) = (true, p) ∧
      SameDatagram p (IPPacket.new.parse .little (p.serialize .little)).2 := by
  obtain ⟨p, hp, -, same⟩ := @sent_on_iff .little (0x45 :: List.replicate 19 0 ++ [1, 2, 3])
    (by decide) (by decide) .new .new
  exact ⟨p, hp, (same.mpr (.inl (by decide))).2⟩

/-- Four bytes of options and six of data; what is left of the data are the last two bytes. -/
theorem options_cut_payload : ∃ raw p, wireIhl raw = 6 ∧ 4 * wireIhl raw ≤ raw.length ∧
    IPPacket.new.parse .little raw = (true, p) ∧ p.payload = [1, 2, 3, 4, 5, 6] ∧
    (IPPacket.new.parse .little (p.serialize .little)).2.payload = [5, 6] := by
  let raw : Bytes := [0x46, 0, 0, 30, 0, 7, 0x40, 0, 64, 17, 0, 0, 10, 0, 0, 1, 10, 0, 0, 2,
    1, 1, 1, 1, 1, 2, 3, 4, 5, 6]
  exact ⟨raw, (IPPacket.new.parse .little raw).2, by decide, by decide, by decide, by decide,
    by decide⟩

/-! ## The fragment bits -/

/-- The more-fragments bit. -/
def moreFragments (p : IPPacket) : Bool := p.header.flagsFragmentOffset &&& (0x2000 : UInt16) != 0

theorem toNat_getFragmentOffset_lt (p : IPPacket) : p.getFragmentOffset.toNat < 8192 := by
  rw [getFragmentOffset, toNat_and_mask16 _ 13 (by decide)]
  exact Nat.mod_lt _ (by decide)

private theorem or_and_distrib (a b c : UInt16) : (a ||| b) &&& c = (a &&& c) ||| (b &&& c) := by
  apply UInt16.toBitVec_inj.mp
  exact BitVec.and_or_distrib_right

private theorem and_and_eq (a : UInt16) {b c d : UInt16} (h : b &&& c = d) :
    (a &&& b) &&& c = a &&& d := by
  rw [UInt16.and_assoc, h]

@[simp] theorem getFragmentOffset_setFragmentOffset (p : IPPacket) (offset : UInt16) :
    (p.setFragmentOffset offset).getFragmentOffset = offset &&& (0x1FFF : UInt16) := by
  simp only [getFragmentOffset, setFragmentOffset, or_and_distrib]
  rw [and_and_eq _ (d := 0) (by decide), and_and_eq _ (d := 0x1FFF) (by decide)]
  simp

@[simp] theorem getFragmentOffset_setMoreFragments (p : IPPacket) (more : Bool) :
    (p.setMoreFragments more).getFragmentOffset = p.getFragmentOffset := by
  cases more with
  | true =>
    simp only [getFragmentOffset, setMoreFragments, if_true, or_and_distrib]
    rw [show (0x2000 : UInt16) &&& 0x1FFF = 0 by decide, UInt16.or_zero]
  | false => exact and_and_eq _ (by decide)

@[simp] theorem moreFragments_setMoreFragments (p : IPPacket) (more : Bool) :
    (p.setMoreFragments more).moreFragments = more := by
  cases more with
  | true =>
    have kept : (p.header.flagsFragmentOffset ||| (0x2000 : UInt16)) &&& (0x2000 : UInt16) =
        0x2000 := by
      apply UInt16.toBitVec_inj.mp
      ext i hi
      simp only [UInt16.toBitVec_and, UInt16.toBitVec_or, BitVec.getElem_and, BitVec.getElem_or]
      exact Bool.and_eq_right_iff_imp.mpr fun h => by rw [h, Bool.or_true]
    simp only [moreFragments, setMoreFragments, if_true, kept]
    rfl
  | false =>
    have cleared := and_and_eq p.header.flagsFragmentOffset
      (b := ~~~ (0x2000 : UInt16)) (c := 0x2000) (d := 0) (by decide)
    simp only [moreFragments, setMoreFragments, Bool.false_eq_true, if_false, cleared,
      UInt16.and_zero]
    rfl

end IPPacket

end Lwip
