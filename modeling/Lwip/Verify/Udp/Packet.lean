import Lwip.Udp.Packet

/-! The UDP codec and its checksum. Ports and payload survive both ways (`parse_serialize`,
`serialize_parse`). The checksum is a one's complement sum as long as its 32 bits suffice for the
source port times 65536 (`calculateChecksum_eq_iff`). It takes the length from the header, which
holds none before the packet has been on the wire, so sender and receiver agree for one payload size
at most (`checksum_agrees_iff`). -/

namespace Lwip

namespace UDPPacket

/-- The packets that the constructor and the setters make. -/
inductive Built : UDPPacket → Prop where
  | new : Built .new
  | setPayload {p : UDPPacket} (h : Built p) (data : Bytes) : Built (p.setPayload data)
  | setSourcePort {p : UDPPacket} (h : Built p) (port : UInt16) : Built (p.setSourcePort port)
  | setDestPort {p : UDPPacket} (h : Built p) (port : UInt16) : Built (p.setDestPort port)

variable {host : Endian} {p : UDPPacket} {w : Bytes}

theorem Built.length (h : Built p) : p.header.length = 0 := by
  induction h with
  | new => rfl
  | setPayload _ _ ih | setSourcePort _ _ ih | setDestPort _ _ ih => exact ih

/-! ## The codec -/

/-- The packet that comes out of the bytes of `p`. -/
def received (host : Endian) (p : UDPPacket) : UDPPacket :=
  { p with
    header := { p.header with
      length := UInt16.ofNat (UDPHeader.size + p.payload.length)
      checksum := p.calculateChecksum host } }

/-- What follows the datagram counts as payload. -/
theorem parse_serialize_append (host : Endian) (p o : UDPPacket) (t : Bytes) :
    o.parse host (p.serialize host ++ t) =
      (true, { p.received host with payload := p.payload ++ t }) := by
  simp only [parse, serialize, List.append_assoc, List.length_append, UDPHeader.length_toMem,
    UDPHeader.ofMem_toMem_append, Endian.ntohs_htons]
  rw [if_neg (by omega), List.drop_append, UDPHeader.length_toMem,
    List.drop_eq_nil_of_le (by simp), Nat.sub_self]
  rfl

theorem parse_serialize (host : Endian) (p o : UDPPacket) :
    o.parse host (p.serialize host) = (true, p.received host) := by
  have whole := parse_serialize_append host p o []
  rwa [List.append_nil, List.append_nil] at whole

/-- The header of a block, with another length and checksum. -/
theorem toMem_ofMem (host : Endian) (len : UDPHeader.size ≤ w.length)
    (length checksum : UInt16) :
    ({ UDPHeader.ofMem host w with length, checksum } : UDPHeader).toMem host =
      w.take 4 ++ (host.bytes16 length ++ host.bytes16 checksum) := by
  have first : w.take 4 = [w.getD 0 0, w.getD 1 0, w.getD 2 0, w.getD 3 0] :=
    take_eq_map_getD (by rw [UDPHeader.size] at len; omega)
  rw [first]
  simp [UDPHeader.toMem, UDPHeader.ofMem]

/-- A packet parsed from `w` is sent as `w`, with its number of bytes in bytes 4 and 5 and a
checksum of its own in bytes 6 and 7. -/
theorem serialize_parse (host : Endian) (len : UDPHeader.size ≤ w.length)
    (fits : w.length < 65536) (o : UDPPacket) : (o.parse host w).1 = true ∧
    (o.parse host w).2.serialize host =
      w.take 4 ++ (bigEndian16 w.length ++
        (host.bytes16 ((o.parse host w).2.calculateChecksum host) ++ w.drop 8)) := by
  have size : UDPHeader.size = 8 := rfl
  have whole : UDPHeader.size + (w.length - UDPHeader.size) = w.length := by omega
  rw [parse, if_neg (by omega)]
  refine ⟨rfl, ?_⟩
  dsimp only
  generalize sum : calculateChecksum host _ = checksum
  have header := toMem_ofMem host len (host.htons (UInt16.ofNat w.length)) checksum
  rw [Endian.bytes16_htons, ← bigEndian16_eq fits] at header
  rw [serialize, sum]
  simp only [Endian.htons_ntohs, List.length_drop, whole]
  rw [header, List.append_assoc, List.append_assoc, size]

/-! ## The checksum -/

/-- What the checksum sums up, without carries. -/
def checksumSum (p : UDPPacket) : Nat :=
  p.header.sourcePort.toNat * 65536 + p.header.destPort.toNat + p.header.length.toNat +
    paddedSum p.payload

/-- The accumulator may wrap, and then loses a carry. -/
theorem toNat_calculateChecksum (host : Endian) (p : UDPPacket) :
    (p.calculateChecksum host).toNat = 65535 - onesFold (p.checksumSum % 2 ^ 32) := by
  have ports := toNat_be32 (hi16 p.header.sourcePort) (lo16 p.header.sourcePort)
    (hi16 p.header.destPort) (lo16 p.header.destPort)
  rw [be32, be16_hi_lo, be16_hi_lo] at ports
  rw [calculateChecksum, addWords_ntohs, toNat_complement, toNat_addPadded, UInt32.toNat_add,
    ports, UInt16.toNat_toUInt32, Nat.mod_add_mod, checksumSum]

/-- The words that the checksum is about, added up. -/
def wordSum (p : UDPPacket) : Nat :=
  p.header.sourcePort.toNat + p.header.destPort.toNat + p.header.length.toNat + paddedSum p.payload

/-- The source port counts 65536 times what it should, and that is the same for a one's complement
sum. -/
theorem onesFold_checksumSum (p : UDPPacket) : onesFold p.checksumSum = onesFold p.wordSum := by
  rw [checksumSum, wordSum, onesFold, onesFold]
  split <;> split <;> omega

/-- The checksum is the complement of the one's complement sum exactly when the accumulator does not
wrap. -/
theorem calculateChecksum_eq_iff (host : Endian) (fits : p.payload.length ≤ 65527) :
    p.calculateChecksum host = ~~~ UInt16.ofNat (onesFold p.wordSum) ↔ p.checksumSum < 2 ^ 32 := by
  have le := onesFold_le (p.checksumSum % 2 ^ 32)
  have le' := onesFold_le p.checksumSum
  have value : (~~~ UInt16.ofNat (onesFold p.wordSum)).toNat = 65535 - onesFold p.checksumSum := by
    rw [← onesFold_checksumSum, UInt16.toNat_not,
      UInt16.toNat_ofNat_of_lt' (by simp only [UInt16.size]; omega)]
    rfl
  rw [← UInt16.toNat_inj, toNat_calculateChecksum, value]
  by_cases small : p.checksumSum < 2 ^ 32
  · rw [Nat.mod_eq_of_lt small]
    exact iff_of_true rfl small
  · have bound : p.checksumSum < 2 ^ 33 := by
      have source := p.header.sourcePort.toNat_lt
      have dest := p.header.destPort.toNat_lt
      have length := p.header.length.toNat_lt
      have payload := paddedSum_le p.payload
      rw [checksumSum]
      omega
    refine iff_of_false (fun same => ?_) small
    exact onesFold_carry_ne (Nat.le_of_not_lt small) bound (by omega)

/-- Three bytes from port 1234 to port 5678. -/
def threeBytes : UDPPacket :=
  ((UDPPacket.new.setSourcePort 1234).setDestPort 5678).setPayload [1, 2, 3]

theorem calculateChecksum_threeBytes :
    threeBytes.calculateChecksum .little = ~~~ UInt16.ofNat (onesFold threeBytes.wordSum) :=
  (calculateChecksum_eq_iff .little (by decide)).mpr (by decide)

/-- Two bytes between the highest ports: the sum wraps to zero. -/
theorem checksum_carry_lost :
    Built (((UDPPacket.new.setSourcePort 65535).setDestPort 65535).setPayload [0, 1]) ∧
    (((UDPPacket.new.setSourcePort 65535).setDestPort 65535).setPayload [0, 1]).calculateChecksum
      .little = 0xFFFF ∧
    ~~~ UInt16.ofNat (onesFold
      (((UDPPacket.new.setSourcePort 65535).setDestPort 65535).setPayload [0, 1]).wordSum) =
        0xFFFE := by
  refine ⟨.setPayload (.setDestPort (.setSourcePort .new _) _) _, ?_, by decide⟩
  apply UInt16.toNat_inj.mp
  rw [toNat_calculateChecksum]
  decide

/-- Another number in the length field gives another checksum, except a full 65535 that the
accumulator has room for and a nonzero sum to be lost in. -/
theorem onesFold_add_iff {sum length : Nat} (lt : sum < 2 ^ 32) (pos : 2 ≤ length)
    (le : length ≤ 65535) : onesFold ((sum + length) % 2 ^ 32) = onesFold sum ↔
      length = 65535 ∧ 0 < sum ∧ sum + 65535 < 2 ^ 32 := by
  by_cases wraps : sum + length < 2 ^ 32
  · rw [Nat.mod_eq_of_lt wraps, onesFold, onesFold]
    split <;> split <;> omega
  · have rest : (sum + length) % 2 ^ 32 = sum + length - 2 ^ 32 := by omega
    rw [rest, onesFold, onesFold]
    split <;> split <;> omega

/-- The sum of the ports and the payload, as far as 32 bits hold it. -/
def portPayloadSum (p : UDPPacket) : Nat :=
  (p.header.sourcePort.toNat * 65536 + p.header.destPort.toNat + paddedSum p.payload) % 2 ^ 32

/-- The sender counts zero for the length, the receiver the length of the datagram. -/
theorem calculateChecksum_received_iff (built : Built p) (fits : p.payload.length ≤ 65527) :
    (p.received host).calculateChecksum host = p.calculateChecksum host ↔
      p.payload.length = 65527 ∧ 0 < p.portPayloadSum ∧ p.portPayloadSum < 2 ^ 32 - 65535 := by
  have size : UDPHeader.size = 8 := rfl
  have length : (UInt16.ofNat (UDPHeader.size + p.payload.length)).toNat =
      8 + p.payload.length := UInt16.toNat_ofNat_of_lt' (by
    simp only [UDPHeader.size, UInt16.size]
    omega)
  have sent : p.checksumSum % 2 ^ 32 = p.portPayloadSum := by
    rw [checksumSum, built.length, UInt16.toNat_zero, Nat.add_zero, portPayloadSum]
  have got : (p.received host).checksumSum % 2 ^ 32 =
      (p.portPayloadSum + (8 + p.payload.length)) % 2 ^ 32 := by
    rw [checksumSum, received, portPayloadSum]
    dsimp only
    rw [length]
    omega
  have sum := @onesFold_add_iff p.portPayloadSum (8 + p.payload.length)
    (Nat.mod_lt _ (by decide)) (by omega) (by omega)
  have := onesFold_le p.portPayloadSum
  have := onesFold_le ((p.portPayloadSum + (8 + p.payload.length)) % 2 ^ 32)
  rw [← UInt16.toNat_inj, toNat_calculateChecksum, toNat_calculateChecksum, sent, got]
  omega

/-- The checksum field on the wire, as it lies there. -/
theorem load16_serialize (host : Endian) (p : UDPPacket) :
    host.load16 (p.serialize host) 6 = p.calculateChecksum host :=
  congrArg UDPHeader.checksum (UDPHeader.ofMem_toMem_append host _ p.payload)

/-- The receiver finds the checksum in the bytes that it computes itself exactly when the payload
has 65527 bytes and the sum of ports and payload is neither zero nor close to 2 ^ 32. -/
theorem checksum_agrees_iff (host : Endian) (built : Built p) (fits : p.payload.length ≤ 65527)
    (o : UDPPacket) :
    (o.parse host (p.serialize host)).2.calculateChecksum host =
        host.load16 (p.serialize host) 6 ↔
      p.payload.length = 65527 ∧ 0 < p.portPayloadSum ∧ p.portPayloadSum < 2 ^ 32 - 65535 := by
  rw [load16_serialize, parse_serialize]
  exact calculateChecksum_received_iff built fits

theorem checksum_agrees_iff_threeBytes :
    (UDPPacket.new.parse .little (threeBytes.serialize .little)).2.calculateChecksum .little =
        Endian.little.load16 (threeBytes.serialize .little) 6 ↔
      threeBytes.payload.length = 65527 ∧ 0 < threeBytes.portPayloadSum ∧
        threeBytes.portPayloadSum < 2 ^ 32 - 65535 :=
  checksum_agrees_iff .little (.setPayload (.setDestPort (.setSourcePort .new _) _) _) (by decide)
    .new

/-- The datagram of the tests: the sender stores a checksum that the receiver does not get. -/
theorem checksum_disagrees : Built ((UDPPacket.new.setSourcePort 1234).setDestPort 5678) ∧
    (UDPPacket.new.parse .little (((UDPPacket.new.setSourcePort 1234).setDestPort 5678).serialize
      .little)).2.calculateChecksum .little ≠
    Endian.little.load16 (((UDPPacket.new.setSourcePort 1234).setDestPort 5678).serialize
      .little) 6 := by
  have built : Built ((UDPPacket.new.setSourcePort 1234).setDestPort 5678) :=
    .setDestPort (.setSourcePort .new _) _
  refine ⟨built, fun same => ?_⟩
  rw [load16_serialize, parse_serialize] at same
  exact absurd ((calculateChecksum_received_iff built (Nat.zero_le _)).mp same).1 (by decide)

end UDPPacket

end Lwip
