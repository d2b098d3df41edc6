import Lwip.Verify.Ip.Packet

/-! The header checksum that `serialize` computes. It is that of the header as the object holds it,
with its fields in host order, the length of another packet and an old checksum, and it is put next
to the converted fields without being converted itself. What comes out is valid when three errors
cancel (`checksumValid_iff`). -/

namespace Lwip

namespace IPPacket

variable {p : IPPacket}

/-- The sum of the words that the object keeps in network order: version and type of service, time
to live and protocol, and the two addresses. -/
def networkSum (p : IPPacket) : Nat :=
  paddedSum
    ([p.header.versionIhl, p.header.typeOfService, p.header.timeToLive, p.header.protocol] ++
    Endian.little.bytes32 p.header.sourceAddress ++
    Endian.little.bytes32 p.header.destinationAddress)

/-- A word with its bytes exchanged. -/
def exchanged (x : UInt16) : Nat := (lo16 x).toNat * 256 + (hi16 x).toNat

theorem paddedSum_toMem_little (h : IPHeader) : paddedSum (h.toMem .little) =
    networkSum ⟨h, []⟩ + exchanged h.totalLength + exchanged h.identification +
      exchanged h.flagsFragmentOffset + exchanged h.headerChecksum := by
  simp only [IPHeader.toMem, networkSum, exchanged, Endian.bytes16, Endian.bytes32, paddedSum,
    List.cons_append, List.nil_append]
  omega

theorem exchanged_htons (x : UInt16) : exchanged (Endian.little.htons x) = x.toNat := by
  rw [exchanged, Endian.htons, lo16_be16, hi16_be16, toNat_hi16, toNat_lo16]
  omega

/-- To exchange the bytes of a word is to multiply it by 256, as far as a checksum can tell. -/
theorem exchanged_mod (x : UInt16) : exchanged x % 65535 = 256 * x.toNat % 65535 := by
  rw [exchanged, toNat_hi16, toNat_lo16]
  omega

theorem toNat_calculateHeaderChecksum (host : Endian) (p : IPPacket) :
    (p.calculateHeaderChecksum host).toNat =
      65535 - onesFold (paddedSum (p.header.toMem host)) := by
  have len : (p.header.toMem host).length = 20 := p.header.length_toMem host
  rw [calculateHeaderChecksum, addWords_ntohs, toNat_complement,
    toNat_addWords_block (by rw [len]) (by rw [len]; decide)]

/-- The header that `serialize` sends, its checksum included. -/
theorem paddedSum_header (fits : p.payload.length ≤ 65515) :
    paddedSum ((p.serialize .little).take 20) =
      p.networkSum + (20 + p.payload.length) + p.header.identification.toNat +
        p.header.flagsFragmentOffset.toNat + exchanged (p.calculateHeaderChecksum .little) := by
  have length : (UInt16.ofNat (IPHeader.size + p.payload.length)).toNat =
      20 + p.payload.length :=
    UInt16.toNat_ofNat_of_lt' (by simp only [IPHeader.size, UInt16.size]; omega)
  have header (h : IPHeader) : (h.toMem .little).length = 20 := h.length_toMem .little
  rw [serialize, List.take_left' (header _), paddedSum_toMem_little]
  dsimp only
  rw [exchanged_htons, exchanged_htons, exchanged_htons, length]
  rfl

theorem networkSum_pos (ihl : p.ihl = 5) : 0 < p.networkSum := by
  have first : 0 < p.header.versionIhl.toNat := by
    refine Nat.pos_of_ne_zero fun zero => ?_
    rw [IPPacket.ihl, UInt8.toNat_inj.mp (zero.trans UInt8.toNat_zero.symm)] at ihl
    cases ihl
  simp only [networkSum, List.cons_append, paddedSum]
  omega

/-- The header that is sent has a valid checksum exactly when 255 times the sum of the words kept in
network order, the length and the checksum that the object held before make up the length of the
packet, modulo 65535. -/
theorem checksumValid_iff (ihl : p.ihl = 5) (fits : p.payload.length ≤ 65515) :
    ChecksumValid ((p.serialize .little).take 20) ↔
      (255 * p.networkSum + p.header.totalLength.toNat + p.header.headerChecksum.toNat) % 65535 =
        (20 + p.payload.length) % 65535 := by
  have pos := networkSum_pos ihl
  have checksum := toNat_calculateHeaderChecksum .little p
  have swapped := exchanged_mod (p.calculateHeaderChecksum .little)
  have mem := paddedSum_toMem_little p.header
  have sum := onesFold_mod (paddedSum (p.header.toMem .little))
  have le := onesFold_le (paddedSum (p.header.toMem .little))
  have totalLength := exchanged_mod p.header.totalLength
  have identification := exchanged_mod p.header.identification
  have flags := exchanged_mod p.header.flagsFragmentOffset
  have old := exchanged_mod p.header.headerChecksum
  change _ = p.networkSum + _ + _ + _ + _ at mem
  rw [ChecksumValid, onesFold_eq_max, paddedSum_header fits]
  omega

/-- The errors cancel for 235 bytes sent from this address. -/
theorem checksumValid_canceled : ChecksumValid
    ((((IPPacket.new.setAddresses 0x8600 0).setPayload (List.replicate 235 0)).serialize
      .little).take 20) := by
  have length : ((IPPacket.new.setAddresses 0x8600 0).setPayload
      (List.replicate 235 0)).payload.length = 235 := List.length_replicate
  refine (checksumValid_iff rfl ?_).mpr ?_
  · rw [length]
    decide
  · rw [length]
    decide

/-- The checksum of a packet as the constructor leaves it. -/
theorem checksum_invalid : Built .new ∧ IPPacket.new.ihl = 5 ∧
    IPPacket.new.calculateHeaderChecksum .little = 0x7AFF ∧
    onesFold (paddedSum ((IPPacket.new.serialize .little).take 20)) = 33935 ∧
    ¬ ChecksumValid ((IPPacket.new.serialize .little).take 20) := by
  have value : IPPacket.new.calculateHeaderChecksum .little = 0x7AFF := by
    apply UInt16.toNat_inj.mp
    rw [toNat_calculateHeaderChecksum]
    decide
  have sum : onesFold (paddedSum ((IPPacket.new.serialize .little).take 20)) = 33935 := by
    rw [paddedSum_header (Nat.zero_le _), value]
    decide
  refine ⟨.new, rfl, value, sum, ?_⟩
  rw [ChecksumValid, sum]
  decide

end IPPacket

end Lwip
