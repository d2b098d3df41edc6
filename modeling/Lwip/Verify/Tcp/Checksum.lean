import Mathlib.Tactic.IntervalCases
import Lwip.Verify.Tcp.Codec

/-! The segment checksum. It is the complement of the one's complement sum of the header as it
lies in the host's memory and of the payload (`toNat_calculateChecksum`), and no carry is lost on
the way (`calculateChecksum_exact`). Whatever the byte order of a field, each byte of a segment
counts in that sum once or 256 times, so a changed byte is noticed (`changed_byte_detected`). -/

namespace Lwip

namespace TCPPacket

variable {host : Endian} {p : TCPPacket} {raw : Bytes}

/-- The accumulator wraps when the payload is too long for it. -/
theorem toNat_calculateChecksum_mod (host : Endian) (p : TCPPacket) :
    (p.calculateChecksum host).toNat =
      65535 - onesFold ((paddedSum (p.header.toMem host) + paddedSum p.payload) % 2 ^ 32) := by
  have len : (p.header.toMem host).length = 20 := p.header.length_toMem host
  rw [calculateChecksum, addWords_ntohs, toNat_complement, toNat_addPadded,
    toNat_addWords_block (by rw [len]) (by rw [len]; decide)]

/-- The 32-bit accumulator does not wrap for a payload that fits in an IP packet. -/
theorem toNat_calculateChecksum (host : Endian) (short : p.payload.length ≤ 65515) :
    (p.calculateChecksum host).toNat =
      65535 - onesFold (paddedSum (p.header.toMem host) + paddedSum p.payload) := by
  have len : (p.header.toMem host).length = 20 := p.header.length_toMem host
  have header := paddedSum_le (p.header.toMem host)
  have payload := paddedSum_le p.payload
  rw [len] at header
  rw [toNat_calculateChecksum_mod, Nat.mod_eq_of_lt (by omega)]

/-! ## The accumulator -/

/-- The words that the checksum adds, in their order: those of the header as the loop reads them
from the host's memory, and those of the payload. -/
def checksumWords (host : Endian) (p : TCPPacket) : List UInt16 :=
  wordsOf (fun a b => host.ntohs (host.word16 a b)) (p.header.toMem host) ++ paddedWords p.payload

theorem length_checksumWords (host : Endian) (p : TCPPacket) :
    (p.checksumWords host).length = 10 + (p.payload.length + 1) / 2 := by
  rw [checksumWords, List.length_append, length_paddedWords, wordsOf, List.length_map,
    length_pairs, p.header.length_toMem host]
  rfl

theorem calculateChecksum_eq (host : Endian) (p : TCPPacket) :
    p.calculateChecksum host =
      (~~~ foldCarry (accumulate 0 (p.checksumWords host))).toUInt16 := by
  rw [calculateChecksum, addPadded_eq, addWords_eq, checksumWords, accumulate, List.foldl_append]

/-- What the loops of the checksum come to: the accumulator has the exact sum after each of the
words, at most two turns fold it, and the result is the complement of the words' one's complement
sum, in which the order of the payload's aligned words does not count. -/
structure ExactChecksum (host : Endian) (p : TCPPacket) : Prop where
  folded : p.calculateChecksum host =
    (~~~ foldCarry (accumulate 0 (p.checksumWords host))).toUInt16
  exact_sum : ∀ k, (accumulate 0 ((p.checksumWords host).take k)).toNat =
    (((p.checksumWords host).take k).map UInt16.toNat).sum
  fold_ends : ∃ n ≤ 2, foldCarry (accumulate 0 (p.checksumWords host)) =
      foldTurn^[n] (accumulate 0 (p.checksumWords host)) ∧
    foldTurn^[n] (accumulate 0 (p.checksumWords host)) >>> 16 = 0 ∧
    ∀ k < n, foldTurn^[k] (accumulate 0 (p.checksumWords host)) >>> 16 ≠ 0
  complement : p.calculateChecksum host = ~~~ (p.checksumWords host).foldl onesAdd 0
  permuted : ∀ words, words.Perm (pairs p.payload) →
    (p.setPayload (unpairs words ++ unpaired p.payload)).calculateChecksum host =
      p.calculateChecksum host

theorem calculateChecksum_perm (host : Endian) (p : TCPPacket) {words : List (UInt8 × UInt8)}
    (perm : words.Perm (pairs p.payload)) :
    (p.setPayload (unpairs words ++ unpaired p.payload)).calculateChecksum host =
      p.calculateChecksum host := by
  have sum := paddedSum_unpairs perm (unpaired p.payload)
  rw [unpairs_pairs] at sum
  apply UInt16.toNat_inj.mp
  rw [toNat_calculateChecksum_mod, toNat_calculateChecksum_mod, ← sum]
  rfl

/-- No carry is lost in the accumulator for a payload that fits in an IP packet. -/
theorem calculateChecksum_exact (host : Endian) (short : p.payload.length ≤ 65515) :
    ExactChecksum host p := by
  have length := length_checksumWords host p
  constructor
  case folded => exact calculateChecksum_eq host p
  case exact_sum =>
    intro k
    apply toNat_accumulate
    rw [List.length_take]
    omega
  case fold_ends => exact foldCarry_turns _
  case complement =>
    apply UInt16.toNat_inj.mp
    rw [calculateChecksum_eq, toNat_complement, UInt16.toNat_not, toNat_foldl_onesAdd,
      toNat_accumulate (by omega), UInt16.toNat_zero, Nat.zero_add]
    rfl
  case permuted =>
    intro words perm
    exact calculateChecksum_perm host p perm

/-- Two words exchanged before an odd last byte. -/
theorem calculateChecksum_exact_odd :
    (TCPPacket.new.setPayload [255, 255, 1, 2, 3]).calculateChecksum .little = 0xFBFD ∧
    (TCPPacket.new.setPayload [1, 2, 255, 255, 3]).calculateChecksum .little = 0xFBFD := by
  have checksum := calculateChecksum_exact (p := TCPPacket.new.setPayload [255, 255, 1, 2, 3])
    .little (by decide)
  have value : (TCPPacket.new.setPayload [255, 255, 1, 2, 3]).calculateChecksum .little =
      0xFBFD := by
    rw [checksum.complement]
    decide
  have swapped := checksum.permuted [(1, 2), (255, 255)] (List.Perm.swap _ _ _)
  exact ⟨value, swapped.trans value⟩

/-! ## On a little-endian host -/

/-- The header of a segment as a little-endian host keeps it, with the checksum cleared: the
fields that `parse` converts have their bytes exchanged, the others not. -/
def hostImage (raw : Bytes) : Bytes :=
  [wire raw 1, wire raw 0, wire raw 3, wire raw 2, wire raw 7, wire raw 6, wire raw 5, wire raw 4,
    wire raw 11, wire raw 10, wire raw 9, wire raw 8, wire raw 12, wire raw 13, wire raw 15,
    wire raw 14, 0, 0, wire raw 18, wire raw 19]

/-- The checksum field as a little-endian host loads it. -/
def storedChecksum (raw : Bytes) : Nat := (be16 (wire raw 17) (wire raw 16)).toNat

theorem toMem_littleHeader (raw : Bytes) :
    TCPHeader.toMem .little { littleHeader raw with checksum := 0 } = hostImage raw := by
  simp [TCPHeader.toMem, littleHeader, Endian.bytes16, Endian.bytes32, hostImage]
  exact ⟨rfl, rfl⟩

theorem verifyChecksum_little (len : 20 ≤ raw.length) (short : raw.length ≤ 65535)
    (offset : takenHeaderLength raw = 20) (p : TCPPacket) :
    ((p.parse .little raw).2.verifyChecksum .little).1 = true ↔
      storedChecksum raw + onesFold (paddedSum (hostImage raw) + paddedSum (raw.drop 20)) =
        65535 := by
  have := onesFold_le (paddedSum (hostImage raw) + paddedSum (raw.drop 20))
  rw [parse_little len, offset, if_pos len]
  simp only [verifyChecksum, beq_iff_eq, ← UInt16.toNat_inj]
  rw [toNat_calculateChecksum _ (by simp only [List.length_drop]; omega)]
  dsimp only
  rw [toMem_littleHeader]
  change storedChecksum raw = _ ↔ _
  omega

theorem wire_set {i : Nat} (h : i < raw.length) (b : UInt8) (j : Nat) :
    wire (raw.set i b) j = if j = i then b else wire raw j := by
  by_cases eq : j = i
  · subst eq
    simp [wire, h]
  · simp [wire, eq, List.getElem?_set_ne (Ne.symm eq)]

theorem storedChecksum_set {i : Nat} (h : i < raw.length) (h₁₆ : i ≠ 16) (h₁₇ : i ≠ 17)
    (b : UInt8) : storedChecksum (raw.set i b) = storedChecksum raw := by
  simp only [storedChecksum, wire_set h]
  rw [if_neg (Ne.symm h₁₆), if_neg (Ne.symm h₁₇)]

theorem hostImage_set {i : Nat} (h : i < raw.length) (out : i = 16 ∨ i = 17 ∨ 20 ≤ i)
    (b : UInt8) : hostImage (raw.set i b) = hostImage raw := by
  simp only [hostImage, wire_set h]
  repeat rw [if_neg (by omega)]

/-- Where a byte of the header lies in the host's memory. -/
def hostPlace (i : Nat) : Nat :=
  [1, 0, 3, 2, 7, 6, 5, 4, 11, 10, 9, 8, 12, 13, 15, 14, 16, 17, 18, 19].getD i 0

theorem hostImage_set_place {i : Nat} (h : i < raw.length) (lt : i < 20) (h₁₆ : i ≠ 16)
    (h₁₇ : i ≠ 17) (b : UInt8) : (hostImage raw)[hostPlace i]? = some (wire raw i) ∧
      hostImage (raw.set i b) = (hostImage raw).set (hostPlace i) b := by
  simp only [hostImage, wire_set h]
  interval_cases i <;> first | exact ⟨rfl, rfl⟩ | contradiction

/-- A changed byte of the header, the checksum apart, changes the sum. -/
theorem paddedSum_hostImage_set_ne (len : 20 ≤ raw.length) {i : Nat} (h : i < 20) (h₁₆ : i ≠ 16)
    (h₁₇ : i ≠ 17) {b : UInt8} (ne : b ≠ wire raw i) :
    paddedSum (hostImage (raw.set i b)) % 65535 ≠ paddedSum (hostImage raw) % 65535 := by
  obtain ⟨place, image⟩ := hostImage_set_place (Nat.lt_of_lt_of_le h len) h h₁₆ h₁₇ b
  obtain ⟨lt, there⟩ := List.getElem?_eq_some_iff.mp place
  rw [image]
  exact paddedSum_set_ne lt (there ▸ ne)

theorem storedChecksum_set_ne (len : 20 ≤ raw.length) {i : Nat} (h : i = 16 ∨ i = 17)
    {b : UInt8} (ne : b ≠ wire raw i) : storedChecksum (raw.set i b) ≠ storedChecksum raw := by
  have h₁₆ := (wire raw 16).toNat_lt
  have hne : b.toNat ≠ (wire raw i).toNat := fun eq => ne (UInt8.toNat_inj.mp eq)
  have hb := b.toNat_lt
  simp only [storedChecksum, toNat_be16, wire_set (show i < raw.length by omega)]
  rcases h with rfl | rfl <;> simp <;> omega

/-- The segment with byte `i` changed no longer has the checksum that it had: the change shows in
the payload's sum, in the header's or in the field itself. -/
theorem not_verify_set (len : 20 ≤ raw.length) (short : raw.length ≤ 65535)
    (offset : takenHeaderLength raw = 20)
    (valid : ((p.parse .little raw).2.verifyChecksum .little).1 = true) {i : Nat}
    (h : i < raw.length) (h₁₃ : i ≠ 13) {b : UInt8} (ne : b ≠ raw[i]) :
    ((p.parse .little (raw.set i b)).2.verifyChecksum .little).1 = false := by
  have ne_wire : b ≠ wire raw i := by
    rwa [wire, List.getD_eq_getElem?_getD, List.getElem?_eq_getElem h, Option.getD_some]
  have offset' : takenHeaderLength (raw.set i b) = 20 := by
    rw [takenHeaderLength, wire_set h, if_neg (Ne.symm h₁₃), ← takenHeaderLength, offset]
  rw [verifyChecksum_little len short offset] at valid
  rw [Bool.eq_false_iff, ne_eq,
    verifyChecksum_little (by simpa using len) (by simpa using short) offset']
  intro valid'
  have turn := onesFold_mod (paddedSum (hostImage raw) + paddedSum (raw.drop 20))
  have turn' := onesFold_mod
    (paddedSum (hostImage (raw.set i b)) + paddedSum ((raw.set i b).drop 20))
  by_cases payload : 20 ≤ i
  · have stored := storedChecksum_set h (by omega) (by omega) b
    have image := hostImage_set h (.inr (.inr payload)) b
    have sum := paddedSum_set_ne (l := raw.drop 20) (i := i - 20) (b := b)
      (by rw [List.length_drop]; omega) (by simpa [Nat.add_sub_cancel' payload] using ne)
    rw [stored, image, List.drop_set, if_neg (by omega)] at valid'
    rw [image, List.drop_set, if_neg (by omega)] at turn'
    omega
  · have drop : (raw.set i b).drop 20 = raw.drop 20 := by
      rw [List.drop_set, if_pos (by omega)]
    rw [drop] at valid' turn'
    by_cases field : i = 16 ∨ i = 17
    · have image := hostImage_set h (by omega) b
      have stored := storedChecksum_set_ne len field ne_wire
      rw [image] at valid'
      omega
    · have stored := storedChecksum_set h (by omega) (by omega) b
      have sum := paddedSum_hostImage_set_ne len (Nat.lt_of_not_le payload)
        (fun h => field (.inl h)) (fun h => field (.inr h)) ne_wire
      rw [stored] at valid'
      omega

/-! ## Serialized segments -/

theorem takenHeaderLength_serialize (p : TCPPacket) :
    takenHeaderLength (p.serialize .little).1 = TCPHeader.size + p.optionsLen := by
  have len : TCPHeader.size ≤ (p.serialize .little).1.length := by simp [serialize]
  have parsed := parse_serialize .little p
  rw [parse_little len, Prod.mk.injEq] at parsed
  have flags := congrArg (fun q => headerLength q.header.flags) parsed.2
  dsimp only at flags
  rwa [littleHeader, headerLength_be16, headerLength_setHeaderLength] at flags

/-- A segment without options verifies as serialized, and with any one byte changed but that of
the data offset it does not. -/
theorem changed_byte_detected (built : Built p) (mss : p.options.mss = 0)
    (scale : p.options.windowScale = 0) (timestamps : p.options.timestampsEnabled = false)
    (short : p.payload.length ≤ 65515) :
    ((TCPPacket.new.parse .little (p.serialize .little).1).2.verifyChecksum .little).1 = true ∧
    ∀ (i : Nat) (h : i < (p.serialize .little).1.length) (b : UInt8),
      i ≠ 13 → b ≠ (p.serialize .little).1[i] →
      ((TCPPacket.new.parse .little ((p.serialize .little).1.set i b)).2.verifyChecksum
        .little).1 = false := by
  have off : p.optionsLen = 0 := optionsLen_eq_zero.mpr ⟨mss, scale, timestamps⟩
  have valid := ((roundTrips_iff .little built).mpr (.inl ⟨mss, scale, timestamps⟩)).checksum
  have len : (p.serialize .little).1.length = 20 + p.payload.length := by
    simp [serialize, TCPHeader.size]
    rfl
  have offset := takenHeaderLength_serialize p
  rw [off] at offset
  exact ⟨valid, fun i h b h₁₃ ne =>
    not_verify_set (by omega) (by omega) offset valid h h₁₃ ne⟩

theorem changed_byte_detected_odd :
    ((TCPPacket.new.parse .little
      (((TCPPacket.new.setMss 0).setPayload [7]).serialize .little).1).2.verifyChecksum
        .little).1 = true ∧
    ((TCPPacket.new.parse .little
      ((((TCPPacket.new.setMss 0).setPayload [7]).serialize .little).1.set 20 8)).2.verifyChecksum
        .little).1 = false := by
  obtain h := changed_byte_detected (p := (TCPPacket.new.setMss 0).setPayload [7])
    ((Built.new.setMss 0).setPayload [7]) rfl rfl rfl (by decide)
  have len : (((TCPPacket.new.setMss 0).setPayload [7]).serialize .little).1.length = 21 := by
    simp [serialize, TCPHeader.size]
    rfl
  refine ⟨h.1, h.2 20 (by omega) 8 (by decide) ?_⟩
  simp [serialize, TCPHeader.size]
  change (8 : UInt8) ≠ 7
  decide

end TCPPacket

end Lwip
