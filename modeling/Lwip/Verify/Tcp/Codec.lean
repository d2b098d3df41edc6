import Lwip.Tcp.Packet

/-! The segment codec, first against itself and then against the wire format. `serialize` counts
the options in the header length and does not emit them, so `parse` takes the front of the
payload for options (`roundTrips_iff`). Both leave the flags word in host order, so on a
little-endian host `parse` looks for the data offset and the control bits in the wrong bytes
(`decodes_iff`). -/

namespace Lwip

namespace TCPPacket

/-- The packets that the constructor and the setters make. -/
inductive Built : TCPPacket → Prop where
  | new : Built .new
  | setMss {p : TCPPacket} (h : Built p) (mss : UInt16) : Built (p.setMss mss)
  | setWindowScale {p : TCPPacket} (h : Built p) (scale : UInt8) : Built (p.setWindowScale scale)
  | enableTimestamps {p : TCPPacket} (h : Built p) (enable : Bool) :
    Built (p.enableTimestamps enable)
  | setPayload {p : TCPPacket} (h : Built p) (data : Bytes) : Built (p.setPayload data)
  | setSourcePort {p : TCPPacket} (h : Built p) (port : UInt16) : Built (p.setSourcePort port)
  | setDestPort {p : TCPPacket} (h : Built p) (port : UInt16) : Built (p.setDestPort port)
  | setSequenceNumber {p : TCPPacket} (h : Built p) (seq : UInt32) : Built (p.setSequenceNumber seq)
  | setAckNumber {p : TCPPacket} (h : Built p) (ack : UInt32) : Built (p.setAckNumber ack)
  | setFlags {p : TCPPacket} (h : Built p) (flags : UInt16) : Built (p.setFlags flags)
  | setWindowSize {p : TCPPacket} (h : Built p) (size : UInt16) : Built (p.setWindowSize size)

variable {host : Endian} {p q : TCPPacket}

theorem Built.checksum (h : Built p) : p.header.checksum = 0 := by
  induction h with
  | new => rfl
  | setMss _ _ ih | setWindowScale _ _ ih | enableTimestamps _ _ ih | setPayload _ _ ih
  | setSourcePort _ _ ih | setDestPort _ _ ih | setSequenceNumber _ _ ih | setAckNumber _ _ ih
  | setFlags _ _ ih | setWindowSize _ _ ih => exact ih

/-! ## The header length -/

theorem optionsLen_le (p : TCPPacket) : p.optionsLen ≤ 20 := by
  rw [optionsLen]
  repeat' split
  all_goals simp

theorem optionsLen_mod (p : TCPPacket) : p.optionsLen % 4 = 0 := by
  unfold optionsLen
  dsimp only
  omega

theorem optionsLen_eq_zero : p.optionsLen = 0 ↔
    p.options.mss = 0 ∧ p.options.windowScale = 0 ∧ p.options.timestampsEnabled = false := by
  rw [optionsLen]
  repeat' split
  all_goals simp_all

/-- The header length as `parse` reads it out of the flags word. -/
def headerLength (flags : UInt16) : Nat := (flags >>> (12 : UInt16)).toNat * 4

private theorem toNat_shiftLeft_12 {n : Nat} (h : n < 16) :
    (UInt16.ofNat n <<< (12 : UInt16)).toNat = n * 4096 := by
  rw [UInt16.toNat_shiftLeft, UInt16.toNat_ofNat_of_lt' (by simp [UInt16.size]; omega)]
  change (n <<< 12) % 65536 = _
  rw [Nat.shiftLeft_eq]
  omega

private theorem toNat_and_fff (f : UInt16) : (f &&& (0x0FFF : UInt16)).toNat = f.toNat % 4096 :=
  toNat_and_mask16 f 12 (by decide)

theorem toNat_headerLength (f : UInt16) : headerLength f = f.toNat / 4096 * 4 := by
  rw [headerLength, toNat_shiftRight16 f 12 (by decide)]
  rfl

theorem toNat_flags_setHeaderLength (p : TCPPacket) : p.setHeaderLength.header.flags.toNat =
    (TCPHeader.size + p.optionsLen) / 4 * 4096 + p.header.flags.toNat % 4096 := by
  have hle := p.optionsLen_le
  have hlt : p.header.flags.toNat % 4096 < 2 ^ 12 := Nat.mod_lt _ (by decide)
  simp only [setHeaderLength, setFlags, getFlags, UInt16.toNat_or]
  rw [toNat_shiftLeft_12 (by simp [TCPHeader.size]; omega), toNat_and_fff, Nat.or_comm,
    Nat.mul_comm, ← Nat.two_pow_add_eq_or_of_lt hlt]

theorem headerLength_setHeaderLength (p : TCPPacket) :
    headerLength p.setHeaderLength.header.flags = TCPHeader.size + p.optionsLen := by
  have hmod := p.optionsLen_mod
  rw [toNat_headerLength, toNat_flags_setHeaderLength]
  simp only [TCPHeader.size]
  omega

theorem low_flags_setHeaderLength (p : TCPPacket) :
    p.setHeaderLength.getFlags &&& (0x0FFF : UInt16) = p.getFlags &&& (0x0FFF : UInt16) := by
  apply UInt16.toNat_inj.mp
  rw [toNat_and_fff, toNat_and_fff, getFlags, toNat_flags_setHeaderLength]
  simp [getFlags, Nat.add_mod]

/-! ## The round trip -/

/-- What a fresh packet holds after it has parsed a serialized one: the bytes counted as options
are missing from the front of the payload. -/
theorem parse_serialize (host : Endian) (p : TCPPacket) :
    TCPPacket.new.parse host (p.serialize host).1 = (true,
      { header := { p.setHeaderLength.header with
          checksum := p.setHeaderLength.calculateChecksum host }
        payload := p.payload.drop p.optionsLen
        options := {} }) := by
  have hlen := headerLength_setHeaderLength p
  rw [headerLength] at hlen
  have hpay : p.setHeaderLength.payload = p.payload := rfl
  simp only [parse, serialize, List.length_append, TCPHeader.length_toMem,
    TCPHeader.ofMem_toMem_append, Endian.ntohs_htons, Endian.ntohl_htonl, hlen, hpay]
  rw [if_neg (by omega)]
  split
  · rw [List.drop_append, TCPHeader.length_toMem, List.drop_eq_nil_of_le (by simp),
      Nat.add_sub_cancel_left, List.nil_append]
    rfl
  · -- the payload is shorter than the options: the fresh packet keeps its own, which is empty
    rw [List.drop_eq_nil_of_le (by omega)]
    rfl

/-- The fields of `p` that a parse of its bytes is to recover. -/
structure Recovers (host : Endian) (p : TCPPacket) (parsed : Bool × TCPPacket) : Prop where
  accepted : parsed.1 = true
  sourcePort : parsed.2.getSourcePort = p.getSourcePort
  destPort : parsed.2.getDestPort = p.getDestPort
  sequenceNumber : parsed.2.getSequenceNumber = p.getSequenceNumber
  ackNumber : parsed.2.getAckNumber = p.getAckNumber
  flags : parsed.2.getFlags &&& (0x0FFF : UInt16) = p.getFlags &&& (0x0FFF : UInt16)
  windowSize : parsed.2.getWindowSize = p.getWindowSize
  payload : parsed.2.getPayload = p.getPayload
  checksum : (parsed.2.verifyChecksum host).1 = true

def RoundTrips (host : Endian) (p : TCPPacket) : Prop :=
  Recovers host p (TCPPacket.new.parse host (p.serialize host).1)

private theorem drop_eq_self_iff {α : Type} {l : List α} {n : Nat} :
    l.drop n = l ↔ n = 0 ∨ l = [] := by
  refine ⟨fun h => ?_, fun h => ?_⟩
  · have hlen := congrArg List.length h
    rw [List.length_drop] at hlen
    rcases Nat.eq_zero_or_pos n with h0 | h0
    · exact .inl h0
    · exact .inr (List.eq_nil_of_length_eq_zero (by omega))
  · rcases h with rfl | rfl <;> simp

/-- A packet survives the round trip exactly when it has no options, so that none are counted in
the header length, or no payload to lose. -/
theorem roundTrips_iff (host : Endian) (built : Built p) : RoundTrips host p ↔
    (p.options.mss = 0 ∧ p.options.windowScale = 0 ∧ p.options.timestampsEnabled = false) ∨
      p.payload = [] := by
  rw [← optionsLen_eq_zero, ← drop_eq_self_iff, RoundTrips, parse_serialize]
  refine ⟨fun h => h.payload, fun hpay => ?_⟩
  refine ⟨rfl, rfl, rfl, rfl, rfl, low_flags_setHeaderLength p, rfl, hpay, ?_⟩
  -- the checksum was computed over the header with a zero checksum field and the same payload
  have hsum : p.setHeaderLength.header.checksum = 0 := built.checksum
  simp only [verifyChecksum, hpay, beq_iff_eq]
  rw [← hsum]
  rfl

/-- A data segment without options. -/
def plainSegment : TCPPacket :=
  (((((TCPPacket.new.setMss 0).setSourcePort 80).setDestPort 5000).setSequenceNumber 7).setFlags
    0x018).setPayload [1, 2, 3]

theorem roundTrips_plainSegment : RoundTrips .little plainSegment := by
  have built : Built plainSegment :=
    .setPayload (.setFlags (.setSequenceNumber
      (.setDestPort (.setSourcePort (.setMss .new _) _) _) _) _) _
  exact (roundTrips_iff .little built).mpr (.inl (by decide))

/-- A default packet counts its 4 bytes of MSS option and loses as many of its payload. -/
theorem payload_cut_by_mss : Built (TCPPacket.new.setPayload [1, 2, 3, 4, 5]) ∧
    (TCPPacket.new.parse .little
      ((TCPPacket.new.setPayload [1, 2, 3, 4, 5]).serialize .little).1).2.getPayload = [5] ∧
    ¬ RoundTrips .little (TCPPacket.new.setPayload [1, 2, 3, 4, 5]) := by
  have lost : (TCPPacket.new.parse .little
      ((TCPPacket.new.setPayload [1, 2, 3, 4, 5]).serialize .little).1).2.getPayload = [5] := by
    rw [parse_serialize]
    decide
  refine ⟨.setPayload .new _, lost, fun h => ?_⟩
  have kept := lost.symm.trans h.payload
  simp [getPayload, setPayload] at kept

/-! ## The wire format -/

/-- Byte `i` of a segment. -/
def wire (raw : Bytes) (i : Nat) : UInt8 := raw.getD i 0

/-- The data offset, in words of 4 bytes: the high half of byte 12. -/
def dataOffset (raw : Bytes) : Nat := (wire raw 12 >>> 4).toNat

/-- A segment as RFC 793 lays it out; nothing is asked of the reserved bits. -/
structure WellFormed (raw : Bytes) : Prop where
  offset : 5 ≤ dataOffset raw
  length : 4 * dataOffset raw ≤ raw.length

/-- What a parse yields is what the bytes of `raw` encode. -/
structure Decodes (raw : Bytes) (parsed : Bool × TCPPacket) : Prop where
  accepted : parsed.1 = true
  sourcePort : parsed.2.getSourcePort = be16 (wire raw 0) (wire raw 1)
  destPort : parsed.2.getDestPort = be16 (wire raw 2) (wire raw 3)
  sequenceNumber : parsed.2.getSequenceNumber =
    be32 (wire raw 4) (wire raw 5) (wire raw 6) (wire raw 7)
  ackNumber : parsed.2.getAckNumber =
    be32 (wire raw 8) (wire raw 9) (wire raw 10) (wire raw 11)
  windowSize : parsed.2.getWindowSize = be16 (wire raw 14) (wire raw 15)
  flags : parsed.2.getFlags &&& (0x3F : UInt16) = (wire raw 13).toUInt16 &&& (0x3F : UInt16)
  payload : parsed.2.getPayload = raw.drop (4 * dataOffset raw)

/-- The length `parse` takes on a little-endian host for that of the header: it comes from the
high half of byte 13, where the control bits are. -/
def takenHeaderLength (raw : Bytes) : Nat := 4 * (wire raw 13 >>> 4).toNat

theorem toNat_shiftRight_4 (b : UInt8) : (b >>> 4).toNat = b.toNat / 16 :=
  toNat_shiftRight8 b 4 (by decide)

theorem toNat_and_3f (b : UInt8) : (b &&& (0x3F : UInt8)).toNat = b.toNat % 64 :=
  toNat_and_mask8 b 6 (by decide)

theorem headerLength_be16 (a b : UInt8) : headerLength (be16 a b) = 4 * (a >>> 4).toNat := by
  have hb := b.toNat_lt
  rw [toNat_headerLength, toNat_be16, toNat_shiftRight_4]
  omega

theorem be16_and_3f (a b : UInt8) :
    be16 a b &&& (0x3F : UInt16) = b.toUInt16 &&& (0x3F : UInt16) := by
  have hand (x : UInt16) : (x &&& (0x3F : UInt16)).toNat = x.toNat % 64 :=
    toNat_and_mask16 x 6 (by decide)
  apply UInt16.toNat_inj.mp
  rw [hand, hand, toNat_be16, UInt8.toNat_toUInt16]
  omega

/-- The header that a little-endian host reads off the wire: the flags, the checksum and the urgent
pointer are not converted. -/
def littleHeader (raw : Bytes) : TCPHeader where
  sourcePort := be16 (wire raw 0) (wire raw 1)
  destPort := be16 (wire raw 2) (wire raw 3)
  sequenceNumber := be32 (wire raw 4) (wire raw 5) (wire raw 6) (wire raw 7)
  ackNumber := be32 (wire raw 8) (wire raw 9) (wire raw 10) (wire raw 11)
  flags := be16 (wire raw 13) (wire raw 12)
  windowSize := be16 (wire raw 14) (wire raw 15)
  checksum := be16 (wire raw 17) (wire raw 16)
  urgentPointer := be16 (wire raw 19) (wire raw 18)

theorem parse_little {raw : Bytes} (len : TCPHeader.size ≤ raw.length) (p : TCPPacket) :
    p.parse .little raw = (true,
      { header := littleHeader raw
        payload :=
          if takenHeaderLength raw ≤ raw.length then raw.drop (takenHeaderLength raw)
          else p.payload
        options := p.options }) := by
  have hlen := headerLength_be16 (wire raw 13) (wire raw 12)
  have hwire (i : Nat) : raw.getD i 0 = wire raw i := rfl
  rw [headerLength, ← takenHeaderLength] at hlen
  simp only [parse, TCPHeader.ofMem, Endian.load16, Endian.load32, hwire, Nat.reduceAdd,
    Endian.ntohs_word16, Endian.ntohl_word32]
  rw [if_neg (by omega)]
  simp only [Endian.word16, hlen]
  split <;> rfl

/-- Only the flags and the payload can come out wrong. -/
theorem decodes_little {raw : Bytes} (len : TCPHeader.size ≤ raw.length) (p : TCPPacket) :
    Decodes raw (p.parse .little raw) ↔
      wire raw 12 &&& (0x3F : UInt8) = wire raw 13 &&& (0x3F : UInt8) ∧
        (if takenHeaderLength raw ≤ raw.length then raw.drop (takenHeaderLength raw)
          else p.payload) = raw.drop (4 * dataOffset raw) := by
  have hflags : be16 (wire raw 13) (wire raw 12) &&& (0x3F : UInt16) =
      (wire raw 13).toUInt16 &&& (0x3F : UInt16) ↔
      wire raw 12 &&& (0x3F : UInt8) = wire raw 13 &&& (0x3F : UInt8) := by
    rw [be16_and_3f, ← UInt8.toUInt16_inj]
    simp
  rw [parse_little len]
  refine ⟨fun d => ⟨hflags.mp d.flags, d.payload⟩, fun ⟨hf, hp⟩ => ?_⟩
  exact ⟨rfl, rfl, rfl, rfl, rfl, rfl, hflags.mpr hf, hp⟩

theorem WellFormed.size_le {raw : Bytes} (h : WellFormed raw) : TCPHeader.size ≤ raw.length := by
  have := h.offset
  have := h.length
  simp only [TCPHeader.size]
  omega

theorem WellFormed.drop_eq_iff {raw : Bytes} (h : WellFormed raw)
    (hle : takenHeaderLength raw ≤ raw.length) :
    raw.drop (takenHeaderLength raw) = raw.drop (4 * dataOffset raw) ↔
      takenHeaderLength raw = 4 * dataOffset raw := by
  refine ⟨fun hd => ?_, fun heq => by rw [heq]⟩
  have hlen := congrArg List.length hd
  rw [List.length_drop, List.length_drop] at hlen
  have := h.length
  omega

/-- On a little-endian host a segment is decoded as it stands on the wire exactly when bytes 12
and 13 are the same, so that the swapped flags word reads the same, or have the same low 6 bits
and the object already holds the payload and `parse` leaves it there. -/
theorem decodes_iff {raw : Bytes} (h : WellFormed raw) (p : TCPPacket) :
    Decodes raw (p.parse .little raw) ↔ wire raw 12 = wire raw 13 ∨
      (wire raw 12 &&& (0x3F : UInt8) = wire raw 13 &&& (0x3F : UInt8) ∧
        raw.length < takenHeaderLength raw ∧ p.payload = raw.drop (4 * dataOffset raw)) := by
  have hl := h.length
  have hsame : wire raw 12 = wire raw 13 ↔
      wire raw 12 &&& (0x3F : UInt8) = wire raw 13 &&& (0x3F : UInt8) ∧
        takenHeaderLength raw = 4 * dataOffset raw := by
    rw [← UInt8.toNat_inj, ← UInt8.toNat_inj, toNat_and_3f, toNat_and_3f, takenHeaderLength,
      dataOffset, toNat_shiftRight_4, toNat_shiftRight_4]
    omega
  rw [decodes_little h.size_le, hsame]
  split
  · rename_i hle
    rw [h.drop_eq_iff hle]
    refine ⟨.inl, fun h => h.resolve_right fun ⟨_, short, _⟩ => ?_⟩
    omega
  · rename_i hlt
    refine ⟨fun ⟨hf, hp⟩ => .inr ⟨hf, by omega, hp⟩, fun h => ?_⟩
    rcases h with ⟨-, hoff⟩ | ⟨hf, -, hp⟩
    · omega
    · exact ⟨hf, hp⟩

theorem decodes_palindrome :
    Decodes (List.replicate 20 0x55) (TCPPacket.new.parse .little (List.replicate 20 0x55)) :=
  (decodes_iff ⟨by decide, by decide⟩ .new).mpr (.inl rfl)

/-- With the reserved bits zero, as the format asks, no segment is decoded as it stands. -/
theorem not_decodes_of_reserved {raw : Bytes} (h : WellFormed raw)
    (high : (wire raw 12).toNat % 16 = 0) (low : (wire raw 13).toNat < 64) (p : TCPPacket) :
    ¬ Decodes raw (p.parse .little raw) := by
  rw [decodes_little h.size_le]
  intro ⟨hf, hp⟩
  have h5 := h.offset
  have hl := h.length
  -- the control bits would be the low 2 bits of the offset followed by zeros
  have hlt : takenHeaderLength raw < 4 * dataOffset raw := by
    rw [← UInt8.toNat_inj, toNat_and_3f, toNat_and_3f] at hf
    rw [dataOffset, toNat_shiftRight_4] at h5
    rw [takenHeaderLength, dataOffset, toNat_shiftRight_4, toNat_shiftRight_4]
    omega
  rw [if_pos (by omega), h.drop_eq_iff (by omega)] at hp
  omega

/-- A bare SYN, offset 5: the flags come out with the offset's bits for control bits. -/
theorem syn_not_decoded :
    WellFormed [0, 80, 0, 90, 0, 0, 0, 1, 0, 0, 0, 0, 0x50, 0x02, 1, 0, 0, 0, 0, 0] ∧
    (TCPPacket.new.parse .little
      [0, 80, 0, 90, 0, 0, 0, 1, 0, 0, 0, 0, 0x50, 0x02, 1, 0, 0, 0, 0, 0]).2.getFlags = 0x0250 ∧
    ¬ Decodes [0, 80, 0, 90, 0, 0, 0, 1, 0, 0, 0, 0, 0x50, 0x02, 1, 0, 0, 0, 0, 0]
      (TCPPacket.new.parse .little
        [0, 80, 0, 90, 0, 0, 0, 1, 0, 0, 0, 0, 0x50, 0x02, 1, 0, 0, 0, 0, 0]) :=
  ⟨⟨by decide, by decide⟩, by decide, fun h => absurd h.flags (by decide)⟩

end TCPPacket

end Lwip
