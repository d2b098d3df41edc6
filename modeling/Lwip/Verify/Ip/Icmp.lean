import Lwip.Ip.Icmp

/-! The ICMP checksum against the wire rule. `calculate_checksum` sums the header alone, and the
result is stored and compared in host order; the rule sums the whole message and stores the
result in network order. `parse_eq` says what is accepted, and `accepts_iff_valid_of_coincide` on
which messages this is what the rule accepts. The stack's own messages pass its own check as long as
the object they are made in held no checksum before (`echo_accepted_iff`). -/

namespace Lwip

namespace ICMPPacket

variable {host : Endian} {data : Bytes}

/-- The checksum is the complement of the sum of the header as it lies in memory. -/
theorem toNat_calculateChecksum (host : Endian) (p : ICMPPacket) :
    (p.calculateChecksum host).toNat = 65535 - onesFold (paddedSum (p.header.toMem host)) := by
  have len : (p.header.toMem host).length = 8 := p.header.length_toMem host
  rw [calculateChecksum, addWords_ntohs, toNat_complement,
    toNat_addWords_block (by rw [len]) (by rw [len]; decide)]

/-- A message parses back to the packet it was made from, and is accepted when the packet has
the checksum of its own header. -/
theorem parse_serialize (host : Endian) (p q : ICMPPacket) :
    q.parse host (p.serialize host) = (p.header.checksum ==
      ({ p with header := { p.header with checksum := 0 } } : ICMPPacket).calculateChecksum host,
      p) := by
  simp only [parse, serialize, List.length_append, ICMPHeader.length_toMem,
    ICMPHeader.ofMem_toMem_append]
  rw [if_neg (by omega), List.drop_append, ICMPHeader.length_toMem,
    List.drop_eq_nil_of_le (by simp), Nat.sub_self]
  rfl

theorem payload_of_accepted {p : ICMPPacket} (accepted : (p.parse host data).1 = true) :
    8 ≤ data.length ∧ (p.parse host data).2.payload = data.drop 8 := by
  rw [parse] at accepted ⊢
  split at accepted
  · cases accepted
  · rename_i len
    rw [if_neg len]
    exact ⟨Nat.le_of_not_lt len, rfl⟩

/-! ## What is accepted -/

/-- Byte `i` of a message. -/
def wire (data : Bytes) (i : Nat) : UInt8 := data.getD i 0

/-- The checksum field, in network order. -/
def field (data : Bytes) : Nat := (be16 (wire data 2) (wire data 3)).toNat

/-- The checksum field with its bytes exchanged, as a little-endian host loads it. -/
def swappedField (data : Bytes) : Nat := (be16 (wire data 3) (wire data 2)).toNat

theorem field_eq_zero (data : Bytes) : field data = 0 ↔ swappedField data = 0 := by
  rw [field, swappedField, toNat_be16, toNat_be16]
  omega

/-- The sum of the header without the checksum field. -/
def headerSum (data : Bytes) : Nat :=
  paddedSum [wire data 0, wire data 1, 0, 0, wire data 4, wire data 5, wire data 6, wire data 7]

/-- On a little-endian host a message is accepted when its checksum field, read the wrong way
round, is the complement of the sum of the rest of the header. -/
theorem parse_eq (len : 8 ≤ data.length) (p : ICMPPacket) :
    (p.parse .little data).1 = true ↔ swappedField data + onesFold (headerSum data) = 65535 := by
  have mem : ({ ICMPHeader.ofMem .little data with checksum := 0 } : ICMPHeader).toMem .little =
      [wire data 0, wire data 1, 0, 0, wire data 4, wire data 5, wire data 6, wire data 7] := by
    simp [ICMPHeader.toMem, ICMPHeader.ofMem, Endian.load32, Endian.bytes16, Endian.bytes32,
      Endian.word32, wire]
    exact ⟨rfl, rfl⟩
  have := onesFold_le (headerSum data)
  rw [parse, if_neg (by rw [ICMPHeader.size]; omega)]
  dsimp only
  rw [beq_iff_eq, ← UInt16.toNat_inj, toNat_calculateChecksum, mem]
  change swappedField data = 65535 - onesFold (headerSum data) ↔ _
  omega

theorem paddedSum_message (len : 8 ≤ data.length) :
    paddedSum data = headerSum data + field data + paddedSum (data.drop 8) := by
  have split : paddedSum data = paddedSum (data.take 8) + paddedSum (data.drop 8) := by
    conv => lhs; rw [← List.take_append_drop 8 data]
    exact paddedSum_append (by rw [List.length_take]; omega)
  have head : data.take 8 = [wire data 0, wire data 1, wire data 2, wire data 3, wire data 4,
      wire data 5, wire data 6, wire data 7] := take_eq_map_getD len
  rw [split, head]
  simp [paddedSum, headerSum, field, toNat_be16]
  omega

/-- The checksum field as a little-endian host loads it is, modulo 65535, the field as it stands
plus the payload's sum. The two exceptions are the sums that a complement tells apart and the
congruence does not: nothing and all ones. -/
def TestsCoincide (data : Bytes) : Prop :=
  data.length < 8 ∨
  swappedField data % 65535 = (field data + paddedSum (data.drop 8)) % 65535 ∧
    ¬ (swappedField data = 0 ∧ headerSum data = 0 ∧ 0 < paddedSum (data.drop 8)) ∧
    ¬ (swappedField data = 65535 ∧ 0 < headerSum data ∧ headerSum data % 65535 = 0)

instance : Decidable (TestsCoincide data) :=
  inferInstanceAs (Decidable (_ ∨ _ ∧ _ ∧ _))

theorem not_accepted_of_short (short : data.length < 8) (p : ICMPPacket) :
    (p.parse .little data).1 = false := by
  rw [parse, if_pos (by rw [ICMPHeader.size]; omega)]

theorem checksumValid_message (len : 8 ≤ data.length) : ChecksumValid data ↔
    0 < headerSum data + field data + paddedSum (data.drop 8) ∧
      (headerSum data + field data + paddedSum (data.drop 8)) % 65535 = 0 := by
  rw [ChecksumValid, paddedSum_message len, onesFold_eq_max]

theorem TestsCoincide.accepts_iff (h : TestsCoincide data) (p : ICMPPacket) :
    (p.parse .little data).1 = true ↔ 8 ≤ data.length ∧ ChecksumValid data := by
  rcases h with short | ⟨congruent, none, ones⟩
  · have long : ¬ 8 ≤ data.length := by omega
    simp [not_accepted_of_short short p, long]
  · by_cases len : 8 ≤ data.length
    · rw [and_iff_right len, parse_eq len, checksumValid_message len]
      have fold := onesFold_mod (headerSum data)
      have zero := onesFold_eq_zero (n := headerSum data)
      have le := onesFold_le (headerSum data)
      have field_zero := field_eq_zero data
      have swapped_le : swappedField data ≤ 65535 := Nat.le_of_lt_succ (UInt16.toNat_lt _)
      -- under the congruence the field makes up for the header in both sums or in none
      omega
    · simp [not_accepted_of_short (Nat.lt_of_not_le len) p, len]

/-- What passes both tests has the sum of its header made up for twice. -/
theorem testsCoincide_of_both {p : ICMPPacket} (len : 8 ≤ data.length)
    (accepted : (p.parse .little data).1 = true) (valid : ChecksumValid data) :
    TestsCoincide data := by
  rw [parse_eq len] at accepted
  rw [checksumValid_message len] at valid
  have fold := onesFold_mod (headerSum data)
  have zero := onesFold_eq_zero (n := headerSum data)
  refine .inr ⟨?_, ?_, ?_⟩ <;> omega

/-- On a little-endian host the messages on which the two tests coincide are accepted as the rule
says, and of the messages that pass either test these are all that are. -/
theorem accepts_iff_valid_of_coincide (p : ICMPPacket) (data : Bytes) :
    (TestsCoincide data →
      ((p.parse .little data).1 = true ↔ 8 ≤ data.length ∧ ChecksumValid data)) ∧
    ((p.parse .little data).1 = true ∨ (8 ≤ data.length ∧ ChecksumValid data) →
      (((p.parse .little data).1 = true ↔ 8 ≤ data.length ∧ ChecksumValid data) ↔
        TestsCoincide data)) := by
  refine ⟨fun h => h.accepts_iff p, fun either => ⟨fun same => ?_, fun h => h.accepts_iff p⟩⟩
  have accepted : (p.parse .little data).1 = true := either.elim id same.mpr
  obtain ⟨len, valid⟩ := same.mp accepted
  exact testsCoincide_of_both len accepted valid

/-- An echo request whose payload makes up for the exchange of the bytes. -/
theorem accepts_iff_valid_of_coincide_request :
    (ICMPPacket.new.parse .little [8, 0, 0xFE, 0xF7, 0, 1, 0, 0, 0xF9, 6]).1 = true := by
  have coincide : TestsCoincide [8, 0, 0xFE, 0xF7, 0, 1, 0, 0, 0xF9, 6] := by decide
  exact ((accepts_iff_valid_of_coincide .new _).1 coincide).mpr (by decide)

/-- An echo request without payload that carries the checksum the rule asks for. -/
theorem valid_request_rejected : ChecksumValid [8, 0, 0xF7, 0xFD, 0, 1, 0, 1] ∧
    (ICMPPacket.new.parse .little [8, 0, 0xF7, 0xFD, 0, 1, 0, 1]).1 = false ∧
    (ICMPPacket.new.parse .little [8, 0, 0xFD, 0xF7, 0, 1, 0, 1, 5]).1 = true ∧
    ¬ ChecksumValid [8, 0, 0xFD, 0xF7, 0, 1, 0, 1, 5] := by
  refine ⟨by decide, ?_, ?_, by decide⟩
  · rw [Bool.eq_false_iff, ne_eq, parse_eq (by decide)]
    decide
  · rw [parse_eq (by decide)]
    decide

/-! ## Messages made in one object -/

/-- The calls that make a message. -/
inductive Echo where
  | request (identifier sequence : UInt16)
  | reply (request : ICMPPacket)

/-- The calls that change an object. -/
inductive Op where
  | parse (data : Bytes)
  | echo (e : Echo)

def make (host : Endian) (p : ICMPPacket) : Echo → ICMPPacket
  | .request identifier sequence => (p.createEchoRequest host identifier sequence).2
  | .reply request => (p.createEchoReply host request).2

def exec (host : Endian) (p : ICMPPacket) : Op → ICMPPacket
  | .parse data => (p.parse host data).2
  | .echo e => p.make host e

/-- The object after some calls, oldest first. -/
def history (host : Endian) (ops : List Op) : ICMPPacket := ops.foldl (exec host) .new

/-- The bytes of `p` are accepted, by an object that may have been used before, as the message
that `p` holds. -/
structure Survives (host : Endian) (p o : ICMPPacket) : Prop where
  accepted : (o.parse host (p.serialize host)).1 = true
  type : (o.parse host (p.serialize host)).2.header.type = p.header.type
  code : (o.parse host (p.serialize host)).2.header.code = p.header.code
  restOfHeader :
    (o.parse host (p.serialize host)).2.header.restOfHeader = p.header.restOfHeader
  payload : (o.parse host (p.serialize host)).2.payload = p.payload

/-- The object holds no checksum, or one of all ones in which the sum of the rest does not
drown. -/
def Unstained (p : ICMPPacket) : Echo → Prop
  | .request _ _ => p.header.checksum = 0 ∨ p.header.checksum = 0xFFFF
  | .reply request => p.header.checksum = 0 ∨
      (p.header.checksum = 0xFFFF ∧ request.header.restOfHeader ≠ 0)

theorem paddedSum_toMem (host : Endian) (h : ICMPHeader) : paddedSum (h.toMem host) =
    paddedSum (({ h with checksum := 0 } : ICMPHeader).toMem host) +
      (host.ntohs h.checksum).toNat := by
  cases host <;>
    simp [ICMPHeader.toMem, Endian.bytes16, Endian.bytes32, Endian.ntohs, Endian.htons, paddedSum,
      toNat_be16, toNat_hi16, toNat_lo16] <;>
    omega

/-- What is added to a sum shows, unless it is nothing or all ones on top of something. -/
theorem onesFold_add_word {sum word : Nat} (le : word ≤ 65535) :
    onesFold (sum + word) = onesFold sum ↔ word = 0 ∨ (word = 65535 ∧ 0 < sum) := by
  rw [onesFold, onesFold]
  split <;> split <;> omega

theorem toNat_ntohs_eq (host : Endian) (x : UInt16) :
    ((host.ntohs x).toNat = 0 ↔ x = 0) ∧ ((host.ntohs x).toNat = 65535 ↔ x = 0xFFFF) := by
  have := x.toNat_lt
  rw [← UInt16.toNat_inj, ← UInt16.toNat_inj]
  cases host
  · rw [Endian.ntohs, Endian.htons, toNat_be16, toNat_hi16, toNat_lo16]
    change (_ ↔ x.toNat = 0) ∧ (_ ↔ x.toNat = 65535)
    omega
  · exact ⟨Iff.rfl, Iff.rfl⟩

/-- The sum of a header without its checksum. -/
def clearedSum (host : Endian) (h : ICMPHeader) : Nat :=
  paddedSum (({ h with checksum := 0 } : ICMPHeader).toMem host)

/-- The object with the checksum computed in place. -/
def stamped (host : Endian) (p : ICMPPacket) : ICMPPacket :=
  { p with header := { p.header with checksum := p.calculateChecksum host } }

/-- The bytes survive exactly when the checksum that was there made no difference. -/
theorem survives_stamped_iff (host : Endian) (p o : ICMPPacket) :
    Survives host (p.stamped host) o ↔ p.header.checksum = 0 ∨
      (p.header.checksum = 0xFFFF ∧ 0 < clearedSum host p.header) := by
  have parsed := parse_serialize host (p.stamped host) o
  have whole : Survives host (p.stamped host) o ↔
      (o.parse host ((p.stamped host).serialize host)).1 = true :=
    ⟨fun h => h.accepted, fun h => ⟨h, by rw [parsed], by rw [parsed], by rw [parsed],
      by rw [parsed]⟩⟩
  have stored : (p.stamped host).header.checksum.toNat =
      65535 - onesFold (clearedSum host p.header + (host.ntohs p.header.checksum).toNat) := by
    rw [stamped, toNat_calculateChecksum, paddedSum_toMem]
    rfl
  have expected : (calculateChecksum host { p.stamped host with
      header := { (p.stamped host).header with checksum := 0 } }).toNat =
      65535 - onesFold (clearedSum host p.header) := by
    rw [toNat_calculateChecksum]
    rfl
  have same := @onesFold_add_word (clearedSum host p.header) (host.ntohs p.header.checksum).toNat
    (Nat.le_of_lt_succ (host.ntohs p.header.checksum).toNat_lt)
  have := onesFold_le (clearedSum host p.header)
  have := onesFold_le (clearedSum host p.header + (host.ntohs p.header.checksum).toNat)
  rw [(toNat_ntohs_eq host _).1, (toNat_ntohs_eq host _).2] at same
  rw [whole, parsed, beq_iff_eq, ← UInt16.toNat_inj, stored, expected, ← same]
  omega

theorem clearedSum_pos_iff (host : Endian) (h : ICMPHeader) :
    0 < clearedSum host h ↔ h.type ≠ 0 ∨ h.code ≠ 0 ∨ h.restOfHeader ≠ 0 := by
  have := h.restOfHeader.toNat_lt
  simp only [ne_eq, ← UInt8.toNat_inj, ← UInt32.toNat_inj, UInt8.toNat_zero, UInt32.toNat_zero]
  cases host <;>
    simp only [clearedSum, ICMPHeader.toMem, Endian.bytes16, Endian.bytes32, List.cons_append,
      List.nil_append, paddedSum, toNat_hi16, toNat_lo16, toNat_hi32, toNat_lo32,
      UInt16.toNat_zero] <;>
    omega

/-- What a call makes of an object, but for the checksum. -/
def draft (host : Endian) (p : ICMPPacket) : Echo → ICMPPacket
  | .request identifier sequence => { p with
      header := { p.header with
        type := 8
        code := 0
        restOfHeader := host.htonl (identifier.toUInt32 <<< 16 ||| sequence.toUInt32) } }
  | .reply request => { p with
      header := { p.header with type := 0, code := 0, restOfHeader := request.header.restOfHeader }
      payload := request.payload }

theorem make_eq (host : Endian) (p : ICMPPacket) (e : Echo) :
    p.make host e = (p.draft host e).stamped host := by
  cases e <;> rfl

/-- After any calls on an object, a message made in it survives exactly when the object held no
checksum, or one of all ones in which the rest of the header does not drown. -/
theorem echo_accepted_iff (host : Endian) (ops : List Op) (e : Echo) (o : ICMPPacket) :
    Survives host ((history host ops).make host e) o ↔ Unstained (history host ops) e := by
  rw [make_eq, survives_stamped_iff, clearedSum_pos_iff]
  cases e with
  | request identifier sequence =>
    have type : (8 : UInt8) ≠ 0 := by decide
    exact or_congr_right (and_iff_left (.inl type))
  | reply request =>
    refine or_congr_right (and_congr_right' ⟨fun h => ?_, fun h => .inr (.inr h)⟩)
    exact (h.resolve_left fun ne => ne rfl).resolve_left fun ne => ne rfl

/-- Two echo requests made in one object: the second is refused. -/
theorem second_request_refused : ¬ Survives .little
    ((history .little [.echo (.request 1 1)]).make .little (.request 1 1)) .new := by
  have left : (history .little [.echo (.request 1 1)]).header.checksum.toNat = 63485 :=
    (toNat_calculateChecksum .little (ICMPPacket.new.draft .little (.request 1 1))).trans
      (by decide)
  rw [make_eq, survives_stamped_iff]
  rintro (zero | ⟨ones, -⟩)
  · cases left.symm.trans (congrArg UInt16.toNat zero)
  · cases left.symm.trans (congrArg UInt16.toNat ones)

end ICMPPacket

end Lwip
