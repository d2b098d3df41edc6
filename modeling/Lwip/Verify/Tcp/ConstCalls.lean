import Lwip.Verify.Tcp.Checksum

/-! The const member functions of a segment, called one after the other. `verify_checksum` puts back
what it writes; `serialize` leaves its header length in the flags. From then on the flags and the
checksum are those of another segment, unless the length was there before (`independent_iff`). -/

namespace Lwip

namespace TCPPacket

/-! ## Calls -/

/-- The const member functions. -/
inductive Const where
  | serialize
  | verifyChecksum
  | calculateChecksum
  | getPayload
  | getPayloadSize
  | getSourcePort
  | getDestPort
  | getSequenceNumber
  | getAckNumber
  | getFlags
  | getWindowSize
  deriving DecidableEq, Repr

/-- What a call returns. -/
inductive Answer where
  | bytes (data : Bytes)
  | bool (yes : Bool)
  | word16 (value : UInt16)
  | word32 (value : UInt32)
  | size (n : Nat)
  deriving DecidableEq, Repr

/-- The answer, and the object as the call leaves it. -/
def exec (host : Endian) (p : TCPPacket) : Const → Answer × TCPPacket
  | .serialize => (.bytes (p.serialize host).1, (p.serialize host).2)
  | .verifyChecksum => (.bool (p.verifyChecksum host).1, (p.verifyChecksum host).2)
  | .calculateChecksum => (.word16 (p.calculateChecksum host), p)
  | .getPayload => (.bytes p.getPayload, p)
  | .getPayloadSize => (.size p.getPayloadSize, p)
  | .getSourcePort => (.word16 p.getSourcePort, p)
  | .getDestPort => (.word16 p.getDestPort, p)
  | .getSequenceNumber => (.word32 p.getSequenceNumber, p)
  | .getAckNumber => (.word32 p.getAckNumber, p)
  | .getFlags => (.word16 p.getFlags, p)
  | .getWindowSize => (.word16 p.getWindowSize, p)

/-- The answers to a sequence of calls. -/
def answers (host : Endian) (p : TCPPacket) : List Const → List Answer
  | [] => []
  | call :: calls => (p.exec host call).1 :: answers host (p.exec host call).2 calls

/-- Each call is answered as if it were the first. -/
def Independent (host : Endian) (p : TCPPacket) (calls : List Const) : Prop :=
  p.answers host calls = calls.map fun call => (p.exec host call).1

/-- The top four bits of the flags are the header length already. -/
def Settled (p : TCPPacket) : Prop := headerLength p.getFlags = TCPHeader.size + p.optionsLen

/-- The segment without its checksum. -/
def cleared (p : TCPPacket) : TCPPacket := { p with header := { p.header with checksum := 0 } }

/-- The checksum field is the complement of the sum of header and payload, which is kept in 32
bits. -/
def ChecksumRight (host : Endian) (p : TCPPacket) : Prop :=
  p.header.checksum.toNat +
    onesFold ((paddedSum (p.cleared.header.toMem host) + paddedSum p.payload) % 2 ^ 32) = 65535

/-- The call tells a segment from the one with its header length set. -/
def Shows (host : Endian) (p : TCPPacket) : Const → Prop
  | .getFlags | .calculateChecksum => True
  | .verifyChecksum => ChecksumRight host p ∨ ChecksumRight host p.setHeaderLength
  | _ => False

variable {host : Endian} {p : TCPPacket} {call : Const} {calls : List Const}

/-! ## The header length -/

theorem flags_setHeaderLength : p.setHeaderLength.getFlags = p.getFlags ↔ Settled p := by
  have value := toNat_flags_setHeaderLength p
  have mod := p.optionsLen_mod
  have size : TCPHeader.size = 20 := rfl
  rw [getFlags, getFlags, ← UInt16.toNat_inj, value, Settled, toNat_headerLength, getFlags]
  omega

theorem settled_iff : Settled p ↔ p.setHeaderLength = p := by
  rw [← flags_setHeaderLength]
  constructor
  · intro same
    change p.setFlags p.setHeaderLength.getFlags = p
    rw [same]
    rfl
  · intro same
    rw [same]

theorem settled_setHeaderLength (p : TCPPacket) : Settled p.setHeaderLength :=
  headerLength_setHeaderLength p

theorem setHeaderLength_setHeaderLength (p : TCPPacket) :
    p.setHeaderLength.setHeaderLength = p.setHeaderLength :=
  settled_iff.mp p.settled_setHeaderLength

/-- The flags make up one word of the header. -/
theorem paddedSum_toMem_flags (host : Endian) (h : TCPHeader) (flags : UInt16) :
    paddedSum (({ h with flags } : TCPHeader).toMem host) + paddedSum (host.bytes16 h.flags) =
      paddedSum (h.toMem host) + paddedSum (host.bytes16 flags) := by
  cases host <;>
    simp only [TCPHeader.toMem, Endian.bytes16, Endian.bytes32, paddedSum, List.cons_append,
      List.nil_append] <;> omega

/-- The header length counts 16 times or 4096 times in the sum. -/
theorem paddedSum_setHeaderLength (host : Endian) (p : TCPPacket) :
    paddedSum (p.setHeaderLength.header.toMem host) +
        (if host = .little then 16 else 4096) * (p.header.flags.toNat / 4096) =
      paddedSum (p.header.toMem host) +
        (if host = .little then 16 else 4096) * ((TCPHeader.size + p.optionsLen) / 4) := by
  have value := toNat_flags_setHeaderLength p
  have sum := paddedSum_toMem_flags host p.header p.setHeaderLength.header.flags
  change paddedSum (p.setHeaderLength.header.toMem host) + _ = _ at sum
  generalize (TCPHeader.size + p.optionsLen) / 4 = length at *
  cases host <;> simp only [Endian.bytes16, paddedSum, toNat_hi16, toNat_lo16, if_true] at sum ⊢
  · omega
  · rw [if_neg (by decide)]
    omega

/-- A header length that is not the one there before changes the sum. -/
theorem calculateChecksum_setHeaderLength :
    p.setHeaderLength.calculateChecksum host = p.calculateChecksum host ↔ Settled p := by
  constructor
  · intro same
    have mod := p.optionsLen_mod
    have le := p.optionsLen_le
    have lt := p.header.flags.toNat_lt
    have sum := paddedSum_setHeaderLength host p
    have size : TCPHeader.size = 20 := rfl
    have bound := onesFold_le ((paddedSum (p.header.toMem host) + paddedSum p.payload) % 2 ^ 32)
    have bound' := onesFold_le
      ((paddedSum (p.setHeaderLength.header.toMem host) + paddedSum p.payload) % 2 ^ 32)
    rw [← UInt16.toNat_inj, toNat_calculateChecksum_mod, toNat_calculateChecksum_mod] at same
    change 65535 - onesFold ((_ + paddedSum p.payload) % _) = _ at same
    rw [Settled, toNat_headerLength, getFlags]
    rcases Nat.lt_trichotomy (paddedSum (p.setHeaderLength.header.toMem host))
      (paddedSum (p.header.toMem host)) with less | equal | more
    · refine absurd ?_ (onesFold_wrapped_ne (Nat.add_lt_add_right less (paddedSum p.payload)) ?_)
      · omega
      · split at sum <;> omega
    · split at sum <;> omega
    · refine absurd ?_ (onesFold_wrapped_ne (Nat.add_lt_add_right more (paddedSum p.payload)) ?_)
      · omega
      · split at sum <;> omega
  · intro settled
    rw [settled_iff.mp settled]

/-! ## One call -/

theorem serialize_setHeaderLength (host : Endian) (p : TCPPacket) :
    p.setHeaderLength.serialize host = p.serialize host := by
  rw [serialize, serialize, setHeaderLength_setHeaderLength]

theorem verifyChecksum_eq (host : Endian) (p : TCPPacket) :
    (p.verifyChecksum host).1 = (p.header.checksum == p.cleared.calculateChecksum host) := rfl

theorem verifyChecksum_iff : (p.verifyChecksum host).1 = true ↔ ChecksumRight host p := by
  have le := onesFold_le ((paddedSum (p.cleared.header.toMem host) + paddedSum p.payload) % 2 ^ 32)
  rw [verifyChecksum_eq, beq_iff_eq, ← UInt16.toNat_inj, toNat_calculateChecksum_mod, ChecksumRight]
  change _ = 65535 - onesFold ((_ + paddedSum p.payload) % _) ↔ _
  omega

theorem cleared_setHeaderLength (p : TCPPacket) :
    p.setHeaderLength.cleared = p.cleared.setHeaderLength := rfl

theorem checksum_setHeaderLength (p : TCPPacket) :
    p.setHeaderLength.header.checksum = p.header.checksum := rfl

theorem settled_cleared : Settled p.cleared ↔ Settled p := .rfl

/-- The checksum is right for one header length only. -/
theorem not_both_right (not : ¬ Settled p) (right : ChecksumRight host p) :
    ¬ ChecksumRight host p.setHeaderLength := by
  intro right'
  have stored := verifyChecksum_iff.mpr right
  have stored' := verifyChecksum_iff.mpr right'
  rw [verifyChecksum_eq, beq_iff_eq] at stored stored'
  rw [cleared_setHeaderLength, checksum_setHeaderLength, stored] at stored'
  exact not (settled_cleared.mp (calculateChecksum_setHeaderLength.mp stored'.symm))

theorem verifyChecksum_setHeaderLength :
    (p.setHeaderLength.verifyChecksum host).1 = (p.verifyChecksum host).1 ↔
      Settled p ∨ ¬ (ChecksumRight host p ∨ ChecksumRight host p.setHeaderLength) := by
  rw [Bool.eq_iff_iff, verifyChecksum_iff, verifyChecksum_iff]
  by_cases settled : Settled p
  · rw [settled_iff.mp settled]
    exact iff_of_true .rfl (.inl settled)
  · have one : ChecksumRight host p → ¬ ChecksumRight host p.setHeaderLength :=
      not_both_right settled
    tauto

/-- A call answers alike before and after the header length is set. -/
theorem exec_setHeaderLength_iff : (p.setHeaderLength.exec host call).1 = (p.exec host call).1 ↔
    Settled p ∨ ¬ Shows host p call := by
  cases call with
  | serialize =>
    rw [exec, exec, serialize_setHeaderLength]
    exact iff_of_true rfl (.inr id)
  | verifyChecksum =>
    rw [exec, exec, Shows, Answer.bool.injEq, verifyChecksum_setHeaderLength]
  | calculateChecksum =>
    rw [exec, exec, Shows, Answer.word16.injEq, calculateChecksum_setHeaderLength]
    simp
  | getFlags =>
    rw [exec, exec, Shows, Answer.word16.injEq, flags_setHeaderLength]
    simp
  | getPayload | getPayloadSize | getSourcePort | getDestPort | getSequenceNumber | getAckNumber
  | getWindowSize => exact iff_of_true rfl (.inr id)

/-! ## Sequences of calls -/

/-- Only `serialize` writes something that stays. -/
theorem exec_object (ne : call ≠ .serialize) : (p.exec host call).2 = p := by
  cases call with
  | serialize => exact absurd rfl ne
  | _ => rfl

theorem answers_settled (settled : Settled p) : Independent host p calls := by
  induction calls with
  | nil => rfl
  | cons call calls ih =>
    have object : (p.exec host call).2 = p := by
      by_cases first : call = .serialize
      · rw [first]
        exact settled_iff.mp settled
      · exact exec_object first
    rw [Independent, answers, List.map_cons, object, ih]

theorem answers_setHeaderLength (host : Endian) (p : TCPPacket) (calls : List Const) :
    p.setHeaderLength.answers host calls =
      calls.map fun call => (p.setHeaderLength.exec host call).1 :=
  answers_settled p.settled_setHeaderLength

/-- Each call of a sequence is answered as if it were the first exactly when the flags state the
header length already, or none of the calls from the first `serialize` on shows it. -/
theorem independent_iff (host : Endian) (p : TCPPacket) (calls : List Const) :
    Independent host p calls ↔
      Settled p ∨ ∀ call ∈ calls.dropWhile (· != .serialize), ¬ Shows host p call := by
  induction calls with
  | nil => exact iff_of_true rfl (.inr fun _ mem => by cases mem)
  | cons call calls ih =>
    by_cases first : call = .serialize
    · subst first
      have rest : Independent host p (.serialize :: calls) ↔
          ∀ call ∈ calls, (p.setHeaderLength.exec host call).1 = (p.exec host call).1 := by
        rw [Independent, answers, List.map_cons, List.cons.injEq, eq_self_iff_true, true_and]
        change p.setHeaderLength.answers host calls = _ ↔ _
        rw [answers_setHeaderLength, List.map_inj_left]
      have silent : ¬ Shows host p .serialize := id
      rw [rest, List.dropWhile_cons_of_neg (by simp), List.forall_mem_cons]
      simp only [exec_setHeaderLength_iff]
      by_cases settled : Settled p
      · exact iff_of_true (fun _ _ => .inl settled) (.inl settled)
      · simp only [settled, false_or, silent, not_false_eq_true, true_and]
    · have rest : Independent host p (call :: calls) ↔ Independent host p calls := by
        rw [Independent, answers, List.map_cons, exec_object first, List.cons.injEq,
          eq_self_iff_true, true_and, Independent]
      rw [rest, ih, List.dropWhile_cons_of_pos (by simpa using first)]

/-- The default segment has an MSS option, and flags of zero until it is serialized. -/
theorem flags_show_serialize : TCPPacket.new.answers .little [.getFlags, .serialize, .getFlags] =
      [.word16 0, .bytes (TCPPacket.new.serialize .little).1, .word16 0x6000] ∧
    ¬ Independent .little .new [.getFlags, .serialize, .getFlags] := by
  have run : TCPPacket.new.answers .little [.getFlags, .serialize, .getFlags] =
      [.word16 0, .bytes (TCPPacket.new.serialize .little).1, .word16 0x6000] := rfl
  refine ⟨run, fun same => ?_⟩
  rw [Independent, run] at same
  have last := congrArg (·[2]?) same
  cases last

end TCPPacket

end Lwip
