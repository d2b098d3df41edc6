import Lwip.Verify.Core.Bounds
import Lwip.Verify.Ip.Icmp

/-! Echo replies. The reply to a frame is made of its IP header with the two addresses exchanged,
which leaves the header's sum as it was, and of an ICMP message with a checksum of its own
(`handleIcmpPacket_eq`). It is accepted as what it is and answered by nobody
(`echo_reply`). -/

namespace Lwip

namespace StackManager

variable {host : Endian} {s : StackManager} {packet : Bytes} {now : Time} {isn : UInt32}

/-! ## The IP header of a reply -/

/-- A header with its source and destination addresses exchanged. -/
def swapAddresses (header : Bytes) : Bytes :=
  header.take 12 ++ ((header.drop 16).take 4 ++ ((header.drop 12).take 4 ++ header.drop 20))

/-- A header is its first 12 bytes, the two addresses and the rest. -/
theorem exists_addresses {header : Bytes} (len : 20 ≤ header.length) :
    ∃ (pre rest : Bytes) (s₀ s₁ s₂ s₃ t₀ t₁ t₂ t₃ : UInt8), pre.length = 12 ∧
      header = pre ++ (s₀ :: s₁ :: s₂ :: s₃ :: t₀ :: t₁ :: t₂ :: t₃ :: rest) := by
  let b (i : Nat) : UInt8 := (header.drop 12).getD i 0
  have eight : (header.drop 12).take 8 = [b 0, b 1, b 2, b 3, b 4, b 5, b 6, b 7] :=
    take_eq_map_getD (by rw [List.length_drop]; omega)
  refine ⟨header.take 12, (header.drop 12).drop 8, b 0, b 1, b 2, b 3, b 4, b 5, b 6, b 7, ?_, ?_⟩
  · rw [List.length_take]
    omega
  · have whole := List.take_append_drop 8 (header.drop 12)
    rw [eight] at whole
    exact (List.take_append_drop 12 header).symm.trans (congrArg _ whole.symm)

theorem swapAddresses_append {pre rest : Bytes} {s₀ s₁ s₂ s₃ t₀ t₁ t₂ t₃ : UInt8}
    (len : pre.length = 12) :
    swapAddresses (pre ++ (s₀ :: s₁ :: s₂ :: s₃ :: t₀ :: t₁ :: t₂ :: t₃ :: rest)) =
      pre ++ (t₀ :: t₁ :: t₂ :: t₃ :: s₀ :: s₁ :: s₂ :: s₃ :: rest) := by
  have drop₁₆ : pre.drop 16 = [] := List.drop_eq_nil_of_le (by omega)
  have drop₂₀ : pre.drop 20 = [] := List.drop_eq_nil_of_le (by omega)
  simp [swapAddresses, len, List.drop_append, drop₁₆, drop₂₀]

theorem swapped_eq_swapAddresses {header : Bytes} (len : 20 ≤ header.length) :
    swapped (swapped (swapped (swapped header 12 16) 13 17) 14 18) 15 19 =
      swapAddresses header := by
  obtain ⟨pre, rest, s₀, s₁, s₂, s₃, t₀, t₁, t₂, t₃, hpre, rfl⟩ := exists_addresses len
  rw [swapAddresses_append hpre]
  simp [swapped, hpre, List.getElem?_append]

/-- Whole words change places, so the sum stays. -/
theorem paddedSum_swapAddresses {header : Bytes} (len : 20 ≤ header.length) :
    paddedSum (swapAddresses header) = paddedSum header := by
  obtain ⟨pre, rest, s₀, s₁, s₂, s₃, t₀, t₁, t₂, t₃, hpre, rfl⟩ := exists_addresses len
  have even : pre.length % 2 = 0 := by rw [hpre]
  rw [swapAddresses_append hpre, paddedSum_append even, paddedSum_append even]
  simp only [paddedSum]
  omega

theorem length_swapAddresses {header : Bytes} (len : 20 ≤ header.length) :
    (swapAddresses header).length = header.length := by
  simp only [swapAddresses, List.length_append, List.length_take, List.length_drop]
  omega

/-- Nothing before the addresses is touched. -/
theorem getD_swapAddresses {header : Bytes} (len : 20 ≤ header.length) {i : Nat} (h : i < 12) :
    (swapAddresses header).getD i 0 = header.getD i 0 := by
  have room : i < (header.take 12).length := by
    rw [List.length_take]
    omega
  rw [swapAddresses, List.getD_append _ _ _ _ room, List.getD_eq_getElem?_getD,
    List.getElem?_take_of_lt h, List.getD_eq_getElem?_getD]

/-! ## The reply -/

/-- The message that a frame carries, as `ICMPPacket::parse` takes it. -/
def icmpMessage (host : Endian) (packet : Bytes) : ICMPPacket :=
  (ICMPPacket.new.parse host (packet.drop (headerLen packet))).2

/-- What is sent in answer to a frame. -/
def echoReply (host : Endian) (packet : Bytes) : Bytes :=
  swapAddresses (packet.take (headerLen packet)) ++
    (ICMPPacket.new.createEchoReply host (icmpMessage host packet)).2.serialize host

theorem length_take_headerLen (len : headerLen packet ≤ packet.length) :
    (packet.take (headerLen packet)).length = headerLen packet := by
  rw [List.length_take]
  omega

theorem handleIcmpPacket_eq (ihl : 20 ≤ headerLen packet) (len : headerLen packet ≤ packet.length) :
    (EchoRequest host (packet.drop (headerLen packet)) →
      handleIcmpPacket host s packet = s.sendPacket (echoReply host packet)) ∧
    (¬ EchoRequest host (packet.drop (headerLen packet)) →
      handleIcmpPacket host s packet = .ok s) := by
  have room := length_take_headerLen len
  rw [handleIcmpPacket, if_neg (by omega), access_ipHeaderLen.1 (by omega), ok_bind,
    access_sliceFrom.1 len, ok_bind]
  dsimp only
  refine ⟨fun echo => ?_, fun other => ?_⟩
  · rw [echo.1, if_neg (by simp), if_pos echo.2, access_slicePrefix.1 len, ok_bind,
      access_swapAt.1 (by omega), ok_bind, access_swapAt.1 (by simp only [length_swapped]; omega),
      ok_bind, access_swapAt.1 (by simp only [length_swapped]; omega), ok_bind,
      access_swapAt.1 (by simp only [length_swapped]; omega), ok_bind,
      swapped_eq_swapAddresses (by omega)]
    rfl
  · split
    · rfl
    · rename_i parsed
      rw [if_neg fun type => other ⟨by simpa using parsed, type⟩]
      rfl

theorem processIncomingPacket_icmp (proto : packet.getD 9 0 = 1) (len : 20 ≤ packet.length) :
    processIncomingPacket host s now isn packet = handleIcmpPacket host s packet := by
  rw [processIncomingPacket, if_neg (by omega), access_byteAt.1 (by omega), ok_bind, if_pos proto]

/-- A reply parses back to what it was made as. -/
theorem parse_createEchoReply (host : Endian) (request q : ICMPPacket) :
    q.parse host ((ICMPPacket.new.createEchoReply host request).2.serialize host) =
      (true, (ICMPPacket.new.createEchoReply host request).2) := by
  rw [ICMPPacket.parse_serialize, Prod.mk.injEq, beq_iff_eq]
  exact ⟨rfl, rfl⟩

section

variable (ihl : 20 ≤ headerLen packet) (len : headerLen packet ≤ packet.length)

include ihl len

theorem length_echoHeader :
    (swapAddresses (packet.take (headerLen packet))).length = headerLen packet := by
  have room := length_take_headerLen len
  rw [length_swapAddresses (by omega), room]

theorem take_echoReply (host : Endian) : (echoReply host packet).take (headerLen packet) =
    swapAddresses (packet.take (headerLen packet)) := by
  have swapLen := length_echoHeader ihl len
  rw [echoReply, List.take_append_of_le_length (by omega), List.take_of_length_le (by omega)]

theorem drop_echoReply (host : Endian) : (echoReply host packet).drop (headerLen packet) =
    (ICMPPacket.new.createEchoReply host (icmpMessage host packet)).2.serialize host := by
  have swapLen := length_echoHeader ihl len
  rw [echoReply, List.drop_append_of_le_length (by omega), List.drop_eq_nil_of_le (by omega),
    List.nil_append]

theorem getD_echoReply (host : Endian) {i : Nat} (h : i < 12) :
    (echoReply host packet).getD i 0 = packet.getD i 0 := by
  have room := length_take_headerLen len
  have swapLen := length_echoHeader ihl len
  rw [echoReply, List.getD_append _ _ _ _ (by omega), getD_swapAddresses (by omega) h,
    List.getD_eq_getElem?_getD, List.getElem?_take_of_lt (by omega), List.getD_eq_getElem?_getD]

theorem headerLen_echoReply (host : Endian) :
    headerLen (echoReply host packet) = headerLen packet := by
  rw [headerLen, getD_echoReply ihl len host (by omega), headerLen]

theorem parse_echoReply (host : Endian) :
    ICMPPacket.new.parse host ((echoReply host packet).drop (headerLen packet)) =
      (true, (ICMPPacket.new.createEchoReply host (icmpMessage host packet)).2) := by
  rw [drop_echoReply ihl len, parse_createEchoReply]

theorem length_echoReply (echo : EchoRequest host (packet.drop (headerLen packet))) :
    (echoReply host packet).length = packet.length := by
  obtain ⟨eight, payload⟩ := ICMPPacket.payload_of_accepted echo.1
  have reply : (ICMPPacket.new.createEchoReply host (icmpMessage host packet)).2.payload =
      (packet.drop (headerLen packet)).drop 8 := payload
  rw [echoReply, List.length_append, length_echoHeader ihl len, ICMPPacket.serialize,
    List.length_append, ICMPHeader.length_toMem, ICMPHeader.size, reply]
  simp only [List.length_drop] at eight ⊢
  omega

end

/-- `reply` is an echo reply to the echo request in the frame `packet`: the same frame going back,
with a message that holds what the request held. -/
structure Answers (host : Endian) (packet reply : Bytes) : Prop where
  length : reply.length = packet.length
  headerLen : headerLen reply = headerLen packet
  header : reply.take (StackManager.headerLen packet) =
    swapAddresses (packet.take (StackManager.headerLen packet))
  sum : onesFold (paddedSum (reply.take (StackManager.headerLen packet))) =
    onesFold (paddedSum (packet.take (StackManager.headerLen packet)))
  valid : ChecksumValid (reply.take (StackManager.headerLen packet)) ↔
    ChecksumValid (packet.take (StackManager.headerLen packet))
  accepted : (ICMPPacket.new.parse host (reply.drop (StackManager.headerLen packet))).1 = true
  type : (icmpMessage host reply).header.type = 0
  code : (icmpMessage host reply).header.code = 0
  restOfHeader : (icmpMessage host reply).header.restOfHeader =
    (icmpMessage host packet).header.restOfHeader
  payload : (icmpMessage host reply).payload = (icmpMessage host packet).payload
  silent : ∀ (s : StackManager) (now : Time) (isn : UInt32),
    processIncomingPacket host s now isn reply = .ok s

theorem answers_echoReply (proto : packet.getD 9 0 = 1) (ihl : 20 ≤ headerLen packet)
    (len : headerLen packet ≤ packet.length)
    (echo : EchoRequest host (packet.drop (headerLen packet))) :
    Answers host packet (echoReply host packet) := by
  have header := take_echoReply ihl len host
  have sameLen := headerLen_echoReply ihl len host
  have parsed := parse_echoReply ihl len host
  have length := length_echoReply ihl len echo
  have room := length_take_headerLen len
  have sum : paddedSum (swapAddresses (packet.take (headerLen packet))) =
      paddedSum (packet.take (headerLen packet)) := paddedSum_swapAddresses (by omega)
  have icmp : icmpMessage host (echoReply host packet) =
      (ICMPPacket.new.createEchoReply host (icmpMessage host packet)).2 := by
    rw [icmpMessage, sameLen, parsed]
  refine ⟨length, sameLen, header, ?_, ?_, ?_, ?_, ?_, ?_, ?_, fun s now isn => ?_⟩
  · rw [header, sum]
  · rw [ChecksumValid, ChecksumValid, header, sum]
  · rw [parsed]
  · rw [icmp]
    rfl
  · rw [icmp]
    rfl
  · rw [icmp]
    rfl
  · rw [icmp]
    rfl
  · have front := getD_echoReply ihl len host (i := 9) (by omega)
    rw [processIncomingPacket_icmp (by rw [front, proto]) (by omega)]
    refine (handleIcmpPacket_eq (by omega) (by omega)).2 fun again => ?_
    rw [EchoRequest, sameLen, parsed] at again
    have type : (0 : UInt8) = 8 := again.2
    cases type

/-- A frame that carries an echo request is answered with one frame, a reply to it, and any other
ICMP frame with none. -/
theorem echo_reply {interface : NetworkInterface} (up : s.interface = some interface)
    (proto : packet.getD 9 0 = 1) (ihl : 20 ≤ headerLen packet)
    (len : headerLen packet ≤ packet.length) (now : Time) (isn : UInt32) :
    (EchoRequest .little (packet.drop (headerLen packet)) →
      ∃ reply, Answers .little packet reply ∧
        processIncomingPacket .little s now isn packet = .ok { s with
          interface := some { interface with frames := interface.frames ++ [reply] } }) ∧
    (¬ EchoRequest .little (packet.drop (headerLen packet)) →
      processIncomingPacket .little s now isn packet = .ok s) := by
  rw [processIncomingPacket_icmp proto (by omega)]
  obtain ⟨answered, ignored⟩ := @handleIcmpPacket_eq .little s packet ihl len
  refine ⟨fun echo => ⟨_, answers_echoReply proto ihl len echo, ?_⟩, ignored⟩
  rw [answered echo, sendPacket, up]

/-- An echo request without payload, with the checksum that the code asks for. -/
def pingFrame : Bytes :=
  [0x45, 0, 0, 28, 0, 0, 0, 0, 64, 1, 0, 0, 10, 0, 0, 2, 10, 0, 0, 1, 8, 0, 0xFD, 0xF7, 0, 1, 0, 1]

theorem echo_reply_pingFrame : ∃ reply, Answers .little pingFrame reply ∧
    processIncomingPacket .little { interface := some { ready := true } } 1 7 pingFrame =
      .ok { interface := some { ready := true, frames := [reply] } } := by
  have echo : EchoRequest .little (pingFrame.drop (headerLen pingFrame)) :=
    ⟨(ICMPPacket.parse_eq (by decide) _).mpr (by decide), by decide⟩
  exact (echo_reply (s := { interface := some { ready := true } }) rfl (by decide) (by decide)
    (by decide) 1 7).1 echo

end StackManager

end Lwip
