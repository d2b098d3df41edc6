import Lwip.Ip.Icmp
import Lwip.Verify.Ip.Ipv6Packet
import Lwip.Verify.Ip.Packet
import Lwip.Verify.Tcp.Codec
import Lwip.Verify.Udp.Packet

/-! What the packet classes have in common. `parse` works on an object that may hold an earlier
packet, and a header that states more bytes than there are lets `IPPacket` and `TCPPacket` accept
the block and keep the payload they had (`reused_object_iff`). The length that a header declares
delimits nothing (`padding_is_payload`). `UDPPacket` and `IPv6Packet` lose nothing between the wire
and the object (`udp_ipv6_codecs`). -/

namespace Lwip

/-! ## Objects used again -/

/-- Two calls of `parse` that cannot be told apart: the same answer and, when it is yes, the same
header and the same payload in the object. -/
structure SameParse {P H : Type} (header : P → H) (payload : P → Bytes) (r r' : Bool × P) :
    Prop where
  accepted : r.1 = r'.1
  header : r.1 = true → header r.2 = header r'.2
  payload : r.1 = true → payload r.2 = payload r'.2

namespace SameParse

variable {P H : Type} {header : P → H} {payload : P → Bytes} {p q : P}

theorem refused : SameParse header payload (false, p) (false, q) :=
  ⟨rfl, (fun yes => by cases yes), fun yes => by cases yes⟩

theorem taken (same : header p = header q) (same' : payload p = payload q) :
    SameParse header payload (true, p) (true, q) :=
  ⟨rfl, fun _ => same, fun _ => same'⟩

/-- A parse that keeps the payload of the object it is called on where there is none to take. -/
theorem keeps_iff {short fits : Prop} [Decidable short] [Decidable fits] {t t' k k' : P}
    (headers : header t = header t' ∧ header k = header k') (payloads : payload t = payload t')
    (keeps : payload k = payload p ∧ payload k' = payload q) :
    SameParse header payload
        (if short then (false, p) else if fits then (true, t) else (true, k))
        (if short then (false, q) else if fits then (true, t') else (true, k')) ↔
      short ∨ fits ∨ payload p = payload q := by
  by_cases hs : short
  · rw [if_pos hs, if_pos hs]
    exact iff_of_true .refused (.inl hs)
  · rw [if_neg hs, if_neg hs]
    by_cases hf : fits
    · rw [if_pos hf, if_pos hf]
      exact iff_of_true (.taken headers.1 payloads) (.inr (.inl hf))
    · rw [if_neg hf, if_neg hf, ← keeps.1, ← keeps.2, or_iff_right hs, or_iff_right hf]
      exact ⟨fun same => same.payload rfl, .taken headers.2⟩

end SameParse

variable {host : Endian} {raw : Bytes}

theorem IPPacket.sameParse_iff (p q : IPPacket) :
    SameParse IPPacket.header IPPacket.payload (p.parse host raw) (q.parse host raw) ↔
      raw.length < 20 ∨ 4 * IPPacket.wireIhl raw ≤ raw.length ∨ p.payload = q.payload := by
  have stated : ((IPHeader.ofMem host raw).versionIhl &&& (0x0F : UInt8)).toNat * 4 =
      4 * IPPacket.wireIhl raw := Nat.mul_comm _ _
  rw [IPPacket.parse, IPPacket.parse]
  dsimp only
  rw [stated]
  exact SameParse.keeps_iff ⟨rfl, rfl⟩ rfl ⟨rfl, rfl⟩

theorem TCPPacket.sameParse_iff (p q : TCPPacket) :
    SameParse TCPPacket.header TCPPacket.payload (p.parse host raw) (q.parse host raw) ↔
      raw.length < 20 ∨ TCPPacket.headerLength (host.load16 raw 12) ≤ raw.length ∨
        p.payload = q.payload := by
  rw [TCPPacket.parse, TCPPacket.parse]
  exact SameParse.keeps_iff ⟨rfl, rfl⟩ rfl ⟨rfl, rfl⟩

theorem IPv6Packet.sameParse (p q : IPv6Packet) :
    SameParse IPv6Packet.header IPv6Packet.payload (p.parse host raw) (q.parse host raw) := by
  rw [IPv6Packet.parse, IPv6Packet.parse]
  split
  · exact .refused
  · exact .taken rfl rfl

theorem UDPPacket.sameParse (p q : UDPPacket) :
    SameParse UDPPacket.header UDPPacket.payload (p.parse host raw) (q.parse host raw) := by
  rw [UDPPacket.parse, UDPPacket.parse]
  split
  · exact .refused
  · exact .taken rfl rfl

theorem ICMPPacket.sameParse (p q : ICMPPacket) :
    SameParse ICMPPacket.header ICMPPacket.payload (p.parse host raw) (q.parse host raw) := by
  rw [ICMPPacket.parse, ICMPPacket.parse]
  split
  · exact .refused
  · exact ⟨rfl, fun _ => rfl, fun _ => rfl⟩

/-- What an object held before shows after a parse only when the block states a header longer than
itself, and then as the payload of an `IPPacket` or a `TCPPacket`. -/
theorem reused_object_iff (host : Endian) (raw : Bytes) :
    (∀ p q : IPPacket,
      SameParse IPPacket.header IPPacket.payload (p.parse host raw) (q.parse host raw) ↔
        raw.length < 20 ∨ 4 * IPPacket.wireIhl raw ≤ raw.length ∨ p.payload = q.payload) ∧
    (∀ p q : TCPPacket,
      SameParse TCPPacket.header TCPPacket.payload (p.parse host raw) (q.parse host raw) ↔
        raw.length < 20 ∨ TCPPacket.headerLength (host.load16 raw 12) ≤ raw.length ∨
          p.payload = q.payload) ∧
    (∀ p q : IPv6Packet,
      SameParse IPv6Packet.header IPv6Packet.payload (p.parse host raw) (q.parse host raw)) ∧
    (∀ p q : UDPPacket,
      SameParse UDPPacket.header UDPPacket.payload (p.parse host raw) (q.parse host raw)) ∧
    ∀ p q : ICMPPacket,
      SameParse ICMPPacket.header ICMPPacket.payload (p.parse host raw) (q.parse host raw) :=
  ⟨IPPacket.sameParse_iff, TCPPacket.sameParse_iff, IPv6Packet.sameParse, UDPPacket.sameParse,
    ICMPPacket.sameParse⟩

/-- Twenty bytes whose first states a header of sixty. -/
def overlongHeader : Bytes := 0x4F :: List.replicate 19 0

/-- The payload of an earlier packet, taken for that of a later one. -/
theorem stale_payload_kept :
    IPPacket.new.parse .little overlongHeader =
      (true, ⟨IPHeader.ofMem .little overlongHeader, []⟩) ∧
    (IPPacket.new.setPayload [1]).parse .little overlongHeader =
      (true, ⟨IPHeader.ofMem .little overlongHeader, [1]⟩) ∧
    ¬ SameParse IPPacket.header IPPacket.payload (IPPacket.new.parse .little overlongHeader)
      ((IPPacket.new.setPayload [1]).parse .little overlongHeader) := by
  have fresh : IPPacket.new.parse .little overlongHeader =
      (true, ⟨IPHeader.ofMem .little overlongHeader, []⟩) := by decide
  have reused : (IPPacket.new.setPayload [1]).parse .little overlongHeader =
      (true, ⟨IPHeader.ofMem .little overlongHeader, [1]⟩) := by decide
  refine ⟨fresh, reused, fun same => ?_⟩
  have leaked := same.payload (by rw [fresh])
  rw [fresh, reused] at leaked
  cases leaked

/-! ## Padding -/

/-- The end of the buffer is the end of the packet: padding is payload, whatever length the header
declares. -/
theorem padding_is_payload (host : Endian) (t : Bytes) :
    (∀ p : IPPacket, p.Built → ∀ o : IPPacket,
      (o.parse host (p.serialize host ++ t)).1 = true ∧
      (o.parse host (p.serialize host ++ t)).2.getPayload =
        (o.parse host (p.serialize host)).2.getPayload ++ t) ∧
    ∀ p : UDPPacket, p.Built → ∀ o : UDPPacket,
      (o.parse host (p.serialize host ++ t)).1 = true ∧
      (o.parse host (p.serialize host ++ t)).2.getPayload =
        (o.parse host (p.serialize host)).2.getPayload ++ t := by
  constructor
  · intro p built o
    rw [IPPacket.parse_serialize_append built.versionIhl, IPPacket.parse_serialize built.versionIhl]
    exact ⟨rfl, rfl⟩
  · intro p _ o
    rw [UDPPacket.parse_serialize_append, UDPPacket.parse_serialize]
    exact ⟨rfl, rfl⟩

/-- A packet without payload, padded by one byte. -/
theorem padding_not_cut :
    (IPPacket.new.Built ∧ (IPPacket.new.serialize .little).length = 20 ∧
      (IPPacket.new.parse .little (IPPacket.new.serialize .little)).2.getPayload = [] ∧
      (IPPacket.new.parse .little (IPPacket.new.serialize .little ++ [0])).2.getPayload = [0]) ∧
    UDPPacket.new.Built ∧ (UDPPacket.new.serialize .little).length = 8 ∧
      (UDPPacket.new.parse .little (UDPPacket.new.serialize .little)).2.getPayload = [] ∧
      (UDPPacket.new.parse .little (UDPPacket.new.serialize .little ++ [0])).2.getPayload =
        [0] := by
  refine ⟨⟨.new, ?_, ?_, ?_⟩, .new, rfl, ?_, ?_⟩
  · rw [IPPacket.length_serialize]
    rfl
  · rw [IPPacket.parse_serialize rfl]
    rfl
  · rw [IPPacket.parse_serialize_append rfl]
    rfl
  · rw [UDPPacket.parse_serialize]
    rfl
  · rw [UDPPacket.parse_serialize_append]
    rfl

/-! ## Between object and wire -/

/-- A datagram made by the constructor and the setters comes back from its bytes; bytes that are
parsed go out again, but for the fields that `serialize` computes. -/
theorem udp_ipv6_codecs (host : Endian) :
    (∀ p : UDPPacket, p.Built → p.payload.length ≤ 65527 → ∀ o : UDPPacket, ∃ q,
      o.parse host (p.serialize host) = (true, q) ∧ q.getSourcePort = p.getSourcePort ∧
        q.getDestPort = p.getDestPort ∧ q.getPayload = p.getPayload ∧
        q.header.length.toNat = 8 + p.payload.length) ∧
    (∀ w : Bytes, 8 ≤ w.length → w.length ≤ 65535 → ∀ o : UDPPacket, ∃ q checksum,
      o.parse host w = (true, q) ∧ checksum.length = 2 ∧
        q.serialize host = w.take 4 ++ (bigEndian16 w.length ++ (checksum ++ w.drop 8))) ∧
    ∀ w : Bytes, 40 ≤ w.length → w.length ≤ 65575 → ∀ o : IPv6Packet, ∃ q,
      o.parse host w = (true, q) ∧
        q.serialize host = w.take 4 ++ (bigEndian16 (w.length - 40) ++ w.drop 6) := by
  refine ⟨fun p _ fits o => ?_, fun w len fits o => ?_, fun w len fits o => ?_⟩
  · refine ⟨_, UDPPacket.parse_serialize host p o, rfl, rfl, rfl, ?_⟩
    exact UInt16.toNat_ofNat_of_lt' (by simp only [UDPHeader.size, UInt16.size]; omega)
  · obtain ⟨accepted, sent⟩ := UDPPacket.serialize_parse host len (by omega) o
    exact ⟨_, _, Prod.ext accepted rfl, host.length_bytes16 _, sent⟩
  · obtain ⟨accepted, sent⟩ := IPv6Packet.serialize_parse host len fits o
    exact ⟨_, Prod.ext accepted rfl, sent⟩

theorem udp_ipv6_codecs_threeBytes : ∃ q,
    UDPPacket.new.parse .little (UDPPacket.threeBytes.serialize .little) = (true, q) ∧
      q.getSourcePort = 1234 ∧ q.getDestPort = 5678 ∧ q.getPayload = [1, 2, 3] ∧
      q.header.length.toNat = 11 :=
  (udp_ipv6_codecs .little).1 UDPPacket.threeBytes
    (.setPayload (.setDestPort (.setSourcePort .new _) _) _) (by decide) .new

end Lwip
