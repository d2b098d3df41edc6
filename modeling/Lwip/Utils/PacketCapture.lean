import Lwip.Std.Endian

/-! `PacketCapture` of `utils/packet_capture.hpp` and `utils/packet_capture.cpp`. A capture reads
the system clock once; that reading is its argument `now`, in nanoseconds since the epoch. -/

namespace Lwip

/-- `PacketCapture::PcapHeader` -/
structure PcapHeader where
  magicNumber : UInt32 := 0xa1b2c3d4
  versionMajor : UInt16 := 2
  versionMinor : UInt16 := 4
  thiszone : Int32 := 0
  sigfigs : UInt32 := 0
  snaplen : UInt32 := 65535
  network : UInt32 := 1
  deriving DecidableEq

namespace PcapHeader

/-- `sizeof(PcapHeader)` -/
def size : Nat := 24

def toMem (host : Endian) (h : PcapHeader) : Bytes :=
  host.bytes32 h.magicNumber ++ host.bytes16 h.versionMajor ++ host.bytes16 h.versionMinor ++
    host.bytes32 h.thiszone.toUInt32 ++ host.bytes32 h.sigfigs ++ host.bytes32 h.snaplen ++
    host.bytes32 h.network

end PcapHeader

/-- The structure `pcap_pkthdr` of `capture_packet` -/
structure PcapPkthdr where
  tsSec : UInt32
  tsUsec : UInt32
  inclLen : UInt32
  origLen : UInt32
  deriving DecidableEq

namespace PcapPkthdr

/-- `sizeof(pcap_pkthdr)` -/
def size : Nat := 16

def toMem (host : Endian) (h : PcapPkthdr) : Bytes :=
  host.bytes32 h.tsSec ++ host.bytes32 h.tsUsec ++ host.bytes32 h.inclLen ++
    host.bytes32 h.origLen

end PcapPkthdr

/-- The contents of `file_`; `none` when it is not open. -/
structure PacketCapture where
  file : Option Bytes

namespace PacketCapture

/-- `PacketCapture::PacketCapture`; the argument `opened` says whether the file can be opened. -/
def new (host : Endian) (opened : Bool) : PacketCapture :=
  if opened then ⟨some (PcapHeader.toMem host {})⟩ else ⟨none⟩

end PacketCapture

end Lwip
