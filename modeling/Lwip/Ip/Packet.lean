import Lwip.Std.Endian
import Lwip.Std.Checksum

/-! `IPPacket` of `ip/ip_packet.hpp` and `ip/ip_packet.cpp`. The addresses are kept in network
order all the time; `parse` and `serialize` do not convert them. -/

namespace Lwip

structure IPHeader where
  versionIhl : UInt8
  typeOfService : UInt8
  totalLength : UInt16
  identification : UInt16
  flagsFragmentOffset : UInt16
  timeToLive : UInt8
  protocol : UInt8
  headerChecksum : UInt16
  sourceAddress : UInt32
  destinationAddress : UInt32
  deriving DecidableEq, Repr

namespace IPHeader

/-- `sizeof(IPHeader)` -/
def size : Nat := 20

def zero : IPHeader := ⟨0, 0, 0, 0, 0, 0, 0, 0, 0, 0⟩

def toMem (host : Endian) (h : IPHeader) : Bytes :=
  [h.versionIhl, h.typeOfService] ++ host.bytes16 h.totalLength ++
    host.bytes16 h.identification ++ host.bytes16 h.flagsFragmentOffset ++
    [h.timeToLive, h.protocol] ++ host.bytes16 h.headerChecksum ++
    host.bytes32 h.sourceAddress ++ host.bytes32 h.destinationAddress

/-- The header a `memcpy` from the start of `mem` gives. -/
def ofMem (host : Endian) (mem : Bytes) : IPHeader where
  versionIhl := mem.getD 0 0
  typeOfService := mem.getD 1 0
  totalLength := host.load16 mem 2
  identification := host.load16 mem 4
  flagsFragmentOffset := host.load16 mem 6
  timeToLive := mem.getD 8 0
  protocol := mem.getD 9 0
  headerChecksum := host.load16 mem 10
  sourceAddress := host.load32 mem 12
  destinationAddress := host.load32 mem 16

@[simp] theorem length_toMem (host : Endian) (h : IPHeader) : (h.toMem host).length = size := by
  simp [toMem, size]

@[simp] theorem ofMem_toMem_append (host : Endian) (h : IPHeader) (rest : Bytes) :
    ofMem host (h.toMem host ++ rest) = h := by
  cases host <;>
    simp [ofMem, toMem, Endian.load16, Endian.load32, Endian.bytes16, Endian.bytes32,
      Endian.word16, Endian.word32, List.getD_eq_getElem?_getD]

end IPHeader

structure IPPacket where
  header : IPHeader
  payload : Bytes
  deriving DecidableEq, Repr

namespace IPPacket

/-- `IPPacket::IPPacket` -/
def new : IPPacket := ⟨{ IPHeader.zero with versionIhl := 0x45, timeToLive := 64 }, []⟩

def setPayload (p : IPPacket) (data : Bytes) : IPPacket := { p with payload := data }

def setAddresses (p : IPPacket) (src dst : UInt32) : IPPacket :=
  { p with header := { p.header with sourceAddress := src, destinationAddress := dst } }

def setFragmentOffset (p : IPPacket) (offset : UInt16) : IPPacket :=
  { p with
    header := { p.header with
      flagsFragmentOffset :=
        (p.header.flagsFragmentOffset &&& (0xE000 : UInt16)) ||| (offset &&& (0x1FFF : UInt16)) } }

def setMoreFragments (p : IPPacket) (more : Bool) : IPPacket :=
  { p with
    header := { p.header with
      flagsFragmentOffset :=
        if more then p.header.flagsFragmentOffset ||| (0x2000 : UInt16)
        else p.header.flagsFragmentOffset &&& ~~~ (0x2000 : UInt16) } }

def getFragmentOffset (p : IPPacket) : UInt16 := p.header.flagsFragmentOffset &&& (0x1FFF : UInt16)

def getPayload (p : IPPacket) : Bytes := p.payload

def calculateHeaderChecksum (host : Endian) (p : IPPacket) : UInt16 :=
  let sum := addWords (fun a b => host.ntohs (host.word16 a b)) 0 (p.header.toMem host)
  (~~~ foldCarry sum).toUInt16

def serialize (host : Endian) (p : IPPacket) : Bytes :=
  let netHeader := { p.header with
    totalLength := host.htons (UInt16.ofNat (IPHeader.size + p.payload.length))
    identification := host.htons p.header.identification
    flagsFragmentOffset := host.htons p.header.flagsFragmentOffset
    headerChecksum := p.calculateHeaderChecksum host }
  netHeader.toMem host ++ p.payload

/-- The result, and the object as the call leaves it. -/
def parse (host : Endian) (p : IPPacket) (rawData : Bytes) : Bool × IPPacket :=
  if rawData.length < IPHeader.size then (false, p) else
  let raw := IPHeader.ofMem host rawData
  let header := { raw with
    totalLength := host.ntohs raw.totalLength
    identification := host.ntohs raw.identification
    flagsFragmentOffset := host.ntohs raw.flagsFragmentOffset
    headerChecksum := host.ntohs raw.headerChecksum }
  let headerSize := (header.versionIhl &&& (0x0F : UInt8)).toNat * 4
  if rawData.length ≥ headerSize then (true, { p with header, payload := rawData.drop headerSize })
  else (true, { p with header })

end IPPacket

end Lwip
