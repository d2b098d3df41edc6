import Lwip.Std.Endian
import Lwip.Std.Checksum

/-! `UDPPacket` of `udp/udp_packet.hpp` and `udp/udp_packet.cpp`. The header is kept in host order;
its length field is set by `parse` alone, `serialize` computes the length for the wire. -/

namespace Lwip

structure UDPHeader where
  sourcePort : UInt16
  destPort : UInt16
  length : UInt16
  checksum : UInt16
  deriving DecidableEq, Repr

namespace UDPHeader

/-- `sizeof(UDPHeader)` -/
def size : Nat := 8

def zero : UDPHeader := ⟨0, 0, 0, 0⟩

def toMem (host : Endian) (h : UDPHeader) : Bytes :=
  host.bytes16 h.sourcePort ++ host.bytes16 h.destPort ++ host.bytes16 h.length ++
    host.bytes16 h.checksum

/-- The header a `memcpy` from the start of `mem` gives. -/
def ofMem (host : Endian) (mem : Bytes) : UDPHeader where
  sourcePort := host.load16 mem 0
  destPort := host.load16 mem 2
  length := host.load16 mem 4
  checksum := host.load16 mem 6

@[simp] theorem length_toMem (host : Endian) (h : UDPHeader) : (h.toMem host).length = size := by
  simp [toMem, size]

@[simp] theorem ofMem_toMem_append (host : Endian) (h : UDPHeader) (rest : Bytes) :
    ofMem host (h.toMem host ++ rest) = h := by
  cases host <;>
    simp [ofMem, toMem, Endian.load16, Endian.bytes16, Endian.word16, List.getD_eq_getElem?_getD]

end UDPHeader

structure UDPPacket where
  header : UDPHeader
  payload : Bytes
  deriving DecidableEq, Repr

namespace UDPPacket

/-- `UDPPacket::UDPPacket` -/
def new : UDPPacket := ⟨.zero, []⟩

def getSourcePort (p : UDPPacket) : UInt16 := p.header.sourcePort

def getDestPort (p : UDPPacket) : UInt16 := p.header.destPort

def getPayload (p : UDPPacket) : Bytes := p.payload

def setPayload (p : UDPPacket) (data : Bytes) : UDPPacket := { p with payload := data }

def setSourcePort (p : UDPPacket) (port : UInt16) : UDPPacket :=
  { p with header := { p.header with sourcePort := port } }

def setDestPort (p : UDPPacket) (port : UInt16) : UDPPacket :=
  { p with header := { p.header with destPort := port } }

/-- The result, and the object as the call leaves it. -/
def parse (host : Endian) (p : UDPPacket) (rawData : Bytes) : Bool × UDPPacket :=
  if rawData.length < UDPHeader.size then (false, p) else
  let raw := UDPHeader.ofMem host rawData
  let header := { raw with
    sourcePort := host.ntohs raw.sourcePort
    destPort := host.ntohs raw.destPort
    length := host.ntohs raw.length }
  (true, { p with header, payload := rawData.drop UDPHeader.size })

/-- The ports go into the sum as one word of 32 bits, and the length as the header has it. -/
def calculateChecksum (host : Endian) (p : UDPPacket) : UInt16 :=
  let sum := p.header.sourcePort.toUInt32 <<< 16 ||| p.header.destPort.toUInt32
  let sum := sum + p.header.length.toUInt32
  let sum := addWords (fun a b => host.ntohs (host.word16 a b)) sum p.payload
  let sum :=
    if p.payload.length % 2 = 1 then sum + (p.payload.getLastD 0).toUInt32 <<< 8 else sum
  (~~~ foldCarry sum).toUInt16

def serialize (host : Endian) (p : UDPPacket) : Bytes :=
  let netHeader := { p.header with
    sourcePort := host.htons p.header.sourcePort
    destPort := host.htons p.header.destPort
    length := host.htons (UInt16.ofNat (UDPHeader.size + p.payload.length))
    checksum := p.calculateChecksum host }
  netHeader.toMem host ++ p.payload

end UDPPacket

end Lwip
