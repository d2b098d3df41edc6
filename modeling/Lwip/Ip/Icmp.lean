import Lwip.Std.Checksum
import Lwip.Std.Endian

/-! `ICMPPacket` of `ip/icmp_packet.hpp` and `ip/icmp_packet.cpp`. The header is kept as it lies
on the wire; only the checksum is computed in host order, over the header alone. -/

namespace Lwip

structure ICMPHeader where
  type : UInt8
  code : UInt8
  checksum : UInt16
  restOfHeader : UInt32
  deriving DecidableEq, Repr

namespace ICMPHeader

/-- `sizeof(ICMPHeader)` -/
def size : Nat := 8

def zero : ICMPHeader := ⟨0, 0, 0, 0⟩

def toMem (host : Endian) (h : ICMPHeader) : Bytes :=
  [h.type, h.code] ++ host.bytes16 h.checksum ++ host.bytes32 h.restOfHeader

/-- The header a `memcpy` from the start of `mem` gives. -/
def ofMem (host : Endian) (mem : Bytes) : ICMPHeader where
  type := mem.getD 0 0
  code := mem.getD 1 0
  checksum := host.load16 mem 2
  restOfHeader := host.load32 mem 4

@[simp] theorem length_toMem (host : Endian) (h : ICMPHeader) : (h.toMem host).length = size := by
  simp [toMem, size]

@[simp] theorem ofMem_toMem_append (host : Endian) (h : ICMPHeader) (rest : Bytes) :
    ofMem host (h.toMem host ++ rest) = h := by
  cases host <;>
    simp [ofMem, toMem, Endian.load16, Endian.load32, Endian.bytes16, Endian.bytes32,
      Endian.word16, Endian.word32, List.getD_eq_getElem?_getD]

end ICMPHeader

structure ICMPPacket where
  header : ICMPHeader
  payload : Bytes
  deriving DecidableEq, Repr

namespace ICMPPacket

/-- `ICMPPacket::ICMPPacket` -/
def new : ICMPPacket := ⟨.zero, []⟩

def getType (p : ICMPPacket) : UInt8 := p.header.type

def calculateChecksum (host : Endian) (p : ICMPPacket) : UInt16 :=
  let sum := addWords (fun a b => host.ntohs (host.word16 a b)) 0 (p.header.toMem host)
  (~~~ foldCarry sum).toUInt16

/-- The checksum is computed with the old one still in the header. -/
def createEchoRequest (host : Endian) (p : ICMPPacket) (identifier sequence : UInt16) :
    Bool × ICMPPacket :=
  let p := { p with
    header := { p.header with
      type := 8
      code := 0
      restOfHeader := host.htonl (identifier.toUInt32 <<< 16 ||| sequence.toUInt32) } }
  (true, { p with header := { p.header with checksum := p.calculateChecksum host } })

/-- Here too. -/
def createEchoReply (host : Endian) (p request : ICMPPacket) : Bool × ICMPPacket :=
  let p := { p with
    header := { p.header with type := 0, code := 0, restOfHeader := request.header.restOfHeader }
    payload := request.payload }
  (true, { p with header := { p.header with checksum := p.calculateChecksum host } })

/-- The result, and the object as the call leaves it. -/
def parse (host : Endian) (p : ICMPPacket) (data : Bytes) : Bool × ICMPPacket :=
  if data.length < ICMPHeader.size then (false, p) else
  let p := { p with header := ICMPHeader.ofMem host data, payload := data.drop ICMPHeader.size }
  let receivedChecksum := p.header.checksum
  let cleared := { p with header := { p.header with checksum := 0 } }
  (receivedChecksum == cleared.calculateChecksum host, p)

def serialize (host : Endian) (p : ICMPPacket) : Bytes := p.header.toMem host ++ p.payload

end ICMPPacket

end Lwip
