import Lwip.Std.Endian

/-! `IPv6Packet` of `ip/ipv6_packet.hpp` and `ip/ipv6_packet.cpp`. Only the payload length is
converted; the first word and the addresses are kept as they lie on the wire. -/

namespace Lwip

structure IPv6Header where
  versionClassFlow : UInt32
  payloadLength : UInt16
  nextHeader : UInt8
  hopLimit : UInt8
  sourceAddress : Vector UInt8 16
  destinationAddress : Vector UInt8 16
  deriving DecidableEq, Repr

namespace IPv6Header

/-- `sizeof(IPv6Header)` -/
def size : Nat := 40

def zero : IPv6Header := ⟨0, 0, 0, 0, .replicate 16 0, .replicate 16 0⟩

def toMem (host : Endian) (h : IPv6Header) : Bytes :=
  host.bytes32 h.versionClassFlow ++ host.bytes16 h.payloadLength ++ [h.nextHeader, h.hopLimit] ++
    h.sourceAddress.toList ++ h.destinationAddress.toList

/-- The header a `memcpy` from the start of `mem` gives. -/
def ofMem (host : Endian) (mem : Bytes) : IPv6Header where
  versionClassFlow := host.load32 mem 0
  payloadLength := host.load16 mem 4
  nextHeader := mem.getD 6 0
  hopLimit := mem.getD 7 0
  sourceAddress := .ofFn fun i => mem.getD (8 + i) 0
  destinationAddress := .ofFn fun i => mem.getD (24 + i) 0

end IPv6Header

structure IPv6Packet where
  header : IPv6Header
  payload : Bytes
  deriving DecidableEq, Repr

namespace IPv6Packet

/-- `IPv6Packet::IPv6Packet` -/
def new (host : Endian) : IPv6Packet :=
  ⟨{ IPv6Header.zero with
      versionClassFlow := host.htonl ((6 : UInt32) <<< (28 : UInt32))
      hopLimit := 64 }, []⟩

def getPayload (p : IPv6Packet) : Bytes := p.payload

/-- The result, and the object as the call leaves it. -/
def parse (host : Endian) (p : IPv6Packet) (rawData : Bytes) : Bool × IPv6Packet :=
  if rawData.length < IPv6Header.size then (false, p) else
  let raw := IPv6Header.ofMem host rawData
  let header := { raw with payloadLength := host.ntohs raw.payloadLength }
  (true, { p with header, payload := rawData.drop IPv6Header.size })

def serialize (host : Endian) (p : IPv6Packet) : Bytes :=
  let netHeader := { p.header with
    payloadLength := host.htons (UInt16.ofNat p.payload.length) }
  netHeader.toMem host ++ p.payload

end IPv6Packet

end Lwip
