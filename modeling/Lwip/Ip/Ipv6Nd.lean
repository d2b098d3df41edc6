import Std.Data.ExtTreeMap
import Lwip.Std.Clock
import Lwip.Ip.Ipv6Packet

/-! `IPv6NeighborDiscovery` of `ip/ipv6_nd.hpp` and `ip/ipv6_nd.cpp`. The file has two structures
`NDMessage`: one inside `send_neighbor_solicitation`, with the reserved bytes, and one at its top
without them, which `handle_neighbor_advertisement` reads. -/

namespace Lwip

open Std (ExtTreeMap)

abbrev IPv6Address := Vector UInt8 16

abbrev MacAddress := Vector UInt8 6

instance : Std.TransOrd IPv6Address := inferInstanceAs (Std.TransOrd (Vector UInt8 16))

/-- `NDMessage` of `send_neighbor_solicitation` -/
structure SolicitationMessage where
  type : UInt8 := 135
  code : UInt8 := 0
  checksum : UInt16 := 0
  reserved : UInt32 := 0
  targetAddress : IPv6Address
  deriving DecidableEq, Repr

namespace SolicitationMessage

def toMem (host : Endian) (m : SolicitationMessage) : Bytes :=
  [m.type, m.code] ++ host.bytes16 m.checksum ++ host.bytes32 m.reserved ++ m.targetAddress.toList

end SolicitationMessage

/-- `NDMessage` at the top of the file -/
structure NDMessage where
  type : UInt8
  code : UInt8
  checksum : UInt16
  targetAddress : IPv6Address
  deriving DecidableEq, Repr

namespace NDMessage

/-- `sizeof(NDMessage)` -/
def size : Nat := 20

/-- The message that the bytes at the start of `mem` are. -/
def ofMem (host : Endian) (mem : Bytes) : NDMessage where
  type := mem.getD 0 0
  code := mem.getD 1 0
  checksum := host.load16 mem 2
  targetAddress := .ofFn fun i => mem.getD (4 + i) 0

end NDMessage

structure NeighborEntry where
  macAddress : MacAddress
  timestamp : Time
  isReachable : Bool
  deriving DecidableEq, Repr

/-- `NEIGHBOR_TIMEOUT`, 20 minutes -/
def neighborTimeout : Time := 20 * 60 * second

structure IPv6NeighborDiscovery where
  neighbors : ExtTreeMap IPv6Address NeighborEntry := ∅

namespace IPv6NeighborDiscovery

/-- The result, and the message that is built; it is not sent. -/
def sendNeighborSolicitation (targetAddr : IPv6Address) : Bool × SolicitationMessage :=
  (true, { targetAddress := targetAddr })

/-- The address of the entry is not set; `mac` is what its memory holds. -/
def handleNeighborAdvertisement (host : Endian) (nd : IPv6NeighborDiscovery) (now : Time)
    (mac : MacAddress) (packet : IPv6Packet) : IPv6NeighborDiscovery :=
  let payload := packet.getPayload
  if payload.length < NDMessage.size then nd else
  let message := NDMessage.ofMem host payload
  if message.type = 136 then
    let entry : NeighborEntry := { macAddress := mac, timestamp := now, isReachable := true }
    { nd with neighbors := nd.neighbors.insert message.targetAddress entry }
  else nd

/-- The result, what the caller's `mac` holds after the call, and the object as it leaves it. -/
def lookupNeighbor (nd : IPv6NeighborDiscovery) (now : Time) (ip : IPv6Address) (mac : MacAddress) :
    Bool × MacAddress × IPv6NeighborDiscovery :=
  match nd.neighbors[ip]? with
  | some entry =>
    if now - entry.timestamp ≤ neighborTimeout then (true, entry.macAddress, nd)
    else (false, mac, { nd with neighbors := nd.neighbors.erase ip })
  | none => (false, mac, nd)

end IPv6NeighborDiscovery

end Lwip
