import Lwip.Ip.Icmp
import Lwip.Tcp.Manager
import Lwip.Udp.Packet

/-! `StackManager` of `core/stack_manager.hpp` and `core/stack_manager.cpp`: the frames handed to
the interface and the handling of the frames that come from it. A handler ends in a `Fault` where
the source has undefined behaviour or does not return. -/

namespace Lwip

inductive Fault where
  /-- An index outside a vector, or an iterator past its end. -/
  | outOfRange
  /-- A call through the null `interface_`. -/
  | nullInterface
  /-- The search for a local port does not end. -/
  | noReturn
  deriving DecidableEq, Repr

/-! ## Vectors -/

/-- `v[i]` -/
def byteAt (v : Bytes) (i : Nat) : Except Fault UInt8 :=
  match v[i]? with
  | some b => .ok b
  | none => .error .outOfRange

/-- The range from `v.begin() + i` to `v.end()`. -/
def sliceFrom (v : Bytes) (i : Nat) : Except Fault Bytes :=
  if i ≤ v.length then .ok (v.drop i) else .error .outOfRange

/-- The range from `v.begin()` to `v.begin() + n`. -/
def slicePrefix (v : Bytes) (n : Nat) : Except Fault Bytes :=
  if n ≤ v.length then .ok (v.take n) else .error .outOfRange

/-- `std::swap(v[i], v[j])` -/
def swapAt (v : Bytes) (i j : Nat) : Except Fault Bytes := do
  let a ← byteAt v i
  let b ← byteAt v j
  return (v.set i b).set j a

/-! ## The stack -/

structure NetworkInterface where
  /-- `init()` has returned true. -/
  ready : Bool := false
  /-- The frames given to `send_frame`, oldest first. -/
  frames : List Bytes := []
  deriving DecidableEq, Repr

structure StackManager where
  interface : Option NetworkInterface := none
  tcpManager : TCPManager := .new

namespace StackManager

/-- `StackManager::initialize`; `initOk` is what `init()` returns. -/
def initializeWith (s : StackManager) (interface : Option NetworkInterface) (initOk : Bool) :
    Bool × StackManager :=
  match interface with
  | none => (false, s)
  | some interface => (initOk, { s with interface := some { interface with ready := initOk } })

def sendPacket (s : StackManager) (packet : Bytes) : Except Fault StackManager :=
  match s.interface with
  | none => .error .nullInterface
  | some interface =>
    .ok { s with interface := some { interface with frames := interface.frames ++ [packet] } }

/-- The segments that a call on a connection sends, serialized. -/
def sendAll (host : Endian) (s : StackManager) (sent : List TCPPacket) :
    Except Fault StackManager :=
  sent.foldlM (fun s p => s.sendPacket (p.serialize host).1) s

/-- `(packet[0] & 0x0F) * 4` -/
def ipHeaderLen (packet : Bytes) : Except Fault Nat := do
  let b ← byteAt packet 0
  return (b &&& (0x0F : UInt8)).toNat * 4

def handleIcmpPacket (host : Endian) (s : StackManager) (packet : Bytes) :
    Except Fault StackManager := do
  if packet.length < 20 then return s
  let headerLen ← ipHeaderLen packet
  let icmpData ← sliceFrom packet headerLen
  let (parsed, icmp) := ICMPPacket.new.parse host icmpData
  if !parsed then return s
  if icmp.getType = 8 then
    let response := (ICMPPacket.new.createEchoReply host icmp).2
    let ipResponse ← slicePrefix packet headerLen
    let ipResponse ← swapAt ipResponse 12 16
    let ipResponse ← swapAt ipResponse 13 17
    let ipResponse ← swapAt ipResponse 14 18
    let ipResponse ← swapAt ipResponse 15 19
    s.sendPacket (ipResponse ++ response.serialize host)
  else return s

/-- `*(uint32_t*)&packet[16]` -/
def addressWord (host : Endian) (packet : Bytes) : Except Fault UInt32 := do
  let a ← byteAt packet 16
  let b ← byteAt packet 17
  let c ← byteAt packet 18
  let d ← byteAt packet 19
  return host.word32 a b c d

/-- `connection->handle_packet(tcp)`, with what it sends. -/
def deliver (host : Endian) (s : StackManager) (r : ConnRef) (now : Time) (tcp : TCPPacket) :
    Except Fault StackManager :=
  match s.tcpManager.connections.get? r with
  | some conn =>
    let call := conn.handlePacket now tcp
    sendAll host
      { s with tcpManager := { s.tcpManager with
          connections := s.tcpManager.connections.set r call.conn } } call.sent
  | none => .ok s

/-- With the connection whose `handle_packet` was called, if any. `now` is the time of that call
and `isn` the value of `rand()` for a new connection. -/
def handleTcpPacket (host : Endian) (s : StackManager) (now : Time) (isn : UInt32)
    (packet : Bytes) : Except Fault (Option ConnRef × StackManager) := do
  let headerLen ← ipHeaderLen packet
  let tcpData ← sliceFrom packet headerLen
  let (parsed, tcp) := TCPPacket.new.parse host tcpData
  if !parsed then return (none, s)
  let address ← addressWord host packet
  match s.tcpManager.findOrCreateConnection isn (host.ntohl address) tcp.getSourcePort with
  | none => throw .noReturn
  | some (none, tcpManager) => return (none, { s with tcpManager })
  | some (some r, tcpManager) =>
    let s ← deliver host { s with tcpManager } r now tcp
    return (some r, s)

/-- `DNSResolver::handle_query`, which only logs. -/
def handleQuery (s : StackManager) (_packet : UDPPacket) : StackManager := s

def handleUdpPacket (host : Endian) (s : StackManager) (packet : Bytes) :
    Except Fault StackManager := do
  let headerLen ← ipHeaderLen packet
  let udpData ← sliceFrom packet headerLen
  let (parsed, udp) := UDPPacket.new.parse host udpData
  if !parsed then return s
  if udp.getDestPort = 53 then return s.handleQuery udp
  return s

def processIncomingPacket (host : Endian) (s : StackManager) (now : Time) (isn : UInt32)
    (packet : Bytes) : Except Fault StackManager := do
  if packet.length < 20 then return s
  let protocol ← byteAt packet 9
  if protocol = 1 then handleIcmpPacket host s packet
  else if protocol = 6 then
    let (_, s) ← handleTcpPacket host s now isn packet
    return s
  else if protocol = 17 then handleUdpPacket host s packet
  else return s

end StackManager

end Lwip
