import Lwip.Std.Endian
import Lwip.Std.Checksum

/-! `TCPPacket` of `tcp/tcp_packet.hpp` and `tcp/tcp_packet.cpp`. A header is kept in host order
and lies in memory as `TCPHeader.toMem`; `parse` and `serialize` copy that image from and to the
wire and convert some of its fields. -/

namespace Lwip

def tcpFlagFin : UInt16 := 0x0001
def tcpFlagSyn : UInt16 := 0x0002
def tcpFlagRst : UInt16 := 0x0004
def tcpFlagPsh : UInt16 := 0x0008
def tcpFlagAck : UInt16 := 0x0010
def tcpFlagUrg : UInt16 := 0x0020

structure TCPHeader where
  sourcePort : UInt16
  destPort : UInt16
  sequenceNumber : UInt32
  ackNumber : UInt32
  flags : UInt16
  windowSize : UInt16
  checksum : UInt16
  urgentPointer : UInt16
  deriving DecidableEq, Repr

namespace TCPHeader

/-- `sizeof(TCPHeader)` -/
def size : Nat := 20

def zero : TCPHeader := ⟨0, 0, 0, 0, 0, 0, 0, 0⟩

def toMem (host : Endian) (h : TCPHeader) : Bytes :=
  host.bytes16 h.sourcePort ++ host.bytes16 h.destPort ++ host.bytes32 h.sequenceNumber ++
    host.bytes32 h.ackNumber ++ host.bytes16 h.flags ++ host.bytes16 h.windowSize ++
    host.bytes16 h.checksum ++ host.bytes16 h.urgentPointer

/-- The header a `memcpy` from the start of `mem` gives. -/
def ofMem (host : Endian) (mem : Bytes) : TCPHeader where
  sourcePort := host.load16 mem 0
  destPort := host.load16 mem 2
  sequenceNumber := host.load32 mem 4
  ackNumber := host.load32 mem 8
  flags := host.load16 mem 12
  windowSize := host.load16 mem 14
  checksum := host.load16 mem 16
  urgentPointer := host.load16 mem 18

@[simp] theorem length_toMem (host : Endian) (h : TCPHeader) : (h.toMem host).length = size := by
  simp [toMem, size]

@[simp] theorem ofMem_toMem_append (host : Endian) (h : TCPHeader) (rest : Bytes) :
    ofMem host (h.toMem host ++ rest) = h := by
  cases host <;>
    simp [ofMem, toMem, Endian.load16, Endian.load32, Endian.bytes16, Endian.bytes32,
      Endian.word16, Endian.word32, List.getD_eq_getElem?_getD]

end TCPHeader

structure TCPOptions where
  mss : UInt16 := 1460
  windowScale : UInt8 := 0
  timestampsEnabled : Bool := false
  deriving DecidableEq, Repr

structure TCPPacket where
  header : TCPHeader
  payload : Bytes
  options : TCPOptions
  deriving DecidableEq, Repr

namespace TCPPacket

/-- `TCPPacket::TCPPacket` -/
def new : TCPPacket := ⟨.zero, [], {}⟩

def setMss (p : TCPPacket) (mss : UInt16) : TCPPacket :=
  { p with options := { p.options with mss } }

def setWindowScale (p : TCPPacket) (scale : UInt8) : TCPPacket :=
  { p with options := { p.options with windowScale := scale } }

def enableTimestamps (p : TCPPacket) (enable : Bool) : TCPPacket :=
  { p with options := { p.options with timestampsEnabled := enable } }

def setPayload (p : TCPPacket) (data : Bytes) : TCPPacket := { p with payload := data }

def setSourcePort (p : TCPPacket) (port : UInt16) : TCPPacket :=
  { p with header := { p.header with sourcePort := port } }

def setDestPort (p : TCPPacket) (port : UInt16) : TCPPacket :=
  { p with header := { p.header with destPort := port } }

def setSequenceNumber (p : TCPPacket) (seq : UInt32) : TCPPacket :=
  { p with header := { p.header with sequenceNumber := seq } }

def setAckNumber (p : TCPPacket) (ack : UInt32) : TCPPacket :=
  { p with header := { p.header with ackNumber := ack } }

def setFlags (p : TCPPacket) (flags : UInt16) : TCPPacket :=
  { p with header := { p.header with flags } }

def setWindowSize (p : TCPPacket) (size : UInt16) : TCPPacket :=
  { p with header := { p.header with windowSize := size } }

def getPayload (p : TCPPacket) : Bytes := p.payload
def getPayloadSize (p : TCPPacket) : Nat := p.payload.length
def getSourcePort (p : TCPPacket) : UInt16 := p.header.sourcePort
def getDestPort (p : TCPPacket) : UInt16 := p.header.destPort
def getSequenceNumber (p : TCPPacket) : UInt32 := p.header.sequenceNumber
def getAckNumber (p : TCPPacket) : UInt32 := p.header.ackNumber
def getFlags (p : TCPPacket) : UInt16 := p.header.flags
def getWindowSize (p : TCPPacket) : UInt16 := p.header.windowSize

/-- `get_flags() & flag`, as a condition -/
def hasFlag (p : TCPPacket) (flag : UInt16) : Bool := p.getFlags &&& flag != 0

theorem hasFlag_of_flags {p : TCPPacket} {flags : UInt16} (h : p.getFlags = flags)
    (flag : UInt16) : p.hasFlag flag = (flags &&& flag != 0) := by
  rw [hasFlag, h]

/-- The options length of `serialize`, padded to a multiple of 4. -/
def optionsLen (p : TCPPacket) : Nat :=
  let len := (if p.options.mss ≠ 0 then 4 else 0) + (if p.options.windowScale ≠ 0 then 3 else 0) +
    (if p.options.timestampsEnabled then 10 else 0)
  len + (4 - len % 4) % 4

/-- What `serialize` does to the object it is called on: it writes the header length, in words
of 4 bytes, over the top 4 bits of the flags. -/
def setHeaderLength (p : TCPPacket) : TCPPacket :=
  let headerLen := TCPHeader.size + p.optionsLen
  p.setFlags ((p.getFlags &&& (0x0FFF : UInt16)) |||
    (UInt16.ofNat (headerLen / 4) <<< (12 : UInt16)))

/-- The pseudo header that the function fills in takes no part in the sum. -/
def calculateChecksum (host : Endian) (p : TCPPacket) : UInt16 :=
  let sum := addWords (fun a b => host.ntohs (host.word16 a b)) 0 (p.header.toMem host)
  let sum := addWords be16 sum p.payload
  let sum :=
    if p.payload.length % 2 = 1 then sum + (p.payload.getLastD 0).toUInt32 <<< 8 else sum
  (~~~ foldCarry sum).toUInt16

/-- The bytes, and the object as the call leaves it. -/
def serialize (host : Endian) (p : TCPPacket) : Bytes × TCPPacket :=
  let p := p.setHeaderLength
  let netHeader := { p.header with
    sourcePort := host.htons p.header.sourcePort
    destPort := host.htons p.header.destPort
    sequenceNumber := host.htonl p.header.sequenceNumber
    ackNumber := host.htonl p.header.ackNumber
    windowSize := host.htons p.header.windowSize
    checksum := p.calculateChecksum host }
  (netHeader.toMem host ++ p.payload, p)

/-- The result, and the object as the call leaves it. -/
def parse (host : Endian) (p : TCPPacket) (rawData : Bytes) : Bool × TCPPacket :=
  if rawData.length < TCPHeader.size then (false, p) else
  let raw := TCPHeader.ofMem host rawData
  let header := { raw with
    sourcePort := host.ntohs raw.sourcePort
    destPort := host.ntohs raw.destPort
    sequenceNumber := host.ntohl raw.sequenceNumber
    ackNumber := host.ntohl raw.ackNumber
    windowSize := host.ntohs raw.windowSize }
  let headerLen := (header.flags >>> (12 : UInt16)).toNat * 4
  if rawData.length ≥ headerLen then (true, { p with header, payload := rawData.drop headerLen })
  else (true, { p with header })

/-- The result, and the object as the call leaves it: the checksum field is cleared for the
computation and put back. -/
def verifyChecksum (host : Endian) (p : TCPPacket) : Bool × TCPPacket :=
  let savedChecksum := p.header.checksum
  let cleared := { p with header := { p.header with checksum := 0 } }
  let calculated := cleared.calculateChecksum host
  (savedChecksum == calculated,
    { cleared with header := { cleared.header with checksum := savedChecksum } })

end TCPPacket

end Lwip
