import Std.Data.ExtTreeMap
import Lwip.Std.Clock
import Lwip.Std.Loop
import Lwip.Tcp.Packet

/-! `TCPConnection` of `tcp/tcp_connection.hpp` and `tcp/tcp_connection.cpp`. A member function
is a function of the object that gives a `Call`: the value returned, the object afterwards and
the packets handed to `StackManager::send_packet` on the way. What the outside decides is an
argument: the clock (`now`), the value of `rand()` (`isn`) and whether the `k`-th `send_packet`
of the call succeeds (`ok`). -/

namespace Lwip

open Std (ExtTreeMap)

inductive TCPState where
  | closed
  | listen
  | synSent
  | synReceived
  | established
  | finWait1
  | finWait2
  | closeWait
  | closing
  | lastAck
  | timeWait
  deriving DecidableEq, Repr

inductive CongestionState where
  | slowStart
  | congestionAvoidance
  | fastRecovery
  deriving DecidableEq, Repr

/-- `TCPConnection::MSS` -/
def tcpMss : UInt16 := 1460

/-- `TCPConnection::TIMEOUT_SECONDS` -/
def timeoutSeconds : Int := 300

structure WindowControl where
  sendWindow : UInt32 := 65535
  recvWindow : UInt32 := 65535
  cwnd : UInt32 := tcpMss.toUInt32
  ssthresh : UInt32 := 65535
  deriving DecidableEq, Repr

structure RetransmitSegment where
  data : Bytes
  sequenceNumber : UInt32
  sentTime : Time
  retries : Nat := 0
  deriving DecidableEq, Repr

structure TCPConnection where
  state : TCPState
  localSeqNum : UInt32
  remoteSeqNum : UInt32
  localPort : UInt16
  remotePort : UInt16
  remoteIp : UInt32
  lastActivity : Time := 0
  maxSegmentSize : UInt16 := tcpMss
  sendWindowSize : UInt16 := 65535
  nagleEnabled : Bool := true
  timestampsEnabled : Bool := false
  window : WindowControl := {}
  congestionState : CongestionState := .slowStart
  retransmitQueue : List RetransmitSegment := []
  pendingData : Bytes := []
  inFastRecovery : Bool := false
  tcpParams : WindowControl := {}
  receivedData : Bytes := []
  outOfOrderData : ExtTreeMap UInt32 Bytes := ∅
  unackedSegments : List TCPPacket := []

namespace TCPConnection

/-- The outcome of a call of a member function. -/
structure Call (α : Type) where
  ret : α
  conn : TCPConnection
  sent : List TCPPacket := []

/-- `TCPConnection::TCPConnection`; `isn` is the value of `rand()`. -/
def new (isn : UInt32) : TCPConnection where
  state := .closed
  localSeqNum := isn
  remoteSeqNum := 0
  localPort := 0
  remotePort := 0
  remoteIp := 0

def isConnected (c : TCPConnection) : Bool := c.state == .established

def setWindowSize (c : TCPConnection) (size : UInt16) : TCPConnection :=
  { c with sendWindowSize := size }

def setMss (c : TCPConnection) (mss : UInt16) : TCPConnection := { c with maxSegmentSize := mss }

def enableTimestamps (c : TCPConnection) (enable : Bool) : TCPConnection :=
  { c with timestampsEnabled := enable }

def enableNagle (c : TCPConnection) (enable : Bool) : TCPConnection :=
  { c with nagleEnabled := enable }

def setLocalPort (c : TCPConnection) (port : UInt16) : TCPConnection := { c with localPort := port }

def getLocalPort (c : TCPConnection) : UInt16 := c.localPort

/-! ## Opening and closing -/

def synPacket (c : TCPConnection) (remotePort : UInt16) : TCPPacket :=
  ((((TCPPacket.new.setSourcePort c.localPort).setDestPort remotePort).setSequenceNumber
    c.localSeqNum).setFlags tcpFlagSyn).setWindowSize 65535

def connect (c : TCPConnection) (remoteIp : UInt32) (remotePort : UInt16) (ok : Bool) :
    Call Bool :=
  if c.state ≠ .closed then ⟨false, c, []⟩ else
  let c := { c with remoteIp, remotePort }
  let synPacket := c.synPacket remotePort
  if !ok then ⟨false, c, [synPacket]⟩ else
  ⟨true, { c with state := .synSent }, [synPacket]⟩

def close (c : TCPConnection) : TCPConnection :=
  if c.state = .established then { c with state := .finWait1 } else c

/-! ## Sending -/

def unackedData (c : TCPConnection) : Nat := c.unackedSegments.length

/-- The packet that `send_syn_ack` sends. -/
def synAckPacket (c : TCPConnection) : TCPPacket :=
  ((TCPPacket.new.setFlags (tcpFlagSyn ||| tcpFlagAck)).setSequenceNumber
    c.localSeqNum).setAckNumber (c.remoteSeqNum + 1)

/-- The packet that `send_ack` sends. -/
def ackPacket (c : TCPConnection) : TCPPacket :=
  ((TCPPacket.new.setFlags tcpFlagAck).setSequenceNumber c.localSeqNum).setAckNumber
    (c.remoteSeqNum + 1)

/-- The variables of the loop of `send`; the object is one of them. -/
structure Sending where
  offset : Nat
  conn : TCPConnection
  sent : List TCPPacket

/-- `chunk_size` of one turn of the loop of `send`: `rest` bytes are left. -/
def chunkSize (c : TCPConnection) (window rest : Nat) : UInt16 :=
  min (min c.maxSegmentSize (UInt16.ofNat rest)) (UInt16.ofNat window)

def dataPacket (c : TCPConnection) (payload : Bytes) : TCPPacket :=
  ((TCPPacket.new.setSequenceNumber c.localSeqNum).setFlags tcpFlagAck).setPayload payload

/-- The queue entry for a data packet and the step of the sequence number. -/
def pushRetransmit (c : TCPConnection) (payload : Bytes) (now : Time) (chunkSize : Nat) :
    TCPConnection :=
  { c with
    retransmitQueue := c.retransmitQueue ++
      [{ data := payload, sequenceNumber := c.localSeqNum, sentTime := now }]
    localSeqNum := c.localSeqNum + UInt32.ofNat chunkSize }

/-- One turn of `while (offset < data.size())` in `send`. -/
def sendTurn (data : Bytes) (window : Nat) (now : Nat → Time) (ok : Nat → Bool) (s : Sending) :
    Turn Sending (Call Bool) :=
  if s.offset < data.length then
    let chunkSize := (s.conn.chunkSize window (data.length - s.offset)).toNat
    let packet := s.conn.dataPacket ((data.drop s.offset).take chunkSize)
    let sent := s.sent ++ [packet]
    if !ok s.sent.length then .done ⟨false, s.conn, sent⟩ else
    .again ⟨s.offset + chunkSize,
      s.conn.pushRetransmit packet.getPayload (now s.sent.length) chunkSize, sent⟩
  else .done ⟨true, s.conn, s.sent⟩

/-- `none` when `fuel` turns of the loop do not suffice. -/
def send (c : TCPConnection) (data : Bytes) (now : Nat → Time) (ok : Nat → Bool) (fuel : Nat) :
    Option (Call Bool) :=
  if c.state ≠ .established then some ⟨false, c, []⟩ else
  if c.nagleEnabled && decide (c.unackedData > 0) &&
      decide (data.length < c.maxSegmentSize.toNat) then
    some ⟨true, { c with pendingData := c.pendingData ++ data }, []⟩
  else
    let window := min c.tcpParams.sendWindow.toNat
      (c.tcpParams.cwnd * c.maxSegmentSize.toUInt32).toNat
    Loop.run (sendTurn data window now ok) fuel ⟨0, c, []⟩

/-! ## Receiving -/

def processInOrderData (c : TCPConnection) (packet : TCPPacket) : TCPConnection :=
  { c with
    receivedData := c.receivedData ++ packet.getPayload
    remoteSeqNum := c.remoteSeqNum + UInt32.ofNat packet.getPayloadSize }

def storeOutOfOrderData (c : TCPConnection) (packet : TCPPacket) : TCPConnection :=
  { c with
    outOfOrderData := c.outOfOrderData.insert packet.getSequenceNumber packet.getPayload }

def handleData (c : TCPConnection) (packet : TCPPacket) : TCPConnection :=
  if packet.getPayloadSize > 0 then
    if packet.getSequenceNumber = c.remoteSeqNum then c.processInOrderData packet
    else c.storeOutOfOrderData packet
  else c

def updateCongestionControl (c : TCPConnection) (isTimeout : Bool) : TCPConnection :=
  if isTimeout then
    { c with
      window := { c.window with ssthresh := c.window.cwnd / 2, cwnd := tcpMss.toUInt32 }
      congestionState := .slowStart }
  else
    match c.congestionState with
    | .slowStart =>
      if c.window.cwnd ≥ c.window.ssthresh then { c with congestionState := .congestionAvoidance }
      else { c with window := { c.window with cwnd := c.window.cwnd + tcpMss.toUInt32 } }
    | .congestionAvoidance =>
      { c with
        window := { c.window with
          cwnd := c.window.cwnd + tcpMss.toUInt32 * tcpMss.toUInt32 / c.window.cwnd } }
    | .fastRecovery =>
      { c with
        window := { c.window with cwnd := c.window.ssthresh }
        congestionState := .congestionAvoidance }

def updateWindow (c : TCPConnection) (packet : TCPPacket) : TCPConnection :=
  let c := { c with window := { c.window with sendWindow := packet.getWindowSize.toUInt32 } }
  if packet.hasFlag tcpFlagAck then c.updateCongestionControl false else c

/-- `now` is the time of the call. The function always returns `true`. -/
def handlePacket (c : TCPConnection) (now : Time) (packet : TCPPacket) : Call Bool :=
  let c := { c with lastActivity := now }
  match c.state with
  | .closed | .listen =>
    if packet.hasFlag tcpFlagSyn then
      let c := { c with remoteSeqNum := packet.getSequenceNumber }
      ⟨true, { c with state := .synReceived }, [c.synAckPacket]⟩
    else ⟨true, c, []⟩
  | .synSent =>
    if packet.hasFlag (tcpFlagSyn ||| tcpFlagAck) then
      let c := { c with remoteSeqNum := packet.getSequenceNumber + 1 }
      if packet.getAckNumber = c.localSeqNum + 1 then
        let c := { c with localSeqNum := c.localSeqNum + 1 }
        ⟨true, { c with state := .established }, [c.ackPacket]⟩
      else ⟨true, c, []⟩
    else ⟨true, c, []⟩
  | .synReceived =>
    if packet.hasFlag tcpFlagAck then ⟨true, { c with state := .established }, []⟩
    else ⟨true, c, []⟩
  | .established =>
    if packet.hasFlag tcpFlagFin then
      let c := { c with state := .closeWait }
      ⟨true, c, [c.ackPacket]⟩
    else if packet.hasFlag tcpFlagAck then ⟨true, (c.handleData packet).updateWindow packet, []⟩
    else ⟨true, c, []⟩
  | .finWait1 =>
    if packet.hasFlag tcpFlagAck then ⟨true, { c with state := .finWait2 }, []⟩
    else ⟨true, c, []⟩
  | .finWait2 =>
    if packet.hasFlag tcpFlagFin then ⟨true, { c with state := .timeWait }, [c.ackPacket]⟩
    else ⟨true, c, []⟩
  | .closeWait => ⟨true, c, []⟩
  | .closing =>
    if packet.hasFlag tcpFlagAck then ⟨true, { c with state := .timeWait }, []⟩
    else ⟨true, c, []⟩
  | .lastAck =>
    if packet.hasFlag tcpFlagAck then ⟨true, { c with state := .closed }, []⟩
    else ⟨true, c, []⟩
  | .timeWait => ⟨true, c, []⟩

def receive (c : TCPConnection) : Bool × Bytes := (true, c.receivedData)

/-! ## Timeouts -/

/-- Serializing a queued segment for sending writes its header length into it. -/
def retransmitUnackedSegments (c : TCPConnection) : Call Unit :=
  ⟨(), { c with unackedSegments := c.unackedSegments.map TCPPacket.setHeaderLength },
    c.unackedSegments⟩

def handleTimeout (c : TCPConnection) : Call Unit :=
  let c := { c with
    tcpParams := { c.tcpParams with
      ssthresh := max (c.tcpParams.cwnd / 2) 2
      cwnd := tcpMss.toUInt32 }
    inFastRecovery := false }
  if c.state = .established then c.retransmitUnackedSegments else ⟨(), c, []⟩

/-- More than `TIMEOUT_SECONDS` whole seconds since the last activity. -/
def isTimeout (c : TCPConnection) (now : Time) : Bool :=
  decide ((now - c.lastActivity).tdiv second > timeoutSeconds)

end TCPConnection

end Lwip
