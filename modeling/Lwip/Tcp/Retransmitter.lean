import Mathlib.Algebra.Order.Ring.Unbundled.Rat
import Lwip.Std.Clock
import Lwip.Tcp.Packet

/-! `TCPRetransmitter` of `tcp/tcp_retransmitter.hpp` and `tcp/tcp_retransmitter.cpp`. The numbers
that the source keeps in `double` are rational here; `now` is the reading of the clock that a call
begins with. -/

namespace Lwip

/-- The count of `TCPRetransmitter::RTO_MIN`, in milliseconds. -/
def rtoMinCount : Int := 200

/-- The count of `TCPRetransmitter::RTO_MAX`, in seconds. -/
def rtoMaxCount : Int := 120

/-- `TCPRetransmitter::Segment`; the timeout is in milliseconds. -/
structure Segment where
  packet : TCPPacket
  sendTime : Time
  timeout : Int
  retries : Nat := 0
  deriving DecidableEq, Repr

structure TCPRetransmitter where
  srtt : Rat := 0
  rttvar : Rat := 0
  rto : Rat := 1000
  segments : List Segment := []
  /-- A callback is set. -/
  retransmitCallback : Bool := false

namespace TCPRetransmitter

/-- `static_cast<int>` cuts the fraction off. -/
def calculateRto (t : TCPRetransmitter) : Int := t.rto.num.tdiv t.rto.den

def updateRto (t : TCPRetransmitter) (rtt : Rat) : TCPRetransmitter :=
  let t :=
    if t.srtt = 0 then { t with srtt := rtt, rttvar := rtt / 2 }
    else
      { t with
        rttvar := 3 / 4 * t.rttvar + 1 / 4 * |t.srtt - rtt|
        srtt := 7 / 8 * t.srtt + 1 / 8 * rtt }
  let rto := t.srtt + 4 * t.rttvar
  let rto := max rto (rtoMinCount : Rat)
  let rto := min rto (rtoMaxCount : Rat)
  { t with rto }

def addSegment (t : TCPRetransmitter) (now : Time) (packet : TCPPacket) : TCPRetransmitter :=
  { t with
    segments := t.segments ++ [{ packet, sendTime := now, timeout := t.calculateRto }] }

/-- The test of `handle_ack`. The sum is one of `size_t`. -/
def acked (ackNumber : UInt32) (packet : TCPPacket) : Bool :=
  decide (packet.getSequenceNumber.toNat + packet.getPayloadSize ≤ ackNumber.toNat)

def handleAck (t : TCPRetransmitter) (now : Time) (ackNumber : UInt32) : TCPRetransmitter :=
  let t := { t with segments := t.segments.filter fun s => !acked ackNumber s.packet }
  match t.segments with
  | [] => t
  | first :: _ => t.updateRto (((now - first.sendTime : Int) : Rat) / (second : Rat) * 1000)

/-- More than the timeout has gone by since the segment was sent. -/
def Segment.due (now : Time) (s : Segment) : Bool :=
  decide (now - s.sendTime > s.timeout * millisecond)

/-- One turn of the loop of `check_timeouts`; `calls` holds the packets that the callback has been
given, `done` the segments that the loop has left behind. -/
def checkTurn (now : Time) (callback : Bool) (done : List TCPPacket × List Segment) (s : Segment) :
    List TCPPacket × List Segment :=
  if Segment.due now s then
    let s := { s with retries := s.retries + 1, timeout := s.timeout * 2, sendTime := now }
    (if callback then done.1 ++ [s.packet] else done.1, done.2 ++ [s])
  else (done.1, done.2 ++ [s])

/-- The packets given to the callback, and the object as the call leaves it. -/
def checkTimeouts (t : TCPRetransmitter) (now : Time) : List TCPPacket × TCPRetransmitter :=
  let done := t.segments.foldl (checkTurn now t.retransmitCallback) ([], [])
  (done.1, { t with segments := done.2 })

end TCPRetransmitter

end Lwip
