import Std.Data.ExtTreeMap
import Lwip.Std.Clock
import Lwip.Std.Loop
import Lwip.Std.Slice
import Lwip.Ip.Packet

/-! `IPFragmenter` of `ip/ip_fragmenter.hpp` and `ip/ip_fragmenter.cpp`. What is cut into
fragments is a whole serialized packet, its header included, and what is put together again is
parsed as one. -/

namespace Lwip

open Std (ExtTreeMap)

structure FragmentInfo where
  data : Bytes
  received : Bool := false
  timestamp : Time
  deriving DecidableEq, Repr

structure IPFragmenter where
  fragments : ExtTreeMap UInt16 FragmentInfo := ∅

namespace IPFragmenter

/-! ## Cutting -/

/-- `(mtu - header_size) & ~7`, in `size_t` -/
def fragmentSize (mtu : UInt16) : Nat := (mtu.toNat + 2 ^ 64 - IPHeader.size) % 2 ^ 64 / 8 * 8

/-- The fragment made of `data` from `offset` on. -/
def fragmentAt (data : Bytes) (offset size : Nat) (isLast : Bool) : IPPacket :=
  ((IPPacket.new.setFragmentOffset (UInt16.ofNat (offset / 8))).setMoreFragments
    (!isLast)).setPayload ((data.drop offset).take size)

/-- The variables of the loop of `fragment_packet`. -/
structure Cutting where
  offset : Nat
  fragments : List IPPacket

/-- One turn of `while (offset < data.size())` in `fragment_packet`; the sum is one of `size_t`. -/
def cutTurn (data : Bytes) (mtu : UInt16) (s : Cutting) : Turn Cutting (List IPPacket) :=
  if s.offset < data.length then
    let isLast := decide ((s.offset + fragmentSize mtu) % 2 ^ 64 ≥ data.length)
    let currentSize := if isLast then data.length - s.offset else fragmentSize mtu
    .again ⟨s.offset + currentSize, s.fragments ++ [fragmentAt data s.offset currentSize isLast]⟩
  else .done s.fragments

/-- `none` when `fuel` turns of the loop do not suffice. -/
def fragmentPacket (host : Endian) (packet : IPPacket) (mtu : UInt16) (fuel : Nat) :
    Option (List IPPacket) :=
  Loop.run (cutTurn (packet.serialize host) mtu) fuel ⟨0, []⟩

/-! ## Putting together -/

/-- `expected_size` of `is_complete`: the largest end of a stored fragment. -/
def expectedSize (f : IPFragmenter) : Nat :=
  f.fragments.foldl (fun n offset info => max n (offset.toNat + info.data.length)) 0

def isComplete (f : IPFragmenter) : Bool :=
  if f.fragments.isEmpty then false else
  if f.fragments.toList.any fun e => !e.2.received then false else
  decide (f.expectedSize > 0)

/-- The key of `fragments_` that a fragment is stored under: its offset in bytes. -/
def offsetKey (fragment : IPPacket) : UInt16 := fragment.getFragmentOffset * 8

/-- The result, and the object as the call leaves it; `now` is the time of the call. -/
def addFragment (f : IPFragmenter) (now : Time) (fragment : IPPacket) : Bool × IPFragmenter :=
  let f : IPFragmenter := ⟨f.fragments.insert (offsetKey fragment)
    { data := fragment.getPayload, received := true, timestamp := now }⟩
  (f.isComplete, f)

/-- More than 60 seconds old. -/
def expired (now : Time) (info : FragmentInfo) : Bool := decide (now - info.timestamp > 60 * second)

def cleanupTimeoutFragments (f : IPFragmenter) (now : Time) : IPFragmenter :=
  ⟨f.fragments.filter fun _ info => !expired now info⟩

/-- `MAX_FRAGMENTS` -/
def maxFragments : Nat := 1000

def cleanup (f : IPFragmenter) (now : Time) : IPFragmenter :=
  let f := f.cleanupTimeoutFragments now
  if f.fragments.size > maxFragments then ⟨∅⟩ else f

/-- `total_size` of `reassemble` -/
def totalSize (f : IPFragmenter) : UInt32 :=
  f.fragments.foldl
    (fun n offset info => max n (UInt32.ofNat (offset.toNat + info.data.length))) 0

/-- The copies that `reassemble` makes, by offset. -/
def pieces (f : IPFragmenter) : List (Nat × Bytes) :=
  f.fragments.toList.map fun (offset, info) => (offset.toNat, info.data)

/-- The packet, and the object as the call leaves it; `none` when a copy would write outside the
buffer. -/
def reassemble (host : Endian) (f : IPFragmenter) : Option (IPPacket × IPFragmenter) :=
  if !f.isComplete then some (.new, f) else
  (overlay (List.replicate f.totalSize.toNat 0) f.pieces).map fun completeData =>
    ((IPPacket.new.parse host completeData).2, ⟨∅⟩)

end IPFragmenter

end Lwip
