import Std.Data.ExtTreeMap
import Lwip.Std.Clock
import Lwip.Utils.InetAddress

/-! `ARPHandler` of `interface/arp_handler.hpp` and `interface/arp_handler.cpp`. A call reads the
clock once at most; that reading is its argument `now`. -/

namespace Lwip

open Std (ExtTreeMap)

structure ARPEntry where
  macAddress : UInt64
  timestamp : Time
  isStatic : Bool
  deriving DecidableEq, Repr

/-- `ARPHandler::ENTRY_TIMEOUT`, 20 minutes -/
def entryTimeout : Time := 20 * 60 * second

structure ARPHandler where
  arpTable : ExtTreeMap UInt32 ARPEntry := ∅

namespace ARPHandler

def addEntry (h : ARPHandler) (now : Time) (ip : InetAddress) (mac : UInt64) (isStatic : Bool) :
    Bool × ARPHandler :=
  let entry : ARPEntry := { macAddress := mac, timestamp := now, isStatic }
  (true, { h with arpTable := h.arpTable.insert ip.getIp entry })

/-- The result, what the caller's `mac` holds after the call, and the object as it leaves it. -/
def resolve (h : ARPHandler) (now : Time) (ip : InetAddress) (mac : UInt64) :
    Bool × UInt64 × ARPHandler :=
  match h.arpTable[ip.getIp]? with
  | some entry =>
    if !entry.isStatic && decide (now - entry.timestamp > entryTimeout) then
      (false, mac, { h with arpTable := h.arpTable.erase ip.getIp })
    else (true, entry.macAddress, h)
  | none => (false, mac, h)

def cleanupExpiredEntries (h : ARPHandler) (now : Time) : ARPHandler :=
  { h with
    arpTable := h.arpTable.filter fun _ entry =>
      !(!entry.isStatic && decide (now - entry.timestamp > entryTimeout)) }

end ARPHandler

end Lwip
