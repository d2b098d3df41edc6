import Lwip.Std.Registry
import Lwip.Tcp.Connection

/-! `TCPManager` of `tcp/tcp_manager.hpp` and `tcp/tcp_manager.cpp`. A `shared_ptr` to a connection
is a reference into the registry that holds the table; `nullptr` is `none`. A call that allocates
a port gives `none` as a whole when the search for one does not end. -/

namespace Lwip

open Std (TransOrd LawfulEqOrd)

/-- The key of the table: `std::pair<uint32_t, uint16_t>`, remote address and port. -/
abbrev ConnKey := UInt32 × UInt16

instance : Ord ConnKey := lexOrd

instance : TransOrd ConnKey := Std.instTransOrdProd

instance : LawfulEqOrd ConnKey := Std.instLawfulEqOrdProd

abbrev ConnRef := Nat

/-- `TCPManager::MAX_CONNECTIONS` -/
def maxConnectionsLimit : Nat := 1000

structure TCPManager where
  connections : Registry ConnKey TCPConnection
  maxConnections : Nat
  nextPort : UInt16

namespace TCPManager

/-- `TCPManager::TCPManager` -/
def new : TCPManager := ⟨.empty, 1000, 1024⟩

/-- Some connection in the table has the local port `port`. -/
def used (m : TCPManager) (port : UInt16) : Bool :=
  m.connections.any (·.getLocalPort == port)

/-- One turn of the loop of `allocate_local_port`, on the value of `next_port_`. -/
def allocateTurn (m : TCPManager) (nextPort : UInt16) : Turn UInt16 (UInt16 × UInt16) :=
  let port := nextPort
  let nextPort := if port < 1024 then 1024 else nextPort + 1
  if m.used port then .again nextPort else .done (port, nextPort)

/-- The port, and the object as the call leaves it. The loop runs over the values of
`next_port_`, so it ends within as many turns as there are of them or never. -/
def allocateLocalPort (m : TCPManager) : Option (UInt16 × TCPManager) :=
  (Loop.run m.allocateTurn UInt16.size m.nextPort).map fun (port, nextPort) =>
    (port, { m with nextPort })

/-- `std::make_shared<TCPConnection>()` and `set_local_port`; `isn` is the value of `rand()`. -/
def freshConnection (isn : UInt32) (localPort : UInt16) : TCPConnection :=
  (TCPConnection.new isn).setLocalPort localPort

def createConnection (m : TCPManager) (isn : UInt32) : Option (Option ConnRef × TCPManager) :=
  if m.connections.size ≥ maxConnectionsLimit then some (none, m) else
  m.allocateLocalPort.map fun (localPort, m) =>
    (some m.connections.next,
      { m with connections := m.connections.make (freshConnection isn localPort) })

def findOrCreateConnection (m : TCPManager) (isn remoteIp : UInt32) (remotePort : UInt16) :
    Option (Option ConnRef × TCPManager) :=
  match m.connections.find? (remoteIp, remotePort) with
  | some r => some (some r, m)
  | none =>
    if m.connections.size < m.maxConnections then
      m.allocateLocalPort.map fun (localPort, m) =>
        (some m.connections.next,
          { m with
            connections :=
              m.connections.insertNew (remoteIp, remotePort) (freshConnection isn localPort) })
    else some (none, m)

def removeConnection (m : TCPManager) (remoteIp : UInt32) (remotePort : UInt16) : TCPManager :=
  { m with connections := m.connections.erase (remoteIp, remotePort) }

/-- `now` is the time at which the entry with a key is looked at. -/
def cleanupTimeoutConnections (m : TCPManager) (now : ConnKey → Time) : TCPManager :=
  { m with
    connections := m.connections.filter fun key conn =>
      !conn.any (TCPConnection.isTimeout · (now key)) }

def getConnectionCount (m : TCPManager) : Nat := m.connections.size

def setMaxConnections (m : TCPManager) (max : Nat) : TCPManager := { m with maxConnections := max }

end TCPManager

end Lwip
