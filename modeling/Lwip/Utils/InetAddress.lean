import Lwip.Std.Inet

/-! `InetAddress` of `utils/inet_address.hpp` and `utils/inet_address.cpp`. -/

namespace Lwip

structure InetAddress where
  ip : UInt32 := 0
  port : UInt16 := 0
  deriving DecidableEq, Repr

namespace InetAddress

/-- The constructor from a text. -/
def ofString (host : Endian) (ip : Chars) (port : UInt16 := 0) : InetAddress :=
  { ip := inetAddr host ip, port }

/-- The constructor from a number. -/
def ofIp (ip : UInt32) (port : UInt16 := 0) : InetAddress := { ip, port }

def toString (host : Endian) (a : InetAddress) : Chars := inetNtoa host (host.htonl a.ip)

def getIp (a : InetAddress) : UInt32 := a.ip

def getPort (a : InetAddress) : UInt16 := a.port

def setPort (a : InetAddress) (port : UInt16) : InetAddress := { a with port }

end InetAddress

end Lwip
