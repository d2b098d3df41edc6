import Lwip.Utils.InetAddress

/-! `DNSResolver` of `core/dns_resolver.hpp` and `core/dns_resolver.cpp`. The network is a function
from what is sent to what comes back; `resolve` also says where it sent. -/

namespace Lwip

/-- `struct sockaddr_in`. -/
structure SockaddrIn where
  sinFamily : UInt16
  sinPort : UInt16
  sinAddr : UInt32
  deriving DecidableEq, Repr

/-- `struct timeval`. -/
structure Timeval where
  tvSec : Int
  tvUsec : Int
  deriving DecidableEq, Repr

structure DNSHeader where
  id : UInt16
  flags : UInt16
  questions : UInt16
  answers : UInt16
  authority : UInt16
  additional : UInt16
  deriving DecidableEq, Repr

/-- `timeout` is in milliseconds. -/
structure DNSResolver where
  dnsServers : List InetAddress := []
  timeout : Int := 5000
  deriving DecidableEq, Repr

/-- What answers a datagram to an address: `none` when it cannot be sent, or nothing comes in
time. -/
abbrev Network := Timeval → SockaddrIn → Bytes → Option Bytes

namespace DNSResolver

def afInet : UInt16 := 2

def addDnsServer (r : DNSResolver) (server : InetAddress) : DNSResolver :=
  { r with dnsServers := r.dnsServers ++ [server] }

def setTimeout (r : DNSResolver) (timeout : Int) : DNSResolver := { r with timeout }

/-- The header in memory. -/
def headerBytes (host : Endian) (h : DNSHeader) : Bytes :=
  host.bytes16 h.id ++ host.bytes16 h.flags ++ host.bytes16 h.questions ++
    host.bytes16 h.answers ++ host.bytes16 h.authority ++ host.bytes16 h.additional

/-- The query: a header, and no name. -/
def request (host : Endian) (id : UInt16) : Bytes :=
  headerBytes host
    { id := host.htons id, flags := host.htons 0x0100, questions := host.htons 1,
      answers := 0, authority := 0, additional := 0 } ++ List.replicate 500 0

/-- The socket address of a server. -/
def serverAddr (host : Endian) (server : InetAddress) : SockaddrIn :=
  { sinFamily := afInet, sinPort := host.htons 53, sinAddr := host.htonl server.getIp }

/-- The loop over the servers: where it sends, and the address it finds. -/
def query (host : Endian) (send : SockaddrIn → Option Bytes) :
    List InetAddress → List SockaddrIn × InetAddress
  | [] => ([], {})
  | server :: rest =>
    let addr := serverAddr host server
    match send addr with
    | some (byte :: bytes) =>
      let response := (byte :: bytes).take 512 ++ List.replicate (511 - bytes.length) 0
      ([addr], .ofIp (host.ntohl (host.load32 response 12)))
    | _ => (addr :: (query host send rest).1, (query host send rest).2)

/-- `socket` is whether there is a socket, and `id` the number that `rand` gives. -/
def resolve (r : DNSResolver) (host : Endian) (network : Network) (socket : Bool) (id : UInt16)
    (_hostname : Chars) : List SockaddrIn × InetAddress :=
  if socket then
    let tv := { tvSec := r.timeout.tdiv 1000, tvUsec := r.timeout.tmod 1000 * 1000 }
    query host (network tv · (request host id)) r.dnsServers
  else ([], {})

end DNSResolver

end Lwip
