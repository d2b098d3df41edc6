import Lwip.Core.DnsResolver

/-! What becomes of an address on its way through `InetAddress`. The constructor from a text keeps
the bytes in the order of the network, while `to_string` and `resolve` take the number in the order
of the host, so on a little-endian host an address comes out with its bytes reversed. -/

namespace Lwip

/-- The numbers of an address, the first one first. -/
structure Quad where
  a : UInt8
  b : UInt8
  c : UInt8
  d : UInt8
  deriving DecidableEq, Repr

namespace Quad

/-- The address as it is written. -/
def text (q : Quad) : Chars := dotted [q.a, q.b, q.c, q.d]

/-- The address as a `sockaddr_in` holds it. -/
def addr (host : Endian) (q : Quad) : UInt32 := host.word32 q.a q.b q.c q.d

/-- The address whose number in the order of the host is `ip`. -/
def ofIp (ip : UInt32) : Quad := ⟨hi16 (hi32 ip), lo16 (hi32 ip), hi16 (lo32 ip), lo16 (lo32 ip)⟩

def reverse (q : Quad) : Quad := ⟨q.d, q.c, q.b, q.a⟩

/-- The address reads the same from its end. -/
def Palindrome (q : Quad) : Prop := q.a = q.d ∧ q.b = q.c

instance (q : Quad) : Decidable q.Palindrome :=
  inferInstanceAs (Decidable (_ ∧ _))

theorem reverse_eq_iff {q : Quad} : q.reverse = q ↔ q.Palindrome := by
  constructor
  · intro same
    exact ⟨(congrArg Quad.d same), (congrArg Quad.c same)⟩
  · rintro ⟨ends, middle⟩
    cases q
    cases ends
    cases middle
    rfl

theorem text_inj {q q' : Quad} (h : q.text = q'.text) : q = q' := by
  cases q
  cases q'
  cases dotted_inj h
  rfl

theorem addr_inj {host : Endian} {q q' : Quad} (h : q.addr host = q'.addr host) : q = q' := by
  have same := congrArg host.bytes32 h
  rw [addr, addr, Endian.bytes32_word32, Endian.bytes32_word32] at same
  cases q
  cases q'
  cases same
  rfl

theorem addr_ofIp (host : Endian) (ip : UInt32) : (ofIp ip).addr host = host.htonl ip := by
  rw [addr, ofIp, ← Endian.htonl_be32, be32_hi_lo]

theorem htonl_addr (q : Quad) : Endian.htonl .little (q.addr .little) = q.reverse.addr .little := by
  rw [addr, Endian.word32, Endian.htonl_be32]
  rfl

theorem ofIp_addr (q : Quad) : ofIp (q.addr .little) = q.reverse :=
  addr_inj ((addr_ofIp .little _).trans (htonl_addr q))

theorem ofIp_htonl (ip : UInt32) : ofIp (Endian.htonl .little ip) = (ofIp ip).reverse := by
  rw [← addr_ofIp, ofIp_addr]

theorem ofIp_inj {ip ip' : UInt32} (h : ofIp ip = ofIp ip') : ip = ip' := by
  have same := congrArg (Quad.addr .big) h
  rwa [addr_ofIp, addr_ofIp] at same

end Quad

namespace InetAddress

theorem toString_eq (host : Endian) (a : InetAddress) :
    a.toString host = (Quad.ofIp a.ip).text := by
  rw [toString, inetNtoa, Endian.bytes32_htonl]
  rfl

theorem getIp_ofString (host : Endian) (q : Quad) (port : UInt16) :
    (ofString host q.text port).getIp = q.addr host :=
  inetAddr_dotted host q.a q.b q.c q.d

/-- A number comes back in the order of the network. -/
theorem getIp_toString (host : Endian) (ip : UInt32) (port port' : UInt16) :
    (ofString host ((ofIp ip port).toString host) port').getIp = host.htonl ip := by
  rw [toString_eq, getIp_ofString, Quad.addr_ofIp]
  rfl

/-- A text comes back reversed. -/
theorem toString_ofString (q : Quad) (port : UInt16) :
    (ofString .little q.text port).toString .little = q.reverse.text := by
  rw [toString_eq, ← Quad.ofIp_addr, ← getIp_ofString .little q port]
  rfl

end InetAddress

namespace DNSResolver

variable {host : Endian} {send : SockaddrIn → Option Bytes}

/-- `resolve` turns to its servers in order. -/
theorem query_in_order (servers : List InetAddress) :
    (query host send servers).1 <+: servers.map (serverAddr host) := by
  induction servers with
  | nil => exact List.prefix_rfl
  | cons server rest ih =>
    rw [query, List.map_cons]
    split
    · exact List.prefix_append [serverAddr host server] _
    · exact (List.prefix_cons_inj _).mpr ih

theorem query_silent (servers : List InetAddress) :
    (query host (fun _ => none) servers).1 = servers.map (serverAddr host) := by
  induction servers with
  | nil => rfl
  | cons server rest ih => rw [query, ih, List.map_cons]

/-- A resolver with servers whose addresses and ports are given as text. -/
def withServers (host : Endian) (written : List (Quad × UInt16)) : DNSResolver :=
  written.foldl (fun r w => r.addDnsServer (.ofString host w.1.text w.2)) {}

theorem dnsServers_withServers (host : Endian) (written : List (Quad × UInt16)) :
    (withServers host written).dnsServers =
      written.map fun w => .ofString host w.1.text w.2 := by
  induction written using List.reverseRecOn with
  | nil => rfl
  | append_singleton written w ih =>
    rw [withServers] at ih ⊢
    rw [List.foldl_append, List.map_append, ← ih]
    rfl

/-- The address that `resolve` has for a server is the one written, reversed. -/
theorem sinAddr_serverAddr (q : Quad) (port : UInt16) :
    (serverAddr .little (.ofString .little q.text port)).sinAddr = q.reverse.addr .little := by
  rw [serverAddr, InetAddress.getIp_ofString, Quad.htonl_addr]

theorem sent_withServers (written : List (Quad × UInt16)) :
    ((withServers .little written).dnsServers.map (serverAddr .little)).map SockaddrIn.sinAddr =
      written.map fun w => w.1.reverse.addr .little := by
  rw [dnsServers_withServers, List.map_map, List.map_map]
  exact List.map_congr_left fun w _ => sinAddr_serverAddr w.1 w.2

/-- On a little-endian host the constructors, `to_string`, `get_ip` and `resolve` agree on an
address exactly when it reads the same from its end. -/
theorem denotes_iff (ip : UInt32) (q : Quad) (port port' : UInt16)
    (written : List (Quad × UInt16)) :
    ((InetAddress.ofString .little ((InetAddress.ofIp ip port).toString .little) port').getIp = ip ↔
      (Quad.ofIp ip).Palindrome) ∧
    ((InetAddress.ofString .little q.text port).toString .little = q.text ↔ q.Palindrome) ∧
    ((∀ network socket id hostname,
        ((withServers .little written).resolve .little network socket id hostname).1.map
          SockaddrIn.sinAddr <+: written.map fun w => w.1.addr .little) ↔
      ∀ w ∈ written, w.1.Palindrome) := by
  refine ⟨?_, ?_, ?_⟩
  · rw [InetAddress.getIp_toString, ← Quad.reverse_eq_iff, ← Quad.ofIp_htonl]
    exact ⟨congrArg Quad.ofIp, Quad.ofIp_inj⟩
  · rw [InetAddress.toString_ofString, ← Quad.reverse_eq_iff]
    exact ⟨Quad.text_inj, congrArg Quad.text⟩
  · constructor
    · intro denotes w mem
      have all := denotes (fun _ _ _ => none) true 0 []
      rw [resolve, if_pos rfl, query_silent, sent_withServers] at all
      have same := List.map_inj_left.mp (all.eq_of_length (by simp)) w mem
      exact Quad.reverse_eq_iff.mp (Quad.addr_inj same)
    · intro palindromes network socket id hostname
      rw [resolve]
      split
      · have kept : (written.map fun w => w.1.reverse.addr .little) =
            written.map fun w => w.1.addr .little :=
          List.map_congr_left fun w mem =>
            congrArg (Quad.addr .little) (Quad.reverse_eq_iff.mpr (palindromes w mem))
        rw [← kept, ← sent_withServers]
        exact (query_in_order _).map _
      · exact List.nil_prefix

/-- The server of the test is such an address. -/
example : (Quad.mk 8 8 8 8).Palindrome := by decide

/-- 192.168.1.1 is read back as 1.1.168.192. -/
theorem denotes_reversed :
    (¬ ∀ ip : UInt32,
      (InetAddress.ofString .little ((InetAddress.ofIp ip).toString .little)).getIp = ip) ∧
    ¬ ∀ q : Quad, (InetAddress.ofString .little q.text).toString .little = q.text := by
  constructor
  · intro round
    exact absurd (round 0xC0A80101) (by decide)
  · intro round
    exact absurd (round ⟨192, 168, 1, 1⟩) (by decide)

end DNSResolver

end Lwip
