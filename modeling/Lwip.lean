import Lwip.Core.DnsResolver
import Lwip.Core.EventLoop
import Lwip.Core.StackManager
import Lwip.Core.Threads
import Lwip.Interface.ArpHandler
import Lwip.Interface.NonBlockingInterface
import Lwip.Interface.TunInterface
import Lwip.Ip.Fragmenter
import Lwip.Ip.Icmp
import Lwip.Ip.Ipv6Nd
import Lwip.Ip.Ipv6Packet
import Lwip.Ip.Packet
import Lwip.Std.Checksum
import Lwip.Std.Clock
import Lwip.Std.Endian
import Lwip.Std.Expiring
import Lwip.Std.Framing
import Lwip.Std.InOrder
import Lwip.Std.Inet
import Lwip.Std.Loop
import Lwip.Std.Queue
import Lwip.Std.Ranking
import Lwip.Std.Registry
import Lwip.Std.Run
import Lwip.Std.Slice
import Lwip.Std.Text
import Lwip.Tcp.Connection
import Lwip.Tcp.Manager
import Lwip.Tcp.Packet
import Lwip.Tcp.Retransmitter
import Lwip.Udp.Packet
import Lwip.Utils.ConfigParser
import Lwip.Utils.InetAddress
import Lwip.Utils.PacketCapture
import Lwip.Verify.Core.Bounds
import Lwip.Verify.Core.DnsResolver
import Lwip.Verify.Core.Echo
import Lwip.Verify.Core.EventLoop
import Lwip.Verify.Core.Frames
import Lwip.Verify.Core.Integrity
import Lwip.Verify.Core.Interface
import Lwip.Verify.Core.Layers
import Lwip.Verify.Core.LoopFirst
import Lwip.Verify.Core.Routing
import Lwip.Verify.Core.Silence
import Lwip.Verify.Core.Storm
import Lwip.Verify.Core.Threads
import Lwip.Verify.Interface.ArpHandler
import Lwip.Verify.Interface.NonBlockingInterface
import Lwip.Verify.Interface.TunInterface
import Lwip.Verify.Ip.Completeness
import Lwip.Verify.Ip.Cutting
import Lwip.Verify.Ip.Fragmenter
import Lwip.Verify.Ip.HeaderChecksum
import Lwip.Verify.Ip.Icmp
import Lwip.Verify.Ip.Ipv6Nd
import Lwip.Verify.Ip.Ipv6Packet
import Lwip.Verify.Ip.Mixing
import Lwip.Verify.Ip.Overlaps
import Lwip.Verify.Ip.Packet
import Lwip.Verify.Ip.Reassembly
import Lwip.Verify.Packets
import Lwip.Verify.Tcp.Acknowledged
import Lwip.Verify.Tcp.Acks
import Lwip.Verify.Tcp.Aligned
import Lwip.Verify.Tcp.Checksum
import Lwip.Verify.Tcp.Chunks
import Lwip.Verify.Tcp.Closing
import Lwip.Verify.Tcp.Codec
import Lwip.Verify.Tcp.Congestion
import Lwip.Verify.Tcp.ConstCalls
import Lwip.Verify.Tcp.Count
import Lwip.Verify.Tcp.Delivery
import Lwip.Verify.Tcp.Diagram
import Lwip.Verify.Tcp.Duplex
import Lwip.Verify.Tcp.Handshake
import Lwip.Verify.Tcp.Idle
import Lwip.Verify.Tcp.Link
import Lwip.Verify.Tcp.Manager
import Lwip.Verify.Tcp.Nagle
import Lwip.Verify.Tcp.Ports
import Lwip.Verify.Tcp.Receive
import Lwip.Verify.Tcp.Resending
import Lwip.Verify.Tcp.Retransmitter
import Lwip.Verify.Tcp.Rto
import Lwip.Verify.Tcp.Sending
import Lwip.Verify.Tcp.Step
import Lwip.Verify.Tcp.Table
import Lwip.Verify.Tcp.Window
import Lwip.Verify.Udp.Packet
import Lwip.Verify.Utils.ConfigErrors
import Lwip.Verify.Utils.ConfigParser
import Lwip.Verify.Utils.PacketCapture
