import Mathlib.Data.Fintype.Pi
import Ustunet.Time

/-!
# Addresses, packets and the wire format

The types of `std::net` and `smoltcp::wire` that the loop handles. The codecs are smoltcp's
and are a parameter of the model (`Wire`); what the repository itself does with addresses is
`convertToSocketAddress`.
-/

namespace Ustunet

/-- `smoltcp::Error`. -/
inductive Error
  | exhausted | illegal | unaddressable | finished | truncated | checksum
  | unrecognized | fragmented | malformed | dropped
deriving DecidableEq, Repr

/-! ## Addresses -/

/-- `smoltcp::wire::Ipv4Address([u8; 4])`. -/
structure Ipv4Address where
  (o₀ o₁ o₂ o₃ : UInt8)
deriving DecidableEq, Repr

/-- `smoltcp::wire::Ipv6Address([u8; 16])`. -/
structure Ipv6Address where
  octets : Fin 16 → UInt8
deriving DecidableEq

/-- `smoltcp::wire::IpAddress`. -/
inductive IpAddress
  | unspecified
  | ipv4 (a : Ipv4Address)
  | ipv6 (a : Ipv6Address)
deriving DecidableEq

/-- Whether the address is the wildcard of its family (or of none). -/
def IpAddress.isUnspecified : IpAddress → Bool
  | .unspecified => true
  | .ipv4 a => a = ⟨0, 0, 0, 0⟩
  | .ipv6 a => a = ⟨fun _ => 0⟩

/-- `smoltcp::wire::IpEndpoint`. -/
structure IpEndpoint where
  addr : IpAddress
  port : UInt16
deriving DecidableEq

/-- An endpoint is specified when both its address and its port are. -/
def IpEndpoint.isSpecified (e : IpEndpoint) : Bool :=
  !e.addr.isUnspecified && e.port != 0

/-- `std::net::SocketAddr`. -/
inductive SocketAddr
  | v4 (ip : Ipv4Address) (port : UInt16)
  | v6 (segments : Fin 8 → UInt16) (port : UInt16)
deriving DecidableEq

/-- `Ipv6Address::write_parts`: the address as eight big-endian 16-bit segments. -/
def Ipv6Address.writeParts (a : Ipv6Address) (i : Fin 8) : UInt16 :=
  (a.octets ⟨2 * i, by omega⟩).toUInt16 * 256 + (a.octets ⟨2 * i + 1, by omega⟩).toUInt16

/-- `util::convert_to_socket_address`. -/
def convertToSocketAddress (address : IpAddress) (port : UInt16) : Except Error SocketAddr :=
  match address with
  | .ipv4 v4 => .ok (.v4 v4 port)
  | .ipv6 v6 => .ok (.v6 v6.writeParts port)
  | .unspecified => .error .unrecognized

/-- `IpEndpoint::default()`: the endpoint of a socket that is not connected. -/
def IpEndpoint.unspecified : IpEndpoint := ⟨.unspecified, 0⟩

/-- `IpEndpoint::from(SocketAddr)`, smoltcp's way back. -/
def IpEndpoint.fromSocketAddr : SocketAddr → IpEndpoint
  | .v6 segments port =>
    ⟨.ipv6 ⟨fun i =>
      let segment := segments (Fin.divNat (m := 8) (n := 2) i)
      if i.val % 2 = 0 then (segment / 256).toUInt8 else segment.toUInt8⟩, port⟩
  | .v4 ip port => ⟨.ipv4 ip, port⟩

/-- Client and server: the two ends of a connection, and the key of its slot in the pool. -/
structure AddrPair where
  peer : SocketAddr
  localAddr : SocketAddr
deriving DecidableEq

/-- `SocketHandle`: what locates a socket in the storage. -/
abbrev SocketHandle := AddrPair

/-! ## Packets -/

/-- `smoltcp::wire::IpProtocol`, as far as the loop tells protocols apart. -/
inductive IpProtocol
  | tcp
  | other (number : UInt8)
deriving DecidableEq

/-- `smoltcp::wire::Ipv4Repr`. -/
structure Ipv4Repr where
  srcAddr : Ipv4Address
  dstAddr : Ipv4Address
  protocol : IpProtocol
  payloadLen : ℕ
  hopLimit : UInt8
deriving DecidableEq

/-- `smoltcp::wire::Ipv6Repr`. -/
structure Ipv6Repr where
  srcAddr : Ipv6Address
  dstAddr : Ipv6Address
  nextHeader : IpProtocol
  payloadLen : ℕ
  hopLimit : UInt8
deriving DecidableEq

/-- `smoltcp::wire::IpRepr`. -/
inductive IpRepr
  | ipv4 (r : Ipv4Repr)
  | ipv6 (r : Ipv6Repr)
deriving DecidableEq

def IpRepr.srcAddr : IpRepr → IpAddress
  | .ipv4 r => .ipv4 r.srcAddr
  | .ipv6 r => .ipv6 r.srcAddr

def IpRepr.dstAddr : IpRepr → IpAddress
  | .ipv4 r => .ipv4 r.dstAddr
  | .ipv6 r => .ipv6 r.dstAddr

/-- `smoltcp::wire::TcpControl`. -/
inductive TcpControl
  | none | psh | syn | fin | rst
deriving DecidableEq, Repr

/-- `smoltcp::wire::TcpRepr`. -/
structure TcpRepr where
  srcPort : UInt16
  dstPort : UInt16
  control : TcpControl
  seqNumber : UInt32
  ackNumber : Option UInt32
  windowLen : UInt16
  windowScale : Option UInt8
  maxSegSize : Option UInt16
  sackPermitted : Bool
  sackRanges : List (UInt32 × UInt32)
  payload : List UInt8
deriving DecidableEq

/-- `Packet::Tcp((ip_repr, tcp_repr))`, the only packet the loop sends. -/
abbrev Packet := IpRepr × TcpRepr

/-! ## The codecs -/

/-- The part of `smoltcp::wire` the loop calls, for the checksum capabilities of its device. -/
structure Wire where
  /-- `Ipv4Packet::new_checked` and `Ipv4Repr::parse`, with the packet's payload. -/
  parseIpv4 : List UInt8 → Except Error (Ipv4Repr × List UInt8)
  /-- `Ipv6Packet::new_checked` and `Ipv6Repr::parse`, with the packet's payload. -/
  parseIpv6 : List UInt8 → Except Error (Ipv6Repr × List UInt8)
  /-- `TcpPacket::new_checked` and `TcpRepr::parse`, between the two given addresses. -/
  parseTcp : List UInt8 → IpAddress → IpAddress → Except Error TcpRepr
  /-- `Ipv4Address::is_unicast`. -/
  isUnicastV4 : Ipv4Address → Bool
  /-- `Ipv6Address::is_unicast`. -/
  isUnicastV6 : Ipv6Address → Bool
  /-- `IpRepr::lower`. -/
  lower : IpRepr → Except Error IpRepr
  /-- The `total_len` bytes that `IpRepr::emit` and `TcpRepr::emit` fill. -/
  emit : IpRepr → TcpRepr → List UInt8

/-- `dispatch::packet_to_bytes` into an empty buffer: the bytes the buffer holds after it. -/
def packetToBytes (wire : Wire) (packet : Packet) : Except Error (List UInt8) := do
  let ipRepr ← wire.lower packet.1
  return wire.emit ipRepr packet.2

end Ustunet
