import OAuthEndpoint.Net.Ipv6

/-! IP addresses of either kind with a port number, as a listener is told them. -/

namespace OAuthEndpoint.Net

inductive IpAddress where
  | v4 (address : Ipv4)
  | v6 (address : Ipv6)
deriving DecidableEq, Repr

namespace IpAddress

def parse? (text : String) : Option IpAddress :=
  match Ipv4.parse? text.toList with
  | some address => some (.v4 address)
  | none => (Ipv6.parse? text.toList).map .v6

end IpAddress

structure SocketAddress where
  ip : IpAddress
  port : UInt16
deriving DecidableEq, Repr

/-- `address:port`, an IPv6 address in brackets; one that embeds an IPv4 address shows it as a
dotted quad. -/
def SocketAddress.render (socket : SocketAddress) : String :=
  match socket.ip with
  | .v4 address => address.render ++ ":" ++ toString socket.port
  | .v6 address =>
    let text := match address.embedded? with
      | some inner => "::ffff:" ++ inner.render
      | none => address.render
    "[" ++ text ++ "]:" ++ toString socket.port

end OAuthEndpoint.Net
