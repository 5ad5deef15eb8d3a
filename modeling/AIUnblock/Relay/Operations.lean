import AIUnblock.Foundation.Interference
import AIUnblock.Kotlin.Network
import AIUnblock.Routing.GeoHideRoutingRules

/-! # What a relay session asks of the platform

Every call of `LocalSocksRelay` that reaches a socket, the network, the session
set or another thread is an operation. Any of them may throw. Obtaining the
stream of a socket is part of the first use of the stream, and a `flush` is part
of the write before it.
-/

namespace AIUnblock

/-- A socket object; no two share a number. -/
abbrev SocketId : Type := Nat

/-- The active network, as far as the relay tells networks apart. -/
structure Network where
  handle : Nat
  deriving DecidableEq, Repr

inductive SocketOption
  | tcpNoDelay
  | keepAlive
  | reuseAddress
  deriving DecidableEq, Repr

/-- The blocks that a session hands to `executor.execute`. -/
inductive RelayTask
  | upstreamToClient (client upstream : SocketId)
  | watchControl (client relay : SocketId)
  deriving DecidableEq, Repr

inductive RelayOp
  | read (socket : SocketId) (room : Nat)
  | write (socket : SocketId) (bytes : Bytes)
  | setSoTimeout (socket : SocketId) (millis : Nat)
  | setOption (socket : SocketId) (option : SocketOption)
  | newSocket
  | newDatagramSocket
  | bind (socket : SocketId) (address : InetSocketAddress)
  | protect (socket : SocketId)
  | activeNetwork
  | bindSocket (network : Network) (socket : SocketId)
  | connect (socket : SocketId) (destination : InetSocketAddress) (timeoutMillis : Nat)
  | localSocketAddress (socket : SocketId)
  | localPort (socket : SocketId)
  | close (socket : SocketId)
  | isClosed (socket : SocketId)
  | receive (socket : SocketId)
  | send (socket : SocketId) (bytes : Bytes) (destination : InetSocketAddress)
  | addSession (socket : SocketId)
  | removeSession (socket : SocketId)
  | execute (task : RelayTask)
  | getByName (host : Text)
  | getAllByName (network : Network) (host : Text)
  | gatewayAddress (group : GatewayGroup)
  | diverge

namespace RelayOp

/-- What a call returns when it does not throw. `read` returns `none` at the end
of the stream. `diverge` marks a loop that is cut off; it never returns. -/
abbrev Value : RelayOp → Type
  | .read _ room => Option (Chunk room)
  | .newSocket => SocketId
  | .newDatagramSocket => SocketId
  | .protect _ => Bool
  | .activeNetwork => Option Network
  | .localSocketAddress _ => InetSocketAddress
  | .localPort _ => Nat
  | .isClosed _ => Bool
  | .receive _ => Packet
  | .getByName _ => InetAddress
  | .getAllByName _ _ => List InetAddress
  | .gatewayAddress _ => InetAddress
  | .diverge => Empty
  | _ => Unit

abbrev Answer (op : RelayOp) : Type := Except Exception op.Value

end RelayOp

/-- Code of the relay: it may throw, and it runs by operations. -/
abbrev RelayM : Type → Type := ExceptT Exception (Prog RelayOp RelayOp.Answer)

/-- Perform one operation. -/
def relayCall (op : RelayOp) : RelayM op.Value := Prog.io op

/-- What a relay is built with. `loops` bounds the turns of a loop that has no
bound of its own; a loop that would go on past it never returns. -/
structure RelayConfig where
  platform : Platform
  geoHideRules : GeoHideRoutingRules
  password : Bytes
  /-- `InetAddress.getByName` on the addresses of the rule table. -/
  tableAddress : Text → Except Exception InetAddress
  loops : Nat

/-- A relay with the given rules and an empty password. -/
def RelayConfig.withRules (geoHideRules : GeoHideRoutingRules) (loops : Nat) : RelayConfig where
  platform := .ascii
  geoHideRules := geoHideRules
  password := []
  tableAddress _ := .error { kind := .unknownHost }
  loops := loops

end AIUnblock
