import AIUnblock.Relay.DnsOverride
import AIUnblock.Relay.Session

/-! # `LocalSocksRelay`: UDP associations

The relay socket of an association talks to the client and to the outside world.
Its first datagram fixes the client's address.
-/

namespace AIUnblock.LocalSocksRelay

structure UdpRequest where
  destination : InetSocketAddress
  payload : Bytes
  deriving DecidableEq

section Parse

variable {m : Type → Type} [Monad m] [MonadLiftT (Except Exception) m]

/-- The address field of a request, and the offset after it. -/
def parseUdpAddress (getByName : Text → m InetAddress) (data : Bytes) (offset stop type : Nat) :
    m (Option (InetAddress × Nat)) := do
  if type = ADDRESS_IPV4 then
    if offset + 4 > stop then return none
    let address ← liftM (copyOfRange data offset (offset + 4) >>= InetAddress.getByAddress)
    return some (address, offset + 4)
  else if type = ADDRESS_IPV6 then
    if offset + 16 > stop then return none
    let address ← liftM (copyOfRange data offset (offset + 16) >>= InetAddress.getByAddress)
    return some (address, offset + 16)
  else if type = ADDRESS_DOMAIN then
    if offset ≥ stop then return none
    let domainLength ← liftM (u8 data offset)
    if offset + 1 + domainLength > stop then return none
    let domain ← liftM (copyOfRange data (offset + 1) (offset + 1 + domainLength))
    let address ← getByName (decodeUsAscii domain)
    return some (address, offset + 1 + domainLength)
  else return none

def parseUdpRequest (getByName : Text → m InetAddress) (data : Bytes) (start length : Nat) :
    m (Option UdpRequest) := do
  let stop := start + length
  if length < 4 then return none
  if (← liftM (byteAt data start)) ≠ 0 then return none
  if (← liftM (byteAt data (start + 1))) ≠ 0 then return none
  if (← liftM (byteAt data (start + 2))) ≠ 0 then return none
  let type ← liftM (u8 data (start + 3))
  match ← parseUdpAddress getByName data (start + 4) stop type with
  | none => return none
  | some (address, offset) =>
    if offset + 2 > stop then return none
    let port ← liftM (u16 data offset)
    let payload ← liftM (copyOfRange data (offset + 2) stop)
    return some { destination := { address, port }, payload }

end Parse

def encodeUdpResponse (address : InetAddress) (port : Nat) (payload : Bytes) : Bytes :=
  let type := if address.isInet4 then ADDRESS_IPV4 else ADDRESS_IPV6
  [0, 0, 0, UInt8.ofNat type] ++ address.octets ++
    [UInt8.ofNat (port >>> 8), UInt8.ofNat port] ++ payload

/-- The override is asked for queries to a resolver only. -/
def dnsResponseFor (config : RelayConfig) (request : UdpRequest) :
    Except Exception (Option Bytes) :=
  if request.destination.port = 53 then
    DnsOverride.response config.platform config.tableAddress request.payload
      (config.geoHideRules.fixedAddressFor config.platform)
  else .ok none

/-- A datagram from the client: dropped, answered here, or sent on. -/
def handleRequest (config : RelayConfig) (relay : SocketId) (clientAddress : InetSocketAddress)
    (request : UdpRequest) : RelayM Unit := do
  if request.destination.port = 443 then return
  match ← liftM (dnsResponseFor config request) with
  | some response =>
    relayCall (.send relay
      (encodeUdpResponse request.destination.address request.destination.port response)
      clientAddress)
  | none => relayCall (.send relay request.payload request.destination)

/-- One received datagram; returns the `clientAddress` after it. -/
def handleDatagram (config : RelayConfig) (relay : SocketId)
    (clientAddress : Option InetSocketAddress) (packet : Packet) :
    RelayM (Option InetSocketAddress) := do
  match clientAddress with
  | none => fromClient packet.socketAddress
  | some known =>
    if packet.socketAddress = known then fromClient known
    else do
      let payload ← liftM (copyOfRange packet.data packet.offset (packet.offset + packet.length))
      relayCall (.send relay
        (encodeUdpResponse packet.socketAddress.address packet.socketAddress.port payload) known)
      return some known
where
  fromClient (client : InetSocketAddress) : RelayM (Option InetSocketAddress) := do
    let request ← parseUdpRequest (fun host => relayCall (.getByName host)) packet.data
      packet.offset packet.length
    match request with
    | some request => handleRequest config relay client request
    | none => pure ()
    return some client

/-- `relay.receive(packet)`; `none` after a timeout. -/
def receiveOrTimeout (relay : SocketId) : RelayM (Option Packet) :=
  tryCatch (do return some (← relayCall (.receive relay))) fun error =>
    if error.kind = .socketTimeout then pure none else throw error

/-- The receive loop, for at most `loops` turns. -/
def receiveLoop (config : RelayConfig) (relay : SocketId) :
    Nat → Option InetSocketAddress → RelayM Unit
  | 0, _ => do nomatch ← relayCall .diverge
  | loops + 1, clientAddress => do
    if ← relayCall (.isClosed relay) then return
    match ← receiveOrTimeout relay with
    | none => receiveLoop config relay loops clientAddress
    | some packet => do
      let clientAddress ← handleDatagram config relay clientAddress packet
      receiveLoop config relay loops clientAddress

/-- The end of an association. -/
def releaseAssociation (client relay : SocketId) : RelayM Unit := do
  closeQuietly relay
  relayCall (.removeSession relay)
  closeQuietly client

def handleUdpAssociate (config : RelayConfig) (client : SocketId) : RelayM Unit := do
  let relay ← relayCall .newDatagramSocket
  relayCall (.setOption relay .reuseAddress)
  relayCall (.bind relay { address := .wildcard6, port := 0 })
  if ← relayCall (.protect relay) then
    bindToActiveNetwork relay
    relayCall (.setSoTimeout relay 1000)
    relayCall (.addSession relay)
    writeReply client 0 { address := .loopback, port := ← relayCall (.localPort relay) }
    relayCall (.execute (.watchControl client relay))
    Prog.tryFinally (receiveLoop config relay config.loops none) (releaseAssociation client relay)
  else
    relayCall (.close relay)
    writeReply client 1 unbound

end AIUnblock.LocalSocksRelay
