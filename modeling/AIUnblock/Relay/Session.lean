import AIUnblock.Relay.Operations
import AIUnblock.Tls.ClientHello

/-! # `LocalSocksRelay`: TCP sessions

The SOCKS handshake, the routing of a `CONNECT` and the two copy loops.
-/

namespace AIUnblock.LocalSocksRelay

def SOCKS_VERSION : Nat := 5
def USERNAME_PASSWORD_AUTH : Nat := 2
def COMMAND_CONNECT : Nat := 1
def COMMAND_UDP_ASSOCIATE : Nat := 3
def ADDRESS_IPV4 : Nat := 1
def ADDRESS_DOMAIN : Nat := 3
def ADDRESS_IPV6 : Nat := 4
def MAX_CLIENT_HELLO : Nat := 64 * 1024
def TLS_SNI_TIMEOUT_MS : Nat := 2500
def CONNECT_TIMEOUT_MS : Nat := 8000

/-! ## Streams -/

def readByte (input : SocketId) : RelayM Nat := do
  match ← relayCall (.read input 1) with
  | some chunk => return (chunk.bytes.head chunk.nonempty).toNat
  | none => throw { kind := .eof }

def readExactly (input : SocketId) (count : Nat) : RelayM Bytes :=
  if count = 0 then pure []
  else do
    match ← relayCall (.read input count) with
    | some chunk => return chunk.bytes ++ (← readExactly input (count - chunk.bytes.length))
    | none => throw { kind := .eof }
termination_by count
decreasing_by
  have hpos := List.length_pos_iff.mpr chunk.nonempty
  omega

/-- `if (condition) throw error`. -/
def throwIf (condition : Prop) [Decidable condition] (error : Exception) : RelayM Unit :=
  if condition then throw error else pure ()

def closeQuietly (closeable : SocketId) : RelayM Unit :=
  tryCatch (relayCall (.close closeable)) fun _ => pure ()

/-- `copy(input, output)`, for at most `loops` turns. -/
def copy (input output : SocketId) : Nat → RelayM Unit
  | 0 => do nomatch ← relayCall .diverge
  | loops + 1 => do
    match ← relayCall (.read input (32 * 1024)) with
    | none => return
    | some chunk => do
      relayCall (.write output chunk.bytes)
      copy input output loops

/-! ## The SOCKS handshake -/

def username : Bytes := utf8Bytes "aiunblock"

def negotiate (config : RelayConfig) (client : SocketId) : RelayM Unit := do
  throwIf ((← readByte client) ≠ SOCKS_VERSION)
    { kind := .eof, message := "Unsupported SOCKS version" }
  let methodCount ← readByte client
  let methods ← readExactly client methodCount
  if methods.all (·.toNat ≠ USERNAME_PASSWORD_AUTH) then
    relayCall (.write client [5, 0xff])
    throw { kind := .eof, message := "No supported authentication method" }
  else
    relayCall (.write client [5, UInt8.ofNat USERNAME_PASSWORD_AUTH])
    throwIf ((← readByte client) ≠ 1) { kind := .eof, message := "Bad authentication version" }
    let receivedUsername ← readExactly client (← readByte client)
    let receivedPassword ← readExactly client (← readByte client)
    let valid := receivedUsername = username ∧ receivedPassword = config.password
    relayCall (.write client [1, if valid then 0 else 1])
    throwIf (¬ valid) { kind := .eof, message := "Authentication failed" }

structure Request where
  command : Nat
  destination : InetSocketAddress
  deriving DecidableEq

def readAddress (input : SocketId) (type : Nat) : RelayM InetAddress :=
  if type = ADDRESS_IPV4 then do
    liftM (InetAddress.getByAddress (← readExactly input 4))
  else if type = ADDRESS_IPV6 then do
    liftM (InetAddress.getByAddress (← readExactly input 16))
  else if type = ADDRESS_DOMAIN then do
    let length ← readByte input
    relayCall (.getByName (decodeUsAscii (← readExactly input length)))
  else throw { kind := .eof, message := "Unsupported address type" }

def readRequest (input : SocketId) : RelayM Request := do
  throwIf ((← readByte input) ≠ SOCKS_VERSION) { kind := .eof, message := "Bad request version" }
  let command ← readByte input
  let _ ← readByte input
  let address ← readAddress input (← readByte input)
  let high ← readByte input
  let low ← readByte input
  return { command, destination := { address, port := (high <<< 8) ||| low } }

/-- The bytes of a reply. -/
def encodeReply (code : Nat) (bound : InetSocketAddress) : Bytes :=
  let type := if bound.address.isInet4 then ADDRESS_IPV4 else ADDRESS_IPV6
  [UInt8.ofNat SOCKS_VERSION, UInt8.ofNat code, 0, UInt8.ofNat type] ++ bound.address.octets ++
    [UInt8.ofNat (bound.port >>> 8), UInt8.ofNat bound.port]

def writeReply (output : SocketId) (code : Nat) (bound : InetSocketAddress) : RelayM Unit :=
  relayCall (.write output (encodeReply code bound))

/-- `InetSocketAddress("0.0.0.0", 0)`. -/
def unbound : InetSocketAddress := { address := .wildcard4, port := 0 }

/-! ## Routing a connection -/

/-- One read that takes a timeout for the end of the stream. -/
def readOrTimeout (input : SocketId) (room : Nat) : RelayM (Option (Chunk room)) :=
  tryCatch (relayCall (.read input room)) fun error =>
    if error.kind = .socketTimeout then pure none else throw error

/-- Read until the parser stops asking for more. -/
def readClientHello (input : SocketId) (buffer : Bytes) : RelayM Bytes :=
  if buffer.length < MAX_CLIENT_HELLO then do
    match ← readOrTimeout input (MAX_CLIENT_HELLO - buffer.length) with
    | none => return buffer
    | some chunk =>
      match ← liftM (TlsClientHello.parse (buffer ++ chunk.bytes)) with
      | .needMore => readClientHello input (buffer ++ chunk.bytes)
      | _ => return buffer ++ chunk.bytes
  else return buffer
termination_by MAX_CLIENT_HELLO - buffer.length
decreasing_by
  have hpos := List.length_pos_iff.mpr chunk.nonempty
  rw [List.length_append]
  omega

/-- `(parsed as? TlsClientHello.Result.Parsed)?.serverName`. -/
def serverNameOf : TlsClientHello.Result → Option Text
  | .parsed serverName => serverName
  | _ => none

/-- The two rule engines of a TCP/443 connection, the second asked only when the
first has no gateway. -/
def routeFor (config : RelayConfig) (serverName : Option Text) :
    Option GatewayGroup × Option GeoHideTarget :=
  let gatewayGroup := RoutingRules.gatewayFor config.platform serverName
  let geoHideTarget :=
    if gatewayGroup = none then
      config.geoHideRules.targetFor config.platform serverName
    else none
  (gatewayGroup, geoHideTarget)

def directTarget (original : InetSocketAddress) (serverName : Option Text) :
    RelayM InetSocketAddress :=
  match original.address.isInet4, serverName with
  | false, some name => do
    let ipv4 ← tryCatch (do
        match ← relayCall .activeNetwork with
        | none => pure none
        | some network =>
          return (← relayCall (.getAllByName network name)).find? InetAddress.isInet4)
      fun _ => pure none
    return match ipv4 with
      | some address => { address, port := original.port }
      | none => original
  | _, _ => return original

/-- The target of a TCP/443 connection. -/
def targetOf (config : RelayConfig) (original : InetSocketAddress) (serverName : Option Text) :
    RelayM InetSocketAddress :=
  match routeFor config serverName with
  | (some group, _) => do
    return { address := ← relayCall (.gatewayAddress group), port := original.port }
  | (none, some (.fixedAddress address)) => do
    return { address := ← relayCall (.getByName address), port := original.port }
  | (none, some .automaticGateway) => do
    return { address := ← relayCall (.gatewayAddress .geoHide), port := original.port }
  | (none, none) => directTarget original serverName

/-- The target that a client's first bytes select. -/
def connectTarget (config : RelayConfig) (original : InetSocketAddress) (firstPayload : Bytes) :
    RelayM InetSocketAddress := do
  let parsed ← liftM (TlsClientHello.parse firstPayload)
  targetOf config original (serverNameOf parsed)

/-- `activeNetwork()?.bindSocket(socket)`. -/
def bindToActiveNetwork (socket : SocketId) : RelayM Unit := do
  match ← relayCall .activeNetwork with
  | some network => relayCall (.bindSocket network socket)
  | none => pure ()

def connectProtected (destination : InetSocketAddress) : RelayM SocketId := do
  let socket ← relayCall .newSocket
  let wildcard := if destination.address.isInet4 then InetAddress.wildcard4 else .wildcard6
  relayCall (.bind socket { address := wildcard, port := 0 })
  if ← relayCall (.protect socket) then
    bindToActiveNetwork socket
    relayCall (.setOption socket .tcpNoDelay)
    relayCall (.setOption socket .keepAlive)
    relayCall (.connect socket destination CONNECT_TIMEOUT_MS)
    return socket
  else
    relayCall (.close socket)
    throw { kind := .socket, message := "Unable to protect upstream socket" }

/-- Both copy loops end by releasing both sockets. -/
def releaseBoth (client upstream : SocketId) : RelayM Unit := do
  closeQuietly client
  closeQuietly upstream
  relayCall (.removeSession upstream)

/-- One direction: its failure is logged, and either end releases both sockets. -/
def copyDirection (loops : Nat) (input output client upstream : SocketId) : RelayM Unit :=
  Prog.tryFinally (tryCatch (copy input output loops) fun _ => pure ())
    (releaseBoth client upstream)

def writeFirstPayload (upstream : SocketId) : Option Bytes → RelayM Unit
  | none | some [] => pure ()
  | some payload => relayCall (.write upstream payload)

def relayBothWays (config : RelayConfig) (client upstream : SocketId)
    (firstPayload : Option Bytes) : RelayM Unit := do
  writeFirstPayload upstream firstPayload
  relayCall (.execute (.upstreamToClient client upstream))
  copyDirection config.loops client upstream client upstream

def handleConnect (config : RelayConfig) (client : SocketId) (original : InetSocketAddress) :
    RelayM Unit := do
  if original.port ≠ 443 then
    let upstream ← connectProtected original
    relayCall (.addSession upstream)
    writeReply client 0 (← relayCall (.localSocketAddress upstream))
    relayBothWays config client upstream none
  else
    writeReply client 0 unbound
    relayCall (.setSoTimeout client TLS_SNI_TIMEOUT_MS)
    let firstPayload ← readClientHello client []
    relayCall (.setSoTimeout client 0)
    let target ← connectTarget config original firstPayload
    let upstream ← connectProtected target
    relayCall (.addSession upstream)
    relayBothWays config client upstream (some firstPayload)

end AIUnblock.LocalSocksRelay
