import AIUnblock.Engine.Addresses
import AIUnblock.Foundation.Program

/-! # `hev-socks5-client.c`

The client half of the SOCKS handshake, as a session of the native engine runs
it. Returning `-1` is the exception of these programs.
-/

namespace AIUnblock

/-- What `recv` returns. -/
inductive Received (room : Nat)
  | bytes (chunk : Chunk room)
  | ended
  | failed

inductive EngineOp
  | recv (room : Nat)
  /-- `hev_task_io_socket_send` and `_sendmsg` with `MSG_WAITALL`. -/
  | send (bytes : Bytes)
  /-- A new UDP socket, `klass->binder` and `hev_task_io_socket_connect` to the address. -/
  | connectUdp (address : SockaddrIn6)

abbrev EngineOp.Answer : EngineOp → Type
  | .recv room => Received room
  | .send _ => Int
  | .connectUdp _ => Bool

/-- Code of the engine that may return `-1`. -/
abbrev EngineM : Type → Type := ExceptT Unit (Prog EngineOp EngineOp.Answer)

def engineCall (op : EngineOp) : EngineM op.Answer := ExceptT.lift (Prog.perform op)

/-- `hev_task_io_socket_recv` with `MSG_WAITALL`: all `len` bytes, or what came before
the stream ended or failed. -/
def hevTaskIoSocketRecv (len : Nat) : Prog EngineOp EngineOp.Answer Bytes :=
  if len = 0 then .ret []
  else .call (.recv len) fun
    | .bytes chunk => do
      return chunk.bytes ++ (← hevTaskIoSocketRecv (len - chunk.bytes.length))
    | _ => .ret []
termination_by len
decreasing_by
  have hpos := List.length_pos_iff.mpr chunk.nonempty
  omega

inductive HevSocks5Type
  | tcp
  | udpInTcp
  | udpInUdp
  deriving DecidableEq, Repr

/-- The address family that `hev_socks5_client_connect` leaves behind. -/
inductive HevSocks5AddrFamily
  | ipv4
  | ipv6
  deriving DecidableEq, Repr

/-- `HevConfigServer`, as far as a session looks at it. -/
structure HevConfigServer where
  user : Option Bytes
  pass : Option Bytes
  pipeline : Bool
  udpInUdp : Bool
  udpAddr : { name : Bytes // name.length < 256 }

/-- The scalars under `socks5` in the configuration, each up to its first zero byte. -/
structure HevSocks5Settings where
  port : Option Bytes
  addr : Option Bytes
  user : Option Bytes
  pass : Option Bytes
  pipe : Option Bytes
  udpm : Option Bytes
  udpa : Option Bytes

/-- `tolower` of an ASCII byte. -/
def toLower (byte : UInt8) : UInt8 := if 65 ≤ byte ∧ byte ≤ 90 then byte + 32 else byte

/-- `strcasecmp (first, second) == 0`. -/
def strcasecmpZero (first second : Bytes) : Bool := first.map toLower == second.map toLower

/-- `strncpy (.., 256 - 1)` into a buffer that ends in a zero. -/
def strncpy255 (source : Bytes) : { name : Bytes // name.length < 256 } :=
  ⟨source.take 255, by rw [List.length_take]; omega⟩

/-- `hev_config_parse_socks5`, once the pairs are sorted out. -/
def hevConfigParseSocks5 (settings : HevSocks5Settings) : Option HevConfigServer :=
  if settings.port.isNone then none
  else if settings.addr.isNone then none
  else if (settings.user.isSome ∧ settings.pass.isNone) ∨
      (settings.user.isNone ∧ settings.pass.isSome) then none
  else some {
    user := settings.user.map fun user => (strncpy255 user).1
    pass := settings.pass.map fun pass => (strncpy255 pass).1
    pipeline := settings.pipe.any fun pipe => strcasecmpZero pipe (utf8Bytes "true")
    udpInUdp := settings.udpm.any fun udpm => strcasecmpZero udpm (utf8Bytes "udp")
    udpAddr := match settings.udpa with
      | some udpa => strncpy255 udpa
      | none => ⟨[], by decide⟩ }

/-- A session over a connected control socket: of a TCP connection to `addr`, or of
datagrams. -/
inductive HevSocks5Session
  | tcp (addr : HevSocks5Addr)
  | udp (addrFamily : HevSocks5AddrFamily)
  deriving DecidableEq

namespace HevSocks5Client

def HEV_SOCKS5_VERSION_5 : UInt8 := 5
def HEV_SOCKS5_AUTH_METHOD_NONE : UInt8 := 0
def HEV_SOCKS5_AUTH_METHOD_USER : UInt8 := 2
def HEV_SOCKS5_AUTH_VERSION_1 : UInt8 := 1
def HEV_SOCKS5_REQ_CMD_CONNECT : UInt8 := 1
def HEV_SOCKS5_REQ_CMD_UDP_ASC : UInt8 := 3
def HEV_SOCKS5_REQ_CMD_FWD_UDP : UInt8 := 5
def HEV_SOCKS5_RES_REP_SUCC : UInt8 := 0

/-- `self->auth`, set by `hev_socks5_client_set_auth` when the server has both. -/
def auth (srv : HevConfigServer) : Option (Bytes × Bytes) :=
  match srv.user, srv.pass with
  | some user, some pass => some (user, pass)
  | _, _ => none

def sessionType (srv : HevConfigServer) : HevSocks5Session → HevSocks5Type
  | .tcp _ => .tcp
  | .udp _ => if srv.udpInUdp then .udpInUdp else .udpInTcp

theorem length_in6addr_any : (List.replicate 16 0 : Bytes).length = 16 := rfl

/-- `klass->get_upstream_addr`. -/
def getUpstreamAddr : HevSocks5Session → HevSocks5Addr
  | .tcp addr => addr
  | .udp .ipv4 => .ipv4 ⟨List.replicate 4 0, rfl⟩ ⟨0, 0⟩
  | .udp .ipv6 => .ipv6 ⟨List.replicate 16 0, length_in6addr_any⟩ ⟨0, 0⟩

/-- `klass->set_upstream_addr` of a session; the result is the peer of its UDP socket. -/
def setUpstreamAddr (resolver : Resolver) (srv : HevConfigServer) (session : HevSocks5Session)
    (addr : HevSocks5Addr) : EngineM (Option SockaddrIn6) :=
  match session with
  | .tcp _ => return none
  | .udp _ => do
    let addr := if srv.udpInUdp ∧ srv.udpAddr.1 ≠ [] then .domain srv.udpAddr addr.getPort else addr
    if sessionType srv session = .udpInUdp then
      match addr.intoSockaddr6 resolver with
      | none => throw ()
      | some saddr =>
        if ← engineCall (.connectUdp saddr) then return some saddr
        throw ()
    else return none

/-- `MSG_WAITALL` sending, where only the sign of the result is looked at. -/
def sendAll (bytes : Bytes) : EngineM Unit := do
  if (← engineCall (.send bytes)) ≤ 0 then throw ()

/-- `hev_task_io_socket_recv`, when all bytes are needed. -/
def recvAll (len : Nat) : EngineM Bytes := do
  let bytes ← ExceptT.lift (hevTaskIoSocketRecv len)
  if bytes.length ≠ len then throw ()
  return bytes

def writeAuthMethods (srv : HevConfigServer) : EngineM Unit :=
  sendAll [HEV_SOCKS5_VERSION_5, 1,
    if (auth srv).isNone then HEV_SOCKS5_AUTH_METHOD_NONE else HEV_SOCKS5_AUTH_METHOD_USER]

/-- The credentials in one message. Their lengths go through one byte each, and only
as many bytes are sent. -/
def authCreds (user pass : Bytes) : Bytes :=
  let ulen := UInt8.ofNat user.length
  let plen := UInt8.ofNat pass.length
  [HEV_SOCKS5_AUTH_VERSION_1, ulen] ++ user.take ulen.toNat ++ [plen] ++ pass.take plen.toNat

def writeAuthCreds (srv : HevConfigServer) : EngineM Unit :=
  match auth srv with
  | none => return ()
  | some (user, pass) => sendAll (authCreds user pass)

def requestCmd (srv : HevConfigServer) (session : HevSocks5Session) : UInt8 :=
  match sessionType srv session with
  | .tcp => HEV_SOCKS5_REQ_CMD_CONNECT
  | .udpInTcp => HEV_SOCKS5_REQ_CMD_FWD_UDP
  | .udpInUdp => HEV_SOCKS5_REQ_CMD_UDP_ASC

def writeRequest (srv : HevConfigServer) (session : HevSocks5Session) : EngineM Unit :=
  sendAll ([HEV_SOCKS5_VERSION_5, requestCmd srv session, 0] ++ (getUpstreamAddr session).bytes)

def readAuthMethod : EngineM UInt8 := do
  match ← recvAll 2 with
  | [ver, method] =>
    if ver ≠ HEV_SOCKS5_VERSION_5 then throw ()
    return method
  | _ => throw ()

def readAuthCreds : EngineM Unit := do
  match ← recvAll 2 with
  | [ver, rep] =>
    if ver ≠ HEV_SOCKS5_AUTH_VERSION_1 then throw ()
    if rep ≠ HEV_SOCKS5_RES_REP_SUCC then throw ()
  | _ => throw ()

/-- The address of a response, once its type is known. -/
def readBoundAddr (atype : UInt8) : EngineM HevSocks5Addr := do
  if atype = HevSocks5Addr.HEV_SOCKS5_ADDR_TYPE_IPV4 then
    let read ← recvAll 6
    match read with
    | [a, b, c, d, high, low] => return .ipv4 ⟨[a, b, c, d], rfl⟩ ⟨high, low⟩
    | _ => throw ()
  else if atype = HevSocks5Addr.HEV_SOCKS5_ADDR_TYPE_IPV6 then
    let read ← recvAll 18
    if hlength : (read.take 16).length = 16 then
      match read.drop 16 with
      | [high, low] => return .ipv6 ⟨read.take 16, hlength⟩ ⟨high, low⟩
      | _ => throw ()
    else throw ()
  else throw ()

def readResponse (resolver : Resolver) (srv : HevConfigServer) (session : HevSocks5Session) :
    EngineM (Option SockaddrIn6) := do
  match ← recvAll 4 with
  | [ver, rep, _, atype] =>
    if ver ≠ HEV_SOCKS5_VERSION_5 then throw ()
    if rep ≠ HEV_SOCKS5_RES_REP_SUCC then throw ()
    let addr ← readBoundAddr atype
    setUpstreamAddr resolver srv session addr
  | _ => throw ()

def handshakeStandard (resolver : Resolver) (srv : HevConfigServer) (session : HevSocks5Session) :
    EngineM (Option SockaddrIn6) := do
  writeAuthMethods srv
  let method ← readAuthMethod
  if method = HEV_SOCKS5_AUTH_METHOD_USER then
    writeAuthCreds srv
    readAuthCreds
  else if method ≠ HEV_SOCKS5_AUTH_METHOD_NONE then throw ()
  writeRequest srv session
  readResponse resolver srv session

def handshakePipeline (resolver : Resolver) (srv : HevConfigServer) (session : HevSocks5Session) :
    EngineM (Option SockaddrIn6) := do
  writeAuthMethods srv
  writeAuthCreds srv
  writeRequest srv session
  let method ← readAuthMethod
  if method = HEV_SOCKS5_AUTH_METHOD_USER then readAuthCreds
  else if method ≠ HEV_SOCKS5_AUTH_METHOD_NONE then throw ()
  readResponse resolver srv session

def handshake (resolver : Resolver) (srv : HevConfigServer) (session : HevSocks5Session) :
    EngineM (Option SockaddrIn6) :=
  if srv.pipeline then handshakePipeline resolver srv session
  else handshakeStandard resolver srv session

end HevSocks5Client

end AIUnblock
