import AIUnblock.Engine.Client
import AIUnblock.Foundation.Endpoints
import AIUnblock.Relay.Handshake

/-! # The handshake between the native engine and the relay

A session of the engine and a session of the relay talk over a loopback
connection. The relay's side is followed up to its reply to the request.
-/

namespace AIUnblock

open Prog LengthPrefixed
open HevSocks5Addr (ofSocketAddress)

/-! ## The relay up to its reply -/

namespace LocalSocksRelay

/-- What the relay answers a request with. -/
structure Reply where
  code : UInt8
  bound : InetSocketAddress
  deriving DecidableEq

/-- What the chosen handler does before it replies: the reply, and what it does after
it. -/
def prepare (config : RelayConfig) (client : SocketId) (request : Request) :
    RelayM (Reply × RelayM Unit) :=
  match handlerOf request with
  | some (.handleConnect original) =>
    if original.port ≠ 443 then do
      let upstream ← connectProtected original
      relayCall (.addSession upstream)
      let bound ← relayCall (.localSocketAddress upstream)
      return (⟨0, bound⟩, relayBothWays config client upstream none)
    else
      return (⟨0, unbound⟩, do
        relayCall (.setSoTimeout client TLS_SNI_TIMEOUT_MS)
        let firstPayload ← readClientHello client []
        relayCall (.setSoTimeout client 0)
        let target ← connectTarget config original firstPayload
        let upstream ← connectProtected target
        relayCall (.addSession upstream)
        relayBothWays config client upstream (some firstPayload))
  | some .handleUdpAssociate => do
    let relay ← relayCall .newDatagramSocket
    relayCall (.setOption relay .reuseAddress)
    relayCall (.bind relay { address := .wildcard6, port := 0 })
    if ← relayCall (.protect relay) then
      bindToActiveNetwork relay
      relayCall (.setSoTimeout relay 1000)
      relayCall (.addSession relay)
      let port ← relayCall (.localPort relay)
      return (⟨0, { address := .loopback, port }⟩, do
        relayCall (.execute (.watchControl client relay))
        Prog.tryFinally (receiveLoop config relay config.loops none)
          (releaseAssociation client relay))
    else
      relayCall (.close relay)
      return (⟨1, unbound⟩, pure ())
  | none => return (⟨7, unbound⟩, pure ())

/-- Every handler replies exactly once, and says nothing else before it. -/
theorem dispatch_eq (config : RelayConfig) (client : SocketId) (request : Request) :
    dispatch config client request = (do
      let prepared ← prepare config client request
      writeReply client prepared.1.code.toNat prepared.1.bound
      prepared.2) := by
  rw [dispatch, prepare]
  cases handlerOf request with
  | none =>
      simp only [pure_bind, bind_pure_unit]
      rfl
  | some handler =>
      cases handler with
      | handleConnect original =>
          simp only [Handler.body, handleConnect]
          split
          · simp only [bind_assoc, pure_bind]
            rfl
          · simp only [pure_bind]
            rfl
      | handleUdpAssociate =>
          simp only [Handler.body, handleUdpAssociate, bind_assoc]
          congr! 7 with relay _ _
          funext shielded
          split
          · simp only [bind_assoc, pure_bind]
            rfl
          · simp only [bind_assoc, pure_bind, bind_pure_unit]
            rfl

/-- A session of the relay up to its reply. -/
def serveRequest (config : RelayConfig) (client : SocketId) : RelayM Request := do
  let request ← acceptRequest config client
  let prepared ← prepare config client request
  writeReply client prepared.1.code.toNat prepared.1.bound
  return request

/-! ### The relay's end of the connection -/

/-- The control connection is the client's socket. Everything else that the relay asks
of the platform is answered by an oracle. -/
def dealing (client : SocketId) (oracle : (op : RelayOp) → op.Answer) :
    (op : RelayOp) → Dealing UInt8 op.Answer
  | .read socket room =>
    if h : socket = client ∧ 0 < room then
      .receive room h.2 fun
        | some portion => .ok (some ⟨portion.1, portion.2.1, portion.2.2⟩)
        | none => .ok none
    else .foreign
  | .write socket bytes => if socket = client then .send bytes (.ok ()) else .foreign
  | .diverge => .foreign
  | op => .internal (oracle op)

section Dealing

variable {client : SocketId} {oracle : (op : RelayOp) → op.Answer}

/-- The operations that neither touch a stream nor hang. -/
def Aside : RelayOp → Prop
  | .read _ _ | .write _ _ | .diverge => False
  | _ => True

/-- A call aside from the client's stream is answered from the oracle alone. -/
theorem Aside.consults {op : RelayOp} (haside : Aside op) :
    Consults (dealing client oracle) oracle op := by
  cases op with
  | read | write | diverge => exact haside.elim
  | _ => rfl

/-- Between the request and the reply nothing is said to the client. -/
theorem prepare_uses (config : RelayConfig) (request : Request) :
    (prepare config client request).run.Uses Aside := by
  have hnetwork : ∀ socket, (bindToActiveNetwork socket).run.Uses Aside := by
    intro socket
    apply Uses.bindE (Uses.io trivial)
    intro network
    cases network with
    | none => trivial
    | some network => exact Uses.io trivial
  have hconnect : ∀ destination, (connectProtected destination).run.Uses Aside := by
    intro destination
    apply Uses.bindE (Uses.io trivial)
    intro socket
    apply Uses.bindE (Uses.io trivial)
    intro _
    apply Uses.bindE (Uses.io trivial)
    intro shielded
    split
    next =>
      apply Uses.bindE (hnetwork socket)
      intro _
      apply Uses.bindE (Uses.io trivial)
      intro _
      apply Uses.bindE (Uses.io trivial)
      intro _
      exact Uses.bindE (Uses.io trivial) fun _ => trivial
    next => exact Uses.bindE (Uses.io trivial) fun _ => trivial
  unfold prepare
  cases handlerOf request with
  | none => trivial
  | some handler =>
      cases handler with
      | handleConnect original =>
          dsimp only
          split
          next =>
            apply Uses.bindE (hconnect original)
            intro upstream
            apply Uses.bindE (Uses.io trivial)
            intro _
            exact Uses.bindE (Uses.io trivial) fun _ => trivial
          next => trivial
      | handleUdpAssociate =>
          apply Uses.bindE (Uses.io trivial)
          intro relay
          apply Uses.bindE (Uses.io trivial)
          intro _
          apply Uses.bindE (Uses.io trivial)
          intro _
          apply Uses.bindE (Uses.io trivial)
          intro shielded
          split
          next =>
            apply Uses.bindE (hnetwork relay)
            intro _
            apply Uses.bindE (Uses.io trivial)
            intro _
            apply Uses.bindE (Uses.io trivial)
            intro _
            exact Uses.bindE (Uses.io trivial) fun _ => trivial
          next => exact Uses.bindE (Uses.io trivial) fun _ => trivial

/-- So what `prepare` does depends on the oracle only. -/
theorem prepare_consults (config : RelayConfig) (request : Request) :
    (prepare config client request).run.Uses (Consults (dealing client oracle) oracle) :=
  (prepare_uses config request).mono fun _ haside => haside.consults

/-- A read with room waits for some bytes or for the end of the stream. -/
theorem dealing_read {room : Nat} (hroom : 0 < room) :
    dealing client oracle (.read client room) = .receive room hroom fun
      | some portion => .ok (some ⟨portion.1, portion.2.1, portion.2.2⟩)
      | none => .ok none := by
  rw [dealing, dif_pos ⟨rfl, hroom⟩]

theorem dealing_write (bytes : Bytes) :
    dealing client oracle (.write client bytes) = .send bytes (.ok ()) := by
  rw [dealing, if_pos rfl]

/-- A turn of the loop of `readExactly`, once its read has been answered. -/
def exactlyAfter (client : SocketId) (count : Nat) :
    Except Exception (Option (Chunk count)) → Prog RelayOp RelayOp.Answer (Except Exception Bytes)
  | .ok (some chunk) => do
    let rest ← (readExactly client (count - chunk.bytes.length)).run
    Prog.ret (rest.map (chunk.bytes ++ ·))
  | .ok none => .ret (.error { kind := .eof })
  | .error error => .ret (.error error)

/-- `readExactly` waits before anything else. -/
theorem readExactly_run {count : Nat} (hcount : count ≠ 0) :
    (readExactly client count).run = .call (.read client count) (exactlyAfter client count) := by
  rw [readExactly, if_neg hcount]
  refine congrArg (Prog.call (RelayOp.read client count)) ?_
  funext answer
  cases answer with
  | error error => rfl
  | ok read =>
      cases read with
      | none => rfl
      | some chunk =>
          refine congrArg (Prog.bind (readExactly client (count - chunk.bytes.length)).run) ?_
          funext rest
          cases rest <;> rfl

/-- However its bytes are cut, `readExactly` puts them together. -/
theorem readExactly_gathers :
    Gathers (dealing client oracle) (fun count => (readExactly client count).run) (.ok [])
      (.error { kind := .eof }) fun chunk rest => rest.map (chunk ++ ·) where
  zero := by
    rw [readExactly_zero]
    rfl
  succ count :=
    ⟨.read client (count + 1), exactlyAfter client (count + 1), Nat.succ_pos _, _,
      readExactly_run (Nat.succ_ne_zero _), dealing_read _, fun _ => rfl, rfl⟩
  add_nil := by
    intro rest
    cases rest <;> rfl
  add_append := by
    intro first second rest
    cases rest with
    | error => rfl
    | ok rest => simp [Except.map, List.append_assoc]

/-- What `readByte` makes of the answer to its read. -/
def byteAfter : Except Exception (Option (Chunk 1)) →
    Prog RelayOp RelayOp.Answer (Except Exception Nat)
  | .ok (some ⟨bytes, hnonempty, _⟩) => .ret (.ok (bytes.head hnonempty).toNat)
  | .ok none => .ret (.error { kind := .eof })
  | .error error => .ret (.error error)

theorem readByte_run : (readByte client).run = .call (.read client 1) byteAfter := by
  refine congrArg (Prog.call (RelayOp.read client 1)) ?_
  funext answer
  cases answer with
  | error error => rfl
  | ok read => cases read <;> rfl

/-! ### The relay is steady -/

/-- What a byte is read as does not depend on the cut either. -/
theorem readByte_steady : (readByte client).run.Steady (dealing client oracle) := by
  rw [readByte_run]
  refine Steady.call_receive (dealing_read Nat.one_pos) (fun _ => trivial) ?_ trivial
  rintro ⟨chunk, hnonempty, hfits⟩
  rw [party_receive (dealing_read Nat.one_pos)]
  cases chunk with
  | nil => contradiction
  | cons byte others =>
      obtain rfl : others = [] := List.length_eq_zero_iff.mp (by simpa using hfits)
      rfl

theorem readExactly_steady (count : Nat) :
    (readExactly client count).run.Steady (dealing client oracle) :=
  readExactly_gathers.steady count

/-- Nor does a field with its length in front. -/
theorem readVector_steady : (readVector client).run.Steady (dealing client oracle) :=
  readByte_steady.bindE readExactly_steady

theorem throwIf_steady {condition : Prop} [Decidable condition] {error : Exception} :
    (throwIf condition error).run.Steady (dealing client oracle) := by
  unfold throwIf
  split <;> trivial

theorem write_steady (bytes : Bytes) :
    (relayCall (.write client bytes)).run.Steady (dealing client oracle) :=
  Steady.call_send (dealing_write bytes) trivial

theorem consult_steady {op : RelayOp} (haside : Aside op) :
    (relayCall op).run.Steady (dealing client oracle) :=
  Steady.call_internal haside.consults trivial

/-- The cuts of the stream do not matter for `negotiate`. -/
theorem negotiate_steady (config : RelayConfig) :
    (negotiate config client).run.Steady (dealing client oracle) := by
  rw [negotiate_eq]
  apply readByte_steady.bindE
  intro version
  apply throwIf_steady.bindE
  intro _
  apply readVector_steady.bindE
  intro methods
  split
  next =>
    apply (write_steady _).bindE
    intro _
    apply readByte_steady.bindE
    intro version
    apply throwIf_steady.bindE
    intro _
    apply readVector_steady.bindE
    intro receivedUsername
    apply readVector_steady.bindE
    intro receivedPassword
    exact (write_steady _).bindE fun _ => throwIf_steady
  next => exact (write_steady _).bindE fun _ => trivial

/-- Nor for an address of any type. -/
theorem readAddress_steady (type : Nat) :
    (readAddress client type).run.Steady (dealing client oracle) := by
  unfold readAddress
  split
  next => exact (readExactly_steady 4).bindE fun _ => trivial
  next =>
    split
    next => exact (readExactly_steady 16).bindE fun _ => trivial
    next =>
      split
      next =>
        apply readByte_steady.bindE
        intro length
        exact (readExactly_steady length).bindE fun _ => consult_steady trivial
      next => trivial

/-- The relay's side of a handshake ends in the same way however its stream is cut. -/
theorem serveRequest_steady (config : RelayConfig) :
    (serveRequest config client).run.Steady (dealing client oracle) := by
  have hrequest : (readRequest client).run.Steady (dealing client oracle) := by
    apply readByte_steady.bindE
    intro version
    apply throwIf_steady.bindE
    intro _
    apply readByte_steady.bindE
    intro command
    apply readByte_steady.bindE
    intro _
    apply readByte_steady.bindE
    intro type
    apply (readAddress_steady type).bindE
    intro address
    apply readByte_steady.bindE
    intro high
    exact readByte_steady.bindE fun _ => trivial
  apply Steady.bindE ((negotiate_steady config).bindE fun _ => hrequest)
  intro request
  apply (Steady.of_consults (prepare_consults config request)).bindE
  intro prepared
  exact (write_steady _).bindE fun _ => trivial

/-! ### What the relay takes and says -/

/-- `readByte` takes one byte and says nothing. -/
theorem readByte_tells (byte : UInt8) :
    Tells (dealing client oracle) (readByte client).run [byte] [] (.ok byte.toNat) := by
  rw [Tells, readByte_run, party_receive (dealing_read Nat.one_pos)]
  exact .receive .still

/-- `readExactly` takes as many bytes as it is asked for. -/
theorem readExactly_tells (bytes : Bytes) :
    Tells (dealing client oracle) (readExactly client bytes.length).run bytes [] (.ok bytes) := by
  have htells := Tells.gathers (@readExactly_gathers client oracle) bytes
  rwa [Except.map, List.append_nil] at htells

/-- A field of fewer than 256 bytes is read back. -/
theorem readVector_tells {content : Bytes} (hlength : content.length < 256) :
    Tells (dealing client oracle) (readVector client).run (vector 1 content) [] (.ok content) := by
  have hcount : (UInt8.ofNat content.length).toNat = content.length := by
    rw [UInt8.toNat_ofNat', Nat.mod_eq_of_lt hlength]
  refine Tells.bindE (readByte_tells (UInt8.ofNat content.length)) ?_
  rw [hcount]
  exact readExactly_tells content

/-- A test that is passed costs nothing. -/
theorem throwIf_tells {condition : Prop} [Decidable condition] {error : Exception}
    (hcondition : ¬ condition) :
    Tells (dealing client oracle) (throwIf condition error).run [] [] (.ok ()) := by
  rw [throwIf, if_neg hcondition]
  exact .ret

/-- A test that fails ends with its exception, before anything is read. -/
theorem throwIf_tells_error {condition : Prop} [Decidable condition] {error : Exception}
    (hcondition : condition) :
    Tells (dealing client oracle) (throwIf condition error).run [] [] (.error error) := by
  rw [throwIf, if_pos hcondition]
  exact .ret

theorem write_tells (bytes : Bytes) :
    Tells (dealing client oracle) (relayCall (.write client bytes)).run [] bytes (.ok ()) := by
  have hsend : Tells (dealing client oracle) (relayCall (.write client bytes)).run [] (bytes ++ [])
      (.ok ()) := Tells.send (dealing_write bytes) .ret
  rwa [List.append_nil] at hsend

/-- The first half of `negotiate`: the choice of a method. -/
def chooseMethod (client : SocketId) : RelayM Unit := do
  throwIf ((← readByte client) ≠ SOCKS_VERSION)
    { kind := .eof, message := "Unsupported SOCKS version" }
  let methods ← readVector client
  if 2 ∈ methods then relayCall (.write client [5, 2])
  else
    relayCall (.write client [5, 0xff])
    throw { kind := .eof, message := "No supported authentication method" }

/-- `negotiate` is the choice of a method and then the login. -/
theorem negotiate_eq_choose (config : RelayConfig) :
    negotiate config client = chooseMethod client >>= fun _ => authenticate config client := by
  rw [negotiate_eq, chooseMethod]
  simp only [bind_assoc]
  congr
  funext version
  congr
  funext _
  congr
  funext methods
  split
  next => rfl
  next =>
    rw [bind_assoc]
    rfl

/-- A client that offers the login is told to use it. -/
theorem chooseMethod_tells {methods : Bytes} (hlength : methods.length < 256)
    (hoffered : 2 ∈ methods) :
    Tells (dealing client oracle) (chooseMethod client).run ([5] ++ vector 1 methods) [5, 2]
      (.ok ()) := by
  refine Tells.bindE (readByte_tells 5) ?_
  refine Tells.bindE (throwIf_tells (by decide)) ?_
  refine Tells.bindE_last (readVector_tells hlength) ?_
  rw [if_pos hoffered]
  exact write_tells _

/-- A client that does not offer it is refused, and the session ends. -/
theorem chooseMethod_refuses {methods : Bytes} (hlength : methods.length < 256)
    (hoffered : 2 ∉ methods) :
    Tells (dealing client oracle) (chooseMethod client).run ([5] ++ vector 1 methods) [5, 0xff]
      (.error { kind := .eof, message := "No supported authentication method" }) := by
  refine Tells.bindE (readByte_tells 5) ?_
  refine Tells.bindE (throwIf_tells (by decide)) ?_
  refine Tells.bindE_last (readVector_tells hlength) ?_
  rw [if_neg hoffered]
  exact Tells.bindE (write_tells [5, 0xff]) .ret

/-- What `authenticate` makes of a name and a password. -/
def verdict (config : RelayConfig) (user pass : Bytes) : Except Exception Unit :=
  if user = username ∧ pass = config.password then .ok ()
  else .error { kind := .eof, message := "Authentication failed" }

/-- The login is answered with its verdict, and only the right one goes on. -/
theorem authenticate_tells (config : RelayConfig) {user pass : Bytes} (huser : user.length < 256)
    (hpass : pass.length < 256) :
    Tells (dealing client oracle) (authenticate config client).run
      ([1] ++ (vector 1 user ++ vector 1 pass))
      [1, if user = username ∧ pass = config.password then 0 else 1]
      (verdict config user pass) := by
  refine Tells.bindE (readByte_tells 1) ?_
  refine Tells.bindE (throwIf_tells (by decide)) ?_
  refine Tells.bindE (readVector_tells huser) ?_
  refine Tells.bindE_last (readVector_tells hpass) ?_
  refine Tells.bindE (write_tells _) ?_
  unfold verdict
  split
  next hvalid => exact throwIf_tells (not_not_intro hvalid)
  next hvalid => exact throwIf_tells_error hvalid

/-- The address that the relay reads. -/
def addressOf (oracle : (op : RelayOp) → op.Answer) (addr : HevSocks5Addr) :
    Except Exception InetAddress :=
  addr.inetAddress fun host => oracle (.getByName host)

/-- An address that the engine writes is read as the one it stands for. -/
theorem readAddress_tells (addr : HevSocks5Addr) :
    Tells (dealing client oracle) (readAddress client addr.atype.toNat).run addr.content []
      (addressOf oracle addr) := by
  cases addr with
  | ipv4 addr port =>
      have hread := @readExactly_tells client oracle addr.1
      rw [addr.2] at hread
      rw [show (HevSocks5Addr.ipv4 addr port).atype.toNat = ADDRESS_IPV4 from rfl, readAddress,
        if_pos rfl, HevSocks5Addr.content]
      refine Tells.bindE_last hread ?_
      rw [InetAddress.getByAddress, dif_pos addr.2]
      exact .ret
  | ipv6 addr port =>
      have hread := @readExactly_tells client oracle addr.1
      rw [addr.2] at hread
      rw [show (HevSocks5Addr.ipv6 addr port).atype.toNat = ADDRESS_IPV6 from rfl, readAddress,
        if_neg (by decide), if_pos rfl, HevSocks5Addr.content]
      exact Tells.bindE_last hread .ret
  | domain name port =>
      have hcount : (UInt8.ofNat name.1.length).toNat = name.1.length := by
        rw [UInt8.toNat_ofNat', Nat.mod_eq_of_lt name.2]
      rw [show (HevSocks5Addr.domain name port).atype.toNat = ADDRESS_DOMAIN from rfl,
        readAddress, if_neg (by decide), if_neg (by decide), if_pos rfl, HevSocks5Addr.content]
      change Tells _ _ ([UInt8.ofNat name.1.length] ++ name.1) ([] ++ []) _
      refine Tells.bindE (readByte_tells _) ?_
      rw [hcount]
      exact Tells.bindE_last (readExactly_tells name.1) (.internal (Aside.consults trivial) .ret)

/-- A request of the engine is read as its command and its destination. -/
theorem readRequest_tells (command reserved : UInt8) {addr : HevSocks5Addr} {address : InetAddress}
    (haddress : addressOf oracle addr = .ok address) :
    Tells (dealing client oracle) (readRequest client).run ([5, command, reserved] ++ addr.bytes) []
      (.ok ⟨command.toNat, { address, port := ntohs addr.getPort }⟩) := by
  have hread := @readAddress_tells client oracle addr
  rw [haddress] at hread
  have hbytes : [5, command, reserved] ++ addr.bytes = [5] ++ ([command] ++ ([reserved] ++
      ([addr.atype] ++ (addr.content ++ ([addr.getPort.high] ++ [addr.getPort.low]))))) := by
    simp [HevSocks5Addr.bytes, NetPort.bytes]
  rw [hbytes]
  refine Tells.bindE (readByte_tells 5) ?_
  refine Tells.bindE (throwIf_tells (by decide)) ?_
  refine Tells.bindE (readByte_tells command) ?_
  refine Tells.bindE (readByte_tells reserved) ?_
  refine Tells.bindE (readByte_tells addr.atype) ?_
  refine Tells.bindE hread ?_
  refine Tells.bindE (readByte_tells addr.getPort.high) ?_
  exact Tells.bindE_last (readByte_tells addr.getPort.low) .ret

/-- A name that does not resolve ends the session before its port is read. -/
theorem readRequest_fails (command reserved : UInt8) {addr : HevSocks5Addr} {error : Exception}
    (haddress : addressOf oracle addr = .error error) :
    Tells (dealing client oracle) (readRequest client).run
      ([5, command, reserved] ++ ([addr.atype] ++ addr.content)) [] (.error error) := by
  have hread := @readAddress_tells client oracle addr
  rw [haddress] at hread
  change Tells _ _ ([5] ++ ([command] ++ ([reserved] ++ ([addr.atype] ++ addr.content)))) [] _
  refine Tells.bindE (readByte_tells 5) ?_
  refine Tells.bindE (throwIf_tells (by decide)) ?_
  refine Tells.bindE (readByte_tells command) ?_
  refine Tells.bindE (readByte_tells reserved) ?_
  refine Tells.bindE (readByte_tells addr.atype) ?_
  exact Tells.bindE_error hread

/-- The relay's request and reply, once the client has authenticated itself. -/
def answerRequest (config : RelayConfig) (client : SocketId) : RelayM Request := do
  let request ← readRequest client
  let prepared ← prepare config client request
  writeReply client prepared.1.code.toNat prepared.1.bound
  return request

/-- The relay's side in three parts: the method, the login and the request. -/
theorem serveRequest_eq (config : RelayConfig) (client : SocketId) :
    serveRequest config client = chooseMethod client >>= fun _ =>
      authenticate config client >>= fun _ => answerRequest config client := by
  rw [serveRequest, acceptRequest, negotiate_eq_choose, answerRequest]
  simp only [bind_assoc]

/-- The reply to a request that has been read, or the exception that ends the session. -/
def answer (oracle : (op : RelayOp) → op.Answer) (config : RelayConfig) (client : SocketId)
    (request : Request) : Except Exception (Request × Reply) :=
  ((prepare config client request).run.eval oracle).map fun prepared => (request, prepared.1)

/-- What comes of a request for `addr`. -/
def answered (oracle : (op : RelayOp) → op.Answer) (config : RelayConfig) (client : SocketId)
    (command : UInt8) (addr : HevSocks5Addr) : Except Exception (Request × Reply) :=
  match addressOf oracle addr with
  | .ok address =>
    answer oracle config client ⟨command.toNat, { address, port := ntohs addr.getPort }⟩
  | .error error => .error error

/-- What the relay leaves unread of a request for `addr`. -/
def unread (oracle : (op : RelayOp) → op.Answer) (addr : HevSocks5Addr) : Bytes :=
  match addressOf oracle addr with
  | .ok _ => []
  | .error _ => addr.getPort.bytes

/-- The reply on the wire, if there is one. -/
def replied : Except Exception (Request × Reply) → Bytes
  | .ok (_, reply) => encodeReply reply.code.toNat reply.bound
  | .error _ => []

/-- Once the request is read, the reply is the one that the oracle decides. -/
theorem prepareReply_tells (config : RelayConfig) (request : Request) :
    Tells (dealing client oracle)
      (prepare config client request >>= fun prepared =>
        writeReply client prepared.1.code.toNat prepared.1.bound >>= fun _ => pure request).run []
      (replied (answer oracle config client request))
      ((answer oracle config client request).map Prod.fst) := by
  have hprepare := Tells.eval (@prepare_consults client oracle config request)
  rw [answer]
  generalize (prepare config client request).run.eval oracle = result at hprepare ⊢
  cases result with
  | error error => exact Tells.bindE_error hprepare
  | ok prepared => exact Tells.bindE hprepare (Tells.bindE_quiet (write_tells _) .ret)

/-- A request is answered in every case, also when its address is left unread in part. -/
theorem answerRequest_tells (config : RelayConfig) (command reserved : UInt8)
    (addr : HevSocks5Addr) :
    ∃ taken, taken ++ unread oracle addr = [5, command, reserved] ++ addr.bytes ∧
      Tells (dealing client oracle) (answerRequest config client).run taken
        (replied (answered oracle config client command addr))
        ((answered oracle config client command addr).map Prod.fst) := by
  unfold unread answered
  cases haddress : addressOf oracle addr with
  | error error =>
      refine ⟨_, ?_, Tells.bindE_error (readRequest_fails command reserved haddress)⟩
      simp [HevSocks5Addr.bytes]
  | ok address =>
      exact ⟨_, List.append_nil _, Tells.bindE_last
        (readRequest_tells command reserved haddress) (prepareReply_tells config _)⟩

end Dealing

end LocalSocksRelay

/-! ## The engine's end of the connection -/

namespace HevSocks5Client

/-- No socket call of the engine fails. -/
def dealing : (op : EngineOp) → Dealing UInt8 op.Answer
  | .recv room =>
    if hroom : 0 < room then
      .receive room hroom fun
        | some portion => .bytes ⟨portion.1, portion.2.1, portion.2.2⟩
        | none => .ended
    else .foreign
  | .send bytes => .send bytes bytes.length
  | .connectUdp _ => .internal true

/-- The engine's read waits in the same way. -/
theorem dealing_recv {room : Nat} (hroom : 0 < room) :
    dealing (.recv room) = .receive room hroom fun
      | some portion => .bytes ⟨portion.1, portion.2.1, portion.2.2⟩
      | none => .ended := by
  rw [dealing, dif_pos hroom]

/-- A turn of the loop of `hev_task_io_socket_recv`, once `recv` has been answered. -/
def recvAfter (len : Nat) : Received len → Prog EngineOp EngineOp.Answer Bytes
  | .bytes chunk => do
    let rest ← hevTaskIoSocketRecv (len - chunk.bytes.length)
    Prog.ret (chunk.bytes ++ rest)
  | .ended => .ret []
  | .failed => .ret []

/-- `hevTaskIoSocketRecv` waits before anything else. -/
theorem recv_eq {len : Nat} (hlen : len ≠ 0) :
    hevTaskIoSocketRecv len = .call (.recv len) (recvAfter len) := by
  rw [hevTaskIoSocketRecv, if_neg hlen]
  refine congrArg (Prog.call (EngineOp.recv len)) ?_
  funext answer
  cases answer <;> rfl

/-- It puts its bytes together however they are cut. -/
theorem recv_gathers : Gathers dealing hevTaskIoSocketRecv [] [] (· ++ ·) where
  zero := by rw [hevTaskIoSocketRecv, if_pos rfl]
  succ len :=
    ⟨.recv (len + 1), recvAfter (len + 1), Nat.succ_pos _, _, recv_eq (Nat.succ_ne_zero _),
      dealing_recv _, fun _ => rfl, rfl⟩
  add_nil _ := rfl
  add_append := List.append_assoc

/-! ### The engine is steady -/

theorem lift_recv_steady (len : Nat) :
    (ExceptT.lift (ε := Unit) (hevTaskIoSocketRecv len)).run.Steady dealing :=
  (recv_gathers.steady len).bind fun _ => trivial

theorem send_steady (bytes : Bytes) : (engineCall (.send bytes)).run.Steady dealing :=
  Steady.call_send rfl trivial

theorem connectUdp_steady (address : SockaddrIn6) :
    (engineCall (.connectUdp address)).run.Steady dealing :=
  Steady.call_internal rfl trivial

/-- The cuts of the relay's stream do not matter for `recvAll`. -/
theorem recvAll_steady (len : Nat) : (recvAll len).run.Steady dealing := by
  apply (lift_recv_steady len).bindE
  intro bytes
  split <;> trivial

theorem sendAll_steady (bytes : Bytes) : (sendAll bytes).run.Steady dealing := by
  apply (send_steady bytes).bindE
  intro res
  split <;> trivial

theorem writeAuthCreds_steady (srv : HevConfigServer) :
    (writeAuthCreds srv).run.Steady dealing := by
  unfold writeAuthCreds
  split
  next => trivial
  next => exact sendAll_steady _

theorem readAuthMethod_steady : readAuthMethod.run.Steady dealing := by
  apply (recvAll_steady 2).bindE
  intro bytes
  split
  next =>
    dsimp only
    split <;> trivial
  next => trivial

theorem readAuthCreds_steady : readAuthCreds.run.Steady dealing := by
  apply (recvAll_steady 2).bindE
  intro bytes
  split
  next =>
    dsimp only
    split
    next => trivial
    next => split <;> trivial
  next => trivial

theorem readBoundAddr_steady (atype : UInt8) : (readBoundAddr atype).run.Steady dealing := by
  unfold readBoundAddr
  split
  next =>
    apply (recvAll_steady 6).bindE
    intro bytes
    split <;> trivial
  next =>
    split
    next =>
      apply (recvAll_steady 18).bindE
      intro bytes
      split
      next => split <;> trivial
      next => trivial
    next => trivial

variable {resolver : Resolver} {srv : HevConfigServer} {session : HevSocks5Session}

theorem setUpstreamAddr_steady (addr : HevSocks5Addr) :
    (setUpstreamAddr resolver srv session addr).run.Steady dealing := by
  unfold setUpstreamAddr
  split
  next => trivial
  next =>
    dsimp only
    split
    next =>
      split
      next => trivial
      next =>
        apply (connectUdp_steady _).bindE
        intro connected
        split <;> trivial
    next => trivial

/-- Nor for the reply, whatever it makes of the address in it. -/
theorem readResponse_steady : (readResponse resolver srv session).run.Steady dealing := by
  apply (recvAll_steady 4).bindE
  intro bytes
  split
  next ver rep _ atype =>
    dsimp only
    split
    next => trivial
    next =>
      split
      next => trivial
      next => exact (readBoundAddr_steady atype).bindE setUpstreamAddr_steady
  next => trivial

/-- The engine's side of a handshake ends in the same way however its stream is cut. -/
theorem handshake_steady : (handshake resolver srv session).run.Steady dealing := by
  unfold handshake
  split
  next =>
    apply (sendAll_steady _).bindE
    intro _
    apply (writeAuthCreds_steady srv).bindE
    intro _
    apply (sendAll_steady _).bindE
    intro _
    apply readAuthMethod_steady.bindE
    intro method
    dsimp only
    split
    next => exact readAuthCreds_steady.bindE fun _ => readResponse_steady
    next =>
      split
      next => trivial
      next => exact readResponse_steady
  next =>
    have hrequest : (writeRequest srv session >>= fun _ =>
        readResponse resolver srv session).run.Steady dealing :=
      (sendAll_steady _).bindE fun _ => readResponse_steady
    apply (sendAll_steady _).bindE
    intro _
    apply readAuthMethod_steady.bindE
    intro method
    dsimp only
    split
    next =>
      apply (writeAuthCreds_steady srv).bindE
      intro _
      exact readAuthCreds_steady.bindE fun _ => hrequest
    next =>
      split
      next => trivial
      next => exact hrequest

/-! ### What the engine takes and says -/

/-- `recvAll` takes as many bytes as it is asked for. -/
theorem recvAll_tells (bytes : Bytes) :
    Tells dealing (recvAll bytes.length).run bytes [] (.ok bytes) := by
  have hrecv : Tells dealing (ExceptT.lift (ε := Unit) (hevTaskIoSocketRecv bytes.length)).run
      (bytes ++ []) ([] ++ []) (.ok (bytes ++ [])) :=
    Tells.bind (Tells.gathers recv_gathers bytes) .ret
  rw [List.append_nil] at hrecv
  refine Tells.bindE_quiet hrecv ?_
  rw [if_neg (not_not_intro rfl)]
  exact .ret

/-- `sendAll` says its bytes in one piece. -/
theorem sendAll_tells {bytes : Bytes} (hbytes : bytes ≠ []) :
    Tells dealing (sendAll bytes).run [] bytes (.ok ()) := by
  have hsend : Tells dealing (engineCall (.send bytes)).run [] (bytes ++ [])
      (.ok (bytes.length : Int)) := Tells.send rfl .ret
  rw [List.append_nil] at hsend
  have hpos : ¬ (bytes.length : Int) ≤ 0 := by
    have hlength := List.length_pos_iff.mpr hbytes
    omega
  refine Tells.bindE_quiet hsend ?_
  rw [if_neg hpos]
  exact .ret

/-- The method that the engine offers. -/
def offered (srv : HevConfigServer) : UInt8 :=
  if (auth srv).isNone then HEV_SOCKS5_AUTH_METHOD_NONE else HEV_SOCKS5_AUTH_METHOD_USER

/-- The engine offers one method. -/
theorem writeAuthMethods_tells (srv : HevConfigServer) :
    Tells dealing (writeAuthMethods srv).run [] ([5] ++ vector 1 [offered srv]) (.ok ()) :=
  sendAll_tells (List.cons_ne_nil _ _)

/-- What arrives of a name or a password. -/
def sent (field : Bytes) : Bytes := field.take (UInt8.ofNat field.length).toNat

theorem length_sent (field : Bytes) : (sent field).length = field.length % 256 := by
  rw [sent, List.length_take, UInt8.toNat_ofNat']
  exact Nat.min_eq_left (Nat.mod_le _ _)

/-- The length byte wraps around like the field it stands before. -/
theorem vector_sent (field : Bytes) :
    vector 1 (sent field) = UInt8.ofNat field.length :: sent field := by
  rw [vector_one, length_sent, show 256 = 2 ^ 8 from rfl, UInt8.ofNat_mod_size]

/-- The login is two fields with their lengths in front. -/
theorem authCreds_eq (user pass : Bytes) :
    authCreds user pass = [1] ++ (vector 1 (sent user) ++ vector 1 (sent pass)) := by
  rw [vector_sent, vector_sent]
  simp [authCreds, sent, HEV_SOCKS5_AUTH_VERSION_1]

/-- The request is the command and the address of the session. -/
theorem writeRequest_tells (srv : HevConfigServer) (session : HevSocks5Session) :
    Tells dealing (writeRequest srv session).run []
      ([5, requestCmd srv session, 0] ++ (getUpstreamAddr session).bytes) (.ok ()) :=
  sendAll_tells (List.cons_ne_nil _ _)

/-- The method is read back, whichever it is. -/
theorem readAuthMethod_tells (method : UInt8) :
    Tells dealing readAuthMethod.run [5, method] [] (.ok method) :=
  Tells.bindE_last (recvAll_tells [5, method]) .ret

/-- A verdict of zero lets the engine go on. -/
theorem readAuthCreds_tells : Tells dealing readAuthCreds.run [1, 0] [] (.ok ()) :=
  Tells.bindE_last (recvAll_tells [1, 0]) .ret

/-- Any other verdict ends its session. -/
theorem readAuthCreds_fails : Tells dealing readAuthCreds.run [1, 1] [] (.error ()) :=
  Tells.bindE_last (recvAll_tells [1, 1]) .ret

/-- A reply is laid out like a request. -/
theorem encodeReply_eq (code : UInt8) (bound : InetSocketAddress) :
    LocalSocksRelay.encodeReply code.toNat bound = [5, code, 0, (ofSocketAddress bound).atype] ++
      ((ofSocketAddress bound).content ++ (ofSocketAddress bound).getPort.bytes) := by
  obtain ⟨octets | octets, port⟩ := bound <;>
    simp [LocalSocksRelay.encodeReply, ofSocketAddress, InetAddress.isInet4, InetAddress.octets,
      HevSocks5Addr.atype, HevSocks5Addr.content, HevSocks5Addr.getPort, NetPort.bytes, htons,
      LocalSocksRelay.SOCKS_VERSION, LocalSocksRelay.ADDRESS_IPV4, LocalSocksRelay.ADDRESS_IPV6,
      HevSocks5Addr.HEV_SOCKS5_ADDR_TYPE_IPV4, HevSocks5Addr.HEV_SOCKS5_ADDR_TYPE_IPV6]

/-- The address of a reply is read back. -/
theorem readBoundAddr_tells (bound : InetSocketAddress) :
    Tells dealing (readBoundAddr (ofSocketAddress bound).atype).run
      ((ofSocketAddress bound).content ++ (ofSocketAddress bound).getPort.bytes) []
      (.ok (ofSocketAddress bound)) := by
  obtain ⟨⟨octets, hlength⟩ | ⟨octets, hlength⟩, port⟩ := bound
  · obtain ⟨a, b, c, d, rfl⟩ : ∃ a b c d, octets = [a, b, c, d] := by
      match octets, hlength with
      | [a, b, c, d], _ => exact ⟨a, b, c, d, rfl⟩
    change Tells dealing (readBoundAddr HevSocks5Addr.HEV_SOCKS5_ADDR_TYPE_IPV4).run _ _ _
    rw [readBoundAddr, if_pos rfl]
    exact Tells.bindE_last (recvAll_tells [a, b, c, d, (htons port).high, (htons port).low]) .ret
  · have hread := recvAll_tells (octets ++ (htons port).bytes)
    have hcount : (octets ++ (htons port).bytes).length = 18 := by
      rw [List.length_append, hlength]
      rfl
    rw [hcount] at hread
    change Tells dealing (readBoundAddr HevSocks5Addr.HEV_SOCKS5_ADDR_TYPE_IPV6).run _ _ _
    rw [readBoundAddr, if_neg (by decide), if_pos rfl]
    refine Tells.bindE_last hread ?_
    have htake : (octets ++ (htons port).bytes).take 16 = octets := List.take_left' hlength
    have hdrop : (octets ++ (htons port).bytes).drop 16 = [(htons port).high, (htons port).low] :=
      List.drop_left' hlength
    rw [dif_pos (by rw [htake, hlength])]
    simp only [hdrop, htake]
    exact .ret

end HevSocks5Client

end AIUnblock
