import AIUnblock.Engine.Handshake

/-! # The two ends agree on the handshake

However the bytes are cut and whoever moves first, the handshake of a session ends
in one way. With the right credentials both ends have the same request and the
same reply.
-/

namespace AIUnblock

open Prog Conversation LengthPrefixed
open LocalSocksRelay (Request Reply)
open HevSocks5Addr (ofSocketAddress)

namespace HevSocks5Client

/-- How the platform answers what an end of the connection does not. -/
def oracle : (op : EngineOp) → op.Answer
  | .recv _ => .ended
  | .send bytes => (bytes.length : Int)
  | .connectUdp _ => true

/-- What a session makes of the address in a successful reply. -/
def upstream (resolver : Resolver) (srv : HevConfigServer) (session : HevSocks5Session)
    (bound : InetSocketAddress) : Except Unit (Option SockaddrIn6) :=
  (setUpstreamAddr resolver srv session (ofSocketAddress bound)).run.eval oracle

/-- How the handshake ends, given what came of the request. -/
def concluded (resolver : Resolver) (srv : HevConfigServer) (session : HevSocks5Session) :
    Except Exception (Request × Reply) → Except Unit (Option SockaddrIn6)
  | .ok (_, reply) =>
    if reply.code = HEV_SOCKS5_RES_REP_SUCC then upstream resolver srv session reply.bound
    else .error ()
  | .error _ => .error ()

/-- What the handshake leaves unread of the reply. -/
def unheard : Except Exception (Request × Reply) → Bytes
  | .ok (_, reply) =>
    if reply.code = HEV_SOCKS5_RES_REP_SUCC then []
    else (ofSocketAddress reply.bound).content ++ (ofSocketAddress reply.bound).getPort.bytes
  | .error _ => []

section Response

variable {resolver : Resolver} {srv : HevConfigServer} {session : HevSocks5Session}

/-- The address for the upstream is decided without the relay. -/
theorem setUpstreamAddr_uses (addr : HevSocks5Addr) :
    (setUpstreamAddr resolver srv session addr).run.Uses (Consults dealing oracle) := by
  unfold setUpstreamAddr
  split
  next => trivial
  next =>
    dsimp only
    split
    next =>
      split
      next => trivial
      next =>
        have hconnect : ∀ saddr,
            (engineCall (.connectUdp saddr)).run.Uses (Consults dealing oracle) :=
          fun _ => ⟨rfl, fun _ => trivial⟩
        apply Uses.bindE (hconnect _)
        intro connected
        split <;> trivial
    next => trivial

/-- A reply that grants is read, and the session goes to the address in it. -/
theorem readResponse_tells {reply : Reply}
    (hcode : reply.code = HEV_SOCKS5_RES_REP_SUCC) :
    Tells dealing (readResponse resolver srv session).run
      (LocalSocksRelay.encodeReply reply.code.toNat reply.bound) []
      (upstream resolver srv session reply.bound) := by
  rw [encodeReply_eq]
  refine Tells.bindE (recvAll_tells [5, reply.code, 0, (ofSocketAddress reply.bound).atype]) ?_
  dsimp only
  rw [if_neg (by decide), if_neg (not_not_intro hcode)]
  exact Tells.bindE_last (readBoundAddr_tells reply.bound) (Tells.eval (setUpstreamAddr_uses _))

/-- A reply that refuses ends the session after its fourth byte. -/
theorem readResponse_refused {code atype : UInt8} (hcode : code ≠ HEV_SOCKS5_RES_REP_SUCC) :
    Tells dealing (readResponse resolver srv session).run [5, code, 0, atype] [] (.error ()) := by
  refine Tells.bindE_last (recvAll_tells [5, code, 0, atype]) ?_
  dsimp only
  rw [if_neg (by decide), if_pos hcode]
  exact .ret

theorem recvAll_run (len : Nat) : (recvAll len).run = hevTaskIoSocketRecv len >>= fun bytes =>
    (if bytes.length ≠ len then throw () else pure bytes : EngineM Bytes).run :=
  Prog.bind_bind (hevTaskIoSocketRecv len) _ _

/-- A stream that ends before the bytes are there ends the session. -/
theorem recvAll_ended (len : Nat) : FailsAtEnd dealing (recvAll (len + 1)) () := by
  rw [FailsAtEnd, recvAll_run]
  exact recv_gathers.party_ended len _

/-- So does one that ends before the reply. -/
theorem readResponse_ended : FailsAtEnd dealing (readResponse resolver srv session) () :=
  (recvAll_ended 3).bindE _

end Response

section Phases

variable {srv : HevConfigServer} {user pass : Bytes}

/-- With a user and a password the engine offers the login. -/
theorem offered_user (hauth : auth srv = some (user, pass)) : offered srv = 2 := by
  rw [offered, hauth]
  rfl

/-- And sends both, cut to what a length byte can say. -/
theorem writeAuthCreds_tells (hauth : auth srv = some (user, pass)) :
    Tells dealing (writeAuthCreds srv).run []
      ([1] ++ (vector 1 (sent user) ++ vector 1 (sent pass))) (.ok ()) := by
  rw [writeAuthCreds, hauth, ← authCreds_eq]
  exact sendAll_tells (List.cons_ne_nil _ _)

end Phases

end HevSocks5Client

/-- A session of the relay and one of the engine, on one connection. -/
abbrev HandshakeTalk : Type :=
  Talk UInt8 RelayOp RelayOp.Answer (Except Exception Request)
    EngineOp EngineOp.Answer (Except Unit (Option SockaddrIn6))

abbrev HandshakeParties : Type :=
  Conversation UInt8 (Option (Except Exception Request)) (Option (Except Unit (Option SockaddrIn6)))

/-- An end that has thrown is closed. -/
def hasThrown {ε α : Type} : Except ε α → Bool
  | .ok _ => false
  | .error _ => true

/-- A run of the two parties. -/
abbrev Runs (parties parties' : HandshakeParties) : Prop :=
  Reaches (Talk.closesSome hasThrown) (Talk.closesSome hasThrown) parties parties'

/-- The engine's request for a session. -/
def requestBytes (srv : HevConfigServer) (session : HevSocks5Session) : Bytes :=
  [5, HevSocks5Client.requestCmd srv session, 0] ++ (HevSocks5Client.getUpstreamAddr session).bytes

/-- The credentials that arrive are the relay's. -/
def Accepted (config : RelayConfig) (srv : HevConfigServer) : Prop :=
  match HevSocks5Client.auth srv with
  | some (user, pass) => HevSocks5Client.sent user = LocalSocksRelay.username ∧
    HevSocks5Client.sent pass = config.password
  | none => False

/-- A platform on which the calls of the relay succeed. -/
def obliging : (op : RelayOp) → op.Answer
  | .read _ _ => .ok none
  | .newSocket => .ok 1
  | .newDatagramSocket => .ok 1
  | .protect _ => .ok true
  | .activeNetwork => .ok none
  | .localSocketAddress _ => .ok ⟨.loopback, 40000⟩
  | .localPort _ => .ok 40000
  | .isClosed _ => .ok false
  | .receive _ => .error { kind := .socketTimeout }
  | .getByName _ => .ok .loopback
  | .getAllByName _ _ => .ok []
  | .gatewayAddress _ => .ok .loopback
  | .diverge => .error { kind := .io }
  | .write _ _ | .setSoTimeout _ _ | .setOption _ _ | .bind _ _ | .bindSocket _ _ | .connect _ _ _
  | .close _ | .send _ _ _ | .addSession _ | .removeSession _ | .execute _ => .ok ()

theorem length_loopback : ([127, 0, 0, 1] : Bytes).length = 4 := rfl

/-- A resolver that knows the loopback address. -/
def loopbackResolver : Resolver where
  pton4 name :=
    if name = utf8Bytes "127.0.0.1" then some ⟨[127, 0, 0, 1], length_loopback⟩ else none
  pton6 _ := none
  getaddrinfo _ := none

/-- A password as the relay draws it: 24 bytes in hexadecimal digits. -/
def relayPassword : Bytes := utf8Bytes "00c4a17b9e5d33f2086e41bb7fd2905ce8a6130d94275fab"

/-- A relay with this password. -/
def lockedRelay : RelayConfig := { RelayConfig.withRules ⟨[], []⟩ 0 with password := relayPassword }

/-- The server of the relay's tunnel. -/
def relayServer (pipeline : Bool) : HevConfigServer where
  user := some LocalSocksRelay.username
  pass := some relayPassword
  pipeline := pipeline
  udpInUdp := true
  udpAddr := strncpy255 (utf8Bytes "127.0.0.1")

section Handshake

variable (oracle : (op : RelayOp) → op.Answer) (config : RelayConfig) (client : SocketId)
variable (resolver : Resolver) (srv : HevConfigServer) (session : HevSocks5Session)

/-- A session's handshake, with nothing said yet. -/
def handshakeTalk : HandshakeTalk where
  left := (LocalSocksRelay.serveRequest config client).run
  right := (HevSocks5Client.handshake resolver srv session).run
  toLeft := []
  toRight := []

/-- What comes of the request of a session. -/
def outcome : Except Exception (Request × Reply) :=
  LocalSocksRelay.answered oracle config client (HevSocks5Client.requestCmd srv session)
    (HevSocks5Client.getUpstreamAddr session)

/-- The end of a handshake whose credentials are accepted. -/
def agreed : HandshakeTalk where
  left := .ret ((outcome oracle config client srv session).map Prod.fst)
  right := .ret (HevSocks5Client.concluded resolver srv session
    (outcome oracle config client srv session))
  toLeft := LocalSocksRelay.unread oracle (HevSocks5Client.getUpstreamAddr session)
  toRight := HevSocks5Client.unheard (outcome oracle config client srv session)

/-- Both ends have agreed on the credentials, and the request is on its way. -/
def requested : HandshakeParties where
  left := (LocalSocksRelay.answerRequest config client).run.party
    (LocalSocksRelay.dealing client oracle)
  right := (HevSocks5Client.readResponse resolver srv session).run.party HevSocks5Client.dealing
  toLeft := requestBytes srv session
  toRight := []

variable {oracle config client resolver srv session}

/-- Neither side depends on how the other's bytes are cut. -/
theorem handshakeTalk_steady : (handshakeTalk config client resolver srv session).BothSteady
    (LocalSocksRelay.dealing client oracle) HevSocks5Client.dealing :=
  ⟨LocalSocksRelay.serveRequest_steady config, HevSocks5Client.handshake_steady⟩

/-- From the request on both ways of the handshake are the same. -/
theorem requested_runs : Runs (requested oracle config client resolver srv session)
    ((agreed oracle config client resolver srv session).view
      (LocalSocksRelay.dealing client oracle) HevSocks5Client.dealing) := by
  obtain ⟨taken, htaken, hrelay⟩ := @LocalSocksRelay.answerRequest_tells client oracle config
    (HevSocks5Client.requestCmd srv session) 0 (HevSocks5Client.getUpstreamAddr session)
  rw [requested, requestBytes, ← htaken]
  refine (reaches_left hrelay).trans ?_
  change Runs ⟨.done (some ((outcome oracle config client srv session).map Prod.fst)), _, _,
    LocalSocksRelay.replied (outcome oracle config client srv session)⟩ _
  rw [agreed, Talk.view]
  generalize outcome oracle config client srv session = result
  cases result with
  | error error =>
      obtain ⟨next, hnext, hended⟩ := @HevSocks5Client.readResponse_ended resolver srv session
      rw [hnext]
      have hrun : Runs ⟨.done (some (.error error)), .receive next,
          LocalSocksRelay.unread oracle (HevSocks5Client.getUpstreamAddr session), []⟩ _ :=
        reaches_right_ended rfl
      rw [hended] at hrun
      exact hrun
  | ok answer =>
      obtain ⟨request, reply⟩ := answer
      rw [LocalSocksRelay.replied, HevSocks5Client.unheard, HevSocks5Client.concluded]
      by_cases hcode : reply.code = HevSocks5Client.HEV_SOCKS5_RES_REP_SUCC
      · rw [if_pos hcode, if_pos hcode, ← List.append_nil (LocalSocksRelay.encodeReply _ _)]
        exact reaches_right_quiet (HevSocks5Client.readResponse_tells hcode)
      · rw [if_neg hcode, if_neg hcode, HevSocks5Client.encodeReply_eq]
        exact reaches_right_quiet (HevSocks5Client.readResponse_refused hcode)

section Greeting

variable {user pass : Bytes}

/-- The relay chooses the login and waits for it. -/
theorem chooseMethod_says :
    ((LocalSocksRelay.serveRequest config client).run.party
      (LocalSocksRelay.dealing client oracle)).Says ([5] ++ vector 1 [2]) [5, 2]
      ((LocalSocksRelay.authenticate config client >>= fun _ =>
        LocalSocksRelay.answerRequest config client).run.party
          (LocalSocksRelay.dealing client oracle)) := by
  rw [LocalSocksRelay.serveRequest_eq]
  exact (LocalSocksRelay.chooseMethod_tells (by decide) (by decide)).leadsE

/-- The verdict is about what arrives of the name and the password. -/
theorem authenticate_sent (config : RelayConfig) (user pass : Bytes) :
    Tells (LocalSocksRelay.dealing client oracle) (LocalSocksRelay.authenticate config client).run
      ([1] ++ (vector 1 (HevSocks5Client.sent user) ++ vector 1 (HevSocks5Client.sent pass)))
      [1, if HevSocks5Client.sent user = LocalSocksRelay.username ∧
        HevSocks5Client.sent pass = config.password then 0 else 1]
      (LocalSocksRelay.verdict config (HevSocks5Client.sent user) (HevSocks5Client.sent pass)) :=
  LocalSocksRelay.authenticate_tells config
    (by rw [HevSocks5Client.length_sent]; omega) (by rw [HevSocks5Client.length_sent]; omega)

/-- The right ones let the session come to its request. -/
theorem authenticate_answers (hvalid : HevSocks5Client.sent user = LocalSocksRelay.username ∧
      HevSocks5Client.sent pass = config.password) :
    ((LocalSocksRelay.authenticate config client >>= fun _ =>
        LocalSocksRelay.answerRequest config client).run.party
          (LocalSocksRelay.dealing client oracle)).Says
      ([1] ++ (vector 1 (HevSocks5Client.sent user) ++ vector 1 (HevSocks5Client.sent pass))) [1, 0]
      ((LocalSocksRelay.answerRequest config client).run.party
        (LocalSocksRelay.dealing client oracle)) := by
  have htells := @authenticate_sent oracle client config user pass
  rw [LocalSocksRelay.verdict, if_pos hvalid, if_pos hvalid] at htells
  exact htells.leadsE

/-- Others end it, and the client is told. -/
theorem authenticate_refuses (hvalid : ¬ (HevSocks5Client.sent user = LocalSocksRelay.username ∧
      HevSocks5Client.sent pass = config.password)) :
    Tells (LocalSocksRelay.dealing client oracle) (LocalSocksRelay.authenticate config client >>=
        fun _ => LocalSocksRelay.answerRequest config client).run
      ([1] ++ (vector 1 (HevSocks5Client.sent user) ++ vector 1 (HevSocks5Client.sent pass))) [1, 1]
      (.error { kind := .eof, message := "Authentication failed" }) := by
  have htells := @authenticate_sent oracle client config user pass
  rw [LocalSocksRelay.verdict, if_neg hvalid, if_neg hvalid] at htells
  exact htells.bindE_error

/-- The engine waits for every answer. -/
theorem standard_accepted (hauth : HevSocks5Client.auth srv = some (user, pass))
    (hvalid : HevSocks5Client.sent user = LocalSocksRelay.username ∧
      HevSocks5Client.sent pass = config.password) (hmode : srv.pipeline = false) :
    Runs ((handshakeTalk config client resolver srv session).view
        (LocalSocksRelay.dealing client oracle) HevSocks5Client.dealing)
      (requested oracle config client resolver srv session) := by
  have hmethods := HevSocks5Client.writeAuthMethods_tells srv
  rw [HevSocks5Client.offered_user hauth] at hmethods
  rw [Talk.view, handshakeTalk, HevSocks5Client.handshake, if_neg (by simp [hmode]),
    HevSocks5Client.handshakeStandard]
  refine (reaches_right_all hmethods.leadsE).trans ?_
  refine (reaches_left_all chooseMethod_says).trans ?_
  refine (reaches_right_all (HevSocks5Client.readAuthMethod_tells 2).leadsE).trans ?_
  dsimp only
  rw [if_pos (show (2 : UInt8) = HevSocks5Client.HEV_SOCKS5_AUTH_METHOD_USER from rfl)]
  refine (reaches_right_all (HevSocks5Client.writeAuthCreds_tells hauth).leadsE).trans ?_
  refine (reaches_left_all (authenticate_answers hvalid)).trans ?_
  refine (reaches_right_all HevSocks5Client.readAuthCreds_tells.leadsE).trans ?_
  exact reaches_right_all (HevSocks5Client.writeRequest_tells srv session).leadsE

/-- The engine says everything before it listens. -/
theorem pipeline_accepted (hauth : HevSocks5Client.auth srv = some (user, pass))
    (hvalid : HevSocks5Client.sent user = LocalSocksRelay.username ∧
      HevSocks5Client.sent pass = config.password) (hmode : srv.pipeline = true) :
    Runs ((handshakeTalk config client resolver srv session).view
        (LocalSocksRelay.dealing client oracle) HevSocks5Client.dealing)
      (requested oracle config client resolver srv session) := by
  have hmethods := HevSocks5Client.writeAuthMethods_tells srv
  rw [HevSocks5Client.offered_user hauth] at hmethods
  rw [Talk.view, handshakeTalk, HevSocks5Client.handshake, if_pos hmode,
    HevSocks5Client.handshakePipeline]
  refine (reaches_right_all hmethods.leadsE).trans ?_
  refine (reaches_left_all chooseMethod_says).trans ?_
  refine (reaches_right (HevSocks5Client.writeAuthCreds_tells hauth).leadsE).trans ?_
  refine (reaches_left_all (authenticate_answers hvalid)).trans ?_
  refine (reaches_right (HevSocks5Client.writeRequest_tells srv session).leadsE).trans ?_
  refine (reaches_right_quiet (HevSocks5Client.readAuthMethod_tells 2).leadsE).trans ?_
  dsimp only
  rw [if_pos (show (2 : UInt8) = HevSocks5Client.HEV_SOCKS5_AUTH_METHOD_USER from rfl)]
  exact reaches_right_quiet HevSocks5Client.readAuthCreds_tells.leadsE

/-- What the relay ends a session with that it does not let in. -/
def refusal (srv : HevConfigServer) : Exception where
  kind := .eof
  message := if (HevSocks5Client.auth srv).isNone then "No supported authentication method"
    else "Authentication failed"

variable (srv session) in
/-- The end of a handshake that the relay refuses. A pipelined request stays unread. -/
def refused : HandshakeTalk where
  left := .ret (.error (refusal srv))
  right := .ret (.error ())
  toLeft := if srv.pipeline then requestBytes srv session else []
  toRight := []

/-- An engine without a login is refused at the method, in both modes. -/
theorem anonymous_refused (hauth : HevSocks5Client.auth srv = none) :
    Runs ((handshakeTalk config client resolver srv session).view
        (LocalSocksRelay.dealing client oracle) HevSocks5Client.dealing)
      ((refused srv session).view (LocalSocksRelay.dealing client oracle)
        HevSocks5Client.dealing) := by
  have hmethods := HevSocks5Client.writeAuthMethods_tells srv
  have hrefuses : Tells (LocalSocksRelay.dealing client oracle)
      (LocalSocksRelay.serveRequest config client).run ([5] ++ vector 1 [0]) [5, 0xff]
      (.error { kind := .eof, message := "No supported authentication method" }) := by
    rw [LocalSocksRelay.serveRequest_eq]
    exact (LocalSocksRelay.chooseMethod_refuses (by decide) (by decide)).bindE_error
  rw [HevSocks5Client.offered, hauth] at hmethods
  rw [Talk.view, handshakeTalk, HevSocks5Client.handshake, Talk.view, refused, refusal, hauth]
  cases hmode : srv.pipeline with
  | false =>
      rw [if_neg Bool.false_ne_true, if_neg Bool.false_ne_true, HevSocks5Client.handshakeStandard]
      refine (reaches_right_all hmethods.leadsE).trans ?_
      refine (reaches_left_all hrefuses).trans ?_
      exact reaches_right_all (HevSocks5Client.readAuthMethod_tells 0xff).leadsE
  | true =>
      rw [if_pos rfl, if_pos rfl, HevSocks5Client.handshakePipeline, HevSocks5Client.writeAuthCreds,
        hauth]
      refine (reaches_right_all hmethods.leadsE).trans ?_
      refine (reaches_left_all hrefuses).trans ?_
      refine (reaches_right (HevSocks5Client.writeRequest_tells srv session).leadsE).trans ?_
      exact reaches_right_quiet (HevSocks5Client.readAuthMethod_tells 0xff).leadsE

/-- An engine with another login is refused at the verdict, in both modes. -/
theorem mismatch_refused (hauth : HevSocks5Client.auth srv = some (user, pass))
    (hvalid : ¬ (HevSocks5Client.sent user = LocalSocksRelay.username ∧
      HevSocks5Client.sent pass = config.password)) :
    Runs ((handshakeTalk config client resolver srv session).view
        (LocalSocksRelay.dealing client oracle) HevSocks5Client.dealing)
      ((refused srv session).view (LocalSocksRelay.dealing client oracle)
        HevSocks5Client.dealing) := by
  have hmethods := HevSocks5Client.writeAuthMethods_tells srv
  rw [HevSocks5Client.offered_user hauth] at hmethods
  rw [Talk.view, handshakeTalk, HevSocks5Client.handshake, Talk.view, refused, refusal, hauth]
  cases hmode : srv.pipeline with
  | false =>
      rw [if_neg Bool.false_ne_true, if_neg Bool.false_ne_true, HevSocks5Client.handshakeStandard]
      refine (reaches_right_all hmethods.leadsE).trans ?_
      refine (reaches_left_all chooseMethod_says).trans ?_
      refine (reaches_right_all (HevSocks5Client.readAuthMethod_tells 2).leadsE).trans ?_
      dsimp only
      rw [if_pos (show (2 : UInt8) = HevSocks5Client.HEV_SOCKS5_AUTH_METHOD_USER from rfl)]
      refine (reaches_right_all (HevSocks5Client.writeAuthCreds_tells hauth).leadsE).trans ?_
      refine (reaches_left_all (authenticate_refuses hvalid)).trans ?_
      exact reaches_right_all HevSocks5Client.readAuthCreds_fails.bindE_error
  | true =>
      rw [if_pos rfl, if_pos rfl, HevSocks5Client.handshakePipeline]
      refine (reaches_right_all hmethods.leadsE).trans ?_
      refine (reaches_left_all chooseMethod_says).trans ?_
      refine (reaches_right (HevSocks5Client.writeAuthCreds_tells hauth).leadsE).trans ?_
      refine (reaches_left_all (authenticate_refuses hvalid)).trans ?_
      refine (reaches_right (HevSocks5Client.writeRequest_tells srv session).leadsE).trans ?_
      refine (reaches_right_quiet (HevSocks5Client.readAuthMethod_tells 2).leadsE).trans ?_
      dsimp only
      rw [if_pos (show (2 : UInt8) = HevSocks5Client.HEV_SOCKS5_AUTH_METHOD_USER from rfl)]
      exact reaches_right_quiet HevSocks5Client.readAuthCreds_fails.bindE_error

end Greeting

/-- With the relay's credentials every run of the handshake, step by step or pipelined,
ends with the relay holding the session's request and the engine its reply. -/
theorem handshake_agrees (haccepted : Accepted config srv) :
    Talk.Settles (LocalSocksRelay.dealing client oracle) HevSocks5Client.dealing hasThrown hasThrown
      (handshakeTalk config client resolver srv session)
      (agreed oracle config client resolver srv session) := by
  apply Talk.settles handshakeTalk_steady
  refine Relation.ReflTransGen.trans ?_ requested_runs
  unfold Accepted at haccepted
  split at haccepted
  next user pass hauth =>
    cases hmode : srv.pipeline with
    | false => exact standard_accepted hauth haccepted hmode
    | true => exact pipeline_accepted hauth haccepted hmode
  next => contradiction

/-- A pipelined connection to port 80. -/
theorem handshake_agrees_pipelined :
    Talk.Settles (LocalSocksRelay.dealing 0 obliging) HevSocks5Client.dealing hasThrown hasThrown
      (handshakeTalk lockedRelay 0 loopbackResolver (relayServer true)
        (.tcp (.ipv4 ⟨[1, 2, 3, 4], rfl⟩ ⟨0, 80⟩)))
      ⟨.ret (.ok ⟨1, ⟨.inet4 ⟨[1, 2, 3, 4], rfl⟩, 80⟩⟩), .ret (.ok none), [], []⟩ := by
  have haccepted : Accepted lockedRelay (relayServer true) := ⟨by decide, by decide⟩
  exact @handshake_agrees obliging _ 0 loopbackResolver _
    (.tcp (.ipv4 ⟨[1, 2, 3, 4], rfl⟩ ⟨0, 80⟩)) haccepted

/-- Without them every run ends with both ends giving up, and no request is read. -/
theorem handshake_refuses (hrefused : ¬ Accepted config srv) :
    Talk.Settles (LocalSocksRelay.dealing client oracle) HevSocks5Client.dealing hasThrown hasThrown
      (handshakeTalk config client resolver srv session) (refused srv session) := by
  apply Talk.settles handshakeTalk_steady
  unfold Accepted at hrefused
  split at hrefused
  next user pass hauth => exact mismatch_refused hauth hrefused
  next hauth => exact anonymous_refused hauth

theorem handshake_refuses_anonymous :
    Talk.Settles (LocalSocksRelay.dealing 0 obliging) HevSocks5Client.dealing hasThrown hasThrown
      (handshakeTalk lockedRelay 0 loopbackResolver
        { relayServer false with user := none } (.udp .ipv6))
      ⟨.ret (.error { kind := .eof, message := "No supported authentication method" }),
        .ret (.error ()), [], []⟩ :=
  @handshake_refuses obliging lockedRelay 0 loopbackResolver
    { relayServer false with user := none } (.udp .ipv6) id

end Handshake

/-! ## The association of the tunnel -/

/-- What `writeTunnelConfig` puts under `socks5`. -/
def tunnelSettings (port password : Bytes) : HevSocks5Settings where
  port := some port
  addr := some (utf8Bytes "127.0.0.1")
  user := some LocalSocksRelay.username
  pass := some password
  pipe := none
  udpm := some (utf8Bytes "udp")
  udpa := some (utf8Bytes "127.0.0.1")

namespace LocalSocksRelay

/-- An association is answered with the port of its own socket. -/
theorem answer_udpAssociate {oracle : (op : RelayOp) → op.Answer} {config : RelayConfig}
    {client : SocketId} {request request' : Request} {reply : Reply}
    (hhandler : handlerOf request = some .handleUdpAssociate)
    (hanswer : answer oracle config client request = .ok (request', reply))
    (hcode : reply.code = 0) :
    ∃ relay port, oracle .newDatagramSocket = .ok relay ∧ oracle (.protect relay) = .ok true ∧
      oracle (.localPort relay) = .ok port ∧ reply.bound = { address := .loopback, port } := by
  obtain ⟨⟨reply, rest⟩, heval, hpair⟩ := map_eq_ok_iff.mp hanswer
  obtain ⟨rfl, rfl⟩ := Prod.mk.inj hpair
  rw [prepare, hhandler] at heval
  obtain ⟨relay, hrelay, heval⟩ := eval_bindE_ok heval
  obtain ⟨_, _, heval⟩ := eval_bindE_ok heval
  obtain ⟨_, _, heval⟩ := eval_bindE_ok heval
  obtain ⟨shielded, hshielded, heval⟩ := eval_bindE_ok heval
  split at heval
  next hprotected =>
    obtain ⟨_, _, heval⟩ := eval_bindE_ok heval
    obtain ⟨_, _, heval⟩ := eval_bindE_ok heval
    obtain ⟨_, _, heval⟩ := eval_bindE_ok heval
    obtain ⟨port, hport, heval⟩ := eval_bindE_ok heval
    obtain ⟨hreply, _⟩ := Prod.mk.inj (Except.ok.inj heval)
    refine ⟨relay, port, hrelay, ?_, hport, ?_⟩
    · rw [← hprotected]
      exact hshielded
    · rw [← hreply]
  next =>
    obtain ⟨_, _, heval⟩ := eval_bindE_ok heval
    obtain ⟨hreply, _⟩ := Prod.mk.inj (Except.ok.inj heval)
    rw [← hreply] at hcode
    exact absurd hcode (show ¬ (1 : UInt8) = 0 by decide)

end LocalSocksRelay

section Association

variable {oracle : (op : RelayOp) → op.Answer} {config : RelayConfig} {client : SocketId}
variable {resolver : Resolver} {port : Bytes} {srv : HevConfigServer}
variable {family : HevSocks5AddrFamily}

/-- A short field arrives as it is. -/
theorem sent_of_length_lt {field : Bytes} (hlength : field.length < 256) :
    HevSocks5Client.sent field = field := by
  rw [HevSocks5Client.sent, UInt8.toNat_ofNat', Nat.mod_eq_of_lt hlength, List.take_length]

/-- A short setting is kept as it is. -/
theorem strncpy255_of_length_lt {source : Bytes} (hlength : source.length < 256) :
    (strncpy255 source).1 = source :=
  List.take_of_length_le (by omega)

/-- The engine parses what the service wrote. -/
theorem parse_tunnelSettings (hpassword : config.password.length < 256)
    (hparse : hevConfigParseSocks5 (tunnelSettings port config.password) = some srv) :
    HevSocks5Client.auth srv = some (LocalSocksRelay.username, config.password) ∧
      srv.udpInUdp = true ∧ srv.udpAddr.1 = utf8Bytes "127.0.0.1" := by
  cases hparse
  refine ⟨?_, show strcasecmpZero _ _ = true by decide, strncpy255_of_length_lt (by decide)⟩
  rw [HevSocks5Client.auth]
  simp only [tunnelSettings, Option.map_some, Option.some.injEq, Prod.mk.injEq]
  exact ⟨strncpy255_of_length_lt (by decide), strncpy255_of_length_lt hpassword⟩

/-- The tunnel's own settings carry the relay's login. -/
theorem accepted_tunnelSettings (hpassword : config.password.length < 256)
    (hparse : hevConfigParseSocks5 (tunnelSettings port config.password) = some srv) :
    Accepted config srv := by
  rw [Accepted, (parse_tunnelSettings hpassword hparse).1]
  exact ⟨sent_of_length_lt (by decide), sent_of_length_lt hpassword⟩

/-- A request that is answered was read to its end. -/
theorem unread_of_outcome {session : HevSocks5Session} {answer : Request × Reply}
    (houtcome : outcome oracle config client srv session = .ok answer) :
    LocalSocksRelay.unread oracle (HevSocks5Client.getUpstreamAddr session) = [] := by
  rw [outcome, LocalSocksRelay.answered] at houtcome
  rw [LocalSocksRelay.unread]
  split at houtcome
  next => rfl
  next => contradiction

/-- The address of the reply gives way to the configured one; only its port counts. -/
theorem upstream_udpAddr {addr : Octets4} (hudp : srv.udpInUdp = true)
    (hudpAddr : srv.udpAddr.1 ≠ []) (hpton : resolver.pton4 srv.udpAddr.1 = some addr)
    (bound : InetSocketAddress) :
    HevSocks5Client.upstream resolver srv (.udp family) bound =
      .ok (some ⟨mapped addr, htons bound.port⟩) := by
  have hport : (ofSocketAddress bound).getPort = htons bound.port := by
    obtain ⟨octets | octets, port⟩ := bound <;> rfl
  rw [HevSocks5Client.upstream, HevSocks5Client.setUpstreamAddr]
  simp only [HevSocks5Client.sessionType, hudp, hudpAddr, hport, if_true, ne_eq, not_false_eq_true,
    and_self, HevSocks5Addr.intoSockaddr6, nameIntoSockaddr6, hpton, htons_ntohs]
  rfl

/-- With the tunnel's own configuration, an association that the relay grants connects the
engine's datagram socket to the relay's on the loopback interface. -/
theorem association_agrees {request : Request} {reply : Reply}
    (hpassword : config.password.length < 256)
    (hparse : hevConfigParseSocks5 (tunnelSettings port config.password) = some srv)
    (hpton : resolver.pton4 (utf8Bytes "127.0.0.1") = some ⟨[127, 0, 0, 1], rfl⟩)
    (houtcome : outcome oracle config client srv (.udp family) = .ok (request, reply))
    (hcode : reply.code = 0) :
    ∃ relay port, oracle .newDatagramSocket = .ok relay ∧ oracle (.protect relay) = .ok true ∧
      oracle (.localPort relay) = .ok port ∧
      Talk.Settles (LocalSocksRelay.dealing client oracle) HevSocks5Client.dealing
        hasThrown hasThrown (handshakeTalk config client resolver srv (.udp family))
        ⟨.ret (.ok request),
          .ret (.ok (some ⟨mapped ⟨[127, 0, 0, 1], rfl⟩, htons port⟩)), [], []⟩ := by
  obtain ⟨_, hudp, hudpAddr⟩ := parse_tunnelSettings hpassword hparse
  have hsettles := @handshake_agrees oracle config client resolver srv (.udp family)
    (accepted_tunnelSettings hpassword hparse)
  have hanswer := houtcome
  rw [outcome, LocalSocksRelay.answered] at hanswer
  split at hanswer
  next address haddress =>
    have hcmd : HevSocks5Client.requestCmd srv (.udp family) = 3 := by
      rw [HevSocks5Client.requestCmd, HevSocks5Client.sessionType, if_pos hudp]
      rfl
    rw [hcmd] at hanswer
    obtain ⟨relay, port, hrelay, hprotected, hport, hbound⟩ :=
      LocalSocksRelay.answer_udpAssociate rfl hanswer hcode
    refine ⟨relay, port, hrelay, hprotected, hport, ?_⟩
    have hupstream := @upstream_udpAddr resolver srv family _ hudp (by rw [hudpAddr]; decide)
      (by rw [hudpAddr]; exact hpton) reply.bound
    have hsucc : reply.code = HevSocks5Client.HEV_SOCKS5_RES_REP_SUCC := hcode
    rw [agreed, unread_of_outcome houtcome, houtcome, HevSocks5Client.concluded,
      HevSocks5Client.unheard, if_pos hsucc, if_pos hsucc, hupstream, hbound] at hsettles
    exact hsettles
  next => contradiction

end Association

theorem association_agrees_obliging :
    ∃ relay port, obliging .newDatagramSocket = .ok relay ∧ obliging (.protect relay) = .ok true ∧
      obliging (.localPort relay) = .ok port ∧
      Talk.Settles (LocalSocksRelay.dealing 0 obliging) HevSocks5Client.dealing hasThrown hasThrown
        (handshakeTalk lockedRelay 0 loopbackResolver (relayServer false) (.udp .ipv4))
        ⟨.ret (.ok ⟨3, ⟨.wildcard4, 0⟩⟩),
          .ret (.ok (some ⟨mapped ⟨[127, 0, 0, 1], rfl⟩, htons port⟩)), [], []⟩ :=
  @association_agrees obliging lockedRelay 0 loopbackResolver [] (relayServer false)
    .ipv4 ⟨3, ⟨.wildcard4, 0⟩⟩ ⟨0, ⟨.loopback, 40000⟩⟩ (by decide) rfl rfl rfl rfl

end AIUnblock
