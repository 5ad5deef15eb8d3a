import AIUnblock.Relay.Resources

/-! # Which calls each part of the relay makes

Before a session opens a socket it only makes calls that lose nothing; after it
has submitted a block it only makes calm ones, and so do the blocks.
-/

namespace AIUnblock.LocalSocksRelay

open Prog

variable {client : SocketId}

/-- The calls of the handshake. -/
def Greeting (client : SocketId) : RelayOp → Prop
  | .read socket room => socket = client ∧ 0 < room
  | .write socket bytes => socket = client ∧ bytes.length = 2
  | .getByName _ => True
  | _ => False

/-- What comes before the request comes before any socket. -/
theorem Greeting.early {op : RelayOp} (hgreeting : Greeting client op) : Early client op := by
  cases op with
  | write socket bytes =>
      have hlengths : ∀ bytes ∈ Sockets.refusals, bytes.length = 10 := by decide
      refine ⟨hgreeting.1, fun hmem => ?_⟩
      have hten := hlengths bytes hmem
      rw [hgreeting.2] at hten
      contradiction
  | read => trivial
  | getByName => trivial
  | _ => exact hgreeting.elim

/-- Only reads with room are made, here and in the following. -/
theorem readByte_uses {allowed : RelayOp → Prop} {input : SocketId}
    (hread : ∀ room, 0 < room → allowed (.read input room)) :
    (readByte input).run.Uses allowed := by
  apply Uses.bindE (Uses.io (hread 1 Nat.one_pos))
  intro read
  cases read with
  | none => trivial
  | some chunk => trivial

theorem readExactly_uses {allowed : RelayOp → Prop} {input : SocketId}
    (hread : ∀ room, 0 < room → allowed (.read input room)) (count : Nat) :
    (readExactly input count).run.Uses allowed := by
  induction count using Nat.strong_induction_on with
  | _ count ih =>
    rw [readExactly]
    split
    next => trivial
    next hne =>
      apply Uses.bindE (Uses.io (hread count (Nat.pos_of_ne_zero hne)))
      intro read
      cases read with
      | none => trivial
      | some chunk =>
          have hpos := List.length_pos_iff.mpr chunk.nonempty
          apply Uses.bindE (ih (count - chunk.bytes.length) (by omega))
          intro rest
          trivial

theorem throwIf_uses {allowed : RelayOp → Prop} {condition : Prop} [Decidable condition]
    {error : Exception} : (throwIf condition error).run.Uses allowed := by
  unfold throwIf
  split <;> trivial

/-- Before the request only the client's stream is used. -/
theorem negotiate_uses (config : RelayConfig) :
    (negotiate config client).run.Uses (Greeting client) := by
  have hbyte : (readByte client).run.Uses (Greeting client) :=
    readByte_uses fun _ hroom => ⟨rfl, hroom⟩
  have hexactly : ∀ count, (readExactly client count).run.Uses (Greeting client) :=
    readExactly_uses fun _ hroom => ⟨rfl, hroom⟩
  have hwrite : ∀ first second,
      (relayCall (.write client [first, second])).run.Uses (Greeting client) :=
    fun first second => Uses.io ⟨rfl, rfl⟩
  apply Uses.bindE hbyte
  intro version
  apply Uses.bindE throwIf_uses
  intro _
  apply Uses.bindE hbyte
  intro methodCount
  apply Uses.bindE (hexactly methodCount)
  intro methods
  split
  next => exact Uses.bindE (hwrite _ _) fun _ => trivial
  next =>
    apply Uses.bindE (hwrite _ _)
    intro _
    apply Uses.bindE hbyte
    intro version
    apply Uses.bindE throwIf_uses
    intro _
    apply Uses.bindE hbyte
    intro usernameLength
    apply Uses.bindE (hexactly usernameLength)
    intro receivedUsername
    apply Uses.bindE hbyte
    intro passwordLength
    apply Uses.bindE (hexactly passwordLength)
    intro receivedPassword
    exact Uses.bindE (hwrite _ _) fun _ => throwIf_uses

/-- A domain is looked up, which opens nothing. -/
theorem readAddress_uses (type : Nat) : (readAddress client type).run.Uses (Greeting client) := by
  have hexactly : ∀ count, (readExactly client count).run.Uses (Greeting client) :=
    readExactly_uses fun _ hroom => ⟨rfl, hroom⟩
  unfold readAddress
  split
  next => exact Uses.bindE (hexactly 4) fun _ => trivial
  next =>
    split
    next => exact Uses.bindE (hexactly 16) fun _ => trivial
    next =>
      split
      next =>
        apply Uses.bindE (readByte_uses fun _ hroom => ⟨rfl, hroom⟩)
        intro length
        exact Uses.bindE (hexactly length) fun _ => Uses.io trivial
      next => trivial

/-- So the request is read before any socket is opened. -/
theorem readRequest_uses : (readRequest client).run.Uses (Greeting client) := by
  have hbyte : (readByte client).run.Uses (Greeting client) :=
    readByte_uses fun _ hroom => ⟨rfl, hroom⟩
  apply Uses.bindE hbyte
  intro version
  apply Uses.bindE throwIf_uses
  intro _
  apply Uses.bindE hbyte
  intro command
  apply Uses.bindE hbyte
  intro _
  apply Uses.bindE hbyte
  intro type
  apply Uses.bindE (readAddress_uses type)
  intro address
  apply Uses.bindE hbyte
  intro high
  exact Uses.bindE hbyte fun _ => trivial

/-- The peeking loop only reads, and only while there is room. -/
theorem readClientHello_reads {allowed : RelayOp → Prop}
    (hallowed : ∀ room, 0 < room → allowed (.read client room)) (buffer : Bytes) :
    (readClientHello client buffer).run.Uses allowed := by
  induction hroom : MAX_CLIENT_HELLO - buffer.length using Nat.strong_induction_on
    generalizing buffer with
  | _ room ih =>
    have hread : 0 < MAX_CLIENT_HELLO - buffer.length →
        (readOrTimeout client (MAX_CLIENT_HELLO - buffer.length)).run.Uses allowed := by
      intro hpos
      apply Uses.tryCatch (Uses.io (hallowed _ hpos))
      intro error
      split <;> trivial
    rw [readClientHello]
    split
    next hlt =>
      apply Uses.bindE (hread (by omega))
      intro read
      cases read with
      | none => trivial
      | some chunk =>
          have hpos := List.length_pos_iff.mpr chunk.nonempty
          apply Uses.bindE (by trivial)
          intro parsed
          cases parsed with
          | needMore =>
              exact ih (MAX_CLIENT_HELLO - (buffer ++ chunk.bytes).length)
                (by rw [List.length_append]; omega) _ rfl
          | notTls => trivial
          | parsed serverName => trivial
    next => trivial

/-- And so is the hello of a connection to port 443. -/
theorem readClientHello_uses (buffer : Bytes) :
    (readClientHello client buffer).run.Uses (Early client) :=
  readClientHello_reads (fun _ _ => trivial) buffer

/-- The calls that choose a target. -/
def Lookup : RelayOp → Prop
  | .getByName _ | .getAllByName _ _ | .gatewayAddress _ | .activeNetwork => True
  | _ => False

theorem Lookup.early {op : RelayOp} (hlookup : Lookup op) : Early client op := by
  cases op <;> trivial

/-- Choosing a target only looks things up. -/
theorem connectTarget_uses (config : RelayConfig) (original : InetSocketAddress)
    (firstPayload : Bytes) : (connectTarget config original firstPayload).run.Uses Lookup := by
  have hgateway : ∀ group, (relayCall (.gatewayAddress group)).run.Uses Lookup :=
    fun _ => Uses.io trivial
  apply Uses.bindE (by trivial)
  intro parsed
  unfold targetOf
  split
  next group _ _ => exact Uses.bindE (hgateway group) fun _ => trivial
  next => exact Uses.bindE (Uses.io trivial) fun _ => trivial
  next => exact Uses.bindE (hgateway .geoHide) fun _ => trivial
  next =>
    unfold directTarget
    split
    next name _ _ =>
      apply Uses.bindE
      · apply Uses.tryCatch
        · apply Uses.bindE (Uses.io trivial)
          intro network
          cases network with
          | none => trivial
          | some network => exact Uses.bindE (Uses.io trivial) fun _ => trivial
        · exact fun _ => trivial
      · exact fun _ => trivial
    next => trivial

/-- A copy loop reads from one side and writes to the other. -/
theorem copy_uses {allowed : RelayOp → Prop} {input output : SocketId}
    (hread : ∀ room, 0 < room → allowed (.read input room))
    (hwrite : ∀ bytes, allowed (.write output bytes)) (hdiverge : allowed .diverge) (loops : Nat) :
    (copy input output loops).run.Uses allowed := by
  induction loops with
  | zero => exact Uses.bindE (Uses.io hdiverge) fun never => nomatch never
  | succ loops ih =>
      apply Uses.bindE (Uses.io (hread _ (by decide)))
      intro read
      cases read with
      | none => trivial
      | some chunk => exact Uses.bindE (Uses.io (hwrite _)) fun _ => ih

/-- A copy loop and the release of both sockets. -/
theorem copyDirection_uses {allowed : RelayOp → Prop} {input output client upstream : SocketId}
    (hread : ∀ room, 0 < room → allowed (.read input room))
    (hwrite : ∀ bytes, allowed (.write output bytes)) (hdiverge : allowed .diverge)
    (hclose : ∀ socket, allowed (.close socket)) (hremove : allowed (.removeSession upstream))
    (loops : Nat) :
    (copyDirection loops input output client upstream).run.Uses allowed := by
  have hquiet : ∀ socket, (closeQuietly socket).run.Uses allowed :=
    fun socket => Uses.tryCatch (Uses.io (hclose socket)) fun _ => trivial
  apply Uses.tryFinally
  · exact Uses.tryCatch (copy_uses hread hwrite hdiverge loops) fun _ => trivial
  · apply Uses.bindE (hquiet client)
    intro _
    exact Uses.bindE (hquiet upstream) fun _ => Uses.io hremove

/-- The calls of the loops that watch a control connection or serve an association. -/
def Polling : RelayOp → Prop
  | .read _ _ | .receive _ | .send _ _ _ | .isClosed _ | .getByName _ | .diverge => True
  | _ => False

/-- A call of a waiting loop opens and submits nothing. -/
theorem Polling.calm {op : RelayOp} (hpolling : Polling op) : Calm op := by
  cases op with
  | newSocket | newDatagramSocket | addSession | execute => exact hpolling
  | _ => trivial

/-- The loop that watches the control connection only reads. -/
theorem drain_uses (input : SocketId) (loops : Nat) : (drain input loops).run.Uses Polling := by
  induction loops with
  | zero => exact Uses.bindE (Uses.io trivial) fun never => nomatch never
  | succ loops ih =>
      apply Uses.bindE (Uses.io trivial)
      intro read
      cases read with
      | none => trivial
      | some chunk => exact ih

/-- Closing starts nothing. -/
theorem closeQuietly_uses (socket : SocketId) : (closeQuietly socket).run.Uses Calm :=
  Uses.tryCatch (Uses.io trivial) fun _ => trivial

/-- The submitted blocks are calm. -/
theorem runTask_uses (loops : Nat) (task : RelayTask) : (runTask loops task).run.Uses Calm := by
  cases task with
  | upstreamToClient client upstream =>
      exact copyDirection_uses (fun _ _ => trivial) (fun _ => trivial) trivial (fun _ => trivial)
        trivial loops
  | watchControl client relay =>
      apply Uses.tryFinally
      · have hdrain := (drain_uses client loops).mono fun _ hop => hop.calm
        exact Uses.tryCatch hdrain fun _ => trivial
      · exact closeQuietly_uses relay

theorem parseUdpAddress_uses (data : Bytes) (offset stop type : Nat) :
    (parseUdpAddress (m := RelayM) (fun host => relayCall (.getByName host)) data offset stop
      type).run.Uses Polling := by
  unfold parseUdpAddress
  split
  next =>
    split
    next => trivial
    next => exact Uses.bindE (by trivial) fun _ => trivial
  next =>
    split
    next =>
      split
      next => trivial
      next => exact Uses.bindE (by trivial) fun _ => trivial
    next =>
      split
      next =>
        split
        next => trivial
        next =>
          apply Uses.bindE (by trivial)
          intro domainLength
          split
          next => trivial
          next =>
            apply Uses.bindE (by trivial)
            intro domain
            exact Uses.bindE (Uses.io trivial) fun _ => trivial
      next => trivial

/-- Parsing a datagram only resolves its domain. -/
theorem parseUdpRequest_uses (data : Bytes) (start length : Nat) :
    (parseUdpRequest (m := RelayM) (fun host => relayCall (.getByName host)) data start
      length).run.Uses Polling := by
  unfold parseUdpRequest
  dsimp only
  split
  next => trivial
  next =>
    apply Uses.bindE (by trivial)
    intro first
    split
    next => trivial
    next =>
      apply Uses.bindE (by trivial)
      intro second
      split
      next => trivial
      next =>
        apply Uses.bindE (by trivial)
        intro third
        split
        next => trivial
        next =>
          apply Uses.bindE (by trivial)
          intro type
          apply Uses.bindE (parseUdpAddress_uses data (start + 4) (start + length) type)
          intro address
          cases address with
          | none => trivial
          | some address =>
              dsimp only
              split
              next => trivial
              next =>
                apply Uses.bindE (by trivial)
                intro port
                exact Uses.bindE (by trivial) fun _ => trivial

/-- Answering a request sends at most, and opens nothing. -/
theorem handleRequest_uses (config : RelayConfig) (relay : SocketId)
    (clientAddress : InetSocketAddress) (request : UdpRequest) :
    (handleRequest config relay clientAddress request).run.Uses Polling := by
  unfold handleRequest
  split
  next => trivial
  next =>
    apply Uses.bindE (by trivial)
    intro dnsResponse
    cases dnsResponse with
    | none => exact Uses.io trivial
    | some response => exact Uses.io trivial

/-- So does the handling of a datagram. -/
theorem handleDatagram_uses (config : RelayConfig) (relay : SocketId)
    (clientAddress : Option InetSocketAddress) (packet : Packet) :
    (handleDatagram config relay clientAddress packet).run.Uses Polling := by
  have hclient : ∀ address,
      (handleDatagram.fromClient config relay packet address).run.Uses Polling := by
    intro address
    apply Uses.bindE (parseUdpRequest_uses packet.data packet.offset packet.length)
    intro request
    cases request with
    | none => trivial
    | some request =>
        exact Uses.bindE (handleRequest_uses config relay address request) fun _ => trivial
  unfold handleDatagram
  cases clientAddress with
  | none => exact hclient packet.socketAddress
  | some known =>
      dsimp only
      split
      next => exact hclient known
      next =>
        apply Uses.bindE (by trivial)
        intro payload
        exact Uses.bindE (Uses.io trivial) fun _ => trivial

/-- And the whole receive loop. -/
theorem receiveLoop_uses (config : RelayConfig) (relay : SocketId) (loops : Nat)
    (clientAddress : Option InetSocketAddress) :
    (receiveLoop config relay loops clientAddress).run.Uses Polling := by
  induction loops generalizing clientAddress with
  | zero => exact Uses.bindE (Uses.io trivial) fun never => nomatch never
  | succ loops ih =>
      apply Uses.bindE (Uses.io trivial)
      intro closed
      split
      next => trivial
      next =>
        apply Uses.bindE
        · apply Uses.tryCatch
          · exact Uses.bindE (Uses.io trivial) fun _ => trivial
          · intro error
            split <;> trivial
        · intro packet
          cases packet with
          | none => exact ih clientAddress
          | some packet =>
              apply Uses.bindE (handleDatagram_uses config relay clientAddress packet)
              intro next
              exact ih next

end AIUnblock.LocalSocksRelay
