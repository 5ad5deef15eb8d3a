import AIUnblock.Relay.UdpAssociation

/-! # A UDP association

The receive loop takes one datagram after another. What a datagram makes it do is
the code of `handleDatagram`, run against the resolver and the network as they are
while the datagram is handled.
-/

namespace AIUnblock.LocalSocksRelay

open Prog

/-- A datagram that leaves the relay socket. -/
structure Datagram where
  bytes : Bytes
  destination : InetSocketAddress
  deriving DecidableEq

/-- What ends a `receive` on the open relay socket. While a datagram is handled,
names resolve by `resolve` and a `send` ends with `delivery`. -/
inductive Arrival
  | timeout
  | datagram (packet : Packet) (resolve : Text → Except Exception InetAddress)
      (delivery : Except Exception Unit)

/-- The outside of the relay socket. The socket is closed after the last arrival,
before the loop asks again or while `receive` is `waiting`. -/
structure Inbox where
  arrivals : List Arrival := []
  resolve : Text → Except Exception InetAddress := fun _ => .error { kind := .unknownHost }
  delivery : Except Exception Unit := .ok ()
  sent : List Datagram := []
  waiting : Bool := false

namespace Inbox

def socketClosed : Exception := { kind := .socket, message := "Socket closed" }

def answer : (op : RelayOp) → Inbox → Option (op.Answer × Inbox)
  | .isClosed _, inbox => some (.ok (inbox.arrivals.isEmpty && !inbox.waiting), inbox)
  | .receive _, inbox =>
    match inbox.arrivals with
    | [] => some (.error socketClosed, inbox)
    | .timeout :: arrivals => some (.error { kind := .socketTimeout }, { inbox with arrivals })
    | .datagram packet resolve delivery :: arrivals =>
      some (.ok packet, { inbox with arrivals, resolve, delivery })
  | .getByName host, inbox => some (inbox.resolve host, inbox)
  | .send _ bytes destination, inbox =>
    match inbox.delivery with
    | .ok () => some (.ok (), { inbox with sent := inbox.sent ++ [{ bytes, destination }] })
    | .error error => some (.error error, inbox)
  | _, _ => none

end Inbox

/-! ## What a datagram causes -/

/-- The endpoint that `clientAddress` holds once a datagram has been classified. -/
def adopt (clientAddress : Option InetSocketAddress) (packet : Packet) :
    Option InetSocketAddress :=
  clientAddress.or (some packet.socketAddress)

/-- The test that makes a datagram one of the client's. -/
def IsClient (clientAddress : Option InetSocketAddress) (packet : Packet) : Prop :=
  clientAddress = none ∨ clientAddress = some packet.socketAddress

instance (clientAddress : Option InetSocketAddress) (packet : Packet) :
    Decidable (IsClient clientAddress packet) := inferInstanceAs (Decidable (_ ∨ _))

/-- The request in a datagram, with names resolved by `resolve`. -/
def requestOf (resolve : Text → Except Exception InetAddress) (packet : Packet) :
    Except Exception (Option UdpRequest) :=
  parseUdpRequest resolve packet.data packet.offset packet.length

/-- What is sent for a request of `client`. -/
def requestDatagram (config : RelayConfig) (client : InetSocketAddress) (request : UdpRequest) :
    Except Exception (Option Datagram) :=
  if request.destination.port = 443 then .ok none
  else do
    match ← dnsResponseFor config request with
    | some response =>
      return some
        { bytes := encodeUdpResponse request.destination.address request.destination.port response
          destination := client }
    | none => return some { bytes := request.payload, destination := request.destination }

/-- What is sent for a datagram of the outside world. -/
def replyDatagram (known : InetSocketAddress) (packet : Packet) : Datagram where
  bytes := encodeUdpResponse packet.socketAddress.address packet.socketAddress.port
    (slice packet.data packet.offset (packet.offset + packet.length))
  destination := known

/-- What is sent for a datagram. -/
def outgoing (config : RelayConfig) (resolve : Text → Except Exception InetAddress)
    (clientAddress : Option InetSocketAddress) (packet : Packet) :
    Except Exception (Option Datagram) :=
  match clientAddress with
  | none => fromClient packet.socketAddress
  | some known =>
    if packet.socketAddress = known then fromClient known
    else .ok (some (replyDatagram known packet))
where
  fromClient (client : InetSocketAddress) : Except Exception (Option Datagram) := do
    match ← requestOf resolve packet with
    | some request => requestDatagram config client request
    | none => return none

/-- Send what there is to send, after the datagrams that were sent before. -/
def deliver (delivery : Except Exception Unit) (sent : List Datagram) :
    Except Exception (Option Datagram) → Except Exception Unit × List Datagram
  | .error error => (.error error, sent)
  | .ok none => (.ok (), sent)
  | .ok (some datagram) =>
    match delivery with
    | .ok () => (.ok (), sent ++ [datagram])
    | .error error => (.error error, sent)

/-! ## The code of one turn -/

section Code

variable {config : RelayConfig} {relay : SocketId} {inbox : Inbox}

theorem getByName_reads (host : Text) :
    Reads Inbox.answer inbox (relayCall (.getByName host)) (inbox.resolve host) := rfl

theorem parseUdpAddress_reads (data : Bytes) (offset stop type : Nat) :
    Reads Inbox.answer inbox
      (parseUdpAddress (fun host => relayCall (.getByName host)) data offset stop type)
      (parseUdpAddress inbox.resolve data offset stop type) := by
  unfold parseUdpAddress
  apply Reads.ite
  · apply Reads.ite Reads.pure
    exact Reads.bind Reads.lift fun address => Reads.pure
  apply Reads.ite
  · apply Reads.ite Reads.pure
    exact Reads.bind Reads.lift fun address => Reads.pure
  apply Reads.ite
  · apply Reads.ite Reads.pure
    apply Reads.bind Reads.lift
    intro domainLength
    apply Reads.ite Reads.pure
    apply Reads.bind Reads.lift
    intro domain
    exact Reads.bind (getByName_reads _) fun address => Reads.pure
  · exact Reads.pure

/-- Parsing a request asks for nothing but the address of its host. -/
theorem parseUdpRequest_reads (packet : Packet) :
    Reads Inbox.answer inbox
      (parseUdpRequest (fun host => relayCall (.getByName host)) packet.data packet.offset
        packet.length)
      (requestOf inbox.resolve packet) := by
  unfold requestOf parseUdpRequest
  apply Reads.ite Reads.pure
  apply Reads.bind Reads.lift
  intro first
  apply Reads.ite Reads.pure
  apply Reads.bind Reads.lift
  intro second
  apply Reads.ite Reads.pure
  apply Reads.bind Reads.lift
  intro fragment
  apply Reads.ite Reads.pure
  apply Reads.bind Reads.lift
  intro type
  apply Reads.bind (parseUdpAddress_reads _ _ _ _)
  intro found
  cases found with
  | none => exact Reads.pure
  | some found =>
      apply Reads.ite Reads.pure
      apply Reads.bind Reads.lift
      intro port
      exact Reads.bind Reads.lift fun payload => Reads.pure

theorem send_run (datagram : Datagram) :
    (relayCall (.send relay datagram.bytes datagram.destination)).run.run Inbox.answer inbox =
      let ended := deliver inbox.delivery inbox.sent (.ok (some datagram))
      some (ended.1, { inbox with sent := ended.2 }) := by
  cases hdelivery : inbox.delivery with
  | ok => simp [relayCall, io, perform, run, Inbox.answer, deliver, hdelivery]
  | error error =>
      simp only [relayCall, io, perform, ExceptT.run_mk, run, Inbox.answer, deliver, hdelivery]
      rw [← hdelivery]

theorem handleRequest_run (client : InetSocketAddress) (request : UdpRequest) :
    (handleRequest config relay client request).run.run Inbox.answer inbox =
      let ended := deliver inbox.delivery inbox.sent (requestDatagram config client request)
      some (ended.1, { inbox with sent := ended.2 }) := by
  unfold handleRequest requestDatagram
  split
  next => rfl
  next =>
    cases dnsResponseFor config request with
    | error error => rfl
    | ok response =>
        cases response with
        | none => exact send_run { bytes := request.payload, destination := request.destination }
        | some response => exact send_run { bytes := _, destination := client }

theorem fromClient_run (packet : Packet) (client : InetSocketAddress) :
    (handleDatagram.fromClient config relay packet client).run.run Inbox.answer inbox =
      let ended := deliver inbox.delivery inbox.sent
        (outgoing.fromClient config inbox.resolve packet client)
      some (ended.1.map fun _ => some client, { inbox with sent := ended.2 }) := by
  unfold handleDatagram.fromClient outgoing.fromClient
  have hparse := @parseUdpRequest_reads inbox packet
  cases hrequest : requestOf inbox.resolve packet with
  | error error =>
      rw [hrequest] at hparse
      exact run_bindE_error hparse
  | ok request =>
      rw [hrequest] at hparse
      refine (run_bindE_ok hparse).trans ?_
      cases request with
      | none => rfl
      | some request =>
          rw [ok_bind]
          have hhandled := @handleRequest_run config relay inbox client request
          rcases hended : deliver inbox.delivery inbox.sent
            (requestDatagram config client request) with ⟨result, sent⟩
          rw [hended] at hhandled
          cases result with
          | ok => exact run_bindE_ok hhandled
          | error error => exact run_bindE_error hhandled

/-- A datagram is classified, and at most one datagram is sent for it. -/
theorem handleDatagram_run (clientAddress : Option InetSocketAddress) (packet : Packet) :
    (handleDatagram config relay clientAddress packet).run.run Inbox.answer inbox =
      let ended := deliver inbox.delivery inbox.sent
        (outgoing config inbox.resolve clientAddress packet)
      some (ended.1.map fun _ => adopt clientAddress packet, { inbox with sent := ended.2 }) := by
  unfold handleDatagram outgoing
  cases clientAddress with
  | none => exact fromClient_run packet packet.socketAddress
  | some known =>
      dsimp only
      split
      next => exact fromClient_run packet known
      next =>
        -- the range of a received packet lies in its buffer
        rw [copyOfRange_eq_ok (by omega) packet.fits]
        have hsent := @send_run relay inbox (replyDatagram known packet)
        rcases hended : deliver inbox.delivery inbox.sent
          (.ok (some (replyDatagram known packet))) with ⟨result, sent⟩
        rw [hended] at hsent
        refine (run_bindE_ok rfl).trans ?_
        cases result with
        | ok => exact run_bindE_ok hsent
        | error error => exact run_bindE_error hsent

end Code

/-! ## The machine -/

/-- The relay socket between two turns of the loop, or after an exception. -/
structure Association where
  clientAddress : Option InetSocketAddress := none
  sent : List Datagram := []
  failure : Option Exception := none

namespace Association

/-- What the code makes of an arrival. -/
def step (config : RelayConfig) (relay : SocketId) (association : Association) :
    Arrival → Association
  | .timeout => association
  | .datagram packet resolve delivery =>
    match association.failure with
    | some _ => association
    | none =>
      let inbox : Inbox := { resolve, delivery, sent := association.sent }
      match (handleDatagram config relay association.clientAddress packet).run.run Inbox.answer inbox
      with
      | some (.ok clientAddress, after) => { clientAddress, sent := after.sent }
      | some (.error error, after) =>
        -- the variable was assigned before the call that threw
        { clientAddress := adopt association.clientAddress packet
          sent := after.sent
          failure := some error }
      | none => association

/-- The association after some arrivals. -/
def after (config : RelayConfig) (relay : SocketId) (arrivals : List Arrival) : Association :=
  arrivals.foldl (step config relay) {}

end Association

namespace Association

variable {config : RelayConfig} {relay : SocketId} {association : Association} {packet : Packet}
  {resolve : Text → Except Exception InetAddress} {delivery : Except Exception Unit}

theorem step_failed {arrival : Arrival} {error : Exception}
    (hfailure : association.failure = some error) :
    association.step config relay arrival = association := by
  cases arrival with
  | timeout => rfl
  | datagram packet resolve delivery => rw [step, hfailure]

/-- The exception of a turn that threw. -/
def failureOf : Except Exception Unit → Option Exception
  | .ok () => none
  | .error error => some error

/-- A turn classifies its datagram and sends at most one. -/
theorem step_datagram (hfailure : association.failure = none) :
    association.step config relay (.datagram packet resolve delivery) =
      let ended := deliver delivery association.sent
        (outgoing config resolve association.clientAddress packet)
      { clientAddress := adopt association.clientAddress packet
        sent := ended.2
        failure := failureOf ended.1 } := by
  rw [step, hfailure]
  dsimp only
  rw [handleDatagram_run]
  dsimp only
  rcases deliver delivery association.sent
    (outgoing config resolve association.clientAddress packet) with ⟨result, sent⟩
  cases result with
  | ok => rfl
  | error error => rfl

theorem foldl_failed {arrivals : List Arrival} {error : Exception}
    (hfailure : association.failure = some error) :
    arrivals.foldl (step config relay) association = association := by
  induction arrivals with
  | nil => rfl
  | cons arrival arrivals ih => rw [List.foldl_cons, step_failed hfailure, ih]

end Association

/-! ## The loop is the machine -/

/-- How the loop ends: by the exception of a turn, or since the socket is closed. -/
def loopResult (waiting : Bool) : Option Exception → Except Exception Unit
  | some error => .error error
  | none => if waiting then .error Inbox.socketClosed else .ok ()

/-- Run the receive loop of a fresh association: how it ends, and what was sent. -/
def runLoop (config : RelayConfig) (relay : SocketId) (loops : Nat) (arrivals : List Arrival)
    (waiting : Bool) : Option (Except Exception Unit × List Datagram) :=
  ((receiveLoop config relay loops none).run.run Inbox.answer { arrivals, waiting }).map
    fun ended => (ended.1, ended.2.sent)

section Loop

variable {config : RelayConfig} {relay : SocketId} {loops : Nat}
  {clientAddress : Option InetSocketAddress} {arrivals : List Arrival}
  {resolve resolve' : Text → Except Exception InetAddress}
  {delivery delivery' : Except Exception Unit}
  {sent : List Datagram} {waiting : Bool}

theorem receiveLoop_closed :
    (receiveLoop config relay (loops + 1) clientAddress).run.run Inbox.answer
        { arrivals := [], resolve, delivery, sent, waiting } =
      some (loopResult waiting none, { arrivals := [], resolve, delivery, sent, waiting }) := by
  cases waiting with
  | false => rfl
  | true => rfl

theorem receiveLoop_timeout :
    (receiveLoop config relay (loops + 1) clientAddress).run.run Inbox.answer
        { arrivals := .timeout :: arrivals, resolve, delivery, sent, waiting } =
      (receiveLoop config relay loops clientAddress).run.run Inbox.answer
        { arrivals, resolve, delivery, sent, waiting } := rfl

theorem receiveLoop_datagram {packet : Packet} :
    (receiveLoop config relay (loops + 1) clientAddress).run.run Inbox.answer
        { arrivals := .datagram packet resolve delivery :: arrivals
          resolve := resolve', delivery := delivery', sent, waiting } =
      (handleDatagram config relay clientAddress packet >>= receiveLoop config relay loops).run.run
        Inbox.answer { arrivals, resolve, delivery, sent, waiting } := rfl

theorem receiveLoop_foldl {association : Association} (hfailure : association.failure = none)
    (hloops : arrivals.length < loops) :
    ((receiveLoop config relay loops association.clientAddress).run.run Inbox.answer
        { arrivals, resolve, delivery, sent := association.sent, waiting }).map
        (fun ended => (ended.1, ended.2.sent)) =
      let ended := arrivals.foldl (Association.step config relay) association
      some (loopResult waiting ended.failure, ended.sent) := by
  -- each turn consumes one arrival and one unit of fuel
  induction arrivals generalizing association loops resolve delivery with
  | nil =>
      obtain ⟨loops, rfl⟩ : ∃ left, loops = left + 1 := Nat.exists_eq_add_one.mpr hloops
      simp only [receiveLoop_closed, Option.map_some, List.foldl_nil, hfailure]
  | cons arrival arrivals ih =>
      obtain ⟨loops, rfl⟩ : ∃ left, loops = left + 1 := ⟨loops - 1, by omega⟩
      have hloops' : arrivals.length < loops := by
        rw [List.length_cons] at hloops
        omega
      rw [List.foldl_cons]
      cases arrival with
      | timeout =>
          rw [receiveLoop_timeout]
          exact ih hfailure hloops'
      | datagram packet resolve delivery =>
          rw [receiveLoop_datagram, Association.step_datagram hfailure]
          have hturn := @handleDatagram_run config relay
            { arrivals, resolve, delivery, sent := association.sent, waiting }
            association.clientAddress packet
          rcases hended : deliver delivery association.sent
            (outgoing config resolve association.clientAddress packet) with ⟨result, sent⟩
          dsimp only at hturn ⊢
          rw [hended] at hturn
          cases result with
          | ok =>
              rw [run_bindE_ok hturn]
              exact @ih loops resolve delivery ⟨_, sent, none⟩ rfl hloops'
          | error error =>
              -- the loop is left, and the machine stays where it failed
              rw [run_bindE_error hturn, Association.foldl_failed rfl]
              rfl

/-- The loop ends as the machine does, and sends the same. -/
theorem receiveLoop_run (hloops : arrivals.length < loops) :
    runLoop config relay loops arrivals waiting =
      some (loopResult waiting (Association.after config relay arrivals).failure,
        (Association.after config relay arrivals).sent) :=
  have hfresh : ({} : Association).failure = none := rfl
  receiveLoop_foldl hfresh hloops

end Loop

end AIUnblock.LocalSocksRelay
