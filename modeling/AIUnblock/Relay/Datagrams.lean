import AIUnblock.Relay.BadDatagrams
import AIUnblock.Relay.Destinations
import AIUnblock.Relay.ForeignDatagrams

/-! # The datagrams of a UDP association

While names resolve and sends succeed, every datagram that arrives causes the
datagrams it should, in the order of arrival: a request is sent on, answered here or
blocked, and what comes from elsewhere is wrapped for the client.
-/

namespace AIUnblock.LocalSocksRelay

open LengthPrefixed

/-! ## What each datagram should cause -/

/-- A datagram in the wrapping of the protocol: no fragment, the type and octets of
an address, a port, and then the payload. -/
def wrapped (source : InetSocketAddress) (payload : Bytes) (client : InetSocketAddress) :
    Datagram where
  bytes := [0, 0, 0] ++ (if source.address.isInet4 then 1 else 4) :: source.address.octets ++
    toBigEndian 2 source.port ++ payload
  destination := client

/-- The override's answer to a query of the client. -/
def overrideAnswer (config : RelayConfig) (query : Bytes) : Except Exception (Option Bytes) :=
  DnsOverride.response config.platform config.tableAddress query
    (config.geoHideRules.fixedAddressFor config.platform)

/-- What an arrival causes to be sent, where `client` is `clientAddress` before it. -/
inductive Causes (config : RelayConfig) (client : Option InetSocketAddress) :
    Arrival → List Datagram → Prop
  | timeout : Causes config client .timeout []
  | answered {packet resolve delivery request response} (hclient : IsClient client packet)
      (hrequest : requestOf resolve packet = .ok (some request))
      (hport : request.destination.port = 53)
      (hanswer : overrideAnswer config request.payload = .ok (some response)) :
      Causes config client (.datagram packet resolve delivery)
        [wrapped request.destination response packet.socketAddress]
  | forwarded {packet resolve delivery request} (hclient : IsClient client packet)
      (hrequest : requestOf resolve packet = .ok (some request))
      (hport : request.destination.port ≠ 443)
      (hanswer : request.destination.port = 53 → overrideAnswer config request.payload = .ok none) :
      Causes config client (.datagram packet resolve delivery)
        [{ bytes := request.payload, destination := request.destination }]
  | blocked {packet resolve delivery request} (hclient : IsClient client packet)
      (hrequest : requestOf resolve packet = .ok (some request))
      (hport : request.destination.port = 443) :
      Causes config client (.datagram packet resolve delivery) []
  | unparsed {packet resolve delivery} (hclient : IsClient client packet)
      (hrequest : requestOf resolve packet = .ok none) :
      Causes config client (.datagram packet resolve delivery) []
  | foreign {packet resolve delivery known} (hknown : client = some known)
      (hforeign : packet.socketAddress ≠ known) :
      Causes config client (.datagram packet resolve delivery)
        [wrapped packet.socketAddress
          (slice packet.data packet.offset (packet.offset + packet.length)) known]

/-- The client's endpoint is the source of the first datagram. -/
def clientAfter (client : Option InetSocketAddress) : Arrival → Option InetSocketAddress
  | .timeout => client
  | .datagram packet _ _ => adopt client packet

/-- What a run sends: what its arrivals cause, one after the other. -/
inductive Emits (config : RelayConfig) :
    Option InetSocketAddress → List Arrival → List Datagram → Prop
  | nil {client} : Emits config client [] []
  | cons {client arrival arrivals out sent} (hcauses : Causes config client arrival out)
      (hrest : Emits config (clientAfter client arrival) arrivals sent) :
      Emits config client (arrival :: arrivals) (out ++ sent)

/-- Names resolve and sends succeed. -/
def AllSucceed (arrivals : List Arrival) : Prop :=
  ∀ packet resolve delivery, .datagram packet resolve delivery ∈ arrivals →
    delivery = .ok () ∧ ∀ host, ∃ address, resolve host = .ok address

/-! ## A request is read without an exception -/

theorem requestOf_returns {resolve : Text → Except Exception InetAddress}
    (hresolve : ∀ host, ∃ address, resolve host = .ok address) (packet : Packet) :
    ∃ found, requestOf resolve packet = .ok found := by
  cases hrequest : requestOf resolve packet with
  | ok found => exact ⟨found, rfl⟩
  | error error =>
      obtain ⟨host, hfailed⟩ := parseUdpRequest_error packet.fits hrequest
      obtain ⟨address, hresolved⟩ := hresolve host
      rw [hresolved] at hfailed
      cases hfailed

/-! ## One arrival -/

theorem wrapped_eq (source client : InetSocketAddress) (payload : Bytes) :
    { bytes := encodeUdpResponse source.address source.port payload, destination := client } =
      wrapped source payload client := by
  rw [encodeUdpResponse_eq, wrapped]

section Step

variable {config : RelayConfig} {relay : SocketId} {association : Association} {packet : Packet}
  {resolve : Text → Except Exception InetAddress}

theorem requestDatagram_causes {client : Option InetSocketAddress} {request : UdpRequest}
    (delivery : Except Exception Unit) (hclient : IsClient client packet)
    (hrequest : requestOf resolve packet = .ok (some request)) :
    ∃ sent, requestDatagram config packet.socketAddress request = .ok sent ∧
      Causes config client (.datagram packet resolve delivery) sent.toList := by
  unfold requestDatagram
  by_cases hblocked : request.destination.port = 443
  · rw [if_pos hblocked]
    exact ⟨none, rfl, .blocked hclient hrequest hblocked⟩
  rw [if_neg hblocked, dnsResponseFor]
  by_cases hquery : request.destination.port = 53
  · rw [if_pos hquery]
    obtain ⟨answer, hanswer⟩ := DnsOverride.response_returns config.platform config.tableAddress
      request.payload (config.geoHideRules.fixedAddressFor config.platform)
    rw [hanswer]
    cases answer with
    | none => exact ⟨_, rfl, .forwarded hclient hrequest hblocked fun _ => hanswer⟩
    | some response =>
        refine ⟨_, rfl, ?_⟩
        rw [wrapped_eq]
        exact .answered hclient hrequest hquery hanswer
  · rw [if_neg hquery]
    exact ⟨_, rfl, .forwarded hclient hrequest hblocked fun heq => absurd heq hquery⟩

theorem outgoing_causes {client : Option InetSocketAddress} (delivery : Except Exception Unit)
    (hresolve : ∀ host, ∃ address, resolve host = .ok address) :
    ∃ sent, outgoing config resolve client packet = .ok sent ∧
      Causes config client (.datagram packet resolve delivery) sent.toList := by
  by_cases hclient : IsClient client packet
  · rw [outgoing_client hclient, outgoing.fromClient]
    obtain ⟨found, hfound⟩ := requestOf_returns hresolve packet
    rw [hfound, ok_bind]
    cases found with
    | none => exact ⟨none, rfl, .unparsed hclient hfound⟩
    | some request => exact requestDatagram_causes delivery hclient hfound
  · obtain ⟨hnone, hother⟩ := not_or.mp hclient
    obtain ⟨known, rfl⟩ := Option.ne_none_iff_exists'.mp hnone
    have hforeign : packet.socketAddress ≠ known := fun heq => hother (congrArg some heq.symm)
    refine ⟨_, if_neg hforeign, ?_⟩
    rw [replyDatagram, wrapped_eq]
    exact .foreign rfl hforeign

/-- A turn sends what its arrival causes. -/
theorem step_causes {arrival : Arrival} (hfailure : association.failure = none)
    (hsucceed : AllSucceed [arrival]) :
    ∃ out, Causes config association.clientAddress arrival out ∧
      association.step config relay arrival =
        { clientAddress := clientAfter association.clientAddress arrival
          sent := association.sent ++ out
          failure := none } := by
  cases arrival with
  | timeout =>
      obtain ⟨clientAddress, sent, failure⟩ := association
      cases hfailure
      exact ⟨[], .timeout, by rw [List.append_nil]; rfl⟩
  | datagram packet resolve delivery =>
      obtain ⟨rfl, hresolve⟩ := hsucceed packet resolve delivery List.mem_cons_self
      obtain ⟨sent, hsent, hcauses⟩ := outgoing_causes (.ok ()) hresolve
      refine ⟨sent.toList, hcauses, ?_⟩
      rw [Association.step_datagram hfailure, hsent]
      cases sent with
      | none =>
          rw [Option.toList_none, List.append_nil]
          rfl
      | some datagram => rfl

theorem foldl_emits {arrivals : List Arrival} (hfailure : association.failure = none)
    (hsucceed : AllSucceed arrivals) :
    ∃ sent, Emits config association.clientAddress arrivals sent ∧
      (arrivals.foldl (Association.step config relay) association).sent =
        association.sent ++ sent ∧
      (arrivals.foldl (Association.step config relay) association).failure = none := by
  induction arrivals generalizing association with
  | nil => exact ⟨[], .nil, (List.append_nil _).symm, hfailure⟩
  | cons arrival arrivals ih =>
      have hfirst : AllSucceed [arrival] := by
        intro packet resolve delivery hmem
        apply hsucceed packet resolve delivery
        exact List.mem_cons.mpr (Or.inl (List.mem_singleton.mp hmem))
      have hothers : AllSucceed arrivals := fun packet resolve delivery hmem =>
        hsucceed packet resolve delivery (List.mem_cons_of_mem _ hmem)
      obtain ⟨out, hcauses, hstep⟩ := @step_causes config relay association arrival hfailure hfirst
      rw [List.foldl_cons, hstep]
      obtain ⟨sent, hemits, hsent, hended⟩ := @ih
        { clientAddress := clientAfter association.clientAddress arrival
          sent := association.sent ++ out
          failure := none } rfl hothers
      refine ⟨out ++ sent, .cons hcauses hemits, ?_, hended⟩
      rw [hsent, List.append_assoc]

end Step

/-! ## What is never sent -/

/-- The payload of a request, sent on to where it may go. -/
def ForwardedFrom (config : RelayConfig) (arrivals : List Arrival) (datagram : Datagram) : Prop :=
  ∃ packet resolve delivery request, .datagram packet resolve delivery ∈ arrivals ∧
    requestOf resolve packet = .ok (some request) ∧
    datagram = { bytes := request.payload, destination := request.destination } ∧
    request.destination.port ≠ 443 ∧
    (request.destination.port = 53 → overrideAnswer config request.payload = .ok none)

/-- A datagram for the client, wrapped. -/
def ToClient (arrivals : List Arrival) (datagram : Datagram) : Prop :=
  ∃ first ∈ (packets arrivals).head?, ∃ source payload,
    datagram = wrapped source payload first.socketAddress

/-- The endpoint that `clientAddress` holds after some arrivals. -/
def clientOf (arrivals : List Arrival) : Option InetSocketAddress :=
  (packets arrivals).head?.map Packet.socketAddress

theorem clientAfter_clientOf (before : List Arrival) (arrival : Arrival) :
    clientAfter (clientOf before) arrival = clientOf (before ++ [arrival]) := by
  rw [clientOf, clientOf, packets_append]
  cases arrival with
  | timeout => simp [clientAfter, packets]
  | datagram packet resolve delivery =>
      cases hpackets : packets before with
      | nil => rfl
      | cons first rest => rfl

theorem clientOf_append {before later : List Arrival} {known : InetSocketAddress}
    (hknown : clientOf before = some known) :
    ∃ first ∈ (packets (before ++ later)).head?, first.socketAddress = known := by
  obtain ⟨first, hfirst, rfl⟩ := Option.map_eq_some_iff.mp hknown
  refine ⟨first, ?_, rfl⟩
  rw [packets_append, List.head?_append, hfirst]
  rfl

theorem IsClient.first {before later : List Arrival} {packet : Packet}
    {resolve : Text → Except Exception InetAddress} {delivery : Except Exception Unit}
    (hclient : IsClient (clientOf before) packet) :
    ∃ first ∈ (packets (before ++ .datagram packet resolve delivery :: later)).head?,
      first.socketAddress = packet.socketAddress := by
  rcases hclient with hnone | hknown
  · refine ⟨packet, ?_, rfl⟩
    rw [clientOf, Option.map_eq_none_iff] at hnone
    rw [packets_append, List.head?_append, hnone]
    rfl
  · exact clientOf_append hknown

theorem Causes.datagrams {config : RelayConfig} {before later : List Arrival} {arrival : Arrival}
    {out : List Datagram} (hcauses : Causes config (clientOf before) arrival out) :
    ∀ datagram ∈ out, ForwardedFrom config (before ++ arrival :: later) datagram ∨
      ToClient (before ++ arrival :: later) datagram := by
  intro datagram hmem
  cases hcauses with
  | timeout | blocked | unparsed => contradiction
  | answered hclient hrequest hport hanswer =>
      obtain ⟨first, hfirst, haddress⟩ := hclient.first
      exact Or.inr ⟨first, hfirst, _, _, haddress ▸ List.mem_singleton.mp hmem⟩
  | forwarded hclient hrequest hport hanswer =>
      exact Or.inl ⟨_, _, _, _, List.mem_append_right _ List.mem_cons_self, hrequest,
        List.mem_singleton.mp hmem, hport, hanswer⟩
  | foreign hknown hforeign =>
      obtain ⟨first, hfirst, haddress⟩ := clientOf_append hknown
      exact Or.inr ⟨first, hfirst, _, _, haddress ▸ List.mem_singleton.mp hmem⟩

theorem Emits.datagrams {config : RelayConfig} {before later : List Arrival}
    {sent : List Datagram} (hemits : Emits config (clientOf before) later sent) :
    ∀ datagram ∈ sent, ForwardedFrom config (before ++ later) datagram ∨
      ToClient (before ++ later) datagram := by
  induction later generalizing before sent with
  | nil =>
      cases hemits
      exact nofun
  | cons arrival later ih =>
      cases hemits with
      | cons hcauses hrest =>
          intro datagram hmem
          rcases List.mem_append.mp hmem with hout | hlater
          · exact hcauses.datagrams datagram hout
          · rw [clientAfter_clientOf] at hrest
            have hsent := ih hrest datagram hlater
            rwa [List.append_assoc] at hsent

/-- While names resolve and sends succeed, the loop sends exactly what its arrivals
cause, in their order. So nothing else is sent than requests to where they may go and
wrapped datagrams for the client. -/
theorem datagrams_conserved (config : RelayConfig) (relay : SocketId) (loops : Nat)
    (arrivals : List Arrival) (waiting : Bool) (hloops : arrivals.length < loops)
    (hsucceed : AllSucceed arrivals) :
    ∃ sent, runLoop config relay loops arrivals waiting = some (loopResult waiting none, sent) ∧
      Emits config none arrivals sent ∧
      ∀ datagram ∈ sent, ForwardedFrom config arrivals datagram ∨ ToClient arrivals datagram := by
  have hfresh : ({} : Association).failure = none := rfl
  obtain ⟨sent, hemits, hsent, hended⟩ :=
    @foldl_emits config relay {} arrivals hfresh hsucceed
  refine ⟨sent, ?_, hemits, ?_⟩
  · rw [receiveLoop_run hloops, Association.after, hended, hsent]
    rfl
  · exact @Emits.datagrams config [] arrivals sent hemits

/-- A request of the client and the reply to it. -/
def exchange : List Arrival :=
  [.datagram
      { foreignPacket with socketAddress := { address := .loopback, port := 4000 } }
      (fun _ => .ok .loopback) (.ok ()),
    .timeout,
    .datagram
      { socketAddress := { address := .inet4 ⟨[8, 8, 8, 8], rfl⟩, port := 80 }
        data := [2]
        offset := 0
        length := 1
        fits := by decide }
      (fun _ => .ok .loopback) (.ok ())]

theorem exchange_conserved :
    ∃ sent, runLoop (.withRules ⟨[], []⟩ 0) 1 4 exchange false = some (.ok (), sent) ∧
      Emits (.withRules ⟨[], []⟩ 0) none exchange sent := by
  have hsucceed : AllSucceed exchange := by
    intro packet resolve delivery hmem
    rcases List.mem_cons.mp hmem with heq | hmem
    · cases heq
      exact ⟨rfl, fun _ => ⟨_, rfl⟩⟩
    · rcases List.mem_cons.mp hmem with heq | hmem
      · contradiction
      · cases List.mem_singleton.mp hmem
        exact ⟨rfl, fun _ => ⟨_, rfl⟩⟩
  obtain ⟨sent, hrun, hemits, _⟩ := datagrams_conserved (.withRules ⟨[], []⟩ 0) 1 4 exchange false
    (by decide) hsucceed
  exact ⟨sent, hrun, hemits⟩

end AIUnblock.LocalSocksRelay
