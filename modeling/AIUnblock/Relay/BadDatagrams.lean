import AIUnblock.Relay.Association

/-! # Bad datagrams

A datagram that cannot be parsed, resolved or sent on should leave its association
alone. An exception ends the loop instead, and a first datagram names the client
even if it cannot be parsed.
-/

namespace AIUnblock.LocalSocksRelay

variable {config : RelayConfig} {relay : SocketId} {association : Association} {packet : Packet}
  {resolve : Text → Except Exception InetAddress} {delivery : Except Exception Unit}

/-- Parsing a datagram of the client, resolving its host or sending for it fails. -/
def Fails (config : RelayConfig) (association : Association) (packet : Packet)
    (resolve : Text → Except Exception InetAddress) (delivery : Except Exception Unit) : Prop :=
  (IsClient association.clientAddress packet ∧
      ∀ request, requestOf resolve packet ≠ .ok (some request)) ∨
    ∃ datagram error, outgoing config resolve association.clientAddress packet =
      .ok (some datagram) ∧ delivery = .error error

/-- A datagram of the known client that is merely no request. -/
def Harmless (association : Association) (packet : Packet)
    (resolve : Text → Except Exception InetAddress) : Prop :=
  association.clientAddress = some packet.socketAddress ∧ requestOf resolve packet = .ok none

/-- Every datagram that fails leaves the association as it is, and the loop goes on
until the socket is closed. -/
structure Isolates (config : RelayConfig) (relay : SocketId) (arrivals : List Arrival) : Prop where
  unchanged : ∀ before packet resolve delivery,
    before ++ [.datagram packet resolve delivery] <+: arrivals →
      Fails config (.after config relay before) packet resolve delivery →
        (Association.after config relay before).step config relay
          (.datagram packet resolve delivery) = .after config relay before
  closed : ∀ loops waiting, arrivals.length < loops → ∃ sent,
    runLoop config relay loops arrivals waiting = some (loopResult waiting none, sent)

/-! ## One datagram -/

theorem requestDatagram_returns (client : InetSocketAddress) (request : UdpRequest) :
    ∃ sent, requestDatagram config client request = .ok sent := by
  unfold requestDatagram
  split
  next => exact ⟨_, rfl⟩
  next =>
    have hresponse : ∃ response, dnsResponseFor config request = .ok response := by
      unfold dnsResponseFor
      split
      next => exact DnsOverride.response_returns _ _ _ _
      next => exact ⟨_, rfl⟩
    obtain ⟨response, hresponse⟩ := hresponse
    rw [hresponse]
    cases response with
    | none => exact ⟨_, rfl⟩
    | some response => exact ⟨_, rfl⟩

theorem outgoing_client {clientAddress : Option InetSocketAddress}
    (hclient : IsClient clientAddress packet) :
    outgoing config resolve clientAddress packet =
      outgoing.fromClient config resolve packet packet.socketAddress := by
  rcases hclient with hnone | hknown
  · rw [hnone]
    rfl
  · rw [hknown]
    exact if_pos rfl

theorem outgoing_foreign (hforeign : ¬ IsClient association.clientAddress packet) :
    ∃ datagram, outgoing config resolve association.clientAddress packet = .ok (some datagram) := by
  obtain ⟨hnone, hother⟩ := not_or.mp hforeign
  obtain ⟨known, hknown⟩ := Option.ne_none_iff_exists'.mp hnone
  rw [hknown] at hother ⊢
  exact ⟨_, if_neg fun heq => hother (by rw [heq])⟩

/-- A datagram that does not fail makes no turn throw. -/
theorem step_of_not_fails (hfailure : association.failure = none)
    (hworks : ¬ Fails config association packet resolve delivery) :
    (association.step config relay (.datagram packet resolve delivery)).failure = none := by
  obtain ⟨hparses, hsends⟩ := not_or.mp hworks
  rw [Association.step_datagram hfailure]
  have hreturns : ∃ sent, outgoing config resolve association.clientAddress packet = .ok sent := by
    by_cases hclient : IsClient association.clientAddress packet
    · rw [outgoing_client hclient]
      have hrequest : ∃ request, requestOf resolve packet = .ok (some request) := by
        by_contra hnone
        exact hparses ⟨hclient, fun request heq => hnone ⟨request, heq⟩⟩
      obtain ⟨request, hrequest⟩ := hrequest
      rw [outgoing.fromClient, hrequest, ok_bind]
      exact requestDatagram_returns _ _
    · obtain ⟨datagram, hdatagram⟩ := outgoing_foreign hclient
      exact ⟨_, hdatagram⟩
  obtain ⟨sent, hsent⟩ := hreturns
  rw [hsent]
  cases sent with
  | none => rfl
  | some datagram =>
      cases delivery with
      | ok => rfl
      | error error => exact absurd ⟨datagram, error, hsent, rfl⟩ hsends

theorem step_harmless (hharmless : Harmless association packet resolve) :
    association.step config relay (.datagram packet resolve delivery) = association := by
  obtain ⟨hknown, hrequest⟩ := hharmless
  cases hfailure : association.failure with
  | some error => exact Association.step_failed hfailure
  | none =>
      rw [Association.step_datagram hfailure, outgoing_client (Or.inr hknown), outgoing.fromClient,
        hrequest]
      obtain ⟨clientAddress, sent, failure⟩ := association
      cases hknown
      cases hfailure
      rfl

/-- A datagram that fails and changes nothing is a harmless one. -/
theorem harmless_of_unchanged (hfailure : association.failure = none)
    (hfails : Fails config association packet resolve delivery)
    (hsame : association.step config relay (.datagram packet resolve delivery) = association) :
    Harmless association packet resolve := by
  rw [Association.step_datagram hfailure] at hsame
  have hadopt := congrArg Association.clientAddress hsame
  have hnothrow := (congrArg Association.failure hsame).trans hfailure
  dsimp only at hadopt hnothrow
  rcases hfails with ⟨hclient, hnorequest⟩ | ⟨datagram, error, hdatagram, rfl⟩
  · have hknown : association.clientAddress = some packet.socketAddress := by
      rcases hclient with hnone | hknown
      · -- a first datagram is adopted before it is parsed
        rw [hnone] at hadopt
        contradiction
      · exact hknown
    refine ⟨hknown, ?_⟩
    rw [outgoing_client hclient, outgoing.fromClient] at hnothrow
    cases hrequest : requestOf resolve packet with
    | error error =>
        rw [hrequest] at hnothrow
        contradiction
    | ok request =>
        cases request with
        | none => rfl
        | some request => exact absurd hrequest (hnorequest request)
  · rw [hdatagram] at hnothrow
    contradiction

/-! ## Sequences of datagrams -/

theorem after_append (before : List Arrival) (arrival : Arrival) :
    Association.after config relay (before ++ [arrival]) =
      (Association.after config relay before).step config relay arrival := by
  simp [Association.after]

/-- No turn throws while the failing datagrams change nothing. -/
theorem after_failure {arrivals before : List Arrival} (hbefore : before <+: arrivals)
    (hunchanged : ∀ before packet resolve delivery,
      before ++ [.datagram packet resolve delivery] <+: arrivals →
        Fails config (.after config relay before) packet resolve delivery →
          (Association.after config relay before).step config relay
            (.datagram packet resolve delivery) = .after config relay before) :
    (Association.after config relay before).failure = none := by
  -- the induction follows the arrivals in time, so it adds them at the end
  induction before using List.reverseRecOn with
  | nil => rfl
  | append_singleton before arrival ih =>
      have hfailure := ih ((List.prefix_append _ _).trans hbefore)
      rw [after_append]
      cases arrival with
      | timeout => exact hfailure
      | datagram packet resolve delivery =>
          by_cases hfails : Fails config (.after config relay before) packet resolve delivery
          · rw [hunchanged before packet resolve delivery hbefore hfails]
            exact hfailure
          · exact step_of_not_fails hfailure hfails

/-- Failing datagrams are isolated exactly where each of them comes from a known
client and is no request, without any exception. -/
theorem isolates_iff (config : RelayConfig) (relay : SocketId) (arrivals : List Arrival) :
    Isolates config relay arrivals ↔
      ∀ before packet resolve delivery,
        before ++ [.datagram packet resolve delivery] <+: arrivals →
          Fails config (.after config relay before) packet resolve delivery →
            Harmless (.after config relay before) packet resolve := by
  constructor
  · intro hisolates before packet resolve delivery hreceived hfails
    have hfailure := after_failure ((List.prefix_append _ _).trans hreceived) hisolates.unchanged
    exact harmless_of_unchanged hfailure hfails
      (hisolates.unchanged before packet resolve delivery hreceived hfails)
  · intro hharmless
    have hunchanged : ∀ before packet resolve delivery,
        before ++ [.datagram packet resolve delivery] <+: arrivals →
          Fails config (.after config relay before) packet resolve delivery →
            (Association.after config relay before).step config relay
              (.datagram packet resolve delivery) = .after config relay before :=
      fun before packet resolve delivery hreceived hfails =>
        step_harmless (hharmless before packet resolve delivery hreceived hfails)
    refine ⟨hunchanged, fun loops waiting hloops =>
      ⟨(Association.after config relay arrivals).sent, ?_⟩⟩
    have hfailure := after_failure (List.prefix_refl arrivals) hunchanged
    rw [receiveLoop_run hloops, hfailure]

/-- A client's datagram for a host that does not resolve. -/
def unresolvablePacket : Packet where
  socketAddress := { address := .loopback, port := 4000 }
  data := [0, 0, 0, 3, 1, 97, 0, 80, 1]
  offset := 0
  length := 9
  fits := by decide

/-- Its host does not resolve at first. -/
def unresolvedArrivals : List Arrival :=
  [.datagram unresolvablePacket (fun _ => .error { kind := .unknownHost }) (.ok ()),
    .datagram unresolvablePacket (fun _ => .ok .loopback) (.ok ())]

/-- The exception of the resolver ends the association, and the client's next
datagram is not handled. -/
theorem unresolvedArrivals_end :
    runLoop (.withRules ⟨[], []⟩ 0) 1 3 unresolvedArrivals false =
        some (.error { kind := .unknownHost }, []) ∧
      ¬ Isolates (.withRules ⟨[], []⟩ 0) 1 unresolvedArrivals := by
  have hrun : runLoop (.withRules ⟨[], []⟩ 0) 1 3 unresolvedArrivals false =
      some (.error { kind := .unknownHost }, []) := rfl
  refine ⟨hrun, fun hisolates => ?_⟩
  obtain ⟨sent, hclosed⟩ := hisolates.closed 3 false (by decide)
  rw [hrun] at hclosed
  simp [loopResult] at hclosed

end AIUnblock.LocalSocksRelay
