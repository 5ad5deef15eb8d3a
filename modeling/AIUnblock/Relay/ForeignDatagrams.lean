import AIUnblock.Relay.Association
import AIUnblock.Relay.Destinations

/-! # Whom a UDP association serves

The relay socket is bound to the wildcard address, and the first datagram decides
who the client is. The association serves the peer of its control connection only
if that datagram comes from there.
-/

namespace AIUnblock.LocalSocksRelay

/-! ## Requests are shorter than their datagrams -/

theorem requestOf_payload {resolve : Text → Except Exception InetAddress} (packet : Packet) :
    Returns (requestOf resolve packet) fun found =>
      ∀ request, found = some request → request.payload.length ≤ packet.length := by
  rintro _ hrequest request rfl
  have hlength := (parseUdpRequest_payload packet.fits hrequest).length_le
  rwa [length_slice packet.fits, Nat.add_sub_cancel_left] at hlength

/-! ## Whom an association serves -/

/-- The packets among some arrivals. -/
def packets (arrivals : List Arrival) : List Packet :=
  arrivals.filterMap fun
    | .timeout => none
    | .datagram packet _ _ => some packet

/-- The source of a datagram is served: it becomes the client's endpoint, or its
request is sent on, or its query is answered here. -/
inductive Serves (config : RelayConfig) (relay : SocketId) (association : Association)
    (packet : Packet) (resolve : Text → Except Exception InetAddress)
    (delivery : Except Exception Unit) : Prop
  | adopted (hbefore : association.clientAddress ≠ some packet.socketAddress)
      (hafter : (association.step config relay (.datagram packet resolve delivery)).clientAddress =
        some packet.socketAddress)
  | forwarded (request : UdpRequest) (hrequest : requestOf resolve packet = .ok (some request))
      (hsent : (association.step config relay (.datagram packet resolve delivery)).sent =
        association.sent ++ [{ bytes := request.payload, destination := request.destination }])
  | answered (bytes : Bytes)
      (hsent : (association.step config relay (.datagram packet resolve delivery)).sent =
        association.sent ++ [{ bytes, destination := packet.socketAddress }])

/-- Only `peer` is served, and relayed replies go nowhere else. -/
structure ServesOnly (peer : InetAddress) (config : RelayConfig) (relay : SocketId)
    (arrivals : List Arrival) : Prop where
  served : ∀ before packet resolve delivery,
    before ++ [.datagram packet resolve delivery] <+: arrivals →
      Serves config relay (.after config relay before) packet resolve delivery →
        packet.socketAddress.address = peer
  client : ∀ before client, before <+: arrivals →
    (Association.after config relay before).clientAddress = some client → client.address = peer

section Machine

variable {config : RelayConfig} {relay : SocketId} {association : Association} {packet : Packet}
  {resolve : Text → Except Exception InetAddress} {delivery : Except Exception Unit}

/-- A turn that threw has adopted a client. -/
def Association.Started (association : Association) : Prop :=
  association.failure ≠ none → association.clientAddress ≠ none

theorem adopt_ne_none (clientAddress : Option InetSocketAddress) (packet : Packet) :
    adopt clientAddress packet ≠ none := by
  cases clientAddress <;> simp [adopt]

theorem step_clientAddress (hstarted : association.Started) :
    (association.step config relay (.datagram packet resolve delivery)).clientAddress =
      adopt association.clientAddress packet := by
  cases hfailure : association.failure with
  | none => rw [Association.step_datagram hfailure]
  | some error =>
      rw [Association.step_failed hfailure]
      obtain ⟨client, hclient⟩ := Option.ne_none_iff_exists'.mp (hstarted (by simp [hfailure]))
      rw [hclient]
      rfl

theorem step_started (hstarted : association.Started) (arrival : Arrival) :
    (association.step config relay arrival).Started := by
  cases arrival with
  | timeout => exact hstarted
  | datagram packet resolve delivery =>
      intro _
      rw [step_clientAddress hstarted]
      exact adopt_ne_none _ _

/-- The client of an association is the source of its first datagram. -/
theorem foldl_clientAddress {arrivals : List Arrival} (hstarted : association.Started) :
    (arrivals.foldl (Association.step config relay) association).clientAddress =
      association.clientAddress.or ((packets arrivals).head?.map Packet.socketAddress) := by
  induction arrivals generalizing association with
  | nil => simp [packets]
  | cons arrival arrivals ih =>
      rw [List.foldl_cons, ih (step_started hstarted arrival)]
      cases arrival with
      | timeout => rfl
      | datagram packet resolve delivery =>
          rw [step_clientAddress hstarted]
          cases association.clientAddress <;> simp [adopt, packets]

theorem after_clientAddress (arrivals : List Arrival) :
    (Association.after config relay arrivals).clientAddress =
      (packets arrivals).head?.map Packet.socketAddress := by
  unfold Association.after
  rw [foldl_clientAddress (by simp [Association.Started])]
  rfl

theorem encodeUdpResponse_length (address : InetAddress) (port : Nat) (payload : Bytes) :
    payload.length < (encodeUdpResponse address port payload).length := by
  simp only [encodeUdpResponse, List.length_append, List.length_cons, List.length_nil]
  omega

/-- The sources that are served pass the test of the code. -/
theorem Serves.isClient (hserves : Serves config relay association packet resolve delivery) :
    IsClient association.clientAddress packet := by
  by_contra hforeign
  obtain ⟨hnone, hother⟩ := not_or.mp hforeign
  obtain ⟨known, hknown⟩ := Option.ne_none_iff_exists'.mp hnone
  have hdestination : known ≠ packet.socketAddress := fun heq => hother (by rw [hknown, heq])
  cases hfailure : association.failure with
  | some error =>
      -- an ended association serves nobody
      have hsame : association.step config relay (.datagram packet resolve delivery) =
          association := Association.step_failed hfailure
      cases hserves with
      | adopted hbefore hafter => exact hbefore (hsame ▸ hafter)
      | forwarded request hrequest hsent => simp [hsame] at hsent
      | answered bytes hsent => simp [hsame] at hsent
  | none =>
      have hturn :=
        @Association.step_datagram config relay association packet resolve delivery hfailure
      have houtgoing : outgoing config resolve association.clientAddress packet =
          .ok (some (replyDatagram known packet)) := by
        rw [hknown]
        exact if_neg (Ne.symm hdestination)
      -- all that a foreign datagram can add is its wrapped copy for the client
      have hadds : ∀ datagram, (association.step config relay
          (.datagram packet resolve delivery)).sent = association.sent ++ [datagram] →
            datagram = replyDatagram known packet := by
        intro datagram hsent
        rw [hturn, houtgoing] at hsent
        cases delivery with
        | ok => simpa [deliver] using hsent.symm
        | error error => simp [deliver] at hsent
      cases hserves with
      | adopted hbefore hafter =>
          rw [hturn, hknown] at hafter
          exact hdestination (Option.some.inj hafter)
      | forwarded request hrequest hsent =>
          -- the wrapped copy is longer than any payload the datagram can carry
          have hbytes := congrArg (fun datagram => datagram.bytes.length) (hadds _ hsent)
          have hshort := requestOf_payload packet _ hrequest request rfl
          have hlong := encodeUdpResponse_length packet.socketAddress.address
            packet.socketAddress.port (slice packet.data packet.offset (packet.offset + packet.length))
          rw [length_slice packet.fits] at hlong
          simp only [replyDatagram] at hbytes
          omega
      | answered bytes hsent =>
          exact hdestination (congrArg Datagram.destination (hadds _ hsent)).symm

end Machine

theorem packets_append (before arrivals : List Arrival) :
    packets (before ++ arrivals) = packets before ++ packets arrivals := List.filterMap_append

/-- An association serves the control connection's peer alone if and only if its
first datagram, if there is one, comes from that peer. -/
theorem servesOnly_iff (peer : InetAddress) (config : RelayConfig) (relay : SocketId)
    (arrivals : List Arrival) :
    ServesOnly peer config relay arrivals ↔
      ∀ packet ∈ (packets arrivals).head?, packet.socketAddress.address = peer := by
  constructor
  · intro hserves packet hpacket
    have hclient : (Association.after config relay arrivals).clientAddress =
        some packet.socketAddress := by
      rw [after_clientAddress, hpacket]
      rfl
    exact hserves.client arrivals _ (List.prefix_refl _) hclient
  · intro hfirst
    have hclient : ∀ before client, before <+: arrivals →
        (Association.after config relay before).clientAddress = some client →
          client.address = peer := by
      rintro before client ⟨later, rfl⟩ hclient
      rw [after_clientAddress, Option.map_eq_some_iff] at hclient
      obtain ⟨packet, hpacket, rfl⟩ := hclient
      apply hfirst
      rw [packets_append, List.head?_append, hpacket]
      rfl
    refine ⟨fun before packet resolve delivery hreceived hserves => ?_, hclient⟩
    rcases hserves.isClient with hnone | hknown
    · -- there is no client yet, so this datagram is the first
      apply hfirst
      obtain ⟨later, rfl⟩ := hreceived
      rw [after_clientAddress, Option.map_eq_none_iff] at hnone
      rw [List.append_assoc, packets_append, List.head?_append, hnone]
      rfl
    · exact hclient before _ ((List.prefix_append _ _).trans hreceived) hknown

/-- A datagram of a host on the local network. -/
def foreignPacket : Packet where
  socketAddress := { address := .inet4 ⟨[192, 168, 1, 7], rfl⟩, port := 4000 }
  data := [0, 0, 0, 1, 8, 8, 8, 8, 0, 80, 1]
  offset := 0
  length := 11
  fits := by decide

/-- The host that is heard first is served, whatever its address. -/
theorem foreignPacket_served :
    ¬ ServesOnly .loopback (.withRules ⟨[], []⟩ 0) 1
      [.datagram foreignPacket (fun _ => .error { kind := .unknownHost }) (.ok ())] := by
  intro hserves
  have hadopted : Serves (.withRules ⟨[], []⟩ 0) 1 {} foreignPacket
      (fun _ => .error { kind := .unknownHost }) (.ok ()) := .adopted nofun rfl
  have heq := hserves.served [] _ _ _ (List.prefix_refl _) hadopted
  contradiction

end AIUnblock.LocalSocksRelay
