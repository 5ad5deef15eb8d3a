import AIUnblock.Relay.Destinations

/-! # Datagram headers, there and back

What the relay wraps for the client is read back by its own reader, and a datagram
with an address of octets is written back as it came. An IPv6 address that stands for
an IPv4 one is the exception: the platform hands it out as the IPv4 address.
-/

namespace AIUnblock

/-- `::ffff:0:0/96` in an IPv6 address. -/
def InetAddress.IsMapped : InetAddress → Prop
  | .inet4 _ => False
  | .inet6 octets => octets.val.take 12 = mappedPrefix

instance (address : InetAddress) : Decidable address.IsMapped :=
  match address with
  | .inet4 _ => inferInstanceAs (Decidable False)
  | .inet6 _ => inferInstanceAs (Decidable (_ = _))

/-- An address is made of its own octets. -/
theorem InetAddress.getByAddress_octets {address : InetAddress} (hplain : ¬ address.IsMapped) :
    getByAddress address.octets = .ok address := by
  cases address with
  | inet4 octets =>
      obtain ⟨bytes, hlength⟩ := octets
      exact dif_pos hlength
  | inet6 octets =>
      obtain ⟨bytes, hlength⟩ := octets
      have hfour : bytes.length ≠ 4 := by
        rw [hlength]
        decide
      show getByAddress bytes = _
      rw [getByAddress, dif_neg hfour, dif_pos hlength]
      exact if_neg hplain

namespace LocalSocksRelay

open LengthPrefixed

variable {resolve : Text → Except Exception InetAddress}

/-- The address of a written destination is read back. -/
theorem takeAddress_encode {address : InetAddress} (rest : Bytes) (hplain : ¬ address.IsMapped) :
    takeAddress resolve (if address.isInet4 then 1 else 4 : UInt8).toNat (address.octets ++ rest) =
      .ok (some (address, rest)) := by
  have hoctets := InetAddress.getByAddress_octets hplain
  rw [takeAddress_eq_some]
  cases address with
  | inet4 octets => exact Or.inl ⟨rfl, _, rfl, octets.property, hoctets⟩
  | inet6 octets => exact Or.inr (Or.inl ⟨rfl, _, rfl, octets.property, hoctets⟩)

/-- The bytes of an address of octets are those of the address. -/
theorem eq_encode_of_takeAddress {type : UInt8} {bytes rest : Bytes} {address : InetAddress}
    (haddress : takeAddress resolve type.toNat bytes = .ok (some (address, rest)))
    (htype : type = 1 ∨ type = 4 ∧ bytes.take 12 ≠ InetAddress.mappedPrefix) :
    type :: bytes = (if address.isInet4 then 1 else 4) :: address.octets ++ rest := by
  rcases htype with rfl | ⟨rfl, hplain⟩
  · rcases takeAddress_eq_some.mp haddress with
        ⟨_, octets, rfl, hlength, hoctets⟩ | ⟨htype, _⟩ | ⟨htype, _⟩
    · rw [InetAddress.getByAddress, dif_pos hlength] at hoctets
      cases hoctets
      rfl
    · contradiction
    · contradiction
  · rcases takeAddress_eq_some.mp haddress with
        ⟨htype, _⟩ | ⟨_, octets, rfl, hlength, hoctets⟩ | ⟨htype, _⟩
    · contradiction
    · have hfour : octets.length ≠ 4 := by
        rw [hlength]
        decide
      rw [List.take_append_of_le_length (by rw [hlength]; decide)] at hplain
      rw [InetAddress.getByAddress, dif_neg hfour, dif_pos hlength, if_neg hplain] at hoctets
      cases hoctets
      rfl
    · contradiction

/-- The address type is 1 or 4, and the address does not stand for one of the other family. -/
def CarriesOctets (datagram : Bytes) : Prop :=
  datagram[3]? = some 1 ∨
    datagram[3]? = some 4 ∧ (datagram.drop 4).take 12 ≠ InetAddress.mappedPrefix

/-- What the relay writes, it reads: any address that does not stand for one of the other
family, any port, any payload, anywhere in a buffer. What it reads of a datagram with an
address of octets, it writes. -/
theorem datagram_round_trip (resolve : Text → Except Exception InetAddress)
    (before after : Bytes) :
    (∀ address port payload, ¬ address.IsMapped → port < 65536 →
      parseUdpRequest resolve (before ++ encodeUdpResponse address port payload ++ after)
          before.length (encodeUdpResponse address port payload).length =
        .ok (some { destination := { address, port }, payload })) ∧
    (∀ datagram request, CarriesOctets datagram →
      parseUdpRequest resolve (before ++ datagram ++ after) before.length datagram.length =
          .ok (some request) →
        encodeUdpResponse request.destination.address request.destination.port request.payload =
          datagram) := by
  constructor
  · intro address port payload hplain hport
    rw [parseUdpRequest_eq_some, encodeUdpResponse_eq]
    refine ⟨(if address.isInet4 then 1 else 4) :: (address.octets ++
      (toBigEndian 2 port ++ payload)), by simp, ?_⟩
    rw [takeDestination_eq_some]
    refine ⟨_, _, address, UInt8.ofNat (port / 256), UInt8.ofNat port, rfl,
      takeAddress_encode _ hplain, ?_⟩
    have hlow : bigEndian (toBigEndian 2 port) = port := bigEndian_toBigEndian 2 port hport
    exact congrArg _ hlow.symm
  · intro datagram request hoctets hrequest
    obtain ⟨bytes, rfl, htaken⟩ := parseUdpRequest_eq_some.mp hrequest
    obtain ⟨type, content, address, high, low, rfl, haddress, hdestination⟩ :=
      takeDestination_eq_some.mp htaken
    have htype : type = 1 ∨ type = 4 ∧ content.take 12 ≠ InetAddress.mappedPrefix := by
      rcases hoctets with hone | ⟨hfour, hplain⟩
      · exact Or.inl (Option.some.inj hone)
      · exact Or.inr ⟨Option.some.inj hfour, hplain⟩
    have hport : toBigEndian 2 (bigEndian [high, low]) = [high, low] :=
      toBigEndian_bigEndian [high, low]
    rw [encodeUdpResponse_eq, hdestination, hport, eq_encode_of_takeAddress haddress htype]
    simp

/-- No name resolves. -/
def noNames (_ : Text) : Except Exception InetAddress := .error { kind := .unknownHost }

/-- A datagram inside a larger buffer, and the same datagram written again. -/
theorem datagram_round_trip_loopback :
    parseUdpRequest noNames ([9] ++ encodeUdpResponse .loopback 53 [1, 2] ++ [8]) 1 12 =
        .ok (some { destination := { address := .loopback, port := 53 }, payload := [1, 2] }) ∧
      encodeUdpResponse .loopback 53 [1, 2] = [0, 0, 0, 1, 127, 0, 0, 1, 0, 53, 1, 2] :=
  ⟨(datagram_round_trip noNames [9] [8]).1 .loopback 53 [1, 2] id (by decide),
    (datagram_round_trip noNames [] []).2 [0, 0, 0, 1, 127, 0, 0, 1, 0, 53, 1, 2]
      { destination := { address := .loopback, port := 53 }, payload := [1, 2] } (Or.inl rfl) rfl⟩

end LocalSocksRelay

end AIUnblock
