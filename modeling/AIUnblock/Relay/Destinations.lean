import AIUnblock.Relay.UdpAssociation

/-! # Datagrams of the client

A datagram of the client is three zero bytes, a destination and a payload. Read off
from front to back no offset and no failing access is left. `parseUdpRequest_eq`
says that this is what the relay reads, wherever the datagram stands in its buffer.
-/

namespace AIUnblock.LocalSocksRelay

open LengthPrefixed

/-! ## The format -/

/-- The address that `read` makes of some bytes, and what is behind them. -/
def addressFrom (read : Bytes → Except Exception InetAddress) :
    Option (Bytes × Bytes) → Except Exception (Option (InetAddress × Bytes))
  | none => .ok none
  | some (bytes, rest) => (read bytes).map fun address => some (address, rest)

/-- An address of the given type; `none` if the type is unknown or the address cut off. -/
def takeAddress (resolve : Text → Except Exception InetAddress) (type : Nat) (bytes : Bytes) :
    Except Exception (Option (InetAddress × Bytes)) :=
  if type = ADDRESS_IPV4 then addressFrom InetAddress.getByAddress (takeExactly 4 bytes)
  else if type = ADDRESS_IPV6 then addressFrom InetAddress.getByAddress (takeExactly 16 bytes)
  else if type = ADDRESS_DOMAIN then
    addressFrom (fun name => resolve (decodeUsAscii name)) (takeVector 1 bytes)
  else .ok none

/-- The port behind an address. -/
def takePort (address : InetAddress) : Bytes → Option (InetSocketAddress × Bytes)
  | high :: low :: rest => some ({ address, port := bigEndian [high, low] }, rest)
  | _ => none

/-- The type, the bytes of an address and a port. -/
def takeDestination (resolve : Text → Except Exception InetAddress) :
    Bytes → Except Exception (Option (InetSocketAddress × Bytes))
  | [] => .ok none
  | type :: bytes =>
    (takeAddress resolve type.toNat bytes).map fun found =>
      found.bind fun (address, rest) => takePort address rest

/-- A whole datagram. -/
def datagramRequest (resolve : Text → Except Exception InetAddress) (datagram : Bytes) :
    Except Exception (Option UdpRequest) :=
  if datagram.take 3 = [0, 0, 0] then
    (takeDestination resolve (datagram.drop 3)).map fun found =>
      found.map fun (destination, payload) => { destination, payload }
  else .ok none

theorem addressFrom_eq_some {read : Bytes → Except Exception InetAddress}
    {found : Option (Bytes × Bytes)} {address : InetAddress} {rest : Bytes} :
    addressFrom read found = .ok (some (address, rest)) ↔
      ∃ bytes, found = some (bytes, rest) ∧ read bytes = .ok address := by
  cases found with
  | none => simp [addressFrom]
  | some found =>
      simp only [addressFrom, map_eq_ok_iff, Option.some.injEq, Prod.mk.injEq]
      constructor
      · rintro ⟨_, hread, rfl, rfl⟩
        exact ⟨found.1, rfl, hread⟩
      · rintro ⟨bytes, rfl, hread⟩
        exact ⟨address, hread, rfl, rfl⟩

/-- The three kinds of an address. -/
theorem takeAddress_eq_some {resolve : Text → Except Exception InetAddress} {type : Nat}
    {bytes rest : Bytes} {address : InetAddress} :
    takeAddress resolve type bytes = .ok (some (address, rest)) ↔
      (type = ADDRESS_IPV4 ∧ ∃ octets, bytes = octets ++ rest ∧ octets.length = 4 ∧
        InetAddress.getByAddress octets = .ok address) ∨
      (type = ADDRESS_IPV6 ∧ ∃ octets, bytes = octets ++ rest ∧ octets.length = 16 ∧
        InetAddress.getByAddress octets = .ok address) ∨
      (type = ADDRESS_DOMAIN ∧ ∃ name, bytes = vector 1 name ++ rest ∧ name.length < 256 ∧
        resolve (decodeUsAscii name) = .ok address) := by
  rw [takeAddress]
  by_cases hfour : type = ADDRESS_IPV4
  · subst hfour
    simp [addressFrom_eq_some, takeExactly_eq_some_iff, ADDRESS_IPV4, ADDRESS_IPV6,
      ADDRESS_DOMAIN, and_assoc]
  by_cases hsixteen : type = ADDRESS_IPV6
  · subst hsixteen
    simp [addressFrom_eq_some, takeExactly_eq_some_iff, ADDRESS_IPV4, ADDRESS_IPV6,
      ADDRESS_DOMAIN, and_assoc]
  by_cases hdomain : type = ADDRESS_DOMAIN
  · subst hdomain
    simp [addressFrom_eq_some, takeVector_eq_some_iff, ADDRESS_IPV4, ADDRESS_IPV6,
      ADDRESS_DOMAIN, and_assoc]
  · simp [hfour, hsixteen, hdomain]

/-- The bytes of a port. -/
theorem takePort_eq_some {address : InetAddress} {bytes rest : Bytes}
    {destination : InetSocketAddress} :
    takePort address bytes = some (destination, rest) ↔
      ∃ high low, bytes = high :: low :: rest ∧
        destination = { address, port := bigEndian [high, low] } := by
  rw [takePort.eq_def]
  split
  next high low others =>
    simp only [Option.some.injEq, Prod.mk.injEq, List.cons.injEq]
    constructor
    · rintro ⟨rfl, rfl⟩
      exact ⟨high, low, ⟨rfl, rfl, rfl⟩, rfl⟩
    · rintro ⟨_, _, ⟨rfl, rfl, rfl⟩, rfl⟩
      exact ⟨rfl, rfl⟩
  next hshort =>
    constructor
    · exact nofun
    · rintro ⟨high, low, rfl, _⟩
      exact absurd rfl (hshort high low rest)

/-- A destination is a type, an address and a port. -/
theorem takeDestination_eq_some {resolve : Text → Except Exception InetAddress}
    {bytes rest : Bytes} {destination : InetSocketAddress} :
    takeDestination resolve bytes = .ok (some (destination, rest)) ↔
      ∃ type content address high low, bytes = type :: content ∧
        takeAddress resolve type.toNat content = .ok (some (address, high :: low :: rest)) ∧
        destination = { address, port := bigEndian [high, low] } := by
  cases bytes with
  | nil => simp [takeDestination]
  | cons type content =>
      simp only [takeDestination, map_eq_ok_iff, Option.bind_eq_some_iff, takePort_eq_some]
      constructor
      · rintro ⟨_, haddress, ⟨address, others⟩, rfl, high, low, rfl, rfl⟩
        exact ⟨type, content, address, high, low, rfl, haddress, rfl⟩
      · rintro ⟨_, _, address, high, low, ⟨⟩, haddress, rfl⟩
        exact ⟨_, haddress, (address, high :: low :: rest), rfl, high, low, rfl, rfl⟩

/-! ## The relay reads exactly this -/

section Parse

variable {resolve : Text → Except Exception InetAddress} {data : Bytes} {offset stop : Nat}

/-- The `view` of an offset: what is behind it. -/
abbrev behind (data : Bytes) (stop : Nat) :
    Option (InetAddress × Nat) → Option (InetAddress × Bytes) :=
  Option.map fun (address, next) => (address, slice data next stop)

/-- The check of an address's length is what `takeExactly` checks. -/
theorem octets_eq (count : Nat) (hoffset : offset ≤ stop) (hstop : stop ≤ data.length) :
    (if offset + count > stop then pure none
      else do
        let address ← copyOfRange data offset (offset + count) >>= InetAddress.getByAddress
        return some (address, offset + count) : Except Exception _).map (behind data stop) =
      addressFrom InetAddress.getByAddress (takeExactly count (slice data offset stop)) := by
  by_cases hfits : offset + count ≤ stop
  · rw [if_neg (by omega), takeExactly_slice hfits hstop, copyOfRange_eq_ok (by omega) (by omega),
      ok_bind]
    cases hread : InetAddress.getByAddress (slice data offset (offset + count)) with
    | ok address =>
        simp only [addressFrom, hread]
        rfl
    | error error =>
        simp only [addressFrom, hread]
        rfl
  · have hshort : takeExactly count (slice data offset stop) = none := by
      rw [takeExactly_eq_none_iff, length_slice hstop]
      omega
    rw [if_pos (by omega), hshort]
    rfl

/-- The address of a request and the bytes behind it. -/
theorem parseUdpAddress_eq (type : Nat) (hoffset : offset ≤ stop) (hstop : stop ≤ data.length) :
    (parseUdpAddress resolve data offset stop type).map (behind data stop) =
      takeAddress resolve type (slice data offset stop) := by
  unfold parseUdpAddress takeAddress
  by_cases hfour : type = ADDRESS_IPV4
  · rw [if_pos hfour, if_pos hfour]
    exact octets_eq 4 hoffset hstop
  rw [if_neg hfour, if_neg hfour]
  by_cases hsixteen : type = ADDRESS_IPV6
  · rw [if_pos hsixteen, if_pos hsixteen]
    exact octets_eq 16 hoffset hstop
  rw [if_neg hsixteen, if_neg hsixteen]
  by_cases hdomain : type = ADDRESS_DOMAIN
  · rw [if_pos hdomain, if_pos hdomain]
    by_cases hlength : offset ≥ stop
    · rw [if_pos hlength, slice_eq_nil hlength]
      rfl
    rw [if_neg hlength]
    obtain ⟨count, hcount, hvector⟩ :=
      takeVector_one_slice (show offset + 1 ≤ stop by omega) hstop
    rw [hvector]
    simp only [liftM_except, hcount, ok_bind]
    by_cases hfits : offset + 1 + count ≤ stop
    · rw [if_neg (by omega), if_pos hfits, copyOfRange_eq_ok (by omega) (by omega), ok_bind]
      simp only [addressFrom]
      cases resolve (decodeUsAscii (slice data (offset + 1) (offset + 1 + count))) with
      | ok address => rfl
      | error error => rfl
    · rw [if_pos (by omega), if_neg hfits]
      rfl
  · rw [if_neg hdomain, if_neg hdomain]
    rfl

/-- The port and the payload behind the address. -/
theorem port_eq (address : InetAddress) (hstop : stop ≤ data.length) :
    (if offset + 2 > stop then pure none
      else do
        let port ← u16 data offset
        let payload ← copyOfRange data (offset + 2) stop
        return some { destination := { address, port }, payload } :
        Except Exception (Option UdpRequest)) =
      .ok ((takePort address (slice data offset stop)).map fun (destination, payload) =>
        { destination, payload }) := by
  by_cases hfits : offset + 2 ≤ stop
  · obtain ⟨high, hhigh, hslice⟩ :=
      slice_eq_cons_of_byteAt (show offset < stop by omega) hstop
    obtain ⟨low, hlow, hslice'⟩ :=
      slice_eq_cons_of_byteAt (show offset + 1 < stop by omega) hstop
    rw [if_neg (by omega), u16_eq_ok hhigh hlow, copyOfRange_eq_ok (by omega) hstop, hslice,
      hslice']
    rfl
  · have hshort : takePort address (slice data offset stop) = none := by
      have hlength : (slice data offset stop).length = stop - offset := length_slice hstop
      rw [takePort.eq_def]
      split
      next heq =>
        rw [heq, List.length_cons, List.length_cons] at hlength
        omega
      next => rfl
    rw [if_pos (by omega), hshort]
    rfl

/-- What `parseUdpRequest` finds behind the address type. -/
theorem destination_eq (type : UInt8) (hoffset : offset ≤ stop) (hstop : stop ≤ data.length) :
    (do
        match ← parseUdpAddress resolve data offset stop type.toNat with
        | none => return none
        | some (address, offset) =>
          if offset + 2 > stop then return none
          let port ← u16 data offset
          let payload ← copyOfRange data (offset + 2) stop
          return some { destination := { address, port }, payload } :
        Except Exception (Option UdpRequest)) =
      (takeDestination resolve (type :: slice data offset stop)).map fun found =>
        found.map fun (destination, payload) => { destination, payload } := by
  rw [takeDestination, ← parseUdpAddress_eq type.toNat hoffset hstop]
  cases parseUdpAddress resolve data offset stop type.toNat with
  | error error => rfl
  | ok found =>
      cases found with
      | none => rfl
      | some found => exact port_eq found.1 hstop

/-- Fewer than four bytes are no request. -/
theorem datagramRequest_short {datagram : Bytes} (hshort : datagram.length < 4) :
    datagramRequest resolve datagram = .ok none := by
  have hnil : datagram.drop 3 = [] := by
    rw [List.drop_eq_nil_iff]
    omega
  rw [datagramRequest, hnil]
  split
  next => rfl
  next => rfl

theorem datagramRequest_cons (first second third : UInt8) (rest : Bytes) :
    datagramRequest resolve (first :: second :: third :: rest) =
      if first = 0 ∧ second = 0 ∧ third = 0 then
        (takeDestination resolve rest).map fun found =>
          found.map fun (destination, payload) => { destination, payload }
      else .ok none := by
  simp [datagramRequest]

/-- `parseUdpRequest` reads the datagram and nothing else of the buffer. -/
theorem parseUdpRequest_eq {start length : Nat} (hfits : start + length ≤ data.length) :
    parseUdpRequest resolve data start length =
      datagramRequest resolve (slice data start (start + length)) := by
  unfold parseUdpRequest
  dsimp only
  by_cases hshort : length < 4
  · rw [if_pos hshort]
    rw [datagramRequest_short]
    · rfl
    · rw [length_slice hfits]
      omega
  rw [if_neg hshort]
  obtain ⟨first, hfirst, hone⟩ :=
    slice_eq_cons_of_byteAt (show start < start + length by omega) hfits
  obtain ⟨second, hsecond, htwo⟩ :=
    slice_eq_cons_of_byteAt (show start + 1 < start + length by omega) hfits
  obtain ⟨third, hthird, hthree⟩ :=
    slice_eq_cons_of_byteAt (show start + 2 < start + length by omega) hfits
  obtain ⟨type, htype, hfour⟩ :=
    slice_eq_cons_of_byteAt (show start + 3 < start + length by omega) hfits
  rw [hone, htwo, hthree, hfour, datagramRequest_cons]
  simp only [liftM_except, hfirst, hsecond, hthird, u8_eq_ok htype, ok_bind]
  by_cases hheader : first = 0 ∧ second = 0 ∧ third = 0
  · obtain ⟨rfl, rfl, rfl⟩ := hheader
    simp only [ne_eq, not_true_eq_false, if_false, and_self, if_true]
    exact destination_eq type (show start + 4 ≤ start + length by omega) hfits
  · rw [if_neg hheader]
    by_cases hzero : first = 0
    · by_cases hzero' : second = 0
      · rw [if_neg (not_not_intro hzero), if_neg (not_not_intro hzero'),
          if_pos fun hlast => hheader ⟨hzero, hzero', hlast⟩]
        rfl
      · rw [if_neg (not_not_intro hzero), if_pos hzero']
        rfl
    · rw [if_pos hzero]
      rfl

/-- A request is three zero bytes, a destination and its payload. -/
theorem datagramRequest_eq_some {datagram : Bytes} {request : UdpRequest} :
    datagramRequest resolve datagram = .ok (some request) ↔
      ∃ bytes, datagram = [0, 0, 0] ++ bytes ∧
        takeDestination resolve bytes = .ok (some (request.destination, request.payload)) := by
  rw [datagramRequest]
  constructor
  · intro hrequest
    split at hrequest
    next hheader =>
      obtain ⟨found, htaken, hmap⟩ := map_eq_ok_iff.mp hrequest
      obtain ⟨_, rfl, rfl⟩ := Option.map_eq_some_iff.mp hmap
      exact ⟨datagram.drop 3, by rw [← hheader, List.take_append_drop], htaken⟩
    next => cases hrequest
  · rintro ⟨bytes, rfl, htaken⟩
    exact map_eq_ok_iff.mpr ⟨_, htaken, rfl⟩

/-- A request is given for a header, a destination and whatever is behind them. -/
theorem parseUdpRequest_eq_some {before datagram after : Bytes} {request : UdpRequest} :
    parseUdpRequest resolve (before ++ datagram ++ after) before.length datagram.length =
        .ok (some request) ↔
      ∃ bytes, datagram = [0, 0, 0] ++ bytes ∧
        takeDestination resolve bytes = .ok (some (request.destination, request.payload)) := by
  have hfits : before.length + datagram.length ≤ (before ++ datagram ++ after).length := by
    simp only [List.length_append]
    omega
  rw [parseUdpRequest_eq hfits, slice_middle, datagramRequest_eq_some]

end Parse

/-! ## A payload is what is behind the address -/

section Payload

variable {resolve : Text → Except Exception InetAddress}

theorem takeAddress_suffix {type : Nat} {bytes rest : Bytes} {address : InetAddress}
    (haddress : takeAddress resolve type bytes = .ok (some (address, rest))) : rest <:+ bytes := by
  rcases takeAddress_eq_some.mp haddress with
      ⟨_, octets, rfl, _⟩ | ⟨_, octets, rfl, _⟩ | ⟨_, name, rfl, _⟩
  · exact List.suffix_append octets rest
  · exact List.suffix_append octets rest
  · exact List.suffix_append (vector 1 name) rest

/-- What is left of a destination is its end. -/
theorem takeDestination_suffix {bytes rest : Bytes} {destination : InetSocketAddress}
    (htaken : takeDestination resolve bytes = .ok (some (destination, rest))) :
    rest <:+ bytes := by
  obtain ⟨type, content, address, high, low, rfl, haddress, _⟩ := takeDestination_eq_some.mp htaken
  have hport : rest <:+ high :: low :: rest := List.suffix_append [high, low] rest
  exact (hport.trans (takeAddress_suffix haddress)).trans (List.suffix_cons type content)

/-- The payload is the end of the datagram. -/
theorem parseUdpRequest_payload {data : Bytes} {start length : Nat} {request : UdpRequest}
    (hfits : start + length ≤ data.length)
    (hrequest : parseUdpRequest resolve data start length = .ok (some request)) :
    request.payload <:+ slice data start (start + length) := by
  rw [parseUdpRequest_eq hfits] at hrequest
  obtain ⟨bytes, hdatagram, htaken⟩ := datagramRequest_eq_some.mp hrequest
  rw [hdatagram]
  exact (takeDestination_suffix htaken).trans (List.suffix_append [0, 0, 0] bytes)

end Payload

/-! ## Only the resolver fails -/

section Errors

variable {resolve : Text → Except Exception InetAddress} {error : Exception}

/-- Four or sixteen bytes are an address. -/
theorem getByAddress_returns {bytes : Bytes} (hlength : bytes.length = 4 ∨ bytes.length = 16) :
    ∃ address, InetAddress.getByAddress bytes = .ok address := by
  unfold InetAddress.getByAddress
  rcases hlength with hfour | hsixteen
  · rw [dif_pos hfour]
    exact ⟨_, rfl⟩
  · rw [dif_neg (by omega), dif_pos hsixteen]
    split
    next => exact ⟨_, rfl⟩
    next => exact ⟨_, rfl⟩

theorem addressFrom_eq_error {read : Bytes → Except Exception InetAddress}
    {found : Option (Bytes × Bytes)} (herror : addressFrom read found = .error error) :
    ∃ bytes rest, found = some (bytes, rest) ∧ read bytes = .error error := by
  cases found with
  | none => cases herror
  | some found =>
      obtain ⟨bytes, rest⟩ := found
      refine ⟨bytes, rest, rfl, ?_⟩
      cases hread : read bytes with
      | ok address =>
          rw [addressFrom, hread] at herror
          cases herror
      | error thrown =>
          rw [addressFrom, hread] at herror
          cases herror
          rfl

theorem octets_ok {count : Nat} (hcount : count = 4 ∨ count = 16) (bytes : Bytes) :
    addressFrom InetAddress.getByAddress (takeExactly count bytes) ≠ .error error := by
  intro herror
  obtain ⟨octets, rest, htaken, hread⟩ := addressFrom_eq_error herror
  obtain ⟨_, hlength⟩ := takeExactly_eq_some_iff.mp htaken
  rw [← hlength] at hcount
  obtain ⟨address, haddress⟩ := getByAddress_returns hcount
  rw [haddress] at hread
  cases hread

/-- Reading an address only fails when its domain does not resolve. -/
theorem takeAddress_error {type : Nat} {bytes : Bytes}
    (herror : takeAddress resolve type bytes = .error error) :
    ∃ host, resolve host = .error error := by
  rw [takeAddress] at herror
  split at herror
  next => exact absurd herror (octets_ok (Or.inl rfl) bytes)
  next =>
    split at herror
    next => exact absurd herror (octets_ok (Or.inr rfl) bytes)
    next =>
      split at herror
      next =>
        obtain ⟨name, _, _, hread⟩ := addressFrom_eq_error herror
        exact ⟨decodeUsAscii name, hread⟩
      next => cases herror

/-- So does reading a request. -/
theorem datagramRequest_error {datagram : Bytes}
    (herror : datagramRequest resolve datagram = .error error) :
    ∃ host, resolve host = .error error := by
  rw [datagramRequest] at herror
  split at herror
  next =>
    cases hcontent : datagram.drop 3 with
    | nil =>
        rw [hcontent] at herror
        cases herror
    | cons type bytes =>
        rw [hcontent, takeDestination] at herror
        cases haddress : takeAddress resolve type.toNat bytes with
        | ok found =>
            rw [haddress] at herror
            cases herror
        | error thrown =>
            rw [haddress] at herror
            cases herror
            exact takeAddress_error haddress
  next => cases herror

/-- And parsing a datagram. -/
theorem parseUdpRequest_error {data : Bytes} {start length : Nat}
    (hfits : start + length ≤ data.length)
    (herror : parseUdpRequest resolve data start length = .error error) :
    ∃ host, resolve host = .error error := by
  rw [parseUdpRequest_eq hfits] at herror
  exact datagramRequest_error herror

end Errors

/-! ## What the relay sends -/

/-- A response is laid out like a request. -/
theorem encodeUdpResponse_eq (address : InetAddress) (port : Nat) (payload : Bytes) :
    encodeUdpResponse address port payload =
      [0, 0, 0] ++ (if address.isInet4 then 1 else 4) :: address.octets ++ toBigEndian 2 port ++
        payload := by
  have htype : UInt8.ofNat (if address.isInet4 then ADDRESS_IPV4 else ADDRESS_IPV6) =
      if address.isInet4 then 1 else 4 := by
    cases address.isInet4 with
    | true => rfl
    | false => rfl
  have hport : [UInt8.ofNat (port >>> 8), UInt8.ofNat port] = toBigEndian 2 port := by
    rw [Nat.shiftRight_eq_div_pow]
    rfl
  simp only [encodeUdpResponse, htype, hport]
  simp

end AIUnblock.LocalSocksRelay
