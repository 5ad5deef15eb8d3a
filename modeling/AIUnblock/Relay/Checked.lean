import AIUnblock.Kotlin.Checked
import AIUnblock.Relay.Destinations

/-! # `DnsOverride` and the datagram reader with checked sums

Each sum of the two parsers is checked to be an `Int` where it is formed, and the
response is written into its array byte by byte. On arrays of the sizes that the relay
uses the checked functions answer as the plain ones do.
-/

namespace AIUnblock

namespace DnsOverride.Checked

/-- The label loop of `response`. -/
def labelLoop (query : Bytes) (offset : Nat) (labels : List Text) :
    Except Exception (Option (List Text × Nat)) :=
  if offset < query.length then do
    let length ← u8 query offset
    fits (offset + 1)
    if length = 0 then return some (labels, offset + 1)
    else do
      fits (offset + 1 + length)
      if length > 63 ∨ offset + 1 + length > query.length then return none
      else do
        let label := decodeUsAscii (← copyOfRange query (offset + 1) (offset + 1 + length))
        labelLoop query (offset + 1 + length) (labels ++ [label])
  else return some (labels, offset)
termination_by query.length - offset

/-- The flags and counts of the response. -/
def writeHeader (response : Bytes) (flags answers : UInt8) : Except Exception Bytes := do
  let response ← setByte response 2 flags
  let response ← setByte response 3 0x80
  let response ← setByte response 6 0
  let response ← setByte response 7 answers
  let response ← setByte response 8 0
  let response ← setByte response 9 0
  let response ← setByte response 10 0
  setByte response 11 0

/-- The answer record of the response. -/
def writeAnswer (response : Bytes) (questionEnd : Nat) (address : Bytes) :
    Except Exception Bytes := do
  let response ← setBytes response questionEnd
    [0xc0, 0x0c, 0, UInt8.ofNat TYPE_A, 0, UInt8.ofNat CLASS_IN, 0, 0, 0, 60, 0, 4]
  copyInto address response (questionEnd + 12) address.length

/-- The response array, as the code fills it. -/
def writeResponse (query : Bytes) (questionEnd queryType : Nat) (address : Bytes) :
    Except Exception Bytes := do
  let answerSize := if queryType = TYPE_A then 16 else 0
  fits (questionEnd + answerSize)
  let response ← copyInto query (List.replicate (questionEnd + answerSize) 0) 0 questionEnd
  let response ← writeHeader response (0x80 ||| ((← byteAt query 2) &&& 0x01))
    (if queryType = TYPE_A then 1 else 0)
  if queryType = TYPE_A then writeAnswer response questionEnd address else return response

def response (platform : Platform) (getByName : Text → Except Exception InetAddress)
    (query : Bytes) (fixedAddressFor : Text → Option Text) : Except Exception (Option Bytes) := do
  if query.length < HEADER_SIZE then return none
  if (← checkedU16 query 4) ≠ 1 then return none
  let flags ← byteAt query 2
  if flags &&& 0x78 ≠ 0 then return none
  match ← labelLoop query HEADER_SIZE [] with
  | none => return none
  | some (labels, offset) =>
    fits (offset + 4)
    if labels = [] ∨ offset + 4 > query.length then return none
    let queryType ← checkedU16 query offset
    let queryClass ← checkedU16 query (offset + 2)
    let questionEnd := offset + 4
    if queryClass ≠ CLASS_IN ∨ queryType ∉ [TYPE_A, TYPE_AAAA] then return none
    let host := platform.lowercase (List.intercalate ['.'] labels)
    match (fixedAddressFor host).map getByName with
    | some (.ok (.inet4 address)) =>
      return some (← writeResponse query questionEnd queryType address)
    | _ => return none

/-! ## No sum wraps, and every write lands in the array -/

theorem labelLoop_eq (query : Bytes) (offset : Nat) (labels : List Text)
    (hquery : query.length < 2 ^ 30) :
    labelLoop query offset labels = DnsOverride.labelLoop query offset labels := by
  induction hmeasure : query.length - offset using Nat.strong_induction_on
    generalizing offset labels with
  | _ measure ih =>
    rw [labelLoop, DnsOverride.labelLoop]
    refine ite_congr rfl (fun hroom => ?_) fun _ => rfl
    refine bind_congr_ok fun length hlength => ?_
    have hshort := u8_lt hlength
    rw [fits_bind (by omega)]
    refine ite_congr rfl (fun _ => rfl) fun hlabel => ?_
    rw [fits_bind (by omega)]
    refine ite_congr rfl (fun _ => rfl) fun hfits => ?_
    exact bind_congr_ok fun label _ => ih _ (by omega) _ _ rfl

/-- The loop ends inside the query. -/
theorem labelLoop_le (query : Bytes) (offset : Nat) (labels : List Text)
    (hoffset : offset ≤ query.length) :
    Returns (DnsOverride.labelLoop query offset labels) fun found =>
      ∀ question ∈ found, offset ≤ question.2 ∧ question.2 ≤ query.length := by
  induction offset, labels using DnsOverride.labelLoop.induct query with
  | case1 offset labels hlt ih =>
      rw [DnsOverride.labelLoop, if_pos hlt]
      refine Returns.bind fun length _ => ?_
      refine Returns.ite (fun _ => Returns.ok ?_) fun _ => ?_
      · rintro _ ⟨⟩
        exact ⟨Nat.le_succ offset, hlt⟩
      refine Returns.ite (fun _ => Returns.ok ?_) fun hfits => ?_
      · rintro _ ⟨⟩
      refine Returns.bind fun label _ => ?_
      intro found hfound question hquestion
      obtain ⟨hle, hend⟩ := ih length hfits label (by omega) found hfound question hquestion
      exact ⟨by omega, hend⟩
  | case2 offset labels hlt =>
      rw [DnsOverride.labelLoop, if_neg hlt]
      refine Returns.ok ?_
      rintro _ ⟨⟩
      exact ⟨Nat.le_refl offset, hoffset⟩

theorem writeHeader_eq {header after : Bytes} (flags answers : UInt8)
    (hlength : 12 ≤ header.length) :
    writeHeader (header ++ after) flags answers =
      .ok ((header.set 2 flags |>.set 3 0x80 |>.set 6 0 |>.set 7 answers |>.set 8 0 |>.set 9 0
        |>.set 10 0 |>.set 11 0) ++ after) := by
  have hset : ∀ (front : Bytes) (offset : Nat) (byte : UInt8), front.length = header.length →
      offset < 12 →
        setByte (front ++ after) offset byte = .ok (front.set offset byte ++ after) := by
    intro front offset byte hfront hoffset
    exact setByte_front (by omega) byte
  simp only [writeHeader, hset, List.length_set, Nat.reduceLT, ok_bind]

theorem writeAnswer_eq {header address : Bytes} {questionEnd : Nat}
    (hend : header.length = questionEnd) (hsmall : questionEnd < 2 ^ 30)
    (hlength : address.length = 4) :
    writeAnswer (header ++ List.replicate 16 0) questionEnd address =
      .ok (header ++ answerRecord address) := by
  subst hend
  have hroom : List.replicate 16 (0 : UInt8) = List.replicate 12 0 ++ List.replicate 4 0 := rfl
  have hfits : (header ++ List.replicate 12 (0 : UInt8)).length < 2 ^ 31 := by
    rw [List.length_append, List.length_replicate]
    omega
  rw [writeAnswer, hroom, ← List.append_assoc, setBytes_eq _ (by rfl) hfits, ok_bind]
  have hoffset : header.length + 12 = (header ++ ([0xc0, 0x0c, 0, UInt8.ofNat TYPE_A, 0,
      UInt8.ofNat CLASS_IN, 0, 0, 0, 60, 0, 4] : Bytes)).length := by
    rw [List.length_append]
    rfl
  rw [hoffset, copyInto_end (by rw [List.length_replicate, hlength]), answerRecord,
    List.append_assoc]

/-- The array is filled with the response. -/
theorem writeResponse_eq {query : Bytes} {flags : UInt8} {questionEnd : Nat} (queryType : Nat)
    {address : Bytes} (hflags : byteAt query 2 = .ok flags) (hheader : 12 ≤ questionEnd)
    (hend : questionEnd ≤ query.length) (hquery : query.length < 2 ^ 30)
    (haddress : address.length = 4) :
    writeResponse query questionEnd queryType address =
      .ok (encodeResponse query flags questionEnd queryType address) := by
  have htake : (query.take questionEnd).length = questionEnd := List.length_take_of_le hend
  rw [writeResponse, fits_bind (by split <;> omega), copyInto_front hend, ok_bind, hflags, ok_bind,
    writeHeader_eq _ _ (by omega), ok_bind, encodeResponse]
  by_cases htype : queryType = TYPE_A
  · simp only [if_pos htype]
    refine writeAnswer_eq ?_ (by omega) haddress
    simp only [List.length_set, htake]
  · simp only [if_neg htype]
    simp

theorem response_eq (platform : Platform) (getByName : Text → Except Exception InetAddress)
    (query : Bytes) (fixedAddressFor : Text → Option Text) (hquery : query.length < 2 ^ 30) :
    response platform getByName query fixedAddressFor =
      DnsOverride.response platform getByName query fixedAddressFor := by
  rw [response, DnsOverride.response]
  refine ite_congr rfl (fun _ => rfl) fun hheader => ?_
  rw [HEADER_SIZE] at hheader
  rw [checkedU16_eq (by decide)]
  refine bind_congr_ok fun count _ => ?_
  refine ite_congr rfl (fun _ => rfl) fun _ => ?_
  refine bind_congr_ok fun flags hflags => ?_
  refine ite_congr rfl (fun _ => rfl) fun _ => ?_
  rw [labelLoop_eq query HEADER_SIZE [] hquery]
  refine bind_congr_ok fun found hfound => ?_
  cases found with
  | none => rfl
  | some question =>
      obtain ⟨labels, offset⟩ := question
      obtain ⟨hle, hend⟩ := labelLoop_le query HEADER_SIZE [] (by rw [HEADER_SIZE]; omega) _ hfound
        _ rfl
      rw [HEADER_SIZE] at hle
      dsimp only at hle hend ⊢
      rw [fits_bind (by omega)]
      refine ite_congr rfl (fun _ => rfl) fun hquestion => ?_
      rw [checkedU16_eq (by omega), checkedU16_eq (by omega)]
      refine bind_congr_ok fun queryType _ => bind_congr_ok fun queryClass _ => ?_
      refine ite_congr rfl (fun _ => rfl) fun _ => ?_
      generalize (fixedAddressFor (platform.lowercase (List.intercalate ['.'] labels))).map
        getByName = found
      cases found with
      | none => rfl
      | some looked =>
          cases looked with
          | error error => rfl
          | ok address =>
              cases address with
              | inet6 octets => rfl
              | inet4 octets =>
                  dsimp only
                  rw [writeResponse_eq queryType hflags (by omega) (by omega) hquery
                    octets.property]
                  rfl

end DnsOverride.Checked

namespace LocalSocksRelay.Checked

/-- The address field of a request, and the offset after it. -/
def parseUdpAddress (getByName : Text → Except Exception InetAddress) (data : Bytes)
    (offset stop type : Nat) : Except Exception (Option (InetAddress × Nat)) :=
  if type = ADDRESS_IPV4 then do
    fits (offset + 4)
    if offset + 4 > stop then return none
    let address ← copyOfRange data offset (offset + 4) >>= InetAddress.getByAddress
    return some (address, offset + 4)
  else if type = ADDRESS_IPV6 then do
    fits (offset + 16)
    if offset + 16 > stop then return none
    let address ← copyOfRange data offset (offset + 16) >>= InetAddress.getByAddress
    return some (address, offset + 16)
  else if type = ADDRESS_DOMAIN then do
    if offset ≥ stop then return none
    let domainLength ← u8 data offset
    fits (offset + 1 + domainLength)
    if offset + 1 + domainLength > stop then return none
    let domain ← copyOfRange data (offset + 1) (offset + 1 + domainLength)
    let address ← getByName (decodeUsAscii domain)
    return some (address, offset + 1 + domainLength)
  else return none

def parseUdpRequest (getByName : Text → Except Exception InetAddress) (data : Bytes)
    (start length : Nat) : Except Exception (Option UdpRequest) := do
  let stop := start + length
  fits stop
  if length < 4 then return none
  if (← byteAt data start) ≠ 0 then return none
  fits (start + 1)
  if (← byteAt data (start + 1)) ≠ 0 then return none
  fits (start + 2)
  if (← byteAt data (start + 2)) ≠ 0 then return none
  fits (start + 4)
  let type ← u8 data (start + 3)
  match ← parseUdpAddress getByName data (start + 4) stop type with
  | none => return none
  | some (address, offset) =>
    fits (offset + 2)
    if offset + 2 > stop then return none
    let port ← checkedU16 data offset
    let payload ← copyOfRange data (offset + 2) stop
    return some { destination := { address, port }, payload }

section Parse

variable {getByName : Text → Except Exception InetAddress} {data : Bytes} {offset stop : Nat}

theorem parseUdpAddress_eq (type : Nat) (hoffset : offset < 2 ^ 30) :
    parseUdpAddress getByName data offset stop type =
      LocalSocksRelay.parseUdpAddress getByName data offset stop type := by
  rw [parseUdpAddress, LocalSocksRelay.parseUdpAddress]
  refine ite_congr rfl (fun _ => fits_bind (by omega)) fun _ => ?_
  refine ite_congr rfl (fun _ => fits_bind (by omega)) fun _ => ?_
  refine ite_congr rfl (fun _ => ?_) fun _ => rfl
  refine ite_congr rfl (fun _ => rfl) fun _ => ?_
  refine bind_congr_ok fun domainLength hlength => ?_
  have hshort := u8_lt hlength
  exact fits_bind (by omega)

/-- An address ends within the datagram. -/
theorem parseUdpAddress_le (type : Nat) :
    Returns (LocalSocksRelay.parseUdpAddress getByName data offset stop type) fun found =>
      ∀ address next, found = some (address, next) → next ≤ stop := by
  have hnone : Returns (.ok none : Except Exception (Option (InetAddress × Nat))) fun found =>
      ∀ address next, found = some (address, next) → next ≤ stop := Returns.ok nofun
  have hsome : ∀ (address : InetAddress) (next : Nat), ¬ next > stop →
      Returns (.ok (some (address, next)) : Except Exception _) fun found =>
        ∀ address next, found = some (address, next) → next ≤ stop := by
    intro address next hnext
    apply Returns.ok
    rintro _ _ ⟨⟩
    exact Nat.le_of_not_gt hnext
  rw [LocalSocksRelay.parseUdpAddress]
  refine Returns.ite (fun _ => ?_) fun _ => ?_
  · refine Returns.ite (fun _ => hnone) fun hfits => ?_
    exact Returns.bind fun address _ => hsome address _ hfits
  refine Returns.ite (fun _ => ?_) fun _ => ?_
  · refine Returns.ite (fun _ => hnone) fun hfits => ?_
    exact Returns.bind fun address _ => hsome address _ hfits
  refine Returns.ite (fun _ => ?_) fun _ => hnone
  refine Returns.ite (fun _ => hnone) fun _ => ?_
  refine Returns.bind fun domainLength _ => ?_
  refine Returns.ite (fun _ => hnone) fun hfits => ?_
  refine Returns.bind fun domain _ => ?_
  exact Returns.bind fun address _ => hsome address _ hfits

theorem parseUdpRequest_eq {start length : Nat} (hfits : start + length ≤ data.length)
    (hdata : data.length < 2 ^ 30) :
    parseUdpRequest getByName data start length =
      LocalSocksRelay.parseUdpRequest getByName data start length := by
  rw [parseUdpRequest, LocalSocksRelay.parseUdpRequest]
  rw [fits_bind (by omega)]
  refine ite_congr rfl (fun _ => rfl) fun hlength => ?_
  refine bind_congr_ok fun first _ => ?_
  refine ite_congr rfl (fun _ => rfl) fun _ => ?_
  rw [fits_bind (by omega)]
  refine bind_congr_ok fun second _ => ?_
  refine ite_congr rfl (fun _ => rfl) fun _ => ?_
  rw [fits_bind (by omega)]
  refine bind_congr_ok fun fragment _ => ?_
  refine ite_congr rfl (fun _ => rfl) fun _ => ?_
  rw [fits_bind (by omega)]
  refine bind_congr_ok fun type _ => ?_
  rw [parseUdpAddress_eq type (by omega)]
  refine bind_congr_ok fun found hfound => ?_
  cases found with
  | none => rfl
  | some found =>
      obtain ⟨address, offset⟩ := found
      have hoffset := parseUdpAddress_le type _ hfound address offset rfl
      dsimp only
      rw [fits_bind (by omega)]
      refine ite_congr rfl (fun _ => rfl) fun _ => ?_
      rw [checkedU16_eq (by omega)]
      rfl

end Parse

end LocalSocksRelay.Checked

end AIUnblock
