import AIUnblock.Kotlin.Checked
import AIUnblock.Tls.Grammar

/-! # `TlsClientHello` with checked sums

The functions of `TlsClientHello`, each of whose sums is checked to be an `Int` where
it is formed. Lengths are added before they are compared, so the sums pass the ends of
the arrays, but never the end of the integers: the checked functions answer as the
plain ones do.
-/

namespace AIUnblock.TlsClientHello.Checked

/-- The entry loop of `parseServerName`. -/
def nameLoop (bytes : Bytes) (offset stop : Nat) : Except Exception (Option Text) := do
  fits (offset + 3)
  if offset + 3 ≤ stop then do
    let nameType ← u8 bytes offset
    let nameLength ← checkedU16 bytes (offset + 1)
    fits (offset + 3 + nameLength)
    if offset + 3 + nameLength > stop then return none
    else if nameType = 0 then do
      let name := decodeUsAscii (← copyOfRange bytes (offset + 3) (offset + 3 + nameLength))
      return if isNotBlank name then some name else none
    else nameLoop bytes (offset + 3 + nameLength) stop
  else return none
termination_by stop - offset

def parseServerName (bytes : Bytes) (start stop : Nat) : Except Exception (Option Text) := do
  fits (start + 2)
  if start + 2 > stop then return none
  else nameLoop bytes (start + 2) stop

/-- The extension loop of `parseHandshake`. -/
def extensionLoop (handshake : Bytes) (offset extensionsEnd : Nat) : Except Exception Result := do
  fits (offset + 4)
  if offset + 4 ≤ extensionsEnd then do
    let type ← checkedU16 handshake offset
    let length ← checkedU16 handshake (offset + 2)
    let extensionEnd := offset + 4 + length
    fits extensionEnd
    if extensionEnd > extensionsEnd then return .notTls
    else if type = SERVER_NAME_EXTENSION then
      return .parsed (← parseServerName handshake (offset + 4) extensionEnd)
    else extensionLoop handshake extensionEnd extensionsEnd
  else return .parsed none
termination_by extensionsEnd - offset

/-- The end of `parseHandshake`, from the optional extension block on. -/
def parseExtensionBlock (handshake : Bytes) (offset limit : Nat) : Except Exception Result := do
  if offset = limit then return .parsed none
  fits (offset + 2)
  if offset + 2 > limit then return .notTls
  let extensionsLength ← checkedU16 handshake offset
  let offset := offset + 2
  let extensionsEnd := offset + extensionsLength
  fits extensionsEnd
  if extensionsEnd > limit then return .notTls
  extensionLoop handshake offset extensionsEnd

def parseHandshake (handshake : Bytes) (limit : Nat) : Except Exception Result := do
  if handshake.isEmpty then return .notTls
  if (← u8 handshake 0) ≠ CLIENT_HELLO then return .notTls
  let offset := 4
  fits (offset + 2 + 32)
  if offset + 2 + 32 > limit then return .notTls
  let offset := offset + (2 + 32)
  fits (offset + 1)
  if offset + 1 > limit then return .notTls
  let sessionIdLength ← u8 handshake offset
  let offset := offset + (1 + sessionIdLength)
  fits (offset + 2)
  if offset + 2 > limit then return .notTls
  let cipherSuitesLength ← checkedU16 handshake offset
  let offset := offset + (2 + cipherSuitesLength)
  fits (offset + 1)
  if offset + 1 > limit then return .notTls
  let compressionLength ← u8 handshake offset
  let offset := offset + (1 + compressionLength)
  fits offset
  parseExtensionBlock handshake offset limit

/-- The `limit` that `parse` hands to `parseHandshake`, once the reassembled
bytes hold the whole message. -/
def completeHello (handshake : Bytes) : Except Exception (Option Nat) :=
  if handshake.length ≥ 4 then do
    let high ← u8 handshake 1
    let middle ← u8 handshake 2
    let low ← u8 handshake 3
    let helloLength := (high <<< 16) ||| (middle <<< 8) ||| low
    fits (helloLength + 4)
    return if handshake.length ≥ helloLength + 4 then some (helloLength + 4) else none
  else return none

/-- The record loop of `parse`. -/
def recordLoop (bytes handshake : Bytes) (recordOffset : Nat) : Except Exception Result := do
  fits (recordOffset + 5)
  if recordOffset + 5 ≤ bytes.length then do
    let recordType ← u8 bytes recordOffset
    if recordType ≠ TLS_HANDSHAKE then
      return if handshake.isEmpty then .notTls else .needMore
    else do
      let recordLength ← checkedU16 bytes (recordOffset + 3)
      let recordEnd := recordOffset + 5 + recordLength
      fits recordEnd
      if recordEnd > bytes.length then return .needMore
      else do
        let payload ← bytesUntil bytes (recordOffset + 5) recordEnd
        match ← completeHello (handshake ++ payload) with
        | some limit => parseHandshake (handshake ++ payload) limit
        | none => recordLoop bytes (handshake ++ payload) recordEnd
  else return .needMore
termination_by bytes.length - recordOffset

def parse (bytes : Bytes) : Except Exception Result := do
  if bytes.length < 5 then return .needMore
  if (← u8 bytes 0) ≠ TLS_HANDSHAKE then return .notTls
  recordLoop bytes [] 0

/-! ## No sum wraps -/

theorem nameLoop_eq (bytes : Bytes) (offset stop : Nat) (hoffset : offset < 2 ^ 30)
    (hstop : stop < 2 ^ 30) :
    nameLoop bytes offset stop = TlsClientHello.nameLoop bytes offset stop := by
  induction hmeasure : stop - offset using Nat.strong_induction_on generalizing offset with
  | _ measure ih =>
    rw [nameLoop, TlsClientHello.nameLoop, fits_bind (by omega)]
    refine ite_congr rfl (fun hroom => ?_) fun _ => rfl
    refine bind_congr_ok fun nameType _ => ?_
    rw [checkedU16_eq (by omega)]
    refine bind_congr_ok fun nameLength hlength => ?_
    have hshort := u16_lt hlength
    rw [fits_bind (by omega)]
    refine ite_congr rfl (fun _ => rfl) fun hfits => ?_
    refine ite_congr rfl (fun _ => rfl) fun _ => ?_
    exact ih _ (by omega) _ (by omega) rfl

theorem parseServerName_eq (bytes : Bytes) (start stop : Nat) (hstart : start < 2 ^ 29)
    (hstop : stop < 2 ^ 30) :
    parseServerName bytes start stop = TlsClientHello.parseServerName bytes start stop := by
  rw [parseServerName, TlsClientHello.parseServerName, fits_bind (by omega),
    nameLoop_eq bytes (start + 2) stop (by omega) hstop]

theorem extensionLoop_eq (handshake : Bytes) (offset extensionsEnd : Nat)
    (hoffset : offset < 2 ^ 28) (hend : extensionsEnd < 2 ^ 28) :
    extensionLoop handshake offset extensionsEnd =
      TlsClientHello.extensionLoop handshake offset extensionsEnd := by
  induction hmeasure : extensionsEnd - offset using Nat.strong_induction_on
    generalizing offset with
  | _ measure ih =>
    rw [extensionLoop, TlsClientHello.extensionLoop, fits_bind (by omega)]
    refine ite_congr rfl (fun hroom => ?_) fun _ => rfl
    rw [checkedU16_eq (by omega), checkedU16_eq (by omega)]
    refine bind_congr_ok fun type _ => bind_congr_ok fun length hlength => ?_
    have hshort := u16_lt hlength
    dsimp only
    rw [fits_bind (by omega)]
    refine ite_congr rfl (fun _ => rfl) fun hfits => ?_
    refine ite_congr rfl (fun _ => ?_) fun _ => ?_
    · rw [parseServerName_eq _ _ _ (by omega) (by omega)]
    · exact ih _ (by omega) _ (by omega) rfl

theorem parseExtensionBlock_eq (handshake : Bytes) (offset limit : Nat)
    (hoffset : offset < 2 ^ 27) (hlimit : limit < 2 ^ 27) :
    parseExtensionBlock handshake offset limit =
      TlsClientHello.parseExtensionBlock handshake offset limit := by
  rw [parseExtensionBlock, TlsClientHello.parseExtensionBlock]
  refine ite_congr rfl (fun _ => rfl) fun _ => ?_
  rw [fits_bind (by omega)]
  refine ite_congr rfl (fun _ => rfl) fun _ => ?_
  rw [checkedU16_eq (by omega)]
  refine bind_congr_ok fun extensionsLength hlength => ?_
  have hshort := u16_lt hlength
  dsimp only
  rw [fits_bind (by omega)]
  refine ite_congr rfl (fun _ => rfl) fun hfits => ?_
  exact extensionLoop_eq handshake (offset + 2) _ (by omega) (by omega)

theorem parseHandshake_eq (handshake : Bytes) (limit : Nat) (hlimit : limit < 2 ^ 27) :
    parseHandshake handshake limit = TlsClientHello.parseHandshake handshake limit := by
  rw [parseHandshake, TlsClientHello.parseHandshake]
  refine ite_congr rfl (fun _ => rfl) fun _ => ?_
  refine bind_congr_ok fun type _ => ?_
  refine ite_congr rfl (fun _ => rfl) fun _ => ?_
  dsimp only
  rw [fits_bind (by omega)]
  refine ite_congr rfl (fun _ => rfl) fun _ => ?_
  rw [fits_bind (by omega)]
  refine ite_congr rfl (fun _ => rfl) fun _ => ?_
  refine bind_congr_ok fun sessionIdLength hsession => ?_
  have hsession := u8_lt hsession
  rw [fits_bind (by omega)]
  refine ite_congr rfl (fun _ => rfl) fun _ => ?_
  rw [checkedU16_eq (by omega)]
  refine bind_congr_ok fun cipherSuitesLength hcipher => ?_
  have hcipher := u16_lt hcipher
  rw [fits_bind (by omega)]
  refine ite_congr rfl (fun _ => rfl) fun _ => ?_
  refine bind_congr_ok fun compressionLength hcompression => ?_
  have hcompression := u8_lt hcompression
  rw [fits_bind (by omega)]
  exact parseExtensionBlock_eq handshake _ limit (by omega) hlimit

/-- Three bytes make a number of 24 bits. -/
theorem helloLength_lt {high middle low : Nat} (hhigh : high < 256) (hmiddle : middle < 256)
    (hlow : low < 256) : (high <<< 16) ||| (middle <<< 8) ||| low < 2 ^ 24 := by
  refine Nat.or_lt_two_pow (Nat.or_lt_two_pow ?_ ?_) ?_
  · rw [Nat.shiftLeft_eq]
    omega
  · rw [Nat.shiftLeft_eq]
    omega
  · omega

theorem completeHello_eq (handshake : Bytes) :
    completeHello handshake = TlsClientHello.completeHello handshake := by
  rw [completeHello, TlsClientHello.completeHello]
  refine ite_congr rfl (fun hroom => ?_) fun _ => rfl
  refine bind_congr_ok fun high hhigh => bind_congr_ok fun middle hmiddle =>
    bind_congr_ok fun low hlow => ?_
  have hhello := helloLength_lt (u8_lt hhigh) (u8_lt hmiddle) (u8_lt hlow)
  exact fits_bind (by omega)

/-- A message is no longer than its header can say. -/
theorem limit_lt {handshake : Bytes} {limit : Nat}
    (hfound : TlsClientHello.completeHello handshake = .ok (some limit)) : limit < 2 ^ 27 := by
  rw [Tls.completeHello_eq, Except.ok.injEq, Tls.messageLength] at hfound
  split at hfound
  next hcomplete =>
    have hlength : (slice handshake 1 4).length = 3 := length_slice hcomplete.1
    have hlt := LengthPrefixed.bigEndian_lt (slice handshake 1 4)
    rw [hlength] at hlt
    have hlimit := Option.some.inj hfound
    omega
  next => cases hfound

theorem recordLoop_eq (bytes handshake : Bytes) (recordOffset : Nat)
    (hbytes : bytes.length < 2 ^ 30) (hoffset : recordOffset < 2 ^ 30) :
    recordLoop bytes handshake recordOffset =
      TlsClientHello.recordLoop bytes handshake recordOffset := by
  induction hmeasure : bytes.length - recordOffset using Nat.strong_induction_on
    generalizing handshake recordOffset with
  | _ measure ih =>
    rw [recordLoop, TlsClientHello.recordLoop, fits_bind (by omega)]
    refine ite_congr rfl (fun hroom => ?_) fun _ => rfl
    refine bind_congr_ok fun recordType _ => ?_
    refine ite_congr rfl (fun _ => rfl) fun _ => ?_
    rw [checkedU16_eq (by omega)]
    refine bind_congr_ok fun recordLength hlength => ?_
    have hshort := u16_lt hlength
    dsimp only
    rw [fits_bind (by omega)]
    refine ite_congr rfl (fun _ => rfl) fun hfits => ?_
    refine bind_congr_ok fun payload _ => ?_
    rw [completeHello_eq]
    refine bind_congr_ok fun found hfound => ?_
    cases found with
    | none => exact ih _ (by omega) _ _ (by omega) rfl
    | some limit => exact parseHandshake_eq _ limit (limit_lt hfound)

theorem parse_eq (bytes : Bytes) (hbytes : bytes.length < 2 ^ 30) :
    parse bytes = TlsClientHello.parse bytes := by
  rw [parse, TlsClientHello.parse]
  refine ite_congr rfl (fun _ => rfl) fun _ => ?_
  refine bind_congr_ok fun type _ => ?_
  refine ite_congr rfl (fun _ => rfl) fun _ => ?_
  exact recordLoop_eq bytes [] 0 hbytes (by decide)

end AIUnblock.TlsClientHello.Checked
