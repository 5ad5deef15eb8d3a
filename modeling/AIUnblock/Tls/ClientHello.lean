import AIUnblock.Kotlin.Text

/-! # `TlsClientHello`

The server name of a TLS ClientHello, read without decrypting anything. The
handshake message is reassembled from the records seen so far; `needMore` asks
the caller for more bytes.
-/

namespace AIUnblock.TlsClientHello

inductive Result
  | needMore
  | notTls
  | parsed (serverName : Option Text)
  deriving DecidableEq, Repr

def TLS_HANDSHAKE : Nat := 22
def CLIENT_HELLO : Nat := 1
def SERVER_NAME_EXTENSION : Nat := 0

/-- The entry loop of `parseServerName`. -/
def nameLoop (bytes : Bytes) (offset stop : Nat) : Except Exception (Option Text) :=
  if offset + 3 ≤ stop then do
    let nameType ← u8 bytes offset
    let nameLength ← u16 bytes (offset + 1)
    if offset + 3 + nameLength > stop then return none
    else if nameType = 0 then do
      let name := decodeUsAscii (← copyOfRange bytes (offset + 3) (offset + 3 + nameLength))
      return if isNotBlank name then some name else none
    else nameLoop bytes (offset + 3 + nameLength) stop
  else return none
termination_by stop - offset

def parseServerName (bytes : Bytes) (start stop : Nat) : Except Exception (Option Text) :=
  if start + 2 > stop then return none
  else nameLoop bytes (start + 2) stop

/-- The extension loop of `parseHandshake`. -/
def extensionLoop (handshake : Bytes) (offset extensionsEnd : Nat) : Except Exception Result :=
  if offset + 4 ≤ extensionsEnd then do
    let type ← u16 handshake offset
    let length ← u16 handshake (offset + 2)
    let extensionEnd := offset + 4 + length
    if extensionEnd > extensionsEnd then return .notTls
    else if type = SERVER_NAME_EXTENSION then
      return .parsed (← parseServerName handshake (offset + 4) extensionEnd)
    else extensionLoop handshake extensionEnd extensionsEnd
  else return .parsed none
termination_by extensionsEnd - offset

/-- The end of `parseHandshake`, from the optional extension block on. -/
def parseExtensionBlock (handshake : Bytes) (offset limit : Nat) : Except Exception Result := do
  if offset = limit then return .parsed none
  if offset + 2 > limit then return .notTls
  let extensionsLength ← u16 handshake offset
  let offset := offset + 2
  let extensionsEnd := offset + extensionsLength
  if extensionsEnd > limit then return .notTls
  extensionLoop handshake offset extensionsEnd

def parseHandshake (handshake : Bytes) (limit : Nat) : Except Exception Result := do
  if handshake.isEmpty then return .notTls
  if (← u8 handshake 0) ≠ CLIENT_HELLO then return .notTls
  let offset := 4
  if offset + 2 + 32 > limit then return .notTls
  let offset := offset + (2 + 32)
  if offset + 1 > limit then return .notTls
  let sessionIdLength ← u8 handshake offset
  let offset := offset + (1 + sessionIdLength)
  if offset + 2 > limit then return .notTls
  let cipherSuitesLength ← u16 handshake offset
  let offset := offset + (2 + cipherSuitesLength)
  if offset + 1 > limit then return .notTls
  let compressionLength ← u8 handshake offset
  let offset := offset + (1 + compressionLength)
  parseExtensionBlock handshake offset limit

/-- The `limit` that `parse` hands to `parseHandshake`, once the reassembled
bytes hold the whole message. -/
def completeHello (handshake : Bytes) : Except Exception (Option Nat) :=
  if handshake.length ≥ 4 then do
    let high ← u8 handshake 1
    let middle ← u8 handshake 2
    let low ← u8 handshake 3
    let helloLength := (high <<< 16) ||| (middle <<< 8) ||| low
    return if handshake.length ≥ helloLength + 4 then some (helloLength + 4) else none
  else return none

/-- The record loop of `parse`. -/
def recordLoop (bytes handshake : Bytes) (recordOffset : Nat) : Except Exception Result :=
  if recordOffset + 5 ≤ bytes.length then do
    let recordType ← u8 bytes recordOffset
    if recordType ≠ TLS_HANDSHAKE then
      return if handshake.isEmpty then .notTls else .needMore
    else do
      let recordLength ← u16 bytes (recordOffset + 3)
      let recordEnd := recordOffset + 5 + recordLength
      if recordEnd > bytes.length then return .needMore
      else do
        let payload ← bytesUntil bytes (recordOffset + 5) recordEnd
        match ← completeHello (handshake ++ payload) with
        | some limit => parseHandshake (handshake ++ payload) limit
        | none => recordLoop bytes (handshake ++ payload) recordEnd
  else return .needMore
termination_by bytes.length - recordOffset

def parse (bytes : Bytes) : Except Exception Result := do
  if bytes.length < 5 then return .needMore
  if (← u8 bytes 0) ≠ TLS_HANDSHAKE then return .notTls
  recordLoop bytes [] 0

end AIUnblock.TlsClientHello
