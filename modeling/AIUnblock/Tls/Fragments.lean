import AIUnblock.Tls.Grammar

/-! # Hellos on the wire

A ClientHello as a client builds it, and the ways it may be cut into records.
Parsing waits on every proper prefix of such a stream and then, whatever
follows, reports the name the hello carries.
-/

namespace AIUnblock.Tls

open LengthPrefixed TlsClientHello

/-! ## The message -/

structure NameEntry where
  nameType : UInt8
  name : Opaque 2

def NameEntry.encode (entry : NameEntry) : Bytes := entry.nameType :: entry.name.encode

/-- US-ASCII bytes of a name. -/
def encodeUsAscii (name : Text) : Bytes := name.map fun c => UInt8.ofNat c.toNat

/-- A `server_name` list whose first `host_name` closes it. -/
structure ServerNameList where
  others : List NameEntry
  others_type : ∀ entry ∈ others, entry.nameType ≠ 0
  host : Text
  host_ascii : ∀ c ∈ host, c.toNat < 128
  host_notBlank : isNotBlank host = true

def ServerNameList.encode (names : ServerNameList) : Bytes :=
  names.others.flatMap NameEntry.encode ++ 0 :: vector 2 (encodeUsAscii names.host)

structure Extension where
  type : Nat
  type_lt : type < 256 ^ 2
  body : Opaque 2

def Extension.encode (extension : Extension) : Bytes :=
  toBigEndian 2 extension.type ++ extension.body.encode

/-- The `server_name` extension around its list. -/
def serverNameExtension (names : ServerNameList) : Bytes :=
  toBigEndian 2 SERVER_NAME_EXTENSION ++ vector 2 (vector 2 names.encode)

def extensionBytes (before : List Extension)
    (serverName : Option (ServerNameList × List Extension)) : Bytes :=
  before.flatMap Extension.encode ++
    match serverName with
    | none => []
    | some (names, after) => serverNameExtension names ++ after.flatMap Extension.encode

/-- An extension block: the name, if any, stands in the first extension of type
zero, and further extensions may follow it. -/
structure ExtensionBlock where
  before : List Extension
  before_type : ∀ extension ∈ before, extension.type ≠ SERVER_NAME_EXTENSION
  serverName : Option (ServerNameList × List Extension)
  fits : (extensionBytes before serverName).length < 256 ^ 2

def ExtensionBlock.host (block : ExtensionBlock) : Option Text :=
  block.serverName.map fun (names, _) => names.host

structure ClientHello where
  major : UInt8
  minor : UInt8
  random : Bytes
  random_length : random.length = 32
  sessionId : Opaque 1
  cipherSuites : Opaque 2
  compression : Opaque 1
  extensions : Option ExtensionBlock

namespace ClientHello

variable (hello : ClientHello)

def fixedFields : Bytes := hello.major :: hello.minor :: hello.random

def extensionPart : Bytes :=
  match hello.extensions with
  | none => []
  | some block => vector 2 (extensionBytes block.before block.serverName)

def body : Bytes :=
  hello.fixedFields ++ (hello.sessionId.encode ++ (hello.cipherSuites.encode ++
    (hello.compression.encode ++ hello.extensionPart)))

/-- The handshake message: its type, its 24-bit length and its body. -/
def message : Bytes := UInt8.ofNat CLIENT_HELLO :: vector 3 hello.body

/-- The host name the hello asks for. -/
def serverName : Option Text := hello.extensions.bind ExtensionBlock.host

theorem length_extensionPart : hello.extensionPart.length ≤ 2 + 65535 := by
  unfold extensionPart
  split
  · simp
  next block _ =>
    have hfits := block.fits
    rw [length_vector]
    omega

theorem length_body_lt : hello.body.length < 256 ^ 3 := by
  have hid := hello.sessionId.fits
  have hsuites := hello.cipherSuites.fits
  have hcompression := hello.compression.fits
  have hextensions := hello.length_extensionPart
  simp only [body, fixedFields, List.length_append, List.length_cons, hello.random_length,
    Opaque.length_encode]
  omega

theorem length_message : hello.message.length = hello.body.length + 4 := by
  simp [message, length_vector]
  omega

end ClientHello

/-! ## Reading the message back -/

theorem decodeUsAscii_encodeUsAscii {name : Text} (hascii : ∀ c ∈ name, c.toNat < 128) :
    decodeUsAscii (encodeUsAscii name) = name := by
  rw [encodeUsAscii, ← usAsciiBytes_eq hascii, decode_usAsciiBytes hascii]

theorem hostName_entries (others : List NameEntry)
    (hothers : ∀ entry ∈ others, entry.nameType ≠ 0) (rest : Bytes) :
    hostName (others.flatMap NameEntry.encode ++ rest) = hostName rest := by
  induction others with
  | nil => rfl
  | cons entry others ih =>
      have htype : ¬ entry.nameType.toNat = 0 := fun heq =>
        hothers entry List.mem_cons_self (UInt8.toNat_inj.mp heq)
      rw [List.flatMap_cons, List.append_assoc, NameEntry.encode, List.cons_append,
        hostName_cons_some (entry.name.takeVector_encode _), if_neg htype]
      exact ih fun other hother => hothers other (List.mem_cons_of_mem entry hother)

theorem hostName_encode (names : ServerNameList) (hfits : names.host.length < 256 ^ 2) :
    hostName names.encode = some names.host := by
  have hread : takeVector 2 (vector 2 (encodeUsAscii names.host)) =
      some (encodeUsAscii names.host, []) :=
    takeVector_vector 2 _ (by simpa [encodeUsAscii] using hfits)
  rw [ServerNameList.encode, hostName_entries names.others names.others_type,
    hostName_cons_some hread, if_pos UInt8.toNat_zero, decodeUsAscii_encodeUsAscii names.host_ascii,
    if_pos names.host_notBlank]

theorem toBigEndian_two (n : Nat) (hlt : n < 256 ^ 2) :
    ∃ high low, toBigEndian 2 n = [high, low] ∧ bigEndian [high, low] = n := by
  obtain ⟨high, low, hbytes⟩ := List.length_eq_two.mp (length_toBigEndian 2 n)
  exact ⟨high, low, hbytes, hbytes ▸ bigEndian_toBigEndian 2 n hlt⟩

theorem extensionsResult_extension (type : Nat) (htype : type < 256 ^ 2) (body rest : Bytes)
    (hbody : body.length < 256 ^ 2) :
    extensionsResult (toBigEndian 2 type ++ vector 2 body ++ rest) =
      if type = SERVER_NAME_EXTENSION then .parsed (hostName (body.drop 2))
      else extensionsResult rest := by
  obtain ⟨high, low, hbytes, hvalue⟩ := toBigEndian_two type htype
  rw [hbytes, List.append_assoc, List.cons_append, List.cons_append, List.nil_append,
    extensionsResult_cons (by simp [Nat.add_assoc]), takeVector_append 2 body rest hbody, hvalue]

theorem extensionsResult_before (before : List Extension)
    (hbefore : ∀ extension ∈ before, extension.type ≠ SERVER_NAME_EXTENSION) (rest : Bytes) :
    extensionsResult (before.flatMap Extension.encode ++ rest) = extensionsResult rest := by
  induction before with
  | nil => rfl
  | cons extension before ih =>
      rw [List.flatMap_cons, List.append_assoc, Extension.encode, Opaque.encode,
        extensionsResult_extension _ extension.type_lt _ _ extension.body.fits,
        if_neg (hbefore extension List.mem_cons_self)]
      exact ih fun other hother => hbefore other (List.mem_cons_of_mem extension hother)

theorem extensionsResult_block (block : ExtensionBlock) :
    extensionsResult (extensionBytes block.before block.serverName) =
      .parsed block.host := by
  have hfits := block.fits
  unfold extensionBytes ExtensionBlock.host at *
  rw [extensionsResult_before block.before block.before_type]
  rw [List.length_append] at hfits
  cases hname : block.serverName with
  | none => exact extensionsResult_short (by simp)
  | some entry =>
      obtain ⟨names, after⟩ := entry
      simp only [hname, serverNameExtension, List.length_append, length_toBigEndian,
        length_vector, ServerNameList.encode, List.length_cons, encodeUsAscii,
        List.length_map] at hfits
      have hbody : (vector 2 names.encode).length < 256 ^ 2 := by
        simp only [length_vector, ServerNameList.encode, List.length_append, List.length_cons,
          encodeUsAscii, List.length_map]
        omega
      have hlist : (vector 2 names.encode).drop 2 = names.encode := by
        rw [vector, List.drop_left' (length_toBigEndian 2 _)]
      dsimp only [serverNameExtension]
      rw [extensionsResult_extension SERVER_NAME_EXTENSION (by decide) _ _ hbody, if_pos rfl,
        hlist, hostName_encode names (by omega)]
      rfl

theorem messageResult_message (hello : ClientHello) :
    messageResult hello.message = .parsed hello.serverName := by
  have hlength : (toBigEndian 3 hello.body.length).length = 3 := length_toBigEndian 3 _
  have hfixed : hello.fixedFields.length = 2 + 32 := by
    simp [ClientHello.fixedFields, hello.random_length]
  rw [ClientHello.message, messageResult, if_neg (by decide), vector, List.drop_left' hlength,
    ClientHello.body, extensionBlock, takeExactly_append _ _ _ hfixed]
  simp only [Option.bind_eq_bind, Option.bind_some, Opaque.takeVector_encode]
  cases hextensions : hello.extensions with
  | none => simp [ClientHello.extensionPart, ClientHello.serverName, hextensions, blockResult]
  | some block =>
      have hnonempty : vector 2 (extensionBytes block.before block.serverName) ≠ [] :=
        List.ne_nil_of_length_pos (by simp)
      simp only [ClientHello.extensionPart, ClientHello.serverName, hextensions]
      rw [if_neg hnonempty, takeVector_vector 2 _ block.fits]
      simp only [Option.bind_some, Option.pure_def, blockResult, extensionsResult_block]

/-! ## Records -/

/-- A handshake record with any version bytes; its payload may be empty. -/
structure TlsRecord where
  major : UInt8
  minor : UInt8
  payload : Opaque 2

def TlsRecord.encode (record : TlsRecord) : Bytes :=
  UInt8.ofNat TLS_HANDSHAKE :: record.major :: record.minor :: record.payload.encode

def payloads (records : List TlsRecord) : Bytes :=
  records.flatMap fun record => record.payload.content

/-- A message cut into records. The last record completes it and may carry
handshake bytes beyond its end. -/
structure Fragmentation (message : Bytes) where
  init : List TlsRecord
  last : TlsRecord
  extra : Bytes
  incomplete : (payloads init).length < message.length
  complete : payloads init ++ last.payload.content = message ++ extra

def Fragmentation.bytes {message : Bytes} (fragments : Fragmentation message) : Bytes :=
  fragments.init.flatMap TlsRecord.encode ++ fragments.last.encode

/-- The header of a record, spelled out. -/
theorem TlsRecord.encode_eq (record : TlsRecord) :
    ∃ high low, record.encode = UInt8.ofNat TLS_HANDSHAKE :: record.major :: record.minor ::
      high :: low :: record.payload.content ∧
        bigEndian [high, low] = record.payload.content.length := by
  obtain ⟨high, low, hbytes, hvalue⟩ := toBigEndian_two _ record.payload.fits
  refine ⟨high, low, ?_, hvalue⟩
  rw [TlsRecord.encode, Opaque.encode, vector, hbytes]
  rfl

/-- A whole record adds its payload to the handshake bytes. -/
theorem recordsResult_encode (handshake : Bytes) (record : TlsRecord) (rest : Bytes) :
    recordsResult handshake (record.encode ++ rest) =
      match messageLength (handshake ++ record.payload.content) with
      | some limit => messageResult ((handshake ++ record.payload.content).take limit)
      | none => recordsResult (handshake ++ record.payload.content) rest := by
  obtain ⟨high, low, hencode, hvalue⟩ := record.encode_eq
  rw [hencode]
  simp only [List.cons_append]
  rw [recordsResult_record, if_neg (by decide), hvalue, List.take_left, List.drop_left]
  exact if_neg (by simp)

theorem exists_header {stream : Bytes} (hroom : ¬ stream.length < 5) :
    ∃ type major minor high low rest, stream = type :: major :: minor :: high :: low :: rest := by
  match stream, hroom with
  | type :: major :: minor :: high :: low :: rest, _ => exact ⟨_, _, _, _, _, _, rfl⟩
  | [], h | [_], h | [_, _], h | [_, _, _], h | [_, _, _, _], h => simp at h

/-- A record that has not fully arrived leaves the answer open. -/
theorem recordsResult_partial (handshake : Bytes) (record : TlsRecord) (stream : Bytes)
    (hinitial : stream <+: record.encode) (hlt : stream.length < record.encode.length) :
    recordsResult handshake stream = .needMore := by
  by_cases hshort : stream.length < 5
  · exact recordsResult_short hshort
  · obtain ⟨high, low, hencode, hvalue⟩ := record.encode_eq
    obtain ⟨missing, hmissing⟩ := hinitial
    obtain ⟨type, major, minor, high', low', rest, rfl⟩ := exists_header hshort
    -- the header has arrived, so the announced length is known and not reached
    rw [hencode] at hmissing hlt
    simp only [List.cons_append, List.cons.injEq] at hmissing
    obtain ⟨rfl, rfl, rfl, rfl, rfl, _⟩ := hmissing
    rw [recordsResult_record, if_neg (by decide), hvalue, if_pos]
    simpa using hlt

/-- A stream that stops inside a run of records, none of which but the last may
complete the message, leaves the answer open. -/
theorem recordsResult_prefix (records : List TlsRecord) (handshake stream : Bytes)
    (hinitial : stream <+: records.flatMap TlsRecord.encode)
    (hlt : stream.length < (records.flatMap TlsRecord.encode).length)
    (hopen : ∀ count < records.length,
      messageLength (handshake ++ payloads (records.take count)) = none) :
    recordsResult handshake stream = .needMore := by
  induction records generalizing handshake stream with
  | nil => simp at hlt
  | cons record records ih =>
      rw [List.flatMap_cons] at hinitial hlt
      have hrecord : record.encode <+: record.encode ++ records.flatMap TlsRecord.encode :=
        List.prefix_append _ _
      -- the stream stops inside the first record or beyond it
      by_cases hinside : stream.length < record.encode.length
      · exact recordsResult_partial handshake record stream
          (List.prefix_of_prefix_length_le hinitial hrecord (by omega)) hinside
      · obtain ⟨rest, rfl⟩ := List.prefix_of_prefix_length_le hrecord hinitial (by omega)
        have hrest := (List.prefix_append_right_inj _).mp hinitial
        rw [List.length_append, List.length_append] at hlt
        have hmore : 1 < (record :: records).length := by
          cases records with
          | nil => simp at hlt
          | cons => simp
        have hfirst := hopen 1 hmore
        rw [recordsResult_encode, show messageLength (handshake ++ record.payload.content) = none by
          simpa [payloads] using hfirst]
        apply ih _ _ hrest (by omega)
        intro count hcount
        have hnext := hopen (count + 1) (by simpa using hcount)
        simpa [payloads] using hnext

/-! ## Which bytes complete the message -/

theorem messageLength_message_append (hello : ClientHello) (extra : Bytes) :
    messageLength (hello.message ++ extra) = some hello.message.length := by
  have hlength : (toBigEndian 3 hello.body.length).length = 3 := length_toBigEndian 3 _
  have hslice : slice (hello.message ++ extra) 1 4 = toBigEndian 3 hello.body.length := by
    simp only [slice, ClientHello.message, vector, List.cons_append, List.take_succ_cons,
      List.drop_succ_cons, List.drop_zero, List.append_assoc]
    exact List.take_left' hlength
  have hmessage := hello.length_message
  rw [messageLength, hslice, bigEndian_toBigEndian 3 _ hello.length_body_lt, if_pos, hmessage]
  rw [List.length_append]
  omega

/-- A proper prefix of the message announces the same length and falls short of it. -/
theorem messageLength_prefix (hello : ClientHello) (handshake : Bytes)
    (hinitial : handshake <+: hello.message) (hlt : handshake.length < hello.message.length) :
    messageLength handshake = none := by
  unfold messageLength
  rw [if_neg]
  rintro ⟨hfour, hfits⟩
  obtain ⟨missing, hmissing⟩ := hinitial
  have hslice : slice hello.message 1 4 = slice handshake 1 4 := by
    rw [← hmissing, slice, slice, List.take_append_of_le_length hfour]
  have hwhole := messageLength_message_append hello []
  have hmessage := hello.length_message
  rw [List.append_nil, messageLength, hslice, if_pos (by omega)] at hwhole
  have hvalue := Option.some.inj hwhole
  omega

namespace Fragmentation

variable {hello : ClientHello} (fragments : Fragmentation hello.message)

theorem payloads_take_incomplete (count : Nat) :
    messageLength (payloads (fragments.init.take count)) = none := by
  have htake : payloads (fragments.init.take count) <+: payloads fragments.init := by
    refine ⟨payloads (fragments.init.drop count), ?_⟩
    rw [payloads, payloads, payloads, ← List.flatMap_append, List.take_append_drop]
  have hinit : payloads fragments.init <+: hello.message := by
    apply List.prefix_of_prefix_length_le _ (List.prefix_append hello.message fragments.extra)
      fragments.incomplete.le
    exact ⟨_, fragments.complete⟩
  have hlength := htake.length_le
  have hincomplete := fragments.incomplete
  exact messageLength_prefix hello _ (htake.trans hinit) (by omega)

/-- Every proper prefix of a fragmented hello asks for more bytes. -/
theorem recordsResult_of_prefix (stream : Bytes) (hinitial : stream <+: fragments.bytes)
    (hne : stream ≠ fragments.bytes) : recordsResult [] stream = .needMore := by
  have hbytes :
      fragments.bytes = (fragments.init ++ [fragments.last]).flatMap TlsRecord.encode := by
    simp [Fragmentation.bytes]
  have hlt : stream.length < fragments.bytes.length := by
    apply lt_of_le_of_ne hinitial.length_le
    intro heq
    exact hne (hinitial.eq_of_length heq)
  rw [hbytes] at hinitial hlt
  apply recordsResult_prefix _ [] stream hinitial hlt
  intro count hcount
  rw [List.length_append, List.length_singleton] at hcount
  rw [List.nil_append, List.take_append_of_le_length (by omega)]
  exact fragments.payloads_take_incomplete count

theorem recordsResult_init (init : List TlsRecord) (handshake rest : Bytes)
    (hopen : ∀ count ≤ init.length,
      messageLength (handshake ++ payloads (init.take count)) = none) :
    recordsResult handshake (init.flatMap TlsRecord.encode ++ rest) =
      recordsResult (handshake ++ payloads init) rest := by
  induction init generalizing handshake with
  | nil => simp [payloads]
  | cons record init ih =>
      have hfirst : messageLength (handshake ++ record.payload.content) = none := by
        simpa [payloads] using hopen 1 (by simp)
      rw [List.flatMap_cons, List.append_assoc, recordsResult_encode, hfirst]
      dsimp only
      rw [ih]
      · simp [payloads]
      · intro count hcount
        simpa [payloads] using hopen (count + 1) (by simpa using hcount)

/-- The whole stream is read as the hello it carries, whatever follows it. -/
theorem recordsResult_complete (rest : Bytes) :
    recordsResult [] (fragments.bytes ++ rest) = .parsed hello.serverName := by
  rw [Fragmentation.bytes, List.append_assoc, recordsResult_init]
  · rw [List.nil_append, recordsResult_encode, fragments.complete, messageLength_message_append]
    dsimp only
    rw [List.take_left, messageResult_message]
  · intro count _
    exact fragments.payloads_take_incomplete count

end Fragmentation

/-- Parsing is correct for every record layout: it waits on every proper prefix
and then reports the name of the hello, also when more bytes have arrived. -/
theorem parse_fragmentation (hello : ClientHello) (fragments : Fragmentation hello.message) :
    (∀ stream, stream <+: fragments.bytes → stream ≠ fragments.bytes →
      parse stream = .ok .needMore) ∧
    ∀ rest, parse (fragments.bytes ++ rest) = .ok (.parsed hello.serverName) := by
  refine ⟨fun stream hinitial hne => ?_, fun rest => ?_⟩
  · rw [parse_eq, fragments.recordsResult_of_prefix stream hinitial hne]
  · rw [parse_eq, fragments.recordsResult_complete rest]

/-- A name list with an entry of another type before the host. -/
def namedList : ServerNameList where
  others := [⟨1, ⟨[9, 9], by decide⟩⟩]
  others_type := by decide
  host := ['c', 'l', 'a', 'u', 'd', 'e', '.', 'a', 'i']
  host_ascii := by simp
  host_notBlank := by decide

/-- A hello whose name list stands between two other extensions. -/
def namedHello : ClientHello where
  major := 3
  minor := 3
  random := List.replicate 32 7
  random_length := List.length_replicate
  sessionId := ⟨[9], by decide⟩
  cipherSuites := ⟨[0x13, 0x01], by decide⟩
  compression := ⟨[0], by decide⟩
  extensions := some {
    before := [⟨43, by decide, ⟨[2, 3, 4], by decide⟩⟩]
    before_type := by decide
    serverName := some (namedList, [⟨21, by decide, ⟨[0, 0], by decide⟩⟩])
    fits := by decide }

/-- A record of one byte. -/
def byteRecord : TlsRecord := ⟨3, 1, ⟨[0], by decide⟩⟩

/-- The hello cut inside its name, an empty record at the cut and the last byte in a
record of its own. -/
def namedFragments : Fragmentation namedHello.message where
  init := [⟨3, 1, ⟨namedHello.message.take 70, by decide⟩⟩, ⟨3, 3, ⟨[], by decide⟩⟩,
    ⟨3, 3, ⟨(namedHello.message.drop 70).dropLast, by decide⟩⟩]
  last := byteRecord
  extra := []
  incomplete := by decide
  complete := by decide

/-- The parser waits for the other half of the name and for the last record, and then
reports the host. -/
theorem parse_namedFragments :
    parse (namedFragments.bytes.take 80) = .ok .needMore ∧
      parse (namedFragments.bytes.dropLast) = .ok .needMore ∧
      parse (namedFragments.bytes ++ [1]) =
        .ok (.parsed (some ['c', 'l', 'a', 'u', 'd', 'e', '.', 'a', 'i'])) := by
  obtain ⟨hinitial, hrest⟩ := parse_fragmentation namedHello namedFragments
  refine ⟨?_, ?_, hrest [1]⟩
  · exact hinitial _ (List.take_prefix _ _) (by decide)
  · exact hinitial _ (List.dropLast_prefix _) (by decide)

end AIUnblock.Tls
