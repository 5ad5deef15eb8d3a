import AIUnblock.Tls.Fragments

/-! # Waiting in vain

The parser asks for more bytes when a record or the message is not complete. Then
some continuation lets it answer, unless a record of another kind stands where the
rest of the message should come: no bytes behind it change that.
-/

namespace AIUnblock.Tls

open LengthPrefixed TlsClientHello

/-- After part of a message, whole records go on to a byte that begins no handshake
record. -/
def DeadEnd (handshake stream : Bytes) : Prop :=
  ∃ (records : List TlsRecord) (type : UInt8) (rest : Bytes),
    stream = records.flatMap TlsRecord.encode ++ type :: rest ∧ type.toNat ≠ TLS_HANDSHAKE ∧
      handshake ++ payloads records ≠ [] ∧ messageLength (handshake ++ payloads records) = none

/-! ## A whole message is always answered -/

theorem extensionsResult_ne_needMore (extensions : Bytes) :
    extensionsResult extensions ≠ .needMore := by
  induction hmeasure : extensions.length using Nat.strong_induction_on generalizing extensions with
  | _ measure ih =>
    match extensions with
    | [] | [_] | [_, _] | [_, _, _] =>
      rw [extensionsResult_short (by simp)]
      exact nofun
    | high :: low :: third :: fourth :: rest =>
      rw [extensionsResult_cons (by simp)]
      cases hbody : takeVector 2 (third :: fourth :: rest) with
      | none => exact nofun
      | some found =>
          obtain ⟨body, others⟩ := found
          dsimp only
          split
          next => exact nofun
          next =>
            have hlength := takeVector_rest_length hbody
            apply ih _ _ others rfl
            rw [← hmeasure]
            simp only [List.length_cons] at hlength ⊢
            omega

theorem messageResult_ne_needMore (message : Bytes) : messageResult message ≠ .needMore := by
  cases message with
  | nil => rintro ⟨⟩
  | cons type rest =>
      rw [messageResult]
      split
      next => rintro ⟨⟩
      next =>
        cases extensionBlock (rest.drop 3) with
        | none => rintro ⟨⟩
        | some block =>
            cases block with
            | none => rintro ⟨⟩
            | some extensions => exact extensionsResult_ne_needMore extensions

theorem messageLength_append {handshake : Bytes} {limit : Nat}
    (hlimit : messageLength handshake = some limit) (more : Bytes) :
    messageLength (handshake ++ more) = some limit := by
  rw [messageLength] at hlimit
  split at hlimit
  next hfits =>
    obtain ⟨hfour, hwhole⟩ := hfits
    have hslice : slice (handshake ++ more) 1 4 = slice handshake 1 4 := by
      rw [slice, slice, List.take_append_of_le_length hfour]
    rw [messageLength, hslice, if_pos, hlimit]
    rw [List.length_append]
    omega
  next => cases hlimit

/-! ## Completing a record and a message -/

/-- Five header bytes and as many bytes as they announce are a record. -/
theorem exists_record {major minor high low : UInt8} {payload : Bytes}
    (hlength : payload.length = bigEndian [high, low]) :
    ∃ record : TlsRecord, record.encode = 22 :: major :: minor :: high :: low :: payload ∧
      record.payload.content = payload := by
  have hfits : payload.length < 256 ^ 2 := by
    rw [hlength]
    exact bigEndian_lt [high, low]
  refine ⟨⟨major, minor, payload, hfits⟩, ?_, rfl⟩
  have hcount : toBigEndian 2 payload.length = [high, low] := by
    rw [hlength]
    exact toBigEndian_bigEndian [high, low]
  rw [TlsRecord.encode, Opaque.encode, vector, hcount]
  rfl

/-- The rest of a record whose header has arrived. -/
theorem exists_rest_of_header (major minor high low : UInt8) (rest : Bytes)
    (hshort : rest.length ≤ bigEndian [high, low]) :
    ∃ (record : TlsRecord) (more : Bytes),
      22 :: major :: minor :: high :: low :: rest ++ more = record.encode := by
  have hlength : (rest ++ List.replicate (bigEndian [high, low] - rest.length) 0).length =
      bigEndian [high, low] := by
    rw [List.length_append, List.length_replicate]
    omega
  obtain ⟨record, hencode, _⟩ := @exists_record major minor _ _ _ hlength
  exact ⟨record, _, hencode.symm⟩

/-- The rest of a record whose header has not. -/
theorem exists_rest_of_record {stream : Bytes} (hshort : stream.length < 5)
    (htype : ∀ type ∈ stream.head?, type = 22) :
    ∃ (record : TlsRecord) (more : Bytes), stream ++ more = record.encode := by
  obtain ⟨major, minor, high, low, more, hheader⟩ : ∃ major minor high low more,
      stream ++ more = [22, major, minor, high, low] := by
    match stream with
    | [] => exact ⟨0, 0, 0, 0, _, rfl⟩
    | [type] => exact ⟨0, 0, 0, 0, [0, 0, 0, 0], by rw [htype type rfl]; rfl⟩
    | [type, a] => exact ⟨a, 0, 0, 0, [0, 0, 0], by rw [htype type rfl]; rfl⟩
    | [type, a, b] => exact ⟨a, b, 0, 0, [0, 0], by rw [htype type rfl]; rfl⟩
    | [type, a, b, c] => exact ⟨a, b, c, 0, [0], by rw [htype type rfl]; rfl⟩
    | _ :: _ :: _ :: _ :: _ :: rest =>
        simp only [List.length_cons] at hshort
        omega
  obtain ⟨record, rest, hrecord⟩ := exists_rest_of_header major minor high low [] (Nat.zero_le _)
  exact ⟨record, more ++ rest, by rw [← List.append_assoc, hheader, hrecord]⟩

/-- The parser has answered once a record completes the message. -/
theorem recordsResult_complete_ne {handshake : Bytes} {record : TlsRecord} {limit : Nat}
    (hlimit : messageLength (handshake ++ record.payload.content) = some limit) :
    recordsResult handshake record.encode ≠ .needMore := by
  rw [← List.append_nil record.encode, recordsResult_encode, hlimit]
  exact messageResult_ne_needMore _

/-- If enough bytes complete the message, records of one byte each do. -/
theorem exists_completion_of_bytes (count : Nat) (handshake : Bytes)
    (hcomplete : messageLength (handshake ++ List.replicate (count + 1) 0) ≠ none) :
    ∃ more, recordsResult handshake more ≠ .needMore := by
  induction count generalizing handshake with
  | zero =>
      obtain ⟨limit, hlimit⟩ := Option.ne_none_iff_exists'.mp hcomplete
      exact ⟨byteRecord.encode, recordsResult_complete_ne hlimit⟩
  | succ count ih =>
      cases hlength : messageLength (handshake ++ [0]) with
      | some limit => exact ⟨byteRecord.encode, recordsResult_complete_ne hlength⟩
      | none =>
          rw [List.replicate_succ, List.append_cons] at hcomplete
          obtain ⟨more, hmore⟩ := ih (handshake ++ [0]) hcomplete
          refine ⟨byteRecord.encode ++ more, ?_⟩
          have hpayload : byteRecord.payload.content = [0] := rfl
          rw [recordsResult_encode, hpayload, hlength]
          exact hmore

/-- Every message that has begun can be completed. -/
theorem exists_completion (handshake : Bytes) :
    ∃ more, recordsResult handshake more ≠ .needMore := by
  apply exists_completion_of_bytes (256 ^ 3 + 3)
  have hnumber := bigEndian_lt (slice (handshake ++ List.replicate (256 ^ 3 + 3 + 1) 0) 1 4)
  have hfour : 4 ≤ (handshake ++ List.replicate (256 ^ 3 + 3 + 1) (0 : UInt8)).length := by
    rw [List.length_append, List.length_replicate]
    omega
  rw [length_slice hfour] at hnumber
  rw [messageLength, if_pos]
  · exact Option.some_ne_none _
  · refine ⟨hfour, ?_⟩
    rw [List.length_append, List.length_replicate]
    omega

/-- A handshake record that has arrived in part can be completed, and the message with
it. -/
theorem exists_completion_of_record {handshake stream more : Bytes} {record : TlsRecord}
    (hrecord : stream ++ more = record.encode) :
    ∃ rest, recordsResult handshake (stream ++ rest) ≠ .needMore := by
  cases hlength : messageLength (handshake ++ record.payload.content) with
  | some limit =>
      refine ⟨more, ?_⟩
      rw [hrecord]
      exact recordsResult_complete_ne hlength
  | none =>
      obtain ⟨rest, hrest⟩ := exists_completion (handshake ++ record.payload.content)
      refine ⟨more ++ rest, ?_⟩
      rw [← List.append_assoc, hrecord, recordsResult_encode, hlength]
      exact hrest

/-! ## Dead ends -/

/-- A whole record in front of a dead end leads to it. -/
theorem DeadEnd.cons {handshake rest : Bytes} {record : TlsRecord}
    (hdead : DeadEnd (handshake ++ record.payload.content) rest) :
    DeadEnd handshake (record.encode ++ rest) := by
  obtain ⟨records, type, tail, rfl, htype, hnonempty, hopen⟩ := hdead
  have hpayloads : handshake ++ payloads (record :: records) =
      handshake ++ record.payload.content ++ payloads records := by
    rw [payloads, List.flatMap_cons, List.append_assoc, payloads]
  refine ⟨record :: records, type, tail, ?_, htype, ?_, ?_⟩
  · rw [List.flatMap_cons, List.append_assoc]
  · rwa [hpayloads]
  · rwa [hpayloads]

/-- A handshake record at the front is one that has arrived in part or a whole one. -/
theorem record_cases {stream : Bytes} (htype : ∀ type ∈ stream.head?, type = 22) :
    (∃ (record : TlsRecord) (more : Bytes), stream ++ more = record.encode) ∨
      ∃ (record : TlsRecord) (rest : Bytes), stream = record.encode ++ rest := by
  by_cases hshort : stream.length < 5
  · exact Or.inl (exists_rest_of_record hshort htype)
  · obtain ⟨type, major, minor, high, low, rest, rfl⟩ := exists_header hshort
    obtain rfl := htype type rfl
    by_cases hpart : rest.length ≤ bigEndian [high, low]
    · exact Or.inl (exists_rest_of_header major minor high low rest hpart)
    · have hlength : (rest.take (bigEndian [high, low])).length = bigEndian [high, low] := by
        rw [List.length_take]
        omega
      obtain ⟨record, hencode, _⟩ := @exists_record major minor _ _ _ hlength
      refine Or.inr ⟨record, rest.drop (bigEndian [high, low]), ?_⟩
      rw [hencode]
      simp

/-- A byte that begins no handshake record is a dead end or, at the start, no TLS: the parser
says so once the rest of a header is there. -/
theorem answer_of_type {handshake rest : Bytes} {type : UInt8}
    (htype : type.toNat ≠ TLS_HANDSHAKE) (hlive : ¬ DeadEnd handshake (type :: rest))
    (hopen : messageLength handshake = none) :
    recordsResult handshake (type :: rest ++ List.replicate (4 - rest.length) 0) ≠ .needMore := by
  cases handshake with
  | nil =>
      obtain ⟨type', major, minor, high, low, tail, hstream⟩ : ∃ type' major minor high low tail,
          type :: rest ++ List.replicate (4 - rest.length) 0 =
            type' :: major :: minor :: high :: low :: tail := by
        apply exists_header
        simp only [List.length_append, List.length_cons, List.length_replicate]
        omega
      obtain rfl : type = type' := (List.cons.inj hstream).1
      rw [hstream, recordsResult_record, if_pos htype]
      exact nofun
  | cons first others =>
      have hpayloads : first :: others ++ payloads [] = first :: others := List.append_nil _
      refine absurd ⟨[], type, rest, rfl, htype, ?_, ?_⟩ hlive
      · rw [hpayloads]
        exact List.cons_ne_nil _ _
      · rwa [hpayloads]

/-- A stream that asks for more and is no dead end can be completed. -/
theorem exists_answer (handshake stream : Bytes)
    (hneed : recordsResult handshake stream = .needMore) (hlive : ¬ DeadEnd handshake stream)
    (hopen : messageLength handshake = none) :
    ∃ more, recordsResult handshake (stream ++ more) ≠ .needMore := by
  induction hmeasure : stream.length using Nat.strong_induction_on
    generalizing handshake stream with
  | _ measure ih =>
    by_cases htype : ∀ type ∈ stream.head?, type = 22
    · rcases record_cases htype with ⟨record, more, hrecord⟩ | ⟨record, rest, rfl⟩
      · exact exists_completion_of_record hrecord
      · rw [recordsResult_encode] at hneed
        cases hmessage : messageLength (handshake ++ record.payload.content) with
        | some limit =>
            rw [hmessage] at hneed
            exact absurd hneed (messageResult_ne_needMore _)
        | none =>
            rw [hmessage] at hneed
            have hless : rest.length < measure := by
              rw [← hmeasure, List.length_append, TlsRecord.encode, List.length_cons]
              omega
            obtain ⟨more, hmore⟩ := ih _ hless _ _ hneed (fun hdead => hlive hdead.cons)
              hmessage rfl
            refine ⟨more, ?_⟩
            rw [List.append_assoc, recordsResult_encode, hmessage]
            exact hmore
    · cases stream with
      | nil => exact absurd (by rintro _ ⟨⟩) htype
      | cons type rest =>
          refine ⟨_, answer_of_type (fun heq => htype ?_) hlive hopen⟩
          rintro _ ⟨⟩
          exact UInt8.toNat_inj.mp heq

/-- Nothing behind a dead end is ever looked at. -/
theorem recordsResult_deadEnd {handshake stream : Bytes} (hdead : DeadEnd handshake stream) :
    recordsResult handshake stream = .needMore := by
  obtain ⟨records, type, rest, rfl, htype, hnonempty, hopen⟩ := hdead
  have hprefix : ∀ count ≤ records.length,
      messageLength (handshake ++ payloads (records.take count)) = none := by
    intro count _
    cases hlength : messageLength (handshake ++ payloads (records.take count)) with
    | none => rfl
    | some limit =>
        have hlonger := messageLength_append hlength (payloads (records.drop count))
        rw [List.append_assoc, payloads, payloads, ← List.flatMap_append, List.take_append_drop,
          ← payloads, hopen] at hlonger
        contradiction
  rw [Fragmentation.recordsResult_init records handshake _ hprefix]
  by_cases hshort : (type :: rest).length < 5
  · exact recordsResult_short hshort
  · obtain ⟨type', major, minor, high, low, tail, hstream⟩ := exists_header hshort
    obtain rfl : type = type' := (List.cons.inj hstream).1
    rw [hstream, recordsResult_record, if_pos htype, if_neg]
    rwa [List.isEmpty_iff]

theorem DeadEnd.append {handshake stream : Bytes} (hdead : DeadEnd handshake stream)
    (more : Bytes) : DeadEnd handshake (stream ++ more) := by
  obtain ⟨records, type, rest, rfl, hrest⟩ := hdead
  exact ⟨records, type, rest ++ more, by rw [List.append_assoc, List.cons_append], hrest⟩

/-- The parser asks for more in vain exactly at dead ends. -/
theorem parse_resolves_iff (bytes : Bytes) :
    (parse bytes = .ok .needMore → ∃ more, parse (bytes ++ more) ≠ .ok .needMore) ↔
      ¬ DeadEnd [] bytes := by
  simp only [parse_eq, ne_eq, Except.ok.injEq]
  constructor
  · intro hresolves hdead
    obtain ⟨more, hmore⟩ := hresolves (recordsResult_deadEnd hdead)
    exact hmore (recordsResult_deadEnd (hdead.append more))
  · exact fun hlive hneed => exists_answer [] bytes hneed hlive rfl

/-- One byte of a message, then an alert. -/
def alertInside : Bytes := [22, 3, 1, 0, 1, 1, 21, 3, 1, 0, 2, 1, 0]

/-- The parser waits for ever. -/
theorem alertInside_waits :
    parse alertInside = .ok .needMore ∧
      ¬ ∃ more, parse (alertInside ++ more) ≠ .ok .needMore := by
  have hdead : DeadEnd [] alertInside :=
    ⟨[⟨3, 1, ⟨[1], by decide⟩⟩], 21, [3, 1, 0, 2, 1, 0], by decide, by decide, by decide, by decide⟩
  refine ⟨?_, ?_⟩
  · rw [parse_eq, recordsResult_deadEnd hdead]
  · rintro ⟨more, hmore⟩
    rw [parse_eq, recordsResult_deadEnd (hdead.append more)] at hmore
    exact hmore rfl

end AIUnblock.Tls
