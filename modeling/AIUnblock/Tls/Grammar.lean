import AIUnblock.Tls.ClientHello

/-! # What a ClientHello says

The same answers as `TlsClientHello.parse`, read off the bytes from front to
back: each reader consumes one field and passes on the rest, so no offset and
no failing access is left. `parse_eq` identifies the two; everything said about
names, fragments and continuations is proved here and carried over.
-/

namespace AIUnblock.Tls

open LengthPrefixed TlsClientHello

/-- The first `host_name` of a list of name entries. -/
def hostName (entries : Bytes) : Option Text :=
  match entries with
  | [] => none
  | nameType :: rest =>
    match _hread : takeVector 2 rest with
    | none => none
    | some (name, others) =>
      if nameType.toNat = 0 then
        if isNotBlank (decodeUsAscii name) then some (decodeUsAscii name) else none
      else hostName others
termination_by entries.length
decreasing_by
  have hlength := takeVector_rest_length _hread
  simp only [List.length_cons]
  omega

/-- The answer given by the extensions of a hello: the name in the first
`server_name` extension decides. -/
def extensionsResult (extensions : Bytes) : Result :=
  match _htype : takeExactly 2 extensions with
  | none => .parsed none
  | some (type, rest) =>
    if rest.length < 2 then .parsed none
    else match _hbody : takeVector 2 rest with
      | none => .notTls
      | some (body, others) =>
        if bigEndian type = SERVER_NAME_EXTENSION then .parsed (hostName (body.drop 2))
        else extensionsResult others
termination_by extensions.length
decreasing_by
  have hlength := takeVector_rest_length _hbody
  obtain ⟨rfl, htwo⟩ := takeExactly_eq_some_iff.mp _htype
  simp only [List.length_append]
  omega

/-- The extension bytes of a hello body, `some none` when it ends before them. -/
def extensionBlock (body : Bytes) : Option (Option Bytes) := do
  let (_, rest) ← takeExactly (2 + 32) body
  let (_, rest) ← takeVector 1 rest
  let (_, rest) ← takeVector 2 rest
  let (_, rest) ← takeVector 1 rest
  if rest = [] then return none
  let (extensions, _) ← takeVector 2 rest
  return some extensions

def blockResult : Option (Option Bytes) → Result
  | none => .notTls
  | some none => .parsed none
  | some (some extensions) => extensionsResult extensions

/-- The answer given by one complete handshake message. -/
def messageResult (message : Bytes) : Result :=
  match message with
  | [] => .notTls
  | type :: rest =>
    if type.toNat ≠ CLIENT_HELLO then .notTls else blockResult (extensionBlock (rest.drop 3))

/-- The length of the first message, header included, once it is complete. -/
def messageLength (handshake : Bytes) : Option Nat :=
  if 4 ≤ handshake.length ∧ bigEndian (slice handshake 1 4) + 4 ≤ handshake.length then
    some (bigEndian (slice handshake 1 4) + 4)
  else none

/-- The answer given by a record stream, after the handshake bytes that earlier
records contributed. -/
def recordsResult (handshake : Bytes) (stream : Bytes) : Result :=
  match stream with
  | type :: _ :: _ :: high :: low :: rest =>
    if type.toNat ≠ TLS_HANDSHAKE then
      if handshake.isEmpty then .notTls else .needMore
    else if rest.length < bigEndian [high, low] then .needMore
    else
      match messageLength (handshake ++ rest.take (bigEndian [high, low])) with
      | some limit => messageResult ((handshake ++ rest.take (bigEndian [high, low])).take limit)
      | none =>
        recordsResult (handshake ++ rest.take (bigEndian [high, low]))
          (rest.drop (bigEndian [high, low]))
  | _ => .needMore
termination_by stream.length
decreasing_by
  simp only [List.length_drop, List.length_cons]
  omega

/-! ## The parser reads exactly this -/

theorem hostName_cons_none {nameType : UInt8} {rest : Bytes} (hread : takeVector 2 rest = none) :
    hostName (nameType :: rest) = none := by
  rw [hostName]
  split
  · rfl
  · simp_all

theorem hostName_cons_some {nameType : UInt8} {rest name others : Bytes}
    (hread : takeVector 2 rest = some (name, others)) :
    hostName (nameType :: rest) =
      if nameType.toNat = 0 then
        if isNotBlank (decodeUsAscii name) then some (decodeUsAscii name) else none
      else hostName others := by
  rw [hostName]
  split
  · simp_all
  · simp_all

/-- Fewer than three bytes hold no name entry. -/
theorem hostName_short {entries : Bytes} (hshort : entries.length < 3) :
    hostName entries = none := by
  cases entries with
  | nil => rw [hostName]
  | cons nameType rest =>
      apply hostName_cons_none
      have hcount : takeExactly 2 rest = none := by
        rw [takeExactly_eq_none_iff]
        rw [List.length_cons] at hshort
        omega
      simp [takeVector, hcount]

theorem nameLoop_eq (bytes : Bytes) (offset stop : Nat) (hstop : stop ≤ bytes.length) :
    nameLoop bytes offset stop = .ok (hostName (slice bytes offset stop)) := by
  induction hmeasure : stop - offset using Nat.strong_induction_on generalizing offset with
  | _ measure ih =>
    rw [nameLoop]
    split
    next hroom =>
      obtain ⟨nameType, htype, hslice⟩ :=
        slice_eq_cons_of_byteAt (show offset < stop by omega) hstop
      obtain ⟨nameLength, hlength, hvector⟩ :=
        takeVector_two_slice (show offset + 1 + 2 ≤ stop by omega) hstop
      rw [u8_eq_ok htype, hlength, hslice, ok_bind, ok_bind]
      by_cases hfit : offset + 3 + nameLength ≤ stop
      · rw [if_pos (by omega)] at hvector
        rw [if_neg (by omega), hostName_cons_some hvector]
        split
        next =>
          rw [copyOfRange_eq_ok (by omega) (by omega)]
          rfl
        next => exact ih _ (by omega) _ rfl
      · -- the entry runs past the list: both give up
        rw [if_neg (by omega)] at hvector
        rw [if_pos (by omega), hostName_cons_none hvector]
        rfl
    next hroom =>
      rw [hostName_short (by rw [length_slice hstop]; omega)]
      rfl

theorem parseServerName_eq (bytes : Bytes) (start stop : Nat) (hstop : stop ≤ bytes.length) :
    parseServerName bytes start stop = .ok (hostName ((slice bytes start stop).drop 2)) := by
  rw [parseServerName, drop_slice]
  split
  next hshort =>
    rw [slice_eq_nil (by omega), hostName]
    rfl
  next => exact nameLoop_eq bytes (start + 2) stop hstop

theorem extensionsResult_short {extensions : Bytes} (hshort : extensions.length < 4) :
    extensionsResult extensions = .parsed none := by
  rw [extensionsResult]
  split
  next => rfl
  next type rest htype =>
    obtain ⟨rfl, htwo⟩ := takeExactly_eq_some_iff.mp htype
    rw [if_pos]
    simp only [List.length_append] at hshort
    omega

/-- One extension of a block: its type and its body. -/
theorem extensionsResult_cons {high low : UInt8} {rest : Bytes} (hroom : 2 ≤ rest.length) :
    extensionsResult (high :: low :: rest) =
      match takeVector 2 rest with
      | none => .notTls
      | some (body, others) =>
        if bigEndian [high, low] = SERVER_NAME_EXTENSION then .parsed (hostName (body.drop 2))
        else extensionsResult others := by
  rw [extensionsResult]
  have htype : takeExactly 2 (high :: low :: rest) = some ([high, low], rest) :=
    takeExactly_append [high, low] rest 2 rfl
  split
  next hnone => rw [htype] at hnone; cases hnone
  next type rest' hsome =>
    rw [htype] at hsome
    obtain ⟨rfl, rfl⟩ := Prod.mk.inj (Option.some.inj hsome)
    rw [if_neg (by omega)]
    split <;> simp_all

theorem extensionLoop_eq (handshake : Bytes) (offset stop : Nat) (hstop : stop ≤ handshake.length) :
    extensionLoop handshake offset stop = .ok (extensionsResult (slice handshake offset stop)) := by
  induction hmeasure : stop - offset using Nat.strong_induction_on generalizing offset with
  | _ measure ih =>
    rw [extensionLoop]
    split
    next hroom =>
      obtain ⟨high, hhigh, hslice⟩ :=
        slice_eq_cons_of_byteAt (show offset < stop by omega) hstop
      obtain ⟨low, hlow, hslice'⟩ :=
        slice_eq_cons_of_byteAt (show offset + 1 < stop by omega) hstop
      obtain ⟨length, hlength, hvector⟩ :=
        takeVector_two_slice (show offset + 2 + 2 ≤ stop by omega) hstop
      rw [u16_eq_ok hhigh hlow, hlength, hslice, hslice',
        extensionsResult_cons (by rw [length_slice hstop]; omega), hvector, ok_bind, ok_bind]
      by_cases hfit : offset + 4 + length ≤ stop
      · rw [if_neg (by omega), if_pos (show offset + 2 + 2 + length ≤ stop by omega)]
        dsimp only
        split
        next =>
          rw [parseServerName_eq _ _ _ (by omega)]
          rfl
        next => exact ih _ (by omega) _ rfl
      · rw [if_pos (by omega), if_neg (show ¬ offset + 2 + 2 + length ≤ stop by omega)]
        rfl
    next hroom =>
      rw [extensionsResult_short (by rw [length_slice hstop]; omega)]
      rfl

/-- The offset program `next` and the reader `read` give one answer. An offset
past the limit is only noticed by the check of the field that follows. -/
def Agrees (handshake : Bytes) (limit : Nat) (next : Nat → Except Exception Result)
    (read : Bytes → Option (Option Bytes)) : Prop :=
  (∀ offset ≤ limit, next offset = .ok (blockResult (read (slice handshake offset limit)))) ∧
    ∀ offset > limit, next offset = .ok .notTls

section Agreement

variable {handshake : Bytes} {limit : Nat} {next : Nat → Except Exception Result}
  {read : Bytes → Option (Option Bytes)}

theorem Agrees.vector_one (hlimit : limit ≤ handshake.length)
    (hnext : Agrees handshake limit next read) :
    Agrees handshake limit
      (fun offset =>
        if offset + 1 > limit then pure .notTls
        else do
          let length ← u8 handshake offset
          next (offset + (1 + length)))
      (fun body => do
        let (_, rest) ← takeVector 1 body
        read rest) := by
  refine ⟨fun offset _ => ?_, fun offset hout => if_pos (by omega)⟩
  dsimp only
  split
  next hroom =>
    rw [takeVector_short (by rw [length_slice hlimit]; omega)]
    rfl
  next hroom =>
    obtain ⟨length, hread, hvector⟩ :=
      takeVector_one_slice (show offset + 1 ≤ limit by omega) hlimit
    rw [hread, ok_bind, hvector, ← Nat.add_assoc]
    split
    next hfit => exact hnext.1 _ hfit
    -- the vector runs past the limit, which the check of the next field notices
    next hfit => exact hnext.2 _ (by omega)

theorem Agrees.vector_two (hlimit : limit ≤ handshake.length)
    (hnext : Agrees handshake limit next read) :
    Agrees handshake limit
      (fun offset =>
        if offset + 2 > limit then pure .notTls
        else do
          let length ← u16 handshake offset
          next (offset + (2 + length)))
      (fun body => do
        let (_, rest) ← takeVector 2 body
        read rest) := by
  refine ⟨fun offset _ => ?_, fun offset hout => if_pos (by omega)⟩
  dsimp only
  split
  next hroom =>
    rw [takeVector_short (by rw [length_slice hlimit]; omega)]
    rfl
  next hroom =>
    obtain ⟨length, hread, hvector⟩ :=
      takeVector_two_slice (show offset + 2 ≤ limit by omega) hlimit
    rw [hread, ok_bind, hvector, ← Nat.add_assoc]
    split
    next hfit => exact hnext.1 _ hfit
    next hfit => exact hnext.2 _ (by omega)

theorem agrees_parseExtensionBlock (hlimit : limit ≤ handshake.length) :
    Agrees handshake limit (parseExtensionBlock handshake · limit) (fun rest =>
      if rest = [] then some none
      else do
        let (extensions, _) ← takeVector 2 rest
        some (some extensions)) := by
  refine ⟨fun offset hoffset => ?_, fun offset hout => ?_⟩
  · dsimp only [parseExtensionBlock]
    split
    next heq =>
      rw [slice_eq_nil (by omega), if_pos rfl]
      rfl
    next hne =>
      have hrest : slice handshake offset limit ≠ [] := by
        apply List.ne_nil_of_length_pos
        rw [length_slice hlimit]
        omega
      rw [if_neg hrest]
      split
      next hroom =>
        rw [takeVector_short (by rw [length_slice hlimit]; omega)]
        rfl
      next hroom =>
        obtain ⟨length, hread, hvector⟩ :=
          takeVector_two_slice (show offset + 2 ≤ limit by omega) hlimit
        rw [hread, ok_bind, hvector]
        split
        next hover =>
          rw [if_neg (by omega)]
          rfl
        next hfit =>
          rw [if_pos (by omega), extensionLoop_eq _ _ _ (by omega)]
          rfl
  · dsimp only [parseExtensionBlock]
    rw [if_neg (by omega), if_pos (by omega)]
    rfl

end Agreement

theorem parseHandshake_eq (handshake : Bytes) (limit : Nat) (hfour : 4 ≤ limit)
    (hlimit : limit ≤ handshake.length) :
    parseHandshake handshake limit = .ok (messageResult (handshake.take limit)) := by
  obtain ⟨type, htype, hslice⟩ := slice_eq_cons_of_byteAt (show 0 < limit by omega) hlimit
  have hnonempty : handshake.isEmpty = false := by
    rw [List.isEmpty_eq_false_iff]
    rintro rfl
    simp only [List.length_nil] at hlimit
    omega
  rw [slice_zero] at hslice
  unfold parseHandshake
  rw [hslice, messageResult, hnonempty, u8_eq_ok htype, drop_slice, ok_bind, if_neg (by decide)]
  split
  next => rfl
  next =>
    unfold extensionBlock
    dsimp only
    split
    next hshort =>
      rw [takeExactly_eq_none_iff.mpr (by rw [length_slice hlimit]; omega)]
      rfl
    next hroom =>
      rw [takeExactly_slice (by omega) hlimit]
      exact ((((agrees_parseExtensionBlock hlimit).vector_one hlimit).vector_two
        hlimit).vector_one hlimit).1 38 (by omega)

theorem shiftLeft_or_three (high middle low : UInt8) :
    (high.toNat <<< 16) ||| (middle.toNat <<< 8) ||| low.toNat = bigEndian [high, middle, low] := by
  have hmiddle := middle.toNat_lt
  have hlow := low.toNat_lt
  have hsplit : high.toNat <<< 16 = (high.toNat * 256) <<< 8 := by
    simp only [Nat.shiftLeft_eq]
    ring
  have hpair : (high.toNat <<< 16) ||| (middle.toNat <<< 8) =
      (high.toNat * 256 + middle.toNat) <<< 8 := by
    rw [hsplit, ← Nat.shiftLeft_or_distrib, ← Nat.shiftLeft_eq high.toNat 8,
      ← Nat.shiftLeft_add_eq_or_of_lt (by omega)]
  rw [hpair, ← Nat.shiftLeft_add_eq_or_of_lt (by omega), Nat.shiftLeft_eq]
  simp [bigEndian]

theorem completeHello_eq (handshake : Bytes) :
    completeHello handshake = .ok (messageLength handshake) := by
  unfold completeHello messageLength
  split
  next hfour =>
    obtain ⟨high, hhigh, hslice⟩ := slice_eq_cons_of_byteAt (show 1 < 4 by omega) hfour
    obtain ⟨middle, hmiddle, hslice'⟩ := slice_eq_cons_of_byteAt (show 2 < 4 by omega) hfour
    obtain ⟨low, hlow, hslice''⟩ := slice_eq_cons_of_byteAt (show 3 < 4 by omega) hfour
    have hbytes : slice handshake 1 4 = [high, middle, low] := by
      rw [hslice, hslice', hslice'', slice_eq_nil (by omega)]
    rw [u8_eq_ok hhigh, u8_eq_ok hmiddle, u8_eq_ok hlow, hbytes]
    dsimp only [ok_bind]
    rw [shiftLeft_or_three]
    simp only [pure_eq_ok, ge_iff_le, hfour, true_and]
  next hfour =>
    rw [if_neg (by omega)]
    rfl

theorem recordsResult_short {handshake stream : Bytes} (hshort : stream.length < 5) :
    recordsResult handshake stream = .needMore := by
  rw [recordsResult]
  intro type major minor high low rest heq
  subst heq
  simp only [List.length_cons] at hshort
  omega

/-- One record: its five header bytes and what follows them. -/
theorem recordsResult_record {handshake : Bytes} {type major minor high low : UInt8}
    {rest : Bytes} :
    recordsResult handshake (type :: major :: minor :: high :: low :: rest) =
      if type.toNat ≠ TLS_HANDSHAKE then if handshake.isEmpty then .notTls else .needMore
      else if rest.length < bigEndian [high, low] then .needMore
      else
        match messageLength (handshake ++ rest.take (bigEndian [high, low])) with
        | some limit =>
          messageResult ((handshake ++ rest.take (bigEndian [high, low])).take limit)
        | none =>
          recordsResult (handshake ++ rest.take (bigEndian [high, low]))
            (rest.drop (bigEndian [high, low])) := by
  rw [recordsResult]

theorem messageLength_eq_some {handshake : Bytes} {limit : Nat}
    (h : messageLength handshake = some limit) : 4 ≤ limit ∧ limit ≤ handshake.length := by
  unfold messageLength at h
  split at h
  next hfits =>
    obtain rfl := Option.some.inj h
    omega
  next => cases h

theorem exists_record_header {bytes : Bytes} {offset : Nat} (hroom : offset + 5 ≤ bytes.length) :
    ∃ type major minor high low, byteAt bytes offset = .ok type ∧
      byteAt bytes (offset + 3) = .ok high ∧ byteAt bytes (offset + 4) = .ok low ∧
      bytes.drop offset = type :: major :: minor :: high :: low :: bytes.drop (offset + 5) := by
  have hbyte : ∀ index, offset + index < bytes.length → ∃ byte,
      byteAt bytes (offset + index) = .ok byte ∧
        bytes.drop (offset + index) = byte :: bytes.drop (offset + index + 1) := by
    intro index hindex
    obtain ⟨byte, hread, hslice⟩ := slice_eq_cons_of_byteAt hindex le_rfl
    rw [slice_length, slice_length] at hslice
    exact ⟨byte, hread, hslice⟩
  obtain ⟨type, htype, hdrop⟩ := hbyte 0 (by omega)
  obtain ⟨major, _, hdrop₁⟩ := hbyte 1 (by omega)
  obtain ⟨minor, _, hdrop₂⟩ := hbyte 2 (by omega)
  obtain ⟨high, hhigh, hdrop₃⟩ := hbyte 3 (by omega)
  obtain ⟨low, hlow, hdrop₄⟩ := hbyte 4 (by omega)
  refine ⟨type, major, minor, high, low, htype, hhigh, hlow, ?_⟩
  simp only [Nat.add_zero, Nat.add_assoc, Nat.reduceAdd] at hdrop hdrop₁ hdrop₂ hdrop₃ hdrop₄
  rw [hdrop, hdrop₁, hdrop₂, hdrop₃, hdrop₄]

theorem recordLoop_eq (bytes handshake : Bytes) (recordOffset : Nat) :
    recordLoop bytes handshake recordOffset =
      .ok (recordsResult handshake (bytes.drop recordOffset)) := by
  induction hmeasure : bytes.length - recordOffset using Nat.strong_induction_on
    generalizing handshake recordOffset with
  | _ measure ih =>
    rw [recordLoop]
    split
    next hroom =>
      obtain ⟨type, major, minor, high, low, htype, hhigh, hlow, hdrop⟩ :=
        exists_record_header hroom
      rw [hdrop, recordsResult_record, u8_eq_ok htype, u16_eq_ok hhigh hlow, ok_bind,
        List.length_drop]
      split
      next => rfl
      next =>
        rw [ok_bind]
        dsimp only
        by_cases hover : recordOffset + 5 + bigEndian [high, low] > bytes.length
        · rw [if_pos hover, if_pos (by omega)]
          rfl
        · have hpayload : (bytes.drop (recordOffset + 5)).take (bigEndian [high, low]) =
              slice bytes (recordOffset + 5) (recordOffset + 5 + bigEndian [high, low]) := by
            rw [slice, List.take_drop]
          rw [if_neg hover, if_neg (by omega), bytesUntil_eq_ok (by omega), hpayload, ok_bind,
            completeHello_eq, ok_bind, List.drop_drop]
          cases hmessage : messageLength (handshake ++
              slice bytes (recordOffset + 5) (recordOffset + 5 + bigEndian [high, low])) with
          | none => exact ih _ (by omega) _ _ rfl
          | some limit =>
              obtain ⟨hfour, hlimit⟩ := messageLength_eq_some hmessage
              exact parseHandshake_eq _ _ hfour hlimit
    next hroom =>
      rw [recordsResult_short (by rw [List.length_drop]; omega)]
      rfl

/-- Parsing never fails, and its answer is the one read front to back. -/
theorem parse_eq (bytes : Bytes) : parse bytes = .ok (recordsResult [] bytes) := by
  unfold parse
  split
  next hshort =>
    rw [recordsResult_short hshort]
    rfl
  next hroom =>
    obtain ⟨type, major, minor, high, low, htype, _, _, hdrop⟩ :=
      exists_record_header (show 0 + 5 ≤ bytes.length by omega)
    rw [u8_eq_ok htype, ok_bind]
    split
    next hother =>
      rw [List.drop_zero] at hdrop
      rw [hdrop, recordsResult_record, if_pos hother]
      rfl
    next => exact recordLoop_eq bytes [] 0

end AIUnblock.Tls
