import AIUnblock.Tls.DeadEnds
import Mathlib.Data.List.GetD

/-! # How much is missing

Where the parser waits and no record of another kind stands in the way, the lengths that
have arrived say how many bytes it takes at least until it answers. A record ends where
its header says and a message where its own header says; what has not arrived of a length
may be zero.
-/

namespace AIUnblock.Tls

open LengthPrefixed TlsClientHello

/-! ## Messages that have begun -/

/-- The least length of a message that begins so, header included. -/
def messageSize (handshake : Bytes) : Nat :=
  bigEndian [handshake.getD 1 0, handshake.getD 2 0, handshake.getD 3 0] + 4

/-- How much of such a message has not arrived. -/
def messageRest (handshake : Bytes) : Nat := messageSize handshake - handshake.length

theorem bigEndian_two (high low : UInt8) :
    bigEndian [high, low] = high.toNat * 256 + low.toNat := by
  simp [bigEndian]

theorem bigEndian_three (high middle low : UInt8) :
    bigEndian [high, middle, low] = (high.toNat * 256 + middle.toNat) * 256 + low.toNat := by
  simp [bigEndian]

/-- A message is complete when it is as long as its length bytes say. -/
theorem messageLength_eq_none_iff {handshake : Bytes} :
    messageLength handshake = none ↔ handshake.length < messageSize handshake := by
  match handshake with
  | [] | [_] | [_, _] | [_, _, _] => simp [messageLength, messageSize, bigEndian_three]
  | first :: high :: middle :: low :: rest =>
      have hslice : slice (first :: high :: middle :: low :: rest) 1 4 = [high, middle, low] := rfl
      have hsize : messageSize (first :: high :: middle :: low :: rest) =
          bigEndian [high, middle, low] + 4 := rfl
      rw [messageLength, hslice, hsize]
      simp only [List.length_cons, ite_eq_right_iff, reduceCtorEq, imp_false, not_and]
      omega

theorem messageRest_eq_zero_iff {handshake : Bytes} :
    messageRest handshake = 0 ↔ messageLength handshake ≠ none := by
  rw [ne_eq, messageLength_eq_none_iff, messageRest]
  omega

theorem getD_append_le (handshake more : Bytes) (index : Nat) :
    (handshake.getD index 0).toNat ≤ ((handshake ++ more).getD index 0).toNat := by
  by_cases hlt : index < handshake.length
  · rw [List.getD_append _ _ _ _ hlt]
  · rw [List.getD_eq_default _ _ (by omega)]
    exact Nat.zero_le _

/-- What arrives can only raise the length. -/
theorem messageSize_append_le (handshake more : Bytes) :
    messageSize handshake ≤ messageSize (handshake ++ more) := by
  have hone := getD_append_le handshake more 1
  have htwo := getD_append_le handshake more 2
  have hthree := getD_append_le handshake more 3
  simp only [messageSize, bigEndian_three]
  omega

theorem messageRest_le_append (handshake more : Bytes) :
    messageRest handshake ≤ messageRest (handshake ++ more) + more.length := by
  have hsize := messageSize_append_le handshake more
  simp only [messageRest, List.length_append]
  omega

theorem getD_append_zeros (handshake : Bytes) (count index : Nat) :
    (handshake ++ List.replicate count 0).getD index 0 = handshake.getD index 0 := by
  by_cases hlt : index < handshake.length
  · rw [List.getD_append _ _ _ _ hlt]
  · rw [List.getD_eq_default handshake _ (by omega), List.getD_append_right _ _ _ _ (by omega)]
    rw [List.getD_eq_getElem?_getD, List.getElem?_replicate]
    split <;> rfl

/-- Zeros leave the length as it is. -/
theorem messageRest_append_zeros (handshake : Bytes) (count : Nat) :
    messageRest (handshake ++ List.replicate count 0) = messageRest handshake - count := by
  simp only [messageRest, messageSize, getD_append_zeros, List.length_append,
    List.length_replicate]
  omega

/-! ## Records that have begun -/

/-- A further record, when the message goes on behind one with `left` bytes to come. -/
def furtherRecord (handshake : Bytes) (left : Nat) : Nat :=
  if messageRest handshake ≤ left then 0 else 5 + (messageRest handshake - left)

/-- The least payload of a record that begins so and is to hold the rest of the message, as
far as the high byte of its length allows it. -/
def leastPayload (high : UInt8) (handshake : Bytes) : Nat :=
  max (bigEndian [high, 0]) (min (messageRest handshake) (bigEndian [high, 255]))

/-- The fewest bytes that complete a record of which at most four bytes have arrived, and
the message. -/
def missingRecord (handshake : Bytes) : Bytes → Nat
  | [] => if handshake.isEmpty then 5 else 5 + messageRest handshake
  | [type, _, _, high] =>
    if type.toNat ≠ TLS_HANDSHAKE then 1
    else 1 + leastPayload high handshake + furtherRecord handshake (leastPayload high handshake)
  | type :: rest =>
    if type.toNat ≠ TLS_HANDSHAKE then 4 - rest.length
    else 4 - rest.length + messageRest handshake

/-- The fewest bytes after which the parser answers, where it is not waiting in vain. -/
def missing (handshake stream : Bytes) : Nat :=
  match stream with
  | type :: _ :: _ :: high :: low :: rest =>
    if type.toNat ≠ TLS_HANDSHAKE then 0
    else if rest.length < bigEndian [high, low] then
      bigEndian [high, low] - rest.length +
        furtherRecord (handshake ++ rest) (bigEndian [high, low] - rest.length)
    else
      match messageLength (handshake ++ rest.take (bigEndian [high, low])) with
      | some _ => 0
      | none =>
        missing (handshake ++ rest.take (bigEndian [high, low]))
          (rest.drop (bigEndian [high, low]))
  | _ => missingRecord handshake stream
termination_by stream.length
decreasing_by
  simp only [List.length_drop, List.length_cons]
  omega

theorem missing_short {handshake stream : Bytes} (hshort : stream.length < 5) :
    missing handshake stream = missingRecord handshake stream := by
  rw [missing]
  intro type major minor high low rest heq
  subst heq
  simp only [List.length_cons] at hshort
  omega

theorem missing_record {handshake : Bytes} {type major minor high low : UInt8} {rest : Bytes} :
    missing handshake (type :: major :: minor :: high :: low :: rest) =
      if type.toNat ≠ TLS_HANDSHAKE then 0
      else if rest.length < bigEndian [high, low] then
        bigEndian [high, low] - rest.length +
          furtherRecord (handshake ++ rest) (bigEndian [high, low] - rest.length)
      else
        match messageLength (handshake ++ rest.take (bigEndian [high, low])) with
        | some _ => 0
        | none =>
          missing (handshake ++ rest.take (bigEndian [high, low]))
            (rest.drop (bigEndian [high, low])) := by
  rw [missing]

/-! ## No fewer bytes do -/

/-- The parser does not answer before a header has arrived. -/
theorem five_le_of_answer {handshake stream : Bytes}
    (hanswer : recordsResult handshake stream ≠ .needMore) : 5 ≤ stream.length := by
  by_contra hshort
  exact hanswer (recordsResult_short (by omega))

/-- An answer to a message that has begun takes a header and the rest of the message. -/
theorem messageRest_le_of_answer {handshake stream : Bytes}
    (hanswer : recordsResult handshake stream ≠ .needMore)
    (hbegun : handshake ≠ [] ∨ ∀ type ∈ stream.head?, type.toNat = TLS_HANDSHAKE) :
    5 + messageRest handshake ≤ stream.length := by
  induction hmeasure : stream.length using Nat.strong_induction_on
    generalizing handshake stream with
  | _ measure ih =>
    have hroom := five_le_of_answer hanswer
    obtain ⟨type, major, minor, high, low, rest, rfl⟩ :=
      exists_header (show ¬ stream.length < 5 by omega)
    have htype : type.toNat = TLS_HANDSHAKE := by
      rcases hbegun with hnonempty | hhead
      · by_contra hother
        rw [recordsResult_record, if_pos hother, if_neg (by simpa using hnonempty)] at hanswer
        exact hanswer rfl
      · exact hhead type rfl
    rw [recordsResult_record, if_neg (not_not_intro htype)] at hanswer
    split at hanswer
    next => exact absurd rfl hanswer
    next hwhole =>
      simp only [List.length_cons] at hmeasure hroom
      have hpayload : (rest.take (bigEndian [high, low])).length = bigEndian [high, low] := by
        rw [List.length_take]
        omega
      have hrest := messageRest_le_append handshake (rest.take (bigEndian [high, low]))
      cases hmessage : messageLength (handshake ++ rest.take (bigEndian [high, low])) with
      | some limit =>
          have hdone := messageRest_eq_zero_iff.mpr (by rw [hmessage]; exact Option.some_ne_none _)
          omega
      | none =>
          rw [hmessage] at hanswer
          dsimp only at hanswer
          by_cases hnonempty : handshake ++ rest.take (bigEndian [high, low]) = []
          · -- an empty record at the front only costs bytes
            have hheader := five_le_of_answer hanswer
            obtain ⟨rfl, -⟩ := List.append_eq_nil_iff.mp hnonempty
            have hfour : messageRest [] = 4 := rfl
            rw [List.length_drop] at hheader
            omega
          · have hless := ih _ (by rw [List.length_drop]; omega) hanswer (Or.inl hnonempty) rfl
            rw [List.length_drop] at hless
            omega

theorem furtherRecord_le {handshake more rest : Bytes}
    (hanswer : messageLength (handshake ++ more) = none →
      recordsResult (handshake ++ more) rest ≠ .needMore)
    (hnonempty : handshake ++ more ≠ []) :
    furtherRecord handshake more.length ≤ rest.length := by
  rw [furtherRecord]
  split
  next => exact Nat.zero_le _
  next hlong =>
    have hrest := messageRest_le_append handshake more
    have hopen : messageLength (handshake ++ more) = none := by
      by_contra hsome
      have hzero := messageRest_eq_zero_iff.mpr hsome
      omega
    have hless := messageRest_le_of_answer (hanswer hopen) (Or.inl hnonempty)
    omega

/-- Four bytes of a header fix the high byte of the length. -/
theorem leastPayload_le {handshake more : Bytes} {major minor high : UInt8}
    (hanswer : recordsResult handshake (22 :: major :: minor :: high :: more) ≠ .needMore) :
    1 + leastPayload high handshake + furtherRecord handshake (leastPayload high handshake) ≤
      more.length := by
  have hrest := messageRest_le_of_answer hanswer (Or.inr (by rintro _ ⟨⟩; rfl))
  have hroom := five_le_of_answer hanswer
  cases more with
  | nil => simp at hroom
  | cons low rest =>
      have hlow := low.toNat_lt
      have hleast : bigEndian [high, 0] ≤ bigEndian [high, low] := by
        simp only [bigEndian_two]
        exact Nat.add_le_add_left (Nat.zero_le _) _
      have hmost : bigEndian [high, low] ≤ bigEndian [high, 255] := by
        simp only [bigEndian_two, show (255 : UInt8).toNat = 255 from rfl]
        omega
      rw [recordsResult_record, if_neg (by decide)] at hanswer
      split at hanswer
      next => exact absurd rfl hanswer
      next hwhole =>
        have hpayload : (rest.take (bigEndian [high, low])).length = bigEndian [high, low] := by
          rw [List.length_take]
          omega
        simp only [List.length_cons] at hrest ⊢
        by_cases hlong : messageRest handshake ≤ bigEndian [high, 255]
        · have hfits : furtherRecord handshake (leastPayload high handshake) = 0 := by
            rw [furtherRecord, if_pos]
            rw [leastPayload]
            omega
          rw [hfits, leastPayload]
          omega
        · -- the message does not fit this record, whatever its low byte says
          have hnonempty : handshake ++ rest.take (bigEndian [high, low]) ≠ [] := by
            intro hnil
            obtain ⟨rfl, -⟩ := List.append_eq_nil_iff.mp hnil
            have hfour : messageRest [] = 4 := rfl
            simp only [bigEndian_two, show (255 : UInt8).toNat = 255 from rfl] at hlong
            omega
          have hfurther := @furtherRecord_le handshake _ (rest.drop (bigEndian [high, low]))
            (fun hopen => by rwa [hopen] at hanswer) hnonempty
          rw [hpayload, List.length_drop] at hfurther
          rw [furtherRecord] at hfurther ⊢
          rw [leastPayload]
          split at hfurther <;> split <;> omega

/-- A record of which at most four bytes have arrived. -/
theorem missingRecord_le {handshake stream more : Bytes} (hshort : stream.length < 5)
    (hanswer : recordsResult handshake (stream ++ more) ≠ .needMore) :
    missingRecord handshake stream ≤ more.length := by
  have hroom := five_le_of_answer hanswer
  rw [List.length_append] at hroom
  have hrest : ∀ type rest, stream = type :: rest → type.toNat = TLS_HANDSHAKE →
      5 + messageRest handshake ≤ stream.length + more.length := by
    rintro type rest rfl htype
    have hless := messageRest_le_of_answer hanswer (Or.inr (by rintro _ ⟨⟩; exact htype))
    rwa [List.length_append] at hless
  match stream with
  | [] =>
      rw [missingRecord]
      split
      next => simpa using hroom
      next hnonempty =>
        have hless := messageRest_le_of_answer hanswer (Or.inl (by simpa using hnonempty))
        simpa using hless
  | [type, major, minor, high] =>
      rw [missingRecord]
      split
      next =>
        simp only [List.length_cons, List.length_nil] at hroom
        omega
      next htype =>
        obtain rfl : type = 22 := UInt8.toNat_inj.mp (not_not.mp htype)
        exact leastPayload_le hanswer
  | [type] | [type, _] | [type, _, _] =>
      have hown := hrest type _ rfl
      simp only [missingRecord, List.length_cons, List.length_nil] at hroom hown ⊢
      split
      next => omega
      next htype =>
        have hless := hown (not_not.mp htype)
        omega
  | _ :: _ :: _ :: _ :: _ :: rest =>
      simp only [List.length_cons] at hshort
      omega

/-- No fewer bytes than are missing let the parser answer. -/
theorem missing_le {handshake stream more : Bytes}
    (hanswer : recordsResult handshake (stream ++ more) ≠ .needMore) :
    missing handshake stream ≤ more.length := by
  induction hmeasure : stream.length using Nat.strong_induction_on
    generalizing handshake stream with
  | _ measure ih =>
    by_cases hshort : stream.length < 5
    · rw [missing_short hshort]
      exact missingRecord_le hshort hanswer
    obtain ⟨type, major, minor, high, low, rest, rfl⟩ := exists_header hshort
    rw [missing_record]
    simp only [List.cons_append] at hanswer
    rw [recordsResult_record] at hanswer
    split
    next => exact Nat.zero_le _
    next htype =>
      rw [if_neg htype] at hanswer
      split at hanswer
      next => exact absurd rfl hanswer
      next hwhole =>
        rw [List.length_append] at hwhole
        split
        next hpart =>
          -- the record ends within the new bytes
          obtain ⟨payload, tail, rfl, hpayload⟩ : ∃ payload tail, more = payload ++ tail ∧
              payload.length = bigEndian [high, low] - rest.length :=
            ⟨more.take (bigEndian [high, low] - rest.length), _,
              (List.take_append_drop _ more).symm, by rw [List.length_take]; omega⟩
          have htake : (rest ++ (payload ++ tail)).take (bigEndian [high, low]) =
              rest ++ payload := by
            rw [← List.append_assoc, List.take_left' (by rw [List.length_append]; omega)]
          have hdrop : (rest ++ (payload ++ tail)).drop (bigEndian [high, low]) = tail := by
            rw [← List.append_assoc, List.drop_left' (by rw [List.length_append]; omega)]
          rw [htake, hdrop, ← List.append_assoc] at hanswer
          have hfurther := @furtherRecord_le (handshake ++ rest) payload tail
            (fun hopen => by rwa [hopen] at hanswer) (by
              intro hnil
              have hlength := congrArg List.length hnil
              simp only [List.length_append, List.length_nil] at hlength
              omega)
          rw [hpayload] at hfurther
          rw [List.length_append]
          omega
        next hfull =>
          rw [List.take_append_of_le_length (by omega), List.drop_append_of_le_length (by omega)]
            at hanswer
          split
          next => exact Nat.zero_le _
          next hopen =>
            rw [hopen] at hanswer
            apply ih _ _ hanswer rfl
            rw [← hmeasure]
            simp only [List.length_drop, List.length_cons]
            omega

/-! ## As many bytes do -/

/-- A record of zeros. -/
theorem exists_zeroRecord (major minor : UInt8) {known : Bytes} {left : Nat} {high low : UInt8}
    (hlength : known.length + left = bigEndian [high, low]) :
    ∃ record : TlsRecord,
      record.encode = 22 :: major :: minor :: high :: low :: (known ++ List.replicate left 0) ∧
        record.payload.content = known ++ List.replicate left 0 :=
  exists_record (by rw [List.length_append, List.length_replicate, hlength])

theorem exists_lengthBytes {count : Nat} (hfits : count < 256 ^ 2) :
    ∃ high low, bigEndian [high, low] = count := by
  obtain ⟨high, low, -, hvalue⟩ := toBigEndian_two count hfits
  exact ⟨high, low, hvalue⟩

/-- One record completes the message. -/
theorem exists_rest_of_message {handshake : Bytes} (hfits : messageRest handshake < 256 ^ 2) :
    ∃ more, more.length = 5 + messageRest handshake ∧
      recordsResult handshake more ≠ .needMore := by
  obtain ⟨high, low, hvalue⟩ := exists_lengthBytes hfits
  obtain ⟨record, hencode, hpayload⟩ :=
    @exists_zeroRecord 0 0 [] (messageRest handshake) high low (by rw [hvalue]; simp)
  refine ⟨record.encode, by rw [hencode]; simp; omega, ?_⟩
  have hzero : messageRest (handshake ++ record.payload.content) = 0 := by
    rw [hpayload, List.nil_append, messageRest_append_zeros, Nat.sub_self]
  obtain ⟨limit, hlimit⟩ := Option.ne_none_iff_exists'.mp (messageRest_eq_zero_iff.mp hzero)
  exact recordsResult_complete_ne hlimit

/-- A record that is filled up with zeros, and a further one if the message needs it. -/
theorem exists_rest_of_zeros {handshake known stream more : Bytes} {record : TlsRecord}
    {left : Nat} (hencode : stream ++ more = record.encode)
    (hpayload : record.payload.content = known ++ List.replicate left 0)
    (hfits : furtherRecord (handshake ++ known) left < 256 ^ 2) :
    ∃ rest, rest.length = more.length + furtherRecord (handshake ++ known) left ∧
      recordsResult handshake (stream ++ rest) ≠ .needMore := by
  have hcontent : handshake ++ record.payload.content =
      handshake ++ known ++ List.replicate left 0 := by
    rw [hpayload, List.append_assoc]
  have hrest : messageRest (handshake ++ record.payload.content) =
      messageRest (handshake ++ known) - left := by
    rw [hcontent, messageRest_append_zeros]
  unfold furtherRecord at hfits ⊢
  cases hmessage : messageLength (handshake ++ record.payload.content) with
  | some limit =>
      have hzero := messageRest_eq_zero_iff.mpr (by rw [hmessage]; exact Option.some_ne_none _)
      refine ⟨more, by rw [if_pos (by omega), Nat.add_zero], ?_⟩
      rw [hencode]
      exact recordsResult_complete_ne hmessage
  | none =>
      have hpos : messageRest (handshake ++ record.payload.content) ≠ 0 :=
        fun hzero => messageRest_eq_zero_iff.mp hzero hmessage
      rw [if_neg (by omega)] at hfits ⊢
      obtain ⟨tail, hlength, htail⟩ := @exists_rest_of_message
        (handshake ++ record.payload.content) (by omega)
      refine ⟨more ++ tail, by rw [List.length_append]; omega, ?_⟩
      rw [← List.append_assoc, hencode, recordsResult_encode, hmessage]
      exact htail

theorem bigEndian_high (high : UInt8) (count : Nat) (hleast : bigEndian [high, 0] ≤ count)
    (hmost : count ≤ bigEndian [high, 255]) : bigEndian [high, UInt8.ofNat count] = count := by
  simp only [bigEndian_two, show (0 : UInt8).toNat = 0 from rfl,
    show (255 : UInt8).toNat = 255 from rfl, UInt8.toNat_ofNat'] at *
  omega

/-- Where no byte of the length has arrived, one record takes the rest of the message. -/
theorem exists_rest_of_version {handshake stream filler : Bytes} {major minor : UInt8}
    (hheader : stream ++ filler = [22, major, minor])
    (hfits : messageRest handshake < 256 ^ 2) :
    ∃ more, more.length = filler.length + 2 + messageRest handshake ∧
      recordsResult handshake (stream ++ more) ≠ .needMore := by
  obtain ⟨high, low, hvalue⟩ := exists_lengthBytes hfits
  obtain ⟨record, hencode, hpayload⟩ := @exists_zeroRecord major minor [] _ _ _
    ((Nat.zero_add _).trans hvalue.symm)
  have hwhole : stream ++ (filler ++ high :: low :: List.replicate (messageRest handshake) 0) =
      record.encode := by
    rw [← List.append_assoc, hheader, hencode]
    rfl
  have hnone : furtherRecord (handshake ++ []) (messageRest handshake) = 0 := by
    rw [List.append_nil, furtherRecord, if_pos le_rfl]
  obtain ⟨rest, hlength, hanswer⟩ := @exists_rest_of_zeros handshake [] _ _ _ _ hwhole hpayload
    (by rw [hnone]; exact Nat.pos_of_ne_zero (by decide))
  refine ⟨rest, ?_, hanswer⟩
  rw [hlength, hnone]
  simp only [List.length_append, List.length_cons, List.length_replicate]
  omega

/-- Where its high byte has arrived, the record takes the least payload. -/
theorem exists_rest_of_high {handshake : Bytes} {major minor high : UInt8}
    (hfits : furtherRecord handshake (leastPayload high handshake) < 256 ^ 2) :
    ∃ more,
      more.length =
        1 + leastPayload high handshake + furtherRecord handshake (leastPayload high handshake) ∧
      recordsResult handshake ([22, major, minor, high] ++ more) ≠ .needMore := by
  have hbounds : bigEndian [high, 0] ≤ bigEndian [high, 255] := by
    simp only [bigEndian_two]
    exact Nat.add_le_add_left (Nat.zero_le _) _
  have hvalue := bigEndian_high high (leastPayload high handshake)
    (by rw [leastPayload]; omega) (by rw [leastPayload]; omega)
  obtain ⟨record, hencode, hpayload⟩ := @exists_zeroRecord major minor [] _ _ _
    ((Nat.zero_add _).trans hvalue.symm)
  obtain ⟨rest, hlength, hanswer⟩ := @exists_rest_of_zeros handshake []
    [22, major, minor, high] _ record _ hencode.symm hpayload (by rwa [List.append_nil])
  refine ⟨rest, ?_, hanswer⟩
  rw [hlength, List.append_nil]
  simp
  omega

/-- A handshake record of which at most four bytes have arrived. -/
theorem exists_missingRecord_of_handshake {handshake rest : Bytes} (hshort : rest.length < 4)
    (hfits : missingRecord handshake (22 :: rest) ≤ 256 ^ 2) :
    ∃ more, more.length = missingRecord handshake (22 :: rest) ∧
      recordsResult handshake (22 :: rest ++ more) ≠ .needMore := by
  have htype : ¬ (22 : UInt8).toNat ≠ TLS_HANDSHAKE := by decide
  match rest with
  | [] =>
      simp only [missingRecord, if_neg htype, List.length_nil] at hfits ⊢
      exact @exists_rest_of_version handshake _ [0, 0] 0 0 rfl (by omega)
  | [major] =>
      simp only [missingRecord, if_neg htype, List.length_cons, List.length_nil] at hfits ⊢
      exact @exists_rest_of_version handshake _ [0] major 0 rfl (by omega)
  | [major, minor] =>
      simp only [missingRecord, if_neg htype, List.length_cons, List.length_nil] at hfits ⊢
      exact @exists_rest_of_version handshake _ [] major minor rfl (by omega)
  | [major, minor, high] =>
      rw [missingRecord, if_neg htype] at hfits ⊢
      exact exists_rest_of_high (by omega)
  | _ :: _ :: _ :: _ :: _ =>
      simp only [List.length_cons] at hshort
      omega

/-- A record of another type needs a whole header. -/
theorem missingRecord_of_type {handshake rest : Bytes} {type : UInt8}
    (htype : type.toNat ≠ TLS_HANDSHAKE) (hshort : rest.length < 4) :
    missingRecord handshake (type :: rest) = 4 - rest.length := by
  match rest with
  | [] | [_] | [_, _] | [_, _, _] => simp [missingRecord, htype]
  | _ :: _ :: _ :: _ :: _ =>
      simp only [List.length_cons] at hshort
      omega

/-- Any record of which at most four bytes have arrived, or none. -/
theorem exists_missingRecord {handshake stream : Bytes} (hshort : stream.length < 5)
    (hlive : ¬ DeadEnd handshake stream) (hopen : messageLength handshake = none)
    (hfits : missingRecord handshake stream ≤ 256 ^ 2) :
    ∃ more, more.length = missingRecord handshake stream ∧
      recordsResult handshake (stream ++ more) ≠ .needMore := by
  cases stream with
  | nil =>
      rw [missingRecord] at hfits ⊢
      split
      next hnil =>
        refine ⟨[0, 0, 0, 0, 0], rfl, ?_⟩
        rw [List.nil_append, List.isEmpty_iff.mp hnil, recordsResult_record, if_pos (by decide)]
        decide
      next hnonempty =>
        rw [if_neg hnonempty] at hfits
        exact exists_rest_of_message (by omega)
  | cons type rest =>
      have hrest : rest.length < 4 := Nat.lt_of_succ_lt_succ hshort
      by_cases htype : type.toNat = TLS_HANDSHAKE
      · obtain rfl : type = 22 := UInt8.toNat_inj.mp htype
        exact exists_missingRecord_of_handshake hrest hfits
      · refine ⟨_, ?_, answer_of_type htype hlive hopen⟩
        rw [missingRecord_of_type htype hrest, List.length_replicate]

/-- Unless it waits in vain, the parser answers after as many bytes as are missing. -/
theorem exists_missing {handshake stream : Bytes} (hlive : ¬ DeadEnd handshake stream)
    (hopen : messageLength handshake = none) (hfits : missing handshake stream ≤ 256 ^ 2) :
    ∃ more, more.length = missing handshake stream ∧
      recordsResult handshake (stream ++ more) ≠ .needMore := by
  induction hmeasure : stream.length using Nat.strong_induction_on
    generalizing handshake stream with
  | _ measure ih =>
    by_cases hshort : stream.length < 5
    · rw [missing_short hshort] at hfits ⊢
      exact exists_missingRecord hshort hlive hopen hfits
    obtain ⟨type, major, minor, high, low, rest, rfl⟩ := exists_header hshort
    rw [missing_record] at hfits ⊢
    split
    next htype =>
      -- the header is there, and says that this is no TLS
      exact ⟨[], rfl, by simpa using answer_of_type htype hlive hopen⟩
    next htype =>
      rw [if_neg htype] at hfits
      obtain rfl : type = 22 := UInt8.toNat_inj.mp (not_not.mp htype)
      split
      next hpart =>
        rw [if_pos hpart] at hfits
        obtain ⟨record, hencode, hpayload⟩ := @exists_zeroRecord major minor rest
          (bigEndian [high, low] - rest.length) high low (by omega)
        obtain ⟨more, hlength, hanswer⟩ := @exists_rest_of_zeros handshake rest
          (22 :: major :: minor :: high :: low :: rest) _ record _ hencode.symm hpayload
          (by omega)
        refine ⟨more, ?_, hanswer⟩
        rw [hlength, List.length_replicate]
      next hwhole =>
        rw [if_neg hwhole] at hfits
        have htake : (rest.take (bigEndian [high, low])).length = bigEndian [high, low] := by
          rw [List.length_take]
          omega
        obtain ⟨record, hencode, hpayload⟩ := @exists_record major minor _ _ _ htake
        have hsplit : 22 :: major :: minor :: high :: low :: rest =
            record.encode ++ rest.drop (bigEndian [high, low]) := by
          rw [hencode]
          simp
        rw [← hpayload] at hfits ⊢
        rw [hsplit] at hlive ⊢
        split
        next limit hlimit =>
          refine ⟨[], rfl, ?_⟩
          rw [List.append_nil, recordsResult_encode, hlimit]
          exact messageResult_ne_needMore _
        next hmessage =>
          rw [hmessage] at hfits
          obtain ⟨more, hlength, hanswer⟩ := ih _ (by rw [← hmeasure]; simp; omega)
            (fun hdead => hlive hdead.cons) hmessage hfits rfl
          refine ⟨more, hlength, ?_⟩
          rw [List.append_assoc, recordsResult_encode, hmessage]
          exact hanswer

end AIUnblock.Tls
