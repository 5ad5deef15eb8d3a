import AIUnblock.Foundation.DnsMessage
import AIUnblock.Relay.DnsOverride

/-! # The answers of `DnsOverride`

What a reader of DNS messages that knows nothing of this program finds in an answer:
a reply to the question asked, with the fixed address or without any.
-/

namespace AIUnblock.DnsOverride

open LengthPrefixed DnsMessage

/-! ## Queries that are answered -/

/-- Two bytes behind one another as a number. -/
theorem u16_of_drop {bytes rest : Bytes} {offset : Nat} {high low : UInt8}
    (hdrop : bytes.drop offset = high :: low :: rest) :
    u16 bytes offset = .ok (bigEndian [high, low]) := by
  have hnext : bytes.drop (offset + 1) = low :: rest := by
    rw [← List.drop_drop, hdrop]
    rfl
  obtain ⟨hoffset, hhigh⟩ := getElem_of_drop hdrop
  obtain ⟨hoffset', hlow⟩ := getElem_of_drop hnext
  exact u16_eq_ok (hhigh ▸ byteAt_eq_ok hoffset) (hlow ▸ byteAt_eq_ok hoffset')

section Labels

variable {query rest : Bytes} {offset : Nat} {found : List Text}

theorem labelLoop_root (hdrop : query.drop offset = 0 :: rest) :
    labelLoop query offset found = .ok (some (found, offset + 1)) := by
  obtain ⟨hoffset, hbyte⟩ := getElem_of_drop hdrop
  rw [labelLoop, if_pos hoffset, u8_eq_ok (byteAt_eq_ok hoffset), ok_bind, hbyte]
  rfl

theorem labelLoop_label {label : Bytes} (hlabel : IsLabel label)
    (hdrop : query.drop offset = vector 1 label ++ rest) :
    labelLoop query offset found =
      labelLoop query (offset + 1 + label.length) (found ++ [decodeUsAscii label]) := by
  obtain ⟨hnonempty, hlength⟩ := hlabel
  have hpos := List.length_pos_iff.mpr hnonempty
  have hbyte : (UInt8.ofNat label.length).toNat = label.length := by
    rw [UInt8.toNat_ofNat']
    omega
  have hcons : query.drop offset = UInt8.ofNat label.length :: (label ++ rest) := hdrop
  obtain ⟨hoffset, helem⟩ := getElem_of_drop hcons
  have hfits : offset + 1 + label.length ≤ query.length := by
    have hlengths := congrArg List.length hdrop
    rw [List.length_drop, List.length_append, length_vector] at hlengths
    omega
  have hslice : slice query (offset + 1) (offset + 1 + label.length) = label := by
    rw [slice, List.drop_take, ← List.drop_drop, hcons]
    simp
  rw [labelLoop, if_pos hoffset, u8_eq_ok (byteAt_eq_ok hoffset), ok_bind, helem, hbyte,
    if_neg (by omega), if_neg (by omega), copyOfRange_eq_ok (by omega) hfits, ok_bind, hslice]

/-- The loop reads a name that is written out. -/
theorem labelLoop_of_name {labels : List Bytes} (hlabels : ∀ label ∈ labels, IsLabel label)
    (hdrop : query.drop offset = encodeName labels ++ rest) :
    labelLoop query offset found =
      .ok (some (found ++ labels.map decodeUsAscii, offset + (encodeName labels).length)) := by
  induction labels generalizing offset found with
  | nil =>
      rw [labelLoop_root hdrop, List.map_nil, List.append_nil]
      rfl
  | cons label labels ih =>
      rw [List.forall_mem_cons] at hlabels
      have hsplit : query.drop offset = vector 1 label ++ (encodeName labels ++ rest) := by
        rw [hdrop, encodeName_cons, List.append_assoc]
      have hbehind : query.drop (offset + 1 + label.length) = encodeName labels ++ rest := by
        rw [Nat.add_assoc]
        exact drop_behind hsplit (length_vector 1 label)
      rw [labelLoop_label hlabels.1 hsplit, ih hlabels.2 hbehind]
      rw [encodeName_cons, List.length_append, length_vector, List.map_cons]
      simp only [List.append_assoc, List.singleton_append, Nat.add_assoc]

/-- The loop reads nothing but a name, when bytes are left behind it. -/
theorem labelLoop_eq_some {labels : List Text} {after : Nat}
    (hloop : labelLoop query offset found = .ok (some (labels, after)))
    (hafter : after < query.length) :
    ∃ name, labels = found ++ name.map decodeUsAscii ∧ (∀ label ∈ name, IsLabel label) ∧
      query.drop offset = encodeName name ++ query.drop after := by
  induction offset, found using labelLoop.induct query with
  | case1 offset found hlt ih =>
      have hcons := List.drop_eq_getElem_cons hlt
      rw [labelLoop, if_pos hlt, u8_eq_ok (byteAt_eq_ok hlt), ok_bind] at hloop
      split at hloop
      next hzero =>
        have hbyte : query[offset] = 0 := UInt8.toNat_inj.mp hzero
        cases hloop
        refine ⟨[], (List.append_nil labels).symm, List.forall_mem_nil _, ?_⟩
        rw [hcons, hbyte]
        rfl
      next hzero =>
        split at hloop
        next => cases hloop
        next hfits =>
          have hstop : offset + 1 + query[offset].toNat ≤ query.length := by omega
          rw [copyOfRange_eq_ok (by omega) hstop, ok_bind] at hloop
          obtain ⟨name, hlabels, hname, hdrop⟩ := ih query[offset].toNat hfits
            (slice query (offset + 1) (offset + 1 + query[offset].toNat)) hloop
          have hlength : (slice query (offset + 1) (offset + 1 + query[offset].toNat)).length =
              query[offset].toNat := by
            rw [length_slice hstop]
            omega
          have hcontent : query.drop (offset + 1) =
              slice query (offset + 1) (offset + 1 + query[offset].toNat) ++
                (encodeName name ++ query.drop after) := by
            have hsplit := List.take_append_drop query[offset].toNat (query.drop (offset + 1))
            rw [List.drop_drop] at hsplit
            rw [← hdrop, slice, List.drop_take, Nat.add_sub_cancel_left]
            exact hsplit.symm
          refine ⟨slice query (offset + 1) (offset + 1 + query[offset].toNat) :: name, ?_, ?_, ?_⟩
          · rw [hlabels, List.append_assoc, List.map_cons, List.singleton_append]
          · refine List.forall_mem_cons.mpr ⟨⟨?_, by omega⟩, hname⟩
            intro hnil
            rw [hnil, List.length_nil] at hlength
            exact hzero hlength.symm
          · rw [hcons, hcontent, encodeName_cons, vector_one, hlength, UInt8.ofNat_toNat,
              List.append_assoc, List.cons_append]
  | case2 offset found hlt =>
      rw [labelLoop, if_neg hlt] at hloop
      cases hloop
      exact absurd hafter hlt

end Labels

/-- The twelve bytes of a header. -/
structure HeaderBytes where
  id₀ : UInt8
  id₁ : UInt8
  flags₀ : UInt8
  flags₁ : UInt8
  qd₀ : UInt8
  qd₁ : UInt8
  an₀ : UInt8
  an₁ : UInt8
  ns₀ : UInt8
  ns₁ : UInt8
  ar₀ : UInt8
  ar₁ : UInt8

namespace HeaderBytes

/-- The header in front of the rest of a message. -/
def before (head : HeaderBytes) (rest : Bytes) : Bytes :=
  head.id₀ :: head.id₁ :: head.flags₀ :: head.flags₁ :: head.qd₀ :: head.qd₁ :: head.an₀ ::
    head.an₁ :: head.ns₀ :: head.ns₁ :: head.ar₀ :: head.ar₁ :: rest

theorem exists_before {message : Bytes} (hlength : 12 ≤ message.length) :
    ∃ head, message = before head (message.drop 12) := by
  match message, hlength with
  | id₀ :: id₁ :: flags₀ :: flags₁ :: qd₀ :: qd₁ :: an₀ :: an₁ :: ns₀ :: ns₁ :: ar₀ :: ar₁ :: _,
    _ => exact ⟨⟨id₀, id₁, flags₀, flags₁, qd₀, qd₁, an₀, an₁, ns₀, ns₁, ar₀, ar₁⟩, rfl⟩

theorem take_before (head : HeaderBytes) (rest : Bytes) (count : Nat) :
    (head.before rest).take (count + 12) = head.before (rest.take count) := rfl

theorem drop_before (head : HeaderBytes) (rest : Bytes) : (head.before rest).drop 12 = rest := rfl

/-- The header of the answer with `answers` records. -/
def answered (head : HeaderBytes) (answers : UInt8) : HeaderBytes :=
  { head with
    flags₀ := 0x80 ||| (head.flags₀ &&& 0x01), flags₁ := 0x80, an₀ := 0, an₁ := answers, ns₀ := 0
    ns₁ := 0, ar₀ := 0, ar₁ := 0 }

end HeaderBytes

/-- A header, a question of class IN and whatever follows. -/
def encodeQuery (head : HeaderBytes) (labels : List Bytes) (type tail : Bytes) : Bytes :=
  head.before (encodeName labels ++ (type ++ ([0, 1] ++ tail)))

/-- One standard question for an address. -/
structure Asks (head : HeaderBytes) (labels : List Bytes) (type : Bytes) : Prop where
  count : bigEndian [head.qd₀, head.qd₁] = 1
  opcode : head.flags₀ &&& 0x78 = 0
  isLabel : ∀ label ∈ labels, IsLabel label
  nonempty : labels ≠ []
  isType : type = [0, 1] ∨ type = [0, 28]

/-- The host that a question asks for. -/
def hostOf (platform : Platform) (labels : List Bytes) : Text :=
  platform.lowercase (List.intercalate ['.'] (labels.map decodeUsAscii))

/-- The records of an answer. -/
def recordsFor (type octets : Bytes) : Bytes := if type = [0, 1] then answerRecord octets else []

/-- The reply to a question with the address of the table. -/
def encodeAnswer (head : HeaderBytes) (labels : List Bytes) (type octets : Bytes) : Bytes :=
  (head.answered (if type = [0, 1] then 1 else 0)).before
    (encodeName labels ++ (type ++ ([0, 1] ++ recordsFor type octets)))

section Response

variable {platform : Platform} {getByName : Text → Except Exception InetAddress}
  {fixedAddressFor : Text → Option Text} {head : HeaderBytes} {labels : List Bytes}
  {type tail query answer : Bytes}

theorem Asks.length_type (hasks : Asks head labels type) : type.length = 2 := by
  rcases hasks.isType with rfl | rfl <;> rfl

theorem take_encodeQuery (htype : type.length = 2) :
    (encodeQuery head labels type tail).take (12 + (encodeName labels).length + 4) =
      head.before (encodeName labels ++ (type ++ [0, 1])) := by
  have hend : 12 + (encodeName labels).length + 4 =
      (encodeName labels ++ (type ++ [0, 1])).length + 12 := by
    rw [List.length_append, List.length_append, htype, List.length_cons, List.length_singleton]
    ring
  have hsplit : encodeName labels ++ (type ++ ([0, 1] ++ tail)) =
      (encodeName labels ++ (type ++ [0, 1])) ++ tail := by
    simp only [List.append_assoc]
  rw [encodeQuery, hend, HeaderBytes.take_before, hsplit, List.take_left]

theorem encodeResponse_eq (hasks : Asks head labels type) (octets : Bytes) :
    encodeResponse (encodeQuery head labels type tail) head.flags₀
      (12 + (encodeName labels).length + 4) (bigEndian type) octets =
      encodeAnswer head labels type octets := by
  have hset : ∀ (rest : Bytes) (answers : UInt8),
      ((head.before rest).set 2 (0x80 ||| (head.flags₀ &&& 0x01)) |>.set 3 0x80 |>.set 6 0
        |>.set 7 answers |>.set 8 0 |>.set 9 0 |>.set 10 0 |>.set 11 0) =
        (head.answered answers).before rest := fun _ _ => rfl
  have hbefore : ∀ (answers : UInt8) (rest records : Bytes),
      (head.answered answers).before rest ++ records =
        (head.answered answers).before (rest ++ records) := fun _ _ _ => rfl
  have hkind : (bigEndian type = TYPE_A) = (type = [0, 1]) := by
    rcases hasks.isType with rfl | rfl <;> decide
  rw [encodeResponse, take_encodeQuery hasks.length_type, encodeAnswer, recordsFor]
  simp only [hkind, hset, hbefore, List.append_assoc]

/-- What a question is answered with, once its host has been looked up. -/
def answerTo (getByName : Text → Except Exception InetAddress) (head : HeaderBytes)
    (labels : List Bytes) (type : Bytes) (found : Option Text) : Option Bytes :=
  match found.map getByName with
  | some (.ok (.inet4 octets)) => some (encodeAnswer head labels type octets)
  | _ => none

/-- A question is looked up once, and answered with the address that is found. -/
theorem responseIn_encodeQuery {m : Type → Type} [Monad m] [MonadLiftT (Except Exception) m]
    (hlift : ∀ {α β : Type} (value : α) (rest : α → m β),
      (liftM (Except.ok value : Except Exception α) >>= rest) = rest value)
    {lookup : Text → m (Option Text)} (hasks : Asks head labels type) :
    responseIn platform getByName (encodeQuery head labels type tail) lookup =
      lookup (hostOf platform labels) >>= fun found =>
        pure (answerTo getByName head labels type found) := by
  have hname : (encodeQuery head labels type tail).drop 12 =
      encodeName labels ++ (type ++ ([0, 1] ++ tail)) := rfl
  have htype := drop_behind hname rfl
  have hclass := drop_behind htype hasks.length_type
  have hlength : 12 + (encodeName labels).length + 4 ≤
      (encodeQuery head labels type tail).length := by
    have hlengths := congrArg List.length hname
    simp only [List.length_drop, List.length_append, hasks.length_type, List.length_cons,
      List.length_nil] at hlengths
    omega
  have hcount : u16 (encodeQuery head labels type tail) 4 = .ok (bigEndian [head.qd₀, head.qd₁]) :=
    u16_of_drop rfl
  have hflags : byteAt (encodeQuery head labels type tail) 2 = .ok head.flags₀ := rfl
  have htypeRead : u16 (encodeQuery head labels type tail) (12 + (encodeName labels).length) =
      .ok (bigEndian type) := by
    rcases hasks.isType with rfl | rfl
    · exact u16_of_drop htype
    · exact u16_of_drop htype
  have hclassRead : u16 (encodeQuery head labels type tail) (12 + (encodeName labels).length + 2) =
      .ok CLASS_IN := u16_of_drop hclass
  have hkind : ¬ (CLASS_IN ≠ CLASS_IN ∨ bigEndian type ∉ [TYPE_A, TYPE_AAAA]) := by
    rcases hasks.isType with rfl | rfl <;> decide
  rw [responseIn, if_neg (by unfold HEADER_SIZE; omega), hcount, hlift, hasks.count,
    if_neg (not_not_intro rfl), hflags, hlift, hasks.opcode, if_neg (not_not_intro rfl),
    HEADER_SIZE, labelLoop_of_name hasks.isLabel hname, hlift]
  dsimp only
  rw [List.nil_append, if_neg (by simp [hasks.nonempty]; omega), htypeRead, hlift, hclassRead,
    hlift, if_neg hkind, hostOf]
  simp only [encodeResponse_eq hasks]
  refine congrArg _ (funext fun found => ?_)
  rw [answerTo]
  rcases found.map getByName with _ | error | octets | octets
  all_goals rfl

theorem response_encodeQuery (hasks : Asks head labels type) :
    response platform getByName (encodeQuery head labels type tail) fixedAddressFor =
      match (fixedAddressFor (hostOf platform labels)).map getByName with
      | some (.ok (.inet4 octets)) => .ok (some (encodeAnswer head labels type octets))
      | _ => .ok none := by
  rw [← responseIn_pure, responseIn_encodeQuery ok_bind hasks, ok_bind, answerTo]
  rcases (fixedAddressFor (hostOf platform labels)).map getByName with _ | error | octets | octets
  all_goals rfl

theorem exists_four {bytes : Bytes} {offset : Nat} (hfits : ¬ offset + 4 > bytes.length) :
    ∃ a b c d rest, bytes.drop offset = a :: b :: c :: d :: rest := by
  have hlength : 4 ≤ (bytes.drop offset).length := by
    rw [List.length_drop]
    omega
  match hdrop : bytes.drop offset, hlength with
  | a :: b :: c :: d :: rest, _ => exact ⟨a, b, c, d, rest, rfl⟩

/-- Nothing else is answered. -/
theorem response_eq_some
    (hresponse : response platform getByName query fixedAddressFor = .ok (some answer)) :
    ∃ head labels type tail, query = encodeQuery head labels type tail ∧
      Asks head labels type := by
  unfold response at hresponse
  split at hresponse
  next => cases hresponse
  next hlength =>
    unfold HEADER_SIZE at hlength
    obtain ⟨head, hquery⟩ := HeaderBytes.exists_before (Nat.le_of_not_lt hlength)
    generalize query.drop 12 = rest at hquery
    subst hquery
    have hcount : u16 (head.before rest) 4 = .ok (bigEndian [head.qd₀, head.qd₁]) :=
      u16_of_drop rfl
    have hflags : byteAt (head.before rest) 2 = .ok head.flags₀ := rfl
    rw [hcount, ok_bind] at hresponse
    split at hresponse
    next => cases hresponse
    next hone =>
      rw [hflags, ok_bind] at hresponse
      split at hresponse
      next => cases hresponse
      next hopcode =>
        obtain ⟨found, hfound⟩ := labelLoop_returns (head.before rest) HEADER_SIZE []
        rw [hfound, ok_bind] at hresponse
        split at hresponse
        next => cases hresponse
        next labels after =>
          split at hresponse
          next => cases hresponse
          next hquestion =>
            rw [not_or] at hquestion
            obtain ⟨hnonempty, hfits⟩ := hquestion
            obtain ⟨name, hlabels, hname, hdrop⟩ := labelLoop_eq_some hfound (by omega)
            obtain ⟨type₀, type₁, class₀, class₁, tail, hbehind⟩ := exists_four hfits
            have hbehindType : (head.before rest).drop (after + 2) = class₀ :: class₁ :: tail := by
              rw [← List.drop_drop, hbehind]
              rfl
            rw [u16_of_drop hbehind, ok_bind, u16_of_drop hbehindType, ok_bind] at hresponse
            split at hresponse
            next => cases hresponse
            next hkind =>
              rw [not_or, not_not, not_not] at hkind
              obtain ⟨hin, htype⟩ := hkind
              have hinBytes : [class₀, class₁] = [0, 1] := eq_of_bigEndian rfl hin
              have htypeBytes : [type₀, type₁] = [0, 1] ∨ [type₀, type₁] = [0, 28] := by
                rcases List.mem_cons.mp htype with ha | haaaa
                · exact Or.inl (eq_of_bigEndian rfl ha)
                · exact Or.inr (eq_of_bigEndian rfl (List.mem_singleton.mp haaaa))
              refine ⟨head, name, [type₀, type₁], tail, ?_, ?_⟩
              · rw [encodeQuery, ← hinBytes]
                exact congrArg head.before (hdrop.trans (congrArg _ hbehind))
              · refine ⟨not_not.mp hone, not_not.mp hopcode, hname, ?_, htypeBytes⟩
                rintro rfl
                exact hnonempty hlabels

/-! ## What a reader finds -/

/-- The first byte of the flags keeps nothing but the recursion bit. -/
theorem answered_flags (flags : UInt8) :
    bigEndian [0x80 ||| (flags &&& 0x01), 0x80] =
      if flags.toNat % 2 = 1 then 0x8180 else 0x8080 := by
  have hbit : (flags &&& 0x01).toNat = flags.toNat % 2 := by
    rw [UInt8.toNat_and]
    exact Nat.and_one_is_mod _
  have hfirst : (0x80 ||| (flags &&& 0x01)).toNat = 128 ||| flags.toNat % 2 := by
    rw [UInt8.toNat_or, hbit]
    rfl
  simp only [bigEndian, List.foldl_cons, List.foldl_nil, hfirst]
  rcases Nat.mod_two_eq_zero_or_one flags.toNat with heven | hodd
  · rw [heven]
    rfl
  · rw [hodd]
    rfl

theorem testBit_recursion (flags₀ flags₁ : UInt8) :
    (bigEndian [flags₀, flags₁]).testBit 8 = decide (flags₀.toNat % 2 = 1) := by
  have hlow := flags₁.toNat_lt
  have hdiv : (flags₀.toNat * 256 + flags₁.toNat) / 2 ^ 8 = flags₀.toNat := by omega
  simp only [Nat.testBit_eq_decide_div_mod_eq, bigEndian, List.foldl_cons, List.foldl_nil,
    Nat.zero_mul, Nat.zero_add, hdiv]

/-- The header of an answer, read beside the header of the query. -/
theorem headerAt_answered {header : Header} (rest rest' : Bytes) (answers : UInt8)
    (hheader : headerAt (head.before rest) = some header) :
    headerAt ((head.answered answers).before rest') = some { header with
      qr := true, opcode := 0, aa := false, tc := false, ra := true, z := 0, rcode := 0
      ancount := answers.toNat, nscount := 0, arcount := 0 } := by
  rw [HeaderBytes.before, headerAt_cons, Option.some.injEq] at hheader
  rw [← hheader, HeaderBytes.before, headerAt_cons]
  dsimp only [HeaderBytes.answered]
  rw [testBit_recursion head.flags₀ head.flags₁, answered_flags]
  have hnumber : bigEndian [0, answers] = answers.toNat := by simp [bigEndian]
  by_cases hodd : head.flags₀.toNat % 2 = 1
  · rw [if_pos hodd, decide_eq_true hodd, hnumber]
    rfl
  · rw [if_neg hodd, decide_eq_false hodd, hnumber]
    rfl

theorem Asks.qdcount (hasks : Asks head labels type) {header : Header} {rest : Bytes}
    (hheader : headerAt (head.before rest) = some header) : header.qdcount = 1 := by
  rw [HeaderBytes.before, headerAt_cons, Option.some.injEq] at hheader
  rw [← hheader]
  exact hasks.count

/-- Where the question of a query ends. -/
def questionEndOf (labels : List Bytes) : Nat := 12 + (encodeName labels).length + 4

theorem questionAt_encode (hasks : Asks head labels type) {message rest : Bytes}
    (hdrop : message.drop 12 = encodeName labels ++ (type ++ ([0, 1] ++ rest))) :
    questionAt message 12 = some (⟨labels, bigEndian type, 1⟩, questionEndOf labels) :=
  questionAt_drop hasks.isLabel hdrop hasks.length_type rfl

/-- The record of an answer is owned by the name of the question. -/
theorem recordAt_answer (hlabels : ∀ label ∈ labels, IsLabel label) {message octets : Bytes}
    {question : Bytes} (hoctets : octets.length = 4)
    (hname : message.drop 12 = encodeName labels ++ question)
    (hdrop : message.drop (questionEndOf labels) = answerRecord octets) :
    recordAt message (questionEndOf labels) =
      some (⟨labels, 1, 1, 60, octets⟩, questionEndOf labels + 16) := by
  have hpointer : message.drop (questionEndOf labels) = 0xc0 :: 0x0c ::
      ([0, 1] ++ ([0, 1] ++ ([0, 0, 0, 60] ++ ([0, 4] ++ (octets ++ []))))) := by
    rw [hdrop, List.append_nil]
    rfl
  have hafter : message.drop (questionEndOf labels + 2) =
      [0, 1] ++ ([0, 1] ++ ([0, 0, 0, 60] ++ ([0, 4] ++ (octets ++ [])))) := by
    rw [← List.drop_drop, hpointer]
    rfl
  have hbound : 12 < questionEndOf labels := by
    unfold questionEndOf
    omega
  have howner : nameAt message (questionEndOf labels) (questionEndOf labels) =
      some (labels, questionEndOf labels + 2) :=
    nameAt_pointer hpointer (by decide) hbound (nameAt_encodeName hlabels hname)
  rw [recordAt_drop howner hafter rfl rfl rfl rfl hoctets.symm, hoctets]
  rfl

/-- An answer is a reply to the question with the address of the table, or with no
address where an IPv6 one was asked for. -/
theorem decode_encodeAnswer (hasks : Asks head labels type) {header : Header} {octets : Bytes}
    (hoctets : octets.length = 4) (hheader : headerAt (head.before tail) = some header) :
    decode (encodeAnswer head labels type octets) = some
      { header := { header with
          qr := true, opcode := 0, aa := false, tc := false, ra := true, z := 0, rcode := 0
          ancount := if bigEndian type = 1 then 1 else 0, nscount := 0, arcount := 0 }
        questions := [⟨labels, bigEndian type, 1⟩]
        answers := if bigEndian type = 1 then [⟨labels, 1, 1, 60, octets⟩] else []
        authorities := []
        additionals := [] } := by
  have hqdcount := hasks.qdcount hheader
  have hname : (encodeAnswer head labels type octets).drop 12 =
      encodeName labels ++ (type ++ ([0, 1] ++ recordsFor type octets)) := rfl
  have hquestion := questionAt_encode hasks hname
  have htype := drop_behind hname rfl
  have hclass := drop_behind htype hasks.length_type
  have hbehind := drop_behind hclass rfl
  have hrecords : (encodeAnswer head labels type octets).drop (questionEndOf labels) =
      recordsFor type octets := hbehind
  have hlength : (encodeAnswer head labels type octets).length =
      questionEndOf labels + (recordsFor type octets).length := by
    have hlengths := congrArg List.length hname
    simp only [List.length_drop, List.length_append, hasks.length_type, List.length_cons,
      List.length_nil] at hlengths
    unfold questionEndOf
    omega
  rcases hasks.isType with rfl | rfl
  · -- one record behind the question
    have hkind : bigEndian [0, 1] = 1 := rfl
    have hanswered : headerAt (encodeAnswer head labels [0, 1] octets) = _ :=
      headerAt_answered tail _ 1 hheader
    have hrecord := recordAt_answer hasks.isLabel hoctets hname hrecords
    rw [if_pos hkind, if_pos hkind]
    apply decode_of_sections hanswered
    · rw [hqdcount]
      exact entriesAt_one hquestion
    · exact entriesAt_one hrecord
    · rfl
    · rw [hlength, recordsFor, if_pos rfl, answerRecord, List.length_append, hoctets]
      rfl
  · have hkind : bigEndian [0, 28] ≠ 1 := by decide
    have hanswered : headerAt (encodeAnswer head labels [0, 28] octets) = _ :=
      headerAt_answered tail _ 0 hheader
    rw [if_neg hkind, if_neg hkind]
    apply decode_of_sections hanswered
    · rw [hqdcount]
      exact entriesAt_one hquestion
    · rfl
    · rfl
    · rw [hlength]
      rfl

/-- The text of an IPv4 address. -/
def dottedQuad (octets : Bytes) : Text :=
  List.intercalate ['.'] (octets.map fun octet => (toString octet.toNat).toList)

end Response

/-- Every answer is, to any reader of DNS messages, a reply to exactly the question of
the query, with the address that the lookup gave for its host. What follows the
question in the query makes no difference. -/
theorem response_wellFormed (platform : Platform)
    (getByName : Text → Except Exception InetAddress) (fixedAddressFor : Text → Option Text)
    (query answer : Bytes)
    (hliteral : ∀ host text, fixedAddressFor host = some text →
      ∃ octets, text = dottedQuad octets.val ∧ getByName text = .ok (.inet4 octets))
    (hresponse : response platform getByName query fixedAddressFor = .ok (some answer)) :
    ∃ header question questionEnd octets,
      headerAt query = some header ∧ header.qdcount = 1 ∧
      questionAt query 12 = some (question, questionEnd) ∧
      (question.type = 1 ∨ question.type = 28) ∧ question.qclass = 1 ∧
      slice answer 12 questionEnd = slice query 12 questionEnd ∧
      fixedAddressFor (hostOf platform question.name) = some (dottedQuad octets) ∧
      decode answer = some
        { header := { header with
            qr := true, opcode := 0, aa := false, tc := false, ra := true, z := 0, rcode := 0
            ancount := if question.type = 1 then 1 else 0, nscount := 0, arcount := 0 }
          questions := [question]
          answers := if question.type = 1 then [⟨question.name, 1, 1, 60, octets⟩] else []
          authorities := []
          additionals := [] } ∧
      ∀ tail, response platform getByName (query.take questionEnd ++ tail) fixedAddressFor =
        .ok (some answer) := by
  obtain ⟨head, labels, type, tail, rfl, hasks⟩ := response_eq_some hresponse
  have hreply := hresponse
  rw [response_encodeQuery hasks] at hreply
  split at hreply
  next octets haddress =>
    cases hreply
    obtain ⟨text, hlookup, hread⟩ := Option.map_eq_some_iff.mp haddress
    obtain ⟨octets', rfl, hliteral'⟩ := hliteral _ _ hlookup
    have hsame : octets' = octets := by
      rw [hliteral'] at hread
      cases hread
      rfl
    subst hsame
    obtain ⟨header, hheader⟩ : ∃ header,
        headerAt (encodeQuery head labels type tail) = some header := ⟨_, headerAt_cons⟩
    refine ⟨header, ⟨labels, bigEndian type, 1⟩, questionEndOf labels, octets', hheader,
      hasks.qdcount hheader, questionAt_encode hasks rfl, ?_, rfl, ?_, hlookup,
      decode_encodeAnswer hasks octets'.property hheader, fun tail' => ?_⟩
    · rcases hasks.isType with rfl | rfl
      · exact Or.inl rfl
      · exact Or.inr rfl
    · -- both messages are a header and the question, up to the end of the question
      have hquery := @take_encodeQuery head labels type tail hasks.length_type
      have hanswer := @take_encodeQuery (head.answered (if type = [0, 1] then 1 else 0)) labels type
        (recordsFor type octets'.val) hasks.length_type
      rw [slice, slice, questionEndOf, hquery, HeaderBytes.drop_before]
      exact congrArg (List.drop 12) hanswer
    · have hsplit : (encodeQuery head labels type tail).take (questionEndOf labels) ++ tail' =
          encodeQuery head labels type tail' := by
        rw [questionEndOf, take_encodeQuery hasks.length_type, encodeQuery]
        simp only [HeaderBytes.before, List.cons_append, List.append_assoc]
      rw [hsplit, response_encodeQuery hasks, haddress]
  next => cases hreply

/-- A query for the address of `a`, with an additional record that nobody reads. -/
def shortQuery : Bytes :=
  [0x12, 0x34, 1, 0, 0, 1, 0, 0, 0, 0, 0, 1, 1, 97, 0, 0, 1, 0, 1, 0, 0, 41, 0, 0, 0, 0, 0, 0, 0, 0]

/-- It is answered with the address of the table. -/
theorem response_wellFormed_short :
    ∃ answer message, response .ascii
        (fun text => if text = dottedQuad [127, 0, 0, 1] then .ok .loopback
          else .error { kind := .unknownHost })
        shortQuery (fun _ => some (dottedQuad [127, 0, 0, 1])) = .ok (some answer) ∧
      decode answer = some message ∧ message.questions.length = 1 := by
  let getByName : Text → Except Exception InetAddress := fun text =>
    if text = dottedQuad [127, 0, 0, 1] then .ok .loopback else .error { kind := .unknownHost }
  have hresponse : response .ascii getByName shortQuery
      (fun _ => some (dottedQuad [127, 0, 0, 1])) =
      .ok (some [0x12, 0x34, 0x81, 0x80, 0, 1, 0, 1, 0, 0, 0, 0, 1, 97, 0, 0, 1, 0, 1, 0xc0, 0x0c, 0,
        1, 0, 1, 0, 0, 0, 60, 0, 4, 127, 0, 0, 1]) := by decide +kernel
  obtain ⟨_, _, _, _, _, _, _, _, _, _, _, hdecode, _⟩ := response_wellFormed .ascii getByName
    (fun _ => some (dottedQuad [127, 0, 0, 1])) shortQuery _ (fun _ text htext => by
      obtain rfl := Option.some.inj htext
      exact ⟨_, rfl, if_pos rfl⟩) hresponse
  exact ⟨_, _, hresponse, hdecode, rfl⟩

end AIUnblock.DnsOverride
