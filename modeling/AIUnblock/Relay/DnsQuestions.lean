import AIUnblock.Relay.DnsAnswers

/-! # The queries that `DnsOverride` answers

Every message that asks one question for an address of a recorded name is answered:
queries, but replies as well, and names that are too long for the wire.
-/

namespace AIUnblock.DnsOverride

open LengthPrefixed DnsMessage

section Acceptance

variable {platform : Platform} {getByName : Text → Except Exception InetAddress}
  {fixedAddressFor : Text → Option Text} {head head' : HeaderBytes} {labels labels' : List Bytes}
  {type type' tail tail' query : Bytes}

/-- `response` is not `null`. -/
def Answers (platform : Platform) (getByName : Text → Except Exception InetAddress)
    (query : Bytes) (fixedAddressFor : Text → Option Text) : Prop :=
  ∃ answer, response platform getByName query fixedAddressFor = .ok (some answer)

/-- The host has a fixed address that is an IPv4 one. -/
def HasAddress (getByName : Text → Except Exception InetAddress)
    (fixedAddressFor : Text → Option Text) (host : Text) : Prop :=
  ∃ text octets, fixedAddressFor host = some text ∧ getByName text = .ok (.inet4 octets)

theorem answers_encodeQuery (hasks : Asks head labels type) :
    Answers platform getByName (encodeQuery head labels type tail) fixedAddressFor ↔
      HasAddress getByName fixedAddressFor (hostOf platform labels) := by
  rw [Answers, response_encodeQuery hasks]
  constructor
  · rintro ⟨answer, hanswer⟩
    split at hanswer
    next octets haddress =>
      obtain ⟨text, hlookup, hread⟩ := Option.map_eq_some_iff.mp haddress
      exact ⟨text, octets, hlookup, hread⟩
    next => cases hanswer
  · rintro ⟨text, octets, hlookup, hread⟩
    rw [hlookup, Option.map_some, hread]
    exact ⟨_, rfl⟩

/-- A message asks at most one question. -/
theorem encodeQuery_inj (hasks : Asks head labels type) (hasks' : Asks head' labels' type')
    (heq : encodeQuery head labels type tail = encodeQuery head' labels' type' tail') :
    head = head' ∧ labels = labels' := by
  constructor
  · simp only [encodeQuery, HeaderBytes.before, List.cons.injEq] at heq
    cases head
    cases head'
    simp_all
  · have hname : nameAt (encodeQuery head labels type tail) 12 12 = some (labels, _) :=
      nameAt_encodeName hasks.isLabel rfl
    rw [heq, @nameAt_encodeName _ _ 12 12 labels' hasks'.isLabel rfl] at hname
    exact (congrArg Prod.fst (Option.some.inj hname)).symm

/-- A standard query for an address: no reply, and a name that fits the wire. -/
def IsStandardQuery (query : Bytes) (labels : List Bytes) : Prop :=
  ∃ head type tail, query = encodeQuery head labels type tail ∧ Asks head labels type ∧
    head.flags₀ &&& 0x80 = 0 ∧ (encodeName labels).length ≤ 255

theorem isStandardQuery_encodeQuery (hasks : Asks head labels type) :
    IsStandardQuery (encodeQuery head labels type tail) labels' ↔
      labels' = labels ∧ head.flags₀ &&& 0x80 = 0 ∧ (encodeName labels).length ≤ 255 := by
  constructor
  · rintro ⟨other, type', tail', heq, hasks', hflags, hlength⟩
    obtain ⟨rfl, rfl⟩ := encodeQuery_inj hasks hasks' heq
    exact ⟨rfl, hflags, hlength⟩
  · rintro ⟨rfl, hflags, hlength⟩
    exact ⟨head, type, tail, rfl, hasks, hflags, hlength⟩

end Acceptance

/-- The override answers exactly the standard queries for recorded names as long as
the message is no reply and its name is not too long. -/
theorem response_standard_iff (platform : Platform)
    (getByName : Text → Except Exception InetAddress) (fixedAddressFor : Text → Option Text)
    (query : Bytes)
    (hliteral : ∀ host text, fixedAddressFor host = some text →
      ∃ octets, text = dottedQuad octets.val ∧ getByName text = .ok (.inet4 octets)) :
    (Answers platform getByName query fixedAddressFor ↔
        ∃ labels, IsStandardQuery query labels ∧
          fixedAddressFor (hostOf platform labels) ≠ none) ↔
      ∀ head labels type tail, query = encodeQuery head labels type tail →
        Asks head labels type → fixedAddressFor (hostOf platform labels) ≠ none →
        head.flags₀ &&& 0x80 = 0 ∧ (encodeName labels).length ≤ 255 := by
  have hrecorded : ∀ host, HasAddress getByName fixedAddressFor host ↔
      fixedAddressFor host ≠ none := by
    intro host
    rw [Option.ne_none_iff_exists']
    constructor
    · exact fun ⟨text, _, htext, _⟩ => ⟨text, htext⟩
    · rintro ⟨text, htext⟩
      obtain ⟨octets, _, hread⟩ := hliteral host text htext
      exact ⟨text, octets, htext, hread⟩
  constructor
  · rintro hexact head labels type tail rfl hasks hknown
    have hanswers : Answers platform getByName (encodeQuery head labels type tail)
        fixedAddressFor := (answers_encodeQuery hasks).mpr ((hrecorded _).mpr hknown)
    obtain ⟨labels', hstandard, _⟩ := hexact.mp hanswers
    exact ((isStandardQuery_encodeQuery hasks).mp hstandard).2
  · intro hmeets
    constructor
    · rintro ⟨answer, hanswer⟩
      obtain ⟨head, labels, type, tail, rfl, hasks⟩ := response_eq_some hanswer
      have hknown := (hrecorded _).mp ((answers_encodeQuery hasks).mp ⟨answer, hanswer⟩)
      obtain ⟨hflags, hlength⟩ := hmeets head labels type tail rfl hasks hknown
      exact ⟨labels, ⟨head, type, tail, rfl, hasks, hflags, hlength⟩, hknown⟩
    · rintro ⟨labels, ⟨head, type, tail, rfl, hasks, _, _⟩, hknown⟩
      exact (answers_encodeQuery hasks).mpr ((hrecorded _).mpr hknown)

/-! ## A query and a reply -/

/-- Reads one literal. -/
def readLoopback (text : Text) : Except Exception InetAddress :=
  if text = dottedQuad [127, 0, 0, 1] then .ok .loopback else .error { kind := .unknownHost }

/-- Every host has that address. -/
def everyLoopback (_ : Text) : Option Text := some (dottedQuad [127, 0, 0, 1])

theorem everyLoopback_literal (host text : Text) (htext : everyLoopback host = some text) :
    ∃ octets, text = dottedQuad octets.val ∧ readLoopback text = .ok (.inet4 octets) := by
  obtain rfl := Option.some.inj htext
  exact ⟨_, rfl, if_pos rfl⟩

/-- The header of a question, in a query or in a reply. -/
def questionHeader (flags : UInt8) : HeaderBytes := ⟨0x12, 0x34, flags, 0, 0, 1, 0, 0, 0, 0, 0, 0⟩

theorem asks_questionHeader {flags : UInt8} {labels : List Bytes} (hopcode : flags &&& 0x78 = 0)
    (hlabels : ∀ label ∈ labels, IsLabel label) (hne : labels ≠ []) :
    Asks (questionHeader flags) labels [0, 1] := by
  have hcount : bigEndian [0, 1] = 1 := rfl
  exact ⟨hcount, hopcode, hlabels, hne, Or.inl rfl⟩

theorem isLabel_a : ∀ label ∈ [([97] : Bytes)], IsLabel label := by
  intro label hlabel
  rw [List.mem_singleton.mp hlabel]
  exact ⟨List.cons_ne_nil _ _, by simp⟩

/-- A query is answered, and it is a standard query. -/
theorem response_standard_query :
    Answers .ascii readLoopback (encodeQuery (questionHeader 1) [[97]] [0, 1] []) everyLoopback ↔
      ∃ labels, IsStandardQuery (encodeQuery (questionHeader 1) [[97]] [0, 1] []) labels ∧
        everyLoopback (hostOf .ascii labels) ≠ none := by
  have hquery : Asks (questionHeader 1) [[97]] [0, 1] :=
    asks_questionHeader rfl isLabel_a (List.cons_ne_nil _ _)
  apply (response_standard_iff .ascii readLoopback everyLoopback _ everyLoopback_literal).mpr
  intro head labels type tail heq hasks _
  obtain ⟨rfl, rfl⟩ := encodeQuery_inj hquery hasks heq
  exact ⟨rfl, by decide⟩

/-- The reply to that query is answered as well. -/
theorem reply_answered :
    (∀ host text, everyLoopback host = some text →
      ∃ octets, text = dottedQuad octets.val ∧ readLoopback text = .ok (.inet4 octets)) ∧
    ¬ (Answers .ascii readLoopback (encodeQuery (questionHeader 0x81) [[97]] [0, 1] [])
        everyLoopback ↔
      ∃ labels, IsStandardQuery (encodeQuery (questionHeader 0x81) [[97]] [0, 1] []) labels ∧
        everyLoopback (hostOf .ascii labels) ≠ none) := by
  have hreply : Asks (questionHeader 0x81) [[97]] [0, 1] :=
    asks_questionHeader rfl isLabel_a (List.cons_ne_nil _ _)
  refine ⟨everyLoopback_literal, fun hexact => ?_⟩
  obtain ⟨labels, hstandard, _⟩ := hexact.mp <|
    (answers_encodeQuery hreply).mpr ⟨_, _, rfl, if_pos rfl⟩
  have hflags := ((isStandardQuery_encodeQuery hreply).mp hstandard).2.1
  exact absurd hflags (by decide)

end AIUnblock.DnsOverride
