import AIUnblock.Foundation.Separators
import AIUnblock.Relay.DnsQuestions
import AIUnblock.Routing.PointRecords

/-! # The names that `DnsOverride` looks up

A name passes through decoding, joining, lower-casing and trimming before its record
is looked up. On the way a dot inside a label turns into one between labels, a byte
outside US-ASCII into a fixed character, and blanks and dots at the ends go away. So
the record of a name may belong to other labels.
-/

namespace AIUnblock.DnsOverride

open DnsMessage GeoHideRoutingRules

/-! ## Labels and keys -/

/-- Letters of US-ASCII in lower case. -/
def lowerByte (byte : UInt8) : UInt8 := if 65 ≤ byte ∧ byte ≤ 90 then byte + 32 else byte

/-- The labels differ in letter case at most. -/
def SameLabels (labels labels' : List Bytes) : Prop :=
  labels.map (List.map lowerByte) = labels'.map (List.map lowerByte)

def IsAsciiName (labels : List Bytes) : Prop := ∀ label ∈ labels, ∀ byte ∈ label, byte.toNat < 128

/-- No label contains a dot. -/
def IsDotFree (labels : List Bytes) : Prop := ∀ label ∈ labels, (46 : UInt8) ∉ label

/-- What decoding and lower-casing make of the labels. -/
def lowerLabels (labels : List Bytes) : List Text :=
  labels.map fun label => (decodeUsAscii label).map Char.toLower

/-- The labels are the parts of the key between its dots, up to letter case. -/
def SpelledBy (labels : List Bytes) (key : Text) : Prop :=
  IsAsciiName labels ∧ lowerLabels labels = (key.splitOn '.').map (List.map Char.toLower)

/-- What the record of a name is looked up with. -/
def recordName (platform : Platform) (labels : List Bytes) : Text :=
  normalizeHost platform (hostOf platform labels)

section Bytes

/-- A decidable property of all bytes. -/
theorem forall_byte {P : UInt8 → Prop} (hall : ∀ n : Fin 256, P (UInt8.ofNat n)) (byte : UInt8) :
    P byte := by
  have hbyte := hall ⟨byte.toNat, byte.toNat_lt⟩
  rwa [UInt8.ofNat_toNat] at hbyte

theorem toLower_decode : ∀ byte : UInt8,
    Char.toLower (if byte.toNat < 128 then Char.ofNat byte.toNat else replacementChar) =
      if (lowerByte byte).toNat < 128 then Char.ofNat (lowerByte byte).toNat
      else replacementChar :=
  forall_byte (by decide +kernel)

theorem lowerByte_ascii : ∀ byte : UInt8, (lowerByte byte).toNat < 128 ↔ byte.toNat < 128 :=
  forall_byte (by decide +kernel)

theorem decode_eq_dot : ∀ byte : UInt8,
    (if byte.toNat < 128 then Char.ofNat byte.toNat else replacementChar) = '.' ↔ byte = 46 :=
  forall_byte (by decide +kernel)

theorem toLower_eq_dot (c : Char) : c.toLower = '.' ↔ c = '.' := by
  constructor
  · intro hlower
    unfold Char.toLower at hlower
    split at hlower
    next hupper =>
      -- a capital letter stays a letter
      have hval : c.val + 32 = 46 := congrArg Char.val hlower
      have hlarge : 65 ≤ c.val := hupper.1
      have hsmall : c.val ≤ 90 := hupper.2
      rw [← UInt32.toNat_inj, UInt32.toNat_add] at hval
      rw [UInt32.le_iff_toNat_le] at hlarge hsmall
      simp only [UInt32.reduceToNat] at hval hlarge hsmall
      omega
    next => exact hlower
  · rintro rfl
    rfl

theorem lower_decodeUsAscii (label : Bytes) :
    (decodeUsAscii label).map Char.toLower = decodeUsAscii (label.map lowerByte) := by
  rw [decodeUsAscii, decodeUsAscii, List.map_map, List.map_map]
  exact List.map_congr_left fun byte _ => toLower_decode byte

theorem dot_mem_decodeUsAscii {label : Bytes} :
    '.' ∈ decodeUsAscii label ↔ (46 : UInt8) ∈ label := by
  rw [decodeUsAscii, List.mem_map]
  simp only [decode_eq_dot, exists_eq_right]

theorem encode_decodeUsAscii {label : Bytes} (hascii : ∀ byte ∈ label, byte.toNat < 128) :
    (decodeUsAscii label).map (fun c => UInt8.ofNat c.toNat) = label := by
  rw [decodeUsAscii, List.map_map]
  conv_rhs => rw [← List.map_id label]
  apply List.map_congr_left
  intro byte hbyte
  have hlt := hascii byte hbyte
  simp only [Function.comp_apply, if_pos hlt, toNat_ofNat_ascii hlt, UInt8.ofNat_toNat, id]

end Bytes

section Labels

variable {platform : Platform} {labels labels' : List Bytes} {key : Text}

theorem hostOf_eq (platform : Platform) (labels : List Bytes) :
    hostOf platform labels = ['.'].intercalate (lowerLabels labels) := by
  have hwire : ∀ c ∈ ['.'].intercalate (labels.map decodeUsAscii), IsWireChar c := by
    intro c hmem
    rcases Separators.mem_intercalate hmem with rfl | ⟨part, hpart, hc⟩
    · exact Or.inl (by decide)
    · obtain ⟨label, _, rfl⟩ := List.mem_map.mp hpart
      exact isWireChar_of_mem_decodeUsAscii hc
  rw [hostOf, platform.lowercase_wire _ hwire, Separators.map_intercalate, List.map_map]
  rfl

theorem lowerLabels_dotFree :
    (∀ part ∈ lowerLabels labels, '.' ∉ part) ↔ IsDotFree labels := by
  have hdot : ∀ label : Bytes,
      '.' ∈ (decodeUsAscii label).map Char.toLower ↔ (46 : UInt8) ∈ label := by
    intro label
    rw [List.mem_map]
    simp only [toLower_eq_dot, exists_eq_right, dot_mem_decodeUsAscii]
  simp only [lowerLabels, List.forall_mem_map, hdot]
  rfl

/-- The labels of a name without dots in them are found again in the joined name. -/
theorem splitOn_hostOf (hne : labels ≠ []) (hfree : IsDotFree labels) :
    (hostOf platform labels).splitOn '.' = lowerLabels labels := by
  rw [hostOf_eq]
  apply List.splitOn_intercalate '.' (lowerLabels_dotFree.mpr hfree)
  rwa [lowerLabels, ne_eq, List.map_eq_nil_iff]

/-- A key spells the labels if it is the joined name, and no dot came from a label. -/
theorem spelledBy_iff (platform : Platform) (hne : labels ≠ []) :
    SpelledBy labels key ↔ IsAsciiName labels ∧ IsDotFree labels ∧
      key.map Char.toLower = hostOf platform labels := by
  have hsplit := Separators.splitOn_map toLower_eq_dot key
  constructor
  · rintro ⟨hascii, hparts⟩
    rw [← hsplit] at hparts
    refine ⟨hascii, ?_, ?_⟩
    · rw [← lowerLabels_dotFree, hparts]
      exact fun part hpart => Separators.not_mem_of_mem_splitOn hpart
    · rw [hostOf_eq, hparts, List.intercalate_splitOn]
  · rintro ⟨hascii, hfree, hkey⟩
    refine ⟨hascii, ?_⟩
    rw [← hsplit, hkey, splitOn_hostOf hne hfree]

theorem SameLabels.lowerLabels_eq (hsame : SameLabels labels labels') :
    lowerLabels labels = lowerLabels labels' := by
  have hdecode := congrArg (List.map decodeUsAscii) hsame
  rw [List.map_map, List.map_map] at hdecode
  simp only [lowerLabels, lower_decodeUsAscii]
  exact hdecode

theorem sameLabels_of_lowerLabels (hascii : IsAsciiName labels) (hascii' : IsAsciiName labels')
    (heq : lowerLabels labels = lowerLabels labels') : SameLabels labels labels' := by
  have hencode : ∀ names : List Bytes, IsAsciiName names →
      (lowerLabels names).map (List.map fun c => UInt8.ofNat c.toNat) =
        names.map (List.map lowerByte) := by
    intro names hnames
    rw [lowerLabels, List.map_map]
    apply List.map_congr_left
    intro label hlabel
    rw [Function.comp_apply, lower_decodeUsAscii, encode_decodeUsAscii]
    rw [List.forall_mem_map]
    exact fun byte hbyte => (lowerByte_ascii byte).mpr (hnames label hlabel byte hbyte)
  rw [SameLabels, ← hencode labels hascii, heq, hencode labels' hascii']

/-- For names of US-ASCII without dots in their labels, joining loses letter case only. -/
theorem sameLabels_iff (platform : Platform) (hne : labels ≠ []) (hne' : labels' ≠ [])
    (hascii : IsAsciiName labels) (hascii' : IsAsciiName labels') (hfree : IsDotFree labels)
    (hfree' : IsDotFree labels') :
    SameLabels labels labels' ↔ hostOf platform labels = hostOf platform labels' := by
  constructor
  · intro hsame
    rw [hostOf_eq, hostOf_eq, hsame.lowerLabels_eq]
  · intro heq
    apply sameLabels_of_lowerLabels hascii hascii'
    rw [← splitOn_hostOf hne hfree, heq, splitOn_hostOf hne' hfree']

end Labels

/-! ## Answers from records -/

/-- The keys of the point records. -/
def recordKeys (rules : GeoHideRoutingRules) : List Text := rules.fixedAddresses.map Prod.fst

/-- The name has a point record with an IPv4 address. -/
def HasRecord (getByName : Text → Except Exception InetAddress) (rules : GeoHideRoutingRules)
    (name : Text) : Prop :=
  HasAddress getByName (fun key => rules.fixedAddresses.lookup key) name

/-- Nothing but letter case is lost when the name is joined, and the joined name is a key
before it is trimmed. -/
def IsPlain (platform : Platform) (rules : GeoHideRoutingRules) (labels : List Bytes) : Prop :=
  IsAsciiName labels ∧ IsDotFree labels ∧
    ∃ key ∈ recordKeys rules, key.map Char.toLower = hostOf platform labels

theorem answers_fixedAddressFor {platform : Platform}
    {getByName : Text → Except Exception InetAddress} {rules : GeoHideRoutingRules}
    {head : HeaderBytes} {labels : List Bytes} {type tail : Bytes}
    (hasks : Asks head labels type) :
    Answers platform getByName (encodeQuery head labels type tail)
        (fixedAddressFor platform rules) ↔
      HasRecord getByName rules (recordName platform labels) :=
  answers_encodeQuery hasks

theorem isPlain_iff {platform : Platform} {rules : GeoHideRoutingRules} {labels : List Bytes}
    (hne : labels ≠ []) :
    (∃ key ∈ recordKeys rules, SpelledBy labels key) ↔ IsPlain platform rules labels := by
  simp only [spelledBy_iff platform hne, IsPlain]
  constructor
  · rintro ⟨key, hmem, hascii, hfree, hkey⟩
    exact ⟨hascii, hfree, key, hmem, hkey⟩
  · rintro ⟨hascii, hfree, key, hmem, hkey⟩
    exact ⟨key, hmem, hascii, hfree, hkey⟩

/-- Two queries are answered label by label, each from a key that spells its labels and
from one record only if their labels are the same, exactly when their names, as far as
there is a record for them, have neither bytes outside US-ASCII nor dots in a label, are
keys as they are joined, and agree before they are trimmed if they do afterwards. -/
theorem response_labels_iff (platform : Platform)
    (getByName : Text → Except Exception InetAddress) (rules : GeoHideRoutingRules)
    (head head' : HeaderBytes) (labels labels' : List Bytes) (type type' tail tail' : Bytes)
    (hasks : Asks head labels type) (hasks' : Asks head' labels' type') :
    ((Answers platform getByName (encodeQuery head labels type tail)
          (fixedAddressFor platform rules) →
        ∃ key ∈ recordKeys rules, SpelledBy labels key) ∧
      (Answers platform getByName (encodeQuery head' labels' type' tail')
          (fixedAddressFor platform rules) →
        ∃ key ∈ recordKeys rules, SpelledBy labels' key) ∧
      (Answers platform getByName (encodeQuery head labels type tail)
          (fixedAddressFor platform rules) →
        Answers platform getByName (encodeQuery head' labels' type' tail')
          (fixedAddressFor platform rules) →
        recordName platform labels = recordName platform labels' → SameLabels labels labels')) ↔
    ((HasRecord getByName rules (recordName platform labels) → IsPlain platform rules labels) ∧
      (HasRecord getByName rules (recordName platform labels') →
        IsPlain platform rules labels') ∧
      (HasRecord getByName rules (recordName platform labels) →
        recordName platform labels = recordName platform labels' →
        hostOf platform labels = hostOf platform labels')) := by
  simp only [answers_fixedAddressFor hasks, answers_fixedAddressFor hasks',
    @isPlain_iff platform rules labels hasks.nonempty,
    @isPlain_iff platform rules labels' hasks'.nonempty]
  refine and_congr_right fun hplain => and_congr_right fun hplain' => ?_
  have hsame : HasRecord getByName rules (recordName platform labels) →
      recordName platform labels = recordName platform labels' →
      (SameLabels labels labels' ↔ hostOf platform labels = hostOf platform labels') := by
    intro hrecord hname
    obtain ⟨hascii, hfree, _⟩ := hplain hrecord
    obtain ⟨hascii', hfree', _⟩ := hplain' (hname ▸ hrecord)
    exact sameLabels_iff platform hasks.nonempty hasks'.nonempty hascii hascii' hfree hfree'
  constructor
  · intro honly hrecord hname
    exact (hsame hrecord hname).mp (honly hrecord (hname ▸ hrecord) hname)
  · intro hagree hrecord _ hname
    exact (hsame hrecord hname).mpr (hagree hrecord hname)

/-- Reads the address of `oneRecord`. -/
def readOneRecord (text : Text) : Except Exception InetAddress :=
  if text = "45.155.204.190".toList then .ok (.inet4 ⟨[45, 155, 204, 190], rfl⟩)
  else .error { kind := .unknownHost }

/-- The labels `openai` and `com`. -/
def openaiLabels : List Bytes := [[111, 112, 101, 110, 97, 105], [99, 111, 109]]

/-- The labels `OpenAI` and `COM`. -/
def capitalLabels : List Bytes := [[79, 112, 101, 110, 65, 73], [67, 79, 77]]

/-- One label with a dot in it. -/
def dottedLabels : List Bytes := [[111, 112, 101, 110, 97, 105, 46, 99, 111, 109]]

theorem asks_openai {labels : List Bytes}
    (hlabels : labels ∈ [openaiLabels, capitalLabels, dottedLabels]) :
    Asks (questionHeader 1) labels [0, 1] := by
  have hshape : ∀ labels ∈ [openaiLabels, capitalLabels, dottedLabels],
      (∀ label ∈ labels, label ≠ [] ∧ label.length ≤ 63) ∧ labels ≠ [] := by decide
  obtain ⟨hisLabel, hne⟩ := hshape labels hlabels
  exact asks_questionHeader rfl hisLabel hne

/-- Letter case is the only difference between two queries that are answered alike. -/
theorem response_labels_capital :
    Answers .ascii readOneRecord (encodeQuery (questionHeader 1) openaiLabels [0, 1] [])
        (fixedAddressFor .ascii oneRecord) ∧
      Answers .ascii readOneRecord (encodeQuery (questionHeader 1) capitalLabels [0, 1] [])
        (fixedAddressFor .ascii oneRecord) ∧
      SameLabels openaiLabels capitalLabels := by
  have hplain : ∀ labels ∈ [openaiLabels, capitalLabels],
      (∀ label ∈ labels, ∀ byte ∈ label, byte.toNat < 128) ∧
        (∀ label ∈ labels, (46 : UInt8) ∉ label) ∧
        ∃ key ∈ recordKeys oneRecord, key.map Char.toLower = hostOf .ascii labels := by
    decide +kernel
  have hasks := asks_openai (List.mem_cons_self ..)
  have hasks' := asks_openai (List.mem_cons_of_mem openaiLabels (List.mem_cons_self ..))
  have hrecord : ∀ labels ∈ [openaiLabels, capitalLabels],
      HasRecord readOneRecord oneRecord (recordName .ascii labels) := by
    intro labels hlabels
    have hname : ∀ labels ∈ [openaiLabels, capitalLabels],
        oneRecord.fixedAddresses.lookup (recordName .ascii labels) =
          some "45.155.204.190".toList := by decide
    exact ⟨"45.155.204.190".toList, _, hname labels hlabels, if_pos rfl⟩
  have hanswers : ∀ labels ∈ [openaiLabels, capitalLabels],
      Answers .ascii readOneRecord (encodeQuery (questionHeader 1) labels [0, 1] [])
        (fixedAddressFor .ascii oneRecord) := by
    intro labels hlabels
    have hasks := asks_openai (List.mem_append_left [dottedLabels] hlabels)
    exact (answers_fixedAddressFor hasks).mpr (hrecord labels hlabels)
  have hsame := ((response_labels_iff .ascii readOneRecord oneRecord (questionHeader 1)
    (questionHeader 1) openaiLabels capitalLabels [0, 1] [0, 1] [] [] hasks hasks').mpr
    ⟨fun _ => hplain _ (by decide), fun _ => hplain _ (by decide), fun _ _ => by decide⟩).2.2
  have hopenai := hanswers openaiLabels (by decide)
  have hcapital := hanswers capitalLabels (by decide)
  exact ⟨hopenai, hcapital, hsame hopenai hcapital (by decide)⟩

/-- The dotted label is answered from the record of the two labels. -/
theorem dotted_label_answered :
    Asks (questionHeader 1) dottedLabels [0, 1] ∧
      Answers .ascii readOneRecord (encodeQuery (questionHeader 1) dottedLabels [0, 1] [])
        (fixedAddressFor .ascii oneRecord) ∧
      ¬ ∃ key ∈ recordKeys oneRecord, SpelledBy dottedLabels key := by
  have hasks : Asks (questionHeader 1) dottedLabels [0, 1] := asks_openai (by decide)
  refine ⟨hasks, (answers_fixedAddressFor hasks).mpr ?_, ?_⟩
  · exact ⟨"45.155.204.190".toList, _, by decide, if_pos rfl⟩
  · rw [@isPlain_iff .ascii oneRecord dottedLabels hasks.nonempty]
    rintro ⟨_, hfree, _⟩
    exact hfree _ (List.mem_cons_self ..) (by decide)

end AIUnblock.DnsOverride
