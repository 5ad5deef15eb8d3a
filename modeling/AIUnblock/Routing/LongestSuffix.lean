import AIUnblock.Routing.PointRecords

/-! # Longest-suffix matching

`targetFor` decides a host by the longest of its tails at label boundaries that one
of the tables has as a key. Other keys do not matter, and neither does a key of
`fixedAddresses` that is a supported domain as well.
-/

namespace AIUnblock

namespace GeoHideRoutingRules

/-- The name itself, or what follows one of its dots. -/
def IsTail (tail name : Text) : Prop := tail = name ∨ '.' :: tail <:+ name

/-- A key of one of the tables. -/
def IsKey (rules : GeoHideRoutingRules) (key : Text) : Prop :=
  key ∈ rules.fixedAddresses.map Prod.fst ∨ key ∈ rules.supportedDomains

/-- The longest tail of the name that is a key. -/
structure IsLongestKey (rules : GeoHideRoutingRules) (name key : Text) : Prop where
  isTail : IsTail key name
  isKey : rules.IsKey key
  longest : ∀ other, IsTail other name → rules.IsKey other → other.length ≤ key.length

/-- What the tables say about a key of theirs. -/
def targetOfKey (rules : GeoHideRoutingRules) (key : Text) : GeoHideTarget :=
  match rules.fixedAddresses.lookup key with
  | some address => .fixedAddress address
  | none => .automaticGateway

/-- The tables without one of their keys. -/
def without (rules : GeoHideRoutingRules) (key : Text) : GeoHideRoutingRules where
  supportedDomains := rules.supportedDomains.filter (· ≠ key)
  fixedAddresses := rules.fixedAddresses.filter fun entry => entry.1 ≠ key

section Tails

variable {rules : GeoHideRoutingRules} {name key : Text}

theorem isTail_iff {tail : Text} : IsTail tail name ↔ tail ∈ Separators.candidates '.' name :=
  Separators.mem_candidates.symm

theorem lookup_isSome_iff {entries : List (Text × Text)} :
    (entries.lookup key).isSome = true ↔ key ∈ entries.map Prod.fst := by
  rw [Option.isSome_iff_ne_none, ne_eq, List.lookup_eq_none_iff, List.mem_map]
  constructor
  · intro hfound
    by_contra hfree
    apply hfound
    rintro entry hmem
    rw [bne_iff_ne]
    rintro rfl
    exact hfree ⟨entry, hmem, rfl⟩
  · rintro ⟨entry, hmem, rfl⟩ hnone
    simpa using hnone entry hmem

theorem isListed_iff : rules.isListed key = true ↔ rules.IsKey key := by
  rw [isListed, Bool.or_eq_true, lookup_isSome_iff, List.contains_iff_mem, IsKey]

theorem listedSuffix_eq_some :
    listedSuffix rules name = some key ↔ IsLongestKey rules name key := by
  constructor
  · intro hlisted
    refine ⟨isTail_iff.mpr (List.mem_of_find?_eq_some hlisted),
      isListed_iff.mp (List.find?_some hlisted), ?_⟩
    intro other hother hkey
    exact Separators.length_le_of_find? hlisted (isTail_iff.mp hother) (isListed_iff.mpr hkey)
  · rintro ⟨htail, hkey, hlongest⟩
    cases hlisted : listedSuffix rules name with
    | none =>
        have hunlisted := List.find?_eq_none.mp hlisted key (isTail_iff.mp htail)
        exact absurd (isListed_iff.mpr hkey) hunlisted
    | some found =>
        have hmem := List.mem_of_find?_eq_some hlisted
        have hle := Separators.length_le_of_find? hlisted (isTail_iff.mp htail)
          (isListed_iff.mpr hkey)
        have hge := hlongest found (isTail_iff.mpr hmem) (isListed_iff.mp (List.find?_some hlisted))
        rw [Separators.eq_of_length_le (isTail_iff.mp htail) hmem hle hge]

theorem listedSuffix_eq_none :
    listedSuffix rules name = none ↔ ∀ tail, IsTail tail name → ¬ rules.IsKey tail := by
  rw [listedSuffix, List.find?_eq_none]
  simp only [isTail_iff, isListed_iff]

theorem targetOf_isKey (hkey : rules.IsKey key) :
    targetOf rules key = some (targetOfKey rules key) := by
  have hlisted := isListed_iff.mpr hkey
  rw [targetOf, targetOfKey]
  rw [isListed] at hlisted
  cases hlookup : rules.fixedAddresses.lookup key with
  | some address => rfl
  | none =>
      rw [hlookup] at hlisted
      exact if_pos (List.contains_iff_mem.mp hlisted)

theorem targetLoop_isLongestKey (hkey : IsLongestKey rules name key) :
    targetLoop rules name = some (targetOfKey rules key) := by
  rw [targetLoop_eq_listedSuffix, listedSuffix_eq_some.mpr hkey, Option.bind_some,
    targetOf_isKey hkey.isKey]

theorem targetLoop_eq_none :
    targetLoop rules name = none ↔ ∀ tail, IsTail tail name → ¬ rules.IsKey tail := by
  rw [← listedSuffix_eq_none]
  constructor
  · intro htarget
    cases hlisted : listedSuffix rules name with
    | none => rfl
    | some key =>
        rw [targetLoop_isLongestKey (listedSuffix_eq_some.mp hlisted)] at htarget
        contradiction
  · intro hlisted
    rw [targetLoop_eq_listedSuffix, hlisted, Option.bind_none]

/-- Tables that say the same about the tails of a name decide it alike. -/
theorem targetLoop_congr {rules' : GeoHideRoutingRules}
    (hsame : ∀ tail, IsTail tail name → targetOf rules tail = targetOf rules' tail) :
    targetLoop rules name = targetLoop rules' name := by
  have hfind : ∀ tails : List Text, (∀ tail ∈ tails, targetOf rules tail = targetOf rules' tail) →
      tails.findSome? (targetOf rules) = tails.findSome? (targetOf rules') := by
    intro tails htails
    induction tails with
    | nil => rfl
    | cons tail rest ih =>
        rw [List.forall_mem_cons] at htails
        rw [List.findSome?_cons, List.findSome?_cons, htails.1, ih htails.2]
  rw [targetLoop_eq, targetLoop_eq]
  exact hfind _ fun tail hmem => hsame tail (isTail_iff.mpr hmem)

theorem targetFor_nil {platform : Platform} {host : Text}
    (hnil : normalizeHost platform host = []) :
    targetFor platform rules (some host) = none := by
  simp [targetFor, normalizedHost?, Option.filter, hnil]

theorem targetFor_ne_nil {platform : Platform} {host : Text}
    (hne : normalizeHost platform host ≠ []) :
    targetFor platform rules (some host) = targetLoop rules (normalizeHost platform host) := by
  rw [targetFor, normalizedHost?_eq_some hne, Option.bind_some]

theorem targetFor_congr {platform : Platform} {rules' : GeoHideRoutingRules} {host : Text}
    (hsame : ∀ tail, IsTail tail (normalizeHost platform host) →
      targetOf rules tail = targetOf rules' tail) :
    targetFor platform rules (some host) = targetFor platform rules' (some host) := by
  by_cases hnil : normalizeHost platform host = []
  · rw [targetFor_nil hnil, targetFor_nil hnil]
  · rw [targetFor_ne_nil hnil, targetFor_ne_nil hnil, targetLoop_congr hsame]

theorem lookup_filter_ne {entries : List (Text × Text)} {tail : Text} (hne : tail ≠ key) :
    (entries.filter fun entry => entry.1 ≠ key).lookup tail = entries.lookup tail := by
  induction entries with
  | nil => rfl
  | cons entry entries ih =>
      by_cases hentry : entry.1 = key
      · have hother : (tail == entry.1) = false := by
          rw [hentry]
          exact beq_eq_false_iff_ne.mpr hne
        rw [List.filter_cons_of_neg (by simpa using hentry), ih, List.lookup_cons, hother]
      · rw [List.filter_cons_of_pos (by simpa using hentry), List.lookup_cons, List.lookup_cons, ih]

theorem targetOf_without {tail : Text} (hne : tail ≠ key) :
    targetOf (rules.without key) tail = targetOf rules tail := by
  have hmem : tail ∈ (rules.without key).supportedDomains ↔ tail ∈ rules.supportedDomains := by
    simp [without, hne]
  simp only [targetOf, without, lookup_filter_ne hne]
  simp only [without] at hmem
  simp only [hmem]

/-- Keys of `fixedAddresses` decide before `supportedDomains` is looked at. -/
theorem targetOf_append {keys : List Text} (hkeys : keys ⊆ rules.fixedAddresses.map Prod.fst)
    (tail : Text) :
    targetOf { rules with supportedDomains := rules.supportedDomains ++ keys } tail =
      targetOf rules tail := by
  rw [targetOf, targetOf]
  cases hlookup : rules.fixedAddresses.lookup tail with
  | some address => rfl
  | none =>
      have hfree : tail ∉ keys := by
        intro hmem
        have hsome := lookup_isSome_iff.mpr (hkeys hmem)
        rw [hlookup] at hsome
        contradiction
      simp [hfree]

end Tails

/-- `targetFor` is `null` for hosts of which nothing is left or no tail is a key, and
otherwise decides by the one longest tail that is a key. A key that is no tail of the
host may as well be missing, and keys of `fixedAddresses` may be supported domains or
not. -/
theorem targetFor_longest (platform : Platform) (rules : GeoHideRoutingRules) (host : Text) :
    (targetFor platform rules (some host) = none ↔ normalizeHost platform host = [] ∨
      ∀ tail, IsTail tail (normalizeHost platform host) → ¬ rules.IsKey tail) ∧
    ((∃ tail, IsTail tail (normalizeHost platform host) ∧ rules.IsKey tail) →
      ∃! key, IsLongestKey rules (normalizeHost platform host) key) ∧
    (∀ key, normalizeHost platform host ≠ [] →
      IsLongestKey rules (normalizeHost platform host) key →
      targetFor platform rules (some host) = some (targetOfKey rules key)) ∧
    (∀ key, ¬ IsTail key (normalizeHost platform host) →
      targetFor platform (rules.without key) (some host) = targetFor platform rules (some host)) ∧
    ∀ keys ⊆ rules.fixedAddresses.map Prod.fst,
      targetFor platform { rules with supportedDomains := rules.supportedDomains ++ keys }
        (some host) = targetFor platform rules (some host) := by
  refine ⟨?_, ?_, ?_, ?_, ?_⟩
  · by_cases hnil : normalizeHost platform host = []
    · rw [targetFor_nil hnil]
      exact ⟨fun _ => Or.inl hnil, fun _ => rfl⟩
    · rw [targetFor_ne_nil hnil, targetLoop_eq_none, or_iff_right hnil]
  · rintro ⟨tail, htail, hkey⟩
    cases hlisted : listedSuffix rules (normalizeHost platform host) with
    | none => exact absurd hkey (listedSuffix_eq_none.mp hlisted tail htail)
    | some key =>
        refine ⟨key, listedSuffix_eq_some.mp hlisted, ?_⟩
        intro other hother
        rw [← listedSuffix_eq_some, hlisted] at hother
        exact (Option.some.inj hother).symm
  · intro key hne hlongest
    rw [targetFor_ne_nil hne, targetLoop_isLongestKey hlongest]
  · intro key hfree
    apply targetFor_congr
    intro tail htail
    apply targetOf_without
    rintro rfl
    exact hfree htail
  · exact fun keys hkeys => targetFor_congr fun tail _ => targetOf_append hkeys tail

/-- A lookalike of a rule is not matched by it, a name below it is. -/
example :
    targetFor .ascii oneRecord (some "fakeopenai.com".toList) = none ∧
      targetFor .ascii oneRecord (some "Chat.OpenAI.com.".toList) =
        some (.fixedAddress "45.155.204.190".toList) := by
  simp only [targetFor, targetLoop_eq]
  decide

end GeoHideRoutingRules

end AIUnblock
