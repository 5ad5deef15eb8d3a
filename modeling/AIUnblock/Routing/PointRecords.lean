import AIUnblock.Routing.GeoHideRoutingRules

/-! # Point records in DNS answers and in TLS routing

An answer to a DNS query is overridden by `fixedAddressFor`, one lookup of the
host. A TLS connection is routed by `targetFor`, which walks the suffixes of the
host. The first is for the recorded name alone, the second for the names below it
as well.
-/

namespace AIUnblock

namespace GeoHideRoutingRules

section Keys

variable {platform : Platform} {rules : GeoHideRoutingRules} {line key address : Text}

theorem normalizeRule_ne_nil {value rule : Text}
    (hrule : normalizeRule platform value = some rule) :
    rule ≠ [] := by
  simp only [normalizeRule] at hrule
  split at hrule
  next => contradiction
  next hne =>
    rw [← Option.some.inj hrule]
    simpa using hne

theorem parseHostLine_eq_some (hline : parseHostLine platform line = some (key, address)) :
    ∃ name, splitAtSpaces platform (trim line) = [address, name] ∧
      normalizeRule platform name = some key := by
  rw [parseHostLine] at hline
  split at hline
  next first name hsplit =>
    split at hline
    next => contradiction
    next =>
      obtain ⟨rule, hrule, hpair⟩ := Option.map_eq_some_iff.mp hline
      obtain ⟨rfl, rfl⟩ := Prod.mk.inj hpair
      exact ⟨name, hsplit, hrule⟩
  next => contradiction

/-- Every recorded name went through `normalizeRule`. -/
theorem Built.ofRule (hbuilt : Built platform rules) {entry : Text × Text}
    (hmem : entry ∈ rules.fixedAddresses) : ∃ name, normalizeRule platform name = some entry.1 := by
  cases hbuilt with
  | load domainLines hostLines =>
      simp only [GeoHideRoutingRules.load, toMap, List.mem_reverse, List.mem_filterMap] at hmem
      obtain ⟨line, _, hline⟩ := hmem
      obtain ⟨name, _, hrule⟩ := parseHostLine_eq_some hline
      exact ⟨name, hrule⟩
  | fromRules supportedDomains fixedAddresses =>
      simp only [GeoHideRoutingRules.fromRules, toMap, List.mem_reverse, List.mem_filterMap] at hmem
      obtain ⟨⟨name, address⟩, _, hentry⟩ := hmem
      obtain ⟨rule, hrule, rfl⟩ := Option.map_eq_some_iff.mp hentry
      exact ⟨name, hrule⟩

theorem Built.lookup_nil (hbuilt : Built platform rules) :
    rules.fixedAddresses.lookup [] = none := by
  rw [List.lookup_eq_none_iff]
  intro entry hmem
  obtain ⟨name, hrule⟩ := hbuilt.ofRule hmem
  simpa using (normalizeRule_ne_nil hrule).symm

end Keys

/-- The name has a point record. -/
def Recorded (rules : GeoHideRoutingRules) (name : Text) : Prop :=
  ∃ address, rules.fixedAddresses.lookup name = some address

/-- One of the tables has an entry for the name. -/
def isListed (rules : GeoHideRoutingRules) (name : Text) : Bool :=
  (rules.fixedAddresses.lookup name).isSome || rules.supportedDomains.contains name

/-- The longest suffix of the name that one of the tables lists. -/
def listedSuffix (rules : GeoHideRoutingRules) (name : Text) : Option Text :=
  (Separators.candidates '.' name).find? rules.isListed

section Suffixes

variable {rules : GeoHideRoutingRules} {name : Text}

theorem targetOf_isSome (candidate : Text) :
    (targetOf rules candidate).isSome = rules.isListed candidate := by
  rw [targetOf, isListed]
  cases rules.fixedAddresses.lookup candidate with
  | some address => simp
  | none => by_cases hmem : candidate ∈ rules.supportedDomains <;> simp [hmem]

theorem targetOf_eq_fixedAddress {candidate address : Text} :
    targetOf rules candidate = some (.fixedAddress address) ↔
      rules.fixedAddresses.lookup candidate = some address := by
  rw [targetOf]
  cases rules.fixedAddresses.lookup candidate with
  | some recorded => simp
  | none => by_cases hmem : candidate ∈ rules.supportedDomains <;> simp [hmem]

theorem targetLoop_eq_listedSuffix :
    targetLoop rules name = (listedSuffix rules name).bind (targetOf rules) := by
  rw [targetLoop_eq, listedSuffix]
  induction Separators.candidates '.' name with
  | nil => rfl
  | cons candidate rest ih =>
      rw [List.findSome?_cons, List.find?_cons]
      rw [← targetOf_isSome]
      cases htarget : targetOf rules candidate with
      | some target => simp [htarget]
      | none => simpa using ih

/-- The walk ends at a fixed address where the longest listed suffix has it. -/
theorem targetLoop_eq_fixedAddress {address : Text} :
    targetLoop rules name = some (.fixedAddress address) ↔
      ∃ listed, listedSuffix rules name = some listed ∧
        rules.fixedAddresses.lookup listed = some address := by
  simp only [targetLoop_eq_listedSuffix, Option.bind_eq_some_iff, targetOf_eq_fixedAddress]

theorem listedSuffix_of_recorded (hrecorded : Recorded rules name) :
    listedSuffix rules name = some name := by
  obtain ⟨address, hlookup⟩ := hrecorded
  rw [listedSuffix, Separators.candidates, List.find?_cons_of_pos]
  simp [isListed, hlookup]

end Suffixes

section Agreement

variable {platform : Platform} {rules : GeoHideRoutingRules} {host : Text}

theorem targetFor_eq_targetLoop (hbuilt : Built platform rules) {address : Text} :
    targetFor platform rules (some host) = some (.fixedAddress address) ↔
      targetLoop rules (normalizeHost platform host) = some (.fixedAddress address) := by
  by_cases hnil : normalizeHost platform host = []
  · have hnone : normalizedHost? platform (some host) = none := by
      simp [normalizedHost?, Option.filter, hnil]
    have hlookup := hbuilt.lookup_nil
    rw [targetFor, hnone, Option.bind_none, hnil, targetLoop_eq_fixedAddress]
    constructor
    · intro hfalse
      contradiction
    · rintro ⟨listed, hlisted, hrecord⟩
      have hmem := List.mem_of_find?_eq_some hlisted
      rw [Separators.candidates, Separators.tailsAfter, List.mem_singleton] at hmem
      rw [hmem, hlookup] at hrecord
      contradiction
  · rw [targetFor, normalizedHost?_eq_some hnil, Option.bind_some]

theorem targetFor_eq_fixedAddress (hbuilt : Built platform rules) {address : Text} :
    targetFor platform rules (some host) = some (.fixedAddress address) ↔
      ∃ listed, listedSuffix rules (normalizeHost platform host) = some listed ∧
        rules.fixedAddresses.lookup listed = some address := by
  rw [targetFor_eq_targetLoop hbuilt, targetLoop_eq_fixedAddress]

theorem targetFor_of_fixedAddressFor (hbuilt : Built platform rules) {address : Text}
    (hfixed : fixedAddressFor platform rules host = some address) :
    targetFor platform rules (some host) = some (.fixedAddress address) := by
  rw [targetFor_eq_fixedAddress hbuilt]
  exact ⟨_, listedSuffix_of_recorded ⟨address, hfixed⟩, hfixed⟩

end Agreement

/-- A DNS answer is overridden for a host exactly when the host has a record of its
own and TLS goes to that address; the two agree on a host unless the longest listed
suffix of the host is a record of a shorter name. -/
theorem fixedAddressFor_iff_targetFor (platform : Platform) (rules : GeoHideRoutingRules)
    (hbuilt : Built platform rules) (host : Text) :
    (∀ address, fixedAddressFor platform rules host = some address ↔
        Recorded rules (normalizeHost platform host) ∧
          targetFor platform rules (some host) = some (.fixedAddress address)) ∧
      ((∀ address, fixedAddressFor platform rules host = some address ↔
          targetFor platform rules (some host) = some (.fixedAddress address)) ↔
        ∀ listed, listedSuffix rules (normalizeHost platform host) = some listed →
          Recorded rules listed → listed = normalizeHost platform host) := by
  constructor
  · intro address
    constructor
    · intro hfixed
      exact ⟨⟨address, hfixed⟩, targetFor_of_fixedAddressFor hbuilt hfixed⟩
    · rintro ⟨hrecorded, htarget⟩
      obtain ⟨listed, hlisted, hlookup⟩ := (targetFor_eq_fixedAddress hbuilt).mp htarget
      rw [listedSuffix_of_recorded hrecorded] at hlisted
      rwa [← Option.some.inj hlisted] at hlookup
  · constructor
    · intro hagree listed hlisted hrecorded
      obtain ⟨address, hlookup⟩ := hrecorded
      have htarget := (targetFor_eq_fixedAddress hbuilt).mpr ⟨listed, hlisted, hlookup⟩
      have hown := listedSuffix_of_recorded ⟨address, (hagree address).mpr htarget⟩
      exact Option.some.inj (hlisted.symm.trans hown)
    · intro hown address
      constructor
      · exact targetFor_of_fixedAddressFor hbuilt
      · intro htarget
        obtain ⟨listed, hlisted, hlookup⟩ := (targetFor_eq_fixedAddress hbuilt).mp htarget
        rwa [hown listed hlisted ⟨address, hlookup⟩] at hlookup

/-- The point record of one name. -/
def oneRecord : GeoHideRoutingRules :=
  fromRules .ascii [] [("openai.com".toList, "45.155.204.190".toList)]

theorem fixedAddressFor_iff_targetFor_oneRecord :
    fixedAddressFor .ascii oneRecord "openai.com".toList = some "45.155.204.190".toList ↔
      Recorded oneRecord (normalizeHost .ascii "openai.com".toList) ∧
        targetFor .ascii oneRecord (some "openai.com".toList) =
          some (.fixedAddress "45.155.204.190".toList) :=
  (fixedAddressFor_iff_targetFor .ascii oneRecord (.fromRules _ _) "openai.com".toList).1
    "45.155.204.190".toList

/-- A name below the record: TLS takes its address, DNS does not. -/
theorem oneRecord_subdomain :
    Built .ascii oneRecord ∧
      ¬ (fixedAddressFor .ascii oneRecord "api.openai.com".toList =
            some "45.155.204.190".toList ↔
          targetFor .ascii oneRecord (some "api.openai.com".toList) =
            some (.fixedAddress "45.155.204.190".toList)) := by
  have hbuilt : Built .ascii oneRecord := .fromRules _ _
  have htarget : targetFor .ascii oneRecord (some "api.openai.com".toList) =
      some (.fixedAddress "45.155.204.190".toList) := by
    rw [targetFor_eq_fixedAddress hbuilt]
    exact ⟨"openai.com".toList, by decide⟩
  have hfixed : fixedAddressFor .ascii oneRecord "api.openai.com".toList = none := by
    decide
  refine ⟨hbuilt, ?_⟩
  intro hagree
  rw [hagree.mpr htarget] at hfixed
  contradiction

end GeoHideRoutingRules

end AIUnblock
