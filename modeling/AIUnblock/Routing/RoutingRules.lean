import AIUnblock.Kotlin.Text

/-! # `RoutingRules`

The built-in groups of hosts that leave through a gateway.
-/

namespace AIUnblock

inductive GatewayGroup
  | googleAi
  | notebookLm
  | chatGpt
  | claude
  | geoHide
  deriving DecidableEq, Repr

/-- `host.trim().trimEnd('.').lowercase(Locale.ROOT)`, the form in which every
rule compares hosts. -/
def normalizeHost (platform : Platform) (host : Text) : Text :=
  platform.lowercase (trimEnd '.' (trim host))

/-- The normal form of a host that has one; `takeIf { it.isNotEmpty() }`. -/
def normalizedHost? (platform : Platform) (host : Option Text) : Option Text :=
  (host.map (normalizeHost platform)).filter fun normalized => !normalized.isEmpty

theorem normalizedHost?_eq_some {platform : Platform} {host : Text}
    (hne : normalizeHost platform host ≠ []) :
    normalizedHost? platform (some host) = some (normalizeHost platform host) := by
  simp [normalizedHost?, Option.filter, hne]

namespace RoutingRules

def googleAiDomains : List String :=
  [ "ai.google.dev",
    "aistudio.google.com",
    "aisandbox-pa.googleapis.com",
    "alkalicore-pa.clients6.google.com",
    "alkalimakersuite-pa.clients6.google.com",
    "antigravity.google",
    "assistant-s3-pa.googleapis.com",
    "bard.google.com",
    "gemini.google",
    "gemini.google.com",
    "generativelanguage.googleapis.com",
    "proactivebackend-pa.googleapis.com",
    "robinfrontend-pa.googleapis.com",
    "signaler-pa.googleapis.com",
    "webchannel-alkalimakersuite-pa.clients6.google.com" ]

def notebookDomains : List String := ["notebooklm-pa.googleapis.com"]

def openAiDomains : List String :=
  [ "chatgpt.com",
    "oaistatic.com",
    "oaiusercontent.com",
    "openai.com" ]

def claudeDomains : List String :=
  [ "anthropic.com",
    "claude.ai",
    "claude.com" ]

/-- `domains.any { normalized == it || normalized.endsWith(".$it") }`. -/
def matchesDomain (domains : List String) (normalized : Text) : Bool :=
  domains.any fun domain =>
    normalized == domain.toList || ('.' :: domain.toList).isSuffixOf normalized

def gatewayFor (platform : Platform) (host : Option Text) : Option GatewayGroup :=
  match normalizedHost? platform host with
  | none => none
  | some normalized =>
    if normalized ∈ notebookDomains.map String.toList then some .notebookLm
    -- exact-only, so that the rest of Google stays on the direct path
    else if normalized ∈ googleAiDomains.map String.toList then some .googleAi
    else if matchesDomain openAiDomains normalized then some .chatGpt
    else if matchesDomain claudeDomains normalized then some .claude
    else none

theorem matchesDomain_iff {domains : List String} {normalized : Text} :
    matchesDomain domains normalized = true ↔
      ∃ domain ∈ domains, normalized = domain.toList ∨ '.' :: domain.toList <:+ normalized := by
  simp [matchesDomain]

/-- A name below one domain matches no domain that is unrelated to it. -/
theorem matchesDomain_eq_false {domains : List String} {base normalized : Text}
    (hbelow : '.' :: base <:+ normalized)
    (hunrelated : ∀ domain ∈ domains, ¬ base <:+ domain.toList ∧ ¬ '.' :: domain.toList <:+ base) :
    matchesDomain domains normalized = false := by
  rw [Bool.eq_false_iff, ne_eq, matchesDomain_iff]
  rintro ⟨domain, hmem, heq | hsuffix⟩
  · obtain ⟨hbase, _⟩ := hunrelated domain hmem
    subst heq
    exact hbase ((List.suffix_cons _ _).trans hbelow)
  · obtain ⟨hbase, hdomain⟩ := hunrelated domain hmem
    rcases List.suffix_or_suffix_of_suffix hsuffix hbelow with h | h
    · rcases List.suffix_cons_iff.mp h with heq | h
      · exact hbase ((List.cons.inj heq).2 ▸ List.suffix_refl _)
      · exact hdomain h
    · rcases List.suffix_cons_iff.mp h with heq | h
      · exact hbase ((List.cons.inj heq).2 ▸ List.suffix_refl _)
      · exact hbase ((List.suffix_cons _ _).trans h)

/-! ## The four conditions -/

/-- The name is in one of the group's rules: equal to one of an exact-only list, equal
to or below one of the others. -/
def Decides (name : Text) : GatewayGroup → Prop
  | .notebookLm => name ∈ notebookDomains.map String.toList
  | .googleAi => name ∈ googleAiDomains.map String.toList
  | .chatGpt => ∃ domain ∈ openAiDomains,
      name = domain.toList ∨ ∃ sub, name = sub ++ '.' :: domain.toList
  | .claude => ∃ domain ∈ claudeDomains,
      name = domain.toList ∨ ∃ sub, name = sub ++ '.' :: domain.toList
  | .geoHide => False

/-- The test of the group's branch. -/
def branch (name : Text) : GatewayGroup → Bool
  | .notebookLm => name ∈ notebookDomains.map String.toList
  | .googleAi => name ∈ googleAiDomains.map String.toList
  | .chatGpt => matchesDomain openAiDomains name
  | .claude => matchesDomain claudeDomains name
  | .geoHide => false

/-- Equal or below is to end in the domain after a dot put first. -/
theorem matchesDomain_iff_suffix {domains : List String} {name : Text} :
    matchesDomain domains name = true ↔
      ∃ domain ∈ domains, '.' :: domain.toList <:+ '.' :: name := by
  have hsame : ∀ domain : Text,
      '.' :: domain <:+ '.' :: name ↔ name = domain ∨ '.' :: domain <:+ name := by
    intro domain
    rw [List.suffix_cons_iff, List.cons_inj_right, eq_comm]
  simp only [matchesDomain_iff, hsame]

theorem branch_iff {name : Text} {group : GatewayGroup} :
    branch name group = true ↔ Decides name group := by
  have hbelow : ∀ domain : Text, (∃ sub, name = sub ++ '.' :: domain) ↔ '.' :: domain <:+ name :=
    fun domain => ⟨fun ⟨sub, h⟩ => ⟨sub, h.symm⟩, fun ⟨sub, h⟩ => ⟨sub, h.symm⟩⟩
  cases group with
  | notebookLm | googleAi => exact decide_eq_true_iff
  | chatGpt | claude => simp only [branch, Decides, matchesDomain_iff, hbelow]
  | geoHide => exact Bool.false_eq_true.to_iff

theorem exact_disjoint : ∀ name ∈ googleAiDomains, name ∉ notebookDomains := by decide

/-- No exact-only entry lies under a rule of another group. -/
theorem exact_not_below : ∀ name ∈ notebookDomains ++ googleAiDomains,
    ∀ domain ∈ openAiDomains ++ claudeDomains, ¬ '.' :: domain.toList <:+ '.' :: name.toList := by
  decide +kernel

/-- No rule of one group lies under a rule of the other. -/
theorem openAi_claude_unrelated : ∀ domain ∈ openAiDomains, ∀ other ∈ claudeDomains,
    ¬ '.' :: domain.toList <:+ '.' :: other.toList ∧
      ¬ '.' :: other.toList <:+ '.' :: domain.toList := by
  decide +kernel

/-- A name that is in an exact-only list matches no suffix rule. -/
theorem exact_matchesDomain {exact domains : List String} {name : Text}
    (hexact : exact ⊆ notebookDomains ++ googleAiDomains)
    (hdomains : domains ⊆ openAiDomains ++ claudeDomains)
    (hname : name ∈ exact.map String.toList) : matchesDomain domains name ≠ true := by
  obtain ⟨entry, hentry, rfl⟩ := List.mem_map.mp hname
  rw [ne_eq, matchesDomain_iff_suffix]
  rintro ⟨domain, hdomain, hsuffix⟩
  exact exact_not_below entry (hexact hentry) domain (hdomains hdomain) hsuffix

theorem openAi_not_claude {name : Text} (hopenAi : matchesDomain openAiDomains name = true) :
    matchesDomain claudeDomains name ≠ true := by
  rw [ne_eq, matchesDomain_iff_suffix]
  rintro ⟨other, hother, hclaude⟩
  obtain ⟨domain, hdomain, hsuffix⟩ := matchesDomain_iff_suffix.mp hopenAi
  -- of two suffixes of one name the shorter is a suffix of the longer
  obtain ⟨hbelow, habove⟩ := openAi_claude_unrelated domain hdomain other hother
  rcases List.suffix_or_suffix_of_suffix hsuffix hclaude with h | h
  · exact hbelow h
  · exact habove h

theorem notebook_not_googleAi {name : Text} (hnotebook : name ∈ notebookDomains.map String.toList) :
    name ∉ googleAiDomains.map String.toList := by
  intro hgoogle
  obtain ⟨entry, hentry, rfl⟩ := List.mem_map.mp hgoogle
  obtain ⟨other, hother, heq⟩ := List.mem_map.mp hnotebook
  rw [String.toList_inj.mp heq] at hother
  exact exact_disjoint entry hentry hother

/-- No name passes the tests of two groups. -/
theorem branch_unique {name : Text} {group group' : GatewayGroup}
    (hgroup : branch name group = true) (hgroup' : branch name group' = true) :
    group = group' := by
  have hnotebook : branch name .notebookLm = true → branch name .googleAi ≠ true ∧
      branch name .chatGpt ≠ true ∧ branch name .claude ≠ true := by
    intro h
    have hmem := of_decide_eq_true h
    refine ⟨?_, ?_, ?_⟩
    · simpa [branch] using notebook_not_googleAi hmem
    · exact exact_matchesDomain (List.subset_append_left ..) (List.subset_append_left ..) hmem
    · exact exact_matchesDomain (List.subset_append_left ..) (List.subset_append_right ..) hmem
  have hgoogle : branch name .googleAi = true → branch name .chatGpt ≠ true ∧
      branch name .claude ≠ true := by
    intro h
    have hmem := of_decide_eq_true h
    constructor
    · exact exact_matchesDomain (List.subset_append_right ..) (List.subset_append_left ..) hmem
    · exact exact_matchesDomain (List.subset_append_right ..) (List.subset_append_right ..) hmem
  have hopenAi : branch name .chatGpt = true → branch name .claude ≠ true := openAi_not_claude
  have hgeoHide : branch name .geoHide ≠ true := Bool.false_ne_true
  cases group <;> cases group' <;> simp_all

theorem not_branch_nil (group : GatewayGroup) : branch [] group ≠ true := by
  cases group <;> decide +kernel

section GatewayFor

variable {platform : Platform} {host : Text}

/-- The code takes the first branch whose test the name passes. -/
theorem gatewayFor_eq_find? :
    gatewayFor platform (some host) =
      [GatewayGroup.notebookLm, .googleAi, .chatGpt, .claude].find?
        (branch (normalizeHost platform host)) := by
  by_cases hnil : normalizeHost platform host = []
  · have hnone : normalizedHost? platform (some host) = none := by
      simp [normalizedHost?, Option.filter, hnil]
    rw [gatewayFor, hnone, hnil, eq_comm, List.find?_eq_none]
    exact fun group _ => not_branch_nil group
  · rw [gatewayFor, normalizedHost?_eq_some hnil]
    simp only [List.find?_cons, branch, List.find?_nil]
    split
    next hnotebook => rw [decide_eq_true hnotebook]
    next hnotebook =>
      rw [decide_eq_false hnotebook]
      split
      next hgoogle => rw [decide_eq_true hgoogle]
      next hgoogle =>
        rw [decide_eq_false hgoogle]
        cases matchesDomain openAiDomains (normalizeHost platform host) with
        | true => rfl
        | false =>
            cases matchesDomain claudeDomains (normalizeHost platform host) with
            | true => rfl
            | false => rfl

theorem gatewayFor_eq_some {group : GatewayGroup} :
    gatewayFor platform (some host) = some group ↔
      branch (normalizeHost platform host) group = true := by
  rw [gatewayFor_eq_find?]
  constructor
  · exact List.find?_some
  · intro hbranch
    cases hfound : [GatewayGroup.notebookLm, .googleAi, .chatGpt, .claude].find?
        (branch (normalizeHost platform host)) with
    | some found => rw [branch_unique (List.find?_some hfound) hbranch]
    | none =>
        refine absurd hbranch (List.find?_eq_none.mp hfound group ?_)
        cases group with
        | geoHide => exact absurd hbranch Bool.false_ne_true
        | _ => decide

end GatewayFor

/-- The group of a host is the one whose condition its normal form meets. No name meets
two of the conditions, so the order in which they are tested does not matter. -/
theorem gatewayFor_decides (platform : Platform) (host : Text) :
    (∀ group, gatewayFor platform (some host) = some group ↔
      Decides (normalizeHost platform host) group) ∧
    (gatewayFor platform (some host) = none ↔
      ∀ group, ¬ Decides (normalizeHost platform host) group) ∧
    (∀ name group group', Decides name group → Decides name group' → group = group') ∧
    ∀ order : List GatewayGroup, (∀ group, group ≠ .geoHide → group ∈ order) →
      order.find? (branch (normalizeHost platform host)) = gatewayFor platform (some host) := by
  simp only [← branch_iff]
  refine ⟨fun _ => gatewayFor_eq_some, ?_, fun _ _ _ => branch_unique, ?_⟩
  · simp only [Option.eq_none_iff_forall_ne_some, ne_eq, gatewayFor_eq_some]
  · intro order horder
    cases hfound : order.find? (branch (normalizeHost platform host)) with
    | some group => exact (gatewayFor_eq_some.mpr (List.find?_some hfound)).symm
    | none =>
        rw [eq_comm, Option.eq_none_iff_forall_ne_some]
        intro group hgroup
        have hbranch := gatewayFor_eq_some.mp hgroup
        refine List.find?_eq_none.mp hfound group (horder group ?_) hbranch
        rintro rfl
        exact Bool.false_ne_true hbranch

end RoutingRules

end AIUnblock
