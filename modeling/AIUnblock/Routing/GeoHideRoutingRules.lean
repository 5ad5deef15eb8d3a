import AIUnblock.Foundation.Separators
import AIUnblock.Routing.RoutingRules

/-! # `GeoHideRoutingRules`

The table of point records and of domains that leave through the automatic
gateway, read from two rule assets. An asset is given by its lines.
-/

namespace AIUnblock

inductive GeoHideTarget
  | fixedAddress (address : Text)
  | automaticGateway
  deriving DecidableEq, Repr

/-- The map is the list of its entries; of two entries with one key the first
counts. -/
structure GeoHideRoutingRules where
  supportedDomains : List Text
  fixedAddresses : List (Text × Text)
  deriving DecidableEq, Repr

/-- `pairs.toMap()`: the last pair of a key counts. -/
def toMap (pairs : List (Text × Text)) : List (Text × Text) := pairs.reverse

/-- `text.split(Regex("\\s+"), limit = 2)`. -/
def splitAtSpaces (platform : Platform) (text : Text) : List Text :=
  match text.dropWhile fun c => !platform.isRegexSpace c with
  | [] => [text]
  | space :: rest =>
    [ text.takeWhile fun c => !platform.isRegexSpace c,
      (space :: rest).dropWhile platform.isRegexSpace ]

/-- `indexOf(c)`. -/
def indexOf (c : Char) (text : Text) : Option Nat := text.findIdx? (· == c)

theorem lt_length_of_indexOf {c : Char} {text : Text} {index : Nat}
    (h : indexOf c text = some index) : index < text.length :=
  (List.findIdx?_eq_some_iff_findIdx_eq.mp h).1

namespace GeoHideRoutingRules

def normalizeRule (platform : Platform) (value : Text) : Option Text :=
  let rule := platform.lowercase (trimEnd '.' (trim (substringBefore '#' value)))
  if rule.isEmpty then none else some rule

/-- One line of the hosts asset: `domain to parts[0]`. -/
def parseHostLine (platform : Platform) (line : Text) : Option (Text × Text) :=
  match splitAtSpaces platform (trim line) with
  | [address, name] =>
    if address = "0.0.0.0".toList then none
    else (normalizeRule platform name).map fun domain => (domain, address)
  | _ => none

def load (platform : Platform) (domainLines hostLines : List Text) : GeoHideRoutingRules :=
  let domains := domainLines.filterMap (normalizeRule platform)
  let hosts := toMap (hostLines.filterMap (parseHostLine platform))
  { supportedDomains := domains ++ hosts.map Prod.fst, fixedAddresses := hosts }

def fromRules (platform : Platform) (supportedDomains : List Text)
    (fixedAddresses : List (Text × Text)) : GeoHideRoutingRules :=
  { supportedDomains := supportedDomains.filterMap (normalizeRule platform)
    fixedAddresses := toMap (fixedAddresses.filterMap fun (domain, address) =>
      (normalizeRule platform domain).map fun rule => (rule, address)) }

/-- The constructor is private: these are the rules there are. -/
inductive Built (platform : Platform) : GeoHideRoutingRules → Prop
  | load (domainLines hostLines : List Text) : Built platform (load platform domainLines hostLines)
  | fromRules (supportedDomains : List Text) (fixedAddresses : List (Text × Text)) :
      Built platform (fromRules platform supportedDomains fixedAddresses)

theorem mem_supportedDomains_load {platform : Platform} {domainLines hostLines : List Text}
    {key : Text} :
    key ∈ (load platform domainLines hostLines).supportedDomains ↔
      (∃ line ∈ domainLines, normalizeRule platform line = some key) ∨
        ∃ line ∈ hostLines, (parseHostLine platform line).map Prod.fst = some key := by
  simp only [load, toMap, List.mem_append, List.mem_filterMap, List.mem_map, List.mem_reverse,
    Option.map_eq_some_iff]
  constructor
  · rintro (h | ⟨pair, ⟨line, hline, hparse⟩, hkey⟩)
    · exact Or.inl h
    · exact Or.inr ⟨line, hline, pair, hparse, hkey⟩
  · rintro (h | ⟨line, hline, pair, hparse, hkey⟩)
    · exact Or.inl h
    · exact Or.inr ⟨pair, ⟨line, hline, hparse⟩, hkey⟩

/-- The loop of `targetFor`. -/
def targetLoop (rules : GeoHideRoutingRules) (candidate : Text) : Option GeoHideTarget :=
  match rules.fixedAddresses.lookup candidate with
  | some address => some (.fixedAddress address)
  | none =>
    if candidate ∈ rules.supportedDomains then some .automaticGateway
    else match hdot : indexOf '.' candidate with
      | none => none
      | some dot => targetLoop rules (candidate.drop (dot + 1))
termination_by candidate.length
decreasing_by
  have hlt := lt_length_of_indexOf hdot
  rw [List.length_drop]
  omega

def targetFor (platform : Platform) (rules : GeoHideRoutingRules) (host : Option Text) :
    Option GeoHideTarget :=
  (normalizedHost? platform host).bind (targetLoop rules)

def fixedAddressFor (platform : Platform) (rules : GeoHideRoutingRules) (host : Text) :
    Option Text :=
  rules.fixedAddresses.lookup (normalizeHost platform host)

/-! ## The walk over the suffixes of a host -/

/-- What the tables say about one candidate. -/
def targetOf (rules : GeoHideRoutingRules) (candidate : Text) : Option GeoHideTarget :=
  match rules.fixedAddresses.lookup candidate with
  | some address => some (.fixedAddress address)
  | none => if candidate ∈ rules.supportedDomains then some .automaticGateway else none

/-- The loop returns what the tables say about the longest listed suffix. -/
theorem targetLoop_eq (rules : GeoHideRoutingRules) (candidate : Text) :
    targetLoop rules candidate =
      (Separators.candidates '.' candidate).findSome? (targetOf rules) := by
  induction candidate using targetLoop.induct rules with
  | case1 candidate address hlookup =>
      rw [targetLoop, Separators.candidates, List.findSome?_cons]
      simp [targetOf, hlookup]
  | case2 candidate hlookup hmem =>
      rw [targetLoop, Separators.candidates, List.findSome?_cons]
      simp [targetOf, hlookup, hmem]
  | case3 candidate hlookup hmem hdot =>
      have hfree : '.' ∉ candidate := by
        intro hin
        have hfalse := List.findIdx?_eq_none_iff.mp hdot '.' hin
        simp at hfalse
      rw [targetLoop, Separators.candidates, Separators.tailsAfter_eq_nil hfree]
      simp only [targetOf, hlookup, if_neg hmem, List.findSome?_cons, List.findSome?_nil]
      split
      next => rfl
      next dot hsome => rw [hdot] at hsome; contradiction
  | case4 candidate hlookup hmem dot hdot ih =>
      obtain ⟨hlt, hat, hbefore⟩ := List.findIdx?_eq_some_iff_getElem.mp hdot
      have hsplit : candidate = candidate.take dot ++ '.' :: candidate.drop (dot + 1) := by
        rw [← beq_iff_eq.mp hat, List.getElem_cons_drop, List.take_append_drop]
      have hfree : '.' ∉ candidate.take dot := by
        intro hin
        obtain ⟨index, hindex, heq⟩ := List.mem_take_iff_getElem.mp hin
        have hne := hbefore index (by omega)
        simp [heq] at hne
      have htails : Separators.tailsAfter '.' candidate =
          Separators.candidates '.' (candidate.drop (dot + 1)) := by
        conv_lhs => rw [hsplit]
        exact Separators.tailsAfter_append hfree
      rw [targetLoop, Separators.candidates, List.findSome?_cons, htails, ← ih]
      simp only [targetOf, hlookup, if_neg hmem]
      split
      next hnone => rw [hdot] at hnone; contradiction
      next other hsome =>
        rw [hdot] at hsome
        cases hsome
        rfl

end GeoHideRoutingRules

end AIUnblock
