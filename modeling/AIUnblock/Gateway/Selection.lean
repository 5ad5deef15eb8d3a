import Mathlib.Data.List.Nodup
import AIUnblock.Gateway.Closing

/-! # The selection of a `GatewaySelector`

The selection always gives every group one of the group's candidates, and between
two refreshes it is what the saved preferences load to.
-/

namespace AIUnblock.GatewaySelector

open Prog Relation

/-- The address is in the built-in pool of the group. -/
def IsCandidate (group : GatewayGroup) (address : String) : Prop :=
  ∃ spec ∈ GATEWAY_SPECS, spec.group = group ∧ address ∈ spec.candidates

def Complete (gateways : Gateways) : Prop :=
  ∀ group, ∃ address, gateways group = some address ∧ IsCandidate group address

/-- Every group has an address. -/
def Total (gateways : Gateways) : Prop := ∀ group, ∃ address, gateways group = some address

theorem Complete.total {gateways : Gateways} (hcomplete : Complete gateways) : Total gateways :=
  fun group => (hcomplete group).imp fun _ haddress => haddress.1

/-! ## The built-in table -/

/-- Every group has a specification. -/
theorem specs_group (group : GatewayGroup) : ∃ spec ∈ GATEWAY_SPECS, spec.group = group := by
  cases group <;> decide

/-- And only one. -/
theorem specs_groups_nodup : (GATEWAY_SPECS.map GatewaySpec.group).Nodup := by decide

/-- Each has a key of its own. -/
theorem specs_preferenceKeys_nodup : (GATEWAY_SPECS.map GatewaySpec.preferenceKey).Nodup := by
  decide

/-- Its default is one of its candidates. -/
theorem specs_default : ∀ spec ∈ GATEWAY_SPECS, spec.defaultAddress ∈ spec.candidates := by
  decide

theorem spec_unique {spec spec' : GatewaySpec} (hspec : spec ∈ GATEWAY_SPECS)
    (hspec' : spec' ∈ GATEWAY_SPECS) (hgroup : spec.group = spec'.group) : spec = spec' :=
  List.inj_on_of_nodup_map specs_groups_nodup hspec hspec' hgroup

/-! ## Loading and saving -/

/-- What `loadSavedGateways` takes for one group. -/
def savedAddress (preferences : KMap String String) (spec : GatewaySpec) : String :=
  ((preferences spec.preferenceKey).filter spec.candidates.contains).getD spec.defaultAddress

/-- Loading gives a group its saved address. -/
theorem loadSavedGateways_group {preferences : KMap String String} {spec : GatewaySpec}
    (hspec : spec ∈ GATEWAY_SPECS) :
    loadSavedGateways preferences spec.group = some (savedAddress preferences spec) :=
  KMap.ofPairs_map_mem (savedAddress preferences) specs_groups_nodup hspec

/-- Which is one of its candidates, whatever was saved. -/
theorem savedAddress_mem {preferences : KMap String String} {spec : GatewaySpec}
    (hspec : spec ∈ GATEWAY_SPECS) : savedAddress preferences spec ∈ spec.candidates := by
  rw [savedAddress]
  cases hsaved : (preferences spec.preferenceKey).filter spec.candidates.contains with
  | none => exact specs_default spec hspec
  | some address =>
      obtain ⟨_, hcontains⟩ := Option.filter_eq_some_iff.mp hsaved
      exact List.contains_iff_mem.mp hcontains

/-- So what is loaded is complete. -/
theorem complete_loadSavedGateways (preferences : KMap String String) :
    Complete (loadSavedGateways preferences) := by
  intro group
  obtain ⟨spec, hspec, rfl⟩ := specs_group group
  exact ⟨_, loadSavedGateways_group hspec, spec, hspec, rfl, savedAddress_mem hspec⟩

/-- What `persist` writes. -/
def savedEntries (gateways : Gateways) : List (String × String) :=
  GATEWAY_SPECS.map fun spec => (spec.preferenceKey, (gateways spec.group).getD "")

section Complete

variable {gateways : Gateways} (hcomplete : Complete gateways)

include hcomplete

theorem Complete.mem {spec : GatewaySpec} (hspec : spec ∈ GATEWAY_SPECS) :
    ∃ address ∈ spec.candidates, gateways spec.group = some address := by
  obtain ⟨address, haddress, other, hother, hgroup, hmem⟩ := hcomplete spec.group
  rw [spec_unique hother hspec hgroup] at hmem
  exact ⟨address, hmem, haddress⟩

/-- Whatever else is saved, a complete selection that was written is loaded again. -/
theorem Complete.reload (preferences : KMap String String) :
    loadSavedGateways
        ((savedEntries gateways).foldl (fun saved entry => saved.put entry.1 entry.2) preferences) =
      gateways := by
  funext group
  obtain ⟨spec, hspec, rfl⟩ := specs_group group
  obtain ⟨address, hmem, haddress⟩ := hcomplete.mem hspec
  have hsaved : (savedEntries gateways).foldl (fun saved entry => saved.put entry.1 entry.2)
      preferences spec.preferenceKey = some address := by
    apply KMap.foldl_put_mem
    · rw [savedEntries, List.map_map]
      exact specs_preferenceKeys_nodup
    · refine List.mem_map.mpr ⟨spec, hspec, ?_⟩
      rw [haddress, Option.getD_some]
  rw [loadSavedGateways_group hspec, savedAddress, hsaved, haddress,
    Option.filter_some_pos (by simpa using hmem), Option.getD_some]

/-- Selecting a candidate keeps the selection complete. -/
theorem Complete.put {group : GatewayGroup} {address : String}
    (hcandidate : IsCandidate group address) : Complete (gateways.put group address) := by
  intro other
  by_cases heq : other = group
  · subst heq
    exact ⟨address, KMap.put_same .., hcandidate⟩
  · rw [KMap.put_other heq]
    exact hcomplete other

/-- The selection loop replaces addresses by candidates of the same group. -/
theorem Complete.selectGateways (current others : KMap GatewayGroup (KMap String Bool))
    {specs : List GatewaySpec} (hspecs : specs ⊆ GATEWAY_SPECS) {updated : Gateways}
    (hupdated : Complete updated) :
    ∃ selection, selectGateways gateways current others specs updated = .ok selection ∧
      Complete selection := by
  induction specs generalizing updated with
  | nil => exact ⟨updated, rfl, hupdated⟩
  | cons spec specs ih =>
      rw [List.cons_subset] at hspecs
      obtain ⟨address, hmem, haddress⟩ := hcomplete.mem hspecs.1
      rw [GatewaySelector.selectGateways, KMap.getValue_eq_ok haddress, ok_bind]
      apply ih hspecs.2
      by_cases hpassed : passed current spec.group address = true
      · simp only [if_pos hpassed]
        exact hupdated.put ⟨spec, hspecs.1, rfl, hmem⟩
      · simp only [if_neg hpassed]
        cases hfound : spec.candidates.find? (passed others spec.group) with
        | none => exact hupdated
        | some found =>
            exact hupdated.put ⟨spec, hspecs.1, rfl, List.mem_of_find?_eq_some hfound⟩

end Complete

/-! ## No lookup fails -/

/-- The address of a group that has one. -/
def addressOf (gateways : Gateways) (group : GatewayGroup) : String := (gateways group).getD ""

section Total

variable {gateways : Gateways} (htotal : Total gateways)

include htotal

theorem Total.eq_some (group : GatewayGroup) :
    gateways group = some (addressOf gateways group) := by
  obtain ⟨address, haddress⟩ := htotal group
  rw [addressOf, haddress, Option.getD_some]

/-- `getValue` finds the address of every group. -/
theorem Total.getValue (group : GatewayGroup) :
    gateways.getValue group = .ok (addressOf gateways group) :=
  KMap.getValue_eq_ok (htotal.eq_some group)

/-- So the summary is made. -/
theorem Total.summary : ∃ text, summary gateways = .ok text := by
  simp only [GatewaySelector.summary, htotal.getValue, ok_bind]
  exact ⟨_, rfl⟩

/-- All addresses are saved. -/
theorem Total.persist :
    persist gateways = selectorCall (.applyPreferences (savedEntries gateways)) := by
  have hentries : (GATEWAY_SPECS.mapM fun spec => do
      return (spec.preferenceKey, ← gateways.getValue spec.group)) =
        (.ok (savedEntries gateways) : Except Exception _) := by
    apply mapM_eq_ok
    intro spec _
    rw [htotal.getValue, ok_bind, pure_eq_ok, addressOf]
  rw [GatewaySelector.persist, hentries]
  rfl

theorem Total.currentCandidates :
    currentCandidates gateways = .ok (KMap.ofPairs <|
      GATEWAY_SPECS.map fun spec => (spec.group, [addressOf gateways spec.group])) := by
  rw [GatewaySelector.currentCandidates]
  rw [mapM_eq_ok fun spec _ => by rw [htotal.getValue, ok_bind, pure_eq_ok]]
  rfl

/-- The failed groups are those whose current address has not passed. -/
theorem Total.failedSpecs (results : KMap GatewayGroup (KMap String Bool)) :
    failedSpecs gateways results = .ok (GATEWAY_SPECS.filter fun spec =>
      !passed results spec.group (addressOf gateways spec.group)) := by
  apply filterM_eq_ok
  intro spec
  rw [htotal.getValue, ok_bind, pure_eq_ok]

/-- Their other candidates are probed next. -/
theorem Total.alternatives (failed : List GatewaySpec) :
    alternatives gateways failed = .ok (KMap.ofPairs <| failed.map fun spec =>
      (spec.group, spec.candidates.filter (· ≠ addressOf gateways spec.group))) := by
  rw [GatewaySelector.alternatives]
  rw [mapM_eq_ok fun spec _ => by rw [htotal.getValue, ok_bind, pure_eq_ok]]
  rfl

end Total

end AIUnblock.GatewaySelector
