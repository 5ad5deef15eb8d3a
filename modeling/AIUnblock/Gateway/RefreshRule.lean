import Mathlib.Data.List.Find
import AIUnblock.Gateway.Refreshes

/-! # The rule of a refresh

Given how the probes end, a refresh keeps the address of a group while it works,
takes the first other candidate that works otherwise, and keeps the address again if
there is none. What it takes for a group depends on that group alone.
-/

namespace AIUnblock.GatewaySelector

open Prog Relation

/-! ## The rule -/

/-- How every probe ends: with its value, or with an exception. -/
abbrev Outcomes : Type := ProbeKey → Option Bool

/-- All check domains of the group pass on the address. -/
def Passes (outcomes : Outcomes) (spec : GatewaySpec) (address : String) : Prop :=
  ∀ domain ∈ spec.checkDomains, outcomes { group := spec.group, address, domain } = some true

instance (outcomes : Outcomes) (spec : GatewaySpec) (address : String) :
    Decidable (Passes outcomes spec address) :=
  inferInstanceAs (Decidable (∀ domain ∈ spec.checkDomains, _))

/-- What a refresh takes for a group whose address is `current`. -/
def chosenAddress (outcomes : Outcomes) (spec : GatewaySpec) (current : String) : String :=
  if Passes outcomes spec current then current
  else
    (spec.candidates.find? fun address =>
      address ≠ current ∧ Passes outcomes spec address).getD current

/-- The outcomes of the probes of the group are the same. -/
def AgreeOn (group : GatewayGroup) (outcomes outcomes' : Outcomes) : Prop :=
  ∀ address domain, outcomes { group, address, domain } = outcomes' { group, address, domain }

/-- A candidate passes by the outcomes of its own group. -/
theorem AgreeOn.passes_iff {outcomes outcomes' : Outcomes} {spec : GatewaySpec}
    (hagree : AgreeOn spec.group outcomes outcomes') (address : String) :
    Passes outcomes spec address ↔ Passes outcomes' spec address := by
  unfold Passes
  simp only [hagree address]

/-- So these alone decide the choice. -/
theorem AgreeOn.chosenAddress_eq {outcomes outcomes' : Outcomes} {spec : GatewaySpec}
    (hagree : AgreeOn spec.group outcomes outcomes') (current : String) :
    chosenAddress outcomes spec current = chosenAddress outcomes' spec current := by
  simp only [chosenAddress, hagree.passes_iff]

/-! ## Waits for probes -/

/-- A wait for a probe ends as the outcomes say. -/
def Answered (outcomes : Outcomes) : (op : SelectorOp) → op.Answer → Prop
  | .awaitProbe key, .ok value => outcomes key = some value
  | .awaitProbe key, .error _ => outcomes key = none
  | _, _ => True

/-- The calls of a selector whose probes end so. -/
def probingStep (outcomes : Outcomes) : Semantics SelectorOp SelectorOp.Answer Scheduler :=
  fun op scheduler answer scheduler' =>
    selectorStep op scheduler answer scheduler' ∧ Answered outcomes op answer

section Values

variable {outcomes : Outcomes} {α β : Type}

/-- What holds however the probes end holds for these outcomes. -/
theorem probing_of {P : Scheduler → Prop} {p : SelectorM α} {Q : α → Scheduler → Prop}
    {E : Exception → Scheduler → Prop} (htriple : TripleE selectorStep SameStore P p Q E) :
    TripleE (probingStep outcomes) SameStore P p Q E :=
  htriple.mono_sem fun _ _ _ _ hstep => hstep.1

/-- From every state the program throws nothing and returns such a value. -/
def Yields (outcomes : Outcomes) (p : SelectorM α) (Q : α → Prop) : Prop :=
  TripleE (probingStep outcomes) SameStore (fun _ => True) p (fun value _ => Q value)
    fun _ _ => False

theorem Yields.pure {value : α} {Q : α → Prop} (hvalue : Q value) :
    Yields outcomes (pure value) Q :=
  TripleE.pure (fun _ _ hQ _ => hQ) fun _ _ => hvalue

/-- What the first part yields the rest may use. -/
theorem Yields.continue {P : Scheduler → Prop} {p : SelectorM α} {rest : α → SelectorM β}
    {Q : α → Prop}
    {R : β → Scheduler → Prop} {E : Exception → Scheduler → Prop} (hfirst : Yields outcomes p Q)
    (hrest : ∀ value, Q value →
      TripleE (probingStep outcomes) SameStore (fun _ => True) (rest value) R E) :
    TripleE (probingStep outcomes) SameStore P (p >>= rest) R E := by
  apply TripleE.bind (hfirst.conseq (fun _ _ => trivial) (fun _ _ hQ => hQ) fun _ _ => False.elim)
  intro value
  apply TripleE.assume (Q value) (fun _ hQ => hQ)
  intro hvalue
  exact (hrest value hvalue).conseq (fun _ _ => trivial) (fun _ _ hR => hR) fun _ _ hE => hE

/-- A sequence yields what its last part does. -/
theorem Yields.bind {p : SelectorM α} {rest : α → SelectorM β} {Q : α → Prop} {R : β → Prop}
    (hfirst : Yields outcomes p Q) (hrest : ∀ value, Q value → Yields outcomes (rest value) R) :
    Yields outcomes (p >>= rest) R :=
  Yields.continue hfirst hrest

/-- An awaited probe passes by its outcome. -/
theorem awaitProbe_yields (key : ProbeKey) :
    Yields outcomes (resultOf (selectorCall (.awaitProbe key)))
      fun passed => passed = decide (outcomes key = some true) := by
  have hwait : TripleE (probingStep outcomes) SameStore (fun _ => True)
      (selectorCall (.awaitProbe key)) (fun value _ => outcomes key = some value)
      fun _ _ => outcomes key = none := by
    apply TripleE.io (stable_true _) (fun _ _ _ hvalue _ => hvalue) (fun _ _ _ hnone _ => hnone)
    · exact fun _ _ _ _ hstep => hstep.2
    · exact fun _ _ _ _ hstep => hstep.2
  refine TripleE.tryCatch (hwait.post ?_) ?_
  · intro value _ hvalue
    rw [hvalue]
    cases value <;> rfl
  · intro error
    apply TripleE.pure (fun _ _ hQ _ => hQ)
    intro _ hnone
    rw [hnone]
    rfl

/-- A candidate passes when all of its domains do. -/
theorem passesAll_yields (group : GatewayGroup) (candidate : String) (domains : List String) :
    Yields outcomes (passesAll group candidate domains) fun passed =>
      passed = decide (∀ domain ∈ domains,
        outcomes { group, address := candidate, domain } = some true) := by
  induction domains with
  | nil => exact .pure rfl
  | cons domain domains ih =>
      rw [passesAll]
      apply (awaitProbe_yields _).bind
      intro passed hpassed
      simp only [List.forall_mem_cons, Bool.decide_and, ← hpassed]
      cases passed with
      | true => exact ih
      | false => exact .pure rfl

/-- The results of a group say which of its candidates pass. -/
theorem probeCandidates_yields (spec : GatewaySpec) (candidates : List String)
    (groupResults : KMap String Bool) :
    Yields outcomes (probeCandidates spec candidates groupResults) fun results =>
      ∀ address, results address =
        if address ∈ candidates then some (decide (Passes outcomes spec address))
        else groupResults address := by
  induction candidates generalizing groupResults with
  | nil => exact .pure fun _ => rfl
  | cons candidate candidates ih =>
      rw [probeCandidates]
      apply (passesAll_yields _ _ _).bind
      rintro passed rfl
      apply (ih _).post
      intro results _ hresults address
      rw [hresults]
      by_cases hmem : address ∈ candidates
      · rw [if_pos hmem, if_pos (List.mem_cons_of_mem _ hmem)]
      · rw [if_neg hmem]
        by_cases heq : address = candidate
        · subst heq
          rw [if_pos List.mem_cons_self, KMap.put_same]
          rfl
        · rw [if_neg (by simp [heq, hmem]), KMap.put_other heq]

theorem passed_put_same (results : KMap GatewayGroup (KMap String Bool)) (group : GatewayGroup)
    (groupResults : KMap String Bool) (address : String) :
    passed (results.put group groupResults) group address =
      decide (groupResults address = some true) := by
  rw [passed, KMap.put_same]
  rfl

/-- Other groups do not matter for what a candidate has passed. -/
theorem passed_congr {results results' : KMap GatewayGroup (KMap String Bool)}
    {group : GatewayGroup} (hsame : results group = results' group) (address : String) :
    passed results group address = passed results' group address := by
  rw [passed, hsame, passed]

/-- A probe matrix tells of every candidate whether it passes, and of no other address
that it does. -/
theorem probeMatrix_yields (candidatesByGroup : KMap GatewayGroup (List String))
    {specs : List GatewaySpec} (hnodup : (specs.map GatewaySpec.group).Nodup)
    {results : KMap GatewayGroup (KMap String Bool)}
    (hfresh : ∀ spec ∈ specs, results spec.group = none) :
    Yields outcomes (probeMatrix candidatesByGroup specs results) fun probed =>
      (∀ group ∉ specs.map GatewaySpec.group, probed group = results group) ∧
      ∀ spec ∈ specs, ∀ address, passed probed spec.group address =
        decide (address ∈ (candidatesByGroup spec.group).getD [] ∧
          Passes outcomes spec address) := by
  induction specs generalizing results with
  | nil => exact .pure ⟨fun _ _ => rfl, nofun⟩
  | cons spec specs ih =>
      rw [List.map_cons, List.nodup_cons] at hnodup
      rw [List.forall_mem_cons] at hfresh
      rw [probeMatrix]
      apply (probeCandidates_yields _ _ _).bind
      intro groupResults hgroup
      set after := if (candidatesByGroup spec.group).getD [] = [] then results
        else results.put spec.group groupResults with hafter
      have hother : ∀ group, group ≠ spec.group → after group = results group := by
        intro group hne
        rw [hafter]
        split
        next => rfl
        next => exact KMap.put_other hne
      have hfirst : ∀ address, passed after spec.group address =
          decide (address ∈ (candidatesByGroup spec.group).getD [] ∧
            Passes outcomes spec address) := by
        intro address
        rw [hafter]
        split
        next hempty =>
          rw [passed, hfresh.1, hempty]
          rfl
        next =>
          rw [passed_put_same, hgroup]
          split
          next hmem => simp [hmem]
          next hmem => simp [hmem, KMap.empty]
      have hrest : ∀ other ∈ specs, after other.group = none := by
        intro other hother'
        rw [hother other.group, hfresh.2 other hother']
        intro heq
        exact hnodup.1 (heq ▸ List.mem_map_of_mem hother')
      apply (ih hnodup.2 hrest).post
      rintro probed _ ⟨hkept, hprobed⟩
      constructor
      · intro group hfree
        rw [List.map_cons, List.mem_cons, not_or] at hfree
        rw [hkept group hfree.2, hother group hfree.1]
      · rw [List.forall_mem_cons]
        refine ⟨?_, hprobed⟩
        intro address
        rw [passed_congr (hkept _ hnodup.1), hfirst]

end Values

/-! ## The selection loop -/

/-- The address that the loop puts for a group. -/
def replacement (previous : Gateways)
    (currentResults alternativeResults : KMap GatewayGroup (KMap String Bool))
    (spec : GatewaySpec) : Option String :=
  if passed currentResults spec.group (addressOf previous spec.group) then
    some (addressOf previous spec.group)
  else spec.candidates.find? (passed alternativeResults spec.group)

/-- Put an address if there is one. -/
def putSome (gateways : Gateways) (group : GatewayGroup) : Option String → Gateways
  | some address => gateways.put group address
  | none => gateways

theorem putSome_same (gateways : Gateways) (group : GatewayGroup) (address : Option String) :
    putSome gateways group address group = address.or (gateways group) := by
  cases address with
  | some address => exact KMap.put_same ..
  | none => rfl

theorem putSome_other {gateways : Gateways} {group other : GatewayGroup} (hne : other ≠ group)
    (address : Option String) : putSome gateways group address other = gateways other := by
  cases address with
  | some address => exact KMap.put_other hne
  | none => rfl

/-- The loop puts each replacement, and leaves groups without one alone. -/
theorem Total.selectGateways {previous : Gateways} (htotal : Total previous)
    (currentResults alternativeResults : KMap GatewayGroup (KMap String Bool))
    {specs : List GatewaySpec} (hnodup : (specs.map GatewaySpec.group).Nodup)
    (updated : Gateways) :
    ∃ selection,
      selectGateways previous currentResults alternativeResults specs updated = .ok selection ∧
      (∀ group ∉ specs.map GatewaySpec.group, selection group = updated group) ∧
      ∀ spec ∈ specs, selection spec.group =
        (replacement previous currentResults alternativeResults spec).or (updated spec.group) := by
  induction specs generalizing updated with
  | nil => exact ⟨updated, rfl, fun _ _ => rfl, nofun⟩
  | cons spec specs ih =>
      rw [List.map_cons, List.nodup_cons] at hnodup
      rw [GatewaySelector.selectGateways, htotal.getValue, ok_bind]
      obtain ⟨selection, hselection, hkept, hselected⟩ := ih hnodup.2
        (putSome updated spec.group (replacement previous currentResults alternativeResults spec))
      refine ⟨selection, hselection, ?_, ?_⟩
      · intro group hfree
        rw [List.map_cons, List.mem_cons, not_or] at hfree
        rw [hkept group hfree.2, putSome_other hfree.1]
      · rw [List.forall_mem_cons]
        constructor
        · rw [hkept _ hnodup.1, putSome_same]
        · intro other hother
          have hne : other.group ≠ spec.group := by
            intro heq
            exact hnodup.1 (heq ▸ List.mem_map_of_mem hother)
          rw [hselected other hother, putSome_other hne]

/-! ## A refresh -/

section Refresh

variable {outcomes : Outcomes} {previous : Gateways}

/-- Every group has the address that the rule gives for its previous one. -/
def FollowsRule (outcomes : Outcomes) (previous selection : Gateways) : Prop :=
  ∀ spec ∈ GATEWAY_SPECS, ∃ current, previous spec.group = some current ∧
    selection spec.group = some (chosenAddress outcomes spec current)

/-- What the first matrix tells of the current addresses. -/
def CurrentProbed (outcomes : Outcomes) (previous : Gateways)
    (results : KMap GatewayGroup (KMap String Bool)) : Prop :=
  ∀ spec ∈ GATEWAY_SPECS, passed results spec.group (addressOf previous spec.group) =
    decide (Passes outcomes spec (addressOf previous spec.group))

/-- What the second matrix tells of the candidates of the groups that failed. -/
def AlternativesProbed (outcomes : Outcomes) (previous : Gateways)
    (results : KMap GatewayGroup (KMap String Bool)) : Prop :=
  ∀ spec ∈ GATEWAY_SPECS, ¬ Passes outcomes spec (addressOf previous spec.group) →
    ∀ address ∈ spec.candidates, passed results spec.group address =
      decide (address ≠ addressOf previous spec.group ∧ Passes outcomes spec address)

/-- The first matrix says which of the current addresses pass. -/
theorem probeCurrent_yields :
    Yields outcomes (probeMatrix (KMap.ofPairs <| GATEWAY_SPECS.map fun spec =>
        (spec.group, [addressOf previous spec.group])) GATEWAY_SPECS KMap.empty)
      (CurrentProbed outcomes previous) := by
  apply (probeMatrix_yields _ specs_groups_nodup fun _ _ => rfl).post
  intro results _ hresults spec hspec
  rw [hresults.2 spec hspec,
    KMap.ofPairs_map_mem (fun spec => [addressOf previous spec.group]) specs_groups_nodup hspec]
  simp

theorem specs_filter_groups_nodup (keep : GatewaySpec → Bool) :
    ((GATEWAY_SPECS.filter keep).map GatewaySpec.group).Nodup :=
  specs_groups_nodup.sublist (List.filter_sublist.map GatewaySpec.group)

/-- The second says so of all others, where the current one fails. -/
theorem probeAlternatives_yields {currentResults : KMap GatewayGroup (KMap String Bool)}
    (hcurrent : CurrentProbed outcomes previous currentResults) :
    Yields outcomes (probeMatrix (KMap.ofPairs <|
        (GATEWAY_SPECS.filter fun spec =>
          !passed currentResults spec.group (addressOf previous spec.group)).map fun spec =>
            (spec.group, spec.candidates.filter (· ≠ addressOf previous spec.group)))
        GATEWAY_SPECS KMap.empty)
      (AlternativesProbed outcomes previous) := by
  apply (probeMatrix_yields _ specs_groups_nodup fun _ _ => rfl).post
  intro results _ hresults spec hspec hfails address haddress
  have hfailed : spec ∈ GATEWAY_SPECS.filter fun spec =>
      !passed currentResults spec.group (addressOf previous spec.group) := by
    rw [List.mem_filter, hcurrent spec hspec, decide_eq_false hfails]
    exact ⟨hspec, rfl⟩
  rw [hresults.2 spec hspec,
    KMap.ofPairs_map_mem (fun spec => spec.candidates.filter (· ≠ addressOf previous spec.group))
      (specs_filter_groups_nodup _) hfailed]
  simp [haddress]

/-- With both matrices the loop selects by the rule. -/
theorem selectGateways_followsRule (htotal : Total previous)
    {currentResults alternativeResults : KMap GatewayGroup (KMap String Bool)}
    (hcurrent : CurrentProbed outcomes previous currentResults)
    (halternatives : AlternativesProbed outcomes previous alternativeResults) :
    ∃ selection,
      selectGateways previous currentResults alternativeResults GATEWAY_SPECS previous =
        .ok selection ∧
      FollowsRule outcomes previous selection := by
  obtain ⟨selection, hselection, _, hselected⟩ := htotal.selectGateways currentResults
    alternativeResults specs_groups_nodup previous
  refine ⟨selection, hselection, ?_⟩
  intro spec hspec
  refine ⟨_, htotal.eq_some spec.group, ?_⟩
  rw [hselected spec hspec, replacement, hcurrent spec hspec, chosenAddress]
  by_cases hpasses : Passes outcomes spec (addressOf previous spec.group)
  · rw [if_pos hpasses, if_pos (decide_eq_true hpasses), Option.some_or]
  · rw [if_neg hpasses, if_neg (by simp [hpasses]), htotal.eq_some]
    have hfind : spec.candidates.find? (passed alternativeResults spec.group) =
        spec.candidates.find? fun address =>
          address ≠ addressOf previous spec.group ∧ Passes outcomes spec address :=
      List.find?_congr fun address haddress =>
        halternatives spec hspec hpasses address haddress
    rw [hfind]
    cases spec.candidates.find? _ with
    | none => rfl
    | some address => rfl

/-- The rule gives every group an address. -/
theorem FollowsRule.total {selection : Gateways} (hrule : FollowsRule outcomes previous selection) :
    Total selection := by
  intro group
  obtain ⟨spec, hspec, rfl⟩ := specs_group group
  obtain ⟨_, _, hselected⟩ := hrule spec hspec
  exact ⟨_, hselected⟩

/-- A lookup of `previous` that fails is the only exception. -/
theorem currentCandidates_error (hgap : ¬ Total previous) :
    ∃ error, currentCandidates previous = .error error := by
  rw [currentCandidates]
  cases hpairs : GATEWAY_SPECS.mapM fun spec => do
      return (spec.group, [← previous.getValue spec.group]) with
  | error error => exact ⟨error, rfl⟩
  | ok pairs =>
      refine absurd ?_ hgap
      intro group
      obtain ⟨spec, hspec, rfl⟩ := specs_group group
      obtain ⟨pair, hpair⟩ := forall_of_mapM_eq_ok hpairs spec hspec
      cases haddress : previous spec.group with
      | some address => exact ⟨address, rfl⟩
      | none =>
          rw [KMap.getValue, haddress] at hpair
          cases hpair

/-- A refresh ends by the rule, or some group had no address before. -/
theorem refresh_followsRule :
    TripleE (probingStep outcomes) SameStore (Stored fun store => store.1 = previous) refresh
      (fun _ => Stored fun store => FollowsRule outcomes previous store.1)
      fun _ _ => ¬ Total previous := by
  rw [refresh]
  apply TripleE.bind (probing_of (getSelected_stored.nothrow))
  intro gateways
  apply TripleE.assume (gateways = previous)
  · rintro scheduler ⟨rfl, hprevious⟩
    exact hprevious
  rintro rfl
  have hcleanup : ∀ P, TripleE (probingStep outcomes) SameStore (Stored P)
      (selectorCall .shutdownProbePool) (fun _ => Stored P) fun _ _ => ¬ Total gateways := by
    intro P
    apply probing_of
    apply TripleE.nothrow
    exact look_stored trivial fun _ => rfl
  apply TripleE.tryFinally (Q := fun _ => Stored fun store => FollowsRule outcomes gateways store.1)
    (E := fun _ _ => ¬ Total gateways)
  · apply TripleE.bind (probing_of (authorizeSmartDns_stored _).nothrow)
    intro _
    by_cases htotal : Total gateways
    · rw [htotal.currentCandidates, lift_ok_bind]
      apply probeCurrent_yields.continue
      intro currentResults hcurrent
      rw [htotal.failedSpecs, lift_ok_bind, htotal.alternatives, lift_ok_bind]
      apply (probeAlternatives_yields hcurrent).continue
      intro alternativeResults halternatives
      obtain ⟨selection, hselection, hrule⟩ :=
        selectGateways_followsRule htotal hcurrent halternatives
      rw [hselection, lift_ok_bind]
      have hpublish := @publish_stored (fun _ => True) selection hrule.total
      apply (probing_of hpublish.nothrow).post
      rintro _ scheduler ⟨_, _, hstore⟩
      change FollowsRule outcomes gateways scheduler.store.1
      rw [hstore]
      exact hrule
    · obtain ⟨error, herror⟩ := currentCandidates_error htotal
      rw [herror]
      exact TripleE.throw (fun _ _ hE _ => hE) fun _ _ => htotal
  · exact fun _ => hcleanup _
  · exact fun _ => hcleanup fun _ => ¬ Total gateways

/-- A refresh waits for no call that is never answered. -/
theorem probingStep_answers {op : SelectorOp} (hop : OfRefresh op) (scheduler : Scheduler) :
    ∃ answer scheduler', probingStep outcomes op scheduler answer scheduler' := by
  cases op with
  | compareAndSetClosed | hasPeriodicTask | schedulePeriodicTask | cancelPeriodicTask
    | clearPeriodicTask | shutdownScheduler => exact hop.elim
  | awaitAuthorization => exact ⟨_, _, .failed, trivial⟩
  | awaitProbe key =>
      cases houtcome : outcomes key with
      | some value => exact ⟨.ok value, scheduler, ⟨_, .value value, rfl⟩, houtcome⟩
      | none => exact ⟨_, _, ⟨_, .failed, rfl⟩, houtcome⟩
  | isClosed | shutdownProbePool | getSelected | setSelected | applyPreferences
    | onSelectionUpdated => exact ⟨_, _, ⟨rfl, rfl⟩, trivial⟩

/-- So it does beside its owner's calls. -/
theorem refresh_ends {scheduler later : Scheduler} {result : Except Exception Unit}
    (hreach : Reaches (probingStep outcomes) OwnerStep (refresh.run, scheduler)
      (.ret result, later)) :
    Ends (fun _ later => FollowsRule outcomes scheduler.selected later.selected)
      (fun _ _ => ¬ Total scheduler.selected) result later :=
  Triple.reaches refresh_followsRule rfl (hreach.mono fun _ _ hstep => hstep.sameStore.1)

end Refresh

/-- However the probes end: a refresh of a selection without gaps completes and throws
nothing, and a refresh that completes selects for every group what the rule gives for
the group's previous address and the outcomes of the group's probes. -/
theorem refresh_selects (outcomes : Outcomes) (scheduler : Scheduler) :
    (Total scheduler.selected →
      (∃ later, Reaches (probingStep outcomes) OwnerStep (refresh.run, scheduler)
        (.ret (.ok ()), later)) ∧
      ∀ result later, Reaches (probingStep outcomes) OwnerStep (refresh.run, scheduler)
        (.ret result, later) → result = .ok ()) ∧
    ∀ later, Reaches (probingStep outcomes) OwnerStep (refresh.run, scheduler)
        (.ret (.ok ()), later) →
      ∀ spec ∈ GATEWAY_SPECS, ∃ current,
        scheduler.selected spec.group = some current ∧
        later.selected spec.group = some (chosenAddress outcomes spec current) ∧
        ∀ outcomes' scheduler' later', AgreeOn spec.group outcomes' outcomes →
          scheduler'.selected spec.group = some current →
          Reaches (probingStep outcomes') OwnerStep (refresh.run, scheduler')
            (.ret (.ok ()), later') →
          later'.selected spec.group = later.selected spec.group := by
  have hcompletes : ∀ result later, Total scheduler.selected →
      Reaches (probingStep outcomes) OwnerStep (refresh.run, scheduler) (.ret result, later) →
      result = .ok () := by
    intro result later htotal hreach
    cases result with
    | ok => rfl
    | error error => exact absurd htotal (refresh_ends hreach)
  refine ⟨fun htotal => ⟨?_, fun result later => hcompletes result later htotal⟩, ?_⟩
  · obtain ⟨result, later, houtcome⟩ := Outcome.exists_of_uses refresh_uses
      (fun op hop => @probingStep_answers outcomes op hop) scheduler
    have hreach : Reaches (probingStep outcomes) OwnerStep (refresh.run, scheduler)
        (.ret result, later) := .of_outcome houtcome
    rw [hcompletes result later htotal hreach] at hreach
    exact ⟨later, hreach⟩
  · intro later hreach spec hspec
    obtain ⟨current, hcurrent, hselected⟩ := refresh_ends hreach spec hspec
    refine ⟨current, hcurrent, hselected, ?_⟩
    intro outcomes' scheduler' later' hagree hsame hreach'
    obtain ⟨current', hcurrent', hselected'⟩ := refresh_ends hreach' spec hspec
    rw [hsame] at hcurrent'
    cases hcurrent'
    rw [hselected, ← hagree.chosenAddress_eq]
    exact hselected'

/-- For Google AI one probe of the default address throws and the next address fails;
everything else works. -/
def outage : Outcomes := fun key =>
  if key.group = .googleAi ∧ key.address = "62.133.62.97" ∧
    key.domain = "robinfrontend-pa.googleapis.com" then none
  else some (decide ¬ (key.group = .googleAi ∧ key.address = "103.27.157.38"))

/-- Google AI moves to the third address, and NotebookLM stays on the first. -/
theorem refresh_selects_outage :
    ∃ later, Reaches (probingStep outage) OwnerStep (refresh.run, started)
        (.ret (.ok ()), later) ∧
      later.selected .googleAi = some "103.27.157.100" ∧
      later.selected .notebookLm = some "62.133.62.97" := by
  have htotal : Total started.selected := (complete_loadSavedGateways KMap.empty).total
  obtain ⟨hcompletes, hselects⟩ := refresh_selects outage started
  obtain ⟨later, hreach⟩ := (hcompletes htotal).1
  have hselected : ∀ spec ∈ GATEWAY_SPECS, ∀ current,
      started.selected spec.group = some current →
      later.selected spec.group = some (chosenAddress outage spec current) := by
    intro spec hspec current hcurrent
    obtain ⟨current', hcurrent', hlater, _⟩ := hselects later hreach spec hspec
    rw [hcurrent] at hcurrent'
    rwa [Option.some.inj hcurrent']
  refine ⟨later, hreach, ?_, ?_⟩
  · exact hselected GATEWAY_SPECS[0] (by decide) "62.133.62.97" (by decide)
  · exact hselected GATEWAY_SPECS[1] (by decide) "62.133.62.97" (by decide)

end AIUnblock.GatewaySelector
