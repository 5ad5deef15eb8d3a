import AIUnblock.Gateway.Selection

/-! # Any number of refreshes

A refresh looks nothing up that is missing, selects candidates only, and saves what
it selected. So the selection stays complete while the selector is in use, and a
selector that is created from the saved preferences starts where the last refresh
ended.
-/

namespace AIUnblock.GatewaySelector

open Prog Relation

/-! ## The selection and the preferences -/

abbrev Store : Type := Gateways × KMap String String

def Scheduler.store (scheduler : Scheduler) : Store := (scheduler.selected, scheduler.preferences)

/-- What a call does to the selection and the preferences. -/
def storeAfter : SelectorOp → Store → Store
  | .setSelected gateways, store => (gateways, store.2)
  | .applyPreferences entries, store =>
    (store.1, entries.foldl (fun saved entry => saved.put entry.1 entry.2) store.2)
  | _, store => store

/-- The calls that always return. -/
def Sure : SelectorOp → Prop
  | .awaitAuthorization _ | .awaitProbe _ | .schedulePeriodicTask => False
  | _ => True

section Steps

variable {op : SelectorOp} {scheduler scheduler' : Scheduler} {answer : op.Answer}

/-- The selection and the preferences change only by their own calls. -/
theorem selectorStep_store (hstep : selectorStep op scheduler answer scheduler') :
    scheduler'.store = storeAfter op scheduler.store ∧ scheduler'.running = scheduler.running := by
  cases op with
  | awaitAuthorization =>
      obtain ⟨hframe, hselected, hpreferences, _⟩ := Awaits.frame hstep
      exact ⟨by rw [Scheduler.store, hselected, hpreferences]; rfl, hframe.running⟩
  | awaitProbe key =>
      obtain ⟨after, hawaits, rfl⟩ := hstep
      obtain ⟨hframe, hselected, hpreferences, _⟩ := hawaits.frame
      have hstore : after.store = scheduler.store := by
        rw [Scheduler.store, hselected, hpreferences]
        rfl
      split <;> exact ⟨hstore, hframe.running⟩
  | schedulePeriodicTask =>
      rw [selectorStep] at hstep
      split at hstep <;> obtain ⟨_, rfl⟩ := hstep <;> exact ⟨rfl, rfl⟩
  | cancelPeriodicTask =>
      obtain ⟨_, rfl⟩ := hstep
      split <;> exact ⟨rfl, rfl⟩
  | _ =>
      obtain ⟨_, rfl⟩ := hstep
      exact ⟨rfl, rfl⟩

/-- The calls on fields and preferences return. -/
theorem Sure.answers (hsure : Sure op) (hstep : selectorStep op scheduler answer scheduler') :
    ∃ value, answer = .ok value := by
  cases op with
  | awaitAuthorization | awaitProbe | schedulePeriodicTask => exact hsure.elim
  | _ => exact ⟨_, hstep.1⟩

end Steps

/-- Other threads leave the selection and the preferences alone. -/
def SameStore (scheduler scheduler' : Scheduler) : Prop := scheduler'.store = scheduler.store

/-- An assertion about the selection and the preferences. -/
def Stored (P : Store → Prop) (scheduler : Scheduler) : Prop := P scheduler.store

/-- What holds of the store is stable as long as it is the same. -/
theorem stable_stored (P : Store → Prop) : Stable SameStore (Stored P) := by
  intro scheduler scheduler' hP hsame
  rw [Stored, hsame]
  exact hP

/-! ## Triples of the calls -/

section Calls

variable {P Q : Store → Prop}

/-- A call that returns does to the store what it says. -/
theorem call_stored {op : SelectorOp} (hsure : Sure op)
    (hafter : ∀ store, P store → Q (storeAfter op store)) :
    TripleE selectorStep SameStore (Stored P) (selectorCall op) (fun _ => Stored Q)
      fun _ _ => False := by
  apply TripleE.io (stable_stored P) (fun _ => stable_stored Q) (fun _ => stable_false _)
  · intro scheduler value scheduler' hP hstep
    rw [Stored, (selectorStep_store hstep).1]
    exact hafter _ hP
  · intro scheduler error scheduler' _ hstep
    obtain ⟨value, hvalue⟩ := hsure.answers hstep
    contradiction

/-- A look at something else. -/
theorem look_stored {op : SelectorOp} (hsure : Sure op)
    (hkeep : ∀ store, storeAfter op store = store) :
    TripleE selectorStep SameStore (Stored P) (selectorCall op) (fun _ => Stored P)
      fun _ _ => False := by
  apply call_stored hsure
  intro store hP
  rw [hkeep]
  exact hP

/-- What is read is the selection. -/
theorem getSelected_stored :
    TripleE selectorStep SameStore (Stored P) (selectorCall .getSelected)
      (fun gateways => Stored fun store => store.1 = gateways ∧ P store) fun _ _ => False := by
  apply TripleE.io (stable_stored P) (fun _ => stable_stored _) (fun _ => stable_false _)
  · rintro scheduler gateways scheduler' hP ⟨hanswer, rfl⟩
    exact ⟨(Except.ok.inj hanswer).symm, hP⟩
  · rintro scheduler error scheduler' _ ⟨hanswer, _⟩
    contradiction

/-- A call that leaves the store alone, however it ends. -/
theorem wait_stored {op : SelectorOp} (hkeep : ∀ store, storeAfter op store = store) :
    TripleE selectorStep SameStore (Stored P) (selectorCall op) (fun _ => Stored P)
      fun _ => Stored P := by
  have huses : (selectorCall op).run.Uses (· = op) := Uses.io rfl
  apply TripleE.uses huses (stable_stored P)
  rintro _ rfl scheduler answer scheduler' hP hstep
  rw [Stored, (selectorStep_store hstep).1, hkeep]
  exact hP

/-- A wait that fails counts as `false`. -/
theorem resultOf_stored {wait : SelectorM Bool}
    (hwait : TripleE selectorStep SameStore (Stored P) wait (fun _ => Stored P) fun _ => Stored P) :
    TripleE selectorStep SameStore (Stored P) (resultOf wait) (fun _ => Stored P)
      fun _ _ => False := by
  apply TripleE.tryCatch hwait
  exact fun _ => TripleE.pure (stable_stored P) fun _ hP => hP

/-- Authorizing leaves the store alone, also when it fails. -/
theorem authorizeSmartDns_stored (addresses : List String) :
    TripleE selectorStep SameStore (Stored P) (authorizeSmartDns addresses) (fun _ => Stored P)
      fun _ _ => False := by
  induction addresses with
  | nil => exact TripleE.pure (stable_stored P) fun _ hP => hP
  | cons address addresses ih =>
      apply TripleE.bind (resultOf_stored (wait_stored fun _ => rfl))
      exact fun _ => ih

/-- So do the probes of a candidate. -/
theorem passesAll_stored (group : GatewayGroup) (candidate : String) (domains : List String) :
    TripleE selectorStep SameStore (Stored P) (passesAll group candidate domains)
      (fun _ => Stored P) fun _ _ => False := by
  induction domains with
  | nil => exact TripleE.pure (stable_stored P) fun _ hP => hP
  | cons domain domains ih =>
      apply TripleE.bind (resultOf_stored (wait_stored fun _ => rfl))
      intro passed
      cases passed with
      | true => exact ih
      | false => exact TripleE.pure (stable_stored P) fun _ hP => hP

/-- The probes of the candidates of a group. -/
theorem probeCandidates_stored (spec : GatewaySpec) (candidates : List String)
    (groupResults : KMap String Bool) :
    TripleE selectorStep SameStore (Stored P) (probeCandidates spec candidates groupResults)
      (fun _ => Stored P) fun _ _ => False := by
  induction candidates generalizing groupResults with
  | nil => exact TripleE.pure (stable_stored P) fun _ hP => hP
  | cons candidate candidates ih =>
      apply TripleE.bind (passesAll_stored _ _ _)
      exact fun _ => ih _

/-- And those of all groups. -/
theorem probeMatrix_stored (candidatesByGroup : KMap GatewayGroup (List String))
    (specs : List GatewaySpec) (results : KMap GatewayGroup (KMap String Bool)) :
    TripleE selectorStep SameStore (Stored P) (probeMatrix candidatesByGroup specs results)
      (fun _ => Stored P) fun _ _ => False := by
  induction specs generalizing results with
  | nil => exact TripleE.pure (stable_stored P) fun _ hP => hP
  | cons spec specs ih =>
      apply TripleE.bind (probeCandidates_stored _ _ _)
      exact fun _ => ih _

end Calls

/-! ## A refresh -/

/-- The preferences load to the selection, which is complete. -/
def Reloads (store : Store) : Prop := Complete store.1 ∧ loadSavedGateways store.2 = store.1

/-- The selection was set and saved in a store that `P` holds of. -/
def Published (P : Store → Prop) (updated : Gateways) (store : Store) : Prop :=
  ∃ before, P before ∧ store = (updated,
    (savedEntries updated).foldl (fun saved entry => saved.put entry.1 entry.2) before.2)

/-- A selection without gaps is set and saved, and nothing is thrown. -/
theorem publish_stored {P : Store → Prop} {updated : Gateways} (htotal : Total updated) :
    TripleE selectorStep SameStore (Stored P) (publish updated)
      (fun _ => Stored (Published P updated)) fun _ _ => False := by
  rw [publish, htotal.persist]
  have hselect : TripleE selectorStep SameStore (Stored P) (selectorCall (.setSelected updated))
      (fun _ => Stored fun store => ∃ before, P before ∧ store = (updated, before.2))
      fun _ _ => False :=
    call_stored trivial fun store hP => ⟨store, hP, rfl⟩
  have hpersist : TripleE selectorStep SameStore
      (Stored fun store => ∃ before, P before ∧ store = (updated, before.2))
      (selectorCall (.applyPreferences (savedEntries updated)))
      (fun _ => Stored (Published P updated)) fun _ _ => False := by
    have hsure : Sure (.applyPreferences (savedEntries updated)) := trivial
    apply call_stored hsure
    rintro _ ⟨before, hP, rfl⟩
    exact ⟨before, hP, rfl⟩
  apply TripleE.bind hselect
  intro _
  apply TripleE.bind hpersist
  intro _
  apply TripleE.bind
  · exact look_stored trivial fun _ => rfl
  intro closed
  split
  next => exact TripleE.pure (stable_stored _) fun _ hpublished => hpublished
  next =>
    obtain ⟨text, htext⟩ := htotal.summary
    rw [htext, lift_ok_bind]
    exact look_stored trivial fun _ => rfl

/-- After a complete selection is published the preferences load to it. -/
theorem publish_reloads {P : Store → Prop} {updated : Gateways} (hcomplete : Complete updated) :
    TripleE selectorStep SameStore (Stored P) (publish updated) (fun _ => Stored Reloads)
      fun _ _ => False := by
  apply (publish_stored hcomplete.total).post
  rintro _ scheduler ⟨before, _, hstore⟩
  rw [Stored, hstore]
  exact ⟨hcomplete, hcomplete.reload before.2⟩

/-- A refresh throws nothing and saves what it selects. -/
theorem refresh_reloads :
    TripleE selectorStep SameStore (Stored Reloads) refresh (fun _ => Stored Reloads)
      fun _ _ => False := by
  rw [refresh]
  apply TripleE.bind getSelected_stored
  intro previous
  apply TripleE.assume (Complete previous)
  · rintro scheduler ⟨rfl, hcomplete, _⟩
    exact hcomplete
  intro hcomplete
  apply TripleE.tryFinally
  · apply TripleE.bind (authorizeSmartDns_stored _)
    intro _
    rw [hcomplete.total.currentCandidates, lift_ok_bind]
    apply TripleE.bind (probeMatrix_stored _ _ _)
    intro currentResults
    rw [hcomplete.total.failedSpecs, lift_ok_bind, hcomplete.total.alternatives, lift_ok_bind]
    apply TripleE.bind (probeMatrix_stored _ _ _)
    intro alternativeResults
    obtain ⟨updated, hupdated, hselection⟩ := hcomplete.selectGateways currentResults
      alternativeResults (List.Subset.refl GATEWAY_SPECS) hcomplete
    rw [hupdated, lift_ok_bind]
    exact publish_reloads hselection
  · exact fun _ => look_stored trivial fun _ => rfl
  · exact fun _ _ hfalse => hfalse.elim

/-- A refresh keeps this, whether it ends or throws. -/
theorem refreshSafely_reloads :
    Triple selectorStep SameStore (Stored Reloads) refreshSafely.run fun _ => Stored Reloads := by
  suffices hnormal : TripleE selectorStep SameStore (Stored Reloads) refreshSafely
      (fun _ => Stored Reloads) fun _ _ => False by
    apply Triple.conseq hnormal (fun _ hreloads => hreloads)
    intro result scheduler hends
    cases result with
    | ok => exact hends
    | error => exact hends.elim
  rw [refreshSafely]
  apply TripleE.bind
  · exact look_stored trivial fun _ => rfl
  intro closed
  split
  next => exact TripleE.pure (stable_stored Reloads) fun _ hreloads => hreloads
  next => exact TripleE.tryCatch refresh_reloads fun _ _ hfalse => hfalse.elim

/-! ## In the middle of a refresh -/

/-- What is read of a complete selection. -/
def Possible : (op : SelectorOp) → op.Answer → Prop
  | .getSelected, answer => ∀ gateways, answer = .ok gateways → Complete gateways
  | _, _ => True

/-- The calls of a refresh, with complete selections. -/
def SelectsComplete : SelectorOp → Prop
  | .setSelected gateways => Complete gateways
  | op => OfRefresh op

/-- Waiting selects nothing. -/
theorem Waits.selectsComplete {submitted : ProbeKey → Prop} {op : SelectorOp}
    (hwaits : Waits submitted op) : SelectsComplete op := by
  cases op with
  | awaitAuthorization | awaitProbe => trivial
  | _ => exact hwaits.elim

/-- Publishing selects what it is given. -/
theorem publish_selectsComplete {updated : Gateways} (hcomplete : Complete updated) :
    (publish updated).run.UsesGiven Possible SelectsComplete := by
  rw [publish, hcomplete.total.persist]
  obtain ⟨text, htext⟩ := hcomplete.total.summary
  rw [htext]
  have hselect : SelectsComplete (.setSelected updated) := hcomplete
  apply UsesGiven.bind_io hselect
  intro _ _
  apply UsesGiven.bind_io trivial
  intro _ _
  apply UsesGiven.bind_io trivial
  intro closed _
  split
  next => trivial
  next =>
    rw [lift_ok_bind]
    exact ⟨trivial, fun _ _ => trivial⟩

/-- All that a refresh selects is complete. -/
theorem refreshSafely_selectsComplete :
    refreshSafely.run.UsesGiven Possible SelectsComplete := by
  have hauthorize := (@authorizeSmartDns_uses (fun _ => False) AUTH_DNS).mono
    fun _ => Waits.selectsComplete
  have hprobe := fun candidates => (probeMatrix_waits candidates GATEWAY_SPECS KMap.empty).mono
    fun _ => Waits.selectsComplete
  rw [refreshSafely]
  apply UsesGiven.bind_io trivial
  intro closed _
  split
  next => trivial
  next =>
    refine UsesGiven.tryCatch ?_ fun _ => trivial
    apply UsesGiven.bind_io trivial
    intro previous hprevious
    have hcomplete := hprevious previous rfl
    have hcleanup : (selectorCall .shutdownProbePool).run.UsesGiven Possible SelectsComplete :=
      ⟨trivial, fun _ _ => trivial⟩
    refine UsesGiven.tryFinally ?_ hcleanup
    apply UsesGiven.bindE hauthorize.given
    intro _
    rw [hcomplete.total.currentCandidates, lift_ok_bind]
    apply UsesGiven.bindE (hprobe _).given
    intro currentResults
    rw [hcomplete.total.failedSpecs, lift_ok_bind, hcomplete.total.alternatives, lift_ok_bind]
    apply UsesGiven.bindE (hprobe _).given
    intro alternativeResults
    obtain ⟨updated, hupdated, hselection⟩ := hcomplete.selectGateways currentResults
      alternativeResults (List.Subset.refl GATEWAY_SPECS) hcomplete
    rw [hupdated, lift_ok_bind]
    exact publish_selectsComplete hselection

/-! ## Runs of a selector in use -/

/-- The calls of `start`, `close`, `summary` and `addressFor`. -/
def OfOwner : SelectorOp → Prop
  | .isClosed | .compareAndSetClosed | .hasPeriodicTask | .schedulePeriodicTask => True
  | .cancelPeriodicTask | .clearPeriodicTask | .shutdownScheduler | .getSelected => True
  | _ => False

/-- A call of a thread other than the scheduler's. -/
inductive OwnerStep : Scheduler → Scheduler → Prop
  | call {op scheduler answer scheduler'} (hop : OfOwner op)
      (hstep : selectorStep op scheduler answer scheduler') : OwnerStep scheduler scheduler'

/-- Some thread goes on. -/
inductive Turn : Scheduler → Scheduler → Prop
  | scheduler {scheduler scheduler'} (hstep : scheduler.Step scheduler') : Turn scheduler scheduler'
  | owner {scheduler scheduler'} (hstep : OwnerStep scheduler scheduler') :
      Turn scheduler scheduler'

/-- The owner's calls leave the store to the scheduler's thread. -/
theorem OwnerStep.sameStore {scheduler scheduler' : Scheduler}
    (hstep : OwnerStep scheduler scheduler') :
    SameStore scheduler scheduler' ∧ scheduler'.running = scheduler.running := by
  cases hstep with
  | @call op _ _ _ hop hstep =>
      obtain ⟨hstore, hrunning⟩ := selectorStep_store hstep
      refine ⟨hstore.trans ?_, hrunning⟩
      cases op with
      | setSelected | applyPreferences => exact hop.elim
      | _ => rfl

/-- The invariant: the selection is complete, and the refresh that runs will leave it
saved. -/
structure Kept (scheduler : Scheduler) : Prop where
  complete : Complete scheduler.selected
  idle : scheduler.running = none → Reloads scheduler.store
  selects : ∀ task, scheduler.running = some task → task.UsesGiven Possible SelectsComplete
  saves : ∀ task, scheduler.running = some task →
    Safe selectorStep SameStore (fun _ => Stored Reloads) task scheduler

/-- What the saved preferences load to is complete. -/
theorem kept_fresh (started : Bool) (saved : KMap String String) :
    Kept (.fresh started (loadSavedGateways saved) saved) where
  complete := complete_loadSavedGateways saved
  idle _ := ⟨complete_loadSavedGateways saved, rfl⟩
  selects := nofun
  saves := nofun

/-- Calls that select complete selections keep the selection complete. -/
theorem SelectsComplete.storeAfter {op : SelectorOp} (hop : SelectsComplete op) {store : Store}
    (hcomplete : Complete store.1) : Complete (storeAfter op store).1 := by
  cases op with
  | setSelected => exact hop
  | _ => exact hcomplete

/-- What is read is then complete. -/
theorem possible_of_complete {op : SelectorOp} {scheduler scheduler' : Scheduler}
    {answer : op.Answer} (hcomplete : Complete scheduler.selected)
    (hstep : selectorStep op scheduler answer scheduler') : Possible op answer := by
  cases op with
  | getSelected =>
      obtain ⟨rfl, _⟩ := hstep
      intro gateways hgateways
      rwa [← Except.ok.inj hgateways]
  | _ => trivial

/-- Every step of the scheduler's thread keeps this. -/
theorem Kept.schedulerStep {scheduler scheduler' : Scheduler} (hkept : Kept scheduler)
    (hstep : scheduler.Step scheduler') : Kept scheduler' := by
  obtain ⟨hcomplete, hidle, hselects, hsaves⟩ := hkept
  cases hstep with
  | begin hnone _ =>
      refine ⟨hcomplete, nofun, ?_, ?_⟩
      · intro task htask
        rw [← Option.some.inj htask]
        exact refreshSafely_selectsComplete
      · intro task htask
        rw [← Option.some.inj htask]
        have hsafe := refreshSafely_reloads scheduler (hidle hnone)
        exact hsafe.interfere rfl
  | @act op next answer after hrunning hstep =>
      obtain ⟨hop, hnext⟩ := hselects _ hrunning
      obtain ⟨hstore, _⟩ := selectorStep_store hstep
      have hafter : Complete after.store.1 := by
        rw [hstore]
        exact hop.storeAfter hcomplete
      refine ⟨hafter, nofun, ?_, ?_⟩
      · intro task htask
        rw [← Option.some.inj htask]
        exact hnext answer (possible_of_complete hcomplete hstep)
      · intro task htask
        rw [← Option.some.inj htask]
        have hrest := hsaves _ hrunning scheduler .refl answer after hstep
        exact hrest.interfere rfl
  | finish hrunning =>
      have hends := hsaves _ hrunning scheduler .refl
      exact ⟨hcomplete, fun _ => hends, nofun, nofun⟩

/-- And every step of its owner. -/
theorem Kept.turn {scheduler scheduler' : Scheduler} (hkept : Kept scheduler)
    (hturn : Turn scheduler scheduler') : Kept scheduler' := by
  cases hturn with
  | scheduler hstep => exact hkept.schedulerStep hstep
  | owner hstep =>
      obtain ⟨hstore, hrunning⟩ := hstep.sameStore
      obtain ⟨hcomplete, hidle, hselects, hsaves⟩ := hkept
      have hselected : scheduler'.selected = scheduler.selected := congrArg Prod.fst hstore
      refine ⟨by rwa [hselected], ?_, ?_, ?_⟩
      · intro hnone
        rw [hrunning] at hnone
        rw [hstore]
        exact hidle hnone
      · rwa [hrunning]
      · intro task htask
        rw [hrunning] at htask
        exact (hsaves task htask).interfere hstore

theorem stable_kept : Stable Turn Kept := fun _ _ hkept hturn => hkept.turn hturn

/-- A thread that reads the selection finds it complete. -/
theorem getSelected_kept :
    TripleE selectorStep Turn Kept (selectorCall .getSelected) (fun gateways _ => Complete gateways)
      fun _ _ => False := by
  apply TripleE.io stable_kept (fun _ _ _ hcomplete _ => hcomplete) (fun _ => stable_false _)
  · rintro scheduler gateways scheduler' hkept ⟨hanswer, _⟩
    rw [Except.ok.inj hanswer]
    exact hkept.complete
  · rintro scheduler error scheduler' _ ⟨hanswer, _⟩
    contradiction

/-- So the summary finds all it looks up. -/
theorem currentSummary_kept :
    TripleE selectorStep Turn Kept currentSummary (fun _ _ => True) fun _ _ => False := by
  apply TripleE.bind getSelected_kept
  intro gateways
  apply TripleE.assume (Complete gateways) (fun _ hcomplete => hcomplete)
  intro hcomplete
  obtain ⟨text, htext⟩ := hcomplete.total.summary
  rw [htext]
  exact TripleE.pure (fun _ _ _ _ => trivial) fun _ _ => trivial

/-- And the address of a group is one of its candidates, resolved. -/
theorem addressFor_kept (getByName : String → Except Exception InetAddress) (group : GatewayGroup) :
    Triple selectorStep Turn Kept (addressFor getByName group).run fun result _ =>
      ∃ address, IsCandidate group address ∧ result = getByName address := by
  have hbody : TripleE selectorStep Turn Kept (addressFor getByName group)
      (fun value _ => ∃ address, IsCandidate group address ∧ .ok value = getByName address)
      fun error _ => ∃ address, IsCandidate group address ∧ .error error = getByName address := by
    apply TripleE.bind (getSelected_kept.failure fun _ _ hfalse => hfalse.elim)
    intro gateways
    apply TripleE.assume (Complete gateways) (fun _ hcomplete => hcomplete)
    intro hcomplete
    obtain ⟨address, haddress, hcandidate⟩ := hcomplete group
    rw [haddress]
    intro scheduler _ later _
    change Ends _ _ (getByName address) later
    cases hname : getByName address with
    | ok value => exact ⟨address, hcandidate, hname.symm⟩
    | error error => exact ⟨address, hcandidate, hname.symm⟩
  apply Triple.conseq hbody (fun _ hkept => hkept)
  intro result scheduler hends
  cases result with
  | ok => exact hends
  | error => exact hends

/-- Whatever was saved before and however the probes end: at every point of a run the
selection gives each group one of its candidates; between two refreshes the saved
preferences load to it; a refresh, the summary and the address of a group find all
they look up. -/
theorem selection_kept (saved : KMap String String) (started : Bool) {scheduler : Scheduler}
    (hrun : ReflTransGen Turn (.fresh started (loadSavedGateways saved) saved) scheduler) :
    Complete scheduler.selected ∧
      (scheduler.running = none →
        loadSavedGateways scheduler.preferences = scheduler.selected ∧
        ∀ result later,
          Reaches selectorStep OwnerStep (refresh.run, scheduler) (.ret result, later) →
          result = .ok () ∧ Complete later.selected ∧
            loadSavedGateways later.preferences = later.selected) ∧
      (∀ candidatesByGroup, (probeMatrix candidatesByGroup GATEWAY_SPECS KMap.empty).run.Uses
        (Waits (· ∈ submittedProbes candidatesByGroup GATEWAY_SPECS))) ∧
      (∀ result later,
        Reaches selectorStep Turn (currentSummary.run, scheduler) (.ret result, later) →
        ∃ text, result = .ok text) ∧
      ∀ getByName group result later,
        Reaches selectorStep Turn ((addressFor getByName group).run, scheduler)
            (.ret result, later) →
          ∃ address, IsCandidate group address ∧ result = getByName address := by
  have hkept := stable_kept.star (kept_fresh started saved) hrun
  refine ⟨hkept.complete, ?_, ?_, ?_, ?_⟩
  · intro hnone
    refine ⟨(hkept.idle hnone).2, ?_⟩
    intro result later hreach
    have hends := Triple.reaches refresh_reloads (hkept.idle hnone)
      (hreach.mono fun _ _ hstep => hstep.sameStore.1)
    cases result with
    | ok => exact ⟨rfl, hends⟩
    | error => exact hends.elim
  · exact fun candidates => probeMatrix_waits candidates GATEWAY_SPECS KMap.empty
  · intro result later hreach
    have hends := Triple.reaches currentSummary_kept hkept hreach
    cases result with
    | ok text => exact ⟨text, rfl⟩
    | error => exact hends.elim
  · exact fun getByName group result later hreach =>
      Triple.reaches (addressFor_kept getByName group) hkept hreach

/-- Preferences with a stale address and none for the other groups. -/
def stalePreferences : KMap String String := KMap.empty.put "gateway_claude" "203.0.113.1"

/-- The default address of Claude fails its probe, every other probe succeeds. -/
def claudeFails : (op : SelectorOp) → Scheduler → Option (op.Answer × Scheduler)
  | .awaitProbe key, scheduler =>
    some (.ok (decide ¬ (key.group = .claude ∧ key.address = "87.228.47.204")), scheduler)
  | .onSelectionUpdated summary, scheduler =>
    some (.ok (), { scheduler with updates := scheduler.updates ++ [summary] })
  | op, scheduler => probesSucceed op scheduler

/-- The outcomes are possible ones. -/
theorem claudeFails_step {op : SelectorOp} {scheduler scheduler' : Scheduler} {answer : op.Answer}
    (hanswer : claudeFails op scheduler = some (answer, scheduler')) (task : Option Task) :
    selectorStep op { scheduler with running := task } answer
      { scheduler' with running := task } := by
  cases op with
  | awaitProbe key =>
      cases hanswer
      exact ⟨_, .value _, rfl⟩
  | onSelectionUpdated summary =>
      cases hanswer
      exact ⟨rfl, rfl⟩
  | _ =>
      have hsame : probesSucceed _ scheduler = some (answer, scheduler') := hanswer
      exact probesSucceed_step hsame task

/-- A refresh on the stale preferences ends, moves Claude and leaves preferences that
load to what it selected. -/
theorem selection_kept_moved : ∃ last,
    ReflTransGen Turn (.fresh true (loadSavedGateways stalePreferences) stalePreferences) last ∧
      last.running = none ∧ last.selected .claude = some "185.246.223.127" ∧
      Complete last.selected ∧ loadSavedGateways last.preferences = last.selected := by
  let fresh : Scheduler := .fresh true (loadSavedGateways stalePreferences) stalePreferences
  have hends : (refreshSafely.run.run claudeFails fresh).map
      (fun ended => ended.2.selected .claude) = some (some "185.246.223.127") := by
    decide
  obtain ⟨⟨result, last⟩, hrun, hclaude⟩ := Option.map_eq_some_iff.mp hends
  have hbegin : Scheduler.Step fresh { fresh with running := some refreshSafely.run } :=
    .begin rfl rfl
  have hrefresh := running_reaches claudeFails_step .ret hrun
  rw [show refreshSafely.run >>= .ret = refreshSafely.run from bind_ret _] at hrefresh
  have hsteps := (ReflTransGen.head hbegin hrefresh).tail (.finish rfl)
  have hturns : ReflTransGen Turn fresh { last with running := none } :=
    hsteps.lift id fun _ _ hstep => .scheduler hstep
  obtain ⟨hcomplete, hbetween, _⟩ := selection_kept stalePreferences true hturns
  exact ⟨_, hturns, rfl, hclaude, hcomplete, (hbetween rfl).1⟩

end AIUnblock.GatewaySelector
