import AIUnblock.Gateway.Scheduler

/-! # Closing a `GatewaySelector`

`close` neither waits for the refresh that runs nor is asked by it before it writes.
So a closed selector is quiet only if the refresh had nothing left to write, and
the interruption is harmless only if it had no probe left to wait for.
-/

namespace AIUnblock.GatewaySelector

open Prog Relation

/-! ## Calls of a refresh -/

/-- The calls of a refresh. -/
def OfRefresh : SelectorOp → Prop
  | .compareAndSetClosed | .hasPeriodicTask | .schedulePeriodicTask => False
  | .cancelPeriodicTask | .clearPeriodicTask | .shutdownScheduler => False
  | _ => True

/-- The calls of a refresh that do not wait for a probe. -/
def Unprobing : SelectorOp → Prop
  | .awaitProbe _ => False
  | op => OfRefresh op

/-- The calls of a refresh that neither wait for a probe nor write. -/
def Quiet : SelectorOp → Prop
  | .setSelected _ | .applyPreferences _ | .onSelectionUpdated _ => False
  | op => Unprobing op

/-- The answers that a refresh gets from a closed selector. -/
def WhenClosed : (op : SelectorOp) → op.Answer → Prop
  | .isClosed, answer => answer = .ok true
  | _, _ => True

/-- A call that has no effect waits for no probe. -/
theorem Quiet.unprobing {op : SelectorOp} (hquiet : Quiet op) : Unprobing op := by
  cases op with
  | setSelected | applyPreferences | onSelectionUpdated => exact hquiet.elim
  | _ => exact hquiet

/-- A refresh makes such calls. -/
theorem Unprobing.ofRefresh {op : SelectorOp} (hunprobing : Unprobing op) : OfRefresh op := by
  cases op with
  | awaitProbe => exact hunprobing.elim
  | _ => exact hunprobing

/-- The waits for authorizations and for submitted probes. -/
def Waits (submitted : ProbeKey → Prop) : SelectorOp → Prop
  | .awaitAuthorization _ => True
  | .awaitProbe key => submitted key
  | _ => False

/-- And it waits for its probes. -/
theorem Waits.ofRefresh {submitted : ProbeKey → Prop} {op : SelectorOp}
    (hwaits : Waits submitted op) : OfRefresh op := by
  cases op with
  | awaitAuthorization | awaitProbe => trivial
  | _ => exact hwaits.elim

section Waits

variable {submitted : ProbeKey → Prop}

theorem authorizeSmartDns_uses (addresses : List String) :
    (authorizeSmartDns addresses).run.Uses (Waits submitted) := by
  induction addresses with
  | nil => trivial
  | cons address addresses ih =>
      apply Uses.bindE
      · exact Uses.tryCatch (Uses.io trivial) fun _ => trivial
      · exact fun _ => ih

/-- The probes of a candidate are awaited after they were submitted. -/
theorem passesAll_uses {group : GatewayGroup} {candidate : String} {domains : List String}
    (hsubmitted : ∀ domain ∈ domains, submitted { group, address := candidate, domain }) :
    (passesAll group candidate domains).run.Uses (Waits submitted) := by
  induction domains with
  | nil => trivial
  | cons domain domains ih =>
      rw [List.forall_mem_cons] at hsubmitted
      apply Uses.bindE
      · exact Uses.tryCatch (Uses.io hsubmitted.1) fun _ => trivial
      · intro passed
        split
        next => exact ih hsubmitted.2
        next => trivial

/-- So are the probes of all candidates of a group. -/
theorem probeCandidates_uses {spec : GatewaySpec} {candidates : List String}
    (hsubmitted : ∀ address ∈ candidates, ∀ domain ∈ spec.checkDomains,
      submitted { group := spec.group, address, domain }) (groupResults : KMap String Bool) :
    (probeCandidates spec candidates groupResults).run.Uses (Waits submitted) := by
  induction candidates generalizing groupResults with
  | nil => trivial
  | cons candidate candidates ih =>
      rw [List.forall_mem_cons] at hsubmitted
      exact Uses.bindE (passesAll_uses hsubmitted.1) fun _ => ih hsubmitted.2 _

/-- And the probes of all groups. -/
theorem probeMatrix_uses {candidatesByGroup : KMap GatewayGroup (List String)}
    {specs : List GatewaySpec}
    (hsubmitted : ∀ key ∈ submittedProbes candidatesByGroup specs, submitted key)
    (results : KMap GatewayGroup (KMap String Bool)) :
    (probeMatrix candidatesByGroup specs results).run.Uses (Waits submitted) := by
  induction specs generalizing results with
  | nil => trivial
  | cons spec specs ih =>
      rw [submittedProbes, List.flatMap_cons, List.forall_mem_append] at hsubmitted
      apply Uses.bindE
      · apply probeCandidates_uses
        intro address haddress domain hdomain
        apply hsubmitted.1
        exact List.mem_flatMap_of_mem haddress (List.mem_map_of_mem hdomain)
      · exact fun _ => ih hsubmitted.2 _

end Waits

/-- `futures.getValue(key)` finds the key of every wait. -/
theorem probeMatrix_waits (candidatesByGroup : KMap GatewayGroup (List String))
    (specs : List GatewaySpec) (results : KMap GatewayGroup (KMap String Bool)) :
    (probeMatrix candidatesByGroup specs results).run.Uses
      (Waits (· ∈ submittedProbes candidatesByGroup specs)) :=
  probeMatrix_uses (fun _ hmem => hmem) results

theorem publish_uses (updated : Gateways) : (publish updated).run.Uses OfRefresh := by
  apply Uses.bindE (Uses.io trivial)
  intro _
  apply Uses.bindE
  · exact Uses.bindE (Uses.lift _) fun _ => Uses.io trivial
  · intro _
    apply Uses.bindE (Uses.io trivial)
    intro closed
    split
    next => trivial
    next => exact Uses.bindE (Uses.lift _) fun _ => Uses.io trivial

theorem refresh_uses : refresh.run.Uses OfRefresh := by
  apply Uses.bindE (Uses.io trivial)
  intro previous
  apply Uses.tryFinally
  · have hauthorize := @authorizeSmartDns_uses (fun _ => False) AUTH_DNS
    apply Uses.bindE (hauthorize.mono fun _ => Waits.ofRefresh)
    intro _
    apply Uses.bindE (Uses.lift _)
    intro current
    apply Uses.bindE ((probeMatrix_waits _ _ _).mono fun _ => Waits.ofRefresh)
    intro currentResults
    apply Uses.bindE (Uses.lift _)
    intro failed
    apply Uses.bindE (Uses.lift _)
    intro others
    apply Uses.bindE ((probeMatrix_waits _ _ _).mono fun _ => Waits.ofRefresh)
    intro alternativeResults
    exact Uses.bindE (Uses.lift _) fun updated => publish_uses updated
  · exact Uses.io trivial

/-- A refresh closes, starts and stops nothing. -/
theorem refreshSafely_uses : refreshSafely.run.Uses OfRefresh := by
  apply Uses.bindE (Uses.io trivial)
  intro closed
  split
  next => trivial
  next => exact Uses.tryCatch refresh_uses fun _ => trivial

/-! ## What a step of the refresh keeps -/

section Steps

variable {op : SelectorOp} {scheduler scheduler' : Scheduler} {answer : op.Answer}

/-- A call of a refresh starts and stops nothing. -/
structure Frame (scheduler scheduler' : Scheduler) : Prop where
  closed : scheduler'.closed = scheduler.closed
  scheduled : scheduler'.scheduled = scheduler.scheduled
  running : scheduler'.running = scheduler.running
  interrupted : scheduler'.interrupted = true → scheduler.interrupted = true

/-- Waiting changes at most the interrupt status. -/
theorem Awaits.frame {scheduler scheduler' : Scheduler} {answer : Except Exception Bool}
    (hawaits : Awaits scheduler answer scheduler') :
    Frame scheduler scheduler' ∧ scheduler'.selected = scheduler.selected ∧
      scheduler'.preferences = scheduler.preferences ∧ scheduler'.updates = scheduler.updates ∧
      scheduler'.interruptedProbes = scheduler.interruptedProbes := by
  cases hawaits with
  | value | failed => exact ⟨⟨rfl, rfl, rfl, id⟩, rfl, rfl, rfl, rfl⟩
  | interrupted => exact ⟨⟨rfl, rfl, rfl, nofun⟩, rfl, rfl, rfl, rfl⟩

/-- No call of a refresh changes what `close` looks at. -/
theorem selectorStep_frame (hop : OfRefresh op)
    (hstep : selectorStep op scheduler answer scheduler') :
    Frame scheduler scheduler' := by
  cases op with
  | compareAndSetClosed | hasPeriodicTask | schedulePeriodicTask | cancelPeriodicTask
    | clearPeriodicTask | shutdownScheduler => exact hop.elim
  | awaitAuthorization => exact (Awaits.frame hstep).1
  | awaitProbe key =>
      obtain ⟨after, hawaits, rfl⟩ := hstep
      obtain ⟨⟨hclosed, hscheduled, hrunning, hinterrupted⟩, _⟩ := hawaits.frame
      split <;> exact ⟨hclosed, hscheduled, hrunning, hinterrupted⟩
  | isClosed | shutdownProbePool | getSelected | setSelected | applyPreferences
    | onSelectionUpdated =>
      obtain ⟨_, rfl⟩ := hstep
      exact ⟨rfl, rfl, rfl, id⟩

/-- Only a wait for a probe notes an interruption, and only if there is one. -/
theorem selectorStep_probes (hop : OfRefresh op)
    (hcalm : Unprobing op ∨ scheduler.interrupted = false)
    (hstep : selectorStep op scheduler answer scheduler') :
    scheduler'.interruptedProbes = scheduler.interruptedProbes := by
  cases op with
  | compareAndSetClosed | hasPeriodicTask | schedulePeriodicTask | cancelPeriodicTask
    | clearPeriodicTask | shutdownScheduler => exact hop.elim
  | awaitAuthorization => exact (Awaits.frame hstep).2.2.2.2
  | awaitProbe key =>
      obtain ⟨after, hawaits, rfl⟩ := hstep
      have hfalse := hcalm.resolve_left id
      cases hawaits with
      | value | failed => rfl
      | interrupted hinterrupted =>
          rw [hfalse] at hinterrupted
          contradiction
  | isClosed | shutdownProbePool | getSelected | setSelected | applyPreferences
    | onSelectionUpdated =>
      obtain ⟨_, rfl⟩ := hstep
      rfl

/-- What the owner of a selector can tell: the selection, what is saved and the
notifications. -/
def Scheduler.effects (scheduler : Scheduler) : Gateways × KMap String String × List String :=
  (scheduler.selected, scheduler.preferences, scheduler.updates)

/-- A quiet call selects, saves and announces nothing. -/
theorem selectorStep_quiet (hop : Quiet op) (hstep : selectorStep op scheduler answer scheduler') :
    scheduler'.effects = scheduler.effects := by
  cases op with
  | isClosed | shutdownProbePool | getSelected =>
      obtain ⟨_, rfl⟩ := hstep
      rfl
  | awaitAuthorization =>
      obtain ⟨_, hselected, hpreferences, hupdates, _⟩ := Awaits.frame hstep
      simp only [Scheduler.effects, hselected, hpreferences, hupdates]
  | _ => exact hop.elim

/-- Once the selector is closed every look finds it so. -/
theorem selectorStep_whenClosed (hclosed : scheduler.closed = true)
    (hstep : selectorStep op scheduler answer scheduler') : WhenClosed op answer := by
  cases op with
  | isClosed => exact hstep.1.trans (congrArg Except.ok hclosed)
  | _ => trivial

end Steps

/-! ## The stages of `close` -/

/-- Nobody has interrupted the scheduler. -/
structure Undisturbed (closed : Bool) (scheduler : Scheduler) : Prop where
  closed : scheduler.closed = closed
  interrupted : scheduler.interrupted = false
  probes : scheduler.interruptedProbes = []
  task : ∀ task, scheduler.running = some task → task.Uses OfRefresh

/-- If the scheduler is interrupted, it does not come to wait for a probe. -/
structure Closing (scheduler : Scheduler) : Prop where
  closed : scheduler.closed = true
  probes : scheduler.interruptedProbes = []
  task : ∀ task, scheduler.running = some task → task.Uses OfRefresh
  interrupted : scheduler.interrupted = true → ∀ task, scheduler.running = some task →
    task.UsesGiven WhenClosed Unprobing

/-- The scheduler writes nothing any more. -/
structure Silenced (effects : Gateways × KMap String String × List String)
    (scheduler : Scheduler) : Prop where
  closed : scheduler.closed = true
  scheduled : scheduler.scheduled = false
  probes : scheduler.interruptedProbes = []
  effects : scheduler.effects = effects
  task : ∀ task, scheduler.running = some task → task.UsesGiven WhenClosed Quiet

/-- Without a `close` the thread is never interrupted. -/
theorem stable_undisturbed (closed : Bool) : Stable Scheduler.Step (Undisturbed closed) := by
  intro scheduler scheduler' hundisturbed hstep
  obtain ⟨hclosed, hinterrupted, hprobes, htask⟩ := hundisturbed
  cases hstep with
  | begin hidle hscheduled =>
      refine ⟨hclosed, rfl, hprobes, ?_⟩
      rintro _ ⟨⟩
      exact refreshSafely_uses
  | @act op next answer after hrunning hstep =>
      have huses := htask _ hrunning
      have hframe := selectorStep_frame huses.1 hstep
      refine ⟨hframe.closed.trans hclosed, ?_, ?_, ?_⟩
      · rw [← Bool.not_eq_true]
        intro htrue
        rw [hframe.interrupted htrue] at hinterrupted
        contradiction
      · exact (selectorStep_probes huses.1 (Or.inr hinterrupted) hstep).trans hprobes
      · rintro _ ⟨⟩
        exact huses.2 answer
  | finish hrunning => exact ⟨hclosed, hinterrupted, hprobes, nofun⟩

/-- The scheduler's thread may come to its end while `close` goes on. -/
theorem stable_closing : Stable Scheduler.Step Closing := by
  intro scheduler scheduler' hclosing hstep
  obtain ⟨hclosed, hprobes, htask, hinterrupted⟩ := hclosing
  cases hstep with
  | begin hidle hscheduled =>
      refine ⟨hclosed, hprobes, ?_, nofun⟩
      rintro _ ⟨⟩
      exact refreshSafely_uses
  | @act op next answer after hrunning hstep =>
      have huses := htask _ hrunning
      have hframe := selectorStep_frame huses.1 hstep
      -- an interrupted task has no probe left to wait for
      have hcalm : Unprobing op ∨ scheduler.interrupted = false := by
        cases hflag : scheduler.interrupted with
        | false => exact Or.inr rfl
        | true => exact Or.inl (hinterrupted hflag _ hrunning).1
      refine ⟨hframe.closed.trans hclosed, ?_, ?_, ?_⟩
      · exact (selectorStep_probes huses.1 hcalm hstep).trans hprobes
      · rintro _ ⟨⟩
        exact huses.2 answer
      · rintro hflag _ ⟨⟩
        exact (hinterrupted (hframe.interrupted hflag) _ hrunning).2 answer
          (selectorStep_whenClosed hclosed hstep)
  | finish hrunning => exact ⟨hclosed, hprobes, nofun, fun _ => nofun⟩

/-- After a silent `close` the thread changes nothing any more. -/
theorem stable_silenced (effects : Gateways × KMap String String × List String) :
    Stable Scheduler.Step (Silenced effects) := by
  intro scheduler scheduler' hsilenced hstep
  obtain ⟨hclosed, hscheduled, hprobes, heffects, htask⟩ := hsilenced
  cases hstep with
  | begin hidle hagain =>
      -- the task has been cancelled, so no refresh begins
      rw [hscheduled] at hagain
      contradiction
  | @act op next answer after hrunning hstep =>
      have huses := htask _ hrunning
      have hunprobing := huses.1.unprobing
      have hframe := selectorStep_frame hunprobing.ofRefresh hstep
      refine ⟨hframe.closed.trans hclosed, hframe.scheduled.trans hscheduled, ?_, ?_, ?_⟩
      · exact (selectorStep_probes hunprobing.ofRefresh (Or.inl hunprobing) hstep).trans hprobes
      · exact (selectorStep_quiet huses.1 hstep).trans heffects
      · rintro _ ⟨⟩
        exact huses.2 answer (selectorStep_whenClosed hclosed hstep)
  | finish hrunning => exact ⟨hclosed, hscheduled, hprobes, heffects, nofun⟩

/-! ## Where a refresh stands -/

/-- The rest of a refresh, with `body` left of its `try` block. -/
def leaving (body : SelectorM Unit) : Task :=
  (tryCatch (Prog.tryFinally body (selectorCall .shutdownProbePool)) fun _ => pure ()).run

/-- What comes after `persist`. -/
def announce (updated : Gateways) : SelectorM Unit := do
  if ← selectorCall .isClosed then return
  selectorCall (.onSelectionUpdated (← liftM (summary updated)))

/-- The points of a refresh that has not looked at `closed` yet, or has probed all that it
probes. -/
inductive Standing
  /-- Before the first look at `closed`. -/
  | unlooked
  /-- Before `selected.set`. -/
  | selecting (updated : Gateways)
  | persisting (updated : Gateways)
  /-- Before the second look at `closed`. -/
  | looking (updated : Gateways)
  | notifying (summary : String)
  /-- Before the `finally` block. -/
  | ending (result : Except Exception Unit)
  | ended (result : Except Exception Unit)

namespace Standing

/-- What is left of the refresh. -/
def task : Standing → Task
  | unlooked => refreshSafely.run
  | selecting updated => leaving (publish updated)
  | persisting updated => leaving (persist updated >>= fun _ => announce updated)
  | looking updated => leaving (announce updated)
  | notifying summary => leaving (selectorCall (.onSelectionUpdated summary))
  | ending result => leaving (liftM result)
  | ended result => .ret result

/-- `closed` comes before all that the refresh may still write. -/
def Looks : Standing → Prop
  | unlooked | looking _ | ending _ | ended _ => True
  | selecting _ | persisting _ | notifying _ => False

end Standing

/-- What follows the first part of the `try` block is its rest and the `finally` block. -/
theorem leaving_uses {allowed : SelectorOp → Prop} {body : SelectorM Unit}
    (hbody : body.run.UsesGiven WhenClosed allowed) (hpool : allowed .shutdownProbePool) :
    (leaving body).UsesGiven WhenClosed allowed := by
  apply UsesGiven.tryCatch
  · exact UsesGiven.tryFinally hbody (Uses.io hpool).given
  · exact fun _ => Uses.given trivial

/-- A closed selector is not announced. -/
theorem announce_uses (updated : Gateways) :
    (announce updated).run.UsesGiven WhenClosed Quiet := by
  apply UsesGiven.bind_io trivial
  intro closed hclosed
  rw [Except.ok.inj hclosed]
  trivial

/-- A refresh that begins after the close has no effect. -/
theorem refreshSafely_looks : refreshSafely.run.UsesGiven WhenClosed Quiet := by
  apply UsesGiven.bind_io trivial
  intro closed hclosed
  rw [Except.ok.inj hclosed]
  trivial

/-- Where `closed` is looked at first, nothing is written after a close. -/
theorem Standing.Looks.quiet {standing : Standing} (hlooks : standing.Looks) :
    standing.task.UsesGiven WhenClosed Quiet := by
  cases standing with
  | unlooked => exact refreshSafely_looks
  | looking updated => exact leaving_uses (announce_uses updated) trivial
  | ending result => exact leaving_uses (Uses.lift result).given trivial
  | ended result => trivial
  | selecting | persisting | notifying => exact hlooks.elim

theorem persist_uses (updated : Gateways) : (persist updated).run.Uses Unprobing :=
  Uses.bindE (Uses.lift _) fun _ => Uses.io trivial

/-- At all of these points no probe is waited for any more. -/
theorem Standing.unprobing (standing : Standing) :
    standing.task.UsesGiven WhenClosed Unprobing := by
  have hannounce : ∀ updated, (announce updated).run.UsesGiven WhenClosed Unprobing :=
    fun updated => (announce_uses updated).mono fun _ => Quiet.unprobing
  have hlooks : ∀ standing : Standing, standing.Looks →
      standing.task.UsesGiven WhenClosed Unprobing :=
    fun _ hlooks => hlooks.quiet.mono fun _ => Quiet.unprobing
  cases standing with
  | unlooked => exact hlooks .unlooked trivial
  | looking updated => exact hlooks (.looking updated) trivial
  | ending result => exact hlooks (.ending result) trivial
  | ended result => exact hlooks (.ended result) trivial
  | selecting updated =>
      apply leaving_uses _ trivial
      apply UsesGiven.bindE (Uses.io trivial).given
      intro _
      exact UsesGiven.bindE (persist_uses updated).given fun _ => hannounce updated
  | persisting updated =>
      apply leaving_uses _ trivial
      exact UsesGiven.bindE (persist_uses updated).given fun _ => hannounce updated
  | notifying summary => exact leaving_uses (Uses.io trivial).given trivial

/-! ## A timely close -/

/-- The task is cancelled when no refresh stands among its probes, and the scheduler is shut
down when a refresh that runs comes by a look at `closed` before it writes. -/
def Timely : SelectorOp → Scheduler → Prop
  | .cancelPeriodicTask, scheduler => ∀ task, scheduler.running = some task →
    ∃ standing : Standing, task = standing.task
  | .shutdownScheduler, scheduler => ∀ task, scheduler.running = some task →
    ∃ standing : Standing, standing.Looks ∧ task = standing.task
  | _, _ => True

/-- The calls of `close` in runs that meet the condition. -/
def timelyStep : Semantics SelectorOp SelectorOp.Answer Scheduler :=
  fun op scheduler answer scheduler' =>
    selectorStep op scheduler answer scheduler' ∧ Timely op scheduler

/-- Whatever the effects were. -/
theorem stable_exists_silenced :
    Stable Scheduler.Step fun scheduler => ∃ effects, Silenced effects scheduler := by
  rintro scheduler scheduler' ⟨effects, hsilenced⟩ hstep
  exact ⟨effects, stable_silenced effects _ _ hsilenced hstep⟩

/-- The first call of `close` wins, as nobody else closes. -/
theorem compareAndSetClosed_undisturbed :
    TripleE timelyStep Scheduler.Step (Undisturbed false) (selectorCall .compareAndSetClosed)
      (fun changed scheduler => changed = true ∧ Undisturbed true scheduler) fun _ _ => False := by
  apply TripleE.io (stable_undisturbed false)
  · rintro changed scheduler scheduler' ⟨hchanged, hundisturbed⟩ hstep
    exact ⟨hchanged, stable_undisturbed true _ _ hundisturbed hstep⟩
  · exact fun _ => stable_false _
  · rintro scheduler changed scheduler' ⟨hclosed, hinterrupted, hprobes, htask⟩ ⟨⟨hanswer, rfl⟩, _⟩
    rw [hclosed] at hanswer
    cases hanswer
    exact ⟨rfl, rfl, hinterrupted, hprobes, htask⟩
  · rintro scheduler error scheduler' _ ⟨⟨hanswer, _⟩, _⟩
    cases hanswer

/-- It interrupts the refresh, which waits for no probe any more. -/
theorem cancelPeriodicTask_closing :
    TripleE timelyStep Scheduler.Step (Undisturbed true) (selectorCall .cancelPeriodicTask)
      (fun _ => Closing) fun _ _ => False := by
  apply TripleE.io (stable_undisturbed true) (fun _ => stable_closing) (fun _ => stable_false _)
  · rintro scheduler _ _ ⟨hclosed, hinterrupted, hprobes, htask⟩ ⟨⟨_, rfl⟩, htimely⟩
    have hprobed : ∀ task, scheduler.running = some task →
        task.UsesGiven WhenClosed Unprobing := by
      intro task hrunning
      obtain ⟨standing, rfl⟩ := htimely task hrunning
      exact standing.unprobing
    split
    next => exact ⟨hclosed, hprobes, htask, fun _ => hprobed⟩
    next => exact ⟨hclosed, hprobes, htask, fun _ => hprobed⟩
  · rintro scheduler error scheduler' _ ⟨⟨hanswer, _⟩, _⟩
    cases hanswer

/-- The field is cleared. -/
theorem clearPeriodicTask_closing :
    TripleE timelyStep Scheduler.Step Closing (selectorCall .clearPeriodicTask)
      (fun _ => Closing) fun _ _ => False := by
  apply TripleE.io stable_closing (fun _ => stable_closing) (fun _ => stable_false _)
  · rintro scheduler _ _ ⟨hclosed, hprobes, htask, hinterrupted⟩ ⟨⟨_, rfl⟩, _⟩
    exact ⟨hclosed, hprobes, htask, hinterrupted⟩
  · rintro scheduler error scheduler' _ ⟨⟨hanswer, _⟩, _⟩
    cases hanswer

/-- After the last call nothing is left that has an effect. -/
theorem shutdownScheduler_silences :
    TripleE timelyStep Scheduler.Step Closing (selectorCall .shutdownScheduler)
      (fun _ scheduler => ∃ effects, Silenced effects scheduler) fun _ _ => False := by
  apply TripleE.io stable_closing (fun _ => stable_exists_silenced) (fun _ => stable_false _)
  · rintro scheduler _ _ ⟨hclosed, hprobes, _, _⟩ ⟨⟨_, rfl⟩, htimely⟩
    refine ⟨_, hclosed, rfl, hprobes, rfl, fun task hrunning => ?_⟩
    obtain ⟨standing, hlooks, rfl⟩ := htimely task hrunning
    exact hlooks.quiet
  · rintro scheduler error scheduler' _ ⟨⟨hanswer, _⟩, _⟩
    cases hanswer

/-- A timely close silences the selector. -/
theorem close_silences :
    TripleE timelyStep Scheduler.Step (Undisturbed false) close
      (fun _ scheduler => ∃ effects, Silenced effects scheduler) fun _ _ => False := by
  apply TripleE.bind compareAndSetClosed_undisturbed
  intro changed
  -- a selector is closed once only
  cases changed with
  | false => exact fun scheduler hfalse => absurd hfalse.1 nofun
  | true =>
      have hstages : TripleE timelyStep Scheduler.Step (Undisturbed true) (do
            selectorCall .cancelPeriodicTask
            selectorCall .clearPeriodicTask
            selectorCall .shutdownScheduler)
          (fun _ scheduler => ∃ effects, Silenced effects scheduler) fun _ _ => False := by
        apply TripleE.bind cancelPeriodicTask_closing
        intro _
        apply TripleE.bind clearPeriodicTask_closing
        exact fun _ => shutdownScheduler_silences
      exact hstages.conseq (fun _ h => h.2) (fun _ _ h => h) fun _ _ h => h

/-- In every interleaving of a timely `close` with the refreshes, a selector that
has been closed stays as it is, and no interrupted wait has counted as a failed
probe. -/
theorem close_quiet {started : Bool} {selected : Gateways} {preferences : KMap String String}
    {result : Except Exception Unit} {scheduler later : Scheduler}
    (hclose : Reaches timelyStep Scheduler.Step (close.run, .fresh started selected preferences)
      (.ret result, scheduler))
    (hlater : ReflTransGen Scheduler.Step scheduler later) :
    later.effects = scheduler.effects ∧ later.interruptedProbes = [] := by
  have hfresh : Undisturbed false (.fresh started selected preferences) := ⟨rfl, rfl, rfl, nofun⟩
  have hends := Triple.reaches close_silences hfresh hclose
  cases result with
  | error error => exact hends.elim
  | ok =>
      obtain ⟨effects, hsilenced⟩ := hends
      have hlast := (stable_silenced effects).star hsilenced hlater
      exact ⟨hlast.effects.trans hsilenced.effects.symm, hlast.probes⟩

/-! ## A close at the end of a refresh -/

/-- A started selector without saved addresses. -/
def started : Scheduler := .fresh true (loadSavedGateways KMap.empty) KMap.empty

/-- All probes succeed, but a wait that is interrupted throws. -/
def probesSucceed : (op : SelectorOp) → Scheduler → Option (op.Answer × Scheduler)
  | .isClosed, scheduler => some (.ok scheduler.closed, scheduler)
  | .shutdownProbePool, scheduler => some (.ok (), scheduler)
  | .getSelected, scheduler => some (.ok scheduler.selected, scheduler)
  | .setSelected gateways, scheduler => some (.ok (), { scheduler with selected := gateways })
  | .awaitAuthorization _, scheduler => some (.ok true, scheduler)
  | .awaitProbe key, scheduler =>
    if scheduler.interrupted then
      some (.error { kind := .interrupted },
        { scheduler with
          interrupted := false
          interruptedProbes := scheduler.interruptedProbes ++ [key] })
    else some (.ok true, scheduler)
  | .applyPreferences entries, scheduler => some (.ok (), scheduler.apply entries)
  | _, _ => none

theorem probesSucceed_step {op : SelectorOp} {scheduler scheduler' : Scheduler} {answer : op.Answer}
    (hanswer : probesSucceed op scheduler = some (answer, scheduler')) (task : Option Task) :
    selectorStep op { scheduler with running := task } answer
      { scheduler' with running := task } := by
  cases op with
  | awaitProbe key =>
      rw [probesSucceed] at hanswer
      split at hanswer
      next hinterrupted =>
        cases hanswer
        exact ⟨_, .interrupted hinterrupted, rfl⟩
      next =>
        cases hanswer
        exact ⟨_, .value true, rfl⟩
  | awaitAuthorization address =>
      cases hanswer
      exact .value true
  | isClosed | shutdownProbePool | getSelected | setSelected | applyPreferences =>
      cases hanswer
      exact ⟨rfl, rfl⟩
  | _ => cases hanswer

/-- The scheduler's thread runs the first part of its task to the end. -/
theorem running_reaches {α : Type} {handle : (op : SelectorOp) → Scheduler →
      Option (op.Answer × Scheduler)}
    (hhandle : ∀ {op scheduler scheduler' answer},
      handle op scheduler = some (answer, scheduler') → ∀ task,
        selectorStep op { scheduler with running := task } answer
          { scheduler' with running := task })
    {first : Prog SelectorOp SelectorOp.Answer α} (rest : α → Task)
    {scheduler scheduler' : Scheduler} {value : α}
    (hrun : first.run handle scheduler = some (value, scheduler')) :
    ReflTransGen Scheduler.Step { scheduler with running := some (first >>= rest) }
      { scheduler' with running := some (rest value) } := by
  induction first generalizing scheduler with
  | ret =>
      cases hrun
      exact .refl
  | call op next ih =>
      rw [Prog.run] at hrun
      split at hrun
      next answer middle hanswer =>
        have hrest := @ih answer middle hrun
        exact .head (.act rfl (hhandle hanswer _)) hrest
      next => contradiction

/-- A refresh up to the end of `persist`. -/
def select (previous : Gateways) : SelectorM Gateways := do
  authorizeSmartDns AUTH_DNS
  let current ← liftM (currentCandidates previous)
  let currentResults ← probeMatrix current GATEWAY_SPECS KMap.empty
  let failed ← liftM (failedSpecs previous currentResults)
  let others ← liftM (alternatives previous failed)
  let alternativeResults ← probeMatrix others GATEWAY_SPECS KMap.empty
  let updated ← liftM (selectGateways previous currentResults alternativeResults GATEWAY_SPECS
    previous)
  selectorCall (.setSelected updated)
  persist updated
  return updated

/-- What follows the first part of the `try` block. -/
def leavingAfter {α : Type} (rest : α → SelectorM Unit) : Except Exception α → Task
  | .ok value => leaving (rest value)
  | .error error => leaving (throw error)

/-- A first part that runs to its end leaves the rest of the block to do. -/
theorem leaving_bind {α : Type} (first : SelectorM α) (rest : α → SelectorM Unit) :
    leaving (first >>= rest) = first.run >>= leavingAfter rest := by
  have hprogram : ∀ program : Prog SelectorOp SelectorOp.Answer (Except Exception α),
      leaving (ExceptT.mk program >>= rest) = program >>= leavingAfter rest := by
    intro program
    induction program with
    | ret result => cases result <;> rfl
    | call op next ih => exact congrArg (Prog.call op) (funext ih)
  exact hprogram first.run

/-- The rest of a refresh after its first look at `closed`. -/
theorem refresh_eq : (tryCatch refresh fun _ => pure ()).run =
    (selectorCall .getSelected).run >>= fun result =>
      match result with
      | .ok previous => leaving (select previous >>= announce)
      | .error _ => .ret (.ok ()) := by
  refine congrArg (Prog.call _) (funext fun answer => ?_)
  cases answer with
  | error error => rfl
  | ok previous =>
      unfold select announce
      simp only [bind_assoc, pure_bind]
      rfl

/-- A refresh whose probes succeed comes to its second look at `closed`. -/
theorem looking_reached : ∃ scheduler updated,
    ReflTransGen Scheduler.Step started scheduler ∧ scheduler.closed = false ∧
      scheduler.running = some (leaving (announce updated)) ∧
      scheduler.preferences "gateway_google_ai" = some "62.133.62.97" := by
  let begun : Scheduler := { started with running := some refreshSafely.run }
  have hbegin : Scheduler.Step started begun := .begin rfl rfl
  have hlook := @Scheduler.Step.act begun .isClosed _ (.ok false) _ rfl ⟨rfl, rfl⟩
  have hget := @running_reaches _ _ probesSucceed_step (selectorCall .getSelected).run
    (fun result =>
      match result with
      | .ok previous => leaving (select previous >>= announce)
      | .error _ => .ret (.ok ())) started started (.ok started.selected) rfl
  rw [← refresh_eq] at hget
  have hends : ((select started.selected).run.run probesSucceed started).map
      (fun ended => (ended.1.isOk, ended.2.closed, ended.2.preferences "gateway_google_ai")) =
      some (true, false, some "62.133.62.97") := by
    decide
  obtain ⟨⟨result, last⟩, hrun, hlast⟩ := Option.map_eq_some_iff.mp hends
  simp only [Prod.mk.injEq] at hlast
  obtain ⟨hok, hclosed, hsaved⟩ := hlast
  cases result with
  | error error => cases hok
  | ok updated =>
      have hselect := running_reaches probesSucceed_step (leavingAfter announce) hrun
      rw [← leaving_bind] at hselect
      refine ⟨{ last with running := some (leaving (announce updated)) }, updated, ?_, hclosed, rfl,
        hsaved⟩
      exact .head hbegin (.head hlook (hget.trans hselect))

/-- Then `close` may come. -/
theorem close_looking {scheduler : Scheduler} {updated : Gateways}
    (hclosed : scheduler.closed = false)
    (hrunning : scheduler.running = some (leaving (announce updated))) :
    ∃ last, Outcome timelyStep close.run scheduler (.ok ()) last ∧
      last.running = scheduler.running ∧ last.interrupted = true ∧
      last.preferences = scheduler.preferences := by
  have hstanding : ∀ task, scheduler.running = some task →
      ∃ standing : Standing, standing.Looks ∧ task = standing.task := by
    intro task htask
    rw [hrunning] at htask
    exact ⟨.looking updated, trivial, (Option.some.inj htask).symm⟩
  have hprobed : ∀ task, scheduler.running = some task →
      ∃ standing : Standing, task = standing.task := by
    intro task htask
    obtain ⟨standing, _, heq⟩ := hstanding task htask
    exact ⟨standing, heq⟩
  obtain ⟨closed, selected, preferences, periodicTask, scheduled, shutdown, running, interrupted,
    updates, interruptedProbes⟩ := scheduler
  dsimp only at hclosed hrunning hstanding hprobed
  subst hclosed hrunning
  cases periodicTask with
  | false =>
      refine ⟨_, .call ⟨⟨rfl, rfl⟩, trivial⟩ <| .call ⟨⟨rfl, rfl⟩, hprobed⟩ <|
        .call ⟨⟨rfl, rfl⟩, trivial⟩ <| .call ⟨⟨rfl, rfl⟩, hstanding⟩ .ret, rfl, ?_, rfl⟩
      exact Bool.or_true _
  | true =>
      refine ⟨_, .call ⟨⟨rfl, rfl⟩, trivial⟩ <| .call ⟨⟨rfl, rfl⟩, hprobed⟩ <|
        .call ⟨⟨rfl, rfl⟩, trivial⟩ <| .call ⟨⟨rfl, rfl⟩, hstanding⟩ .ret, rfl, ?_, rfl⟩
      exact Bool.or_true _

/-- A close before the second look at `closed` interrupts the refresh, lets it end and
changes nothing any more. -/
theorem close_quiet_looking :
    ∃ scheduler updated,
      Reaches timelyStep Scheduler.Step (close.run, started) (.ret (.ok ()), scheduler) ∧
      scheduler.running = some (leaving (announce updated)) ∧ scheduler.interrupted = true ∧
      scheduler.preferences "gateway_google_ai" = some "62.133.62.97" ∧
      ∀ later, ReflTransGen Scheduler.Step scheduler later →
        later.effects = scheduler.effects ∧ later.interruptedProbes = [] := by
  obtain ⟨before, updated, hreached, hclosed, hrunning, hsaved⟩ := looking_reached
  obtain ⟨last, houtcome, hkept, hinterrupted, hpreferences⟩ := close_looking hclosed hrunning
  have hreach : Reaches timelyStep Scheduler.Step (close.run, started) (.ret (.ok ()), last) :=
    (hreached.lift (fun scheduler => (close.run, scheduler)) fun _ _ => .env).trans
      (Reaches.of_outcome houtcome)
  refine ⟨last, updated, hreach, hkept.trans hrunning, hinterrupted, ?_,
    fun later hlater => close_quiet hreach hlater⟩
  rw [hpreferences, hsaved]

/-! ## A close in the middle of a refresh -/

/-- The refresh after its first look at `closed`. -/
def refreshStarted : Task := (tryCatch refresh fun _ => pure ()).run

/-- What `close` leaves when it comes then. -/
def closedDuring : Scheduler :=
  { started with
    closed := true
    periodicTask := false
    scheduled := false
    shutdown := true
    running := some refreshStarted
    interrupted := true }

/-- A close can come right after the refresh looked at `closed`. -/
theorem closedDuring_reached :
    Reaches selectorStep Scheduler.Step (close.run, started)
      (.ret (.ok ()), closedDuring) := by
  let begun : Scheduler := { started with running := some refreshSafely.run }
  have hbegin : Scheduler.Step started begun := .begin rfl rfl
  have hlook := @Scheduler.Step.act begun .isClosed _ (.ok false) _ rfl ⟨rfl, rfl⟩
  refine .head (.env hbegin) (.head (.env hlook) ?_)
  apply Reaches.of_outcome
  exact .call ⟨rfl, rfl⟩ <| .call ⟨rfl, rfl⟩ <| .call ⟨rfl, rfl⟩ <| .call ⟨rfl, rfl⟩ .ret

/-- A closed selector replaces and saves an address that works, since `close`
interrupted the wait for its probe. -/
theorem interrupted_probe_replaces :
    ∃ scheduler later,
      Reaches selectorStep Scheduler.Step (close.run, started) (.ret (.ok ()), scheduler) ∧
      ReflTransGen Scheduler.Step scheduler later ∧
      scheduler.selected .googleAi = some "62.133.62.97" ∧
      later.selected .googleAi = some "103.27.157.38" ∧
      later.preferences "gateway_google_ai" = some "103.27.157.38" ∧
      later.interruptedProbes =
        [{ group := .googleAi, address := "62.133.62.97", domain := "gemini.google.com" }] := by
  have hends : (refreshStarted.run probesSucceed closedDuring).map
      (fun ended => (ended.2.selected .googleAi, ended.2.preferences "gateway_google_ai",
        ended.2.interruptedProbes)) =
      some (some "103.27.157.38", some "103.27.157.38",
        [{ group := .googleAi, address := "62.133.62.97", domain := "gemini.google.com" }]) := by
    decide
  obtain ⟨⟨result, last⟩, hrun, hlast⟩ := Option.map_eq_some_iff.mp hends
  simp only [Prod.mk.injEq] at hlast
  obtain ⟨hselected, hpreferences, hprobes⟩ := hlast
  have hreach := running_reaches probesSucceed_step .ret hrun
  rw [show refreshStarted >>= .ret = refreshStarted from bind_ret _] at hreach
  exact ⟨_, _, closedDuring_reached, hreach, by decide, hselected, hpreferences, hprobes⟩

end AIUnblock.GatewaySelector
