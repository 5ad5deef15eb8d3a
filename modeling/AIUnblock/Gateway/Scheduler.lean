import AIUnblock.Foundation.Interference
import AIUnblock.Gateway.GatewaySelector

/-! # The scheduler of a `GatewaySelector`

The single scheduler thread runs the refresh again and again, while the owner of
the selector closes it. Cancelling the task and shutting the scheduler down keep
later refreshes from starting, and interrupt the one that runs.
-/

namespace AIUnblock.GatewaySelector

open Prog

/-- What a thread of the scheduler runs. -/
abbrev Task : Type := Prog SelectorOp SelectorOp.Answer (Except Exception Unit)

structure Scheduler where
  closed : Bool
  selected : Gateways
  preferences : KMap String String
  /-- The field `periodicTask` is not `null`. -/
  periodicTask : Bool
  /-- The periodic task may be run again. -/
  scheduled : Bool
  shutdown : Bool
  running : Option Task
  /-- The interrupt status of the scheduler's thread. -/
  interrupted : Bool
  /-- What `onSelectionUpdated` was called with. -/
  updates : List String
  /-- The probes whose wait ended by an interruption. -/
  interruptedProbes : List ProbeKey

namespace Scheduler

/-- A selector that has or has not been started, before the first refresh. -/
def fresh (started : Bool) (selected : Gateways) (preferences : KMap String String) :
    Scheduler where
  closed := false
  selected := selected
  preferences := preferences
  periodicTask := started
  scheduled := started
  shutdown := false
  running := none
  interrupted := false
  updates := []
  interruptedProbes := []

/-- No refresh starts any more, and the one that runs is interrupted. -/
def stop (scheduler : Scheduler) : Scheduler :=
  { scheduler with
    scheduled := false
    interrupted := scheduler.interrupted || scheduler.running.isSome }

def apply (scheduler : Scheduler) (entries : List (String × String)) : Scheduler :=
  { scheduler with
    preferences := entries.foldl (fun saved entry => saved.put entry.1 entry.2)
      scheduler.preferences }

end Scheduler

/-- `future.get()` returns the value, or throws what the probe threw, or consumes
the interrupt status. -/
inductive Awaits (scheduler : Scheduler) : Except Exception Bool → Scheduler → Prop
  | value (value : Bool) : Awaits scheduler (.ok value) scheduler
  | failed : Awaits scheduler (.error { kind := .execution }) scheduler
  | interrupted (hinterrupted : scheduler.interrupted = true) :
      Awaits scheduler (.error { kind := .interrupted }) { scheduler with interrupted := false }

/-- The same for a probe; an interruption is noted. -/
def AwaitsProbe (key : ProbeKey) (scheduler : Scheduler) (answer : Except Exception Bool)
    (scheduler' : Scheduler) : Prop :=
  ∃ after, Awaits scheduler answer after ∧ scheduler' =
    if answer = .error { kind := .interrupted } then
      { after with interruptedProbes := after.interruptedProbes ++ [key] }
    else after

/-- What each call does. -/
def selectorStep : Semantics SelectorOp SelectorOp.Answer Scheduler
  | .isClosed, scheduler, answer, scheduler' =>
    answer = .ok scheduler.closed ∧ scheduler' = scheduler
  | .compareAndSetClosed, scheduler, answer, scheduler' =>
    answer = .ok (!scheduler.closed) ∧ scheduler' = { scheduler with closed := true }
  | .hasPeriodicTask, scheduler, answer, scheduler' =>
    answer = .ok scheduler.periodicTask ∧ scheduler' = scheduler
  | .schedulePeriodicTask, scheduler, answer, scheduler' =>
    if scheduler.shutdown then
      answer = .error { kind := .rejectedExecution } ∧ scheduler' = scheduler
    else
      answer = .ok () ∧ scheduler' = { scheduler with periodicTask := true, scheduled := true }
  | .cancelPeriodicTask, scheduler, answer, scheduler' =>
    answer = .ok () ∧ scheduler' = if scheduler.periodicTask then scheduler.stop else scheduler
  | .clearPeriodicTask, scheduler, answer, scheduler' =>
    answer = .ok () ∧ scheduler' = { scheduler with periodicTask := false }
  | .shutdownScheduler, scheduler, answer, scheduler' =>
    answer = .ok () ∧ scheduler' = { scheduler.stop with shutdown := true }
  | .shutdownProbePool, scheduler, answer, scheduler' => answer = .ok () ∧ scheduler' = scheduler
  | .getSelected, scheduler, answer, scheduler' =>
    answer = .ok scheduler.selected ∧ scheduler' = scheduler
  | .setSelected gateways, scheduler, answer, scheduler' =>
    answer = .ok () ∧ scheduler' = { scheduler with selected := gateways }
  | .awaitAuthorization _, scheduler, answer, scheduler' => Awaits scheduler answer scheduler'
  | .awaitProbe key, scheduler, answer, scheduler' => AwaitsProbe key scheduler answer scheduler'
  | .applyPreferences entries, scheduler, answer, scheduler' =>
    answer = .ok () ∧ scheduler' = scheduler.apply entries
  | .onSelectionUpdated summary, scheduler, answer, scheduler' =>
    answer = .ok () ∧ scheduler' = { scheduler with updates := scheduler.updates ++ [summary] }

/-- A step of the scheduler's thread. A run begins with the interrupt status
cleared. -/
inductive Scheduler.Step : Scheduler → Scheduler → Prop
  | begin {scheduler} (hidle : scheduler.running = none) (hscheduled : scheduler.scheduled = true) :
      Step scheduler { scheduler with running := some refreshSafely.run, interrupted := false }
  | act {scheduler op next answer scheduler'} (hrunning : scheduler.running = some (.call op next))
      (hstep : selectorStep op scheduler answer scheduler') :
      Step scheduler { scheduler' with running := some (next answer) }
  | finish {scheduler result} (hrunning : scheduler.running = some (.ret result)) :
      Step scheduler { scheduler with running := none }

end AIUnblock.GatewaySelector
