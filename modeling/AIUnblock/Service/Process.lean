import AIUnblock.Foundation.Interference
import AIUnblock.Service.AiUnblockVpnService

/-! # The process of the service

The state that the main thread and the scheduler threads of the selectors share.
The refreshes of a selector run next to whatever the main thread does.
-/

namespace AIUnblock.AiUnblockVpnService

open Prog GatewaySelector

abbrev ServiceTask : Type := Prog ServiceOp ServiceOp.Answer (Except Exception Unit)

/-- What the service sees of a selector. -/
structure SelectorState where
  closed : Bool := false
  periodicTask : Bool := false
  scheduled : Bool := false

structure Service where
  published : TunnelState := .off
  tunInterface : Option TunId := none
  socksRelay : Option RelayId := none
  gatewaySelector : Option SelectorId := none
  /-- The native engine runs. -/
  engine : Bool := false
  /-- Starts of the engine since it was last stopped. -/
  engineStarts : Nat := 0
  enabled : Bool := false
  foreground : Bool := false
  /-- `stopSelf` has been called. -/
  stopping : Bool := false
  /-- How many selectors, relays and interfaces have been created. -/
  created : Nat := 0
  openTuns : List TunId := []
  openRelays : List RelayId := []
  /-- Relays whose `start` has returned. -/
  startedRelays : List RelayId := []
  openSelectors : List SelectorId := []
  selectors : SelectorId → SelectorState := fun _ => {}
  /-- What the scheduler's thread of a selector runs. -/
  thread : SelectorId → Option ServiceTask := fun _ => none

namespace Service

def setSelector (service : Service) (id : SelectorId) (state : SelectorState) : Service :=
  { service with selectors := Function.update service.selectors id state }

def setThread (service : Service) (id : SelectorId) (task : Option ServiceTask) : Service :=
  { service with thread := Function.update service.thread id task }

end Service

/-- A call that may fail without an effect, or succeed. -/
def MayFail {α : Type} (service : Service) (answer : Except Exception α) (service' : Service)
    (succeeds : α → Prop) : Prop :=
  match answer with
  | .ok value => succeeds value
  | .error _ => service' = service

/-- What the calls of a selector do. The answers of the network, of the saved
preferences and of the selection are left open. -/
def selectorCalls (id : SelectorId) : (op : SelectorOp) → Service → op.Answer → Service → Prop
  | .isClosed, service, answer, service' =>
    answer = .ok (service.selectors id).closed ∧ service' = service
  | .compareAndSetClosed, service, answer, service' =>
    answer = .ok (!(service.selectors id).closed) ∧
      service' =
        { service.setSelector id { service.selectors id with closed := true } with
          openSelectors := service.openSelectors.filter (· ≠ id) }
  | .hasPeriodicTask, service, answer, service' =>
    answer = .ok (service.selectors id).periodicTask ∧ service' = service
  | .schedulePeriodicTask, service, answer, service' =>
    MayFail service answer service' fun _ => service' = service.setSelector id
      { service.selectors id with periodicTask := true, scheduled := true }
  | .cancelPeriodicTask, service, answer, service' =>
    answer = .ok () ∧
      service' = service.setSelector id { service.selectors id with scheduled := false }
  | .clearPeriodicTask, service, answer, service' =>
    answer = .ok () ∧
      service' = service.setSelector id { service.selectors id with periodicTask := false }
  | .shutdownScheduler, service, answer, service' =>
    answer = .ok () ∧
      service' = service.setSelector id { service.selectors id with scheduled := false }
  | _, service, _, service' => service' = service

/-- What each call does. -/
def serviceStep : Semantics ServiceOp ServiceOp.Answer Service
  | .getTunInterface, service, answer, service' =>
    answer = .ok service.tunInterface ∧ service' = service
  | .setTunInterface tun, service, answer, service' =>
    answer = .ok () ∧ service' = { service with tunInterface := tun }
  | .getSocksRelay, service, answer, service' =>
    answer = .ok service.socksRelay ∧ service' = service
  | .setSocksRelay relay, service, answer, service' =>
    answer = .ok () ∧ service' = { service with socksRelay := relay }
  | .getGatewaySelector, service, answer, service' =>
    answer = .ok service.gatewaySelector ∧ service' = service
  | .setGatewaySelector selector, service, answer, service' =>
    answer = .ok () ∧ service' = { service with gatewaySelector := selector }
  | .update value, service, answer, service' =>
    answer = .ok () ∧ service' = { service with published := value }
  | .tProxyStartService _ _, service, answer, service' =>
    answer = .ok false ∧ service' = service ∨
      service.engine = false ∧ answer = .ok true ∧
        service' = { service with engine := true, engineStarts := service.engineStarts + 1 }
  | .tProxyStopService, service, answer, service' =>
    (∃ stopped, answer = .ok stopped) ∧
      service' = { service with engine := false, engineStarts := 0 }
  | .tProxyIsRunning, service, answer, service' =>
    answer = .ok service.engine ∧ service' = service
  | .activePackages, service, _, service' => service' = service
  | .getPackageInfo _, service, _, service' => service' = service
  | .newSelector, service, answer, service' =>
    MayFail service answer service' fun id => id = service.created ∧
      service' =
        { service.setSelector id {} with
          created := service.created + 1
          openSelectors := id :: service.openSelectors }
  | .selector id op, service, answer, service' => selectorCalls id op service answer service'
  | .loadRules, service, _, service' => service' = service
  | .newRelay, service, answer, service' =>
    MayFail service answer service' fun relay => relay = service.created ∧
      service' =
        { service with created := service.created + 1, openRelays := relay :: service.openRelays }
  | .startRelay relay, service, answer, service' =>
    MayFail service answer service' fun _ =>
      service' = { service with startedRelays := relay :: service.startedRelays }
  | .relayPort _, service, answer, service' => (∃ port, answer = .ok port) ∧ service' = service
  | .relayPassword _, service, answer, service' =>
    (∃ password, answer = .ok password) ∧ service' = service
  | .closeRelay relay, service, answer, service' =>
    answer = .ok () ∧
      service' = { service with openRelays := service.openRelays.filter (· ≠ relay) }
  | .configureBuilder _, service, _, service' => service' = service
  | .establish, service, answer, service' =>
    MayFail service answer service' fun
      | some tun => tun = service.created ∧ service' =
          { service with created := service.created + 1, openTuns := tun :: service.openTuns }
      | none => service' = service
  | .closeTun tun, service, answer, service' =>
    (answer = .ok () ∨ ∃ message, answer = .error { kind := .io, message }) ∧
      service' = { service with openTuns := service.openTuns.filter (· ≠ tun) }
  | .writeTunnelConfig _ _ _, service, _, service' => service' = service
  | .putEnabled enabled, service, answer, service' =>
    answer = .ok () ∧ service' = { service with enabled }
  | .startForeground, service, answer, service' =>
    MayFail service answer service' fun _ => service' = { service with foreground := true }
  | .stopForeground, service, answer, service' =>
    answer = .ok () ∧ service' = { service with foreground := false }
  | .stopSelf, service, answer, service' =>
    answer = .ok () ∧ service' = { service with stopping := true }

/-- The calls do what `serviceStep` says, perhaps in fewer states. -/
def Restricts (sem : Semantics ServiceOp ServiceOp.Answer Service) : Prop :=
  ∀ ⦃op service answer service'⦄, sem op service answer service' →
    serviceStep op service answer service'

theorem restricts_serviceStep : Restricts serviceStep := fun _ _ _ _ hstep => hstep

/-- A step of the scheduler's thread of a selector. -/
inductive SchedulerStep : Service → Service → Prop
  | begin {service} (id : SelectorId) (hidle : service.thread id = none)
      (hscheduled : (service.selectors id).scheduled = true) :
      SchedulerStep service (service.setThread id (some (ofSelector id refreshSafely).run))
  | act {service op next answer service'} (id : SelectorId)
      (hthread : service.thread id = some (.call op next))
      (hstep : serviceStep op service answer service') :
      SchedulerStep service (service'.setThread id (some (next answer)))
  | finish {service result} (id : SelectorId) (hthread : service.thread id = some (.ret result)) :
      SchedulerStep service (service.setThread id none)

/-- A step of a scheduler's thread, or the native engine ends by itself. -/
inductive Background : Service → Service → Prop
  | scheduler {service service'} (hstep : SchedulerStep service service') :
      Background service service'
  | engineEnds {service} (hengine : service.engine = true) :
      Background service { service with engine := false }

/-! ## The main thread -/

/-- What the platform and the app run on the main thread, in any order. -/
inductive Callback : ServiceM Unit → Prop
  | onStartCommand (action : Option String) : Callback (onStartCommand action)
  | onRevoke : Callback onRevoke
  | onDestroy : Callback onDestroy
  | startVpnService : Callback startVpnService

/-- From one state in which the main thread is idle to another: a step of the
background, or a whole callback with the background steps that fall into it. -/
inductive Turn (sem : Semantics ServiceOp ServiceOp.Answer Service) : Service → Service → Prop
  | background {service service'} (hstep : Background service service') : Turn sem service service'
  | callback {service code result service'} (hcallback : Callback code)
      (hrun : Reaches sem Background (code.run, service) (.ret result, service')) :
      Turn sem service service'

/-- The states of a process in which the main thread is idle. -/
abbrev Idle (sem : Semantics ServiceOp ServiceOp.Answer Service) (service : Service) : Prop :=
  Relation.ReflTransGen (Turn sem) {} service

/-- The background may go on. -/
theorem Idle.background {sem : Semantics ServiceOp ServiceOp.Answer Service}
    {service service' : Service} (hidle : Idle sem service)
    (hsteps : Relation.ReflTransGen Background service service') : Idle sem service' := by
  induction hsteps with
  | refl => exact hidle
  | tail _ hstep ih => exact ih.tail (.background hstep)

/-- More calls allow more states. -/
theorem Idle.mono {sem sem' : Semantics ServiceOp ServiceOp.Answer Service} {service : Service}
    (himp : ∀ op before (answer : ServiceOp.Answer op) after, sem op before answer after →
      sem' op before answer after) (hidle : Idle sem service) : Idle sem' service := by
  induction hidle with
  | refl => exact .refl
  | tail _ hturn ih =>
      cases hturn with
      | background hstep => exact ih.tail (.background hstep)
      | callback hcode hrun => exact ih.tail (.callback hcode (hrun.mono_sem himp))

/-- What the background and every callback keep holds whenever the main thread is idle. -/
theorem Idle.invariant {sem : Semantics ServiceOp ServiceOp.Answer Service} {service : Service}
    {P : Service → Prop} (hidle : Idle sem service) (hinit : P {}) (hstable : Stable Background P)
    (hcallback : ∀ code, Callback code → TripleE sem Background P code (fun _ => P) fun _ => P) :
    P service := by
  induction hidle with
  | refl => exact hinit
  | tail _ hturn ih =>
      cases hturn with
      | background hstep => exact hstable _ _ ih hstep
      | @callback code result after hcode hrun =>
          have hends := Triple.reaches (hcallback code hcode) ih hrun
          cases result with
          | ok => exact hends
          | error => exact hends

end AIUnblock.AiUnblockVpnService
