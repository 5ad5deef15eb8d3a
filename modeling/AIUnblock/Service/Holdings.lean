import AIUnblock.Service.Starting

/-! # What the service holds

The fields of the service next to what is really open. Every call changes the two
by a function of its answer, whatever else the process does.
-/

namespace AIUnblock.AiUnblockVpnService

open Prog GatewaySelector

structure Holdings where
  tunInterface : Option TunId := none
  socksRelay : Option RelayId := none
  gatewaySelector : Option SelectorId := none
  engine : Bool := false
  engineStarts : Nat := 0
  openTuns : List TunId := []
  openRelays : List RelayId := []
  startedRelays : List RelayId := []
  openSelectors : List SelectorId := []

def Service.holdings (service : Service) : Holdings where
  tunInterface := service.tunInterface
  socksRelay := service.socksRelay
  gatewaySelector := service.gatewaySelector
  engine := service.engine
  engineStarts := service.engineStarts
  openTuns := service.openTuns
  openRelays := service.openRelays
  startedRelays := service.startedRelays
  openSelectors := service.openSelectors

namespace Holdings

/-- What a call with this answer makes of the holdings. -/
def step (held : Holdings) : (op : ServiceOp) → op.Answer → Holdings
  | .setTunInterface tun, _ => { held with tunInterface := tun }
  | .setSocksRelay relay, _ => { held with socksRelay := relay }
  | .setGatewaySelector selector, _ => { held with gatewaySelector := selector }
  | .tProxyStartService _ _, answer =>
    match answer with
    | .ok true => { held with engine := true, engineStarts := held.engineStarts + 1 }
    | _ => held
  | .tProxyStopService, _ => { held with engine := false, engineStarts := 0 }
  | .newSelector, answer =>
    match answer with
    | .ok id => { held with openSelectors := id :: held.openSelectors }
    | .error _ => held
  | .selector id op, _ =>
    match op with
    | .compareAndSetClosed =>
      { held with openSelectors := held.openSelectors.filter (· ≠ id) }
    | _ => held
  | .newRelay, answer =>
    match answer with
    | .ok relay => { held with openRelays := relay :: held.openRelays }
    | .error _ => held
  | .startRelay relay, answer =>
    match answer with
    | .ok _ => { held with startedRelays := relay :: held.startedRelays }
    | .error _ => held
  | .closeRelay relay, _ => { held with openRelays := held.openRelays.filter (· ≠ relay) }
  | .establish, answer =>
    match answer with
    | .ok (some tun) => { held with openTuns := tun :: held.openTuns }
    | _ => held
  | .closeTun tun, _ => { held with openTuns := held.openTuns.filter (· ≠ tun) }
  | _, _ => held

/-- How a call may be answered. -/
def answers (held : Holdings) : (op : ServiceOp) → op.Answer → Prop
  | .getTunInterface, answer => answer = .ok held.tunInterface
  | .getSocksRelay, answer => answer = .ok held.socksRelay
  | .getGatewaySelector, answer => answer = .ok held.gatewaySelector
  | .tProxyIsRunning, answer => answer = .ok held.engine
  | .closeTun _, answer => ∀ error, answer = .error error → error.kind = .io
  | op, answer => Sure op → ∃ value, answer = .ok value

end Holdings

/-- The service as far as its holdings go. -/
def holdingsStep : Semantics ServiceOp ServiceOp.Answer Holdings :=
  fun op held answer held' => held.answers op answer ∧ held' = held.step op answer

section Calls

variable {op : ServiceOp} {service service' : Service} {answer : op.Answer}

theorem selectorCalls_holdings {id : SelectorId} {op : SelectorOp} {answer : op.Answer}
    (hstep : selectorCalls id op service answer service') :
    service'.holdings = service.holdings.step (.selector id op) answer := by
  cases op with
  | isClosed | hasPeriodicTask | compareAndSetClosed | cancelPeriodicTask | clearPeriodicTask
    | shutdownScheduler =>
      obtain ⟨_, rfl⟩ := hstep
      rfl
  | schedulePeriodicTask =>
      cases answer with
      | ok =>
          cases hstep
          rfl
      | error =>
          cases hstep
          rfl
  | _ =>
      cases hstep
      rfl

/-- The process does to the holdings what `Holdings.step` says. -/
theorem serviceStep_holdings (hstep : serviceStep op service answer service') :
    service'.holdings = service.holdings.step op answer := by
  cases op with
  | selector id op => exact selectorCalls_holdings hstep
  | tProxyStartService =>
      rcases hstep with ⟨rfl, rfl⟩ | ⟨_, rfl, rfl⟩
      · rfl
      · rfl
  | newSelector | newRelay =>
      cases answer with
      | ok =>
          obtain ⟨_, rfl⟩ := hstep
          rfl
      | error =>
          cases hstep
          rfl
  | establish =>
      rcases answer with _ | _ | tun
      · cases hstep
        rfl
      · cases hstep
        rfl
      · obtain ⟨_, rfl⟩ := hstep
        rfl
  | startRelay | startForeground =>
      cases answer with
      | ok =>
          cases hstep
          rfl
      | error =>
          cases hstep
          rfl
  | activePackages | getPackageInfo | loadRules | configureBuilder | writeTunnelConfig =>
      cases hstep
      rfl
  | _ =>
      obtain ⟨_, rfl⟩ := hstep
      rfl

theorem serviceStep_answers (hstep : serviceStep op service answer service') :
    service.holdings.answers op answer := by
  cases op with
  | getTunInterface | getSocksRelay | getGatewaySelector | tProxyIsRunning => exact hstep.1
  | closeTun =>
      rcases hstep.1 with rfl | ⟨message, rfl⟩
      · exact nofun
      · rintro _ ⟨⟩
        rfl
  | _ => exact fun hsure => hsure.answers hstep

end Calls

/-! ## Calls that leave the holdings alone -/

/-- The call neither acquires nor releases anything, nor sets a field. -/
def Neutral : ServiceOp → Prop
  | .setTunInterface _ | .setSocksRelay _ | .setGatewaySelector _ => False
  | .tProxyStartService _ _ | .tProxyStopService => False
  | .newSelector | .newRelay | .startRelay _ | .closeRelay _ | .establish | .closeTun _ => False
  | .selector _ op => op ≠ .compareAndSetClosed
  | _ => True

theorem Neutral.step {op : ServiceOp} (hop : Neutral op) (held : Holdings) (answer : op.Answer) :
    held.step op answer = held := by
  cases op with
  | selector id op =>
      cases op with
      | compareAndSetClosed => exact absurd rfl hop
      | _ => rfl
  | setTunInterface | setSocksRelay | setGatewaySelector | tProxyStartService | tProxyStopService
    | newSelector | newRelay | startRelay | closeRelay | establish | closeTun => exact hop.elim
  | _ => rfl

/-! ## The engine -/

/-- The call neither starts nor stops the engine. -/
def KeepsEngine : ServiceOp → Prop
  | .tProxyStartService _ _ | .tProxyStopService => False
  | _ => True

theorem OfScheduler.keepsEngine {op : ServiceOp} (hop : OfScheduler op) : KeepsEngine op := by
  cases op with
  | tProxyStartService | tProxyStopService => exact hop
  | _ => trivial

theorem KeepsEngine.step {op : ServiceOp} (hop : KeepsEngine op) (held : Holdings)
    (answer : op.Answer) : (held.step op answer).engine = held.engine := by
  cases op with
  | tProxyStartService | tProxyStopService => exact hop.elim
  | selector id op =>
      cases op with
      | _ => rfl
  | newSelector | newRelay | startRelay =>
      cases answer with
      | _ => rfl
  | establish => rcases answer with _ | _ | _ <;> rfl
  | _ => rfl

theorem serviceStep_engine {op : ServiceOp} {service service' : Service} {answer : op.Answer}
    (hop : KeepsEngine op) (hstep : serviceStep op service answer service') :
    service'.engine = service.engine :=
  (congrArg Holdings.engine (serviceStep_holdings hstep)).trans (hop.step _ answer)

end AIUnblock.AiUnblockVpnService
