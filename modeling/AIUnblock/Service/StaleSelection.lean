import AIUnblock.Service.Starting

/-! # Selections that arrive late

The selector's callback looks at the interface and then publishes that the app is
on. If the tunnel is stopped in between, the app stays on without a tunnel; it never
does if no callback stands there when the stop is published.
-/

namespace AIUnblock.AiUnblockVpnService

open Prog GatewaySelector Relation

/-! ## With and without a tunnel -/

/-- Nobody says that the app is on, and no thread is about to. -/
structure Down (service : Service) : Prop extends Gone service where
  published : ¬ service.published.IsOn
  unarmed : AllUnarmed service

/-- What holds while the main thread is idle. -/
def Settled (service : Service) : Prop := Up service ∨ Down service

/-- Without a tunnel and an armed thread nobody says that the app is on. -/
theorem framed_down : Framed Down where
  stable := by
    intro service service' hdown hstep
    refine ⟨framed_gone.stable _ _ hdown.toGone hstep, ?_, ?_⟩
    · rw [hstep.published hdown.unarmed]
      exact hdown.published
    · exact hstep.unarmed hdown.tunInterface hdown.unarmed
  kept op hplain service answer service' hdown hstep := by
    refine ⟨framed_gone.kept op hplain _ answer _ hdown.toGone hstep, ?_, ?_⟩
    · rw [(serviceStep_frame hstep).published hplain.keepsPublished]
      exact hdown.published
    · rw [AllUnarmed, (serviceStep_frame hstep).thread]
      exact hdown.unarmed

/-- With a tunnel or without, this lasts. -/
theorem framed_settled : Framed Settled where
  stable _ _ hsettled hstep := hsettled.imp
    (fun hup => framed_up.stable _ _ hup hstep) fun hdown => framed_down.stable _ _ hdown hstep
  kept op hplain service answer service' hsettled hstep := hsettled.imp
    (fun hup => framed_up.kept op hplain service answer service' hup hstep)
    fun hdown => framed_down.kept op hplain service answer service' hdown hstep

theorem Settled.threaded {service : Service} (hsettled : Settled service) : Threaded service := by
  rcases hsettled with hup | hdown
  · exact hup.threaded
  · exact hdown.threaded

/-! ## Calm stops -/

/-- When the main thread publishes that the tunnel is stopped or has failed, no
thread stands between its look at the interface and its publication. -/
def Calm : ServiceOp → Service → Prop
  | .update .off, service => AllUnarmed service
  | .update (.error _), service => AllUnarmed service
  | _, _ => True

/-- The calls of the main thread in runs that meet the condition. -/
def calmStep : Semantics ServiceOp ServiceOp.Answer Service :=
  fun op service answer service' => serviceStep op service answer service' ∧ Calm op service

theorem restricts_calmStep : Restricts calmStep := fun _ _ _ _ hstep => hstep.1

/-- A stop or a failure is published. -/
theorem update_down {value : TunnelState} (hoff : ¬ value.IsOn)
    (hcalm : ∀ service, Calm (.update value) service → AllUnarmed service) :
    TripleE calmStep Background Gone (serviceCall (.update value)) (fun _ => Down)
      fun _ _ => False := by
  apply sure_call restricts_calmStep (by trivial) framed_gone.stable framed_down.stable
  intro service answer service' hgone ⟨hstep, hservice⟩
  have hframe := serviceStep_frame hstep
  refine ⟨⟨serviceStep_threaded hgone.threaded hstep, ?_⟩, ?_, ?_⟩
  · exact (hframe.tunInterface trivial).trans hgone.tunInterface
  · rw [serviceStep_update hstep]
    exact hoff
  · rw [AllUnarmed, hframe.thread]
    exact hcalm service hservice

/-- After a calm stop the app is not on, and no thread makes it so. -/
theorem stopTunnel_down :
    TripleE calmStep Background Threaded stopTunnel (fun _ => Down) fun _ _ => False := by
  have hsem := restricts_calmStep
  apply TripleE.bind (cleanupTunnel_gone hsem)
  intro _
  apply TripleE.bind (plain_call hsem framed_gone (by trivial) (by trivial))
  intro _
  apply TripleE.bind (@update_down .off id fun _ hcalm => hcalm)
  intro _
  apply TripleE.bind (plain_call hsem framed_down (by trivial) (by trivial))
  exact fun _ => plain_call hsem framed_down (by trivial) (by trivial)

/-- After a failed start neither. -/
theorem startFailed_down (error : Exception) :
    TripleE calmStep Background Threaded (startFailed error) (fun _ => Down)
      fun _ _ => False := by
  have hsem := restricts_calmStep
  apply TripleE.bind (cleanupTunnel_gone hsem)
  intro _
  apply TripleE.bind (@update_down (.error (failureMessage error)) id fun _ hcalm => hcalm)
  intro _
  apply TripleE.bind (plain_call hsem framed_down (by trivial) (by trivial))
  exact fun _ => plain_call hsem framed_down (by trivial) (by trivial)

/-! ## Starts -/

/-- A start brings the tunnel up or fails. -/
theorem startTunnel_settled :
    TripleE calmStep Background Settled startTunnel (fun _ => Settled) fun _ => Settled := by
  have hsem := restricts_calmStep
  apply TripleE.bind (plain_uses hsem framed_settled (isUp_uses trivial trivial))
  intro up
  split
  next => exact TripleE.pure framed_settled.stable fun _ h => h
  next =>
    apply TripleE.bind (update_starting hsem framed_settled.stable fun _ h => h.threaded).nothrow
    intro _
    have hbringUp := bringUp_ends hsem (fun _ _ hstep => hstep) fun selector relay established =>
      (startEngine_working hsem selector relay established).failure fun _ _ h => h.1.threaded
    apply TripleE.tryCatch (hbringUp.post fun _ _ h => Or.inl h.1)
    intro error
    exact ((startFailed_down error).post fun _ _ h => Or.inr h).nothrow

/-! ## Processes -/

theorem stopTunnel_settled :
    TripleE calmStep Background Settled stopTunnel (fun _ => Settled) fun _ => Settled :=
  stopTunnel_down.conseq (fun _ h => h.threaded) (fun _ _ h => Or.inr h) fun _ _ h => h.elim

/-- Every callback ends with a tunnel, or without one and not on. -/
theorem callback_settled {code : ServiceM Unit} (hcallback : Callback code) :
    TripleE calmStep Background Settled code (fun _ => Settled) fun _ => Settled := by
  have hsem := restricts_calmStep
  cases hcallback with
  | onStartCommand action =>
      unfold onStartCommand
      split
      next => exact stopTunnel_settled
      next =>
        have hforeground : (serviceCall .startForeground).run.Uses Plain := Uses.io trivial
        apply TripleE.bind (plain_uses hsem framed_settled hforeground)
        exact fun _ => startTunnel_settled
  | onRevoke | onDestroy => exact stopTunnel_settled
  | startVpnService =>
      have hstarting : TripleE calmStep Background Settled startVpnService
          (fun _ => Settled) fun _ _ => False := by
        apply sure_call hsem (by trivial) framed_settled.stable framed_settled.stable
        intro service answer service' hsettled hstep
        have hcall := hsem hstep
        have hframe := serviceStep_frame hcall
        rcases hsettled with hup | hdown
        · refine Or.inl ⟨serviceStep_threaded hup.threaded hcall, ?_⟩
          rw [hframe.tunInterface trivial]
          exact hup.tunInterface
        · refine Or.inr ⟨⟨serviceStep_threaded hdown.threaded hcall, ?_⟩, ?_, ?_⟩
          · exact (hframe.tunInterface trivial).trans hdown.tunInterface
          · rw [serviceStep_update hcall]
            exact id
          · rw [AllUnarmed, hframe.thread]
            exact hdown.unarmed
      exact hstarting.nothrow

/-- So it is whenever the main thread is idle. -/
theorem Idle.settled {service : Service} (hidle : Idle calmStep service) : Settled service := by
  apply hidle.invariant _ framed_settled.stable fun _ hcallback => callback_settled hcallback
  exact Or.inr ⟨⟨nofun, rfl⟩, id, nofun⟩

/-- In a process whose stops are calm, whenever the main thread is idle and there is
no interface, the app does not say that it is on, and nothing that the background
still does makes it say so. -/
theorem stopped_not_on {service : Service} (hidle : Idle calmStep service)
    (hstopped : service.tunInterface = none) :
    ¬ service.published.IsOn ∧
      ∀ later, ReflTransGen Background service later → ¬ later.published.IsOn := by
  rcases hidle.settled with hup | hdown
  · exact absurd hstopped hup.tunInterface
  · exact ⟨hdown.published, fun later hlater => (framed_down.stable.star hdown hlater).published⟩

/-! ## A stop before the look -/

/-- Every call succeeds. -/
def allSucceed : (op : ServiceOp) → Service → Option (op.Answer × Service)
  | .getTunInterface, service => some (.ok service.tunInterface, service)
  | .setTunInterface tun, service => some (.ok (), { service with tunInterface := tun })
  | .getSocksRelay, service => some (.ok service.socksRelay, service)
  | .setSocksRelay relay, service => some (.ok (), { service with socksRelay := relay })
  | .getGatewaySelector, service => some (.ok service.gatewaySelector, service)
  | .setGatewaySelector selector, service =>
    some (.ok (), { service with gatewaySelector := selector })
  | .update value, service => some (.ok (), { service with published := value })
  | .tProxyStartService _ _, service =>
    if service.engine then none
    else some (.ok true, { service with engine := true, engineStarts := service.engineStarts + 1 })
  | .tProxyStopService, service =>
    some (.ok true, { service with engine := false, engineStarts := 0 })
  | .tProxyIsRunning, service => some (.ok service.engine, service)
  | .activePackages, service => some (.ok ["com.openai.chatgpt"], service)
  | .newSelector, service => some (.ok service.created,
    { service.setSelector service.created {} with
      created := service.created + 1
      openSelectors := service.created :: service.openSelectors })
  | .newRelay, service => some (.ok service.created,
    { service with
      created := service.created + 1
      openRelays := service.created :: service.openRelays })
  | .establish, service => some (.ok (some service.created),
    { service with
      created := service.created + 1
      openTuns := service.created :: service.openTuns })
  | .closeRelay relay, service =>
    some (.ok (), { service with openRelays := service.openRelays.filter (· ≠ relay) })
  | .closeTun tun, service =>
    some (.ok (), { service with openTuns := service.openTuns.filter (· ≠ tun) })
  | .relayPort _, service => some (.ok 1080, service)
  | .relayPassword _, service => some (.ok "", service)
  | .writeTunnelConfig _ _ _, service => some (.ok "aiunblock-tunnel.yml", service)
  | .startRelay relay, service =>
    some (.ok (), { service with startedRelays := relay :: service.startedRelays })
  | .getPackageInfo _, service | .loadRules, service | .configureBuilder _, service =>
    some (.ok (), service)
  | .putEnabled enabled, service => some (.ok (), { service with enabled })
  | .startForeground, service => some (.ok (), { service with foreground := true })
  | .stopForeground, service => some (.ok (), { service with foreground := false })
  | .stopSelf, service => some (.ok (), { service with stopping := true })
  | .selector id op, service =>
    match op with
    | .isClosed => some (.ok (service.selectors id).closed, service)
    | .compareAndSetClosed => some (.ok (!(service.selectors id).closed),
      { service.setSelector id { service.selectors id with closed := true } with
        openSelectors := service.openSelectors.filter (· ≠ id) })
    | .hasPeriodicTask => some (.ok (service.selectors id).periodicTask, service)
    | .schedulePeriodicTask => some (.ok (), service.setSelector id
      { service.selectors id with periodicTask := true, scheduled := true })
    | .cancelPeriodicTask | .shutdownScheduler => some (.ok (),
      service.setSelector id { service.selectors id with scheduled := false })
    | .clearPeriodicTask => some (.ok (),
      service.setSelector id { service.selectors id with periodicTask := false })
    | .getSelected => some (.ok (loadSavedGateways KMap.empty), service)
    | .awaitAuthorization _ | .awaitProbe _ => some (.ok true, service)
    | .setSelected _ | .applyPreferences _ | .shutdownProbePool | .onSelectionUpdated _ =>
      some (.ok (), service)

/-- It is possible that all calls succeed. -/
theorem allSucceed_step {op : ServiceOp} {service service' : Service} {answer : op.Answer}
    (hanswer : allSucceed op service = some (answer, service')) :
    serviceStep op service answer service' := by
  cases op with
  | selector id op =>
      cases op with
      | schedulePeriodicTask | getSelected | awaitAuthorization | awaitProbe | setSelected
        | applyPreferences | shutdownProbePool | onSelectionUpdated =>
          cases hanswer
          rfl
      | _ =>
          cases hanswer
          exact ⟨rfl, rfl⟩
  | tProxyStartService =>
      rw [allSucceed] at hanswer
      split at hanswer
      next => cases hanswer
      next hengine =>
        cases hanswer
        exact Or.inr ⟨by simpa using hengine, rfl, rfl⟩
  | tProxyStopService | relayPort | relayPassword =>
      cases hanswer
      exact ⟨⟨_, rfl⟩, rfl⟩
  | closeTun =>
      cases hanswer
      exact ⟨Or.inl rfl, rfl⟩
  | activePackages | getPackageInfo | loadRules | startRelay | configureBuilder
    | writeTunnelConfig | startForeground =>
      cases hanswer
      rfl
  | _ =>
      cases hanswer
      exact ⟨rfl, rfl⟩

/-- Every call succeeds, but the thread stops before it looks at the interface. -/
def beforeLook : (op : ServiceOp) → Service → Option (op.Answer × Service)
  | .getTunInterface, _ => none
  | op, service => allSucceed op service

theorem allSucceed_of_beforeLook {op : ServiceOp} {service service' : Service} {answer : op.Answer}
    (hanswer : beforeLook op service = some (answer, service')) :
    allSucceed op service = some (answer, service') ∧ WithoutTun op answer := by
  cases op with
  | getTunInterface => cases hanswer
  | _ => exact ⟨hanswer, trivial⟩

/-- Some calls of the scheduler's thread of a selector. -/
def runThread (handle : (op : ServiceOp) → Service → Option (op.Answer × Service))
    (id : SelectorId) : Nat → Service → Option Service
  | 0, service => some service
  | count + 1, service =>
    match service.thread id with
    | some (.call op next) =>
      match handle op service with
      | some (answer, service') =>
        runThread handle id count (service'.setThread id (some (next answer)))
      | none => none
    | _ => none

/-- What each call of the thread keeps holds after some of them. -/
theorem runThread_keeps {handle : (op : ServiceOp) → Service → Option (op.Answer × Service)}
    {id : SelectorId} {count : Nat} {service service' : Service} {P : Service → Prop}
    (hkeep : ∀ before op next answer after, P before → before.thread id = some (.call op next) →
      handle op before = some (answer, after) → P (after.setThread id (some (next answer))))
    (hservice : P service) (hrun : runThread handle id count service = some service') :
    P service' := by
  induction count generalizing service with
  | zero =>
      cases hrun
      exact hservice
  | succ count ih =>
      rw [runThread] at hrun
      split at hrun
      next op next hthread =>
        split at hrun
        next answer after hanswer =>
          exact ih (hkeep service op next answer after hservice hthread hanswer) hrun
        next => cases hrun
      next => cases hrun

/-- Some calls of a thread are background steps. -/
theorem runThread_reaches {handle : (op : ServiceOp) → Service → Option (op.Answer × Service)}
    {id : SelectorId} {count : Nat} {service service' : Service}
    (hhandle : ∀ op before (answer : ServiceOp.Answer op) after,
      handle op before = some (answer, after) → serviceStep op before answer after)
    (hrun : runThread handle id count service = some service') :
    ReflTransGen Background service service' := by
  apply runThread_keeps _ ReflTransGen.refl hrun
  intro before op next answer after hbefore hthread hanswer
  exact hbefore.tail (.scheduler (.act id hthread (hhandle op before answer after hanswer)))

/-- A thread that has not looked at the interface does not publish. -/
theorem runThread_unarmed {id : SelectorId} {count : Nat} {service service' : Service}
    (hunarmed : AllUnarmed service) (hrun : runThread beforeLook id count service = some service') :
    AllUnarmed service' := by
  apply runThread_keeps _ hunarmed hrun
  intro before op next answer after hbefore hthread hanswer
  obtain ⟨hsucceeds, hwithout⟩ := allSucceed_of_beforeLook hanswer
  have hafter : AllUnarmed after := by
    rw [AllUnarmed, (serviceStep_frame (allSucceed_step hsucceeds)).thread]
    exact hbefore
  apply setThread_forall hafter
  intro started hstarted
  rw [← Option.some.inj hstarted]
  exact (hbefore id _ hthread).2 answer hwithout

/-- Run a callback without interruption. -/
def runCallback (code : ServiceM Unit) (service : Service) : Option Service :=
  (code.run.run allSucceed service).map Prod.snd

theorem runCallback_outcome {code : ServiceM Unit} {service service' : Service}
    (hrun : runCallback code service = some service') :
    ∃ result, Outcome serviceStep code.run service result service' := by
  obtain ⟨⟨result, after⟩, hends, rfl⟩ := Option.map_eq_some_iff.mp hrun
  have hsem : ∀ op (before : Service) (answer : ServiceOp.Answer op) after,
      allSucceed op before = some (answer, after) → serviceStep op (id before) answer (id after) :=
    fun _ _ _ _ hanswer => allSucceed_step hanswer
  exact ⟨result, Outcome.of_run id hsem hends⟩

/-- A callback that runs to its end is a turn of the process. -/
theorem runCallback_turn {code : ServiceM Unit} {service service' : Service}
    (hcallback : Callback code) (hrun : runCallback code service = some service') :
    Turn serviceStep service service' := by
  obtain ⟨result, houtcome⟩ := runCallback_outcome hrun
  exact .callback hcallback (Reaches.of_outcome houtcome)

/-- A callback is calm as long as no thread is armed. -/
theorem runCallback_calm {code : ServiceM Unit} {service service' : Service}
    (hcallback : Callback code) (hunarmed : AllUnarmed service)
    (hrun : runCallback code service = some service') :
    Turn calmStep service service' ∧ AllUnarmed service' := by
  have hkeep : ∀ op (before : Service) (answer : ServiceOp.Answer op) after, AllUnarmed before →
      serviceStep op before answer after → calmStep op before answer after ∧ AllUnarmed after := by
    intro op before answer after hbefore hstep
    refine ⟨⟨hstep, ?_⟩, ?_⟩
    · cases op with
      | update value =>
          cases value with
          | off | error => exact hbefore
          | _ => trivial
      | _ => trivial
    · rw [AllUnarmed, (serviceStep_frame hstep).thread]
      exact hbefore
  obtain ⟨result, houtcome⟩ := runCallback_outcome hrun
  obtain ⟨hcalm, hafter⟩ := houtcome.restrict hkeep hunarmed
  exact ⟨.callback hcallback (Reaches.of_outcome hcalm), hafter⟩

/-- The service is started, and its first refresh begins. -/
def refreshing : Option Service :=
  (runCallback (onStartCommand none) {}).map fun service =>
    service.setThread 0 (some (ofSelector 0 refreshSafely).run)

/-- The refresh begins in a process that is idle, and it is not armed. -/
theorem refreshing_reached {service : Service} (hbegun : refreshing = some service) :
    Idle calmStep service ∧ AllUnarmed service := by
  have hready : (runCallback (onStartCommand none) {}).map
      (fun service => ((service.selectors 0).scheduled, (service.thread 0).isNone)) =
      some (true, true) := by decide
  obtain ⟨up, hup, rfl⟩ := Option.map_eq_some_iff.mp hbegun
  rw [hup, Option.map_some, Option.some_inj, Prod.mk.injEq, Option.isNone_iff_eq_none] at hready
  have hinit : AllUnarmed {} := nofun
  obtain ⟨hturn, hunarmed⟩ := runCallback_calm (.onStartCommand none) hinit hup
  refine ⟨.tail (.single hturn) (.background (.scheduler (.begin 0 hready.2 hready.1))), ?_⟩
  apply setThread_forall hunarmed
  rintro _ ⟨⟩
  exact refreshSafely_unarmed 0

/-- The next call of the thread is its look at the interface. -/
def aboutToLook : Option ServiceTask → Bool
  | some (.call .getTunInterface _) => true
  | _ => false

/-- All probes pass, the permission is revoked, and the callback is about to look at the
interface. -/
def calmStop : Option Service :=
  refreshing.bind fun begun => (runThread beforeLook 0 20 begun).bind (runCallback onRevoke)

/-- A refresh that comes to its callback after the stop publishes nothing. -/
theorem stopped_not_on_looking :
    ∃ service, Idle calmStep service ∧ service.tunInterface = none ∧
      aboutToLook (service.thread 0) = true ∧ service.published = .off ∧
      ∀ later, ReflTransGen Background service later → ¬ later.published.IsOn := by
  have hstop : calmStop.map (fun service =>
      (service.tunInterface, aboutToLook (service.thread 0), service.published)) =
      some (none, true, .off) := by
    decide
  obtain ⟨service, hservice, hshows⟩ := Option.map_eq_some_iff.mp hstop
  obtain ⟨begun, hbegun, hrest⟩ := Option.bind_eq_some_iff.mp hservice
  obtain ⟨probed, hprobed, hstopped⟩ := Option.bind_eq_some_iff.mp hrest
  obtain ⟨hreached, hunarmed⟩ := refreshing_reached hbegun
  have hprobes := runThread_reaches
    (fun _ _ _ _ hanswer => allSucceed_step (allSucceed_of_beforeLook hanswer).1) hprobed
  obtain ⟨hturn, _⟩ := runCallback_calm .onRevoke (runThread_unarmed hunarmed hprobed) hstopped
  have hidle : Idle calmStep service := (hreached.background hprobes).tail hturn
  simp only [Prod.mk.injEq] at hshows
  exact ⟨service, hidle, hshows.1, hshows.2.1, hshows.2.2, (stopped_not_on hidle hshows.1).2⟩

/-! ## A stop between the look and the publication -/

/-- All probes pass, the callback finds the interface, the permission is revoked, and
the callback publishes. -/
def lateSelection : Option Service :=
  refreshing.bind fun begun => (runThread allSucceed 0 21 begun).bind fun looked =>
    (runCallback onRevoke looked).bind (runThread allSucceed 0 1)

/-- The app is on without a tunnel. -/
theorem late_selection_on :
    ∃ service, Idle serviceStep service ∧ service.tunInterface = none ∧
      service.published.IsOn := by
  have hlate : lateSelection.map (fun service => (service.tunInterface, service.published)) =
      some (none, .on
        "Gemini/NotebookLM · 62.133.62.97\nChatGPT/Claude · 87.228.47.204\nGeoHide · 45.155.204.190") := by
    decide
  obtain ⟨service, hservice, hshows⟩ := Option.map_eq_some_iff.mp hlate
  obtain ⟨begun, hbegun, hrest⟩ := Option.bind_eq_some_iff.mp hservice
  obtain ⟨looked, hlooked, hrest⟩ := Option.bind_eq_some_iff.mp hrest
  obtain ⟨stopped, hstopped, hpublished⟩ := Option.bind_eq_some_iff.mp hrest
  have hbegins : Idle serviceStep begun :=
    (refreshing_reached hbegun).1.mono fun _ _ _ _ hstep => restricts_calmStep hstep
  have hlooks := runThread_reaches (fun _ _ _ _ => allSucceed_step) hlooked
  have hpublishes := runThread_reaches (fun _ _ _ _ => allSucceed_step) hpublished
  rw [Prod.mk.injEq] at hshows
  refine ⟨service, ?_, hshows.1, ?_⟩
  · have hrevoked := (hbegins.background hlooks).tail (runCallback_turn .onRevoke hstopped)
    exact Idle.background hrevoked hpublishes
  · rw [hshows.2]
    trivial

end AIUnblock.AiUnblockVpnService
