import AIUnblock.Service.FailedStart
import AIUnblock.Service.Holdings
import AIUnblock.Service.StaleSelection

/-! # Connecting

The app publishes that the tunnel is starting and then sends the start command.
Without an interface the command ends with a running engine or with an error. With
one it returns at once and publishes nothing, whether the engine runs or not.
-/

namespace AIUnblock.AiUnblockVpnService

open Prog GatewaySelector Relation

/-! ## Without an interface the engine rests -/

/-- There is neither an interface nor a running engine. -/
structure Resting (service : Service) : Prop extends Gone service where
  engine : service.engine = false

/-- The engine is stopped. -/
def Stopped (service : Service) : Prop := Threaded service ∧ service.engine = false

/-- The call does not start the engine. -/
def Unstarting : ServiceOp → Prop
  | .tProxyStartService _ _ => False
  | _ => True

/-- No scheduler starts the engine. -/
theorem Background.engine {service service' : Service} (hstep : Background service service')
    (hthreaded : Threaded service) (hengine : service.engine = false) :
    service'.engine = false := by
  cases hstep with
  | engineEnds => rfl
  | scheduler hstep =>
      cases hstep with
      | begin | finish => exact hengine
      | act id hthread hcall =>
          have hop := (hthreaded id _ hthread).1.keepsEngine
          exact (serviceStep_engine hop hcall).trans hengine

/-- Nor do calls that have nothing to do with it. -/
theorem Unstarting.engine {op : ServiceOp} {service service' : Service} {answer : op.Answer}
    (hop : Unstarting op) (hengine : service.engine = false)
    (hstep : serviceStep op service answer service') : service'.engine = false := by
  by_cases hkeeps : KeepsEngine op
  · exact (serviceStep_engine hkeeps hstep).trans hengine
  · cases op with
    | tProxyStartService => exact hop.elim
    | tProxyStopService =>
        obtain ⟨_, rfl⟩ := hstep
        rfl
    | _ => exact absurd trivial hkeeps

theorem stable_stopped : Stable Background Stopped := fun _ _ hstopped hstep =>
  ⟨stable_threaded _ _ hstopped.1 hstep, hstep.engine hstopped.1 hstopped.2⟩

theorem stable_resting : Stable Background Resting := fun _ _ hresting hstep =>
  ⟨framed_gone.stable _ _ hresting.toGone hstep, hstep.engine hresting.threaded hresting.engine⟩

/-- They keep a stopped engine and an empty field as they are. -/
theorem Unstarting.stopped {op : ServiceOp} {service service' : Service} {answer : op.Answer}
    (hop : Unstarting op) (hstopped : Stopped service)
    (hstep : serviceStep op service answer service') : Stopped service' :=
  ⟨serviceStep_threaded hstopped.1 hstep, hop.engine hstopped.2 hstep⟩

/-- Nothing starts the engine again once it has been asked to stop. -/
theorem stopEngine_stopped :
    TripleE serviceStep Background Threaded stopEngine (fun _ => Stopped) fun _ => Threaded := by
  have hasked : TripleE serviceStep Background Threaded (serviceCall .tProxyIsRunning)
      (fun running service => Threaded service ∧ (running = false → service.engine = false))
      fun _ => Threaded := by
    apply TripleE.io stable_threaded _ (fun _ => stable_threaded)
    · intro service running service' hthreaded hstep
      refine ⟨serviceStep_threaded hthreaded hstep, fun hstopped => ?_⟩
      obtain ⟨hanswer, rfl⟩ := hstep
      cases hanswer
      exact hstopped
    · exact fun service error service' hthreaded hstep => serviceStep_threaded hthreaded hstep
    · rintro running service service' ⟨hthreaded, hstopped⟩ hstep
      exact ⟨stable_threaded _ _ hthreaded hstep,
        fun hrunning => hstep.engine hthreaded (hstopped hrunning)⟩
  apply TripleE.bind hasked
  intro running
  split
  next =>
    have hstop : TripleE serviceStep Background Threaded (serviceCall .tProxyStopService)
        (fun _ => Stopped) fun _ => Threaded := by
      apply TripleE.io stable_threaded (fun _ => stable_stopped) (fun _ => stable_threaded)
      · intro service stopped service' hthreaded hstep
        refine ⟨serviceStep_threaded hthreaded hstep, ?_⟩
        obtain ⟨_, rfl⟩ := hstep
        rfl
      · exact fun service error service' hthreaded hstep => serviceStep_threaded hthreaded hstep
    apply TripleE.bind (hstop.conseq (fun _ h => h.1) (fun _ _ h => h) fun _ _ h => h)
    exact fun _ => TripleE.pure stable_stopped fun _ h => h
  next hrunning =>
    exact TripleE.pure stable_stopped fun _ h => ⟨h.1, h.2 (by simpa using hrunning)⟩

theorem closeTunInterface_uses : closeTunInterface.run.Uses Unstarting := by
  apply Uses.bindE (Uses.io trivial)
  intro tun
  cases tun with
  | none => trivial
  | some tun =>
      apply Uses.tryCatch (Uses.io trivial)
      intro error
      split
      next => trivial
      next => trivial

theorem closeSocksRelay_uses : closeSocksRelay.run.Uses Unstarting := by
  apply Uses.bindE (Uses.io trivial)
  intro relay
  cases relay with
  | none => trivial
  | some relay => exact Uses.io trivial

/-- A cleanup leaves neither an interface nor a running engine. -/
theorem cleanupTunnel_resting :
    TripleE serviceStep Background Threaded cleanupTunnel (fun _ => Resting)
      fun _ _ => False := by
  have hkeeps : ∀ code : ServiceM Unit, TripleE serviceStep Background Threaded code
      (fun _ => Threaded) fun _ => Threaded := fun code =>
    TripleE.keeps stable_threaded fun _ _ _ _ => serviceStep_threaded
  have hclose : (closeTunInterface >>= fun _ => serviceCall (.setTunInterface none) >>= fun _ =>
      closeSocksRelay >>= fun _ => serviceCall (.setSocksRelay none)).run.Uses Unstarting :=
    Uses.bindE closeTunInterface_uses fun _ => Uses.bindE (Uses.io trivial) fun _ =>
      Uses.bindE closeSocksRelay_uses fun _ => Uses.io trivial
  have hstopped : TripleE serviceStep Background Threaded cleanupTunnel (fun _ => Stopped)
      fun _ => Threaded := by
    apply TripleE.bind (hkeeps closeSelector)
    intro _
    apply TripleE.bind (hkeeps _)
    intro _
    apply TripleE.bind stopEngine_stopped
    intro _
    have hrest := TripleE.uses hclose stable_stopped
      fun op hop service answer service' => @Unstarting.stopped op service service' answer hop
    exact hrest.failure fun _ _ h => h.1
  refine ((cleanupTunnel_gone restricts_serviceStep).both hstopped).conseq (fun _ h => ⟨h, h⟩) ?_ ?_
  · exact fun _ service h => ⟨h.1, h.2.2⟩
  · exact fun _ service h => h.1.elim

/-- The call neither sets the interface nor starts the engine. -/
def Restful (op : ServiceOp) : Prop := KeepsTun op ∧ Unstarting op

/-- The calls of a stop, and those that only look, leave a resting service resting. -/
theorem Restful.resting {op : ServiceOp} {service service' : Service} {answer : op.Answer}
    (hop : Restful op) (hresting : Resting service)
    (hstep : serviceStep op service answer service') : Resting service' where
  threaded := serviceStep_threaded hresting.threaded hstep
  tunInterface := ((serviceStep_frame hstep).tunInterface hop.1).trans hresting.tunInterface
  engine := hop.2.engine hresting.engine hstep

theorem resting_call {op : ServiceOp} (hsure : Sure op) (hop : Restful op) :
    TripleE serviceStep Background Resting (serviceCall op) (fun _ => Resting)
      fun _ _ => False :=
  sure_call restricts_serviceStep hsure stable_resting stable_resting fun _ _ _ => hop.resting

/-- After a stop the service rests. -/
theorem stopTunnel_resting :
    TripleE serviceStep Background Threaded stopTunnel (fun _ => Resting) fun _ _ => False := by
  apply TripleE.bind cleanupTunnel_resting
  intro _
  apply TripleE.bind (resting_call (by trivial) (by exact ⟨trivial, trivial⟩))
  intro _
  apply TripleE.bind (resting_call (by trivial) (by exact ⟨trivial, trivial⟩))
  intro _
  apply TripleE.bind (resting_call (by trivial) (by exact ⟨trivial, trivial⟩))
  exact fun _ => resting_call (by trivial) ⟨trivial, trivial⟩

/-- After a failed start too. -/
theorem startFailed_resting (error : Exception) :
    TripleE serviceStep Background Threaded (startFailed error) (fun _ => Resting)
      fun _ _ => False := by
  apply TripleE.bind cleanupTunnel_resting
  intro _
  apply TripleE.bind (resting_call (by trivial) (by exact ⟨trivial, trivial⟩))
  intro _
  apply TripleE.bind (resting_call (by trivial) (by exact ⟨trivial, trivial⟩))
  exact fun _ => resting_call (by trivial) ⟨trivial, trivial⟩

/-! ## The test at the head of a start -/

/-- A service that works says that it is up. -/
theorem isUp_working :
    TripleE serviceStep Background Working isUp (fun up service => up = true ∧ Working service)
      fun _ _ => False := by
  have htun : TripleE serviceStep Background Working (serviceCall .getTunInterface)
      (fun tun service => tun ≠ none ∧ Working service) fun _ _ => False := by
    apply TripleE.io framed_working.stable _ (fun _ => stable_false _)
    · intro service tun service' hworking hstep
      obtain ⟨hanswer, rfl⟩ := hstep
      cases hanswer
      exact ⟨hworking.1.tunInterface, hworking⟩
    · intro service error service' _ hstep
      cases hstep.1
    · rintro tun service service' ⟨hsome, hworking⟩ hstep
      exact ⟨hsome, framed_working.stable _ _ hworking hstep⟩
  apply TripleE.bind htun
  intro tun
  cases tun with
  | none => exact fun service h => absurd rfl h.1
  | some tun =>
      apply TripleE.pure _ fun _ h => ⟨rfl, h.2⟩
      exact fun service service' h hstep => ⟨rfl, framed_working.stable _ _ h.2 hstep⟩

/-- A service that rests says that it is not. -/
theorem isUp_resting :
    TripleE serviceStep Background Resting isUp (fun up service => up = false ∧ Resting service)
      fun _ _ => False := by
  have hstable : ∀ fact : Prop, Stable Background fun service => fact ∧ Resting service :=
    fun fact service service' h hstep => ⟨h.1, stable_resting _ _ h.2 hstep⟩
  have htun : TripleE serviceStep Background Resting (serviceCall .getTunInterface)
      (fun tun service => tun = none ∧ Resting service) fun _ _ => False := by
    apply TripleE.io stable_resting (fun _ => hstable _) (fun _ => stable_false _)
    · intro service tun service' hresting hstep
      obtain ⟨hanswer, rfl⟩ := hstep
      cases hanswer
      exact ⟨hresting.tunInterface, hresting⟩
    · intro service error service' _ hstep
      cases hstep.1
  have hrunning : TripleE serviceStep Background Resting (serviceCall .tProxyIsRunning)
      (fun running service => running = false ∧ Resting service) fun _ _ => False := by
    apply TripleE.io stable_resting (fun _ => hstable _) (fun _ => stable_false _)
    · intro service running service' hresting hstep
      obtain ⟨hanswer, rfl⟩ := hstep
      cases hanswer
      exact ⟨hresting.engine, hresting⟩
    · intro service error service' _ hstep
      cases hstep.1
  apply TripleE.bind htun
  intro tun
  cases tun with
  | none => exact hrunning.conseq (fun _ h => h.2) (fun _ _ h => h) fun _ _ h => h
  | some tun => exact fun service h => nomatch h.1

/-! ## Processes -/

/-- What holds while the main thread is idle. -/
def Consistent (service : Service) : Prop := Working service ∨ Resting service

theorem stable_consistent : Stable Background Consistent := fun _ _ hconsistent hstep =>
  hconsistent.imp (fun h => framed_working.stable _ _ h hstep) fun h => stable_resting _ _ h hstep

theorem Consistent.threaded {service : Service} (hconsistent : Consistent service) :
    Threaded service := by
  rcases hconsistent with hworking | hresting
  · exact hworking.1.threaded
  · exact hresting.threaded

/-- A start leaves a service that works or rests. -/
theorem startTunnel_consistent :
    TripleE serviceStep Background Consistent startTunnel (fun _ => Consistent)
      fun _ => Consistent := by
  have hsem := restricts_serviceStep
  have hworking : TripleE serviceStep Background Working startTunnel (fun _ => Consistent)
      fun _ => Consistent := by
    apply TripleE.bind isUp_working.nothrow
    intro up
    split
    next => exact TripleE.pure stable_consistent fun _ h => Or.inl h.2
    next hup => exact fun service h => absurd h.1 hup
  have hresting : TripleE serviceStep Background Resting startTunnel (fun _ => Consistent)
      fun _ => Consistent := by
    apply TripleE.bind isUp_resting.nothrow
    intro up
    split
    next hup => exact fun service h => absurd (hup.symm.trans h.1) nofun
    next =>
      have hstarting := update_starting hsem stable_resting fun _ h => h.threaded
      apply TripleE.bind (hstarting.conseq (fun _ h => h.2) (fun _ _ h => h) fun _ _ h => h.elim)
      intro _
      have hbringUp := bringUp_ends hsem (fun _ _ hstep => hstep) fun selector relay established =>
        (startEngine_working hsem selector relay established).failure fun _ _ h => h.1.threaded
      apply TripleE.tryCatch (hbringUp.post fun _ _ h => Or.inl h)
      intro error
      exact ((startFailed_resting error).post fun _ _ h => Or.inr h).nothrow
  intro service hconsistent
  rcases hconsistent with h | h
  · exact hworking service h
  · exact hresting service h

/-- So does every callback. -/
theorem callback_consistent {code : ServiceM Unit} (hcallback : Callback code) :
    TripleE serviceStep Background Consistent code (fun _ => Consistent) fun _ => Consistent := by
  have hstop : TripleE serviceStep Background Consistent stopTunnel (fun _ => Consistent)
      fun _ => Consistent :=
    stopTunnel_resting.conseq (fun _ h => h.threaded) (fun _ _ h => Or.inr h) fun _ _ h => h.elim
  have hcall : ∀ op, Restful op → (∀ service answer service', Working service →
      serviceStep op service answer service' → Working service') →
      TripleE serviceStep Background Consistent (serviceCall op) (fun _ => Consistent)
        fun _ => Consistent := by
    intro op hop hkeep
    apply TripleE.io stable_consistent (fun _ => stable_consistent) (fun _ => stable_consistent)
    · exact fun service value service' h hstep => h.imp
        (fun hworking => hkeep service _ service' hworking hstep) fun h => hop.resting h hstep
    · exact fun service error service' h hstep => h.imp
        (fun hworking => hkeep service _ service' hworking hstep) fun h => hop.resting h hstep
  cases hcallback with
  | onStartCommand action =>
      unfold onStartCommand
      split
      next => exact hstop
      next =>
        apply TripleE.bind (hcall .startForeground ⟨trivial, trivial⟩ ?_)
        · exact fun _ => startTunnel_consistent
        · exact framed_working.kept .startForeground trivial
  | onRevoke | onDestroy => exact hstop
  | startVpnService =>
      apply hcall (.update .starting) ⟨trivial, trivial⟩
      intro service answer service' hworking hstep
      have hthreaded := serviceStep_threaded hworking.1.threaded hstep
      obtain ⟨_, rfl⟩ := hstep
      exact ⟨⟨hthreaded, hworking.1.tunInterface⟩, hthreaded, nofun⟩

/-- Between two callbacks a service works or rests. -/
theorem Idle.consistent {service : Service} (hidle : Idle serviceStep service) :
    Consistent service := by
  apply hidle.invariant _ stable_consistent fun _ hcallback => callback_consistent hcallback
  exact Or.inr ⟨⟨nofun, rfl⟩, rfl⟩

/-! ## Orderly starts -/

/-- The scheduler threads run, and publish nothing while there is no interface. The
engine does not end by itself. -/
def Orderly (service service' : Service) : Prop :=
  SchedulerStep service service' ∧
    (service.tunInterface = none → service'.published = service.published)

/-- Orderly steps are steps of the schedulers' threads. -/
theorem Orderly.background {service service' : Service} (hstep : Orderly service service') :
    Background service service' := .scheduler hstep.1

/-- In an orderly step the engine does not end. -/
theorem Orderly.engine {service service' : Service} (hstep : Orderly service service')
    (hthreaded : Threaded service) : service'.engine = service.engine := by
  cases hstep.1 with
  | begin | finish => rfl
  | @act op next answer after id hthread hcall =>
      have hop := (hthreaded id _ hthread).1.keepsEngine
      exact (serviceStep_engine hop hcall : after.engine = service.engine)

theorem stable_orderly {P : Service → Prop} (hP : Stable Background P) : Stable Orderly P :=
  fun _ _ hservice hstep => hP _ _ hservice hstep.background

/-- What holds against all background steps holds against the orderly ones. -/
theorem orderly_of_background {α : Type} {P : Service → Prop} {code : ServiceM α}
    {Q : α → Service → Prop} {E : Exception → Service → Prop}
    (hcode : TripleE serviceStep Background P code Q E) : TripleE serviceStep Orderly P code Q E :=
  hcode.mono_env fun _ _ hstep => hstep.background

/-- The engine runs. -/
structure Running (service : Service) : Prop where
  threaded : Threaded service
  engine : service.engine = true

/-- The engine runs, and the app says that it is on. -/
structure Shown (service : Service) : Prop extends Running service where
  published : service.published.IsOn

/-- There is no interface, and an error is shown. -/
structure Failed (service : Service) : Prop extends Gone service where
  published : ∃ message, service.published = .error message

theorem stable_running : Stable Orderly Running := fun _ _ hrunning hstep =>
  ⟨stable_threaded _ _ hrunning.threaded hstep.background,
    (hstep.engine hrunning.threaded).trans hrunning.engine⟩

theorem stable_shown : Stable Orderly Shown := by
  intro service service' hshown hstep
  refine ⟨stable_running _ _ hshown.toRunning hstep, ?_⟩
  rcases hstep.background.published_or_on hshown.threaded with hkept | hon
  · rw [hkept]
    exact hshown.published
  · exact hon

theorem stable_failed : Stable Orderly Failed := by
  intro service service' hfailed hstep
  refine ⟨framed_gone.stable _ _ hfailed.toGone hstep.background, ?_⟩
  rw [hstep.2 hfailed.tunInterface]
  exact hfailed.published

/-- The calls that keep the engine keep it running. -/
theorem Running.kept {op : ServiceOp} {service service' : Service} {answer : op.Answer}
    (hrunning : Running service) (hop : KeepsEngine op)
    (hstep : serviceStep op service answer service') : Running service' :=
  ⟨serviceStep_threaded hrunning.threaded hstep,
    (serviceStep_engine hop hstep).trans hrunning.engine⟩

/-- They keep the app on unless they publish something else. -/
theorem Shown.kept {op : ServiceOp} {service service' : Service} {answer : op.Answer}
    (hshown : Shown service) (hop : KeepsEngine op) (hon : ∀ value, op = .update value → value.IsOn)
    (hstep : serviceStep op service answer service') : Shown service' := by
  refine ⟨hshown.toRunning.kept hop hstep, ?_⟩
  by_cases hkeeps : KeepsPublished op
  · rw [(serviceStep_frame hstep).published hkeeps]
    exact hshown.published
  · cases op with
    | update value =>
        rw [serviceStep_update hstep]
        exact hon value rfl
    | _ => exact absurd trivial hkeeps

/-- A scheduler publishes nothing but that the app is on. -/
theorem OfScheduler.shown {op : ServiceOp} {service service' : Service} {answer : op.Answer}
    (hop : OfScheduler op) (hshown : Shown service)
    (hstep : serviceStep op service answer service') : Shown service' := by
  apply hshown.kept hop.keepsEngine _ hstep
  rintro value rfl
  exact hop

theorem stable_orderly_threaded : Stable Orderly Threaded := stable_orderly stable_threaded

/-- Code that keeps the engine leaves it running. -/
theorem running_uses {α : Type} {code : ServiceM α} (huses : code.run.Uses KeepsEngine) :
    TripleE serviceStep Orderly Running code (fun _ => Running) fun _ => Threaded :=
  (TripleE.uses huses stable_running fun _ hop _ _ _ hservice hstep =>
    hservice.kept hop hstep).failure fun _ _ h => h.threaded

/-- The engine runs if it says so. -/
theorem tProxyStartService_running (configFile : String) (established : TunId) :
    TripleE serviceStep Orderly Threaded (serviceCall (.tProxyStartService configFile established))
      (fun started service => Threaded service ∧ (started = true → Running service))
      fun _ => Threaded := by
  have hthreaded := stable_orderly_threaded
  apply TripleE.io hthreaded _ (fun _ => hthreaded)
  · intro service started service' hservice hstep
    have hkept := serviceStep_threaded hservice hstep
    refine ⟨hkept, fun hstarted => ⟨hkept, ?_⟩⟩
    rcases hstep with ⟨hanswer, rfl⟩ | ⟨_, _, rfl⟩
    · cases hanswer
      exact absurd hstarted nofun
    · rfl
  · exact fun service error service' hservice hstep => serviceStep_threaded hservice hstep
  · exact fun started service service' h hstep =>
      ⟨hthreaded _ _ h.1 hstep, fun hstarted => stable_running _ _ (h.2 hstarted) hstep⟩

/-- The end of a start shows the app on. -/
theorem update_shown (summary : String) :
    TripleE serviceStep Orderly Running (serviceCall (.update (.on summary))) (fun _ => Shown)
      fun _ _ => False := by
  apply sure_call restricts_serviceStep (by trivial) stable_running stable_shown
  intro service answer service' hservice hstep
  have hkept : Running service' := hservice.kept (by trivial) hstep
  refine ⟨hkept, ?_⟩
  rw [serviceStep_update hstep]
  trivial

/-- Once the engine runs, the start ends with the app on. -/
theorem startEngine_shown (selector : SelectorId) (relay : RelayId) (established : TunId) :
    TripleE serviceStep Orderly Threaded (startEngine selector relay established)
      (fun _ => Shown) fun _ => Threaded := by
  have hcall : ∀ op : ServiceOp, TripleE serviceStep Orderly Threaded (serviceCall op)
      (fun _ => Threaded) fun _ => Threaded := fun op =>
    TripleE.keeps stable_orderly_threaded fun _ _ _ _ => serviceStep_threaded
  have hstart : TripleE serviceStep Orderly Shown (ofSelector selector start)
      (fun _ => Shown) fun _ => Threaded :=
    (TripleE.uses (ofSelector_uses selector start) stable_shown
      fun _ hop _ _ _ hservice hstep => hop.shown hservice hstep).failure fun _ _ h => h.threaded
  have hsummary := (ofSelector_uses selector currentSummary).mono fun _ hop => hop.keepsEngine
  apply TripleE.bind (hcall (.relayPort relay))
  intro port
  apply TripleE.bind (hcall (.relayPassword relay))
  intro password
  apply TripleE.bind (hcall (.writeTunnelConfig port relayUsername password))
  intro configFile
  apply TripleE.bind (tProxyStartService_running configFile established)
  intro started
  split
  next hstarted =>
    have henable : TripleE serviceStep Orderly Running (serviceCall (.putEnabled true))
        (fun _ => Running) fun _ => Threaded := running_uses (Uses.io trivial)
    apply TripleE.bind (henable.conseq (fun _ h => h.2 hstarted) (fun _ _ h => h) fun _ _ h => h)
    intro _
    apply TripleE.bind (running_uses hsummary)
    intro summary
    apply TripleE.bind (update_shown summary).nothrow
    exact fun _ => hstart
  next => exact TripleE.throw stable_orderly_threaded fun _ h => h.1

/-- The end of a failed start shows the error. -/
theorem startFailed_failed (error : Exception) :
    TripleE serviceStep Orderly Threaded (startFailed error) (fun _ => Failed)
      fun _ _ => False := by
  have hsem := restricts_serviceStep
  have hgone : Stable Orderly Gone := stable_orderly framed_gone.stable
  have hupdate : TripleE serviceStep Orderly Gone
      (serviceCall (.update (.error (failureMessage error)))) (fun _ => Failed)
      fun _ _ => False := by
    apply sure_call hsem (by trivial) hgone stable_failed
    intro service answer service' hservice hstep
    have hthreaded := serviceStep_threaded hservice.threaded hstep
    obtain ⟨_, rfl⟩ := hstep
    exact ⟨⟨hthreaded, hservice.tunInterface⟩, _, rfl⟩
  have hkept : ∀ op, Sure op → Plain op → TripleE serviceStep Orderly Failed (serviceCall op)
      (fun _ => Failed) fun _ _ => False := by
    intro op hsure hplain
    apply sure_call hsem hsure stable_failed stable_failed
    intro service answer service' hservice hstep
    refine ⟨framed_gone.kept op hplain _ answer _ hservice.toGone hstep, ?_⟩
    rw [(serviceStep_frame hstep).published hplain.keepsPublished]
    exact hservice.published
  apply TripleE.bind (orderly_of_background (cleanupTunnel_gone hsem))
  intro _
  apply TripleE.bind hupdate
  intro _
  apply TripleE.bind (hkept .stopForeground trivial trivial)
  exact fun _ => hkept .stopSelf trivial trivial

/-! ## What a command resolves -/

/-- The app is on and the engine runs, or an error is shown. -/
def Resolved (service : Service) : Prop :=
  service.published.IsOn ∧ service.engine = true ∨ ∃ message, service.published = .error message

/-- Whenever the command returns, the published state is resolved. -/
def Resolves (service : Service) (action : Option String) : Prop :=
  ∀ later, Reaches serviceStep Orderly ((onStartCommand action).run, service)
    (.ret (.ok ()), later) → Resolved later

/-- Every command but the one to disconnect starts the tunnel. -/
theorem onStartCommand_connects {action : Option String}
    (haction : action ≠ some ACTION_DISCONNECT) :
    onStartCommand action = (do
      serviceCall .startForeground
      startTunnel) := if_neg haction

/-- Without an interface the command starts the tunnel or fails. -/
theorem connect_resting {action : Option String} (haction : action ≠ some ACTION_DISCONNECT) :
    TripleE serviceStep Orderly Resting (onStartCommand action)
      (fun _ service => Shown service ∨ Failed service) fun _ _ => True := by
  have hsem := restricts_serviceStep
  have hresting : Stable Orderly Resting := stable_orderly stable_resting
  have hforeground : (serviceCall .startForeground).run.Uses Restful := Uses.io ⟨trivial, trivial⟩
  have hnotice := TripleE.uses hforeground hresting
    fun op hop service answer service' => @Restful.resting op service service' answer hop
  rw [onStartCommand_connects haction]
  apply TripleE.bind (hnotice.failure fun _ _ _ => trivial)
  intro _
  apply TripleE.bind (orderly_of_background isUp_resting).nothrow
  intro up
  split
  next hup => exact fun service h => absurd (hup.symm.trans h.1) nofun
  next =>
    have hstarting :=
      orderly_of_background (update_starting hsem stable_resting fun _ h => h.threaded)
    apply TripleE.bind (hstarting.conseq (fun _ h => h.2) (fun _ _ h => h) fun _ _ h => h.elim)
    intro _
    have hbringUp := bringUp_ends hsem (fun _ _ hstep => Orderly.background hstep)
      fun selector relay established => (startEngine_shown selector relay established).conseq
        (fun _ h => h.1.threaded) (fun _ _ h => h) fun _ _ h => h
    apply TripleE.tryCatch (hbringUp.post fun _ _ h => Or.inl h)
    intro error
    exact ((startFailed_failed error).post fun _ _ h => Or.inr h).nothrow

/-- The call neither touches the engine nor publishes anything. -/
def Silent (op : ServiceOp) : Prop := KeepsEngine op ∧ KeepsPublished op

/-- Calls that publish nothing leave the app on. -/
theorem Silent.shown {op : ServiceOp} {service service' : Service} {answer : op.Answer}
    (hop : Silent op) (hshown : Shown service)
    (hstep : serviceStep op service answer service') : Shown service' := by
  apply hshown.kept hop.1 _ hstep
  rintro value rfl
  exact hop.2.elim

/-- With an interface and a running engine the app stays on. -/
theorem connect_shown {action : Option String} (haction : action ≠ some ACTION_DISCONNECT) :
    TripleE serviceStep Orderly (fun service => Working service ∧ Shown service)
      (onStartCommand action) (fun _ => Shown) fun _ _ => True := by
  have hsilent : ∀ {α : Type} {code : ServiceM α}, code.run.Uses Silent → TripleE serviceStep
      Orderly Shown code (fun _ => Shown) fun _ => Shown := fun huses =>
    TripleE.uses huses stable_shown fun op hop service answer service' =>
      @Silent.shown op service service' answer hop
  have hplain : (serviceCall .startForeground).run.Uses Plain := Uses.io trivial
  have hworking :=
    orderly_of_background (plain_uses restricts_serviceStep framed_working hplain)
  have hforeground := hworking.both (hsilent (Uses.io ⟨trivial, trivial⟩))
  have hup := (orderly_of_background isUp_working).both
    (hsilent (isUp_uses ⟨trivial, trivial⟩ ⟨trivial, trivial⟩))
  rw [onStartCommand_connects haction]
  apply TripleE.bind (hforeground.failure fun _ _ _ => trivial)
  intro _
  apply TripleE.bind (hup.failure fun _ _ _ => trivial)
  intro up
  split
  next => exact TripleE.pure stable_shown fun _ h => h.2
  next hdown => exact fun service h => absurd h.1.1 hdown

/-- The command finds an interface and returns. -/
theorem connect_returns {action : Option String} {service : Service}
    (haction : action ≠ some ACTION_DISCONNECT) (htun : service.tunInterface ≠ none) :
    Reaches serviceStep Orderly ((onStartCommand action).run, service)
      (.ret (.ok ()), { service with foreground := true }) := by
  obtain ⟨tun, htun⟩ := Option.ne_none_iff_exists'.mp htun
  rw [onStartCommand_connects haction]
  have hread : serviceStep .getTunInterface { service with foreground := true } (.ok (some tun))
      { service with foreground := true } := ⟨congrArg Except.ok htun.symm, rfl⟩
  have hforeground : serviceStep .startForeground service (.ok ())
      { service with foreground := true } := rfl
  exact Reaches.of_outcome (.call hforeground (.call hread .ret))

/-- In every process, a start command that finds the main thread idle resolves the
published state if and only if there is no interface, or the app is on already and the
engine runs. -/
theorem connect_resolves_iff {service : Service} {action : Option String}
    (hidle : Idle serviceStep service) (haction : action ≠ some ACTION_DISCONNECT) :
    Resolves service action ↔
      service.tunInterface = none ∨ service.published.IsOn ∧ service.engine = true := by
  constructor
  · intro hresolves
    rcases hidle.consistent with hworking | hresting
    · have hreturns := connect_returns haction hworking.1.tunInterface
      rcases hresolves _ hreturns with hon | ⟨message, herror⟩
      · exact Or.inr hon
      · exact absurd herror (hworking.2.2 message)
    · exact Or.inl hresting.tunInterface
  · intro hready later hruns
    rcases hidle.consistent with hworking | hresting
    · rcases hready with hnone | ⟨hon, hengine⟩
      · exact absurd hnone hworking.1.tunInterface
      · have hshown : Shown service := ⟨⟨hworking.1.threaded, hengine⟩, hon⟩
        have hends : Shown later :=
          Triple.reaches (connect_shown haction) ⟨hworking, hshown⟩ hruns
        exact Or.inl ⟨hends.published, hends.engine⟩
    · have hends : Shown later ∨ Failed later :=
        Triple.reaches (connect_resting haction) hresting hruns
      rcases hends with hshown | hfailed
      · exact Or.inl ⟨hshown.published, hshown.engine⟩
      · exact Or.inr hfailed.published

/-- The tunnel is up, the permission is revoked, and the activity asks for another one. -/
def stoppedAsked : Option Service :=
  (runCallback (onStartCommand none) {}).bind fun up =>
    (runCallback onRevoke up).bind (runCallback startVpnService)

/-- The activity asks for the tunnel while its first refresh runs, and the refresh
publishes what it selected. -/
def refreshedAsked : Option Service :=
  refreshing.bind fun begun => (runCallback startVpnService begun).bind (runThread allSucceed 0 22)

/-- The command brings the stopped service up again, and finds the refreshed one on. -/
theorem connect_resolves_iff_asked :
    (∃ asked, stoppedAsked = some asked ∧ Idle serviceStep asked ∧
      asked.published = .starting ∧ asked.tunInterface = none ∧
      Resolves asked (some ACTION_CONNECT)) ∧
    ∃ on, refreshedAsked = some on ∧ Idle serviceStep on ∧ on.tunInterface ≠ none ∧
      Resolves on (some ACTION_CONNECT) := by
  constructor
  · have hshows : stoppedAsked.map (fun service =>
        (service.published, service.tunInterface)) = some (.starting, none) := by
      decide
    obtain ⟨asked, hasked, hshows⟩ := Option.map_eq_some_iff.mp hshows
    obtain ⟨up, hup, hrest⟩ := Option.bind_eq_some_iff.mp hasked
    obtain ⟨stopped, hstopped, hpublished⟩ := Option.bind_eq_some_iff.mp hrest
    have hidle : Idle serviceStep asked :=
      ((ReflTransGen.single (runCallback_turn (.onStartCommand none) hup)).tail
        (runCallback_turn .onRevoke hstopped)).tail (runCallback_turn .startVpnService hpublished)
    rw [Prod.mk.injEq] at hshows
    exact ⟨asked, hasked, hidle, hshows.1, hshows.2,
      (connect_resolves_iff hidle (by decide)).mpr (Or.inl hshows.2)⟩
  · have hshows : refreshedAsked.map (fun service =>
        (service.tunInterface.isSome, service.published, service.engine)) =
        some (true, .on
          "Gemini/NotebookLM · 62.133.62.97\nChatGPT/Claude · 87.228.47.204\nGeoHide · 45.155.204.190",
          true) := by
      decide
    obtain ⟨on, hon, hshows⟩ := Option.map_eq_some_iff.mp hshows
    obtain ⟨begun, hbegun, hrest⟩ := Option.bind_eq_some_iff.mp hon
    obtain ⟨asked, hasked, hrefreshed⟩ := Option.bind_eq_some_iff.mp hrest
    have hbegins : Idle serviceStep begun :=
      (refreshing_reached hbegun).1.mono fun _ _ _ _ hstep => restricts_calmStep hstep
    have hasks : Idle serviceStep asked :=
      hbegins.tail (runCallback_turn .startVpnService hasked)
    have hidle : Idle serviceStep on :=
      hasks.background
        (runThread_reaches (fun _ _ _ _ hanswer => allSucceed_step hanswer) hrefreshed)
    simp only [Prod.mk.injEq] at hshows
    have hison : on.published.IsOn := hshows.2.1 ▸ trivial
    exact ⟨on, hon, hidle, Option.isSome_iff_ne_none.mp hshows.1,
      (connect_resolves_iff hidle (by decide)).mpr (Or.inr ⟨hison, hshows.2.2⟩)⟩

/-! ## A command to a tunnel that is up -/

/-- The system has started the service when the app asks to connect. The command
leaves the app starting. -/
theorem connect_leaves_starting :
    ∃ up asked later, Idle serviceStep up ∧
      Reaches serviceStep Orderly (startVpnService.run, up) (.ret (.ok ()), asked) ∧
      Reaches serviceStep Orderly ((onStartCommand (some ACTION_CONNECT)).run, asked)
        (.ret (.ok ()), later) ∧
      later.published = .starting ∧ ¬ Resolved later := by
  have hstarts : (runCallback (onStartCommand none) {}).map
      (fun service => service.tunInterface.isSome) = some true := by decide
  obtain ⟨up, hup, hsome⟩ := Option.map_eq_some_iff.mp hstarts
  have htun : up.tunInterface ≠ none := Option.isSome_iff_ne_none.mp hsome
  refine ⟨up, { up with published := .starting }, _, ?_, ?_,
    connect_returns (by decide) htun, rfl, ?_⟩
  · exact .single (runCallback_turn (.onStartCommand none) hup)
  · exact Reaches.of_outcome (.call ⟨rfl, rfl⟩ .ret)
  · rintro (⟨hon, _⟩ | ⟨message, herror⟩)
    · exact hon
    · cases herror

end AIUnblock.AiUnblockVpnService
