import AIUnblock.Foundation.Sequential
import AIUnblock.Gateway.Closing
import AIUnblock.Service.Holdings
import AIUnblock.Service.StaleSelection

/-! # All or nothing

A cleanup closes what the fields refer to. So a start may fail wherever each thing
that is open is in its field, which is everywhere but between the creation of the
relay and its entry.
-/

namespace AIUnblock.AiUnblockVpnService

open Prog GatewaySelector Relation

/-- Everything that is open is in its field. -/
structure Covered (held : Holdings) : Prop where
  tunInterface : ∀ tun ∈ held.openTuns, held.tunInterface = some tun
  socksRelay : ∀ relay ∈ held.openRelays, held.socksRelay = some relay
  gatewaySelector : ∀ selector ∈ held.openSelectors, held.gatewaySelector = some selector
  engine : held.engine = false → held.engineStarts = 0

/-- An interface, a started relay, a selector and the engine, and nothing else. -/
structure AllHeld (held : Holdings) : Prop where
  tunInterface : ∃ tun, held.tunInterface = some tun ∧ held.openTuns = [tun]
  socksRelay : ∃ relay ∈ held.startedRelays, held.socksRelay = some relay ∧
    held.openRelays = [relay]
  gatewaySelector : ∃ selector, held.gatewaySelector = some selector ∧
    held.openSelectors = [selector]
  engine : held.engine = true ∧ held.engineStarts = 1

/-- Nothing is open or running, and the fields are null. -/
structure AllReleased (held : Holdings) : Prop where
  tunInterface : held.tunInterface = none ∧ held.openTuns = []
  socksRelay : held.socksRelay = none ∧ held.openRelays = []
  gatewaySelector : held.gatewaySelector = none ∧ held.openSelectors = []
  engine : held.engine = false ∧ held.engineStarts = 0

/-- Nothing is open that is not in a field. -/
def Holdings.ofFields (tunInterface : Option TunId) (socksRelay : Option RelayId)
    (gatewaySelector : Option SelectorId) (engine : Bool) (startedRelays : List RelayId) :
    Holdings where
  tunInterface
  socksRelay
  gatewaySelector
  engine
  engineStarts := engine.toNat
  openTuns := tunInterface.toList
  openRelays := socksRelay.toList
  startedRelays
  openSelectors := gatewaySelector.toList

/-- The holdings after a cleanup. -/
abbrev Holdings.released (startedRelays : List RelayId) : Holdings :=
  .ofFields none none none false startedRelays

/-- What the fields name is all that is held. -/
theorem covered_ofFields (tunInterface : Option TunId) (socksRelay : Option RelayId)
    (gatewaySelector : Option SelectorId) (engine : Bool) (startedRelays : List RelayId) :
    Covered (.ofFields tunInterface socksRelay gatewaySelector engine startedRelays) where
  tunInterface _ hmem := Option.mem_toList.mp hmem
  socksRelay _ hmem := Option.mem_toList.mp hmem
  gatewaySelector _ hmem := Option.mem_toList.mp hmem
  engine hengine := congrArg Bool.toNat hengine

theorem allHeld_ofFields (tun : TunId) {relay : RelayId} (selector : SelectorId)
    {startedRelays : List RelayId} (hstarted : relay ∈ startedRelays) :
    AllHeld (.ofFields (some tun) (some relay) (some selector) true startedRelays) :=
  ⟨⟨tun, rfl, rfl⟩, ⟨relay, hstarted, rfl, rfl⟩, ⟨selector, rfl, rfl⟩, rfl, rfl⟩

theorem allReleased_released (startedRelays : List RelayId) :
    AllReleased (.released startedRelays) :=
  ⟨⟨rfl, rfl⟩, ⟨rfl, rfl⟩, ⟨rfl, rfl⟩, rfl, rfl⟩

/-- There is one way to hold nothing, apart from the relays that were started before. -/
theorem AllReleased.eq_released {held : Holdings} (hreleased : AllReleased held) :
    held = .released held.startedRelays := by
  obtain ⟨⟨htun, htuns⟩, ⟨hrelay, hrelays⟩, ⟨hselector, hselectors⟩, hengine, hstarts⟩ := hreleased
  obtain ⟨tun, relay, selector, engine, starts, tuns, relays, started, selectors⟩ := held
  dsimp only at *
  subst htun htuns hrelay hrelays hselector hselectors hengine hstarts
  rfl

theorem AllHeld.covered {held : Holdings} (hheld : AllHeld held) : Covered held := by
  obtain ⟨tun, htun, htuns⟩ := hheld.tunInterface
  obtain ⟨relay, -, hrelay, hrelays⟩ := hheld.socksRelay
  obtain ⟨selector, hselector, hselectors⟩ := hheld.gatewaySelector
  refine ⟨?_, ?_, ?_, fun hengine => ?_⟩
  · simp [htun, htuns]
  · simp [hrelay, hrelays]
  · simp [hselector, hselectors]
  · rw [hheld.engine.1] at hengine
    cases hengine

/-! ## Steady runs -/

/-- The relay starts. -/
def Steady : (op : ServiceOp) → op.Answer → Prop
  | .startRelay _, answer => answer = .ok ()
  | _, _ => True

/-- What each call does in runs whose relays start. -/
def steadyStep : Semantics ServiceOp ServiceOp.Answer Service :=
  fun op service answer service' => serviceStep op service answer service' ∧ Steady op answer

def steadyHoldingsStep : Semantics ServiceOp ServiceOp.Answer Holdings :=
  fun op held answer held' => holdingsStep op held answer held' ∧ Steady op answer

/-- The holdings change by what each call does to them alone. -/
theorem steadyStep_holdings {op : ServiceOp} {service service' : Service} {answer : op.Answer}
    (hstep : steadyStep op service answer service') :
    steadyHoldingsStep op service.holdings answer service'.holdings :=
  ⟨⟨serviceStep_answers hstep.1, serviceStep_holdings hstep.1⟩, hstep.2⟩

/-! ## Code on the holdings -/

section Exact

variable {α β : Type} {op : ServiceOp} {held : Holdings}

/-- What a program does to holdings that are known. -/
abbrev Exact (held : Holdings) (code : ServiceM α) (Q : α → Holdings → Prop)
    (E : Exception → Holdings → Prop) : Prop :=
  TripleE steadyHoldingsStep (fun _ _ => False) (· = held) code Q E

theorem exact_pure {value : α} {Q : α → Holdings → Prop} {E : Exception → Holdings → Prop}
    (hQ : Q value held) : Exact held (pure value) Q E := by
  apply Alone.pure
  rintro _ rfl
  exact hQ

theorem exact_throw {error : Exception} {Q : α → Holdings → Prop}
    {E : Exception → Holdings → Prop} (hE : E error held) : Exact held (throw error) Q E := by
  apply Alone.throw
  rintro _ rfl
  exact hE

/-- A call either returns and is done, or throws and has done nothing more. -/
theorem exact_call {Q : op.Value → Holdings → Prop} {E : Exception → Holdings → Prop}
    (hok : ∀ value, held.answers op (.ok value) → Q value (held.step op (.ok value)))
    (herror : ∀ error, held.answers op (.error error) → Steady op (.error error) →
      E error (held.step op (.error error))) :
    Exact held (serviceCall op) Q E := by
  apply Alone.io
  · rintro _ value _ rfl ⟨⟨hanswer, rfl⟩, _⟩
    exact hok value hanswer
  · rintro _ error _ rfl ⟨⟨hanswer, rfl⟩, hsteady⟩
    exact herror error hanswer hsteady

/-- The first part ends in one known state. -/
theorem exact_seq {code : ServiceM α} {rest : α → ServiceM β} {middle : Holdings}
    {Q : β → Holdings → Prop} {E : Exception → Holdings → Prop}
    (hfirst : Exact held code (fun _ after => after = middle) E)
    (hrest : ∀ value, Exact middle (rest value) Q E) : Exact held (code >>= rest) Q E :=
  TripleE.bind hfirst hrest

/-- One call, and then the rest from the holdings that it leaves. -/
theorem exact_bind {rest : op.Value → ServiceM α} {Q : α → Holdings → Prop}
    {E : Exception → Holdings → Prop}
    (hrest : ∀ value, held.answers op (.ok value) →
      Exact (held.step op (.ok value)) (rest value) Q E)
    (herror : ∀ error, held.answers op (.error error) → Steady op (.error error) →
      E error (held.step op (.error error))) :
    Exact held (serviceCall op >>= rest) Q E := by
  have hcall : Exact held (serviceCall op)
      (fun value after => held.answers op (.ok value) ∧ after = held.step op (.ok value)) E :=
    exact_call (fun value hanswer => ⟨hanswer, rfl⟩) herror
  apply TripleE.bind hcall
  rintro value _ ⟨hanswer, rfl⟩
  exact hrest value hanswer _ rfl

/-- Code of neutral calls leaves the holdings as they are. -/
theorem exact_neutral {code : ServiceM α} (huses : code.run.Uses Neutral) :
    Exact held code (fun _ after => after = held) fun _ after => after = held := by
  apply Alone.uses huses
  rintro op hop _ answer _ rfl ⟨⟨_, rfl⟩, _⟩
  exact hop.step _ answer

/-- The calls on fields and the like do not throw. -/
theorem Sure.not_error (hsure : Sure op) (error : Exception) :
    ¬ held.answers op (.error error) := by
  intro hanswer
  cases op with
  | getTunInterface | getSocksRelay | getGatewaySelector | tProxyIsRunning => cases hanswer
  | closeTun => exact hsure.elim
  | _ =>
      obtain ⟨value, hvalue⟩ := hanswer hsure
      cases hvalue

/-- So what follows them is reached. -/
theorem exact_sure_bind {rest : op.Value → ServiceM α} {Q : α → Holdings → Prop}
    {E : Exception → Holdings → Prop} (hsure : Sure op)
    (hrest : ∀ value, held.answers op (.ok value) →
      Exact (held.step op (.ok value)) (rest value) Q E) :
    Exact held (serviceCall op >>= rest) Q E :=
  exact_bind hrest fun error hanswer _ => (hsure.not_error error hanswer).elim

theorem exact_sure {Q : op.Value → Holdings → Prop} {E : Exception → Holdings → Prop}
    (hsure : Sure op)
    (hok : ∀ value, held.answers op (.ok value) → Q value (held.step op (.ok value))) :
    Exact held (serviceCall op) Q E :=
  exact_call hok fun error hanswer _ => (hsure.not_error error hanswer).elim

end Exact

/-! ## Cleaning up -/

section Cleanup

variable {held : Holdings}

/-- A field that is `null` covers nothing. -/
theorem eq_nil_of_covered {opened : List Nat} (hcovered : ∀ id ∈ opened, none = some id) :
    opened = [] :=
  List.eq_nil_iff_forall_not_mem.mpr fun id hmem => nomatch hcovered id hmem

/-- Closing what the field names closes all. -/
theorem filter_of_covered {opened : List Nat} {id : Nat}
    (hcovered : ∀ other ∈ opened, some id = some other) : opened.filter (· ≠ id) = [] := by
  rw [List.filter_eq_nil_iff]
  intro other hmem
  simpa using (Option.some.inj (hcovered other hmem)).symm

/-- After `closeSelector` no selector is open. -/
theorem closeSelector_exact
    (hcovered : ∀ selector ∈ held.openSelectors, held.gatewaySelector = some selector) :
    Exact held closeSelector (fun _ after => after = { held with openSelectors := [] })
      fun _ _ => False := by
  apply exact_sure_bind (by trivial)
  intro selector hselector
  obtain rfl := Except.ok.inj hselector
  change Exact held _ _ _
  split
  next id hid =>
    rw [hid] at hcovered
    rw [close, ofSelector_bind]
    apply @exact_sure_bind _ (.selector id .compareAndSetClosed) held _ _ _ trivial
    intro changed _
    change Exact { held with openSelectors := held.openSelectors.filter (· ≠ id) } _ _ _
    rw [filter_of_covered hcovered]
    cases changed with
    | false => exact exact_pure rfl
    | true =>
        rw [if_pos rfl, ofSelector_bind]
        apply @exact_sure_bind _ (.selector id .cancelPeriodicTask) _ _ _ _ trivial
        intro _ _
        rw [ofSelector_bind]
        apply @exact_sure_bind _ (.selector id .clearPeriodicTask) _ _ _ _ trivial
        intro _ _
        exact @exact_sure (.selector id .shutdownScheduler) _ _ _ trivial fun _ _ => rfl
  next hnone =>
    rw [hnone] at hcovered
    rw [← eq_nil_of_covered hcovered]
    exact exact_pure rfl

/-- After `stopEngine` no engine runs. -/
theorem stopEngine_exact (hengine : held.engine = false → held.engineStarts = 0) :
    Exact held stopEngine (fun _ after => after = { held with engine := false, engineStarts := 0 })
      fun _ _ => False := by
  apply exact_sure_bind (by trivial)
  intro running hrunning
  obtain rfl := Except.ok.inj hrunning
  change Exact held _ _ _
  split
  next => exact exact_sure_bind (by trivial) fun _ _ => exact_pure rfl
  next hstopped =>
    have hoff : held.engine = false := by simpa using hstopped
    apply exact_pure
    rw [← hengine hoff, ← hoff]

/-- After the interface is closed none is open. -/
theorem closeTunInterface_exact
    (hcovered : ∀ tun ∈ held.openTuns, held.tunInterface = some tun) :
    Exact held closeTunInterface (fun _ after => after = { held with openTuns := [] })
      fun _ _ => False := by
  apply exact_sure_bind (by trivial)
  intro tun htun
  obtain rfl := Except.ok.inj htun
  change Exact held _ _ _
  split
  next tun htun =>
    rw [htun] at hcovered
    have hclose : Exact held (serviceCall (.closeTun tun))
        (fun _ after => after = { held with openTuns := [] })
        fun error after => error.kind = .io ∧ after = { held with openTuns := [] } := by
      rw [← filter_of_covered hcovered]
      exact exact_call (fun _ _ => rfl) fun error hanswer _ => ⟨hanswer error rfl, rfl⟩
    apply TripleE.tryCatch hclose
    intro error
    split
    next => exact Alone.pure fun _ h => h.2
    next hkind => exact fun _ h => absurd h.1 hkind
  next hnone =>
    rw [hnone] at hcovered
    rw [← eq_nil_of_covered hcovered]
    exact exact_pure rfl

/-- After the relay is closed none is open. -/
theorem closeSocksRelay_exact
    (hcovered : ∀ relay ∈ held.openRelays, held.socksRelay = some relay) :
    Exact held closeSocksRelay (fun _ after => after = { held with openRelays := [] })
      fun _ _ => False := by
  apply exact_sure_bind (by trivial)
  intro relay hrelay
  obtain rfl := Except.ok.inj hrelay
  change Exact held _ _ _
  split
  next relay hrelay =>
    rw [hrelay] at hcovered
    rw [← filter_of_covered hcovered]
    exact exact_sure (by trivial) fun _ _ => rfl
  next hnone =>
    rw [hnone] at hcovered
    rw [← eq_nil_of_covered hcovered]
    exact exact_pure rfl

/-- A cleanup releases everything if it finds everything. -/
theorem cleanupTunnel_exact (hcovered : Covered held) :
    Exact held cleanupTunnel (fun _ after => after = .released held.startedRelays)
      fun _ _ => False := by
  refine exact_seq (closeSelector_exact hcovered.gatewaySelector) fun _ => ?_
  refine exact_sure_bind (by trivial) fun _ _ => ?_
  refine exact_seq (stopEngine_exact hcovered.engine) fun _ => ?_
  refine exact_seq (closeTunInterface_exact hcovered.tunInterface) fun _ => ?_
  refine exact_sure_bind (by trivial) fun _ _ => ?_
  refine exact_seq (closeSocksRelay_exact hcovered.socksRelay) fun _ => ?_
  exact exact_sure (by trivial) fun _ _ => rfl

end Cleanup

/-! ## Starting -/

theorem selectorBody_neutral (id : SelectorId) {op : SelectorOp} (hop : op ≠ .compareAndSetClosed) :
    (selectorBody id op).Uses Neutral := by
  cases op with
  | onSelectionUpdated summary =>
      apply Uses.bindE (Uses.io trivial)
      intro tun
      cases tun with
      | none => trivial
      | some tun => exact Uses.io trivial
  | _ => exact ⟨hop, fun _ => trivial⟩

/-- What a selector's thread does holds and releases nothing, apart from `close`. -/
theorem ofSelector_neutral {α : Type} (id : SelectorId) {code : SelectorM α}
    (huses : code.run.Uses (· ≠ .compareAndSetClosed)) : (ofSelector id code).run.Uses Neutral :=
  Uses.interpret_of huses fun _ hop => selectorBody_neutral id hop

theorem currentSummary_uses : currentSummary.run.Uses (· ≠ .compareAndSetClosed) :=
  Uses.bindE (Uses.io nofun) fun _ => Uses.lift _

theorem start_uses : start.run.Uses (· ≠ .compareAndSetClosed) := by
  apply Uses.bindE (Uses.io nofun)
  intro closed
  split
  next => trivial
  next =>
    apply Uses.bindE (Uses.io nofun)
    intro scheduled
    split
    next => trivial
    next => exact Uses.io nofun

section Start

variable {α : Type} {held : Holdings}

/-- Neutral code may throw wherever a cleanup finds everything. -/
theorem covered_neutral {code : ServiceM α} (hcovered : Covered held)
    (huses : code.run.Uses Neutral) :
    Exact held code (fun _ after => after = held) fun _ => Covered := by
  apply (exact_neutral huses).failure
  rintro _ _ rfl
  exact hcovered

/-- The last part of a start ends with everything, or the fields still name what there is.
-/
theorem startEngine_exact (tun : TunId) {relay : RelayId} (selector : SelectorId)
    {startedRelays : List RelayId} (hstarted : relay ∈ startedRelays) :
    Exact (.ofFields (some tun) (some relay) (some selector) false startedRelays)
      (startEngine selector relay tun) (fun _ => AllHeld) fun _ => Covered := by
  have hcovered := covered_ofFields (some tun) (some relay) (some selector) false startedRelays
  have hup := covered_ofFields (some tun) (some relay) (some selector) true startedRelays
  refine exact_seq (covered_neutral hcovered (Uses.io trivial)) fun port => ?_
  refine exact_seq (covered_neutral hcovered (Uses.io trivial)) fun password => ?_
  refine exact_seq (covered_neutral hcovered (Uses.io trivial)) fun configFile => ?_
  refine exact_bind (fun running _ => ?_) fun _ _ _ => hcovered
  cases running with
  | false => exact exact_throw hcovered
  | true =>
      change Exact (.ofFields (some tun) (some relay) (some selector) true startedRelays) _ _ _
      refine exact_seq (covered_neutral hup (Uses.io trivial)) fun _ => ?_
      refine exact_seq (covered_neutral hup (ofSelector_neutral _ currentSummary_uses)) fun _ => ?_
      refine exact_seq (covered_neutral hup (Uses.io trivial)) fun _ => ?_
      apply (covered_neutral hup (ofSelector_neutral selector start_uses)).post
      rintro _ _ rfl
      exact allHeld_ofFields tun selector hstarted

/-- From nothing a start comes to everything, or to something that the fields name. -/
theorem bringUp_exact (startedRelays : List RelayId) :
    Exact (.released startedRelays) bringUp (fun _ => AllHeld) fun _ => Covered := by
  have hdown := covered_ofFields none none none false startedRelays
  have hpackages : installedPackages.run.Uses Neutral :=
    installedPackages_uses trivial fun _ => trivial
  refine exact_seq (covered_neutral hdown hpackages) fun installed => ?_
  refine exact_bind (fun selector _ => ?_) fun _ _ _ => hdown
  refine exact_sure_bind (by trivial) fun _ _ => ?_
  have hselector := covered_ofFields none none (some selector) false startedRelays
  refine exact_seq (covered_neutral hselector (Uses.io trivial)) fun _ => ?_
  refine exact_bind (fun relay _ => ?_) fun _ _ _ => hselector
  -- here alone something is open that no cleanup would find
  refine exact_bind (fun _ _ => ?_) fun _ _ hsteady => nomatch hsteady
  refine exact_sure_bind (by trivial) fun _ _ => ?_
  have hrelay := covered_ofFields none (some relay) (some selector) false (relay :: startedRelays)
  refine exact_seq (covered_neutral hrelay (Uses.io trivial)) fun _ => ?_
  refine exact_bind (fun established _ => ?_) fun _ _ _ => hrelay
  cases established with
  | none => exact exact_throw hrelay
  | some tun =>
      refine exact_sure_bind (by trivial) fun _ _ => ?_
      exact startEngine_exact tun selector List.mem_cons_self

end Start

/-! ## Callbacks -/

/-- What holds while the main thread is idle. -/
def Whole (held : Holdings) : Prop := AllHeld held ∨ AllReleased held

section Callbacks

variable {held : Holdings}

theorem Whole.covered (hwhole : Whole held) : Covered held := by
  rcases hwhole with hheld | hreleased
  · exact hheld.covered
  · rw [hreleased.eq_released]
    exact covered_ofFields ..

/-- A stop releases whatever the fields name. -/
theorem stopTunnel_exact (hcovered : Covered held) :
    Exact held stopTunnel (fun _ => AllReleased) fun _ _ => False := by
  refine exact_seq (cleanupTunnel_exact hcovered) fun _ => ?_
  refine exact_sure_bind (by trivial) fun _ _ => ?_
  refine exact_sure_bind (by trivial) fun _ _ => ?_
  refine exact_sure_bind (by trivial) fun _ _ => ?_
  exact exact_sure (by trivial) fun _ _ => allReleased_released held.startedRelays

/-- So the handling of a failed start releases all of it. -/
theorem startFailed_exact (error : Exception) (hcovered : Covered held) :
    Exact held (startFailed error) (fun _ => AllReleased) fun _ _ => False := by
  refine exact_seq (cleanupTunnel_exact hcovered) fun _ => ?_
  refine exact_sure_bind (by trivial) fun _ _ => ?_
  refine exact_sure_bind (by trivial) fun _ _ => ?_
  exact exact_sure (by trivial) fun _ _ => allReleased_released held.startedRelays

/-- A start that finds the tunnel up leaves it alone. -/
theorem startTunnel_held (hheld : AllHeld held) :
    Exact held startTunnel (fun _ => AllHeld) fun _ _ => False := by
  obtain ⟨tun, htun, -⟩ := hheld.tunInterface
  have hup : Exact held isUp (fun up after => up = true ∧ after = held) fun _ _ => False := by
    apply exact_sure_bind (by trivial)
    intro answer hanswer
    obtain rfl := Except.ok.inj hanswer
    rw [htun]
    exact exact_pure ⟨rfl, rfl⟩
  apply TripleE.bind hup
  rintro up _ ⟨rfl, rfl⟩
  exact exact_pure hheld _ rfl

/-- A start from nothing ends with everything or with nothing. -/
theorem startTunnel_released (startedRelays : List RelayId) :
    Exact (.released startedRelays) startTunnel (fun _ => Whole) fun _ _ => False := by
  have hdown : Exact (.released startedRelays) isUp
      (fun up after => up = false ∧ after = .released startedRelays) fun _ _ => False := by
    apply exact_sure_bind (by trivial)
    rintro _ ⟨⟩
    exact exact_sure (by trivial) fun _ hrunning => ⟨Except.ok.inj hrunning, rfl⟩
  apply TripleE.bind hdown
  rintro up _ ⟨rfl, rfl⟩
  refine exact_sure_bind (by trivial) (fun _ _ => ?_) _ rfl
  apply TripleE.tryCatch ((bringUp_exact startedRelays).post fun _ _ h => Or.inl h)
  intro error held hcovered
  exact (startFailed_exact error hcovered).post (fun _ _ h => Or.inr h) held rfl

/-- Every callback keeps all or nothing. -/
theorem callback_whole {code : ServiceM Unit} (hcallback : Callback code) :
    Alone steadyHoldingsStep Whole code (fun _ => Whole) fun _ => Whole := by
  have hstop : Alone steadyHoldingsStep Whole stopTunnel (fun _ => Whole) fun _ => Whole :=
    fun held hwhole =>
      ((stopTunnel_exact hwhole.covered).post fun _ _ h => Or.inr h).nothrow held rfl
  have hneutral : ∀ op : ServiceOp, Neutral op →
      Alone steadyHoldingsStep Whole (serviceCall op) (fun _ => Whole) fun _ => Whole := by
    intro op hop held hwhole
    apply (exact_neutral (Uses.io hop)).conseq (fun _ h => h) _ _ held rfl
    · rintro _ _ rfl
      exact hwhole
    · rintro _ _ rfl
      exact hwhole
  have hstart : Alone steadyHoldingsStep Whole startTunnel (fun _ => Whole) fun _ => Whole := by
    rintro held (hheld | hreleased)
    · exact ((startTunnel_held hheld).post fun _ _ h => Or.inl h).nothrow held rfl
    · exact (startTunnel_released held.startedRelays).nothrow held hreleased.eq_released
  cases hcallback with
  | onStartCommand action =>
      unfold onStartCommand
      split
      next => exact hstop
      next => exact TripleE.bind (hneutral .startForeground trivial) fun _ => hstart
  | onRevoke | onDestroy => exact hstop
  | startVpnService => exact hneutral (.update .starting) trivial

end Callbacks

/-! ## Processes -/

/-- An event on the main thread or a step of a scheduler's thread, while the engine
runs until it is stopped. -/
inductive Event (sem : Semantics ServiceOp ServiceOp.Answer Service) : Service → Service → Prop
  | scheduler {service service'} (hstep : SchedulerStep service service') :
      Event sem service service'
  | callback {service code result service'} (hcallback : Callback code)
      (hrun : Reaches sem SchedulerStep (code.run, service) (.ret result, service')) :
      Event sem service service'

/-- The threads touch nothing that the service holds. -/
def NeutralThreads (service : Service) : Prop :=
  ∀ id task, service.thread id = some task → task.Uses Neutral

/-- The scheduler's threads stay threads of selectors. -/
theorem stable_neutralThreads : Stable SchedulerStep NeutralThreads := by
  intro service service' hneutral hstep
  apply Background.forall_threads (.scheduler hstep) _ _ hneutral
  · intro id
    refine Uses.interpret_of refreshSafely_uses fun op hop => selectorBody_neutral id ?_
    rintro rfl
    exact hop
  · exact fun op next answer after hcall _ => hcall.2 answer

/-- The main thread starts no other ones. -/
theorem steadyStep_neutralThreads {op : ServiceOp} {service service' : Service}
    {answer : op.Answer} (hneutral : NeutralThreads service)
    (hstep : steadyStep op service answer service') : NeutralThreads service' := by
  rw [NeutralThreads, (serviceStep_frame hstep.1).thread]
  exact hneutral

/-- The scheduler's threads do not change what is held. -/
theorem SchedulerStep.holdings {service service' : Service} (hneutral : NeutralThreads service)
    (hstep : SchedulerStep service service') : service'.holdings = service.holdings := by
  cases hstep with
  | begin | finish => rfl
  | @act op next answer after id hthread hcall =>
      have hheld : after.holdings = service.holdings.step op answer := serviceStep_holdings hcall
      exact hheld.trans ((hneutral id _ hthread).1.step _ answer)

/-- Whenever the main thread is idle in a process whose relays start, the interface, the
started relay, the selector and the engine are all held, or everything is released. -/
theorem all_or_nothing {service : Service} (hrun : ReflTransGen (Event steadyStep) {} service) :
    AllHeld service.holdings ∨ AllReleased service.holdings := by
  have hkept : NeutralThreads service ∧ Whole service.holdings := by
    induction hrun with
    | refl => exact ⟨nofun, Or.inr (allReleased_released [])⟩
    | tail _ hevent ih =>
        obtain ⟨hneutral, hwhole⟩ := ih
        cases hevent with
        | scheduler hstep =>
            refine ⟨stable_neutralThreads _ _ hneutral hstep, ?_⟩
            rw [hstep.holdings hneutral]
            exact hwhole
        | @callback code result after hcallback hreach =>
            have hkeep : ∀ op service answer service', NeutralThreads service →
                steadyStep op service answer service' → NeutralThreads service' :=
              fun _ _ _ _ => steadyStep_neutralThreads
            refine ⟨hreach.keeps stable_neutralThreads hkeep hneutral, ?_⟩
            have hview := hreach.view Service.holdings stable_neutralThreads hkeep
              (fun _ _ hservice hstep => hstep.holdings hservice)
              (fun _ _ _ _ hstep => steadyStep_holdings hstep) hneutral
            have hends := Triple.reaches (callback_whole hcallback) hwhole hview
            cases result with
            | ok => exact hends
            | error => exact hends
  exact hkept.2

/-- A start in which every call succeeds. -/
theorem all_or_nothing_started :
    ∃ service, runCallback (onStartCommand none) {} = some service ∧
      (AllHeld service.holdings ∨ AllReleased service.holdings) := by
  have hsem : ∀ op before (answer : ServiceOp.Answer op) after,
      allSucceed op before = some (answer, after) →
        steadyStep op (id before) answer (id after) := by
    intro op before answer after hanswer
    refine ⟨allSucceed_step hanswer, ?_⟩
    cases op with
    | startRelay =>
        cases hanswer
        rfl
    | _ => trivial
  have hstarts : (runCallback (onStartCommand none) {}).isSome = true := by decide
  obtain ⟨service, hservice⟩ := Option.isSome_iff_exists.mp hstarts
  obtain ⟨⟨result, after⟩, hends, rfl⟩ := Option.map_eq_some_iff.mp hservice
  have hrun : Reaches steadyStep SchedulerStep ((onStartCommand none).run, {})
      (.ret result, after) := Reaches.of_outcome (Outcome.of_run id hsem hends)
  exact ⟨after, hservice, all_or_nothing (.single (.callback (.onStartCommand none) hrun))⟩

/-! ## A relay that does not start -/

/-- The server socket cannot be bound; every other call succeeds. -/
def bindFails : (op : ServiceOp) → Service → Option (op.Answer × Service)
  | .startRelay _, service => some (.error { kind := .io }, service)
  | op, service => allSucceed op service

/-- A platform on which the relay cannot be bound is one. -/
theorem bindFails_step {op : ServiceOp} {service service' : Service} {answer : op.Answer}
    (hanswer : bindFails op service = some (answer, service')) :
    serviceStep op service answer service' := by
  cases op with
  | startRelay =>
      cases hanswer
      rfl
  | _ => exact allSucceed_step hanswer

/-- The relay of a failed start stays open, and no field refers to it. -/
theorem failed_start_leaks :
    ∃ service, ReflTransGen (Event serviceStep) {} service ∧ service.openRelays = [1] ∧
      service.socksRelay = none ∧ ¬ (AllHeld service.holdings ∨ AllReleased service.holdings) := by
  have hleaks : ((onStartCommand none).run.run bindFails {}).map
      (fun ended => (ended.2.openRelays, ended.2.socksRelay)) = some ([1], none) := by
    decide
  obtain ⟨⟨result, service⟩, hends, hshows⟩ := Option.map_eq_some_iff.mp hleaks
  obtain ⟨hopen, hfield⟩ := Prod.mk.inj hshows
  have hsem : ∀ op before (answer : ServiceOp.Answer op) after,
      bindFails op before = some (answer, after) →
        serviceStep op (id before) answer (id after) :=
    fun _ _ _ _ hanswer => bindFails_step hanswer
  have hrun : Reaches serviceStep SchedulerStep ((onStartCommand none).run, {})
      (.ret result, service) := Reaches.of_outcome (Outcome.of_run id hsem hends)
  refine ⟨service, .single (.callback (.onStartCommand none) hrun), hopen, hfield, ?_⟩
  rintro (hheld | hreleased)
  · obtain ⟨relay, -, hrelay, -⟩ := hheld.socksRelay
    exact absurd (hfield.symm.trans hrelay) nofun
  · exact absurd (hopen.symm.trans hreleased.socksRelay.2) nofun

end AIUnblock.AiUnblockVpnService
