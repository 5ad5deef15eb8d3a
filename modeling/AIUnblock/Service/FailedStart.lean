import AIUnblock.Service.Starting

/-! # A failed start

The `catch` block publishes the error and stops the service. The service is then
destroyed, which stops the tunnel once more and publishes that it is off.
-/

namespace AIUnblock.AiUnblockVpnService

open Prog Relation

/-- The scheduler threads make no other calls in any process. -/
theorem Idle.threaded {sem : Semantics ServiceOp ServiceOp.Answer Service} {service : Service}
    (hsem : Restricts sem) (hidle : Idle sem service) : Threaded service := by
  apply hidle.invariant _ stable_threaded
  · intro code _
    exact TripleE.keeps stable_threaded fun op service answer service' hthreaded hstep =>
      serviceStep_threaded hthreaded (hsem hstep)
  · exact fun id task hthread => nomatch hthread

/-- The service is to be destroyed. -/
def Stopping (service : Service) : Prop := Threaded service ∧ service.stopping = true

theorem framed_stopping : Framed Stopping where
  stable _ _ hstopping hstep :=
    ⟨stable_threaded _ _ hstopping.1 hstep, hstep.stopping hstopping.2⟩
  kept _ _ _ _ _ hstopping hstep :=
    ⟨serviceStep_threaded hstopping.1 hstep, (serviceStep_frame hstep).stopping hstopping.2⟩

theorem startFailed_stopping (error : Exception) :
    TripleE serviceStep Background Threaded (startFailed error) (fun _ => Stopping)
      fun _ _ => False := by
  have hsem := restricts_serviceStep
  have hcleanup := (cleanupTunnel_gone hsem).post fun _ _ h => h.threaded
  have hthreaded : ∀ op, Sure op → TripleE serviceStep Background Threaded (serviceCall op)
      (fun _ => Threaded) fun _ _ => False := fun op hsure =>
    sure_call hsem hsure stable_threaded stable_threaded fun _ _ _ => serviceStep_threaded
  apply TripleE.bind hcleanup
  intro _
  apply TripleE.bind (hthreaded (.update (.error (failureMessage error))) trivial)
  intro _
  apply TripleE.bind (hthreaded .stopForeground trivial)
  intro _
  apply sure_call hsem (by trivial) stable_threaded framed_stopping.stable
  intro service answer service' hservice hstep
  refine ⟨serviceStep_threaded hservice hstep, ?_⟩
  obtain ⟨_, rfl⟩ := hstep
  rfl

theorem stopTunnel_showsNoError :
    TripleE serviceStep Background Threaded stopTunnel (fun _ => ShowsNoError)
      fun _ _ => False := by
  have hsem := restricts_serviceStep
  have hcleanup := (cleanupTunnel_gone hsem).post fun _ _ h => h.threaded
  have hupdate : TripleE serviceStep Background Threaded (serviceCall (.update .off))
      (fun _ => ShowsNoError) fun _ _ => False := by
    apply sure_call hsem (by trivial) stable_threaded framed_showsNoError.stable
    intro service answer service' hservice hstep
    refine ⟨serviceStep_threaded hservice hstep, ?_⟩
    rw [serviceStep_update hstep]
    exact nofun
  apply TripleE.bind hcleanup
  intro _
  apply TripleE.bind (plain_call hsem framed_threaded (by trivial) (by trivial))
  intro _
  apply TripleE.bind hupdate
  intro _
  apply TripleE.bind (plain_call hsem framed_showsNoError (by trivial) (by trivial))
  exact fun _ => plain_call hsem framed_showsNoError (by trivial) (by trivial)

/-- A start that fails leads to the destruction of the service, and then its error
is not shown any more. -/
theorem failed_start_hidden {service middle stopped later : Service} {error : Exception}
    {result result' : Except Exception Unit} (hidle : Idle serviceStep service)
    (hfails : Reaches serviceStep Background (startTunnel.run, service)
      ((startFailed error).run, middle))
    (hcaught : Reaches serviceStep Background ((startFailed error).run, middle)
      (.ret result, stopped))
    (hdestroyed : Reaches serviceStep Background (onDestroy.run, stopped) (.ret result', later)) :
    stopped.stopping = true ∧ later.published ≠ .error (failureMessage error) := by
  have hthreaded : Threaded service := hidle.threaded restricts_serviceStep
  have hmiddle : Threaded middle := hfails.keeps stable_threaded
    (fun _ _ _ _ hthreaded hstep => serviceStep_threaded hthreaded hstep) hthreaded
  have hstopped := Triple.reaches (startFailed_stopping error) hmiddle hcaught
  cases result with
  | error => exact hstopped.elim
  | ok =>
      have hlater := Triple.reaches stopTunnel_showsNoError hstopped.1 hdestroyed
      cases result' with
      | error => exact hlater.elim
      | ok => exact ⟨hstopped.2, hlater.2 _⟩

/-! ## A start without applications -/

def noApplications : Exception where
  kind := .illegalState
  message := "Не найдено ни одного выбранного приложения"

def emptyStarting : Service := { published := .starting }

def emptyStopped : Service :=
  { published := .error "Не найдено ни одного выбранного приложения", stopping := true }

def emptyDestroyed : Service := { published := .off, stopping := true }

theorem emptyStart_fails :
    Reaches serviceStep Background (startTunnel.run, {})
      ((startFailed noApplications).run, emptyStarting) := by
  refine .head (.call ⟨rfl, rfl⟩) (.head (.call ⟨rfl, rfl⟩) (.head (.call ⟨rfl, rfl⟩) ?_))
  -- no package is selected
  have hpackages : ∀ next : ServiceOp.Answer .activePackages → ServiceTask,
      Step serviceStep Background (.call .activePackages next, emptyStarting)
        (next (.ok []), emptyStarting) := fun next => .call rfl
  exact .head (hpackages _) .refl

theorem emptyStart_caught :
    Reaches serviceStep Background ((startFailed noApplications).run, emptyStarting)
      (.ret (.ok ()), emptyStopped) := by
  apply Reaches.of_outcome
  exact .call ⟨rfl, rfl⟩ <| .call ⟨rfl, rfl⟩ <| .call ⟨rfl, rfl⟩ <| .call ⟨rfl, rfl⟩ <|
    .call ⟨rfl, rfl⟩ <| .call ⟨rfl, rfl⟩ <| .call ⟨rfl, rfl⟩ <| .call ⟨rfl, rfl⟩ <|
    .call ⟨rfl, rfl⟩ <| .call ⟨rfl, rfl⟩ .ret

theorem emptyStart_destroyed :
    Reaches serviceStep Background (onDestroy.run, emptyStopped)
      (.ret (.ok ()), emptyDestroyed) := by
  apply Reaches.of_outcome
  exact .call ⟨rfl, rfl⟩ <| .call ⟨rfl, rfl⟩ <| .call ⟨rfl, rfl⟩ <| .call ⟨rfl, rfl⟩ <|
    .call ⟨rfl, rfl⟩ <| .call ⟨rfl, rfl⟩ <| .call ⟨rfl, rfl⟩ <| .call ⟨rfl, rfl⟩ <|
    .call ⟨rfl, rfl⟩ <| .call ⟨rfl, rfl⟩ <| .call ⟨rfl, rfl⟩ .ret

theorem emptyStart_hidden :
    emptyStopped.stopping = true ∧
      emptyDestroyed.published ≠ .error (failureMessage noApplications) :=
  failed_start_hidden .refl emptyStart_fails emptyStart_caught emptyStart_destroyed

/-- The error is published, and replaced when the service is destroyed. -/
theorem emptyStart_ends_off :
    ∃ middle stopped later,
      Reaches serviceStep Background (startTunnel.run, {})
        ((startFailed noApplications).run, middle) ∧
      Reaches serviceStep Background ((startFailed noApplications).run, middle)
        (.ret (.ok ()), stopped) ∧
      Reaches serviceStep Background (onDestroy.run, stopped) (.ret (.ok ()), later) ∧
      stopped.published = .error (failureMessage noApplications) ∧ later.published = .off :=
  ⟨_, _, _, emptyStart_fails, emptyStart_caught, emptyStart_destroyed, rfl, rfl⟩

end AIUnblock.AiUnblockVpnService
