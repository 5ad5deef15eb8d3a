import AIUnblock.Service.Cleanup

/-! # On the way up

Until it has an interface a start publishes nothing but that it is starting, and
afterwards only selections. What the engine and the selector then do is left to
the proofs that need it.
-/

namespace AIUnblock.AiUnblockVpnService

open Prog GatewaySelector

structure Up (service : Service) : Prop where
  threaded : Threaded service
  tunInterface : service.tunInterface ≠ none

theorem framed_up : Framed Up where
  stable := by
    intro service service' hup hstep
    refine ⟨stable_threaded _ _ hup.threaded hstep, ?_⟩
    rw [hstep.tunInterface hup.threaded]
    exact hup.tunInterface
  kept op hplain service answer service' hup hstep := by
    refine ⟨serviceStep_threaded hup.threaded hstep, ?_⟩
    rw [(serviceStep_frame hstep).tunInterface hplain.keepsTun]
    exact hup.tunInterface

/-- No error is shown. -/
def ShowsNoError (service : Service) : Prop :=
  Threaded service ∧ ∀ message, service.published ≠ .error message

theorem framed_showsNoError : Framed ShowsNoError where
  stable := by
    intro service service' hshows hstep
    refine ⟨stable_threaded _ _ hshows.1 hstep, fun message herror => ?_⟩
    rcases hstep.published_or_on hshows.1 with hkept | hon
    · exact hshows.2 message (hkept.symm.trans herror)
    · rw [herror] at hon
      exact hon
  kept op hplain service answer service' hshows hstep := by
    refine ⟨serviceStep_threaded hshows.1 hstep, ?_⟩
    rw [(serviceStep_frame hstep).published hplain.keepsPublished]
    exact hshows.2

/-- There is an interface, and no error is shown. -/
def Working (service : Service) : Prop := Up service ∧ ShowsNoError service

theorem framed_working : Framed Working where
  stable service service' hworking hstep :=
    ⟨framed_up.stable service service' hworking.1 hstep,
      framed_showsNoError.stable service service' hworking.2 hstep⟩
  kept op hplain service answer service' hworking hstep :=
    ⟨framed_up.kept op hplain service answer service' hworking.1 hstep,
      framed_showsNoError.kept op hplain service answer service' hworking.2 hstep⟩

/-! ## The calls of a start -/

theorem installedPackages_uses {allowed : ServiceOp → Prop} (hactive : allowed .activePackages)
    (hinfo : ∀ packageName, allowed (.getPackageInfo packageName)) :
    installedPackages.run.Uses allowed := by
  have hinstalled : ∀ packageName, (isPackageInstalled packageName).run.Uses allowed := by
    intro packageName
    apply Uses.tryCatch
    · exact Uses.bindE (Uses.io (hinfo packageName)) fun _ => trivial
    · intro error
      split
      next => trivial
      next => trivial
  have hfilter : ∀ packageNames, (filterInstalled packageNames).run.Uses allowed := by
    intro packageNames
    induction packageNames with
    | nil => trivial
    | cons packageName packageNames ih =>
        apply Uses.bindE (hinstalled packageName)
        exact fun _ => Uses.bindE ih fun _ => trivial
  have hpackages : (serviceCall .activePackages >>= filterInstalled).run.Uses allowed :=
    Uses.bindE (Uses.io hactive) hfilter
  unfold installedPackages
  rw [← bind_assoc]
  apply Uses.bindE hpackages
  intro packages
  split
  next => trivial
  next => trivial

theorem isUp_uses {allowed : ServiceOp → Prop} (htun : allowed .getTunInterface)
    (hrunning : allowed .tProxyIsRunning) : isUp.run.Uses allowed := by
  apply Uses.bindE (Uses.io htun)
  intro tun
  cases tun with
  | none => exact Uses.io hrunning
  | some tun => trivial

/-- The calls of a start that has its interface. -/
def OfStart : ServiceOp → Prop
  | .setTunInterface _ | .tProxyStopService => False
  | .update value => value.IsOn
  | _ => True

theorem OfScheduler.ofStart {op : ServiceOp} (hop : OfScheduler op) : OfStart op := by
  cases op with
  | setTunInterface | tProxyStopService | update => exact hop
  | _ => trivial

theorem startEngine_uses (selector : SelectorId) (relay : RelayId) (established : TunId) :
    (startEngine selector relay established).run.Uses OfStart := by
  have hselector : ∀ {α : Type} (code : SelectorM α), (ofSelector selector code).run.Uses OfStart :=
    fun code => (ofSelector_uses selector code).mono fun _ hop => hop.ofStart
  apply Uses.bindE (Uses.io trivial)
  intro port
  apply Uses.bindE (Uses.io trivial)
  intro password
  apply Uses.bindE (Uses.io trivial)
  intro configFile
  apply Uses.bindE (Uses.io trivial)
  intro running
  split
  next =>
    apply Uses.bindE (Uses.io trivial)
    intro _
    apply Uses.bindE (hselector _)
    intro summary
    exact Uses.bindE (Uses.io trivial) fun _ => hselector _
  next => trivial

theorem OfStart.working {op : ServiceOp} {service service' : Service} {answer : op.Answer}
    (hop : OfStart op) (hworking : Working service)
    (hstep : serviceStep op service answer service') : Working service' := by
  by_cases hplain : Plain op
  · exact framed_working.kept op hplain service answer service' hworking hstep
  · cases op with
    | setTunInterface => exact hop.elim
    | update value =>
        have hframe := serviceStep_frame hstep
        have hthreaded := serviceStep_threaded hworking.1.threaded hstep
        refine ⟨⟨hthreaded, ?_⟩, hthreaded, ?_⟩
        · rw [hframe.tunInterface trivial]
          exact hworking.1.tunInterface
        · rw [serviceStep_update hstep]
          rintro message rfl
          exact hop
    | _ => exact absurd trivial hplain

section Runs

variable {sem : Semantics ServiceOp ServiceOp.Answer Service} (hsem : Restricts sem)
include hsem

theorem startEngine_working (selector : SelectorId) (relay : RelayId) (established : TunId) :
    TripleE sem Background Working (startEngine selector relay established) (fun _ => Working)
      fun _ => Working :=
  TripleE.uses (startEngine_uses selector relay established) framed_working.stable
    fun _ hop _ _ _ hworking hstep => hop.working hworking (hsem hstep)

/-- The published state while a start begins. -/
theorem update_starting {P : Service → Prop} (hP : Stable Background P)
    (hthreaded : ∀ service, P service → Threaded service) :
    TripleE sem Background P (serviceCall (.update .starting)) (fun _ => ShowsNoError)
      fun _ _ => False := by
  apply sure_call hsem (by trivial) hP framed_showsNoError.stable
  intro service answer service' hservice hstep
  refine ⟨serviceStep_threaded (hthreaded service hservice) (hsem hstep), ?_⟩
  rw [serviceStep_update (hsem hstep)]
  exact nofun

/-- A start gets its interface before it starts the engine. -/
theorem bringUp_ends {env : Service → Service → Prop} {Q : Service → Prop}
    (henv : ∀ service service', env service service' → Background service service')
    (hstart : ∀ selector relay established, TripleE sem env Working
      (startEngine selector relay established) (fun _ => Q) fun _ => Threaded) :
    TripleE sem env ShowsNoError bringUp (fun _ => Q) fun _ => Threaded := by
  have hplain : ∀ {α : Type} {code : ServiceM α}, code.run.Uses Plain → TripleE sem env
      ShowsNoError code (fun _ => ShowsNoError) fun _ => Threaded := fun huses =>
    ((plain_uses hsem framed_showsNoError huses).mono_env henv).failure fun _ _ h => h.1
  have hcall : ∀ {op : ServiceOp}, Plain op → TripleE sem env ShowsNoError (serviceCall op)
      (fun _ => ShowsNoError) fun _ => Threaded := fun hop => hplain (Uses.io hop)
  have hset : ∀ established, TripleE sem Background ShowsNoError
      (serviceCall (.setTunInterface (some established))) (fun _ => Working)
        fun _ _ => False := by
    intro established
    apply sure_call hsem (by trivial) framed_showsNoError.stable framed_working.stable
    intro service answer service' hshows hstep
    have hkept := serviceStep_threaded hshows.1 (hsem hstep)
    obtain ⟨_, rfl⟩ := hsem hstep
    exact ⟨⟨hkept, nofun⟩, hkept, hshows.2⟩
  apply TripleE.bind (hplain (installedPackages_uses trivial fun _ => trivial))
  intro installed
  apply TripleE.bind (hcall (by trivial))
  intro selector
  apply TripleE.bind (hcall (by trivial))
  intro _
  apply TripleE.bind (hcall (by trivial))
  intro _
  apply TripleE.bind (hcall (by trivial))
  intro relay
  apply TripleE.bind (hcall (by trivial))
  intro _
  apply TripleE.bind (hcall (by trivial))
  intro _
  apply TripleE.bind (hcall (by trivial))
  intro _
  apply TripleE.bind (hcall (by trivial))
  intro established
  cases established with
  | none =>
      refine TripleE.throw (fun service service' h hstep => ?_) fun _ h => h.1
      exact stable_threaded service service' h (henv _ _ hstep)
  | some established =>
      -- from here on a failure leaves the interface to the `catch` block
      apply TripleE.bind ((hset established).mono_env henv).nothrow
      exact fun _ => hstart selector relay established

end Runs

end AIUnblock.AiUnblockVpnService
