import AIUnblock.Service.Process

/-! # What the scheduler threads do to the service

A scheduler's thread only calls its selector, reads the interface and publishes a
selection. Once the interface is gone, only a thread that has seen it before can
still publish.
-/

namespace AIUnblock.AiUnblockVpnService

open Prog GatewaySelector Relation

/-- The calls of a scheduler's thread that publish nothing. -/
def Unpublishing : ServiceOp → Prop
  | .getTunInterface | .selector _ _ => True
  | _ => False

/-- The calls of a scheduler's thread. -/
def OfScheduler : ServiceOp → Prop
  | .update value => value.IsOn
  | op => Unpublishing op

/-- The answers that a thread gets while there is no interface. -/
def WithoutTun : (op : ServiceOp) → op.Answer → Prop
  | .getTunInterface, answer => answer = .ok none
  | _, _ => True

/-- The thread publishes nothing before it has seen an interface again. -/
def Unarmed (task : ServiceTask) : Prop := task.UsesGiven WithoutTun Unpublishing

/-- A selector's calls are calls of a scheduler. -/
theorem selectorBody_uses (id : SelectorId) (op : SelectorOp) :
    (selectorBody id op).Uses OfScheduler := by
  cases op with
  | onSelectionUpdated summary =>
      apply Uses.bindE (Uses.io trivial)
      intro tun
      cases tun with
      | none => trivial
      | some tun => exact Uses.io trivial
  | _ => exact ⟨trivial, fun _ => trivial⟩

/-- Without an interface the callback publishes nothing. -/
theorem selectorBody_unarmed (id : SelectorId) (op : SelectorOp) :
    (selectorBody id op).UsesGiven WithoutTun Unpublishing := by
  cases op with
  | onSelectionUpdated summary =>
      refine ⟨trivial, fun answer hanswer => ?_⟩
      cases hanswer
      trivial
  | _ => exact ⟨trivial, fun _ _ => trivial⟩

theorem ofSelector_uses {α : Type} (id : SelectorId) (code : SelectorM α) :
    (ofSelector id code).run.Uses OfScheduler :=
  Uses.interpret (selectorBody_uses id) code.run

/-- So a refresh that has not looked is not armed. -/
theorem refreshSafely_unarmed (id : SelectorId) : Unarmed (ofSelector id refreshSafely).run :=
  UsesGiven.interpret (selectorBody_unarmed id) refreshSafely.run

/-! ## What a call changes -/

section Frame

variable {op : ServiceOp} {service service' : Service} {answer : op.Answer}

/-- The call does not set the interface. -/
def KeepsTun : ServiceOp → Prop
  | .setTunInterface _ => False
  | _ => True

/-- The call does not set the published state. -/
def KeepsPublished : ServiceOp → Prop
  | .update _ => False
  | _ => True

/-- A scheduler leaves the interface alone. -/
theorem OfScheduler.keepsTun {op : ServiceOp} (hop : OfScheduler op) : KeepsTun op := by
  cases op with
  | setTunInterface => exact hop
  | _ => trivial

theorem Unpublishing.keepsPublished {op : ServiceOp} (hop : Unpublishing op) :
    KeepsPublished op := by
  cases op with
  | update => exact hop
  | _ => trivial

/-- A call leaves the threads alone, and the interface and the published state to
the calls that are there for them. -/
structure Frame (op : ServiceOp) (service service' : Service) : Prop where
  thread : service'.thread = service.thread
  tunInterface : KeepsTun op → service'.tunInterface = service.tunInterface
  published : KeepsPublished op → service'.published = service.published
  stopping : service.stopping = true → service'.stopping = true

theorem Frame.refl (op : ServiceOp) (service : Service) : Frame op service service :=
  ⟨rfl, fun _ => rfl, fun _ => rfl, fun hstopping => hstopping⟩

theorem MayFail.frame {α : Type} {succeeds : α → Prop} {answer : Except Exception α}
    (hstep : MayFail service answer service' succeeds)
    (hsucceeds : ∀ value, succeeds value → Frame op service service') :
    Frame op service service' := by
  cases answer with
  | ok value => exact hsucceeds value hstep
  | error error =>
      cases hstep
      exact Frame.refl op service

theorem selectorCalls_frame {id : SelectorId} {op : SelectorOp} {answer : op.Answer}
    (hstep : selectorCalls id op service answer service') :
    Frame (.selector id op) service service' := by
  cases op with
  | isClosed | hasPeriodicTask | compareAndSetClosed | cancelPeriodicTask | clearPeriodicTask
    | shutdownScheduler =>
      obtain ⟨_, rfl⟩ := hstep
      exact ⟨rfl, fun _ => rfl, fun _ => rfl, fun hstopping => hstopping⟩
  | schedulePeriodicTask =>
      apply MayFail.frame hstep
      rintro _ rfl
      exact ⟨rfl, fun _ => rfl, fun _ => rfl, fun hstopping => hstopping⟩
  | _ =>
      cases hstep
      exact Frame.refl _ _

/-- Every call changes only what it is about. -/
theorem serviceStep_frame (hstep : serviceStep op service answer service') :
    Frame op service service' := by
  cases op with
  | setTunInterface =>
      obtain ⟨_, rfl⟩ := hstep
      exact ⟨rfl, fun hkeeps => hkeeps.elim, fun _ => rfl, fun hstopping => hstopping⟩
  | update =>
      obtain ⟨_, rfl⟩ := hstep
      exact ⟨rfl, fun _ => rfl, fun hkeeps => hkeeps.elim, fun hstopping => hstopping⟩
  | stopSelf =>
      obtain ⟨_, rfl⟩ := hstep
      exact ⟨rfl, fun _ => rfl, fun _ => rfl, fun _ => rfl⟩
  | selector id op => exact selectorCalls_frame hstep
  | tProxyStartService =>
      rcases hstep with ⟨_, rfl⟩ | ⟨_, _, rfl⟩
      · exact Frame.refl _ _
      · exact ⟨rfl, fun _ => rfl, fun _ => rfl, fun hstopping => hstopping⟩
  | newSelector | newRelay =>
      apply MayFail.frame hstep
      rintro _ ⟨_, rfl⟩
      exact ⟨rfl, fun _ => rfl, fun _ => rfl, fun hstopping => hstopping⟩
  | establish =>
      apply MayFail.frame hstep
      rintro (_ | tun) hestablished
      · cases hestablished
        exact Frame.refl _ _
      · obtain ⟨_, rfl⟩ := hestablished
        exact ⟨rfl, fun _ => rfl, fun _ => rfl, fun hstopping => hstopping⟩
  | startForeground | startRelay =>
      apply MayFail.frame hstep
      rintro _ rfl
      exact ⟨rfl, fun _ => rfl, fun _ => rfl, fun hstopping => hstopping⟩
  | activePackages | getPackageInfo | loadRules | configureBuilder | writeTunnelConfig =>
      cases hstep
      exact Frame.refl _ _
  | _ =>
      obtain ⟨_, rfl⟩ := hstep
      exact ⟨rfl, fun _ => rfl, fun _ => rfl, fun hstopping => hstopping⟩

/-- A look finds no interface when there is none. -/
theorem serviceStep_withoutTun (htun : service.tunInterface = none)
    (hstep : serviceStep op service answer service') : WithoutTun op answer := by
  cases op with
  | getTunInterface => exact hstep.1.trans (congrArg Except.ok htun)
  | _ => trivial

/-- What is published is what was passed. -/
theorem serviceStep_update {value : TunnelState} {answer : Except Exception Unit}
    (hstep : serviceStep (.update value) service answer service') :
    service'.published = value := by
  obtain ⟨_, rfl⟩ := hstep
  rfl

end Frame

/-! ## Assertions about the threads -/

/-- The threads make no other calls. -/
def Threaded (service : Service) : Prop :=
  ∀ id task, service.thread id = some task → task.Uses OfScheduler

/-- Nothing is published as long as there is no interface. -/
def AllUnarmed (service : Service) : Prop :=
  ∀ id task, service.thread id = some task → Unarmed task

theorem setThread_forall {service : Service} {id : SelectorId} {task : Option ServiceTask}
    {P : ServiceTask → Prop} (hall : ∀ other task, service.thread other = some task → P task)
    (htask : ∀ started, task = some started → P started) :
    ∀ other started, (service.setThread id task).thread other = some started → P started := by
  intro other started hthread
  by_cases heq : other = id
  · subst heq
    apply htask
    simpa [Service.setThread] using hthread
  · apply hall other
    simpa [Service.setThread, heq] using hthread

/-- What holds of a fresh refresh and is kept by each call of a thread holds of all
threads after a step of the background. -/
theorem Background.forall_threads {P : ServiceTask → Prop} {service service' : Service}
    (hstep : Background service service')
    (hbegin : ∀ id, P (ofSelector id refreshSafely).run)
    (hact : ∀ op next answer after, P (.call op next) → serviceStep op service answer after →
      P (next answer))
    (hall : ∀ id task, service.thread id = some task → P task) :
    ∀ id task, service'.thread id = some task → P task := by
  cases hstep with
  | engineEnds => exact hall
  | scheduler hstep =>
      cases hstep with
      | begin id hidle hscheduled =>
          apply setThread_forall hall
          intro started hstarted
          rw [← Option.some.inj hstarted]
          exact hbegin id
      | @act op next answer after id hthread hstep =>
          have hafter : ∀ other task, after.thread other = some task → P task := by
            rw [(serviceStep_frame hstep).thread]
            exact hall
          apply setThread_forall hafter
          intro started hstarted
          rw [← Option.some.inj hstarted]
          exact hact op next answer after (hall id _ hthread) hstep
      | finish id hthread => exact setThread_forall hall nofun

/-- The threads stay threads of selectors. -/
theorem stable_threaded : Stable Background Threaded := by
  intro service service' hthreaded hstep
  apply hstep.forall_threads (fun id => ofSelector_uses id refreshSafely) _ hthreaded
  exact fun op next answer after hcall _ => hcall.2 answer

/-- While there is no interface, the threads stay away from publishing. -/
theorem Background.unarmed {service service' : Service} (hstep : Background service service')
    (htun : service.tunInterface = none) (hunarmed : AllUnarmed service) : AllUnarmed service' := by
  apply hstep.forall_threads refreshSafely_unarmed _ hunarmed
  -- a thread that looks at the interface now finds none
  exact fun op next answer after hcall hstep => hcall.2 answer (serviceStep_withoutTun htun hstep)

/-! ## What the background changes -/

/-- A step of the background is a call of a thread, as far as anyone but the threads
and the engine can see. -/
theorem Background.seen {service service' : Service} (hstep : Background service service') :
    (service'.tunInterface = service.tunInterface ∧ service'.published = service.published ∧
      service'.stopping = service.stopping) ∨
    ∃ id op next answer after, service.thread id = some (.call op next) ∧
      serviceStep op service answer after ∧ service'.tunInterface = after.tunInterface ∧
      service'.published = after.published ∧ service'.stopping = after.stopping := by
  cases hstep with
  | engineEnds => exact Or.inl ⟨rfl, rfl, rfl⟩
  | scheduler hstep =>
      cases hstep with
      | begin | finish => exact Or.inl ⟨rfl, rfl, rfl⟩
      | @act op next answer after id hthread hstep =>
          exact Or.inr ⟨id, op, next, answer, after, hthread, hstep, rfl, rfl, rfl⟩

/-- No thread changes the interface. -/
theorem Background.tunInterface {service service' : Service} (hstep : Background service service')
    (hthreaded : Threaded service) : service'.tunInterface = service.tunInterface := by
  obtain ⟨htun, -⟩ | ⟨id, op, next, answer, after, hthread, hcall, htun, -⟩ := hstep.seen
  · exact htun
  · have hop := (hthreaded id _ hthread).1
    rw [htun, (serviceStep_frame hcall).tunInterface hop.keepsTun]

/-- A service that stops goes on stopping. -/
theorem Background.stopping {service service' : Service} (hstep : Background service service')
    (hstopping : service.stopping = true) : service'.stopping = true := by
  obtain ⟨-, -, hkept⟩ | ⟨id, op, next, answer, after, -, hcall, -, -, hkept⟩ := hstep.seen
  · rw [hkept, hstopping]
  · rw [hkept, (serviceStep_frame hcall).stopping hstopping]

/-- Without armed threads nothing is published. -/
theorem Background.published {service service' : Service} (hstep : Background service service')
    (hunarmed : AllUnarmed service) : service'.published = service.published := by
  obtain ⟨-, hkept, -⟩ | ⟨id, op, next, answer, after, hthread, hcall, -, hkept, -⟩ := hstep.seen
  · exact hkept
  · have hop := (hunarmed id _ hthread).1
    rw [hkept, (serviceStep_frame hcall).published hop.keepsPublished]

/-- Selections are all that is ever published. -/
theorem Background.published_or_on {service service' : Service}
    (hstep : Background service service') (hthreaded : Threaded service) :
    service'.published = service.published ∨ service'.published.IsOn := by
  obtain ⟨-, hkept, -⟩ | ⟨id, op, next, answer, after, hthread, hcall, -, hkept, -⟩ := hstep.seen
  · exact Or.inl hkept
  · rw [hkept]
    by_cases hkeeps : KeepsPublished op
    · exact Or.inl ((serviceStep_frame hcall).published hkeeps)
    · -- the publication itself
      cases op with
      | update value =>
          rw [serviceStep_update hcall]
          exact Or.inr (hthreaded id _ hthread).1
      | _ => exact absurd trivial hkeeps

end AIUnblock.AiUnblockVpnService
