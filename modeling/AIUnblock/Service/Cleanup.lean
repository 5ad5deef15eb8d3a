import AIUnblock.Service.Threads

/-! # Cleaning up

`cleanupTunnel` never throws and leaves no interface, whatever the scheduler threads
do meanwhile.
-/

namespace AIUnblock.AiUnblockVpnService

open Prog GatewaySelector

/-- Neither the interface nor the published state is set. -/
def Plain : ServiceOp → Prop
  | .setTunInterface _ | .update _ => False
  | _ => True

theorem Plain.keepsTun {op : ServiceOp} (hplain : Plain op) : KeepsTun op := by
  cases op with
  | setTunInterface => exact hplain
  | _ => trivial

theorem Plain.keepsPublished {op : ServiceOp} (hplain : Plain op) : KeepsPublished op := by
  cases op with
  | update => exact hplain
  | _ => trivial

/-- The calls of a cleanup that never throw. -/
def Sure : ServiceOp → Prop
  | .getTunInterface | .getSocksRelay | .getGatewaySelector => True
  | .setTunInterface _ | .setSocksRelay _ | .setGatewaySelector _ => True
  | .tProxyIsRunning | .tProxyStopService | .closeRelay _ => True
  | .update _ | .putEnabled _ | .stopForeground | .stopSelf => True
  | .selector _ .compareAndSetClosed | .selector _ .cancelPeriodicTask => True
  | .selector _ .clearPeriodicTask | .selector _ .shutdownScheduler => True
  | _ => False

theorem Sure.answers {op : ServiceOp} {service service' : Service} {answer : op.Answer}
    (hsure : Sure op) (hstep : serviceStep op service answer service') :
    ∃ value, answer = .ok value := by
  cases op with
  | tProxyStopService => exact hstep.1
  | selector id op =>
      cases op with
      | compareAndSetClosed | cancelPeriodicTask | clearPeriodicTask | shutdownScheduler =>
          exact ⟨_, hstep.1⟩
      | _ => exact hsure.elim
  | getTunInterface | getSocksRelay | getGatewaySelector | setTunInterface | setSocksRelay
    | setGatewaySelector | tProxyIsRunning | closeRelay | update | putEnabled | stopForeground
    | stopSelf => exact ⟨_, hstep.1⟩
  | _ => exact hsure.elim

/-- An assertion that neither the background nor a plain call disturbs. -/
structure Framed (P : Service → Prop) : Prop where
  stable : Stable Background P
  kept : ∀ op, Plain op → ∀ service answer service', P service →
    serviceStep op service answer service' → P service'

theorem serviceStep_threaded {op : ServiceOp} {service service' : Service} {answer : op.Answer}
    (hthreaded : Threaded service) (hstep : serviceStep op service answer service') :
    Threaded service' := by
  rw [Threaded, (serviceStep_frame hstep).thread]
  exact hthreaded

theorem framed_threaded : Framed Threaded where
  stable := stable_threaded
  kept _ _ _ _ _ hthreaded hstep := serviceStep_threaded hthreaded hstep

/-- Code of the selector, step by step. -/
theorem ofSelector_bind {α β : Type} (id : SelectorId) (code : SelectorM α)
    (rest : α → SelectorM β) :
    ofSelector id (code >>= rest) =
      ofSelector id code >>= fun value => ofSelector id (rest value) := by
  refine (interpret_bind code.run _).trans ?_
  congr
  funext result
  cases result with
  | ok value => rfl
  | error error => rfl

section Calls

variable {sem : Semantics ServiceOp ServiceOp.Answer Service} {P : Service → Prop}

/-- A call that does not throw, with what it establishes. -/
theorem sure_call {env : Service → Service → Prop} {op : ServiceOp} {Q : Service → Prop}
    (hsem : Restricts sem) (hsure : Sure op) (hP : Stable env P) (hQ : Stable env Q)
    (hcall : ∀ service answer service', P service → sem op service answer service' → Q service') :
    TripleE sem env P (serviceCall op) (fun _ => Q) fun _ _ => False := by
  apply TripleE.io hP (fun _ => hQ) (fun _ => stable_false _)
  · exact fun service value service' hservice hstep => hcall _ _ _ hservice hstep
  · intro service error service' _ hstep
    obtain ⟨value, hvalue⟩ := hsure.answers (hsem hstep)
    cases hvalue

variable (hsem : Restricts sem)
include hsem

theorem plain_call {op : ServiceOp} (hframed : Framed P) (hsure : Sure op) (hplain : Plain op) :
    TripleE sem Background P (serviceCall op) (fun _ => P) fun _ _ => False :=
  sure_call hsem hsure hframed.stable hframed.stable fun service answer service' hservice hstep =>
    hframed.kept op hplain service answer service' hservice (hsem hstep)

/-- A program of plain calls, any of which may throw. -/
theorem plain_uses {α : Type} {code : ServiceM α} (hframed : Framed P)
    (huses : code.run.Uses Plain) :
    TripleE sem Background P code (fun _ => P) fun _ => P :=
  TripleE.uses huses hframed.stable fun op hplain service answer service' hservice hstep =>
    hframed.kept op hplain service answer service' hservice (hsem hstep)

theorem ofSelector_close_framed (hframed : Framed P) (id : SelectorId) :
    TripleE sem Background P (ofSelector id close) (fun _ => P) fun _ _ => False := by
  have hcall : ∀ op : SelectorOp, Sure (.selector id op) →
      TripleE sem Background P (serviceCall (.selector id op)) (fun _ => P) fun _ _ => False :=
    fun op hsure => plain_call hsem hframed hsure trivial
  rw [close, ofSelector_bind]
  apply TripleE.bind (hcall .compareAndSetClosed trivial)
  intro changed
  cases changed with
  | false => exact TripleE.pure hframed.stable fun _ hP => hP
  | true =>
      rw [if_pos rfl, ofSelector_bind]
      apply TripleE.bind (hcall .cancelPeriodicTask trivial)
      intro _
      rw [ofSelector_bind]
      apply TripleE.bind (hcall .clearPeriodicTask trivial)
      exact fun _ => hcall .shutdownScheduler trivial

theorem closeSelector_framed (hframed : Framed P) :
    TripleE sem Background P closeSelector (fun _ => P) fun _ _ => False := by
  apply TripleE.bind (plain_call hsem hframed (by trivial) (by trivial))
  intro selector
  cases selector with
  | none => exact TripleE.pure hframed.stable fun _ hP => hP
  | some selector => exact ofSelector_close_framed hsem hframed selector

theorem stopEngine_framed (hframed : Framed P) :
    TripleE sem Background P stopEngine (fun _ => P) fun _ _ => False := by
  apply TripleE.bind (plain_call hsem hframed (by trivial) (by trivial))
  intro running
  split
  next =>
    apply TripleE.bind (plain_call hsem hframed (by trivial) (by trivial))
    exact fun _ => TripleE.pure hframed.stable fun _ hP => hP
  next => exact TripleE.pure hframed.stable fun _ hP => hP

/-- Closing the interface may throw an `IOException` only, which is ignored. -/
theorem closeTunInterface_framed (hframed : Framed P) :
    TripleE sem Background P closeTunInterface (fun _ => P) fun _ _ => False := by
  apply TripleE.bind (plain_call hsem hframed (by trivial) (by trivial))
  intro tun
  cases tun with
  | none => exact TripleE.pure hframed.stable fun _ hP => hP
  | some tun =>
      have hclose : TripleE sem Background P (serviceCall (.closeTun tun)) (fun _ => P)
          fun error service => error.kind = .io ∧ P service := by
        apply TripleE.io hframed.stable (fun _ => hframed.stable)
        · rintro error service service' ⟨hkind, hP⟩ hstep
          exact ⟨hkind, hframed.stable _ _ hP hstep⟩
        · exact fun service value service' hP hstep =>
            hframed.kept (.closeTun tun) trivial _ _ _ hP (hsem hstep)
        · intro service error service' hP hstep
          have hcall := hsem hstep
          refine ⟨?_, hframed.kept (.closeTun tun) trivial _ _ _ hP hcall⟩
          rcases hcall.1 with hok | ⟨message, herror⟩
          · cases hok
          · cases herror
            rfl
      apply TripleE.tryCatch hclose
      intro error
      split
      next => exact TripleE.pure hframed.stable fun _ h => h.2
      next hkind => exact fun service h => absurd h.1 hkind

theorem closeSocksRelay_framed (hframed : Framed P) :
    TripleE sem Background P closeSocksRelay (fun _ => P) fun _ _ => False := by
  apply TripleE.bind (plain_call hsem hframed (by trivial) (by trivial))
  intro relay
  cases relay with
  | none => exact TripleE.pure hframed.stable fun _ hP => hP
  | some relay => exact plain_call hsem hframed (by trivial) (by trivial)

end Calls

/-! ## Without an interface -/

/-- The interface is gone; no thread brings it back. -/
structure Gone (service : Service) : Prop where
  threaded : Threaded service
  tunInterface : service.tunInterface = none

theorem framed_gone : Framed Gone where
  stable _ _ hgone hstep := ⟨stable_threaded _ _ hgone.threaded hstep,
    (hstep.tunInterface hgone.threaded).trans hgone.tunInterface⟩
  kept _ hplain _ _ _ hgone hstep :=
    ⟨serviceStep_threaded hgone.threaded hstep,
      ((serviceStep_frame hstep).tunInterface hplain.keepsTun).trans hgone.tunInterface⟩

theorem cleanupTunnel_gone {sem : Semantics ServiceOp ServiceOp.Answer Service}
    (hsem : Restricts sem) :
    TripleE sem Background Threaded cleanupTunnel (fun _ => Gone) fun _ _ => False := by
  apply TripleE.bind (closeSelector_framed hsem framed_threaded)
  intro _
  apply TripleE.bind
    (plain_call hsem framed_threaded (by trivial) (by trivial))
  intro _
  apply TripleE.bind (stopEngine_framed hsem framed_threaded)
  intro _
  apply TripleE.bind (closeTunInterface_framed hsem framed_threaded)
  intro _
  have hclear : TripleE sem Background Threaded (serviceCall (.setTunInterface none))
      (fun _ => Gone) fun _ _ => False := by
    apply sure_call hsem (by trivial) stable_threaded framed_gone.stable
    intro service answer service' hthreaded hstep
    have hcall := hsem hstep
    refine ⟨serviceStep_threaded hthreaded hcall, ?_⟩
    obtain ⟨_, rfl⟩ := hcall
    rfl
  apply TripleE.bind hclear
  intro _
  apply TripleE.bind (closeSocksRelay_framed hsem framed_gone)
  exact fun _ => plain_call hsem framed_gone (by trivial) (by trivial)

end AIUnblock.AiUnblockVpnService
