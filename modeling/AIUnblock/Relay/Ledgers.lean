import AIUnblock.Relay.Calls
import AIUnblock.Relay.Server

/-! # The ledgers of the threads

When a thread of the relay ends, it is answerable for no socket any more: what it was
given it has closed or handed over, or a call has thrown while it held the socket.
-/

namespace AIUnblock.LocalSocksRelay

open Prog

/-- What the calls of a session do to the ledger of its thread. -/
def ledgerStep : Semantics RelayOp RelayOp.Answer Ledger := fun op ledger answer ledger' =>
  ∃ effect, RelayEffect op answer effect ∧ ledger' = ledger.after effect answer

def serverLedgerStep : Semantics ServerOp ServerOp.Answer Ledger :=
  fun op ledger answer ledger' =>
    ∃ effect, ServerEffect op answer effect ∧ ledger' = ledger.after effect answer

/-- A thread that holds and owes these sockets at most and has done with the ones that
are `gone`. -/
structure Within (holds owes gone : List SocketId) (ledger : Ledger) : Prop where
  holds : ∀ socket ∈ ledger.holds, socket ∈ holds
  owes : ∀ socket ∈ ledger.owes, socket ∈ owes
  gone : ∀ socket ∈ gone, socket ∈ ledger.closed ∨ socket ∈ ledger.refused
  strays : ledger.strays = []
  sweeps : ledger.sweeps = false

/-- The thread is answerable for nothing. -/
abbrev Clear : Ledger → Prop := Within [] [] []

/-- A thread that still owes its client, who may be refused, or is done with it. -/
structure Unserved (client : SocketId) (ledger : Ledger) : Prop where
  within : Within [] [client] [] ledger
  greeting : ledger.greeting = true
  client : client ∈ ledger.owes ∨ client ∈ ledger.closed ∨ client ∈ ledger.refused

section Effects

variable {α : Type} {holds owes gone : List SocketId} {ledger : Ledger} {effect : Effect}
  {answer : Except Exception α} {client socket : SocketId}

/-- The bounds of a ledger may be loosened. -/
theorem Within.weaken {holds' owes' gone' : List SocketId}
    (hwithin : Within holds owes gone ledger) (hholds : ∀ socket ∈ holds, socket ∈ holds')
    (howes : ∀ socket ∈ owes, socket ∈ owes') (hgone : ∀ socket ∈ gone', socket ∈ gone) :
    Within holds' owes' gone' ledger where
  holds socket hmem := hholds socket (hwithin.holds socket hmem)
  owes socket hmem := howes socket (hwithin.owes socket hmem)
  gone socket hmem := hwithin.gone socket (hgone socket hmem)
  strays := hwithin.strays
  sweeps := hwithin.sweeps

/-- The effect gives the thread no socket and takes none out of `sessions`. -/
def Effect.Mild : Effect → Prop
  | .created _ .client | .created _ .upstream | .removed _ | .served _ | .locked _ => False
  | _ => True

/-- A mild effect leaves the ledger within its bounds. -/
theorem Within.mild (hwithin : Within holds owes gone ledger) (hmild : effect.Mild) :
    Within holds owes gone (ledger.apply effect) := by
  cases effect with
  | created socket kind =>
      cases kind with
      | client | upstream => exact hmild.elim
      | server | datagram => exact hwithin
  | closed socket =>
      refine ⟨fun x hx => hwithin.holds x (List.mem_of_mem_filter hx),
        fun x hx => hwithin.owes x (List.mem_of_mem_filter hx), fun x hx => ?_,
        hwithin.strays, hwithin.sweeps⟩
      exact (hwithin.gone x hx).imp (List.mem_cons_of_mem socket) id
  | removed | served | locked => exact hmild.elim
  | handedOver socket =>
      exact ⟨fun x hx => hwithin.holds x (List.mem_of_mem_filter hx), hwithin.owes,
        hwithin.gone, hwithin.strays, hwithin.sweeps⟩
  | refused socket =>
      rw [Ledger.apply]
      split
      next =>
        refine ⟨hwithin.holds, fun x hx => hwithin.owes x (List.mem_of_mem_filter hx),
          fun x hx => ?_, hwithin.strays, hwithin.sweeps⟩
        exact (hwithin.gone x hx).imp id (List.mem_cons_of_mem socket)
      next => exact hwithin
  | nothing | registered | cleared | shutDown => exact hwithin

/-- A call that throws loses what the thread holds. -/
theorem Within.dropped (hwithin : Within holds owes gone ledger) :
    Within [] owes gone { ledger with holds := [] } :=
  ⟨nofun, hwithin.owes, hwithin.gone, hwithin.strays, hwithin.sweeps⟩

/-- And so does the note of a mild answer. -/
theorem Within.after (hwithin : Within holds owes gone ledger) (hmild : effect.Mild) :
    Within holds owes gone (ledger.after effect answer) := by
  cases answer with
  | ok => exact hwithin.mild hmild
  | error =>
      exact (hwithin.mild hmild).dropped.weaken (fun _ hmem => nomatch hmem) (fun _ h => h)
        fun _ h => h

/-- A client that is not served stays so. -/
theorem Unserved.after (hunserved : Unserved client ledger) (hmild : effect.Mild) :
    Unserved client (ledger.after effect answer) := by
  have happlied : Unserved client (ledger.apply effect) := by
    refine ⟨hunserved.within.mild hmild, ?_, ?_⟩
    · cases effect with
      | created socket kind =>
          cases kind with
          | upstream => exact hmild.elim
          | _ => exact hunserved.greeting
      | removed | served | locked => exact hmild.elim
      | refused socket =>
          rw [Ledger.apply]
          split <;> exact hunserved.greeting
      | _ => exact hunserved.greeting
    · cases effect with
      | created socket kind =>
          cases kind with
          | _ => exact hunserved.client
      | closed socket =>
          by_cases heq : client = socket
          · exact Or.inr (Or.inl (heq ▸ List.mem_cons_self))
          · rcases hunserved.client with howed | hclosed | hrefused
            · exact Or.inl (List.mem_filter.mpr ⟨howed, by simpa using heq⟩)
            · exact Or.inr (Or.inl (List.mem_cons_of_mem socket hclosed))
            · exact Or.inr (Or.inr hrefused)
      | removed | served | locked => exact hmild.elim
      | refused socket =>
          rw [Ledger.apply]
          split
          next =>
            by_cases heq : client = socket
            · exact Or.inr (Or.inr (heq ▸ List.mem_cons_self))
            · rcases hunserved.client with howed | hclosed | hrefused
              · exact Or.inl (List.mem_filter.mpr ⟨howed, by simpa using heq⟩)
              · exact Or.inr (Or.inl hclosed)
              · exact Or.inr (Or.inr (List.mem_cons_of_mem socket hrefused))
          next => exact hunserved.client
      | _ => exact hunserved.client
  cases answer with
  | ok => exact happlied
  | error => exact ⟨happlied.within.dropped, happlied.greeting, happlied.client⟩

end Effects

/-! ## Calls -/

section Calls

variable {α : Type} {holds owes gone : List SocketId} {client socket : SocketId}

/-- The call neither opens an upstream socket nor takes a socket out of `sessions`. -/
def Keeping : RelayOp → Prop
  | .newSocket | .removeSession _ => False
  | _ => True

/-- A call that keeps the sockets has a mild effect. -/
theorem Keeping.mild {op : RelayOp} {answer : op.Answer} {effect : Effect} (hop : Keeping op)
    (heffect : RelayEffect op answer effect) : effect.Mild := by
  cases op with
  | newSocket | removeSession => exact hop.elim
  | write =>
      cases answer with
      | ok value =>
          rcases heffect with ⟨_, rfl⟩ | ⟨_, rfl⟩
          · trivial
          · trivial
      | error error =>
          cases heffect
          trivial
  | addSession =>
      cases answer with
      | ok value =>
          cases heffect
          trivial
      | error error => exact heffect.elim
  | close =>
      cases heffect
      trivial
  | connect =>
      cases answer with
      | ok value =>
          cases heffect
          trivial
      | error error =>
          rcases heffect with rfl | rfl
          · trivial
          · trivial
  | execute task =>
      cases answer with
      | ok value =>
          cases task with
          | upstreamToClient | watchControl =>
              cases heffect
              trivial
      | error error =>
          cases task with
          | upstreamToClient | watchControl =>
              cases heffect
              trivial
  | diverge => exact heffect.elim
  | _ =>
      cases answer with
      | ok | error =>
          cases heffect
          trivial

/-- The sockets held are lost only when such a call throws. -/
theorem keeping_call {op : RelayOp} (hop : Keeping op) :
    Alone ledgerStep (Within holds owes gone) (relayCall op) (fun _ => Within holds owes gone)
      fun _ => Within [] owes gone := by
  apply Alone.io
  · rintro ledger value _ hwithin ⟨effect, heffect, rfl⟩
    exact hwithin.after (hop.mild heffect)
  · rintro ledger error _ hwithin ⟨effect, heffect, rfl⟩
    exact (hwithin.mild (hop.mild heffect)).dropped

/-- Code of such calls keeps the ledger, also when it throws. -/
theorem keeping_uses {p : RelayM α} (huses : p.run.Uses Keeping) :
    Alone ledgerStep (Within holds owes gone) p (fun _ => Within holds owes gone)
      fun _ => Within holds owes gone := by
  apply Alone.uses huses
  rintro op hop ledger answer _ hwithin ⟨effect, heffect, rfl⟩
  exact hwithin.after (hop.mild heffect)

/-- A client that is not served stays so until a socket is opened. -/
theorem unserved_uses {p : RelayM α} (huses : p.run.Uses Keeping) :
    Alone ledgerStep (Unserved client) p (fun _ => Unserved client)
      fun _ => Unserved client := by
  apply Alone.uses huses
  rintro op hop ledger answer _ hunserved ⟨effect, heffect, rfl⟩
  exact hunserved.after (hop.mild heffect)

/-- What is owed is paid by closing it, also when that throws. -/
theorem closeQuietly_within :
    Alone ledgerStep (Within holds (socket :: owes) gone) (closeQuietly socket)
      (fun _ => Within holds owes (socket :: gone)) fun _ _ => False := by
  have hclosed : ∀ ledger, Within holds (socket :: owes) gone ledger →
      Within holds owes (socket :: gone) (ledger.apply (.closed socket)) := by
    intro ledger hwithin
    refine ⟨fun x hx => hwithin.holds x (List.mem_of_mem_filter hx), fun x hx => ?_,
      fun x hx => ?_, hwithin.strays, hwithin.sweeps⟩
    · obtain ⟨howed, hne⟩ := List.mem_filter.mp hx
      rcases List.mem_cons.mp (hwithin.owes x howed) with heq | hmem
      · simp [heq] at hne
      · exact hmem
    · rcases List.mem_cons.mp hx with rfl | hmem
      · exact Or.inl List.mem_cons_self
      · exact (hwithin.gone x hmem).imp (List.mem_cons_of_mem socket) id
  have hcall : Alone ledgerStep (Within holds (socket :: owes) gone) (relayCall (.close socket))
      (fun _ => Within holds owes (socket :: gone))
      fun _ => Within holds owes (socket :: gone) := by
    apply Alone.io
    · rintro ledger value _ hwithin ⟨effect, rfl, rfl⟩
      exact hclosed ledger hwithin
    · rintro ledger error _ hwithin ⟨effect, rfl, rfl⟩
      exact (hclosed ledger hwithin).dropped.weaken (fun _ h => nomatch h) (fun _ h => h)
        fun _ h => h
  exact TripleE.tryCatch hcall fun _ => Alone.pure fun _ h => h

/-- A socket that is gone may be taken out of `sessions`. -/
theorem removeSession_within (hgone : socket ∈ gone) :
    Alone ledgerStep (Within holds owes gone) (relayCall (.removeSession socket))
      (fun _ => Within holds owes gone) fun _ _ => False := by
  apply Alone.io
  · rintro ledger value _ hwithin ⟨effect, rfl, rfl⟩
    have hdone : socket ∈ ledger.closed ∨ socket ∈ ledger.owes ∨ socket ∈ ledger.refused :=
      (hwithin.gone socket hgone).imp id Or.inr
    rw [Ledger.after, Ledger.apply, if_pos hdone]
    exact hwithin
  · rintro ledger error _ hwithin ⟨effect, hnone, rfl⟩
    exact hnone

/-- The block takes over the socket that the session holds. -/
theorem execute_within :
    Alone ledgerStep (Within [socket] owes gone)
      (relayCall (.execute (.upstreamToClient client socket))) (fun _ => Within [] owes gone)
      fun _ => Within [] owes gone := by
  apply Alone.io
  · rintro ledger value _ hwithin ⟨effect, rfl, rfl⟩
    refine ⟨fun x hx => ?_, hwithin.owes, hwithin.gone, hwithin.strays, hwithin.sweeps⟩
    obtain ⟨hheld, hne⟩ := List.mem_filter.mp hx
    simp [List.mem_singleton.mp (hwithin.holds x hheld)] at hne
  · rintro ledger error _ hwithin ⟨effect, rfl, rfl⟩
    exact hwithin.dropped

end Calls

/-! ## Copying -/

section Copying

variable {client upstream : SocketId}

/-- The end of a copy loop pays both sockets. -/
theorem releaseBoth_within :
    Alone ledgerStep (Within [] [client, upstream] []) (releaseBoth client upstream)
      (fun _ => Within [] [] [upstream, client]) fun _ _ => False := by
  apply TripleE.bind closeQuietly_within
  intro _
  apply TripleE.bind closeQuietly_within
  exact fun _ => removeSession_within List.mem_cons_self

/-- Whatever ends a copy loop, both sockets are paid. -/
theorem copyDirection_within {input output : SocketId} {loops : Nat} :
    Alone ledgerStep (Within [] [client, upstream] [])
      (copyDirection loops input output client upstream)
      (fun _ => Within [] [] [upstream, client]) fun _ _ => False := by
  have huses : (copy input output loops).run.Uses Keeping :=
    copy_uses (fun _ _ => trivial) (fun _ => trivial) trivial loops
  have hcopy : Alone ledgerStep (Within [] [client, upstream] [])
      (tryCatch (copy input output loops) fun _ => pure ())
      (fun _ => Within [] [client, upstream] []) fun _ _ => False :=
    TripleE.tryCatch (keeping_uses huses) fun _ => Alone.pure fun _ h => h
  apply TripleE.tryFinally hcopy
  · exact fun _ => releaseBoth_within
  · exact fun _ _ hfalse => hfalse.elim

/-- After the submission the block owes the upstream, and an exception owes the client. -/
theorem relayBothWays_within {config : RelayConfig} {firstPayload : Option Bytes} :
    Alone ledgerStep (Within [upstream] [client] [])
      (relayBothWays config client upstream firstPayload)
      (fun _ => Within [] [] [client]) fun _ => Within [] [client] [] := by
  have hfirst : Alone ledgerStep (Within [upstream] [client] [])
      (writeFirstPayload upstream firstPayload) (fun _ => Within [upstream] [client] [])
      fun _ => Within [] [client] [] := by
    match firstPayload with
    | none | some [] => exact Alone.pure fun _ h => h
    | some (byte :: rest) => exact keeping_call trivial
  have hcopy : Alone ledgerStep (Within [] [client] [])
      (copyDirection config.loops client upstream client upstream)
      (fun _ => Within [] [] [client]) fun _ _ => False := by
    apply copyDirection_within.conseq
    · exact fun _ h => h.weaken (fun _ h => h) (fun _ => List.mem_append_left [upstream])
        fun _ h => h
    · exact fun _ _ h => h.weaken (fun _ h => h) (fun _ h => h)
        fun _ => List.mem_cons_of_mem upstream
    · exact fun _ _ h => h
  apply TripleE.bind hfirst
  intro _
  apply TripleE.bind execute_within
  exact fun _ => hcopy.nothrow

end Copying

/-! ## Sessions -/

section Sessions

variable {config : RelayConfig} {client : SocketId}

theorem Early.keeping {op : RelayOp} (hearly : Early client op) : Keeping op := by
  cases op with
  | newSocket | removeSession => exact hearly
  | _ => trivial

theorem Polling.keeping {op : RelayOp} (hpolling : Polling op) : Keeping op := by
  cases op with
  | newSocket | removeSession => exact hpolling
  | _ => trivial

/-- What a session owes when an exception reaches `handleClient`. -/
abbrev Owing (client : SocketId) : Ledger → Prop := Within [] [client] []

/-- A session that is done with its client. -/
abbrev Parted (client : SocketId) : Ledger → Prop := Within [] [] [client]

/-- An exception before the socket is opened owes the client. -/
theorem unserved_failing {α : Type} {p : RelayM α} (huses : p.run.Uses Keeping) :
    Alone ledgerStep (Unserved client) p (fun _ => Unserved client) fun _ => Owing client :=
  (unserved_uses huses).failure fun _ _ h => h.within

/-- The new socket is held, and the client is owed. -/
theorem newSocket_within :
    Alone ledgerStep (Unserved client) (relayCall .newSocket)
      (fun upstream => Within [upstream] [client] []) fun _ => Owing client := by
  apply Alone.io
  · rintro ledger upstream _ hunserved ⟨effect, rfl, rfl⟩
    have hwithin := hunserved.within
    refine ⟨fun x hx => ?_, hwithin.owes, hwithin.gone, hwithin.strays, hwithin.sweeps⟩
    rcases List.mem_cons.mp hx with rfl | hheld
    · exact List.mem_cons_self
    · exact nomatch hwithin.holds x hheld
  · rintro ledger error _ hunserved ⟨effect, rfl, rfl⟩
    exact hunserved.within.dropped

theorem bindToActiveNetwork_within {upstream : SocketId} :
    Alone ledgerStep (Within [upstream] [client] []) (bindToActiveNetwork upstream)
      (fun _ => Within [upstream] [client] []) fun _ => Owing client := by
  apply TripleE.bind (keeping_call (by trivial))
  intro network
  cases network with
  | none => exact Alone.pure fun _ h => h
  | some network => exact keeping_call (by trivial)

/-- A socket that must not leave the tunnel is closed. -/
theorem unprotected_within {upstream : SocketId} :
    Alone ledgerStep (Within [upstream] [client] []) (relayCall (.close upstream))
      (fun _ => Owing client) fun _ => Owing client := by
  apply Alone.io
  · rintro ledger value _ hwithin ⟨effect, rfl, rfl⟩
    have hkept : Within [upstream] [client] [] (ledger.apply (.closed upstream)) :=
      hwithin.mild trivial
    refine ⟨fun x hx => ?_, hkept.owes, hkept.gone, hkept.strays, hkept.sweeps⟩
    obtain ⟨hheld, hne⟩ := List.mem_filter.mp hx
    simp [List.mem_singleton.mp (hwithin.holds x hheld)] at hne
  · rintro ledger error _ hwithin ⟨effect, rfl, rfl⟩
    have hkept : Within [upstream] [client] [] (ledger.apply (.closed upstream)) :=
      hwithin.mild trivial
    exact hkept.dropped

/-- So it is until it is connected and returned. -/
theorem connectProtected_within {destination : InetSocketAddress} :
    Alone ledgerStep (Unserved client) (connectProtected destination)
      (fun upstream => Within [upstream] [client] []) fun _ => Owing client := by
  apply TripleE.bind newSocket_within
  intro upstream
  apply TripleE.bind (keeping_call (by trivial))
  intro _
  apply TripleE.bind (keeping_call (by trivial))
  intro isProtected
  split
  next =>
    apply TripleE.bind bindToActiveNetwork_within
    intro _
    apply TripleE.bind (keeping_call (by trivial))
    intro _
    apply TripleE.bind (keeping_call (by trivial))
    intro _
    apply TripleE.bind (keeping_call (by trivial))
    intro _
    exact Alone.pure fun _ h => h
  next =>
    apply TripleE.bind unprotected_within
    exact fun _ => Alone.throw fun _ h => h

/-- A connection parts with its client, or an exception owes it. -/
theorem handleConnect_within {original : InetSocketAddress} :
    Alone ledgerStep (Unserved client) (handleConnect config client original)
      (fun _ => Parted client) fun _ => Owing client := by
  unfold handleConnect
  split
  next =>
    apply TripleE.bind connectProtected_within
    intro upstream
    apply TripleE.bind (keeping_call (by trivial))
    intro _
    apply TripleE.bind (keeping_call (by trivial))
    intro bound
    apply TripleE.bind (keeping_call (by trivial))
    exact fun _ => relayBothWays_within
  next =>
    have hcall : ∀ {op : RelayOp}, Keeping op → (relayCall op).run.Uses Keeping :=
      fun hop => Uses.io hop
    have hhello : (readClientHello client []).run.Uses Keeping :=
      (readClientHello_uses []).mono fun _ hop => hop.keeping
    apply TripleE.bind (unserved_failing (hcall (by trivial)))
    intro _
    apply TripleE.bind (unserved_failing (hcall (by trivial)))
    intro _
    apply TripleE.bind (unserved_failing hhello)
    intro firstPayload
    apply TripleE.bind (unserved_failing (hcall (by trivial)))
    intro _
    have htarget := (connectTarget_uses config original firstPayload).mono fun _ hop =>
      (@Lookup.early client _ hop).keeping
    apply TripleE.bind (unserved_failing htarget)
    intro target
    apply TripleE.bind connectProtected_within
    intro upstream
    apply TripleE.bind (keeping_call (by trivial))
    exact fun _ => relayBothWays_within

/-- A refusal parts the session from its client. -/
theorem refuse_within {code : Nat} (hcode : encodeReply code unbound ∈ Sockets.refusals) :
    Alone ledgerStep (Unserved client) (writeReply client code unbound)
      (fun _ => Parted client) fun _ => Owing client := by
  have hwrite : Alone ledgerStep (Unserved client)
      (relayCall (.write client (encodeReply code unbound)))
      (fun _ => Parted client) fun _ => Owing client := by
    apply Alone.io
    · rintro ledger value _ hunserved ⟨effect, heffect, rfl⟩
      obtain ⟨_, rfl⟩ := heffect.resolve_right fun h => h.1 hcode
      have hwithin := hunserved.within
      rw [Ledger.after, Ledger.apply]
      by_cases howed : client ∈ ledger.owes
      · rw [if_pos ⟨hunserved.greeting, howed⟩]
        refine ⟨hwithin.holds, fun x hx => ?_, fun x hx => ?_, hwithin.strays, hwithin.sweeps⟩
        · obtain ⟨hleft, hne⟩ := List.mem_filter.mp hx
          simp [List.mem_singleton.mp (hwithin.owes x hleft)] at hne
        · rw [List.mem_singleton.mp hx]
          exact Or.inr List.mem_cons_self
      · -- the session had closed the client itself
        rw [if_neg fun h => howed h.2]
        refine ⟨hwithin.holds, fun x hx => ?_, fun x hx => ?_, hwithin.strays, hwithin.sweeps⟩
        · exact absurd (List.mem_singleton.mp (hwithin.owes x hx) ▸ hx) howed
        · rw [List.mem_singleton.mp hx]
          exact hunserved.client.resolve_left howed
    · rintro ledger error _ hunserved ⟨effect, rfl, rfl⟩
      exact hunserved.within.dropped
  exact hwrite

/-- The end of an association parts with the client. -/
theorem releaseAssociation_within {relay : SocketId} :
    Alone ledgerStep (Owing client) (releaseAssociation client relay) (fun _ => Parted client)
      fun _ _ => False := by
  have hrelay : Alone ledgerStep (Owing client) (closeQuietly relay)
      (fun _ => Within [] [client] [relay]) fun _ _ => False :=
    closeQuietly_within.conseq (fun _ h => h.weaken (fun _ h => h)
      (fun _ => List.mem_cons_of_mem relay) fun _ h => h) (fun _ _ h => h) fun _ _ h => h
  apply TripleE.bind hrelay
  intro _
  apply TripleE.bind (removeSession_within List.mem_cons_self)
  intro _
  apply closeQuietly_within.post
  exact fun _ _ h => h.weaken (fun _ h => h) (fun _ h => h) fun _ => List.mem_append_left [relay]

/-- An association closes its client whichever way it ends. -/
theorem handleUdpAssociate_within :
    Alone ledgerStep (Unserved client) (handleUdpAssociate config client)
      (fun _ => Parted client) fun _ => Owing client := by
  have hcall : ∀ {op : RelayOp}, Keeping op → Alone ledgerStep (Unserved client) (relayCall op)
      (fun _ => Unserved client) fun _ => Owing client :=
    fun hop => unserved_failing (Uses.io hop)
  have hparted : ∀ ledger, Parted client ledger → Owing client ledger := fun _ h =>
    h.weaken (fun _ h => h) (fun _ h => nomatch h) fun _ h => nomatch h
  apply TripleE.bind (hcall (by trivial))
  intro relay
  have hbind : (bindToActiveNetwork relay).run.Uses Keeping := by
    apply Uses.bindE (Uses.io trivial)
    intro network
    cases network with
    | none => trivial
    | some network => exact Uses.io trivial
  have hloop := (receiveLoop_uses config relay config.loops none).mono fun _ hop => hop.keeping
  apply TripleE.bind (hcall (by trivial))
  intro _
  apply TripleE.bind (hcall (by trivial))
  intro _
  apply TripleE.bind (hcall (by trivial))
  intro isProtected
  split
  next =>
    apply TripleE.bind (unserved_failing hbind)
    intro _
    apply TripleE.bind (hcall (by trivial))
    intro _
    apply TripleE.bind (hcall (by trivial))
    intro _
    apply TripleE.bind (hcall (by trivial))
    intro port
    apply TripleE.bind (hcall (by trivial))
    intro _
    apply TripleE.bind (hcall (by trivial))
    intro _
    apply TripleE.tryFinally (unserved_failing hloop)
    · intro _
      apply releaseAssociation_within.conseq (fun _ h => h.within) (fun _ _ h => h)
      exact fun _ _ h => h.elim
    · exact fun _ => releaseAssociation_within.conseq (fun _ h => h) (fun _ _ h => hparted _ h)
        fun _ _ h => h.elim
  next =>
    apply TripleE.bind (hcall (by trivial))
    exact fun _ => refuse_within (by simp [Sockets.refusals])

/-- When a session ends it is answerable for nothing. -/
theorem handleClient_clear :
    Alone ledgerStep (Unserved client) (handleClient config client) (fun _ => Clear)
      fun _ _ => False := by
  have hrequest : Alone ledgerStep (Unserved client) (do
        negotiate config client
        let request ← readRequest client
        if request.command = COMMAND_CONNECT then
          handleConnect config client request.destination
        else if request.command = COMMAND_UDP_ASSOCIATE then handleUdpAssociate config client
        else writeReply client 7 unbound)
      (fun _ => Parted client) fun _ => Owing client := by
    have hgreeting : ∀ op, Greeting client op → Keeping op := fun _ hop => hop.early.keeping
    apply TripleE.bind (unserved_failing ((negotiate_uses config).mono hgreeting))
    intro _
    apply TripleE.bind (unserved_failing (readRequest_uses.mono hgreeting))
    intro request
    split
    next => exact handleConnect_within
    next =>
      split
      next => exact handleUdpAssociate_within
      next => exact refuse_within (by simp [Sockets.refusals])
  have hremove : Alone ledgerStep (Parted client) (relayCall (.removeSession client))
      (fun _ => Clear) fun _ _ => False :=
    (removeSession_within List.mem_cons_self).post fun _ _ h =>
      h.weaken (fun _ h => h) (fun _ h => h) fun _ h => nomatch h
  have hcaught := TripleE.tryCatch hrequest fun _ => closeQuietly_within
  apply TripleE.tryFinally hcaught
  · exact fun _ => hremove
  · exact fun _ _ hfalse => hfalse.elim

/-- A session begins with a client that is not served. -/
theorem unserved_session : Unserved client (.session client) :=
  ⟨⟨nofun, fun _ h => h, nofun, rfl, rfl⟩, rfl, Or.inl List.mem_cons_self⟩

/-- When a block ends it is answerable for nothing. -/
theorem runTask_clear (loops : Nat) (task : RelayTask) :
    Alone ledgerStep (· = Ledger.block task) (runTask loops task) (fun _ => Clear)
      fun _ _ => False := by
  cases task with
  | upstreamToClient client upstream =>
      apply copyDirection_within.conseq
      · rintro _ rfl
        exact ⟨nofun, fun _ => List.mem_cons_of_mem client, nofun, rfl, rfl⟩
      · exact fun _ _ h => h.weaken (fun _ h => h) (fun _ h => h) fun _ h => nomatch h
      · exact fun _ _ h => h
  | watchControl client relay =>
      have hdrain : Alone ledgerStep (· = Ledger.block (.watchControl client relay))
          (tryCatch (drain client loops) fun _ => pure ()) (fun _ => Clear)
          fun _ _ => False := by
        have huses := (drain_uses client loops).mono fun _ hop => hop.keeping
        have hclear : ∀ ledger, ledger = Ledger.block (.watchControl client relay) →
            Clear ledger := by
          rintro _ rfl
          exact ⟨nofun, nofun, nofun, rfl, rfl⟩
        apply TripleE.tryCatch ((keeping_uses huses).conseq hclear (fun _ _ h => h) fun _ _ h => h)
        exact fun _ => Alone.pure fun _ h => h
      apply TripleE.tryFinally hdrain
      · intro _
        apply closeQuietly_within.conseq
        · exact fun _ h => h.weaken (fun _ h => h) (fun _ h => nomatch h) fun _ h => h
        · exact fun _ _ h => h.weaken (fun _ h => h) (fun _ h => h) fun _ h => nomatch h
        · exact fun _ _ h => h
      · exact fun _ _ hfalse => hfalse.elim

end Sessions

/-! ## The threads of the relay -/

/-- A session's code keeps its ledger in the relay as it does by itself. -/
theorem ofRelay_alone {α : Type} {P : Ledger → Prop} {code : RelayM α} {Q : α → Ledger → Prop}
    {E : Exception → Ledger → Prop} (hcode : Alone ledgerStep P code Q E) :
    Alone serverLedgerStep P (ofRelay code) Q E := by
  intro ledger hledger
  apply Safe.interpret _ (hcode ledger hledger)
  exact fun op after ledger hcall => Safe.perform hcall

section Server

variable {server : SocketId}

/-- A thread that holds a client which it has accepted. -/
def Accepting (client : SocketId) (ledger : Ledger) : Prop :=
  Within [client] [] [] ledger ∧ client ∈ ledger.accepted

/-- An accepted client is the accept loop's own until it is served. -/
theorem accept_accepting :
    Alone serverLedgerStep Clear (serverCall (.accept server)) Accepting fun _ => Clear := by
  apply Alone.io
  · rintro ledger client _ hclear ⟨effect, rfl, rfl⟩
    refine ⟨⟨fun x hx => ?_, hclear.owes, hclear.gone, hclear.strays, hclear.sweeps⟩,
      List.mem_cons_self⟩
    rcases List.mem_cons.mp hx with rfl | hheld
    · exact List.mem_cons_self
    · exact nomatch hclear.holds x hheld
  · rintro ledger error _ hclear ⟨effect, rfl, rfl⟩
    exact hclear.dropped

theorem accepted_mild {ledger : Ledger} {effect : Effect} (hmild : effect.Mild) :
    (ledger.apply effect).accepted = ledger.accepted := by
  cases effect with
  | created socket kind =>
      cases kind with
      | client | upstream => exact hmild.elim
      | server | datagram => rfl
  | removed | served | locked => exact hmild.elim
  | refused socket =>
      rw [Ledger.apply]
      split <;> rfl
  | _ => rfl

/-- Its options may throw, and then it goes astray. -/
theorem accepting_call {client : SocketId} {op : RelayOp} (hop : Keeping op) :
    Alone serverLedgerStep (Accepting client) (serverCall (.relay op))
      (fun _ => Accepting client) fun _ => Clear := by
  apply Alone.io
  · rintro ledger value _ ⟨hwithin, haccepted⟩ ⟨effect, heffect, rfl⟩
    have hmild := hop.mild heffect
    refine ⟨hwithin.after hmild, ?_⟩
    rw [Ledger.after, accepted_mild hmild]
    exact haccepted
  · rintro ledger error _ haccepting ⟨effect, heffect, rfl⟩
    exact (haccepting.1.mild (hop.mild heffect)).dropped

/-- The client is handed to its session, or goes astray. -/
theorem serve_clear {client : SocketId} :
    Alone serverLedgerStep (Accepting client) (serverCall (.serve client)) (fun _ => Clear)
      fun _ => Clear := by
  apply Alone.io
  · rintro ledger value _ ⟨hwithin, haccepted⟩ ⟨effect, rfl, rfl⟩
    rw [Ledger.after, Ledger.apply, if_pos haccepted]
    refine ⟨fun x hx => ?_, hwithin.owes, hwithin.gone, hwithin.strays, hwithin.sweeps⟩
    obtain ⟨hheld, hne⟩ := List.mem_filter.mp hx
    simp [List.mem_singleton.mp (hwithin.holds x hheld)] at hne
  · rintro ledger error _ haccepting ⟨effect, rfl, rfl⟩
    exact haccepting.1.dropped

/-- A turn of the accept loop leaves it with no client. -/
theorem acceptClient_clear :
    Alone serverLedgerStep Clear (acceptClient server) (fun _ => Clear) fun _ => Clear := by
  apply TripleE.bind accept_accepting
  intro client
  apply TripleE.bind (accepting_call (by trivial))
  intro _
  apply TripleE.bind (accepting_call (by trivial))
  exact fun _ => serve_clear

/-- When `acceptLoop` ends it is answerable for nothing. -/
theorem acceptLoop_clear (loops : Nat) :
    Alone serverLedgerStep Clear (acceptLoop server loops) (fun _ => Clear) fun _ => Clear := by
  have hcall : ∀ {op : RelayOp}, Keeping op → Alone serverLedgerStep Clear
      (serverCall (.relay op)) (fun _ => Clear) fun _ => Clear :=
    fun hop => ofRelay_alone (keeping_call hop)
  induction loops with
  | zero =>
      apply TripleE.bind (hcall (by trivial))
      exact fun never => nomatch never
  | succ loops ih =>
      have haccept : Alone serverLedgerStep Clear (do
            acceptClient server
            return true)
          (fun _ => Clear) fun _ => Clear :=
        TripleE.bind acceptClient_clear fun _ => Alone.pure fun _ h => h
      apply TripleE.bind (hcall (by trivial))
      intro closed
      split
      next => exact Alone.pure fun _ h => h
      next =>
        apply TripleE.bind
        · apply TripleE.tryCatch haccept
          intro error
          split
          next => exact Alone.pure fun _ h => h
          next => exact Alone.throw fun _ h => h
        · intro again
          split
          next => exact ih
          next => exact Alone.pure fun _ h => h

/-- The sweep closes all that it has taken. -/
theorem closeAll_clear (sockets : List SocketId) :
    Alone serverLedgerStep (Within [] sockets []) (closeAll sockets) (fun _ => Clear)
      fun _ _ => False := by
  induction sockets with
  | nil => exact Alone.pure fun _ h => h
  | cons socket sockets ih =>
      apply TripleE.bind (ofRelay_alone closeQuietly_within)
      intro _
      apply ih.conseq _ (fun _ _ h => h) fun _ _ h => h
      exact fun _ h => h.weaken (fun _ h => h) (fun _ h => h) fun _ h => nomatch h

/-- When `close` ends it has closed everything that it found in `sessions`. -/
theorem close_clear :
    Alone serverLedgerStep (· = { sweeps := true }) close (fun _ => Clear) fun _ _ => False := by
  have hlock : Alone serverLedgerStep (· = { sweeps := true }) (serverCall .lockSessions)
      (fun sockets => Within [] sockets []) fun _ _ => False := by
    apply Alone.io
    · rintro _ sockets _ rfl ⟨effect, ⟨found, hanswer, rfl⟩, rfl⟩
      cases hanswer
      refine ⟨nofun, fun x hx => ?_, nofun, rfl, rfl⟩
      exact (List.mem_append.mp hx).resolve_right List.not_mem_nil
    · rintro _ error _ _ ⟨effect, ⟨found, hanswer, _⟩, _⟩
      cases hanswer
  have hcall : ∀ op : ServerOp, (∀ answer effect, ServerEffect op answer effect →
      effect.Mild ∧ ∃ value, answer = .ok value) →
      Alone serverLedgerStep Clear (serverCall op) (fun _ => Clear) fun _ _ => False := by
    intro op hop
    apply Alone.io
    · rintro ledger value _ hclear ⟨effect, heffect, rfl⟩
      exact hclear.after (hop _ _ heffect).1
    · rintro ledger error _ hclear ⟨effect, heffect, rfl⟩
      obtain ⟨value, hanswer⟩ := (hop _ _ heffect).2
      cases hanswer
  apply TripleE.bind hlock
  intro sockets
  apply TripleE.bind (closeAll_clear sockets)
  intro _
  apply TripleE.bind (hcall .clearSessions _)
  · intro _
    apply hcall .shutdownNow
    rintro answer effect ⟨hanswer, rfl⟩
    exact ⟨trivial, (), hanswer⟩
  · rintro answer effect ⟨hanswer, rfl⟩
    exact ⟨trivial, (), hanswer⟩

end Server

end AIUnblock.LocalSocksRelay
