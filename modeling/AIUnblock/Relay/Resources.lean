import AIUnblock.Foundation.Threads
import AIUnblock.Relay.Client

/-! # The sockets of a session

Which sockets a session has opened, which are closed and which are in `sessions`,
over every answer that the platform may give and every interleaving with the
blocks that the session submitted.
-/

namespace AIUnblock.LocalSocksRelay

open Prog

/-! ## What the calls do to the sockets -/

/-- The sockets of one session. `watched` records that a block which closes them was
handed to the executor. `exposed` records the two events after which nothing
closes a socket: a call threw while an open socket was not watched, or a refusal
was written to the client. -/
structure Sockets where
  opened : List SocketId
  closed : List SocketId
  registered : List SocketId
  watched : Bool
  exposed : Bool
  deriving DecidableEq, Repr

namespace Sockets

/-- An accepted client: `acceptLoop` has put it into `sessions`. -/
def accepted (client : SocketId) : Sockets where
  opened := []
  closed := []
  registered := [client]
  watched := false
  exposed := false

variable (sockets : Sockets)

def openSocket (socket : SocketId) : Sockets :=
  { sockets with opened := socket :: sockets.opened }

def closeSocket (socket : SocketId) : Sockets :=
  { sockets with closed := socket :: sockets.closed }

def register (socket : SocketId) : Sockets :=
  { sockets with registered := socket :: sockets.registered }

def unregister (socket : SocketId) : Sockets :=
  { sockets with registered := sockets.registered.filter (· ≠ socket) }

def watch : Sockets := { sockets with watched := true }

/-- An open socket that no block watches. -/
def Unguarded : Prop := sockets.watched = false ∧ ∃ socket ∈ sockets.opened, socket ∉ sockets.closed

instance : Decidable sockets.Unguarded := inferInstanceAs (Decidable (_ ∧ _))

/-- A call threw. -/
def threw : Sockets := { sockets with exposed := sockets.exposed || decide sockets.Unguarded }

/-- The replies that end a session without an exception. -/
def refusals : List Bytes := [encodeReply 7 unbound, encodeReply 1 unbound]

/-- Bytes reached a peer. -/
def wrote (client socket : SocketId) (bytes : Bytes) : Sockets :=
  if socket = client ∧ sockets.watched = false ∧ bytes ∈ refusals then
    { sockets with exposed := true }
  else sockets

end Sockets

/-- Closing releases a socket even when it throws. A failed `connect` may have
closed its socket. -/
def socketStep (client : SocketId) : Semantics RelayOp RelayOp.Answer Sockets :=
  fun op sockets answer sockets' =>
    match op, answer with
    | .newSocket, .ok socket | .newDatagramSocket, .ok socket =>
      socket ≠ client ∧ socket ∉ sockets.opened ∧ sockets' = sockets.openSocket socket
    | .close socket, .ok _ => sockets' = sockets.closeSocket socket
    | .close socket, .error _ => sockets' = (sockets.closeSocket socket).threw
    | .connect socket _ _, .error _ =>
      sockets' = sockets.threw ∨ sockets' = (sockets.closeSocket socket).threw
    | .addSession socket, .ok _ => sockets' = sockets.register socket
    | .addSession _, .error _ => False
    | .removeSession socket, .ok _ => sockets' = sockets.unregister socket
    | .removeSession _, .error _ => False
    | .execute _, .ok _ => sockets' = sockets.watch
    | .write socket bytes, .ok _ => sockets' = sockets.wrote client socket bytes
    | .isClosed socket, .ok closed => closed = decide (socket ∈ sockets.closed) ∧ sockets' = sockets
    | .diverge, _ => False
    | _, .ok _ => sockets' = sockets
    | _, .error _ => sockets' = sockets.threw

/-- The thread that a call starts. -/
def relaySpawns (loops : Nat) : (op : RelayOp) → op.Answer → List (Prog RelayOp RelayOp.Answer Unit)
  | .execute task, .ok _ => [(fun _ => ()) <$> (runTask loops task).run]
  | _, _ => []

/-! ## Assertions -/

section Assertions

variable (config : RelayConfig) (client : SocketId)

abbrev RelayPool : Type := Pool RelayOp RelayOp.Answer Sockets

/-- Triples about a session and the blocks that it submitted. -/
abbrev RelayTriple {α : Type} (P : RelayPool → Prop) (p : RelayM α) (Q : α → RelayPool → Prop)
    (E : Exception → RelayPool → Prop) : Prop :=
  TripleE (Pool.semantics (socketStep client) (relaySpawns config.loops))
    (Pool.Background (socketStep client) (relaySpawns config.loops)) P p Q E

/-- No block has been submitted and the sockets are exactly these. -/
abbrev At (sockets : Sockets) : RelayPool → Prop := Pool.Idle (· = sockets)

/-- A socket was left open for good. -/
def Lost (sockets : Sockets) : Prop :=
  sockets.exposed = true ∧ ∃ socket ∈ sockets.opened, socket ≠ client ∧ socket ∉ sockets.closed

/-- Everything the session opened has been released. -/
def Freed (sockets : Sockets) : Prop :=
  sockets.exposed = false ∧
    ∀ socket ∈ sockets.opened, socket ∈ sockets.closed ∧ socket ∉ sockets.registered

/-- How a session stands when an exception reaches `handleClient`. -/
def Failed : Exception → RelayPool → Prop :=
  fun _ => Pool.Idle fun sockets => Lost client sockets ∨ Freed sockets

/-- The client was refused and keeps its socket. -/
def Refused (sockets : Sockets) : Prop := sockets.exposed = true ∧ client ∉ sockets.closed

end Assertions

/-- A block that closes `socket` has been submitted; `closed` and `gone` are what has
been released since. -/
def Watched (socket : SocketId) (closed gone : List SocketId) (sockets : Sockets) : Prop :=
  sockets.watched = true ∧ sockets.exposed = false ∧ sockets.opened = [socket] ∧
    (∀ x ∈ closed, x ∈ sockets.closed) ∧ ∀ x ∈ gone, x ∉ sockets.registered

/-! ## Calls by what they change -/

section Calls

variable {config : RelayConfig} {client : SocketId} {op : RelayOp} {answer : op.Answer}
  {sockets sockets' : Sockets}

/-- Calls that leave the sockets alone unless they throw. -/
def Plain : RelayOp → Prop
  | .read _ _ | .setSoTimeout _ _ | .setOption _ _ | .bind _ _ | .protect _ | .activeNetwork
  | .bindSocket _ _ | .localSocketAddress _ | .localPort _ | .isClosed _ | .receive _
  | .send _ _ _ | .getByName _ | .getAllByName _ _ | .gatewayAddress _ => True
  | _ => False

/-- Calls that open no socket, put none into `sessions` and start nothing. -/
def Calm : RelayOp → Prop
  | .newSocket | .newDatagramSocket | .addSession _ | .execute _ => False
  | _ => True

theorem socketStep_plain (hplain : Plain op)
    (hstep : socketStep client op sockets answer sockets') :
    sockets' = match answer with
      | .ok _ => sockets
      | .error _ => sockets.threw := by
  cases op <;> cases answer <;> first | exact hplain.elim | exact hstep | exact hstep.2

@[simp] theorem threw_of_watched (hwatched : sockets.watched = true) : sockets.threw = sockets := by
  have hnot : ¬ sockets.Unguarded := fun hunguarded => by simp [hunguarded.1] at hwatched
  simp [Sockets.threw, hnot]

/-- Once a block watches the socket, calm calls can only release more. -/
theorem socketStep_calm {socket : SocketId} {closed gone : List SocketId} (hcalm : Calm op)
    (hwatched : Watched socket closed gone sockets)
    (hstep : socketStep client op sockets answer sockets') :
    Watched socket closed gone sockets' := by
  have hclose : ∀ x, Watched socket closed gone (sockets.closeSocket x) := by
    obtain ⟨hwatch, hexposed, hopened, hclosed, hgone⟩ := hwatched
    exact fun x =>
      ⟨hwatch, hexposed, hopened, fun y hy => List.mem_cons_of_mem x (hclosed y hy), hgone⟩
  have hthrew : sockets.threw = sockets := threw_of_watched hwatched.1
  have hclosedThrew : ∀ x, (sockets.closeSocket x).threw = sockets.closeSocket x :=
    fun x => threw_of_watched hwatched.1
  by_cases hplain : Plain op
  · rw [socketStep_plain hplain hstep]
    cases answer with
    | ok value => exact hwatched
    | error error => rwa [hthrew]
  · cases op with
    | close x =>
        cases answer with
        | ok value => exact hstep ▸ hclose x
        | error error => exact (hstep.trans (hclosedThrew x)) ▸ hclose x
    | connect x destination timeoutMillis =>
        cases answer with
        | ok value => exact hstep ▸ hwatched
        | error error =>
            rcases hstep with heq | heq
            · exact (heq.trans hthrew) ▸ hwatched
            · exact (heq.trans (hclosedThrew x)) ▸ hclose x
    | write x bytes =>
        cases answer with
        | ok value =>
            have hsame : sockets.wrote client x bytes = sockets := by
              simp [Sockets.wrote, hwatched.1]
            exact (hstep.trans hsame) ▸ hwatched
        | error error => exact (hstep.trans hthrew) ▸ hwatched
    | removeSession x =>
        cases answer with
        | ok value =>
            obtain ⟨hwatch, hexposed, hopened, hclosed, hgone⟩ := hwatched
            subst hstep
            refine ⟨hwatch, hexposed, hopened, hclosed, fun y hy hmem => hgone y hy ?_⟩
            exact List.mem_of_mem_filter hmem
        | error error => exact hstep.elim
    | diverge => cases answer <;> exact hstep.elim
    | newSocket | newDatagramSocket | addSession | execute => exact hcalm.elim
    | _ => exact absurd trivial hplain

theorem relaySpawns_calm (loops : Nat) (hcalm : Calm op) (answer : op.Answer) :
    relaySpawns loops op answer = [] := by
  cases op <;> first | rfl | exact hcalm.elim

end Calls

/-! ## Rules for the two phases of a session -/

section Rules

variable {config : RelayConfig} {client : SocketId} {α : Type}

/-- Before anything is submitted: one plain call. -/
theorem plain_at {op : RelayOp} {sockets : Sockets} (hplain : Plain op) :
    RelayTriple config client (At sockets) (relayCall op) (fun _ => At sockets)
      fun _ => At sockets.threw := by
  apply Pool.io_idle
  · intro answer
    cases op <;> first | rfl | exact hplain.elim
  · intro s answer s' heq hstep
    subst heq
    have hafter := socketStep_plain hplain hstep
    cases answer with
    | ok value => exact hafter
    | error error => exact hafter

/-- A session that has opened nothing yet loses nothing, whatever it calls. -/
def Early (client : SocketId) : RelayOp → Prop
  | .write socket bytes => socket = client ∧ bytes ∉ Sockets.refusals
  | op => Plain op

theorem threw_accepted : (Sockets.accepted client).threw = .accepted client := by
  simp [Sockets.threw, Sockets.Unguarded, Sockets.accepted]

theorem socketStep_early {op : RelayOp} {answer : op.Answer} {sockets' : Sockets}
    (hearly : Early client op)
    (hstep : socketStep client op (.accepted client) answer sockets') :
    sockets' = .accepted client := by
  by_cases hplain : Plain op
  · rw [socketStep_plain hplain hstep]
    cases answer with
    | ok value => rfl
    | error error => exact threw_accepted
  · cases op with
    | write socket bytes =>
        cases answer with
        | ok value =>
            have hsame :
                (Sockets.accepted client).wrote client socket bytes = .accepted client := by
              simp [Sockets.wrote, hearly.2]
            exact hstep.trans hsame
        | error error => exact hstep.trans threw_accepted
    | _ => exact absurd hearly hplain

theorem early_uses {p : RelayM α} (huses : p.run.Uses (Early client)) :
    RelayTriple config client (At (.accepted client)) p (fun _ => At (.accepted client))
      fun _ => At (.accepted client) := by
  apply TripleE.uses huses (Pool.stable_idle _)
  intro op hearly pool answer pool' hidle hstep
  obtain ⟨heq, hthreads⟩ := hidle
  obtain ⟨hshared, hspawned⟩ := hstep
  have hnone : relaySpawns config.loops op answer = [] := by
    cases op <;> first | rfl | exact hearly.elim
  rw [heq] at hshared
  rw [hthreads, hnone] at hspawned
  exact ⟨socketStep_early hearly hshared, hspawned⟩

variable {socket : SocketId} {closed gone : List SocketId}

/-- The state of a session once a block watches the socket. -/
abbrev Guarded (socket : SocketId) (closed gone : List SocketId) : RelayPool → Prop :=
  Pool.Within Calm (Watched socket closed gone)

theorem stable_guarded :
    Stable (Pool.Background (socketStep client) (relaySpawns config.loops))
      (Guarded socket closed gone) :=
  Pool.stable_within (fun _ hcalm _ _ _ hwatched hstep => socketStep_calm hcalm hwatched hstep)
    fun _ hcalm answer => relaySpawns_calm config.loops hcalm answer

/-- A calm call of the foreground. -/
theorem guarded_step {op : RelayOp} {answer : op.Answer} {pool pool' : RelayPool} (hcalm : Calm op)
    (hguarded : Guarded socket closed gone pool)
    (hstep : Pool.semantics (socketStep client) (relaySpawns config.loops) op pool answer pool') :
    Guarded socket closed gone pool' := by
  obtain ⟨hwatched, hthreads⟩ := hguarded
  obtain ⟨hshared, hspawned⟩ := hstep
  rw [relaySpawns_calm config.loops hcalm, List.append_nil] at hspawned
  refine ⟨socketStep_calm hcalm hwatched hshared, ?_⟩
  rw [hspawned]
  exact hthreads

/-- Once a block watches the socket: any program of calm calls. -/
theorem calm_uses {p : RelayM α} (huses : p.run.Uses Calm) :
    RelayTriple config client (Guarded socket closed gone) p
      (fun _ => Guarded socket closed gone) fun _ => Guarded socket closed gone :=
  TripleE.uses huses stable_guarded fun _ hcalm _ _ _ hguarded hstep =>
    guarded_step hcalm hguarded hstep

theorem guarded_closed {x : SocketId} {pool : RelayPool}
    (hguarded : Guarded socket closed gone pool) (hclosed : x ∈ pool.shared.closed) :
    Guarded socket (x :: closed) gone pool := by
  obtain ⟨⟨hwatch, hexposed, hopened, hall, hgone⟩, hthreads⟩ := hguarded
  exact ⟨⟨hwatch, hexposed, hopened, List.forall_mem_cons.mpr ⟨hclosed, hall⟩, hgone⟩, hthreads⟩

theorem guarded_gone {x : SocketId} {pool : RelayPool} (hguarded : Guarded socket closed gone pool)
    (hgone : x ∉ pool.shared.registered) : Guarded socket closed (x :: gone) pool := by
  obtain ⟨⟨hwatch, hexposed, hopened, hclosed, hall⟩, hthreads⟩ := hguarded
  exact ⟨⟨hwatch, hexposed, hopened, hclosed, List.forall_mem_cons.mpr ⟨hgone, hall⟩⟩, hthreads⟩

/-- Closing a socket on the way out never throws. -/
theorem closeQuietly_guarded {x : SocketId} :
    RelayTriple config client (Guarded socket closed gone) (closeQuietly x)
      (fun _ => Guarded socket (x :: closed) gone) fun _ _ => False := by
  have hcalm : Calm (.close x) := trivial
  have hclose : RelayTriple config client (Guarded socket closed gone) (relayCall (.close x))
      (fun _ => Guarded socket (x :: closed) gone) fun _ => Guarded socket (x :: closed) gone := by
    apply TripleE.io stable_guarded (fun _ => stable_guarded) (fun _ => stable_guarded)
    · intro pool value pool' hguarded hstep
      apply guarded_closed (guarded_step hcalm hguarded hstep)
      rw [show pool'.shared = pool.shared.closeSocket x from hstep.1]
      exact List.mem_cons_self
    · intro pool error pool' hguarded hstep
      apply guarded_closed (guarded_step hcalm hguarded hstep)
      rw [show pool'.shared = (pool.shared.closeSocket x).threw from hstep.1]
      exact List.mem_cons_self
  apply TripleE.tryCatch hclose
  intro error
  exact TripleE.pure stable_guarded fun pool hguarded => hguarded

theorem removeSession_guarded {x : SocketId} :
    RelayTriple config client (Guarded socket closed gone) (relayCall (.removeSession x))
      (fun _ => Guarded socket closed (x :: gone)) fun _ _ => False := by
  have hcalm : Calm (.removeSession x) := trivial
  apply TripleE.io stable_guarded (fun _ => stable_guarded) (fun _ _ _ hfalse _ => hfalse)
  · intro pool value pool' hguarded hstep
    apply guarded_gone (guarded_step hcalm hguarded hstep)
    rw [show pool'.shared = pool.shared.unregister x from hstep.1]
    simp [Sockets.unregister]
  · exact fun pool error pool' hguarded hstep => hstep.1.elim

end Rules

end AIUnblock.LocalSocksRelay
