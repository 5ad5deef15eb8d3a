import AIUnblock.Foundation.Crew
import AIUnblock.Relay.Resources

/-! # `LocalSocksRelay`: accepting and closing

`acceptLoop` and `close` run next to the sessions and the blocks that these submit. All
of them share the set `sessions`, whose lock `close` holds while it empties it, and the
executor, which takes no task once it is shut down.
-/

namespace AIUnblock.LocalSocksRelay

open Prog

/-- The calls of the relay: those of its sessions, and those of `acceptLoop` and
`close` besides. -/
inductive ServerOp
  | relay (op : RelayOp)
  | accept (server : SocketId)
  /-- `executor.execute { handleClient(client) }`. -/
  | serve (client : SocketId)
  /-- The lock of `sessions` is taken, and `sessions.toList()`. -/
  | lockSessions
  /-- `sessions.clear()`, and the lock is given back. -/
  | clearSessions
  | shutdownNow

namespace ServerOp

abbrev Value : ServerOp → Type
  | .relay op => op.Value
  | .accept _ => SocketId
  | .lockSessions => List SocketId
  | _ => Unit

abbrev Answer (op : ServerOp) : Type := Except Exception op.Value

end ServerOp

abbrev ServerM : Type → Type := ExceptT Exception (Prog ServerOp ServerOp.Answer)

def serverCall (op : ServerOp) : ServerM op.Value := Prog.io op

/-- A call of a session in the relay. -/
def relayBody (op : RelayOp) : Prog ServerOp ServerOp.Answer op.Answer :=
  perform (ServerOp.relay op)

/-- Code of a session in the relay. -/
def ofRelay {α : Type} (code : RelayM α) : ServerM α := ExceptT.mk (code.run.interpret relayBody)

/-! ## The source -/

/-- The body of the `try` block of `acceptLoop`. -/
def acceptClient (server : SocketId) : ServerM Unit := do
  let client ← serverCall (.accept server)
  serverCall (.relay (.setOption client .tcpNoDelay))
  serverCall (.relay (.addSession client))
  serverCall (.serve client)

/-- `acceptLoop`, for at most `loops` turns. A `SocketException` ends it; any other
exception leaves it. -/
def acceptLoop (server : SocketId) : Nat → ServerM Unit
  | 0 => do nomatch ← serverCall (.relay .diverge)
  | loops + 1 => do
    if ← serverCall (.relay (.isClosed server)) then return
    let again ← tryCatch (do
        acceptClient server
        return true)
      fun error => if error.kind = .socket then pure false else throw error
    if again then acceptLoop server loops

/-- `forEach(::closeQuietly)`. -/
def closeAll : List SocketId → ServerM Unit
  | [] => pure ()
  | socket :: sockets => do
    ofRelay (closeQuietly socket)
    closeAll sockets

def close : ServerM Unit := do
  closeAll (← serverCall .lockSessions)
  serverCall .clearSessions
  serverCall .shutdownNow

/-! ## What the calls mean for the sockets -/

inductive SocketKind
  | server
  | client
  | upstream
  | datagram
  deriving DecidableEq, Repr

/-- What a call with its answer means for a socket. -/
inductive Effect
  | nothing
  | created (socket : SocketId) (kind : SocketKind)
  | closed (socket : SocketId)
  | registered (socket : SocketId)
  | removed (socket : SocketId)
  /-- The task that serves the client has been accepted. -/
  | served (client : SocketId)
  /-- The block that closes the upstream socket has been accepted. -/
  | handedOver (upstream : SocketId)
  /-- The bytes of a refusal were written. -/
  | refused (socket : SocketId)
  | locked (sockets : List SocketId)
  | cleared
  | shutDown
  deriving DecidableEq

/-- Closing releases a socket even when it throws. A failed `connect` may have
closed its socket. -/
def RelayEffect : (op : RelayOp) → op.Answer → Effect → Prop
  | .newSocket, .ok socket, effect => effect = .created socket .upstream
  | .newDatagramSocket, .ok socket, effect => effect = .created socket .datagram
  | .close socket, _, effect => effect = .closed socket
  | .connect socket _ _, .error _, effect => effect = .nothing ∨ effect = .closed socket
  | .addSession socket, .ok _, effect => effect = .registered socket
  | .addSession _, .error _, _ => False
  | .removeSession socket, .ok _, effect => effect = .removed socket
  | .removeSession _, .error _, _ => False
  | .execute (.upstreamToClient _ upstream), .ok _, effect => effect = .handedOver upstream
  | .write socket bytes, .ok _, effect =>
    bytes ∈ Sockets.refusals ∧ effect = .refused socket ∨
      bytes ∉ Sockets.refusals ∧ effect = .nothing
  | .diverge, _, _ => False
  | _, _, effect => effect = .nothing

def ServerEffect : (op : ServerOp) → op.Answer → Effect → Prop
  | .relay op, answer, effect => RelayEffect op answer effect
  | .accept _, .ok client, effect => effect = .created client .client
  | .serve client, .ok _, effect => effect = .served client
  | .accept _, .error _, effect | .serve _, .error _, effect => effect = .nothing
  | .lockSessions, answer, effect => ∃ sockets, answer = .ok sockets ∧ effect = .locked sockets
  | .clearSessions, answer, effect => answer = .ok () ∧ effect = .cleared
  | .shutdownNow, answer, effect => answer = .ok () ∧ effect = .shutDown

/-! ## What the threads share -/

structure Hub where
  kind : SocketId → Option SocketKind
  closed : List SocketId
  /-- A `LinkedHashSet`: in the order in which the sockets came. -/
  sessions : List SocketId
  /-- `close` holds the lock of `sessions`. -/
  locked : Bool
  /-- `close` has taken what is in `sessions`. -/
  swept : Bool
  /-- What `close` has taken. -/
  taken : List SocketId
  shut : Bool

namespace Hub

variable (hub : Hub)

def apply : Effect → Hub
  | .created socket kind => { hub with kind := Function.update hub.kind socket (some kind) }
  | .closed socket => { hub with closed := socket :: hub.closed }
  | .registered socket =>
    { hub with
      sessions := if socket ∈ hub.sessions then hub.sessions else hub.sessions ++ [socket] }
  | .removed socket => { hub with sessions := hub.sessions.filter (· ≠ socket) }
  | .locked sockets => { hub with locked := true, swept := true, taken := sockets }
  | .cleared => { hub with sessions := [], locked := false }
  | .shutDown => { hub with shut := true }
  | _ => hub

/-- How the calls of the sessions may be answered. -/
def AllowsRelay : (op : RelayOp) → op.Answer → Prop
  | .newSocket, .ok socket | .newDatagramSocket, .ok socket => hub.kind socket = none
  | .addSession _, _ | .removeSession _, _ => hub.locked = false
  | .execute _, .ok _ => hub.shut = false
  | .isClosed socket, .ok closed => closed = decide (socket ∈ hub.closed)
  | _, _ => True

/-- How the calls may be answered. -/
def Allows : (op : ServerOp) → op.Answer → Prop
  | .relay op, answer => hub.AllowsRelay op answer
  | .accept server, .ok client => server ∉ hub.closed ∧ hub.kind client = none
  | .serve _, .ok _ => hub.shut = false
  | .lockSessions, answer => answer = .ok hub.sessions ∧ hub.locked = false
  | .clearSessions, _ => hub.locked = true
  | _, _ => True

/-- `close` has still to come to the socket. -/
def Awaits (socket : SocketId) : Prop := socket ∈ hub.sessions ∧ hub.swept = false

end Hub

/-! ## What a thread is answerable for -/

/-- The sockets that a thread is answerable for. -/
structure Ledger where
  /-- Sockets that are lost to the thread when a call throws. -/
  holds : List SocketId := []
  /-- Sockets that the thread closes whatever throws. -/
  owes : List SocketId := []
  closed : List SocketId := []
  /-- The clients that it accepted. -/
  accepted : List SocketId := []
  /-- Sockets that it took out of `sessions` and did not close, and sockets that it had
  served without having accepted them. -/
  strays : List SocketId := []
  refused : List SocketId := []
  /-- The client may still be refused: no upstream socket has been opened. -/
  greeting : Bool := false
  /-- The thread has still to take what is in `sessions`. -/
  sweeps : Bool := false
  deriving DecidableEq, Repr

namespace Ledger

variable (ledger : Ledger)

def apply : Effect → Ledger
  | .created socket .client =>
    { ledger with holds := socket :: ledger.holds, accepted := socket :: ledger.accepted }
  | .created socket .upstream =>
    { ledger with holds := socket :: ledger.holds, greeting := false }
  | .closed socket =>
    { ledger with
      holds := ledger.holds.filter (· ≠ socket)
      owes := ledger.owes.filter (· ≠ socket)
      closed := socket :: ledger.closed }
  | .removed socket =>
    if socket ∈ ledger.closed ∨ socket ∈ ledger.owes ∨ socket ∈ ledger.refused then ledger
    else { ledger with strays := socket :: ledger.strays }
  | .served client =>
    if client ∈ ledger.accepted then { ledger with holds := ledger.holds.filter (· ≠ client) }
    else { ledger with strays := client :: ledger.strays }
  | .handedOver upstream => { ledger with holds := ledger.holds.filter (· ≠ upstream) }
  | .refused socket =>
    if ledger.greeting ∧ socket ∈ ledger.owes then
      { ledger with
        owes := ledger.owes.filter (· ≠ socket)
        refused := socket :: ledger.refused }
    else ledger
  | .locked sockets =>
    { ledger with owes := sockets ++ ledger.owes, greeting := false, sweeps := false }
  | _ => ledger

/-- The ledger after a call. -/
def after {α : Type} (effect : Effect) : Except Exception α → Ledger
  | .ok _ => ledger.apply effect
  | .error _ => { ledger.apply effect with holds := [] }

/-- A session closes its client. -/
def session (client : SocketId) : Ledger where
  owes := [client]
  greeting := true

/-- What the block of a task closes. -/
def block : RelayTask → Ledger
  | .upstreamToClient _ upstream => { owes := [upstream] }
  | .watchControl _ _ => {}

end Ledger

/-! ## The relay -/

abbrev ServerThread : Type :=
  Prog.Thread ServerOp ServerOp.Answer (Except Exception Unit) Ledger

abbrev ServerCrew : Type := Crew ServerOp ServerOp.Answer (Except Exception Unit) Hub Ledger

def serverAct : Crew.Act ServerOp ServerOp.Answer Hub Ledger :=
  fun op before answer after => ∃ effect, ServerEffect op answer effect ∧
    before.1.Allows op answer ∧
    after = (before.1.apply effect, before.2.after effect answer)

/-- The thread that a call starts. -/
def serverSpawns (config : RelayConfig) : (op : ServerOp) → op.Answer → List ServerThread
  | .serve client, .ok _ => [⟨(ofRelay (handleClient config client)).run, .session client⟩]
  | .relay (.execute task), .ok _ =>
    [⟨(ofRelay (runTask config.loops task)).run, .block task⟩]
  | _, _ => []

/-- One step of one of the threads of the relay. -/
abbrev ServerStep (config : RelayConfig) : ServerCrew → ServerCrew → Prop :=
  Crew.Step serverAct (serverSpawns config)

/-- The relay after `start`; somebody closes it at any time. -/
def started (config : RelayConfig) (server : SocketId) : ServerCrew where
  shared :=
    { kind := Function.update (fun _ => none) server (some .server)
      closed := []
      sessions := [server]
      locked := false
      swept := false
      taken := []
      shut := false }
  threads := [⟨(acceptLoop server config.loops).run, {}⟩, ⟨close.run, { sweeps := true }⟩]

end AIUnblock.LocalSocksRelay
