import AIUnblock.Foundation.Fairness
import AIUnblock.Relay.Client

/-! # The two copy loops of a connection

`relayBothWays` runs one copy loop for each way, over two sockets that both loops
close when they leave. The sockets are byte channels between the endpoints and the
relay. The transition system of the loops is the one that their code produces.
-/

namespace AIUnblock.LocalSocksRelay

open Prog

/-! ## Channels -/

inductive Endpoint
  | client
  | upstream
  deriving DecidableEq, Repr

/-- From the client to the upstream, or back. -/
inductive Way
  | up
  | down
  deriving DecidableEq, Repr

namespace Way

def source : Way → Endpoint
  | up => .client
  | down => .upstream

def sink : Way → Endpoint
  | up => .upstream
  | down => .client

def other : Way → Way
  | up => down
  | down => up

end Way

/-- One way: what its source has sent, whether it has ended its stream, what the
relay has taken from the source's socket and what it has written to the sink's. -/
structure Channel where
  sent : Bytes := []
  ended : Bool := false
  taken : Bytes := []
  delivered : Bytes := []
  deriving DecidableEq, Repr

/-- The source has ended its stream and the sink has got all of it. -/
def Channel.Complete (channel : Channel) : Prop :=
  channel.ended = true ∧ channel.delivered = channel.sent

/-- The sockets of a connection. -/
structure Link where
  channel : Way → Channel
  isOpen : Endpoint → Bool

namespace Link

def fresh : Link where
  channel _ := {}
  isOpen _ := true

def setChannel (link : Link) (way : Way) (channel : Channel) : Link :=
  { link with channel := Function.update link.channel way channel }

def take (link : Link) (way : Way) (chunk : Bytes) : Link :=
  link.setChannel way { link.channel way with taken := (link.channel way).taken ++ chunk }

def deliver (link : Link) (way : Way) (chunk : Bytes) : Link :=
  link.setChannel way { link.channel way with delivered := (link.channel way).delivered ++ chunk }

def send (link : Link) (way : Way) (bytes : Bytes) : Link :=
  link.setChannel way { link.channel way with sent := (link.channel way).sent ++ bytes }

def finish (link : Link) (way : Way) : Link :=
  link.setChannel way { link.channel way with ended := true }

def close (link : Link) (endpoint : Endpoint) : Link :=
  { link with isOpen := Function.update link.isOpen endpoint false }

end Link

/-! ## The loops -/

/-- Where a copy loop stands. -/
inductive Loop
  | reading
  | writing (chunk : Bytes)
  | closingClient
  | closingUpstream
  | unregistering
  | finished
  deriving DecidableEq, Repr

/-- The capacity of the buffer in `copy`. -/
def COPY_BUFFER : Nat := 32 * 1024

/-- One operation of the loop of `way`. No call fails by itself; a call on a socket
that the relay has closed throws. -/
inductive LoopStep (way : Way) : Link × Loop → Link × Loop → Prop
  | read {link chunk rest} (hopen : link.isOpen way.source = true) (hchunk : chunk ≠ [])
      (hfits : chunk.length ≤ COPY_BUFFER)
      (hsent : (link.channel way).sent = (link.channel way).taken ++ chunk ++ rest) :
      LoopStep way (link, .reading) (link.take way chunk, .writing chunk)
  | readEnd {link} (hopen : link.isOpen way.source = true)
      (hended : (link.channel way).ended = true)
      (hall : (link.channel way).taken = (link.channel way).sent) :
      LoopStep way (link, .reading) (link, .closingClient)
  | readClosed {link} (hclosed : link.isOpen way.source = false) :
      LoopStep way (link, .reading) (link, .closingClient)
  | write {link chunk} (hopen : link.isOpen way.sink = true) :
      LoopStep way (link, .writing chunk) (link.deliver way chunk, .reading)
  | writeClosed {link chunk} (hclosed : link.isOpen way.sink = false) :
      LoopStep way (link, .writing chunk) (link, .closingClient)
  | closeClient {link} :
      LoopStep way (link, .closingClient) (link.close .client, .closingUpstream)
  | closeUpstream {link} :
      LoopStep way (link, .closingUpstream) (link.close .upstream, .unregistering)
  | unregister {link} : LoopStep way (link, .unregistering) (link, .finished)

/-! ## The loops are the code -/

section Code

variable (client upstream : SocketId)

def Endpoint.socket : Endpoint → SocketId
  | .client => client
  | .upstream => upstream

/-- What the calls of the loop of `way` do to the channels. -/
inductive LinkStep (way : Way) : Semantics RelayOp RelayOp.Answer Link
  | read {link room rest} (chunk : Chunk room) (hopen : link.isOpen way.source = true)
      (hsent : (link.channel way).sent = (link.channel way).taken ++ chunk.bytes ++ rest) :
      LinkStep way (.read (way.source.socket client upstream) room) link (.ok (some chunk))
        (link.take way chunk.bytes)
  | readEnd {link room} (hopen : link.isOpen way.source = true)
      (hended : (link.channel way).ended = true)
      (hall : (link.channel way).taken = (link.channel way).sent) :
      LinkStep way (.read (way.source.socket client upstream) room) link (.ok none) link
  | readClosed {link room error} (hclosed : link.isOpen way.source = false) :
      LinkStep way (.read (way.source.socket client upstream) room) link (.error error) link
  | write {link bytes} (hopen : link.isOpen way.sink = true) :
      LinkStep way (.write (way.sink.socket client upstream) bytes) link (.ok ())
        (link.deliver way bytes)
  | writeClosed {link bytes error} (hclosed : link.isOpen way.sink = false) :
      LinkStep way (.write (way.sink.socket client upstream) bytes) link (.error error) link
  | close {link socket} (endpoint : Endpoint) (hsocket : endpoint.socket client upstream = socket) :
      LinkStep way (.close socket) link (.ok ()) (link.close endpoint)
  | removeSession {link} : LinkStep way (.removeSession upstream) link (.ok ()) link

/-- What is left of `copyDirection` at each point, with `loops` turns to go. -/
def Loop.program (way : Way) (loops : Nat) :
    Loop → Prog RelayOp RelayOp.Answer (Except Exception Unit)
  | .reading =>
    (copyDirection loops (way.source.socket client upstream) (way.sink.socket client upstream)
      client upstream).run
  | .writing chunk =>
    (Prog.tryFinally
      (tryCatch (do
          relayCall (.write (way.sink.socket client upstream) chunk)
          copy (way.source.socket client upstream) (way.sink.socket client upstream) loops)
        fun _ => pure ())
      (releaseBoth client upstream)).run
  | .closingClient => (Prog.tryFinally (pure ()) (releaseBoth client upstream)).run
  | .closingUpstream =>
    (Prog.tryFinally (pure ()) do
      closeQuietly upstream
      relayCall (.removeSession upstream)).run
  | .unregistering => (Prog.tryFinally (pure ()) (relayCall (.removeSession upstream))).run
  | .finished => .ret (.ok ())

variable {client upstream} {way : Way}

/-- Every transition of a loop is a call of its code. -/
theorem LoopStep.program {state state' : Link × Loop} (hstep : LoopStep way state state')
    (loops : Nat) :
    ∃ op next answer loops', loops ≤ loops' ∧
      state.2.program client upstream way (loops + 1) = .call op next ∧
      LinkStep client upstream way op state.1 answer state'.1 ∧
      next answer = state'.2.program client upstream way loops' := by
  cases hstep with
  | read hopen hchunk hfits hsent =>
      exact ⟨_, _, _, loops, le_refl _, rfl, .read ⟨_, hchunk, hfits⟩ hopen hsent, rfl⟩
  | readEnd hopen hended hall =>
      exact ⟨_, _, _, loops, le_refl _, rfl, .readEnd hopen hended hall, rfl⟩
  | readClosed hclosed =>
      exact ⟨_, _, .error { kind := .socket }, loops, le_refl _, rfl, .readClosed hclosed, rfl⟩
  | write hopen => exact ⟨_, _, _, loops + 1, Nat.le_succ _, rfl, .write hopen, rfl⟩
  | writeClosed hclosed =>
      exact ⟨_, _, .error { kind := .socket }, loops, le_refl _, rfl, .writeClosed hclosed, rfl⟩
  | closeClient => exact ⟨_, _, _, loops, le_refl _, rfl, .close .client rfl, rfl⟩
  | closeUpstream => exact ⟨_, _, _, loops, le_refl _, rfl, .close .upstream rfl, rfl⟩
  | unregister => exact ⟨_, _, _, loops, le_refl _, rfl, .removeSession, rfl⟩

/-- Every call of the code of a loop is one of its transitions. -/
theorem LoopStep.of_program {loop : Loop} {link link' : Link} {loops : Nat} {op : RelayOp}
    {next : op.Answer → Prog RelayOp RelayOp.Answer (Except Exception Unit)} {answer : op.Answer}
    (hprogram : loop.program client upstream way loops = .call op next)
    (hsockets : client ≠ upstream)
    (hstep : LinkStep client upstream way op link answer link') :
    ∃ loop' loops', LoopStep way (link, loop) (link', loop') ∧
      next answer = loop'.program client upstream way loops' := by
  cases loop with
  | reading =>
      cases loops with
      | zero =>
          cases hprogram
          cases hstep
      | succ loops =>
          cases hprogram
          cases hstep with
          | read chunk hopen hsent =>
              exact ⟨.writing chunk.bytes, loops, .read hopen chunk.nonempty chunk.fits hsent, rfl⟩
          | readEnd hopen hended hall =>
              exact ⟨.closingClient, loops, .readEnd hopen hended hall, rfl⟩
          | readClosed hclosed => exact ⟨.closingClient, loops, .readClosed hclosed, rfl⟩
  | writing chunk =>
      cases hprogram
      cases hstep with
      | write hopen => exact ⟨.reading, loops, .write hopen, rfl⟩
      | writeClosed hclosed => exact ⟨.closingClient, loops, .writeClosed hclosed, rfl⟩
  | closingClient =>
      cases hprogram
      cases hstep with
      | close endpoint hsocket =>
          cases endpoint with
          | client => exact ⟨.closingUpstream, loops, .closeClient, rfl⟩
          | upstream => exact absurd hsocket.symm hsockets
  | closingUpstream =>
      cases hprogram
      cases hstep with
      | close endpoint hsocket =>
          cases endpoint with
          | client => exact absurd hsocket hsockets
          | upstream => exact ⟨.unregistering, loops, .closeUpstream, rfl⟩
  | unregistering =>
      cases hprogram
      cases hstep
      exact ⟨.finished, loops, .unregister, rfl⟩
  | finished => cases hprogram

end Code

end AIUnblock.LocalSocksRelay
