import AIUnblock.Foundation.Threads
import AIUnblock.Relay.Calls

/-! # From the client to the upstream

On port 443 the relay reads the first bytes of a client before it knows where to
connect, writes them to the upstream and copies the rest. Nothing is lost or
repeated where the copy loop takes over.
-/

namespace AIUnblock.LocalSocksRelay

open Prog

/-! ## The way up -/

/-- What the client will still send and what the upstream has got. `connected` and
`rejected` record how `connect` and `execute` ended, `overrun` that a loop of the
session used up its turns. -/
structure Passage where
  input : Bytes
  armed : Bool
  upstream : Option SocketId
  connected : Bool
  rejected : Bool
  written : Bytes
  overrun : Bool
  deriving DecidableEq

/-- A client that will send `stream`. -/
def Passage.begun (stream : Bytes) : Passage where
  input := stream
  armed := false
  upstream := none
  connected := false
  rejected := false
  written := []
  overrun := false

/-- Reads of the client take any chunk of what it sends and may time out while a
timeout is set. The upstream stays open and accepts every write. Nothing is known
about the other calls. -/
def passageStep (client : SocketId) : Semantics RelayOp RelayOp.Answer Passage :=
  fun op passage answer passage' =>
    match op, answer with
    | .read socket _, .ok (some chunk) =>
      if socket = client then
        passage.input = chunk.bytes ++ passage'.input ∧
          passage' = { passage with input := passage'.input }
      else passage' = passage
    | .read socket _, .ok none => (socket = client → passage.input = []) ∧ passage' = passage
    | .read socket _, .error error =>
      (socket = client → passage.armed = true ∧ error.kind = .socketTimeout) ∧ passage' = passage
    | .setSoTimeout socket millis, .ok _ =>
      passage' = if socket = client then { passage with armed := decide (millis ≠ 0) } else passage
    | .newSocket, .ok socket =>
      socket ≠ client ∧ passage' = { passage with upstream := some socket }
    | .connect _ _ _, .ok _ => passage' = { passage with connected := true }
    | .write socket bytes, answer =>
      if passage.upstream = some socket then
        answer = .ok () ∧ passage' = { passage with written := passage.written ++ bytes }
      else passage' = passage
    | .execute _, .error _ => passage' = { passage with rejected := true }
    | .addSession _, .error _ | .removeSession _, .error _ => False
    | .diverge, _ => passage' = { passage with overrun := true }
    | _, _ => passage' = passage

/-- A block that uses up its turns never returns. -/
def blockStep (client : SocketId) : Semantics RelayOp RelayOp.Answer Passage :=
  fun op passage answer passage' => op ≠ .diverge ∧ passageStep client op passage answer passage'

section Rules

variable {config : RelayConfig} {client upstream : SocketId} {passage passage' : Passage} {α : Type}

abbrev PassagePool : Type := Pool RelayOp RelayOp.Answer Passage

/-- Triples about a session and the block that it submits. -/
abbrev PassageTriple (config : RelayConfig) (client : SocketId) {α : Type}
    (P : PassagePool → Prop) (p : RelayM α) (Q : α → PassagePool → Prop)
    (E : Exception → PassagePool → Prop) : Prop :=
  TripleE (Pool.semantics (passageStep client) (relaySpawns config.loops))
    (Pool.Background (blockStep client) (relaySpawns config.loops)) P p Q E

/-- No block has been submitted and the passage is exactly this. -/
abbrev Passing (passage : Passage) : PassagePool → Prop := Pool.Idle (· = passage)

/-- The session has ended without a connection, or its block was rejected. -/
def Undone (passage : Passage) : Prop :=
  passage.overrun = false ∧ (passage.connected = true → passage.rejected = true)

abbrev Abandoned : Exception → PassagePool → Prop := fun _ => Pool.Idle Undone

/-- Calls that leave a passage alone. -/
def Inert : RelayOp → Prop
  | .setOption _ _ | .bind _ _ | .protect _ | .activeNetwork | .bindSocket _ _ | .close _
  | .getByName _ | .getAllByName _ _ | .gatewayAddress _ | .removeSession _ | .addSession _ => True
  | _ => False

/-- A lookup does not touch the streams. -/
theorem Lookup.inert {op : RelayOp} (hlookup : Lookup op) : Inert op := by
  cases op <;> trivial

/-- Nor does any inert call. -/
theorem passageStep_inert {op : RelayOp} {answer : op.Answer} (hinert : Inert op)
    (hstep : passageStep client op passage answer passage') : passage' = passage := by
  cases op <;> cases answer <;> first | exact hinert.elim | exact hstep | exact hstep.elim

/-- And none starts a block. -/
theorem relaySpawns_inert {op : RelayOp} (hinert : Inert op) (answer : op.Answer) :
    relaySpawns config.loops op answer = [] := by
  cases op <;> first | rfl | exact hinert.elim

/-- Before a block is submitted: any program of inert calls. -/
theorem inert_passing {p : RelayM α} (huses : p.run.Uses Inert) (hundone : Undone passage) :
    PassageTriple config client (Passing passage) p (fun _ => Passing passage) Abandoned := by
  have hkeeps : PassageTriple config client (Passing passage) p (fun _ => Passing passage)
      fun _ => Passing passage := by
    apply TripleE.uses huses (Pool.stable_idle _)
    intro op hinert pool answer pool' hidle hstep
    obtain ⟨heq, hthreads⟩ := hidle
    obtain ⟨hshared, hspawned⟩ := hstep
    rw [heq] at hshared
    rw [hthreads, relaySpawns_inert hinert] at hspawned
    exact ⟨passageStep_inert hinert hshared, hspawned⟩
  exact hkeeps.failure fun _ _ hidle => ⟨hidle.1 ▸ hundone, hidle.2⟩

/-- A triple for each of the states. -/
theorem passing_each {P : Passage → Prop} {p : RelayM α} {Q : α → PassagePool → Prop}
    {E : Exception → PassagePool → Prop}
    (htriple : ∀ passage, P passage → PassageTriple config client (Passing passage) p Q E) :
    PassageTriple config client (Pool.Idle P) p Q E :=
  fun pool hidle => htriple pool.shared hidle.1 pool ⟨rfl, hidle.2⟩

/-- A call of the session before a block is submitted. -/
theorem passing_io {op : RelayOp} {Q : op.Value → Passage → Prop}
    (hspawns : ∀ answer, relaySpawns config.loops op answer = [])
    (hok : ∀ value passage', passageStep client op passage (.ok value) passage' → Q value passage')
    (herror : ∀ error passage', passageStep client op passage (.error error) passage' →
      Undone passage') :
    PassageTriple config client (Passing passage) (relayCall op) (fun value => Pool.Idle (Q value))
      Abandoned := by
  apply Pool.io_idle hspawns
  rintro _ (error | value) passage' rfl hstep
  · exact herror error passage' hstep
  · exact hok value passage' hstep

/-! ## Before there is a connection -/

/-- A client without a connection, of whose stream `payload` has been read. -/
structure Holding (stream payload : Bytes) (passage : Passage) : Prop where
  split : payload ++ passage.input = stream
  upstream : passage.upstream = none
  connected : passage.connected = false
  written : passage.written = []
  overrun : passage.overrun = false

/-- While the hello is read there is no upstream socket. -/
theorem Holding.undone {stream payload : Bytes} (hholding : Holding stream payload passage) :
    Undone passage :=
  ⟨hholding.overrun, fun hconnected => by rw [hholding.connected] at hconnected; contradiction⟩

/-- What has been read after one more read. -/
def afterRead (buffer : Bytes) {room : Nat} : Option (Chunk room) → Bytes
  | none => buffer
  | some chunk => buffer ++ chunk.bytes

/-- A read takes the next bytes of the stream, or a timeout none. -/
theorem readOrTimeout_holding {stream buffer : Bytes} {room : Nat} :
    PassageTriple config client (Pool.Idle (Holding stream buffer)) (readOrTimeout client room)
      (fun read => Pool.Idle (Holding stream (afterRead buffer read))) Abandoned := by
  have hread : PassageTriple config client (Pool.Idle (Holding stream buffer))
      (relayCall (.read client room))
      (fun read => Pool.Idle (Holding stream (afterRead buffer read)))
      (fun error => Pool.Idle fun passage =>
        error.kind = .socketTimeout ∧ Holding stream buffer passage) := by
    apply Pool.io_idle fun _ => rfl
    rintro passage (error | _ | chunk) passage' hholding hstep
    · obtain ⟨htimeout, rfl⟩ := hstep
      exact ⟨(htimeout rfl).2, hholding⟩
    · obtain ⟨_, rfl⟩ := hstep
      exact hholding
    · rw [passageStep, if_pos rfl] at hstep
      obtain ⟨hinput, hpassage⟩ := hstep
      rw [hpassage]
      refine ⟨?_, hholding.upstream, hholding.connected, hholding.written, hholding.overrun⟩
      rw [← hholding.split, hinput]
      exact List.append_assoc buffer chunk.bytes passage'.input
  apply TripleE.tryCatch hread
  intro error
  split
  next => exact TripleE.pure (Pool.stable_idle _) fun _ hidle => ⟨hidle.1.2, hidle.2⟩
  next hother =>
    exact TripleE.throw (Pool.stable_idle _) fun _ hidle => absurd hidle.1.1 hother

/-- The peeking loop holds exactly what it has read, whatever the parser answers. -/
theorem readClientHello_holding {stream : Bytes} (buffer : Bytes) :
    PassageTriple config client (Pool.Idle (Holding stream buffer)) (readClientHello client buffer)
      (fun payload => Pool.Idle (Holding stream payload)) Abandoned := by
  induction hroom : MAX_CLIENT_HELLO - buffer.length using Nat.strong_induction_on
    generalizing buffer with
  | _ room ih =>
    have hstay : ∀ payload, PassageTriple config client (Pool.Idle (Holding stream payload))
        (pure payload) (fun payload => Pool.Idle (Holding stream payload)) Abandoned :=
      fun payload => TripleE.pure (Pool.stable_idle _) fun _ hidle => hidle
    rw [readClientHello]
    split
    next hlt =>
      apply TripleE.bind readOrTimeout_holding
      intro read
      cases read with
      | none => exact hstay buffer
      | some chunk =>
          have hpos := List.length_pos_iff.mpr chunk.nonempty
          dsimp only
          cases TlsClientHello.parse (buffer ++ chunk.bytes) with
          | error error =>
              exact TripleE.throw (Pool.stable_idle _) fun _ hidle => ⟨hidle.1.undone, hidle.2⟩
          | ok parsed =>
              rw [lift_ok_bind]
              split
              next =>
                exact ih _ (by rw [← hroom, List.length_append]; omega) (buffer ++ chunk.bytes) rfl
              next => exact hstay _
    next => exact hstay buffer

/-- The timeout is armed and disarmed by the session itself. -/
theorem setSoTimeout_holding {stream payload : Bytes} (millis : Nat) :
    PassageTriple config client (Pool.Idle (Holding stream payload))
      (relayCall (.setSoTimeout client millis))
      (fun _ => Pool.Idle fun passage =>
        Holding stream payload passage ∧ passage.armed = decide (millis ≠ 0)) Abandoned := by
  apply Pool.io_idle fun _ => rfl
  rintro passage (error | value) passage' hholding hstep
  · obtain rfl : passage' = passage := hstep
    exact hholding.undone
  · rw [passageStep, if_pos rfl] at hstep
    subst hstep
    exact ⟨⟨hholding.split, hholding.upstream, hholding.connected, hholding.written,
      hholding.overrun⟩, rfl⟩

/-! ## Connecting -/

/-- The new socket is the upstream. -/
theorem newSocket_passing (hundone : Undone passage) :
    PassageTriple config client (Passing passage) (relayCall .newSocket)
      (fun socket => Pool.Idle fun passage' =>
        socket ≠ client ∧ passage' = { passage with upstream := some socket }) Abandoned := by
  apply passing_io fun _ => rfl
  · exact fun socket passage' hstep => hstep
  · intro error passage' hstep
    obtain rfl : passage' = passage := hstep
    exact hundone

theorem connect_passing {socket : SocketId} {destination : InetSocketAddress} {timeout : Nat}
    (hundone : Undone passage) :
    PassageTriple config client (Passing passage) (relayCall (.connect socket destination timeout))
      (fun _ => Passing { passage with connected := true }) Abandoned := by
  apply passing_io fun _ => rfl
  · exact fun _ passage' hstep => hstep
  · intro error passage' hstep
    obtain rfl : passage' = passage := hstep
    exact hundone

/-- `connectProtected` returns the upstream, connected. -/
theorem connectProtected_passing {destination : InetSocketAddress} (hundone : Undone passage) :
    PassageTriple config client (Passing passage) (connectProtected destination)
      (fun socket => Pool.Idle fun passage' => socket ≠ client ∧
        passage' = { passage with upstream := some socket, connected := true }) Abandoned := by
  apply TripleE.bind (newSocket_passing hundone)
  intro socket
  apply passing_each
  rintro _ ⟨hne, rfl⟩
  have hopened : Undone { passage with upstream := some socket } := hundone
  have hcall : ∀ op : RelayOp, Inert op →
      PassageTriple config client (Passing { passage with upstream := some socket })
        (relayCall op) (fun _ => Passing { passage with upstream := some socket }) Abandoned :=
    fun op hinert => inert_passing (Uses.io hinert) hopened
  apply TripleE.bind (hcall _ (by trivial))
  intro _
  apply TripleE.bind (hcall _ (by trivial))
  intro isProtected
  split
  next =>
    have hnetwork : (bindToActiveNetwork socket).run.Uses Inert := by
      apply Uses.bindE (Uses.io trivial)
      intro network
      cases network with
      | none => trivial
      | some network => exact Uses.io trivial
    apply TripleE.bind (inert_passing hnetwork hopened)
    intro _
    apply TripleE.bind (hcall _ (by trivial))
    intro _
    apply TripleE.bind (hcall _ (by trivial))
    intro _
    apply TripleE.bind (connect_passing hopened)
    intro _
    exact TripleE.pure (Pool.stable_idle _) fun _ hidle => ⟨⟨hne, hidle.1⟩, hidle.2⟩
  next =>
    apply TripleE.bind (hcall _ (by trivial))
    intro _
    exact TripleE.throw (Pool.stable_idle _) fun _ hidle => ⟨hidle.1 ▸ hopened, hidle.2⟩

/-! ## Copying the rest -/

/-- The calls of the block that copies the other way. -/
def Block (client upstream : SocketId) : RelayOp → Prop
  | .read socket _ => socket ≠ client
  | .write socket _ => socket ≠ upstream
  | .close _ | .removeSession _ | .diverge => True
  | _ => False

/-- The block has been submitted. -/
abbrev Streaming (client upstream : SocketId) (P : Passage → Prop) : PassagePool → Prop :=
  Pool.Within (Block client upstream) fun passage => passage.upstream = some upstream ∧ P passage

/-- The submitted block does not touch the way from the client. -/
theorem passageStep_block {op : RelayOp} {answer : op.Answer} (hblock : Block client upstream op)
    (hne : op ≠ .diverge) (hupstream : passage.upstream = some upstream)
    (hstep : passageStep client op passage answer passage') : passage' = passage := by
  cases op with
  | read socket room =>
      rcases answer with error | _ | chunk
      · exact hstep.2
      · exact hstep.2
      · rwa [passageStep, if_neg hblock] at hstep
  | write socket bytes =>
      have hother : passage.upstream ≠ some socket := by
        rw [hupstream]
        exact fun heq => hblock (Option.some.inj heq).symm
      rwa [passageStep, if_neg hother] at hstep
  | diverge => exact absurd rfl hne
  | close socket => cases answer <;> exact hstep
  | removeSession socket =>
      cases answer with
      | ok value => exact hstep
      | error error => exact hstep.elim
  | _ => exact hblock.elim

theorem relaySpawns_block {op : RelayOp} (hblock : Block client upstream op)
    (answer : op.Answer) : relaySpawns config.loops op answer = [] := by
  cases op <;> first | rfl | exact hblock.elim

/-- The block changes nothing on the way up. -/
theorem stable_streaming {P : Passage → Prop} :
    Stable (Pool.Background (blockStep client) (relaySpawns config.loops))
      (Streaming client upstream P) := by
  apply Pool.stable_within
  · intro op hblock passage answer passage' hpassage hstep
    rwa [passageStep_block hblock hstep.1 hpassage.1 hstep.2]
  · exact fun op hblock answer => relaySpawns_block hblock answer

/-- A call of the session while the block runs. -/
theorem streaming_io {op : RelayOp} {P : Passage → Prop} {Q : op.Value → Passage → Prop}
    {E : Exception → Passage → Prop} (hspawns : ∀ answer, relaySpawns config.loops op answer = [])
    (hcall : ∀ passage answer passage', passage.upstream = some upstream → P passage →
      passageStep client op passage answer passage' →
      passage'.upstream = some upstream ∧ Ends Q E answer passage') :
    PassageTriple config client (Streaming client upstream P) (relayCall op)
      (fun value => Streaming client upstream (Q value))
      fun error => Streaming client upstream (E error) := by
  have hend : ∀ pool (answer : op.Answer) pool', Streaming client upstream P pool →
      Pool.semantics (passageStep client) (relaySpawns config.loops) op pool answer pool' →
      Streaming client upstream (Ends Q E answer) pool' := by
    rintro pool answer pool' ⟨⟨hupstream, hP⟩, hthreads⟩ ⟨hshared, hspawned⟩
    rw [hspawns answer, List.append_nil] at hspawned
    exact ⟨hcall _ answer _ hupstream hP hshared, hspawned ▸ hthreads⟩
  apply TripleE.io stable_streaming (fun _ => stable_streaming) fun _ => stable_streaming
  · exact fun pool value pool' hstreaming hstep => hend pool (.ok value) pool' hstreaming hstep
  · exact fun pool error pool' hstreaming hstep => hend pool (.error error) pool' hstreaming hstep

/-- A call that does not throw. -/
theorem streaming_returns {op : RelayOp} {P : Passage → Prop} {Q : op.Value → Passage → Prop}
    (hspawns : ∀ answer, relaySpawns config.loops op answer = [])
    (hcall : ∀ passage answer passage', passage.upstream = some upstream → P passage →
      passageStep client op passage answer passage' →
      passage'.upstream = some upstream ∧ Ends Q (fun _ _ => False) answer passage') :
    PassageTriple config client (Streaming client upstream P) (relayCall op)
      (fun value => Streaming client upstream (Q value)) fun _ _ => False :=
  (streaming_io hspawns hcall).failure fun _ _ hstreaming => hstreaming.1.2

/-- A connected client of whose stream `pending` has been read and not yet written. -/
structure Copying (stream pending : Bytes) (passage : Passage) : Prop where
  split : passage.written ++ (pending ++ passage.input) = stream
  armed : passage.armed = false
  overrun : passage.overrun = false

/-- What the copy loop knows after a read, with `loops` reads left. -/
def AfterRead (stream : Bytes) (loops : Nat) : Option (Chunk (32 * 1024)) → Passage → Prop
  | none, passage => Copying stream [] passage ∧ passage.input = []
  | some chunk, passage => Copying stream chunk.bytes passage ∧ passage.input.length < loops

/-- The copy loop ends when the client does, and everything has been written by then. -/
theorem copy_streaming {stream : Bytes} {loops : Nat} :
    PassageTriple config client
      (Streaming client upstream fun passage =>
        Copying stream [] passage ∧ passage.input.length < loops)
      (copy client upstream loops)
      (fun _ => Streaming client upstream fun passage =>
        Copying stream [] passage ∧ passage.input = [])
      fun _ _ => False := by
  induction loops with
  | zero => exact fun pool hstreaming => absurd hstreaming.1.2.2 (Nat.not_lt_zero _)
  | succ loops ih =>
      have hread : PassageTriple config client
          (Streaming client upstream fun passage =>
            Copying stream [] passage ∧ passage.input.length < loops + 1)
          (relayCall (.read client (32 * 1024)))
          (fun read => Streaming client upstream (AfterRead stream loops read))
          fun _ _ => False := by
        apply streaming_returns fun _ => rfl
        rintro passage (error | _ | chunk) passage' hupstream ⟨hcopying, hlength⟩ hstep
        · -- the timeout is no longer set
          have harmed := (hstep.1 rfl).1
          rw [hcopying.armed] at harmed
          contradiction
        · obtain ⟨hempty, rfl⟩ := hstep
          exact ⟨hupstream, hcopying, hempty rfl⟩
        · rw [passageStep, if_pos rfl] at hstep
          obtain ⟨hinput, hpassage⟩ := hstep
          have hpos := List.length_pos_iff.mpr chunk.nonempty
          have hsplit := hcopying.split
          rw [hinput, List.length_append] at hlength
          rw [hinput] at hsplit
          rw [hpassage]
          exact ⟨hupstream, ⟨hsplit, hcopying.armed, hcopying.overrun⟩, by dsimp only; omega⟩
      have hwrite : ∀ bytes, PassageTriple config client
          (Streaming client upstream fun passage =>
            Copying stream bytes passage ∧ passage.input.length < loops)
          (relayCall (.write upstream bytes))
          (fun _ => Streaming client upstream fun passage =>
            Copying stream [] passage ∧ passage.input.length < loops)
          fun _ _ => False := by
        intro bytes
        apply streaming_returns fun _ => rfl
        rintro passage answer passage' hupstream ⟨hcopying, hlength⟩ hstep
        rw [passageStep, if_pos hupstream] at hstep
        obtain ⟨rfl, rfl⟩ := hstep
        refine ⟨hupstream, ⟨?_, hcopying.armed, hcopying.overrun⟩, hlength⟩
        rw [List.nil_append, ← hcopying.split]
        exact List.append_assoc passage.written bytes passage.input
      rw [copy]
      apply TripleE.bind hread
      intro read
      cases read with
      | none => exact TripleE.pure stable_streaming fun _ hstreaming => hstreaming
      | some chunk =>
          apply TripleE.bind (hwrite chunk.bytes)
          exact fun _ => ih

/-- All of the stream has been read and written. -/
structure Relayed (stream : Bytes) (passage : Passage) : Prop where
  written : passage.written = stream
  input : passage.input = []
  overrun : passage.overrun = false

/-- Closing does not undo what was written. -/
theorem closeQuietly_streaming {P : Passage → Prop} (socket : SocketId) :
    PassageTriple config client (Streaming client upstream P) (closeQuietly socket)
      (fun _ => Streaming client upstream P) fun _ _ => False := by
  have hclose : PassageTriple config client (Streaming client upstream P)
      (relayCall (.close socket)) (fun _ => Streaming client upstream P)
      fun _ => Streaming client upstream P := by
    apply streaming_io fun _ => rfl
    rintro passage (error | value) passage' hupstream hP hstep
    · obtain rfl : passage' = passage := hstep
      exact ⟨hupstream, hP⟩
    · obtain rfl : passage' = passage := hstep
      exact ⟨hupstream, hP⟩
  apply TripleE.tryCatch hclose
  exact fun _ => TripleE.pure stable_streaming fun _ hstreaming => hstreaming

/-- Nor does the end of a copy loop. -/
theorem releaseBoth_streaming {P : Passage → Prop} :
    PassageTriple config client (Streaming client upstream P) (releaseBoth client upstream)
      (fun _ => Streaming client upstream P) fun _ _ => False := by
  apply TripleE.bind (closeQuietly_streaming client)
  intro _
  apply TripleE.bind (closeQuietly_streaming upstream)
  intro _
  apply streaming_returns fun _ => rfl
  rintro passage (error | value) passage' hupstream hP hstep
  · exact hstep.elim
  · obtain rfl : passage' = passage := hstep
    exact ⟨hupstream, hP⟩

/-- The copy loop relays all of the stream, or a prefix of it. -/
theorem copyDirection_streaming {stream : Bytes} {loops : Nat} :
    PassageTriple config client
      (Streaming client upstream fun passage =>
        Copying stream [] passage ∧ passage.input.length < loops)
      (copyDirection loops client upstream client upstream)
      (fun _ => Streaming client upstream (Relayed stream)) fun _ _ => False := by
  have hcopy : PassageTriple config client
      (Streaming client upstream fun passage =>
        Copying stream [] passage ∧ passage.input.length < loops)
      (tryCatch (copy client upstream loops) fun _ => pure ())
      (fun _ => Streaming client upstream (Relayed stream)) fun _ _ => False := by
    apply TripleE.tryCatch
    · apply copy_streaming.post
      rintro _ pool ⟨⟨hupstream, hcopying, hinput⟩, hthreads⟩
      have hsplit := hcopying.split
      rw [hinput, List.append_nil, List.append_nil] at hsplit
      exact ⟨⟨hupstream, hsplit, hinput, hcopying.overrun⟩, hthreads⟩
    · exact fun _ _ hfalse => hfalse.elim
  apply TripleE.tryFinally hcopy
  · exact fun _ => releaseBoth_streaming
  · exact fun _ _ hfalse => hfalse.elim

/-! ## The hand-over -/

/-- The first payload is written as it was read. -/
theorem writeFirstPayload_passing {payload : Bytes} (hupstream : passage.upstream = some upstream)
    (hwritten : passage.written = []) :
    PassageTriple config client (Passing passage) (writeFirstPayload upstream (some payload))
      (fun _ => Passing { passage with written := payload }) Abandoned := by
  cases payload with
  | nil =>
      have hsame : { passage with written := [] } = passage := by rw [← hwritten]
      rw [hsame]
      exact TripleE.pure (Pool.stable_idle _) fun _ hidle => hidle
  | cons byte rest =>
      apply passing_io fun _ => rfl
      · intro _ passage' hstep
        rw [passageStep, if_pos hupstream, hwritten] at hstep
        exact hstep.2
      · intro error passage' hstep
        rw [passageStep, if_pos hupstream] at hstep
        exact absurd hstep.1 nofun

/-- The block either runs or was rejected. -/
theorem execute_passing {stream : Bytes} (hcopying : Copying stream [] passage)
    (hne : upstream ≠ client) (hupstream : passage.upstream = some upstream) :
    PassageTriple config client (Passing passage)
      (relayCall (.execute (.upstreamToClient client upstream)))
      (fun _ => Streaming client upstream (· = passage)) Abandoned := by
  have hblock : (runTask config.loops (.upstreamToClient client upstream)).run.Uses
      (Block client upstream) :=
    copyDirection_uses (fun _ _ => hne) (fun _ => hne.symm) trivial (fun _ => trivial) trivial _
  apply TripleE.io (Pool.stable_idle _) (fun _ => stable_streaming) fun _ => Pool.stable_idle _
  · rintro pool value pool' ⟨hbefore, hthreads⟩ ⟨hshared, hspawned⟩
    have hsame : pool'.shared = pool.shared := hshared
    rw [hthreads, List.nil_append] at hspawned
    refine ⟨?_, fun thread hmem => ?_⟩
    · rw [hsame, hbefore]
      exact ⟨hupstream, rfl⟩
    · rw [hspawned] at hmem
      rw [List.mem_singleton.mp hmem]
      exact hblock.bind fun _ => trivial
  · rintro pool error pool' ⟨hbefore, hthreads⟩ ⟨hshared, hspawned⟩
    have hrejected : pool'.shared = { pool.shared with rejected := true } := hshared
    rw [hthreads] at hspawned
    refine ⟨?_, hspawned⟩
    rw [hrejected, hbefore]
    exact ⟨hcopying.overrun, fun _ => rfl⟩

/-- A client whose upstream is open and has got nothing yet. -/
structure Connected (client upstream : SocketId) (stream payload : Bytes) (passage : Passage) :
    Prop where
  ne : upstream ≠ client
  upstream : passage.upstream = some upstream
  split : payload ++ passage.input = stream
  armed : passage.armed = false
  written : passage.written = []
  overrun : passage.overrun = false

/-- From an open connection all of the stream goes up. -/
theorem relayBothWays_streaming {stream payload : Bytes}
    (hconnected : Connected client upstream stream payload passage)
    (hloops : stream.length < config.loops) :
    PassageTriple config client (Passing passage)
      (relayBothWays config client upstream (some payload))
      (fun _ => Streaming client upstream (Relayed stream)) Abandoned := by
  apply TripleE.bind (writeFirstPayload_passing hconnected.upstream hconnected.written)
  intro _
  have hcopying : Copying stream [] { passage with written := payload } :=
    ⟨hconnected.split, hconnected.armed, hconnected.overrun⟩
  apply TripleE.bind (execute_passing hcopying hconnected.ne hconnected.upstream)
  intro _
  apply copyDirection_streaming.nothrow.conseq _ (fun _ _ h => h) fun _ _ h => h
  rintro pool ⟨⟨hshared, heq⟩, hthreads⟩
  refine ⟨⟨hshared, heq ▸ hcopying, ?_⟩, hthreads⟩
  rw [heq]
  have hlength := congrArg List.length hconnected.split
  rw [List.length_append] at hlength
  dsimp only
  omega

/-- From the request to the end of the stream. -/
theorem handleConnect_streaming {stream : Bytes} {original : InetSocketAddress}
    (hport : original.port = 443) (hloops : stream.length < config.loops) :
    PassageTriple config client (Passing (.begun stream)) (handleConnect config client original)
      (fun _ pool => ∃ upstream, Streaming client upstream (Relayed stream) pool) Abandoned := by
  have hbegun : Holding stream [] (.begun stream) := ⟨rfl, rfl, rfl, rfl, rfl⟩
  unfold handleConnect
  rw [if_neg (not_not_intro hport)]
  have hreply : PassageTriple config client (Passing (.begun stream))
      (writeReply client 0 unbound) (fun _ => Pool.Idle (Holding stream [])) Abandoned := by
    apply passing_io fun _ => rfl
    · intro _ passage' hstep
      obtain rfl : passage' = .begun stream := hstep
      exact hbegun
    · intro error passage' hstep
      obtain rfl : passage' = .begun stream := hstep
      exact hbegun.undone
  apply TripleE.bind hreply
  intro _
  apply TripleE.bind (setSoTimeout_holding TLS_SNI_TIMEOUT_MS)
  intro _
  apply TripleE.bind ((readClientHello_holding []).conseq (fun _ hidle => ⟨hidle.1.1, hidle.2⟩)
    (fun _ _ hidle => hidle) fun _ _ hidle => hidle)
  intro payload
  apply TripleE.bind (setSoTimeout_holding 0)
  intro _
  apply passing_each
  rintro passage ⟨hholding, harmed⟩
  have hlookup : (connectTarget config original payload).run.Uses Inert :=
    (connectTarget_uses config original payload).mono fun _ => Lookup.inert
  apply TripleE.bind (inert_passing hlookup hholding.undone)
  intro target
  apply TripleE.bind (connectProtected_passing hholding.undone)
  intro upstream
  apply passing_each
  rintro _ ⟨hne, rfl⟩
  have hregister : PassageTriple config client
      (Passing { passage with upstream := some upstream, connected := true })
      (relayCall (.addSession upstream))
      (fun _ => Passing { passage with upstream := some upstream, connected := true })
      Abandoned :=
    passing_io (fun _ => rfl) (fun _ _ hstep => hstep) fun _ _ hstep => hstep.elim
  apply TripleE.bind hregister
  intro _
  have hconnected : Connected client upstream stream payload
      { passage with upstream := some upstream, connected := true } :=
    ⟨hne, rfl, hholding.split, harmed, hholding.written, hholding.overrun⟩
  apply (relayBothWays_streaming hconnected hloops).post
  exact fun _ _ hstreaming => ⟨upstream, hstreaming⟩

end Rules

/-- The runs of `handleConnect` for a client that sends `stream`, with its block beside it. -/
abbrev Connects (config : RelayConfig) (client : SocketId) (original : InetSocketAddress)
    (stream : Bytes) : Prog RelayOp RelayOp.Answer (Except Exception Unit) × PassagePool → Prop :=
  Reaches (Pool.semantics (passageStep client) (relaySpawns config.loops))
    (Pool.Background (blockStep client) (relaySpawns config.loops))
    ((handleConnect config client original).run, ⟨.begun stream, []⟩)

/-! ## No session is stuck -/

/-- The calls that are always answered: a read needs room. -/
def Answerable : RelayOp → Prop
  | .read _ room => 0 < room
  | _ => True

theorem connectProtected_answered (destination : InetSocketAddress) :
    (connectProtected destination).run.Uses Answerable := by
  apply Uses.bindE (Uses.io trivial)
  intro socket
  apply Uses.bindE (Uses.io trivial)
  intro _
  apply Uses.bindE (Uses.io trivial)
  intro isProtected
  split
  next =>
    have hnetwork : (bindToActiveNetwork socket).run.Uses Answerable := by
      apply Uses.bindE (Uses.io trivial)
      intro network
      cases network with
      | none => trivial
      | some network => exact Uses.io trivial
    apply Uses.bindE hnetwork
    intro _
    apply Uses.bindE (Uses.io trivial)
    intro _
    apply Uses.bindE (Uses.io trivial)
    intro _
    exact Uses.bindE (Uses.io trivial) fun _ => trivial
  next => exact Uses.bindE (Uses.io trivial) fun _ => trivial

/-- Every call of the two copy loops can be answered. -/
theorem relayBothWays_answered (config : RelayConfig) (client upstream : SocketId)
    (firstPayload : Option Bytes) :
    (relayBothWays config client upstream firstPayload).run.Uses Answerable := by
  have hfirst : (writeFirstPayload upstream firstPayload).run.Uses Answerable := by
    match firstPayload with
    | none | some [] => trivial
    | some (byte :: rest) => exact Uses.io trivial
  apply Uses.bindE hfirst
  intro _
  apply Uses.bindE (Uses.io trivial)
  intro _
  exact copyDirection_uses (fun _ hroom => hroom) (fun _ => trivial) trivial (fun _ => trivial)
    trivial config.loops

/-- So a connection is never stuck. -/
theorem handleConnect_answered (config : RelayConfig) (client : SocketId)
    (original : InetSocketAddress) :
    (handleConnect config client original).run.Uses Answerable := by
  unfold handleConnect
  split
  next =>
    apply Uses.bindE (connectProtected_answered original)
    intro upstream
    apply Uses.bindE (Uses.io trivial)
    intro _
    apply Uses.bindE (Uses.io trivial)
    intro bound
    apply Uses.bindE (Uses.io trivial)
    exact fun _ => relayBothWays_answered config client upstream none
  next =>
    apply Uses.bindE (Uses.io trivial)
    intro _
    apply Uses.bindE (Uses.io trivial)
    intro _
    apply Uses.bindE (readClientHello_reads (fun _ hroom => hroom) [])
    intro firstPayload
    apply Uses.bindE (Uses.io trivial)
    intro _
    apply Uses.bindE ((connectTarget_uses config original firstPayload).mono _)
    · intro target
      apply Uses.bindE (connectProtected_answered target)
      intro upstream
      apply Uses.bindE (Uses.io trivial)
      exact fun _ => relayBothWays_answered config client upstream (some firstPayload)
    · intro op hop
      cases op with
      | read => exact hop.elim
      | _ => trivial

/-- A connection that is there stays, and an executor that has not refused a block need not
refuse one. -/
def Lasting (first : Passage) (passage : Passage) : Prop :=
  (first.connected = true → passage.connected = true) ∧
    (first.rejected = false → passage.rejected = false)

/-- Every call with room for what it reads has an answer. -/
theorem passageStep_answered {client : SocketId} {first : Passage} (op : RelayOp)
    (hop : Answerable op) (passage : Passage) (hlasting : Lasting first passage) :
    ∃ answer passage', passageStep client op passage answer passage' ∧ Lasting first passage' := by
  cases op with
  | read socket room =>
      by_cases hsocket : socket = client
      · cases hinput : passage.input with
        | nil => exact ⟨.ok none, passage, ⟨fun _ => hinput, rfl⟩, hlasting⟩
        | cons byte rest =>
            -- one byte fits
            refine ⟨.ok (some ⟨[byte], List.cons_ne_nil _ _, hop⟩), { passage with input := rest },
              ?_, hlasting⟩
            rw [passageStep, if_pos hsocket]
            exact ⟨hinput, rfl⟩
      · exact ⟨.ok none, passage, ⟨fun heq => absurd heq hsocket, rfl⟩, hlasting⟩
  | write socket bytes =>
      by_cases hsocket : passage.upstream = some socket
      · refine ⟨.ok (), { passage with written := passage.written ++ bytes }, ?_, hlasting⟩
        rw [passageStep, if_pos hsocket]
        exact ⟨rfl, rfl⟩
      · refine ⟨.ok (), passage, ?_, hlasting⟩
        rw [passageStep, if_neg hsocket]
  | addSession | removeSession | execute => exact ⟨.ok (), _, rfl, hlasting⟩
  | connect => exact ⟨.ok (), _, rfl, fun _ => rfl, hlasting.2⟩
  | diverge => exact ⟨.error { kind := .socket }, _, rfl, hlasting⟩
  | _ => exact ⟨.error { kind := .socket }, passage, rfl, hlasting⟩

/-- A session that has come anywhere can go on to its end, whatever its block has done. -/
theorem connects_ends {config : RelayConfig} {client : SocketId} {original : InetSocketAddress}
    {stream : Bytes} {program : Prog RelayOp RelayOp.Answer (Except Exception Unit)}
    {pool : PassagePool} (hreach : Connects config client original stream (program, pool)) :
    ∃ result last,
      Reaches (Pool.semantics (passageStep client) (relaySpawns config.loops))
        (Pool.Background (blockStep client) (relaySpawns config.loops)) (program, pool)
        (.ret result, last) ∧ Lasting pool.shared last.shared := by
  have huses := hreach.uses_program (handleConnect_answered config client original)
  have hanswered : ∀ op, Answerable op → ∀ before : PassagePool, Lasting pool.shared before.shared →
      ∃ answer after, Pool.semantics (passageStep client) (relaySpawns config.loops) op before
        answer after ∧ Lasting pool.shared after.shared := by
    intro op hop before hlasting
    obtain ⟨answer, passage', hstep, hkept⟩ := passageStep_answered op hop before.shared hlasting
    exact ⟨answer, ⟨passage', before.threads ++ relaySpawns config.loops op answer⟩, ⟨hstep, rfl⟩,
      hkept⟩
  obtain ⟨result, last, houtcome, hlasting⟩ :=
    Outcome.exists_of_uses_kept huses hanswered ⟨id, id⟩
  exact ⟨result, last, .of_outcome houtcome, hlasting⟩

/-- A session for port 443 that got its connection and could submit its block ends
normally, and the upstream has then got exactly the client's stream. Its loops come
to an end by themselves: from wherever a session has come it can go on to an end, and once
it has its connection and its block is running, to one with all of the stream written. -/
theorem connect_transparent (config : RelayConfig) (client : SocketId)
    (original : InetSocketAddress) (stream : Bytes) (hport : original.port = 443)
    (hloops : stream.length < config.loops) :
    (∀ result pool, Connects config client original stream (.ret result, pool) →
      pool.shared.overrun = false ∧
        (pool.shared.connected = true → pool.shared.rejected = false →
          result = .ok () ∧ pool.shared.written = stream ∧ pool.shared.input = [])) ∧
    ∀ program pool, Connects config client original stream (program, pool) →
      ∃ result last,
        Reaches (Pool.semantics (passageStep client) (relaySpawns config.loops))
          (Pool.Background (blockStep client) (relaySpawns config.loops)) (program, pool)
          (.ret result, last) ∧
        (pool.shared.connected = true → pool.shared.rejected = false →
          result = .ok () ∧ last.shared.written = stream ∧ last.shared.input = []) := by
  have hends : ∀ result pool, Connects config client original stream (.ret result, pool) →
      pool.shared.overrun = false ∧
        (pool.shared.connected = true → pool.shared.rejected = false →
          result = .ok () ∧ pool.shared.written = stream ∧ pool.shared.input = []) := by
    intro result pool hreach
    have hlast := Triple.reaches (handleConnect_streaming hport hloops) ⟨rfl, rfl⟩ hreach
    cases result with
    | ok value =>
        obtain ⟨upstream, ⟨_, hrelayed⟩, _⟩ := hlast
        exact ⟨hrelayed.overrun, fun _ _ => ⟨rfl, hrelayed.written, hrelayed.input⟩⟩
    | error error =>
        obtain ⟨⟨hoverrun, hrejected⟩, _⟩ := hlast
        refine ⟨hoverrun, fun hconnected hnot => ?_⟩
        rw [hrejected hconnected] at hnot
        contradiction
  refine ⟨hends, fun program pool hreach => ?_⟩
  obtain ⟨result, last, hrest, hlasting⟩ := connects_ends hreach
  refine ⟨result, last, hrest, fun hconnected hrejected => ?_⟩
  exact (hends result last (hreach.trans hrest)).2 (hlasting.1 hconnected) (hlasting.2 hrejected)

/-- How much has come in of a client that keeps its last `kept` bytes back while a timeout
is set. -/
def Passage.ready (passage : Passage) (kept : Nat) : Nat :=
  passage.input.length - if passage.armed then kept else 0

/-- A platform on which every call succeeds, with such a client. -/
def carry (client : SocketId) (kept : Nat) :
    (op : RelayOp) → Passage → Option (op.Answer × Passage)
  | .read socket room, passage =>
    if hcount : socket = client ∧ 0 < min room (passage.ready kept) then
      some (.ok (some ⟨passage.input.take (min room (passage.ready kept)), by
          have hpos := hcount.2
          rw [← List.length_pos_iff, List.length_take]
          unfold Passage.ready at *
          omega, by
          rw [List.length_take]
          omega⟩),
        { passage with input := passage.input.drop (min room (passage.ready kept)) })
    else if passage.input = [] then some (.ok none, passage)
    else if passage.armed then some (.error { kind := .socketTimeout }, passage)
    else none
  | .write socket bytes, passage =>
    if passage.upstream = some socket then
      some (.ok (), { passage with written := passage.written ++ bytes })
    else some (.ok (), passage)
  | .setSoTimeout socket millis, passage =>
    some (.ok (),
      if socket = client then { passage with armed := decide (millis ≠ 0) } else passage)
  | .newSocket, passage => some (.ok (client + 1), { passage with upstream := some (client + 1) })
  | .connect _ _ _, passage => some (.ok (), { passage with connected := true })
  | .protect _, passage => some (.ok true, passage)
  | .activeNetwork, passage => some (.ok none, passage)
  | .bind _ _, passage | .setOption _ _, passage | .addSession _, passage
  | .removeSession _, passage | .execute _, passage | .close _, passage => some (.ok (), passage)
  | _, _ => none

/-- The platform does what the streams allow. -/
theorem carry_step {client : SocketId} {kept : Nat} {op : RelayOp} {passage passage' : Passage}
    {answer : op.Answer} (hcarry : carry client kept op passage = some (answer, passage')) :
    passageStep client op passage answer passage' := by
  cases op with
  | read socket room =>
      rw [carry] at hcarry
      split at hcarry
      next hcount =>
        cases hcarry
        rw [passageStep, if_pos hcount.1]
        exact ⟨(List.take_append_drop _ passage.input).symm, rfl⟩
      next =>
        split at hcarry
        next hempty =>
          cases hcarry
          exact ⟨fun _ => hempty, rfl⟩
        next =>
          split at hcarry
          next harmed =>
            cases hcarry
            exact ⟨fun _ => ⟨harmed, rfl⟩, rfl⟩
          next => contradiction
  | write socket bytes =>
      rw [carry] at hcarry
      split at hcarry
      next hupstream =>
        cases hcarry
        rw [passageStep, if_pos hupstream]
        exact ⟨rfl, rfl⟩
      next hother =>
        cases hcarry
        rw [passageStep, if_neg hother]
  | newSocket =>
      cases hcarry
      exact ⟨Nat.succ_ne_self client, rfl⟩
  | setSoTimeout | connect | protect | activeNetwork | bind | setOption | addSession
  | removeSession | execute | close =>
      cases hcarry
      rfl
  | _ => cases hcarry

/-- Of six bytes three come in time; the parser still waits for more of a record when the
read times out. The copy loop carries the other three on. -/
theorem connect_transparent_timeout :
    ∃ pool, Connects (.withRules ⟨[], []⟩ 7) 0 ⟨.loopback, 443⟩ [22, 3, 1, 0, 9, 1]
        (.ret (.ok ()), pool) ∧
      (readClientHello 0 []).run.run (carry 0 3) { Passage.begun [22, 3, 1, 0, 9, 1] with
          armed := true } =
        some (.ok [22, 3, 1], { Passage.begun [0, 9, 1] with armed := true }) ∧
      pool.shared.overrun = false ∧ pool.shared.written = [22, 3, 1, 0, 9, 1] := by
  have hhello : (readClientHello 0 []).run.run (carry 0 3)
      { Passage.begun [22, 3, 1, 0, 9, 1] with armed := true } =
        some (.ok [22, 3, 1], { Passage.begun [0, 9, 1] with armed := true }) := by decide +kernel
  have hrun : (handleConnect (.withRules ⟨[], []⟩ 7) 0 ⟨.loopback, 443⟩).run.run (carry 0 3)
      (.begun [22, 3, 1, 0, 9, 1]) =
      some (.ok (), ⟨[], false, some 1, true, false, [22, 3, 1, 0, 9, 1], false⟩) := by
    decide +kernel
  have hsem : ∀ op passage answer passage', carry 0 3 op passage = some (answer, passage') →
      passageStep 0 op (id passage) answer (id passage') := fun _ _ _ _ => carry_step
  obtain ⟨threads, houtcome⟩ := Pool.outcome_of (Outcome.of_run id hsem hrun) []
  have hreach : Connects (.withRules ⟨[], []⟩ 7) 0 ⟨.loopback, 443⟩ [22, 3, 1, 0, 9, 1] _ :=
    Reaches.of_outcome houtcome
  have htransparent := (connect_transparent (.withRules ⟨[], []⟩ 7) 0 ⟨.loopback, 443⟩
    [22, 3, 1, 0, 9, 1] rfl (by decide)).1 _ _ hreach
  exact ⟨_, hreach, hhello, htransparent.1, (htransparent.2 rfl rfl).2.1⟩

end AIUnblock.LocalSocksRelay
