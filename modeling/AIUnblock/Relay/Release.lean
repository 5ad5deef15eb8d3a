import AIUnblock.Relay.Calls

/-! # Sessions release their sockets

Every way through a session, with every choice of calls that throw: when
`handleClient` has returned, its sockets are closed and gone from `sessions`
unless a refusal was written or a call threw while an open socket was unwatched.
-/

namespace AIUnblock.LocalSocksRelay

open Prog

variable {config : RelayConfig} {client socket : SocketId} {sockets : Sockets}

/-! ## Failures before a block watches the socket -/

/-- A call that throws while an open socket is unwatched loses the socket. -/
theorem lost_threw (hwatched : sockets.watched = false) (hopened : socket ∈ sockets.opened)
    (hne : socket ≠ client) (hclosed : socket ∉ sockets.closed) : Lost client sockets.threw := by
  have hunguarded : sockets.Unguarded := ⟨hwatched, socket, hopened, hclosed⟩
  exact ⟨by simp [Sockets.threw, hunguarded], socket, hopened, hne, hclosed⟩

/-- A session that has opened one socket. -/
def openedOne (client socket : SocketId) : Sockets := (Sockets.accepted client).openSocket socket

/-- A session that has opened one socket and put it into `sessions`. -/
def registeredOne (client socket : SocketId) : Sockets := (openedOne client socket).register socket

theorem lost_openedOne (hne : socket ≠ client) : Lost client (openedOne client socket).threw :=
  lost_threw rfl List.mem_cons_self hne List.not_mem_nil

theorem lost_registeredOne (hne : socket ≠ client) :
    Lost client (registeredOne client socket).threw :=
  lost_threw rfl List.mem_cons_self hne List.not_mem_nil

/-- Nothing has been opened yet. -/
theorem freed_accepted : Freed (.accepted client) := ⟨rfl, by simp [Sockets.accepted]⟩

/-- The one socket has been closed again. -/
theorem freed_openedOne (hne : socket ≠ client) :
    Freed ((openedOne client socket).closeSocket socket) := by
  refine ⟨rfl, fun x hx => ?_⟩
  rw [List.mem_singleton.mp hx]
  exact ⟨List.mem_cons_self, by simpa [openedOne, Sockets.accepted, Sockets.openSocket,
    Sockets.closeSocket] using hne⟩

/-- When all sockets are closed an exception loses none. -/
theorem threw_of_closed (hclosed : ∀ x ∈ sockets.opened, x ∈ sockets.closed) :
    sockets.threw = sockets := by
  have hguarded : ¬ sockets.Unguarded := fun ⟨_, x, hopened, hopen⟩ => hopen (hclosed x hopened)
  simp [Sockets.threw, hguarded]

/-- A call that opens nothing can only lose what is open. -/
theorem plain_failed {op : RelayOp} (hplain : Plain op) (hlost : Lost client sockets.threw) :
    RelayTriple config client (At sockets) (relayCall op) (fun _ => At sockets) (Failed client) :=
  (plain_at hplain).failure fun _ _ hat =>
    ⟨Or.inl (hat.1 ▸ hlost), hat.2⟩

/-- Before a socket is opened an exception loses nothing. -/
theorem early_failed {α : Type} {p : RelayM α} (huses : p.run.Uses (Early client)) :
    RelayTriple config client (At (.accepted client)) p (fun _ => At (.accepted client))
      (Failed client) :=
  (early_uses huses).failure fun _ _ hat =>
    ⟨Or.inr (hat.1 ▸ freed_accepted), hat.2⟩

/-! ## Opening a socket -/

/-- Right after a socket was opened. -/
abbrev Opened (client socket : SocketId) : RelayPool → Prop :=
  Pool.Idle fun sockets => socket ≠ client ∧ sockets = openedOne client socket

/-- The new socket is not the client's. -/
theorem opened_triple {α : Type} {p : RelayM α} {Q : α → RelayPool → Prop}
    {E : Exception → RelayPool → Prop}
    (htriple : socket ≠ client → RelayTriple config client (At (openedOne client socket)) p Q E) :
    RelayTriple config client (Opened client socket) p Q E :=
  fun pool hopened => htriple hopened.1.1 pool ⟨hopened.1.2, hopened.2⟩

/-- Either there is a new socket, or nothing is lost. -/
theorem newSocket_opened :
    RelayTriple config client (At (.accepted client)) (relayCall .newSocket) (Opened client)
      (Failed client) := by
  apply Pool.io_idle fun _ => rfl
  rintro _ (error | socket) sockets' rfl hstep
  · exact Or.inr (hstep.trans threw_accepted ▸ freed_accepted)
  · exact ⟨hstep.1, hstep.2.2⟩

theorem newDatagramSocket_opened :
    RelayTriple config client (At (.accepted client)) (relayCall .newDatagramSocket)
      (Opened client) (Failed client) := by
  apply Pool.io_idle fun _ => rfl
  rintro _ (error | socket) sockets' rfl hstep
  · exact Or.inr (hstep.trans threw_accepted ▸ freed_accepted)
  · exact ⟨hstep.1, hstep.2.2⟩

theorem bindToActiveNetwork_failed (hlost : Lost client sockets.threw) :
    RelayTriple config client (At sockets) (bindToActiveNetwork socket) (fun _ => At sockets)
      (Failed client) := by
  apply TripleE.bind (plain_failed (by trivial) hlost)
  intro network
  cases network with
  | none => exact TripleE.pure (Pool.stable_idle _) fun _ hat => hat
  | some network => exact plain_failed (by trivial) hlost

/-- A failed `connect` leaves its socket open, unless the platform closed it. -/
theorem connect_failed {destination : InetSocketAddress} (hne : socket ≠ client) :
    RelayTriple config client (At (openedOne client socket))
      (relayCall (.connect socket destination CONNECT_TIMEOUT_MS))
      (fun _ => At (openedOne client socket))
      (Failed client) := by
  apply Pool.io_idle fun _ => rfl
  rintro _ (error | value) sockets' rfl hstep
  · -- whether the platform closes the socket of a failed `connect` is left open
    rcases hstep with rfl | rfl
    · exact Or.inl (lost_openedOne hne)
    · have hfreed := freed_openedOne hne
      rw [threw_of_closed fun x hx => (hfreed.2 x hx).1]
      exact Or.inr hfreed
  · exact hstep

/-- Closing the unprotected socket. -/
theorem close_freed (hne : socket ≠ client) :
    RelayTriple config client (At (openedOne client socket)) (relayCall (.close socket))
      (fun _ => At ((openedOne client socket).closeSocket socket)) (Failed client) := by
  apply Pool.io_idle fun _ => rfl
  have hfreed := freed_openedOne hne
  rintro _ (error | value) sockets' rfl hstep
  · have hthrew := threw_of_closed fun x hx => (hfreed.2 x hx).1
    exact Or.inr (Eq.trans hstep hthrew ▸ hfreed)
  · exact hstep

/-- `connectProtected` returns its socket, or it may have lost it. -/
theorem connectProtected_opened {destination : InetSocketAddress} :
    RelayTriple config client (At (.accepted client)) (connectProtected destination)
      (Opened client) (Failed client) := by
  apply TripleE.bind newSocket_opened
  intro socket
  apply opened_triple
  intro hne
  have hlost := lost_openedOne hne
  apply TripleE.bind (plain_failed (by trivial) hlost)
  intro _
  apply TripleE.bind (plain_failed (by trivial) hlost)
  intro isProtected
  split
  next =>
    apply TripleE.bind (bindToActiveNetwork_failed hlost)
    intro _
    apply TripleE.bind (plain_failed (by trivial) hlost)
    intro _
    apply TripleE.bind (plain_failed (by trivial) hlost)
    intro _
    apply TripleE.bind (connect_failed hne)
    intro _
    exact TripleE.pure (Pool.stable_idle _) fun _ hat => ⟨⟨hne, hat.1⟩, hat.2⟩
  next =>
    -- the socket that may not leave the tunnel is closed before the exception
    apply TripleE.bind (close_freed hne)
    intro _
    exact TripleE.throw (Pool.stable_idle _) fun _ hat =>
      ⟨Or.inr (hat.1 ▸ freed_openedOne hne), hat.2⟩

/-! ## The two ways to serve a client -/

theorem addSession_registered :
    RelayTriple config client (At (openedOne client socket)) (relayCall (.addSession socket))
      (fun _ => At (registeredOne client socket)) (Failed client) := by
  apply Pool.io_idle fun _ => rfl
  rintro _ (error | value) sockets' rfl hstep
  · exact hstep.elim
  · exact hstep

/-- Bytes that are no refusal. -/
theorem write_failed {x : SocketId} {bytes : Bytes}
    (hwrite : x ≠ client ∨ bytes ∉ Sockets.refusals) (hlost : Lost client sockets.threw) :
    RelayTriple config client (At sockets) (relayCall (.write x bytes)) (fun _ => At sockets)
      (Failed client) := by
  apply Pool.io_idle fun _ => rfl
  rintro before (error | value) sockets' rfl hstep
  · exact Or.inl (hstep ▸ hlost)
  · have hsame : before.wrote client x bytes = before := by
      rcases hwrite with hne | hnot
      · simp [Sockets.wrote, hne]
      · simp [Sockets.wrote, hnot]
    exact Eq.trans hstep hsame

/-- A reply that grants is no refusal. -/
theorem encodeReply_not_refusal (bound : InetSocketAddress) :
    encodeReply 0 bound ∉ Sockets.refusals := by
  simp [Sockets.refusals, encodeReply]

/-- The socket is unwatched while the reply is written. -/
theorem writeReply_granted {bound : InetSocketAddress} (hlost : Lost client sockets.threw) :
    RelayTriple config client (At sockets) (writeReply client 0 bound) (fun _ => At sockets)
      (Failed client) :=
  write_failed (Or.inr (encodeReply_not_refusal bound)) hlost

/-- Once its block is accepted the socket is watched. -/
theorem execute_guarded {task : RelayTask} (hne : socket ≠ client) :
    RelayTriple config client (At (registeredOne client socket)) (relayCall (.execute task))
      (fun _ => Guarded socket [] []) (Failed client) := by
  apply TripleE.io (Pool.stable_idle _) (fun _ => stable_guarded) fun _ => Pool.stable_idle _
  · intro pool value pool' hat hstep
    obtain ⟨hshared, hspawned⟩ := hstep
    have hwatch : pool'.shared = pool.shared.watch := hshared
    rw [hat.1] at hwatch
    rw [hat.2, List.nil_append] at hspawned
    refine ⟨by rw [hwatch]; exact ⟨rfl, rfl, rfl, by simp, by simp⟩, fun thread hmem => ?_⟩
    rw [hspawned] at hmem
    rw [List.mem_singleton.mp hmem]
    exact (runTask_uses config.loops task).bind fun _ => trivial
  · intro pool error pool' hat hstep
    obtain ⟨hshared, hspawned⟩ := hstep
    have hthrew : pool'.shared = pool.shared.threw := hshared
    rw [hat.1] at hthrew
    rw [hat.2] at hspawned
    exact ⟨Or.inl (hthrew ▸ lost_registeredOne hne), hspawned⟩

/-- A session that has released its own socket and the client. -/
abbrev Served (client : SocketId) (pool : RelayPool) : Prop :=
  ∃ socket, Guarded socket [client, socket] [socket] pool

/-- Whatever ends a copy loop, both sockets are released after it. -/
theorem copyDirection_released {input output : SocketId} {loops : Nat} :
    RelayTriple config client (Guarded socket [] [])
      (copyDirection loops input output client socket) (fun _ => Served client)
      fun _ _ => False := by
  have hcopy : RelayTriple config client (Guarded socket [] [])
      (tryCatch (copy input output loops) fun _ => pure ()) (fun _ => Guarded socket [] [])
      fun _ _ => False := by
    have huses : (copy input output loops).run.Uses Calm :=
      copy_uses (fun _ _ => trivial) (fun _ => trivial) trivial loops
    apply TripleE.tryCatch (calm_uses huses)
    exact fun _ => TripleE.pure stable_guarded fun _ hguarded => hguarded
  have hrelease : RelayTriple config client (Guarded socket [] []) (releaseBoth client socket)
      (fun _ => Served client) fun _ _ => False := by
    apply TripleE.bind closeQuietly_guarded
    intro _
    apply TripleE.bind closeQuietly_guarded
    intro _
    apply removeSession_guarded.post
    intro _ pool hguarded
    obtain ⟨⟨hwatch, hexposed, hopened, hclosed, hgone⟩, hthreads⟩ := hguarded
    -- the client was closed first, so it stands last in the list
    refine ⟨socket, ⟨hwatch, hexposed, hopened, fun x hx => hclosed x ?_, hgone⟩, hthreads⟩
    simpa [or_comm] using hx
  apply TripleE.tryFinally hcopy
  · exact fun _ => hrelease
  · exact fun _ _ hfalse => hfalse.elim

/-- From the submission of the block on no socket can be lost. -/
theorem relayBothWays_served {firstPayload : Option Bytes} (hne : socket ≠ client) :
    RelayTriple config client (At (registeredOne client socket))
      (relayBothWays config client socket firstPayload) (fun _ => Served client)
      (Failed client) := by
  have hfirst : RelayTriple config client (At (registeredOne client socket))
      (writeFirstPayload socket firstPayload) (fun _ => At (registeredOne client socket))
      (Failed client) := by
    -- an empty payload is not written
    match firstPayload with
    | none | some [] => exact TripleE.pure (Pool.stable_idle _) fun _ hat => hat
    | some (byte :: rest) => exact write_failed (Or.inl hne) (lost_registeredOne hne)
  apply TripleE.bind hfirst
  intro _
  apply TripleE.bind (execute_guarded hne)
  intro _
  exact copyDirection_released.nothrow

/-- A connection ends served, or an exception leaves it as it stands. -/
theorem handleConnect_served {original : InetSocketAddress} :
    RelayTriple config client (At (.accepted client)) (handleConnect config client original)
      (fun _ => Served client) (Failed client) := by
  unfold handleConnect
  split
  next =>
    apply TripleE.bind connectProtected_opened
    intro upstream
    apply opened_triple
    intro hne
    have hlost := lost_registeredOne hne
    apply TripleE.bind addSession_registered
    intro _
    apply TripleE.bind (plain_failed (by trivial) hlost)
    intro bound
    apply TripleE.bind (writeReply_granted hlost)
    intro _
    exact relayBothWays_served hne
  next =>
    -- nothing is open until the target is known
    have hgranted : (writeReply client 0 unbound).run.Uses (Early client) :=
      Uses.io ⟨rfl, encodeReply_not_refusal _⟩
    have htimeout : ∀ millis, (relayCall (.setSoTimeout client millis)).run.Uses (Early client) :=
      fun _ => Uses.io trivial
    apply TripleE.bind (early_failed hgranted)
    intro _
    apply TripleE.bind (early_failed (htimeout _))
    intro _
    apply TripleE.bind (early_failed (readClientHello_uses []))
    intro firstPayload
    apply TripleE.bind (early_failed (htimeout _))
    intro _
    have hlookup := (connectTarget_uses config original firstPayload).mono fun _ =>
      @Lookup.early client _
    apply TripleE.bind (early_failed hlookup)
    intro target
    apply TripleE.bind connectProtected_opened
    intro upstream
    apply opened_triple
    intro hne
    apply TripleE.bind addSession_registered
    intro _
    exact relayBothWays_served hne

/-- The end of an association releases its two sockets. -/
theorem releaseAssociation_served :
    RelayTriple config client (Guarded socket [] []) (releaseAssociation client socket)
      (fun _ => Served client) fun _ _ => False := by
  apply TripleE.bind closeQuietly_guarded
  intro _
  apply TripleE.bind removeSession_guarded
  intro _
  exact closeQuietly_guarded.post fun _ _ h => ⟨socket, h⟩

/-- What is left of a session whose request was carried out or refused. -/
abbrev Answered (client : SocketId) (pool : RelayPool) : Prop :=
  Served client pool ∨ Pool.Idle (Refused client) pool

/-- An association can also end by an exception that leaves nothing open. -/
abbrev Aborted (client : SocketId) (error : Exception) (pool : RelayPool) : Prop :=
  Failed client error pool ∨ Served client pool

/-- A refusal that was written leaves the client open for good. -/
theorem refuse_answered {code : Nat} (hcode : encodeReply code unbound ∈ Sockets.refusals)
    (hwatched : sockets.watched = false) (hopen : client ∉ sockets.closed)
    (hfreed : Freed sockets) :
    RelayTriple config client (At sockets) (writeReply client code unbound)
      (fun _ => Answered client) (Failed client) := by
  have hwrite : RelayTriple config client (At sockets) (writeReply client code unbound)
      (fun _ => Pool.Idle (Refused client)) (Failed client) := by
    apply Pool.io_idle fun _ => rfl
    rintro before (error | value) sockets' rfl hstep
    · have hthrew := threw_of_closed fun x hx => (hfreed.2 x hx).1
      exact Or.inr (Eq.trans hstep hthrew ▸ hfreed)
    · have hexposed : before.wrote client client (encodeReply code unbound) =
          { before with exposed := true } := by
        simp [Sockets.wrote, hwatched, hcode]
      rw [Eq.trans hstep hexposed]
      exact ⟨rfl, hopen⟩
  exact hwrite.post fun _ _ h => Or.inr h

/-- Whatever ends the receive loop, the association is released. -/
theorem association_served {loops : Nat} :
    RelayTriple config client (Guarded socket [] [])
      (Prog.tryFinally (receiveLoop config socket loops none) (releaseAssociation client socket))
      (fun _ => Served client) fun _ => Served client := by
  have hloop := (receiveLoop_uses config socket loops none).mono fun _ hop => hop.calm
  apply TripleE.tryFinally (calm_uses hloop)
  · exact fun _ => releaseAssociation_served.nothrow
  · exact fun _ => releaseAssociation_served.nothrow

theorem aborted_of_failed {α : Type} {P : RelayPool → Prop} {p : RelayM α}
    {Q : α → RelayPool → Prop} (htriple : RelayTriple config client P p Q (Failed client)) :
    RelayTriple config client P p Q (Aborted client) :=
  htriple.failure fun _ _ h => Or.inl h

/-- An association ends served or refused, or an exception leaves it as it stands. -/
theorem handleUdpAssociate_answered :
    RelayTriple config client (At (.accepted client)) (handleUdpAssociate config client)
      (fun _ => Answered client) (Aborted client) := by
  apply TripleE.bind (aborted_of_failed newDatagramSocket_opened)
  intro relay
  apply opened_triple
  intro hne
  have hlost := lost_openedOne hne
  have hregistered := lost_registeredOne hne
  apply TripleE.bind (aborted_of_failed (plain_failed (by trivial) hlost))
  intro _
  apply TripleE.bind (aborted_of_failed (plain_failed (by trivial) hlost))
  intro _
  apply TripleE.bind (aborted_of_failed (plain_failed (by trivial) hlost))
  intro isProtected
  split
  next =>
    apply TripleE.bind (aborted_of_failed (bindToActiveNetwork_failed hlost))
    intro _
    apply TripleE.bind (aborted_of_failed (plain_failed (by trivial) hlost))
    intro _
    apply TripleE.bind (aborted_of_failed addSession_registered)
    intro _
    apply TripleE.bind (aborted_of_failed (plain_failed (by trivial) hregistered))
    intro port
    apply TripleE.bind (aborted_of_failed (writeReply_granted hregistered))
    intro _
    apply TripleE.bind (aborted_of_failed (execute_guarded hne))
    intro _
    exact association_served.conseq (fun _ h => h) (fun _ _ h => Or.inl h) fun _ _ h => Or.inr h
  next =>
    apply TripleE.bind (aborted_of_failed (close_freed hne))
    intro _
    have hopen : client ∉ ((openedOne client relay).closeSocket relay).closed := by
      simpa [openedOne, Sockets.closeSocket, Sockets.openSocket, Sockets.accepted] using hne.symm
    exact aborted_of_failed
      (refuse_answered (by simp [Sockets.refusals]) rfl hopen (freed_openedOne hne))

/-! ## The whole session -/

/-- All sockets of the session are closed and none is left in `sessions`. -/
def Sockets.Released (client : SocketId) (sockets : Sockets) : Prop :=
  ∀ socket ∈ client :: sockets.opened, socket ∈ sockets.closed ∧ socket ∉ sockets.registered

/-- The two ways a session can end. -/
def Settled (client : SocketId) (sockets : Sockets) : Prop :=
  sockets.exposed = false ∧ sockets.Released client ∨
    sockets.exposed = true ∧ ∃ socket ∈ client :: sockets.opened, socket ∉ sockets.closed

/-- How a session has ended is what the two events say. -/
theorem settled_iff (hsettled : Settled client sockets) :
    sockets.Released client ↔ sockets.exposed = false := by
  rcases hsettled with ⟨hexposed, hreleased⟩ | ⟨hexposed, socket, hmem, hopen⟩
  · simp [hexposed, hreleased]
  · rw [hexposed]
    exact ⟨fun hreleased => absurd (hreleased socket hmem).1 hopen, nofun⟩

/-- What is lost stays lost. -/
theorem Lost.threw (hlost : Lost client sockets) : Lost client sockets.threw :=
  ⟨by simp [Sockets.threw, hlost.1], hlost.2⟩

theorem Lost.closeClient (hlost : Lost client sockets) :
    Lost client (sockets.closeSocket client) := by
  obtain ⟨hexposed, socket, hopened, hne, hopen⟩ := hlost
  -- the lost socket is another one
  refine ⟨hexposed, socket, hopened, hne, fun hmem => ?_⟩
  rcases List.mem_cons.mp hmem with heq | hmem
  · exact hne heq
  · exact hopen hmem

theorem Freed.closeClient (hfreed : Freed sockets) : Freed (sockets.closeSocket client) :=
  ⟨hfreed.1, fun x hx => ⟨List.mem_cons_of_mem _ (hfreed.2 x hx).1, (hfreed.2 x hx).2⟩⟩

/-- A session that threw, once its client has been closed. -/
abbrev Cleaned (client : SocketId) (sockets : Sockets) : Prop :=
  Lost client sockets ∨ Freed sockets ∧ client ∈ sockets.closed

/-- How a session stands before `handleClient` removes the client. -/
abbrev Handled (client : SocketId) (pool : RelayPool) : Prop :=
  Answered client pool ∨ Pool.Idle (Cleaned client) pool

/-- The `catch` block closes the client, and nothing but the client. -/
theorem close_cleaned {error : Exception} :
    RelayTriple config client (Failed client error) (relayCall (.close client))
      (fun _ => Pool.Idle (Cleaned client)) fun _ => Pool.Idle (Cleaned client) := by
  apply Pool.io_idle fun _ => rfl
  intro sockets answer sockets' hfailed hstep
  have hclosed : Cleaned client (sockets.closeSocket client) := by
    rcases hfailed with hlost | hfreed
    · exact Or.inl hlost.closeClient
    · exact Or.inr ⟨hfreed.closeClient, List.mem_cons_self⟩
  have hthrew : Cleaned client (sockets.closeSocket client).threw := by
    rcases hclosed with hlost | ⟨hfreed, hmem⟩
    · exact Or.inl hlost.threw
    · rw [threw_of_closed fun x hx => (hfreed.2 x hx).1]
      exact Or.inr ⟨hfreed, hmem⟩
  cases answer with
  | ok value => exact Eq.symm hstep ▸ hclosed
  | error error => exact Eq.symm hstep ▸ hthrew

/-- The handler closes the client of a session that threw. -/
theorem closeQuietly_handled {error : Exception} :
    RelayTriple config client (Aborted client error) (closeQuietly client)
      (fun _ => Handled client) fun _ _ => False := by
  have hfailed : RelayTriple config client (Failed client error) (closeQuietly client)
      (fun _ => Pool.Idle (Cleaned client)) fun _ _ => False := by
    apply TripleE.tryCatch close_cleaned
    exact fun _ => TripleE.pure (Pool.stable_idle _) fun _ h => h
  have hserved : RelayTriple config client (Served client) (closeQuietly client)
      (fun _ => Served client) fun _ _ => False := by
    rintro pool ⟨socket, hguarded⟩
    apply closeQuietly_guarded.post _ pool hguarded
    rintro _ pool ⟨⟨hwatch, hexposed, hopened, hclosed, hgone⟩, hthreads⟩
    have hmem : ∀ x ∈ [client, socket], x ∈ pool.shared.closed :=
      fun x hx => hclosed x (List.mem_cons_of_mem _ hx)
    exact ⟨socket, ⟨hwatch, hexposed, hopened, hmem, hgone⟩, hthreads⟩
  rintro pool (hpool | hpool)
  · exact hfailed.post (fun _ _ h => Or.inr h) pool hpool
  · exact hserved.post (fun _ _ h => Or.inl (Or.inl h)) pool hpool

/-- Removing the client from `sessions` settles a session that has no block. -/
theorem removeSession_idle {P : Sockets → Prop}
    (hsettled : ∀ sockets, P sockets → Settled client (sockets.unregister client)) :
    RelayTriple config client (Pool.Idle P) (relayCall (.removeSession client))
      (fun _ => Pool.Idle (Settled client)) fun _ _ => False := by
  have hidle : RelayTriple config client (Pool.Idle P) (relayCall (.removeSession client))
      (fun _ => Pool.Idle (Settled client)) fun _ => Pool.Idle fun _ => False := by
    apply Pool.io_idle fun _ => rfl
    rintro sockets (error | value) sockets' hP hstep
    · exact hstep.elim
    · exact Eq.symm hstep ▸ hsettled sockets hP
  exact hidle.failure fun _ _ h => h.1.elim

/-- The client of a refusal stays open. -/
theorem refused_settled (hrefused : Refused client sockets) :
    Settled client (sockets.unregister client) :=
  Or.inr ⟨hrefused.1, client, List.mem_cons_self, hrefused.2⟩

/-- After an exception the client is closed, and the others are as they were. -/
theorem cleaned_settled (hcleaned : Cleaned client sockets) :
    Settled client (sockets.unregister client) := by
  rcases hcleaned with ⟨hexposed, socket, hopened, _, hopen⟩ | ⟨hfreed, hclosed⟩
  · exact Or.inr ⟨hexposed, socket, List.mem_cons_of_mem _ hopened, hopen⟩
  · refine Or.inl ⟨hfreed.1, List.forall_mem_cons.mpr ⟨⟨hclosed, ?_⟩, fun x hx => ?_⟩⟩
    · simp [Sockets.unregister]
    · obtain ⟨hmem, hgone⟩ := hfreed.2 x hx
      exact ⟨hmem, fun hin => hgone (List.mem_of_mem_filter hin)⟩

/-- The `finally` block takes the client out of `sessions`, however the session ended. -/
theorem removeSession_settled :
    RelayTriple config client (Handled client) (relayCall (.removeSession client))
      (fun _ pool => Settled client pool.shared) fun _ _ => False := by
  have hserved : RelayTriple config client (Served client) (relayCall (.removeSession client))
      (fun _ pool => Settled client pool.shared) fun _ _ => False := by
    rintro pool ⟨socket, hguarded⟩
    apply removeSession_guarded.post _ pool hguarded
    rintro _ pool ⟨⟨_, hexposed, hopened, hclosed, hgone⟩, _⟩
    refine Or.inl ⟨hexposed, ?_⟩
    rw [Sockets.Released, hopened]
    exact fun x hx => ⟨hclosed x hx, hgone x hx⟩
  have hweaken : ∀ {P : Sockets → Prop},
      (∀ sockets, P sockets → Settled client (sockets.unregister client)) →
      RelayTriple config client (Pool.Idle P) (relayCall (.removeSession client))
        (fun _ pool => Settled client pool.shared) fun _ _ => False :=
    fun hsettled => (removeSession_idle hsettled).post fun _ _ h => h.1
  -- served, refused, or ended by an exception
  rintro pool ((hpool | hpool) | hpool)
  · exact hserved pool hpool
  · exact hweaken (fun _ => refused_settled) pool hpool
  · exact hweaken (fun _ => cleaned_settled) pool hpool

/-- Every session has ended in one of the two ways. -/
theorem handleClient_settled :
    RelayTriple config client (At (.accepted client)) (handleClient config client)
      (fun _ pool => Settled client pool.shared) fun _ _ => False := by
  have hrequest : RelayTriple config client (At (.accepted client)) (do
        negotiate config client
        let request ← readRequest client
        if request.command = COMMAND_CONNECT then
          handleConnect config client request.destination
        else if request.command = COMMAND_UDP_ASSOCIATE then handleUdpAssociate config client
        else writeReply client 7 unbound)
      (fun _ => Answered client) (Aborted client) := by
    have hnegotiate := (negotiate_uses config).mono fun _ => @Greeting.early client _
    have hrequest := readRequest_uses.mono fun _ => @Greeting.early client _
    apply TripleE.bind (aborted_of_failed (early_failed hnegotiate))
    intro _
    apply TripleE.bind (aborted_of_failed (early_failed hrequest))
    intro request
    split
    next =>
      exact (aborted_of_failed handleConnect_served).post fun _ _ h => Or.inl h
    next =>
      split
      next => exact handleUdpAssociate_answered
      next =>
        have hrefusal : encodeReply 7 unbound ∈ Sockets.refusals := by simp [Sockets.refusals]
        exact aborted_of_failed
          (refuse_answered hrefusal rfl List.not_mem_nil freed_accepted)
  have hcaught := TripleE.tryCatch
    (hrequest.post fun _ _ h => Or.inl h)
    fun _ => closeQuietly_handled
  apply TripleE.tryFinally hcaught
  · exact fun _ => removeSession_settled
  · exact fun _ _ hfalse => hfalse.elim

/-- Every finished session, over all client bytes, all answers of the platform and
all interleavings with its blocks, has released its sockets exactly when no
refusal was written to the client and no call threw while an open socket of the
session was not watched by a block. -/
theorem handleClient_releases_iff {result : Except Exception Unit} {pool : RelayPool}
    (hreach : Reaches (Pool.semantics (socketStep client) (relaySpawns config.loops))
      (Pool.Background (socketStep client) (relaySpawns config.loops))
      ((handleClient config client).run, ⟨.accepted client, []⟩) (.ret result, pool)) :
    pool.shared.Released client ↔ pool.shared.exposed = false := by
  have hends := Triple.reaches handleClient_settled ⟨rfl, rfl⟩ hreach
  cases result with
  | ok value => exact settled_iff hends
  | error error => exact hends.elim

/-- A platform on which the client sends exactly these bytes and every call succeeds. The
upstream socket is the one after the client's; the submitted tasks are kept. -/
def serve (client : SocketId) : (op : RelayOp) → Sockets × List RelayTask × Bytes →
    Option (op.Answer × (Sockets × List RelayTask × Bytes))
  | .read _ room, (sockets, tasks, input) =>
    if hroom : input ≠ [] ∧ room ≠ 0 then
      some (.ok (some ⟨input.take room, by simp [hroom.1, hroom.2], by simp⟩),
        (sockets, tasks, input.drop room))
    else some (.ok none, (sockets, tasks, input))
  | .write socket bytes, (sockets, rest) =>
    some (.ok (), (sockets.wrote client socket bytes, rest))
  | .newSocket, (sockets, rest) =>
    if sockets.opened = [] then some (.ok (client + 1), (sockets.openSocket (client + 1), rest))
    else none
  | .protect _, state => some (.ok true, state)
  | .activeNetwork, state => some (.ok (some ⟨100⟩), state)
  | .bind _ _, state => some (.ok (), state)
  | .bindSocket _ _, state => some (.ok (), state)
  | .setOption _ _, state => some (.ok (), state)
  | .connect _ _ _, state => some (.ok (), state)
  | .localSocketAddress _, state => some (.ok unbound, state)
  | .addSession socket, (sockets, rest) => some (.ok (), (sockets.register socket, rest))
  | .execute task, (sockets, tasks, input) =>
    some (.ok (), (sockets.watch, tasks ++ [task], input))
  | .close socket, (sockets, rest) => some (.ok (), (sockets.closeSocket socket, rest))
  | .removeSession socket, (sockets, rest) => some (.ok (), (sockets.unregister socket, rest))
  | _, _ => none

/-- The thread of a task. -/
def block (loops : Nat) (task : RelayTask) : Prog RelayOp RelayOp.Answer Unit :=
  (fun _ => ()) <$> (runTask loops task).run

/-- The platform does what the sockets allow, and the tasks are the threads. -/
theorem serve_step (loops : Nat) {op : RelayOp} {answer : op.Answer}
    {state state' : Sockets × List RelayTask × Bytes}
    (hserve : serve client op state = some (answer, state')) :
    socketStep client op state.1 answer state'.1 ∧
      state'.2.1.map (block loops) = state.2.1.map (block loops) ++ relaySpawns loops op answer := by
  obtain ⟨sockets, tasks, input⟩ := state
  cases op with
  | read socket room =>
      rw [serve] at hserve
      split at hserve <;> cases hserve <;> exact ⟨rfl, (List.append_nil _).symm⟩
  | newSocket =>
      rw [serve] at hserve
      split at hserve
      next hnone =>
        cases hserve
        refine ⟨⟨Nat.succ_ne_self client, ?_, rfl⟩, (List.append_nil _).symm⟩
        rw [hnone]
        exact List.not_mem_nil
      next => cases hserve
  | execute task =>
      cases hserve
      exact ⟨rfl, List.map_append⟩
  | write | protect | activeNetwork | bind | bindSocket | setOption | connect
    | localSocketAddress | addSession | close | removeSession =>
      cases hserve
      exact ⟨rfl, (List.append_nil _).symm⟩
  | _ => cases hserve

/-- What the platform computes is a run of the session. -/
theorem serve_reaches {input rest : Bytes} {result : Except Exception Unit} {sockets : Sockets}
    {tasks : List RelayTask}
    (hrun : (handleClient config client).run.run (serve client) (.accepted client, [], input) =
      some (result, (sockets, tasks, rest))) :
    Reaches (Pool.semantics (socketStep client) (relaySpawns config.loops))
      (Pool.Background (socketStep client) (relaySpawns config.loops))
      ((handleClient config client).run, ⟨.accepted client, []⟩)
      (.ret result, ⟨sockets, tasks.map (block config.loops)⟩) := by
  let view : Sockets × List RelayTask × Bytes → RelayPool := fun state =>
    ⟨state.1, state.2.1.map (block config.loops)⟩
  have hsem : ∀ op state answer state', serve client op state = some (answer, state') →
      Pool.semantics (socketStep client) (relaySpawns config.loops) op (view state) answer
        (view state') :=
    fun _ _ _ _ hserve => serve_step config.loops hserve
  exact Reaches.of_outcome (Outcome.of_run view hsem hrun)

/-- And then a run of the block that was submitted. -/
theorem block_reaches {loops : Nat} {task : RelayTask} {input rest : Bytes}
    {sockets sockets' : Sockets} {tasks tasks' : List RelayTask}
    (hrun : (block loops task).run (serve client) (sockets, tasks, input) =
      some ((), (sockets', tasks', rest))) :
    Relation.ReflTransGen (Pool.Background (socketStep client) (relaySpawns loops))
      ⟨sockets, [block loops task]⟩ ⟨sockets', [.ret ()]⟩ := by
  have hquiet : (block loops task).Uses fun op => ∀ answer, relaySpawns loops op answer = [] := by
    have htask := (runTask_uses loops task).mono fun _ => relaySpawns_calm loops
    exact htask.bind fun _ => trivial
  have hsem : ∀ op state answer state', serve client op state = some (answer, state') →
      socketStep client op state.1 answer state'.1 :=
    fun _ _ _ _ hserve => (serve_step loops hserve).1
  exact Pool.background_of hquiet (Outcome.of_run Prod.fst hsem hrun) [] []

/-- The relay of the runs below. -/
def plainConfig : RelayConfig := .withRules ⟨[], []⟩ 2

/-- The bytes of a client that logs in and asks for the command. -/
def commandBytes (command : UInt8) : Bytes :=
  [5, 1, 2, 1, 9] ++ username ++ [0, 5, command, 0, 1, 127, 0, 0, 1, 0, 80]

/-- A client connects, sends two bytes and ends its stream. The upstream socket is opened
and both sockets are released, by the session and then by the block that it submitted. -/
theorem handleClient_releases_forwarded :
    ∃ pool, Reaches (Pool.semantics (socketStep 0) (relaySpawns plainConfig.loops))
        (Pool.Background (socketStep 0) (relaySpawns plainConfig.loops))
        ((handleClient plainConfig 0).run, ⟨.accepted 0, []⟩) (.ret (.ok ()), pool) ∧
      pool.shared.opened = [1] ∧ pool.shared.watched = true ∧ pool.threads = [.ret ()] ∧
      pool.shared.Released 0 := by
  have hsession : (handleClient plainConfig 0).run.run (serve 0)
      (.accepted 0, [], commandBytes 1 ++ [104, 105]) =
      some (.ok (), (⟨[1], [1, 0], [], true, false⟩, [.upstreamToClient 0 1], [])) := by
    decide +kernel
  have hblock : (block plainConfig.loops (.upstreamToClient 0 1)).run (serve 0)
      (⟨[1], [1, 0], [], true, false⟩, [], []) =
      some ((), (⟨[1], [1, 0, 1, 0], [], true, false⟩, [], [])) := by
    decide +kernel
  let returned : RelayPool → Prog RelayOp RelayOp.Answer (Except Exception Unit) × RelayPool :=
    fun pool => (.ret (.ok ()), pool)
  have hreach := (serve_reaches hsession).trans
    ((block_reaches hblock).lift returned fun _ _ => .env)
  exact ⟨_, hreach, rfl, rfl, rfl, (handleClient_releases_iff hreach).mpr rfl⟩

/-- A client whose command is not supported is refused and keeps its socket. -/
theorem handleClient_unsupported_command :
    ∃ result pool, Reaches (Pool.semantics (socketStep 0) (relaySpawns plainConfig.loops))
        (Pool.Background (socketStep 0) (relaySpawns plainConfig.loops))
        ((handleClient plainConfig 0).run, ⟨.accepted 0, []⟩) (.ret result, pool) ∧
      pool.threads = [] ∧ ¬ pool.shared.Released 0 := by
  have hrun : (handleClient plainConfig 0).run.run (serve 0) (.accepted 0, [], commandBytes 2) =
      some (.ok (), (⟨[], [], [], false, true⟩, [], [])) := by decide +kernel
  refine ⟨_, _, serve_reaches hrun, rfl, fun hreleased => ?_⟩
  exact List.not_mem_nil (hreleased 0 List.mem_cons_self).1

end AIUnblock.LocalSocksRelay
