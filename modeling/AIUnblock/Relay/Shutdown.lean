import AIUnblock.Relay.Ledgers

/-! # Closing the relay

While the relay runs, every client and every upstream socket is closed, in `sessions`
before `close` has come to it, or some thread is answerable for it. A socket is lost
only when a call throws in the thread that holds it and `close` has neither taken it nor
comes to it any more.
-/

namespace AIUnblock.LocalSocksRelay

open Prog Relation

/-- A call that throws while its thread holds the socket leaves it to `close`, which has
taken it already or comes to it. -/
def carefulAct (socket : SocketId) : Crew.Act ServerOp ServerOp.Answer Hub Ledger :=
  fun op before answer after => serverAct op before answer after ∧
    ∀ error, answer = .error error → socket ∈ before.2.holds →
      socket ∈ after.1.closed ∨ after.1.Awaits socket ∨ socket ∈ after.1.taken

/-- A step that does not lose the socket. -/
abbrev CarefulStep (config : RelayConfig) (socket : SocketId) : ServerCrew → ServerCrew → Prop :=
  Crew.Step (carefulAct socket) (serverSpawns config)

/-- The thread is answerable for the socket whatever throws. -/
def Ledger.Bears (ledger : Ledger) (socket : SocketId) : Prop :=
  socket ∈ ledger.owes ∨ socket ∈ ledger.refused ∨ socket ∈ ledger.strays

/-- The socket is the thread's business. -/
def Ledger.Has (ledger : Ledger) (socket : SocketId) : Prop :=
  socket ∈ ledger.holds ∨ ledger.Bears socket

/-! ## Effects -/

section Effects

variable {hub : Hub} {ledger : Ledger} {socket : SocketId} {effect : Effect}

/-- A socket that has been created stays what it is. -/
theorem kind_apply {kind : SocketKind} (hkind : hub.kind socket = some kind)
    (hfresh : ∀ x k, effect = .created x k → hub.kind x = none) :
    (hub.apply effect).kind socket = some kind := by
  cases effect with
  | created x k =>
      have hne : socket ≠ x := by
        rintro rfl
        rw [hfresh _ _ rfl] at hkind
        cases hkind
      exact (Function.update_of_ne hne _ _).trans hkind
  | _ => exact hkind

/-- A closed socket stays closed. -/
theorem closed_apply (hclosed : socket ∈ hub.closed) : socket ∈ (hub.apply effect).closed := by
  cases effect with
  | closed x => exact List.mem_cons_of_mem x hclosed
  | _ => exact hclosed

/-- What a thread gives away in one step. -/
def Effect.Gives (socket : SocketId) (effect : Effect) : Prop :=
  effect = .served socket ∨ effect = .handedOver socket

theorem mem_filter_ne {sockets : List SocketId} {x : SocketId} (hmem : socket ∈ sockets)
    (hne : socket ≠ x) : socket ∈ sockets.filter (· ≠ x) :=
  List.mem_filter.mpr ⟨hmem, by simpa using hne⟩

/-- A thread bears what it bears until it closes the socket. -/
theorem bears_apply (hub : Hub) (effect : Effect) (hbears : ledger.Bears socket) :
    socket ∈ (hub.apply effect).closed ∨ (ledger.apply effect).Bears socket := by
  cases effect with
  | created x kind =>
      refine Or.inr ?_
      cases kind <;> exact hbears
  | closed x =>
      by_cases heq : socket = x
      · exact Or.inl (heq ▸ List.mem_cons_self)
      · exact Or.inr (hbears.imp (mem_filter_ne · heq) id)
  | removed x | served x =>
      refine Or.inr ?_
      rw [Ledger.apply]
      split
      next => exact hbears
      next => exact hbears.imp id fun h => h.imp id (List.mem_cons_of_mem x)
  | refused x =>
      refine Or.inr ?_
      rw [Ledger.apply]
      split
      next =>
        rcases hbears with howed | hrest
        · by_cases heq : socket = x
          · exact Or.inr (Or.inl (heq ▸ List.mem_cons_self))
          · exact Or.inl (mem_filter_ne howed heq)
        · exact Or.inr (hrest.imp (List.mem_cons_of_mem x) id)
      next => exact hbears
  | locked sockets => exact Or.inr (hbears.imp (List.mem_append_right sockets) id)
  | nothing | registered | handedOver | cleared | shutDown => exact Or.inr hbears

/-- A thread holds what it holds until it closes the socket or gives it away. -/
theorem holds_apply (hub : Hub) (effect : Effect) (hheld : socket ∈ ledger.holds) :
    socket ∈ (hub.apply effect).closed ∨ socket ∈ (ledger.apply effect).holds ∨
      effect.Gives socket := by
  cases effect with
  | created x kind =>
      refine Or.inr (Or.inl ?_)
      cases kind with
      | client | upstream => exact List.mem_cons_of_mem x hheld
      | server | datagram => exact hheld
  | closed x =>
      by_cases heq : socket = x
      · exact Or.inl (heq ▸ List.mem_cons_self)
      · exact Or.inr (Or.inl (mem_filter_ne hheld heq))
  | served x =>
      by_cases heq : socket = x
      · exact Or.inr (Or.inr (Or.inl (heq ▸ rfl)))
      · refine Or.inr (Or.inl ?_)
        rw [Ledger.apply]
        split
        next => exact mem_filter_ne hheld heq
        next => exact hheld
  | handedOver x =>
      by_cases heq : socket = x
      · exact Or.inr (Or.inr (Or.inr (heq ▸ rfl)))
      · exact Or.inr (Or.inl (mem_filter_ne hheld heq))
  | removed x | refused x =>
      refine Or.inr (Or.inl ?_)
      rw [Ledger.apply]
      split <;> exact hheld
  | nothing | registered | locked | cleared | shutDown => exact Or.inr (Or.inl hheld)

/-- A thread keeps its business unless it closes the socket or gives it away. -/
theorem has_apply (hub : Hub) (effect : Effect) (hhas : ledger.Has socket) :
    socket ∈ (hub.apply effect).closed ∨ (ledger.apply effect).Has socket ∨
      effect.Gives socket := by
  rcases hhas with hheld | hbears
  · exact (holds_apply hub effect hheld).imp id fun h => h.imp Or.inl id
  · exact (bears_apply hub effect hbears).imp id fun h => Or.inl (Or.inr h)

/-- Nothing is taken out of `sessions` when a socket comes in. -/
theorem mem_registered {x : SocketId} (hmem : socket ∈ hub.sessions) :
    socket ∈ (hub.apply (.registered x)).sessions := by
  rw [Hub.apply]
  dsimp only
  split
  next => exact hmem
  next => exact List.mem_append_left _ hmem

/-- What `close` has still to come to, it comes to, unless a thread takes it out of
`sessions`. -/
theorem awaits_apply (hawaits : hub.Awaits socket)
    (hbooks : ∀ x ∈ ledger.closed, x ∈ hub.closed)
    (hlocked : ∀ sockets, effect = .locked sockets → sockets = hub.sessions)
    (hcleared : effect = .cleared → hub.swept = true) :
    socket ∈ (hub.apply effect).closed ∨ (hub.apply effect).Awaits socket ∨
      (ledger.apply effect).Has socket := by
  cases effect with
  | registered x => exact Or.inr (Or.inl ⟨mem_registered hawaits.1, hawaits.2⟩)
  | removed x =>
      by_cases heq : socket = x
      · subst heq
        rw [Ledger.apply]
        split
        next hdone =>
          rcases hdone with hclosed | howed | hrefused
          · exact Or.inl (hbooks socket hclosed)
          · exact Or.inr (Or.inr (Or.inr (Or.inl howed)))
          · exact Or.inr (Or.inr (Or.inr (Or.inr (Or.inl hrefused))))
        next => exact Or.inr (Or.inr (Or.inr (Or.inr (Or.inr List.mem_cons_self))))
      · exact Or.inr (Or.inl ⟨mem_filter_ne hawaits.1 heq, hawaits.2⟩)
  | locked sockets =>
      have hmem : socket ∈ sockets := hlocked sockets rfl ▸ hawaits.1
      exact Or.inr (Or.inr (Or.inr (Or.inl (List.mem_append_left _ hmem))))
  | cleared =>
      have hswept := hcleared rfl
      rw [hawaits.2] at hswept
      cases hswept
  | closed x => exact Or.inr (Or.inl hawaits)
  | nothing | created | served | handedOver | refused | shutDown => exact Or.inr (Or.inl hawaits)

end Effects

/-! ## Steps -/

section Steps

variable {config : RelayConfig} {hub : Hub} {socket : SocketId} {effect : Effect}

/-- What an effect says about its call. -/
structure Justified (config : RelayConfig) (hub : Hub) (op : ServerOp) (answer : op.Answer)
    (effect : Effect) : Prop where
  created : ∀ x kind, effect = .created x kind → hub.kind x = none ∧ ∃ value, answer = .ok value
  locked : ∀ sockets, effect = .locked sockets → sockets = hub.sessions
  cleared : effect = .cleared → hub.locked = true
  gives : ∀ x, effect.Gives x →
    ∃ thread ∈ serverSpawns config op answer, x ∈ thread.book.owes
  spawns : ∀ thread ∈ serverSpawns config op answer,
    (∃ client, effect = .served client ∧ thread.book = .session client) ∨
      ∃ task, thread.book = .block task

/-- The effect neither gives nor takes, except that it may close a socket or take it out
of `sessions`. -/
def Effect.Quiet : Effect → Prop
  | .created _ _ | .served _ | .handedOver _ | .locked _ | .cleared => False
  | _ => True

/-- An effect that creates nothing is justified. -/
theorem Justified.quiet {op : ServerOp} {answer : op.Answer} (hquiet : effect.Quiet)
    (hspawns : serverSpawns config op answer = []) : Justified config hub op answer effect where
  created := by
    rintro x kind rfl
    exact hquiet.elim
  locked := by
    rintro sockets rfl
    exact hquiet.elim
  cleared := by
    rintro rfl
    exact hquiet.elim
  gives := by
    rintro x (rfl | rfl)
    · exact hquiet.elim
    · exact hquiet.elim
  spawns thread hmem := by
    rw [hspawns] at hmem
    cases hmem

/-- A new socket is justified where there was none. -/
theorem Justified.opened {op : ServerOp} {value : op.Value} {kind : SocketKind}
    (hfresh : hub.kind socket = none) (hspawns : serverSpawns config op (.ok value) = []) :
    Justified config hub op (.ok value) (.created socket kind) where
  created := by
    rintro x kind ⟨⟩
    exact ⟨hfresh, value, rfl⟩
  locked := nofun
  cleared := nofun
  gives x hgives := by rcases hgives with ⟨⟨⟩⟩ | ⟨⟨⟩⟩
  spawns thread hmem := by
    rw [hspawns] at hmem
    cases hmem

/-- A call that throws creates nothing. -/
theorem quiet_error {op : RelayOp} {error : Exception}
    (heffect : RelayEffect op (.error error) effect) : effect.Quiet := by
  cases op with
  | connect =>
      rcases heffect with rfl | rfl
      · trivial
      · trivial
  | execute task =>
      cases task with
      | upstreamToClient | watchControl =>
          cases heffect
          trivial
  | addSession | removeSession | diverge => exact heffect.elim
  | _ =>
      cases heffect
      trivial

/-- Every allowed call of a session is justified. -/
theorem justified_relay {op : RelayOp} {answer : op.Answer} (heffect : RelayEffect op answer effect)
    (hallows : hub.AllowsRelay op answer) : Justified config hub (.relay op) answer effect := by
  cases answer with
  | error error =>
      apply Justified.quiet (quiet_error heffect)
      cases op <;> rfl
  | ok value =>
      cases op with
      | newSocket | newDatagramSocket =>
          cases heffect
          exact Justified.opened hallows rfl
      | execute task =>
          cases task with
          | upstreamToClient client upstream =>
              cases heffect
              refine ⟨nofun, nofun, nofun, ?_, ?_⟩
              · rintro x (⟨⟨⟩⟩ | ⟨⟨⟩⟩)
                exact ⟨_, List.mem_singleton_self _, List.mem_singleton_self _⟩
              · intro thread hmem
                rw [List.mem_singleton.mp hmem]
                exact Or.inr ⟨.upstreamToClient client upstream, rfl⟩
          | watchControl client relay =>
              cases heffect
              refine ⟨nofun, nofun, nofun, ?_, ?_⟩
              · rintro x (⟨⟨⟩⟩ | ⟨⟨⟩⟩)
              · intro thread hmem
                rw [List.mem_singleton.mp hmem]
                exact Or.inr ⟨.watchControl client relay, rfl⟩
      | write target bytes =>
          rcases heffect with ⟨_, rfl⟩ | ⟨_, rfl⟩
          · exact Justified.quiet trivial rfl
          · exact Justified.quiet trivial rfl
      | diverge => exact heffect.elim
      | _ =>
          cases heffect
          exact Justified.quiet trivial rfl

/-- Every allowed call is. -/
theorem justified {op : ServerOp} {answer : op.Answer} (heffect : ServerEffect op answer effect)
    (hallows : hub.Allows op answer) : Justified config hub op answer effect := by
  cases op with
  | relay op => exact justified_relay heffect hallows
  | accept server =>
      cases answer with
      | ok client =>
          cases heffect
          exact Justified.opened hallows.2 rfl
      | error error =>
          cases heffect
          exact Justified.quiet trivial rfl
  | serve client =>
      cases answer with
      | ok value =>
          cases heffect
          refine ⟨nofun, nofun, nofun, ?_, ?_⟩
          · rintro x (⟨⟨⟩⟩ | ⟨⟨⟩⟩)
            exact ⟨_, List.mem_singleton_self _, List.mem_singleton_self _⟩
          · intro thread hmem
            rw [List.mem_singleton.mp hmem]
            exact Or.inl ⟨client, rfl, rfl⟩
      | error error =>
          cases heffect
          exact Justified.quiet trivial rfl
  | lockSessions =>
      obtain ⟨sockets, rfl, rfl⟩ := heffect
      refine ⟨nofun, ?_, nofun, nofun, nofun⟩
      rintro _ ⟨⟩
      cases hallows.1
      rfl
  | clearSessions =>
      obtain ⟨rfl, rfl⟩ := heffect
      exact ⟨nofun, nofun, fun _ => hallows, nofun, nofun⟩
  | shutdownNow =>
      obtain ⟨rfl, rfl⟩ := heffect
      exact Justified.quiet trivial rfl

end Steps

/-! ## Books -/

section Books

variable {hub : Hub} {ledger : Ledger} {effect : Effect} {op : ServerOp} {answer : op.Answer}

/-- What a thread takes for a client is one. -/
structure Ledger.Of (hub : Hub) (ledger : Ledger) : Prop where
  accepted : ∀ x ∈ ledger.accepted, hub.kind x = some .client
  refused : ∀ x ∈ ledger.refused, hub.kind x = some .client
  greeting : ledger.greeting = true → ∀ x ∈ ledger.owes, hub.kind x = some .client

theorem Ledger.Of.mono {hub' : Hub} (hof : ledger.Of hub)
    (hkind : ∀ x, hub.kind x = some .client → hub'.kind x = some .client) : ledger.Of hub' where
  accepted x hmem := hkind x (hof.accepted x hmem)
  refused x hmem := hkind x (hof.refused x hmem)
  greeting htrue x hmem := hkind x (hof.greeting htrue x hmem)

/-- A ledger's clients stay clients. -/
theorem Ledger.Of.apply (hof : ledger.Of hub)
    (hfresh : ∀ x k, effect = .created x k → hub.kind x = none) :
    (ledger.apply effect).Of (hub.apply effect) := by
  have hkept : ledger.Of (hub.apply effect) := hof.mono fun _ hkind => kind_apply hkind hfresh
  cases effect with
  | created x kind =>
      cases kind with
      | client =>
          refine ⟨fun y hmem => ?_, hkept.refused, hkept.greeting⟩
          rcases List.mem_cons.mp hmem with rfl | hold
          · exact Function.update_self _ _ _
          · exact hkept.accepted y hold
      | upstream =>
          exact ⟨hkept.accepted, hkept.refused, fun htrue => absurd htrue Bool.false_ne_true⟩
      | server | datagram => exact hkept
  | closed x =>
      refine ⟨hkept.accepted, hkept.refused, fun htrue y hmem => ?_⟩
      exact hkept.greeting htrue y (List.mem_of_mem_filter hmem)
  | removed x =>
      rw [Ledger.apply]
      split
      next => exact hkept
      next => exact ⟨hkept.accepted, hkept.refused, hkept.greeting⟩
  | served x =>
      rw [Ledger.apply]
      split
      next => exact ⟨hkept.accepted, hkept.refused, hkept.greeting⟩
      next => exact ⟨hkept.accepted, hkept.refused, hkept.greeting⟩
  | handedOver x => exact ⟨hkept.accepted, hkept.refused, hkept.greeting⟩
  | refused x =>
      rw [Ledger.apply]
      split
      next hrefusal =>
        refine ⟨hkept.accepted, fun y hmem => ?_, fun htrue y hmem => ?_⟩
        · rcases List.mem_cons.mp hmem with rfl | hold
          · exact hkept.greeting hrefusal.1 y hrefusal.2
          · exact hkept.refused y hold
        · exact hkept.greeting htrue y (List.mem_of_mem_filter hmem)
      next => exact hkept
  | locked sockets =>
      exact ⟨hkept.accepted, hkept.refused, fun htrue => absurd htrue Bool.false_ne_true⟩
  | nothing | registered | cleared | shutDown => exact hkept

/-- And those that its thread accepts become some. -/
theorem Ledger.Of.after (hof : ledger.Of hub)
    (hfresh : ∀ x k, effect = .created x k → hub.kind x = none) :
    (ledger.after effect answer).Of (hub.apply effect) := by
  have happlied := hof.apply hfresh
  cases answer with
  | ok => exact happlied
  | error => exact ⟨happlied.accepted, happlied.refused, happlied.greeting⟩

/-- A stray is not found again. -/
theorem strays_after (hstrays : ledger.strays ≠ []) :
    (ledger.after effect answer).strays ≠ [] := by
  have happlied : (ledger.apply effect).strays ≠ [] := by
    cases effect with
    | created x kind => cases kind <;> exact hstrays
    | removed | served | refused =>
        rw [Ledger.apply]
        split <;> first | exact hstrays | exact List.cons_ne_nil _ _
    | _ => exact hstrays
  cases answer with
  | ok | error => exact happlied

/-- A client that is served without having been accepted strays. -/
theorem served_stray {client : SocketId} (hserved : client ∉ ledger.accepted) :
    (ledger.after (.served client) answer).strays ≠ [] := by
  cases answer with
  | ok | error =>
      rw [Ledger.after, Ledger.apply, if_neg hserved]
      exact List.cons_ne_nil _ _

/-- What a thread notes as closed is closed. -/
theorem closed_after (hbooks : ∀ x ∈ ledger.closed, x ∈ hub.closed) :
    ∀ x ∈ (ledger.after effect answer).closed, x ∈ (hub.apply effect).closed := by
  have happlied : ∀ x ∈ (ledger.apply effect).closed, x ∈ (hub.apply effect).closed := by
    cases effect with
    | created x kind => cases kind <;> exact hbooks
    | closed x => exact fun y hmem => List.cons_subset_cons x hbooks hmem
    | removed | served | refused =>
        rw [Ledger.apply]
        split <;> exact hbooks
    | _ => exact hbooks
  cases answer with
  | ok | error => exact happlied

/-- A thread that is to sweep is so until it has. -/
theorem sweeps_after (hswept : (hub.apply effect).swept = false) (hsweeps : ledger.sweeps = true) :
    (ledger.after effect answer).sweeps = true := by
  have happlied : (ledger.apply effect).sweeps = true := by
    cases effect with
    | created x kind => cases kind <;> exact hsweeps
    | removed | served | refused =>
        rw [Ledger.apply]
        split <;> exact hsweeps
    | locked sockets => cases hswept
    | _ => exact hsweeps
  cases answer with
  | ok | error => exact happlied

/-- A call that throws costs a thread nothing that it bears. -/
theorem bears_after {socket : SocketId} (hbears : (ledger.apply effect).Bears socket) :
    (ledger.after effect answer).Bears socket := by
  cases answer with
  | ok | error => exact hbears

/-- A call that throws costs a thread only what it holds. -/
theorem has_after {socket : SocketId} (hhas : (ledger.apply effect).Has socket)
    (hcreated : ∀ x kind, effect = .created x kind → ∃ value, answer = .ok value)
    (hheld : ∀ error, answer = .error error → socket ∉ ledger.holds) :
    (ledger.after effect answer).Has socket := by
  cases answer with
  | ok => exact hhas
  | error error =>
      refine hhas.resolve_left ?_ |> Or.inr
      have hnew := hheld error rfl
      cases effect with
      | created x kind =>
          obtain ⟨value, hvalue⟩ := hcreated x kind rfl
          cases hvalue
      | closed | handedOver => exact fun hmem => hnew (List.mem_of_mem_filter hmem)
      | served | removed | refused =>
          rw [Ledger.apply]
          split <;> first | exact hnew | exact fun hmem => hnew (List.mem_of_mem_filter hmem)
      | _ => exact hnew

end Books

/-! ## Runs -/

section Runs

variable {config : RelayConfig} {server socket : SocketId} {crew crew' : ServerCrew}

/-- When the thread ends it is answerable for nothing. -/
def Tidy (thread : ServerThread) : Prop :=
  Safe serverLedgerStep (fun _ _ => False) (Ends (fun _ => Clear) fun _ => Clear) thread.code
    thread.book

/-- A block that is submitted is tidy about its sockets. -/
theorem spawns_tidy (op : ServerOp) (answer : op.Answer) :
    ∀ thread ∈ serverSpawns config op answer, Tidy thread := by
  intro thread hmem
  unfold serverSpawns at hmem
  split at hmem
  next client _ =>
    rw [List.mem_singleton.mp hmem]
    have hsession : Alone ledgerStep (Unserved client) (handleClient config client)
        (fun _ => Clear) fun _ => Clear := handleClient_clear.nothrow
    exact ofRelay_alone hsession _ unserved_session
  next task _ =>
    rw [List.mem_singleton.mp hmem]
    have hblock : Alone ledgerStep (· = Ledger.block task) (runTask config.loops task)
        (fun _ => Clear) fun _ => Clear := (runTask_clear config.loops task).nothrow
    exact ofRelay_alone hblock _ rfl
  next => cases hmem

/-- So are the threads of a started server. -/
theorem started_tidy : ∀ thread ∈ (started config server).threads, Tidy thread := by
  intro thread hmem
  rcases List.mem_pair.mp hmem with rfl | rfl
  · exact acceptLoop_clear config.loops _ ⟨nofun, nofun, nofun, rfl, rfl⟩
  · exact close_clear.nothrow _ rfl

/-- What holds of the relay whatever its calls throw. -/
structure Ordered (crew : ServerCrew) : Prop where
  tidy : ∀ thread ∈ crew.threads, Tidy thread
  closed : ∀ thread ∈ crew.threads, ∀ x ∈ thread.book.closed, x ∈ crew.shared.closed
  locked : crew.shared.locked = true → crew.shared.swept = true
  /-- `close` is on its way. -/
  sweeps : crew.shared.swept = false → ∃ thread ∈ crew.threads, thread.book.sweeps = true
  /-- Some thread closes what `close` has taken. -/
  taken : ∀ x ∈ crew.shared.taken,
    x ∈ crew.shared.closed ∨ ∃ thread ∈ crew.threads, thread.book.Bears x
  clients : (∃ thread ∈ crew.threads, thread.book.strays ≠ []) ∨
    ∀ thread ∈ crew.threads, thread.book.Of crew.shared

/-- A started server is in order. -/
theorem ordered_started : Ordered (started config server) where
  tidy := started_tidy
  closed := by
    intro thread hmem
    rcases List.mem_pair.mp hmem with rfl | rfl <;> exact nofun
  locked := nofun
  sweeps _ := ⟨_, List.mem_cons_of_mem _ List.mem_cons_self, rfl⟩
  taken := nofun
  clients := by
    refine Or.inr fun thread hmem => ?_
    rcases List.mem_pair.mp hmem with rfl | rfl
    · exact ⟨nofun, nofun, nofun⟩
    · exact ⟨nofun, nofun, nofun⟩

section Step

variable {hub : Hub} {threads : List ServerThread} {index : Nat} {op : ServerOp}
  {next : op.Answer → Prog ServerOp ServerOp.Answer (Except Exception Unit)} {book : Ledger}
  {answer : op.Answer} {effect : Effect}

/-- The step of one thread leaves the notes of all true. -/
theorem closed_step (hthread : threads[index]? = some ⟨.call op next, book⟩)
    (hjustified : Justified config hub op answer effect)
    (hclosed : ∀ thread ∈ threads, ∀ x ∈ thread.book.closed, x ∈ hub.closed) :
    ∀ thread ∈ threads.set index ⟨next answer, book.after effect answer⟩ ++
        serverSpawns config op answer,
      ∀ x ∈ thread.book.closed, x ∈ (hub.apply effect).closed := by
  refine Crew.forall_threads hthread hclosed ?_ ?_ ?_
  · exact fun other hbooks x hmem => closed_apply (hbooks x hmem)
  · exact closed_after
  · intro other hmem x hnew
    rcases hjustified.spawns other hmem with ⟨client, _, hbook⟩ | ⟨task, hbook⟩
    · rw [hbook] at hnew
      cases hnew
    · rw [hbook] at hnew
      cases task <;> cases hnew

/-- After the sweep the set stays locked. -/
theorem locked_step (hlocked : hub.locked = true → hub.swept = true) :
    (hub.apply effect).locked = true → (hub.apply effect).swept = true := by
  cases effect with
  | locked sockets => exact fun _ => rfl
  | cleared => exact nofun
  | _ => exact hlocked

/-- Until the sweep is made some thread is to make it. -/
theorem sweeps_step (hthread : threads[index]? = some ⟨.call op next, book⟩)
    (hsweeps : hub.swept = false → ∃ thread ∈ threads, thread.book.sweeps = true)
    (hswept : (hub.apply effect).swept = false) :
    ∃ thread ∈ threads.set index ⟨next answer, book.after effect answer⟩ ++
        serverSpawns config op answer, thread.book.sweeps = true := by
  have hbefore : hub.swept = false := by
    cases effect with
    | locked sockets => cases hswept
    | _ => exact hswept
  apply Crew.exists_thread hthread (hsweeps hbefore) fun _ h => h
  exact fun hbook => Or.inl (sweeps_after hswept hbook)

/-- What the sweep has taken is closed, or some thread bears it. -/
theorem taken_step (hthread : threads[index]? = some ⟨.call op next, book⟩)
    (htaken : ∀ x ∈ hub.taken, x ∈ hub.closed ∨ ∃ thread ∈ threads, thread.book.Bears x) :
    ∀ x ∈ (hub.apply effect).taken, x ∈ (hub.apply effect).closed ∨
      ∃ thread ∈ threads.set index ⟨next answer, book.after effect answer⟩ ++
        serverSpawns config op answer, thread.book.Bears x := by
  intro x hmem
  have hcases : (∃ sockets, effect = .locked sockets ∧ x ∈ sockets) ∨ x ∈ hub.taken := by
    cases effect with
    | locked sockets => exact Or.inl ⟨sockets, rfl, hmem⟩
    | _ => exact Or.inr hmem
  rcases hcases with ⟨sockets, rfl, hsocket⟩ | hbefore
  · have hbears : (book.apply (.locked sockets)).Bears x :=
      Or.inl (List.mem_append_left _ hsocket)
    exact Or.inr ⟨_, Crew.acted_mem hthread, bears_after hbears⟩
  · by_cases hdone : x ∈ (hub.apply effect).closed
    · exact Or.inl hdone
    rcases htaken x hbefore with hclosed | hthere
    · exact absurd (closed_apply hclosed) hdone
    · right
      apply Crew.exists_thread hthread hthere fun _ h => h
      exact fun hbook => Or.inl (bears_after ((bears_apply hub effect hbook).resolve_left hdone))

/-- The clients stay known, unless one has gone astray. -/
theorem clients_step (hthread : threads[index]? = some ⟨.call op next, book⟩)
    (hjustified : Justified config hub op answer effect)
    (hclients : (∃ thread ∈ threads, thread.book.strays ≠ []) ∨
      ∀ thread ∈ threads, thread.book.Of hub) :
    (∃ thread ∈ threads.set index ⟨next answer, book.after effect answer⟩ ++
        serverSpawns config op answer, thread.book.strays ≠ []) ∨
      ∀ thread ∈ threads.set index ⟨next answer, book.after effect answer⟩ ++
        serverSpawns config op answer, thread.book.Of (hub.apply effect) := by
  rcases hclients with hstray | hclients
  · left
    apply Crew.exists_thread hthread hstray fun _ h => h
    exact fun hstrays => Or.inl (strays_after hstrays)
  · by_cases hstrays : (book.after effect answer).strays = []
    · right
      have hfresh := fun x kind heq => (hjustified.created x kind heq).1
      have hbook : book.Of hub := hclients _ (List.mem_of_getElem? hthread)
      refine Crew.forall_threads hthread hclients ?_ ?_ ?_
      · exact fun other hof => hof.mono fun _ hkind => kind_apply hkind hfresh
      · exact fun hof => hof.after hfresh
      · intro other hmem
        rcases hjustified.spawns other hmem with ⟨client, rfl, hspawned⟩ | ⟨task, hspawned⟩
        · have haccepted : client ∈ book.accepted := by
            by_contra hnone
            exact served_stray hnone hstrays
          rw [hspawned]
          refine ⟨nofun, nofun, fun _ x howed => ?_⟩
          rw [List.mem_singleton.mp howed]
          exact hbook.accepted client haccepted
        · rw [hspawned]
          cases task <;> exact ⟨nofun, nofun, nofun⟩
    · exact Or.inl ⟨_, Crew.acted_mem hthread, hstrays⟩

end Step

/-- Every step leaves the server in order. -/
theorem Ordered.step (hordered : Ordered crew) (hstep : ServerStep config crew crew') :
    Ordered crew' := by
  have htidy : ∀ thread ∈ crew'.threads, Tidy thread := by
    apply hstep.safe _ spawns_tidy hordered.tidy
    rintro op hub book answer hub' book' ⟨effect, heffect, _, heq⟩
    cases heq
    exact ⟨effect, heffect, rfl⟩
  cases hstep with
  | @step hub _ threads index op next book answer _ hthread hact =>
      obtain ⟨effect, heffect, hallows, heq⟩ := hact
      cases heq
      have hjustified : Justified config hub op answer effect := justified heffect hallows
      exact {
        tidy := htidy
        closed := closed_step hthread hjustified hordered.closed
        locked := locked_step hordered.locked
        sweeps := sweeps_step hthread hordered.sweeps
        taken := taken_step hthread hordered.taken
        clients := clients_step hthread hjustified hordered.clients }

/-- The socket is closed, or `close` comes to it, or it is some thread's business. -/
def Accounted (socket : SocketId) (crew : ServerCrew) : Prop :=
  (∃ kind, crew.shared.kind socket = some kind ∧ (kind = .client ∨ kind = .upstream)) →
    socket ∈ crew.shared.closed ∨ crew.shared.Awaits socket ∨
      ∃ thread ∈ crew.threads, thread.book.Has socket

/-- A socket that is there after a step was there before, or the step created it. -/
theorem kind_of_apply {hub : Hub} {effect : Effect} {kind : SocketKind}
    (hkind : (hub.apply effect).kind socket = some kind) :
    hub.kind socket = some kind ∨ effect = .created socket kind := by
  cases effect with
  | created x created =>
      by_cases heq : socket = x
      · subst heq
        have hcreated : some created = some kind := by simpa [Hub.apply] using hkind
        cases hcreated
        exact Or.inr rfl
      · left
        rw [← hkind]
        exact (Function.update_of_ne heq _ _).symm
  | _ => exact Or.inl hkind

/-- No socket has been created yet. -/
theorem accounted_started : Accounted socket (started config server) := by
  rintro ⟨kind, hkind, hcases⟩
  by_cases heq : socket = server
  · subst heq
    have hserver : SocketKind.server = kind := by simpa [started] using hkind
    subst hserver
    rcases hcases with h | h <;> cases h
  · simp [started, heq] at hkind

/-- Every careful step accounts for the socket. -/
theorem Accounted.step (haccounted : Accounted socket crew) (hordered : Ordered crew)
    (hstep : CarefulStep config socket crew crew') : Accounted socket crew' := by
  have hnext : Ordered crew' := hordered.step (hstep.mono fun _ _ _ _ hact => hact.1)
  cases hstep with
  | @step hub _ threads index op next book answer _ hthread hact =>
      obtain ⟨⟨effect, heffect, hallows, heq⟩, hcareful⟩ := hact
      cases heq
      have hjustified : Justified config hub op answer effect := justified heffect hallows
      rintro ⟨kind, hkind, hcases⟩
      -- what `close` has taken some thread bears
      by_cases htaken : socket ∈ (hub.apply effect).taken
      · rcases hnext.taken socket htaken with hclosed | ⟨thread, hmem, hbears⟩
        · exact Or.inl hclosed
        · exact Or.inr (Or.inr ⟨thread, hmem, Or.inr hbears⟩)
      by_cases hdone : socket ∈ (hub.apply effect).closed ∨ (hub.apply effect).Awaits socket
      · exact hdone.imp id Or.inl
      · have hafter : (book.apply effect).Has socket → (book.after effect answer).Has socket := by
          intro hhas
          apply has_after hhas fun x kind heq => (hjustified.created x kind heq).2
          intro error heq hheld
          rcases hcareful error heq hheld with hclosed | hawaits | hmem
          · exact hdone (Or.inl hclosed)
          · exact hdone (Or.inr hawaits)
          · exact htaken hmem
        refine Or.inr (Or.inr ?_)
        rcases kind_of_apply hkind with hold | rfl
        · rcases haccounted ⟨kind, hold, hcases⟩ with hclosed | hawaits | hhas
          · exact absurd (Or.inl (closed_apply hclosed)) hdone
          · have hbooks := hordered.closed _ (List.mem_of_getElem? hthread)
            rcases awaits_apply hawaits hbooks hjustified.locked
                fun heq => hordered.locked (hjustified.cleared heq) with hclosed | hstill | hhas
            · exact absurd (Or.inl hclosed) hdone
            · exact absurd (Or.inr hstill) hdone
            · exact ⟨_, Crew.acted_mem hthread, hafter hhas⟩
          · apply Crew.exists_thread hthread hhas fun _ h => h
            intro hbook
            rcases has_apply hub effect hbook with hclosed | hkept | hgiven
            · exact absurd (Or.inl hclosed) hdone
            · exact Or.inl (hafter hkept)
            · obtain ⟨other, hmem, howed⟩ := hjustified.gives socket hgiven
              exact Or.inr ⟨other, hmem, Or.inr (Or.inl howed)⟩
        · refine ⟨_, Crew.acted_mem hthread, hafter ?_⟩
          rcases hcases with rfl | rfl
          · exact Or.inl List.mem_cons_self
          · exact Or.inl List.mem_cons_self

/-- In a run that does not lose the socket it is accounted for throughout. -/
theorem accounted_run
    (hrun : ReflTransGen (CarefulStep config socket) (started config server) crew) :
    Ordered crew ∧ Accounted socket crew := by
  induction hrun with
  | refl => exact ⟨ordered_started, accounted_started⟩
  | tail _ hstep ih =>
      have hserver : ServerStep config _ _ := hstep.mono fun _ _ _ _ hact => hact.1
      exact ⟨ih.1.step hserver, ih.2.step ih.1 hstep⟩

/-- Whatever `close` meets, when all threads have ended the client of every session that
has not been refused is closed, and so is every upstream socket, unless a call has thrown
in the thread that held it when `close` had not taken it and did not come to it any more. -/
theorem close_leaves_nothing
    (hrun : ReflTransGen (CarefulStep config socket) (started config server) crew)
    (hended : crew.Ended) :
    (crew.shared.kind socket = some .client →
      (∀ thread ∈ crew.threads, socket ∉ thread.book.refused) → socket ∈ crew.shared.closed) ∧
    (crew.shared.kind socket = some .upstream → socket ∈ crew.shared.closed) := by
  obtain ⟨hordered, haccounted⟩ := accounted_run hrun
  have hclear : ∀ thread ∈ crew.threads, Clear thread.book := by
    intro thread hmem
    obtain ⟨value, hvalue⟩ := hended thread hmem
    have hsafe : Tidy thread := hordered.tidy thread hmem
    rw [Tidy, hvalue] at hsafe
    have hends := hsafe _ .refl
    cases value with
    | ok | error => exact hends
  have hfound : ∀ kind, crew.shared.kind socket = some kind → kind = .client ∨ kind = .upstream →
      socket ∈ crew.shared.closed ∨ ∃ thread ∈ crew.threads, socket ∈ thread.book.refused := by
    intro kind hkind hcases
    rcases haccounted ⟨kind, hkind, hcases⟩ with hclosed | hawaits | ⟨thread, hmem, hhas⟩
    · exact Or.inl hclosed
    · obtain ⟨thread, hmem, hsweeps⟩ := hordered.sweeps hawaits.2
      rw [(hclear thread hmem).sweeps] at hsweeps
      cases hsweeps
    · have hbook := hclear thread hmem
      rcases hhas with hheld | howed | hrefused | hstray
      · exact nomatch hbook.holds socket hheld
      · exact nomatch hbook.owes socket howed
      · exact Or.inr ⟨thread, hmem, hrefused⟩
      · rw [hbook.strays] at hstray
        cases hstray
  refine ⟨fun hkind hnone => ?_, fun hkind => ?_⟩
  · rcases hfound _ hkind (Or.inl rfl) with hclosed | ⟨thread, hmem, hrefused⟩
    · exact hclosed
    · exact absurd hrefused (hnone thread hmem)
  · rcases hfound _ hkind (Or.inr rfl) with hclosed | ⟨thread, hmem, hrefused⟩
    · exact hclosed
    · rcases hordered.clients with ⟨other, hother, hstrays⟩ | hclients
      · exact absurd (hclear other hother).strays hstrays
      · have hclient := (hclients thread hmem).refused socket hrefused
        rw [hkind] at hclient
        cases hclient

/-! ## Two runs -/

/-- A platform on which one client connects and nothing can be read. When `rejects` is
set, the executor may be asked to serve the client after it was shut down. -/
def oneClient (rejects : Bool) : (op : ServerOp) → Hub × Ledger → Option (op.Answer × Effect)
  | .accept server, (hub, _) =>
    if server ∉ hub.closed ∧ hub.kind 1 = none then some (.ok 1, .created 1 .client) else none
  | .serve client, (hub, _) =>
    if hub.shut = false then some (.ok (), .served client)
    else if rejects then some (.error { kind := .rejectedExecution }, .nothing)
    else none
  | .lockSessions, (hub, _) =>
    if hub.locked = false then some (.ok hub.sessions, .locked hub.sessions) else none
  | .clearSessions, (hub, _) => if hub.locked = true then some (.ok (), .cleared) else none
  | .shutdownNow, _ => some (.ok (), .shutDown)
  | .relay (.isClosed socket), (hub, _) => some (.ok (decide (socket ∈ hub.closed)), .nothing)
  | .relay (.setOption _ _), _ => some (.ok (), .nothing)
  | .relay (.addSession socket), (hub, _) =>
    if hub.locked = false then some (.ok (), .registered socket) else none
  | .relay (.removeSession socket), (hub, _) =>
    if hub.locked = false then some (.ok (), .removed socket) else none
  | .relay (.read _ _), (_, ledger) =>
    if ledger.holds = [] then some (.error { kind := .socket }, .nothing) else none
  | .relay (.close socket), _ => some (.ok (), .closed socket)
  | _, _ => none

def oneClientStep (rejects : Bool) (op : ServerOp) (before : Hub × Ledger) :
    Option (op.Answer × Hub × Ledger) :=
  (oneClient rejects op before).map fun (answer, effect) =>
    (answer, before.1.apply effect, before.2.after effect answer)

/-- The platform with one client does what is allowed. -/
theorem oneClient_allowed {rejects : Bool} {op : ServerOp} {hub : Hub} {ledger : Ledger}
    {answer : op.Answer} {effect : Effect}
    (hanswer : oneClient rejects op (hub, ledger) = some (answer, effect)) :
    ServerEffect op answer effect ∧ hub.Allows op answer := by
  cases op with
  | relay op =>
      cases op with
      | isClosed | setOption | close =>
          cases hanswer
          exact ⟨rfl, by first | rfl | trivial⟩
      | addSession | removeSession | read =>
          rw [oneClient] at hanswer
          split at hanswer
          next hcond =>
            cases hanswer
            exact ⟨rfl, by first | exact hcond | trivial⟩
          next => cases hanswer
      | _ => cases hanswer
  | accept server =>
      rw [oneClient] at hanswer
      split at hanswer
      next hcond =>
        cases hanswer
        exact ⟨rfl, hcond⟩
      next => cases hanswer
  | serve client =>
      rw [oneClient] at hanswer
      split at hanswer
      next hopen =>
        cases hanswer
        exact ⟨rfl, hopen⟩
      next =>
        split at hanswer
        next =>
          cases hanswer
          exact ⟨rfl, trivial⟩
        next => cases hanswer
  | lockSessions =>
      rw [oneClient] at hanswer
      split at hanswer
      next hunlocked =>
        cases hanswer
        exact ⟨⟨_, rfl, rfl⟩, rfl, hunlocked⟩
      next => cases hanswer
  | clearSessions =>
      rw [oneClient] at hanswer
      split at hanswer
      next hlocked =>
        cases hanswer
        exact ⟨⟨rfl, rfl⟩, hlocked⟩
      next => cases hanswer
  | shutdownNow =>
      cases hanswer
      exact ⟨⟨rfl, rfl⟩, trivial⟩

theorem oneClient_careful {op : ServerOp} {hub : Hub} {ledger : Ledger} {error : Exception}
    {effect : Effect}
    (hanswer : oneClient false op (hub, ledger) = some (.error error, effect)) :
    ledger.holds = [] := by
  cases op with
  | relay op => cases op <;> simp_all [oneClient]
  | _ => simp_all [oneClient]

/-- So its steps are steps of the server. -/
theorem oneClientStep_server {rejects : Bool} (op : ServerOp) (before : Hub × Ledger)
    (answer : op.Answer) (after : Hub × Ledger)
    (hstep : oneClientStep rejects op before = some (answer, after)) :
    serverAct op before answer after := by
  obtain ⟨⟨_, effect⟩, hanswer, heq⟩ := Option.map_eq_some_iff.mp hstep
  cases heq
  obtain ⟨heffect, hallows⟩ := oneClient_allowed hanswer
  exact ⟨effect, heffect, hallows, rfl⟩

/-- And careful ones, if it refuses nobody. -/
theorem oneClientStep_careful (op : ServerOp) (before : Hub × Ledger)
    (answer : op.Answer) (after : Hub × Ledger)
    (hstep : oneClientStep false op before = some (answer, after)) :
    carefulAct socket op before answer after := by
  refine ⟨oneClientStep_server op before answer after hstep, ?_⟩
  obtain ⟨⟨_, effect⟩, hanswer, heq⟩ := Option.map_eq_some_iff.mp hstep
  cases heq
  rintro error rfl hheld
  rw [oneClient_careful hanswer] at hheld
  cases hheld

/-- The relay of the runs below. -/
def smallConfig : RelayConfig := .withRules ⟨[], []⟩ 2

/-- The threads run in the order of the schedule. -/
abbrev follow (rejects : Bool) (crew : ServerCrew) (schedule : List Nat) : Option ServerCrew :=
  schedule.foldlM (Crew.advance (oneClientStep rejects) (serverSpawns smallConfig)) crew

/-- Whether all threads have ended and none has refused the client, and what became of it. -/
def summary (crew : ServerCrew) : Bool × Bool × Option SocketKind × List SocketId :=
  (crew.threads.all fun thread => Crew.ended thread.code,
    crew.threads.all fun thread => decide (1 ∉ thread.book.refused),
    crew.shared.kind 1, crew.shared.closed)

theorem summary_eq {kind : Option SocketKind} {closed : List SocketId}
    (hsummary : summary crew = (true, true, kind, closed)) :
    crew.Ended ∧ (∀ thread ∈ crew.threads, 1 ∉ thread.book.refused) ∧
      crew.shared.kind 1 = kind ∧ crew.shared.closed = closed := by
  obtain ⟨hended, hrest⟩ := Prod.mk.inj hsummary
  obtain ⟨hrefused, hrest⟩ := Prod.mk.inj hrest
  refine ⟨Crew.Ended.of_all hended, fun thread hmem => ?_, Prod.mk.inj hrest⟩
  exact of_decide_eq_true (List.all_eq_true.mp hrefused thread hmem)

/-- `close` comes before the session has read anything. -/
theorem close_leaves_nothing_served :
    ∃ crew, ReflTransGen (CarefulStep smallConfig 1) (started smallConfig 0) crew ∧ crew.Ended ∧
      crew.shared.kind 1 = some .client ∧ 1 ∈ crew.shared.closed := by
  have hrun : (follow false (started smallConfig 0)
      [0, 0, 0, 0, 0, 1, 1, 1, 1, 1, 2, 2, 2, 0]).map summary =
      some (true, true, some .client, [1, 1, 0]) := by decide
  obtain ⟨crew, hcrew, hsummary⟩ := Option.map_eq_some_iff.mp hrun
  obtain ⟨hended, hrefused, hkind, _⟩ := summary_eq hsummary
  have hsteps : ReflTransGen (CarefulStep smallConfig 1) (started smallConfig 0) crew :=
    Crew.schedule_reaches oneClientStep_careful hcrew
  exact ⟨crew, hsteps, hended, hkind, (close_leaves_nothing hsteps hended).1 hkind hrefused⟩

/-- `close` is called and returns between `accept` and `sessions += client`. The executor
takes no task any more, so that `acceptLoop` ends and nobody closes the client. -/
theorem close_leaves_client :
    ∃ before crew, ReflTransGen (ServerStep smallConfig) (started smallConfig 0) before ∧
      before.shared.kind 1 = some .client ∧ before.shared.swept = false ∧
      ReflTransGen (ServerStep smallConfig) before crew ∧ crew.Ended ∧
      (∀ thread ∈ crew.threads, 1 ∉ thread.book.refused) ∧ 1 ∉ crew.shared.closed := by
  have haccept : (follow true (started smallConfig 0) [0, 0]).map
      (fun crew => (crew.shared.kind 1, crew.shared.swept)) = some (some .client, false) := by
    decide
  have hrun : ((follow true (started smallConfig 0) [0, 0]).bind
      (follow true · [1, 1, 1, 1, 0, 0, 0])).map summary =
      some (true, true, some .client, [0]) := by decide
  obtain ⟨before, hbefore, hview⟩ := Option.map_eq_some_iff.mp haccept
  obtain ⟨hkind, hswept⟩ := Prod.mk.inj hview
  rw [hbefore] at hrun
  obtain ⟨crew, hcrew, hsummary⟩ := Option.map_eq_some_iff.mp hrun
  obtain ⟨hended, hrefused, _, hclosed⟩ := summary_eq hsummary
  refine ⟨before, crew, Crew.schedule_reaches oneClientStep_server hbefore, hkind, hswept,
    Crew.schedule_reaches oneClientStep_server hcrew, hended, hrefused, ?_⟩
  rw [hclosed]
  decide

end Runs

end AIUnblock.LocalSocksRelay
