import AIUnblock.Foundation.Runs
import Mathlib.Data.Bool.Basic

/-! # Starting and stopping the native engine

`hev-jni.c` keeps one work thread, which runs `hev_socks5_tunnel_main`. The service's calls
exclude each other by a mutex, but not the thread: with it they share the flags of `tsync`
in `hev-socks5-tunnel.c` and the pair of sockets that wakes the thread's event task.
-/

namespace AIUnblock

/-- Where the work thread is. Each step between two of these is atomic for the calls. -/
inductive WorkPhase
  | none
  /-- Before `hev_socks5_tunnel_init`. -/
  | entering
  /-- In `hev_socks5_tunnel_init`, before and after the sockets are there. -/
  | initializing
  | opened
  /-- Before the test at the head of `hev_socks5_tunnel_run`. -/
  | initialized
  /-- The event task waits for a byte. -/
  | running
  | stopping
  | unwinding
  /-- In the first loop of `hev_socks5_tunnel_fini`. -/
  | finishing
  | closing
  | leaving
  | ended
  deriving DecidableEq

/-- Where the call is that holds the mutex of `hev-jni.c`. -/
inductive CallPhase
  | idle
  /-- `native_start_service` joins a thread that has ended. -/
  | rejoining (creates : Bool)
  /-- `hev_socks5_tunnel_stop`, before each of its operations. -/
  | waiting
  | sending
  | writing
  | marking
  | clearing
  /-- `native_stop_service` joins the thread. -/
  | joining
  deriving DecidableEq

/-- What the threads share. -/
structure HevSocks5Tunnel where
  send : Bool := false
  sent : Bool := false
  wait : Bool := false
  stop : Bool := false
  /-- The pair of sockets, and how many bytes are to be read from it. -/
  opened : Bool := false
  unread : Nat := 0
  isRunning : Bool := false
  threadJoinable : Bool := false
  work : WorkPhase := .none
  call : CallPhase := .idle
  /-- A byte was written to a pair that was closed. -/
  astray : Bool := false
  /-- A thread was created while there was one. -/
  doubled : Bool := false
  /-- The thread passed its test while a call was about to set `SYNC_STOP`. -/
  crossed : Bool := false
  /-- Some initialization has failed. -/
  failed : Bool := false
  deriving DecidableEq

namespace HevSocks5Tunnel

inductive Event
  /-- `native_start_service`; `creates` says if it gets its memory and its thread. -/
  | start (creates : Bool)
  /-- `native_stop_service`. -/
  | stop
  /-- The next operation of the call. -/
  | call
  /-- The next operation of the work thread; an initialization may fail. -/
  | work (fails : Bool)

/-- The second half of `native_start_service`. -/
def create (self : HevSocks5Tunnel) (creates : Bool) : HevSocks5Tunnel :=
  if creates then
    { self with
      call := .idle
      isRunning := true
      threadJoinable := true
      work := .entering
      doubled := self.doubled || decide (self.work ≠ .none)
      crossed := false }
  else { self with call := .idle }

/-- `native_start_service` up to the join. -/
def startService (self : HevSocks5Tunnel) (creates : Bool) : HevSocks5Tunnel :=
  if self.isRunning then self
  else if self.threadJoinable then { self with call := .rejoining creates }
  else self.create creates

/-- `native_stop_service` up to `hev_socks5_tunnel_stop`. -/
def stopService (self : HevSocks5Tunnel) : HevSocks5Tunnel :=
  if ¬ self.threadJoinable then self
  else if self.isRunning then { self with call := .waiting }
  else { self with call := .joining }

/-- The rest of the calls: `hev_socks5_tunnel_stop` and the joins. -/
def callStep (self : HevSocks5Tunnel) : Option HevSocks5Tunnel :=
  match self.call with
  | .idle => none
  | .waiting =>
    if self.wait then some self
    else some { self with wait := true, call := if self.send then .sending else .marking }
  | .sending =>
    some { self with sent := true, call := if self.sent then .clearing else .writing }
  | .writing =>
    some { self with
      call := .clearing
      unread := if self.opened then self.unread + 1 else self.unread
      astray := self.astray || !self.opened }
  | .marking => some { self with call := .clearing, stop := true }
  | .clearing => some { self with call := .joining, wait := false }
  | .joining =>
    if self.work = .ended then
      some { self with call := .idle, threadJoinable := false, isRunning := false, work := .none }
    else none
  | .rejoining creates =>
    if self.work = .ended then
      some ({ self with threadJoinable := false, work := .none }.create creates)
    else none

/-- `thread_handler`, through `hev_socks5_tunnel_main` and what the event task does. -/
def workStep (self : HevSocks5Tunnel) (fails : Bool) : Option HevSocks5Tunnel :=
  match self.work with
  | .none => none
  | .entering =>
    if fails then some { self with work := .leaving, failed := true }
    else some { self with work := .initializing }
  | .initializing =>
    if fails then some { self with work := .finishing, failed := true }
    else some { self with work := .opened, opened := true }
  | .opened =>
    if fails then some { self with work := .finishing, failed := true }
    else some { self with work := .initialized, send := true }
  | .initialized =>
    if self.stop then some { self with work := .finishing, stop := false }
    else some { self with
      work := .running
      crossed := self.crossed || decide (self.call = .marking) }
  | .running =>
    -- one read takes as much as an `int` holds
    if self.unread = 0 then none
    else some { self with work := .stopping, unread := self.unread - 4 }
  | .stopping => some { self with work := .unwinding, sent := false }
  | .unwinding => some { self with work := .finishing }
  | .finishing =>
    some { self with
      work := if self.wait then .finishing else .closing
      send := false
      sent := false }
  | .closing => some { self with work := .leaving, opened := false, unread := 0 }
  | .leaving => some { self with work := .ended, isRunning := false }
  | .ended => none

def step (self : HevSocks5Tunnel) : Event → Option HevSocks5Tunnel
  | .start creates => if self.call = .idle then some (self.startService creates) else none
  | .stop => if self.call = .idle then some self.stopService else none
  | .call => self.callStep
  | .work fails => self.workStep fails

end HevSocks5Tunnel

/-! ## What every step keeps -/

/-- Up to the test of `hev_socks5_tunnel_run`. -/
def WorkPhase.early : WorkPhase → Bool
  | .entering | .initializing | .opened | .initialized => true
  | .none | .running | .stopping | .unwinding | .finishing | .closing | .leaving | .ended => false

/-- From the byte that was read, or from a failure, on. -/
def WorkPhase.late : WorkPhase → Bool
  | .stopping | .unwinding | .finishing | .closing | .leaving | .ended => true
  | .none | .entering | .initializing | .opened | .initialized | .running => false

/-- While the pair of sockets may be written to. -/
def WorkPhase.live : WorkPhase → Bool
  | .initialized | .running | .stopping | .unwinding => true
  | .none | .entering | .initializing | .opened | .finishing | .closing | .leaving | .ended => false

/-- How far the thread is from its end. -/
def WorkPhase.rank : WorkPhase → Nat
  | .none | .ended => 0
  | .leaving => 1
  | .closing => 2
  | .finishing => 3
  | .unwinding => 4
  | .stopping => 5
  | .running => 6
  | .initialized => 7
  | .opened => 8
  | .initializing => 9
  | .entering => 10

/-- Between the first and the last operation of `hev_socks5_tunnel_stop`. -/
def CallPhase.holds : CallPhase → Bool
  | .sending | .writing | .marking | .clearing => true
  | .idle | .rejoining _ | .waiting | .joining => false

namespace HevSocks5Tunnel

/-- The stop has reached the thread, unless it passed its test in between. -/
def Delivered (self : HevSocks5Tunnel) : Prop :=
  self.crossed = true ∨ self.work.late = true ∨ (self.stop = true ∧ self.work.early = true) ∨
    (0 < self.unread ∧ (self.work = .initialized ∨ self.work = .running))

structure Inv (tunnel : HevSocks5Tunnel) : Prop where
  joinable : tunnel.threadJoinable = true ↔ tunnel.work ≠ .none
  isRunning : tunnel.isRunning = true ↔ tunnel.work ≠ .none ∧ tunnel.work ≠ .ended
  wait : tunnel.wait = tunnel.call.holds
  send : tunnel.send = true →
    tunnel.opened = true ∧ (tunnel.work.live = true ∨ tunnel.work = .finishing)
  live : tunnel.work.live = true → tunnel.send = true
  pair : tunnel.work = .opened → tunnel.opened = true
  writing : tunnel.call = .sending ∨ tunnel.call = .writing →
    tunnel.opened = true ∧ (tunnel.work.live = true ∨ tunnel.work = .finishing)
  sent : tunnel.sent = true →
    (tunnel.call = .writing ∨ tunnel.call = .clearing ∨ tunnel.call = .joining) ∧
    (tunnel.work.live = true ∨ tunnel.work = .finishing)
  thread : tunnel.call ≠ .idle → tunnel.work ≠ .none
  rejoining : ∀ creates, tunnel.call = .rejoining creates → tunnel.work = .ended
  delivered : tunnel.call = .clearing ∨ tunnel.call = .joining → tunnel.Delivered
  crossing : tunnel.call = .marking → tunnel.work = .running → tunnel.crossed = true
  astray : tunnel.astray = false
  behind : tunnel.crossed = true → tunnel.work.early = false
  doubled : tunnel.doubled = false

section Step

variable {self self' : HevSocks5Tunnel}

/-! ### Steps of the thread -/

/-- What a step of the thread leaves alone. -/
structure Follows (self self' : HevSocks5Tunnel) : Prop where
  call : self'.call = self.call
  wait : self'.wait = self.wait
  threadJoinable : self'.threadJoinable = self.threadJoinable
  astray : self'.astray = self.astray
  doubled : self'.doubled = self.doubled
  before : self.work ≠ .none ∧ self.work ≠ .ended
  after : self'.work ≠ .none

/-- A step of the thread is about the pair of sockets and about the stop. -/
theorem Inv.follow (hinv : self.Inv) (hfollows : Follows self self')
    (hisRunning : self.isRunning = true → (self'.isRunning = true ↔ self'.work ≠ .ended))
    (hsend : self'.send = true →
      self'.opened = true ∧ (self'.work.live = true ∨ self'.work = .finishing))
    (hlive : self'.work.live = true → self'.send = true)
    (hpair : self'.work = .opened → self'.opened = true)
    (hwriting : self.call = .sending ∨ self.call = .writing →
      self'.opened = true ∧ (self'.work.live = true ∨ self'.work = .finishing))
    (hsent : self'.sent = true →
      self.sent = true ∧ (self'.work.live = true ∨ self'.work = .finishing))
    (hdelivered : self.call = .clearing ∨ self.call = .joining → self'.Delivered)
    (hcrossing : self.call = .marking → self'.work = .running → self'.crossed = true)
    (hbehind : self'.crossed = true → self'.work.early = false) : self'.Inv := by
  obtain ⟨hcall, hwait, hthreadJoinable, hastray, hdoubled, ⟨hthere, hgoing⟩, hstays⟩ := hfollows
  have hup := hisRunning (hinv.isRunning.mpr ⟨hthere, hgoing⟩)
  refine ⟨?_, ?_, ?_, hsend, hlive, hpair, ?_, ?_, fun _ => hstays, ?_, ?_, ?_, ?_, hbehind,
    hdoubled.trans hinv.doubled⟩
  · rw [hthreadJoinable, hinv.joinable]
    exact iff_of_true hthere hstays
  · rw [hup]
    exact (and_iff_right hstays).symm
  · rw [hwait, hcall, hinv.wait]
  · rw [hcall]
    exact hwriting
  · intro hmarked
    obtain ⟨hbefore, hwhere⟩ := hsent hmarked
    rw [hcall]
    exact ⟨(hinv.sent hbefore).1, hwhere⟩
  · intro creates hrejoining
    rw [hcall] at hrejoining
    exact absurd (hinv.rejoining creates hrejoining) hgoing
  · rw [hcall]
    exact hdelivered
  · rw [hcall]
    exact hcrossing
  · rw [hastray, hinv.astray]

/-- Where the pair of sockets is not used nothing is marked, and no call is about to write. -/
theorem Inv.unused (hinv : self.Inv) (hlive : self.work.live = false)
    (hfinishing : self.work ≠ .finishing) :
    self.send = false ∧ self.sent = false ∧ ¬ (self.call = .sending ∨ self.call = .writing) := by
  have hnowhere : ¬ (self.work.live = true ∨ self.work = .finishing) := by
    simp [hlive, hfinishing]
  refine ⟨?_, ?_, fun hcall => hnowhere (hinv.writing hcall).2⟩
  · exact Bool.eq_false_iff.mpr fun hsend => hnowhere (hinv.send hsend).2
  · exact Bool.eq_false_iff.mpr fun hsent => hnowhere (hinv.sent hsent).2

/-- Between two phases that do not use the pair of sockets only the stop matters. -/
theorem Inv.follow_unused (hinv : self.Inv) (hfollows : Follows self self')
    (hunused : self.work.live = false ∧ self.work ≠ .finishing)
    (hisRunning : self.isRunning = true → (self'.isRunning = true ↔ self'.work ≠ .ended))
    (hsend : self'.send = self.send) (hsent : self'.sent = self.sent)
    (hlive : self'.work.live = false) (hpair : self'.work = .opened → self'.opened = true)
    (hdelivered : self.call = .clearing ∨ self.call = .joining → self'.Delivered)
    (hbehind : self'.crossed = true → self'.work.early = false) : self'.Inv := by
  obtain ⟨hnosend, hnosent, hnowriting⟩ := hinv.unused hunused.1 hunused.2
  have hnorun : self'.work ≠ .running := by
    intro hrunning
    rw [hrunning] at hlive
    cases hlive
  refine hinv.follow hfollows hisRunning ?_ ?_ hpair (fun hcall => absurd hcall hnowriting) ?_
    hdelivered (fun _ hrunning => absurd hrunning hnorun) hbehind
  · simp [hsend, hnosend]
  · simp [hlive]
  · simp [hsent, hnosent]

/-- A stop that has come before the test waits there. -/
theorem Delivered.early (hdelivered : self.Delivered) (hearly : self.work.early = true)
    (hbefore : self.work ≠ .initialized) (hcrossed : self'.crossed = self.crossed)
    (hstop : self'.stop = self.stop) (hstays : self'.work.early = true) : self'.Delivered := by
  rcases hdelivered with hcross | hlate | ⟨htold, -⟩ | ⟨-, hwhere⟩
  · exact .inl (hcrossed.trans hcross)
  · cases hwork : self.work <;> simp [hwork, WorkPhase.early, WorkPhase.late] at hearly hlate
  · exact .inr (.inr (.inl ⟨hstop.trans htold, hstays⟩))
  · rcases hwhere with hwhere | hwhere
    · exact absurd hwhere hbefore
    · rw [hwhere] at hearly
      cases hearly

/-- A thread that has not come to its test has not passed it. -/
theorem Inv.uncrossed (hinv : self.Inv) (hearly : self.work.early = true) :
    self.crossed = false :=
  Bool.eq_false_iff.mpr fun hcrossed => by simp [hinv.behind hcrossed] at hearly

/-- The initialization of the event system, or its failure. -/
theorem entering_inv (hinv : self.Inv) (hwork : self.work = .entering) :
    Inv { self with work := .leaving, failed := true } ∧
      Inv { self with work := .initializing } := by
  have hearly : self.work.early = true := by rw [hwork]; rfl
  have hunused : self.work.live = false ∧ self.work ≠ .finishing := by rw [hwork]; decide
  have hbefore : self.work ≠ .none ∧ self.work ≠ .ended := by rw [hwork]; decide
  have huncrossed := hinv.uncrossed hearly
  constructor
  · refine hinv.follow_unused ⟨rfl, rfl, rfl, rfl, rfl, hbefore, nofun⟩ hunused ?_ rfl rfl rfl
      nofun ?_ ?_
    · exact fun hup => iff_of_true hup nofun
    · exact fun _ => .inr (.inl rfl)
    · exact fun _ => rfl
  · refine hinv.follow_unused ⟨rfl, rfl, rfl, rfl, rfl, hbefore, nofun⟩ hunused ?_ rfl rfl rfl
      nofun ?_ ?_
    · exact fun hup => iff_of_true hup nofun
    · exact fun hcall => (hinv.delivered hcall).early hearly (by simp [hwork]) rfl rfl rfl
    · simp [huncrossed]

/-- The pair of sockets is opened, or the initialization fails before it. -/
theorem initializing_inv (hinv : self.Inv) (hwork : self.work = .initializing) :
    Inv { self with work := .finishing, failed := true } ∧
      Inv { self with work := .opened, opened := true } := by
  have hearly : self.work.early = true := by rw [hwork]; rfl
  have hunused : self.work.live = false ∧ self.work ≠ .finishing := by rw [hwork]; decide
  have hbefore : self.work ≠ .none ∧ self.work ≠ .ended := by rw [hwork]; decide
  have huncrossed := hinv.uncrossed hearly
  constructor
  · refine hinv.follow_unused ⟨rfl, rfl, rfl, rfl, rfl, hbefore, nofun⟩ hunused ?_ rfl rfl rfl
      nofun ?_ ?_
    · exact fun hup => iff_of_true hup nofun
    · exact fun _ => .inr (.inl rfl)
    · exact fun _ => rfl
  · refine hinv.follow_unused ⟨rfl, rfl, rfl, rfl, rfl, hbefore, nofun⟩ hunused ?_ rfl rfl rfl
      (fun _ => rfl) ?_ ?_
    · exact fun hup => iff_of_true hup nofun
    · exact fun hcall => (hinv.delivered hcall).early hearly (by simp [hwork]) rfl rfl rfl
    · simp [huncrossed]

/-- `SYNC_SEND` is set, or the rest of the initialization fails. -/
theorem opened_inv (hinv : self.Inv) (hwork : self.work = .opened) :
    Inv { self with work := .finishing, failed := true } ∧
      Inv { self with work := .initialized, send := true } := by
  have hearly : self.work.early = true := by rw [hwork]; rfl
  have hunused : self.work.live = false ∧ self.work ≠ .finishing := by rw [hwork]; decide
  have hbefore : self.work ≠ .none ∧ self.work ≠ .ended := by rw [hwork]; decide
  have huncrossed := hinv.uncrossed hearly
  obtain ⟨-, hunsent, hnowriting⟩ := hinv.unused hunused.1 hunused.2
  constructor
  · refine hinv.follow_unused ⟨rfl, rfl, rfl, rfl, rfl, hbefore, nofun⟩ hunused ?_ rfl rfl rfl
      nofun ?_ ?_
    · exact fun hup => iff_of_true hup nofun
    · exact fun _ => .inr (.inl rfl)
    · exact fun _ => rfl
  -- from here on the pair is announced to the calls
  · refine hinv.follow ⟨rfl, rfl, rfl, rfl, rfl, hbefore, nofun⟩ ?_ ?_ (fun _ => rfl) nofun ?_ ?_ ?_
      (fun _ => nofun) ?_
    · exact fun hup => iff_of_true hup nofun
    · exact fun _ => ⟨hinv.pair hwork, .inl rfl⟩
    · exact fun hcall => absurd hcall hnowriting
    · simp [hunsent]
    · exact fun hcall => (hinv.delivered hcall).early hearly (by simp [hwork]) rfl rfl rfl
    · simp [huncrossed]

/-- While the pair of sockets is used it is there. -/
theorem Inv.used (hinv : self.Inv) (hlive : self.work.live = true) : self.opened = true :=
  (hinv.send (hinv.live hlive)).1

/-- The test finds `SYNC_STOP` and takes it. -/
theorem stopped_inv (hinv : self.Inv) (hwork : self.work = .initialized) :
    Inv { self with work := .finishing, stop := false } := by
  have hused := hinv.used (by rw [hwork]; rfl)
  refine hinv.follow ⟨rfl, rfl, rfl, rfl, rfl, by rw [hwork]; decide, nofun⟩ ?_ ?_ nofun nofun ?_
    ?_ ?_ (fun _ => nofun) (fun _ => rfl)
  · exact fun hup => iff_of_true hup nofun
  · exact fun _ => ⟨hused, .inr rfl⟩
  · exact fun _ => ⟨hused, .inr rfl⟩
  · exact fun hmarked => ⟨hmarked, .inr rfl⟩
  · exact fun _ => .inr (.inl rfl)

/-- The test finds nothing; a call may be about to set `SYNC_STOP`. -/
theorem passed_inv (hinv : self.Inv) (hwork : self.work = .initialized)
    (hstop : self.stop = false) :
    Inv { self with
      work := .running
      crossed := self.crossed || decide (self.call = .marking) } := by
  have hlive : self.work.live = true := by rw [hwork]; rfl
  have hused := hinv.used hlive
  refine hinv.follow ⟨rfl, rfl, rfl, rfl, rfl, by rw [hwork]; decide, nofun⟩ ?_ ?_
    (fun _ => hinv.live hlive) nofun ?_ ?_ ?_ ?_ (fun _ => rfl)
  · exact fun hup => iff_of_true hup nofun
  · exact fun _ => ⟨hused, .inl rfl⟩
  · exact fun _ => ⟨hused, .inl rfl⟩
  · exact fun hmarked => ⟨hmarked, .inl rfl⟩
  · intro hcall
    rcases hinv.delivered hcall with hcrossed | hlate | ⟨htold, -⟩ | ⟨hunread, -⟩
    · exact .inl (by simp [hcrossed])
    · rw [hwork] at hlate
      cases hlate
    · rw [hstop] at htold
      cases htold
    · exact .inr (.inr (.inr ⟨hunread, .inr rfl⟩))
  · exact fun hmarking _ => by simp [hmarking]

/-- The event task reads its byte. -/
theorem running_inv (hinv : self.Inv) (hwork : self.work = .running) :
    Inv { self with work := .stopping, unread := self.unread - 4 } := by
  have hlive : self.work.live = true := by rw [hwork]; rfl
  have hused := hinv.used hlive
  refine hinv.follow ⟨rfl, rfl, rfl, rfl, rfl, by rw [hwork]; decide, nofun⟩ ?_ ?_
    (fun _ => hinv.live hlive) nofun ?_ ?_ ?_ (fun _ => nofun) (fun _ => rfl)
  · exact fun hup => iff_of_true hup nofun
  · exact fun _ => ⟨hused, .inl rfl⟩
  · exact fun _ => ⟨hused, .inl rfl⟩
  · exact fun hmarked => ⟨hmarked, .inl rfl⟩
  · exact fun _ => .inr (.inl rfl)

/-- `SYNC_SENT` is cleared while the call that set it cannot be another one. -/
theorem stopping_inv (hinv : self.Inv) (hwork : self.work = .stopping) :
    Inv { self with work := .unwinding, sent := false } := by
  have hlive : self.work.live = true := by rw [hwork]; rfl
  have hused := hinv.used hlive
  refine hinv.follow ⟨rfl, rfl, rfl, rfl, rfl, by rw [hwork]; decide, nofun⟩ ?_ ?_
    (fun _ => hinv.live hlive) nofun ?_ nofun ?_ (fun _ => nofun) (fun _ => rfl)
  · exact fun hup => iff_of_true hup nofun
  · exact fun _ => ⟨hused, .inl rfl⟩
  · exact fun _ => ⟨hused, .inl rfl⟩
  · exact fun _ => .inr (.inl rfl)

/-- The tasks of the sessions end. -/
theorem unwinding_inv (hinv : self.Inv) (hwork : self.work = .unwinding) :
    Inv { self with work := .finishing } := by
  have hused := hinv.used (by rw [hwork]; rfl)
  refine hinv.follow ⟨rfl, rfl, rfl, rfl, rfl, by rw [hwork]; decide, nofun⟩ ?_ ?_ nofun nofun ?_
    ?_ ?_ (fun _ => nofun) (fun _ => rfl)
  · exact fun hup => iff_of_true hup nofun
  · exact fun _ => ⟨hused, .inr rfl⟩
  · exact fun _ => ⟨hused, .inr rfl⟩
  · exact fun hmarked => ⟨hmarked, .inr rfl⟩
  · exact fun _ => .inr (.inl rfl)

/-- The loop of `fini` takes the flags back, and ends when no call is inside. -/
theorem finishing_inv (hinv : self.Inv) (hwork : self.work = .finishing) :
    Inv { self with
      work := if self.wait then .finishing else .closing
      send := false
      sent := false } := by
  have hbefore : self.work ≠ .none ∧ self.work ≠ .ended := by rw [hwork]; decide
  cases hheld : self.wait with
  | true =>
      refine hinv.follow ⟨rfl, hheld.symm, rfl, rfl, rfl, hbefore, nofun⟩ ?_ nofun nofun nofun ?_
        nofun ?_ (fun _ => nofun) (fun _ => rfl)
      · exact fun hup => iff_of_true hup nofun
      · exact fun hcall => ⟨(hinv.writing hcall).1, .inr rfl⟩
      · exact fun _ => .inr (.inl rfl)
  | false =>
      -- the loop is left only when no call is inside
      have hfree : ¬ (self.call = .sending ∨ self.call = .writing) := by
        have hholds := hinv.wait.symm.trans hheld
        rintro (hcall | hcall) <;> rw [hcall] at hholds <;> cases hholds
      refine hinv.follow ⟨rfl, hheld.symm, rfl, rfl, rfl, hbefore, nofun⟩ ?_ nofun nofun nofun
        (fun hcall => absurd hcall hfree) nofun ?_ (fun _ => nofun) (fun _ => rfl)
      · exact fun hup => iff_of_true hup nofun
      · exact fun _ => .inr (.inl rfl)

/-- The pair is closed, with what was not read. -/
theorem closing_inv (hinv : self.Inv) (hwork : self.work = .closing) :
    Inv { self with work := .leaving, opened := false, unread := 0 } := by
  have hunused : self.work.live = false ∧ self.work ≠ .finishing := by rw [hwork]; decide
  refine hinv.follow_unused ⟨rfl, rfl, rfl, rfl, rfl, by rw [hwork]; decide, nofun⟩ hunused ?_ rfl
    rfl rfl nofun (fun _ => .inr (.inl rfl)) (fun _ => rfl)
  exact fun hup => iff_of_true hup nofun

/-- The thread is about to return. -/
theorem leaving_inv (hinv : self.Inv) (hwork : self.work = .leaving) :
    Inv { self with work := .ended, isRunning := false } := by
  have hunused : self.work.live = false ∧ self.work ≠ .finishing := by rw [hwork]; decide
  refine hinv.follow_unused ⟨rfl, rfl, rfl, rfl, rfl, by rw [hwork]; decide, nofun⟩ hunused ?_ rfl
    rfl rfl nofun (fun _ => .inr (.inl rfl)) (fun _ => rfl)
  exact fun _ => iff_of_false nofun (not_not_intro rfl)

/-- Every step of the thread keeps the invariant. -/
theorem workStep_inv (hinv : self.Inv) {fails : Bool} (hstep : self.workStep fails = some self') :
    self'.Inv := by
  unfold workStep at hstep
  cases hwork : self.work with
  | none => simp [hwork] at hstep
  | ended => simp [hwork] at hstep
  | entering =>
      cases fails <;> simp [hwork] at hstep <;> subst hstep
      · exact (entering_inv hinv hwork).2
      · exact (entering_inv hinv hwork).1
  | initializing =>
      cases fails <;> simp [hwork] at hstep <;> subst hstep
      · exact (initializing_inv hinv hwork).2
      · exact (initializing_inv hinv hwork).1
  | opened =>
      cases fails <;> simp [hwork] at hstep <;> subst hstep
      · exact (opened_inv hinv hwork).2
      · exact (opened_inv hinv hwork).1
  | initialized =>
      cases hstop : self.stop with
      | true =>
          simp [hwork, hstop] at hstep
          subst hstep
          exact stopped_inv hinv hwork
      | false =>
          simp [hwork, hstop] at hstep
          subst hstep
          have hpassed := passed_inv hinv hwork hstop
          rwa [hstop] at hpassed
  | running =>
      simp [hwork] at hstep
      obtain ⟨_, rfl⟩ := hstep
      exact running_inv hinv hwork
  | stopping =>
      simp [hwork] at hstep
      subst hstep
      exact stopping_inv hinv hwork
  | unwinding =>
      simp [hwork] at hstep
      subst hstep
      exact unwinding_inv hinv hwork
  | finishing =>
      simp [hwork] at hstep
      subst hstep
      exact finishing_inv hinv hwork
  | closing =>
      simp [hwork] at hstep
      subst hstep
      exact closing_inv hinv hwork
  | leaving =>
      simp [hwork] at hstep
      subst hstep
      exact leaving_inv hinv hwork

/-- No step of the thread moves the call. -/
theorem workStep_call {fails : Bool} (hstep : self.workStep fails = some self') :
    self'.call = self.call := by
  unfold workStep at hstep
  grind

/-! ### Steps of the calls -/

/-- What a step of a call leaves alone while there is a thread. -/
structure Calls (self self' : HevSocks5Tunnel) : Prop where
  work : self'.work = self.work
  isRunning : self'.isRunning = self.isRunning
  threadJoinable : self'.threadJoinable = self.threadJoinable
  send : self'.send = self.send
  opened : self'.opened = self.opened
  crossed : self'.crossed = self.crossed
  doubled : self'.doubled = self.doubled
  there : self.work ≠ .none

/-- A step of a call is about its own flags and about the stop. -/
theorem Inv.call (hinv : self.Inv) (hcalls : Calls self self')
    (hwait : self'.wait = self'.call.holds)
    (hwriting : self'.call = .sending ∨ self'.call = .writing →
      self.opened = true ∧ (self.work.live = true ∨ self.work = .finishing))
    (hsent : self'.sent = true →
      (self'.call = .writing ∨ self'.call = .clearing ∨ self'.call = .joining) ∧
        (self.work.live = true ∨ self.work = .finishing))
    (hrejoining : ∀ creates, self'.call = .rejoining creates → self.work = .ended)
    (hdelivered : self'.call = .clearing ∨ self'.call = .joining → self'.Delivered)
    (hcrossing : self'.call = .marking → self.work = .running → self.crossed = true)
    (hastray : self'.astray = false) : self'.Inv := by
  obtain ⟨hwork, hisRunning, hthreadJoinable, hsend, hopened, hcrossed, hdoubled, hthere⟩ := hcalls
  refine ⟨?_, ?_, hwait, ?_, ?_, ?_, ?_, ?_, ?_, ?_, hdelivered, ?_, hastray, ?_,
    hdoubled.trans hinv.doubled⟩
  · rw [hthreadJoinable, hwork]
    exact hinv.joinable
  · rw [hisRunning, hwork]
    exact hinv.isRunning
  · rw [hsend, hopened, hwork]
    exact hinv.send
  · rw [hsend, hwork]
    exact hinv.live
  · rw [hopened, hwork]
    exact hinv.pair
  · rw [hopened, hwork]
    exact hwriting
  · rw [hwork]
    exact hsent
  · exact fun _ => hwork ▸ hthere
  · rw [hwork]
    exact hrejoining
  · rw [hcrossed, hwork]
    exact hcrossing
  · rw [hcrossed, hwork]
    exact hinv.behind

/-- No thread is there after it has been joined. -/
theorem Inv.joined (hinv : self.Inv) (hended : self.work = .ended) (hwait : self.wait = false) :
    Inv { self with
      call := .idle, threadJoinable := false, isRunning := false, work := .none } := by
  have hunused : self.work.live = false ∧ self.work ≠ .finishing := by rw [hended]; decide
  obtain ⟨hnosend, hnosent, -⟩ := hinv.unused hunused.1 hunused.2
  refine ⟨iff_of_false nofun fun h => h rfl, iff_of_false nofun fun h => h.1 rfl, hwait, ?_, nofun,
    nofun, nofun, ?_, fun h => absurd rfl h, nofun, nofun, nofun, hinv.astray, fun _ => rfl,
    hinv.doubled⟩
  · simp [hnosend]
  · simp [hnosent]

/-- A thread is created where there is none. -/
theorem Inv.create (hinv : self.Inv) (hnone : self.work = .none) (hidle : self.call = .idle)
    (creates : Bool) : (self.create creates).Inv := by
  have hunused : self.work.live = false ∧ self.work ≠ .finishing := by rw [hnone]; decide
  obtain ⟨hnosend, hnosent, -⟩ := hinv.unused hunused.1 hunused.2
  unfold HevSocks5Tunnel.create
  cases creates with
  | false =>
      simpa [← hidle] using hinv
  | true =>
      have hwait : self.wait = false := by rw [hinv.wait, hidle]; rfl
      refine ⟨iff_of_true rfl nofun, iff_of_true rfl ⟨nofun, nofun⟩, hwait, ?_, nofun, nofun, nofun,
        ?_, fun h => absurd rfl h, nofun, nofun, nofun, hinv.astray, nofun, ?_⟩
      · simp [hnosend]
      · simp [hnosent]
      · simp [hinv.doubled, hnone]

/-- A start joins the thread that has ended before it creates another one. -/
theorem rejoining_inv (hinv : self.Inv) {creates : Bool} (hcall : self.call = .rejoining creates) :
    ({ self with threadJoinable := false, work := .none }.create creates).Inv := by
  have hended := hinv.rejoining creates hcall
  have hwait : self.wait = false := by rw [hinv.wait, hcall]; rfl
  have hstopped : self.isRunning = false :=
    Bool.eq_false_iff.mpr fun hup => (hinv.isRunning.mp hup).2 hended
  have hcreated := (hinv.joined hended hwait).create rfl rfl creates
  cases creates <;> simpa [HevSocks5Tunnel.create, hstopped] using hcreated

/-- The call enters, and finds out if there is a pair to write to. -/
theorem waiting_inv (hinv : self.Inv) (hcall : self.call = .waiting) :
    Inv { self with wait := true, call := if self.send then .sending else .marking } := by
  have hthere := hinv.thread (by simp [hcall])
  have hunsent : self.sent = false := by
    by_contra hmarked
    have hwhere := (hinv.sent (by simpa using hmarked)).1
    simp [hcall] at hwhere
  cases hopen : self.send with
  | true =>
      refine hinv.call ⟨rfl, rfl, rfl, hopen.symm, rfl, rfl, rfl, hthere⟩ rfl
        (fun _ => hinv.send hopen) ?_ nofun nofun nofun hinv.astray
      simp [hunsent]
  | false =>
      -- a thread that runs has announced its pair
      have hnot : self.work ≠ .running := by
        intro hrunning
        have hannounced := hinv.live (by rw [hrunning]; rfl)
        rw [hopen] at hannounced
        contradiction
      refine hinv.call ⟨rfl, rfl, rfl, hopen.symm, rfl, rfl, rfl, hthere⟩ rfl nofun ?_ nofun nofun
        (fun _ hrunning => absurd hrunning hnot) hinv.astray
      simp [hunsent]

/-- The first call to set `SYNC_SENT` has to write. -/
theorem sending_inv (hinv : self.Inv) (hcall : self.call = .sending) :
    Inv { self with sent := true, call := if self.sent then .clearing else .writing } := by
  have hthere := hinv.thread (by simp [hcall])
  obtain ⟨hopened, hwhere⟩ := hinv.writing (.inl hcall)
  -- a call that is done has left no `SYNC_SENT` behind
  have hunsent : self.sent = false := by
    by_contra hagain
    have hwhere := (hinv.sent (by simpa using hagain)).1
    simp [hcall] at hwhere
  rw [hunsent]
  refine hinv.call ⟨rfl, rfl, rfl, rfl, rfl, rfl, rfl, hthere⟩ ?_ (fun _ => ⟨hopened, hwhere⟩)
    (fun _ => ⟨.inl rfl, hwhere⟩) nofun nofun nofun hinv.astray
  rw [hinv.wait, hcall]
  rfl

/-- The byte goes to a pair that is open, and somebody reads it or is past reading. -/
theorem writing_inv (hinv : self.Inv) (hcall : self.call = .writing) :
    Inv { self with
      call := .clearing
      unread := if self.opened then self.unread + 1 else self.unread
      astray := self.astray || !self.opened } := by
  have hthere := hinv.thread (by simp [hcall])
  obtain ⟨hopened, hwhere⟩ := hinv.writing (.inr hcall)
  have hreached : self.work.late = true ∨ self.work = .initialized ∨ self.work = .running := by
    cases hwork : self.work <;> simp [hwork, WorkPhase.live, WorkPhase.late] at hwhere ⊢
  refine hinv.call ⟨rfl, rfl, rfl, rfl, rfl, rfl, rfl, hthere⟩ ?_ nofun ?_ nofun ?_ nofun ?_
  · rw [hinv.wait, hcall]
    rfl
  · exact fun hmarked => ⟨.inr (.inl rfl), (hinv.sent hmarked).2⟩
  · intro _
    rcases hreached with hlate | hreads
    · exact .inr (.inl hlate)
    · refine .inr (.inr (.inr ⟨?_, hreads⟩))
      simp [hopened]
  · simp [hinv.astray, hopened]

/-- `SYNC_STOP` is set for a thread that has not come to its test. -/
theorem marking_inv (hinv : self.Inv) (hcall : self.call = .marking) :
    Inv { self with call := .clearing, stop := true } := by
  have hthere := hinv.thread (by simp [hcall])
  have hcrossing := hinv.crossing hcall
  refine hinv.call ⟨rfl, rfl, rfl, rfl, rfl, rfl, rfl, hthere⟩ ?_ nofun ?_ nofun ?_ nofun
    hinv.astray
  · rw [hinv.wait, hcall]
    rfl
  · exact fun hmarked => ⟨.inr (.inl rfl), (hinv.sent hmarked).2⟩
  · intro _
    by_cases hrunning : self.work = .running
    · exact .inl (hcrossing hrunning)
    · cases hearly : self.work.early with
      | true => exact .inr (.inr (.inl ⟨rfl, hearly⟩))
      | false =>
          refine .inr (.inl ?_)
          cases hwork : self.work <;> simp [hwork, WorkPhase.early, WorkPhase.late] at *

/-- The call leaves, and joins the thread. -/
theorem clearing_inv (hinv : self.Inv) (hcall : self.call = .clearing) :
    Inv { self with call := .joining, wait := false } := by
  have hthere := hinv.thread (by simp [hcall])
  refine hinv.call ⟨rfl, rfl, rfl, rfl, rfl, rfl, rfl, hthere⟩ rfl nofun ?_ nofun
    (fun _ => hinv.delivered (.inl hcall)) nofun hinv.astray
  exact fun hmarked => ⟨.inr (.inr rfl), (hinv.sent hmarked).2⟩

/-- Every step of a call keeps the invariant. -/
theorem callStep_inv (hinv : self.Inv) (hstep : self.callStep = some self') : self'.Inv := by
  unfold callStep at hstep
  cases hcall : self.call with
  | idle => simp [hcall] at hstep
  | rejoining creates =>
      simp only [hcall] at hstep
      obtain ⟨hended, hstep⟩ := Option.ite_none_right_eq_some.mp hstep
      obtain rfl := Option.some.inj hstep
      exact rejoining_inv hinv hcall
  | waiting =>
      have hfree : self.wait = false := by rw [hinv.wait, hcall]; rfl
      simp only [hcall, hfree, Bool.false_eq_true, if_false] at hstep
      obtain rfl := Option.some.inj hstep
      simpa only [hfree] using waiting_inv hinv hcall
  | sending =>
      simp only [hcall] at hstep
      obtain rfl := Option.some.inj hstep
      exact sending_inv hinv hcall
  | writing =>
      simp only [hcall] at hstep
      obtain rfl := Option.some.inj hstep
      exact writing_inv hinv hcall
  | marking =>
      simp only [hcall] at hstep
      obtain rfl := Option.some.inj hstep
      exact marking_inv hinv hcall
  | clearing =>
      simp only [hcall] at hstep
      obtain rfl := Option.some.inj hstep
      exact clearing_inv hinv hcall
  | joining =>
      simp only [hcall] at hstep
      obtain ⟨hended, hstep⟩ := Option.ite_none_right_eq_some.mp hstep
      obtain rfl := Option.some.inj hstep
      exact hinv.joined hended (by rw [hinv.wait, hcall]; rfl)

/-- A start creates, or joins first, or finds the engine running. -/
theorem startService_inv (hinv : self.Inv) (hidle : self.call = .idle) (creates : Bool) :
    (self.startService creates).Inv := by
  unfold startService
  by_cases hup : self.isRunning = true
  · rw [if_pos hup]
    exact hinv
  rw [if_neg hup]
  by_cases hthere : self.threadJoinable = true
  · have hthread := hinv.joinable.mp hthere
    have hended : self.work = .ended := by
      by_contra hnot
      exact hup (hinv.isRunning.mpr ⟨hthread, hnot⟩)
    have hunused : self.work.live = false ∧ self.work ≠ .finishing := by rw [hended]; decide
    obtain ⟨-, hunsent, -⟩ := hinv.unused hunused.1 hunused.2
    rw [if_pos hthere]
    refine hinv.call ⟨rfl, rfl, rfl, rfl, rfl, rfl, rfl, hthread⟩ ?_ nofun ?_ (fun _ _ => hended)
      nofun nofun hinv.astray
    · rw [hinv.wait, hidle]
      rfl
    · simp [hunsent]
  · have hnone : self.work = .none := by
      by_contra hnot
      exact hthere (hinv.joinable.mpr hnot)
    rw [if_neg hthere]
    exact hinv.create hnone hidle creates

/-- A stop tells the thread, or joins one that has ended. -/
theorem stopService_inv (hinv : self.Inv) (hidle : self.call = .idle) : self.stopService.Inv := by
  have hunsent : self.sent = false := by
    by_contra hmarked
    have hwhere := (hinv.sent (by simpa using hmarked)).1
    simp [hidle] at hwhere
  have hfree : self.wait = false := by rw [hinv.wait, hidle]; rfl
  unfold stopService
  by_cases hthere : self.threadJoinable = true
  · have hthread := hinv.joinable.mp hthere
    rw [if_neg (not_not_intro hthere)]
    by_cases hup : self.isRunning = true
    · rw [if_pos hup]
      refine hinv.call ⟨rfl, rfl, rfl, rfl, rfl, rfl, rfl, hthread⟩ hfree nofun ?_ nofun nofun nofun
        hinv.astray
      simp [hunsent]
    · have hended : self.work = .ended := by
        by_contra hnot
        exact hup (hinv.isRunning.mpr ⟨hthread, hnot⟩)
      rw [if_neg hup]
      refine hinv.call ⟨rfl, rfl, rfl, rfl, rfl, rfl, rfl, hthread⟩ hfree nofun ?_ nofun ?_ nofun
        hinv.astray
      · simp [hunsent]
      · exact fun _ => .inr (.inl (by rw [hended]; rfl))
  · rw [if_pos hthere]
    exact hinv

/-- Every step keeps the invariant. -/
theorem step_inv (hinv : self.Inv) {event : Event} (hstep : self.step event = some self') :
    self'.Inv := by
  cases event with
  | start creates =>
      obtain ⟨hidle, hstep⟩ := Option.ite_none_right_eq_some.mp hstep
      obtain rfl := Option.some.inj hstep
      exact startService_inv hinv hidle creates
  | stop =>
      obtain ⟨hidle, hstep⟩ := Option.ite_none_right_eq_some.mp hstep
      obtain rfl := Option.some.inj hstep
      exact stopService_inv hinv hidle
  | call => exact callStep_inv hinv hstep
  | work fails => exact workStep_inv hinv hstep

end Step

/-! ## Over any run -/

theorem start_inv : Inv {} := by
  constructor <;> simp [CallPhase.holds, WorkPhase.live, WorkPhase.early]

/-- So it holds in every state of a run. -/
theorem run_inv {events : List Event} {tunnel : HevSocks5Tunnel}
    (hrun : events.foldlM step {} = some tunnel) : tunnel.Inv :=
  Runs.invariant start_inv (fun _ _ _ hinv hstep => step_inv hinv hstep) hrun

/-- In whichever order the calls and the thread go on, a byte is only written while the pair
of sockets is there, no thread is created over another, `is_running` is about the thread
that there is, and the flags of a call do not outlive it. -/
theorem calls_and_thread_agree {events : List Event} {tunnel : HevSocks5Tunnel}
    (hrun : events.foldlM step {} = some tunnel) :
    tunnel.astray = false ∧ (tunnel.call = .writing → tunnel.opened = true) ∧
      tunnel.doubled = false ∧ (tunnel.threadJoinable = true ↔ tunnel.work ≠ .none) ∧
      (tunnel.isRunning = true ↔ tunnel.work ≠ .none ∧ tunnel.work ≠ .ended) ∧
      (tunnel.call = .idle → tunnel.wait = false ∧ tunnel.sent = false) := by
  have hinv := run_inv hrun
  refine ⟨hinv.astray, fun hwriting => (hinv.writing (.inr hwriting)).1, hinv.doubled,
    hinv.joinable, hinv.isRunning, fun hidle => ⟨?_, ?_⟩⟩
  · rw [hinv.wait, hidle]
    rfl
  · by_contra hmarked
    have hwhere := (hinv.sent (by simpa using hmarked)).1
    simp [hidle] at hwhere

/-- A failed engine is replaced by another, and the byte that stops it is about to be
written. -/
def waking : List Event :=
  [.start true, .work true, .work false, .start true, .call, .work false, .work false, .work false,
    .work false, .stop, .call, .call]

def woken : HevSocks5Tunnel where
  send := true
  sent := true
  wait := true
  opened := true
  isRunning := true
  threadJoinable := true
  work := .running
  call := .writing
  failed := true

theorem calls_and_thread_agree_waking :
    woken.astray = false ∧ (woken.call = .writing → woken.opened = true) ∧
      woken.doubled = false ∧ (woken.threadJoinable = true ↔ woken.work ≠ .none) ∧
      (woken.isRunning = true ↔ woken.work ≠ .none ∧ woken.work ≠ .ended) ∧
      (woken.call = .idle → woken.wait = false ∧ woken.sent = false) :=
  @calls_and_thread_agree waking woken rfl

/-- The event task waits for a byte that nobody has written. -/
def Lost (self : HevSocks5Tunnel) : Prop := self.work = .running ∧ self.unread = 0

section Joining

variable {tunnel tunnel' : HevSocks5Tunnel}

/-- A stop is only lost by a thread that has passed its test. -/
theorem lost_crossed (hinv : tunnel.Inv) (hjoining : tunnel.call = .joining)
    (hlost : tunnel.Lost) : tunnel.crossed = true := by
  obtain ⟨hrunning, hunread⟩ := hlost
  rcases hinv.delivered (.inr hjoining) with hcrossed | hlate | ⟨_, hearly⟩ | ⟨hbyte, _⟩
  · exact hcrossed
  · simp [hrunning, WorkPhase.late] at hlate
  · simp [hrunning, WorkPhase.early] at hearly
  · omega

/-- When the stop is lost, neither the thread nor the call can go on. -/
theorem lost_stuck (hjoining : tunnel.call = .joining) (hlost : tunnel.Lost) (event : Event) :
    tunnel.step event = none := by
  obtain ⟨hrunning, hunread⟩ := hlost
  cases event with
  | start creates => simp [step, hjoining]
  | stop => simp [step, hjoining]
  | call => simp [step, callStep, hjoining, hrunning]
  | work fails => simp [step, workStep, hrunning, hunread]

/-- The thread can go on, or has ended and is joined. -/
theorem joining_enabled (hinv : tunnel.Inv) (hjoining : tunnel.call = .joining)
    (hlost : ¬ tunnel.Lost) : ∃ event, (tunnel.step event).isSome := by
  have hthread := hinv.thread (by simp [hjoining])
  unfold Lost at hlost
  by_cases hended : tunnel.work = .ended
  · exact ⟨.call, by simp [step, callStep, hjoining, hended]⟩
  · refine ⟨.work false, ?_⟩
    cases hwork : tunnel.work <;> simp_all [step, workStep]
    split <;> rfl

/-- A stop that has been delivered is found, so no step of the thread loses it. -/
theorem joining_workStep (hinv : tunnel.Inv) (hjoining : tunnel.call = .joining) {fails : Bool}
    (hstep : tunnel.workStep fails = some tunnel') :
    ¬ tunnel'.Lost ∧ tunnel'.work.rank < tunnel.work.rank := by
  have hdelivered := hinv.delivered (.inr hjoining)
  have hbehind := hinv.behind
  have hfree : tunnel.wait = false := by rw [hinv.wait, hjoining]; rfl
  unfold workStep at hstep
  unfold Delivered at hdelivered
  unfold Lost
  cases hwork : tunnel.work with
  | none => simp [hwork] at hstep
  | ended => simp [hwork] at hstep
  | entering =>
      cases fails <;> simp [hwork] at hstep <;> subst hstep <;> simp [WorkPhase.rank]
  | initializing =>
      cases fails <;> simp [hwork] at hstep <;> subst hstep <;> simp [WorkPhase.rank]
  | opened =>
      cases fails <;> simp [hwork] at hstep <;> subst hstep <;> simp [WorkPhase.rank]
  | initialized =>
      -- a stop that has been delivered is at the test, or its byte is there to be read
      cases hstop : tunnel.stop with
      | true =>
          simp [hwork, hstop] at hstep
          subst hstep
          simp [WorkPhase.rank]
      | false =>
          have huncrossed : tunnel.crossed = false := by
            by_contra hcrossed
            have hpast := hbehind (by simpa using hcrossed)
            simp [hwork, WorkPhase.early] at hpast
          have hbyte : 0 < tunnel.unread := by
            simpa [hwork, hstop, huncrossed, WorkPhase.late] using hdelivered
          simp [hwork, hstop] at hstep
          subst hstep
          simp [WorkPhase.rank]
          omega
  | running =>
      simp [hwork] at hstep
      obtain ⟨_, rfl⟩ := hstep
      simp [WorkPhase.rank]
  | stopping =>
      simp [hwork] at hstep
      subst hstep
      simp [WorkPhase.rank]
  | unwinding =>
      simp [hwork] at hstep
      subst hstep
      simp [WorkPhase.rank]
  | finishing =>
      simp [hwork, hfree] at hstep
      subst hstep
      simp [WorkPhase.rank]
  | closing =>
      simp [hwork] at hstep
      subst hstep
      simp [WorkPhase.rank]
  | leaving =>
      simp [hwork] at hstep
      subst hstep
      simp [WorkPhase.rank]

end Joining

/-- The call waits for a thread that can go on. -/
structure Joining (tunnel : HevSocks5Tunnel) : Prop where
  inv : tunnel.Inv
  call : tunnel.call = .joining
  found : ¬ tunnel.Lost

/-- The call has returned, and there is no thread. -/
def Joined (tunnel : HevSocks5Tunnel) : Prop := tunnel.call = .idle ∧ tunnel.work = .none

/-- While the call waits, each step ends it or brings the thread closer to its end. -/
theorem Joining.step {tunnel tunnel' : HevSocks5Tunnel} (hjoining : tunnel.Joining) {event : Event}
    (hstep : tunnel.step event = some tunnel') :
    tunnel'.Joined ∨ tunnel'.Joining ∧ tunnel'.work.rank < tunnel.work.rank := by
  obtain ⟨hinv, hcall, hfound⟩ := hjoining
  have hinv' := step_inv hinv hstep
  cases event with
  | start creates => simp [HevSocks5Tunnel.step, hcall] at hstep
  | stop => simp [HevSocks5Tunnel.step, hcall] at hstep
  | call =>
      simp only [HevSocks5Tunnel.step, callStep, hcall] at hstep
      obtain ⟨_, hstep⟩ := Option.ite_none_right_eq_some.mp hstep
      obtain rfl := Option.some.inj hstep
      exact .inl ⟨rfl, rfl⟩
  | work fails =>
      obtain ⟨hfound', hless⟩ := joining_workStep hinv hcall hstep
      exact .inr ⟨⟨hinv', (workStep_call hstep).trans hcall, hfound'⟩, hless⟩

/-- A call that waits for the thread returns after a bounded number of steps, whichever they
are, except in one case: the event task waits for a byte that nobody has written. Then
nothing can go on any more, and the thread had passed its test after the call found
`SYNC_SEND` clear and before it set `SYNC_STOP`. -/
theorem stop_returns_unless_crossed {events : List Event} {tunnel : HevSocks5Tunnel}
    (hrun : events.foldlM step {} = some tunnel) (hjoining : tunnel.call = .joining) :
    (tunnel.Lost → tunnel.crossed = true ∧ ∀ event, tunnel.step event = none) ∧
      (¬ tunnel.Lost → (∃ event, (tunnel.step event).isSome) ∧
        (∀ event tunnel', tunnel.step event = some tunnel' →
          tunnel'.call = .idle ∧ tunnel'.work = .none ∨
            tunnel'.call = .joining ∧ ¬ tunnel'.Lost ∧
              tunnel'.work.rank < tunnel.work.rank) ∧
        ∀ more later, more.foldlM step tunnel = some later →
          Runs.DoneWithin step Joined (tunnel.work.rank + 1) tunnel more ∨
            later.call = .joining ∧ more.length + later.work.rank ≤ tunnel.work.rank ∧
              ∃ event, (later.step event).isSome) := by
  have hinv := run_inv hrun
  refine ⟨fun hlost => ⟨lost_crossed hinv hjoining hlost, lost_stuck hjoining hlost⟩,
    fun hlost => ⟨joining_enabled hinv hjoining hlost, ?_, ?_⟩⟩
  · intro event tunnel' hstep
    rcases (Joining.mk hinv hjoining hlost).step hstep with hjoined | ⟨⟨_, hcall, hfound⟩, hless⟩
    · exact .inl hjoined
    · exact .inr ⟨hcall, hfound, hless⟩
  · intro more later hmore
    have hstep : ∀ before event after, Joining before → step before event = some after →
        Joined after ∨ Joining after ∧ after.work.rank < before.work.rank :=
      fun _ _ _ hbefore hstep => hbefore.step hstep
    rcases Runs.measured hstep ⟨hinv, hjoining, hlost⟩ hmore with
      hdone | ⟨⟨hinv', hcall, hfound⟩, hlength⟩
    · exact .inl hdone
    · exact .inr ⟨hcall, hlength, joining_enabled hinv' hcall hfound⟩

/-- The stop finds the thread in its initialization. -/
def crossing : List Event :=
  [.start true, .work false, .work false, .stop, .call, .work false, .work false, .call, .call]

def stranded : HevSocks5Tunnel where
  send := true
  stop := true
  opened := true
  isRunning := true
  threadJoinable := true
  work := .running
  call := .joining
  crossed := true

/-- The byte has been written. -/
def informed : HevSocks5Tunnel where
  send := true
  sent := true
  opened := true
  unread := 1
  isRunning := true
  threadJoinable := true
  work := .running
  call := .joining
  failed := true

/-- One stop is lost; another has returned when seven steps are made. -/
theorem stop_returns_unless_crossed_crossing :
    (crossing.foldlM step {} = some stranded ∧ stranded.stop = true ∧
      ∀ event, stranded.step event = none) ∧
    (waking ++ [Event.call, .call]).foldlM step {} = some informed ∧
      ∀ more later, more.foldlM step informed = some later → 7 ≤ more.length →
        Runs.DoneWithin step Joined 7 informed more := by
  obtain ⟨hlost, _⟩ := @stop_returns_unless_crossed crossing stranded rfl rfl
  obtain ⟨_, hreturns⟩ :=
    @stop_returns_unless_crossed (waking ++ [Event.call, .call]) informed rfl rfl
  obtain ⟨_, _, hbounded⟩ := hreturns fun hstuck => absurd hstuck.2 (by decide)
  refine ⟨⟨rfl, rfl, (hlost ⟨rfl, rfl⟩).2⟩, rfl, fun more later hmore hlong => ?_⟩
  rcases hbounded more later hmore with hdone | ⟨_, hlength, _⟩
  · exact hdone
  · have hshort : more.length ≤ 6 := Nat.le_trans (Nat.le_add_right _ _) hlength
    omega

/-! ## While no initialization fails -/

/-- The thread stays until a call has told it to stop. -/
structure Orderly (tunnel : HevSocks5Tunnel) : Prop where
  untold : tunnel.call ≠ .clearing ∧ tunnel.call ≠ .joining →
    (tunnel.work = .none ∨ tunnel.work.early = true ∨ tunnel.work = .running) ∧
      tunnel.unread = 0 ∧ tunnel.stop = false
  marked : tunnel.stop = true →
    tunnel.work.early = true ∨ tunnel.work = .running ∧ tunnel.unread = 0
  ended : tunnel.work = .ended ∨ tunnel.work = .leaving → tunnel.unread = 0

structure Kept (tunnel : HevSocks5Tunnel) : Prop where
  inv : tunnel.Inv
  orderly : tunnel.failed = false → tunnel.Orderly

section Orderly

variable {self self' : HevSocks5Tunnel}

/-- As long as no initialization fails the thread goes on where it is told to. -/
theorem workStep_orderly (horderly : self.failed = false → self.Orderly) {fails : Bool}
    (hstep : self.workStep fails = some self') (hfine : self'.failed = false) : self'.Orderly := by
  have hsame : self.failed = false := by
    unfold workStep at hstep
    grind
  obtain ⟨huntold, hmarked, hended⟩ := horderly hsame
  unfold workStep at hstep
  constructor <;> grind [WorkPhase.early]

/-- The calls tell it before they wait for it. -/
theorem callStep_orderly (hinv : self.Inv) (horderly : self.failed = false → self.Orderly)
    (hstep : self.callStep = some self') (hfine : self'.failed = false) : self'.Orderly := by
  have hsame : self.failed = false := by
    unfold callStep create at hstep
    grind
  obtain ⟨huntold, hmarked, hended⟩ := horderly hsame
  have hthread := hinv.thread
  unfold callStep at hstep
  cases hcall : self.call with
  | idle => simp [hcall] at hstep
  | rejoining creates =>
      -- a thread that ends by itself has failed
      have hover := hinv.rejoining creates hcall
      have hwhere := (huntold (by simp [hcall])).1
      simp [hover, WorkPhase.early] at hwhere
  | waiting => constructor <;> grind [WorkPhase.early]
  | sending => constructor <;> grind [WorkPhase.early]
  | writing => constructor <;> grind [WorkPhase.early]
  | marking => constructor <;> grind [WorkPhase.early]
  | clearing => constructor <;> grind [WorkPhase.early]
  | joining => constructor <;> grind [WorkPhase.early]

/-- Every step keeps the thread where it was not told to leave. -/
theorem step_orderly (hinv : self.Inv) (horderly : self.failed = false → self.Orderly)
    {event : Event} (hstep : self.step event = some self') (hfine : self'.failed = false) :
    self'.Orderly := by
  cases event with
  | start creates =>
      obtain ⟨hidle, hstep⟩ := Option.ite_none_right_eq_some.mp hstep
      obtain rfl := Option.some.inj hstep
      have hsame : self.failed = false := by
        unfold startService create at hfine
        grind
      obtain ⟨huntold, hmarked, hended⟩ := horderly hsame
      have hjoinable := hinv.joinable
      have hisRunning := hinv.isRunning
      unfold startService create
      constructor <;> grind [WorkPhase.early]
  | stop =>
      obtain ⟨hidle, hstep⟩ := Option.ite_none_right_eq_some.mp hstep
      obtain rfl := Option.some.inj hstep
      have hsame : self.failed = false := by
        unfold stopService at hfine
        grind
      obtain ⟨huntold, hmarked, hended⟩ := horderly hsame
      have hjoinable := hinv.joinable
      have hisRunning := hinv.isRunning
      unfold stopService
      constructor <;> grind [WorkPhase.early]
  | call => exact callStep_orderly hinv horderly hstep hfine
  | work fails => exact workStep_orderly horderly hstep hfine

end Orderly

/-- As long as no initialization has failed, a thread ends only because a call has told it
to, and `SYNC_STOP` does not outlive the call: no thread leaves at its test unless it is
itself being stopped. -/
theorem thread_stays_until_told {events : List Event} {tunnel : HevSocks5Tunnel}
    (hrun : events.foldlM step {} = some tunnel) (hfine : tunnel.failed = false)
    (huntold : tunnel.call ≠ .clearing ∧ tunnel.call ≠ .joining) :
    (tunnel.work = .none ∨ tunnel.work.early = true ∨ tunnel.work = .running) ∧
      tunnel.stop = false ∧ tunnel.unread = 0 := by
  have hkept : tunnel.Kept := by
    refine Runs.invariant ⟨start_inv, fun _ => ?_⟩ ?_ hrun
    · constructor <;> simp
    · intro before event after hkept hstep
      exact ⟨step_inv hkept.inv hstep, step_orderly hkept.inv hkept.orderly hstep⟩
  obtain ⟨hwhere, hunread, hstop⟩ := (hkept.orderly hfine).untold huntold
  exact ⟨hwhere, hstop, hunread⟩

/-- Two starts and a stop between them. -/
def restarting : List Event :=
  [.start true, .work false, .stop, .call, .call, .call, .work false, .work false, .work false,
    .work false, .work false, .work false, .call, .start true]

def restarted : HevSocks5Tunnel where
  isRunning := true
  threadJoinable := true
  work := .entering

theorem thread_stays_until_told_restarting :
    (restarted.work = .none ∨ restarted.work.early = true ∨ restarted.work = .running) ∧
      restarted.stop = false ∧ restarted.unread = 0 :=
  @thread_stays_until_told restarting restarted rfl rfl ⟨by decide, by decide⟩

/-- After a failure the flag may outlive the call, and the next thread leaves at its test. -/
example :
    ∃ tunnel, [Event.start true, .work false, .stop, .call, .work true, .call, .call, .work false,
        .work false, .work false, .call, .start true].foldlM step {} = some tunnel ∧
      tunnel.call = .idle ∧ tunnel.stop = true := ⟨_, rfl, rfl, rfl⟩

end HevSocks5Tunnel

end AIUnblock
