import Mathlib.Data.List.Infix
import AIUnblock.Relay.Tunnel

/-! # Ending one way of a connection

A copy loop that reads the end of its stream closes both sockets. Nothing is lost when
the loop of the other way has its stream behind it by then; otherwise the tail of that
way never arrives.
-/

namespace AIUnblock.LocalSocksRelay

open Relation

/-! ## Connections -/

structure Tunnel where
  link : Link
  loop : Way → Loop

namespace Tunnel

def fresh : Tunnel where
  link := .fresh
  loop _ := .reading

def advance (tunnel : Tunnel) (way : Way) (state : Link × Loop) : Tunnel where
  link := state.1
  loop := Function.update tunnel.loop way state.2

/-- A step of the loop of `way`. -/
def Acts (way : Way) (tunnel tunnel' : Tunnel) : Prop :=
  ∃ state, LoopStep way (tunnel.link, tunnel.loop way) state ∧ tunnel' = tunnel.advance way state

/-- A step of an endpoint or of a loop. -/
inductive Step : Tunnel → Tunnel → Prop
  | send {tunnel} (way : Way) (bytes : Bytes)
      (hended : (tunnel.link.channel way).ended = false) :
      Step tunnel { tunnel with link := tunnel.link.send way bytes }
  | finish {tunnel} (way : Way) (hended : (tunnel.link.channel way).ended = false) :
      Step tunnel { tunnel with link := tunnel.link.finish way }
  | acts {tunnel tunnel'} (way : Way) (hacts : Acts way tunnel tunnel') : Step tunnel tunnel'

end Tunnel

/-- The loop is over and releases the sockets. -/
def Loop.Leaving : Loop → Prop
  | .reading | .writing _ => False
  | _ => True

/-- The loop has closed the client. -/
def Loop.Closing : Loop → Prop
  | .reading | .writing _ | .closingClient => False
  | _ => True

namespace Tunnel

/-- The loop of `way` has left, or it stands before the end of its stream. -/
def Drained (tunnel : Tunnel) (way : Way) : Prop :=
  (tunnel.loop way).Leaving ∨
    tunnel.loop way = .reading ∧ (tunnel.link.channel way).ended = true ∧
      (tunnel.link.channel way).taken = (tunnel.link.channel way).sent

/-- The loop of `way`, which has left, begins to close the sockets. -/
def BeginsClosing (way : Way) (tunnel tunnel' : Tunnel) : Prop :=
  tunnel.loop way = .closingClient ∧ tunnel'.loop way = .closingUpstream

/-- A loop begins to close the sockets only when the other one has its stream behind it. -/
def Orderly (tunnel tunnel' : Tunnel) : Prop :=
  ∀ way, BeginsClosing way tunnel tunnel' → tunnel.Drained way.other

end Tunnel

/-! ## What the loops keep -/

namespace Loop

/-- Bytes that were taken and are still to be written. -/
def pending : Loop → Bytes
  | .writing chunk => chunk
  | _ => []

/-- A loop that closes is about to leave. -/
theorem Closing.leaving {loop : Loop} (hclosing : loop.Closing) : loop.Leaving := by
  cases loop with
  | reading | writing | closingClient => exact hclosing.elim
  | _ => trivial

end Loop

/-- What a loop has done to its channel. -/
structure Faithful (channel : Channel) (loop : Loop) : Prop where
  taken : channel.taken <+: channel.sent
  pending : channel.taken = channel.delivered ++ loop.pending
  nonempty : loop ≠ .writing []

/-- What is delivered was sent before. -/
theorem Faithful.delivered {channel : Channel} {loop : Loop} (hfaithful : Faithful channel loop) :
    channel.delivered <+: channel.sent :=
  (hfaithful.pending ▸ List.prefix_append _ _ : channel.delivered <+: channel.taken).trans
    hfaithful.taken

/-- Nothing is in flight on a complete way. -/
theorem Faithful.pending_eq_nil {channel : Channel} {loop : Loop}
    (hfaithful : Faithful channel loop) (hcomplete : channel.Complete) : loop.pending = [] := by
  have hlength := hfaithful.taken.length_le
  rw [hfaithful.pending, hcomplete.2, List.length_append] at hlength
  exact List.eq_nil_of_length_eq_zero (by omega)

/-- Both ways are complete. -/
def Link.Complete (link : Link) : Prop := ∀ way, (link.channel way).Complete

namespace Link

variable {link : Link} {way way' : Way} {channel : Channel}

@[simp] theorem setChannel_same : (link.setChannel way channel).channel way = channel := by
  simp [setChannel]

@[simp] theorem setChannel_other (hne : way' ≠ way) :
    (link.setChannel way channel).channel way' = link.channel way' := by
  simp [setChannel, hne]

end Link

/-- No loop touches the channel of the other way. -/
theorem LoopStep.other {way way' : Way} {state state' : Link × Loop}
    (hstep : LoopStep way state state') (hne : way' ≠ way) :
    state'.1.channel way' = state.1.channel way' := by
  cases hstep with
  | read | write => exact Link.setChannel_other hne
  | _ => rfl

/-- Sockets are closed on complete connections only, and a loop leaves when its own way is
complete. -/
structure Sound (tunnel : Tunnel) : Prop where
  faithful : ∀ way, Faithful (tunnel.link.channel way) (tunnel.loop way)
  leaving : ∀ way, (tunnel.loop way).Leaving → (tunnel.link.channel way).Complete
  closing : ∀ way, (tunnel.loop way).Closing → tunnel.link.isOpen .client = false
  closed : ∀ endpoint, tunnel.link.isOpen endpoint = false → tunnel.link.Complete

/-- A fresh tunnel has delivered nothing. -/
theorem sound_fresh : Sound .fresh where
  faithful _ := ⟨List.prefix_refl _, rfl, nofun⟩
  leaving _ hleaving := hleaving.elim
  closing _ hclosing := hclosing.elim
  closed _ hclosed := nomatch hclosed

/-- A loop that has delivered its stream has it behind it. -/
theorem Faithful.drained {tunnel : Tunnel} {way : Way}
    (hfaithful : Faithful (tunnel.link.channel way) (tunnel.loop way))
    (hcomplete : (tunnel.link.channel way).Complete) : tunnel.Drained way := by
  have hnone := hfaithful.pending_eq_nil hcomplete
  cases hloop : tunnel.loop way with
  | reading =>
      refine Or.inr ⟨hloop, hcomplete.1, ?_⟩
      rw [hfaithful.pending, hnone, List.append_nil, hcomplete.2]
  | writing chunk =>
      rw [hloop] at hnone
      cases hnone
      exact absurd hloop hfaithful.nonempty
  | _ =>
      left
      rw [hloop]
      trivial

/-- Endpoints act on ways that have not ended. -/
theorem Sound.endpoint {tunnel : Tunnel} {way : Way} {channel : Channel} (hsound : Sound tunnel)
    (hended : (tunnel.link.channel way).ended = false)
    (hsent : (tunnel.link.channel way).sent <+: channel.sent)
    (htaken : channel.taken = (tunnel.link.channel way).taken)
    (hdelivered : channel.delivered = (tunnel.link.channel way).delivered) :
    Sound { tunnel with link := tunnel.link.setChannel way channel } := by
  have hincomplete : ¬ (tunnel.link.channel way).Complete := fun hcomplete => by
    rw [hcomplete.1] at hended
    contradiction
  refine ⟨fun way' => ?_, fun way' hleaving => ?_, hsound.closing, fun endpoint hclosed => ?_⟩
  · by_cases heq : way' = way
    · subst heq
      rw [Link.setChannel_same]
      have hfaithful := hsound.faithful way'
      refine ⟨?_, ?_, hfaithful.nonempty⟩
      · rw [htaken]
        exact hfaithful.taken.trans hsent
      · rw [htaken, hdelivered]
        exact hfaithful.pending
    · rw [Link.setChannel_other heq]
      exact hsound.faithful way'
  · by_cases heq : way' = way
    · subst heq
      exact absurd (hsound.leaving way' hleaving) hincomplete
    · rw [Link.setChannel_other heq]
      exact hsound.leaving way' hleaving
  · exact absurd (hsound.closed endpoint hclosed way) hincomplete

section LoopStep

variable {way : Way} {state state' : Link × Loop}

/-- A step of the loop of a way keeps the way in order. -/
theorem LoopStep.faithful (hstep : LoopStep way state state')
    (hfaithful : Faithful (state.1.channel way) state.2)
    (hclosed : ∀ endpoint, state.1.isOpen endpoint = false → state.1.Complete) :
    Faithful (state'.1.channel way) state'.2 := by
  obtain ⟨htaken, hpending, hnonempty⟩ := hfaithful
  cases hstep with
  | @read link chunk rest hopen hchunk hfits hsent =>
      rw [Link.take, Link.setChannel_same]
      have hall : (link.channel way).taken = (link.channel way).delivered := by
        simpa [Loop.pending] using hpending
      exact ⟨⟨rest, hsent.symm⟩, by simp [Loop.pending, hall], by simpa using hchunk⟩
  | write =>
      rw [Link.deliver, Link.setChannel_same]
      exact ⟨htaken, by simpa [Loop.pending] using hpending, nofun⟩
  | writeClosed hsink =>
      -- the chunk that cannot be written is empty, for the way is complete
      have hnone := Faithful.pending_eq_nil ⟨htaken, hpending, hnonempty⟩ (hclosed _ hsink way)
      rw [hnone] at hpending
      exact ⟨htaken, hpending, nofun⟩
  | readEnd | readClosed | closeClient | closeUpstream | unregister =>
      exact ⟨htaken, hpending, nofun⟩

/-- A complete connection stays complete. -/
theorem LoopStep.complete (hstep : LoopStep way state state')
    (hfaithful : Faithful (state.1.channel way) state.2) (hcomplete : state.1.Complete) :
    state'.1.Complete := by
  have hnone := hfaithful.pending_eq_nil (hcomplete way)
  intro way'
  by_cases heq : way' = way
  · subst heq
    obtain ⟨hended, hdelivered⟩ := hcomplete way'
    cases hstep with
    | @read link chunk rest hopen hchunk hfits hsent =>
        -- nothing is left to take
        have hall := hfaithful.pending
        rw [hnone, List.append_nil, hdelivered, hsent] at hall
        have hlength := congrArg List.length hall
        have hpos := List.length_pos_iff.mpr hchunk
        simp only [List.length_append] at hlength
        omega
    | @write link chunk =>
        have hchunk : chunk = [] := hnone
        rw [Link.deliver, Link.setChannel_same, hchunk, List.append_nil]
        exact ⟨hended, hdelivered⟩
    | _ => exact ⟨hended, hdelivered⟩
  · rw [hstep.other heq]
    exact hcomplete way'

/-- A loop leaves when its own way is complete. -/
theorem LoopStep.leaving (hstep : LoopStep way state state')
    (hfaithful : Faithful (state.1.channel way) state.2)
    (hclosed : ∀ endpoint, state.1.isOpen endpoint = false → state.1.Complete)
    (hleaving : state.2.Leaving → (state.1.channel way).Complete) (hlate : state'.2.Leaving) :
    (state'.1.channel way).Complete := by
  cases hstep with
  | read | write => exact hlate.elim
  | @readEnd link hopen hended hall =>
      -- nothing is pending while the loop reads
      refine ⟨hended, ?_⟩
      rw [← hall, hfaithful.pending]
      exact (List.append_nil _).symm
  | readClosed hsource => exact hclosed _ hsource way
  | writeClosed hsink => exact hclosed _ hsink way
  | closeClient | closeUpstream | unregister => exact hleaving trivial

/-- A loop closes the client first. -/
theorem LoopStep.closing (hstep : LoopStep way state state')
    (hclosing : state.2.Closing → state.1.isOpen .client = false) (hlate : state'.2.Closing) :
    state'.1.isOpen .client = false := by
  cases hstep with
  | read | readEnd | readClosed | write | writeClosed => exact hlate.elim
  | closeClient => rfl
  | closeUpstream =>
      have hclient := hclosing trivial
      simpa [Link.close] using hclient
  | unregister => exact hclosing trivial

/-- No step opens a socket again. -/
theorem LoopStep.closed_of_closed (hstep : LoopStep way state state') {endpoint : Endpoint}
    (hclosed : state.1.isOpen endpoint = false) : state'.1.isOpen endpoint = false := by
  cases hstep with
  | closeClient | closeUpstream => cases endpoint <;> simp_all [Link.close]
  | _ => exact hclosed

/-- The sockets are closed in two steps. -/
theorem LoopStep.closed (hstep : LoopStep way state state') {endpoint : Endpoint}
    (hclosed : state'.1.isOpen endpoint = false) :
    state.1.isOpen endpoint = false ∨ state.2 = .closingClient ∧ state'.2 = .closingUpstream ∨
      state.2.Closing := by
  cases hstep with
  | closeClient => exact Or.inr (Or.inl ⟨rfl, rfl⟩)
  | closeUpstream | unregister => exact Or.inr (Or.inr trivial)
  | _ => exact Or.inl hclosed

end LoopStep

section Step

variable {tunnel tunnel' : Tunnel}

theorem Tunnel.advance_loop (tunnel : Tunnel) (way : Way) (state : Link × Loop) :
    (tunnel.advance way state).loop way = state.2 := by
  simp [Tunnel.advance]

theorem Tunnel.advance_other (tunnel : Tunnel) {way way' : Way} (state : Link × Loop)
    (hne : way' ≠ way) : (tunnel.advance way state).loop way' = tunnel.loop way' := by
  simp [Tunnel.advance, hne]

/-- A connection stays sound if no loop begins to close while the other way is incomplete. -/
theorem Sound.step (hsound : Sound tunnel) (hstep : Tunnel.Step tunnel tunnel')
    (hcloses : ∀ way, Tunnel.BeginsClosing way tunnel tunnel' →
      (tunnel.link.channel way.other).Complete) : Sound tunnel' := by
  cases hstep with
  | send way bytes hended =>
      exact hsound.endpoint hended (List.prefix_append _ _) rfl rfl
  | finish way hended => exact hsound.endpoint hended (List.prefix_refl _) rfl rfl
  | acts way hacts =>
      obtain ⟨state, hloop, rfl⟩ := hacts
      have hloopAt := tunnel.advance_loop way state
      have hfaithful := hsound.faithful way
      have hkeeps : tunnel.link.Complete → state.1.Complete := hloop.complete hfaithful
      refine ⟨fun way' => ?_, fun way' hleaving => ?_, fun way' hclosing => ?_,
        fun endpoint hclosed => hkeeps ?_⟩
      -- only the loop and the channel of the acting way change
      · by_cases heq : way' = way
        · subst heq
          rw [hloopAt]
          exact hloop.faithful hfaithful hsound.closed
        · rw [tunnel.advance_other state heq]
          have hsame : state.1.channel way' = tunnel.link.channel way' := hloop.other heq
          exact hsame ▸ hsound.faithful way'
      · by_cases heq : way' = way
        · subst heq
          exact hloop.leaving hfaithful hsound.closed (hsound.leaving way') (hloopAt ▸ hleaving)
        · rw [tunnel.advance_other state heq] at hleaving
          have hsame : state.1.channel way' = tunnel.link.channel way' := hloop.other heq
          exact hsame ▸ hsound.leaving way' hleaving
      · by_cases heq : way' = way
        · subst heq
          exact hloop.closing (hsound.closing way') (hloopAt ▸ hclosing)
        · rw [tunnel.advance_other state heq] at hclosing
          exact hloop.closed_of_closed (hsound.closing way' hclosing)
      -- the first socket is closed when both ways are complete
      · rcases hloop.closed hclosed with hbefore | ⟨hbegins, hcloser⟩ | hclosing
        · exact hsound.closed endpoint hbefore
        · have hown : (tunnel.link.channel way).Complete := by
            apply hsound.leaving way
            have hlast : tunnel.loop way = .closingClient := hbegins
            rw [hlast]
            trivial
          have hother := hcloses way ⟨hbegins, hloopAt.trans hcloser⟩
          intro way'
          cases way <;> cases way' <;> first | exact hown | exact hother
        · exact hsound.closed .client (hsound.closing way hclosing)

/-- What begins to close closes the client. -/
theorem Tunnel.BeginsClosing.link {way : Way} (hbegins : BeginsClosing way tunnel tunnel')
    (hstep : Tunnel.Step tunnel tunnel') : tunnel'.link = tunnel.link.close .client := by
  obtain ⟨hbefore, hafter⟩ := hbegins
  cases hstep with
  | send | finish =>
      have hsame : tunnel.loop way = .closingUpstream := hafter
      rw [hbefore] at hsame
      cases hsame
  | acts way' hacts =>
      obtain ⟨state, hloop, rfl⟩ := hacts
      by_cases heq : way = way'
      · subst heq
        rw [tunnel.advance_loop] at hafter
        obtain ⟨link, loop⟩ := state
        dsimp only at hafter
        subst hafter
        rw [hbefore] at hloop
        cases hloop
        rfl
      · rw [tunnel.advance_other state heq, hbefore] at hafter
        cases hafter

end Step

/-! ## Runs -/

/-- A sequence of steps from a fresh connection; a state may be repeated. -/
structure IsRun (step : Tunnel → Tunnel → Prop) (run : Nat → Tunnel) : Prop where
  start : run 0 = .fresh
  next : ∀ time, step (run time) (run (time + 1)) ∨ run (time + 1) = run time

namespace IsRun

variable {run : Nat → Tunnel}

/-- A run is sound as long as no loop begins to close while the other way is incomplete. -/
theorem sound_of (hrun : IsRun Tunnel.Step run)
    (hcloses : ∀ time, Sound (run time) → ∀ way,
      Tunnel.BeginsClosing way (run time) (run (time + 1)) →
        ((run time).link.channel way.other).Complete) (time : Nat) : Sound (run time) := by
  induction time with
  | zero =>
      rw [hrun.start]
      exact sound_fresh
  | succ time ih =>
      rcases hrun.next time with hstep | hsame
      · exact ih.step hstep (hcloses time ih)
      · rw [hsame]
        exact ih

/-- A run that closes complete connections only is orderly. -/
theorem orderly (hrun : IsRun Tunnel.Step run)
    (hclosed : ∀ time endpoint, (run time).link.isOpen endpoint = false → (run time).link.Complete)
    (time : Nat) : (run time).Orderly (run (time + 1)) := by
  have hcloses : ∀ time way, Tunnel.BeginsClosing way (run time) (run (time + 1)) →
      ((run time).link.channel way.other).Complete := by
    intro time way hbegins
    rcases hrun.next time with hstep | hsame
    · have hlink := hbegins.link hstep
      have hcomplete := hclosed (time + 1) .client (by simp [hlink, Link.close])
      rw [hlink] at hcomplete
      exact hcomplete way.other
    · -- a repeated state begins nothing
      obtain ⟨hbefore, hafter⟩ := hbegins
      rw [hsame, hbefore] at hafter
      cases hafter
  intro way hbegins
  have hsound := hrun.sound_of (fun time _ => hcloses time) time
  exact (hsound.faithful way.other).drained (hcloses time way hbegins)

end IsRun

/-- What is sent, taken or delivered only grows. -/
structure Grows (channel channel' : Channel) : Prop where
  sent : channel.sent <+: channel'.sent
  taken : channel.taken <+: channel'.taken
  delivered : channel.delivered <+: channel'.delivered

theorem Grows.refl (channel : Channel) : Grows channel channel :=
  ⟨List.prefix_refl _, List.prefix_refl _, List.prefix_refl _⟩

/-- No step takes back what was sent or delivered. -/
theorem LoopStep.grows {way way' : Way} {state state' : Link × Loop}
    (hstep : LoopStep way state state') :
    Grows (state.1.channel way') (state'.1.channel way') := by
  by_cases heq : way' = way
  · subst heq
    cases hstep with
    | read =>
        rw [Link.take, Link.setChannel_same]
        exact ⟨List.prefix_refl _, List.prefix_append _ _, List.prefix_refl _⟩
    | write =>
        rw [Link.deliver, Link.setChannel_same]
        exact ⟨List.prefix_refl _, List.prefix_refl _, List.prefix_append _ _⟩
    | _ => exact Grows.refl _
  · rw [hstep.other heq]
    exact Grows.refl _

/-- Nor does any step of the tunnel. -/
theorem Tunnel.Step.grows {tunnel tunnel' : Tunnel} (hstep : Tunnel.Step tunnel tunnel')
    (way : Way) : Grows (tunnel.link.channel way) (tunnel'.link.channel way) := by
  cases hstep with
  | send way' bytes =>
      by_cases heq : way = way'
      · subst heq
        rw [Link.send, Link.setChannel_same]
        exact ⟨List.prefix_append _ _, List.prefix_refl _, List.prefix_refl _⟩
      · rw [Link.send, Link.setChannel_other heq]
        exact Grows.refl _
  | finish way' =>
      by_cases heq : way = way'
      · subst heq
        rw [Link.finish, Link.setChannel_same]
        exact ⟨List.prefix_refl _, List.prefix_refl _, List.prefix_refl _⟩
      · rw [Link.finish, Link.setChannel_other heq]
        exact Grows.refl _
  | acts way' hacts =>
      obtain ⟨state, hloop, rfl⟩ := hacts
      exact hloop.grows

/-- So a way only grows in a run. -/
theorem IsRun.grows {run : Nat → Tunnel} (hrun : IsRun Tunnel.Step run) (way : Way) (time : Nat) :
    Grows ((run time).link.channel way) ((run (time + 1)).link.channel way) := by
  rcases hrun.next time with hstep | hsame
  · exact hstep.grows way
  · rw [hsame]
    exact Grows.refl _

/-- What the loop of a way still has to do for the first `count` bytes. -/
def work (count : Nat) (channel : Channel) : Nat :=
  (count - channel.taken.length) + (count - channel.delivered.length)

section Work

variable {way : Way} {link : Link} {loop : Loop} {count : Nat}

/-- What was read is delivered or about to be written. -/
theorem Faithful.length_taken {channel : Channel} {loop : Loop}
    (hfaithful : Faithful channel loop) :
    channel.taken.length = channel.delivered.length + loop.pending.length := by
  rw [hfaithful.pending, List.length_append]

/-- A loop that reads still has to take what it has to deliver. -/
theorem Faithful.missing {channel : Channel} (hfaithful : Faithful channel .reading)
    (hwork : 0 < work count channel) : channel.taken.length < count := by
  have hlength := hfaithful.length_taken
  simp only [Loop.pending, List.length_nil] at hlength
  unfold work at hwork
  omega

end Work

/-- The client has ended its way, and the upstream has answered one byte. -/
def halfClosed : Tunnel :=
  { Tunnel.fresh with link := ((Link.fresh.finish .up).send .down [1]).finish .down }

/-- The loop of `way` leaves: both sockets are closed. -/
def Tunnel.left (tunnel : Tunnel) (way : Way) : Tunnel :=
  tunnel.advance way ((tunnel.link.close .client).close .upstream, .finished)

namespace LateAnswer

/-- The loop of the client's way has read the end of its stream. -/
def upLeft : Tunnel := halfClosed.advance .up (halfClosed.link, .closingClient)

/-- Before it closes anything the answer is taken and delivered. -/
def taken : Tunnel := upLeft.advance .down (upLeft.link.take .down [1], .writing [1])

def delivered : Tunnel := taken.advance .down (taken.link.deliver .down [1], .reading)

def clientClosed : Tunnel :=
  delivered.advance .up (delivered.link.close .client, .closingUpstream)

def bothClosed : Tunnel :=
  clientClosed.advance .up (clientClosed.link.close .upstream, .unregistering)

def upFinished : Tunnel := bothClosed.advance .up (bothClosed.link, .finished)

/-- The other loop finds its socket closed, and closes both once more. -/
def downLeft : Tunnel := upFinished.advance .down (upFinished.link, .closingClient)

def clientClosedAgain : Tunnel :=
  downLeft.advance .down (downLeft.link.close .client, .closingUpstream)

def bothClosedAgain : Tunnel :=
  clientClosedAgain.advance .down (clientClosedAgain.link.close .upstream, .unregistering)

def finished : Tunnel := bothClosedAgain.advance .down (bothClosedAgain.link, .finished)

def run : Nat → Tunnel
  | 0 => .fresh
  | 1 => { Tunnel.fresh with link := Link.fresh.finish .up }
  | 2 => { Tunnel.fresh with link := (Link.fresh.finish .up).send .down [1] }
  | 3 => halfClosed
  | 4 => upLeft
  | 5 => taken
  | 6 => delivered
  | 7 => clientClosed
  | 8 => bothClosed
  | 9 => upFinished
  | 10 => downLeft
  | 11 => clientClosedAgain
  | 12 => bothClosedAgain
  | _ => finished

/-- Each loop begins to close when the other one has its stream behind it. -/
theorem orderly (time : Nat) : (run time).Orderly (run (time + 1)) := by
  rintro way ⟨hbefore, hafter⟩
  match time, way with
  | 6, .up => exact Or.inr ⟨rfl, rfl, rfl⟩
  | 10, .down => exact Or.inl trivial
  | 0, _ | 1, _ | 2, _ | 3, .up | 3, .down | 4, .up | 4, .down | 5, .up | 5, .down => cases hafter
  | 6, .down | 7, .up | 7, .down | 8, .up | 8, .down | 9, .up | 9, .down => cases hafter
  | 10, .up | 11, .up | 11, .down | 12, .up | 12, .down | _ + 13, .up | _ + 13, .down =>
      cases hbefore

end LateAnswer

end AIUnblock.LocalSocksRelay
