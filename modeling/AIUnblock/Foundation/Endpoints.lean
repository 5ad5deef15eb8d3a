import Mathlib.Order.GameAdd
import AIUnblock.Foundation.Conversation
import AIUnblock.Foundation.Program

/-! # Programs at the two ends of a connection

A program deals with its connection through some of its operations. One read
takes any non-empty part of what has arrived, so the same bytes may come in
different chunks. A program is steady if the chunks make no difference to it;
two steady programs then talk as two parties do.
-/

namespace Prog

variable {Op Op' M : Type} {Ans : Op → Type} {Ans' : Op' → Type} {α β : Type}

/-- What one read into `room` places can deliver. -/
abbrev Portion (M : Type) (room : Nat) : Type :=
  { chunk : List M // chunk ≠ [] ∧ chunk.length ≤ room }

/-- A single message. -/
def Portion.single {room : Nat} (hroom : 0 < room) (message : M) : Portion M room :=
  ⟨[message], List.cons_ne_nil _ _, hroom⟩

/-- How an operation deals with the connection. A program that comes to a `foreign`
one is not followed any further. -/
inductive Dealing (M Answer : Type) : Type
  | receive (room : Nat) (hroom : 0 < room) (answer : Option (Portion M room) → Answer)
  | send (messages : List M) (answer : Answer)
  | internal (answer : Answer)
  | foreign

variable (deal : (op : Op) → Dealing M (Ans op))

/-- The program as a party that gets its input message by message. -/
def party : Prog Op Ans α → Party M (Option α)
  | .ret value => .done (some value)
  | .call op next =>
    match deal op with
    | .receive _ hroom answer => .receive fun message =>
      (next (answer (message.map (Portion.single hroom)))).party
    | .send messages answer => .sendAll messages (next answer).party
    | .internal answer => (next answer).party
    | .foreign => .done none

/-- The program does not care how its input is cut into chunks. -/
def Steady : Prog Op Ans α → Prop
  | .ret _ => True
  | .call op next =>
    match deal op with
    | .receive room _ answer =>
      (∀ portion : Portion M room, (next (answer (some portion))).Steady ∧
        ((Prog.call op next).party deal).feed portion.1 =
          some ((next (answer (some portion))).party deal)) ∧
      (next (answer none)).Steady
    | .send _ answer => (next answer).Steady
    | .internal answer => (next answer).Steady
    | .foreign => True

section Bind

variable {deal}

theorem party_receive {op : Op} {next : Ans op → Prog Op Ans α} {room : Nat} {hroom : 0 < room}
    {answer : Option (Portion M room) → Ans op} (hdeal : deal op = .receive room hroom answer) :
    (Prog.call op next).party deal = .receive fun message =>
      (next (answer (message.map (Portion.single hroom)))).party deal := by
  rw [party, hdeal]

theorem party_send {op : Op} {next : Ans op → Prog Op Ans α} {messages : List M} {answer : Ans op}
    (hdeal : deal op = .send messages answer) :
    (Prog.call op next).party deal = .sendAll messages ((next answer).party deal) := by
  rw [party, hdeal]

theorem party_internal {op : Op} {next : Ans op → Prog Op Ans α} {answer : Ans op}
    (hdeal : deal op = .internal answer) :
    (Prog.call op next).party deal = (next answer).party deal := by
  rw [party, hdeal]

theorem party_foreign {op : Op} {next : Ans op → Prog Op Ans α} (hdeal : deal op = .foreign) :
    (Prog.call op next).party deal = .done none := by
  rw [party, hdeal]

/-- What a party goes on with when the program it stands for has returned. -/
def continued (rest : α → Party M (Option β)) : Option α → Party M (Option β)
  | some value => rest value
  | none => .done none

/-- The party of a sequence is the sequence of the parties. -/
theorem party_bind (p : Prog Op Ans α) (rest : α → Prog Op Ans β) :
    (p >>= rest).party deal = p.party deal >>= continued fun value => (rest value).party deal := by
  induction p with
  | ret => rfl
  | call op next ih =>
      rw [call_bind]
      cases hdeal : deal op with
      | receive room hroom answer =>
          rw [party_receive hdeal, party_receive hdeal, Party.receive_bind]
          congr
          funext message
          exact ih _
      | send messages answer =>
          rw [party_send hdeal, party_send hdeal, Party.sendAll_bind, ih]
      | internal answer => rw [party_internal hdeal, party_internal hdeal, ih]
      | foreign => rw [party_foreign hdeal, party_foreign hdeal, Party.done_bind, continued]

namespace Steady

/-- A sequence of steady programs is steady. -/
theorem bind {p : Prog Op Ans α} {rest : α → Prog Op Ans β} (hfirst : p.Steady deal)
    (hrest : ∀ value, (rest value).Steady deal) : (p >>= rest).Steady deal := by
  induction p with
  | ret value => exact hrest value
  | call op next ih =>
      have hparty : (Prog.call op next >>= rest).party deal = _ := party_bind (.call op next) rest
      rw [call_bind] at hparty ⊢
      unfold Steady at hfirst ⊢
      split at hfirst
      next room hroom answer hdeal =>
        refine ⟨fun portion => ⟨ih _ (hfirst.1 portion).1, ?_⟩, ih _ hfirst.2⟩
        rw [hparty, Party.feed_bind _ (hfirst.1 portion).2, party_bind]
      next => exact ih _ hfirst
      next => exact ih _ hfirst
      next => trivial

theorem call_send {op : Op} {next : Ans op → Prog Op Ans α} {messages : List M} {answer : Ans op}
    (hdeal : deal op = .send messages answer) (hnext : (next answer).Steady deal) :
    (Prog.call op next).Steady deal := by
  unfold Steady
  simpa only [hdeal] using hnext

theorem call_internal {op : Op} {next : Ans op → Prog Op Ans α} {answer : Ans op}
    (hdeal : deal op = .internal answer) (hnext : (next answer).Steady deal) :
    (Prog.call op next).Steady deal := by
  unfold Steady
  simpa only [hdeal] using hnext

/-- A read is steady if what follows a portion is what the portion is fed to. -/
theorem call_receive {op : Op} {next : Ans op → Prog Op Ans α} {room : Nat} {hroom : 0 < room}
    {answer : Option (Portion M room) → Ans op} (hdeal : deal op = .receive room hroom answer)
    (hportion : ∀ portion, (next (answer (some portion))).Steady deal)
    (hfeed : ∀ portion : Portion M room, ((Prog.call op next).party deal).feed portion.1 =
      some ((next (answer (some portion))).party deal))
    (hended : (next (answer none)).Steady deal) : (Prog.call op next).Steady deal := by
  unfold Steady
  simp only [hdeal]
  exact ⟨fun portion => ⟨hportion portion, hfeed portion⟩, hended⟩

/-- The same for programs with exceptions. -/
theorem bindE {ε : Type} {p : ExceptT ε (Prog Op Ans) α} {rest : α → ExceptT ε (Prog Op Ans) β}
    (hfirst : p.run.Steady deal) (hrest : ∀ value, (rest value).run.Steady deal) :
    (p >>= rest).run.Steady deal := by
  apply bind hfirst
  intro result
  cases result with
  | ok value => exact hrest value
  | error error => trivial

end Steady

/-! ## Loops that read a given number of messages -/

section Gathering

variable {γ : Type} {loop : Nat → Prog Op Ans γ} {full short : γ} {add : List M → γ → γ}

/-- The loop takes any portion of what it still wants, puts it in front of the rest
and stops at the end of the stream. -/
structure Gathers (deal : (op : Op) → Dealing M (Ans op)) (loop : Nat → Prog Op Ans γ)
    (full short : γ) (add : List M → γ → γ) : Prop where
  zero : loop 0 = .ret full
  succ : ∀ count, ∃ op next hroom answer, loop (count + 1) = .call op next ∧
    deal op = .receive (count + 1) hroom answer ∧
    (∀ portion : Portion M (count + 1), next (answer (some portion)) =
      loop (count + 1 - portion.1.length) >>= fun rest => .ret (add portion.1 rest)) ∧
    next (answer none) = .ret short
  add_nil : ∀ rest, add [] rest = rest
  add_append : ∀ first second rest, add (first ++ second) rest = add first (add second rest)

namespace Gathers

/-- A portion is what the loop asked for, and the rest of the loop asks for the rest. -/
theorem feed (hloop : Gathers deal loop full short add) {count : Nat} {chunk : List M}
    (hchunk : chunk.length ≤ count) :
    ((loop count).party deal).feed chunk =
      some ((loop (count - chunk.length) >>= fun rest => .ret (add chunk rest)).party deal) := by
  induction chunk generalizing count with
  | nil =>
      rw [Party.feed_nil, List.length_nil, Nat.sub_zero]
      simp only [hloop.add_nil]
      exact congrArg (fun p => some (p.party deal)) (bind_ret (loop count)).symm
  | cons message chunk ih =>
      rw [List.length_cons] at hchunk
      obtain ⟨count, rfl⟩ : ∃ n, count = n + 1 := ⟨count - 1, by omega⟩
      obtain ⟨op, next, hroom, answer, heq, hdeal, hportion, _⟩ := hloop.succ count
      have hsingle := hportion (Portion.single hroom message)
      rw [heq, party_receive hdeal]
      change ((next (answer (some (Portion.single hroom message)))).party deal).feed chunk = _
      rw [hsingle, party_bind]
      change (((loop count).party deal) >>= _).feed chunk = _
      rw [Party.feed_bind _ (ih (by omega)), ← party_bind, bind_bind, List.length_cons,
        Nat.add_sub_add_right]
      congr
      funext rest
      exact congrArg Prog.ret (hloop.add_append [message] chunk rest).symm

/-- The stream ends before anything came. -/
theorem party_ended (hloop : Gathers deal loop full short add) (count : Nat)
    (rest : γ → Prog Op Ans β) : ∃ next, (loop (count + 1) >>= rest).party deal = .receive next ∧
      next none = (rest short).party deal := by
  obtain ⟨op, next, hroom, answer, heq, hdeal, _, hended⟩ := hloop.succ count
  refine ⟨fun message => (next (answer (message.map (Portion.single hroom))) >>= rest).party deal,
    ?_, ?_⟩
  · rw [heq, call_bind, party_receive hdeal]
  · simp only [Option.map_none, hended, ret_bind]

/-- A loop that gathers its bytes does not depend on their cuts. -/
theorem steady (hloop : Gathers deal loop full short add) (count : Nat) :
    (loop count).Steady deal := by
  induction count using Nat.strong_induction_on with
  | _ count ih =>
    cases count with
    | zero =>
        rw [hloop.zero]
        trivial
    | succ count =>
        have hfeed := fun portion : Portion M (count + 1) => hloop.feed portion.2.2
        obtain ⟨op, next, hroom, answer, heq, hdeal, hportion, hended⟩ := hloop.succ count
        rw [heq] at hfeed ⊢
        refine Steady.call_receive hdeal ?_ ?_ ?_
        · intro portion
          have hpos := List.length_pos_iff.mpr portion.2.1
          rw [hportion]
          exact (ih _ (by omega)).bind fun _ => trivial
        · intro portion
          rw [hfeed, hportion]
        · rw [hended]
          trivial

end Gathers

end Gathering

/-! ## Programs that leave the connection alone -/

/-- The result of a program whose operations an oracle answers. -/
def eval (oracle : (op : Op) → Ans op) : Prog Op Ans α → α
  | .ret value => value
  | .call op next => (next (oracle op)).eval oracle

theorem eval_bind (oracle : (op : Op) → Ans op) (p : Prog Op Ans α) (rest : α → Prog Op Ans β) :
    (p >>= rest).eval oracle = (rest (p.eval oracle)).eval oracle := by
  induction p with
  | ret => rfl
  | call op next ih => exact ih _

/-- A sequence that succeeds has succeeded in both parts. -/
theorem eval_bindE_ok {ε : Type} {oracle : (op : Op) → Ans op} {p : ExceptT ε (Prog Op Ans) α}
    {rest : α → ExceptT ε (Prog Op Ans) β} {result : β}
    (heval : (p >>= rest).run.eval oracle = .ok result) :
    ∃ value, p.run.eval oracle = .ok value ∧ (rest value).run.eval oracle = .ok result := by
  have hbind := eval_bind oracle p.run (ExceptT.bindCont rest)
  cases hvalue : p.run.eval oracle with
  | ok value =>
      rw [hvalue] at hbind
      exact ⟨value, rfl, hbind.symm.trans heval⟩
  | error error =>
      rw [hvalue] at hbind
      exact absurd (hbind.symm.trans heval) (by rintro ⟨⟩)

/-- The operations that an oracle answers. -/
def Consults (deal : (op : Op) → Dealing M (Ans op)) (oracle : (op : Op) → Ans op) (op : Op) :
    Prop :=
  deal op = .internal (oracle op)

/-- A program that only consults the oracle reads nothing. -/
theorem Steady.of_consults {oracle : (op : Op) → Ans op} {p : Prog Op Ans α}
    (huses : p.Uses (Consults deal oracle)) : p.Steady deal := by
  induction p with
  | ret => trivial
  | call op next ih => exact Steady.call_internal huses.1 (ih _ (huses.2 _))

/-! ## What a program takes and says -/

/-- Run from its start, the program takes `taken`, says `said` and returns `value`. -/
def Tells (deal : (op : Op) → Dealing M (Ans op)) (p : Prog Op Ans α) (taken said : List M)
    (value : α) : Prop :=
  (p.party deal).Says taken said (.done (some value))

namespace Tells

variable {p : Prog Op Ans α} {taken taken' said said' : List M} {value : α}

theorem ret : Tells deal (.ret value : Prog Op Ans α) [] [] value := .still

/-- The program goes on with what follows. -/
theorem leads (htells : Tells deal p taken said value) (rest : α → Prog Op Ans β) :
    ((p >>= rest).party deal).Says taken said ((rest value).party deal) := by
  rw [party_bind, ← List.append_nil taken, ← List.append_nil said]
  exact Party.Says.bind htells .still

theorem bind {rest : α → Prog Op Ans β} {value' : β} (hfirst : Tells deal p taken said value)
    (hrest : Tells deal (rest value) taken' said' value') :
    Tells deal (p >>= rest) (taken ++ taken') (said ++ said') value' :=
  (hfirst.leads rest).trans hrest

theorem send {op : Op} {next : Ans op → Prog Op Ans α} {messages : List M} {answer : Ans op}
    (hdeal : deal op = .send messages answer) (hnext : Tells deal (next answer) taken said value) :
    Tells deal (.call op next) taken (messages ++ said) value := by
  unfold Tells
  rw [party_send hdeal]
  exact (Party.Says.sendAll messages).trans hnext

theorem internal {op : Op} {next : Ans op → Prog Op Ans α} {answer : Ans op}
    (hdeal : deal op = .internal answer) (hnext : Tells deal (next answer) taken said value) :
    Tells deal (.call op next) taken said value := by
  unfold Tells
  rwa [party_internal hdeal]

/-- It ends in what the oracle makes of it. -/
theorem eval {oracle : (op : Op) → Ans op} (huses : p.Uses (Consults deal oracle)) :
    Tells deal p [] [] (p.eval oracle) := by
  induction p with
  | ret => exact ret
  | call op next ih => exact internal huses.1 (ih _ (huses.2 _))

/-- A loop takes exactly what it asks for. -/
theorem gathers {γ : Type} {loop : Nat → Prog Op Ans γ} {full short : γ} {add : List M → γ → γ}
    (hloop : Gathers deal loop full short add) (chunk : List M) :
    Tells deal (loop chunk.length) chunk [] (add chunk full) := by
  have hfeed := hloop.feed (le_refl chunk.length)
  rw [Nat.sub_self, hloop.zero] at hfeed
  exact .of_feed hfeed

section Exceptions

variable {ε : Type} {p : ExceptT ε (Prog Op Ans) α} {rest : α → ExceptT ε (Prog Op Ans) β}

/-- Saying it leads to what follows. -/
theorem leadsE (htells : Tells deal p.run taken said (.ok value)) :
    ((p >>= rest).run.party deal).Says taken said ((rest value).run.party deal) :=
  htells.leads _

theorem bindE {result : Except ε β} (hfirst : Tells deal p.run taken said (.ok value))
    (hrest : Tells deal (rest value).run taken' said' result) :
    Tells deal (p >>= rest).run (taken ++ taken') (said ++ said') result :=
  Tells.bind hfirst hrest

/-- Nothing more is taken after the first part. -/
theorem bindE_last {result : Except ε β} (hfirst : Tells deal p.run taken said (.ok value))
    (hrest : Tells deal (rest value).run [] said' result) :
    Tells deal (p >>= rest).run taken (said ++ said') result := by
  have hbind := bindE hfirst hrest
  rwa [List.append_nil] at hbind

/-- The second part leaves the connection alone. -/
theorem bindE_quiet {result : Except ε β} (hfirst : Tells deal p.run taken said (.ok value))
    (hrest : Tells deal (rest value).run [] [] result) :
    Tells deal (p >>= rest).run taken said result := by
  have hbind := bindE_last hfirst hrest
  rwa [List.append_nil] at hbind

/-- What would follow an exception is not said. -/
theorem bindE_error {error : ε} (hfirst : Tells deal p.run taken said (.error error)) :
    Tells deal (p >>= rest).run taken said (.error error) := by
  have hbind : Tells deal (p >>= rest).run (taken ++ []) (said ++ []) (.error error) :=
    Tells.bind hfirst ret
  rwa [List.append_nil, List.append_nil] at hbind

end Exceptions

end Tells

/-- The program waits for input, and fails if the stream ends instead. -/
def FailsAtEnd {ε : Type} (deal : (op : Op) → Dealing M (Ans op)) (p : ExceptT ε (Prog Op Ans) α)
    (error : ε) : Prop :=
  ∃ next, p.run.party deal = .receive next ∧ next none = .done (some (.error error))

/-- A program that cannot go on at the end of the stream stops there. -/
theorem FailsAtEnd.bindE {ε : Type} {p : ExceptT ε (Prog Op Ans) α} {error : ε}
    (hfails : FailsAtEnd deal p error) (rest : α → ExceptT ε (Prog Op Ans) β) :
    FailsAtEnd deal (p >>= rest) error := by
  obtain ⟨next, hnext, hended⟩ := hfails
  have hbind : (p.run >>= ExceptT.bindCont rest).party deal = _ :=
    party_bind p.run (ExceptT.bindCont rest)
  rw [hnext] at hbind
  refine ⟨_, hbind, ?_⟩
  change next none >>= _ = _
  rw [hended]
  rfl

end Bind

/-! ## One end of the connection -/

/-- The program has returned, and with that closed its end. -/
def hasClosed (closes : α → Bool) : Prog Op Ans α → Bool
  | .ret value => closes value
  | .call _ _ => false

/-- One operation of a program whose unread input is `incoming`. `closed` says whether
the other end is closed. The last list is what the program sends. -/
inductive Acts (closed : Bool) :
    Prog Op Ans α → List M → Prog Op Ans α → List M → List M → Prop
  | receive {op next room hroom answer rest} (portion : Portion M room)
      (hdeal : deal op = .receive room hroom answer) :
      Acts closed (.call op next) (portion.1 ++ rest) (next (answer (some portion))) rest []
  | ended {op next room hroom answer} (hdeal : deal op = .receive room hroom answer)
      (hclosed : closed = true) : Acts closed (.call op next) [] (next (answer none)) [] []
  | send {op next messages answer incoming} (hdeal : deal op = .send messages answer) :
      Acts closed (.call op next) incoming (next answer) incoming messages
  | internal {op next answer incoming} (hdeal : deal op = .internal answer) :
      Acts closed (.call op next) incoming (next answer) incoming []

/-- `p'` is a continuation of the program. -/
inductive Continues : Prog Op Ans α → Prog Op Ans α → Prop
  | next {op next} (answer : Ans op) : Continues (next answer) (.call op next)

/-- No program goes on for ever. -/
theorem continues_wf : WellFounded (Continues : Prog Op Ans α → Prog Op Ans α → Prop) := by
  refine ⟨fun p => ?_⟩
  induction p with
  | ret value =>
      refine ⟨_, ?_⟩
      rintro _ ⟨⟩
  | call op next ih =>
      refine ⟨_, ?_⟩
      rintro _ ⟨answer⟩
      exact ih answer

section Acts

variable {deal} {closed : Bool} {p p' : Prog Op Ans α} {incoming incoming' said : List M}

/-- An action brings a program closer to its end. -/
theorem Acts.continues (hacts : Acts deal closed p incoming p' incoming' said) :
    Continues p' p := by
  cases hacts <;> exact .next _

/-- A steady program stays steady. -/
theorem Acts.steady (hacts : Acts deal closed p incoming p' incoming' said)
    (hsteady : p.Steady deal) : p'.Steady deal := by
  cases hacts with
  | receive portion hdeal =>
      unfold Steady at hsteady
      simp only [hdeal] at hsteady
      exact (hsteady.1 portion).1
  | ended hdeal =>
      unfold Steady at hsteady
      simp only [hdeal] at hsteady
      exact hsteady.2
  | send hdeal | internal hdeal =>
      unfold Steady at hsteady
      simpa only [hdeal] using hsteady

/-- A program that can do nothing has returned, waits with nothing to read, or has
come to an operation that is not followed. -/
theorem idle_cases (hidle : ∀ p' incoming' said, ¬ Acts deal closed p incoming p' incoming' said) :
    (∃ value, p = .ret value) ∨ p.party deal = .done none ∨
      (∃ next, p.party deal = .receive next) ∧ incoming = [] ∧ closed = false := by
  cases p with
  | ret value => exact Or.inl ⟨value, rfl⟩
  | call op next =>
      refine Or.inr ?_
      cases hdeal : deal op with
      | receive room hroom answer =>
          refine Or.inr ⟨⟨_, party_receive hdeal⟩, ?_, ?_⟩
          · cases incoming with
            | nil => rfl
            | cons message rest =>
                exact absurd (.receive (Portion.single hroom message) hdeal) (hidle _ _ _)
          · cases incoming with
            | cons message rest =>
                exact absurd (.receive (Portion.single hroom message) hdeal) (hidle _ _ _)
            | nil =>
                cases closed with
                | false => rfl
                | true => exact absurd (.ended hdeal rfl) (hidle _ _ _)
      | send messages answer => exact absurd (.send hdeal) (hidle _ _ _)
      | internal answer => exact absurd (.internal hdeal) (hidle _ _ _)
      | foreign => exact Or.inl (party_foreign hdeal)

end Acts

end Prog

/-! ## Both ends -/

/-- Two programs and what is on its way to each of them. -/
structure Talk (M : Type) (Op : Type) (Ans : Op → Type) (α : Type) (Op' : Type)
    (Ans' : Op' → Type) (β : Type) where
  left : Prog Op Ans α
  right : Prog Op' Ans' β
  toLeft : List M
  toRight : List M

namespace Talk

open Prog Conversation

variable {M Op Op' α β : Type} {Ans : Op → Type} {Ans' : Op' → Type}
variable (deal : (op : Op) → Dealing M (Ans op)) (deal' : (op : Op') → Dealing M (Ans' op))
variable (closes : α → Bool) (closes' : β → Bool)

/-- One operation of either program. -/
inductive Step : Talk M Op Ans α Op' Ans' β → Talk M Op Ans α Op' Ans' β → Prop
  | left {left left' right toLeft toLeft' toRight said}
      (hacts : Acts deal (right.hasClosed closes') left toLeft left' toLeft' said) :
      Step ⟨left, right, toLeft, toRight⟩ ⟨left', right, toLeft', toRight ++ said⟩
  | right {left right right' toLeft toRight toRight' said}
      (hacts : Acts deal' (left.hasClosed closes) right toRight right' toRight' said) :
      Step ⟨left, right, toLeft, toRight⟩ ⟨left, right', toLeft ++ said, toRight'⟩

/-- Every run from `start` ends, and each ends in `final`. -/
structure Settles (start final : Talk M Op Ans α Op' Ans' β) : Prop where
  ends : Acc (fun later earlier => Step deal deal' closes closes' earlier later) start
  unique : ∀ state, Relation.ReflTransGen (Step deal deal' closes closes') start state →
    (∀ later, ¬ Step deal deal' closes closes' state later) → state = final

variable {deal deal' closes closes'}

/-- No talk goes on for ever. -/
theorem ends (state : Talk M Op Ans α Op' Ans' β) :
    Acc (fun later earlier => Step deal deal' closes closes' earlier later) state := by
  have hwf : WellFounded (Prod.GameAdd (@Continues Op Ans α) (@Continues Op' Ans' β)) :=
    continues_wf.prod_gameAdd continues_wf
  refine Subrelation.accessible ?_
    (InvImage.accessible (fun state : Talk M Op Ans α Op' Ans' β => (state.left, state.right))
      (hwf.apply (state.left, state.right)))
  rintro _ _ (hacts | hacts)
  · exact .fst hacts.continues
  · exact .snd hacts.continues

/-- The talk as a conversation of parties. -/
def view (deal : (op : Op) → Dealing M (Ans op)) (deal' : (op : Op') → Dealing M (Ans' op))
    (state : Talk M Op Ans α Op' Ans' β) : Conversation M (Option α) (Option β) where
  left := state.left.party deal
  right := state.right.party deal'
  toLeft := state.toLeft
  toRight := state.toRight

/-- A party whose program is not followed any further keeps its end open. -/
def closesSome (closes : α → Bool) : Option α → Bool
  | some value => closes value
  | none => false

/-- An action of the left program is some steps of its party. -/
theorem acts_reaches {closed : Bool} {p p' : Prog Op Ans α} {right : Party M (Option β)}
    {incoming incoming' said toRight : List M} (hsteady : p.Steady deal)
    (hclosed : closed = true → ∃ value, right = .done (some value) ∧ closes' value = true)
    (hacts : Acts deal closed p incoming p' incoming' said) :
    Reaches (closesSome closes) (closesSome closes') ⟨p.party deal, right, incoming, toRight⟩
      ⟨p'.party deal, right, incoming', toRight ++ said⟩ := by
  cases hacts with
  | receive portion hdeal =>
      unfold Steady at hsteady
      simp only [hdeal] at hsteady
      exact reaches_left (.of_feed (hsteady.1 portion).2)
  | ended hdeal hend =>
      obtain ⟨value, rfl, hcloses⟩ := hclosed hend
      rw [party_receive hdeal, List.append_nil]
      exact reaches_left_ended hcloses
  | send hdeal =>
      rw [party_send hdeal]
      exact reaches_left (.sendAll _)
  | internal hdeal =>
      rw [party_internal hdeal, List.append_nil]

/-- A program that has closed its stream is a party that has. -/
theorem hasClosed_party {p : Prog Op Ans α} (hclosed : p.hasClosed closes = true) :
    ∃ value, p.party deal = .done (some value) ∧ closes value = true := by
  cases p with
  | ret value => exact ⟨value, rfl, hclosed⟩
  | call => contradiction

/-- The two programs are steady. -/
def BothSteady (deal : (op : Op) → Dealing M (Ans op)) (deal' : (op : Op') → Dealing M (Ans' op))
    (state : Talk M Op Ans α Op' Ans' β) : Prop :=
  state.left.Steady deal ∧ state.right.Steady deal'

/-- A step of the two programs is some steps of the conversation. -/
theorem step_view {state later : Talk M Op Ans α Op' Ans' β}
    (hsteady : state.BothSteady deal deal') (hstep : Step deal deal' closes closes' state later) :
    later.BothSteady deal deal' ∧
      Reaches (closesSome closes) (closesSome closes') (state.view deal deal')
        (later.view deal deal') := by
  cases hstep with
  | left hacts =>
      exact ⟨⟨hacts.steady hsteady.1, hsteady.2⟩,
        acts_reaches hsteady.1 (fun hclosed => hasClosed_party hclosed) hacts⟩
  | right hacts =>
      exact ⟨⟨hsteady.1, hacts.steady hsteady.2⟩,
        reaches_swap (acts_reaches hsteady.2 (fun hclosed => hasClosed_party hclosed) hacts)⟩

/-- A run of the two programs is a run of the conversation. -/
theorem reaches_view {state later : Talk M Op Ans α Op' Ans' β}
    (hsteady : state.BothSteady deal deal')
    (hreaches : Relation.ReflTransGen (Step deal deal' closes closes') state later) :
    Reaches (closesSome closes) (closesSome closes') (state.view deal deal')
      (later.view deal deal') := by
  induction hreaches using Relation.ReflTransGen.head_induction_on with
  | refl => exact .refl
  | head hstep _ ih =>
      obtain ⟨hsteady', hview⟩ := step_view hsteady hstep
      exact hview.trans (ih hsteady')

/-- A party does nothing while its program is idle. -/
theorem stepLeft_none {p : Prog Op Ans α} {q : Prog Op' Ans' β} {incoming incoming' : List M}
    (outgoing : List M)
    (hidle : ∀ p' later said, ¬ Acts deal (q.hasClosed closes') p incoming p' later said)
    (hidle' : ∀ q' later said, ¬ Acts deal' (p.hasClosed closes) q incoming' q' later said) :
    stepLeft (closesSome closes') ⟨p.party deal, q.party deal', incoming, outgoing⟩ = none := by
  rcases idle_cases hidle with ⟨value, rfl⟩ | hforeign | ⟨⟨next, hparty⟩, rfl, hopen⟩
  · rfl
  · rw [hforeign]
    rfl
  · rw [hparty]
    rcases idle_cases hidle' with ⟨value, rfl⟩ | hforeign | ⟨⟨next', hparty'⟩, _, _⟩
    · exact if_neg (by simpa [closesSome, hasClosed] using hopen)
    · rw [hforeign]
      rfl
    · rw [hparty']
      rfl

/-- When neither program can act, neither party can. -/
theorem stuck_view {state : Talk M Op Ans α Op' Ans' β}
    (hstuck : ∀ later, ¬ Step deal deal' closes closes' state later)
    (c : Conversation M (Option α) (Option β)) :
    ¬ Conversation.Step (closesSome closes) (closesSome closes') (state.view deal deal') c := by
  have hidle : ∀ p' later said,
      ¬ Acts deal (state.right.hasClosed closes') state.left state.toLeft p' later said :=
    fun _ _ _ hacts => hstuck _ (.left hacts)
  have hidle' : ∀ q' later said,
      ¬ Acts deal' (state.left.hasClosed closes) state.right state.toRight q' later said :=
    fun _ _ _ hacts => hstuck _ (.right hacts)
  rintro (hleft | hright)
  · have hnone := stepLeft_none state.toRight hidle hidle'
    exact absurd (hnone.symm.trans hleft) (by simp)
  · have hnone := stepLeft_none state.toLeft hidle' hidle
    rw [stepRight, show (state.view deal deal').swap =
      ⟨state.right.party deal', state.left.party deal, state.toRight, state.toLeft⟩ from rfl,
      hnone] at hright
    contradiction

/-- A program that cannot act and whose party has ended has returned. -/
theorem ret_of_stuck {closed : Bool} {p : Prog Op Ans α} {incoming : List M} {value : α}
    (hidle : ∀ p' later said, ¬ Acts deal closed p incoming p' later said)
    (hparty : p.party deal = .done (some value)) : p = .ret value := by
  rcases idle_cases hidle with ⟨value', rfl⟩ | hforeign | ⟨⟨next, hreceive⟩, _, _⟩
  · cases hparty
    rfl
  · cases hforeign.symm.trans hparty
  · cases hreceive.symm.trans hparty

/-- If the parties can come to an end, all runs of the programs end there. -/
theorem settles {start : Talk M Op Ans α Op' Ans' β} {value : α} {value' : β}
    {toLeft toRight : List M} (hsteady : start.BothSteady deal deal')
    (hrun : Reaches (closesSome closes) (closesSome closes') (start.view deal deal')
      ⟨.done (some value), .done (some value'), toLeft, toRight⟩) :
    Settles deal deal' closes closes' start ⟨.ret value, .ret value', toLeft, toRight⟩ := by
  refine ⟨ends start, ?_⟩
  intro state hreaches hstuck
  have hfinal := reaches_normal (reaches_view hsteady hreaches) hrun done_normal
  rcases Relation.ReflTransGen.cases_head hfinal with heq | ⟨next, hstep, _⟩
  · obtain ⟨left, right, _, _⟩ := state
    obtain ⟨hleft, hright, rfl, rfl⟩ := Conversation.mk.inj heq
    rw [ret_of_stuck (fun _ _ _ hacts => hstuck _ (.left hacts)) hleft,
      ret_of_stuck (fun _ _ _ hacts => hstuck _ (.right hacts)) hright]
  · exact absurd hstep (stuck_view hstuck next)

end Talk
