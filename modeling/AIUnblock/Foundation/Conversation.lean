import Mathlib.Logic.Relation

/-! # Two parties that talk over a connection

A party is a deterministic process that sends and receives messages. Two
parties hold a conversation over two queues. Their steps may interleave in any
way, yet no order of steps can change how the conversation ends.
-/

/-- One end of a connection: it has ended, sends a message, or waits for one.
`none` is the end of what the other end sends. -/
inductive Party (M α : Type) : Type
  | done (value : α)
  | send (message : M) (next : Party M α)
  | receive (next : Option M → Party M α)

namespace Party

variable {M α β γ : Type}

def bind : Party M α → (α → Party M β) → Party M β
  | .done value, rest => rest value
  | .send message next, rest => .send message (next.bind rest)
  | .receive next, rest => .receive fun message => (next message).bind rest

instance : Monad (Party M) where
  pure := .done
  bind := .bind

@[simp] theorem done_bind (value : α) (rest : α → Party M β) :
    (Party.done value : Party M α) >>= rest = rest value := rfl

@[simp] theorem send_bind (message : M) (next : Party M α) (rest : α → Party M β) :
    Party.send message next >>= rest = .send message (next >>= rest) := rfl

@[simp] theorem receive_bind (next : Option M → Party M α) (rest : α → Party M β) :
    Party.receive next >>= rest = .receive fun message => next message >>= rest := rfl

theorem bind_done (p : Party M α) : p >>= Party.done = p := by
  induction p with
  | done => rfl
  | send message next ih => rw [send_bind, ih]
  | receive next ih => simp only [receive_bind, ih]

theorem bind_bind (p : Party M α) (first : α → Party M β) (rest : β → Party M γ) :
    p >>= first >>= rest = p >>= fun value => first value >>= rest := by
  induction p with
  | done => rfl
  | send message next ih => simp only [send_bind, ih]
  | receive next ih => simp only [receive_bind, ih]

instance : LawfulMonad (Party M) := LawfulMonad.mk' _
  (fun p => bind_done p)
  (fun _ _ => rfl)
  (fun p first rest => bind_bind p first rest)

/-- Send several messages, then go on. -/
def sendAll : List M → Party M α → Party M α
  | [], next => next
  | message :: rest, next => .send message (sendAll rest next)

theorem sendAll_bind (messages : List M) (next : Party M α) (rest : α → Party M β) :
    sendAll messages next >>= rest = sendAll messages (next >>= rest) := by
  induction messages with
  | nil => rfl
  | cons message messages ih => rw [sendAll, send_bind, ih, sendAll]

/-- What the party goes on with after these messages have arrived, if it waits for
all of them. -/
def feed : Party M α → List M → Option (Party M α)
  | p, [] => some p
  | .receive next, message :: rest => (next (some message)).feed rest
  | _, _ :: _ => none

@[simp] theorem feed_nil (p : Party M α) : p.feed [] = some p := by
  cases p <;> rfl

/-- Feeding the first part of a sequence feeds the sequence. -/
theorem feed_bind {p p' : Party M α} {messages : List M} (rest : α → Party M β)
    (hfeed : p.feed messages = some p') : (p >>= rest).feed messages = some (p' >>= rest) := by
  induction messages generalizing p with
  | nil =>
      rw [feed_nil, Option.some.injEq] at hfeed
      rw [feed_nil, hfeed]
  | cons message messages ih =>
      cases p with
      | done => contradiction
      | send => contradiction
      | receive next => exact ih hfeed

/-- From `p` the party takes `taken`, says `said` and is left as `p'`. -/
inductive Says : Party M α → List M → List M → Party M α → Prop
  | still {p} : Says p [] [] p
  | send {message next taken said p'} (hrest : Says next taken said p') :
      Says (.send message next) taken (message :: said) p'
  | receive {message next taken said p'} (hrest : Says (next (some message)) taken said p') :
      Says (.receive next) (message :: taken) said p'

namespace Says

variable {p p' p'' : Party M α} {taken taken' said said' : List M}

/-- What is said in two parts is said. -/
theorem trans (hfirst : Says p taken said p') (hsecond : Says p' taken' said' p'') :
    Says p (taken ++ taken') (said ++ said') p'' := by
  induction hfirst with
  | still => exact hsecond
  | send _ ih => exact .send (ih hsecond)
  | receive _ ih => exact .receive (ih hsecond)

theorem bind {value : α} {q : Party M β} {rest : α → Party M β}
    (hfirst : Says p taken said (.done value)) (hrest : Says (rest value) taken' said' q) :
    Says (p >>= rest) (taken ++ taken') (said ++ said') q := by
  generalize hend : (Party.done value : Party M α) = ended at hfirst
  induction hfirst with
  | still =>
      subst hend
      exact hrest
  | send _ ih => exact .send (ih hend)
  | receive _ ih => exact .receive (ih hend)

theorem of_feed (hfeed : p.feed taken = some p') : Says p taken [] p' := by
  induction taken generalizing p with
  | nil =>
      rw [feed_nil, Option.some.injEq] at hfeed
      subst hfeed
      exact .still
  | cons message taken ih =>
      cases p with
      | done => contradiction
      | send => contradiction
      | receive next => exact .receive (ih hfeed)

theorem sendAll (messages : List M) : Says (Party.sendAll messages p) [] messages p := by
  induction messages with
  | nil => exact .still
  | cons message messages ih => exact .send ih

end Says

end Party

/-- Two parties and what is on its way to each of them. -/
structure Conversation (M α β : Type) where
  left : Party M α
  right : Party M β
  toLeft : List M
  toRight : List M

namespace Conversation

variable {M α β : Type}

def swap (c : Conversation M α β) : Conversation M β α where
  left := c.right
  right := c.left
  toLeft := c.toRight
  toRight := c.toLeft

/-- What the left party does next. `closes` says which results of the right party
close its end; a party that waits learns of it once its queue is empty. -/
def stepLeft (closes : β → Bool) : Conversation M α β → Option (Conversation M α β)
  | ⟨.done _, _, _, _⟩ => none
  | ⟨.send message next, right, toLeft, toRight⟩ =>
    some ⟨next, right, toLeft, toRight ++ [message]⟩
  | ⟨.receive next, right, message :: toLeft, toRight⟩ =>
    some ⟨next (some message), right, toLeft, toRight⟩
  | ⟨.receive next, .done value, [], toRight⟩ =>
    if closes value then some ⟨next none, .done value, [], toRight⟩ else none
  | ⟨.receive _, .send _ _, [], _⟩ => none
  | ⟨.receive _, .receive _, [], _⟩ => none

/-- What the right party does next. -/
def stepRight (closes : α → Bool) (c : Conversation M α β) : Option (Conversation M α β) :=
  (stepLeft closes c.swap).map swap

/-- One step of either party. -/
def Step (closesLeft : α → Bool) (closesRight : β → Bool) (c c' : Conversation M α β) : Prop :=
  stepLeft closesRight c = some c' ∨ stepRight closesLeft c = some c'

variable {closesLeft : α → Bool} {closesRight : β → Bool}

/-- A step of the one party and a step of the other may be taken in either order. -/
theorem step_commute {c first second : Conversation M α β}
    (hleft : stepLeft closesRight c = some first) (hright : stepRight closesLeft c = some second) :
    ∃ both, stepRight closesLeft first = some both ∧ stepLeft closesRight second = some both := by
  obtain ⟨left, right, toLeft, toRight⟩ := c
  cases left with
  | done => contradiction
  | send message next =>
      cases hleft
      cases right with
      | done => contradiction
      | send message' next' =>
          cases hright
          exact ⟨_, rfl, rfl⟩
      | receive next' =>
          -- the right party cannot see an end while the left one still sends
          cases toRight with
          | nil => contradiction
          | cons message' toRight =>
              cases hright
              exact ⟨_, rfl, rfl⟩
  | receive next =>
      cases toLeft with
      | nil =>
          cases right with
          | done => contradiction
          | send => contradiction
          | receive => contradiction
      | cons message toLeft =>
          cases hleft
          cases right with
          | done => contradiction
          | send message' next' =>
              cases hright
              exact ⟨_, rfl, rfl⟩
          | receive next' =>
              cases toRight with
              | nil => contradiction
              | cons message' toRight =>
                  cases hright
                  exact ⟨_, rfl, rfl⟩

/-- Two different steps can be made one after the other, in either order. -/
theorem step_diamond {c first second : Conversation M α β}
    (hfirst : Step closesLeft closesRight c first)
    (hsecond : Step closesLeft closesRight c second) :
    first = second ∨
      ∃ both, Step closesLeft closesRight first both ∧ Step closesLeft closesRight second both := by
  rcases hfirst with hfirst | hfirst
  · rcases hsecond with hsecond | hsecond
    · exact Or.inl (Option.some.inj (hfirst.symm.trans hsecond))
    · obtain ⟨both, hright, hleft⟩ := step_commute hfirst hsecond
      exact Or.inr ⟨both, Or.inr hright, Or.inl hleft⟩
  · rcases hsecond with hsecond | hsecond
    · obtain ⟨both, hright, hleft⟩ := step_commute hsecond hfirst
      exact Or.inr ⟨both, Or.inl hleft, Or.inr hright⟩
    · exact Or.inl (Option.some.inj (hfirst.symm.trans hsecond))

/-- Some run comes from the first conversation to the second. -/
abbrev Reaches (closesLeft : α → Bool) (closesRight : β → Bool) :
    Conversation M α β → Conversation M α β → Prop :=
  Relation.ReflTransGen (Step closesLeft closesRight)

/-- The order of steps does not matter: if some run comes to an end, every run can be
continued to the same end. -/
theorem reaches_normal {c middle final : Conversation M α β}
    (hmiddle : Reaches closesLeft closesRight c middle)
    (hfinal : Reaches closesLeft closesRight c final)
    (hnormal : ∀ c', ¬ Step closesLeft closesRight final c') :
    Reaches closesLeft closesRight middle final := by
  obtain ⟨joint, hjoint, hjoint'⟩ := Relation.church_rosser (fun c first second hfirst hsecond => by
    rcases step_diamond hfirst hsecond with rfl | ⟨both, hfirst', hsecond'⟩
    · exact ⟨first, .refl, .refl⟩
    · exact ⟨both, .single hfirst', .single hsecond'⟩) hmiddle hfinal
  rcases Relation.ReflTransGen.cases_head hjoint' with rfl | ⟨next, hstep, _⟩
  · exact hjoint
  · exact absurd hstep (hnormal next)

/-- The parties may change sides. -/
theorem step_swap {c c' : Conversation M α β} (hstep : Step closesLeft closesRight c c') :
    Step closesRight closesLeft c.swap c'.swap := by
  rcases hstep with hleft | hright
  · refine Or.inr ?_
    change Option.map swap (stepLeft closesRight c) = _
    rw [hleft]
    rfl
  · refine Or.inl ?_
    rw [stepRight, Option.map_eq_some_iff] at hright
    obtain ⟨middle, hmiddle, rfl⟩ := hright
    exact hmiddle

theorem reaches_swap {c c' : Conversation M α β} (hreaches : Reaches closesLeft closesRight c c') :
    Reaches closesRight closesLeft c.swap c'.swap := by
  induction hreaches with
  | refl => exact .refl
  | tail _ hstep ih => exact ih.tail (step_swap hstep)

section Turns

variable {left left' : Party M α} {right right' : Party M β} {taken said toLeft toRight : List M}

/-- The left party takes its turn. -/
theorem reaches_left (hspoken : left.Says taken said left') :
    Reaches closesLeft closesRight ⟨left, right, taken ++ toLeft, toRight⟩
      ⟨left', right, toLeft, toRight ++ said⟩ := by
  induction hspoken generalizing toRight with
  | still =>
      rw [List.append_nil]
      exact .refl
  | @send message next taken said p' _ ih =>
      rw [show message :: said = [message] ++ said from rfl, ← List.append_assoc]
      exact .head (Or.inl rfl) ih
  | receive _ ih => exact .head (Or.inl rfl) ih

/-- The right party takes its turn. -/
theorem reaches_right (hspoken : right.Says taken said right') :
    Reaches closesLeft closesRight ⟨left, right, toLeft, taken ++ toRight⟩
      ⟨left, right', toLeft ++ said, toRight⟩ :=
  reaches_swap (@reaches_left _ _ _ closesRight closesLeft right right' left taken said toRight
    toLeft hspoken)

/-- The right party only listens. -/
theorem reaches_right_quiet (hspoken : right.Says taken [] right') :
    Reaches closesLeft closesRight ⟨left, right, toLeft, taken ++ toRight⟩
      ⟨left, right', toLeft, toRight⟩ := by
  have hturn := @reaches_right _ _ _ closesLeft closesRight left right right' taken [] toLeft
    toRight hspoken
  rwa [List.append_nil] at hturn

/-- The left party takes all that has come. -/
theorem reaches_left_all (hspoken : left.Says taken said left') :
    Reaches closesLeft closesRight ⟨left, right, taken, toRight⟩
      ⟨left', right, [], toRight ++ said⟩ := by
  have hturn := @reaches_left _ _ _ closesLeft closesRight left left' right taken said [] toRight
    hspoken
  rwa [List.append_nil] at hturn

/-- The right party takes all that has come. -/
theorem reaches_right_all (hspoken : right.Says taken said right') :
    Reaches closesLeft closesRight ⟨left, right, toLeft, taken⟩
      ⟨left, right', toLeft ++ said, []⟩ :=
  reaches_swap (@reaches_left_all _ _ _ closesRight closesLeft right right' left taken said toLeft
    hspoken)

/-- The right party has closed its end, and the left one has read everything. -/
theorem reaches_left_ended {next : Option M → Party M α} {value : β} (hcloses : closesRight value) :
    Reaches closesLeft closesRight ⟨.receive next, .done value, [], toRight⟩
      ⟨next none, .done value, [], toRight⟩ :=
  .single (Or.inl (if_pos hcloses))

/-- A party whose partner has closed finds the end of the stream. -/
theorem reaches_right_ended {next : Option M → Party M β} {value : α} (hcloses : closesLeft value) :
    Reaches closesLeft closesRight ⟨.done value, .receive next, toLeft, []⟩
      ⟨.done value, next none, toLeft, []⟩ :=
  reaches_swap (@reaches_left_ended _ _ _ closesRight closesLeft toLeft next value hcloses)

/-- Two parties that have ended take no step. -/
theorem done_normal {value : α} {value' : β} (c : Conversation M α β) :
    ¬ Step closesLeft closesRight ⟨.done value, .done value', toLeft, toRight⟩ c := by
  rintro (hstep | hstep) <;> contradiction

end Turns

end Conversation
