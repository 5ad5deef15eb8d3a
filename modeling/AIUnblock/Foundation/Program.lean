import Mathlib.Logic.Function.Basic
import Mathlib.Logic.Relation

/-! # Programs that perform operations

A program returns a value, or performs one operation of a signature and goes on
with the answer. What an operation does is not part of the program: a semantics
relates the state before, the answer and the state after. Programs that throw
return an `Except`.
-/

/-- A program over the operations `Op`, where `op` is answered in `Ans op`. -/
inductive Prog (Op : Type) (Ans : Op → Type) (α : Type) : Type
  | ret (value : α)
  | call (op : Op) (next : Ans op → Prog Op Ans α)

namespace Prog

variable {Op : Type} {Ans : Op → Type} {α β γ : Type}

def bind : Prog Op Ans α → (α → Prog Op Ans β) → Prog Op Ans β
  | .ret value, rest => rest value
  | .call op next, rest => .call op fun answer => (next answer).bind rest

instance : Monad (Prog Op Ans) where
  pure := .ret
  bind := .bind

@[simp] theorem ret_bind (value : α) (rest : α → Prog Op Ans β) :
    (Prog.ret value : Prog Op Ans α) >>= rest = rest value := rfl

@[simp] theorem call_bind (op : Op) (next : Ans op → Prog Op Ans α) (rest : α → Prog Op Ans β) :
    Prog.call op next >>= rest = .call op fun answer => next answer >>= rest := rfl

theorem bind_ret (p : Prog Op Ans α) : p >>= Prog.ret = p := by
  induction p with
  | ret => rfl
  | call op next ih => simp only [call_bind, ih]

theorem bind_bind (p : Prog Op Ans α) (first : α → Prog Op Ans β) (rest : β → Prog Op Ans γ) :
    p >>= first >>= rest = p >>= fun value => first value >>= rest := by
  induction p with
  | ret => rfl
  | call op next ih => simp only [call_bind, ih]

instance : LawfulMonad (Prog Op Ans) := LawfulMonad.mk' _
  (fun p => bind_ret p)
  (fun _ _ => rfl)
  (fun p first rest => bind_bind p first rest)

/-- Perform one operation and return its answer. -/
def perform (op : Op) : Prog Op Ans (Ans op) := .call op .ret

/-- Replace every operation by a program over another signature. -/
def interpret {Op' : Type} {Ans' : Op' → Type} (body : (op : Op) → Prog Op' Ans' (Ans op)) :
    Prog Op Ans α → Prog Op' Ans' α
  | .ret value => .ret value
  | .call op next => body op >>= fun answer => (next answer).interpret body

/-- Every operation the program may still perform is allowed. -/
def Uses (allowed : Op → Prop) : Prog Op Ans α → Prop
  | .ret _ => True
  | .call op next => allowed op ∧ ∀ answer, (next answer).Uses allowed

/-- A sequence uses what its parts use. -/
theorem Uses.bind {allowed : Op → Prop} {p : Prog Op Ans α} {rest : α → Prog Op Ans β}
    (hfirst : p.Uses allowed) (hrest : ∀ value, (rest value).Uses allowed) :
    (p >>= rest).Uses allowed := by
  induction p with
  | ret value => exact hrest value
  | call op next ih => exact ⟨hfirst.1, fun answer => ih answer (hfirst.2 answer)⟩

/-- More operations may be allowed. -/
theorem Uses.mono {allowed allowed' : Op → Prop} {p : Prog Op Ans α}
    (huses : p.Uses allowed) (himp : ∀ op, allowed op → allowed' op) : p.Uses allowed' := by
  induction p with
  | ret => trivial
  | call op next ih => exact ⟨himp op huses.1, fun answer => ih answer (huses.2 answer)⟩

theorem Uses.any (p : Prog Op Ans α) : p.Uses fun _ => True := by
  induction p with
  | ret => trivial
  | call op next ih => exact ⟨trivial, ih⟩

/-- Every operation the program may still perform is allowed, as long as operations
are answered as `possible` says. -/
def UsesGiven (possible : (op : Op) → Ans op → Prop) (allowed : Op → Prop) : Prog Op Ans α → Prop
  | .ret _ => True
  | .call op next =>
    allowed op ∧ ∀ answer, possible op answer → (next answer).UsesGiven possible allowed

section Interpret

variable {Op' : Type} {Ans' : Op' → Type} {body : (op : Op) → Prog Op' Ans' (Ans op)}

/-- A sequence is interpreted part by part. -/
theorem interpret_bind (p : Prog Op Ans α) (rest : α → Prog Op Ans β) :
    (p >>= rest).interpret body =
      p.interpret body >>= fun value => (rest value).interpret body := by
  induction p with
  | ret => rfl
  | call op next ih =>
      rw [call_bind, interpret, interpret, bind_assoc]
      congr
      funext answer
      exact ih answer

/-- An interpreted program uses what the bodies of its operations use. -/
theorem Uses.interpret_of {allowed : Op → Prop} {allowed' : Op' → Prop} {p : Prog Op Ans α}
    (huses : p.Uses allowed) (hbody : ∀ op, allowed op → (body op).Uses allowed') :
    (p.interpret body).Uses allowed' := by
  induction p with
  | ret => trivial
  | call op next ih => exact (hbody op huses.1).bind fun answer => ih answer (huses.2 answer)

theorem Uses.interpret {allowed : Op' → Prop} (hbody : ∀ op, (body op).Uses allowed)
    (p : Prog Op Ans α) : (p.interpret body).Uses allowed :=
  Uses.interpret_of (Uses.any p) fun op _ => hbody op

theorem UsesGiven.bind {possible : (op : Op) → Ans op → Prop} {allowed : Op → Prop}
    {p : Prog Op Ans α} {rest : α → Prog Op Ans β} (hfirst : p.UsesGiven possible allowed)
    (hrest : ∀ value, (rest value).UsesGiven possible allowed) :
    (p >>= rest).UsesGiven possible allowed := by
  induction p with
  | ret value => exact hrest value
  | call op next ih =>
      exact ⟨hfirst.1, fun answer hanswer => ih answer (hfirst.2 answer hanswer)⟩

theorem UsesGiven.interpret {possible : (op : Op') → Ans' op → Prop} {allowed : Op' → Prop}
    (hbody : ∀ op, (body op).UsesGiven possible allowed) (p : Prog Op Ans α) :
    (p.interpret body).UsesGiven possible allowed := by
  induction p with
  | ret => trivial
  | call op next ih => exact (hbody op).bind ih

end Interpret

/-! ## Running against a deterministic world -/

section Run

variable {σ : Type}

/-- Run with every operation answered by a function of the state, as far as it
answers. -/
def run (handle : (op : Op) → σ → Option (Ans op × σ)) : Prog Op Ans α → σ → Option (α × σ)
  | .ret value, state => some (value, state)
  | .call op next, state =>
    match handle op state with
    | some (answer, state') => (next answer).run handle state'
    | none => none

variable {handle : (op : Op) → σ → Option (Ans op × σ)} {state state' : σ}

/-- A sequence runs its second part from where the first has ended. -/
theorem run_bind (p : Prog Op Ans α) (rest : α → Prog Op Ans β) :
    (p >>= rest).run handle state =
      (p.run handle state).bind fun ended => (rest ended.1).run handle ended.2 := by
  induction p generalizing state with
  | ret => rfl
  | call op next ih =>
      rw [call_bind, run, run]
      cases handle op state with
      | none => rfl
      | some ended => exact ih ended.1

end Run

/-! ## Running against a relation -/

/-- What operations do: `sem op before answer after`. -/
abbrev Semantics (Op : Type) (Ans : Op → Type) (σ : Type) : Type :=
  (op : Op) → σ → Ans op → σ → Prop

variable {σ : Type}

/-- `Outcome sem p s value s'`: the program may run from `s` to completion,
returning `value` in state `s'`. -/
inductive Outcome (sem : Semantics Op Ans σ) : Prog Op Ans α → σ → α → σ → Prop
  | ret {value s} : Outcome sem (.ret value) s value s
  | call {op next s answer s' value s''} (hstep : sem op s answer s')
      (hrest : Outcome sem (next answer) s' value s'') : Outcome sem (.call op next) s value s''

namespace Outcome

variable {sem : Semantics Op Ans σ} {s s' : σ}

theorem ret_iff {value value' : α} :
    Outcome sem (Prog.ret value : Prog Op Ans α) s value' s' ↔ value' = value ∧ s' = s := by
  constructor
  · rintro ⟨⟩
    exact ⟨rfl, rfl⟩
  · rintro ⟨rfl, rfl⟩
    exact .ret

theorem call_iff {op : Op} {next : Ans op → Prog Op Ans α} {value : α} :
    Outcome sem (.call op next) s value s' ↔
      ∃ answer middle, sem op s answer middle ∧ Outcome sem (next answer) middle value s' := by
  constructor
  · rintro (_ | ⟨hstep, hrest⟩)
    exact ⟨_, _, hstep, hrest⟩
  · rintro ⟨answer, middle, hstep, hrest⟩
    exact .call hstep hrest

/-- An outcome of a sequence is an outcome of each part. -/
theorem bind_iff {p : Prog Op Ans α} {rest : α → Prog Op Ans β} {value : β} :
    Outcome sem (p >>= rest) s value s' ↔
      ∃ middleValue middle, Outcome sem p s middleValue middle ∧
        Outcome sem (rest middleValue) middle value s' := by
  induction p generalizing s with
  | ret first =>
      simp only [ret_bind, ret_iff]
      constructor
      · intro h
        exact ⟨first, s, ⟨rfl, rfl⟩, h⟩
      · rintro ⟨_, _, ⟨rfl, rfl⟩, h⟩
        exact h
  | call op next ih =>
      simp only [call_bind, call_iff, ih]
      constructor
      · rintro ⟨answer, middle, hstep, first, middle', hfirst, hrest⟩
        exact ⟨first, middle', ⟨answer, middle, hstep, hfirst⟩, hrest⟩
      · rintro ⟨first, middle', ⟨answer, middle, hstep, hfirst⟩, hrest⟩
        exact ⟨answer, middle, hstep, first, middle', hfirst, hrest⟩

/-- Only the operations that a program may perform decide how it ends. -/
theorem congr_uses {sem' : Semantics Op Ans σ} {allowed : Op → Prop}
    (hsem : ∀ op, allowed op → sem op = sem' op) {p : Prog Op Ans α} (huses : p.Uses allowed)
    {value : α} : Outcome sem p s value s' ↔ Outcome sem' p s value s' := by
  induction p generalizing s with
  | ret first => rw [ret_iff, ret_iff]
  | call op next ih =>
      simp only [call_iff, hsem op huses.1, fun answer s => @ih answer s (huses.2 answer)]

/-- Where an invariant allows every call, a run of one semantics is one of another. -/
theorem restrict {sem' : Semantics Op Ans σ} {P : σ → Prop} {p : Prog Op Ans α} {s s' : σ}
    {value : α} (hrun : Outcome sem p s value s')
    (hkeep : ∀ op s answer s', P s → sem op s answer s' → sem' op s answer s' ∧ P s')
    (hs : P s) : Outcome sem' p s value s' ∧ P s' := by
  induction hrun with
  | ret => exact ⟨.ret, hs⟩
  | call hstep _ ih =>
      obtain ⟨hallowed, hafter⟩ := hkeep _ _ _ _ hs hstep
      obtain ⟨hrest, hends⟩ := ih hafter
      exact ⟨.call hallowed hrest, hends⟩

/-- A run against a function is an outcome of every semantics that allows its
answers, in the part of the function's state that the semantics knows. -/
theorem of_run {τ : Type} {handle : (op : Op) → τ → Option (Ans op × τ)} (view : τ → σ)
    (hsem : ∀ op t answer t', handle op t = some (answer, t') → sem op (view t) answer (view t'))
    {p : Prog Op Ans α} {t t' : τ} {value : α} (hrun : p.run handle t = some (value, t')) :
    Outcome sem p (view t) value (view t') := by
  induction p generalizing t with
  | ret =>
      cases hrun
      exact .ret
  | call op next ih =>
      rw [Prog.run] at hrun
      split at hrun
      next answer middle hstep => exact .call (hsem op t answer middle hstep) (ih answer hrun)
      next => contradiction

end Outcome

/-! ## Exceptions -/

variable {ε : Type}

/-- Perform one operation that answers with a value or throws. -/
def io {Val : Op → Type} (op : Op) :
    ExceptT ε (Prog Op fun op => Except ε (Val op)) (Val op) :=
  ExceptT.mk (perform op)

theorem lift_ok_bind (value : α) (rest : α → ExceptT ε (Prog Op Ans) β) :
    (liftM (Except.ok value : Except ε α) >>= rest : ExceptT ε (Prog Op Ans) β) = rest value := rfl

/-- Run `body`, then `cleanup` whichever way `body` ended; an exception of
`cleanup` replaces the result of `body`. -/
def tryFinally (body : ExceptT ε (Prog Op Ans) α) (cleanup : ExceptT ε (Prog Op Ans) Unit) :
    ExceptT ε (Prog Op Ans) α :=
  ExceptT.mk do
    let result ← body.run
    match ← cleanup.run with
    | .ok () => pure result
    | .error error => pure (.error error)

section Run

variable {handle : (op : Op) → σ → Option (Ans op × σ)} {state state' : σ}

/-- After a value the rest runs. -/
theorem run_bindE_ok {p : ExceptT ε (Prog Op Ans) α} {rest : α → ExceptT ε (Prog Op Ans) β}
    {value : α} (hrun : p.run.run handle state = some (.ok value, state')) :
    (p >>= rest).run.run handle state = (rest value).run.run handle state' := by
  refine (run_bind p.run _).trans ?_
  rw [hrun]
  rfl

/-- After an exception it does not. -/
theorem run_bindE_error {p : ExceptT ε (Prog Op Ans) α} {rest : α → ExceptT ε (Prog Op Ans) β}
    {error : ε} (hrun : p.run.run handle state = some (.error error, state')) :
    (p >>= rest).run.run handle state = some (.error error, state') := by
  refine (run_bind p.run _).trans ?_
  rw [hrun]
  rfl

theorem run_io {Val : Op → Type} {handle : (op : Op) → σ → Option (Except ε (Val op) × σ)}
    {op : Op} {answer : Except ε (Val op)} (hanswer : handle op state = some (answer, state')) :
    (io op : ExceptT ε (Prog Op fun op => Except ε (Val op)) (Val op)).run.run handle state =
      some (answer, state') := by
  change Prog.run handle (.call op .ret) state = _
  rw [Prog.run, hanswer]
  rfl

theorem run_tryCatch_ok {p : ExceptT ε (Prog Op Ans) α} {handler : ε → ExceptT ε (Prog Op Ans) α}
    {value : α} (hrun : p.run.run handle state = some (.ok value, state')) :
    (tryCatch p handler).run.run handle state = some (.ok value, state') := by
  refine (run_bind p.run _).trans ?_
  rw [hrun]
  rfl

theorem run_tryCatch_error {p : ExceptT ε (Prog Op Ans) α}
    {handler : ε → ExceptT ε (Prog Op Ans) α} {error : ε}
    (hrun : p.run.run handle state = some (.error error, state')) :
    (tryCatch p handler).run.run handle state = (handler error).run.run handle state' := by
  refine (run_bind p.run _).trans ?_
  rw [hrun]
  rfl

/-- From `state` the program ends with `result` and changes nothing. -/
def Reads (handle : (op : Op) → σ → Option (Ans op × σ)) (state : σ)
    (p : ExceptT ε (Prog Op Ans) α) (result : Except ε α) : Prop :=
  p.run.run handle state = some (result, state)

namespace Reads

theorem pure {value : α} : Reads handle state (pure value) (.ok value : Except ε α) := rfl

theorem lift {value : Except ε α} : Reads handle state (liftM value) value := rfl

theorem bind {p : ExceptT ε (Prog Op Ans) α} {rest : α → ExceptT ε (Prog Op Ans) β}
    {result : Except ε α} {results : α → Except ε β} (hfirst : Reads handle state p result)
    (hrest : ∀ value, Reads handle state (rest value) (results value)) :
    Reads handle state (p >>= rest) (result >>= results) := by
  cases result with
  | ok value => exact (run_bindE_ok hfirst).trans (hrest value)
  | error error => exact run_bindE_error hfirst

theorem ite {condition : Prop} [Decidable condition] {p q : ExceptT ε (Prog Op Ans) α}
    {result result' : Except ε α} (hthen : Reads handle state p result)
    (helse : Reads handle state q result') :
    Reads handle state (if condition then p else q) (if condition then result else result') := by
  split
  next => exact hthen
  next => exact helse

end Reads

end Run

namespace Uses

variable {allowed : Op → Prop}

theorem bindE {p : ExceptT ε (Prog Op Ans) α} {rest : α → ExceptT ε (Prog Op Ans) β}
    (hfirst : p.run.Uses allowed) (hrest : ∀ value, (rest value).run.Uses allowed) :
    (p >>= rest).run.Uses allowed := by
  apply bind hfirst
  intro result
  cases result with
  | ok value => exact hrest value
  | error error => trivial

theorem tryCatch {p : ExceptT ε (Prog Op Ans) α} {handler : ε → ExceptT ε (Prog Op Ans) α}
    (hbody : p.run.Uses allowed) (hhandler : ∀ error, (handler error).run.Uses allowed) :
    (tryCatch p handler).run.Uses allowed := by
  apply bind hbody
  intro result
  cases result with
  | ok value => trivial
  | error error => exact hhandler error

theorem tryFinally {p : ExceptT ε (Prog Op Ans) α} {cleanup : ExceptT ε (Prog Op Ans) Unit}
    (hbody : p.run.Uses allowed) (hcleanup : cleanup.run.Uses allowed) :
    (Prog.tryFinally p cleanup).run.Uses allowed := by
  apply bind hbody
  intro result
  apply bind hcleanup
  intro ended
  cases ended with
  | ok => trivial
  | error => trivial

theorem lift (value : Except ε α) :
    (liftM value : ExceptT ε (Prog Op Ans) α).run.Uses allowed := trivial

theorem io {Val : Op → Type} {op : Op} (hop : allowed op) :
    (Prog.io op : ExceptT ε (Prog Op fun op => Except ε (Val op)) (Val op)).run.Uses allowed :=
  ⟨hop, fun _ => trivial⟩

end Uses

/-- What is allowed after every answer is allowed after the possible ones. -/
theorem Uses.given {possible : (op : Op) → Ans op → Prop} {allowed : Op → Prop}
    {p : Prog Op Ans α} (huses : p.Uses allowed) : p.UsesGiven possible allowed := by
  induction p with
  | ret => trivial
  | call op next ih => exact ⟨huses.1, fun answer _ => ih answer (huses.2 answer)⟩

namespace UsesGiven

theorem mono {possible : (op : Op) → Ans op → Prop} {allowed allowed' : Op → Prop}
    {p : Prog Op Ans α} (huses : p.UsesGiven possible allowed)
    (himp : ∀ op, allowed op → allowed' op) : p.UsesGiven possible allowed' := by
  induction p with
  | ret => trivial
  | call op next ih =>
      exact ⟨himp op huses.1, fun answer hanswer => ih answer (huses.2 answer hanswer)⟩

theorem bindE {possible : (op : Op) → Ans op → Prop} {allowed : Op → Prop}
    {p : ExceptT ε (Prog Op Ans) α} {rest : α → ExceptT ε (Prog Op Ans) β}
    (hfirst : p.run.UsesGiven possible allowed)
    (hrest : ∀ value, (rest value).run.UsesGiven possible allowed) :
    (p >>= rest).run.UsesGiven possible allowed := by
  apply bind hfirst
  intro result
  cases result with
  | ok value => exact hrest value
  | error error => trivial

theorem tryCatch {possible : (op : Op) → Ans op → Prop} {allowed : Op → Prop}
    {p : ExceptT ε (Prog Op Ans) α} {handler : ε → ExceptT ε (Prog Op Ans) α}
    (hbody : p.run.UsesGiven possible allowed)
    (hhandler : ∀ error, (handler error).run.UsesGiven possible allowed) :
    (tryCatch p handler).run.UsesGiven possible allowed := by
  apply bind hbody
  intro result
  cases result with
  | ok value => trivial
  | error error => exact hhandler error

theorem tryFinally {possible : (op : Op) → Ans op → Prop} {allowed : Op → Prop}
    {p : ExceptT ε (Prog Op Ans) α} {cleanup : ExceptT ε (Prog Op Ans) Unit}
    (hbody : p.run.UsesGiven possible allowed) (hcleanup : cleanup.run.UsesGiven possible allowed) :
    (Prog.tryFinally p cleanup).run.UsesGiven possible allowed := by
  apply bind hbody
  intro result
  apply bind hcleanup
  intro ended
  cases ended with
  | ok => trivial
  | error => trivial

/-- What follows an operation may rely on its answer. -/
theorem bind_io {Val : Op → Type} {possible : (op : Op) → Except ε (Val op) → Prop}
    {allowed : Op → Prop} {op : Op}
    {rest : Val op → ExceptT ε (Prog Op fun op => Except ε (Val op)) β} (hop : allowed op)
    (hrest : ∀ value, possible op (.ok value) → (rest value).run.UsesGiven possible allowed) :
    (io op >>= rest).run.UsesGiven possible allowed := by
  refine ⟨hop, ?_⟩
  intro answer hanswer
  cases answer with
  | ok value => exact hrest value hanswer
  | error error => trivial

end UsesGiven

namespace Outcome

variable {Val : Op → Type} {sem : Semantics Op Ans σ} {s s' : σ}

theorem pure_iff {value : α} {result : Except ε α} :
    Outcome sem (pure value : ExceptT ε (Prog Op Ans) α).run s result s' ↔
      result = .ok value ∧ s' = s :=
  ret_iff

theorem lift_iff {value result : Except ε α} :
    Outcome sem (liftM value : ExceptT ε (Prog Op Ans) α).run s result s' ↔
      result = value ∧ s' = s :=
  ret_iff

/-- A sequence ends after both parts, or with the exception of the first. -/
theorem bindE_iff {p : ExceptT ε (Prog Op Ans) α} {rest : α → ExceptT ε (Prog Op Ans) β}
    {result : Except ε β} :
    Outcome sem (p >>= rest).run s result s' ↔
      (∃ value middle, Outcome sem p.run s (.ok value) middle ∧
        Outcome sem (rest value).run middle result s') ∨
      ∃ error, Outcome sem p.run s (.error error) s' ∧ result = .error error := by
  refine bind_iff.trans ⟨?_, ?_⟩
  · rintro ⟨first, middle, hfirst, hrest⟩
    cases first with
    | ok value => exact Or.inl ⟨value, middle, hfirst, hrest⟩
    | error error =>
        obtain ⟨rfl, rfl⟩ := ret_iff.mp hrest
        exact Or.inr ⟨error, hfirst, rfl⟩
  · rintro (⟨value, middle, hfirst, hrest⟩ | ⟨error, hfirst, rfl⟩)
    · exact ⟨.ok value, middle, hfirst, hrest⟩
    · exact ⟨.error error, s', hfirst, .ret⟩

/-- A caught program ends by itself, or after its handler. -/
theorem tryCatch_iff {p : ExceptT ε (Prog Op Ans) α} {handler : ε → ExceptT ε (Prog Op Ans) α}
    {result : Except ε α} :
    Outcome sem (tryCatch p handler).run s result s' ↔
      (∃ value, Outcome sem p.run s (.ok value) s' ∧ result = .ok value) ∨
      ∃ error middle, Outcome sem p.run s (.error error) middle ∧
        Outcome sem (handler error).run middle result s' := by
  refine bind_iff.trans ⟨?_, ?_⟩
  · rintro ⟨first, middle, hfirst, hrest⟩
    cases first with
    | ok value =>
        obtain ⟨rfl, rfl⟩ := ret_iff.mp hrest
        exact Or.inl ⟨value, hfirst, rfl⟩
    | error error => exact Or.inr ⟨error, middle, hfirst, hrest⟩
  · rintro (⟨value, hfirst, rfl⟩ | ⟨error, middle, hfirst, hrest⟩)
    · exact ⟨.ok value, s', hfirst, .ret⟩
    · exact ⟨.error error, middle, hfirst, hrest⟩

theorem io_iff {sem : Semantics Op (fun op => Except ε (Val op)) σ} {op : Op}
    {result : Except ε (Val op)} :
    Outcome sem (io op).run s result s' ↔ sem op s result s' := by
  refine call_iff.trans ⟨?_, fun hstep => ⟨result, s', hstep, .ret⟩⟩
  rintro ⟨answer, middle, hstep, hret⟩
  obtain ⟨rfl, rfl⟩ := ret_iff.mp hret
  exact hstep

theorem throw_iff {error : ε} {result : Except ε α} :
    Outcome sem (throw error : ExceptT ε (Prog Op Ans) α).run s result s' ↔
      result = .error error ∧ s' = s :=
  ret_iff

/-- A sequence that succeeds has succeeded in both parts. -/
theorem bindE_ok_iff {p : ExceptT ε (Prog Op Ans) α} {rest : α → ExceptT ε (Prog Op Ans) β}
    {result : β} :
    Outcome sem (p >>= rest).run s (.ok result) s' ↔
      ∃ value middle, Outcome sem p.run s (.ok value) middle ∧
        Outcome sem (rest value).run middle (.ok result) s' := by
  rw [bindE_iff]
  constructor
  · rintro (hrest | ⟨error, _, hresult⟩)
    · exact hrest
    · contradiction
  · exact Or.inl

end Outcome

/-! ## Programs with one outcome -/

/-- From every state all completed runs end alike. -/
def Deterministic (sem : Semantics Op Ans σ) (p : Prog Op Ans α) : Prop :=
  ∀ ⦃s value s' value' s''⦄, Outcome sem p s value s' → Outcome sem p s value' s'' →
    value = value' ∧ s' = s''

namespace Deterministic

variable {sem : Semantics Op Ans σ}

theorem congr_uses {sem' : Semantics Op Ans σ} {allowed : Op → Prop}
    (hsem : ∀ op, allowed op → sem op = sem' op) {p : Prog Op Ans α} (huses : p.Uses allowed)
    (hdet : Deterministic sem' p) : Deterministic sem p := by
  intro s value s' value' s'' hfirst hsecond
  exact hdet ((Outcome.congr_uses hsem huses).mp hfirst)
    ((Outcome.congr_uses hsem huses).mp hsecond)

theorem ret (value : α) : Deterministic sem (.ret value : Prog Op Ans α) := by
  intro s first s' second s'' hfirst hsecond
  obtain ⟨rfl, rfl⟩ := Outcome.ret_iff.mp hfirst
  obtain ⟨rfl, rfl⟩ := Outcome.ret_iff.mp hsecond
  exact ⟨rfl, rfl⟩

theorem bind {p : Prog Op Ans α} {rest : α → Prog Op Ans β} (hfirst : Deterministic sem p)
    (hrest : ∀ value, Deterministic sem (rest value)) : Deterministic sem (p >>= rest) := by
  intro s value s' value' s'' hrun hrun'
  obtain ⟨first, middle, hp, hq⟩ := Outcome.bind_iff.mp hrun
  obtain ⟨first', middle', hp', hq'⟩ := Outcome.bind_iff.mp hrun'
  obtain ⟨rfl, rfl⟩ := hfirst hp hp'
  exact hrest first hq hq'

theorem bindE {p : ExceptT ε (Prog Op Ans) α} {rest : α → ExceptT ε (Prog Op Ans) β}
    (hfirst : Deterministic sem p.run) (hrest : ∀ value, Deterministic sem (rest value).run) :
    Deterministic sem (p >>= rest).run := by
  apply bind hfirst
  intro result
  cases result with
  | ok value => exact hrest value
  | error error => exact ret _

theorem ite {condition : Prop} [Decidable condition] {p q : ExceptT ε (Prog Op Ans) α}
    (hthen : Deterministic sem p.run) (helse : Deterministic sem q.run) :
    Deterministic sem (if condition then p else q).run := by
  split
  next => exact hthen
  next => exact helse

end Deterministic

end Prog
