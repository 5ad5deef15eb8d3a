import AIUnblock.Foundation.Sequential

/-! # Threads with books of their own

Any number of threads run on a shared state. Each keeps a book that only its own
operations change, so that what holds of a program and its book alone holds in the
crew. An operation may start further threads.
-/

namespace Prog

open Relation

variable {Op : Type} {Ans : Op → Type} {α σ τ : Type}

structure Thread (Op : Type) (Ans : Op → Type) (α τ : Type) where
  code : Prog Op Ans α
  book : τ

structure Crew (Op : Type) (Ans : Op → Type) (α σ τ : Type) where
  shared : σ
  threads : List (Thread Op Ans α τ)

namespace Crew

/-- What an operation does to the shared state and to the book of its thread. -/
abbrev Act (Op : Type) (Ans : Op → Type) (σ τ : Type) : Type :=
  (op : Op) → σ × τ → Ans op → σ × τ → Prop

/-- One operation of one of the threads. -/
inductive Step (act : Act Op Ans σ τ)
    (spawns : (op : Op) → Ans op → List (Thread Op Ans α τ)) :
    Crew Op Ans α σ τ → Crew Op Ans α σ τ → Prop
  | step {shared shared' threads index op next book answer book'}
      (hthread : threads[index]? = some ⟨.call op next, book⟩)
      (hact : act op (shared, book) answer (shared', book')) :
      Step act spawns ⟨shared, threads⟩
        ⟨shared', threads.set index ⟨next answer, book'⟩ ++ spawns op answer⟩

/-- All threads have ended. -/
def Ended (crew : Crew Op Ans α σ τ) : Prop :=
  ∀ thread ∈ crew.threads, ∃ value, thread.code = .ret value

def ended : Prog Op Ans α → Bool
  | .ret _ => true
  | .call _ _ => false

theorem Ended.of_all {crew : Crew Op Ans α σ τ}
    (hall : (crew.threads.all fun thread => ended thread.code) = true) : crew.Ended := by
  intro thread hmem
  have hended : ended thread.code = true := List.all_eq_true.mp hall thread hmem
  cases hcode : thread.code with
  | ret value => exact ⟨value, rfl⟩
  | call op next =>
      rw [hcode] at hended
      cases hended

variable {act : Act Op Ans σ τ} {spawns : (op : Op) → Ans op → List (Thread Op Ans α τ)}

section Threads

variable {threads : List (Thread Op Ans α τ)} {index : Nat} {thread thread' : Thread Op Ans α τ}

theorem acted_mem {spawned : List (Thread Op Ans α τ)} (hthread : threads[index]? = some thread) :
    thread' ∈ threads.set index thread' ++ spawned :=
  List.mem_append_left _ (List.mem_set (List.getElem?_eq_some_iff.mp hthread).1 thread')

/-- A thread after a step is the one that made it, another one or a new one. -/
theorem forall_threads {P P' : Thread Op Ans α τ → Prop} {spawned : List (Thread Op Ans α τ)}
    (hthread : threads[index]? = some thread) (hall : ∀ other ∈ threads, P other)
    (hothers : ∀ other, P other → P' other) (hacted : P thread → P' thread')
    (hspawned : ∀ other ∈ spawned, P' other) :
    ∀ other ∈ threads.set index thread' ++ spawned, P' other := by
  intro other hmem
  rcases List.mem_append.mp hmem with hset | hnew
  · rcases List.mem_or_eq_of_mem_set hset with hold | rfl
    · exact hothers other (hall other hold)
    · exact hacted (hall thread (List.mem_of_getElem? hthread))
  · exact hspawned other hnew

/-- What one of the threads does, one of them does after a step, if it goes over from
the thread that made the step to some thread. -/
theorem exists_thread {P P' : Thread Op Ans α τ → Prop} {spawned : List (Thread Op Ans α τ)}
    (hthread : threads[index]? = some thread) (hsome : ∃ other ∈ threads, P other)
    (hothers : ∀ other, P other → P' other)
    (hacted : P thread → P' thread' ∨ ∃ other ∈ spawned, P' other) :
    ∃ other ∈ threads.set index thread' ++ spawned, P' other := by
  obtain ⟨other, hmem, hother⟩ := hsome
  obtain ⟨position, hposition⟩ := List.mem_iff_getElem?.mp hmem
  by_cases heq : index = position
  · subst heq
    rw [hthread] at hposition
    cases hposition
    rcases hacted hother with hkept | ⟨new, hnew, hP⟩
    · exact ⟨thread', acted_mem hthread, hkept⟩
    · exact ⟨new, List.mem_append_right _ hnew, hP⟩
  · refine ⟨other, List.mem_append_left _ ?_, hothers other hother⟩
    apply List.mem_of_getElem?
    rw [List.getElem?_set_ne heq]
    exact hposition

end Threads

theorem Step.mono {act' : Act Op Ans σ τ} {crew crew' : Crew Op Ans α σ τ}
    (himp : ∀ op before answer after, act op before answer after → act' op before answer after)
    (hstep : Step act spawns crew crew') : Step act' spawns crew crew' := by
  cases hstep with
  | step hthread hact => exact .step hthread (himp _ _ _ _ hact)

/-- What holds of each thread and its book alone holds throughout. -/
theorem Step.safe {sem : Semantics Op Ans τ} {post : α → τ → Prop}
    {crew crew' : Crew Op Ans α σ τ}
    (hbook : ∀ op shared book answer shared' book', act op (shared, book) answer (shared', book') →
      sem op book answer book')
    (hspawns : ∀ op answer, ∀ thread ∈ spawns op answer,
      Safe sem (fun _ _ => False) post thread.code thread.book)
    (hsafe : ∀ thread ∈ crew.threads, Safe sem (fun _ _ => False) post thread.code thread.book)
    (hstep : Step act spawns crew crew') :
    ∀ thread ∈ crew'.threads, Safe sem (fun _ _ => False) post thread.code thread.book := by
  cases hstep with
  | step hthread hact =>
      apply forall_threads hthread hsafe fun _ h => h
      · exact fun hcall => hcall _ .refl _ _ (hbook _ _ _ _ _ _ hact)
      · exact hspawns _ _

/-! ## Running by a schedule -/

section Schedule

variable {handle : (op : Op) → σ × τ → Option (Ans op × σ × τ)}

/-- One operation of the thread at the index, answered by a function of the state. -/
def advance (handle : (op : Op) → σ × τ → Option (Ans op × σ × τ))
    (spawns : (op : Op) → Ans op → List (Thread Op Ans α τ)) (crew : Crew Op Ans α σ τ)
    (index : Nat) : Option (Crew Op Ans α σ τ) :=
  match crew.threads[index]? with
  | some ⟨.call op next, book⟩ =>
    match handle op (crew.shared, book) with
    | some (answer, shared, book') =>
      some ⟨shared, crew.threads.set index ⟨next answer, book'⟩ ++ spawns op answer⟩
    | none => none
  | _ => none

variable {crew crew' : Crew Op Ans α σ τ}

theorem advance_step {index : Nat}
    (hhandle : ∀ op before answer after, handle op before = some (answer, after) →
      act op before answer after)
    (hadvance : advance handle spawns crew index = some crew') : Step act spawns crew crew' := by
  unfold advance at hadvance
  split at hadvance
  next op next book hthread =>
    split at hadvance
    next answer shared book' hanswer =>
      cases hadvance
      exact .step hthread (hhandle _ _ _ _ hanswer)
    next => cases hadvance
  next => cases hadvance

theorem schedule_reaches {schedule : List Nat}
    (hhandle : ∀ op before answer after, handle op before = some (answer, after) →
      act op before answer after)
    (hschedule : schedule.foldlM (advance handle spawns) crew = some crew') :
    ReflTransGen (Step act spawns) crew crew' := by
  induction schedule generalizing crew with
  | nil =>
      cases hschedule
      exact .refl
  | cons index schedule ih =>
      rw [List.foldlM_cons] at hschedule
      obtain ⟨middle, hadvance, hrest⟩ := Option.bind_eq_some_iff.mp hschedule
      exact .head (advance_step hhandle hadvance) (ih hrest)

end Schedule

end Crew

end Prog
