import AIUnblock.Foundation.Interference

/-! # A foreground program and its background threads

An operation may start further programs. They run in the background, on the same
state, and their steps are the interference that the foreground program sees.
-/

namespace Prog

open Relation

variable {Op : Type} {Ans : Op → Type} {α σ ε : Type}

structure Pool (Op : Type) (Ans : Op → Type) (σ : Type) where
  shared : σ
  threads : List (Prog Op Ans Unit)

namespace Pool

section

variable (sem : Semantics Op Ans σ) (spawns : (op : Op) → Ans op → List (Prog Op Ans Unit))

/-- An operation of the foreground program. -/
def semantics : Semantics Op Ans (Pool Op Ans σ) := fun op pool answer pool' =>
  sem op pool.shared answer pool'.shared ∧ pool'.threads = pool.threads ++ spawns op answer

/-- An operation of one of the background threads. -/
inductive Background : Pool Op Ans σ → Pool Op Ans σ → Prop
  | step {shared shared' before op next after answer} (hstep : sem op shared answer shared') :
      Background ⟨shared, before ++ .call op next :: after⟩
        ⟨shared', before ++ next answer :: after ++ spawns op answer⟩

end

variable {sem : Semantics Op Ans σ} {spawns : (op : Op) → Ans op → List (Prog Op Ans Unit)}

/-- A state without background threads. -/
def Idle (P : σ → Prop) (pool : Pool Op Ans σ) : Prop := P pool.shared ∧ pool.threads = []

theorem stable_idle (P : σ → Prop) : Stable (Background sem spawns) (Idle P) := by
  intro pool pool' hidle hstep
  cases hstep with
  | step hstep => simp [Idle] at hidle

/-- All background threads are restricted to the allowed operations. -/
def Within (allowed : Op → Prop) (P : σ → Prop) (pool : Pool Op Ans σ) : Prop :=
  P pool.shared ∧ ∀ thread ∈ pool.threads, thread.Uses allowed

/-- What the allowed operations keep is stable. -/
theorem stable_within {allowed : Op → Prop} {P : σ → Prop}
    (hkeep : ∀ op, allowed op → ∀ s answer s', P s → sem op s answer s' → P s')
    (hspawns : ∀ op, allowed op → ∀ answer, spawns op answer = []) :
    Stable (Background sem spawns) (Within allowed P) := by
  intro pool pool' hwithin hstep
  obtain ⟨hP, hthreads⟩ := hwithin
  cases hstep with
  | @step shared shared' before op next after answer hstep =>
      have hcall := hthreads (.call op next) (by simp)
      refine ⟨hkeep op hcall.1 shared answer shared' hP hstep, ?_⟩
      intro thread hmem
      rw [hspawns op hcall.1 answer, List.append_nil] at hmem
      rcases List.mem_append.mp hmem with hbefore | hafter
      · exact hthreads thread (List.mem_append_left _ hbefore)
      · rcases List.mem_cons.mp hafter with rfl | hafter
        · exact hcall.2 answer
        · exact hthreads thread (List.mem_append_right _ (List.mem_cons_of_mem _ hafter))

/-- A run of the foreground while the background stands still. -/
theorem outcome_of {p : Prog Op Ans α} {s s' : σ} {value : α} (hrun : Outcome sem p s value s')
    (threads : List (Prog Op Ans Unit)) :
    ∃ threads', Outcome (semantics sem spawns) p ⟨s, threads⟩ value ⟨s', threads'⟩ := by
  induction hrun generalizing threads with
  | ret => exact ⟨threads, .ret⟩
  | @call op _ _ answer _ _ _ hstep _ ih =>
      obtain ⟨threads', hrest⟩ := ih (threads ++ spawns op answer)
      exact ⟨threads', .call ⟨hstep, rfl⟩ hrest⟩

/-- A background thread that starts nothing runs to its end while all others stand still. -/
theorem background_of {p : Prog Op Ans Unit} {s s' : σ} {value : Unit}
    (hquiet : p.Uses fun op => ∀ answer, spawns op answer = []) (hrun : Outcome sem p s value s')
    (before after : List (Prog Op Ans Unit)) :
    ReflTransGen (Background sem spawns) ⟨s, before ++ p :: after⟩
      ⟨s', before ++ .ret value :: after⟩ := by
  induction hrun with
  | ret => exact .refl
  | @call op next s answer middle _ _ hstep _ ih =>
      have hcall : Background sem spawns ⟨s, before ++ .call op next :: after⟩
          ⟨middle, before ++ next answer :: after⟩ := by
        simpa [hquiet.1 answer] using
          @Background.step _ _ _ sem spawns _ _ before _ next after _ hstep
      exact .head hcall (ih (hquiet.2 answer))

section Exceptions

variable {Val : Op → Type} {sem : Semantics Op (fun op => Except ε (Val op)) σ}
  {spawns : (op : Op) → Except ε (Val op) → List (Prog Op (fun op => Except ε (Val op)) Unit)}

/-- A foreground operation that starts nothing, while no thread runs. The threads may
be answered in another way than the foreground. -/
theorem io_idle {sem' : Semantics Op (fun op => Except ε (Val op)) σ} {op : Op}
    {P : σ → Prop} {Q : Val op → σ → Prop} {E : ε → σ → Prop}
    (hspawns : ∀ answer, spawns op answer = [])
    (hcall : ∀ s answer s', P s → sem op s answer s' → Ends Q E answer s') :
    TripleE (semantics sem spawns) (Background sem' spawns) (Idle P) (Prog.io op)
      (fun value => Idle (Q value)) (fun error => Idle (E error)) := by
  have hend : ∀ pool (answer : Except ε (Val op)) pool', Idle P pool →
      semantics sem spawns op pool answer pool' →
        Ends Q E answer pool'.shared ∧ pool'.threads = [] := by
    intro pool answer pool' hidle hstep
    obtain ⟨hshared, hthreads⟩ := hstep
    rw [hidle.2, hspawns answer] at hthreads
    exact ⟨hcall _ _ _ hidle.1 hshared, hthreads⟩
  apply TripleE.io (stable_idle P) (fun value => stable_idle (Q value))
    (fun error => stable_idle (E error))
  · exact fun pool value pool' hidle hstep => hend pool (.ok value) pool' hidle hstep
  · exact fun pool error pool' hidle hstep => hend pool (.error error) pool' hidle hstep

end Exceptions

end Pool

end Prog
