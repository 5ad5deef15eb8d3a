import AIUnblock.Foundation.Interference

/-! # Programs that run alone

Without an environment every assertion is stable, so that the rules of triples ask for
nothing but what the operations do.
-/

namespace Prog

open Relation

variable {Op : Type} {Ans : Op → Type} {α β σ ε : Type}

/-- A triple about a program that nobody interferes with. -/
abbrev Alone (sem : Semantics Op Ans σ) (P : σ → Prop) (p : ExceptT ε (Prog Op Ans) α)
    (Q : α → σ → Prop) (E : ε → σ → Prop) : Prop :=
  TripleE sem (fun _ _ => False) P p Q E

theorem eq_of_alone {s s' : σ} (hsteps : ReflTransGen (fun _ _ => False) s s') : s' = s := by
  induction hsteps with
  | refl => rfl
  | tail _ hstep => exact hstep.elim

theorem stable_alone (P : σ → Prop) : Stable (fun _ _ => False) P :=
  fun _ _ _ hfalse => hfalse.elim

namespace Alone

variable {sem : Semantics Op Ans σ} {P : σ → Prop} {Q : α → σ → Prop} {E : ε → σ → Prop}

theorem pure {value : α} (himp : ∀ s, P s → Q value s) :
    Alone sem P (Pure.pure value : ExceptT ε (Prog Op Ans) α) Q E :=
  TripleE.pure (stable_alone _) himp

theorem throw {error : ε} (himp : ∀ s, P s → E error s) :
    Alone sem P (throw error : ExceptT ε (Prog Op Ans) α) Q E :=
  TripleE.throw (stable_alone _) himp

theorem io {Val : Op → Type} {sem : Semantics Op (fun op => Except ε (Val op)) σ} {op : Op}
    {Q : Val op → σ → Prop}
    (hok : ∀ s value s', P s → sem op s (.ok value) s' → Q value s')
    (herror : ∀ s error s', P s → sem op s (.error error) s' → E error s') :
    Alone sem P (Prog.io op) Q E :=
  TripleE.io (stable_alone _) (fun _ => stable_alone _) (fun _ => stable_alone _) hok herror

/-- Operations that keep an assertion keep it on both exits. -/
theorem uses {p : ExceptT ε (Prog Op Ans) α} {allowed : Op → Prop} (huses : p.run.Uses allowed)
    (hkeep : ∀ op, allowed op → ∀ s answer s', P s → sem op s answer s' → P s') :
    Alone sem P p (fun _ => P) fun _ => P :=
  TripleE.uses huses (stable_alone _) hkeep

end Alone

/-! ## Operations that are programs -/

variable {Op' : Type} {Ans' : Op' → Type}

/-- What holds of a program whose operations are atomic holds when they are replaced by
programs that do the same. -/
theorem Safe.interpret {sem : Semantics Op Ans σ} {sem' : Semantics Op' Ans' σ}
    {body : (op : Op) → Prog Op' Ans' (Ans op)} {post : α → σ → Prop} {p : Prog Op Ans α} {s : σ}
    (hbody : ∀ op (after : Ans op → σ → Prop) s, (∀ answer s', sem op s answer s' →
      after answer s') → Safe sem' (fun _ _ => False) after (body op) s)
    (hsafe : Safe sem (fun _ _ => False) post p s) :
    Safe sem' (fun _ _ => False) post (p.interpret body) s := by
  induction p generalizing s with
  | ret value => exact hsafe
  | call op next ih =>
      rw [Prog.interpret]
      apply Safe.bind
      apply hbody
      exact fun answer s' hstep => ih answer (hsafe s .refl answer s' hstep)

theorem Safe.perform {sem : Semantics Op Ans σ} {op : Op} {post : Ans op → σ → Prop} {s : σ}
    (hcall : ∀ answer s', sem op s answer s' → post answer s') :
    Safe sem (fun _ _ => False) post (Prog.perform op) s := by
  intro s' hsteps answer s'' hstep last hmore
  rw [eq_of_alone hsteps] at hstep
  rw [eq_of_alone hmore]
  exact hcall answer s'' hstep

end Prog
