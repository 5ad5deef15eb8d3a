import Mathlib.Logic.Relation
import AIUnblock.Foundation.Program

/-! # Programs under interference

One program runs while an environment, made of any other threads, changes the
state between its operations. `Safe` is the weakest precondition of such a run,
closed under environment steps; triples `{P} p {Q}` are built from it. The rules
for single operations ask for assertions that the environment keeps; the rules
for composition ask for nothing.
-/

namespace Prog

open Relation

variable {Op : Type} {Ans : Op → Type} {α β σ ε : Type}

/-! ## The interleaved system -/

/-- One step of the program or of its environment. -/
inductive Step (sem : Semantics Op Ans σ) (env : σ → σ → Prop) :
    Prog Op Ans α × σ → Prog Op Ans α × σ → Prop
  | call {op next s answer s'} (hstep : sem op s answer s') :
      Step sem env (.call op next, s) (next answer, s')
  | env {p s s'} (hstep : env s s') : Step sem env (p, s) (p, s')

/-- Every finite interleaving. -/
abbrev Reaches (sem : Semantics Op Ans σ) (env : σ → σ → Prop) :
    Prog Op Ans α × σ → Prog Op Ans α × σ → Prop :=
  ReflTransGen (Step sem env)

/-- A larger environment allows more interleavings. -/
theorem Reaches.mono {sem : Semantics Op Ans σ} {env env' : σ → σ → Prop}
    {config config' : Prog Op Ans α × σ} (himp : ∀ s s', env s s' → env' s s')
    (hreach : Reaches sem env config config') : Reaches sem env' config config' := by
  refine ReflTransGen.mono ?_ _ _ hreach
  intro before after hstep
  cases hstep with
  | call hcall => exact .call hcall
  | env henv => exact .env (himp _ _ henv)

/-- A larger semantics allows more interleavings. -/
theorem Reaches.mono_sem {sem sem' : Semantics Op Ans σ} {env : σ → σ → Prop}
    {config config' : Prog Op Ans α × σ}
    (himp : ∀ op s answer s', sem op s answer s' → sem' op s answer s')
    (hreach : Reaches sem env config config') : Reaches sem' env config config' := by
  refine ReflTransGen.mono ?_ _ _ hreach
  intro before after hstep
  cases hstep with
  | call hcall => exact .call (himp _ _ _ _ hcall)
  | env henv => exact .env henv

/-- An undisturbed run is one of the interleavings. -/
theorem Reaches.of_outcome {sem : Semantics Op Ans σ} {env : σ → σ → Prop} {p : Prog Op Ans α}
    {s s' : σ} {value : α} (hrun : Outcome sem p s value s') :
    Reaches sem env (p, s) (.ret value, s') := by
  induction hrun with
  | ret => exact .refl
  | call hstep _ ih => exact .head (.call hstep) ih

/-- A run of the first program is a run of a sequence. -/
theorem Reaches.bind {sem : Semantics Op Ans σ} {env : σ → σ → Prop} {p p' : Prog Op Ans α}
    (rest : α → Prog Op Ans β) {s s' : σ} (hreach : Reaches sem env (p, s) (p', s')) :
    Reaches sem env (p >>= rest, s) (p' >>= rest, s') := by
  refine hreach.lift (fun config : Prog Op Ans α × σ => (config.1 >>= rest, config.2)) ?_
  intro before after hstep
  cases hstep with
  | call hcall => exact .call hcall
  | env henv => exact .env henv

/-- A run of a sequence is still in the first program or has left it. -/
theorem Reaches.bind_cases {sem : Semantics Op Ans σ} {env : σ → σ → Prop} {p : Prog Op Ans α}
    {rest : α → Prog Op Ans β} {q : Prog Op Ans β} {s s' : σ}
    (hreach : Reaches sem env (p >>= rest, s) (q, s')) :
    (∃ p', q = p' >>= rest ∧ Reaches sem env (p, s) (p', s')) ∨
      ∃ value middle, Reaches sem env (p, s) (.ret value, middle) ∧
        Reaches sem env (rest value, middle) (q, s') := by
  generalize hlast : (q, s') = last at hreach
  induction hreach generalizing q s' with
  | refl =>
      cases hlast
      exact Or.inl ⟨p, rfl, .refl⟩
  | @tail middle last hreach hstep ih =>
      obtain ⟨program, state⟩ := middle
      subst hlast
      rcases ih rfl with ⟨p', rfl, hfirst⟩ | ⟨value, left, hfirst, hrest⟩
      · cases p' with
        | ret value => exact Or.inr ⟨value, state, hfirst, .single hstep⟩
        | call op next =>
            rw [call_bind] at hstep
            cases hstep with
            | call hcall => exact Or.inl ⟨_, rfl, hfirst.tail (.call hcall)⟩
            | env henv => exact Or.inl ⟨_, rfl, hfirst.tail (.env henv)⟩
      · exact Or.inr ⟨value, left, hfirst, hrest.tail hstep⟩

/-- Without an environment a completed interleaving is a completed run. -/
theorem Outcome.of_reaches {sem : Semantics Op Ans σ} {p : Prog Op Ans α} {s s' : σ} {value : α}
    (hreach : Reaches sem (fun _ _ => False) (p, s) (.ret value, s')) :
    Outcome sem p s value s' := by
  generalize hlast : (Prog.ret value, s') = last at hreach
  generalize hfirst : (p, s) = first at hreach
  induction hreach using ReflTransGen.head_induction_on generalizing p s with
  | refl =>
      subst hlast
      cases hfirst
      exact .ret
  | head hstep _ ih =>
      subst hfirst
      cases hstep with
      | call hcall => exact .call hcall (ih rfl)
      | env henv => exact henv.elim

/-- The environment keeps the assertion. -/
def Stable (env : σ → σ → Prop) (P : σ → Prop) : Prop := ∀ s s', P s → env s s' → P s'

/-- What is stable outlasts any number of steps. -/
theorem Stable.star {env : σ → σ → Prop} {P : σ → Prop} (hstable : Stable env P) {s s' : σ}
    (hs : P s) (hsteps : ReflTransGen env s s') : P s' := by
  induction hsteps with
  | refl => exact hs
  | tail _ hstep ih => exact hstable _ _ ih hstep

theorem stable_true (env : σ → σ → Prop) : Stable env fun _ => True :=
  fun _ _ _ _ => trivial

theorem stable_false (env : σ → σ → Prop) : Stable env fun _ => False :=
  fun _ _ hfalse _ => hfalse.elim

/-- What the environment and the allowed operations keep holds throughout. -/
theorem Reaches.uses {sem : Semantics Op Ans σ} {env : σ → σ → Prop} {P : σ → Prop}
    {allowed : Op → Prop} {p p' : Prog Op Ans α} {s s' : σ} (huses : p.Uses allowed)
    (hstable : Stable env P)
    (hkeep : ∀ op, allowed op → ∀ s answer s', P s → sem op s answer s' → P s') (hs : P s)
    (hreach : Reaches sem env (p, s) (p', s')) : P s' ∧ p'.Uses allowed := by
  generalize hlast : (p', s') = last at hreach
  induction hreach generalizing p' s' with
  | refl =>
      cases hlast
      exact ⟨hs, huses⟩
  | @tail middle last _ hstep ih =>
      obtain ⟨program, state⟩ := middle
      obtain ⟨hstate, hprogram⟩ := ih rfl
      subst hlast
      cases hstep with
      | call hcall => exact ⟨hkeep _ hprogram.1 _ _ _ hstate hcall, hprogram.2 _⟩
      | env henv => exact ⟨hstable _ _ hstate henv, hprogram⟩

/-- What the environment and every operation keep holds throughout. -/
theorem Reaches.keeps {sem : Semantics Op Ans σ} {env : σ → σ → Prop} {P : σ → Prop}
    {p p' : Prog Op Ans α} {s s' : σ} (hstable : Stable env P)
    (hkeep : ∀ op s answer s', P s → sem op s answer s' → P s') (hs : P s)
    (hreach : Reaches sem env (p, s) (p', s')) : P s' :=
  (hreach.uses (Uses.any p) hstable (fun op _ => hkeep op) hs).1

/-- A run seen through a view that the environment leaves alone is a run of the view. -/
theorem Reaches.view {τ : Type} {sem : Semantics Op Ans σ} {sem' : Semantics Op Ans τ}
    {env : σ → σ → Prop} {P : σ → Prop} (view : σ → τ) {p p' : Prog Op Ans α} {s s' : σ}
    (hstable : Stable env P) (hkeep : ∀ op s answer s', P s → sem op s answer s' → P s')
    (henv : ∀ s s', P s → env s s' → view s' = view s)
    (hcall : ∀ op s answer s', sem op s answer s' → sem' op (view s) answer (view s'))
    (hs : P s) (hreach : Reaches sem env (p, s) (p', s')) :
    Reaches sem' (fun _ _ => False) (p, view s) (p', view s') := by
  generalize hlast : (p', s') = last at hreach
  induction hreach generalizing p' s' with
  | refl =>
      cases hlast
      exact .refl
  | @tail middle last hreach hstep ih =>
      obtain ⟨program, state⟩ := middle
      have hview := ih rfl
      subst hlast
      cases hstep with
      | call hstep => exact hview.tail (.call (hcall _ _ _ _ hstep))
      | env hstep =>
          rw [henv _ _ (Reaches.keeps hstable hkeep hs hreach) hstep]
          exact hview

/-- Every program on the way performs only what the first one may. -/
theorem Reaches.uses_program {sem : Semantics Op Ans σ} {env : σ → σ → Prop}
    {allowed : Op → Prop} {p p' : Prog Op Ans α} {s s' : σ} (huses : p.Uses allowed)
    (hreach : Reaches sem env (p, s) (p', s')) : p'.Uses allowed :=
  (hreach.uses huses (stable_true env) (fun _ _ _ _ _ _ _ => trivial) trivial).2

/-- A program whose operations can always be answered so that something is kept completes a
run that keeps it. -/
theorem Outcome.exists_of_uses_kept {sem : Semantics Op Ans σ} {P : σ → Prop}
    {allowed : Op → Prop} {p : Prog Op Ans α} (huses : p.Uses allowed)
    (hanswered : ∀ op, allowed op → ∀ s, P s → ∃ answer s', sem op s answer s' ∧ P s') {s : σ}
    (hs : P s) : ∃ value s', Outcome sem p s value s' ∧ P s' := by
  induction p generalizing s with
  | ret value => exact ⟨value, s, .ret, hs⟩
  | call op next ih =>
      obtain ⟨answer, middle, hstep, hmiddle⟩ := hanswered op huses.1 s hs
      obtain ⟨value, s', hrest, hs'⟩ := ih answer (huses.2 answer) hmiddle
      exact ⟨value, s', .call hstep hrest, hs'⟩

/-- A program whose operations are always answered completes a run. -/
theorem Outcome.exists_of_uses {sem : Semantics Op Ans σ} {allowed : Op → Prop}
    {p : Prog Op Ans α} (huses : p.Uses allowed)
    (hanswered : ∀ op, allowed op → ∀ s, ∃ answer s', sem op s answer s') (s : σ) :
    ∃ value s', Outcome sem p s value s' := by
  have hkept : ∀ op, allowed op → ∀ s, True → ∃ answer s', sem op s answer s' ∧ True := by
    intro op hop s _
    obtain ⟨answer, s', hstep⟩ := hanswered op hop s
    exact ⟨answer, s', hstep, trivial⟩
  obtain ⟨value, s', houtcome, _⟩ := exists_of_uses_kept huses hkept trivial
  exact ⟨value, s', houtcome⟩

/-! ## Weakest preconditions -/

/-- Whatever the environment does in between, the program ends in `post`. -/
def Safe (sem : Semantics Op Ans σ) (env : σ → σ → Prop) (post : α → σ → Prop) :
    Prog Op Ans α → σ → Prop
  | .ret value, s => ∀ s', ReflTransGen env s s' → post value s'
  | .call op next, s => ∀ s', ReflTransGen env s s' → ∀ answer s'', sem op s' answer s'' →
      Safe sem env post (next answer) s''

variable {sem : Semantics Op Ans σ} {env : σ → σ → Prop}

/-- A safe program may be interfered with. -/
theorem Safe.interfere {post : α → σ → Prop} {p : Prog Op Ans α} {s s' : σ}
    (hsafe : Safe sem env post p s) (hstep : env s s') : Safe sem env post p s' := by
  cases p with
  | ret value => exact fun last hsteps => hsafe last (.head hstep hsteps)
  | call op next => exact fun last hsteps => hsafe last (.head hstep hsteps)

/-- It stays safe in each of its steps. -/
theorem Safe.step {post : α → σ → Prop} {config config' : Prog Op Ans α × σ}
    (hsafe : Safe sem env post config.1 config.2) (hstep : Step sem env config config') :
    Safe sem env post config'.1 config'.2 := by
  cases hstep with
  | call hcall => exact hsafe _ .refl _ _ hcall
  | env henv => exact hsafe.interfere henv

/-- And in every run. -/
theorem Safe.reaches {post : α → σ → Prop} {config config' : Prog Op Ans α × σ}
    (hsafe : Safe sem env post config.1 config.2) (hreach : Reaches sem env config config') :
    Safe sem env post config'.1 config'.2 := by
  induction hreach with
  | refl => exact hsafe
  | tail _ hstep ih => exact ih.step hstep

/-- A weaker postcondition may use that the environment has been accounted for. -/
theorem Safe.mono {post post' : α → σ → Prop} {p : Prog Op Ans α} {s : σ}
    (himp : ∀ value s, (∀ s', ReflTransGen env s s' → post value s') → post' value s)
    (hsafe : Safe sem env post p s) : Safe sem env post' p s := by
  induction p generalizing s with
  | ret value =>
      exact fun s' hsteps => himp value s' fun s'' hmore => hsafe s'' (hsteps.trans hmore)
  | call op next ih =>
      exact fun s' hsteps answer s'' hcall => ih answer (hsafe s' hsteps answer s'' hcall)

/-- A smaller environment does less. -/
theorem Safe.mono_env {env' : σ → σ → Prop} {post : α → σ → Prop} {p : Prog Op Ans α} {s : σ}
    (himp : ∀ s s', env' s s' → env s s') (hsafe : Safe sem env post p s) :
    Safe sem env' post p s := by
  have hstar : ∀ {s s'}, ReflTransGen env' s s' → ReflTransGen env s s' :=
    fun hsteps => ReflTransGen.mono himp _ _ hsteps
  induction p generalizing s with
  | ret value => exact fun s' hsteps => hsafe s' (hstar hsteps)
  | call op next ih =>
      exact fun s' hsteps answer s'' hcall => ih answer (hsafe s' (hstar hsteps) answer s'' hcall)

/-- A semantics that allows fewer answers does less. -/
theorem Safe.mono_sem {sem' : Semantics Op Ans σ} {post : α → σ → Prop} {p : Prog Op Ans α} {s : σ}
    (himp : ∀ op s answer s', sem' op s answer s' → sem op s answer s')
    (hsafe : Safe sem env post p s) : Safe sem' env post p s := by
  induction p generalizing s with
  | ret value => exact hsafe
  | call op next ih =>
      exact fun s' hsteps answer s'' hcall =>
        ih answer (hsafe s' hsteps answer s'' (himp op s' answer s'' hcall))

/-- Two postconditions may be shown one by one. -/
theorem Safe.both {post post' : α → σ → Prop} {p : Prog Op Ans α} {s : σ}
    (hsafe : Safe sem env post p s) (hsafe' : Safe sem env post' p s) :
    Safe sem env (fun value s => post value s ∧ post' value s) p s := by
  induction p generalizing s with
  | ret value => exact fun s' hsteps => ⟨hsafe s' hsteps, hsafe' s' hsteps⟩
  | call op next ih =>
      exact fun s' hsteps answer s'' hcall =>
        ih answer (hsafe s' hsteps answer s'' hcall) (hsafe' s' hsteps answer s'' hcall)

/-- A sequence is safe if its first part ends where the rest is. -/
theorem Safe.bind {post : β → σ → Prop} {p : Prog Op Ans α} {rest : α → Prog Op Ans β} {s : σ}
    (hsafe : Safe sem env (fun value s => Safe sem env post (rest value) s) p s) :
    Safe sem env post (p >>= rest) s := by
  induction p generalizing s with
  | ret value => exact hsafe s .refl
  | call op next ih =>
      exact fun s' hsteps answer s'' hcall => ih answer (hsafe s' hsteps answer s'' hcall)

/-! ## Triples -/

def Triple (sem : Semantics Op Ans σ) (env : σ → σ → Prop) (P : σ → Prop) (p : Prog Op Ans α)
    (Q : α → σ → Prop) : Prop :=
  ∀ s, P s → Safe sem env Q p s

namespace Triple

variable {P P' : σ → Prop} {Q Q' : α → σ → Prop}

theorem ret {value : α} (hstable : Stable env (Q value)) (himp : ∀ s, P s → Q value s) :
    Triple sem env P (.ret value) Q :=
  fun s hs _ hsteps => hstable.star (himp s hs) hsteps

theorem perform {op : Op} {Q : Ans op → σ → Prop} (hP : Stable env P)
    (hQ : ∀ answer, Stable env (Q answer))
    (hcall : ∀ s answer s', P s → sem op s answer s' → Q answer s') :
    Triple sem env P (Prog.perform op) Q :=
  fun _ hs s' hsteps answer s'' hstep _ hmore =>
    (hQ answer).star (hcall s' answer s'' (hP.star hs hsteps) hstep) hmore

/-- Assertions may be weakened after the program and strengthened before it. -/
theorem conseq {p : Prog Op Ans α} (htriple : Triple sem env P p Q) (hpre : ∀ s, P' s → P s)
    (hpost : ∀ value s, Q value s → Q' value s) : Triple sem env P' p Q' :=
  fun s hs => (htriple s (hpre s hs)).mono fun value s' hQ => hpost value s' (hQ s' .refl)

/-- Operations that keep an assertion keep it across a whole program. -/
theorem uses {p : Prog Op Ans α} {allowed : Op → Prop} (huses : p.Uses allowed)
    (hP : Stable env P)
    (hkeep : ∀ op, allowed op → ∀ s answer s', P s → sem op s answer s' → P s') :
    Triple sem env P p fun _ => P := by
  induction p with
  | ret => exact ret hP fun _ hs => hs
  | call op next ih =>
      intro s hs s' hsteps answer s'' hcall
      have hstate := hkeep op huses.1 s' answer s'' (hP.star hs hsteps) hcall
      exact ih answer (huses.2 answer) s'' hstate

/-- What a triple says about a finished interleaving. -/
theorem reaches {p : Prog Op Ans α} (htriple : Triple sem env P p Q) {s s' : σ} {value : α}
    (hs : P s) (hreach : Reaches sem env (p, s) (.ret value, s')) : Q value s' :=
  (htriple s hs).reaches hreach s' .refl

end Triple

/-! ## Triples of programs that throw -/

/-- A normal end in `Q`, an exception in `E`. -/
def Ends (Q : α → σ → Prop) (E : ε → σ → Prop) : Except ε α → σ → Prop
  | .ok value => Q value
  | .error error => E error

def TripleE (sem : Semantics Op Ans σ) (env : σ → σ → Prop) (P : σ → Prop)
    (p : ExceptT ε (Prog Op Ans) α) (Q : α → σ → Prop) (E : ε → σ → Prop) : Prop :=
  Triple sem env P p.run (Ends Q E)

namespace TripleE

variable {P P' : σ → Prop} {Q Q' : α → σ → Prop} {E E' : ε → σ → Prop}

theorem pure {value : α} (hstable : Stable env (Q value)) (himp : ∀ s, P s → Q value s) :
    TripleE sem env P (Pure.pure value : ExceptT ε (Prog Op Ans) α) Q E :=
  Triple.ret hstable himp

theorem throw {error : ε} (hstable : Stable env (E error)) (himp : ∀ s, P s → E error s) :
    TripleE sem env P (throw error : ExceptT ε (Prog Op Ans) α) Q E :=
  Triple.ret hstable himp

theorem bind {p : ExceptT ε (Prog Op Ans) α} {rest : α → ExceptT ε (Prog Op Ans) β}
    {R : β → σ → Prop} (hfirst : TripleE sem env P p Q E)
    (hrest : ∀ value, TripleE sem env (Q value) (rest value) R E) :
    TripleE sem env P (p >>= rest) R E := by
  intro s hs
  apply Safe.bind
  apply (hfirst s hs).mono
  intro result s' hpost
  cases result with
  | ok value => exact hrest value s' (hpost s' .refl)
  | error error => exact hpost

theorem conseq {p : ExceptT ε (Prog Op Ans) α} (htriple : TripleE sem env P p Q E)
    (hpre : ∀ s, P' s → P s) (hpost : ∀ value s, Q value s → Q' value s)
    (herror : ∀ error s, E error s → E' error s) : TripleE sem env P' p Q' E' :=
  Triple.conseq htriple hpre fun result s hends =>
    match result with
    | .ok value => hpost value s hends
    | .error error => herror error s hends

theorem post {p : ExceptT ε (Prog Op Ans) α} (htriple : TripleE sem env P p Q E)
    (hpost : ∀ value s, Q value s → Q' value s) : TripleE sem env P p Q' E :=
  htriple.conseq (fun _ hs => hs) hpost fun _ _ hs => hs

theorem failure {p : ExceptT ε (Prog Op Ans) α} (htriple : TripleE sem env P p Q E)
    (herror : ∀ error s, E error s → E' error s) : TripleE sem env P p Q E' :=
  htriple.conseq (fun _ hs => hs) (fun _ _ hs => hs) herror

/-- What the precondition says about no state may be assumed. -/
theorem assume {p : ExceptT ε (Prog Op Ans) α} (fact : Prop) (hfact : ∀ s, P s → fact)
    (htriple : fact → TripleE sem env P p Q E) : TripleE sem env P p Q E :=
  fun s hs => htriple (hfact s hs) s hs

/-- Nothing need be said about exceptions that are not thrown. -/
theorem nothrow {p : ExceptT ε (Prog Op Ans) α}
    (htriple : TripleE sem env P p Q fun _ _ => False) : TripleE sem env P p Q E :=
  htriple.failure fun _ _ hfalse => hfalse.elim

/-- A handler starts where its exception leaves the state. -/
theorem tryCatch {p : ExceptT ε (Prog Op Ans) α} {handler : ε → ExceptT ε (Prog Op Ans) α}
    (hbody : TripleE sem env P p Q E)
    (hhandler : ∀ error, TripleE sem env (E error) (handler error) Q E') :
    TripleE sem env P (tryCatch p handler) Q E' := by
  intro s hs
  apply Safe.bind
  apply (hbody s hs).mono
  intro result s' hpost
  cases result with
  | ok value => exact hpost
  | error error => exact hhandler error s' (hpost s' .refl)

/-- A cleanup that runs on both exits. -/
theorem tryFinally {p : ExceptT ε (Prog Op Ans) α} {cleanup : ExceptT ε (Prog Op Ans) Unit}
    (hbody : TripleE sem env P p Q E)
    (hok : ∀ value, TripleE sem env (Q value) cleanup (fun _ => Q' value) E')
    (herror : ∀ error, TripleE sem env (E error) cleanup (fun _ => E' error) E') :
    TripleE sem env P (Prog.tryFinally p cleanup) Q' E' := by
  intro s hs
  apply Safe.bind
  apply (hbody s hs).mono
  intro result s' hpost
  apply Safe.bind
  cases result with
  | ok value =>
      apply (hok value s' (hpost s' .refl)).mono
      intro ended s'' hended
      cases ended with
      | ok => exact hended
      | error => exact hended
  | error error =>
      apply (herror error s' (hpost s' .refl)).mono
      intro ended s'' hended
      cases ended with
      | ok => exact hended
      | error => exact hended

theorem mono_env {env' : σ → σ → Prop} {p : ExceptT ε (Prog Op Ans) α}
    (himp : ∀ s s', env' s s' → env s s') (htriple : TripleE sem env P p Q E) :
    TripleE sem env' P p Q E :=
  fun s hs => (htriple s hs).mono_env himp

theorem mono_sem {sem' : Semantics Op Ans σ} {p : ExceptT ε (Prog Op Ans) α}
    (himp : ∀ op s answer s', sem' op s answer s' → sem op s answer s')
    (htriple : TripleE sem env P p Q E) : TripleE sem' env P p Q E :=
  fun s hs => (htriple s hs).mono_sem himp

/-- What two proofs about one program say together. -/
theorem both {p : ExceptT ε (Prog Op Ans) α} (hfirst : TripleE sem env P p Q E)
    (hsecond : TripleE sem env P' p Q' E') :
    TripleE sem env (fun s => P s ∧ P' s) p (fun value s => Q value s ∧ Q' value s)
      fun error s => E error s ∧ E' error s := by
  intro s hs
  apply ((hfirst s hs.1).both (hsecond s hs.2)).mono
  intro result s' hpost
  cases result with
  | ok value => exact hpost s' .refl
  | error error => exact hpost s' .refl

/-- Operations that keep an assertion keep it on both exits. -/
theorem uses {p : ExceptT ε (Prog Op Ans) α} {allowed : Op → Prop} (huses : p.run.Uses allowed)
    (hP : Stable env P)
    (hkeep : ∀ op, allowed op → ∀ s answer s', P s → sem op s answer s' → P s') :
    TripleE sem env P p (fun _ => P) fun _ => P :=
  (Triple.uses huses hP hkeep).conseq (fun _ hs => hs) fun result _ hs =>
    match result with
    | .ok _ => hs
    | .error _ => hs

/-- What every operation keeps holds on both exits. -/
theorem keeps {p : ExceptT ε (Prog Op Ans) α} (hP : Stable env P)
    (hkeep : ∀ op s answer s', P s → sem op s answer s' → P s') :
    TripleE sem env P p (fun _ => P) fun _ => P :=
  uses (Uses.any p.run) hP fun op _ => hkeep op

/-- One operation, which may throw. -/
theorem io {Val : Op → Type} {sem : Semantics Op (fun op => Except ε (Val op)) σ} {op : Op}
    {Q : Val op → σ → Prop} (hP : Stable env P) (hQ : ∀ value, Stable env (Q value))
    (hE : ∀ error, Stable env (E error))
    (hok : ∀ s value s', P s → sem op s (.ok value) s' → Q value s')
    (herror : ∀ s error s', P s → sem op s (.error error) s' → E error s') :
    TripleE sem env P (Prog.io op) Q E := by
  have hstable : ∀ answer : Except ε (Val op), Stable env (Ends Q E answer) := by
    rintro (error | value)
    · exact hE error
    · exact hQ value
  have hcall : ∀ s (answer : Except ε (Val op)) s', P s → sem op s answer s' →
      Ends Q E answer s' := by
    rintro s (error | value) s' hs hstep
    · exact herror s error s' hs hstep
    · exact hok s value s' hs hstep
  exact Triple.perform hP hstable hcall

end TripleE

end Prog
