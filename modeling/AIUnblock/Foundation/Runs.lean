import Mathlib.Data.List.Induction

/-! # Runs of a machine

A machine refuses an event or takes it. A run is a fold over its events, so what
each step keeps, each run keeps.
-/

namespace Runs

variable {σ ε ω : Type} {step : σ → ε → Option σ} {start s : σ} {events : List ε}

theorem run_append_singleton {event : ε} :
    (events ++ [event]).foldlM step start =
      (events.foldlM step start).bind fun s => step s event := by
  rw [List.foldlM_append]
  congr
  funext s
  exact bind_pure (step s event)

/-- What holds at the start and is kept by every step that is taken. -/
theorem invariant {Inv : σ → Prop} (hstart : Inv start)
    (hstep : ∀ s event s', Inv s → step s event = some s' → Inv s')
    (hrun : events.foldlM step start = some s) : Inv s := by
  induction events generalizing start with
  | nil =>
      cases hrun
      exact hstart
  | cons event events ih =>
      obtain ⟨next, hnext, hrest⟩ := Option.bind_eq_some_iff.mp hrun
      exact ih (hstep start event next hstart hnext) hrest

/-- What holds of the events so far and the state they lead to. -/
theorem history {Inv : List ε → σ → Prop} (hstart : Inv [] start)
    (hstep : ∀ past s event s', Inv past s → step s event = some s' → Inv (past ++ [event]) s')
    (hrun : events.foldlM step start = some s) : Inv events s := by
  induction events using List.reverseRecOn generalizing s with
  | nil =>
      cases hrun
      exact hstart
  | append_singleton past event ih =>
      rw [run_append_singleton] at hrun
      obtain ⟨before, hbefore, hlast⟩ := Option.bind_eq_some_iff.mp hrun
      exact hstep past before event s (ih hbefore) hlast

/-- A run of the events is done after at most so many of them. -/
def DoneWithin (step : σ → ε → Option σ) (Done : σ → Prop) (bound : Nat) (start : σ)
    (events : List ε) : Prop :=
  ∃ past rest s, events = past ++ rest ∧ past.length ≤ bound ∧
    past.foldlM step start = some s ∧ Done s

/-- A measure that every step lowers until the machine is done bounds how long it goes on. -/
theorem measured {Going Done : σ → Prop} {rank : σ → Nat}
    (hstep : ∀ s event s', Going s → step s event = some s' →
      Done s' ∨ Going s' ∧ rank s' < rank s)
    (hgoing : Going start) (hrun : events.foldlM step start = some s) :
    DoneWithin step Done (rank start + 1) start events ∨
      Going s ∧ events.length + rank s ≤ rank start := by
  induction events generalizing start with
  | nil =>
      cases hrun
      exact .inr ⟨hgoing, Nat.le_of_eq (Nat.zero_add _)⟩
  | cons event events ih =>
      obtain ⟨next, hnext, hrest⟩ := Option.bind_eq_some_iff.mp hrun
      rcases hstep start event next hgoing hnext with hdone | ⟨hgoes, hless⟩
      · refine .inl ⟨[event], events, next, rfl, ?_, ?_, hdone⟩
        · rw [List.length_singleton]
          omega
        · exact Option.bind_eq_some_iff.mpr ⟨next, hnext, rfl⟩
      rcases ih hgoes hrest with ⟨past, rest, last, rfl, hbound, hlast, hdone⟩ | ⟨hlater, hlength⟩
      · refine .inl ⟨event :: past, rest, last, rfl, ?_, ?_, hdone⟩
        · rw [List.length_cons]
          omega
        · exact Option.bind_eq_some_iff.mpr ⟨next, hnext, hlast⟩
      · refine .inr ⟨hlater, ?_⟩
        rw [List.length_cons]
        omega

/-- What the steps of a run give out. -/
def outputs (step : σ → ε → Option σ) (out : σ → ε → List ω) : σ → List ε → List ω
  | _, [] => []
  | s, event :: events =>
    match step s event with
    | some next => out s event ++ outputs step out next events
    | none => []

theorem outputs_map {ω' : Type} (out : σ → ε → List ω) (f : ω → ω') (start : σ)
    (events : List ε) :
    outputs step (fun s event => (out s event).map f) start events =
      (outputs step out start events).map f := by
  induction events generalizing start with
  | nil => rfl
  | cons event events ih =>
      rw [outputs, outputs]
      cases step start event with
      | none => rfl
      | some next =>
          dsimp only
          rw [ih, List.map_append]

/-- An account that every step extends by what it gives out. -/
theorem account {Inv : σ → Prop} {out : σ → ε → List ω} {total : σ → List ω} (hstart : Inv start)
    (hstep : ∀ s event s', Inv s → step s event = some s' →
      Inv s' ∧ total s' = total s ++ out s event)
    (hrun : events.foldlM step start = some s) :
    Inv s ∧ total s = total start ++ outputs step out start events := by
  induction events generalizing start with
  | nil =>
      cases hrun
      exact ⟨hstart, (List.append_nil _).symm⟩
  | cons event events ih =>
      obtain ⟨next, hnext, hrest⟩ := Option.bind_eq_some_iff.mp hrun
      obtain ⟨hinv, htotal⟩ := hstep start event next hstart hnext
      obtain ⟨hs, hrun⟩ := ih hinv hrest
      refine ⟨hs, ?_⟩
      rw [hrun, htotal, outputs, hnext, List.append_assoc]

end Runs
