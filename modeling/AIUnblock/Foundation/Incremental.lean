import Mathlib.Data.List.Basic
import Mathlib.Data.List.Infix

/-! # Incremental answers and buffered reading

A reader that may ask for more input is stable when, once it has answered, no
continuation changes the answer. A loop that grows a buffer chunk by chunk until
the reader answers, the source ends or the buffer is full then gives the answer
of the whole source, cut at the capacity: the chunks do not matter.
-/

namespace Incremental

variable {α ρ : Type*}

/-- Continuations change an answer only while it is pending. -/
def Stable (answer : List α → ρ) (pending : ρ → Prop) : Prop :=
  ∀ xs more, ¬ pending (answer xs) → answer (xs ++ more) = answer xs

theorem Stable.eq_of_prefix {answer : List α → ρ} {pending : ρ → Prop}
    (hstable : Stable answer pending) {xs ys : List α} (hinitial : xs <+: ys)
    (hdone : ¬ pending (answer xs)) : answer ys = answer xs := by
  obtain ⟨more, rfl⟩ := hinitial
  exact hstable xs more hdone

/-- The runs of a buffered reading loop. `Collects answer pending capacity buffer
source result rest` says that the loop, holding `buffer` while `source` is still
to come, may stop with `result` in its buffer and leave `rest` unread. Chunks are
nonempty and never larger than the room left. -/
inductive Collects (answer : List α → ρ) (pending : ρ → Prop) (capacity : Nat) :
    List α → List α → List α → List α → Prop
  | full {buffer source} (hfull : buffer.length = capacity) :
      Collects answer pending capacity buffer source buffer source
  | exhausted {buffer} : Collects answer pending capacity buffer [] buffer []
  | answered {buffer chunk rest} (hchunk : chunk ≠ [])
      (hroom : buffer.length + chunk.length ≤ capacity)
      (hdone : ¬ pending (answer (buffer ++ chunk))) :
      Collects answer pending capacity buffer (chunk ++ rest) (buffer ++ chunk) rest
  | more {buffer chunk source result rest} (hchunk : chunk ≠ [])
      (hroom : buffer.length + chunk.length ≤ capacity)
      (hpending : pending (answer (buffer ++ chunk)))
      (htail : Collects answer pending capacity (buffer ++ chunk) source result rest) :
      Collects answer pending capacity buffer (chunk ++ source) result rest

namespace Collects

variable {answer : List α → ρ} {pending : ρ → Prop} {capacity : Nat}
  {buffer source result rest : List α}

/-- Nothing is lost or reordered: what was collected and what is left make up
the input. -/
theorem result_append_rest (h : Collects answer pending capacity buffer source result rest) :
    result ++ rest = buffer ++ source := by
  induction h with
  | full => rfl
  | exhausted => rfl
  | answered => exact List.append_assoc _ _ _
  | more _ _ _ _ ih => rw [ih, List.append_assoc]

/-- The buffer only grows. -/
theorem buffer_prefix (h : Collects answer pending capacity buffer source result rest) :
    buffer <+: result := by
  induction h with
  | full => exact List.prefix_refl _
  | exhausted => exact List.prefix_refl _
  | answered => exact List.prefix_append _ _
  | more _ _ _ _ ih => exact (List.prefix_append _ _).trans ih

theorem length_le (h : Collects answer pending capacity buffer source result rest)
    (hbuffer : buffer.length ≤ capacity) : result.length ≤ capacity := by
  induction h with
  | full => exact hbuffer
  | exhausted => exact hbuffer
  | answered _ hroom => simpa using hroom
  | more _ hroom _ _ ih => exact ih (by simpa using hroom)

/-- The loop stops for one of three reasons. -/
theorem stopped (h : Collects answer pending capacity buffer source result rest) :
    result.length = capacity ∨ rest = [] ∨ ¬ pending (answer result) := by
  induction h with
  | full hfull => exact .inl hfull
  | exhausted => exact .inr (.inl rfl)
  | answered _ _ hdone => exact .inr (.inr hdone)
  | more _ _ _ _ ih => exact ih

/-- The collected bytes answer as the whole input does, up to the capacity. -/
theorem answer_eq (hstable : Stable answer pending)
    (h : Collects answer pending capacity buffer source result rest)
    (hbuffer : buffer.length ≤ capacity) :
    answer result = answer ((buffer ++ source).take capacity) := by
  have hsplit := h.result_append_rest
  have hlength := h.length_le hbuffer
  have hinitial : result <+: (buffer ++ source).take capacity := by
    rw [← hsplit, List.take_append, List.take_of_length_le hlength]
    exact List.prefix_append _ _
  rcases h.stopped with hfull | hrest | hdone
  · rw [← hsplit, ← hfull, List.take_left]
  · subst hrest
    rw [List.append_nil] at hsplit
    rw [← hsplit, List.take_of_length_le hlength]
  · exact (hstable.eq_of_prefix hinitial hdone).symm

end Collects

end Incremental
