import Mathlib.Data.List.Infix

/-! # Tails after a separator

A hierarchical name is matched against a table by walking from the whole name to
what follows its first separator, and so on. The candidates of that walk are the
name and every suffix that begins right after a separator, longest first.
-/

namespace Separators

variable {α β : Type*} [DecidableEq α]

/-- What follows each `sep`, longest first. -/
def tailsAfter (sep : α) : List α → List (List α)
  | [] => []
  | x :: xs => if x = sep then xs :: tailsAfter sep xs else tailsAfter sep xs

/-- The candidates of the walk. -/
def candidates (sep : α) (name : List α) : List (List α) := name :: tailsAfter sep name

variable {sep : α} {name tail base : List α}

theorem mem_tailsAfter : tail ∈ tailsAfter sep name ↔ sep :: tail <:+ name := by
  induction name with
  | nil => simp [tailsAfter]
  | cons x xs ih =>
      rw [tailsAfter, List.suffix_cons_iff, ← ih]
      split
      next heq => simp [heq]
      next hne => simp [Ne.symm hne]

theorem mem_candidates : tail ∈ candidates sep name ↔ tail = name ∨ sep :: tail <:+ name := by
  rw [candidates, List.mem_cons, mem_tailsAfter]

/-- One step of the walk: cut at the first separator. -/
theorem tailsAfter_append (hfree : sep ∉ base) :
    tailsAfter sep (base ++ sep :: tail) = candidates sep tail := by
  induction base with
  | nil => simp [tailsAfter, candidates]
  | cons x xs ih =>
      rw [List.mem_cons, not_or] at hfree
      rw [List.cons_append, tailsAfter, if_neg (Ne.symm hfree.1), ih hfree.2]

theorem tailsAfter_eq_nil (hfree : sep ∉ name) : tailsAfter sep name = [] := by
  rw [List.eq_nil_iff_forall_not_mem]
  intro tail hmem
  exact hfree ((mem_tailsAfter.mp hmem).subset List.mem_cons_self)

theorem suffix_of_mem_candidates (hmem : tail ∈ candidates sep name) : tail <:+ name := by
  rcases mem_candidates.mp hmem with rfl | hsuffix
  · exact List.suffix_refl _
  · exact (List.suffix_cons _ _).trans hsuffix

theorem pairwise_candidates (sep : α) (name : List α) :
    (candidates sep name).Pairwise fun longer shorter => shorter.length < longer.length := by
  have hshorter : ∀ name : List α, ∀ tail ∈ tailsAfter sep name, tail.length < name.length := by
    intro name tail hmem
    have hlength := (mem_tailsAfter.mp hmem).length_le
    rw [List.length_cons] at hlength
    omega
  rw [candidates, List.pairwise_cons]
  refine ⟨hshorter name, ?_⟩
  induction name with
  | nil => exact .nil
  | cons x xs ih =>
      rw [tailsAfter]
      split
      next => exact .cons (hshorter xs) ih
      next => exact ih

/-- The walk stops at the longest candidate of those it looks for. -/
theorem length_le_of_find? {p : List α → Bool} (hfound : (candidates sep name).find? p = some tail)
    {other : List α} (hmem : other ∈ candidates sep name) (hother : p other = true) :
    other.length ≤ tail.length := by
  obtain ⟨_, before, after, hsplit, hbefore⟩ := List.find?_eq_some_iff_append.mp hfound
  have hsorted := pairwise_candidates sep name
  rw [hsplit, List.pairwise_append, List.pairwise_cons] at hsorted
  rw [hsplit, List.mem_append, List.mem_cons] at hmem
  rcases hmem with hmem | rfl | hmem
  · have hfalse := hbefore other hmem
    simp [hother] at hfalse
  · exact Nat.le_refl _
  · exact Nat.le_of_lt (hsorted.2.1.1 other hmem)

/-- There is one candidate of each length at most. -/
theorem eq_of_length_le {other : List α} (htail : tail ∈ candidates sep name)
    (hother : other ∈ candidates sep name) (hle : tail.length ≤ other.length)
    (hge : other.length ≤ tail.length) : tail = other := by
  have hsuffix := List.suffix_of_suffix_length_le (suffix_of_mem_candidates htail)
    (suffix_of_mem_candidates hother) hle
  exact hsuffix.eq_of_length (Nat.le_antisymm hle hge)

/-- A candidate of a name below `base` is longer than `base`, is `base`, or is a
candidate of `base`. -/
theorem candidate_cases (hbelow : sep :: base <:+ name) (htail : tail ∈ candidates sep name) :
    sep :: base <:+ tail ∨ tail ∈ candidates sep base := by
  rw [mem_candidates] at htail ⊢
  rcases htail with rfl | htail
  · exact Or.inl hbelow
  · rcases List.suffix_or_suffix_of_suffix htail hbelow with hsuffix | hsuffix
    · rcases List.suffix_cons_iff.mp hsuffix with heq | hsuffix
      · exact Or.inr (Or.inl (List.cons.inj heq).2)
      · exact Or.inr (Or.inr hsuffix)
    · rcases List.suffix_cons_iff.mp hsuffix with heq | hsuffix
      · exact Or.inr (Or.inl (List.cons.inj heq).2.symm)
      · exact Or.inl hsuffix

/-! ## Cutting at every separator -/

theorem not_mem_of_mem_splitOn {part : List α} (hmem : part ∈ name.splitOn sep) : sep ∉ part := by
  induction name generalizing part with
  | nil =>
      rw [List.splitOn_nil, List.mem_singleton] at hmem
      rw [hmem]
      exact List.not_mem_nil
  | cons x xs ih =>
      rw [List.splitOn_cons_eq_if_modifyHead] at hmem
      split at hmem
      next =>
        rcases List.mem_cons.mp hmem with rfl | hmem
        · exact List.not_mem_nil
        · exact ih hmem
      next hne =>
        cases hparts : xs.splitOn sep with
        | nil => exact absurd hparts (List.splitOn_ne_nil sep xs)
        | cons first rest =>
            rw [hparts, List.modifyHead_cons] at hmem
            rcases List.mem_cons.mp hmem with rfl | hmem
            · have hfirst := ih (hparts ▸ List.mem_cons_self)
              rw [List.mem_cons, not_or]
              exact ⟨fun heq => hne (beq_iff_eq.mpr heq.symm), hfirst⟩
            · exact ih (hparts ▸ List.mem_cons_of_mem _ hmem)

omit [DecidableEq α] in
theorem mem_intercalate {x : α} {parts : List (List α)} (hmem : x ∈ [sep].intercalate parts) :
    x = sep ∨ ∃ part ∈ parts, x ∈ part := by
  induction parts with
  | nil => contradiction
  | cons part parts ih =>
      cases parts with
      | nil =>
          rw [List.intercalate_singleton] at hmem
          exact Or.inr ⟨part, List.mem_cons_self, hmem⟩
      | cons next rest =>
          rw [List.intercalate_cons_cons, List.mem_append, List.mem_append] at hmem
          rcases hmem with (hmem | hmem) | hmem
          · exact Or.inr ⟨part, List.mem_cons_self, hmem⟩
          · exact Or.inl (List.mem_singleton.mp hmem)
          · rcases ih hmem with heq | ⟨other, hother, hx⟩
            · exact Or.inl heq
            · exact Or.inr ⟨other, List.mem_cons_of_mem _ hother, hx⟩

omit [DecidableEq α] in
theorem map_intercalate (f : α → β) (sep : α) (parts : List (List α)) :
    ([sep].intercalate parts).map f = [f sep].intercalate (parts.map (List.map f)) := by
  induction parts with
  | nil => rfl
  | cons part parts ih =>
      cases parts with
      | nil => simp
      | cons next rest =>
          simp only [List.map_cons, List.intercalate_cons_cons, List.map_append, List.map_nil]
            at ih ⊢
          rw [ih]

/-- Letters may be replaced before the cut or after it. -/
theorem splitOn_map {f : α → α} (hsep : ∀ x, f x = sep ↔ x = sep) (name : List α) :
    (name.map f).splitOn sep = (name.splitOn sep).map (List.map f) := by
  have hparts : ∀ part ∈ (name.splitOn sep).map (List.map f), sep ∉ part := by
    intro part hpart hmem
    obtain ⟨original, horiginal, rfl⟩ := List.mem_map.mp hpart
    obtain ⟨x, hx, heq⟩ := List.mem_map.mp hmem
    rw [(hsep x).mp heq] at hx
    exact not_mem_of_mem_splitOn horiginal hx
  have hne : (name.splitOn sep).map (List.map f) ≠ [] := by
    rw [ne_eq, List.map_eq_nil_iff]
    exact List.splitOn_ne_nil sep name
  have hjoin := map_intercalate f sep (name.splitOn sep)
  rw [List.intercalate_splitOn, (hsep sep).mpr rfl] at hjoin
  rw [hjoin, List.splitOn_intercalate sep hparts hne]

end Separators
