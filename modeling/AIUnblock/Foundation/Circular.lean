import Mathlib.Algebra.GroupWithZero.Nat
import Mathlib.Data.List.Basic

/-! # Memory that is used in a circle

A stretch of a circle is at most two segments of the memory. What is stored segment by
segment is read back around the circle, and no other stretch is touched.
-/

namespace Circular

variable {α : Type}

/-- `count` places from `start` on, in a circle of `size`. -/
def places (size start count : Nat) : List Nat := (List.range count).map fun i => (start + i) % size

/-- What lies there. -/
def window (memory : Nat → α) (size start count : Nat) : List α :=
  (places size start count).map memory

/-- The segments of a stretch, each with its offset and length. -/
def pieces (size start count : Nat) : List (Nat × Nat) :=
  if count = 0 then []
  else if count ≤ size - start then [(start, count)]
  else [(start, size - start), (0, count - (size - start))]

/-- The places of some segments. -/
def spots (segments : List (Nat × Nat)) : List Nat :=
  segments.flatMap fun (offset, count) => List.range' offset count

/-- What lies in some segments. -/
def gather (memory : Nat → α) (segments : List (Nat × Nat)) : List α := (spots segments).map memory

/-- The memory once `values` are stored from `offset` on. -/
def store (memory : Nat → α) (offset : Nat) (values : List α) : Nat → α := fun i =>
  if offset ≤ i then (values[i - offset]?).getD (memory i) else memory i

/-- The memory once `values` are spread over some segments, as far as they go. -/
def scatter (memory : Nat → α) : List (Nat × Nat) → List α → Nat → α
  | [], _ => memory
  | (offset, count) :: segments, values =>
    scatter (store memory offset (values.take count)) segments (values.drop count)

variable {memory : Nat → α} {size start count : Nat} {values : List α}

@[simp] theorem length_places : (places size start count).length = count := by
  rw [places, List.length_map, List.length_range]

@[simp] theorem length_window : (window memory size start count).length = count := by
  rw [window, List.length_map, length_places]

/-- A stretch in two parts. -/
theorem places_add (first second : Nat) :
    places size start (first + second) =
      places size start first ++ places size ((start + first) % size) second := by
  simp only [places, List.range_add, List.map_append, List.map_map]
  congr 1
  apply List.map_congr_left
  intro i _
  simp [Nat.add_assoc]

theorem window_add (first second : Nat) :
    window memory size start (first + second) =
      window memory size start first ++ window memory size ((start + first) % size) second := by
  rw [window, places_add, List.map_append]
  rfl

theorem window_congr {other : Nat → α}
    (hsame : ∀ i < count, memory ((start + i) % size) = other ((start + i) % size)) :
    window memory size start count = window other size start count := by
  apply List.map_congr_left
  intro place hplace
  obtain ⟨i, hi, rfl⟩ := List.mem_map.mp hplace
  exact hsame i (List.mem_range.mp hi)

/-- The part of a stretch that does not come around. -/
theorem places_eq_range' (hfits : start + count ≤ size) :
    places size start count = List.range' start count := by
  rw [List.range'_eq_map_range]
  apply List.map_congr_left
  intro i hi
  rw [List.mem_range] at hi
  exact Nat.mod_eq_of_lt (by omega)

theorem spots_pieces (hstart : start < size) (hcount : count ≤ size) :
    spots (pieces size start count) = places size start count := by
  unfold pieces
  by_cases hzero : count = 0
  · rw [if_pos hzero, hzero]
    rfl
  rw [if_neg hzero]
  by_cases hfits : count ≤ size - start
  · rw [if_pos hfits, places_eq_range' (by omega)]
    simp [spots]
  · rw [if_neg hfits]
    have hsplit : count = (size - start) + (count - (size - start)) := by omega
    have haround : (start + (size - start)) % size = 0 := by
      rw [Nat.add_sub_cancel' (Nat.le_of_lt hstart), Nat.mod_self]
    conv_rhs => rw [hsplit, places_add, haround, places_eq_range' (by omega),
      places_eq_range' (by omega)]
    simp [spots]

theorem gather_pieces (hstart : start < size) (hcount : count ≤ size) :
    gather memory (pieces size start count) = window memory size start count := by
  rw [gather, spots_pieces hstart hcount, window]

/-- Each piece lies in the memory. -/
theorem pieces_fit (hstart : start < size) (hcount : count ≤ size) :
    ∀ piece ∈ pieces size start count, 0 < piece.2 ∧ piece.1 + piece.2 ≤ size := by
  unfold pieces
  split
  next => simp
  next =>
    split
    next =>
      simp only [List.mem_singleton]
      rintro _ rfl
      dsimp only
      omega
    next =>
      simp only [List.mem_cons, List.not_mem_nil, or_false]
      rintro _ (rfl | rfl)
      · dsimp only
        omega
      · dsimp only
        omega

theorem sum_pieces : ((pieces size start count).map Prod.snd).sum = count := by
  unfold pieces
  split
  next hzero => exact hzero.symm
  next =>
    split
    next => simp
    next =>
      simp only [List.map_cons, List.map_nil, List.sum_cons, List.sum_nil]
      omega

/-- The place of `i` in a stretch from `start` on. -/
def place (size start i : Nat) : Nat := if start ≤ i then i - start else i + size - start

theorem place_add (hstart : start < size) {i : Nat} (hi : i < size) :
    place size start ((start + i) % size) = i := by
  unfold place
  by_cases haround : start + i < size
  · rw [Nat.mod_eq_of_lt haround, if_pos (by omega)]
    omega
  · rw [Nat.mod_eq_sub_mod (by omega), Nat.mod_eq_of_lt (by omega), if_neg (by omega)]
    omega

theorem store_apply (offset : Nat) (i : Nat) :
    store memory offset values i =
      if offset ≤ i then (values[i - offset]?).getD (memory i) else memory i := rfl

/-- What lies where after values were stored around the circle. -/
theorem scatter_pieces (hstart : start < size) (hcount : count ≤ size)
    (hvalues : values.length ≤ count) {i : Nat} (hi : i < size) :
    scatter memory (pieces size start count) values i =
      (values[place size start i]?).getD (memory i) := by
  unfold pieces place
  by_cases hzero : count = 0
  · obtain rfl : values = [] := List.length_eq_zero_iff.mp (by omega)
    rw [if_pos hzero]
    simp [scatter]
  rw [if_neg hzero]
  by_cases hfits : count ≤ size - start
  · rw [if_pos hfits, scatter, scatter, List.take_of_length_le hvalues, store_apply]
    split
    next => rfl
    next =>
      rw [List.getElem?_eq_none (by omega)]
      rfl
  · have hlater : (values.drop (size - start)).take (count - (size - start)) =
        values.drop (size - start) := by
      apply List.take_of_length_le
      rw [List.length_drop]
      omega
    rw [if_neg hfits, scatter, scatter, scatter, hlater, store_apply, if_pos (Nat.zero_le i),
      List.getElem?_drop, Nat.sub_zero, store_apply]
    by_cases hbefore : start ≤ i
    · rw [if_pos hbefore, if_pos hbefore, List.getElem?_eq_none (by omega),
        List.getElem?_take_of_lt (by omega)]
      rfl
    · rw [if_neg hbefore, if_neg hbefore, show size - start + i = i + size - start by omega]

/-- The values are where they were stored. -/
theorem window_scatter_self (hstart : start < size) (hcount : count ≤ size)
    (hvalues : values.length ≤ count) :
    window (scatter memory (pieces size start count) values) size start values.length = values := by
  apply List.ext_getElem
  · rw [length_window]
  intro i hi _
  rw [length_window] at hi
  have hplace : (start + i) % size < size := Nat.mod_lt _ (by omega)
  simp only [window, places, List.getElem_map, List.getElem_range]
  rw [scatter_pieces hstart hcount hvalues hplace, place_add hstart (by omega),
    List.getElem?_eq_getElem hi]
  rfl

/-- A stretch that ends where the values start keeps what it has. -/
theorem window_scatter_before {before : Nat} (hstart : start < size)
    (hvalues : values.length ≤ count) (hroom : before + count ≤ size) {first : Nat}
    (hend : (first + before) % size = start) :
    window (scatter memory (pieces size start count) values) size first before =
      window memory size first before := by
  apply window_congr
  intro i hi
  have hplace : (first + i) % size < size := Nat.mod_lt _ (by omega)
  -- seen from the values, the place is behind all of them
  have hbehind : (first + i) % size = (start + (size - before + i)) % size := by
    subst hend
    rw [Nat.mod_add_mod, show first + before + (size - before + i) = first + i + size by omega,
      Nat.add_mod_right]
  rw [scatter_pieces hstart (by omega) hvalues hplace, hbehind, place_add hstart (by omega),
    List.getElem?_eq_none (by omega)]
  rfl

end Circular
