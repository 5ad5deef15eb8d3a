import Mathlib.Logic.Function.Basic
import AIUnblock.Kotlin.Arrays

/-! # Maps

A Kotlin map gives a value to some of the keys. The code never depends on the
order of the entries.
-/

namespace AIUnblock

/-- The value of each key, if the key is present. -/
abbrev KMap (K V : Type) : Type := K → Option V

namespace KMap

variable {K V : Type} [DecidableEq K]

def empty : KMap K V := fun _ => none

/-- `map[key] = value`. -/
def put (map : KMap K V) (key : K) (value : V) : KMap K V :=
  Function.update map key (some value)

/-- `map.getValue(key)`. -/
def getValue (map : KMap K V) (key : K) : Except Exception V :=
  match map key with
  | some value => .ok value
  | none => .error { kind := .noSuchElement }

/-- `pairs.toMap()`: of two pairs with one key the last counts. -/
def ofPairs (pairs : List (K × V)) : KMap K V :=
  pairs.foldl (fun map pair => map.put pair.1 pair.2) empty

@[simp] theorem put_same (map : KMap K V) (key : K) (value : V) :
    map.put key value key = some value := Function.update_self ..

theorem put_other {map : KMap K V} {key other : K} {value : V} (hne : other ≠ key) :
    map.put key value other = map other := Function.update_of_ne hne ..

/-- Putting pairs leaves the other keys alone. -/
theorem foldl_put_other {pairs : List (K × V)} {map : KMap K V} {key : K}
    (hfree : key ∉ pairs.map Prod.fst) :
    pairs.foldl (fun map pair => map.put pair.1 pair.2) map key = map key := by
  induction pairs generalizing map with
  | nil => rfl
  | cons pair pairs ih =>
      rw [List.map_cons, List.mem_cons, not_or] at hfree
      rw [List.foldl_cons, ih hfree.2, put_other hfree.1]

/-- Of pairs with different keys every one counts. -/
theorem foldl_put_mem {pairs : List (K × V)} {map : KMap K V} {key : K} {value : V}
    (hnodup : (pairs.map Prod.fst).Nodup) (hmem : (key, value) ∈ pairs) :
    pairs.foldl (fun map pair => map.put pair.1 pair.2) map key = some value := by
  induction pairs generalizing map with
  | nil => contradiction
  | cons pair pairs ih =>
      rw [List.map_cons, List.nodup_cons] at hnodup
      rw [List.foldl_cons]
      rcases List.mem_cons.mp hmem with rfl | hrest
      · rw [foldl_put_other hnodup.1, put_same]
      · exact ih hnodup.2 hrest

/-- `items.associate { key(it) to value(it) }` with different keys. -/
theorem ofPairs_map_mem {A : Type} {items : List A} {key : A → K} (value : A → V)
    (hnodup : (items.map key).Nodup) {item : A} (hitem : item ∈ items) :
    ofPairs (items.map fun item => (key item, value item)) (key item) = some (value item) := by
  apply foldl_put_mem
  · rw [List.map_map]
    exact hnodup
  · exact List.mem_map.mpr ⟨item, hitem, rfl⟩

omit [DecidableEq K] in
theorem getValue_eq_ok {map : KMap K V} {key : K} {value : V} (hvalue : map key = some value) :
    map.getValue key = .ok value := by
  rw [getValue, hvalue]

end KMap

end AIUnblock
