import Mathlib.Data.List.Basic
import AIUnblock.Foundation.LengthPrefixed

/-! # Exceptions and byte arrays

Kotlin byte arrays are lists of bytes whose accesses can fail. Offsets are
natural numbers: the arrays of this program hold at most a few hundred
kilobytes, so no `Int` offset reaches its sign bit.
-/

namespace AIUnblock

/-- The exception classes that the code raises or tells apart. -/
inductive ExceptionKind
  | indexOutOfBounds
  | illegalArgument
  | illegalState
  | noSuchElement
  | nameNotFound
  | unknownHost
  | eof
  | socketTimeout
  | socket
  | io
  | rejectedExecution
  | interrupted
  | execution
  | other
  deriving DecidableEq, Repr

/-- A thrown exception with the `message` it carries. -/
structure Exception where
  kind : ExceptionKind
  message : Option String := none
  deriving DecidableEq, Repr

@[simp] theorem ok_bind {ε α β : Type} (value : α) (next : α → Except ε β) :
    (Except.ok value >>= next) = next value := rfl

@[simp] theorem pure_eq_ok {ε α : Type} (value : α) :
    (pure value : Except ε α) = .ok value := rfl

@[simp] theorem liftM_except {ε α : Type} (p : Except ε α) : (liftM p : Except ε α) = p := rfl

theorem map_eq_ok_iff {ε α β : Type} {p : Except ε α} {f : α → β} {value : β} :
    p.map f = .ok value ↔ ∃ first, p = .ok first ∧ f first = value := by
  cases p with
  | ok first => simp [Except.map]
  | error error => simp [Except.map]

/-- A sequence returns if both parts do. -/
theorem exists_ok_bind {ε α β : Type} {p : Except ε α} {next : α → Except ε β}
    (hfirst : ∃ value, p = .ok value)
    (hnext : ∀ value, p = .ok value → ∃ result, next value = .ok result) :
    ∃ result, (p >>= next) = .ok result := by
  obtain ⟨value, rfl⟩ := hfirst
  exact hnext value rfl

theorem exists_ok_ite {ε α : Type} {condition : Prop} [Decidable condition] {p q : Except ε α}
    (hthen : condition → ∃ value, p = .ok value) (helse : ¬ condition → ∃ value, q = .ok value) :
    ∃ value, (if condition then p else q) = .ok value := by
  split
  next htrue => exact hthen htrue
  next hfalse => exact helse hfalse

/-- A loop whose steps do not throw. -/
theorem mapM_eq_ok {ε α β : Type} {f : α → Except ε β} {g : α → β} {xs : List α}
    (hsteps : ∀ x ∈ xs, f x = .ok (g x)) : xs.mapM f = .ok (xs.map g) := by
  induction xs with
  | nil => rfl
  | cons x xs ih =>
      rw [List.forall_mem_cons] at hsteps
      rw [List.mapM_cons, hsteps.1, ok_bind, ih hsteps.2, ok_bind, pure_eq_ok, List.map_cons]

/-- A filter whose tests all return is a filter. -/
theorem filterM_eq_ok {ε α : Type} {p : α → Except ε Bool} {q : α → Bool} {xs : List α}
    (hsteps : ∀ x, p x = .ok (q x)) : xs.filterM p = .ok (xs.filter q) := by
  have haux : ∀ acc, xs.filterAuxM p acc = .ok ((xs.filter q).reverse ++ acc) := by
    induction xs with
    | nil => exact fun acc => rfl
    | cons x xs ih =>
        intro acc
        rw [List.filterAuxM, hsteps, ok_bind, ih, List.filter_cons]
        cases q x with
        | true => simp
        | false => rfl
  rw [List.filterM, haux, ok_bind, List.append_nil, List.reverse_reverse, pure_eq_ok]

/-- A loop that ends has thrown in no step. -/
theorem forall_of_mapM_eq_ok {ε α β : Type} {f : α → Except ε β} {xs : List α} {ys : List β}
    (hends : xs.mapM f = .ok ys) : ∀ x ∈ xs, ∃ y, f x = .ok y := by
  induction xs generalizing ys with
  | nil => exact List.forall_mem_nil _
  | cons x xs ih =>
      rw [List.mapM_cons] at hends
      cases hhead : f x with
      | error error =>
          rw [hhead] at hends
          cases hends
      | ok y =>
          rw [hhead, ok_bind] at hends
          cases hrest : xs.mapM f with
          | error error =>
              rw [hrest] at hends
              cases hends
          | ok rest => exact List.forall_mem_cons.mpr ⟨⟨y, hhead⟩, ih hrest⟩

/-- What `p` returns satisfies `post`; it may also throw. -/
def Returns {ε α : Type} (p : Except ε α) (post : α → Prop) : Prop :=
  ∀ value, p = .ok value → post value

namespace Returns

variable {ε α β : Type} {post : β → Prop}

theorem ok {value : β} (hpost : post value) : Returns (.ok value : Except ε β) post := by
  rintro _ ⟨⟩
  exact hpost

theorem bind {p : Except ε α} {next : α → Except ε β}
    (hnext : ∀ value, p = .ok value → Returns (next value) post) : Returns (p >>= next) post := by
  cases p with
  | ok value => exact hnext value rfl
  | error error => exact nofun

theorem ite {condition : Prop} [Decidable condition] {p q : Except ε β}
    (hthen : condition → Returns p post) (helse : ¬ condition → Returns q post) :
    Returns (if condition then p else q) post := by
  split
  next htrue => exact hthen htrue
  next hfalse => exact helse hfalse

end Returns

abbrev Bytes := List UInt8

/-- `bytes[offset]`. -/
def byteAt (bytes : Bytes) (offset : Nat) : Except Exception UInt8 :=
  match bytes[offset]? with
  | some byte => .ok byte
  | none => .error { kind := .indexOutOfBounds }

/-- The elements from `start` up to but excluding `stop`. -/
def slice {α : Type*} (xs : List α) (start stop : Nat) : List α :=
  (xs.take stop).drop start

/-- `bytes.copyOfRange(fromIndex, toIndex)`. -/
def copyOfRange (bytes : Bytes) (fromIndex toIndex : Nat) : Except Exception Bytes :=
  if toIndex > bytes.length then .error { kind := .indexOutOfBounds }
  else if fromIndex > toIndex then .error { kind := .illegalArgument }
  else .ok (slice bytes fromIndex toIndex)

/-- The bytes a loop `for (index in start until stop)` reads, in order. -/
def bytesUntil (bytes : Bytes) (start stop : Nat) : Except Exception Bytes :=
  (List.range' start (stop - start)).mapM (byteAt bytes)

/-- `bytes[offset].toInt() and 0xff`. -/
def u8 (bytes : Bytes) (offset : Nat) : Except Exception Nat := do
  return (← byteAt bytes offset).toNat

/-- `(u8(bytes, offset) shl 8) or u8(bytes, offset + 1)`. -/
def u16 (bytes : Bytes) (offset : Nat) : Except Exception Nat := do
  let high ← u8 bytes offset
  let low ← u8 bytes (offset + 1)
  return (high <<< 8) ||| low

section Slices

variable {α : Type*} {xs : List α} {start stop : Nat}

theorem length_slice (hstop : stop ≤ xs.length) : (slice xs start stop).length = stop - start := by
  simp [slice, hstop]

theorem slice_eq_nil (h : stop ≤ start) : slice xs start stop = [] := by
  simp only [slice, List.drop_eq_nil_iff, List.length_take]
  omega

theorem drop_slice (count : Nat) :
    (slice xs start stop).drop count = slice xs (start + count) stop := by
  simp [slice]

theorem take_slice (count : Nat) (h : start + count ≤ stop) :
    (slice xs start stop).take count = slice xs start (start + count) := by
  simp only [slice, List.take_drop, List.take_take]
  congr 2
  omega

theorem slice_zero : slice xs 0 stop = xs.take stop := by simp [slice]

theorem slice_length : slice xs start xs.length = xs.drop start := by simp [slice]

/-- The middle of three parts. -/
theorem slice_middle {before middle after : List α} :
    slice (before ++ middle ++ after) before.length (before.length + middle.length) = middle := by
  rw [slice, ← List.length_append, List.take_left, List.drop_left]

/-- A slice that is not empty begins with its first byte. -/
theorem slice_eq_cons (hstart : start < stop) (hstop : stop ≤ xs.length) :
    ∃ head, xs[start]? = some head ∧
      slice xs start stop = head :: slice xs (start + 1) stop := by
  have hlt : start < (xs.take stop).length := by
    rw [List.length_take]
    omega
  refine ⟨(xs.take stop)[start], ?_, List.drop_eq_getElem_cons hlt⟩
  rw [List.getElem_take, List.getElem?_eq_getElem (by omega)]

end Slices

/-! ## Accesses within bounds -/

/-- An access inside the array returns. -/
theorem byteAt_eq_ok {bytes : Bytes} {offset : Nat} (hoffset : offset < bytes.length) :
    byteAt bytes offset = .ok bytes[offset] := by
  simp [byteAt, hoffset]

/-- A byte in a window is the head of the rest of the window. -/
theorem slice_eq_cons_of_byteAt {bytes : Bytes} {start stop : Nat}
    (hstart : start < stop) (hstop : stop ≤ bytes.length) :
    ∃ byte, byteAt bytes start = .ok byte ∧
      slice bytes start stop = byte :: slice bytes (start + 1) stop := by
  obtain ⟨byte, hbyte, hslice⟩ := slice_eq_cons hstart hstop
  exact ⟨byte, by simp [byteAt, hbyte], hslice⟩

theorem u8_eq_ok {bytes : Bytes} {start : Nat} {byte : UInt8}
    (h : byteAt bytes start = .ok byte) : u8 bytes start = .ok byte.toNat := by
  simp only [u8, h]
  rfl

/-- Two bytes put together by shifting are a number of sixteen bits. -/
theorem shiftLeft_or_toNat (high low : UInt8) :
    (high.toNat <<< 8) ||| low.toNat = LengthPrefixed.bigEndian [high, low] := by
  have hlow := low.toNat_lt
  rw [Nat.shiftLeft_add_eq_or_of_lt (by omega) high.toNat |>.symm, Nat.shiftLeft_eq]
  simp [LengthPrefixed.bigEndian]

/-- A sixteen-bit field in a window is the big-endian value of two bytes. -/
theorem u16_eq_ok {bytes : Bytes} {start : Nat} {high low : UInt8}
    (hhigh : byteAt bytes start = .ok high) (hlow : byteAt bytes (start + 1) = .ok low) :
    u16 bytes start = .ok (LengthPrefixed.bigEndian [high, low]) := by
  simp only [u16, u8_eq_ok hhigh, u8_eq_ok hlow]
  exact congrArg Except.ok (shiftLeft_or_toNat high low)

/-- Two bytes that are there can be read. -/
theorem u16_returns {bytes : Bytes} {start : Nat} (hstart : start + 1 < bytes.length) :
    ∃ value, u16 bytes start = .ok value :=
  ⟨_, u16_eq_ok (byteAt_eq_ok (by omega)) (byteAt_eq_ok hstart)⟩

/-- A copy inside the array returns. -/
theorem copyOfRange_eq_ok {bytes : Bytes} {start stop : Nat}
    (hstart : start ≤ stop) (hstop : stop ≤ bytes.length) :
    copyOfRange bytes start stop = .ok (slice bytes start stop) := by
  rw [copyOfRange, if_neg (by omega), if_neg (by omega)]

theorem bytesUntil_eq_ok {bytes : Bytes} {start stop : Nat}
    (hstop : stop ≤ bytes.length) :
    bytesUntil bytes start stop = .ok (slice bytes start stop) := by
  unfold bytesUntil
  generalize hcount : stop - start = count
  induction count generalizing start with
  | zero =>
      rw [slice_eq_nil (by omega)]
      rfl
  | succ count ih =>
      have hlt : start < stop := by omega
      obtain ⟨byte, hbyte, hslice⟩ := slice_eq_cons_of_byteAt hlt hstop
      have hrest := @ih (start + 1) (by omega)
      rw [List.range'_succ, List.mapM_cons, hbyte, hrest, hslice]
      rfl

/-! ## Fields of a window -/

section Windows

open LengthPrefixed

variable {bytes : Bytes} {start stop : Nat}

/-- A one-byte length field in a window. -/
theorem takeVector_one_slice (hstart : start + 1 ≤ stop) (hstop : stop ≤ bytes.length) :
    ∃ count, u8 bytes start = .ok count ∧
      takeVector 1 (slice bytes start stop) =
        if start + 1 + count ≤ stop then
          some (slice bytes (start + 1) (start + 1 + count), slice bytes (start + 1 + count) stop)
        else none := by
  obtain ⟨byte, hbyte, hslice⟩ := slice_eq_cons_of_byteAt hstart hstop
  refine ⟨byte.toNat, u8_eq_ok hbyte, ?_⟩
  have hlength : (slice bytes (start + 1) stop).length = stop - (start + 1) := length_slice hstop
  rw [hslice, takeVector_one_cons, takeExactly, hlength]
  by_cases hfit : start + 1 + byte.toNat ≤ stop
  · rw [if_pos (by omega), if_pos hfit, take_slice _ hfit, drop_slice]
  · rw [if_neg (by omega), if_neg hfit]

/-- A two-byte length field in a window. -/
theorem takeVector_two_slice (hstart : start + 2 ≤ stop) (hstop : stop ≤ bytes.length) :
    ∃ count, u16 bytes start = .ok count ∧
      takeVector 2 (slice bytes start stop) =
        if start + 2 + count ≤ stop then
          some (slice bytes (start + 2) (start + 2 + count), slice bytes (start + 2 + count) stop)
        else none := by
  have hhead : start < stop := by omega
  have hnext : start + 1 < stop := by omega
  obtain ⟨high, hhigh, hslice⟩ := slice_eq_cons_of_byteAt hhead hstop
  obtain ⟨low, hlow, hslice'⟩ := slice_eq_cons_of_byteAt hnext hstop
  refine ⟨bigEndian [high, low], u16_eq_ok hhigh hlow, ?_⟩
  have hlength : (slice bytes (start + 1 + 1) stop).length = stop - (start + 1 + 1) :=
    length_slice hstop
  rw [hslice, hslice']
  simp only [takeVector, takeExactly, List.length_cons, Nat.le_add_left, if_true,
    List.take_succ_cons, List.take_zero, List.drop_succ_cons, List.drop_zero, Option.bind_eq_bind,
    Option.bind_some, hlength]
  by_cases hfit : start + 2 + bigEndian [high, low] ≤ stop
  · rw [if_pos (by omega), if_pos hfit, take_slice _ hfit, drop_slice]
  · rw [if_neg (by omega), if_neg hfit]

/-- Taking the front of a slice splits it. -/
theorem takeExactly_slice {count : Nat} (hroom : start + count ≤ stop)
    (hstop : stop ≤ bytes.length) :
    takeExactly count (slice bytes start stop) =
      some (slice bytes start (start + count), slice bytes (start + count) stop) := by
  have hlength : (slice bytes start stop).length = stop - start := length_slice hstop
  rw [takeExactly, if_pos (by omega), take_slice _ hroom, drop_slice]

end Windows

end AIUnblock
