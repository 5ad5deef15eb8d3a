import Mathlib.Data.List.Basic
import Mathlib.Data.List.Infix
import Mathlib.Tactic.Ring
import Mathlib.Tactic.Linarith

/-! # Big-endian numbers and length-prefixed vectors

A wire format built from fixed-width big-endian counts and vectors that carry
their own length. Readers consume a prefix of the input and return the rest;
each reader has one law for what it accepts and one for what the writer emits.
-/

namespace LengthPrefixed

/-! ## Big-endian numbers -/

/-- The number a byte string denotes, most significant byte first. -/
def bigEndian (bytes : List UInt8) : Nat :=
  bytes.foldl (fun acc byte => acc * 256 + byte.toNat) 0

/-- The `width` low bytes of a number, most significant byte first. -/
def toBigEndian : Nat → Nat → List UInt8
  | 0, _ => []
  | width + 1, n => toBigEndian width (n / 256) ++ [UInt8.ofNat n]

@[simp] theorem bigEndian_nil : bigEndian [] = 0 := rfl

theorem bigEndian_concat (bytes : List UInt8) (byte : UInt8) :
    bigEndian (bytes ++ [byte]) = bigEndian bytes * 256 + byte.toNat := by
  simp [bigEndian]

@[simp] theorem length_toBigEndian (width n : Nat) : (toBigEndian width n).length = width := by
  induction width generalizing n with
  | zero => rfl
  | succ width ih => simp [toBigEndian, ih]

/-- A number is bounded by the width of its field. -/
theorem bigEndian_lt (bytes : List UInt8) : bigEndian bytes < 256 ^ bytes.length := by
  induction bytes using List.reverseRecOn with
  | nil => simp
  | append_singleton bytes byte ih =>
      have hbyte := byte.toNat_lt
      rw [bigEndian_concat, List.length_append, List.length_singleton, pow_succ]
      omega

/-- A number that fits is read back. -/
theorem bigEndian_toBigEndian (width n : Nat) (hlt : n < 256 ^ width) :
    bigEndian (toBigEndian width n) = n := by
  induction width generalizing n with
  | zero =>
      have hzero : n = 0 := by simpa using hlt
      simp [toBigEndian, hzero]
  | succ width ih =>
      have hhigh : n / 256 < 256 ^ width := by
        rw [pow_succ] at hlt
        exact Nat.div_lt_of_lt_mul (by linarith)
      rw [toBigEndian, bigEndian_concat, ih _ hhigh, UInt8.toNat_ofNat']
      omega

/-- A byte string is the big-endian form of the number it denotes. -/
theorem toBigEndian_bigEndian (bytes : List UInt8) :
    toBigEndian bytes.length (bigEndian bytes) = bytes := by
  induction bytes using List.reverseRecOn with
  | nil => rfl
  | append_singleton bytes byte ih =>
      have hbyte := byte.toNat_lt
      have hhigh : (bigEndian bytes * 256 + byte.toNat) / 256 = bigEndian bytes := by omega
      have hlow : UInt8.ofNat (bigEndian bytes * 256 + byte.toNat) = byte := by
        apply UInt8.toNat_inj.mp
        rw [UInt8.toNat_ofNat']
        omega
      rw [List.length_append, List.length_singleton, toBigEndian, bigEndian_concat, hhigh, ih, hlow]

/-- Strings of one length that denote the same number are equal. -/
theorem eq_of_bigEndian {bytes bytes' : List UInt8} (hlength : bytes.length = bytes'.length)
    (hnumber : bigEndian bytes = bigEndian bytes') : bytes = bytes' := by
  rw [← toBigEndian_bigEndian bytes, hlength, hnumber, toBigEndian_bigEndian]

/-! ## Taking an exact number of elements -/

variable {α : Type*}

/-- The first `count` elements and the rest, if there are that many. -/
def takeExactly (count : Nat) (xs : List α) : Option (List α × List α) :=
  if count ≤ xs.length then some (xs.take count, xs.drop count) else none

/-- Taking splits off a front of the given length. -/
theorem takeExactly_eq_some_iff {count : Nat} {xs taken rest : List α} :
    takeExactly count xs = some (taken, rest) ↔ xs = taken ++ rest ∧ taken.length = count := by
  unfold takeExactly
  constructor
  · intro h
    split at h
    · simp only [Option.some.injEq, Prod.mk.injEq] at h
      obtain ⟨rfl, rfl⟩ := h
      refine ⟨(List.take_append_drop count xs).symm, ?_⟩
      rw [List.length_take]
      omega
    · cases h
  · rintro ⟨rfl, rfl⟩
    simp

theorem takeExactly_eq_none_iff {count : Nat} {xs : List α} :
    takeExactly count xs = none ↔ xs.length < count := by
  unfold takeExactly
  split <;> simp_all

@[simp] theorem takeExactly_append (taken rest : List α) (count : Nat)
    (hlength : taken.length = count) : takeExactly count (taken ++ rest) = some (taken, rest) :=
  takeExactly_eq_some_iff.mpr ⟨rfl, hlength⟩

/-! ## Fields at a position -/

section Positions

variable {message content rest : List α} {position count : Nat}

/-- What stands behind a field. -/
theorem drop_behind (hdrop : message.drop position = content ++ rest)
    (hcount : content.length = count) : message.drop (position + count) = rest := by
  rw [← List.drop_drop, hdrop, ← hcount, List.drop_left]

theorem take_field (hdrop : message.drop position = content ++ rest)
    (hcount : content.length = count) : (message.drop position).take count = content := by
  rw [hdrop, ← hcount, List.take_left]

end Positions

/-- Items that are told apart by what they begin with are found again in a row of them,
up to the first other thing. -/
theorem flatMap_append_inj {β : Type*} {encode : β → List α} {Q : β → Prop}
    (hcode : ∀ x y rest rest', encode x ++ rest = encode y ++ rest' → x = y ∧ rest = rest')
    {xs ys : List β} {rest rest' : List α} (hxs : ∀ x ∈ xs, Q x) (hys : ∀ y ∈ ys, Q y)
    (hstop : ∀ x tail, Q x → rest ≠ encode x ++ tail)
    (hstop' : ∀ y tail, Q y → rest' ≠ encode y ++ tail)
    (heq : xs.flatMap encode ++ rest = ys.flatMap encode ++ rest') : xs = ys ∧ rest = rest' := by
  induction xs generalizing ys with
  | nil =>
      cases ys with
      | nil => exact ⟨rfl, heq⟩
      | cons y ys =>
          rw [List.flatMap_nil, List.nil_append, List.flatMap_cons, List.append_assoc] at heq
          exact absurd heq (hstop y _ (hys y List.mem_cons_self))
  | cons x xs ih =>
      rw [List.forall_mem_cons] at hxs
      rw [List.flatMap_cons, List.append_assoc] at heq
      cases ys with
      | nil => exact absurd heq.symm (hstop' x _ hxs.1)
      | cons y ys =>
          rw [List.forall_mem_cons] at hys
          rw [List.flatMap_cons, List.append_assoc] at heq
          obtain ⟨rfl, htail⟩ := hcode x y _ _ heq
          obtain ⟨rfl, hrest⟩ := ih hxs.2 hys.2 htail
          exact ⟨rfl, hrest⟩

/-! ## Vectors with a length prefix -/

/-- A length of `width` bytes followed by that many bytes. -/
def takeVector (width : Nat) (bytes : List UInt8) : Option (List UInt8 × List UInt8) := do
  let (count, rest) ← takeExactly width bytes
  takeExactly (bigEndian count) rest

/-- The wire form of a vector. -/
def vector (width : Nat) (content : List UInt8) : List UInt8 :=
  toBigEndian width content.length ++ content

theorem vector_one (content : List UInt8) :
    vector 1 content = UInt8.ofNat content.length :: content := rfl

@[simp] theorem length_vector (width : Nat) (content : List UInt8) :
    (vector width content).length = width + content.length := by
  simp [vector]

/-- A reader returns exactly the vectors a writer can emit. -/
theorem takeVector_eq_some_iff {width : Nat} {bytes content rest : List UInt8} :
    takeVector width bytes = some (content, rest) ↔
      bytes = vector width content ++ rest ∧ content.length < 256 ^ width := by
  unfold takeVector
  constructor
  · intro h
    obtain ⟨⟨count, tail⟩, hcount, hcontent⟩ := Option.bind_eq_some_iff.mp h
    obtain ⟨rfl, rfl⟩ := takeExactly_eq_some_iff.mp hcount
    obtain ⟨rfl, hlength⟩ := takeExactly_eq_some_iff.mp hcontent
    refine ⟨?_, hlength ▸ bigEndian_lt count⟩
    rw [vector, hlength, toBigEndian_bigEndian, List.append_assoc]
  · rintro ⟨rfl, hlt⟩
    rw [vector, List.append_assoc]
    simp [bigEndian_toBigEndian _ _ hlt]

/-- A vector is read back, and what follows it is left. -/
theorem takeVector_append (width : Nat) (content rest : List UInt8)
    (hlt : content.length < 256 ^ width) :
    takeVector width (vector width content ++ rest) = some (content, rest) :=
  takeVector_eq_some_iff.mpr ⟨rfl, hlt⟩

theorem takeVector_one_cons (byte : UInt8) (rest : List UInt8) :
    takeVector 1 (byte :: rest) = takeExactly byte.toNat rest := by
  simp [takeVector, takeExactly, bigEndian]

theorem takeVector_short {width : Nat} {bytes : List UInt8} (hshort : bytes.length < width) :
    takeVector width bytes = none := by
  simp [takeVector, takeExactly_eq_none_iff.mpr hshort]

/-- Reading a vector leaves fewer bytes. -/
theorem takeVector_rest_length {width : Nat} {bytes content rest : List UInt8}
    (h : takeVector width bytes = some (content, rest)) :
    rest.length + width + content.length = bytes.length := by
  obtain ⟨rfl, _⟩ := takeVector_eq_some_iff.mp h
  simp only [List.length_append, length_vector]
  omega

theorem takeVector_vector (width : Nat) (content : List UInt8)
    (hlt : content.length < 256 ^ width) :
    takeVector width (vector width content) = some (content, []) := by
  simpa using takeVector_append width content [] hlt

/-- Where the vector at `position` ends by its own length. -/
def declaredEnd (message : List UInt8) (position width : Nat) : Nat :=
  position + width + bigEndian ((message.drop position).take width)

/-- The length in front of a vector says where it ends. -/
theorem declaredEnd_of_drop {message content rest : List UInt8} {position width : Nat}
    (hdrop : message.drop position = vector width content ++ rest)
    (hlt : content.length < 256 ^ width) :
    declaredEnd message position width = position + width + content.length := by
  have hfield : message.drop position =
      toBigEndian width content.length ++ (content ++ rest) := by
    rw [hdrop, vector, List.append_assoc]
  rw [declaredEnd, take_field hfield (length_toBigEndian width _), bigEndian_toBigEndian _ _ hlt]

/-- The content of a vector, short enough for its length prefix. -/
structure Opaque (width : Nat) where
  content : List UInt8
  fits : content.length < 256 ^ width

def Opaque.encode {width : Nat} (v : Opaque width) : List UInt8 := vector width v.content

@[simp] theorem Opaque.takeVector_encode {width : Nat} (v : Opaque width) (rest : List UInt8) :
    takeVector width (v.encode ++ rest) = some (v.content, rest) :=
  takeVector_append width v.content rest v.fits

@[simp] theorem Opaque.length_encode {width : Nat} (v : Opaque width) :
    v.encode.length = width + v.content.length :=
  length_vector width v.content

theorem Opaque.encode_append {width : Nat} (v : Opaque width) (rest : List UInt8) :
    v.encode ++ rest = toBigEndian width v.content.length ++ (v.content ++ rest) :=
  List.append_assoc _ _ _

/-- The content of a vector stands behind its length. -/
theorem Opaque.drop_content {width : Nat} {message rest : List UInt8} {position : Nat}
    {v : Opaque width} (hdrop : message.drop position = v.encode ++ rest) :
    message.drop (position + width) = v.content ++ rest := by
  rw [v.encode_append] at hdrop
  exact drop_behind hdrop (length_toBigEndian width _)

/-- The same for a value with its bound. -/
theorem Opaque.declaredEnd_of_drop {width : Nat} {message rest : List UInt8} {position : Nat}
    {v : Opaque width} (hdrop : message.drop position = v.encode ++ rest) :
    declaredEnd message position width = position + width + v.content.length :=
  LengthPrefixed.declaredEnd_of_drop hdrop v.fits

theorem Opaque.ext {width : Nat} {v w : Opaque width} (heq : v.content = w.content) : v = w := by
  cases v
  cases w
  cases heq
  rfl

/-- A vector and what follows it are told apart. -/
theorem Opaque.encode_append_inj {width : Nat} {v w : Opaque width} {rest rest' : List UInt8}
    (heq : v.encode ++ rest = w.encode ++ rest') : v = w ∧ rest = rest' := by
  have hread := v.takeVector_encode rest
  rw [heq, w.takeVector_encode] at hread
  obtain ⟨hcontent, hrest⟩ := Prod.mk.inj (Option.some.inj hread)
  exact ⟨Opaque.ext hcontent.symm, hrest.symm⟩

end LengthPrefixed
