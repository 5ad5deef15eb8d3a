import AIUnblock.Kotlin.Arrays

/-! # Sums that fit an `Int`, and arrays that are written

The offsets of the model are natural numbers, and its arrays are built at once. A
checked function says of each sum, where the code forms it, that it is an `Int`, and
writes its array byte by byte.
-/

namespace AIUnblock

/-- A sum that was just formed has not wrapped. -/
def fits (sum : Nat) : Except Exception Unit :=
  if sum < 2 ^ 31 then .ok () else .error { kind := .other, message := "Int overflow" }

/-- `u16(bytes, offset)`. -/
def checkedU16 (bytes : Bytes) (offset : Nat) : Except Exception Nat := do
  fits (offset + 1)
  u16 bytes offset

/-- `array[offset] = byte`. -/
def setByte (array : Bytes) (offset : Nat) (byte : UInt8) : Except Exception Bytes :=
  if offset < array.length then .ok (array.set offset byte)
  else .error { kind := .indexOutOfBounds }

/-- `array[offset++] = byte` for one byte after the other. -/
def setBytes (array : Bytes) (offset : Nat) : Bytes → Except Exception Bytes
  | [] => .ok array
  | byte :: bytes => do
    let array ← setByte array offset byte
    fits (offset + 1)
    setBytes array (offset + 1) bytes

/-- `source.copyInto(array, offset, endIndex = endIndex)`. -/
def copyInto (source array : Bytes) (offset endIndex : Nat) : Except Exception Bytes :=
  if endIndex > source.length ∨ offset + endIndex > array.length then
    .error { kind := .indexOutOfBounds }
  else .ok (array.take offset ++ source.take endIndex ++ array.drop (offset + endIndex))

/-! ## What is checked is computed -/

section Except

variable {α β : Type} {p : Except Exception α} {f g : α → Except Exception β}

theorem fits_bind {sum : Nat} {next : Unit → Except Exception β} (hsum : sum < 2 ^ 31) :
    (fits sum >>= next) = next () := by
  rw [fits, if_pos hsum, ok_bind]

/-- Two programs that go on alike after what they both do. -/
theorem bind_congr_ok (hnext : ∀ value, p = .ok value → f value = g value) :
    (p >>= f) = (p >>= g) := by
  cases p with
  | ok value => exact hnext value rfl
  | error error => rfl

end Except

section Numbers

variable {bytes : Bytes} {offset value : Nat}

theorem checkedU16_eq (hoffset : offset + 1 < 2 ^ 31) :
    checkedU16 bytes offset = u16 bytes offset := by
  rw [checkedU16, fits_bind hoffset]

theorem u8_lt (hvalue : u8 bytes offset = .ok value) : value < 256 := by
  cases hbyte : byteAt bytes offset with
  | error error =>
      rw [u8, hbyte] at hvalue
      cases hvalue
  | ok byte =>
      rw [u8_eq_ok hbyte] at hvalue
      cases hvalue
      exact byte.toNat_lt

theorem u16_lt (hvalue : u16 bytes offset = .ok value) : value < 65536 := by
  cases hhigh : byteAt bytes offset with
  | error error =>
      rw [u16, u8, hhigh] at hvalue
      cases hvalue
  | ok high =>
      cases hlow : byteAt bytes (offset + 1) with
      | error error =>
          rw [u16, u8_eq_ok hhigh, ok_bind, u8, hlow] at hvalue
          cases hvalue
      | ok low =>
          rw [u16_eq_ok hhigh hlow] at hvalue
          cases hvalue
          simpa using LengthPrefixed.bigEndian_lt [high, low]

end Numbers

/-! ## Writing within bounds -/

section Writing

variable {before middle after : Bytes}

theorem setByte_eq {array : Bytes} {offset : Nat} (hoffset : offset < array.length) (byte : UInt8) :
    setByte array offset byte = .ok (array.set offset byte) :=
  if_pos hoffset

theorem setByte_front {offset : Nat} (hoffset : offset < before.length) (byte : UInt8) :
    setByte (before ++ after) offset byte = .ok (before.set offset byte ++ after) := by
  rw [setByte_eq, List.set_append_left]
  · exact hoffset
  · rw [List.length_append]
    omega

theorem setByte_behind {offset : Nat} (hoffset : offset < after.length) (byte : UInt8) :
    setByte (before ++ after) (before.length + offset) byte =
      .ok (before ++ after.set offset byte) := by
  rw [setByte_eq, List.set_append_right _ _ (Nat.le_add_right _ _), Nat.add_sub_cancel_left]
  rw [List.length_append]
  omega

/-- One byte replaces another. -/
theorem setByte_middle (old byte : UInt8) :
    setByte (before ++ old :: after) before.length byte = .ok (before ++ byte :: after) :=
  @setByte_behind before (old :: after) 0 (Nat.zero_lt_succ _) byte

/-- A row of bytes replaces as many. -/
theorem setBytes_eq (bytes : Bytes) (hlength : middle.length = bytes.length)
    (hsmall : (before ++ middle).length < 2 ^ 31) :
    setBytes (before ++ middle ++ after) before.length bytes = .ok (before ++ bytes ++ after) := by
  induction bytes generalizing before middle with
  | nil =>
      rw [List.length_eq_zero_iff.mp hlength]
      rfl
  | cons byte bytes ih =>
      cases middle with
      | nil => cases hlength
      | cons old middle =>
          have hold : before ++ old :: middle ++ after = before ++ old :: (middle ++ after) := by
            simp
          have hwritten : before ++ byte :: (middle ++ after) =
              before ++ [byte] ++ middle ++ after := by simp
          have hnext : before.length + 1 = (before ++ [byte]).length := by simp
          rw [List.length_append, List.length_cons] at hsmall
          rw [setBytes, hold, setByte_middle, ok_bind, fits_bind (by omega), hwritten, hnext,
            ih (Nat.succ.inj hlength)]
          · simp
          · rw [List.length_append, ← hnext]
            omega

/-- An array of zeros takes a copy at its front. -/
theorem copyInto_front {source : Bytes} {endIndex room : Nat} (hend : endIndex ≤ source.length) :
    copyInto source (List.replicate (endIndex + room) 0) 0 endIndex =
      .ok (source.take endIndex ++ List.replicate room 0) := by
  rw [copyInto, if_neg]
  · simp
  · rw [List.length_replicate]
    omega

/-- A copy replaces as many bytes. -/
theorem copyInto_middle {source : Bytes} (hlength : middle.length = source.length) :
    copyInto source (before ++ middle ++ after) before.length source.length =
      .ok (before ++ source ++ after) := by
  rw [copyInto, if_neg]
  · rw [← hlength, ← List.length_append, List.drop_left]
    simp [hlength]
  · rw [List.length_append, List.length_append]
    omega

/-- A copy replaces the end of an array. -/
theorem copyInto_end {source : Bytes} (hlength : middle.length = source.length) :
    copyInto source (before ++ middle) before.length source.length = .ok (before ++ source) := by
  have hcopied := @copyInto_middle before middle [] source hlength
  rwa [List.append_nil, List.append_nil] at hcopied

end Writing

end AIUnblock
