import Mathlib.Data.List.DropRight
import AIUnblock.Kotlin.Arrays

/-! # Strings

A string is the list of its characters. Only characters of the basic plane
matter to the code, so a character stands for one UTF-16 unit.
-/

namespace AIUnblock

abbrev Text := List Char

/-- `Char.isWhitespace()`: the space, line and paragraph separators, the tab to
carriage-return controls and the four information separators. -/
def isWhitespace (c : Char) : Bool :=
  (0x09 ≤ c.toNat && c.toNat ≤ 0x0d) || (0x1c ≤ c.toNat && c.toNat ≤ 0x20) ||
    c.toNat == 0xa0 || c.toNat == 0x1680 || (0x2000 ≤ c.toNat && c.toNat ≤ 0x200a) ||
    c.toNat == 0x2028 || c.toNat == 0x2029 || c.toNat == 0x202f || c.toNat == 0x205f ||
    c.toNat == 0x3000

/-- `isNotBlank()`. -/
def isNotBlank (s : Text) : Bool := s.any fun c => !isWhitespace c

/-- `trim()`. -/
def trim (s : Text) : Text := (s.dropWhile isWhitespace).rdropWhile isWhitespace

/-- `trimEnd(c)`. -/
def trimEnd (c : Char) (s : Text) : Text := s.rdropWhile (· == c)

/-- `substringBefore(c)`. -/
def substringBefore (c : Char) (s : Text) : Text := s.takeWhile (· != c)

/-- The decoder's stand-in for a byte outside US-ASCII. -/
def replacementChar : Char := '\uFFFD'

/-- `bytes.toString(Charsets.US_ASCII)`. -/
def decodeUsAscii (bytes : Bytes) : Text :=
  bytes.map fun byte => if byte.toNat < 128 then Char.ofNat byte.toNat else replacementChar

/-- `s.toByteArray(StandardCharsets.US_ASCII)`: a question mark for any other character. -/
def usAsciiBytes (s : Text) : Bytes :=
  s.map fun c => if c.toNat < 128 then UInt8.ofNat c.toNat else 63

/-- A character that decoding US-ASCII can produce. -/
def IsWireChar (c : Char) : Prop := c.toNat < 128 ∨ c = replacementChar

instance : DecidablePred IsWireChar := fun _ => inferInstanceAs (Decidable (_ ∨ _))

/-- The parts of string handling that vary with the platform's Unicode tables.
The laws are what the documentation fixes for the characters that host names
off the wire and the rule assets are made of. -/
structure Platform where
  /-- `lowercase(Locale.ROOT)`. -/
  lowercase : Text → Text
  /-- The class `\s` of regular expressions. -/
  isRegexSpace : Char → Bool
  lowercase_wire : ∀ s : Text, (∀ c ∈ s, IsWireChar c) → lowercase s = s.map Char.toLower
  isRegexSpace_ascii : ∀ c : Char, c.toNat < 128 →
    isRegexSpace c = ((0x09 ≤ c.toNat && c.toNat ≤ 0x0d) || c.toNat == 0x20)

/-- A platform without case or space rules beyond US-ASCII. -/
def Platform.ascii : Platform where
  lowercase s := s.map Char.toLower
  isRegexSpace c := (0x09 ≤ c.toNat && c.toNat ≤ 0x0d) || c.toNat == 0x20
  lowercase_wire _ _ := rfl
  isRegexSpace_ascii _ _ := rfl

/-- The UTF-8 encoding of a string constant. -/
def utf8Bytes (s : String) : Bytes := s.toByteArray.data.toList

theorem decodeUsAscii_utf8EncodeChar {c : Char}
    (hascii : ∀ byte ∈ String.utf8EncodeChar c, byte.toNat < 128) :
    decodeUsAscii (String.utf8EncodeChar c) = [c] := by
  have hsmall : c.toNat < 128 := by
    by_contra hlarge
    simp only [String.utf8EncodeChar, Char.toNat_val] at hascii
    rw [if_neg (by omega)] at hascii
    split_ifs at hascii
    all_goals
      have hfirst := hascii _ List.mem_cons_self
      rw [UInt8.toNat_ofNat'] at hfirst
      omega
  have hencode : String.utf8EncodeChar c = [UInt8.ofNat c.toNat] := by
    simp only [String.utf8EncodeChar, Char.toNat_val]
    rw [if_pos (by omega)]
  have hbyte : (UInt8.ofNat c.toNat).toNat = c.toNat := by
    rw [UInt8.toNat_ofNat']
    exact Nat.mod_eq_of_lt (by omega)
  rw [hencode, decodeUsAscii, List.map_singleton, hbyte, if_pos hsmall, Char.ofNat_toNat]

/-- A constant made of US-ASCII is the decoding of its bytes. -/
theorem toList_eq_decodeUsAscii {s : String}
    (hascii : ∀ byte ∈ utf8Bytes s, byte.toNat < 128) : s.toList = decodeUsAscii (utf8Bytes s) := by
  obtain ⟨chars, rfl⟩ : ∃ chars, s = String.ofList chars := ⟨s.toList, String.ofList_toList.symm⟩
  have hbytes : utf8Bytes (String.ofList chars) = chars.flatMap String.utf8EncodeChar := by
    simp [utf8Bytes, String.ofList, List.utf8Encode]
  rw [hbytes] at hascii ⊢
  rw [String.toList_ofList]
  clear hbytes
  induction chars with
  | nil => rfl
  | cons c chars ih =>
      simp only [List.flatMap_cons, List.mem_append] at hascii
      have hhead := decodeUsAscii_utf8EncodeChar fun byte hmem => hascii byte (Or.inl hmem)
      have htail := ih fun byte hmem => hascii byte (Or.inr hmem)
      rw [decodeUsAscii] at hhead htail
      rw [List.flatMap_cons, decodeUsAscii, List.map_append, hhead, ← htail]
      rfl

theorem toNat_ofNat_ascii {n : Nat} (hascii : n < 128) : (Char.ofNat n).toNat = n := by
  have hvalid : n.isValidChar := Or.inl (by omega)
  rw [Char.ofNat, dif_pos hvalid]
  rfl

@[simp] theorem length_usAsciiBytes (s : Text) : (usAsciiBytes s).length = s.length :=
  List.length_map _

theorem usAsciiBytes_eq {s : Text} (hascii : ∀ c ∈ s, c.toNat < 128) :
    usAsciiBytes s = s.map fun c => UInt8.ofNat c.toNat :=
  List.map_congr_left fun c hmem => if_pos (hascii c hmem)

/-- Text of US-ASCII survives its bytes. -/
theorem decode_usAsciiBytes {s : Text} (hascii : ∀ c ∈ s, c.toNat < 128) :
    decodeUsAscii (usAsciiBytes s) = s := by
  rw [usAsciiBytes_eq hascii, decodeUsAscii, List.map_map]
  conv_rhs => rw [← List.map_id s]
  apply List.map_congr_left
  intro c hmem
  have hlt := hascii c hmem
  have hbyte : (UInt8.ofNat c.toNat).toNat = c.toNat := by
    rw [UInt8.toNat_ofNat']
    exact Nat.mod_eq_of_lt (by omega)
  simp only [Function.comp_apply, if_pos hlt, hbyte, Char.ofNat_toNat, id]

/-- The names that a ClientHello can carry. -/
theorem isWireChar_of_mem_decodeUsAscii {bytes : Bytes} {c : Char}
    (hmem : c ∈ decodeUsAscii bytes) : IsWireChar c := by
  obtain ⟨byte, _, rfl⟩ := List.mem_map.mp hmem
  split
  next hlt =>
    left
    rwa [toNat_ofNat_ascii hlt]
  next => exact Or.inr rfl

end AIUnblock
