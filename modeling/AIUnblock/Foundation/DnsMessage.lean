import Mathlib.Data.List.Basic
import Mathlib.Tactic.Ring
import AIUnblock.Foundation.LengthPrefixed

/-! # Domain name system messages

The layout of RFC 1035: a header, then questions and three sections of records.
A reader works on the whole message and a position in it, because a name may end in
a pointer to an earlier name. Such a pointer must point before the name that it ends.
-/

namespace DnsMessage

open LengthPrefixed

/-! ## Fields -/

/-- `count` bytes from `position` on. -/
def bytesAt (message : List UInt8) (position count : Nat) : Option (List UInt8) :=
  (takeExactly count (message.drop position)).map Prod.fst

/-- A big-endian number of `width` bytes. -/
def numberAt (message : List UInt8) (position width : Nat) : Option Nat :=
  (bytesAt message position width).map bigEndian

theorem bytesAt_drop {message content rest : List UInt8} {position : Nat}
    (hdrop : message.drop position = content ++ rest) :
    bytesAt message position content.length = some content := by
  rw [bytesAt, hdrop, takeExactly_append content rest _ rfl]
  rfl

theorem numberAt_drop {message content rest : List UInt8} {position width : Nat}
    (hdrop : message.drop position = content ++ rest) (hwidth : content.length = width) :
    numberAt message position width = some (bigEndian content) := by
  rw [numberAt, ← hwidth, bytesAt_drop hdrop]
  rfl

/-! ## Names -/

/-- The bytes of a name that is written out. -/
def encodeName (labels : List (List UInt8)) : List UInt8 := labels.flatMap (vector 1) ++ [0]

theorem encodeName_cons (label : List UInt8) (labels : List (List UInt8)) :
    encodeName (label :: labels) = vector 1 label ++ encodeName labels := by
  simp only [encodeName, List.flatMap_cons, List.append_assoc]

/-- A label is not empty and has at most 63 bytes. -/
def IsLabel (label : List UInt8) : Prop := label ≠ [] ∧ label.length ≤ 63

/-- The name at `position` and the position behind it. Pointers must point before `bound`. -/
def nameAt (message : List UInt8) (bound position : Nat) : Option (List (List UInt8) × Nat) :=
  if hposition : position < message.length then
    let length := message[position].toNat
    if length = 0 then some ([], position + 1)
    else if length ≤ 63 then do
      let label ← bytesAt message (position + 1) length
      let (labels, after) ← nameAt message bound (position + 1 + length)
      some (label :: labels, after)
    else if 192 ≤ length then do
      let low ← message[position + 1]?
      let target := (length - 192) * 256 + low.toNat
      if target < bound then do
        let (labels, _) ← nameAt message target target
        some (labels, position + 2)
      else none
    else none
  else none
termination_by (bound, message.length - position)
decreasing_by
  · exact Prod.Lex.right _ (by omega)
  · exact Prod.Lex.left _ _ (by assumption)

section Names

variable {message rest : List UInt8} {bound position : Nat}

theorem getElem_of_drop {byte : UInt8} (hdrop : message.drop position = byte :: rest) :
    ∃ hposition : position < message.length, message[position] = byte := by
  have hposition : position < message.length := by
    by_contra hend
    rw [List.drop_of_length_le (by omega)] at hdrop
    contradiction
  refine ⟨hposition, ?_⟩
  rw [List.drop_eq_getElem_cons hposition] at hdrop
  exact (List.cons.inj hdrop).1

theorem nameAt_root (hdrop : message.drop position = 0 :: rest) :
    nameAt message bound position = some ([], position + 1) := by
  obtain ⟨hposition, hbyte⟩ := getElem_of_drop hdrop
  rw [nameAt, dif_pos hposition, hbyte]
  rfl

theorem nameAt_label {label : List UInt8} (hlabel : IsLabel label)
    (hdrop : message.drop position = vector 1 label ++ rest) :
    nameAt message bound position =
      (nameAt message bound (position + 1 + label.length)).map fun found =>
        (label :: found.1, found.2) := by
  obtain ⟨hnonempty, hlength⟩ := hlabel
  have hpos := List.length_pos_iff.mpr hnonempty
  have hbyte : (UInt8.ofNat label.length).toNat = label.length := by
    rw [UInt8.toNat_ofNat']
    omega
  have hcons : message.drop position = UInt8.ofNat label.length :: (label ++ rest) := hdrop
  obtain ⟨hposition, helem⟩ := getElem_of_drop hcons
  have hcontent : message.drop (position + 1) = label ++ rest := by
    rw [← List.drop_drop, hcons]
    rfl
  rw [nameAt, dif_pos hposition]
  dsimp only
  rw [helem, hbyte, if_neg (by omega), if_pos hlength, bytesAt_drop hcontent]
  cases nameAt message bound (position + 1 + label.length) with
  | none => rfl
  | some found => rfl

/-- A name that is written out is read back. -/
theorem nameAt_encodeName {labels : List (List UInt8)} (hlabels : ∀ label ∈ labels, IsLabel label)
    (hdrop : message.drop position = encodeName labels ++ rest) :
    nameAt message bound position = some (labels, position + (encodeName labels).length) := by
  induction labels generalizing position with
  | nil => exact nameAt_root hdrop
  | cons label labels ih =>
      rw [List.forall_mem_cons] at hlabels
      have hsplit : message.drop position = vector 1 label ++ (encodeName labels ++ rest) := by
        rw [hdrop, encodeName_cons, List.append_assoc]
      have hbehind : message.drop (position + 1 + label.length) = encodeName labels ++ rest := by
        rw [Nat.add_assoc]
        exact drop_behind hsplit (length_vector 1 label)
      rw [nameAt_label hlabels.1 hsplit, ih hlabels.2 hbehind]
      rw [Option.map_some, encodeName_cons, List.length_append, length_vector]
      simp only [Nat.add_assoc]

/-- A pointer stands for the name that it points to. -/
theorem nameAt_pointer {high low : UInt8} {labels : List (List UInt8)} {after : Nat}
    (hdrop : message.drop position = high :: low :: rest) (hhigh : 192 ≤ high.toNat)
    (hbound : (high.toNat - 192) * 256 + low.toNat < bound)
    (hname : nameAt message ((high.toNat - 192) * 256 + low.toNat)
      ((high.toNat - 192) * 256 + low.toNat) = some (labels, after)) :
    nameAt message bound position = some (labels, position + 2) := by
  obtain ⟨hposition, helem⟩ := getElem_of_drop hdrop
  have hbehind : message.drop (position + 1) = low :: rest := by
    rw [← List.drop_drop, hdrop]
    rfl
  obtain ⟨hnext, hlow⟩ := getElem_of_drop hbehind
  rw [nameAt, dif_pos hposition]
  dsimp only
  rw [helem, if_neg (by omega), if_neg (by omega), if_pos hhigh,
    List.getElem?_eq_getElem hnext, hlow, Option.bind_eq_bind, Option.bind_some, if_pos hbound,
    hname]
  rfl

end Names

/-! ## Header, questions and records -/

structure Header where
  id : Nat
  qr : Bool
  opcode : Nat
  aa : Bool
  tc : Bool
  rd : Bool
  ra : Bool
  z : Nat
  rcode : Nat
  qdcount : Nat
  ancount : Nat
  nscount : Nat
  arcount : Nat
  deriving DecidableEq, Repr

structure Question where
  name : List (List UInt8)
  type : Nat
  qclass : Nat
  deriving DecidableEq, Repr

structure Record where
  owner : List (List UInt8)
  type : Nat
  rclass : Nat
  ttl : Nat
  data : List UInt8
  deriving DecidableEq, Repr

structure Message where
  header : Header
  questions : List Question
  answers : List Record
  authorities : List Record
  additionals : List Record
  deriving DecidableEq, Repr

/-- The header of twelve bytes. -/
def headerAt (message : List UInt8) : Option Header := do
  let id ← numberAt message 0 2
  let flags ← numberAt message 2 2
  let qdcount ← numberAt message 4 2
  let ancount ← numberAt message 6 2
  let nscount ← numberAt message 8 2
  let arcount ← numberAt message 10 2
  some {
    id
    qr := flags.testBit 15
    opcode := flags / 2 ^ 11 % 16
    aa := flags.testBit 10
    tc := flags.testBit 9
    rd := flags.testBit 8
    ra := flags.testBit 7
    z := flags / 2 ^ 4 % 8
    rcode := flags % 16
    qdcount, ancount, nscount, arcount }

def questionAt (message : List UInt8) (position : Nat) : Option (Question × Nat) := do
  let (name, after) ← nameAt message position position
  let type ← numberAt message after 2
  let qclass ← numberAt message (after + 2) 2
  some ({ name, type, qclass }, after + 4)

def recordAt (message : List UInt8) (position : Nat) : Option (Record × Nat) := do
  let (owner, after) ← nameAt message position position
  let type ← numberAt message after 2
  let rclass ← numberAt message (after + 2) 2
  let ttl ← numberAt message (after + 4) 4
  let length ← numberAt message (after + 8) 2
  let data ← bytesAt message (after + 10) length
  some ({ owner, type, rclass, ttl, data }, after + 10 + length)

/-- `count` entries, one behind the other. -/
def entriesAt {α : Type} (entryAt : Nat → Option (α × Nat)) : Nat → Nat → Option (List α × Nat)
  | 0, position => some ([], position)
  | count + 1, position => do
    let (entry, after) ← entryAt position
    let (entries, last) ← entriesAt entryAt count after
    some (entry :: entries, last)

/-- A whole message: the four sections that its header announces, and nothing behind them. -/
def decode (message : List UInt8) : Option Message := do
  let header ← headerAt message
  let (questions, behindQuestions) ← entriesAt (questionAt message) header.qdcount 12
  let (answers, behindAnswers) ← entriesAt (recordAt message) header.ancount behindQuestions
  let (authorities, behindAuthorities) ←
    entriesAt (recordAt message) header.nscount behindAnswers
  let (additionals, behindAdditionals) ←
    entriesAt (recordAt message) header.arcount behindAuthorities
  if behindAdditionals = message.length then
    some { header, questions, answers, authorities, additionals }
  else none

/-! ## What the readers find -/

section Readers

variable {message rest : List UInt8} {position : Nat}

theorem headerAt_cons {id₀ id₁ flags₀ flags₁ qd₀ qd₁ an₀ an₁ ns₀ ns₁ ar₀ ar₁ : UInt8} :
    headerAt (id₀ :: id₁ :: flags₀ :: flags₁ :: qd₀ :: qd₁ :: an₀ :: an₁ :: ns₀ :: ns₁ :: ar₀ ::
      ar₁ :: rest) = some {
        id := bigEndian [id₀, id₁]
        qr := (bigEndian [flags₀, flags₁]).testBit 15
        opcode := bigEndian [flags₀, flags₁] / 2 ^ 11 % 16
        aa := (bigEndian [flags₀, flags₁]).testBit 10
        tc := (bigEndian [flags₀, flags₁]).testBit 9
        rd := (bigEndian [flags₀, flags₁]).testBit 8
        ra := (bigEndian [flags₀, flags₁]).testBit 7
        z := bigEndian [flags₀, flags₁] / 2 ^ 4 % 8
        rcode := bigEndian [flags₀, flags₁] % 16
        qdcount := bigEndian [qd₀, qd₁]
        ancount := bigEndian [an₀, an₁]
        nscount := bigEndian [ns₀, ns₁]
        arcount := bigEndian [ar₀, ar₁] } := by
  simp [headerAt, numberAt, bytesAt, takeExactly]

theorem questionAt_drop {labels : List (List UInt8)} {type qclass : List UInt8}
    (hlabels : ∀ label ∈ labels, IsLabel label)
    (hdrop : message.drop position = encodeName labels ++ (type ++ (qclass ++ rest)))
    (htype : type.length = 2) (hclass : qclass.length = 2) :
    questionAt message position =
      some (⟨labels, bigEndian type, bigEndian qclass⟩,
        position + (encodeName labels).length + 4) := by
  have hbehind := drop_behind hdrop rfl
  have hlast := drop_behind hbehind htype
  rw [questionAt, nameAt_encodeName hlabels hdrop, Option.bind_eq_bind, Option.bind_some]
  dsimp only
  rw [numberAt_drop hbehind htype, Option.bind_eq_bind, Option.bind_some,
    numberAt_drop hlast hclass]
  rfl

theorem recordAt_drop {owner : List (List UInt8)} {after : Nat}
    {type rclass ttl length data : List UInt8}
    (howner : nameAt message position position = some (owner, after))
    (hdrop : message.drop after =
      type ++ (rclass ++ (ttl ++ (length ++ (data ++ rest)))))
    (htype : type.length = 2) (hclass : rclass.length = 2) (httl : ttl.length = 4)
    (hlength : length.length = 2) (hdata : bigEndian length = data.length) :
    recordAt message position =
      some (⟨owner, bigEndian type, bigEndian rclass, bigEndian ttl, data⟩,
        after + 10 + data.length) := by
  have hbehindType := drop_behind hdrop htype
  have hbehindClass := drop_behind hbehindType hclass
  have hbehindTtl := drop_behind hbehindClass httl
  have hbehindLength := drop_behind hbehindTtl hlength
  simp only [Nat.add_assoc, Nat.reduceAdd] at hbehindClass hbehindTtl hbehindLength
  rw [recordAt, howner, Option.bind_eq_bind, Option.bind_some]
  dsimp only
  rw [numberAt_drop hdrop htype, numberAt_drop hbehindType hclass,
    numberAt_drop hbehindClass httl, numberAt_drop hbehindTtl hlength]
  simp only [Option.bind_eq_bind, Option.bind_some, hdata, bytesAt_drop hbehindLength]

theorem entriesAt_one {α : Type} {entryAt : Nat → Option (α × Nat)} {entry : α} {after : Nat}
    (hentry : entryAt position = some (entry, after)) :
    entriesAt entryAt 1 position = some ([entry], after) := by
  rw [entriesAt, hentry]
  rfl

/-- A message is read section by section. -/
theorem decode_of_sections {header : Header} {questions : List Question}
    {answers authorities additionals : List Record}
    {behindQuestions behindAnswers behindAuthorities : Nat}
    (hheader : headerAt message = some header)
    (hquestions : entriesAt (questionAt message) header.qdcount 12 =
      some (questions, behindQuestions))
    (hanswers : entriesAt (recordAt message) header.ancount behindQuestions =
      some (answers, behindAnswers))
    (hauthorities : entriesAt (recordAt message) header.nscount behindAnswers =
      some (authorities, behindAuthorities))
    (hadditionals : entriesAt (recordAt message) header.arcount behindAuthorities =
      some (additionals, message.length)) :
    decode message = some { header, questions, answers, authorities, additionals } := by
  simp only [decode, hheader, hquestions, hanswers, hauthorities, hadditionals,
    Option.bind_eq_bind, Option.bind_some, if_true]

end Readers

end DnsMessage
