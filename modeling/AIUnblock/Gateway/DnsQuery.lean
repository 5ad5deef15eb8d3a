import AIUnblock.Foundation.Separators
import AIUnblock.Kotlin.Checked
import AIUnblock.Relay.DnsLookups

/-! # The query of `GatewaySelector`

`dnsQuery` computes the size of its packet first and then writes label after label at a
running offset. What it writes is the question that `DnsOverride` reads: the two parts
of the program share no code, and agree on the format.
-/

namespace AIUnblock.GatewaySelector

open LengthPrefixed DnsMessage DnsOverride

/-! ## The code -/

/-- `labels.sumOf { it.length + 1 }`. -/
def labelsSize (labels : List Text) : Nat := (labels.map fun label => label.length + 1).sum

/-- The label loop of `dnsQuery`: the packet and the offset behind the labels. -/
def writeLabels : List Text → Bytes → Nat → Except Exception (Bytes × Nat)
  | [], packet, offset => return (packet, offset)
  | label :: labels, packet, offset => do
    let packet ← setByte packet offset (UInt8.ofNat label.length)
    let bytes := usAsciiBytes label
    let packet ← copyInto bytes packet (offset + 1) bytes.length
    writeLabels labels packet (offset + 1 + bytes.length)

/-- What `dnsQuery` does: the packet, and the `offset` of the last write. The identifier
is the low 16 bits of `System.nanoTime()`. -/
def writeQuery (nanoTime : Int) (domain : Text) : Except Exception (Bytes × Nat) := do
  let labels := domain.splitOn '.'
  let size := 12 + labelsSize labels + 1 + 4
  let packet := List.replicate size 0
  let id := (nanoTime % 0x10000).toNat
  let packet ← setByte packet 0 (UInt8.ofNat (id >>> 8))
  let packet ← setByte packet 1 (UInt8.ofNat id)
  let packet ← setByte packet 2 0x01
  let packet ← setByte packet 5 0x01
  let (packet, offset) ← writeLabels labels packet 12
  let packet ← setByte packet offset 0
  let packet ← setByte packet (offset + 1) 0
  let packet ← setByte packet (offset + 2) 1
  let packet ← setByte packet (offset + 3) 0
  let packet ← setByte packet (offset + 4) 1
  return (packet, offset + 4)

def dnsQuery (nanoTime : Int) (domain : Text) : Except Exception Bytes := do
  return (← writeQuery nanoTime domain).1

/-! ## The packet is a question -/

/-- The header of a query. -/
def queryHeader (nanoTime : Int) : HeaderBytes where
  id₀ := UInt8.ofNat ((nanoTime % 0x10000).toNat >>> 8)
  id₁ := UInt8.ofNat (nanoTime % 0x10000).toNat
  flags₀ := 0x01
  flags₁ := 0
  qd₀ := 0
  qd₁ := 0x01
  an₀ := 0
  an₁ := 0
  ns₀ := 0
  ns₁ := 0
  ar₀ := 0
  ar₁ := 0

/-- The labels of a domain, as bytes. -/
def wireLabels (labels : List Text) : List Bytes := labels.map usAsciiBytes

theorem labelsSize_cons (label : Text) (labels : List Text) :
    labelsSize (label :: labels) = label.length + 1 + labelsSize labels := by
  rw [labelsSize, List.map_cons, List.sum_cons, labelsSize]

/-- The size formula counts the bytes of the labels. -/
theorem length_wireLabels (labels : List Text) :
    ((wireLabels labels).flatMap (vector 1)).length = labelsSize labels := by
  induction labels with
  | nil => rfl
  | cons label labels ih =>
      rw [wireLabels, List.map_cons, List.flatMap_cons, List.length_append, length_vector,
        length_usAsciiBytes, labelsSize_cons, ← ih, wireLabels]
      omega

/-- One turn of the loop writes one label, with its length in front. -/
theorem writeLabels_cons (label : Text) (labels : List Text) (before after : Bytes) :
    writeLabels (label :: labels) (before ++ List.replicate (label.length + 1) 0 ++ after)
        before.length =
      writeLabels labels (before ++ vector 1 (usAsciiBytes label) ++ after)
        (before ++ vector 1 (usAsciiBytes label)).length := by
  have hroom : before ++ List.replicate (label.length + 1) 0 ++ after =
      before ++ 0 :: (List.replicate label.length 0 ++ after) := by
    rw [List.replicate_succ, List.append_assoc, List.cons_append]
  have hwritten : before ++ UInt8.ofNat label.length :: (List.replicate label.length 0 ++ after) =
      before ++ [UInt8.ofNat label.length] ++ List.replicate label.length 0 ++ after := by
    simp only [List.append_assoc, List.cons_append, List.nil_append]
  have hnext : before.length + 1 = (before ++ [UInt8.ofNat label.length]).length := by
    rw [List.length_append, List.length_singleton]
  have hlabel : before ++ vector 1 (usAsciiBytes label) =
      before ++ [UInt8.ofNat label.length] ++ usAsciiBytes label := by
    rw [vector_one, length_usAsciiBytes, List.append_assoc, List.singleton_append]
  rw [writeLabels, hroom, setByte_middle, ok_bind, hwritten]
  dsimp only
  rw [hnext, copyInto_middle (by simp), ok_bind, hlabel, ← List.length_append]

/-- The loop fills the room of the labels, and nothing else. -/
theorem writeLabels_eq (labels : List Text) (before after : Bytes) :
    writeLabels labels (before ++ List.replicate (labelsSize labels) 0 ++ after) before.length =
      .ok (before ++ (wireLabels labels).flatMap (vector 1) ++ after,
        before.length + labelsSize labels) := by
  induction labels generalizing before with
  | nil => rfl
  | cons label labels ih =>
      have hroom : before ++ List.replicate (labelsSize (label :: labels)) 0 ++ after =
          before ++ List.replicate (label.length + 1) 0 ++
            (List.replicate (labelsSize labels) 0 ++ after) := by
        rw [labelsSize_cons, List.replicate_add]
        simp only [List.append_assoc]
      have hnames : (wireLabels (label :: labels)).flatMap (vector 1) =
          vector 1 (usAsciiBytes label) ++ (wireLabels labels).flatMap (vector 1) := rfl
      have hlength : (before ++ vector 1 (usAsciiBytes label)).length + labelsSize labels =
          before.length + labelsSize (label :: labels) := by
        rw [List.length_append, length_vector, length_usAsciiBytes, labelsSize_cons]
        omega
      rw [hroom, writeLabels_cons, ← List.append_assoc, ih, hlength, hnames]
      simp only [List.append_assoc]

/-- Whatever the domain, no write is out of bounds, and the last one is of the last byte. -/
theorem writeQuery_eq (nanoTime : Int) (domain : Text) :
    writeQuery nanoTime domain =
      .ok (encodeQuery (queryHeader nanoTime) (wireLabels (domain.splitOn '.')) [0, 1] [],
        12 + labelsSize (domain.splitOn '.') + 4) := by
  generalize hlabels : domain.splitOn '.' = labels
  have hpacket : List.replicate (12 + labelsSize labels + 1 + 4) (0 : UInt8) =
      List.replicate 12 0 ++ (List.replicate (labelsSize labels) 0 ++ List.replicate 5 0) := by
    rw [Nat.add_assoc, List.replicate_add, List.replicate_add, List.append_assoc]
  have hheader : (List.replicate 12 (0 : UInt8)
        |>.set 0 (UInt8.ofNat ((nanoTime % 0x10000).toNat >>> 8))
        |>.set 1 (UInt8.ofNat (nanoTime % 0x10000).toNat) |>.set 2 0x01 |>.set 5 0x01) =
      (queryHeader nanoTime).before [] := rfl
  have hloop := writeLabels_eq labels ((queryHeader nanoTime).before []) (List.replicate 5 0)
  have htwelve : ((queryHeader nanoTime).before []).length = 12 := rfl
  rw [htwelve] at hloop
  rw [writeQuery]
  dsimp only
  rw [hlabels, hpacket, setByte_front (by simp), ok_bind, setByte_front (by simp), ok_bind,
    setByte_front (by simp), ok_bind, setByte_front (by simp), ok_bind, hheader,
    ← List.append_assoc, hloop, ok_bind]
  dsimp only
  -- the root label, the type and the class
  have hwritten : ((queryHeader nanoTime).before [] ++
      (wireLabels labels).flatMap (vector 1)).length = 12 + labelsSize labels := by
    rw [List.length_append, htwelve, length_wireLabels]
  rw [← hwritten, List.replicate_succ, setByte_middle, ok_bind, setByte_behind (by simp), ok_bind,
    setByte_behind (by simp), ok_bind, setByte_behind (by simp), ok_bind,
    setByte_behind (by simp), ok_bind]
  rw [encodeQuery, encodeName]
  simp only [List.append_assoc]
  rfl

theorem labelsSize_eq {labels : List Text} (hne : labels ≠ []) :
    labelsSize labels = (['.'].intercalate labels).length + 1 := by
  induction labels with
  | nil => contradiction
  | cons label labels ih =>
      rw [labelsSize_cons]
      cases labels with
      | nil => simp [labelsSize]
      | cons next labels =>
          rw [ih (List.cons_ne_nil next labels), List.intercalate_cons_cons, List.length_append,
            List.length_append, List.length_singleton]
          omega

theorem length_question (nanoTime : Int) (labels : List Text) :
    (encodeQuery (queryHeader nanoTime) (wireLabels labels) [0, 1] []).length =
      12 + labelsSize labels + 4 + 1 := by
  rw [← length_wireLabels, encodeQuery, encodeName]
  simp only [HeaderBytes.before, List.length_cons, List.length_append, List.length_nil]
  omega

/-! ## No sum wraps -/

/-- The offset moves on by the size of the labels. -/
theorem writeLabels_offset (labels : List Text) (packet : Bytes) (offset : Nat) :
    Returns (writeLabels labels packet offset) fun written =>
      written.2 = offset + labelsSize labels := by
  induction labels generalizing packet offset with
  | nil => exact Returns.ok rfl
  | cons label labels ih =>
      rw [writeLabels]
      refine Returns.bind fun packet _ => Returns.bind fun packet _ => ?_
      intro written hwritten
      rw [ih packet _ written hwritten, length_usAsciiBytes, labelsSize_cons]
      omega

namespace Checked

/-- `labels.sumOf { it.length + 1 }` with checked sums. -/
def labelsSize : List Text → Nat → Except Exception Nat
  | [], sum => return sum
  | label :: labels, sum => do
    fits (label.length + 1)
    fits (sum + (label.length + 1))
    labelsSize labels (sum + (label.length + 1))

/-- The label loop of `dnsQuery` with checked sums. -/
def writeLabels : List Text → Bytes → Nat → Except Exception (Bytes × Nat)
  | [], packet, offset => return (packet, offset)
  | label :: labels, packet, offset => do
    let packet ← setByte packet offset (UInt8.ofNat label.length)
    fits (offset + 1)
    let bytes := usAsciiBytes label
    let packet ← copyInto bytes packet (offset + 1) bytes.length
    fits (offset + 1 + bytes.length)
    writeLabels labels packet (offset + 1 + bytes.length)

/-- `writeQuery` with checked sums. -/
def writeQuery (nanoTime : Int) (domain : Text) : Except Exception (Bytes × Nat) := do
  let labels := domain.splitOn '.'
  let sum ← labelsSize labels 0
  let size := 12 + sum + 1 + 4
  fits size
  let packet := List.replicate size 0
  let id := (nanoTime % 0x10000).toNat
  let packet ← setByte packet 0 (UInt8.ofNat (id >>> 8))
  let packet ← setByte packet 1 (UInt8.ofNat id)
  let packet ← setByte packet 2 0x01
  let packet ← setByte packet 5 0x01
  let (packet, offset) ← writeLabels labels packet 12
  fits (offset + 4)
  let packet ← setByte packet offset 0
  let packet ← setByte packet (offset + 1) 0
  let packet ← setByte packet (offset + 2) 1
  let packet ← setByte packet (offset + 3) 0
  let packet ← setByte packet (offset + 4) 1
  return (packet, offset + 4)

theorem labelsSize_eq (labels : List Text) (sum : Nat)
    (hfits : sum + GatewaySelector.labelsSize labels < 2 ^ 31) :
    labelsSize labels sum = .ok (sum + GatewaySelector.labelsSize labels) := by
  induction labels generalizing sum with
  | nil => rfl
  | cons label labels ih =>
      rw [labelsSize_cons] at hfits ⊢
      rw [labelsSize, fits_bind (by omega), fits_bind (by omega), ih _ (by omega)]
      congr 1
      omega

theorem writeLabels_eq (labels : List Text) (packet : Bytes) (offset : Nat)
    (hfits : offset + GatewaySelector.labelsSize labels < 2 ^ 31) :
    writeLabels labels packet offset = GatewaySelector.writeLabels labels packet offset := by
  induction labels generalizing packet offset with
  | nil => rfl
  | cons label labels ih =>
      have hbytes := length_usAsciiBytes label
      rw [labelsSize_cons] at hfits
      rw [writeLabels, GatewaySelector.writeLabels]
      refine bind_congr_ok fun packet _ => ?_
      rw [fits_bind (by omega)]
      refine bind_congr_ok fun packet _ => ?_
      rw [fits_bind (by omega)]
      exact ih packet _ (by omega)

/-- The packet is eighteen bytes longer than the domain. As long as that is an `Int`, all
sums are. -/
theorem writeQuery_eq (nanoTime : Int) (domain : Text) (hfits : domain.length + 18 < 2 ^ 31) :
    writeQuery nanoTime domain = GatewaySelector.writeQuery nanoTime domain := by
  have hsize := GatewaySelector.labelsSize_eq (List.splitOn_ne_nil '.' domain)
  rw [List.intercalate_splitOn] at hsize
  rw [writeQuery, GatewaySelector.writeQuery]
  dsimp only
  rw [labelsSize_eq _ 0 (by omega), ok_bind, Nat.zero_add, fits_bind (by omega)]
  refine bind_congr_ok fun packet _ => bind_congr_ok fun packet _ => ?_
  refine bind_congr_ok fun packet _ => bind_congr_ok fun packet _ => ?_
  rw [writeLabels_eq _ _ 12 (by omega)]
  refine bind_congr_ok fun written hwritten => ?_
  have hoffset := writeLabels_offset _ _ _ written hwritten
  exact fits_bind (by omega)

end Checked

/-! ## Host names -/

/-- A letter, a digit or a hyphen of US-ASCII. -/
def IsHostChar (c : Char) : Prop := c.isAlphanum = true ∨ c = '-'

/-- A label of a host name. -/
structure IsHostLabel (label : Text) : Prop where
  nonempty : label ≠ []
  length_le : label.length ≤ 63
  isHostChar : ∀ c ∈ label, IsHostChar c

/-- One or more labels. -/
structure HostName where
  labels : List Text
  nonempty : labels ≠ []
  isHostLabel : ∀ label ∈ labels, IsHostLabel label

/-- The labels, separated by dots. -/
def HostName.domain (name : HostName) : Text := List.intercalate ['.'] name.labels

theorem IsHostChar.ascii {c : Char} (hhost : IsHostChar c) : c.toNat < 128 := by
  rcases hhost with halpha | rfl
  · unfold Char.isAlphanum Char.isAlpha Char.isUpper Char.isLower Char.isDigit at halpha
    simp only [Bool.or_eq_true, Bool.and_eq_true, decide_eq_true_eq, ge_iff_le,
      UInt32.le_iff_toNat_le, Char.reduceVal, UInt32.reduceToNat, Char.toNat_val] at halpha
    omega
  · decide

theorem IsHostChar.ne_dot {c : Char} (hhost : IsHostChar c) : c ≠ '.' := by
  rintro rfl
  revert hhost
  unfold IsHostChar
  decide

theorem IsHostLabel.isLabel {label : Text} (hlabel : IsHostLabel label) :
    IsLabel (usAsciiBytes label) := by
  refine ⟨?_, ?_⟩
  · rw [usAsciiBytes, ne_eq, List.map_eq_nil_iff]
    exact hlabel.nonempty
  · rw [length_usAsciiBytes]
    exact hlabel.length_le

namespace HostName

variable (name : HostName)

theorem ascii : ∀ c ∈ name.domain, c.toNat < 128 := by
  intro c hmem
  rcases Separators.mem_intercalate hmem with rfl | ⟨label, hlabel, hc⟩
  · decide
  · exact ((name.isHostLabel label hlabel).isHostChar c hc).ascii

/-- Splitting at the dots finds the labels again. -/
theorem splitOn_domain : name.domain.splitOn '.' = name.labels := by
  apply List.splitOn_intercalate '.' _ name.nonempty
  intro label hlabel hdot
  exact ((name.isHostLabel label hlabel).isHostChar '.' hdot).ne_dot rfl

theorem decode_wireLabels : (wireLabels name.labels).map decodeUsAscii = name.labels := by
  rw [wireLabels, List.map_map]
  conv_rhs => rw [← List.map_id name.labels]
  apply List.map_congr_left
  intro label hlabel
  exact decode_usAsciiBytes fun c hc => ((name.isHostLabel label hlabel).isHostChar c hc).ascii

/-- The host that the override looks up is the domain in lower case. -/
theorem hostOf_wireLabels (platform : Platform) :
    hostOf platform (wireLabels name.labels) = name.domain.map Char.toLower := by
  rw [hostOf, name.decode_wireLabels]
  exact platform.lowercase_wire name.domain fun c hc => Or.inl (name.ascii c hc)

/-- The query asks one question, for the address of the domain. -/
theorem asks (nanoTime : Int) : Asks (queryHeader nanoTime) (wireLabels name.labels) [0, 1] := by
  have hcount : bigEndian [0, 1] = 1 := rfl
  have hopcode : (0x01 : UInt8) &&& 0x78 = 0 := rfl
  refine ⟨hcount, hopcode, ?_, ?_, Or.inl rfl⟩
  · intro label hmem
    obtain ⟨text, htext, rfl⟩ := List.mem_map.mp hmem
    exact (name.isHostLabel text htext).isLabel
  · rw [wireLabels, ne_eq, List.map_eq_nil_iff]
    exact name.nonempty

end HostName

/-- For every host name `dnsQuery` writes its packet to the last byte. `response` reads
it with one lookup, of the lower-cased domain, and where that finds the text of an IPv4
address, it answers with a record of that address for the same labels. -/
theorem dnsQuery_answered (platform : Platform) (getByName : Text → Except Exception InetAddress)
    (nanoTime : Int) (name : HostName) :
    ∃ (packet : Bytes) (offset : Nat) (answer : Option Text → Option Bytes),
      dnsQuery nanoTime name.domain = .ok packet ∧
      writeQuery nanoTime name.domain = .ok (packet, offset) ∧ offset + 1 = packet.length ∧
      (responseCalls platform getByName packet).run =
        .call (name.domain.map Char.toLower) (fun found => .ret (.ok (answer found))) ∧
      (∀ fixedAddressFor, response platform getByName packet fixedAddressFor =
        .ok (answer (fixedAddressFor (name.domain.map Char.toLower)))) ∧
      ∀ text octets, getByName text = .ok (.inet4 octets) →
        ∃ reply message, answer (some text) = some reply ∧ decode reply = some message ∧
          message.questions = [⟨wireLabels name.labels, 1, 1⟩] ∧
          message.answers = [⟨wireLabels name.labels, 1, 1, 60, octets⟩] := by
  have hasks := name.asks nanoTime
  have hwritten := writeQuery_eq nanoTime name.domain
  rw [name.splitOn_domain] at hwritten
  refine ⟨_, _, answerTo getByName (queryHeader nanoTime) (wireLabels name.labels) [0, 1], ?_,
    hwritten, (length_question nanoTime name.labels).symm, ?_, fun fixedAddressFor => ?_, ?_⟩
  · rw [dnsQuery, hwritten]
    rfl
  · rw [responseCalls_encodeQuery hasks, name.hostOf_wireLabels]
  · rw [← responseIn_pure, responseIn_encodeQuery ok_bind hasks, name.hostOf_wireLabels]
    rfl
  · intro text octets hread
    obtain ⟨header, hheader⟩ : ∃ header,
        headerAt ((queryHeader nanoTime).before []) = some header := ⟨_, headerAt_cons⟩
    have hkind : bigEndian [0, 1] = 1 := rfl
    have hdecode := decode_encodeAnswer hasks octets.property hheader
    simp only [hkind, if_true] at hdecode
    refine ⟨_, _, ?_, hdecode, rfl, rfl⟩
    rw [answerTo, Option.map_some, hread]

/-- The host name that `authorizeSmartDns` asks for. -/
def smartDnsName : HostName where
  labels := ["chatgpt".toList, "com".toList]
  nonempty := List.cons_ne_nil _ _
  isHostLabel := by
    have hlabels : ∀ label ∈ ["chatgpt".toList, "com".toList],
        label ≠ [] ∧ label.length ≤ 63 ∧ label.all Char.isAlphanum = true := by decide
    intro label hlabel
    obtain ⟨hne, hlength, hchars⟩ := hlabels label hlabel
    exact ⟨hne, hlength, fun c hc => Or.inl (List.all_eq_true.mp hchars c hc)⟩

/-- Its query is answered from a table that has the name. -/
theorem dnsQuery_answered_smartDns :
    ∃ packet reply, dnsQuery 0 "chatgpt.com".toList = .ok packet ∧
      response .ascii (fun _ => .ok .loopback) packet
        (fun host => if host = "chatgpt.com".toList then some "127.0.0.1".toList else none) =
          .ok (some reply) := by
  obtain ⟨packet, _, answer, hquery, _, _, _, hresponse, hanswer⟩ :=
    dnsQuery_answered .ascii (fun _ => .ok .loopback) 0 smartDnsName
  obtain ⟨reply, _, hreply, _⟩ := hanswer "127.0.0.1".toList ⟨[127, 0, 0, 1], rfl⟩ rfl
  have hdomain : smartDnsName.domain = "chatgpt.com".toList := by decide
  have hlower : smartDnsName.domain.map Char.toLower = "chatgpt.com".toList := by decide
  refine ⟨packet, reply, hdomain ▸ hquery, ?_⟩
  rw [hresponse, hlower, if_pos rfl, hreply]

end AIUnblock.GatewaySelector
