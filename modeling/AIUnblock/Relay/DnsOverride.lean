import AIUnblock.Kotlin.Network

/-! # `DnsOverride`

Answers of the relay to queries for the names with a fixed address.
-/

namespace AIUnblock.DnsOverride

def HEADER_SIZE : Nat := 12
def TYPE_A : Nat := 1
def TYPE_AAAA : Nat := 28
def CLASS_IN : Nat := 1

/-- The label loop of `response`: the labels and the offset after them. -/
def labelLoop (query : Bytes) (offset : Nat) (labels : List Text) :
    Except Exception (Option (List Text × Nat)) :=
  if offset < query.length then do
    let length ← u8 query offset
    if length = 0 then return some (labels, offset + 1)
    else if length > 63 ∨ offset + 1 + length > query.length then return none
    else do
      let label := decodeUsAscii (← copyOfRange query (offset + 1) (offset + 1 + length))
      labelLoop query (offset + 1 + length) (labels ++ [label])
  else return some (labels, offset)
termination_by query.length - offset

/-- The answer record: a pointer to the question's name, then the address. -/
def answerRecord (address : Bytes) : Bytes :=
  [0xc0, 0x0c, 0, UInt8.ofNat TYPE_A, 0, UInt8.ofNat CLASS_IN, 0, 0, 0, 60, 0, 4] ++ address

/-- The response to a query whose question ends at `questionEnd`. -/
def encodeResponse (query : Bytes) (flags : UInt8) (questionEnd queryType : Nat)
    (address : Bytes) : Bytes :=
  let header := (query.take questionEnd).set 2 (0x80 ||| (flags &&& 0x01)) |>.set 3 0x80
    |>.set 6 0 |>.set 7 (if queryType = TYPE_A then 1 else 0)
    |>.set 8 0 |>.set 9 0 |>.set 10 0 |>.set 11 0
  header ++ if queryType = TYPE_A then answerRecord address else []

/-- `getByName` reads the addresses of the rule table. -/
def response (platform : Platform) (getByName : Text → Except Exception InetAddress)
    (query : Bytes) (fixedAddressFor : Text → Option Text) : Except Exception (Option Bytes) := do
  if query.length < HEADER_SIZE then return none
  if (← u16 query 4) ≠ 1 then return none
  let flags ← byteAt query 2
  if flags &&& 0x78 ≠ 0 then return none
  match ← labelLoop query HEADER_SIZE [] with
  | none => return none
  | some (labels, offset) =>
    if labels = [] ∨ offset + 4 > query.length then return none
    let queryType ← u16 query offset
    let queryClass ← u16 query (offset + 2)
    let questionEnd := offset + 4
    if queryClass ≠ CLASS_IN ∨ queryType ∉ [TYPE_A, TYPE_AAAA] then return none
    let host := platform.lowercase (List.intercalate ['.'] labels)
    match (fixedAddressFor host).map getByName with
    | some (.ok (.inet4 address)) =>
      return some (encodeResponse query flags questionEnd queryType address)
    | _ => return none

/-- `response` where `fixedAddressFor` is code of its own, which may do more than answer. -/
def responseIn {m : Type → Type} [Monad m] [MonadLiftT (Except Exception) m]
    (platform : Platform) (getByName : Text → Except Exception InetAddress) (query : Bytes)
    (fixedAddressFor : Text → m (Option Text)) : m (Option Bytes) := do
  if query.length < HEADER_SIZE then return none
  if (← liftM (u16 query 4)) ≠ 1 then return none
  let flags ← liftM (byteAt query 2)
  if flags &&& 0x78 ≠ 0 then return none
  match ← liftM (labelLoop query HEADER_SIZE []) with
  | none => return none
  | some (labels, offset) =>
    if labels = [] ∨ offset + 4 > query.length then return none
    let queryType ← liftM (u16 query offset)
    let queryClass ← liftM (u16 query (offset + 2))
    let questionEnd := offset + 4
    if queryClass ≠ CLASS_IN ∨ queryType ∉ [TYPE_A, TYPE_AAAA] then return none
    let host := platform.lowercase (List.intercalate ['.'] labels)
    match (← fixedAddressFor host).map getByName with
    | some (.ok (.inet4 address)) =>
      return some (encodeResponse query flags questionEnd queryType address)
    | _ => return none

theorem responseIn_pure (platform : Platform) (getByName : Text → Except Exception InetAddress)
    (query : Bytes) (fixedAddressFor : Text → Option Text) :
    responseIn platform getByName query (fun host => .ok (fixedAddressFor host)) =
      response platform getByName query fixedAddressFor := rfl

/-! ## No query makes the override throw -/

theorem labelLoop_returns (query : Bytes) (offset : Nat) (labels : List Text) :
    ∃ found, labelLoop query offset labels = .ok found := by
  induction offset, labels using labelLoop.induct query with
  | case1 offset labels hlt ih =>
      rw [labelLoop, if_pos hlt]
      apply exists_ok_bind ⟨_, u8_eq_ok (byteAt_eq_ok hlt)⟩
      intro length _
      apply exists_ok_ite (fun _ => ⟨_, rfl⟩)
      intro _
      apply exists_ok_ite (fun _ => ⟨_, rfl⟩)
      intro hfits
      apply exists_ok_bind ⟨_, copyOfRange_eq_ok (by omega) (by omega)⟩
      intro label _
      exact ih length hfits label
  | case2 offset labels hlt =>
      rw [labelLoop, if_neg hlt]
      exact ⟨_, rfl⟩

theorem response_returns (platform : Platform) (getByName : Text → Except Exception InetAddress)
    (query : Bytes) (fixedAddressFor : Text → Option Text) :
    ∃ answer, response platform getByName query fixedAddressFor = .ok answer := by
  unfold response
  apply exists_ok_ite (fun _ => ⟨_, rfl⟩)
  intro hlength
  have hheader : 12 ≤ query.length := by
    unfold HEADER_SIZE at hlength
    omega
  apply exists_ok_bind (u16_returns (by omega))
  intro count _
  apply exists_ok_ite (fun _ => ⟨_, rfl⟩)
  intro _
  apply exists_ok_bind ⟨_, byteAt_eq_ok (by omega)⟩
  intro flags _
  apply exists_ok_ite (fun _ => ⟨_, rfl⟩)
  intro _
  apply exists_ok_bind (labelLoop_returns query HEADER_SIZE [])
  intro found _
  cases found with
  | none => exact ⟨_, rfl⟩
  | some question =>
      obtain ⟨labels, offset⟩ := question
      apply exists_ok_ite (fun _ => ⟨_, rfl⟩)
      intro hquestion
      have hfits : offset + 4 ≤ query.length := by
        by_contra hover
        exact hquestion (Or.inr (by omega))
      apply exists_ok_bind (u16_returns (by omega))
      intro queryType _
      apply exists_ok_bind (u16_returns (by omega))
      intro queryClass _
      apply exists_ok_ite (fun _ => ⟨_, rfl⟩)
      intro _
      dsimp only
      split
      next => exact ⟨_, rfl⟩
      next => exact ⟨_, rfl⟩

end AIUnblock.DnsOverride
