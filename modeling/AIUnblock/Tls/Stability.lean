import AIUnblock.Foundation.Incremental
import AIUnblock.Tls.Grammar

/-! # Answers are final

Once the parser has answered anything but `needMore`, no continuation of the
bytes changes its answer.
-/

namespace AIUnblock.Tls

open LengthPrefixed TlsClientHello

/-- An answer that has been found does not change when more records follow. -/
theorem recordsResult_append (handshake stream more : Bytes)
    (hdone : recordsResult handshake stream ≠ .needMore) :
    recordsResult handshake (stream ++ more) = recordsResult handshake stream := by
  induction hmeasure : stream.length using Nat.strong_induction_on
    generalizing handshake stream with
  | _ measure ih =>
    match stream with
    | type :: major :: minor :: high :: low :: rest =>
      simp only [List.cons_append]
      rw [recordsResult_record] at hdone ⊢
      rw [recordsResult_record]
      split at hdone
      next hother => rw [if_pos hother, if_pos hother]
      next hother =>
        split at hdone
        next => exact absurd rfl hdone
        next hroom =>
          have hroom' : ¬ (rest ++ more).length < bigEndian [high, low] := by
            rw [List.length_append]
            omega
          rw [if_neg hother, if_neg hother, if_neg hroom, if_neg hroom',
            List.take_append_of_le_length (by omega), List.drop_append_of_le_length (by omega)]
          cases hmessage : messageLength (handshake ++ rest.take (bigEndian [high, low])) with
          | some limit => rfl
          | none =>
              rw [hmessage] at hdone
              apply ih _ _ _ _ hdone rfl
              rw [← hmeasure, List.length_drop]
              simp only [List.length_cons]
              omega
    | [] | [_] | [_, _] | [_, _, _] | [_, _, _, _] =>
      exact absurd (recordsResult_short (by simp)) hdone

/-- `parse` is a stable reader: once it has answered, the answer stays. -/
theorem parse_stable :
    Incremental.Stable parse fun answer => answer = .ok .needMore := by
  intro bytes more hdone
  rw [parse_eq] at hdone ⊢
  rw [parse_eq, recordsResult_append [] bytes more]
  exact fun heq => hdone (congrArg Except.ok heq)

end AIUnblock.Tls
