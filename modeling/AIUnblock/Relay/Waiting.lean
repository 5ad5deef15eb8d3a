import AIUnblock.Relay.ClientHelloStream
import AIUnblock.Tls.Missing

/-! # Waiting for the rest of a ClientHello

With bytes in its buffer that the parser does not answer, `readClientHello` reads on until
the buffer is full. That is in vain at a dead end of the parser, and where the lengths that
have arrived ask for more than the buffer holds.
-/

namespace AIUnblock.LocalSocksRelay

open Prog Tls

/-- The client may send something to which the loop, with `buffer` read, has an answer. -/
def Resolves (client : SocketId) (buffer : Bytes) : Prop :=
  ∃ input payload after,
    Outcome (Delivers client) (readClientHello client buffer).run input (.ok payload) after ∧
      TlsClientHello.parse payload ≠ .ok .needMore

variable {client : SocketId} {buffer : Bytes}

theorem answered_of_missing (hanswer : recordsResult [] buffer ≠ .needMore) :
    missing [] buffer = 0 := by
  rw [← List.append_nil buffer] at hanswer
  exact Nat.le_zero.mp (missing_le hanswer)

/-- What the loop reads fits the buffer. -/
theorem missing_fits (hroom : buffer.length < MAX_CLIENT_HELLO)
    (hresolves : Resolves client buffer) :
    buffer.length + missing [] buffer ≤ MAX_CLIENT_HELLO := by
  obtain ⟨input, payload, after, hrun, hanswer⟩ := hresolves
  obtain ⟨_, rest, heq, hcollects, _⟩ := readClientHello_collects hroom.le hrun
  cases heq
  have hlength := hcollects.length_le hroom.le
  have hprefix : buffer <+: payload := hcollects.buffer_prefix
  obtain ⟨more, rfl⟩ := hprefix
  rw [parse_eq, ne_eq, Except.ok.injEq] at hanswer
  have hless := missing_le hanswer
  rw [List.length_append] at hlength
  omega

/-- Sent in one piece, what is missing ends the loop. -/
theorem resolves_of_fits (hpending : TlsClientHello.parse buffer = .ok .needMore)
    (hlive : ¬ DeadEnd [] buffer) (hroom : buffer.length < MAX_CLIENT_HELLO)
    (hfits : buffer.length + missing [] buffer ≤ MAX_CLIENT_HELLO) : Resolves client buffer := by
  have hbound : MAX_CLIENT_HELLO = 256 ^ 2 := rfl
  obtain ⟨more, hlength, hanswer⟩ := exists_missing hlive rfl (by omega)
  have hnonempty : more ≠ [] := by
    rintro rfl
    rw [List.append_nil] at hanswer
    rw [parse_eq, Except.ok.injEq] at hpending
    exact hanswer hpending
  have hdone : TlsClientHello.parse (buffer ++ more) ≠ .ok .needMore := by
    rwa [parse_eq, ne_eq, Except.ok.injEq]
  have hcollects : Incremental.Collects TlsClientHello.parse (· = .ok .needMore) MAX_CLIENT_HELLO
      buffer (more ++ []) (buffer ++ more) [] :=
    .answered hnonempty (by omega) hdone
  exact ⟨_, _, _, readClientHello_of_collects hcollects, hdone⟩

/-- The parser asks for more only when more can help, and the loop reads on only when the
client can still end it before its timeout and before the buffer is full, exactly if no
record of another kind stands in the way and what is missing fits the buffer. -/
theorem readClientHello_resolves_iff (client : SocketId) (buffer : Bytes) :
    ((TlsClientHello.parse buffer = .ok .needMore →
        ∃ more, TlsClientHello.parse (buffer ++ more) ≠ .ok .needMore) ∧
      (TlsClientHello.parse buffer = .ok .needMore → buffer.length < MAX_CLIENT_HELLO →
        Resolves client buffer)) ↔
      ¬ DeadEnd [] buffer ∧
        (buffer.length < MAX_CLIENT_HELLO →
          buffer.length + missing [] buffer ≤ MAX_CLIENT_HELLO) := by
  rw [parse_resolves_iff]
  refine and_congr_right fun hlive => ⟨fun hwaits hroom => ?_, fun hfits hpending hroom => ?_⟩
  · by_cases hpending : TlsClientHello.parse buffer = .ok .needMore
    · exact missing_fits hroom (hwaits hpending hroom)
    · rw [parse_eq, Except.ok.injEq] at hpending
      rw [answered_of_missing hpending]
      exact hroom.le
  · exact resolves_of_fits hpending hlive hroom (hfits hroom)

/-- A header that announces a message of sixteen megabytes: its record can be completed, but
not within the buffer. -/
example : ¬ 9 + missing [] [22, 3, 3, 0, 4, 1, 255, 255, 255] ≤ MAX_CLIENT_HELLO := by
  decide +kernel

end AIUnblock.LocalSocksRelay
