import AIUnblock.Relay.Session
import AIUnblock.Tls.Stability

/-! # Chunked client input

A client's bytes arrive in chunks of any size. Reading a ClientHello out of them
is the buffered reading loop over the parser, so the chunks decide nothing.
-/

namespace AIUnblock.LocalSocksRelay

open Prog

/-- What a client will still send: the bytes before the next read timeout, or the
end of the stream if there is none, and what follows each timeout. -/
structure ClientInput where
  segment : Bytes
  later : List Bytes

/-- Reads from a client's socket. -/
inductive Delivers (client : SocketId) : Semantics RelayOp RelayOp.Answer ClientInput
  | chunk {room rest later} (chunk : Chunk room) :
      Delivers client (.read client room) ⟨chunk.bytes ++ rest, later⟩ (.ok (some chunk))
        ⟨rest, later⟩
  | timeout {room segment later message} :
      Delivers client (.read client room) ⟨[], segment :: later⟩
        (.error { kind := .socketTimeout, message }) ⟨segment, later⟩
  | eof {room} : Delivers client (.read client room) ⟨[], []⟩ (.ok none) ⟨[], []⟩

/-- What the chunks of a client are: those that come before the next read timeout, or
before the end of the stream if there is none, and those that come after each timeout. -/
structure Chunked where
  chunks : List { chunk : Bytes // chunk ≠ [] }
  later : List (List { chunk : Bytes // chunk ≠ [] })

/-- The bytes of chunks, one after the other. -/
def joined (chunks : List { chunk : Bytes // chunk ≠ [] }) : Bytes := chunks.flatMap Subtype.val

/-- The chunks without their boundaries. -/
def Chunked.input (chunked : Chunked) : ClientInput where
  segment := joined chunked.chunks
  later := chunked.later.map joined

/-- A read returns the next chunk, or as much of it as there is room for. -/
def readChunks (client : SocketId) : (op : RelayOp) → Chunked → Option (op.Answer × Chunked)
  | .read socket room, chunked =>
    if hread : socket = client ∧ room ≠ 0 then
      match chunked with
      | ⟨chunk :: chunks, later⟩ =>
        some (.ok (some ⟨chunk.val.take room, by simp [chunk.property, hread.2], by simp⟩),
          ⟨if hleft : chunk.val.drop room ≠ [] then ⟨_, hleft⟩ :: chunks else chunks, later⟩)
      | ⟨[], next :: later⟩ => some (.error { kind := .socketTimeout }, ⟨next, later⟩)
      | ⟨[], []⟩ => some (.ok none, ⟨[], []⟩)
    else none
  | _, _ => none

/-- Everything the client will still send. -/
def ClientInput.bytes (input : ClientInput) : Bytes := input.segment ++ input.later.flatten

variable {client : SocketId}

theorem readOrTimeout_cases {room : Nat} {input after : ClientInput}
    {result : Except Exception (Option (Chunk room))}
    (hread : Outcome (Delivers client) (readOrTimeout client room).run input result after) :
    (∃ chunk : Chunk room, result = .ok (some chunk) ∧ after.later = input.later ∧
        input.segment = chunk.bytes ++ after.segment) ∨
      input.segment = [] ∧ result = .ok none ∧ after.bytes = input.later.flatten := by
  rcases Outcome.tryCatch_iff.mp hread with
    ⟨value, hvalue, rfl⟩ | ⟨error, middle, herror, hhandler⟩
  · rcases Outcome.io_iff.mp hvalue with chunk | _ | _
    · exact Or.inl ⟨chunk, rfl, rfl, rfl⟩
    · exact Or.inr ⟨rfl, rfl, rfl⟩
  · rcases Outcome.io_iff.mp herror with _ | _ | _
    obtain ⟨rfl, rfl⟩ := Outcome.pure_iff.mp hhandler
    exact Or.inr ⟨rfl, rfl, rfl⟩

/-- One turn of the loop: a chunk that leaves the parser waiting, a chunk that
answers it, or nothing more to read. -/
theorem readClientHello_turn {buffer : Bytes} {input after : ClientInput}
    {result : Except Exception Bytes} (hlt : buffer.length < MAX_CLIENT_HELLO)
    (hrun : Outcome (Delivers client) (readClientHello client buffer).run input result after) :
    (∃ (chunk : Chunk (MAX_CLIENT_HELLO - buffer.length)) (middle : ClientInput),
        middle.later = input.later ∧ input.segment = chunk.bytes ++ middle.segment ∧
        TlsClientHello.parse (buffer ++ chunk.bytes) = .ok .needMore ∧
        Outcome (Delivers client) (readClientHello client (buffer ++ chunk.bytes)).run middle
          result after) ∨
      (∃ chunk : Chunk (MAX_CLIENT_HELLO - buffer.length),
        after.later = input.later ∧ input.segment = chunk.bytes ++ after.segment ∧
        TlsClientHello.parse (buffer ++ chunk.bytes) ≠ .ok .needMore ∧
        result = .ok (buffer ++ chunk.bytes)) ∨
      input.segment = [] ∧ result = .ok buffer ∧ after.bytes = input.later.flatten := by
  rw [readClientHello, if_pos hlt] at hrun
  rcases Outcome.bindE_iff.mp hrun with ⟨read, middle, hread, hrest⟩ | ⟨error, hread, rfl⟩
  · rcases readOrTimeout_cases hread with
      ⟨chunk, heq, hlater, hsegment⟩ | ⟨hsegment, heq, hbytes⟩
    · cases heq
      dsimp only at hrest
      -- the parser itself never throws
      rcases Outcome.bindE_iff.mp hrest with
        ⟨parsed, middle', hparse, hanswer⟩ | ⟨error, hparse, _⟩
      · obtain ⟨hparsed, rfl⟩ := Outcome.lift_iff.mp hparse
        split at hanswer
        next => exact Or.inl ⟨chunk, middle', hlater, hsegment, hparsed.symm, hanswer⟩
        next hother =>
          obtain ⟨rfl, rfl⟩ := Outcome.pure_iff.mp hanswer
          refine Or.inr (Or.inl ⟨chunk, hlater, hsegment, ?_, rfl⟩)
          rw [← hparsed]
          exact fun heq => hother (Except.ok.inj heq)
      · obtain ⟨herror, _⟩ := Outcome.lift_iff.mp hparse
        rw [Tls.parse_eq] at herror
        contradiction
    · cases heq
      obtain ⟨rfl, rfl⟩ := Outcome.pure_iff.mp hrest
      exact Or.inr (Or.inr ⟨hsegment, rfl, hbytes⟩)
  · rcases readOrTimeout_cases hread with ⟨_, heq, _⟩ | ⟨_, heq, _⟩ <;> cases heq

/-- The loop of `readClientHello` is the buffered reading loop over the parser. -/
theorem readClientHello_collects {buffer : Bytes} {input after : ClientInput}
    {result : Except Exception Bytes} (hbuffer : buffer.length ≤ MAX_CLIENT_HELLO)
    (hrun : Outcome (Delivers client) (readClientHello client buffer).run input result after) :
    ∃ payload rest, result = .ok payload ∧
      Incremental.Collects TlsClientHello.parse (· = .ok .needMore) MAX_CLIENT_HELLO buffer
        input.segment payload rest ∧
      after.bytes = rest ++ input.later.flatten := by
  -- every chunk takes some of the room in the buffer
  induction hroom : MAX_CLIENT_HELLO - buffer.length using Nat.strong_induction_on
    generalizing buffer input with
  | _ room ih =>
    subst hroom
    by_cases hlt : buffer.length < MAX_CLIENT_HELLO
    · rcases readClientHello_turn hlt hrun with
        ⟨chunk, middle, hlater, hsegment, hpending, hrest⟩ |
        ⟨chunk, hlater, hsegment, hanswered, rfl⟩ | ⟨hsegment, rfl, hbytes⟩
      · have hfits := chunk.fits
        have hpos := List.length_pos_iff.mpr chunk.nonempty
        have hnext : (buffer ++ chunk.bytes).length ≤ MAX_CLIENT_HELLO := by
          rw [List.length_append]
          omega
        obtain ⟨payload, rest, hresult, hcollects, hafter⟩ :=
          ih _ (by rw [List.length_append]; omega) hnext hrest rfl
        rw [hsegment, ← hlater]
        exact ⟨payload, rest, hresult, .more chunk.nonempty (by omega) hpending hcollects, hafter⟩
      · have hfits := chunk.fits
        rw [hsegment, ← hlater]
        exact ⟨_, _, rfl, .answered chunk.nonempty (by omega) hanswered, rfl⟩
      · rw [hsegment]
        exact ⟨buffer, [], rfl, .exhausted, by simpa using hbytes⟩
    · rw [readClientHello, if_neg hlt] at hrun
      obtain ⟨rfl, rfl⟩ := Outcome.pure_iff.mp hrun
      exact ⟨buffer, after.segment, rfl, .full (by omega), rfl⟩

/-- Every run of the buffered loop is a run of `readClientHello`, when the client
ends its stream where the source ends. -/
theorem readClientHello_of_collects {buffer source payload rest : Bytes}
    (hcollects : Incremental.Collects TlsClientHello.parse (· = .ok .needMore) MAX_CLIENT_HELLO
      buffer source payload rest) :
    Outcome (Delivers client) (readClientHello client buffer).run ⟨source, []⟩ (.ok payload)
      ⟨rest, []⟩ := by
  have hread : ∀ {room rest} (chunk : Chunk room),
      Outcome (Delivers client) (readOrTimeout client room).run ⟨chunk.bytes ++ rest, []⟩
        (.ok (some chunk)) ⟨rest, []⟩ :=
    fun chunk => Outcome.tryCatch_iff.mpr (Or.inl ⟨_, Outcome.io_iff.mpr (.chunk chunk), rfl⟩)
  have heof : ∀ {room}, Outcome (Delivers client) (readOrTimeout client room).run ⟨[], []⟩
      (.ok none) ⟨[], []⟩ :=
    fun {_} => Outcome.tryCatch_iff.mpr (Or.inl ⟨_, Outcome.io_iff.mpr .eof, rfl⟩)
  induction hcollects with
  | full hfull =>
      rw [readClientHello, if_neg (by omega)]
      exact .ret
  | exhausted =>
      rw [readClientHello]
      split
      next => exact Outcome.bindE_iff.mpr (Or.inl ⟨none, _, heof, .ret⟩)
      next => exact .ret
  | @answered buffer bytes rest hchunk hroom hdone =>
      have hpos := List.length_pos_iff.mpr hchunk
      rw [readClientHello, if_pos (by omega)]
      refine Outcome.bindE_iff.mpr (Or.inl ⟨_, _, hread ⟨bytes, hchunk, by omega⟩, ?_⟩)
      refine Outcome.bindE_iff.mpr
        (Or.inl ⟨_, _, Outcome.lift_iff.mpr ⟨(Tls.parse_eq _).symm, rfl⟩, ?_⟩)
      rw [Tls.parse_eq] at hdone
      split
      next heq => exact absurd (congrArg Except.ok heq) hdone
      next => exact .ret
  | @more buffer bytes source payload rest hchunk hroom hpending _ ih =>
      have hpos := List.length_pos_iff.mpr hchunk
      rw [readClientHello, if_pos (by omega)]
      refine Outcome.bindE_iff.mpr (Or.inl ⟨_, _, hread ⟨bytes, hchunk, by omega⟩, ?_⟩)
      exact Outcome.bindE_iff.mpr (Or.inl ⟨_, _, Outcome.lift_iff.mpr ⟨hpending.symm, rfl⟩, ih⟩)

/-! ## Given chunks -/

theorem joined_drop (chunk : { chunk : Bytes // chunk ≠ [] })
    (chunks : List { chunk : Bytes // chunk ≠ [] }) (room : Nat) :
    joined (if hleft : chunk.val.drop room ≠ [] then ⟨_, hleft⟩ :: chunks else chunks) =
      chunk.val.drop room ++ joined chunks := by
  split
  next => rfl
  next hleft => rw [not_not.mp hleft, List.nil_append]

/-- Reading given chunks is one of the ways in which the bytes can be read. -/
theorem readChunks_delivers {op : RelayOp} {chunked chunked' : Chunked} {answer : op.Answer}
    (hchunks : readChunks client op chunked = some (answer, chunked')) :
    Delivers client op chunked.input answer chunked'.input := by
  cases op with
  | read socket room =>
      rw [readChunks] at hchunks
      split at hchunks
      next hread =>
        obtain ⟨rfl, hroom⟩ := hread
        match chunked with
        | ⟨chunk :: chunks, later⟩ =>
            cases hchunks
            have hsegment : joined (chunk :: chunks) = chunk.val.take room ++
                joined (if hleft : chunk.val.drop room ≠ [] then ⟨_, hleft⟩ :: chunks
                  else chunks) := by
              rw [joined_drop, ← List.append_assoc, List.take_append_drop]
              rfl
            rw [Chunked.input, Chunked.input, hsegment]
            exact @Delivers.chunk _ room _ _ ⟨chunk.val.take room, _, _⟩
        | ⟨[], next :: later⟩ =>
            cases hchunks
            exact .timeout
        | ⟨[], []⟩ =>
            cases hchunks
            exact .eof
      next => cases hchunks
  | _ => cases hchunks

/-- However the bytes come in, one read of them ends. -/
theorem readOrTimeout_ends {room : Nat} (hroom : room ≠ 0) (chunked : Chunked) :
    ∃ read after, (readOrTimeout client room).run.run (readChunks client) chunked =
      some (.ok read, after) := by
  have hread : client = client ∧ room ≠ 0 := ⟨rfl, hroom⟩
  match chunked with
  | ⟨chunk :: chunks, later⟩ =>
      exact ⟨_, _, run_tryCatch_ok (run_io (by rw [readChunks, dif_pos hread]))⟩
  | ⟨[], next :: later⟩ =>
      refine ⟨none, ⟨next, later⟩, ?_⟩
      exact (run_tryCatch_error (run_io (by rw [readChunks, dif_pos hread]))).trans rfl
  | ⟨[], []⟩ => exact ⟨_, _, run_tryCatch_ok (run_io (by rw [readChunks, dif_pos hread]))⟩

/-- However the bytes come in, the loop ends. -/
theorem readClientHello_ends (buffer : Bytes) (chunked : Chunked) :
    ∃ payload after, (readClientHello client buffer).run.run (readChunks client) chunked =
      some (.ok payload, after) := by
  -- every chunk takes some of the room in the buffer
  induction hroom : MAX_CLIENT_HELLO - buffer.length using Nat.strong_induction_on
    generalizing buffer chunked with
  | _ room ih =>
    subst hroom
    rw [readClientHello]
    split
    next hlt =>
      obtain ⟨read, after, hread⟩ :=
        @readOrTimeout_ends client (MAX_CLIENT_HELLO - buffer.length) (by omega) chunked
      rw [run_bindE_ok hread]
      cases read with
      | none => exact ⟨buffer, after, rfl⟩
      | some chunk =>
          have hpos := List.length_pos_iff.mpr chunk.nonempty
          dsimp only
          rw [Tls.parse_eq, lift_ok_bind]
          split
          next => exact ih _ (by rw [List.length_append]; omega) _ _ rfl
          next => exact ⟨_, after, rfl⟩
    next => exact ⟨buffer, chunked, rfl⟩

theorem readClientHello_parse {input after : ClientInput} {result : Except Exception Bytes}
    (hrun : Outcome (Delivers client) (readClientHello client []).run input result after) :
    ∃ payload, result = .ok payload ∧
      TlsClientHello.parse payload =
        TlsClientHello.parse (input.segment.take MAX_CLIENT_HELLO) := by
  obtain ⟨payload, rest, hresult, hcollects, _⟩ := readClientHello_collects (by simp) hrun
  exact ⟨payload, hresult, hcollects.answer_eq Tls.parse_stable (by simp)⟩

/-- The chunks in which a client's bytes arrive do not matter. However they are cut, and
wherever a timeout or the end comes, the loop ends and what it has read parses as the bytes
before that do, up to the size of the buffer; nothing else can come of any run. So any two
ways to readChunks the bytes lead to the same server name and the same target. -/
theorem readClientHello_chunking (config : RelayConfig) (client : SocketId)
    (original : InetSocketAddress) :
    (∀ chunked : Chunked, ∃ payload after,
      (readClientHello client []).run.run (readChunks client) chunked = some (.ok payload, after) ∧
        TlsClientHello.parse payload =
          TlsClientHello.parse ((joined chunked.chunks).take MAX_CLIENT_HELLO)) ∧
    (∀ input result after,
      Outcome (Delivers client) (readClientHello client []).run input result after →
        ∃ payload, result = .ok payload ∧
          TlsClientHello.parse payload =
            TlsClientHello.parse (input.segment.take MAX_CLIENT_HELLO)) ∧
    ∀ input payload after input' payload' after', input'.segment = input.segment →
      Outcome (Delivers client) (readClientHello client []).run input (.ok payload) after →
      Outcome (Delivers client) (readClientHello client []).run input' (.ok payload') after' →
        (TlsClientHello.parse payload').map serverNameOf =
            (TlsClientHello.parse payload).map serverNameOf ∧
          connectTarget config original payload' = connectTarget config original payload := by
  refine ⟨fun chunked => ?_, fun _ _ _ => readClientHello_parse, ?_⟩
  · obtain ⟨payload, after, hrun⟩ := @readClientHello_ends client [] chunked
    have hsem : ∀ op chunked answer chunked',
        readChunks client op chunked = some (answer, chunked') →
        Delivers client op chunked.input answer chunked'.input := fun _ _ _ _ => readChunks_delivers
    have houtcome := Outcome.of_run Chunked.input hsem hrun
    obtain ⟨_, heq, hparse⟩ := readClientHello_parse houtcome
    cases heq
    exact ⟨payload, after, hrun, hparse⟩
  · intro input payload after input' payload' after' hsegment hrun hrun'
    obtain ⟨_, heq, hpayload⟩ := readClientHello_parse hrun
    cases heq
    obtain ⟨_, heq, hpayload'⟩ := readClientHello_parse hrun'
    cases heq
    rw [connectTarget, connectTarget, hpayload', hpayload, hsegment]
    exact ⟨rfl, rfl⟩

/-- Five bytes that are no TLS record, delivered as two and three. -/
example : ((readClientHello 0 []).run.run (readChunks 0)
    ⟨[⟨[1, 2], by simp⟩, ⟨[3, 4, 5], by simp⟩], []⟩).map Prod.fst =
      some (.ok [1, 2, 3, 4, 5]) := by
  decide +kernel

end AIUnblock.LocalSocksRelay
