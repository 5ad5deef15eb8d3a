import AIUnblock.Relay.Calls

/-! # The SOCKS handshake

What the relay demands of a client before it opens a socket for it. The client's
bytes may arrive in any chunks; the handshake is read off them exactly.
-/

namespace AIUnblock.LocalSocksRelay

open Prog LengthPrefixed

/-! ## The grammar -/

/-- The type and the bytes of an address. -/
inductive AddressField (resolve : Text → InetAddress) : Bytes → InetAddress → Prop
  | ipv4 (octets : Bytes) (hlength : octets.length = 4) :
      AddressField resolve (1 :: octets) (.inet4 ⟨octets, hlength⟩)
  | ipv6 (octets : Bytes) (address : InetAddress) (hlength : octets.length = 16)
      (haddress : InetAddress.getByAddress octets = .ok address) :
      AddressField resolve (4 :: octets) address
  | domain (name : Bytes) (hlength : name.length < 256) :
      AddressField resolve (3 :: vector 1 name) (resolve (decodeUsAscii name))

/-- A greeting that offers passwords, the right name and password, and a request. -/
inductive Handshake (config : RelayConfig) (resolve : Text → InetAddress) :
    Bytes → Request → Bytes → Prop
  | complete (methods field rest : Bytes) (command reserved high low : UInt8) (address : InetAddress)
      (hmethods : methods.length < 256) (hoffered : 2 ∈ methods)
      (hpassword : config.password.length < 256) (hfield : AddressField resolve field address) :
      Handshake config resolve
        ([5] ++ vector 1 methods ++ [1] ++ vector 1 username ++ vector 1 config.password ++
          [5, command, reserved] ++ field ++ [high, low] ++ rest)
        { command := command.toNat
          destination := { address, port := bigEndian [high, low] } }
        rest

/-! ## The parts of `handleClient` -/

/-- What `handleClient` does before it chooses a handler. -/
def acceptRequest (config : RelayConfig) (client : SocketId) : RelayM Request := do
  negotiate config client
  readRequest client

/-- A handler of `handleClient` that opens sockets. -/
inductive Handler
  | handleConnect (destination : InetSocketAddress)
  | handleUdpAssociate
  deriving DecidableEq

/-- The handler that a request is given to; `else` refuses it. -/
def handlerOf (request : Request) : Option Handler :=
  if request.command = COMMAND_CONNECT then some (.handleConnect request.destination)
  else if request.command = COMMAND_UDP_ASSOCIATE then some .handleUdpAssociate
  else none

def Handler.body (config : RelayConfig) (client : SocketId) : Handler → RelayM Unit
  | .handleConnect destination => LocalSocksRelay.handleConnect config client destination
  | .handleUdpAssociate => LocalSocksRelay.handleUdpAssociate config client

def dispatch (config : RelayConfig) (client : SocketId) (request : Request) : RelayM Unit :=
  match handlerOf request with
  | some handler => handler.body config client
  | none => writeReply client 7 unbound

/-- A session is what is read before a handler runs, and the handler. -/
theorem handleClient_eq (config : RelayConfig) (client : SocketId) :
    handleClient config client =
      Prog.tryFinally
        (tryCatch (acceptRequest config client >>= dispatch config client)
          fun _ => closeQuietly client)
        (relayCall (.removeSession client)) := by
  have hdispatch : dispatch config client = fun request =>
      if request.command = COMMAND_CONNECT then
        LocalSocksRelay.handleConnect config client request.destination
      else if request.command = COMMAND_UDP_ASSOCIATE then
        LocalSocksRelay.handleUdpAssociate config client
      else writeReply client 7 unbound := by
    funext request
    rw [dispatch, handlerOf]
    by_cases hconnect : request.command = COMMAND_CONNECT
    · rw [if_pos hconnect, if_pos hconnect]
      rfl
    rw [if_neg hconnect, if_neg hconnect]
    by_cases hudp : request.command = COMMAND_UDP_ASSOCIATE
    · rw [if_pos hudp, if_pos hudp]
      rfl
    rw [if_neg hudp, if_neg hudp]
  rw [handleClient, hdispatch, acceptRequest, bind_assoc]

/-! ## The client's stream -/

/-- What the client will still send, what it has been sent, and whether a socket was
opened for it. -/
structure Wire where
  input : Bytes
  written : Bytes
  opened : Bool
  deriving DecidableEq

/-- Reads of the client take any chunk of what it sends, and writes to it succeed.
Names resolve. Nothing is known about the other calls. -/
def wireStep (client : SocketId) (resolve : Text → InetAddress) :
    Semantics RelayOp RelayOp.Answer Wire
  | .read socket room, wire, answer, wire' =>
    if socket = client then
      (∃ chunk : Chunk room, wire.input = chunk.bytes ++ wire'.input ∧ answer = .ok (some chunk) ∧
        wire' = { wire with input := wire'.input }) ∨
      wire.input = [] ∧ answer = .ok none ∧ wire' = wire
    else wire' = wire
  | .write socket bytes, wire, answer, wire' =>
    if socket = client then
      answer = .ok () ∧ wire' = { wire with written := wire.written ++ bytes }
    else wire' = wire
  | .getByName host, wire, answer, wire' => answer = .ok (resolve host) ∧ wire' = wire
  | .newSocket, wire, _, wire' | .newDatagramSocket, wire, _, wire' =>
    wire' = { wire with opened := true }
  | _, wire, _, wire' => wire' = wire

section Reads

variable {client : SocketId} {resolve : Text → InetAddress} {wire wire' : Wire}

/-- A read takes a nonempty piece of what the client sends, or finds its end. -/
theorem read_iff {room : Nat} {result : Except Exception (Option (Chunk room))} :
    Outcome (wireStep client resolve) (relayCall (.read client room)).run wire result wire' ↔
      (∃ chunk : Chunk room, wire.input = chunk.bytes ++ wire'.input ∧ result = .ok (some chunk) ∧
        wire' = { wire with input := wire'.input }) ∨
      wire.input = [] ∧ result = .ok none ∧ wire' = wire := by
  rw [relayCall, Outcome.io_iff, wireStep, if_pos rfl]

/-- A write always succeeds. -/
theorem write_iff {bytes : Bytes} {result : Except Exception Unit} :
    Outcome (wireStep client resolve) (relayCall (.write client bytes)).run wire result wire' ↔
      result = .ok () ∧ wire' = { wire with written := wire.written ++ bytes } := by
  rw [relayCall, Outcome.io_iff, wireStep, if_pos rfl]

/-- A lookup is answered by the resolver and says nothing to the client. -/
theorem getByName_iff {host : Text} {result : Except Exception InetAddress} :
    Outcome (wireStep client resolve) (relayCall (.getByName host)).run wire result wire' ↔
      result = .ok (resolve host) ∧ wire' = wire := by
  rw [relayCall, Outcome.io_iff, wireStep]

/-- `readByte` takes one byte. -/
theorem readByte_iff {result : Except Exception Nat} :
    Outcome (wireStep client resolve) (readByte client).run wire result wire' ↔
      (∃ byte rest, wire.input = byte :: rest ∧ result = .ok byte.toNat ∧
        wire' = { wire with input := rest }) ∨
      wire.input = [] ∧ result = .error { kind := .eof } ∧ wire' = wire := by
  rw [readByte, Outcome.bindE_iff]
  constructor
  · rintro (⟨read, middle, hread, hrest⟩ | ⟨error, hread, _⟩)
    · rcases read_iff.mp hread with ⟨chunk, hinput, heq, hmiddle⟩ | ⟨hinput, heq, rfl⟩
      · cases heq
        obtain ⟨rfl, rfl⟩ := Outcome.pure_iff.mp hrest
        obtain ⟨bytes, hnonempty, hfits⟩ := chunk
        cases bytes with
        | nil => contradiction
        | cons byte others =>
            have hothers : others = [] := List.length_eq_zero_iff.mp (by simpa using hfits)
            subst hothers
            exact Or.inl ⟨byte, _, hinput, rfl, hmiddle⟩
      · cases heq
        obtain ⟨rfl, rfl⟩ := Outcome.throw_iff.mp hrest
        exact Or.inr ⟨hinput, rfl, rfl⟩
    · rcases read_iff.mp hread with ⟨_, _, heq, _⟩ | ⟨_, heq, _⟩ <;> contradiction
  · rintro (⟨byte, rest, hinput, rfl, rfl⟩ | ⟨hinput, rfl, rfl⟩)
    · let chunk : Chunk 1 := ⟨[byte], List.cons_ne_nil _ _, Nat.le_refl _⟩
      exact Or.inl ⟨some chunk, { wire with input := rest },
        read_iff.mpr (Or.inl ⟨chunk, hinput, rfl, rfl⟩), .ret⟩
    · exact Or.inl ⟨none, _, read_iff.mpr (Or.inr ⟨hinput, rfl, rfl⟩), .ret⟩

theorem readExactly_zero : readExactly client 0 = pure [] := by
  rw [readExactly, if_pos rfl]

/-- One turn of the loop of `readExactly`. -/
theorem readExactly_turn {count : Nat} (hcount : count ≠ 0) {result : Except Exception Bytes} :
    Outcome (wireStep client resolve) (readExactly client count).run wire result wire' ↔
      (∃ (chunk : Chunk count) (rest : Bytes) (more : Except Exception Bytes),
        wire.input = chunk.bytes ++ rest ∧
        Outcome (wireStep client resolve) (readExactly client (count - chunk.bytes.length)).run
          { wire with input := rest } more wire' ∧
        result = more.map (chunk.bytes ++ ·)) ∨
      wire.input = [] ∧ result = .error { kind := .eof } ∧ wire' = wire := by
  rw [readExactly, if_neg hcount, Outcome.bindE_iff]
  constructor
  · rintro (⟨read, middle, hread, hrest⟩ | ⟨error, hread, _⟩)
    · rcases read_iff.mp hread with ⟨chunk, hinput, heq, hmiddle⟩ | ⟨hinput, heq, rfl⟩
      · cases heq
        rw [hmiddle] at hrest
        rcases Outcome.bindE_iff.mp hrest with ⟨more, last, hmore, hpure⟩ | ⟨error, hmore, rfl⟩
        · obtain ⟨rfl, rfl⟩ := Outcome.pure_iff.mp hpure
          exact Or.inl ⟨chunk, _, .ok more, hinput, hmore, rfl⟩
        · exact Or.inl ⟨chunk, _, .error error, hinput, hmore, rfl⟩
      · cases heq
        obtain ⟨rfl, rfl⟩ := Outcome.throw_iff.mp hrest
        exact Or.inr ⟨hinput, rfl, rfl⟩
    · rcases read_iff.mp hread with ⟨_, _, heq, _⟩ | ⟨_, heq, _⟩ <;> contradiction
  · rintro (⟨chunk, rest, more, hinput, hmore, rfl⟩ | ⟨hinput, rfl, rfl⟩)
    · refine Or.inl ⟨some chunk, { wire with input := rest },
        read_iff.mpr (Or.inl ⟨chunk, hinput, rfl, rfl⟩), ?_⟩
      apply Outcome.bindE_iff.mpr
      cases more with
      | ok more => exact Or.inl ⟨more, _, hmore, .ret⟩
      | error error => exact Or.inr ⟨error, hmore, rfl⟩
    · exact Or.inl ⟨none, _, read_iff.mpr (Or.inr ⟨hinput, rfl, rfl⟩), .ret⟩

/-- Nothing is read of a field without bytes. -/
theorem readExactly_zero_iff {result : Except Exception Bytes} :
    Outcome (wireStep client resolve) (readExactly client 0).run wire result wire' ↔
      (∃ taken rest, wire.input = taken ++ rest ∧ taken.length = 0 ∧ result = .ok taken ∧
        wire' = { wire with input := rest }) ∨
      wire.input.length < 0 ∧ result = .error { kind := .eof } ∧
        wire' = { wire with input := [] } := by
  rw [readExactly_zero, Outcome.pure_iff]
  constructor
  · rintro ⟨rfl, rfl⟩
    exact Or.inl ⟨[], wire'.input, rfl, rfl, rfl, rfl⟩
  · rintro (⟨taken, rest, hinput, htaken, rfl, rfl⟩ | ⟨hshort, _⟩)
    · rw [List.length_eq_zero_iff] at htaken
      subst htaken
      rw [List.nil_append] at hinput
      exact ⟨rfl, by rw [← hinput]⟩
    · exact absurd hshort (Nat.not_lt_zero _)

/-- `readExactly` takes `count` bytes, or all there are and fails. -/
theorem readExactly_iff {count : Nat} {result : Except Exception Bytes} :
    Outcome (wireStep client resolve) (readExactly client count).run wire result wire' ↔
      (∃ taken rest, wire.input = taken ++ rest ∧ taken.length = count ∧ result = .ok taken ∧
        wire' = { wire with input := rest }) ∨
      wire.input.length < count ∧ result = .error { kind := .eof } ∧
        wire' = { wire with input := [] } := by
  -- each turn takes a chunk off the input and off the count
  induction count using Nat.strong_induction_on generalizing wire result with
  | _ count ih =>
    by_cases hcount : count = 0
    · subst hcount
      exact readExactly_zero_iff
    rw [readExactly_turn hcount]
    constructor
    · rintro (⟨chunk, rest, more, hinput, hmore, rfl⟩ | ⟨hinput, rfl, rfl⟩)
      · have hfits := chunk.fits
        have hpos := List.length_pos_iff.mpr chunk.nonempty
        rw [ih _ (by omega)] at hmore
        rcases hmore with ⟨taken, last, hrest, htaken, rfl, rfl⟩ | ⟨hshort, rfl, rfl⟩
        · refine Or.inl ⟨chunk.bytes ++ taken, last, ?_, ?_, rfl, rfl⟩
          · rw [hinput, List.append_assoc]
            exact congrArg _ hrest
          · rw [List.length_append, htaken]
            omega
        · refine Or.inr ⟨?_, rfl, rfl⟩
          rw [hinput, List.length_append]
          dsimp only at hshort
          omega
      · refine Or.inr ⟨?_, rfl, ?_⟩
        · rw [hinput, List.length_nil]
          omega
        · rw [← hinput]
    · intro hends
      cases hinput : wire.input with
      | nil =>
          rcases hends with ⟨taken, rest, hsplit, htaken, _⟩ | ⟨_, rfl, rfl⟩
          · rw [hinput] at hsplit
            obtain ⟨rfl, rfl⟩ := List.append_eq_nil_iff.mp hsplit.symm
            exact absurd htaken.symm hcount
          · exact Or.inr ⟨rfl, rfl, by rw [← hinput]⟩
      | cons byte others =>
          -- any chunk will do, for instance a single byte
          let chunk : Chunk count :=
            ⟨[byte], List.cons_ne_nil _ _, Nat.one_le_iff_ne_zero.mpr hcount⟩
          rw [hinput] at hends
          rcases hends with ⟨taken, rest, hsplit, htaken, rfl, rfl⟩ | ⟨hshort, rfl, rfl⟩
          · cases taken with
            | nil => exact absurd htaken.symm hcount
            | cons first taken =>
                obtain ⟨rfl, hothers⟩ := List.cons.inj hsplit
                refine Or.inl ⟨chunk, others, .ok taken, rfl, ?_, rfl⟩
                rw [List.length_cons] at htaken
                exact (ih (count - 1) (by omega)).mpr
                  (Or.inl ⟨taken, rest, hothers, by omega, rfl, rfl⟩)
          · refine Or.inl ⟨chunk, others, .error { kind := .eof }, rfl, ?_, rfl⟩
            rw [List.length_cons] at hshort
            exact (ih (count - 1) (by omega)).mpr (Or.inr ⟨by dsimp only; omega, rfl, rfl⟩)

end Reads

/-! ## What each message takes off the stream -/

section Messages

variable {config : RelayConfig} {client : SocketId} {resolve : Text → InetAddress}
  {input written : Bytes} {opened : Bool} {wire' : Wire} {α : Type} {value : α}

/-- The program returns, whatever the chunks; it leaves `wire'`. -/
abbrev Accepts (client : SocketId) (resolve : Text → InetAddress) (p : RelayM α) (wire : Wire)
    (value : α) (wire' : Wire) : Prop :=
  Outcome (wireStep client resolve) p.run wire (.ok value) wire'

theorem accepts_pure {other : α} {wire : Wire} :
    Accepts client resolve (pure other) wire value wire' ↔ value = other ∧ wire' = wire := by
  rw [Accepts, Outcome.pure_iff, Except.ok.injEq]

/-- A run that comes back has found a byte. -/
theorem accepts_readByte {rest : Nat → RelayM α} :
    Accepts client resolve (readByte client >>= rest) ⟨input, written, opened⟩ value wire' ↔
      ∃ byte others, input = byte :: others ∧
        Accepts client resolve (rest byte.toNat) ⟨others, written, opened⟩ value wire' := by
  rw [Accepts, Outcome.bindE_ok_iff]
  constructor
  · rintro ⟨count, middle, hread, hrest⟩
    rcases readByte_iff.mp hread with ⟨byte, others, hinput, heq, rfl⟩ | ⟨_, heq, _⟩
    · cases heq
      exact ⟨byte, others, hinput, hrest⟩
    · contradiction
  · rintro ⟨byte, others, rfl, hrest⟩
    exact ⟨_, _, readByte_iff.mpr (Or.inl ⟨byte, others, rfl, rfl, rfl⟩), hrest⟩

/-- A run that comes back has found as many bytes as it asked for, however they were cut. -/
theorem accepts_readExactly {count : Nat} {rest : Bytes → RelayM α} :
    Accepts client resolve (readExactly client count >>= rest) ⟨input, written, opened⟩ value
        wire' ↔
      ∃ taken others, input = taken ++ others ∧ taken.length = count ∧
        Accepts client resolve (rest taken) ⟨others, written, opened⟩ value wire' := by
  rw [Accepts, Outcome.bindE_ok_iff]
  constructor
  · rintro ⟨read, middle, hread, hrest⟩
    rcases readExactly_iff.mp hread with ⟨taken, others, hinput, htaken, heq, rfl⟩ | ⟨_, heq, _⟩
    · cases heq
      exact ⟨read, others, hinput, htaken, hrest⟩
    · contradiction
  · rintro ⟨taken, others, rfl, htaken, hrest⟩
    exact ⟨_, _, readExactly_iff.mpr (Or.inl ⟨taken, others, rfl, htaken, rfl, rfl⟩), hrest⟩

/-- A length byte and that many bytes. -/
def readVector (client : SocketId) : RelayM Bytes := do
  readExactly client (← readByte client)

/-- The length and then the field are one vector. -/
theorem readVector_bind (rest : Bytes → RelayM α) :
    (readByte client >>= fun count => readExactly client count >>= rest) =
      readVector client >>= rest := by
  rw [readVector, bind_assoc]

/-- A run that comes back has found a field with its length in front. -/
theorem accepts_readVector {rest : Bytes → RelayM α} :
    Accepts client resolve (readVector client >>= rest) ⟨input, written, opened⟩ value wire' ↔
      ∃ content others, content.length < 256 ∧ input = vector 1 content ++ others ∧
        Accepts client resolve (rest content) ⟨others, written, opened⟩ value wire' := by
  rw [← readVector_bind]
  simp only [accepts_readByte, accepts_readExactly]
  constructor
  · rintro ⟨byte, _, rfl, content, others, rfl, hlength, hrest⟩
    refine ⟨content, others, ?_, ?_, hrest⟩
    · rw [hlength]
      exact byte.toNat_lt
    · rw [vector, hlength]
      simp [toBigEndian]
  · rintro ⟨content, others, hlength, rfl, hrest⟩
    refine ⟨UInt8.ofNat content.length, content ++ others, rfl, content, others, rfl, ?_, hrest⟩
    rw [UInt8.toNat_ofNat', Nat.mod_eq_of_lt hlength]

/-- What is written does not decide whether a run comes back. -/
theorem accepts_write {bytes : Bytes} {rest : Unit → RelayM α} :
    Accepts client resolve (relayCall (.write client bytes) >>= rest) ⟨input, written, opened⟩ value
        wire' ↔
      Accepts client resolve (rest ()) ⟨input, written ++ bytes, opened⟩ value wire' := by
  rw [Accepts, Outcome.bindE_ok_iff]
  constructor
  · rintro ⟨_, middle, hwrite, hrest⟩
    obtain ⟨_, rfl⟩ := write_iff.mp hwrite
    exact hrest
  · intro hrest
    exact ⟨(), _, write_iff.mpr ⟨rfl, rfl⟩, hrest⟩

theorem accepts_getByName {host : Text} {rest : InetAddress → RelayM α} {wire : Wire} :
    Accepts client resolve (relayCall (.getByName host) >>= rest) wire value wire' ↔
      Accepts client resolve (rest (resolve host)) wire value wire' := by
  rw [Accepts, Outcome.bindE_ok_iff]
  constructor
  · rintro ⟨_, middle, hname, hrest⟩
    obtain ⟨heq, rfl⟩ := getByName_iff.mp hname
    rwa [Except.ok.inj heq] at hrest
  · intro hrest
    exact ⟨_, _, getByName_iff.mpr ⟨rfl, rfl⟩, hrest⟩

/-- A run that comes back has passed its tests. -/
theorem accepts_throwIf {condition : Prop} [Decidable condition] {error : Exception}
    {rest : Unit → RelayM α} {wire : Wire} :
    Accepts client resolve (throwIf condition error >>= rest) wire value wire' ↔
      ¬ condition ∧ Accepts client resolve (rest ()) wire value wire' := by
  rw [Accepts, Outcome.bindE_ok_iff, throwIf]
  by_cases hcondition : condition
  · rw [if_pos hcondition]
    simp only [Outcome.throw_iff, hcondition]
    simp
  · rw [if_neg hcondition]
    constructor
    · rintro ⟨_, middle, hpure, hrest⟩
      obtain ⟨_, rfl⟩ := Outcome.pure_iff.mp hpure
      exact ⟨hcondition, hrest⟩
    · rintro ⟨_, hrest⟩
      exact ⟨(), wire, Outcome.pure_iff.mpr ⟨rfl, rfl⟩, hrest⟩

/-- No run comes back from an exception. -/
theorem not_accepts_throw {β : Type} {error : Exception} {rest : β → RelayM α} {wire : Wire} :
    ¬ Accepts client resolve ((throw error : RelayM β) >>= rest) wire value wire' := by
  rw [Accepts, Outcome.bindE_ok_iff]
  rintro ⟨_, _, hthrow, _⟩
  obtain ⟨hresult, _⟩ := Outcome.throw_iff.mp hthrow
  contradiction

/-- The client does not offer the login. -/
theorem all_ne_iff {methods : Bytes} :
    (methods.all (·.toNat ≠ USERNAME_PASSWORD_AUTH)) = true ↔ 2 ∉ methods := by
  rw [List.all_eq_true]
  constructor
  · intro hall hmem
    exact absurd (hall 2 hmem) (by decide)
  · intro hnone method hmem
    rw [decide_eq_true_eq]
    intro heq
    rw [show method = 2 from UInt8.toNat_inj.mp heq] at hmem
    exact hnone hmem

/-- The part of `negotiate` after the greeting. -/
def authenticate (config : RelayConfig) (client : SocketId) : RelayM Unit := do
  throwIf ((← readByte client) ≠ 1) { kind := .eof, message := "Bad authentication version" }
  let receivedUsername ← readVector client
  let receivedPassword ← readVector client
  let valid := receivedUsername = username ∧ receivedPassword = config.password
  relayCall (.write client [1, if valid then 0 else 1])
  throwIf (¬ valid) { kind := .eof, message := "Authentication failed" }

/-- `negotiate`, with its fields read as vectors. -/
theorem negotiate_eq :
    negotiate config client = (do
      throwIf ((← readByte client) ≠ SOCKS_VERSION)
        { kind := .eof, message := "Unsupported SOCKS version" }
      let methods ← readVector client
      if 2 ∈ methods then
        relayCall (.write client [5, 2])
        authenticate config client
      else
        relayCall (.write client [5, 0xff])
        throw { kind := .eof, message := "No supported authentication method" }) := by
  have hoffer : ∀ (methods : Bytes) (p q : RelayM Unit),
      (if methods.all (·.toNat ≠ USERNAME_PASSWORD_AUTH) then p else q) =
        if 2 ∈ methods then q else p := by
    intro methods p q
    by_cases hmem : 2 ∈ methods
    · rw [if_pos hmem, if_neg (by rw [all_ne_iff]; exact not_not_intro hmem)]
    · rw [if_neg hmem, if_pos (all_ne_iff.mpr hmem)]
  simp only [negotiate, readVector_bind, hoffer]
  rfl

/-- Only the relay's own name and password are let through. -/
theorem authenticate_accepts {rest : Unit → RelayM α} :
    Accepts client resolve (authenticate config client >>= rest) ⟨input, written, opened⟩ value
        wire' ↔
      ∃ others, config.password.length < 256 ∧
        input = [1] ++ vector 1 username ++ vector 1 config.password ++ others ∧
        Accepts client resolve (rest ()) ⟨others, written ++ [1, 0], opened⟩ value wire' := by
  simp only [authenticate, bind_assoc, accepts_readByte, accepts_throwIf, accepts_readVector]
  constructor
  · rintro ⟨version, _, rfl, hversion, _, _, _, rfl, _, others, hpassword, rfl, haccepts⟩
    rw [accepts_write, accepts_throwIf] at haccepts
    obtain ⟨hvalid, hrest⟩ := haccepts
    obtain ⟨rfl, rfl⟩ := not_not.mp hvalid
    rw [if_pos ⟨rfl, rfl⟩] at hrest
    rw [show version = 1 from UInt8.toNat_inj.mp (not_not.mp hversion)]
    refine ⟨others, hpassword, ?_, hrest⟩
    simp only [List.append_assoc, List.cons_append, List.nil_append]
  · rintro ⟨others, hpassword, rfl, hrest⟩
    refine ⟨1, vector 1 username ++ (vector 1 config.password ++ others), ?_, by decide,
      username, _, by decide, rfl, config.password, others, hpassword, rfl, ?_⟩
    · simp only [List.append_assoc, List.cons_append, List.nil_append]
    · rw [accepts_write, accepts_throwIf, if_pos ⟨rfl, rfl⟩]
      exact ⟨not_not_intro ⟨rfl, rfl⟩, hrest⟩

/-- `negotiate` lets exactly a greeting with the right name and password through. -/
theorem negotiate_accepts {rest : Unit → RelayM α} :
    Accepts client resolve (negotiate config client >>= rest) ⟨input, written, opened⟩ value wire' ↔
      ∃ methods others, methods.length < 256 ∧ 2 ∈ methods ∧ config.password.length < 256 ∧
        input = [5] ++ vector 1 methods ++ [1] ++ vector 1 username ++ vector 1 config.password ++
          others ∧
        Accepts client resolve (rest ()) ⟨others, written ++ [5, 2, 1, 0], opened⟩ value wire' := by
  simp only [negotiate_eq, bind_assoc, accepts_readByte, accepts_throwIf, accepts_readVector]
  constructor
  · rintro ⟨version, _, rfl, hversion, methods, _, hmethods, rfl, haccepts⟩
    by_cases hmem : 2 ∈ methods
    · rw [if_pos hmem, bind_assoc, accepts_write, authenticate_accepts] at haccepts
      obtain ⟨others, hpassword, rfl, hrest⟩ := haccepts
      rw [List.append_assoc] at hrest
      rw [show version = 5 from UInt8.toNat_inj.mp (not_not.mp hversion)]
      refine ⟨methods, others, hmethods, hmem, hpassword, ?_, hrest⟩
      simp only [List.append_assoc, List.cons_append, List.nil_append]
    · rw [if_neg hmem, bind_assoc, accepts_write] at haccepts
      exact absurd haccepts not_accepts_throw
  · rintro ⟨methods, others, hmethods, hmem, hpassword, rfl, hrest⟩
    refine ⟨5, vector 1 methods ++ ([1] ++ vector 1 username ++ vector 1 config.password ++ others),
      ?_, by decide, methods, _, hmethods, rfl, ?_⟩
    · simp only [List.append_assoc, List.cons_append, List.nil_append]
    · rw [if_pos hmem, bind_assoc, accepts_write, authenticate_accepts]
      refine ⟨others, hpassword, rfl, ?_⟩
      rw [List.append_assoc]
      exact hrest

theorem accepts_lift {result : Except Exception InetAddress} {rest : InetAddress → RelayM α}
    {wire : Wire} :
    Accepts client resolve ((liftM result : RelayM InetAddress) >>= rest) wire value wire' ↔
      ∃ address, result = .ok address ∧ Accepts client resolve (rest address) wire value wire' := by
  rw [Accepts, Outcome.bindE_ok_iff]
  constructor
  · rintro ⟨address, middle, hlift, hrest⟩
    obtain ⟨heq, rfl⟩ := Outcome.lift_iff.mp hlift
    exact ⟨address, heq.symm, hrest⟩
  · rintro ⟨address, heq, hrest⟩
    exact ⟨address, wire, Outcome.lift_iff.mpr ⟨heq.symm, rfl⟩, hrest⟩

/-- An IPv4 address is four bytes. -/
theorem accepts_ipv4 {rest : InetAddress → RelayM α} :
    Accepts client resolve (readAddress client ADDRESS_IPV4 >>= rest) ⟨input, written, opened⟩ value
        wire' ↔
      ∃ octets others, ∃ hlength : octets.length = 4, input = octets ++ others ∧
        Accepts client resolve (rest (.inet4 ⟨octets, hlength⟩)) ⟨others, written, opened⟩ value
          wire' := by
  rw [readAddress, if_pos rfl, bind_assoc, accepts_readExactly]
  constructor
  · rintro ⟨octets, others, hinput, hlength, haccepts⟩
    rw [accepts_lift, InetAddress.getByAddress, dif_pos hlength] at haccepts
    obtain ⟨_, ⟨⟩, hrest⟩ := haccepts
    exact ⟨octets, others, hlength, hinput, hrest⟩
  · rintro ⟨octets, others, hlength, hinput, hrest⟩
    refine ⟨octets, others, hinput, hlength, ?_⟩
    rw [accepts_lift, InetAddress.getByAddress, dif_pos hlength]
    exact ⟨_, rfl, hrest⟩

/-- An IPv6 address is sixteen bytes that `getByAddress` accepts. -/
theorem accepts_ipv6 {rest : InetAddress → RelayM α} :
    Accepts client resolve (readAddress client ADDRESS_IPV6 >>= rest) ⟨input, written, opened⟩ value
        wire' ↔
      ∃ octets others address, octets.length = 16 ∧ InetAddress.getByAddress octets = .ok address ∧
        input = octets ++ others ∧
        Accepts client resolve (rest address) ⟨others, written, opened⟩ value wire' := by
  rw [readAddress, if_neg (by decide), if_pos rfl, bind_assoc, accepts_readExactly]
  simp only [accepts_lift]
  constructor
  · rintro ⟨octets, others, hinput, hlength, address, haddress, hrest⟩
    exact ⟨octets, others, address, hlength, haddress, hinput, hrest⟩
  · rintro ⟨octets, others, address, hlength, haddress, hinput, hrest⟩
    exact ⟨octets, others, hinput, hlength, address, haddress, hrest⟩

/-- A domain is resolved, whatever its bytes are. -/
theorem accepts_domain {rest : InetAddress → RelayM α} :
    Accepts client resolve (readAddress client ADDRESS_DOMAIN >>= rest) ⟨input, written, opened⟩
        value wire' ↔
      ∃ name others, name.length < 256 ∧ input = vector 1 name ++ others ∧
        Accepts client resolve (rest (resolve (decodeUsAscii name))) ⟨others, written, opened⟩ value
          wire' := by
  rw [readAddress, if_neg (by decide), if_neg (by decide), if_pos rfl]
  simp only [bind_assoc, readVector_bind, accepts_readVector]
  exact exists₂_congr fun name others => and_congr_right fun _ => and_congr_right fun _ =>
    accepts_getByName

/-- `readAddress` takes exactly the address that follows its type. -/
theorem accepts_readAddress {type : UInt8} {rest : InetAddress → RelayM α} :
    Accepts client resolve (readAddress client type.toNat >>= rest) ⟨input, written, opened⟩ value
        wire' ↔
      ∃ content others address, AddressField resolve (type :: content) address ∧
        input = content ++ others ∧
        Accepts client resolve (rest address) ⟨others, written, opened⟩ value wire' := by
  constructor
  · intro haccepts
    by_cases hipv4 : type = 1
    · subst hipv4
      obtain ⟨octets, others, hlength, hinput, hrest⟩ := accepts_ipv4.mp haccepts
      exact ⟨octets, others, _, .ipv4 octets hlength, hinput, hrest⟩
    by_cases hipv6 : type = 4
    · subst hipv6
      obtain ⟨octets, others, address, hlength, haddress, hinput, hrest⟩ :=
        accepts_ipv6.mp haccepts
      exact ⟨octets, others, address, .ipv6 octets address hlength haddress, hinput, hrest⟩
    by_cases hdomain : type = 3
    · subst hdomain
      obtain ⟨name, others, hlength, hinput, hrest⟩ := accepts_domain.mp haccepts
      exact ⟨vector 1 name, others, _, .domain name hlength, hinput, hrest⟩
    have hfour : type.toNat ≠ ADDRESS_IPV4 := fun heq => hipv4 (UInt8.toNat_inj.mp heq)
    have hsix : type.toNat ≠ ADDRESS_IPV6 := fun heq => hipv6 (UInt8.toNat_inj.mp heq)
    have hname : type.toNat ≠ ADDRESS_DOMAIN := fun heq => hdomain (UInt8.toNat_inj.mp heq)
    rw [readAddress, if_neg hfour, if_neg hsix, if_neg hname] at haccepts
    exact absurd haccepts not_accepts_throw
  · rintro ⟨content, others, address, hfield, rfl, hrest⟩
    cases hfield with
    | ipv4 _ hlength => exact accepts_ipv4.mpr ⟨content, others, hlength, rfl, hrest⟩
    | ipv6 _ _ hlength haddress =>
        exact accepts_ipv6.mpr ⟨content, others, address, hlength, haddress, rfl, hrest⟩
    | domain name hlength => exact accepts_domain.mpr ⟨name, others, hlength, rfl, hrest⟩

/-- The requests that are read are the ones with a known address type. -/
theorem readRequest_accepts {request : Request} :
    Accepts client resolve (readRequest client) ⟨input, written, opened⟩ request wire' ↔
      ∃ command reserved field high low others address, AddressField resolve field address ∧
        input = [5, command, reserved] ++ field ++ [high, low] ++ others ∧
        request = ⟨command.toNat, address, bigEndian [high, low]⟩ ∧
        wire' = ⟨others, written, opened⟩ := by
  simp only [readRequest, accepts_readByte, accepts_throwIf, accepts_readAddress, accepts_pure,
    shiftLeft_or_toNat]
  constructor
  · rintro ⟨version, _, rfl, hversion, command, _, rfl, reserved, _, rfl, type, _, rfl, content, _,
      address, hfield, rfl, high, _, rfl, low, others, rfl, rfl, rfl⟩
    rw [show version = 5 from UInt8.toNat_inj.mp (not_not.mp hversion)]
    refine ⟨command, reserved, _, high, low, others, address, hfield, ?_, rfl, rfl⟩
    simp only [List.append_assoc, List.cons_append, List.nil_append]
  · rintro ⟨command, reserved, field, high, low, others, address, hfield, rfl, rfl, rfl⟩
    obtain ⟨type, content, rfl⟩ : ∃ type content, field = type :: content := by
      cases hfield <;> exact ⟨_, _, rfl⟩
    refine ⟨5, _, rfl, by decide, command, _, rfl, reserved, _, rfl, type, _, rfl, content, _,
      address, hfield, ?_, high, _, rfl, low, others, rfl, rfl, rfl⟩
    exact List.append_assoc content [high, low] others

/-- The handshake is accepted exactly when it is there, and nothing after it is taken. -/
theorem acceptRequest_accepts {request : Request} :
    Accepts client resolve (acceptRequest config client) ⟨input, written, opened⟩ request wire' ↔
      ∃ others, Handshake config resolve input request others ∧
        wire' = ⟨others, written ++ [5, 2, 1, 0], opened⟩ := by
  rw [acceptRequest, negotiate_accepts]
  simp only [readRequest_accepts]
  constructor
  · rintro ⟨methods, _, hmethods, hoffered, hpassword, rfl, command, reserved, field, high, low,
      others, address, hfield, rfl, rfl, rfl⟩
    refine ⟨others, ?_, rfl⟩
    have hcomplete := Handshake.complete methods field others command reserved high low address
      hmethods hoffered hpassword hfield
    simpa only [List.append_assoc] using hcomplete
  · rintro ⟨others, hhandshake, rfl⟩
    cases hhandshake with
    | complete methods field _ command reserved high low address hmethods hoffered hpassword
        hfield =>
        refine ⟨methods, [5, command, reserved] ++ field ++ [high, low] ++ others, hmethods,
          hoffered, hpassword, ?_, command, reserved, field, high, low, others, address, hfield,
          rfl, rfl, rfl⟩
        simp only [List.append_assoc]

end Messages

/-! ## One outcome, whatever the chunks -/

section OneOutcome

variable {config : RelayConfig} {client : SocketId} {resolve : Text → InetAddress}

/-- The bytes of the client decide what `readByte` returns. -/
theorem readByte_deterministic : Deterministic (wireStep client resolve) (readByte client).run := by
  intro wire result wire' result' wire'' hfirst hsecond
  rcases readByte_iff.mp hfirst with ⟨byte, rest, hinput, rfl, rfl⟩ | ⟨hinput, rfl, rfl⟩ <;>
    rcases readByte_iff.mp hsecond with ⟨byte', rest', hinput', rfl, rfl⟩ | ⟨hinput', rfl, rfl⟩ <;>
    rw [hinput] at hinput'
  · obtain ⟨rfl, rfl⟩ := List.cons.inj hinput'
    exact ⟨rfl, rfl⟩
  · contradiction
  · contradiction
  · exact ⟨rfl, rfl⟩

/-- They decide `readExactly` too, although each read may return fewer than it was asked
for. -/
theorem readExactly_deterministic (count : Nat) :
    Deterministic (wireStep client resolve) (readExactly client count).run := by
  intro wire result wire' result' wire'' hfirst hsecond
  rcases readExactly_iff.mp hfirst with
      ⟨taken, rest, hinput, htaken, rfl, rfl⟩ | ⟨hshort, rfl, rfl⟩ <;>
    rcases readExactly_iff.mp hsecond with
      ⟨taken', rest', hinput', htaken', rfl, rfl⟩ | ⟨hshort', rfl, rfl⟩
  · rw [hinput] at hinput'
    obtain ⟨rfl, rfl⟩ := List.append_inj hinput' (htaken.trans htaken'.symm)
    exact ⟨rfl, rfl⟩
  · rw [hinput, List.length_append] at hshort'
    omega
  · rw [hinput', List.length_append] at hshort
    omega
  · exact ⟨rfl, rfl⟩

theorem throwIf_deterministic {condition : Prop} [Decidable condition] {error : Exception} :
    Deterministic (wireStep client resolve) (throwIf condition error).run :=
  Deterministic.ite (.ret _) (.ret _)

theorem write_deterministic (bytes : Bytes) :
    Deterministic (wireStep client resolve) (relayCall (.write client bytes)).run := by
  intro wire result wire' result' wire'' hfirst hsecond
  obtain ⟨rfl, rfl⟩ := write_iff.mp hfirst
  obtain ⟨rfl, rfl⟩ := write_iff.mp hsecond
  exact ⟨rfl, rfl⟩

theorem getByName_deterministic (host : Text) :
    Deterministic (wireStep client resolve) (relayCall (.getByName host)).run := by
  intro wire result wire' result' wire'' hfirst hsecond
  obtain ⟨rfl, rfl⟩ := getByName_iff.mp hfirst
  obtain ⟨rfl, rfl⟩ := getByName_iff.mp hsecond
  exact ⟨rfl, rfl⟩

theorem readVector_deterministic :
    Deterministic (wireStep client resolve) (readVector client).run :=
  readByte_deterministic.bindE readExactly_deterministic

/-- So the client's bytes decide whether it is let through. -/
theorem negotiate_deterministic :
    Deterministic (wireStep client resolve) (negotiate config client).run := by
  rw [negotiate_eq]
  apply readByte_deterministic.bindE
  intro version
  apply throwIf_deterministic.bindE
  intro _
  apply readVector_deterministic.bindE
  intro methods
  apply Deterministic.ite
  · apply (write_deterministic _).bindE
    intro _
    apply readByte_deterministic.bindE
    intro version
    apply throwIf_deterministic.bindE
    intro _
    apply readVector_deterministic.bindE
    intro receivedUsername
    apply readVector_deterministic.bindE
    intro receivedPassword
    exact (write_deterministic _).bindE fun _ => throwIf_deterministic
  · exact (write_deterministic _).bindE fun _ => .ret _

/-- Whatever decides its reads and its lookups decides `readAddress`. -/
theorem readAddress_deterministic {sem : Semantics RelayOp RelayOp.Answer Wire}
    (hbyte : Deterministic sem (readByte client).run)
    (hexactly : ∀ count, Deterministic sem (readExactly client count).run)
    (hname : ∀ host, Deterministic sem
      (relayCall (.getByName host) : RelayM InetAddress).run) (type : Nat) :
    Deterministic sem (readAddress client type).run := by
  unfold readAddress
  apply Deterministic.ite
  · exact (hexactly 4).bindE fun _ => .ret _
  apply Deterministic.ite
  · exact (hexactly 16).bindE fun _ => .ret _
  apply Deterministic.ite
  · apply hbyte.bindE
    intro length
    exact (hexactly length).bindE fun _ => hname _
  · exact .ret _

/-- So they decide the request that is served, and how many bytes are left. -/
theorem acceptRequest_deterministic :
    Deterministic (wireStep client resolve) (acceptRequest config client).run := by
  apply negotiate_deterministic.bindE
  intro _
  apply readByte_deterministic.bindE
  intro version
  apply throwIf_deterministic.bindE
  intro _
  apply readByte_deterministic.bindE
  intro command
  apply readByte_deterministic.bindE
  intro _
  apply readByte_deterministic.bindE
  intro type
  apply (readAddress_deterministic readByte_deterministic readExactly_deterministic
    getByName_deterministic type).bindE
  intro address
  apply readByte_deterministic.bindE
  intro high
  exact readByte_deterministic.bindE fun _ => .ret _

end OneOutcome

/-! ## When a handler is invoked -/

/-- `handleClient` once the handshake has ended. -/
def finish (config : RelayConfig) (client : SocketId) (result : Except Exception Request) :
    Prog RelayOp RelayOp.Answer (Except Exception Unit) :=
  (Prog.tryFinally
    (tryCatch (liftM result >>= dispatch config client) fun _ => closeQuietly client)
    (relayCall (.removeSession client))).run

/-- `handleClient` when it has just invoked a handler. -/
def serving (config : RelayConfig) (client : SocketId) (handler : Handler) :
    Prog RelayOp RelayOp.Answer (Except Exception Unit) :=
  (Prog.tryFinally (tryCatch (handler.body config client) fun _ => closeQuietly client)
    (relayCall (.removeSession client))).run

section Invocation

variable {config : RelayConfig} {client : SocketId} {resolve : Text → InetAddress}

/-- After the request the session goes on with what is left of its bytes. -/
theorem handleClient_run :
    (handleClient config client).run =
      (acceptRequest config client).run >>= finish config client := by
  rw [handleClient_eq]
  refine (bind_bind _ _ _).trans ((bind_bind _ _ _).trans ?_)
  congr
  funext result
  cases result with
  | ok request => exact (bind_bind (dispatch config client request).run _ _).symm
  | error error => rfl

/-- A request for a handler is passed to it. -/
theorem finish_handler {request : Request} {handler : Handler}
    (hhandler : handlerOf request = some handler) :
    finish config client (.ok request) = serving config client handler := by
  rw [finish, lift_ok_bind, dispatch, hhandler, serving]

/-- Every interleaving of `handleClient` alone with a client that sends `stream`. -/
abbrev Handles {α : Type} (client : SocketId) (resolve : Text → InetAddress) :
    Prog RelayOp RelayOp.Answer α × Wire → Prog RelayOp RelayOp.Answer α × Wire → Prop :=
  Reaches (wireStep client resolve) fun _ _ => False

/-- A run of the handshake on `stream` ends with a request for `handler`, at `wire`. -/
def Invokes (config : RelayConfig) (client : SocketId) (resolve : Text → InetAddress)
    (stream : Bytes) (handler : Handler) (wire : Wire) : Prop :=
  ∃ request, handlerOf request = some handler ∧
    Handles client resolve ((acceptRequest config client).run, ⟨stream, [], false⟩)
      (.ret (.ok request), wire)

/-- A handler is invoked exactly after a handshake that asks for it. -/
theorem invokes_iff {stream : Bytes} {handler : Handler} {wire : Wire} :
    Invokes config client resolve stream handler wire ↔
      ∃ request rest, Handshake config resolve stream request rest ∧
        handlerOf request = some handler ∧ wire = ⟨rest, [5, 2, 1, 0], false⟩ := by
  constructor
  · rintro ⟨request, hhandler, hreach⟩
    obtain ⟨rest, hhandshake, hwire⟩ := acceptRequest_accepts.mp (Outcome.of_reaches hreach)
    exact ⟨request, rest, hhandshake, hhandler, hwire⟩
  · rintro ⟨request, rest, hhandshake, hhandler, rfl⟩
    exact ⟨request, hhandler,
      Reaches.of_outcome (acceptRequest_accepts.mpr ⟨rest, hhandshake, rfl⟩)⟩

/-- No call before the request can be stuck. -/
theorem wireStep_answered (op : RelayOp) (hgreeting : Greeting client op) (wire : Wire) :
    ∃ answer wire', wireStep client resolve op wire answer wire' := by
  cases op with
  | read socket room =>
      obtain ⟨rfl, hroom⟩ := hgreeting
      cases hinput : wire.input with
      | nil => exact ⟨_, _, by rw [wireStep, if_pos rfl]; exact Or.inr ⟨hinput, rfl, rfl⟩⟩
      | cons byte rest =>
          let chunk : Chunk room := ⟨[byte], List.cons_ne_nil _ _, hroom⟩
          exact ⟨.ok (some chunk), { wire with input := rest },
            by rw [wireStep, if_pos rfl]; exact Or.inl ⟨chunk, hinput, rfl, rfl⟩⟩
  | write socket bytes =>
      obtain ⟨rfl, _⟩ := hgreeting
      exact ⟨_, _, by rw [wireStep, if_pos rfl]; exact ⟨rfl, rfl⟩⟩
  | getByName host => exact ⟨_, _, rfl, rfl⟩
  | _ => exact hgreeting.elim

/-- The calls that open a socket. -/
def Opens : RelayOp → Prop
  | .newSocket | .newDatagramSocket => True
  | _ => False

/-- No call before the request opens a socket. -/
theorem Greeting.opens {op : RelayOp} (hgreeting : Greeting client op) : ¬ Opens op := by
  cases op with
  | newSocket => exact hgreeting.elim
  | newDatagramSocket => exact hgreeting.elim
  | _ => exact id

theorem wireStep_opened {op : RelayOp} (hopens : ¬ Opens op) {wire wire' : Wire}
    {answer : op.Answer} (hstep : wireStep client resolve op wire answer wire') :
    wire'.opened = wire.opened := by
  cases op with
  | read socket room =>
      rw [wireStep] at hstep
      split at hstep
      next =>
        rcases hstep with ⟨_, _, _, hwire⟩ | ⟨_, _, rfl⟩
        · rw [hwire]
        · rfl
      next => rw [hstep]
  | write socket bytes =>
      rw [wireStep] at hstep
      split at hstep
      next => rw [hstep.2]
      next => rw [hstep]
  | getByName host => rw [hstep.2]
  | newSocket => exact absurd trivial hopens
  | newDatagramSocket => exact absurd trivial hopens
  | _ => exact congrArg Wire.opened hstep

/-- Calls that open nothing leave a closed wire closed. -/
theorem uses_closed {α : Type} {p p' : Prog RelayOp RelayOp.Answer α} {wire wire' : Wire}
    (huses : p.Uses fun op => ¬ Opens op) (hclosed : wire.opened = false)
    (hreach : Handles client resolve (p, wire) (p', wire')) : wire'.opened = false :=
  (hreach.uses huses (P := fun wire => wire.opened = false) (fun _ _ _ hstep => hstep.elim)
    (fun _ hopens _ _ _ hbefore hstep => (wireStep_opened hopens hstep).trans hbefore) hclosed).1

/-- Before a handler runs only the client's stream and the resolver are used. -/
theorem acceptRequest_uses : (acceptRequest config client).run.Uses (Greeting client) :=
  (negotiate_uses config).bindE fun _ => readRequest_uses

/-- With the handshake there, every run of `handleClient` comes to the handler. -/
theorem comes_to_handler {stream rest : Bytes} {request : Request} {handler : Handler}
    (hhandshake : Handshake config resolve stream request rest)
    (hhandler : handlerOf request = some handler)
    {reached : Prog RelayOp RelayOp.Answer (Except Exception Unit) × Wire}
    (hreach : Handles client resolve ((handleClient config client).run, ⟨stream, [], false⟩)
      reached) :
    Handles client resolve reached (serving config client handler, ⟨rest, [5, 2, 1, 0], false⟩) ∨
      Handles client resolve (serving config client handler, ⟨rest, [5, 2, 1, 0], false⟩)
        reached := by
  obtain ⟨program, wire⟩ := reached
  rw [handleClient_run] at hreach
  have haccepts : Accepts client resolve (acceptRequest config client) ⟨stream, [], false⟩ request
      ⟨rest, [5, 2, 1, 0], false⟩ := acceptRequest_accepts.mpr ⟨rest, hhandshake, rfl⟩
  rw [← finish_handler hhandler]
  rcases hreach.bind_cases with ⟨program, rfl, hfirst⟩ | ⟨result, middle, hfirst, hrest⟩
  · -- the handshake goes on from here, and it can only end in one way
    left
    have huses := hfirst.uses_program acceptRequest_uses
    obtain ⟨result, last, hlast⟩ := Outcome.exists_of_uses huses wireStep_answered wire
    have hmore : Handles client resolve (program, wire) (.ret result, last) :=
      Reaches.of_outcome hlast
    obtain ⟨rfl, rfl⟩ :=
      acceptRequest_deterministic (Outcome.of_reaches (hfirst.trans hmore)) haccepts
    exact hmore.bind (finish config client)
  · right
    obtain ⟨rfl, rfl⟩ := acceptRequest_deterministic (Outcome.of_reaches hfirst) haccepts
    exact hrest

/-- Without a request for a handler no socket is opened. -/
theorem opens_nothing {stream : Bytes}
    (hnone : ∀ request rest, Handshake config resolve stream request rest →
      handlerOf request = none)
    {reached : Prog RelayOp RelayOp.Answer (Except Exception Unit) × Wire}
    (hreach : Handles client resolve ((handleClient config client).run, ⟨stream, [], false⟩)
      reached) :
    reached.2.opened = false := by
  obtain ⟨program, wire⟩ := reached
  rw [handleClient_run] at hreach
  have haccept : (acceptRequest config client).run.Uses fun op => ¬ Opens op :=
    acceptRequest_uses.mono fun _ => Greeting.opens
  rcases hreach.bind_cases with ⟨program, rfl, hfirst⟩ | ⟨result, middle, hfirst, hrest⟩
  · exact uses_closed haccept rfl hfirst
  · have hfinish : (finish config client result).Uses fun op => ¬ Opens op := by
      have hquiet : (closeQuietly client).run.Uses fun op => ¬ Opens op :=
        Uses.tryCatch (Uses.io id) fun _ => trivial
      refine Uses.tryFinally (Uses.tryCatch ?_ fun _ => hquiet) (Uses.io id)
      cases result with
      | error error => trivial
      | ok request =>
          obtain ⟨rest, hhandshake, _⟩ := acceptRequest_accepts.mp (Outcome.of_reaches hfirst)
          rw [lift_ok_bind, dispatch, hnone request rest hhandshake]
          exact Uses.io id
    exact uses_closed hfinish (uses_closed haccept rfl hfirst) hrest

end Invocation

/-- A client that sends `stream` gets a handler exactly when `stream` starts with a full
handshake; the handshake is then all that was read, and its two answers all that was
written. Otherwise no socket is opened. -/
theorem handler_invoked_iff (config : RelayConfig) (client : SocketId)
    (resolve : Text → InetAddress) (stream : Bytes) :
    (∀ handler wire, Invokes config client resolve stream handler wire ↔
      ∃ request rest, Handshake config resolve stream request rest ∧
        handlerOf request = some handler ∧ wire = ⟨rest, [5, 2, 1, 0], false⟩) ∧
    (∀ request rest handler reached, Handshake config resolve stream request rest →
      handlerOf request = some handler →
      Handles client resolve ((handleClient config client).run, ⟨stream, [], false⟩) reached →
      Handles client resolve reached (serving config client handler, ⟨rest, [5, 2, 1, 0], false⟩) ∨
        Handles client resolve (serving config client handler, ⟨rest, [5, 2, 1, 0], false⟩)
          reached) ∧
    ((∀ request rest, Handshake config resolve stream request rest → handlerOf request = none) →
      ∀ reached,
        Handles client resolve ((handleClient config client).run, ⟨stream, [], false⟩) reached →
        reached.2.opened = false) :=
  ⟨fun _ _ => invokes_iff, fun _ _ _ _ hhandshake hhandler => comes_to_handler hhandshake hhandler,
    fun hnone _ => opens_nothing hnone⟩

end AIUnblock.LocalSocksRelay
