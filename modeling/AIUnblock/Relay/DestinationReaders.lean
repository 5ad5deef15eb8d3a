import AIUnblock.Relay.Destinations
import AIUnblock.Relay.Handshake

/-! # The two readers of a destination

A destination arrives in the control stream, where it is read in the chunks that the
network makes of it, and in the header of every datagram, where it is read at offsets
of the receive buffer. Both readers find what `takeDestination` finds.
-/

namespace AIUnblock.LocalSocksRelay

open Prog LengthPrefixed

/-- The part of `readRequest` that reads a destination. -/
def readDestination (input : SocketId) : RelayM InetSocketAddress := do
  let address ← readAddress input (← readByte input)
  let high ← readByte input
  let low ← readByte input
  return { address, port := (high <<< 8) ||| low }

theorem readRequest_eq (input : SocketId) :
    readRequest input = (do
      throwIf ((← readByte input) ≠ SOCKS_VERSION)
        { kind := .eof, message := "Bad request version" }
      let command ← readByte input
      let _ ← readByte input
      let destination ← readDestination input
      return { command, destination }) := by
  simp only [readRequest, readDestination, bind_assoc, pure_bind]

/-- As `wireStep`, but a name may not resolve. -/
def lookupStep (client : SocketId) (resolve : Text → Except Exception InetAddress) :
    Semantics RelayOp RelayOp.Answer Wire
  | .getByName host, wire, answer, wire' => answer = resolve host ∧ wire' = wire
  | op, wire, answer, wire' => wireStep client (fun _ => .loopback) op wire answer wire'

/-! ## What a reader takes off the stream -/

section Stream

variable {client : SocketId} {resolve : Text → Except Exception InetAddress} {wire wire' : Wire}

/-- The reads of the client's stream. -/
def ReadsClient (client : SocketId) : RelayOp → Prop
  | .read socket _ => socket = client
  | _ => False

theorem lookupStep_read (op : RelayOp) (hread : ReadsClient client op) :
    lookupStep client resolve op = wireStep client (fun _ => .loopback) op := by
  cases op with
  | read socket room => rfl
  | _ => exact hread.elim

theorem readByte_reads : (readByte client).run.Uses (ReadsClient client) :=
  readByte_uses fun _ _ => rfl

theorem readExactly_reads (count : Nat) :
    (readExactly client count).run.Uses (ReadsClient client) :=
  readExactly_uses (fun _ _ => rfl) count

theorem readByte_ok_iff {value : Nat} :
    Outcome (lookupStep client resolve) (readByte client).run wire (.ok value) wire' ↔
      ∃ byte rest, wire.input = byte :: rest ∧ value = byte.toNat ∧
        wire' = { wire with input := rest } := by
  rw [Outcome.congr_uses lookupStep_read readByte_reads, readByte_iff]
  simp

theorem readExactly_ok_iff {count : Nat} {taken : Bytes} :
    Outcome (lookupStep client resolve) (readExactly client count).run wire (.ok taken) wire' ↔
      ∃ rest, takeExactly count wire.input = some (taken, rest) ∧
        wire' = { wire with input := rest } := by
  rw [Outcome.congr_uses lookupStep_read (readExactly_reads count), readExactly_iff]
  simp only [takeExactly_eq_some_iff]
  constructor
  · rintro (⟨_, rest, hinput, hlength, heq, rfl⟩ | ⟨_, heq, _⟩)
    · cases heq
      exact ⟨rest, ⟨hinput, hlength⟩, rfl⟩
    · contradiction
  · rintro ⟨rest, ⟨hinput, hlength⟩, rfl⟩
    exact Or.inl ⟨taken, rest, hinput, hlength, rfl, rfl⟩

theorem readVector_ok_iff {content : Bytes} :
    Outcome (lookupStep client resolve) (readVector client).run wire (.ok content) wire' ↔
      ∃ rest, takeVector 1 wire.input = some (content, rest) ∧
        wire' = { wire with input := rest } := by
  rw [readVector, Outcome.bindE_ok_iff]
  simp only [readByte_ok_iff, readExactly_ok_iff]
  constructor
  · rintro ⟨_, _, ⟨byte, others, hinput, rfl, rfl⟩, rest, hcontent, rfl⟩
    exact ⟨rest, by rw [hinput, takeVector_one_cons, hcontent], rfl⟩
  · rintro ⟨rest, hcontent, rfl⟩
    cases hinput : wire.input with
    | nil =>
        rw [hinput, takeVector_short (by decide)] at hcontent
        contradiction
    | cons byte others =>
        rw [hinput, takeVector_one_cons] at hcontent
        exact ⟨byte.toNat, { wire with input := others }, ⟨byte, others, rfl, rfl, rfl⟩, rest,
          hcontent, rfl⟩

/-- Bytes are taken off the stream, and an address is made of them. -/
theorem addressFrom_ok_iff {p : RelayM Bytes} {q : Bytes → RelayM InetAddress}
    {found : Option (Bytes × Bytes)} {read : Bytes → Except Exception InetAddress}
    {address : InetAddress}
    (hbytes : ∀ bytes after, Outcome (lookupStep client resolve) p.run wire (.ok bytes) after ↔
      ∃ rest, found = some (bytes, rest) ∧ after = { wire with input := rest })
    (hread : ∀ bytes before result after,
      Outcome (lookupStep client resolve) (q bytes).run before result after ↔
        result = read bytes ∧ after = before) :
    Outcome (lookupStep client resolve) (p >>= q).run wire (.ok address) wire' ↔
      ∃ rest, addressFrom read found = .ok (some (address, rest)) ∧
        wire' = { wire with input := rest } := by
  rw [Outcome.bindE_ok_iff]
  simp only [hbytes, hread, addressFrom_eq_some]
  constructor
  · rintro ⟨bytes, _, ⟨rest, hfound, rfl⟩, haddress, rfl⟩
    exact ⟨rest, ⟨bytes, hfound, haddress.symm⟩, rfl⟩
  · rintro ⟨rest, ⟨bytes, hfound, haddress⟩, rfl⟩
    exact ⟨bytes, _, ⟨rest, hfound, rfl⟩, haddress.symm, rfl⟩

theorem getByAddress_lookup (bytes : Bytes) (before : Wire) (result : Except Exception InetAddress)
    (after : Wire) :
    Outcome (lookupStep client resolve)
        (liftM (InetAddress.getByAddress bytes) : RelayM InetAddress).run before result after ↔
      result = InetAddress.getByAddress bytes ∧ after = before :=
  Outcome.lift_iff

theorem getByName_lookup (name : Bytes) (before : Wire) (result : Except Exception InetAddress)
    (after : Wire) :
    Outcome (lookupStep client resolve)
        (relayCall (.getByName (decodeUsAscii name)) : RelayM InetAddress).run before result after ↔
      result = resolve (decodeUsAscii name) ∧ after = before := by
  rw [relayCall, Outcome.io_iff, lookupStep]

/-- `readAddress` takes what `takeAddress` takes. -/
theorem readAddress_ok_iff {type : Nat} {address : InetAddress} :
    Outcome (lookupStep client resolve) (readAddress client type).run wire (.ok address) wire' ↔
      ∃ rest, takeAddress resolve type wire.input = .ok (some (address, rest)) ∧
        wire' = { wire with input := rest } := by
  rw [readAddress, takeAddress]
  by_cases hfour : type = ADDRESS_IPV4
  · rw [if_pos hfour, if_pos hfour]
    exact addressFrom_ok_iff (fun _ _ => readExactly_ok_iff) getByAddress_lookup
  rw [if_neg hfour, if_neg hfour]
  by_cases hsixteen : type = ADDRESS_IPV6
  · rw [if_pos hsixteen, if_pos hsixteen]
    exact addressFrom_ok_iff (fun _ _ => readExactly_ok_iff) getByAddress_lookup
  rw [if_neg hsixteen, if_neg hsixteen]
  by_cases hdomain : type = ADDRESS_DOMAIN
  · rw [if_pos hdomain, if_pos hdomain, readVector_bind]
    exact addressFrom_ok_iff (fun _ _ => readVector_ok_iff) getByName_lookup
  · rw [if_neg hdomain, if_neg hdomain, Outcome.throw_iff]
    simp

/-- `readDestination` takes what `takeDestination` takes. -/
theorem readDestination_ok_iff {destination : InetSocketAddress} :
    Outcome (lookupStep client resolve) (readDestination client).run wire (.ok destination) wire' ↔
      ∃ rest, takeDestination resolve wire.input = .ok (some (destination, rest)) ∧
        wire' = { wire with input := rest } := by
  simp only [readDestination, Outcome.bindE_ok_iff, readByte_ok_iff, readAddress_ok_iff,
    Outcome.pure_iff, takeDestination_eq_some]
  constructor
  · rintro ⟨_, _, ⟨type, content, hinput, rfl, rfl⟩, address, _, ⟨_, haddress, rfl⟩, _, _,
      ⟨high, _, rfl, rfl, rfl⟩, _, _, ⟨low, rest, rfl, rfl, rfl⟩, heq, rfl⟩
    rw [shiftLeft_or_toNat] at heq
    exact ⟨rest, ⟨type, content, address, high, low, hinput, haddress, Except.ok.inj heq⟩, rfl⟩
  · rintro ⟨rest, ⟨type, content, address, high, low, hinput, haddress, rfl⟩, rfl⟩
    refine ⟨_, _, ⟨type, content, hinput, rfl, rfl⟩, address, _, ⟨_, haddress, rfl⟩, _, _,
      ⟨high, _, rfl, rfl, rfl⟩, _, _, ⟨low, rest, rfl, rfl, rfl⟩, ?_, rfl⟩
    rw [shiftLeft_or_toNat]

/-! ## One outcome, whatever the chunks -/

theorem readDestination_deterministic :
    Deterministic (lookupStep client resolve) (readDestination client).run := by
  have hbyte : Deterministic (lookupStep client resolve) (readByte client).run :=
    Deterministic.congr_uses lookupStep_read readByte_reads readByte_deterministic
  have hexactly : ∀ count, Deterministic (lookupStep client resolve)
      (readExactly client count).run := fun count =>
    Deterministic.congr_uses lookupStep_read (readExactly_reads count)
      (readExactly_deterministic count)
  have hname : ∀ host, Deterministic (lookupStep client resolve)
      (relayCall (.getByName host) : RelayM InetAddress).run := by
    intro host before result after result' after' hfirst hsecond
    rw [relayCall, Outcome.io_iff, lookupStep] at hfirst hsecond
    exact ⟨hfirst.1.trans hsecond.1.symm, hfirst.2.trans hsecond.2.symm⟩
  apply hbyte.bindE
  intro type
  apply (readAddress_deterministic hbyte hexactly hname type).bindE
  intro address
  apply hbyte.bindE
  intro high
  exact hbyte.bindE fun _ => .ret _

theorem lookupStep_answered (op : RelayOp) (hgreeting : Greeting client op) (wire : Wire) :
    ∃ answer wire', lookupStep client resolve op wire answer wire' := by
  cases op with
  | getByName host => exact ⟨_, _, rfl, rfl⟩
  | read socket room => exact @wireStep_answered client (fun _ => .loopback) _ hgreeting wire
  | write socket bytes => exact @wireStep_answered client (fun _ => .loopback) _ hgreeting wire
  | _ => exact hgreeting.elim

theorem readDestination_ends (wire : Wire) :
    ∃ result wire', Outcome (lookupStep client resolve) (readDestination client).run wire result
      wire' := by
  have hbyte : (readByte client).run.Uses (Greeting client) :=
    readByte_uses fun _ hroom => ⟨rfl, hroom⟩
  have huses : (readDestination client).run.Uses (Greeting client) := by
    apply hbyte.bindE
    intro type
    apply (readAddress_uses type).bindE
    intro address
    apply hbyte.bindE
    intro high
    exact hbyte.bindE fun _ => trivial
  exact Outcome.exists_of_uses huses lookupStep_answered wire

end Stream

/-! ## The readers agree -/

/-- Some run of the reader on `stream` ends, and every run that ends does so as `post`
says of its result and of what is left. -/
def StreamEnds (client : SocketId) (resolve : Text → Except Exception InetAddress)
    (stream : Bytes) (post : Except Exception InetSocketAddress → Bytes → Prop) : Prop :=
  ∀ wire : Wire, wire.input = stream →
    (∃ result wire', Outcome (lookupStep client resolve) (readDestination client).run wire result
      wire') ∧
    ∀ result wire', Outcome (lookupStep client resolve) (readDestination client).run wire result
      wire' → post result wire'.input

/-- A reader gives the destination and leaves `rest`, whatever the chunks. -/
def StreamGives (client : SocketId) (resolve : Text → Except Exception InetAddress)
    (stream : Bytes) (destination : InetSocketAddress) (rest : Bytes) : Prop :=
  StreamEnds client resolve stream fun result left => result = .ok destination ∧ left = rest

/-- The reader throws. -/
def StreamFails (client : SocketId) (resolve : Text → Except Exception InetAddress)
    (stream : Bytes) : Prop :=
  StreamEnds client resolve stream fun result _ => ∃ error, result = .error error

/-- How many bytes the destination at the front takes, if its type is known and its
length is there. -/
def destinationLength : Bytes → Option Nat
  | [] => none
  | type :: content =>
    if type.toNat = ADDRESS_IPV4 then some (1 + 4 + 2)
    else if type.toNat = ADDRESS_IPV6 then some (1 + 16 + 2)
    else if type.toNat = ADDRESS_DOMAIN then
      content.head?.map fun count => 1 + (1 + count.toNat) + 2
    else none

/-- The address type is unknown, or the destination is cut off. -/
def Malformed (bytes : Bytes) : Prop := ∀ length ∈ destinationLength bytes, bytes.length < length

section Agreement

variable {client : SocketId} {resolve : Text → Except Exception InetAddress}
  {stream before after rest : Bytes} {destination : InetSocketAddress}

theorem streamGives_iff :
    StreamGives client resolve stream destination rest ↔
      takeDestination resolve stream = .ok (some (destination, rest)) := by
  constructor
  · intro hgives
    obtain ⟨⟨result, wire', houtcome⟩, hall⟩ := hgives ⟨stream, [], false⟩ rfl
    obtain ⟨rfl, hleft⟩ := hall result wire' houtcome
    obtain ⟨left, htaken, rfl⟩ := readDestination_ok_iff.mp houtcome
    rw [htaken, ← hleft]
  · rintro htaken wire rfl
    have houtcome := (@readDestination_ok_iff client resolve wire _ destination).mpr
      ⟨rest, htaken, rfl⟩
    refine ⟨⟨_, _, houtcome⟩, fun result wire' hother => ?_⟩
    obtain ⟨rfl, rfl⟩ := readDestination_deterministic hother houtcome
    exact ⟨rfl, rfl⟩

theorem streamFails_iff :
    StreamFails client resolve stream ↔
      ∀ destination rest, takeDestination resolve stream ≠ .ok (some (destination, rest)) := by
  constructor
  · intro hfails destination rest htaken
    obtain ⟨⟨result, wire', houtcome⟩, _⟩ := hfails ⟨stream, [], false⟩ rfl
    obtain ⟨error, rfl⟩ := (hfails ⟨stream, [], false⟩ rfl).2 result wire' houtcome
    obtain ⟨heq, _⟩ := (streamGives_iff.mpr htaken ⟨stream, [], false⟩ rfl).2 _ _ houtcome
    contradiction
  · rintro hnone wire rfl
    refine ⟨readDestination_ends wire, fun result wire' houtcome => ?_⟩
    cases result with
    | error error => exact ⟨error, rfl⟩
    | ok destination =>
        obtain ⟨rest, htaken, _⟩ := readDestination_ok_iff.mp houtcome
        exact absurd htaken (hnone destination rest)

/-- A destination that can be read is there in full. -/
theorem not_malformed (htaken : takeDestination resolve stream = .ok (some (destination, rest))) :
    ¬ Malformed stream := by
  obtain ⟨type, content, address, high, low, rfl, haddress, _⟩ :=
    takeDestination_eq_some.mp htaken
  intro hmalformed
  rcases takeAddress_eq_some.mp haddress with
      ⟨htype, octets, rfl, hlength, _⟩ | ⟨htype, octets, rfl, hlength, _⟩ |
      ⟨htype, name, rfl, hlength, _⟩
  · have hlt := hmalformed (1 + 4 + 2) (by rw [destinationLength, if_pos htype]; rfl)
    simp only [List.length_cons, List.length_append, hlength] at hlt
    omega
  · have hlt := hmalformed (1 + 16 + 2)
      (by rw [destinationLength, if_neg (by rw [htype]; decide), if_pos htype]; rfl)
    simp only [List.length_cons, List.length_append, hlength] at hlt
    omega
  · have hcount : (UInt8.ofNat name.length).toNat = name.length := by
      rw [UInt8.toNat_ofNat', Nat.mod_eq_of_lt hlength]
    have hlt := hmalformed (1 + (1 + name.length) + 2) (by
      rw [destinationLength, if_neg (by rw [htype]; decide), if_neg (by rw [htype]; decide),
        if_pos htype, vector_one, List.cons_append, List.head?_cons, Option.map_some, hcount]
      rfl)
    simp only [List.length_cons, List.length_append, length_vector] at hlt
    omega

/-- The reader of datagrams gives a request exactly when the destination is there. -/
theorem parseUdpRequest_iff {request : UdpRequest} :
    parseUdpRequest resolve (before ++ ([0, 0, 0] ++ stream) ++ after) before.length
        (3 + stream.length) = .ok (some request) ↔
      takeDestination resolve stream = .ok (some (request.destination, request.payload)) := by
  have hlength : 3 + stream.length = ([0, 0, 0] ++ stream).length := by
    rw [List.length_append, List.length_cons, List.length_cons, List.length_cons, List.length_nil]
  rw [hlength, parseUdpRequest_eq_some]
  constructor
  · rintro ⟨bytes, heq, htaken⟩
    rwa [List.append_cancel_left heq]
  · intro htaken
    exact ⟨stream, rfl, htaken⟩

end Agreement

/-- The stream reader gives a destination and leaves what is behind it exactly when the
datagram reader gives that destination and payload, wherever the datagram stands in the
buffer. Both fail on an unknown type and on a destination that is cut off. -/
theorem destination_readers_agree (client : SocketId)
    (resolve : Text → Except Exception InetAddress) (stream before after : Bytes) :
    (∀ destination rest, StreamGives client resolve stream destination rest ↔
      parseUdpRequest resolve (before ++ ([0, 0, 0] ++ stream) ++ after) before.length
        (3 + stream.length) = .ok (some { destination, payload := rest })) ∧
    (Malformed stream → StreamFails client resolve stream ∧
      ∀ request, parseUdpRequest resolve (before ++ ([0, 0, 0] ++ stream) ++ after) before.length
        (3 + stream.length) ≠ .ok (some request)) := by
  constructor
  · intro destination rest
    rw [streamGives_iff, parseUdpRequest_iff]
  · intro hmalformed
    refine ⟨streamFails_iff.mpr fun destination rest htaken => ?_, fun request hrequest => ?_⟩
    · exact not_malformed htaken hmalformed
    · exact not_malformed (parseUdpRequest_iff.mp hrequest) hmalformed

end AIUnblock.LocalSocksRelay
