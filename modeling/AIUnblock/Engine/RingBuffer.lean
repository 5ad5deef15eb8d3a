import AIUnblock.Foundation.Circular
import AIUnblock.Foundation.Runs
import AIUnblock.Kotlin.Text

/-! # `hev-ring-buffer.c`

The bytes of the buffer are handed on by reference: they stay in use after they were
read, until the reader releases them.
-/

namespace AIUnblock

open Circular

/-- `HevRingBuffer`. `data` is the memory from its array on. -/
structure HevRingBuffer where
  rp : Nat
  wp : Nat
  rdaSize : Nat
  useSize : Nat
  maxSize : Nat
  data : Nat → UInt8

namespace HevRingBuffer

/-- `hev_ring_buffer_alloca`. -/
def alloca (size : Nat) (garbage : Nat → UInt8) : HevRingBuffer where
  rp := 0
  wp := 0
  rdaSize := 0
  useSize := 0
  maxSize := size
  data := garbage

/-- `hev_ring_buffer_reading`: each `struct iovec` by its offset and length. -/
def reading (self : HevRingBuffer) : List (Nat × Nat) :=
  if 0 = self.rdaSize then []
  else
    let upperSize := self.maxSize - self.rp
    if self.rdaSize ≤ upperSize then [(self.rp, self.rdaSize)]
    else [(self.rp, upperSize), (0, self.rdaSize - upperSize)]

/-- `hev_ring_buffer_read_finish`. -/
def readFinish (self : HevRingBuffer) (size : Nat) : HevRingBuffer :=
  { self with rp := (self.rp + size) % self.maxSize, rdaSize := self.rdaSize - size }

/-- `hev_ring_buffer_read_release`. -/
def readRelease (self : HevRingBuffer) (size : Nat) : HevRingBuffer :=
  let useSize := self.useSize - size
  if useSize = 0 then { self with useSize, rp := 0, wp := 0 } else { self with useSize }

/-- `hev_ring_buffer_writing`. -/
def writing (self : HevRingBuffer) : List (Nat × Nat) :=
  if self.useSize = self.maxSize then []
  else
    let upperSize := self.maxSize - self.wp
    let spcSize := self.maxSize - self.useSize
    if spcSize ≤ upperSize then [(self.wp, spcSize)]
    else [(self.wp, upperSize), (0, spcSize - upperSize)]

/-- `hev_ring_buffer_write_finish`. -/
def writeFinish (self : HevRingBuffer) (size : Nat) : HevRingBuffer :=
  { self with
    wp := (self.wp + size) % self.maxSize
    useSize := self.useSize + size
    rdaSize := self.rdaSize + size }

/-- `readv` into the segments that `writing` offers, and `write_finish`. -/
def fill (self : HevRingBuffer) (bytes : Bytes) : HevRingBuffer :=
  { self with data := scatter self.data self.writing bytes }.writeFinish bytes.length

/-! ## The buffer as a queue -/

structure Inv (ring : HevRingBuffer) : Prop where
  rp_lt : ring.rp < ring.maxSize
  rda_le : ring.rdaSize ≤ ring.useSize
  use_le : ring.useSize ≤ ring.maxSize
  wp_eq : (ring.rp + ring.rdaSize) % ring.maxSize = ring.wp

/-- Where the bytes in use start. -/
def first (ring : HevRingBuffer) : Nat :=
  (ring.wp + (ring.maxSize - ring.useSize)) % ring.maxSize

/-- The bytes in use, oldest first. -/
def contents (ring : HevRingBuffer) : Bytes :=
  window ring.data ring.maxSize ring.first ring.useSize

/-- How many bytes have been read and not released. -/
def unreleased (ring : HevRingBuffer) : Nat := ring.useSize - ring.rdaSize

/-- A new ring is in order, whatever its memory holds. -/
theorem alloca_inv {size : Nat} (hsize : 0 < size) (garbage : Nat → UInt8) :
    (alloca size garbage).Inv :=
  ⟨hsize, le_refl _, Nat.zero_le _, Nat.zero_mod _⟩

section Operations

variable {ring : HevRingBuffer}

/-- The segments to read go around from `rp`. -/
theorem reading_eq (ring : HevRingBuffer) :
    ring.reading = pieces ring.maxSize ring.rp ring.rdaSize := by
  rw [reading, pieces]
  simp only [eq_comm]

theorem Inv.wp_lt (hinv : ring.Inv) : ring.wp < ring.maxSize := by
  rw [← hinv.wp_eq]
  exact Nat.mod_lt _ (Nat.zero_lt_of_lt hinv.rp_lt)

/-- And those to write from `wp`, over all free places. -/
theorem Inv.writing_eq (hinv : ring.Inv) :
    ring.writing = pieces ring.maxSize ring.wp (ring.maxSize - ring.useSize) := by
  have huse := hinv.use_le
  rw [writing, pieces]
  by_cases hfull : ring.useSize = ring.maxSize
  · rw [if_pos hfull, if_pos (show ring.maxSize - ring.useSize = 0 by omega)]
  · rw [if_neg hfull, if_neg (show ¬ ring.maxSize - ring.useSize = 0 by omega)]

/-- The places in use end where the next byte is written. -/
theorem Inv.first_add_use (hinv : ring.Inv) :
    (ring.first + ring.useSize) % ring.maxSize = ring.wp := by
  rw [first, Nat.mod_add_mod, Nat.add_assoc, Nat.sub_add_cancel hinv.use_le, Nat.add_mod_right,
    Nat.mod_eq_of_lt hinv.wp_lt]

/-- The unreleased ones end where the next byte is read. -/
theorem Inv.first_add_unreleased (hinv : ring.Inv) :
    (ring.first + ring.unreleased) % ring.maxSize = ring.rp := by
  have hrda := hinv.rda_le
  have huse := hinv.use_le
  rw [first, ← hinv.wp_eq, unreleased, Nat.mod_add_mod, Nat.add_assoc, Nat.mod_add_mod,
    show ring.rp + ring.rdaSize + (ring.maxSize - ring.useSize + (ring.useSize - ring.rdaSize)) =
      ring.rp + ring.maxSize by omega, Nat.add_mod_right, Nat.mod_eq_of_lt hinv.rp_lt]

theorem length_contents (ring : HevRingBuffer) : ring.contents.length = ring.useSize :=
  length_window

/-- What is offered for reading is what has not been read. -/
theorem Inv.gather_reading (hinv : ring.Inv) :
    gather ring.data ring.reading = ring.contents.drop ring.unreleased := by
  have hsplit : ring.useSize = ring.unreleased + ring.rdaSize :=
    (Nat.sub_add_cancel hinv.rda_le).symm
  rw [reading_eq, gather_pieces hinv.rp_lt (hinv.rda_le.trans hinv.use_le), contents, hsplit,
    window_add, hinv.first_add_unreleased, List.drop_left' length_window]

theorem first_fill (ring : HevRingBuffer) {bytes : Bytes}
    (hroom : bytes.length ≤ ring.maxSize - ring.useSize) :
    (ring.fill bytes).first = ring.first := by
  change ((ring.wp + bytes.length) % ring.maxSize +
    (ring.maxSize - (ring.useSize + bytes.length))) % ring.maxSize = _
  rw [Nat.mod_add_mod, first]
  congr 1
  omega

/-- Filling puts bytes behind the contents. -/
theorem Inv.fill (hinv : ring.Inv) {bytes : Bytes}
    (hroom : bytes.length ≤ ring.maxSize - ring.useSize) :
    (ring.fill bytes).Inv ∧ (ring.fill bytes).contents = ring.contents ++ bytes ∧
      (ring.fill bytes).unreleased = ring.unreleased := by
  have hrda := hinv.rda_le
  have huse := hinv.use_le
  refine ⟨⟨hinv.rp_lt, ?_, ?_, ?_⟩, ?_, ?_⟩
  · exact Nat.add_le_add_right hrda _
  · change ring.useSize + bytes.length ≤ ring.maxSize
    omega
  · change (ring.rp + (ring.rdaSize + bytes.length)) % ring.maxSize =
      (ring.wp + bytes.length) % ring.maxSize
    rw [← hinv.wp_eq, Nat.mod_add_mod, Nat.add_assoc]
  · rw [contents, first_fill ring hroom]
    change window (scatter ring.data ring.writing bytes) ring.maxSize ring.first
      (ring.useSize + bytes.length) = _
    rw [window_add, hinv.first_add_use, hinv.writing_eq,
      window_scatter_before hinv.wp_lt hroom (by omega) hinv.first_add_use,
      window_scatter_self hinv.wp_lt (by omega) hroom]
    rfl
  · change ring.useSize + bytes.length - (ring.rdaSize + bytes.length) = _
    rw [unreleased]
    omega

/-- Reading leaves the contents until they are released. -/
theorem Inv.readFinish (hinv : ring.Inv) {size : Nat} (hsize : size ≤ ring.rdaSize) :
    (ring.readFinish size).Inv ∧ (ring.readFinish size).contents = ring.contents ∧
      (ring.readFinish size).unreleased = ring.unreleased + size := by
  have hrda := hinv.rda_le
  refine ⟨⟨?_, ?_, hinv.use_le, ?_⟩, rfl, ?_⟩
  · exact Nat.mod_lt _ (Nat.zero_lt_of_lt hinv.rp_lt)
  · exact (Nat.sub_le _ _).trans hrda
  · change ((ring.rp + size) % ring.maxSize + (ring.rdaSize - size)) % ring.maxSize = ring.wp
    rw [← hinv.wp_eq, Nat.mod_add_mod]
    congr 1
    omega
  · change ring.useSize - (ring.rdaSize - size) = _
    rw [unreleased]
    omega

theorem readRelease_maxSize (ring : HevRingBuffer) (size : Nat) :
    (ring.readRelease size).maxSize = ring.maxSize := by
  unfold HevRingBuffer.readRelease
  dsimp only
  split <;> rfl

theorem readRelease_data (ring : HevRingBuffer) (size : Nat) :
    (ring.readRelease size).data = ring.data := by
  unfold HevRingBuffer.readRelease
  dsimp only
  split <;> rfl

theorem readRelease_useSize (ring : HevRingBuffer) (size : Nat) :
    (ring.readRelease size).useSize = ring.useSize - size := by
  unfold HevRingBuffer.readRelease
  dsimp only
  split <;> rfl

theorem readRelease_rdaSize (ring : HevRingBuffer) (size : Nat) :
    (ring.readRelease size).rdaSize = ring.rdaSize := by
  unfold HevRingBuffer.readRelease
  dsimp only
  split <;> rfl

/-- A release moves where the bytes in use start, unless none are left. -/
theorem places_readRelease (ring : HevRingBuffer) (size count : Nat)
    (hcount : size + count ≤ ring.useSize) (huse : ring.useSize ≤ ring.maxSize) :
    places ring.maxSize (ring.readRelease size).first count =
      (places ring.maxSize ring.first (size + count)).drop size := by
  rw [places_add, List.drop_left' length_places]
  by_cases hempty : ring.useSize - size = 0
  · obtain rfl : count = 0 := by omega
    rfl
  · have hfirst : (ring.readRelease size).first = (ring.first + size) % ring.maxSize := by
      unfold HevRingBuffer.readRelease
      dsimp only
      rw [if_neg hempty, first, first, Nat.mod_add_mod]
      dsimp only
      congr 1
      omega
    rw [hfirst]

/-- Releasing drops the oldest ones. -/
theorem Inv.readRelease (hinv : ring.Inv) {size : Nat} (hsize : size ≤ ring.unreleased) :
    (ring.readRelease size).Inv ∧ (ring.readRelease size).contents = ring.contents.drop size ∧
      (ring.readRelease size).unreleased = ring.unreleased - size := by
  have hrda := hinv.rda_le
  have huse := hinv.use_le
  have hunreleased : ring.unreleased = ring.useSize - ring.rdaSize := rfl
  refine ⟨?_, ?_, ?_⟩
  · unfold HevRingBuffer.readRelease
    dsimp only
    by_cases hempty : ring.useSize - size = 0
    · rw [if_pos hempty]
      refine ⟨Nat.zero_lt_of_lt hinv.rp_lt, ?_, ?_, ?_⟩
      · dsimp only
        omega
      · dsimp only
        omega
      · rw [show ring.rdaSize = 0 by omega]
        exact Nat.zero_mod _
    · rw [if_neg hempty]
      refine ⟨hinv.rp_lt, ?_, ?_, hinv.wp_eq⟩
      · dsimp only
        omega
      · dsimp only
        omega
  · rw [contents, window, readRelease_useSize, readRelease_maxSize, readRelease_data,
      places_readRelease ring size _ (by omega) huse, Nat.add_sub_cancel' (by omega), List.map_drop]
    rfl
  · rw [unreleased, readRelease_useSize, readRelease_rdaSize, hunreleased]
    omega

end Operations

/-! ## Any order of operations -/

inductive Event
  /-- `readv` puts some bytes into what is offered, and `write_finish` counts them. -/
  | fill (bytes : Bytes)
  | readFinish (size : Nat)
  | readRelease (size : Nat)

/-- An operation whose size is one that the buffer can take. -/
def step (ring : HevRingBuffer) : Event → Option HevRingBuffer
  | .fill bytes =>
    if bytes.length ≤ ring.maxSize - ring.useSize then some (ring.fill bytes) else none
  | .readFinish size => if size ≤ ring.rdaSize then some (ring.readFinish size) else none
  | .readRelease size => if size ≤ ring.unreleased then some (ring.readRelease size) else none

/-- All bytes that came in. -/
def written (events : List Event) : Bytes :=
  events.flatMap fun
    | .fill bytes => bytes
    | .readFinish _ => []
    | .readRelease _ => []

/-- How many bytes were read. -/
def finished (events : List Event) : Nat :=
  (events.map fun
    | .fill _ => 0
    | .readFinish size => size
    | .readRelease _ => 0).sum

/-- How many bytes were released. -/
def released (events : List Event) : Nat :=
  (events.map fun
    | .fill _ => 0
    | .readFinish _ => 0
    | .readRelease size => size).sum

/-- What the events so far have made of a buffer of `size` bytes. -/
structure Holds (size : Nat) (past : List Event) (ring : HevRingBuffer) : Prop where
  inv : ring.Inv
  size_eq : ring.maxSize = size
  contents : ring.contents = (written past).drop (released past)
  unreleased : ring.unreleased + released past = finished past
  finished_le : finished past ≤ (written past).length

theorem step_holds {size : Nat} {past : List Event} {ring ring' : HevRingBuffer} {event : Event}
    (hholds : Holds size past ring) (hstep : ring.step event = some ring') :
    Holds size (past ++ [event]) ring' := by
  have hunreleased := hholds.unreleased
  have hfinished := hholds.finished_le
  have hlength := congrArg List.length hholds.contents
  rw [length_contents, List.length_drop] at hlength
  have hrda : ring.unreleased = ring.useSize - ring.rdaSize := rfl
  have hrda_le := hholds.inv.rda_le
  have hwritten : written (past ++ [event]) = written past ++ written [event] :=
    List.flatMap_append
  have hfinished' : finished (past ++ [event]) = finished past + finished [event] := by
    simp [finished]
  have hreleased' : released (past ++ [event]) = released past + released [event] := by
    simp [released]
  unfold step at hstep
  cases event with
  | fill bytes =>
      obtain ⟨hroom, rfl⟩ : _ ∧ ring.fill bytes = ring' := by simpa using hstep
      obtain ⟨hinv, hcontents, hsame⟩ := hholds.inv.fill hroom
      have hnew : written [.fill bytes] = bytes := List.append_nil bytes
      have hnone : finished [.fill bytes] = 0 := rfl
      have hnone' : released [.fill bytes] = 0 := rfl
      refine ⟨hinv, hholds.size_eq, ?_, ?_, ?_⟩
      · rw [hcontents, hholds.contents, hwritten, hreleased', hnew, hnone', Nat.add_zero,
          List.drop_append_of_le_length (by omega)]
      · rw [hsame, hreleased', hfinished', hnone, hnone']
        omega
      · rw [hwritten, List.length_append, hfinished', hnone]
        omega
  | readFinish count =>
      obtain ⟨hcount, rfl⟩ : _ ∧ ring.readFinish count = ring' := by simpa using hstep
      obtain ⟨hinv, hcontents, hmore⟩ := hholds.inv.readFinish hcount
      have hnone : written [.readFinish count] = [] := rfl
      have hnone' : released [.readFinish count] = 0 := rfl
      have hnew : finished [.readFinish count] = count := Nat.add_zero count
      refine ⟨hinv, hholds.size_eq, ?_, ?_, ?_⟩
      · rw [hcontents, hholds.contents, hwritten, hreleased', hnone, hnone', List.append_nil,
          Nat.add_zero]
      · rw [hmore, hreleased', hfinished', hnone', hnew]
        omega
      · rw [hwritten, hnone, List.append_nil, hfinished', hnew]
        omega
  | readRelease count =>
      obtain ⟨hcount, rfl⟩ : _ ∧ ring.readRelease count = ring' := by simpa using hstep
      obtain ⟨hinv, hcontents, hfewer⟩ := hholds.inv.readRelease hcount
      have hnone : written [.readRelease count] = [] := rfl
      have hnone' : finished [.readRelease count] = 0 := rfl
      have hnew : released [.readRelease count] = count := Nat.add_zero count
      refine ⟨hinv, (ring.readRelease_maxSize count).trans hholds.size_eq, ?_, ?_, ?_⟩
      · rw [hcontents, hholds.contents, hwritten, hreleased', hnone, hnew, List.append_nil,
          List.drop_drop]
      · rw [hfewer, hreleased', hfinished', hnone', hnew]
        omega
      · rw [hwritten, hnone, List.append_nil, hfinished', hnone']
        omega

/-- In any order of operations the buffer is a queue that keeps what was read until it is
released: what is in use are the bytes that came in less those released, what is offered
for reading are those not read, and all the rest of the buffer is offered for writing. -/
theorem ring_is_queue {size : Nat} (hsize : 0 < size) (garbage : Nat → UInt8)
    {events : List Event} {ring : HevRingBuffer}
    (hrun : events.foldlM step (alloca size garbage) = some ring) :
    ring.contents = (written events).drop (released events) ∧
      gather ring.data ring.reading = (written events).drop (finished events) ∧
      (∀ piece ∈ ring.reading ++ ring.writing, 0 < piece.2 ∧ piece.1 + piece.2 ≤ size) ∧
      (ring.writing.map Prod.snd).sum + ring.contents.length = size := by
  have hstart : Holds size [] (alloca size garbage) :=
    ⟨alloca_inv hsize garbage, rfl, rfl, rfl, Nat.zero_le _⟩
  have hholds := Runs.history hstart (fun _ _ _ _ => step_holds) hrun
  have huse := hholds.inv.use_le
  refine ⟨hholds.contents, ?_, ?_, ?_⟩
  · rw [hholds.inv.gather_reading, hholds.contents, List.drop_drop, Nat.add_comm,
      hholds.unreleased]
  · rw [reading_eq, hholds.inv.writing_eq, hholds.size_eq]
    intro piece hpiece
    rcases List.mem_append.mp hpiece with hpiece | hpiece
    · have hrp := hholds.inv.rp_lt
      have hrda := hholds.inv.rda_le
      rw [hholds.size_eq] at hrp huse
      exact pieces_fit hrp (by omega) piece hpiece
    · have hwp := hholds.inv.wp_lt
      rw [hholds.size_eq] at hwp
      exact pieces_fit hwp (by omega) piece hpiece
  · rw [hholds.inv.writing_eq, length_contents, sum_pieces, hholds.size_eq]
    rw [hholds.size_eq] at huse
    omega

/-- Four bytes around a buffer of three. -/
theorem ring_is_queue_around :
    ∃ ring, [Event.fill [1, 2], .readFinish 1, .readRelease 1, .fill [3, 4]].foldlM step
        (alloca 3 fun _ => 0) = some ring ∧
      ring.contents = [2, 3, 4] ∧ gather ring.data ring.reading = [2, 3, 4] := by
  obtain ⟨hcontents, hreading, _⟩ := @ring_is_queue 3 (by decide) (fun _ => 0)
    [.fill [1, 2], .readFinish 1, .readRelease 1, .fill [3, 4]] _ rfl
  exact ⟨_, rfl, hcontents, hreading⟩

end HevRingBuffer

end AIUnblock
