import AIUnblock.Engine.RingBuffer

/-! # `hev-socks5-session-tcp.c`

The session's task carries bytes between lwIP and the socket to the relay, while lwIP's
task calls the handlers of the connection. Both change the state of the session only
between suspensions, and the mutex keeps the handlers out of the second half of a splice.
-/

namespace AIUnblock

open Circular

/-- Where the session's task is suspended or about to go on. -/
inductive SplicePhase
  | entering
  | spliceF
  /-- `tcp_splice_f` waits for the mutex after `writev` took some bytes. -/
  | recving (taken : Nat)
  | spliceB
  /-- `tcp_splice_b` waits for the mutex; the result of its first half. -/
  | handing (res : Int)
  | yielding
  | draining
  | left
  deriving DecidableEq

/-- How much `writev` took of the queue while that is still in it. -/
def SplicePhase.taken : SplicePhase → Option Nat
  | .recving taken => some taken
  | .entering | .spliceF | .spliceB | .handing _ | .yielding | .draining | .left => none

def TCP_WND : Nat := 65528
def TCP_SND_BUF : Nat := 65528

/-- What lwIP keeps of the connection. A sent byte is kept by its place in the ring, since
`tcp_write` does not copy. -/
structure TcpPcb where
  rcvWnd : Nat := TCP_WND
  sndBuf : Nat := TCP_SND_BUF
  held : List Nat := []

/-- A session, its task, and what has passed through. -/
structure HevSocks5SessionTCP where
  buffer : HevRingBuffer
  queue : List Bytes := []
  pcb : Option TcpPcb := some {}
  pcbEof : Bool := false
  phase : SplicePhase := .entering
  resF : Int := 1
  resB : Int := 1
  /-- What `tcp_recv_handler` got, and what `writev` took of it. -/
  received : Bytes := []
  written : Bytes := []
  shutWr : Bool := false
  /-- What `readv` got, what `tcp_write` took of it, and how much the application acknowledged. -/
  fetched : Bytes := []
  handed : Bytes := []
  acked : Nat := 0
  shutTx : Bool := false
  /-- Some `tcp_write` failed for want of memory, or asked for more than there was room for. -/
  refused : Bool := false
  overrun : Bool := false
  timedOut : Bool := false

namespace HevSocks5SessionTCP

/-- What `writev` and `readv` return. -/
inductive Transfer (α : Type)
  | done (amount : α)
  | again
  | failed

inductive Event
  | tcpRecv (segments : List Bytes)
  | tcpRecvEof
  | tcpSent (len : Nat)
  | tcpErr
  | enter
  | spliceF (writev : Transfer Nat)
  | lockF
  | spliceB (readv : Transfer Bytes)
  /-- `memory` says for which segments lwIP has it, `outputs` if `tcp_output` succeeds. -/
  | lockB (memory : Nat × Nat → Bool) (outputs : Bool)
  /-- `stops` says if the yielder asks to stop. -/
  | yield (stops : Bool)
  | drain (stops : Bool)

/-- `pbuf_free_header`; its size has 16 bits. -/
def pbufFreeHeader (queue : List Bytes) (size : Nat) : List Bytes :=
  go queue (size % 65536)
where
  go : List Bytes → Nat → List Bytes
    | [], _ => []
    | p :: rest, freeLeft =>
      if freeLeft = 0 then p :: rest
      else if freeLeft ≥ p.length then go rest (freeLeft - p.length)
      else p.drop freeLeft :: rest

/-- `tcp_recved`; its length has 16 bits, like the window. -/
def tcpRecved (pcb : TcpPcb) (len : Nat) : TcpPcb :=
  let rcvWnd := pcb.rcvWnd + len % 65536
  if rcvWnd > TCP_WND then { pcb with rcvWnd := TCP_WND } else { pcb with rcvWnd }

/-- What the calls of `tcp_write` have done so far. -/
structure TcpWritten where
  pcb : TcpPcb
  handed : Bytes := []
  refused : Bool := false
  overrun : Bool := false

/-- `tcp_write` without a copy, for a segment of the ring; its length has 16 bits. -/
def tcpWrite (data : Nat → UInt8) (memory : Nat × Nat → Bool) (past : TcpWritten)
    (segment : Nat × Nat) : TcpWritten :=
  let len := segment.2 % 65536
  if len > past.pcb.sndBuf then { past with overrun := true }
  else if ¬ memory segment then { past with refused := true }
  else
    { past with
      pcb :=
        { past.pcb with
          sndBuf := past.pcb.sndBuf - len
          held := past.pcb.held ++ List.range' segment.1 len }
      handed := past.handed ++ gather data [(segment.1, len)] }

/-- The first half of `tcp_splice_f`. -/
def spliceF (self : HevSocks5SessionTCP) (writev : Transfer Nat) : Option HevSocks5SessionTCP :=
  if self.resF < 0 then some { self with phase := .spliceB }
  else if self.queue ≠ [] then
    let iov := (self.queue.take 64).flatten
    match writev with
    | .done taken =>
      if 0 < taken ∧ taken ≤ iov.length then
        some { self with phase := .recving taken, written := self.written ++ iov.take taken }
      else none
    | .again => some { self with phase := .spliceB, resF := 0 }
    | .failed => some { self with phase := .spliceB, resF := -1 }
  else if self.pcbEof then some { self with phase := .spliceB, resF := -1, shutWr := true }
  else some { self with phase := .spliceB, resF := 0 }

/-- The second half of `tcp_splice_f`. -/
def lockF (self : HevSocks5SessionTCP) (taken : Nat) : HevSocks5SessionTCP :=
  { self with
    phase := .spliceB
    resF := 1
    queue := pbufFreeHeader self.queue taken
    pcb := self.pcb.map fun pcb => tcpRecved pcb taken }

/-- The first half of `tcp_splice_b`. -/
def spliceB (self : HevSocks5SessionTCP) (readv : Transfer Bytes) : Option HevSocks5SessionTCP :=
  if self.resB < 0 then some { self with phase := .yielding }
  else if self.buffer.writing ≠ [] then
    match readv with
    | .done bytes =>
      if bytes ≠ [] ∧ bytes.length ≤ (self.buffer.writing.map Prod.snd).sum then
        some { self with
          phase := .handing 1
          buffer := self.buffer.fill bytes
          fetched := self.fetched ++ bytes }
      else none
    | .again => some { self with phase := .handing 0 }
    | .failed => some { self with phase := .handing (-1) }
  else some { self with phase := .handing 0 }

/-- The second half of `tcp_splice_b`. -/
def lockB (self : HevSocks5SessionTCP) (res : Int) (memory : Nat × Nat → Bool)
    (outputs : Bool) : HevSocks5SessionTCP :=
  match self.pcb with
  | none => { self with phase := .yielding, resB := -1 }
  | some pcb =>
    let iov := self.buffer.reading
    if iov ≠ [] then
      let after := iov.foldl (tcpWrite self.buffer.data memory) { pcb }
      { self with
        phase := .yielding
        pcb := some after.pcb
        buffer := self.buffer.readFinish (iov.map Prod.snd).sum
        handed := self.handed ++ after.handed
        refused := self.refused || after.refused
        overrun := self.overrun || after.overrun
        resB := if after.refused ∨ after.overrun ∨ ¬ outputs then -1 else 1 }
    else if res < 0 then { self with phase := .yielding, resB := res, shutTx := true }
    else { self with phase := .yielding, resB := res }

/-- The yielding at the end of a turn of `hev_socks5_session_tcp_splice`. -/
def yieldTurn (self : HevSocks5SessionTCP) (stops : Bool) : HevSocks5SessionTCP :=
  if self.resF > 0 ∨ self.resB > 0 then { self with phase := .spliceF }
  else if self.resF = 0 ∨ self.resB = 0 then
    if stops then { self with phase := .draining, timedOut := true }
    else { self with phase := .spliceF }
  else { self with phase := .draining }

/-- A turn of the loop that waits for the application's acknowledgements. -/
def drain (self : HevSocks5SessionTCP) (stops : Bool) : HevSocks5SessionTCP :=
  if self.pcb.isSome ∧ self.buffer.useSize ≠ 0 then
    if stops then { self with phase := .left, timedOut := true } else self
  else { self with phase := .left }

def step (self : HevSocks5SessionTCP) : Event → Option HevSocks5SessionTCP
  | .tcpRecv segments =>
    match self.pcb with
    | some pcb =>
      -- lwIP hands over what fits its window, and nothing after the end
      if self.pcbEof = false ∧ segments ≠ [] ∧ (∀ segment ∈ segments, segment ≠ []) ∧
          segments.flatten.length ≤ pcb.rcvWnd then
        some { self with
          pcb := some { pcb with rcvWnd := pcb.rcvWnd - segments.flatten.length }
          queue := self.queue ++ segments
          received := self.received ++ segments.flatten }
      else none
    | none => none
  | .tcpRecvEof => if self.pcb.isSome then some { self with pcbEof := true } else none
  | .tcpSent len =>
    match self.pcb with
    | some pcb =>
      -- the application acknowledges bytes that were sent
      if 0 < len ∧ len ≤ pcb.held.length then
        some { self with
          pcb := some { pcb with sndBuf := pcb.sndBuf + len, held := pcb.held.drop len }
          buffer := self.buffer.readRelease len
          acked := self.acked + len }
      else none
    | none => none
  | .tcpErr => if self.pcb.isSome then some { self with pcb := none } else none
  | .enter =>
    if self.phase = .entering then
      some { self with phase := if self.pcb.isSome then .spliceF else .left }
    else none
  | .spliceF writev => if self.phase = .spliceF then self.spliceF writev else none
  | .lockF =>
    match self.phase with
    | .recving taken => some (self.lockF taken)
    | _ => none
  | .spliceB readv => if self.phase = .spliceB then self.spliceB readv else none
  | .lockB memory outputs =>
    match self.phase with
    | .handing res => some (self.lockB res memory outputs)
    | _ => none
  | .yield stops => if self.phase = .yielding then some (self.yieldTurn stops) else none
  | .drain stops => if self.phase = .draining then some (self.drain stops) else none

/-- A size that an `int` of the configuration can hold. -/
abbrev ConfiguredSize : Type := Fin (2147483647 + 1)

/-- `hev_config_get_misc_tcp_buffer_size`, once the configuration is read. -/
def tcpBufferSize (configured : ConfiguredSize) : Nat :=
  if configured.val > TCP_SND_BUF then TCP_SND_BUF else configured.val

/-- A session whose connection was just accepted. -/
def accepted (configured : ConfiguredSize) (garbage : Nat → UInt8) : HevSocks5SessionTCP where
  buffer := .alloca (tcpBufferSize configured) garbage

/-! ## From the application to the relay -/

/-- What came is written or queued, the window leaves room for nothing else, and the
socket is shut down only when there is nothing more to write. -/
structure Upload (session : HevSocks5SessionTCP) : Prop where
  segments : ∀ segment ∈ session.queue, segment ≠ []
  taken_le : session.phase.taken.getD 0 ≤ session.queue.flatten.length
  received : session.received =
    session.written ++ session.queue.flatten.drop (session.phase.taken.getD 0)
  window : session.queue.flatten.length ≤ TCP_WND
  rcvWnd : ∀ pcb ∈ session.pcb, pcb.rcvWnd + session.queue.flatten.length = TCP_WND
  shutWr : session.shutWr = true → session.resF < 0 ∧ session.pcbEof = true ∧ session.queue = []
  going : session.phase.taken ≠ none → 0 ≤ session.resF

/-- Nothing has come yet. -/
theorem accepted_upload (configured : ConfiguredSize) (garbage : Nat → UInt8) :
    (accepted configured garbage).Upload := by
  refine ⟨?_, Nat.le_refl _, rfl, Nat.zero_le _, ?_, ?_, ?_⟩
  · rintro _ ⟨⟩
  · rintro _ ⟨⟩
    rfl
  · rintro ⟨⟩
  · exact fun hnone => absurd rfl hnone

section Upload

variable {session session' : HevSocks5SessionTCP}

/-- The steps that have nothing to do with this direction. -/
theorem Upload.frame (hupload : session.Upload) (hqueue : session'.queue = session.queue)
    (hreceived : session'.received = session.received)
    (hwritten : session'.written = session.written)
    (hpcb : ∀ pcb' ∈ session'.pcb, ∃ pcb ∈ session.pcb, pcb'.rcvWnd = pcb.rcvWnd)
    (hshutWr : session'.shutWr = session.shutWr) (hresF : session'.resF = session.resF)
    (heof : session'.pcbEof = session.pcbEof)
    (htaken : session'.phase.taken = session.phase.taken) : session'.Upload := by
  refine ⟨?_, ?_, ?_, ?_, ?_, ?_, ?_⟩
  · rw [hqueue]
    exact hupload.segments
  · rw [htaken, hqueue]
    exact hupload.taken_le
  · rw [hreceived, hwritten, hqueue, htaken]
    exact hupload.received
  · rw [hqueue]
    exact hupload.window
  · intro pcb' hpcb'
    obtain ⟨pcb, hopen, hsame⟩ := hpcb pcb' hpcb'
    rw [hqueue, hsame]
    exact hupload.rcvWnd pcb hopen
  · rw [hshutWr, hresF, heof, hqueue]
    exact hupload.shutWr
  · rw [htaken, hresF]
    exact hupload.going

/-- A connection that is left alone. -/
theorem same_window (session : HevSocks5SessionTCP) :
    ∀ pcb ∈ session.pcb, ∃ pcb' ∈ session.pcb, pcb.rcvWnd = pcb'.rcvWnd :=
  fun pcb hpcb => ⟨pcb, hpcb, rfl⟩

/-- What is taken off the queue is its front. -/
theorem pbufFreeHeader_go (queue : List Bytes) (size : Nat) :
    (pbufFreeHeader.go queue size).flatten = queue.flatten.drop size := by
  induction queue generalizing size with
  | nil => rw [pbufFreeHeader.go, List.flatten_nil, List.drop_nil]
  | cons p rest ih =>
      rw [pbufFreeHeader.go]
      by_cases hzero : size = 0
      · rw [if_pos hzero, hzero, List.drop_zero]
      rw [if_neg hzero, List.flatten_cons]
      by_cases hwhole : size ≥ p.length
      · rw [if_pos hwhole, ih, List.drop_append, List.drop_eq_nil_of_le hwhole, List.nil_append]
      · rw [if_neg hwhole, List.flatten_cons, List.drop_append_of_le_length (by omega)]

/-- A segment of which all is taken goes. -/
theorem pbufFreeHeader_go_segments {queue : List Bytes}
    (hsegments : ∀ segment ∈ queue, segment ≠ []) (size : Nat) :
    ∀ segment ∈ pbufFreeHeader.go queue size, segment ≠ [] := by
  induction queue generalizing size with
  | nil => simp [pbufFreeHeader.go]
  | cons p rest ih =>
      obtain ⟨hp, hrest⟩ := List.forall_mem_cons.mp hsegments
      rw [pbufFreeHeader.go]
      by_cases hzero : size = 0
      · rw [if_pos hzero]
        exact hsegments
      rw [if_neg hzero]
      by_cases hwhole : size ≥ p.length
      · rw [if_pos hwhole]
        exact ih hrest _
      · rw [if_neg hwhole]
        refine List.forall_mem_cons.mpr ⟨?_, hrest⟩
        intro hempty
        have hlength := congrArg List.length hempty
        rw [List.length_drop, List.length_nil] at hlength
        omega

/-- What came is queued and taken off the window. -/
theorem tcpRecv_upload (hupload : session.Upload) {pcb : TcpPcb} (hpcb : session.pcb = some pcb)
    {segments : List Bytes} (heof : session.pcbEof = false)
    (hsegments : ∀ segment ∈ segments, segment ≠ [])
    (hroom : segments.flatten.length ≤ pcb.rcvWnd) :
    Upload
      { session with
        pcb := some { pcb with rcvWnd := pcb.rcvWnd - segments.flatten.length }
        queue := session.queue ++ segments
        received := session.received ++ segments.flatten } := by
  have hwnd := hupload.rcvWnd pcb hpcb
  have htaken := hupload.taken_le
  refine ⟨?_, ?_, ?_, ?_, ?_, ?_, hupload.going⟩
  · intro segment hsegment
    rcases List.mem_append.mp hsegment with hsegment | hsegment
    · exact hupload.segments segment hsegment
    · exact hsegments segment hsegment
  · rw [List.flatten_append, List.length_append]
    exact htaken.trans (Nat.le_add_right _ _)
  · rw [List.flatten_append, List.drop_append_of_le_length htaken, ← List.append_assoc,
      ← hupload.received]
  · rw [List.flatten_append, List.length_append]
    omega
  · rintro _ ⟨⟩
    rw [List.flatten_append, List.length_append]
    dsimp only
    omega
  · intro hshut
    rw [(hupload.shutWr hshut).2.1] at heof
    contradiction

/-- The end of the stream allows the shutdown, it does not make it. -/
theorem tcpRecvEof_upload (hupload : session.Upload) :
    Upload { session with pcbEof := true } := by
  refine ⟨hupload.segments, hupload.taken_le, hupload.received, hupload.window,
    hupload.rcvWnd, ?_, hupload.going⟩
  intro hshut
  obtain ⟨hresF, _, hqueue⟩ := hupload.shutWr hshut
  exact ⟨hresF, rfl, hqueue⟩

/-- An acknowledgement is about the other direction. -/
theorem tcpSent_upload (hupload : session.Upload) {pcb : TcpPcb} (hpcb : session.pcb = some pcb)
    (len : Nat) :
    Upload
      { session with
        pcb := some { pcb with sndBuf := pcb.sndBuf + len, held := pcb.held.drop len }
        buffer := session.buffer.readRelease len
        acked := session.acked + len } := by
  refine hupload.frame rfl rfl rfl ?_ rfl rfl rfl rfl
  rintro _ ⟨⟩
  exact ⟨pcb, hpcb, rfl⟩

/-- Without a connection there is no window to keep. -/
theorem tcpErr_upload (hupload : session.Upload) : Upload { session with pcb := none } := by
  refine hupload.frame rfl rfl rfl ?_ rfl rfl rfl rfl
  rintro _ ⟨⟩

theorem enter_upload (hupload : session.Upload) (hphase : session.phase = .entering) :
    Upload { session with phase := if session.pcb.isSome then .spliceF else .left } := by
  refine hupload.frame rfl rfl rfl session.same_window rfl rfl rfl ?_
  rw [hphase]
  dsimp only
  split <;> rfl

/-- What `writev` took stays in the queue until the mutex is held. -/
theorem spliceF_upload (hupload : session.Upload) (hphase : session.phase = .spliceF)
    {writev : Transfer Nat} (hstep : session.spliceF writev = some session') :
    session'.Upload := by
  have hreceived := hupload.received
  rw [hphase] at hreceived
  unfold spliceF at hstep
  by_cases hclosed : session.resF < 0
  · rw [if_pos hclosed] at hstep
    obtain rfl := Option.some.inj hstep
    refine hupload.frame rfl rfl rfl session.same_window rfl rfl rfl ?_
    rw [hphase]
    rfl
  rw [if_neg hclosed] at hstep
  have hopen : ¬ session.shutWr = true := fun hshut => hclosed (hupload.shutWr hshut).1
  by_cases hqueue : session.queue = []
  · rw [if_neg (not_not_intro hqueue)] at hstep
    split at hstep
    next heof =>
      obtain rfl := Option.some.inj hstep
      refine ⟨hupload.segments, Nat.zero_le _, hreceived, hupload.window, hupload.rcvWnd,
        fun _ => ⟨by norm_num, heof, hqueue⟩,
        fun hnone => absurd rfl hnone⟩
    next =>
      obtain rfl := Option.some.inj hstep
      refine ⟨hupload.segments, Nat.zero_le _, hreceived, hupload.window, hupload.rcvWnd,
        fun hshut => absurd hshut hopen, fun hnone => absurd rfl hnone⟩
  · rw [if_pos hqueue] at hstep
    cases writev with
    | again =>
        obtain rfl := Option.some.inj hstep
        refine ⟨hupload.segments, Nat.zero_le _, hreceived, hupload.window, hupload.rcvWnd,
          fun hshut => absurd hshut hopen, fun hnone => absurd rfl hnone⟩
    | failed =>
        obtain rfl := Option.some.inj hstep
        refine ⟨hupload.segments, Nat.zero_le _, hreceived, hupload.window, hupload.rcvWnd,
          fun hshut => absurd hshut hopen, fun hnone => absurd rfl hnone⟩
    | done taken =>
        dsimp only at hstep
        split at hstep
        next htaken =>
          obtain rfl := Option.some.inj hstep
          -- what `writev` takes are the first bytes of the queue
          have hfront : (session.queue.take 64).flatten <+: session.queue.flatten := by
            conv_rhs => rw [← List.take_append_drop 64 session.queue, List.flatten_append]
            exact List.prefix_append _ _
          have htaken_le := htaken.2.trans hfront.length_le
          have hbytes : (session.queue.take 64).flatten.take taken =
              session.queue.flatten.take taken := by
            rw [List.prefix_iff_eq_take.mp hfront, List.take_take, Nat.min_eq_left htaken.2]
          refine ⟨hupload.segments, htaken_le, ?_, hupload.window, hupload.rcvWnd,
            fun hshut => absurd hshut hopen, fun _ => not_lt.mp hclosed⟩
          change session.received =
            session.written ++ (session.queue.take 64).flatten.take taken ++
              session.queue.flatten.drop taken
          rw [hbytes, List.append_assoc, List.take_append_drop]
          exact hreceived
        next => cases hstep

/-- The window keeps the amount in sixteen bits. -/
theorem lockF_upload (hupload : session.Upload) {taken : Nat}
    (hphase : session.phase = .recving taken) : (session.lockF taken).Upload := by
  have htaken : session.phase.taken = some taken := by
    rw [hphase]
    rfl
  have hle := hupload.taken_le
  have hwindow := hupload.window
  have hreceived := hupload.received
  rw [htaken, Option.getD_some] at hle hreceived
  have hbits : taken % 65536 = taken := Nat.mod_eq_of_lt (by rw [TCP_WND] at hwindow; omega)
  have hqueue : (session.lockF taken).queue.flatten = session.queue.flatten.drop taken := by
    change (pbufFreeHeader session.queue taken).flatten = _
    rw [pbufFreeHeader, hbits, pbufFreeHeader_go]
  refine ⟨?_, Nat.zero_le _, ?_, ?_, ?_, ?_, ?_⟩
  · exact pbufFreeHeader_go_segments hupload.segments _
  · rw [hqueue]
    exact hreceived
  · rw [hqueue, List.length_drop]
    omega
  · intro pcb' hpcb'
    obtain ⟨pcb, hpcb, rfl⟩ := Option.map_eq_some_iff.mp hpcb'
    have hwnd := hupload.rcvWnd pcb hpcb
    rw [hqueue, List.length_drop, tcpRecved, hbits, if_neg (by omega)]
    dsimp only
    omega
  · intro hshut
    have hgoing := hupload.going (by rw [htaken]; exact Option.some_ne_none taken)
    exact absurd (hupload.shutWr hshut).1 (not_lt.mpr hgoing)
  · exact fun hnone => absurd rfl hnone

/-- The first half of the other direction leaves the queue alone. -/
theorem spliceB_upload (hupload : session.Upload) (hphase : session.phase = .spliceB)
    {readv : Transfer Bytes} (hstep : session.spliceB readv = some session') :
    session'.Upload := by
  have hnone : session.phase.taken = none := by
    rw [hphase]
    rfl
  unfold spliceB at hstep
  split at hstep
  next =>
    obtain rfl := Option.some.inj hstep
    exact hupload.frame rfl rfl rfl session.same_window rfl rfl rfl hnone.symm
  next =>
    split at hstep
    next =>
      split at hstep
      next =>
        obtain ⟨_, hstep⟩ := Option.ite_none_right_eq_some.mp hstep
        obtain rfl := Option.some.inj hstep
        exact hupload.frame rfl rfl rfl session.same_window rfl rfl rfl hnone.symm
      next =>
        obtain rfl := Option.some.inj hstep
        exact hupload.frame rfl rfl rfl session.same_window rfl rfl rfl hnone.symm
      next =>
        obtain rfl := Option.some.inj hstep
        exact hupload.frame rfl rfl rfl session.same_window rfl rfl rfl hnone.symm
    next =>
      obtain rfl := Option.some.inj hstep
      exact hupload.frame rfl rfl rfl session.same_window rfl rfl rfl hnone.symm

/-- Writing to lwIP leaves its window alone. -/
theorem foldl_tcpWrite_rcvWnd (data : Nat → UInt8) (memory : Nat × Nat → Bool)
    (segments : List (Nat × Nat)) (past : TcpWritten) :
    (segments.foldl (tcpWrite data memory) past).pcb.rcvWnd = past.pcb.rcvWnd := by
  induction segments generalizing past with
  | nil => rfl
  | cons segment segments ih =>
      rw [List.foldl_cons, ih]
      unfold tcpWrite
      dsimp only
      split
      next => rfl
      next => split <;> rfl

/-- So does the second half. -/
theorem lockB_upload (hupload : session.Upload) {res : Int} (hphase : session.phase = .handing res)
    (memory : Nat × Nat → Bool) (outputs : Bool) : (session.lockB res memory outputs).Upload := by
  have hnone : session.phase.taken = none := by
    rw [hphase]
    rfl
  unfold lockB
  split
  next => exact hupload.frame rfl rfl rfl session.same_window rfl rfl rfl hnone.symm
  next pcb hpcb =>
    dsimp only
    split
    next =>
      refine hupload.frame rfl rfl rfl ?_ rfl rfl rfl hnone.symm
      rintro _ ⟨⟩
      exact ⟨pcb, hpcb, foldl_tcpWrite_rcvWnd _ _ _ _⟩
    next =>
      split
      next => exact hupload.frame rfl rfl rfl session.same_window rfl rfl rfl hnone.symm
      next => exact hupload.frame rfl rfl rfl session.same_window rfl rfl rfl hnone.symm

theorem yieldTurn_upload (hupload : session.Upload) (hphase : session.phase = .yielding)
    (stops : Bool) : (session.yieldTurn stops).Upload := by
  have hnone : session.phase.taken = none := by
    rw [hphase]
    rfl
  unfold yieldTurn
  split
  next => exact hupload.frame rfl rfl rfl session.same_window rfl rfl rfl hnone.symm
  next =>
    split
    next =>
      split
      next => exact hupload.frame rfl rfl rfl session.same_window rfl rfl rfl hnone.symm
      next => exact hupload.frame rfl rfl rfl session.same_window rfl rfl rfl hnone.symm
    next => exact hupload.frame rfl rfl rfl session.same_window rfl rfl rfl hnone.symm

theorem drain_upload (hupload : session.Upload) (hphase : session.phase = .draining)
    (stops : Bool) : (session.drain stops).Upload := by
  have hnone : session.phase.taken = none := by
    rw [hphase]
    rfl
  unfold drain
  split
  next =>
    split
    next => exact hupload.frame rfl rfl rfl session.same_window rfl rfl rfl hnone.symm
    next => exact hupload
  next => exact hupload.frame rfl rfl rfl session.same_window rfl rfl rfl hnone.symm

end Upload

/-! ## From the relay to the application -/

/-- What came from the relay and is not acknowledged is in the ring, lwIP holds the part of
it that was handed over, and the connection is shut down only when that is all of it. -/
structure Download (size : Nat) (session : HevSocks5SessionTCP) : Prop where
  inv : session.buffer.Inv
  size_eq : session.buffer.maxSize = size
  contents : session.buffer.contents = session.fetched.drop session.acked
  amount : session.acked + session.buffer.useSize = session.fetched.length
  sndBuf : ∀ pcb ∈ session.pcb, pcb.sndBuf + pcb.held.length = TCP_SND_BUF
  held_le : ∀ pcb ∈ session.pcb, pcb.held.length ≤ session.buffer.unreleased
  overrun : session.overrun = false
  handed : session.refused = false →
    session.handed = session.fetched.take (session.acked + session.buffer.unreleased)
  held : session.refused = false → ∀ pcb ∈ session.pcb,
    pcb.held = places size session.buffer.first session.buffer.unreleased
  shutTx : session.shutTx = true → session.refused = false ∧ session.buffer.rdaSize = 0
  going : 0 ≤ session.resB → session.refused = false ∧ session.shutTx = false
  handing : ∀ res, session.phase = .handing res → 0 ≤ session.resB
  left : session.phase = .left → session.timedOut = false → session.pcb.isSome →
    session.buffer.useSize = 0

/-- The ring is empty and lwIP holds nothing. -/
theorem accepted_download {configured : ConfiguredSize} (garbage : Nat → UInt8)
    (hsize : 0 < tcpBufferSize configured) :
    (accepted configured garbage).Download (tcpBufferSize configured) := by
  refine ⟨HevRingBuffer.alloca_inv hsize garbage, rfl, rfl, rfl, ?_, ?_, rfl, fun _ => rfl, ?_,
    ?_, fun _ => ⟨rfl, rfl⟩, ?_, ?_⟩
  · rintro _ ⟨⟩
    rfl
  · rintro _ ⟨⟩
    exact Nat.le_refl _
  · rintro _ _ ⟨⟩
    rfl
  · rintro ⟨⟩
  · rintro _ ⟨⟩
  · rintro ⟨⟩

section Download

variable {size : Nat} {session session' : HevSocks5SessionTCP}

/-- The steps that have nothing to do with this direction. -/
theorem Download.frame (hdownload : session.Download size)
    (hbuffer : session'.buffer = session.buffer) (hfetched : session'.fetched = session.fetched)
    (hhanded : session'.handed = session.handed) (hacked : session'.acked = session.acked)
    (hrefused : session'.refused = session.refused) (hoverrun : session'.overrun = session.overrun)
    (hshutTx : session'.shutTx = session.shutTx)
    (hpcb : ∀ pcb' ∈ session'.pcb, ∃ pcb ∈ session.pcb,
      pcb'.sndBuf = pcb.sndBuf ∧ pcb'.held = pcb.held)
    (hgoing : 0 ≤ session'.resB → 0 ≤ session.resB)
    (hhanding : ∀ res, session'.phase = .handing res → 0 ≤ session'.resB)
    (hleft : session'.phase = .left → session'.timedOut = false → session'.pcb.isSome →
      session'.buffer.useSize = 0) :
    session'.Download size := by
  refine ⟨?_, ?_, ?_, ?_, ?_, ?_, ?_, ?_, ?_, ?_, ?_, hhanding, hleft⟩
  · rw [hbuffer]
    exact hdownload.inv
  · rw [hbuffer]
    exact hdownload.size_eq
  · rw [hbuffer, hfetched, hacked]
    exact hdownload.contents
  · rw [hbuffer, hfetched, hacked]
    exact hdownload.amount
  · intro pcb' hpcb'
    obtain ⟨pcb, hopen, hsndBuf, hheld⟩ := hpcb pcb' hpcb'
    rw [hsndBuf, hheld]
    exact hdownload.sndBuf pcb hopen
  · intro pcb' hpcb'
    obtain ⟨pcb, hopen, _, hheld⟩ := hpcb pcb' hpcb'
    rw [hheld, hbuffer]
    exact hdownload.held_le pcb hopen
  · rw [hoverrun]
    exact hdownload.overrun
  · rw [hrefused, hhanded, hfetched, hacked, hbuffer]
    exact hdownload.handed
  · intro hnone pcb' hpcb'
    rw [hrefused] at hnone
    obtain ⟨pcb, hopen, _, hheld⟩ := hpcb pcb' hpcb'
    rw [hheld, hbuffer]
    exact hdownload.held hnone pcb hopen
  · rw [hshutTx, hrefused, hbuffer]
    exact hdownload.shutTx
  · rw [hrefused, hshutTx]
    exact fun hresB => hdownload.going (hgoing hresB)

theorem same_sending (session : HevSocks5SessionTCP) :
    ∀ pcb ∈ session.pcb, ∃ pcb' ∈ session.pcb,
      pcb.sndBuf = pcb'.sndBuf ∧ pcb.held = pcb'.held :=
  fun pcb hpcb => ⟨pcb, hpcb, rfl, rfl⟩

/-- What the application sends is about the other direction. -/
theorem tcpRecv_download (hdownload : session.Download size) {pcb : TcpPcb}
    (hpcb : session.pcb = some pcb) (segments : List Bytes) :
    Download size
      { session with
        pcb := some { pcb with rcvWnd := pcb.rcvWnd - segments.flatten.length }
        queue := session.queue ++ segments
        received := session.received ++ segments.flatten } := by
  refine hdownload.frame rfl rfl rfl rfl rfl rfl rfl ?_ id hdownload.handing ?_
  · rintro _ ⟨⟩
    exact ⟨pcb, hpcb, rfl, rfl⟩
  · intro hphase htimed _
    exact hdownload.left hphase htimed (by rw [hpcb]; rfl)

theorem tcpRecvEof_download (hdownload : session.Download size) :
    Download size { session with pcbEof := true } :=
  hdownload.frame rfl rfl rfl rfl rfl rfl rfl session.same_sending id hdownload.handing
    hdownload.left

/-- A connection that lwIP has given up holds nothing any more. -/
theorem tcpErr_download (hdownload : session.Download size) :
    Download size { session with pcb := none } := by
  refine hdownload.frame rfl rfl rfl rfl rfl rfl rfl ?_ id hdownload.handing ?_
  · rintro _ ⟨⟩
  · rintro _ _ ⟨⟩

theorem enter_download (hdownload : session.Download size) :
    Download size { session with phase := if session.pcb.isSome then .spliceF else .left } := by
  refine hdownload.frame rfl rfl rfl rfl rfl rfl rfl session.same_sending id ?_ ?_
  · intro res hhanding
    dsimp only at hhanding
    split at hhanding
    next => cases hhanding
    next => cases hhanding
  · intro hleft _ hopen
    dsimp only at hleft hopen
    rw [if_pos hopen] at hleft
    cases hleft

/-- The application acknowledges the oldest bytes that lwIP holds. -/
theorem tcpSent_download (hdownload : session.Download size) {pcb : TcpPcb}
    (hpcb : session.pcb = some pcb) {len : Nat} (hlen : len ≤ pcb.held.length) :
    Download size
      { session with
        pcb := some { pcb with sndBuf := pcb.sndBuf + len, held := pcb.held.drop len }
        buffer := session.buffer.readRelease len
        acked := session.acked + len } := by
  have hsndBuf := hdownload.sndBuf pcb hpcb
  have hheld_le := hdownload.held_le pcb hpcb
  have hrda := hdownload.inv.rda_le
  have hunreleased : session.buffer.unreleased = session.buffer.useSize - session.buffer.rdaSize :=
    rfl
  obtain ⟨hinv, hcontents, hfewer⟩ := hdownload.inv.readRelease (hlen.trans hheld_le)
  have hamount := hdownload.amount
  have hhanding := hdownload.handing
  refine ⟨hinv, ?_, ?_, ?_, ?_, ?_, hdownload.overrun, ?_, ?_, ?_, hdownload.going, hhanding, ?_⟩
  · rw [session.buffer.readRelease_maxSize, hdownload.size_eq]
  · rw [hcontents, hdownload.contents, List.drop_drop]
  · rw [session.buffer.readRelease_useSize]
    dsimp only
    omega
  · rintro _ ⟨⟩
    rw [List.length_drop]
    dsimp only
    omega
  · rintro _ ⟨⟩
    rw [List.length_drop, hfewer]
    omega
  · intro hrefused
    rw [hfewer, show session.acked + len + (session.buffer.unreleased - len) =
      session.acked + session.buffer.unreleased by omega]
    exact hdownload.handed hrefused
  · rintro hrefused _ ⟨⟩
    have huse := hdownload.inv.use_le
    have hmoved := session.buffer.places_readRelease len (session.buffer.unreleased - len)
      (by omega) huse
    rw [hfewer, ← hdownload.size_eq, hmoved, Nat.add_sub_cancel' (hlen.trans hheld_le),
      hdownload.held hrefused pcb hpcb, hdownload.size_eq]
  · intro hshut
    rw [session.buffer.readRelease_rdaSize]
    exact hdownload.shutTx hshut
  · intro hphase htimed _
    have hempty := hdownload.left hphase htimed (by rw [hpcb]; rfl)
    rw [session.buffer.readRelease_useSize, hempty, Nat.zero_sub]

/-- Opening the window is about the other direction. -/
theorem lockF_download (hdownload : session.Download size) (taken : Nat) :
    (session.lockF taken).Download size := by
  refine hdownload.frame rfl rfl rfl rfl rfl rfl rfl ?_ id ?_ ?_
  · intro pcb' hpcb'
    obtain ⟨pcb, hpcb, rfl⟩ := Option.map_eq_some_iff.mp hpcb'
    refine ⟨pcb, hpcb, ?_⟩
    unfold tcpRecved
    dsimp only
    split <;> exact ⟨rfl, rfl⟩
  · rintro _ ⟨⟩
  · rintro ⟨⟩

/-- What `readv` got goes behind what is in the ring. -/
theorem fetched_download (hdownload : session.Download size) (hgoing : 0 ≤ session.resB)
    {bytes : Bytes} (hroom : bytes.length ≤ session.buffer.maxSize - session.buffer.useSize) :
    Download size
      { session with
        phase := .handing 1
        buffer := session.buffer.fill bytes
        fetched := session.fetched ++ bytes } := by
  obtain ⟨hinv, hcontents, hunreleased⟩ := hdownload.inv.fill hroom
  have hfirst := session.buffer.first_fill hroom
  have hamount := hdownload.amount
  obtain ⟨hrefused, hshutTx⟩ := hdownload.going hgoing
  have hhanded := hdownload.handed hrefused
  refine ⟨hinv, hdownload.size_eq, ?_, ?_, hdownload.sndBuf, ?_, hdownload.overrun, ?_, ?_,
    ?_, hdownload.going, fun _ _ => hgoing, ?_⟩
  · rw [hcontents, hdownload.contents]
    exact (List.drop_append_of_le_length (by omega)).symm
  · rw [List.length_append]
    change session.acked + (session.buffer.useSize + bytes.length) = _
    omega
  · rw [hunreleased]
    exact hdownload.held_le
  · intro _
    have hsub : session.buffer.unreleased ≤ session.buffer.useSize := Nat.sub_le _ _
    rw [hunreleased]
    exact hhanded.trans (List.take_append_of_le_length (by omega)).symm
  · rw [hfirst, hunreleased]
    exact hdownload.held
  · intro hshut
    rw [hshutTx] at hshut
    contradiction
  · rintro ⟨⟩

/-- A `readv` that got nothing is left to the second half. -/
theorem unfetched_download (hdownload : session.Download size) (hgoing : 0 ≤ session.resB)
    (res : Int) : Download size { session with phase := .handing res } := by
  refine hdownload.frame rfl rfl rfl rfl rfl rfl rfl session.same_sending id
    (fun _ _ => hgoing) ?_
  rintro ⟨⟩

/-- The first half fills the ring, or only finds out how it stands. -/
theorem spliceB_download (hdownload : session.Download size) {readv : Transfer Bytes}
    (hstep : session.spliceB readv = some session') : session'.Download size := by
  unfold spliceB at hstep
  split at hstep
  next =>
    obtain rfl := Option.some.inj hstep
    refine hdownload.frame rfl rfl rfl rfl rfl rfl rfl session.same_sending id ?_ ?_
    · rintro _ ⟨⟩
    · rintro ⟨⟩
  next hopen =>
    have hgoing : 0 ≤ session.resB := not_lt.mp hopen
    split at hstep
    next =>
      split at hstep
      next bytes =>
        obtain ⟨⟨_, hroom⟩, hstep⟩ := Option.ite_none_right_eq_some.mp hstep
        obtain rfl := Option.some.inj hstep
        rw [hdownload.inv.writing_eq, sum_pieces] at hroom
        exact fetched_download hdownload hgoing hroom
      next =>
        obtain rfl := Option.some.inj hstep
        exact unfetched_download hdownload hgoing 0
      next =>
        obtain rfl := Option.some.inj hstep
        exact unfetched_download hdownload hgoing (-1)
    next =>
      obtain rfl := Option.some.inj hstep
      exact unfetched_download hdownload hgoing 0

/-- Calls for which the send buffer has room. -/
theorem foldl_tcpWrite (data : Nat → UInt8) (memory : Nat × Nat → Bool)
    (segments : List (Nat × Nat)) (past : TcpWritten)
    (hroom : (segments.map Prod.snd).sum ≤ past.pcb.sndBuf) (hbits : past.pcb.sndBuf < 65536)
    {after : TcpWritten} (hafter : segments.foldl (tcpWrite data memory) past = after) :
    after.overrun = past.overrun ∧
      after.pcb.sndBuf + after.pcb.held.length = past.pcb.sndBuf + past.pcb.held.length ∧
      after.pcb.held.length ≤ past.pcb.held.length + (segments.map Prod.snd).sum ∧
      (after.refused = false → past.refused = false ∧
        after.pcb.held = past.pcb.held ++ spots segments ∧
        after.handed = past.handed ++ gather data segments) := by
  induction segments generalizing past with
  | nil =>
      subst hafter
      refine ⟨rfl, rfl, Nat.le_add_right _ _, fun hrefused => ⟨hrefused, ?_, ?_⟩⟩
      · exact (List.append_nil _).symm
      · exact (List.append_nil _).symm
  | cons segment segments ih =>
      rw [List.map_cons, List.sum_cons] at hroom
      rw [List.foldl_cons] at hafter
      have hlen : segment.2 % 65536 = segment.2 := Nat.mod_eq_of_lt (by omega)
      rw [List.map_cons, List.sum_cons]
      by_cases hmemory : memory segment = true
      · have htook : tcpWrite data memory past segment =
            { past with
              pcb :=
                { past.pcb with
                  sndBuf := past.pcb.sndBuf - segment.2
                  held := past.pcb.held ++ List.range' segment.1 segment.2 }
              handed := past.handed ++ gather data [segment] } := by
          unfold tcpWrite
          rw [hlen, if_neg (by omega), if_neg (not_not_intro hmemory)]
        rw [htook] at hafter
        obtain ⟨hoverrun, hbuf, hmore, hrest⟩ :=
          ih _ (by dsimp only; omega) (by dsimp only; omega) hafter
        dsimp only at hoverrun hbuf hmore hrest
        rw [List.length_append, List.length_range'] at hbuf hmore
        refine ⟨hoverrun, by omega, by omega, fun hrefused => ?_⟩
        obtain ⟨hpast, hheld, hhanded⟩ := hrest hrefused
        refine ⟨hpast, ?_, ?_⟩
        · rw [hheld, List.append_assoc]
          rfl
        · rw [hhanded, List.append_assoc, gather, gather, gather, ← List.map_append]
          simp [spots]
      · have htook : tcpWrite data memory past segment = { past with refused := true } := by
          unfold tcpWrite
          rw [hlen, if_neg (by omega), if_pos hmemory]
        rw [htook] at hafter
        obtain ⟨hoverrun, hbuf, hmore, hrest⟩ :=
          ih _ (by dsimp only; omega) (by dsimp only; omega) hafter
        dsimp only at hoverrun hbuf hmore hrest
        refine ⟨hoverrun, hbuf, by omega, fun hrefused => ?_⟩
        have hpast := (hrest hrefused).1
        contradiction

/-- Everything was handed over, and the relay may have ended. -/
theorem idle_download (hdownload : session.Download size) (hgoing : 0 ≤ session.resB)
    (hnone : session.buffer.rdaSize = 0) {res : Int} {shutTx : Bool}
    (hshut : shutTx = session.shutTx ∨ res < 0) :
    Download size { session with phase := .yielding, resB := res, shutTx } := by
  obtain ⟨hrefused, hshutTx⟩ := hdownload.going hgoing
  refine ⟨hdownload.inv, hdownload.size_eq, hdownload.contents, hdownload.amount,
    hdownload.sndBuf, hdownload.held_le, hdownload.overrun, hdownload.handed, hdownload.held,
    fun _ => ⟨hrefused, hnone⟩, fun hresB => ⟨hrefused, ?_⟩, ?_, ?_⟩
  · rcases hshut with hsame | hended
    · exact hsame.trans hshutTx
    · exact absurd hended (not_lt.mpr hresB)
  · rintro _ ⟨⟩
  · rintro ⟨⟩

/-- The whole ring is handed to lwIP, as far as it has the memory. -/
theorem handed_download (hdownload : session.Download size) (hsize : size ≤ TCP_SND_BUF)
    (hgoing : 0 ≤ session.resB) {pcb : TcpPcb} (hpcb : session.pcb = some pcb)
    (memory : Nat × Nat → Bool) {resB : Int} {after : TcpWritten}
    (hafter : session.buffer.reading.foldl (tcpWrite session.buffer.data memory) { pcb } = after)
    (hresB : 0 ≤ resB → after.refused = false) :
    Download size
      { session with
        phase := .yielding
        pcb := some after.pcb
        buffer := session.buffer.readFinish session.buffer.rdaSize
        handed := session.handed ++ after.handed
        refused := session.refused || after.refused
        overrun := session.overrun || after.overrun
        resB } := by
  obtain ⟨hrefused, hshutTx⟩ := hdownload.going hgoing
  have hrda := hdownload.inv.rda_le
  have huse := hdownload.inv.use_le
  rw [hdownload.size_eq] at huse
  have hunreleased : session.buffer.unreleased = session.buffer.useSize - session.buffer.rdaSize :=
    rfl
  have hsndBuf := hdownload.sndBuf pcb hpcb
  have hheld_le := hdownload.held_le pcb hpcb
  have hsum : (session.buffer.reading.map Prod.snd).sum = session.buffer.rdaSize := by
    rw [session.buffer.reading_eq, sum_pieces]
  obtain ⟨hinv, hcontents, hmore⟩ := hdownload.inv.readFinish (le_refl session.buffer.rdaSize)
  have hamount := hdownload.amount
  have hhanded := hdownload.handed hrefused
  have hheld := hdownload.held hrefused pcb hpcb
  have hall : session.buffer.unreleased + session.buffer.rdaSize = session.buffer.useSize :=
    Nat.sub_add_cancel hrda
  have hroom : session.buffer.rdaSize ≤ pcb.sndBuf := by omega
  have hbits : pcb.sndBuf < 65536 := by
    rw [TCP_SND_BUF] at hsndBuf
    omega
  obtain ⟨hoverrun, hbuf, hlonger, hrest⟩ :=
    foldl_tcpWrite session.buffer.data memory session.buffer.reading { pcb }
      (by rw [hsum]; exact hroom) hbits hafter
  rw [hsum] at hlonger
  dsimp only at hoverrun hbuf hlonger hrest
  refine ⟨hinv, hdownload.size_eq, ?_, hamount, ?_, ?_, ?_, ?_, ?_, ?_, ?_, ?_, ?_⟩
  · rw [hcontents]
    exact hdownload.contents
  · rintro _ ⟨⟩
    omega
  · rintro _ ⟨⟩
    rw [hmore]
    omega
  · rw [hdownload.overrun, hoverrun]
    rfl
  · intro hnone
    obtain ⟨_, hnone⟩ := Bool.or_eq_false_iff.mp hnone
    obtain ⟨_, _, hnew⟩ := hrest hnone
    rw [hmore, hall, hamount, List.take_length, hnew, List.nil_append,
      hdownload.inv.gather_reading, hdownload.contents, List.drop_drop, hhanded,
      List.take_append_drop]
  · rintro hnone _ ⟨⟩
    obtain ⟨_, hnone⟩ := Bool.or_eq_false_iff.mp hnone
    obtain ⟨_, hnew, _⟩ := hrest hnone
    have hrp := hdownload.inv.first_add_unreleased
    have hrp_lt := hdownload.inv.rp_lt
    rw [hdownload.size_eq] at hrp hrp_lt
    rw [hmore, hnew, hheld, session.buffer.reading_eq, hdownload.size_eq,
      spots_pieces hrp_lt (by omega)]
    change _ = places size session.buffer.first _
    rw [places_add, hrp]
  · intro hshut
    rw [hshutTx] at hshut
    contradiction
  · intro hres
    refine ⟨?_, hshutTx⟩
    rw [hrefused, hresB hres]
    rfl
  · rintro _ ⟨⟩
  · rintro ⟨⟩

/-- The second half hands over the whole ring, or shuts the connection down. -/
theorem lockB_download (hdownload : session.Download size) (hsize : size ≤ TCP_SND_BUF) {res : Int}
    (hphase : session.phase = .handing res) (memory : Nat × Nat → Bool) (outputs : Bool) :
    (session.lockB res memory outputs).Download size := by
  have hgoing := hdownload.handing res hphase
  have hsum : (session.buffer.reading.map Prod.snd).sum = session.buffer.rdaSize := by
    rw [session.buffer.reading_eq, sum_pieces]
  unfold lockB
  split
  next hpcb =>
    refine hdownload.frame rfl rfl rfl rfl rfl rfl rfl ?_ (fun _ => hgoing) ?_ ?_
    · exact fun pcb hopen => ⟨pcb, hopen, rfl, rfl⟩
    · rintro _ ⟨⟩
    · rintro ⟨⟩
  next pcb hpcb =>
    dsimp only
    by_cases hempty : session.buffer.reading = []
    · rw [if_neg (not_not_intro hempty)]
      have hnone : session.buffer.rdaSize = 0 := by
        rw [← hsum, hempty]
        rfl
      split
      next hended => exact idle_download hdownload hgoing hnone (.inr hended)
      next => exact idle_download hdownload hgoing hnone (.inl rfl)
    · rw [if_pos hempty, hsum]
      refine handed_download hdownload hsize hgoing hpcb memory rfl ?_
      intro hresB
      split at hresB
      next => contradiction
      next hfine =>
        simp only [not_or, Bool.not_eq_true] at hfine
        exact hfine.1

/-- The other direction leaves the ring alone. -/
theorem spliceF_download (hdownload : session.Download size) {writev : Transfer Nat}
    (hstep : session.spliceF writev = some session') : session'.Download size := by
  have hkeeps : ∀ next : HevSocks5SessionTCP, next.buffer = session.buffer →
      next.fetched = session.fetched → next.handed = session.handed →
      next.acked = session.acked → next.refused = session.refused →
      next.overrun = session.overrun → next.shutTx = session.shutTx →
      next.pcb = session.pcb → next.resB = session.resB →
      (next.phase = .spliceB ∨ ∃ taken, next.phase = .recving taken) → next.Download size := by
    intro next hbuffer hfetched hhanded hacked hrefused hoverrun hshutTx hpcb hresB hphase
    refine hdownload.frame hbuffer hfetched hhanded hacked hrefused hoverrun hshutTx ?_ ?_ ?_ ?_
    · rw [hpcb]
      exact session.same_sending
    · rw [hresB]
      exact id
    · intro res hhanding
      rcases hphase with hphase | ⟨taken, hphase⟩
      · rw [hphase] at hhanding
        cases hhanding
      · rw [hphase] at hhanding
        cases hhanding
    · intro hleft
      rcases hphase with hphase | ⟨taken, hphase⟩
      · rw [hphase] at hleft
        cases hleft
      · rw [hphase] at hleft
        cases hleft
  unfold spliceF at hstep
  split at hstep
  next =>
    obtain rfl := Option.some.inj hstep
    exact hkeeps _ rfl rfl rfl rfl rfl rfl rfl rfl rfl (.inl rfl)
  next =>
    split at hstep
    next =>
      dsimp only at hstep
      split at hstep
      next taken =>
        obtain ⟨_, hstep⟩ := Option.ite_none_right_eq_some.mp hstep
        obtain rfl := Option.some.inj hstep
        exact hkeeps _ rfl rfl rfl rfl rfl rfl rfl rfl rfl (.inr ⟨taken, rfl⟩)
      next =>
        obtain rfl := Option.some.inj hstep
        exact hkeeps _ rfl rfl rfl rfl rfl rfl rfl rfl rfl (.inl rfl)
      next =>
        obtain rfl := Option.some.inj hstep
        exact hkeeps _ rfl rfl rfl rfl rfl rfl rfl rfl rfl (.inl rfl)
    next =>
      split at hstep
      next =>
        obtain rfl := Option.some.inj hstep
        exact hkeeps _ rfl rfl rfl rfl rfl rfl rfl rfl rfl (.inl rfl)
      next =>
        obtain rfl := Option.some.inj hstep
        exact hkeeps _ rfl rfl rfl rfl rfl rfl rfl rfl rfl (.inl rfl)

theorem yieldTurn_download (hdownload : session.Download size) (stops : Bool) :
    (session.yieldTurn stops).Download size := by
  have hon : ∀ phase timedOut, phase = .spliceF ∨ phase = .draining →
      Download size { session with phase, timedOut } := by
    intro phase timedOut hphase
    refine hdownload.frame rfl rfl rfl rfl rfl rfl rfl session.same_sending id ?_ ?_
    · rintro res rfl
      rcases hphase with ⟨⟨⟩⟩ | ⟨⟨⟩⟩
    · rintro rfl
      rcases hphase with ⟨⟨⟩⟩ | ⟨⟨⟩⟩
  unfold yieldTurn
  split
  next => exact hon .spliceF session.timedOut (.inl rfl)
  next =>
    split
    next =>
      split
      next => exact hon .draining true (.inr rfl)
      next => exact hon .spliceF session.timedOut (.inl rfl)
    next => exact hon .draining session.timedOut (.inr rfl)

/-- The session leaves when the ring is empty, unless it is told to. -/
theorem drain_download (hdownload : session.Download size) (stops : Bool) :
    (session.drain stops).Download size := by
  unfold drain
  split
  next =>
    split
    next =>
      refine hdownload.frame rfl rfl rfl rfl rfl rfl rfl session.same_sending id (by rintro _ ⟨⟩) ?_
      rintro _ ⟨⟩
    next => exact hdownload
  next hover =>
    refine hdownload.frame rfl rfl rfl rfl rfl rfl rfl session.same_sending id (by rintro _ ⟨⟩) ?_
    intro _ _ hopen
    exact not_not.mp fun huse => hover ⟨hopen, huse⟩

end Download

/-! ## Both directions, over any run -/

/-- What every step keeps. -/
structure Holds (size : Nat) (session : HevSocks5SessionTCP) : Prop where
  upload : session.Upload
  download : 0 < size → session.Download size

/-- Every event keeps both directions. -/
theorem step_holds {size : Nat} (hsize : size ≤ TCP_SND_BUF)
    {session session' : HevSocks5SessionTCP} {event : Event} (hholds : session.Holds size)
    (hstep : session.step event = some session') : session'.Holds size := by
  obtain ⟨hupload, hdownload⟩ := hholds
  cases event with
  | tcpRecv segments =>
      unfold step at hstep
      dsimp only at hstep
      split at hstep
      next pcb hpcb =>
        obtain ⟨⟨heof, _, hsegments, hroom⟩, hstep⟩ := Option.ite_none_right_eq_some.mp hstep
        obtain rfl := Option.some.inj hstep
        exact ⟨tcpRecv_upload hupload hpcb heof hsegments hroom,
          fun hpos => tcpRecv_download (hdownload hpos) hpcb segments⟩
      next => cases hstep
  | tcpRecvEof =>
      obtain ⟨_, hstep⟩ := Option.ite_none_right_eq_some.mp hstep
      obtain rfl := Option.some.inj hstep
      exact ⟨tcpRecvEof_upload hupload, fun hpos => tcpRecvEof_download (hdownload hpos)⟩
  | tcpSent len =>
      unfold step at hstep
      dsimp only at hstep
      split at hstep
      next pcb hpcb =>
        obtain ⟨⟨_, hlen⟩, hstep⟩ := Option.ite_none_right_eq_some.mp hstep
        obtain rfl := Option.some.inj hstep
        exact ⟨tcpSent_upload hupload hpcb len,
          fun hpos => tcpSent_download (hdownload hpos) hpcb hlen⟩
      next => cases hstep
  | tcpErr =>
      obtain ⟨_, hstep⟩ := Option.ite_none_right_eq_some.mp hstep
      obtain rfl := Option.some.inj hstep
      exact ⟨tcpErr_upload hupload, fun hpos => tcpErr_download (hdownload hpos)⟩
  | enter =>
      obtain ⟨hphase, hstep⟩ := Option.ite_none_right_eq_some.mp hstep
      obtain rfl := Option.some.inj hstep
      exact ⟨enter_upload hupload hphase, fun hpos => enter_download (hdownload hpos)⟩
  | spliceF writev =>
      obtain ⟨hphase, hstep⟩ := Option.ite_none_right_eq_some.mp hstep
      exact ⟨spliceF_upload hupload hphase hstep,
        fun hpos => spliceF_download (hdownload hpos) hstep⟩
  | lockF =>
      unfold step at hstep
      dsimp only at hstep
      split at hstep
      next taken hphase =>
        obtain rfl := Option.some.inj hstep
        exact ⟨lockF_upload hupload hphase, fun hpos => lockF_download (hdownload hpos) taken⟩
      next => cases hstep
  | spliceB readv =>
      obtain ⟨hphase, hstep⟩ := Option.ite_none_right_eq_some.mp hstep
      exact ⟨spliceB_upload hupload hphase hstep,
        fun hpos => spliceB_download (hdownload hpos) hstep⟩
  | lockB memory outputs =>
      unfold step at hstep
      dsimp only at hstep
      split at hstep
      next res hphase =>
        obtain rfl := Option.some.inj hstep
        exact ⟨lockB_upload hupload hphase memory outputs,
          fun hpos => lockB_download (hdownload hpos) hsize hphase memory outputs⟩
      next => cases hstep
  | yield stops =>
      obtain ⟨hphase, hstep⟩ := Option.ite_none_right_eq_some.mp hstep
      obtain rfl := Option.some.inj hstep
      exact ⟨yieldTurn_upload hupload hphase stops,
        fun hpos => yieldTurn_download (hdownload hpos) stops⟩
  | drain stops =>
      obtain ⟨hphase, hstep⟩ := Option.ite_none_right_eq_some.mp hstep
      obtain rfl := Option.some.inj hstep
      exact ⟨drain_upload hupload hphase stops,
        fun hpos => drain_download (hdownload hpos) stops⟩

/-- The ring never holds more than lwIP's send buffer. -/
theorem tcpBufferSize_le (configured : ConfiguredSize) :
    tcpBufferSize configured ≤ TCP_SND_BUF := by
  unfold tcpBufferSize
  split
  next => exact le_refl _
  next hsmall => exact not_lt.mp hsmall

theorem tcpBufferSize_pos {configured : ConfiguredSize} (hconfigured : 0 < configured.val) :
    0 < tcpBufferSize configured := by
  unfold tcpBufferSize
  split
  next => decide
  next => exact hconfigured

/-- So both directions are kept in any run. -/
theorem run_holds {configured : ConfiguredSize} {garbage : Nat → UInt8}
    {events : List Event} {session : HevSocks5SessionTCP}
    (hrun : events.foldlM step (accepted configured garbage) = some session) :
    session.Holds (tcpBufferSize configured) :=
  Runs.invariant ⟨accepted_upload configured garbage, accepted_download garbage⟩
    (fun _ _ _ hholds hstep => step_holds (tcpBufferSize_le configured) hholds hstep) hrun

/-- Whatever happens in whichever order, what the application sent reaches the socket in
order, and what is not written yet is in the queue. The window is smaller by exactly what is
queued, so the queue never outgrows it, and the socket is shut down for writing only when
the application has ended and all of its bytes are written. -/
theorem upload_in_order (configured : ConfiguredSize) (garbage : Nat → UInt8)
    {events : List Event} {session : HevSocks5SessionTCP}
    (hrun : events.foldlM step (accepted configured garbage) = some session) :
    session.received =
        session.written ++ session.queue.flatten.drop (session.phase.taken.getD 0) ∧
      session.queue.flatten.length ≤ TCP_WND ∧
      (∀ pcb ∈ session.pcb, pcb.rcvWnd + session.queue.flatten.length = TCP_WND) ∧
      (session.shutWr = true → session.pcbEof = true ∧ session.written = session.received) := by
  have hupload := (run_holds hrun).upload
  refine ⟨hupload.received, hupload.window, hupload.rcvWnd, ?_⟩
  intro hshut
  obtain ⟨_, heof, hqueue⟩ := hupload.shutWr hshut
  have hreceived := hupload.received
  rw [hqueue, List.flatten_nil, List.drop_nil, List.append_nil] at hreceived
  exact ⟨heof, hreceived.symm⟩

/-- The application ends while two of its three bytes are being written. -/
def ending : List Event :=
  [.tcpRecv [[1, 2], [3]], .enter, .spliceF (.done 2), .tcpRecvEof, .lockF, .spliceB .again,
    .lockB (fun _ => true) true, .yield false, .spliceF (.done 1), .lockF, .spliceB .again,
    .lockB (fun _ => true) true, .yield false, .spliceF .again]

def ended : HevSocks5SessionTCP where
  buffer := .alloca 3 fun _ => 0
  pcbEof := true
  phase := .spliceB
  resF := -1
  resB := 0
  received := [1, 2, 3]
  written := [1, 2, 3]
  shutWr := true

theorem upload_in_order_ending :
    ended.received = ended.written ++ ended.queue.flatten.drop (ended.phase.taken.getD 0) ∧
      ended.queue.flatten.length ≤ TCP_WND ∧
      (∀ pcb ∈ ended.pcb, pcb.rcvWnd + ended.queue.flatten.length = TCP_WND) ∧
      (ended.shutWr = true → ended.pcbEof = true ∧ ended.written = ended.received) :=
  @upload_in_order 3 (fun _ => 0) ending ended rfl

/-- Whatever happens in whichever order, what came from the relay and is not acknowledged is
in the ring, and no call asks lwIP for more room than it has. As long as lwIP has the memory
its calls need, what was handed over is a prefix of what came, the places that lwIP holds
keep exactly the bytes that are not acknowledged, the connection is shut down only after
everything was handed over, and the session leaves it only after everything was
acknowledged, unless it is stopped. -/
theorem download_in_order {configured : ConfiguredSize} (hconfigured : 0 < configured.val)
    (garbage : Nat → UInt8) {events : List Event} {session : HevSocks5SessionTCP}
    (hrun : events.foldlM step (accepted configured garbage) = some session) :
    session.buffer.contents = session.fetched.drop session.acked ∧ session.overrun = false ∧
      (session.refused = false →
        session.handed <+: session.fetched ∧
        (∀ pcb ∈ session.pcb,
          pcb.held.map session.buffer.data = session.handed.drop session.acked) ∧
        (session.shutTx = true → session.handed = session.fetched) ∧
        (session.phase = .left → session.timedOut = false → session.pcb.isSome →
          session.handed = session.fetched ∧ session.acked = session.fetched.length)) := by
  have hdownload := (run_holds hrun).download (tcpBufferSize_pos hconfigured)
  have hamount := hdownload.amount
  have hrda := hdownload.inv.rda_le
  have hunreleased : session.buffer.unreleased = session.buffer.useSize - session.buffer.rdaSize :=
    rfl
  refine ⟨hdownload.contents, hdownload.overrun, fun hrefused => ?_⟩
  have hhanded := hdownload.handed hrefused
  have hall : session.buffer.rdaSize = 0 → session.handed = session.fetched := by
    intro hnone
    rw [hhanded, List.take_of_length_le (by omega)]
  refine ⟨?_, ?_, fun hshut => hall (hdownload.shutTx hshut).2, ?_⟩
  · rw [hhanded]
    exact List.take_prefix _ _
  · intro pcb hpcb
    -- lwIP holds the oldest bytes of the ring
    have hfront : window session.buffer.data session.buffer.maxSize session.buffer.first
        session.buffer.unreleased = session.buffer.contents.take session.buffer.unreleased := by
      have hsplit : session.buffer.useSize =
          session.buffer.unreleased + session.buffer.rdaSize := by omega
      rw [HevRingBuffer.contents, hsplit, window_add, List.take_left' length_window]
    rw [hdownload.held hrefused pcb hpcb, ← hdownload.size_eq]
    change window _ _ _ _ = _
    rw [hfront, hdownload.contents, hhanded, ← List.take_drop]
  · intro hphase htimed hopen
    have hempty := hdownload.left hphase htimed hopen
    exact ⟨hall (by omega), by omega⟩

/-- A segment goes to the application, then another one, and the first is acknowledged; two
more bytes come around the ring. -/
def sending : List Event :=
  [.enter, .spliceF .again, .spliceB (.done [1]), .lockB (fun _ => true) true]
def acknowledging : List Event :=
  [.yield false, .spliceF .again, .spliceB (.done [2]), .lockB (fun _ => true) true, .tcpSent 1]
def wrapping : List Event :=
  [.yield false, .spliceF .again, .spliceB (.done [3, 4]), .lockB (fun _ => true) true]

def sent : HevSocks5SessionTCP where
  buffer := ((HevRingBuffer.alloca 3 fun _ => 0).fill [1]).readFinish 1
  pcb := some { sndBuf := 65527, held := [0] }
  phase := .yielding
  resF := 0
  fetched := [1]
  handed := [1]

def acknowledged : HevSocks5SessionTCP :=
  { sent with
    buffer := ((sent.buffer.fill [2]).readFinish 1).readRelease 1
    pcb := some { sndBuf := 65527, held := [1] }
    fetched := [1, 2]
    handed := [1, 2]
    acked := 1 }

def wrapped : HevSocks5SessionTCP :=
  { acknowledged with
    buffer := (acknowledged.buffer.fill [3, 4]).readFinish 2
    pcb := some { sndBuf := 65525, held := [1, 2, 0] }
    fetched := [1, 2, 3, 4]
    handed := [1, 2, 3, 4] }

theorem download_in_order_around :
    (sending ++ acknowledging ++ wrapping).foldlM step (accepted 3 fun _ => 0) = some wrapped ∧
      [1, 2, 0].map wrapped.buffer.data = [2, 3, 4] := by
  have hrun : (sending ++ acknowledging ++ wrapping).foldlM step (accepted 3 fun _ => 0) =
      some wrapped := by
    have hfirst : sending.foldlM step (accepted 3 fun _ => 0) = some sent := rfl
    have hsecond : acknowledging.foldlM step sent = some acknowledged := rfl
    have hlater : wrapping.foldlM step acknowledged = some wrapped := rfl
    rw [List.foldlM_append, List.foldlM_append, hfirst]
    change acknowledging.foldlM step sent >>= _ = _
    rw [hsecond]
    exact hlater
  obtain ⟨_, _, hfine⟩ := download_in_order (by decide) (fun _ => 0) hrun
  obtain ⟨_, hheld, _⟩ := hfine rfl
  exact ⟨hrun, hheld _ rfl⟩

end HevSocks5SessionTCP

end AIUnblock
