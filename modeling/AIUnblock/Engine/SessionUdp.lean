import AIUnblock.Engine.Datagrams
import AIUnblock.Foundation.Runs
import AIUnblock.Relay.BadDatagrams
import AIUnblock.Relay.ForeignDatagrams
import Mathlib.Data.List.Forall2

/-! # `hev-socks5-session-udp.c`

lwIP hands datagrams to the session's handler, and the session's task sends them on
in batches. The task may be suspended while it sends, so that datagrams arrive
between the two halves of a batch.
-/

namespace AIUnblock

open HevSocks5UDP

/-- A session of datagrams. `sending` is the call of `hev_socks5_udp_sendmmsg` that is under
way: its messages, and how many of them the socket has taken. `sent` is all it has taken. -/
structure HevSocks5SessionUDP where
  frameList : List HevSocks5UDPFrame := []
  frames : Nat := 0
  sending : Option (List HevSocks5UDPFrame × Nat) := none
  failed : Bool := false
  sent : List HevSocks5UDPFrame := []

/-- A datagram of a local application, as lwIP hands it to the session of its `pcb`. One that
lwIP has put together from fragments is a chain of `pbuf`s. -/
structure LwipDatagram where
  localIp : IpAddr
  localPort : Nat
  port_lt : localPort < 65536
  /-- The bytes of the first `pbuf`. -/
  payload : Bytes
  /-- The bytes of those behind it. -/
  next : List Bytes := []

namespace HevSocks5SessionUDP

def UDP_POOL_SIZE : Nat := 512

inductive Event
  /-- `udp_recv_handler`; `allocated` says if `hev_malloc` gave a frame. -/
  | udpRecv (received : LwipDatagram) (allocated : Bool)
  /-- `hev_socks5_session_udp_fwd_f` up to the call of `sendmmsg`. -/
  | fwdF (num : Nat)
  /-- The kernel takes `count` of the messages that are left, or refuses with 0. -/
  | sendmmsg (count : Nat)

/-- The frame of a datagram; the tunnel maps no names. `hev_socks5_session_udp_fwd_f` takes
`payload` and `len` of the first `pbuf` only. -/
def frameOf (received : LwipDatagram) : HevSocks5UDPFrame :=
  ⟨.fromLwip (fun _ => none) received.localIp received.localPort, received.payload⟩

/-- `udp_recv_handler`. -/
def udpRecvHandler (self : HevSocks5SessionUDP) (received : LwipDatagram) (allocated : Bool) :
    HevSocks5SessionUDP :=
  if self.frames > UDP_POOL_SIZE then self
  else if allocated = false then self
  else { self with frames := self.frames + 1, frameList := self.frameList ++ [frameOf received] }

/-- `hev_socks5_session_udp_fwd_f` once `sendmmsg` has returned: `res` frames are gone. -/
def sendmmsgReturned (self : HevSocks5SessionUDP) (res : Nat) : HevSocks5SessionUDP :=
  if res = 0 then { self with sending := none, failed := true }
  else { self with
    sending := none
    frameList := self.frameList.drop res
    frames := self.frames - res }

/-- A turn of the loop of `hev_task_io_socket_sendmmsg` with `MSG_WAITALL`. -/
def sendmmsgLoop (self : HevSocks5SessionUDP) (messages : List HevSocks5UDPFrame) (done : Nat)
    (count : Nat) : HevSocks5SessionUDP :=
  if count = 0 then self.sendmmsgReturned done
  else
    let self := { self with sent := self.sent ++ (messages.drop done).take count }
    if done + count < messages.length then { self with sending := some (messages, done + count) }
    else self.sendmmsgReturned (done + count)

/-- A step, if the session can take it. -/
def step (self : HevSocks5SessionUDP) : Event → Option HevSocks5SessionUDP
  | .udpRecv received allocated => some (self.udpRecvHandler received allocated)
  | .fwdF num =>
    match self.sending with
    | some _ => none
    | none =>
      if self.failed then none
      else if self.frames = 0 then some self
      else
        let res := if self.frames > num then num else self.frames
        some { self with sending := some (self.frameList.take res, 0) }
  | .sendmmsg count =>
    match self.sending with
    | none => none
    | some (messages, done) =>
      if done + count ≤ messages.length then some (self.sendmmsgLoop messages done count) else none

/-- What an event brings into the queue. -/
def admits (self : HevSocks5SessionUDP) : Event → List LwipDatagram
  | .udpRecv received allocated =>
    if self.frames ≤ UDP_POOL_SIZE ∧ allocated then [received] else []
  | .fwdF _ => []
  | .sendmmsg _ => []

/-- The frames in the queue that the socket has not taken. -/
def pending (self : HevSocks5SessionUDP) : List HevSocks5UDPFrame :=
  match self.sending with
  | some (_, done) => self.frameList.drop done
  | none => self.frameList

/-- The counter counts the list, and the messages of a batch are its head. -/
structure Inv (session : HevSocks5SessionUDP) : Prop where
  frames : session.frames = session.frameList.length
  bound : session.frames ≤ UDP_POOL_SIZE + 1
  batch : ∀ messages done, session.sending = some (messages, done) →
    messages <+: session.frameList ∧ done ≤ messages.length

/-- What came into the queue: sent, or still in it. -/
def total (self : HevSocks5SessionUDP) : List HevSocks5UDPFrame := self.sent ++ self.pending

section Step

variable {self : HevSocks5SessionUDP}

/-- A datagram is queued behind the others, or dropped at the limit. -/
theorem udpRecvHandler_keeps (hinv : self.Inv) (received : LwipDatagram) (allocated : Bool) :
    (self.udpRecvHandler received allocated).Inv ∧
      (self.udpRecvHandler received allocated).total = self.total ++
        (self.admits (.udpRecv received allocated)).map frameOf := by
  unfold udpRecvHandler admits
  dsimp only
  by_cases hfull : self.frames > UDP_POOL_SIZE
  · rw [if_pos hfull, if_neg fun hroom => absurd hroom.1 (by omega), List.map_nil, List.append_nil]
    exact ⟨hinv, rfl⟩
  rw [if_neg hfull]
  cases allocated with
  | false =>
      rw [if_pos rfl, if_neg fun hroom => absurd hroom.2 Bool.false_ne_true, List.map_nil,
        List.append_nil]
      exact ⟨hinv, rfl⟩
  | true =>
      rw [if_neg (by decide), if_pos ⟨by omega, rfl⟩]
      refine ⟨⟨?_, ?_, ?_⟩, ?_⟩
      · simp [hinv.frames]
      · dsimp only
        omega
      · intro messages done hsending
        obtain ⟨hfront, hdone⟩ := hinv.batch messages done hsending
        exact ⟨hfront.trans (List.prefix_append _ _), hdone⟩
      · unfold total pending
        dsimp only
        cases hsending : self.sending with
        | none => exact (List.append_assoc _ _ _).symm
        | some sending =>
            obtain ⟨hfront, hdone⟩ := hinv.batch sending.1 sending.2 hsending
            have hlength := hfront.length_le
            dsimp only
            rw [List.drop_append_of_le_length (by omega), List.append_assoc]
            rfl

/-- A batch is the front of the queue. -/
theorem fwdF_keeps (hinv : self.Inv) (hsending : self.sending = none) (res : Nat) :
    { self with sending := some (self.frameList.take res, 0) }.Inv ∧
      { self with sending := some (self.frameList.take res, 0) }.total = self.total := by
  refine ⟨⟨hinv.frames, hinv.bound, ?_⟩, ?_⟩
  · rintro _ _ ⟨⟩
    exact ⟨List.take_prefix res self.frameList, Nat.zero_le _⟩
  · simp [total, pending, hsending]

/-- What was sent leaves the queue, and the rest of the batch is sent later. -/
theorem sendmmsgReturned_keeps (hinv : self.Inv) {messages : List HevSocks5UDPFrame} {done : Nat}
    (hsending : self.sending = some (messages, done)) :
    (self.sendmmsgReturned done).Inv ∧ (self.sendmmsgReturned done).total = self.total := by
  obtain ⟨hfront, hdone⟩ := hinv.batch messages done hsending
  have hlength := hfront.length_le
  have hframes := hinv.frames
  have hbound := hinv.bound
  unfold sendmmsgReturned
  by_cases hnone : done = 0
  · rw [if_pos hnone]
    refine ⟨⟨hframes, hbound, by rintro _ _ ⟨⟩⟩, ?_⟩
    simp [total, pending, hsending, hnone]
  · rw [if_neg hnone]
    refine ⟨⟨?_, ?_, by rintro _ _ ⟨⟩⟩, ?_⟩
    · simp [hframes]
    · dsimp only
      omega
    · simp [total, pending, hsending]

/-- Each round of the loop sends some more of the batch. -/
theorem sendmmsgLoop_keeps (hinv : self.Inv) {messages : List HevSocks5UDPFrame}
    {done count : Nat} (hsending : self.sending = some (messages, done))
    (hcount : done + count ≤ messages.length) :
    (self.sendmmsgLoop messages done count).Inv ∧
      (self.sendmmsgLoop messages done count).total = self.total := by
  obtain ⟨⟨later, hlater⟩, hdone⟩ := hinv.batch messages done hsending
  unfold sendmmsgLoop
  by_cases hzero : count = 0
  · rw [if_pos hzero]
    exact sendmmsgReturned_keeps hinv hsending
  rw [if_neg hzero]
  -- the messages taken now are the first ones that were pending
  have htaken : (messages.drop done).take count ++ self.frameList.drop (done + count) =
      self.frameList.drop done := by
    rw [← hlater, List.drop_append_of_le_length hdone, List.drop_append_of_le_length hcount,
      ← List.append_assoc, ← List.drop_drop, List.take_append_drop]
  have hnext : { self with
        sent := self.sent ++ (messages.drop done).take count
        sending := some (messages, done + count) }.Inv ∧
      { self with
        sent := self.sent ++ (messages.drop done).take count
        sending := some (messages, done + count) }.total = self.total := by
    refine ⟨⟨hinv.frames, hinv.bound, ?_⟩, ?_⟩
    · rintro _ _ ⟨⟩
      exact ⟨⟨later, hlater⟩, hcount⟩
    · simp only [total, pending, hsending, List.append_assoc, htaken]
  dsimp only
  split
  next => exact hnext
  next =>
    obtain ⟨hinv', htotal⟩ := sendmmsgReturned_keeps hnext.1 rfl
    exact ⟨hinv', htotal.trans hnext.2⟩

/-- Every step keeps the order of what was admitted. -/
theorem step_keeps {event : Event} {self' : HevSocks5SessionUDP} (hinv : self.Inv)
    (hstep : self.step event = some self') :
    self'.Inv ∧ self'.total = self.total ++ (self.admits event).map frameOf := by
  cases event with
  | udpRecv received allocated =>
      cases hstep
      exact udpRecvHandler_keeps hinv received allocated
  | fwdF num =>
      rw [admits, List.map_nil, List.append_nil]
      unfold step at hstep
      dsimp only at hstep
      split at hstep
      next => contradiction
      next hsending =>
        split at hstep
        next => contradiction
        next =>
          split at hstep
          next =>
            cases hstep
            exact ⟨hinv, rfl⟩
          next =>
            cases hstep
            exact fwdF_keeps hinv hsending _
  | sendmmsg count =>
      rw [admits, List.map_nil, List.append_nil]
      unfold step at hstep
      dsimp only at hstep
      split at hstep
      next => contradiction
      next messages done hsending =>
        split at hstep
        next hcount =>
          cases hstep
          exact sendmmsgLoop_keeps hinv hsending hcount
        next => contradiction

end Step

theorem fresh_inv : ({} : HevSocks5SessionUDP).Inv :=
  ⟨rfl, Nat.zero_le _, by rintro _ _ ⟨⟩⟩

/-- All that a run has let into the queue. -/
def admitted (events : List Event) : List LwipDatagram := Runs.outputs step admits {} events

/-- So does every run. -/
theorem run_keeps {events : List Event} {session : HevSocks5SessionUDP}
    (hrun : events.foldlM step {} = some session) :
    session.Inv ∧ session.sent ++ session.pending = (admitted events).map frameOf := by
  obtain ⟨hinv, htotal⟩ := Runs.account fresh_inv (fun _ _ _ => step_keeps) hrun
  refine ⟨hinv, ?_⟩
  rw [← total, htotal, Runs.outputs_map]
  rfl

/-- The queue never holds more than one frame over its limit. Whatever arrives while a batch
is being sent, its frames stay in the queue until it is over, and every frame that came in
leaves once and in its turn. -/
theorem frames_conserved {events : List Event} {session : HevSocks5SessionUDP}
    (hrun : events.foldlM step {} = some session) :
    session.frameList.length ≤ UDP_POOL_SIZE + 1 ∧
      (∀ messages done, session.sending = some (messages, done) →
        messages <+: session.frameList) ∧
      session.sent ++ session.pending = (admitted events).map frameOf := by
  obtain ⟨hinv, htotal⟩ := run_keeps hrun
  refine ⟨?_, fun messages done hsending => (hinv.batch messages done hsending).1, htotal⟩
  rw [← hinv.frames]
  exact hinv.bound

/-- Two datagrams of an application. -/
def query : LwipDatagram := ⟨.v4 ⟨[9, 9, 9, 9], rfl⟩, 80, by decide, [1], []⟩
def laterQuery : LwipDatagram := ⟨.v6 ⟨List.replicate 16 1, rfl⟩, 123, by decide, [2], [[3, 4]]⟩

/-- A third datagram comes when one of a batch of two has been sent. -/
def overtaking : List Event :=
  [.udpRecv query true, .udpRecv laterQuery true, .fwdF 10, .sendmmsg 1, .udpRecv query true]

def overtaken : HevSocks5SessionUDP where
  frameList := [frameOf query, frameOf laterQuery, frameOf query]
  frames := 3
  sending := some ([frameOf query, frameOf laterQuery], 1)
  sent := [frameOf query]

theorem frames_conserved_overtaking :
    overtaken.frameList.length ≤ UDP_POOL_SIZE + 1 ∧
      (∀ messages done, overtaken.sending = some (messages, done) →
        messages <+: overtaken.frameList) ∧
      overtaken.sent ++ overtaken.pending = (admitted overtaking).map frameOf :=
  @frames_conserved overtaking overtaken rfl

/-! ## The relay at the other end -/

open LocalSocksRelay

/-- The address of a local application's peer, as the relay sees it. -/
def inetOf : IpAddr → InetAddress
  | .v4 addr => .inet4 addr
  | .v6 addr =>
    if addr.1.take 12 = InetAddress.mappedPrefix then
      .inet4 ⟨addr.1.drop 12, by rw [List.length_drop, addr.2]⟩
    else .inet6 addr

/-- What the application asks for. -/
def request (received : LwipDatagram) : UdpRequest where
  destination := { address := inetOf received.localIp, port := received.localPort }
  payload := received.payload ++ received.next.flatten

/-- What the relay has to send for a datagram. -/
def forwarded (config : RelayConfig) (engine : InetSocketAddress) (received : LwipDatagram) :
    List Datagram :=
  match requestDatagram config engine (request received) with
  | .ok sent => sent.toList
  | .error _ => []

section Relay

variable {config : RelayConfig} {relay : SocketId} {engine : InetSocketAddress}

end Relay

/-- A call of `udp_sendfrom`: the source and the payload that the application gets. -/
structure Reply where
  saddr : IpAddr
  port : Nat
  payload : Bytes
  deriving DecidableEq

/-- How `hev_socks5_session_udp_fwd_b` ends: 1, 0, `-1`, or by reading through `NULL`. -/
inductive FwdB
  | one
  | zero
  | failed
  | nullRead
  deriving DecidableEq

/-- `IP_ADDR_PCB_VERSION_MATCH`. -/
def sameVersion : IpAddr → IpAddr → Bool
  | .v4 _, .v4 _ | .v6 _, .v6 _ => true
  | .v4 _, .v6 _ | .v6 _, .v4 _ => false

/-- Whether `udp_sendfrom` takes the reply for the application at `remoteIp`: it answers
`ERR_VAL` if the source is of the other version of IP. `room` says of each call in turn if
`pbuf_alloc_reference` and the rest of lwIP find their memory and their route. -/
def accepts (remoteIp : IpAddr) (room : Nat → Bool) : Reply × Nat → Bool
  | (reply, call) => sameVersion reply.saddr remoteIp && room call

/-- The loop over the received messages, when there have been `calls` calls before. -/
def fwdBLoop (remoteIp : IpAddr) (room : Nat → Bool) (calls : Nat) :
    List HevSocks5UDPMsg → List Reply × FwdB
  | [] => ([], .one)
  | message :: messages =>
    match message.addr with
    | none => ([], .nullRead)
    | some addr =>
      match addr.intoLwip with
      | none => ([], .failed)
      | some (saddr, port) =>
        let reply : Reply := ⟨saddr, port, message.buf⟩
        if accepts remoteIp room (reply, calls) then
          let (replies, result) := fwdBLoop remoteIp room (calls + 1) messages
          (reply :: replies, result)
        else ([], .failed)

/-- A call of `hev_socks5_session_udp_fwd_b` for which a batch has arrived. `again` says if
`errno` is `EAGAIN`, from whatever call has set it last. -/
structure Batch where
  arrived : List (Buffer × Bytes)
  again : Bool

/-- `hev_socks5_session_udp_fwd_b`, once a batch has arrived. -/
def fwdB (remoteIp : IpAddr) (room : Nat → Bool) (calls : Nat) (batch : Batch) :
    List Reply × FwdB :=
  match recvmmsgUdp batch.arrived with
  | none => ([], if batch.again then .zero else .failed)
  | some messages => fwdBLoop remoteIp room calls messages

/-- The calls from `hev_socks5_session_udp_splice`, which makes another one as long as
`res_b`, here `last`, is not negative. -/
def spliceB (remoteIp : IpAddr) (room : Nat → Bool) (calls : Nat) (last : FwdB) :
    List Batch → List Reply × FwdB
  | [] => ([], last)
  | batch :: batches =>
    let (replies, result) := fwdB remoteIp room calls batch
    if result = .one ∨ result = .zero then
      let (later, result) := spliceB remoteIp room (calls + replies.length) result batches
      (replies ++ later, result)
    else (replies, result)

section Replies

variable {remoteIp : IpAddr} {room : Nat → Bool}

/-- What comes of replies: those up to the first that is not accepted, and an error there. -/
def delivery (remoteIp : IpAddr) (room : Nat → Bool) (calls : Nat) (replies : List Reply) :
    List Reply × FwdB :=
  (((replies.zipIdx calls).takeWhile (accepts remoteIp room)).map Prod.fst,
    if (replies.zipIdx calls).all (accepts remoteIp room) then .one else .failed)

end Replies

end HevSocks5SessionUDP

end AIUnblock
