import AIUnblock.Engine.Addresses
import AIUnblock.Relay.Destinations

/-! # `hev-socks5-udp.c`: one datagram for each message

The engine reads an address where it lies in its buffer, so a datagram is decoded in
front of whatever an earlier one left there.
-/

namespace AIUnblock

open LengthPrefixed

/-- `HevSocks5UDPFrame`: a datagram of a local application and where it should go. -/
structure HevSocks5UDPFrame where
  addr : HevSocks5Addr
  data : Bytes
  deriving DecidableEq

/-- `HevSocks5UDPMsg` after it was received. The address may be `NULL`. -/
structure HevSocks5UDPMsg where
  addr : Option HevSocks5Addr
  buf : Bytes
  deriving DecidableEq

namespace HevSocks5UDP

def UDP_BUF_SIZE : Nat := 1500

/-- A receive buffer with what it holds. -/
abbrev Buffer : Type := { memory : Bytes // memory.length = UDP_BUF_SIZE }

/-- One message of `hev_socks5_udp_sendmmsg_udp`. -/
def datagram (frame : HevSocks5UDPFrame) : Bytes := [0, 0, 0] ++ frame.addr.bytes ++ frame.data

/-- `hev_socks5_addr_len` of what lies in memory; `none` is `-1`. -/
def addrLen (memory : Bytes) : Option Nat :=
  match memory with
  | atype :: len :: _ =>
    if atype = HevSocks5Addr.HEV_SOCKS5_ADDR_TYPE_IPV4 then some 7
    else if atype = HevSocks5Addr.HEV_SOCKS5_ADDR_TYPE_IPV6 then some 19
    else if atype = HevSocks5Addr.HEV_SOCKS5_ADDR_TYPE_NAME then some (4 + len.toNat)
    else none
  | _ => none

/-- The port behind `content` bytes of an address, as it lies in memory. -/
def portAt (content : Bytes) : Option NetPort :=
  match content with
  | high :: low :: _ => some ⟨high, low⟩
  | _ => none

/-- What lies in memory, taken for a `HevSocks5Addr`. -/
def addrAt (memory : Bytes) : Option HevSocks5Addr :=
  match memory with
  | atype :: content =>
    if atype = HevSocks5Addr.HEV_SOCKS5_ADDR_TYPE_IPV4 then
      if hlength : (content.take 4).length = 4 then
        (portAt (content.drop 4)).map fun port => .ipv4 ⟨content.take 4, hlength⟩ port
      else none
    else if atype = HevSocks5Addr.HEV_SOCKS5_ADDR_TYPE_IPV6 then
      if hlength : (content.take 16).length = 16 then
        (portAt (content.drop 16)).map fun port => .ipv6 ⟨content.take 16, hlength⟩ port
      else none
    else if atype = HevSocks5Addr.HEV_SOCKS5_ADDR_TYPE_NAME then
      match content with
      | len :: name =>
        if hlength : (name.take len.toNat).length < 256 then
          (portAt (name.drop len.toNat)).map fun port => .domain ⟨name.take len.toNat, hlength⟩ port
        else none
      | [] => none
    else none
  | [] => none

/-- The buffer once a datagram has arrived in it. -/
def fill (stale : Buffer) (datagram : Bytes) : Bytes :=
  datagram.take UDP_BUF_SIZE ++ stale.1.drop (min datagram.length UDP_BUF_SIZE)

/-- One message of `hev_socks5_udp_recvmmsg_udp`; `none` ends the call with `-1`. -/
def receive (stale : Buffer) (datagram : Bytes) : Option HevSocks5UDPMsg :=
  let memory := fill stale datagram
  let msgLen := min datagram.length UDP_BUF_SIZE
  let addrlen := addrLen (memory.drop 3)
  if msgLen < 4 then some ⟨none, []⟩
  else match addrlen with
    | none => none
    | some addrlen =>
      let doff := 3 + addrlen
      if doff > msgLen then none
      else some ⟨addrAt (memory.drop 3), (memory.take msgLen).drop doff⟩

/-- `hev_socks5_udp_recvmmsg_udp` on a connected socket: what arrived in each buffer. -/
def recvmmsgUdp (arrived : List (Buffer × Bytes)) : Option (List HevSocks5UDPMsg) :=
  arrived.mapM fun (stale, datagram) => receive stale datagram

/-! ## An address in memory -/

end HevSocks5UDP

end AIUnblock
