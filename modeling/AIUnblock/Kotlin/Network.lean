import AIUnblock.Kotlin.Text

/-! # Internet addresses

An address of either family carries exactly its octets. A socket address is
always resolved: the code builds none from an unresolved name.
-/

namespace AIUnblock

inductive InetAddress
  | inet4 (octets : { bytes : Bytes // bytes.length = 4 })
  | inet6 (octets : { bytes : Bytes // bytes.length = 16 })
  deriving DecidableEq

namespace InetAddress

/-- `address.address`. -/
def octets : InetAddress → Bytes
  | .inet4 octets => octets
  | .inet6 octets => octets

/-- `address is Inet4Address`. -/
def isInet4 : InetAddress → Bool
  | .inet4 _ => true
  | .inet6 _ => false

/-- `::ffff:0:0/96`, whose addresses the library turns into IPv4 ones. -/
def mappedPrefix : Bytes := List.replicate 10 0 ++ [0xff, 0xff]

/-- `InetAddress.getByAddress(bytes)`. -/
def getByAddress (bytes : Bytes) : Except Exception InetAddress :=
  if hfour : bytes.length = 4 then .ok (.inet4 ⟨bytes, hfour⟩)
  else if hsixteen : bytes.length = 16 then
    if bytes.take 12 = mappedPrefix then
      .ok (.inet4 ⟨bytes.drop 12, by rw [List.length_drop, hsixteen]⟩)
    else .ok (.inet6 ⟨bytes, hsixteen⟩)
  else .error { kind := .unknownHost }

/-- `InetAddress.getByName("127.0.0.1")`; literals are not looked up. -/
def loopback : InetAddress := .inet4 ⟨[127, 0, 0, 1], rfl⟩

/-- `InetAddress.getByName("0.0.0.0")`. -/
def wildcard4 : InetAddress := .inet4 ⟨[0, 0, 0, 0], rfl⟩

/-- `InetAddress.getByName("::")`. -/
def wildcard6 : InetAddress := .inet6 ⟨List.replicate 16 0, rfl⟩

end InetAddress

structure InetSocketAddress where
  address : InetAddress
  port : Nat
  deriving DecidableEq

/-- What one call of `read` may deliver into `room` free bytes: at least one. -/
structure Chunk (room : Nat) where
  bytes : Bytes
  nonempty : bytes ≠ []
  fits : bytes.length ≤ room

/-- A received `DatagramPacket`: a window of the receive buffer and its source. -/
structure Packet where
  socketAddress : InetSocketAddress
  data : Bytes
  offset : Nat
  length : Nat
  fits : offset + length ≤ data.length

end AIUnblock
