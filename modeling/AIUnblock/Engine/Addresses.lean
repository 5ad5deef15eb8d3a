import AIUnblock.Kotlin.Network

/-! # Addresses of the native engine

`HevSocks5Addr` is a packed union that goes onto the wire as it lies in memory.
Ports stay in network byte order until they are shown to lwIP.
-/

namespace AIUnblock

/-- A `uint16_t` in network byte order: its two bytes in memory. -/
structure NetPort where
  high : UInt8
  low : UInt8
  deriving DecidableEq, Repr

def htons (port : Nat) : NetPort := ⟨UInt8.ofNat (port >>> 8), UInt8.ofNat port⟩

def ntohs (port : NetPort) : Nat := (port.high.toNat <<< 8) ||| port.low.toNat

def NetPort.bytes (port : NetPort) : Bytes := [port.high, port.low]

theorem htons_ntohs (port : NetPort) : htons (ntohs port) = port := by
  obtain ⟨high, low⟩ := port
  have hhigh := high.toNat_lt
  have hlow := low.toNat_lt
  rw [ntohs, shiftLeft_or_toNat, htons, Nat.shiftRight_eq_div_pow, NetPort.mk.injEq]
  simp only [LengthPrefixed.bigEndian, List.foldl_cons, List.foldl_nil]
  constructor
  · rw [← UInt8.toNat_inj, UInt8.toNat_ofNat']
    omega
  · rw [← UInt8.toNat_inj, UInt8.toNat_ofNat']
    omega

abbrev Octets4 : Type := { bytes : Bytes // bytes.length = 4 }
abbrev Octets16 : Type := { bytes : Bytes // bytes.length = 16 }

/-- `HevSocks5Addr`. The name has its length in one byte. -/
inductive HevSocks5Addr
  | ipv4 (addr : Octets4) (port : NetPort)
  | ipv6 (addr : Octets16) (port : NetPort)
  | domain (addr : { name : Bytes // name.length < 256 }) (port : NetPort)
  deriving DecidableEq

namespace HevSocks5Addr

def HEV_SOCKS5_ADDR_TYPE_IPV4 : UInt8 := 1
def HEV_SOCKS5_ADDR_TYPE_NAME : UInt8 := 3
def HEV_SOCKS5_ADDR_TYPE_IPV6 : UInt8 := 4

def atype : HevSocks5Addr → UInt8
  | .ipv4 _ _ => HEV_SOCKS5_ADDR_TYPE_IPV4
  | .ipv6 _ _ => HEV_SOCKS5_ADDR_TYPE_IPV6
  | .domain _ _ => HEV_SOCKS5_ADDR_TYPE_NAME

/-- What lies between the type and the port. -/
def content : HevSocks5Addr → Bytes
  | .ipv4 addr _ => addr.1
  | .ipv6 addr _ => addr.1
  | .domain addr _ => UInt8.ofNat addr.1.length :: addr.1

/-- `hev_socks5_addr_get_port`. -/
def getPort : HevSocks5Addr → NetPort
  | .ipv4 _ port => port
  | .ipv6 _ port => port
  | .domain _ port => port

/-- The bytes of the address in memory, as many as `hev_socks5_addr_len` counts. -/
def bytes (addr : HevSocks5Addr) : Bytes := [addr.atype] ++ addr.content ++ addr.getPort.bytes

/-- `hev_socks5_addr_len`. -/
def len : HevSocks5Addr → Nat
  | .ipv4 _ _ => 7
  | .ipv6 _ _ => 19
  | .domain addr _ => 4 + addr.1.length

/-- The address that a Java program reads from these octets, or finds for this name. -/
def inetAddress (getByName : Text → Except Exception InetAddress) :
    HevSocks5Addr → Except Exception InetAddress
  | .ipv4 addr _ => .ok (.inet4 addr)
  | .ipv6 addr _ => InetAddress.getByAddress addr.1
  | .domain name _ => getByName (decodeUsAscii name.1)

end HevSocks5Addr

/-- The address of a socket of the relay, as the engine reads it. -/
def HevSocks5Addr.ofSocketAddress (address : InetSocketAddress) : HevSocks5Addr :=
  match address.address with
  | .inet4 octets => .ipv4 octets (htons address.port)
  | .inet6 octets => .ipv6 octets (htons address.port)

/-- What the engine fills in of a `struct sockaddr_in6`. -/
structure SockaddrIn6 where
  addr : Octets16
  port : NetPort
  deriving DecidableEq

/-- `::ffff:` in front of an IPv4 address. -/
def mapped (addr : Octets4) : Octets16 :=
  ⟨InetAddress.mappedPrefix ++ addr.1, by simp [InetAddress.mappedPrefix, addr.2]⟩

/-- What the engine asks the C library about names. -/
structure Resolver where
  /-- `inet_pton (AF_INET, ..)`. -/
  pton4 : Bytes → Option Octets4
  /-- `inet_pton (AF_INET6, ..)`. -/
  pton6 : Bytes → Option Octets16
  /-- `hev_task_dns_getaddrinfo`, its first result. -/
  getaddrinfo : Bytes → Option (Octets4 ⊕ Octets16)

/-- `hev_socks5_name_into_sockaddr6`. -/
def nameIntoSockaddr6 (resolver : Resolver) (name : Bytes) (port : Nat) : Option SockaddrIn6 :=
  match resolver.pton4 name with
  | some addr => some ⟨mapped addr, htons port⟩
  | none =>
    match resolver.pton6 name with
    | some addr => some ⟨addr, htons port⟩
    | none =>
      match resolver.getaddrinfo name with
      | some (.inl addr) => some ⟨mapped addr, htons port⟩
      | some (.inr addr) => some ⟨addr, htons port⟩
      | none => none

/-- `hev_socks5_addr_into_sockaddr6`. -/
def HevSocks5Addr.intoSockaddr6 (resolver : Resolver) : HevSocks5Addr → Option SockaddrIn6
  | .ipv4 addr port => some ⟨mapped addr, port⟩
  | .ipv6 addr port => some ⟨addr, port⟩
  | .domain name port => nameIntoSockaddr6 resolver name.1 (ntohs port)

/-- An address as lwIP holds it. -/
inductive IpAddr
  | v4 (addr : Octets4)
  | v6 (addr : Octets16)
  deriving DecidableEq

/-- `hev_socks5_addr_from_lwip`; `lookup` is `hev_mapped_dns_lookup`, when there is one. -/
def HevSocks5Addr.fromLwip (lookup : Octets4 → Option { name : Bytes // name.length < 256 }) :
    IpAddr → Nat → HevSocks5Addr
  | .v4 addr, port =>
    match lookup addr with
    | some name => .domain name (htons port)
    | none => .ipv4 addr (htons port)
  | .v6 addr, port => .ipv6 addr (htons port)

/-- `hev_socks5_addr_into_lwip`. -/
def HevSocks5Addr.intoLwip : HevSocks5Addr → Option (IpAddr × Nat)
  | .ipv4 addr port => some (.v4 addr, ntohs port)
  | .ipv6 addr port => some (.v6 addr, ntohs port)
  | .domain _ _ => none

end AIUnblock
