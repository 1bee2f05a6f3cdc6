import VpsGuardian.Lib.Block

/-!
Addresses and networks as the two languages see them: Python's `ipaddress`,
which the Controller's probes use, and Go's `net`, which the Agent's checks use.

Python keeps an IPv4-mapped IPv6 address in its own family. Go treats it as the
IPv4 address, and a network of mapped addresses as the IPv4 network.
-/

namespace VpsGuardian.Probes

open Lib

inductive Address where
  | v4 (ip : BitVec 32)
  | v6 (ip : BitVec 128)
  deriving DecidableEq

inductive Network where
  | v4 (block : Block 32)
  | v6 (block : Block 128)
  deriving DecidableEq

/-- The prefix of the IPv4-mapped addresses, `::ffff:0:0/96`. -/
def mappedPrefix : Nat := 0xFFFF

/-- The IPv4 address in an IPv4-mapped IPv6 address. -/
def ipv4Mapped (ip : BitVec 128) : Option (BitVec 32) :=
  if ip.toNat >>> 32 = mappedPrefix then some (ip.setWidth 32) else none

/-! ### Python's `ipaddress` -/

namespace Ipaddress

/-- The versions that differ here: since 3.13 every property of a mapped address
is that of the IPv4 address, before that only `is_private` is. -/
inductive Version where
  | python312
  | python313
  deriving DecidableEq, Repr

/-- `address in network`. -/
def contains : Network → Address → Bool
  | .v4 block, .v4 ip => block.contains ip.toNat
  | .v6 block, .v6 ip => block.contains ip.toNat
  | _, _ => false

def privateNetworks4 : List (Block 32) := [
  .mk 0x00000000 8, .mk 0x0A000000 8, .mk 0x7F000000 8, .mk 0xA9FE0000 16, .mk 0xAC100000 12,
  .mk 0xC0000000 24, .mk 0xC00000AA 31, .mk 0xC0000200 24, .mk 0xC0A80000 16, .mk 0xC6120000 15,
  .mk 0xC6336400 24, .mk 0xCB007100 24, .mk 0xF0000000 4, .mk 0xFFFFFFFF 32]

def privateNetworksExceptions4 : List (Block 32) := [.mk 0xC0000009 32, .mk 0xC000000A 32]

def privateNetworks6 : List (Block 128) := [
  .mk 0x00000000000000000000000000000001 128, .mk 0x00000000000000000000000000000000 128,
  .mk 0x00000000000000000000FFFF00000000 96, .mk 0x0064FF9B000100000000000000000000 48,
  .mk 0x01000000000000000000000000000000 64, .mk 0x20010000000000000000000000000000 23,
  .mk 0x20010DB8000000000000000000000000 32, .mk 0x20020000000000000000000000000000 16,
  .mk 0xFC000000000000000000000000000000 7, .mk 0xFE800000000000000000000000000000 10]

def privateNetworksExceptions6 : List (Block 128) := [
  .mk 0x20010001000000000000000000000001 128, .mk 0x20010001000000000000000000000002 128,
  .mk 0x20010003000000000000000000000000 32, .mk 0x20010004011200000000000000000000 48,
  .mk 0x20010020000000000000000000000000 28, .mk 0x20010030000000000000000000000000 28]

def reservedNetworks6 : List (Block 128) := [
  .mk 0x00000000000000000000000000000000 8, .mk 0x01000000000000000000000000000000 8,
  .mk 0x02000000000000000000000000000000 7, .mk 0x04000000000000000000000000000000 6,
  .mk 0x08000000000000000000000000000000 5, .mk 0x10000000000000000000000000000000 4,
  .mk 0x40000000000000000000000000000000 3, .mk 0x60000000000000000000000000000000 3,
  .mk 0x80000000000000000000000000000000 3, .mk 0xA0000000000000000000000000000000 3,
  .mk 0xC0000000000000000000000000000000 3, .mk 0xE0000000000000000000000000000000 4,
  .mk 0xF0000000000000000000000000000000 5, .mk 0xF8000000000000000000000000000000 6,
  .mk 0xFE000000000000000000000000000000 9]

def isPrivate4 (ip : BitVec 32) : Bool :=
  Block.anyContains privateNetworks4 ip.toNat &&
    !Block.anyContains privateNetworksExceptions4 ip.toNat

def isLoopback4 (ip : BitVec 32) : Bool := (Block.mk (w := 32) 0x7F000000 8).contains ip.toNat

def isLinkLocal4 (ip : BitVec 32) : Bool := (Block.mk (w := 32) 0xA9FE0000 16).contains ip.toNat

def isMulticast4 (ip : BitVec 32) : Bool := (Block.mk (w := 32) 0xE0000000 4).contains ip.toNat

def isReserved4 (ip : BitVec 32) : Bool := (Block.mk (w := 32) 0xF0000000 4).contains ip.toNat

def isUnspecified4 (ip : BitVec 32) : Bool := ip == 0

/-- A property that the mapped address has in its own right, or takes from the IPv4 address. -/
def ofMapped (version : Version) (own : BitVec 128 → Bool) (mapped : BitVec 32 → Bool)
    (ip : BitVec 128) : Bool :=
  match version, ipv4Mapped ip with
  | .python313, some ip4 => mapped ip4
  | _, _ => own ip

def isPrivate : Address → Bool
  | .v4 ip => isPrivate4 ip
  | .v6 ip =>
      match ipv4Mapped ip with
      | some ip4 => isPrivate4 ip4
      | none => Block.anyContains privateNetworks6 ip.toNat &&
          !Block.anyContains privateNetworksExceptions6 ip.toNat

def isLoopback (version : Version) : Address → Bool
  | .v4 ip => isLoopback4 ip
  | .v6 ip => ofMapped version (· == 1) isLoopback4 ip

def isLinkLocal (version : Version) : Address → Bool
  | .v4 ip => isLinkLocal4 ip
  | .v6 ip => ofMapped version
      (fun ip => (Block.mk (w := 128) 0xFE800000000000000000000000000000 10).contains ip.toNat)
      isLinkLocal4 ip

def isMulticast (version : Version) : Address → Bool
  | .v4 ip => isMulticast4 ip
  | .v6 ip => ofMapped version
      (fun ip => (Block.mk (w := 128) 0xFF000000000000000000000000000000 8).contains ip.toNat)
      isMulticast4 ip

def isReserved (version : Version) : Address → Bool
  | .v4 ip => isReserved4 ip
  | .v6 ip => ofMapped version (fun ip => Block.anyContains reservedNetworks6 ip.toNat)
      isReserved4 ip

def isUnspecified (version : Version) : Address → Bool
  | .v4 ip => isUnspecified4 ip
  | .v6 ip => ofMapped version (· == 0) isUnspecified4 ip

end Ipaddress

/-! ### Go's `net` -/

namespace Net

/-- `IP.To4`. -/
def to4 : Address → Option (BitVec 32)
  | .v4 ip => some ip
  | .v6 ip => ipv4Mapped ip

/-- `IP.Equal` with an IPv4 address. -/
def equal4 (ip : Address) (ip4 : BitVec 32) : Bool := to4 ip == some ip4

/-- A block of IPv6 addresses whose first address is mapped, as an IPv4 block. -/
def mappedBlock (block : Block 128) : Block 32 where
  base := block.base % 2 ^ 32
  prefixlen := block.prefixlen - 96
  prefixlen_le := by
    have := block.prefixlen_le
    omega
  base_lt := Nat.mod_lt _ (by decide)
  masked := by
    have hle : 32 - (block.prefixlen - 96) ≤ 128 - block.prefixlen := by
      have := block.prefixlen_le
      omega
    have hbase : 2 ^ (32 - (block.prefixlen - 96)) ∣ block.base :=
      (Nat.pow_dvd_pow 2 hle).trans (Nat.dvd_of_mod_eq_zero block.masked)
    exact Nat.mod_eq_zero_of_dvd
      ((Nat.dvd_mod_iff (Nat.pow_dvd_pow 2 (Nat.sub_le 32 _))).mpr hbase)

/-- The number and the mask of a network, those of the IPv4 network for a mapped one. -/
def networkNumberAndMask : Network → Network
  | .v4 block => .v4 block
  | .v6 block =>
      if block.base >>> 32 = mappedPrefix then .v4 (mappedBlock block) else .v6 block

/-- A test of the four bytes of an address, or of the sixteen of one that has no four. -/
def test (ip : Address) (four : BitVec 32 → Bool) (sixteen : BitVec 128 → Bool) : Bool :=
  match to4 ip, ip with
  | some ip4, _ => four ip4
  | none, .v6 ip6 => sixteen ip6
  | none, .v4 _ => false

/-- `IPNet.Contains`. -/
def contains (network : Network) (ip : Address) : Bool :=
  match networkNumberAndMask network with
  | .v4 block => test ip (fun ip4 => block.contains ip4.toNat) fun _ => false
  | .v6 block => test ip (fun _ => false) fun ip6 => block.contains ip6.toNat

def isPrivate (ip : Address) : Bool :=
  test ip
    (fun ip4 => Block.anyContains [.mk (w := 32) 0x0A000000 8, .mk 0xAC100000 12, .mk 0xC0A80000 16]
      ip4.toNat)
    fun ip6 => (Block.mk (w := 128) 0xFC000000000000000000000000000000 7).contains ip6.toNat

def isLoopback (ip : Address) : Bool :=
  test ip (fun ip4 => (Block.mk (w := 32) 0x7F000000 8).contains ip4.toNat) (· == 1)

def isLinkLocalUnicast (ip : Address) : Bool :=
  test ip (fun ip4 => (Block.mk (w := 32) 0xA9FE0000 16).contains ip4.toNat)
    fun ip6 => (Block.mk (w := 128) 0xFE800000000000000000000000000000 10).contains ip6.toNat

/-- For sixteen bytes, the first is `0xff` and the second ends in `2`. -/
def isLinkLocalMulticast (ip : Address) : Bool :=
  test ip (fun ip4 => (Block.mk (w := 32) 0xE0000000 24).contains ip4.toNat)
    fun ip6 => ip6.toNat >>> 120 == 0xFF && ip6.toNat >>> 112 % 16 == 2

def isMulticast (ip : Address) : Bool :=
  test ip (fun ip4 => (Block.mk (w := 32) 0xE0000000 4).contains ip4.toNat)
    fun ip6 => (Block.mk (w := 128) 0xFF000000000000000000000000000000 8).contains ip6.toNat

def isUnspecified (ip : Address) : Bool := test ip (· == 0) (· == 0)

end Net

/-! ### The private networks of `ipaddress` that `net` does not know -/

/-- Up to the exceptions. -/
def specialNetworks4 : List (Block 32) := [
  .mk 0x00000000 8, .mk 0xC0000000 24, .mk 0xC0000200 24, .mk 0xC6120000 15, .mk 0xC6336400 24,
  .mk 0xCB007100 24, .mk 0xF0000000 4]

def specialNetworks6 : List (Block 128) := [
  .mk 0x20010000000000000000000000000000 23, .mk 0x20010DB8000000000000000000000000 32,
  .mk 0x20020000000000000000000000000000 16]

/-! ### Mapped addresses and blocks -/

theorem toNat_of_ipv4Mapped {ip : BitVec 128} {ip4 : BitVec 32} (h : ipv4Mapped ip = some ip4) :
    ip.toNat = mappedPrefix * 2 ^ 32 + ip4.toNat := by
  unfold ipv4Mapped at h
  split_ifs at h with hprefix
  rw [← Option.some.inj h, BitVec.toNat_setWidth, ← hprefix, Nat.shiftRight_eq_div_pow]
  exact (Nat.div_add_mod' _ _).symm

/-- A mapped block has a prefix that covers the prefix of the mapped addresses. -/
theorem le_prefixlen_of_mapped {block : Block 128} (h : block.base >>> 32 = mappedPrefix) :
    96 ≤ block.prefixlen := by
  by_contra hlt
  have hdvd : 2 ^ 33 ∣ block.base :=
    (Nat.pow_dvd_pow 2 (by omega)).trans (Nat.dvd_of_mod_eq_zero block.masked)
  rw [Nat.shiftRight_eq_div_pow, mappedPrefix] at h
  omega

/-- A mapped block contains the mapped addresses of the IPv4 block, and no other. -/
theorem contains_of_mapped {block : Block 128} (h : block.base >>> 32 = mappedPrefix)
    (ip : BitVec 128) :
    block.contains ip.toNat = true ↔
      ∃ ip4, ipv4Mapped ip = some ip4 ∧ (Net.mappedBlock block).contains ip4.toNat = true := by
  have hlength := le_prefixlen_of_mapped h
  have hbase : block.base = mappedPrefix * 2 ^ 32 + (Net.mappedBlock block).base := by
    rw [← h, Nat.shiftRight_eq_div_pow]
    exact (Nat.div_add_mod' _ _).symm
  have hlimit : block.limit = mappedPrefix * 2 ^ 32 + (Net.mappedBlock block).limit := by
    have hwidth : 32 - (block.prefixlen - 96) = 128 - block.prefixlen := by
      have := block.prefixlen_le
      omega
    unfold Block.limit
    rw [hbase, Nat.add_assoc]
    show _ = _ + (_ + 2 ^ (32 - (block.prefixlen - 96)))
    rw [hwidth]
  have hinside := (Net.mappedBlock block).limit_le
  constructor
  · intro hcontains
    obtain ⟨hle, hlt⟩ := Block.contains_iff.mp hcontains
    have hprefix : ip.toNat >>> 32 = mappedPrefix := by
      rw [Nat.shiftRight_eq_div_pow]
      unfold mappedPrefix at *
      omega
    have hmapped : ipv4Mapped ip = some (ip.setWidth 32) := if_pos hprefix
    have hnumber := toNat_of_ipv4Mapped hmapped
    exact ⟨_, hmapped, Block.contains_iff.mpr ⟨by omega, by omega⟩⟩
  · rintro ⟨ip4, hmapped, hcontains⟩
    obtain ⟨hle, hlt⟩ := Block.contains_iff.mp hcontains
    have hnumber := toNat_of_ipv4Mapped hmapped
    exact Block.contains_iff.mpr ⟨by omega, by omega⟩

end VpsGuardian.Probes
