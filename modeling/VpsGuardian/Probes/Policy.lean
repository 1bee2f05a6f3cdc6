import VpsGuardian.Probes.Addresses

/-!
The network policy of a probe, as the Controller applies it
(`guardian/probes.py`) and as the Agent does (`agent/remote_checks.go`).

The two differ in what they refuse without an allow list, where the Agent lets
through some ranges that are not for public use, and in mapped addresses and
networks, which only the Agent takes for IPv4.
-/

namespace VpsGuardian.Probes

open Lib

/-- The networks of a check, as both sides parse them. -/
structure NetworkPolicy where
  allowed : List Network
  denied : List Network

/-- What the Controller refuses where there is no allow list. -/
def controllerDenies (version : Ipaddress.Version) (address : Address) : Bool :=
  Ipaddress.isPrivate address || Ipaddress.isLoopback version address ||
    Ipaddress.isLinkLocal version address || Ipaddress.isMulticast version address ||
      Ipaddress.isReserved version address || Ipaddress.isUnspecified version address

/-- What the Agent refuses there. -/
def agentDenies (ip : Address) : Bool :=
  Net.isPrivate ip || Net.isLoopback ip || Net.isLinkLocalUnicast ip ||
    Net.isLinkLocalMulticast ip || Net.isMulticast ip || Net.isUnspecified ip

def alwaysDeniedAddresses : List (BitVec 32) := [0xA9FEA9FE, 0x646464C8]

/-- `_address_is_allowed`. -/
def addressIsAllowed (version : Ipaddress.Version) (address : Address)
    (definition : NetworkPolicy) : Bool :=
  if address ∈ alwaysDeniedAddresses.map Address.v4 then false
  else if definition.denied.any (Ipaddress.contains · address) then false
  else if definition.allowed ≠ [] then definition.allowed.any (Ipaddress.contains · address)
  else !controllerDenies version address

/-- `remoteNetworkPolicy.allowedIP`. -/
def allowedIP (policy : NetworkPolicy) (ip : Address) : Bool :=
  if alwaysDeniedAddresses.any (Net.equal4 ip) then false
  else if policy.denied.any (Net.contains · ip) then false
  else if 0 < policy.allowed.length then policy.allowed.any (Net.contains · ip)
  else !agentDenies ip

/-! ### What the two see in a list of networks -/

/-- An IPv4 network of the list contains the address. -/
def inV4 (networks : List Network) (ip : BitVec 32) : Bool :=
  networks.any fun
    | .v4 block => block.contains ip.toNat
    | .v6 _ => false

/-- A network of mapped addresses contains the mapped form of the address. -/
def inMapped (networks : List Network) (ip : BitVec 32) : Bool :=
  networks.any fun
    | .v4 _ => false
    | .v6 block => block.base >>> 32 == mappedPrefix && (Net.mappedBlock block).contains ip.toNat

/-- Any other IPv6 network contains the address. -/
def inV6 (networks : List Network) (ip : BitVec 128) : Bool :=
  networks.any fun
    | .v4 _ => false
    | .v6 block => block.base >>> 32 != mappedPrefix && block.contains ip.toNat

theorem any_or {α : Type} (p q : α → Bool) (items : List α) :
    items.any (fun a => p a || q a) = (items.any p || items.any q) := by
  induction items with
  | nil => rfl
  | cons a items ih => simp [ih, Bool.or_assoc, Bool.or_left_comm]

theorem controller_v4 (networks : List Network) (ip : BitVec 32) :
    networks.any (Ipaddress.contains · (.v4 ip)) = inV4 networks ip := by
  refine congrArg networks.any (funext fun network => ?_)
  cases network <;> rfl

theorem agent_v4 (networks : List Network) (ip : BitVec 32) :
    networks.any (Net.contains · (.v4 ip)) = (inV4 networks ip || inMapped networks ip) := by
  unfold inV4 inMapped
  rw [← any_or]
  refine congrArg networks.any (funext fun network => ?_)
  cases network with
  | v4 block => simp [Net.contains, Net.networkNumberAndMask, Net.test, Net.to4]
  | v6 block =>
    by_cases hbase : block.base >>> 32 = mappedPrefix <;>
      simp [Net.contains, Net.networkNumberAndMask, Net.test, Net.to4, hbase]

section Mapped

variable {ip : BitVec 128} {ip4 : BitVec 32} (hmapped : ipv4Mapped ip = some ip4)
include hmapped

theorem controller_mapped (networks : List Network) :
    networks.any (Ipaddress.contains · (.v6 ip)) = (inMapped networks ip4 || inV6 networks ip) := by
  unfold inMapped inV6
  rw [← any_or]
  refine congrArg networks.any (funext fun network => ?_)
  cases network with
  | v4 block => rfl
  | v6 block =>
    by_cases hbase : block.base >>> 32 = mappedPrefix
    · have hcontains := contains_of_mapped hbase ip
      simp only [hmapped, Option.some.injEq, exists_eq_left'] at hcontains
      have hsame := Bool.eq_iff_iff.mpr hcontains
      simp [Ipaddress.contains, hbase, hsame]
    · have hother : (block.base >>> 32 == mappedPrefix) = false := beq_eq_false_iff_ne.mpr hbase
      simp [Ipaddress.contains, bne, hother]

/-- To the Agent the mapped address is the IPv4 address. -/
theorem agent_mapped (policy : NetworkPolicy) :
    allowedIP policy (.v6 ip) = allowedIP policy (.v4 ip4) := by
  have hto4 : Net.to4 (.v6 ip) = some ip4 := hmapped
  have htest (four : BitVec 32 → Bool) (sixteen : BitVec 128 → Bool) :
      Net.test (.v6 ip) four sixteen = Net.test (.v4 ip4) four sixteen := by
    unfold Net.test
    rw [hto4]
    rfl
  have hcontains (network : Network) :
      Net.contains network (.v6 ip) = Net.contains network (.v4 ip4) := by
    unfold Net.contains
    split <;> exact htest _ _
  have hequal : Net.equal4 (.v6 ip) = Net.equal4 (.v4 ip4) := by
    funext other
    unfold Net.equal4
    rw [hto4]
    rfl
  unfold allowedIP agentDenies Net.isPrivate Net.isLoopback Net.isLinkLocalUnicast
    Net.isLinkLocalMulticast Net.isMulticast Net.isUnspecified
  simp only [htest, hcontains, hequal]

end Mapped

section Plain

variable {ip : BitVec 128} (hplain : ipv4Mapped ip = none)
include hplain

theorem controller_v6 (networks : List Network) :
    networks.any (Ipaddress.contains · (.v6 ip)) = inV6 networks ip := by
  refine congrArg networks.any (funext fun network => ?_)
  cases network with
  | v4 block => rfl
  | v6 block =>
    by_cases hbase : block.base >>> 32 = mappedPrefix
    · have hcontains := contains_of_mapped hbase ip
      simp [hplain] at hcontains
      simp [Ipaddress.contains, hbase, hcontains]
    · simp [Ipaddress.contains, hbase]

theorem agent_v6 (networks : List Network) :
    networks.any (Net.contains · (.v6 ip)) = inV6 networks ip := by
  refine congrArg networks.any (funext fun network => ?_)
  cases network with
  | v4 block => simp [Net.contains, Net.networkNumberAndMask, Net.test, Net.to4, hplain]
  | v6 block =>
    by_cases hbase : block.base >>> 32 = mappedPrefix <;>
      simp [Net.contains, Net.networkNumberAndMask, Net.test, Net.to4, hplain, hbase]

end Plain

/-! ### What the two refuse by default -/

/-- `0.0.0.0/8` but for `0.0.0.0`, `192.0.0.0/24` but for `192.0.0.9` and `192.0.0.10`,
the documentation and benchmarking blocks, and `240.0.0.0/4`. -/
def isSpecial4 (ip : BitVec 32) : Bool :=
  Block.anyContains specialNetworks4 ip.toNat && ip != 0 &&
    !Block.anyContains Ipaddress.privateNetworksExceptions4 ip.toNat

/-- The reserved blocks but for `::` and `::1`, and `2001::/23` but for the exceptions,
`2001:db8::/32` and `2002::/16`. -/
def isSpecial6 (ip : BitVec 128) : Bool :=
  Block.anyContains Ipaddress.reservedNetworks6 ip.toNat && ip != 0 && ip != 1 ||
    Block.anyContains specialNetworks6 ip.toNat &&
      !Block.anyContains Ipaddress.privateNetworksExceptions6 ip.toNat

theorem beq_ofNat {w n : Nat} (ip : BitVec w) (h : n < 2 ^ w) :
    (ip == BitVec.ofNat w n) = (ip.toNat == n) := by
  rw [Bool.eq_iff_iff, beq_iff_eq, beq_iff_eq, ← BitVec.toNat_inj, BitVec.toNat_ofNat,
    Nat.mod_eq_of_lt h]

/-- For an IPv4 address the Controller refuses what the Agent does, and the special blocks. -/
theorem controllerDenies_v4 (version : Ipaddress.Version) (ip : BitVec 32) :
    controllerDenies version (.v4 ip) = (agentDenies (.v4 ip) || isSpecial4 ip) ∧
      (isSpecial4 ip = true → agentDenies (.v4 ip) = false) := by
  have hzero : (ip == 0) = (ip.toNat == 0) := beq_ofNat ip (by decide)
  simp only [controllerDenies, agentDenies, Ipaddress.isPrivate, Ipaddress.isPrivate4,
    Ipaddress.isLoopback, Ipaddress.isLoopback4, Ipaddress.isLinkLocal, Ipaddress.isLinkLocal4,
    Ipaddress.isMulticast, Ipaddress.isMulticast4, Ipaddress.isReserved, Ipaddress.isReserved4,
    Ipaddress.isUnspecified, Ipaddress.isUnspecified4, Net.isPrivate, Net.isLoopback,
    Net.isLinkLocalUnicast, Net.isLinkLocalMulticast, Net.isMulticast, Net.isUnspecified,
    Net.test, Net.to4, isSpecial4, Ipaddress.privateNetworks4,
    Ipaddress.privateNetworksExceptions4, specialNetworks4, Block.anyContains_cons,
    Block.anyContains_nil, bne, hzero]
  rw [Bool.eq_iff_iff, ← Bool.not_eq_true]
  simp only [Bool.or_eq_true, Bool.and_eq_true, Bool.not_eq_true', ← Bool.not_eq_true,
    Block.contains_iff, Block.limit, beq_iff_eq, Bool.false_eq_true, or_false]
  omega

theorem ofMapped_plain (version : Ipaddress.Version) (own : BitVec 128 → Bool)
    (mapped : BitVec 32 → Bool) {ip : BitVec 128} (hplain : ipv4Mapped ip = none) :
    Ipaddress.ofMapped version own mapped ip = own ip := by
  unfold Ipaddress.ofMapped
  rw [hplain]
  cases version <;> rfl

/-- An address that is not mapped is private for Python if it is in one of these blocks: the
others are the mapped addresses, and blocks among the reserved ones. -/
theorem isPrivate_v6 {ip : BitVec 128} (hplain : ipv4Mapped ip = none)
    (hreserved : Block.anyContains Ipaddress.reservedNetworks6 ip.toNat = false) :
    Ipaddress.isPrivate (.v6 ip) =
      (Block.anyContains specialNetworks6 ip.toNat &&
          !Block.anyContains Ipaddress.privateNetworksExceptions6 ip.toNat ||
        (Block.mk (w := 128) 0xFC000000000000000000000000000000 7).contains ip.toNat ||
          (Block.mk (w := 128) 0xFE800000000000000000000000000000 10).contains ip.toNat) := by
  simp only [Ipaddress.isPrivate, hplain]
  rw [Bool.eq_iff_iff]
  rw [← Bool.not_eq_true] at hreserved
  simp only [Ipaddress.privateNetworks6, Ipaddress.privateNetworksExceptions6, specialNetworks6,
    Ipaddress.reservedNetworks6, Block.anyContains_cons, Block.anyContains_nil, Bool.or_eq_true,
    Bool.and_eq_true, Bool.not_eq_true', ← Bool.not_eq_true, Block.contains_iff, Block.limit,
    Bool.false_eq_true, or_false] at hreserved ⊢
  omega

/-- The link-local multicast addresses are among the multicast ones. -/
theorem agentDenies_v6 {ip : BitVec 128} (hplain : ipv4Mapped ip = none) :
    agentDenies (.v6 ip) =
      ((Block.mk (w := 128) 0xFC000000000000000000000000000000 7).contains ip.toNat || ip == 1 ||
        (Block.mk (w := 128) 0xFE800000000000000000000000000000 10).contains ip.toNat ||
          (Block.mk (w := 128) 0xFF000000000000000000000000000000 8).contains ip.toNat ||
            ip == 0) := by
  have hmulticast : (ip.toNat >>> 120 == 0xFF && ip.toNat >>> 112 % 16 == 2) = true →
      (Block.mk (w := 128) 0xFF000000000000000000000000000000 8).contains ip.toNat = true := by
    simp only [Bool.and_eq_true, beq_iff_eq, Nat.shiftRight_eq_div_pow, Block.contains_iff,
      Block.limit]
    omega
  simp only [agentDenies, Net.isPrivate, Net.isLoopback, Net.isLinkLocalUnicast,
    Net.isLinkLocalMulticast, Net.isMulticast, Net.isUnspecified, Net.test, Net.to4, hplain]
  generalize (ip.toNat >>> 120 == 0xFF && ip.toNat >>> 112 % 16 == 2) = linkLocalMulticast at *
  generalize (Block.mk (w := 128) 0xFF000000000000000000000000000000 8).contains ip.toNat =
    multicast at *
  cases linkLocalMulticast with
  | true => simp [hmulticast rfl]
  | false => simp

/-- For an IPv6 address that is not mapped the Controller refuses what the Agent does, and the
special blocks. -/
theorem controllerDenies_v6 (version : Ipaddress.Version) {ip : BitVec 128}
    (hplain : ipv4Mapped ip = none) :
    controllerDenies version (.v6 ip) = (agentDenies (.v6 ip) || isSpecial6 ip) ∧
      (isSpecial6 ip = true → agentDenies (.v6 ip) = false) := by
  have hzero : (ip == 0) = (ip.toNat == 0) := beq_ofNat ip (by decide)
  have hone : (ip == 1) = (ip.toNat == 1) := beq_ofNat ip (by decide)
  constructor
  · simp only [controllerDenies, Ipaddress.isLoopback, Ipaddress.isLinkLocal,
      Ipaddress.isMulticast, Ipaddress.isReserved, Ipaddress.isUnspecified,
      ofMapped_plain version _ _ hplain, agentDenies_v6 hplain, isSpecial6, bne]
    generalize (ip == 0) = zero
    generalize (ip == 1) = one
    cases hreserved : Block.anyContains Ipaddress.reservedNetworks6 ip.toNat with
    | true => cases zero <;> cases one <;> simp
    | false =>
      rw [isPrivate_v6 hplain hreserved]
      generalize (Block.anyContains specialNetworks6 ip.toNat &&
        !Block.anyContains Ipaddress.privateNetworksExceptions6 ip.toNat) = special
      generalize (Block.mk (w := 128) 0xFC000000000000000000000000000000 7).contains ip.toNat =
        uniqueLocal
      generalize (Block.mk (w := 128) 0xFE800000000000000000000000000000 10).contains ip.toNat =
        linkLocal
      generalize (Block.mk (w := 128) 0xFF000000000000000000000000000000 8).contains ip.toNat =
        multicast
      revert special uniqueLocal linkLocal multicast zero one
      decide
  · rw [agentDenies_v6 hplain, ← Bool.not_eq_true, hzero, hone]
    simp only [isSpecial6, hzero, hone, bne, Ipaddress.reservedNetworks6, specialNetworks6,
      Block.anyContains_cons, Block.anyContains_nil, Bool.or_eq_true, Bool.and_eq_true,
      Bool.not_eq_true', ← Bool.not_eq_true, beq_iff_eq, Block.contains_iff, Block.limit,
      Bool.false_eq_true, or_false]
    omega

end VpsGuardian.Probes
