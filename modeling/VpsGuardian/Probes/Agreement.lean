import VpsGuardian.Probes.Policy

/-!
Where the two network policies give the same answer.

For every kind of address both answers are written with what the lists contain
and what the two refuse by default. The condition says which of these parts make
up for a difference in the others.
-/

namespace VpsGuardian.Probes

open Lib

def isAlwaysDenied (ip : BitVec 32) : Bool := alwaysDeniedAddresses.contains ip

/-- The condition for an IPv4 address. -/
def SameVerdict4 (policy : NetworkPolicy) (ip : BitVec 32) : Prop :=
  isAlwaysDenied ip ∨ inV4 policy.denied ip ∨
    if inMapped policy.denied ip then
      if policy.allowed = [] then agentDenies (.v4 ip) ∨ isSpecial4 ip
      else ¬inV4 policy.allowed ip
    else if policy.allowed = [] then ¬isSpecial4 ip
    else inV4 policy.allowed ip ∨ ¬inMapped policy.allowed ip

/-- The condition for an IPv6 address that is not mapped. -/
def SameVerdict6 (policy : NetworkPolicy) (ip : BitVec 128) : Prop :=
  inV6 policy.denied ip ∨ policy.allowed ≠ [] ∨ ¬isSpecial6 ip

/-- The condition for the mapped form `ip` of the IPv4 address `ip4`. -/
def SameVerdictMapped (version : Ipaddress.Version) (policy : NetworkPolicy) (ip : BitVec 128)
    (ip4 : BitVec 32) : Prop :=
  inMapped policy.denied ip4 ∨
    if inV6 policy.denied ip then
      -- the Controller refuses
      isAlwaysDenied ip4 ∨ inV4 policy.denied ip4 ∨
        if policy.allowed = [] then agentDenies (.v4 ip4) = true
        else ¬(inV4 policy.allowed ip4 ∨ inMapped policy.allowed ip4)
    else if isAlwaysDenied ip4 ∨ inV4 policy.denied ip4 then
      -- the Agent refuses
      if policy.allowed = [] then
        version = .python312 ∨ agentDenies (.v4 ip4) ∨ isSpecial4 ip4
      else ¬(inV6 policy.allowed ip ∨ inMapped policy.allowed ip4)
    else if policy.allowed = [] then
      match version with
      | .python312 => agentDenies (.v4 ip4) = true
      | .python313 => ¬isSpecial4 ip4
    else inMapped policy.allowed ip4 ∨ inV4 policy.allowed ip4 = inV6 policy.allowed ip

def SameVerdict (version : Ipaddress.Version) (policy : NetworkPolicy) : Address → Prop
  | .v4 ip => SameVerdict4 policy ip
  | .v6 ip =>
      match ipv4Mapped ip with
      | none => SameVerdict6 policy ip
      | some ip4 => SameVerdictMapped version policy ip ip4

theorem controller_v4_verdict (version : Ipaddress.Version) (policy : NetworkPolicy)
    (ip : BitVec 32) :
    addressIsAllowed version (.v4 ip) policy =
      (!isAlwaysDenied ip && !inV4 policy.denied ip &&
        if policy.allowed = [] then !(agentDenies (.v4 ip) || isSpecial4 ip)
        else inV4 policy.allowed ip) := by
  have halways : (Address.v4 ip ∈ alwaysDeniedAddresses.map Address.v4) ↔
      isAlwaysDenied ip = true := by
    simp [isAlwaysDenied]
  unfold addressIsAllowed
  rw [controller_v4, controller_v4, (controllerDenies_v4 version ip).1, if_congr halways rfl rfl]
  cases isAlwaysDenied ip <;> cases inV4 policy.denied ip <;> simp

theorem agent_v4_verdict (policy : NetworkPolicy) (ip : BitVec 32) :
    allowedIP policy (.v4 ip) =
      (!isAlwaysDenied ip && !(inV4 policy.denied ip || inMapped policy.denied ip) &&
        if policy.allowed = [] then !agentDenies (.v4 ip)
        else inV4 policy.allowed ip || inMapped policy.allowed ip) := by
  have halways : alwaysDeniedAddresses.any (Net.equal4 (.v4 ip)) = isAlwaysDenied ip :=
    List.contains_eq_any_beq.symm
  unfold allowedIP
  rw [agent_v4, agent_v4, halways]
  cases isAlwaysDenied ip <;> cases (inV4 policy.denied ip || inMapped policy.denied ip) <;>
    simp [List.length_pos_iff]

theorem sameVerdict4_iff (version : Ipaddress.Version) (policy : NetworkPolicy) (ip : BitVec 32) :
    addressIsAllowed version (.v4 ip) policy = allowedIP policy (.v4 ip) ↔
      SameVerdict4 policy ip := by
  have hdisjoint := (controllerDenies_v4 version ip).2
  rw [controller_v4_verdict, agent_v4_verdict, SameVerdict4]
  generalize isAlwaysDenied ip = always
  generalize inV4 policy.denied ip = denied
  generalize inMapped policy.denied ip = deniedMapped
  generalize inV4 policy.allowed ip = allowed
  generalize inMapped policy.allowed ip = allowedMapped
  generalize agentDenies (.v4 ip) = agent at *
  generalize isSpecial4 ip = special at *
  by_cases hempty : policy.allowed = []
  · simp only [hempty, if_true]
    revert always denied deniedMapped agent special
    decide
  · simp only [hempty, if_false]
    revert always denied deniedMapped allowed allowedMapped
    decide

theorem sameVerdict6_iff (version : Ipaddress.Version) (policy : NetworkPolicy)
    {ip : BitVec 128} (hplain : ipv4Mapped ip = none) :
    addressIsAllowed version (.v6 ip) policy = allowedIP policy (.v6 ip) ↔
      SameVerdict6 policy ip := by
  have hagent : alwaysDeniedAddresses.any (Net.equal4 (.v6 ip)) = false := by
    have hto4 : Net.to4 (.v6 ip) = none := hplain
    simp [Net.equal4, hto4]
  obtain ⟨hdenies, hdisjoint⟩ := controllerDenies_v6 version hplain
  unfold addressIsAllowed allowedIP SameVerdict6
  rw [controller_v6 hplain, controller_v6 hplain, agent_v6 hplain, agent_v6 hplain, hagent, hdenies,
    if_neg (by simp)]
  clear hdenies
  generalize inV6 policy.denied ip = denied
  generalize inV6 policy.allowed ip = allowed
  generalize agentDenies (.v6 ip) = agent at *
  generalize isSpecial6 ip = special at *
  by_cases hempty : policy.allowed = []
  · simp only [hempty, List.length_nil]
    revert denied allowed agent special
    decide
  · have hpos := List.length_pos_iff.mpr hempty
    simp only [hempty, hpos, if_true, ne_eq, not_false_eq_true]
    clear hdisjoint
    revert denied allowed special
    decide

/-- Of the mapped addresses the Controller refuses all, as reserved, up to Python 3.12. -/
theorem controllerDenies_mapped (version : Ipaddress.Version) {ip : BitVec 128} {ip4 : BitVec 32}
    (hmapped : ipv4Mapped ip = some ip4) :
    controllerDenies version (.v6 ip) =
      (version == .python312 || controllerDenies version (.v4 ip4)) := by
  cases version with
  | python312 =>
    have hreserved : Block.anyContains Ipaddress.reservedNetworks6 ip.toNat = true := by
      have hnumber := toNat_of_ipv4Mapped hmapped
      have hlt := ip4.isLt
      have hfirst : (Block.mk (w := 128) 0x00000000000000000000000000000000 8).contains ip.toNat =
          true := by
        rw [Block.contains_iff]
        simp only [Block.limit]
        rw [mappedPrefix] at hnumber
        omega
      simp only [Ipaddress.reservedNetworks6, Block.anyContains_cons, hfirst, Bool.true_or]
    simp [controllerDenies, Ipaddress.isReserved, Ipaddress.ofMapped, hreserved]
  | python313 =>
    simp [controllerDenies, Ipaddress.isPrivate, Ipaddress.isLoopback, Ipaddress.isLinkLocal,
      Ipaddress.isMulticast, Ipaddress.isReserved, Ipaddress.isUnspecified, Ipaddress.ofMapped,
      hmapped]

theorem sameVerdictMapped_iff (version : Ipaddress.Version) (policy : NetworkPolicy)
    {ip : BitVec 128} {ip4 : BitVec 32} (hmapped : ipv4Mapped ip = some ip4) :
    addressIsAllowed version (.v6 ip) policy = allowedIP policy (.v6 ip) ↔
      SameVerdictMapped version policy ip ip4 := by
  obtain ⟨hdenies, hdisjoint⟩ := controllerDenies_v4 version ip4
  rw [agent_mapped hmapped, agent_v4_verdict]
  unfold addressIsAllowed SameVerdictMapped
  rw [controller_mapped hmapped, controller_mapped hmapped, controllerDenies_mapped version hmapped,
    hdenies, if_neg (by simp)]
  clear hdenies
  generalize isAlwaysDenied ip4 = always
  generalize inV4 policy.denied ip4 = denied4
  generalize inV6 policy.denied ip = denied6
  generalize inMapped policy.denied ip4 = deniedMapped
  generalize inV4 policy.allowed ip4 = allowed4
  generalize inV6 policy.allowed ip = allowed6
  generalize inMapped policy.allowed ip4 = allowedMapped
  generalize agentDenies (.v4 ip4) = agent at *
  generalize isSpecial4 ip4 = special at *
  by_cases hempty : policy.allowed = []
  · cases version
    · simp only [hempty, ne_eq, not_true_eq_false, if_false, if_true]
      revert always denied4 denied6 deniedMapped agent special
      decide
    · simp only [hempty, ne_eq, not_true_eq_false, if_false, if_true]
      revert always denied4 denied6 deniedMapped agent special
      decide
  · simp only [hempty, ne_eq, not_false_eq_true, if_false, if_true]
    clear hdisjoint
    cases deniedMapped with
    | true => simp
    | false =>
      cases denied6 <;> revert always denied4 allowed4 allowed6 allowedMapped <;> decide

end VpsGuardian.Probes
