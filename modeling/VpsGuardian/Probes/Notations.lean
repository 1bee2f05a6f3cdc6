import VpsGuardian.Probes.Agreement

/-!
Denied addresses in other notations.

To the Controller an IPv4-mapped address is not the IPv4 address in it, so what a
definition denies of IPv4 has to be denied of the mapped addresses too.
-/

namespace VpsGuardian.Probes

open Lib

/-- An address and, if it is mapped, the IPv4 address in it. -/
def notations : Address → List Address
  | .v4 ip => [.v4 ip]
  | .v6 ip => .v6 ip :: ((ipv4Mapped ip).map Address.v4).toList

/-- A metadata address, or one in a denied network. -/
def isDenied (definition : NetworkPolicy) (address : Address) : Bool :=
  (alwaysDeniedAddresses.map Address.v4).contains address ||
    definition.denied.any (Ipaddress.contains · address)

/-- No address that the definition accepts is a denied one in some notation. -/
def DeniedUnreachable (version : Ipaddress.Version) (definition : NetworkPolicy) : Prop :=
  ∀ address, addressIsAllowed version address definition = true →
    ∀ form ∈ notations address, isDenied definition form = false

/-- The IPv4-mapped form of an address, `::ffff:a.b.c.d`. -/
def mappedForm (ip : BitVec 32) : BitVec 128 := BitVec.ofNat 128 (mappedPrefix * 2 ^ 32 + ip.toNat)

/-- The lists keep out the mapped form of every IPv4 address that they deny: a denied network
contains it, or no allowed one does. Without an allow list, Python up to 3.12 takes all mapped
addresses for reserved, and later the IPv4 address has to be one that is not for public use. -/
def MappedKeptOut (version : Ipaddress.Version) (definition : NetworkPolicy) : Prop :=
  ∀ ip : BitVec 32, isAlwaysDenied ip ∨ inV4 definition.denied ip →
    definition.denied.any (Ipaddress.contains · (.v6 (mappedForm ip))) ∨
      if definition.allowed = [] then version = .python312 ∨ controllerDenies version (.v4 ip)
      else ¬definition.allowed.any (Ipaddress.contains · (.v6 (mappedForm ip)))

theorem toNat_mappedForm (ip : BitVec 32) :
    (mappedForm ip).toNat = mappedPrefix * 2 ^ 32 + ip.toNat := by
  have hlt := ip.isLt
  rw [mappedForm, BitVec.toNat_ofNat, Nat.mod_eq_of_lt]
  rw [mappedPrefix]
  omega

theorem ipv4Mapped_mappedForm (ip : BitVec 32) : ipv4Mapped (mappedForm ip) = some ip := by
  have hlt := ip.isLt
  have hprefix : (mappedForm ip).toNat >>> 32 = mappedPrefix := by
    rw [toNat_mappedForm, Nat.shiftRight_eq_div_pow, mappedPrefix]
    omega
  rw [ipv4Mapped, if_pos hprefix]
  refine congrArg some (BitVec.eq_of_toNat_eq ?_)
  rw [BitVec.toNat_setWidth, toNat_mappedForm, Nat.mul_add_mod_self_right, Nat.mod_eq_of_lt hlt]

theorem eq_mappedForm {ip : BitVec 128} {ip4 : BitVec 32} (h : ipv4Mapped ip = some ip4) :
    ip = mappedForm ip4 := by
  apply BitVec.eq_of_toNat_eq
  rw [toNat_of_ipv4Mapped h, toNat_mappedForm]

theorem isDenied_v4 (definition : NetworkPolicy) (ip : BitVec 32) :
    isDenied definition (.v4 ip) = true ↔ isAlwaysDenied ip ∨ inV4 definition.denied ip := by
  rw [isDenied, controller_v4, Bool.or_eq_true]
  refine or_congr_left ?_
  simp [isAlwaysDenied]

/-- What is accepted is not denied as it stands. -/
theorem not_isDenied_of_allowed {version : Ipaddress.Version} {definition : NetworkPolicy}
    {address : Address} (h : addressIsAllowed version address definition = true) :
    isDenied definition address = false := by
  unfold addressIsAllowed at h
  split_ifs at h with halways hdenied hlist
  all_goals
    rw [isDenied, Bool.or_eq_false_iff, ← Bool.not_eq_true, ← Bool.not_eq_true]
    exact ⟨fun hcontains => halways (List.contains_iff_mem.mp hcontains), hdenied⟩

/-- Whether the mapped form is accepted. -/
theorem mappedForm_allowed_iff (version : Ipaddress.Version) (definition : NetworkPolicy)
    (ip : BitVec 32) :
    addressIsAllowed version (.v6 (mappedForm ip)) definition = true ↔
      ¬(definition.denied.any (Ipaddress.contains · (.v6 (mappedForm ip))) ∨
        if definition.allowed = [] then version = .python312 ∨ controllerDenies version (.v4 ip)
        else ¬definition.allowed.any (Ipaddress.contains · (.v6 (mappedForm ip)))) := by
  unfold addressIsAllowed
  rw [if_neg (by simp), controllerDenies_mapped version (ipv4Mapped_mappedForm ip)]
  split_ifs with hdenied hlist hempty hempty
  all_goals simp_all

/-- Denied addresses are out of reach in every notation exactly if the lists keep out the mapped
forms of those they deny. -/
theorem denied_unreachable_iff (version : Ipaddress.Version) (definition : NetworkPolicy) :
    DeniedUnreachable version definition ↔ MappedKeptOut version definition := by
  constructor
  · intro h ip hdenied
    by_contra hopen
    have hform := h _ ((mappedForm_allowed_iff version definition ip).mpr hopen) (.v4 ip)
      (by simp [notations, ipv4Mapped_mappedForm])
    rw [(isDenied_v4 definition ip).mpr hdenied] at hform
    cases hform
  · intro h address hallowed form hform
    cases address with
    | v4 ip =>
      obtain rfl := List.mem_singleton.mp hform
      exact not_isDenied_of_allowed hallowed
    | v6 ip =>
      obtain rfl | hform := List.mem_cons.mp hform
      · exact not_isDenied_of_allowed hallowed
      · -- only the IPv4 address in a mapped address is left
        cases hmapped : ipv4Mapped ip with
        | none => simp [hmapped] at hform
        | some ip4 =>
          obtain rfl : form = .v4 ip4 := by simpa [hmapped] using hform
          rw [eq_mappedForm hmapped, mappedForm_allowed_iff] at hallowed
          rw [← Bool.not_eq_true, isDenied_v4]
          exact fun hdenied => hallowed (h ip4 hdenied)

/-- `::ffff:169.254.169.254` with `::/0` allowed, and `::ffff:100.100.100.200` without any list. -/
theorem denied_reachable :
    ¬DeniedUnreachable .python312 ⟨[.v6 (.mk 0 0)], []⟩ ∧
      ¬DeniedUnreachable .python313 ⟨[], []⟩ := by
  constructor
  · intro h
    have hform := h (.v6 0xFFFFA9FEA9FE) (by decide +kernel) (.v4 0xA9FEA9FE) (by decide +kernel)
    exact absurd hform (by decide +kernel)
  · intro h
    have hform := h (.v6 0xFFFF646464C8) (by decide +kernel) (.v4 0x646464C8) (by decide +kernel)
    exact absurd hform (by decide +kernel)

end VpsGuardian.Probes
