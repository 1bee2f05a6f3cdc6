import VpsGuardian.Agent.PortTraffic
import VpsGuardian.PortPolicies.Effects
import VpsGuardian.PortPolicies.Texts

/-!
What the parameters of a port traffic task say, and what the helper parses from them.

A task carries the row its parameters were built from, with the mode, the rate
and the schedule that were asked for.
-/

namespace VpsGuardian.PortPolicies

open Lib
open Controller (Time AgentTask)
open NetHelper (Protocol Direction Mode matchesPattern policyIDPattern matchesInterfacePattern)

/-- What schemas, endpoints and constraints together promise of a row. -/
structure PortTrafficPolicy.Valid (policy : PortTrafficPolicy) : Prop where
  id : matchesPattern policyIDPattern policy.id = true
  host : policy.hostID ≠ ""
  ports : 1 ≤ policy.portStart ∧ policy.portStart ≤ policy.portEnd ∧ policy.portEnd ≤ 65535 ∧
    policy.portEnd - policy.portStart + 1 ≤ 4096
  interfaceName : ∀ name ∈ policy.interfaceName, matchesInterfacePattern name = true
  quota : ∀ quota ∈ policy.quotaBytes, 0 < quota ∧ quota < 2 ^ 63
  rate : ∀ rate ∈ policy.egressRateBps, 8000 ≤ rate ∧ rate ≤ 100000000000
  timezone : policy.resetPolicy.timezone.length ≤ 64

/-- What the parameters of a task were built from. -/
structure Frozen where
  policy : PortTrafficPolicy
  mode : Mode
  rate : Option Nat
  resetPolicy : ResetPolicy
  boundary : Option Time

namespace Frozen

def entries (frozen : Frozen) : List (String × String) :=
  parameterEntries frozen.policy frozen.mode frozen.rate frozen.resetPolicy frozen.boundary

def Describes (frozen : Frozen) (parameters : Dict String) : Prop :=
  ∀ entry ∈ frozen.entries, parameters.get? entry.1 = some entry.2

structure Valid (frozen : Frozen) : Prop where
  policy : frozen.policy.Valid
  generation : 1 ≤ frozen.policy.generation ∧ frozen.policy.generation < 2 ^ 31
  rate : ∀ rate ∈ frozen.rate, 8000 ≤ rate ∧ rate ≤ 100000000000
  timezone : frozen.resetPolicy.timezone.length ≤ 64
  boundary : ∀ time ∈ frozen.boundary, Representable time

/-- The quota in the helper's terms, where there is none at zero. -/
def quotaBytes (frozen : Frozen) : Nat := frozen.policy.quotaBytes.getD 0

def egressRateBps (frozen : Frozen) : Nat := frozen.rate.getD 0

/-- The policy that the helper is asked for. -/
def requested (frozen : Frozen) : NetHelper.Policy where
  id := frozen.policy.id
  protocol := frozen.policy.protocol
  direction := frozen.policy.direction
  portStart := frozen.policy.portStart
  portEnd := frozen.policy.portEnd
  interfaceName := frozen.policy.interfaceName.getD ""
  mode := frozen.mode
  quotaBytes := .ofInt frozen.quotaBytes
  egressRateBPS := frozen.egressRateBps
  generation := .ofInt frozen.policy.generation
  lifetimeRX := 0
  lifetimeTX := 0
  lastKernelRX := 0
  lastKernelTX := 0
  periodStartRX := 0
  periodStartTX := 0
  periodStarted := 0
  lastResetAt := 0
  nextResetAt := (frozen.boundary.map isoformat).getD ""
  resetPolicy := frozen.resetPolicy.dumps

/-- The limits on amounts that only the helper has. -/
structure Acceptable (frozen : Frozen) : Prop where
  quota : frozen.quotaBytes ≤ 2 ^ 62
  enforcing : frozen.mode = .enforcing → frozen.quotaBytes ≠ 0
  shaping : frozen.egressRateBps ≠ 0 → frozen.policy.direction ≠ .rx

instance (frozen : Frozen) : Decidable frozen.Acceptable :=
  decidable_of_iff (frozen.quotaBytes ≤ 2 ^ 62 ∧
      (frozen.mode = .enforcing → frozen.quotaBytes ≠ 0) ∧
      (frozen.egressRateBps ≠ 0 → frozen.policy.direction ≠ .rx))
    ⟨fun ⟨h₁, h₂, h₃⟩ => ⟨h₁, h₂, h₃⟩, fun ⟨h₁, h₂, h₃⟩ => ⟨h₁, h₂, h₃⟩⟩

end Frozen

/-! ### Parameters of the Controller -/

theorem nextResetAt_representable {zoneInfo : ZoneInfo} {policy : ResetPolicy}
    {after time : Time} (h : nextResetAt zoneInfo policy after = .ok (some time)) :
    Representable time := by
  unfold nextResetAt at h
  obtain ⟨zone, -, h⟩ := bind_eq_ok.mp h
  split_ifs at h
  · cases h
  · obtain ⟨today, -, h⟩ := orRaise_bind_eq_ok.mp h
    obtain ⟨next, -, h⟩ := bind_eq_ok.mp h
    split at h
    · cases h
    next date =>
      obtain ⟨midnight, hmidnight, h⟩ := orRaise_bind_eq_ok.mp h
      cases h
      unfold Zone.midnight at hmidnight
      dsimp only at hmidnight
      split_ifs at hmidnight with hrange
      cases hmidnight
      exact hrange

def parameterKeys : List String := [
  "policy_id", "protocol", "direction", "port_start", "port_end", "interface_name", "mode",
  "quota_bytes", "egress_rate_bps", "counter_generation", "reset_policy", "next_reset_at"]

theorem parameterEntries_keys (policy : PortTrafficPolicy) (mode : Mode) (rate : Option Nat)
    (resetPolicy : ResetPolicy) (boundary : Option Time) :
    (parameterEntries policy mode rate resetPolicy boundary).map Prod.fst = parameterKeys := rfl

theorem dryRun_nodup : (parameterKeys ++ ["dry_run"]).Nodup := by decide

theorem scheduled_nodup :
    (parameterKeys ++ ["reason", "scheduled_for", "second_confirmation", "dry_run"]).Nodup := by
  decide

theorem Frozen.keys (frozen : Frozen) : frozen.entries.map Prod.fst = parameterKeys :=
  parameterEntries_keys ..

/-- The entries of a row and some more make a dictionary that describes the row. -/
theorem Frozen.describes_ofList (frozen : Frozen) (rest : List (String × String))
    (h : (parameterKeys ++ rest.map Prod.fst).Nodup) :
    frozen.Describes (.ofList (frozen.entries ++ rest)) ∧
      ∀ key value, (key, value) ∈ rest →
        (Dict.ofList (frozen.entries ++ rest)).get? key = some value := by
  have hnodup : ((frozen.entries ++ rest).map Prod.fst).Nodup := by
    rw [List.map_append, frozen.keys]
    exact h
  constructor
  · intro entry hentry
    exact Dict.get?_ofList_of_mem hnodup (List.mem_append_left _ hentry)
  · intro key value hmem
    exact Dict.get?_ofList_of_mem hnodup (List.mem_append_right _ hmem)

/-- The frozen row of the parameters that `_port_traffic_parameters` returns. -/
theorem portTrafficParameters_ok {env : Environment} {now : Time} {policy : PortTrafficPolicy}
    {mode : Option Mode} {rate : Option Nat} {resetPolicy : Option ResetPolicy}
    {parameters : Dict String}
    (h : portTrafficParameters env now policy mode rate resetPolicy = .ok parameters) :
    ∃ boundary, (∀ time ∈ boundary, Representable time) ∧
      (Frozen.mk policy (mode.getD policy.mode) (rate.or policy.egressRateBps)
        (resetPolicy.getD policy.resetPolicy) boundary).Describes parameters ∧
      parameters.get? "dry_run" = some "false" := by
  unfold portTrafficParameters at h
  obtain ⟨boundary, hboundary, h⟩ := bind_eq_ok.mp h
  obtain ⟨hdescribes, hrest⟩ := Frozen.describes_ofList
    (Frozen.mk policy (mode.getD policy.mode) (rate.or policy.egressRateBps)
      (resetPolicy.getD policy.resetPolicy) boundary) [("dry_run", "false")] dryRun_nodup
  replace h := Except.ok.inj h
  rw [← h]
  refine ⟨boundary, ?_, hdescribes, hrest _ _ (List.mem_singleton_self _)⟩
  rintro time htime
  exact nextResetAt_representable (htime ▸ hboundary)

/-- Parameters under other names do not matter. -/
theorem Frozen.Describes.insert {frozen : Frozen} {parameters : Dict String}
    (h : frozen.Describes parameters) {key : String} (value : String)
    (hkey : key ∉ frozen.entries.map Prod.fst) :
    frozen.Describes (parameters.insert key value) := by
  intro entry hentry
  rw [Dict.get?_insert, if_neg]
  · exact h entry hentry
  · rintro rfl
    exact hkey (List.mem_map_of_mem hentry)

theorem Frozen.Describes.scheduled (policy : PortTrafficPolicy) (dueAt : Time)
    (boundary : Option Time) :
    (Frozen.mk policy policy.mode policy.egressRateBps policy.resetPolicy boundary).Describes
        (scheduledResetParameters policy dueAt boundary) ∧
      (scheduledResetParameters policy dueAt boundary).get? "dry_run" = some "false" ∧
      (scheduledResetParameters policy dueAt boundary).get? "second_confirmation" =
        some "confirmed" := by
  obtain ⟨hdescribes, hrest⟩ := Frozen.describes_ofList
    (Frozen.mk policy policy.mode policy.egressRateBps policy.resetPolicy boundary)
    [("reason", "scheduled"), ("scheduled_for", isoformat dueAt),
      ("second_confirmation", "confirmed"), ("dry_run", "false")] scheduled_nodup
  exact ⟨hdescribes, hrest _ _ (by simp), hrest _ _ (by simp)⟩

/-! ### What the helper parses -/

@[simp] theorem parse_protocol (protocol : Protocol) :
    Protocol.parse? protocol.name = some protocol := by
  cases protocol <;> rfl

@[simp] theorem parse_directionValue (direction : Direction) :
    Direction.parse? (directionValue direction) = some direction := by
  cases direction <;> rfl

@[simp] theorem parse_modeValue (mode : Mode) : Mode.parse? (modeValue mode) = some mode := by
  cases mode <;> rfl

theorem toString_int {n : Int} (h : 0 ≤ n) : toString n = toString n.toNat := by
  obtain ⟨k, rfl⟩ := Int.eq_ofNat_of_zero_le h
  rfl

/-- What a field of the Agent's request says of the row behind it. -/
theorem Frozen.Describes.get {frozen : Frozen} {parameters : Dict String}
    (h : frozen.Describes parameters) (field parameter : String) {value : String}
    (hfield : (field, parameter) ∈ Agent.policyFields)
    (hentry : (parameter, value) ∈ frozen.entries) :
    (Agent.requestPolicy parameters).get field = value := by
  rw [Agent.get_requestPolicy hfield, Dict.get, h _ hentry]
  rfl

section Parsing

variable {frozen : Frozen} {parameters : Dict String}

/-- The fields of the request, in the order in which the helper looks at them. -/
theorem Frozen.Describes.fields (h : frozen.Describes parameters) :
    ((Agent.requestPolicy parameters).get "id" = frozen.policy.id ∧
      (Agent.requestPolicy parameters).get "protocol" = frozen.policy.protocol.name ∧
      (Agent.requestPolicy parameters).get "direction" = directionValue frozen.policy.direction ∧
      (Agent.requestPolicy parameters).get "mode" = modeValue frozen.mode) ∧
    ((Agent.requestPolicy parameters).get "port_start" = toString frozen.policy.portStart ∧
      (Agent.requestPolicy parameters).get "port_end" = toString frozen.policy.portEnd) ∧
    ((Agent.requestPolicy parameters).get "quota_bytes" = toString frozen.quotaBytes ∧
      (Agent.requestPolicy parameters).get "egress_rate_bps" = toString frozen.egressRateBps ∧
      (Agent.requestPolicy parameters).get "counter_generation" =
        toString frozen.policy.generation) ∧
    (Agent.requestPolicy parameters).get "interface_name" =
      frozen.policy.interfaceName.getD "" ∧
    (Agent.requestPolicy parameters).get "reset_policy" = frozen.resetPolicy.dumps ∧
    (Agent.requestPolicy parameters).get "next_reset_at" =
      (frozen.boundary.map isoformat).getD "" := by
  have hget := @Frozen.Describes.get frozen parameters h
  refine ⟨⟨?_, ?_, ?_, ?_⟩, ⟨?_, ?_⟩, ⟨?_, ?_, ?_⟩, ?_, ?_, ?_⟩
  · exact hget "id" "policy_id" (by decide) (by simp [Frozen.entries, parameterEntries])
  · exact hget "protocol" "protocol" (by decide) (by simp [Frozen.entries, parameterEntries])
  · exact hget "direction" "direction" (by decide) (by simp [Frozen.entries, parameterEntries])
  · exact hget "mode" "mode" (by decide) (by simp [Frozen.entries, parameterEntries])
  · exact hget "port_start" "port_start" (by decide) (by simp [Frozen.entries, parameterEntries])
  · exact hget "port_end" "port_end" (by decide) (by simp [Frozen.entries, parameterEntries])
  · exact hget "quota_bytes" "quota_bytes" (by decide)
      (by simp [Frozen.entries, parameterEntries, Frozen.quotaBytes])
  · exact hget "egress_rate_bps" "egress_rate_bps" (by decide)
      (by simp [Frozen.entries, parameterEntries, Frozen.egressRateBps])
  · exact hget "counter_generation" "counter_generation" (by decide)
      (by simp [Frozen.entries, parameterEntries])
  · exact hget "interface_name" "interface_name" (by decide)
      (by simp [Frozen.entries, parameterEntries])
  · exact hget "reset_policy" "reset_policy" (by decide)
      (by simp [Frozen.entries, parameterEntries])
  · exact hget "next_reset_at" "next_reset_at" (by decide)
      (by simp [Frozen.entries, parameterEntries])

theorem parseKind_request (hvalid : frozen.Valid) (h : frozen.Describes parameters) :
    NetHelper.parseKind (Agent.requestPolicy parameters) =
      .ok (frozen.policy.id, frozen.policy.protocol, frozen.policy.direction, frozen.mode) := by
  obtain ⟨⟨hid, hprotocol, hdirection, hmode⟩, -⟩ := h.fields
  simp [NetHelper.parseKind, hid, hprotocol, hdirection, hmode, hvalid.policy.id, pure, Except.pure]

theorem parsePorts_request (hvalid : frozen.Valid) (h : frozen.Describes parameters) :
    NetHelper.parsePorts (Agent.requestPolicy parameters) =
      .ok ((frozen.policy.portStart : Int), (frozen.policy.portEnd : Int)) := by
  obtain ⟨-, ⟨hstart, hend⟩, -⟩ := h.fields
  obtain ⟨hfirst, hrange, hlast, hwidth⟩ := hvalid.policy.ports
  have hparsedStart : NetHelper.parseInt (toString frozen.policy.portStart) "port_start" 1 65535 =
      .ok (frozen.policy.portStart : Int) := by
    rw [parseInt_toString (by omega), if_neg (by omega)]
  have hparsedEnd : NetHelper.parseInt (toString frozen.policy.portEnd) "port_end"
      frozen.policy.portStart 65535 = .ok (frozen.policy.portEnd : Int) := by
    rw [parseInt_toString (by omega), if_neg (by omega)]
  have hspan : ¬ 4096 < (frozen.policy.portEnd : Int) - frozen.policy.portStart + 1 := by omega
  unfold NetHelper.parsePorts
  rw [hstart, hparsedStart]
  dsimp only [bind, Except.bind]
  rw [hend, hparsedEnd]
  dsimp only
  rw [if_neg hspan]
  rfl

theorem egressRateBps_bounds (hvalid : frozen.Valid) :
    frozen.egressRateBps = 0 ∨
      (8000 ≤ frozen.egressRateBps ∧ frozen.egressRateBps ≤ 100000000000) := by
  unfold Frozen.egressRateBps
  cases hrate : frozen.rate with
  | none => exact .inl rfl
  | some rate => exact .inr (hvalid.rate rate hrate)

theorem quotaBytes_lt (hvalid : frozen.Valid) : frozen.quotaBytes < 2 ^ 63 := by
  unfold Frozen.quotaBytes
  cases hquota : frozen.policy.quotaBytes with
  | none => exact Nat.two_pow_pos 63
  | some quota => exact (hvalid.policy.quota quota hquota).2

/-- The helper has a smaller limit on quotas than the schemas. -/
theorem parseAmounts_request (hvalid : frozen.Valid) (h : frozen.Describes parameters) :
    NetHelper.parseAmounts (Agent.requestPolicy parameters) =
      if frozen.quotaBytes ≤ 2 ^ 62 then
        .ok ((frozen.quotaBytes : Int), (frozen.egressRateBps : Int), frozen.policy.generation)
      else .error "quota_bytes is outside the permitted range" := by
  obtain ⟨-, -, ⟨hquota, hrate, hgeneration⟩, -⟩ := h.fields
  have hratebounds := egressRateBps_bounds hvalid
  have hgenerationBounds := hvalid.generation
  have hparsedRate : NetHelper.parseInt (toString frozen.egressRateBps) "egress_rate_bps" 0
      100000000000 = .ok (frozen.egressRateBps : Int) := by
    rw [parseInt_toString (by omega), if_neg (by omega)]
  have hparsedGeneration : NetHelper.parseInt (toString frozen.policy.generation)
      "counter_generation" 1 (2 ^ 31 - 1) = .ok frozen.policy.generation := by
    have hnonneg : 0 ≤ frozen.policy.generation := by omega
    rw [toString_int hnonneg, parseInt_toString (by omega), Int.toNat_of_nonneg hnonneg,
      if_neg (by omega)]
  have hrange : ¬ (0 < (frozen.egressRateBps : Int) ∧ (frozen.egressRateBps : Int) < 8000) := by
    omega
  unfold NetHelper.parseAmounts
  rw [hquota, parseInt_toString (quotaBytes_lt hvalid)]
  by_cases hlimit : frozen.quotaBytes ≤ 2 ^ 62
  · rw [if_neg (by omega), if_pos hlimit]
    dsimp only [bind, Except.bind]
    rw [hrate, hparsedRate]
    dsimp only
    rw [if_neg hrange, hgeneration, hparsedGeneration]
    rfl
  · rw [if_pos (by omega), if_neg hlimit]
    rfl

theorem checkAmounts_request (frozen : Frozen) :
    NetHelper.checkAmounts frozen.mode frozen.policy.direction frozen.quotaBytes
        frozen.egressRateBps = .ok () ↔
      (frozen.mode = .enforcing → frozen.quotaBytes ≠ 0) ∧
        (frozen.egressRateBps ≠ 0 → frozen.policy.direction ≠ .rx) := by
  have hrate : 0 < (frozen.egressRateBps : Int) ↔ frozen.egressRateBps ≠ 0 := by omega
  unfold NetHelper.checkAmounts
  by_cases hmode : frozen.mode = .enforcing ∧ (frozen.quotaBytes : Int) = 0
  · rw [if_pos hmode]
    constructor
    · intro h
      cases h
    · rintro ⟨hquota, -⟩
      exact absurd (Int.ofNat_eq_zero.mp hmode.2) (hquota hmode.1)
  · rw [if_neg hmode]
    by_cases hshaping : 0 < (frozen.egressRateBps : Int) ∧ frozen.policy.direction = .rx
    · rw [if_pos hshaping]
      constructor
      · intro h
        cases h
      · rintro ⟨-, hdirection⟩
        exact absurd hshaping.2 (hdirection (hrate.mp hshaping.1))
    · rw [if_neg hshaping]
      constructor
      · rintro -
        exact ⟨fun henforcing hquota => hmode ⟨henforcing, by omega⟩,
          fun hne hrx => hshaping ⟨hrate.mpr hne, hrx⟩⟩
      · rintro -
        rfl

theorem checkInterfaceName_request (hvalid : frozen.Valid) {interfaceExists : String → Bool}
    (hexists : ∀ name ∈ frozen.policy.interfaceName, interfaceExists name = true) (check : Bool) :
    NetHelper.checkInterfaceName interfaceExists check (frozen.policy.interfaceName.getD "") =
      .ok () := by
  unfold NetHelper.checkInterfaceName
  cases hname : frozen.policy.interfaceName with
  | none => rfl
  | some name => simp [hvalid.policy.interfaceName name hname, hexists name hname,
      pure, Except.pure]

theorem checkReset_request (hvalid : frozen.Valid) :
    NetHelper.checkReset frozen.resetPolicy.dumps ((frozen.boundary.map isoformat).getD "") =
      .ok () := by
  have hsize := dumps_size hvalid.timezone
  unfold NetHelper.checkReset
  rw [if_neg (by simp [isJSONObject_dumps, hsize])]
  cases hboundary : frozen.boundary with
  | none => rfl
  | some time =>
    have hrepresentable := hvalid.boundary time hboundary
    have htext := isoformat_size hrepresentable
    rw [if_neg (by simp [isRFC3339_isoformat hrepresentable, htext])]
    rfl

/-- The helper parses what the Controller wrote, unless an amount is beyond its limits. -/
theorem parsePolicy_request (hvalid : frozen.Valid) (h : frozen.Describes parameters)
    {interfaceExists : String → Bool}
    (hexists : ∀ name ∈ frozen.policy.interfaceName, interfaceExists name = true) (check : Bool)
    {parsed : NetHelper.Policy} :
    NetHelper.parsePolicy interfaceExists (Agent.requestPolicy parameters) check = .ok parsed ↔
      frozen.Acceptable ∧ parsed = frozen.requested := by
  obtain ⟨-, -, -, hinterface, hreset, hnext⟩ := h.fields
  unfold NetHelper.parsePolicy
  rw [if_neg (by rw [Agent.size_requestPolicy]; decide), parseKind_request hvalid h]
  dsimp only [bind, Except.bind]
  rw [parsePorts_request hvalid h]
  dsimp only
  rw [parseAmounts_request hvalid h]
  by_cases hlimit : frozen.quotaBytes ≤ 2 ^ 62
  · rw [if_pos hlimit]
    dsimp only
    rw [hinterface, hreset, hnext, checkInterfaceName_request hvalid hexists,
      checkReset_request hvalid]
    have hamounts := checkAmounts_request frozen
    cases hchecked : NetHelper.checkAmounts frozen.mode frozen.policy.direction frozen.quotaBytes
        frozen.egressRateBps with
    | error e =>
      rw [hchecked] at hamounts
      constructor
      · intro h
        cases h
      · rintro ⟨hacceptable, -⟩
        exact nomatch hamounts.mpr ⟨hacceptable.enforcing, hacceptable.shaping⟩
    | ok _ =>
      rw [hchecked] at hamounts
      obtain ⟨henforcing, hshaping⟩ := hamounts.mp rfl
      constructor
      · intro h
        cases h
        exact ⟨⟨hlimit, henforcing, hshaping⟩, rfl⟩
      · rintro ⟨-, rfl⟩
        rfl
  · rw [if_neg hlimit]
    constructor
    · intro h
      cases h
    · rintro ⟨hacceptable, -⟩
      exact absurd hacceptable.quota hlimit

end Parsing

end VpsGuardian.PortPolicies
