import VpsGuardian.Lib.JsonRoundTrip
import VpsGuardian.NetHelper.Replay

/-!
What a signed authorization decides.

The signature covers the parameters of the task, not the policy map of the
request. The two are compared key by key, so every field that `parsePolicy`
reads has the signed text, and the rest of the map is never read.
-/

namespace VpsGuardian.NetHelper

open Lib

/-- What `executeRequest` hands on to `desiredState`. -/
structure Execution where
  operation : Operation
  dryRun : Bool
  parsed : Policy
  deriving DecidableEq

/-- The checks of `executeRequest` in front of `desiredState`. Snapshots and the purge are served
before them. -/
def checkRequest (setting : Setting) (request : Request) (current : State) : Option Execution :=
  match request.operation with
  | .snapshot | .purge => none
  | _ => do
      let trust ← setting.trust
      let _ ← (verifyAuthorization request trust current.completedNonce setting.now).toOption
      let parsed ← (parsePolicy setting.interfaceExists request.policy (!request.dryRun)).toOption
      some ⟨request.operation, request.dryRun, parsed⟩

/-- The bytes the Controller signed. -/
def signedText (request : Request) : Option (List Char) :=
  request.authorization.map fun auth => Json.render Json.goEscape (signedAuthorization auth)

/-- What `checkRequest` lets through has passed both checks. -/
structure Checked (setting : Setting) (request : Request) (current : State) (auth : Authorization)
    (execution : Execution) : Prop where
  operation : request.operation = execution.operation
  changes : execution.operation ≠ .snapshot ∧ execution.operation ≠ .purge
  dryRun : request.dryRun = execution.dryRun
  verified : ∃ trust, setting.trust = some trust ∧
    verifyAuthorization request trust current.completedNonce setting.now = .ok auth
  parsed : parsePolicy setting.interfaceExists request.policy (!request.dryRun) =
    .ok execution.parsed

theorem toOption_eq_some {ε α : Type} {r : Except ε α} {a : α} (h : r.toOption = some a) :
    r = .ok a := by
  cases r with
  | error e => cases h
  | ok b => exact congrArg Except.ok (Option.some.inj h)

theorem checkRequest_eq_some {setting : Setting} {request : Request} {current : State}
    {execution : Execution} (h : checkRequest setting request current = some execution) :
    ∃ auth, Checked setting request current auth execution := by
  have hchanges : request.operation ≠ .snapshot ∧ request.operation ≠ .purge := by
    constructor <;>
    · intro hop
      rw [checkRequest, hop] at h
      cases h
  have hchecks : (do
      let trust ← setting.trust
      let _ ← (verifyAuthorization request trust current.completedNonce setting.now).toOption
      let parsed ← (parsePolicy setting.interfaceExists request.policy (!request.dryRun)).toOption
      some (⟨request.operation, request.dryRun, parsed⟩ : Execution)) = some execution := by
    rw [← h, checkRequest]
    cases hop : request.operation with
    | snapshot => exact absurd hop hchanges.1
    | purge => exact absurd hop hchanges.2
    | apply | remove | reset => rfl
  obtain ⟨trust, htrust, hchecks⟩ := Option.bind_eq_some_iff.mp hchecks
  obtain ⟨auth, hauth, hchecks⟩ := Option.bind_eq_some_iff.mp hchecks
  obtain ⟨parsed, hparsed, hexecution⟩ := Option.bind_eq_some_iff.mp hchecks
  cases hexecution
  exact ⟨auth, rfl, hchanges, rfl, ⟨trust, htrust, toOption_eq_some hauth⟩,
    toOption_eq_some hparsed⟩

/-- The request is served with the policy that was let through. -/
theorem serveLoaded_of_checkRequest {setting : Setting} {request : Request} {current : State}
    {execution : Execution} (h : checkRequest setting request current = some execution) :
    ∃ auth, serveLoaded setting request current =
      serveAuthorized setting request auth execution.parsed current := by
  obtain ⟨auth, hchecked⟩ := checkRequest_eq_some h
  obtain ⟨trust, htrust, hverified⟩ := hchecked.verified
  have hchanges := hchecked.changes
  rw [← hchecked.operation] at hchanges
  exact ⟨auth, serveLoaded_of_accepted hchanges.1 hchanges.2 htrust hverified hchecked.parsed⟩

/-! ### What the signature covers -/

/-- What `verifyAuthorization` compares with the signed content. -/
structure Bound (request : Request) (auth : Authorization) : Prop where
  authorization : request.authorization = some auth
  action : auth.action = helperAction request.operation
  parameters : ∀ p ∈ boundParameters, auth.parameters.get p.1 = request.policy.get p.2
  dryRun : auth.parameters.get "dry_run" = if request.dryRun then "true" else "false"
  approved : request.operation = .reset ∨ request.policy.get "mode" = "enforcing" ∨
      request.policy.get "egress_rate_bps" ≠ "0" →
    auth.requesterID ≠ "" ∧ auth.approverID ≠ "" ∧ auth.requesterID ≠ auth.approverID

theorem bound_of_verified {request : Request} {trust : Trust} {completed : Dict Int} {now : Int}
    {auth : Authorization} (h : verifyAuthorization request trust completed now = .ok auth) :
    Bound request auth := by
  have hauth := (verifyAuthorization_ok h).1
  simp only [verifyAuthorization, bind, Except.bind, pure, Except.pure, throw, throwThe,
    MonadExceptOf.throw, hauth, ite_error_eq_ok] at h
  obtain ⟨haction, -, -, -, -, hparameters, hdryRun, hrisky, -, -⟩ := h
  refine ⟨hauth, not_not.mp haction, fun p hp => ?_, not_not.mp hdryRun, fun hrisk => ?_⟩
  · have hall := List.all_eq_true.mp (eq_true_of_ne_false hparameters) p hp
    exact of_decide_eq_true hall
  · have hnone : ¬(auth.approvalID = "" ∨ auth.requesterID = "" ∨ auth.approverID = "" ∨
        auth.requesterID = auth.approverID) := fun hmissing =>
      hrisky ⟨decide_eq_true hrisk, hmissing⟩
    rw [not_or, not_or, not_or] at hnone
    exact hnone.2

/-- The fields of the policy map that are compared. -/
def boundFields : List String := boundParameters.map Prod.snd

/-- Two policy maps that agree on the compared fields. -/
def AgreeOn (values values' : Dict String) : Prop :=
  ∀ field ∈ boundFields, values.get field = values'.get field

instance (values values' : Dict String) : Decidable (AgreeOn values values') :=
  inferInstanceAs (Decidable (∀ field ∈ boundFields, _))

section Parsing

variable {values values' : Dict String} (h : AgreeOn values values')
include h

theorem parseKind_congr : parseKind values = parseKind values' := by
  rw [parseKind, parseKind, h "id" (by decide), h "protocol" (by decide), h "direction" (by decide),
    h "mode" (by decide)]

theorem parsePorts_congr : parsePorts values = parsePorts values' := by
  rw [parsePorts, parsePorts, h "port_start" (by decide), h "port_end" (by decide)]

theorem parseAmounts_congr : parseAmounts values = parseAmounts values' := by
  rw [parseAmounts, parseAmounts, h "quota_bytes" (by decide), h "egress_rate_bps" (by decide),
    h "counter_generation" (by decide)]

end Parsing

/-- What `parsePolicy` returns, once all checks have passed. -/
structure ParsedFrom (values : Dict String) (p : Policy) (quota generation : Int) : Prop where
  kind : parseKind values = .ok (p.id, p.protocol, p.direction, p.mode)
  ports : parsePorts values = .ok (p.portStart, p.portEnd)
  amounts : parseAmounts values = .ok (quota, p.egressRateBPS, generation)
  eq : p = {
    id := p.id, protocol := p.protocol, direction := p.direction, portStart := p.portStart
    portEnd := p.portEnd, interfaceName := values.get "interface_name", mode := p.mode
    quotaBytes := .ofInt quota, egressRateBPS := p.egressRateBPS, generation := .ofInt generation
    lifetimeRX := 0, lifetimeTX := 0, lastKernelRX := 0, lastKernelTX := 0
    periodStartRX := 0, periodStartTX := 0, periodStarted := 0, lastResetAt := 0
    nextResetAt := values.get "next_reset_at", resetPolicy := values.get "reset_policy" }

theorem parsePolicy_ok {interfaceExists : String → Bool} {values : Dict String}
    {checkInterface : Bool} {p : Policy}
    (h : parsePolicy interfaceExists values checkInterface = .ok p) :
    ∃ quota generation, ParsedFrom values p quota generation := by
  simp only [parsePolicy, bind, Except.bind, pure, Except.pure, throw, throwThe,
    MonadExceptOf.throw] at h
  split at h
  · cases h
  cases hkind : parseKind values with
  | error e => simp [hkind] at h
  | ok kind =>
    cases hports : parsePorts values with
    | error e => simp [hkind, hports] at h
    | ok ports =>
      cases hamounts : parseAmounts values with
      | error e => simp [hkind, hports, hamounts] at h
      | ok amounts =>
        simp only [hkind, hports, hamounts] at h
        split at h
        · cases h
        split at h
        · cases h
        split at h
        · cases h
        cases h
        exact ⟨amounts.1, amounts.2.2, hkind, hports, hamounts, rfl⟩

/-- Two accepted policies are equal if the compared fields are: the rest of the map, the interfaces
of the host and the dry-run flag only decide whether they are accepted. -/
theorem parsed_eq {interfaceExists interfaceExists' : String → Bool} {values values' : Dict String}
    {checkInterface checkInterface' : Bool} {p p' : Policy}
    (h : parsePolicy interfaceExists values checkInterface = .ok p)
    (h' : parsePolicy interfaceExists' values' checkInterface' = .ok p')
    (hagree : AgreeOn values values') : p = p' := by
  obtain ⟨quota, generation, hp⟩ := parsePolicy_ok h
  obtain ⟨quota', generation', hp'⟩ := parsePolicy_ok h'
  have hkind := hp.kind
  rw [parseKind_congr hagree, hp'.kind] at hkind
  have hports := hp.ports
  rw [parsePorts_congr hagree, hp'.ports] at hports
  have hamounts := hp.amounts
  rw [parseAmounts_congr hagree, hp'.amounts] at hamounts
  simp only [Except.ok.injEq, Prod.mk.injEq] at hkind hports hamounts
  obtain ⟨hid, hprotocol, hdirection, hmode⟩ := hkind
  obtain ⟨hstart, hfinish⟩ := hports
  obtain ⟨hquota, hrate, hgeneration⟩ := hamounts
  rw [hp.eq, hp'.eq, hid, hprotocol, hdirection, hmode, hstart, hfinish, hquota, hrate,
    hgeneration, hagree "interface_name" (by decide), hagree "next_reset_at" (by decide),
    hagree "reset_policy" (by decide)]

/-- A policy that enforces or has a rate is read from a map that says so. -/
theorem parsed_harmless {values : Dict String} {p : Policy} {quota generation : Int}
    (h : ParsedFrom values p quota generation) (hmode : values.get "mode" ≠ "enforcing")
    (hrate : values.get "egress_rate_bps" = "0") : p.mode = .monitorOnly ∧ p.egressRateBPS = 0 := by
  constructor
  · have hkind := h.kind
    simp only [parseKind, bind, Except.bind, pure, Except.pure, throw, throwThe,
      MonadExceptOf.throw] at hkind
    split at hkind
    · cases hkind
    split at hkind <;> try cases hkind
    split at hkind <;> try cases hkind
    split at hkind
    · next mode hparsed =>
      have hfields := Except.ok.inj hkind
      rw [Prod.mk.injEq, Prod.mk.injEq, Prod.mk.injEq] at hfields
      rw [← hfields.2.2.2]
      unfold Mode.parse? at hparsed
      split at hparsed
      · exact (Option.some.inj hparsed).symm
      · next heq => exact absurd heq hmode
      · cases hparsed
    · cases hkind
  · have hamounts := h.amounts
    have hzero : parseInt "0" "egress_rate_bps" 0 100000000000 = .ok 0 := by decide +kernel
    rw [parseAmounts, hrate, hzero] at hamounts
    simp only [bind, Except.bind, pure, Except.pure, throw, throwThe,
      MonadExceptOf.throw] at hamounts
    split at hamounts
    · cases hamounts
    · split at hamounts
      · next hrange => exact absurd hrange (by decide)
      · split at hamounts
        · cases hamounts
        · have hfields := Except.ok.inj hamounts
          rw [Prod.mk.injEq, Prod.mk.injEq] at hfields
          exact hfields.2.1.symm

/-! ### The signed text -/

theorem perm_of_goObject_eq {m m' : Dict String} (h : Json.goObject m = Json.goObject m') :
    m.entries.Perm m'.entries := by
  have hmembers := Json.Value.object.inj h
  have hentries := List.map_injective_iff.mpr (fun a b hab => ?_) hmembers
  · exact (List.perm_insertionSort _ m.entries).symm.trans
      (hentries ▸ List.perm_insertionSort _ m'.entries)
  · rw [Prod.mk.injEq] at hab
    exact Prod.ext hab.1 (Json.Value.string.inj hab.2)

theorem get?_eq_some_iff {m : Dict String} {key value : String} :
    m.get? key = some value ↔ (key, value) ∈ m.entries := by
  refine ⟨Dict.mem_entries_of_get?, fun hmem => ?_⟩
  have hget := Dict.get?_ofList_of_mem m.nodup hmem
  rwa [Dict.ofList_entries] at hget

theorem get?_eq_of_perm {m m' : Dict String} (h : m.entries.Perm m'.entries) (key : String) :
    m.get? key = m'.get? key := by
  apply Option.ext
  intro value
  rw [get?_eq_some_iff, get?_eq_some_iff, h.mem_iff]

/-- What the signature covers of the requests with the same signed text. -/
theorem signed_eq {auth auth' : Authorization}
    (h : Json.render Json.goEscape (signedAuthorization auth) =
      Json.render Json.goEscape (signedAuthorization auth')) :
    auth.action = auth'.action ∧ ∀ key, auth.parameters.get key = auth'.parameters.get key := by
  have hvalue : signedAuthorization auth = signedAuthorization auth' := by
    have hparsed := Json.parse_render Json.unescapes_go (signedAuthorization auth)
    rw [h, Json.parse_render Json.unescapes_go] at hparsed
    exact (Option.some.inj hparsed).symm
  have hmembers := Json.Value.object.inj hvalue
  simp only [List.cons.injEq, Prod.mk.injEq, Json.Value.string.injEq, true_and] at hmembers
  obtain ⟨-, haction, hparameters, -⟩ := hmembers
  refine ⟨haction, fun key => ?_⟩
  have hget := get?_eq_of_perm (perm_of_goObject_eq hparameters) key
  rw [Dict.get, Dict.get, hget]

/-! ### Two requests -/

theorem operation_of_action {operation operation' : Operation}
    (hsnapshot : operation ≠ .snapshot) (hpurge : operation ≠ .purge)
    (h : helperAction operation = helperAction operation') : operation = operation' := by
  cases operation <;> cases operation' <;> first | rfl | (revert h; decide) | contradiction

theorem Checked.eq {setting setting' : Setting} {request request' : Request}
    {current current' : State} {auth auth' : Authorization} {execution execution' : Execution}
    (h : Checked setting request current auth execution)
    (h' : Checked setting' request' current' auth' execution')
    (hsigned : signedText request = signedText request') : execution = execution' := by
  obtain ⟨trust, -, hverified⟩ := h.verified
  obtain ⟨trust', -, hverified'⟩ := h'.verified
  have hbound := bound_of_verified hverified
  have hbound' := bound_of_verified hverified'
  rw [signedText, signedText, hbound.authorization, hbound'.authorization] at hsigned
  obtain ⟨haction, hget⟩ := signed_eq (Option.some.inj hsigned)
  have hagree : AgreeOn request.policy request'.policy := by
    intro field hfield
    obtain ⟨p, hp, rfl⟩ := List.mem_map.mp hfield
    rw [← hbound.parameters p hp, ← hbound'.parameters p hp, hget]
  have hparsed : execution.parsed = execution'.parsed := parsed_eq h.parsed h'.parsed hagree
  have hdryRun : execution.dryRun = execution'.dryRun := by
    have htext := hbound.dryRun
    rw [hget, hbound'.dryRun, h.dryRun, h'.dryRun] at htext
    cases hleft : execution.dryRun <;> cases hright : execution'.dryRun <;>
      first | rfl | (rw [hleft, hright] at htext; revert htext; decide)
  have hoperation : execution.operation = execution'.operation := by
    refine operation_of_action h.changes.1 h.changes.2 ?_
    rw [← h.operation, ← h'.operation, ← hbound.action, ← hbound'.action, haction]
  cases execution
  cases execution'
  rw [Execution.mk.injEq]
  exact ⟨hoperation, hdryRun, hparsed⟩

theorem Checked.independent {setting : Setting} {request : Request} {current : State}
    {auth : Authorization} {execution : Execution}
    (h : Checked setting request current auth execution) :
    request.authorization = some auth ∧
      (execution.operation ≠ .reset ∧ execution.parsed.mode = .monitorOnly ∧
          execution.parsed.egressRateBPS = 0 ∨
        auth.requesterID ≠ "" ∧ auth.approverID ≠ "" ∧ auth.requesterID ≠ auth.approverID) := by
  obtain ⟨trust, -, hverified⟩ := h.verified
  have hbound := bound_of_verified hverified
  refine ⟨hbound.authorization, ?_⟩
  by_cases hrisky : request.operation = .reset ∨ request.policy.get "mode" = "enforcing" ∨
      request.policy.get "egress_rate_bps" ≠ "0"
  · exact .inr (hbound.approved hrisky)
  · rw [not_or, not_or, not_not] at hrisky
    obtain ⟨quota, generation, hparsed⟩ := parsePolicy_ok h.parsed
    exact .inl ⟨h.operation ▸ hrisky.1, parsed_harmless hparsed hrisky.2.1 hrisky.2.2⟩

/-- The signed text alone decides what is executed, and nothing risky is executed without two
different users. -/
theorem executes_what_was_signed :
    (∀ setting setting' request request' current current' execution execution',
      checkRequest setting request current = some execution →
        checkRequest setting' request' current' = some execution' →
          signedText request = signedText request' → execution = execution') ∧
    ∀ setting request current execution, checkRequest setting request current = some execution →
      ∃ auth, request.authorization = some auth ∧
        (execution.operation ≠ .reset ∧ execution.parsed.mode = .monitorOnly ∧
            execution.parsed.egressRateBPS = 0 ∨
          auth.requesterID ≠ "" ∧ auth.approverID ≠ "" ∧ auth.requesterID ≠ auth.approverID) := by
  constructor
  · intro setting setting' request request' current current' execution execution' h h' hsigned
    obtain ⟨auth, hchecked⟩ := checkRequest_eq_some h
    obtain ⟨auth', hchecked'⟩ := checkRequest_eq_some h'
    exact hchecked.eq hchecked' hsigned
  · intro setting request current execution h
    obtain ⟨auth, hchecked⟩ := checkRequest_eq_some h
    exact ⟨auth, hchecked.independent⟩

/-- The request for one port without the empty fields of the policy, and with a field of its own. -/
def shortRequest : Request :=
  { portRequest .apply firstPolicyID "443" "task-1" with
    policy := .ofList [("mode", "monitor_only"), ("id", firstPolicyID), ("protocol", "tcp"),
      ("direction", "both"), ("port_start", "443"), ("port_end", "443"), ("quota_bytes", "0"),
      ("egress_rate_bps", "0"), ("counter_generation", "1"), ("reset_policy", "\x7b\x7d"),
      ("comment", "")] }

def portSetting : Setting := (quietCall (portRequest .apply firstPolicyID "443" "task-1")).setting

theorem executes_what_was_signed_short :
    checkRequest portSetting (portRequest .apply firstPolicyID "443" "task-1") .initial =
      checkRequest portSetting shortRequest .initial := by
  have hfull : (checkRequest portSetting (portRequest .apply firstPolicyID "443" "task-1")
      .initial).isSome = true := by
    decide +kernel
  have hshort : (checkRequest portSetting shortRequest .initial).isSome = true := by
    decide +kernel
  obtain ⟨execution, h⟩ := Option.isSome_iff_exists.mp hfull
  obtain ⟨execution', h'⟩ := Option.isSome_iff_exists.mp hshort
  rw [h, h', executes_what_was_signed.1 _ _ _ _ _ _ _ _ h h' rfl]

end VpsGuardian.NetHelper
