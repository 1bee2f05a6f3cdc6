import VpsGuardian.Lib.Run
import VpsGuardian.NetHelper.Durable

/-!
The owned policies keep clear of each other, as long as no update moves a policy
onto the ports of another one.

A new policy is compared with every owned one before it is added. An update of
an owned policy replaces its protocol and ports without that comparison.
-/

namespace VpsGuardian.NetHelper

open Lib

/-- What of a policy decides whether it overlaps another one. -/
structure Scope where
  id : String
  protocol : Protocol
  portStart : Int
  portEnd : Int
  deriving DecidableEq

def Policy.scope (p : Policy) : Scope := ⟨p.id, p.protocol, p.portStart, p.portEnd⟩

def Scope.overlaps (left right : Scope) : Bool :=
  let protocolOverlap := left.protocol = .both ∨ right.protocol = .both ∨
    left.protocol = right.protocol
  protocolOverlap ∧ left.portStart ≤ right.portEnd ∧ right.portStart ≤ left.portEnd

theorem overlaps_eq_scope (p q : Policy) : overlaps p q = p.scope.overlaps q.scope := rfl

theorem overlaps_comm (p q : Policy) : overlaps p q = overlaps q p := by
  unfold overlaps
  refine decide_eq_decide.mpr ?_
  constructor <;> rintro ⟨hprotocol, hleft, hright⟩ <;> refine ⟨?_, hright, hleft⟩
  all_goals
    rcases hprotocol with h | h | h
    · exact .inr (.inl h)
    · exact .inl h
    · exact .inr (.inr h.symm)

/-- Distinct ids, at most the permitted number, and no two that overlap. -/
structure Separate (policies : List Policy) : Prop where
  ids : (policies.map (·.id)).Nodup
  limit : policies.length ≤ maxPolicies
  clear : policies.Pairwise fun p q => overlaps p q = false

namespace Separate

theorem nil : Separate [] := ⟨List.nodup_nil, Nat.zero_le _, .nil⟩

/-- Only the scopes matter. -/
theorem of_scopes {policies policies' : List Policy}
    (h : policies'.map (·.scope) = policies.map (·.scope)) (hs : Separate policies) :
    Separate policies' := by
  have hids (l : List Policy) : l.map (·.id) = (l.map (·.scope)).map (·.id) := by
    rw [List.map_map]
    rfl
  have hclear (l : List Policy) : l.Pairwise (fun p q => overlaps p q = false) ↔
      (l.map (·.scope)).Pairwise fun p q => p.overlaps q = false := by
    rw [List.pairwise_map]
    rfl
  refine ⟨?_, ?_, ?_⟩
  · rw [hids, h, ← hids]
    exact hs.ids
  · have hlength := congrArg List.length h
    simp only [List.length_map] at hlength
    exact hlength ▸ hs.limit
  · rw [hclear, h, ← hclear]
    exact hs.clear

theorem sublist {policies policies' : List Policy} (h : policies'.Sublist policies)
    (hs : Separate policies) : Separate policies' :=
  ⟨hs.ids.sublist (h.map _), h.length_le.trans hs.limit, hs.clear.sublist h⟩

/-- One policy more, with a new id and clear of the others. -/
theorem append_singleton {policies : List Policy} {p : Policy} (hs : Separate policies)
    (hlimit : policies.length < maxPolicies) (hid : ∀ q ∈ policies, q.id ≠ p.id)
    (hp : ∀ q ∈ policies, overlaps p q = false) : Separate (policies ++ [p]) := by
  refine ⟨?_, ?_, ?_⟩
  · rw [List.map_append, List.nodup_append]
    refine ⟨hs.ids, by simp, ?_⟩
    intro a ha b hb
    obtain ⟨q, hq, rfl⟩ := List.mem_map.mp ha
    obtain rfl : b = p.id := by simpa using hb
    exact hid q hq
  · rw [List.length_append]
    exact hlimit
  · rw [List.pairwise_append]
    refine ⟨hs.clear, List.pairwise_singleton _ _, ?_⟩
    intro q hq r hr
    obtain rfl : r = p := by simpa using hr
    rw [overlaps_comm]
    exact hp q hq

/-- Another policy in the place of one with the same id, clear of the others. -/
theorem replace {before after : List Policy} {p p' : Policy}
    (hs : Separate (before ++ p :: after)) (hid : p'.id = p.id)
    (hp : ∀ q ∈ before ++ after, overlaps p' q = false) : Separate (before ++ p' :: after) := by
  refine ⟨?_, ?_, ?_⟩
  · simpa [hid] using hs.ids
  · simpa using hs.limit
  · have hclear := hs.clear
    rw [List.pairwise_append, List.pairwise_cons] at hclear ⊢
    obtain ⟨hbefore, ⟨-, hafter⟩, hcross⟩ := hclear
    refine ⟨hbefore, ⟨fun q hq => hp q (by simp [hq]), hafter⟩, ?_⟩
    intro q hq r hr
    rcases List.mem_cons.mp hr with rfl | hr
    · rw [overlaps_comm]
      exact hp q (by simp [hq])
    · exact hcross q hq r (by simp [hr])

/-- What is clear of the neighbours of one policy in a separate list. -/
theorem clear_of_mem {before after : List Policy} {p : Policy}
    (hs : Separate (before ++ p :: after)) : ∀ q ∈ before ++ after, overlaps p q = false := by
  have hclear := hs.clear
  rw [List.pairwise_append, List.pairwise_cons] at hclear
  obtain ⟨-, ⟨hnext, -⟩, hcross⟩ := hclear
  intro q hq
  rcases List.mem_append.mp hq with hq | hq
  · rw [overlaps_comm]
    exact hcross q hq p (by simp)
  · exact hnext q hq

theorem id_ne_of_mem {before after : List Policy} {p : Policy}
    (hs : Separate (before ++ p :: after)) : ∀ q ∈ before ++ after, q.id ≠ p.id := by
  have hids := hs.ids
  rw [List.map_append, List.map_cons, List.nodup_append, List.nodup_cons] at hids
  obtain ⟨-, ⟨hnext, -⟩, hcross⟩ := hids
  intro q hq heq
  rcases List.mem_append.mp hq with hq | hq
  · exact hcross q.id (List.mem_map_of_mem hq) p.id (by simp) heq
  · exact hnext (heq ▸ List.mem_map_of_mem hq)

end Separate

/-! ### One request -/

/-- A requested policy that takes the place of an owned one is clear of all others. -/
def ClearOfOthers (policies : List Policy) (operation : Operation) (parsed : Policy) : Prop :=
  operation = .apply → (∃ p ∈ policies, p.id = parsed.id) →
    ∀ q ∈ policies, q.id ≠ parsed.id → overlaps parsed q = false

theorem desiredPolicies_separate {policies policies' : List Policy} {operation : Operation}
    {parsed : Policy} {clock : Int} (hs : Separate policies)
    (hclear : ClearOfOthers policies operation parsed)
    (h : desiredPolicies policies operation parsed clock = .ok policies') :
    Separate policies' := by
  obtain rfl | ⟨-, hid, hlimit, hnew, rfl⟩ | ⟨before, p, after, rfl, hp, hchange⟩ :=
    desiredPolicies_cases h
  · exact hs
  · exact hs.append_singleton hlimit hid hnew
  · obtain ⟨rfl, rfl⟩ | ⟨rfl, rfl⟩ | ⟨rfl, rfl⟩ := hchange
    · refine hs.replace hp.symm fun q hq => ?_
      have hne := hs.id_ne_of_mem q hq
      rw [hp] at hne
      have hmem : q ∈ before ++ p :: after := by
        rcases List.mem_append.mp hq with hq | hq <;> simp [hq]
      exact hclear rfl ⟨p, by simp, hp⟩ q hmem hne
    · exact hs.sublist (by simp)
    · exact hs.replace rfl hs.clear_of_mem

/-! ### One call -/

theorem absorb_scopes (policies : List Policy) (raw : Reading) :
    (policies.map (absorbPolicy raw)).map (·.scope) = policies.map (·.scope) := by
  rw [List.map_map]
  rfl

theorem separate_closed : Closed Separate where
  absorb policies raw hs := hs.of_scopes (absorb_scopes policies raw)
  checkpoint policies raw hs := by
    refine hs.of_scopes ?_
    rw [List.map_map]
    rfl
  empty := .nil

theorem ClearOfOthers.of_scopes {policies policies' : List Policy} {operation : Operation}
    {parsed : Policy} (h : policies'.map (·.scope) = policies.map (·.scope))
    (hclear : ClearOfOthers policies operation parsed) :
    ClearOfOthers policies' operation parsed := by
  have hscope {q : Policy} (hq : q ∈ policies') : ∃ p ∈ policies, p.scope = q.scope := by
    have hmem : q.scope ∈ policies.map (·.scope) := h ▸ List.mem_map_of_mem hq
    simpa using hmem
  have hid {p q : Policy} (hpq : p.scope = q.scope) : p.id = q.id := congrArg Scope.id hpq
  intro hoperation howned q hq hne
  obtain ⟨p, hp, hpid⟩ := howned
  obtain ⟨p₀, hp₀, hscope₀⟩ := hscope hp
  obtain ⟨q₀, hq₀, hscope₁⟩ := hscope hq
  rw [overlaps_eq_scope, ← hscope₁, ← overlaps_eq_scope]
  exact hclear hoperation ⟨p₀, hp₀, (hid hscope₀).trans hpid⟩ q₀ hq₀ (hid hscope₁ ▸ hne)

/-- An update of an owned policy keeps clear of the other owned policies. -/
def UpdatesClear (h : Helper) (call : Call) : Prop :=
  ∀ parsed, parsePolicy call.setting.interfaceExists call.request.policy (!call.request.dryRun) =
      .ok parsed → ClearOfOthers h.durable.policies call.request.operation parsed

instance (policies : List Policy) (operation : Operation) (parsed : Policy) :
    Decidable (ClearOfOthers policies operation parsed) :=
  inferInstanceAs (Decidable (_ → _ → _))

instance (h : Helper) (call : Call) : Decidable (UpdatesClear h call) :=
  match hparse : parsePolicy call.setting.interfaceExists call.request.policy
      (!call.request.dryRun) with
  | .ok parsed =>
      decidable_of_iff (ClearOfOthers h.durable.policies call.request.operation parsed) (by
        simp [UpdatesClear, hparse])
  | .error _ => isTrue (by simp [UpdatesClear, hparse])

theorem step_separate {h : Helper} {call : Call} (hcall : UpdatesClear h call)
    (hs : Separate h.durable.policies) : Separate (h.step call).durable.policies := by
  refine step_keeps separate_closed (fun parsed hparsed raw clock policies' hpolicies' => ?_) hs
  have hscopes := absorb_scopes h.durable.policies raw
  exact desiredPolicies_separate (hs.of_scopes hscopes)
    ((hcall parsed hparsed).of_scopes hscopes) hpolicies'

/-! ### All runs -/

/-- In every run of the helper whose updates keep clear of the other owned
policies, the owned policies are separate. -/
theorem separate_of_updatesClear (calls : List Call)
    (h : Meets Helper.step UpdatesClear Helper.initial calls) :
    Separate (run Helper.step Helper.initial calls).durable.policies :=
  run_invariant (I := fun h => Separate h.durable.policies)
    (fun _ _ hcall hs => step_separate hcall hs) Separate.nil h

/-- An authorized request about one port, by task `task`. -/
def portRequest (operation : Operation) (id port task : String) : Request where
  operation
  dryRun := false
  policy := .ofList [("id", id), ("protocol", "tcp"), ("direction", "both"), ("port_start", port),
    ("port_end", port), ("interface_name", ""), ("mode", "monitor_only"), ("quota_bytes", "0"),
    ("egress_rate_bps", "0"), ("counter_generation", "1"), ("reset_policy", "\x7b\x7d"),
    ("next_reset_at", "")]
  authorization := some {
    id := task
    action := helperAction operation
    parameters := .ofList [("policy_id", id), ("protocol", "tcp"), ("direction", "both"),
      ("port_start", port), ("port_end", port), ("interface_name", ""),
      ("mode", "monitor_only"), ("quota_bytes", "0"), ("egress_rate_bps", "0"),
      ("counter_generation", "1"), ("reset_policy", "\x7b\x7d"), ("next_reset_at", ""),
      ("dry_run", "false")]
    nonce := task ++ "-nonce-0123456789"
    expiresAt := 1000
    signature := "signature"
    approvalID := "approval"
    requesterID := "requester"
    approverID := "approver"
    targetHostID := "host" }

/-- A call in which nothing fails and no counter grows. -/
def quietCall (request : Request) : Call where
  setting := ⟨false, some ⟨"host", fun _ _ => true⟩, fun _ => true, 900, 900⟩
  request
  ticks := []
  orders := []
  writes := []

def firstPolicyID : String := "2d3880fe-23f0-4bd3-bca2-1eea349b2e2c"

def secondPolicyID : String := "7f3880fe-23f0-4bd3-bca2-1eea349b2e2c"

/-- Two policies on two ports, then an update that moves the second one onto the
port of the first. -/
def collidingCalls : List Call :=
  [quietCall (portRequest .apply firstPolicyID "443" "task-1"),
   quietCall (portRequest .apply secondPolicyID "80" "task-2"),
   quietCall (portRequest .apply secondPolicyID "443" "task-3")]

/-- Every call succeeds, and the two policies end up on the same port. -/
theorem update_collides :
    Meets Helper.step (fun h call => (h.serve call).1.isOk = true) Helper.initial
        collidingCalls ∧
      ¬Separate (run Helper.step Helper.initial collidingCalls).durable.policies := by
  refine ⟨by decide +kernel, fun hs => ?_⟩
  exact absurd hs.clear (by decide +kernel)

/-- The same update to a free port. -/
theorem separate_of_updatesClear_free_port :
    Separate (run Helper.step Helper.initial
      [quietCall (portRequest .apply firstPolicyID "443" "task-1"),
       quietCall (portRequest .apply secondPolicyID "80" "task-2"),
       quietCall (portRequest .apply secondPolicyID "8080" "task-3")]).durable.policies :=
  separate_of_updatesClear _ (by decide +kernel)

end VpsGuardian.NetHelper
