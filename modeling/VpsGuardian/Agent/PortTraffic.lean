import VpsGuardian.Agent.Protocol
import VpsGuardian.NetHelper.Main

/-!
The port traffic action of the Agent (`agent/actions.go`): its checks of a task, and
the request it makes of the network helper.
-/

namespace VpsGuardian.Agent

open Lib

def approvalBound (task : Task) : Bool :=
  task.approvalID ≠ "" ∧ task.requesterID ≠ "" ∧ task.approverID ≠ "" ∧
    task.requesterID ≠ task.approverID ∧ task.targetHostID ≠ ""

def risky (task : Task) : Bool :=
  task.action = "port_traffic_reset" ∨ task.parameters.get "mode" = "enforcing" ∨
    task.parameters.get "egress_rate_bps" ≠ "0"

/-- The helper operation of an action. -/
def helperOperation (action : String) : Option NetHelper.Operation :=
  if action = "port_traffic_apply" then some .apply
  else if action = "port_traffic_remove" then some .remove
  else if action = "port_traffic_reset" then some .reset
  else none

/-- The task as the helper decodes it, up to the order of its parameters. -/
def authorization (task : Task) : NetHelper.Authorization where
  id := task.id
  action := task.action
  parameters := task.parameters
  nonce := task.nonce
  expiresAt := task.expiresAt
  signature := task.signature
  approvalID := task.approvalID
  requesterID := task.requesterID
  approverID := task.approverID
  targetHostID := task.targetHostID

/-- The fields of the request's policy and the parameters they are copied from. -/
def policyFields : List (String × String) := [
  ("id", "policy_id"),
  ("protocol", "protocol"),
  ("direction", "direction"),
  ("port_start", "port_start"),
  ("port_end", "port_end"),
  ("interface_name", "interface_name"),
  ("mode", "mode"),
  ("quota_bytes", "quota_bytes"),
  ("egress_rate_bps", "egress_rate_bps"),
  ("counter_generation", "counter_generation"),
  ("reset_policy", "reset_policy"),
  ("next_reset_at", "next_reset_at")]

def requestPolicy (parameters : Dict String) : Dict String :=
  .ofList (policyFields.map fun field => (field.1, parameters.get field.2))

/-- `portTraffic` up to the call of the helper. -/
def portTrafficRequest (task : Task) : Except String NetHelper.Request := do
  raiseIf (risky task ∧ ¬ approvalBound task)
    "port traffic change requires bound independent approval"
  raiseIf (task.action = "port_traffic_reset" ∧
      (¬ approvalBound task ∨ task.parameters.get "second_confirmation" ≠ "confirmed"))
    "port traffic reset requires independent approval and confirmation"
  let operation ← orRaise (helperOperation task.action) "action is not registered"
  return {
    operation := operation
    dryRun := decide (task.parameters.get "dry_run" ≠ "false")
    policy := requestPolicy task.parameters
    authorization := some (authorization task) }

theorem requestPolicy_nodup (parameters : Dict String) :
    ((policyFields.map fun field => (field.1, parameters.get field.2)).map Prod.fst).Nodup := by
  have hkeys : (policyFields.map fun field => (field.1, parameters.get field.2)).map Prod.fst =
      policyFields.map Prod.fst := by
    rw [List.map_map]
    rfl
  rw [hkeys]
  decide

/-- Each field of the request has the value of its parameter. -/
theorem get_requestPolicy {parameters : Dict String} {field parameter : String}
    (h : (field, parameter) ∈ policyFields) :
    (requestPolicy parameters).get field = parameters.get parameter := by
  have hmem : (field, parameters.get parameter) ∈
      policyFields.map fun field => (field.1, parameters.get field.2) :=
    List.mem_map.mpr ⟨_, h, rfl⟩
  rw [Dict.get, requestPolicy, Dict.get?_ofList_of_mem (requestPolicy_nodup parameters) hmem]
  rfl

theorem size_requestPolicy (parameters : Dict String) : (requestPolicy parameters).size = 12 := by
  rw [Dict.size, requestPolicy, Dict.entries_ofList (requestPolicy_nodup parameters)]
  rfl

end VpsGuardian.Agent
