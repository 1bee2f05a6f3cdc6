import VpsGuardian.Lib.JsonMap
import VpsGuardian.NetHelper.Types

/-!
The signed authorization a request must carry
(`agent/nethelper/authorization.go`).
-/

namespace VpsGuardian.NetHelper

open Lib

/-- What `loadControllerTrust` returns: the local host identity, and the
Controller's key as the test whether a text has a given base64 signature. -/
structure Trust where
  hostID : String
  verifies : List Char → String → Bool

/-- `signedAuthorization`, in the order of the struct's fields. -/
def signedAuthorization (auth : Authorization) : Json.Value :=
  .object [
    ("id", .string auth.id),
    ("action", .string auth.action),
    ("parameters", Json.goObject auth.parameters),
    ("nonce", .string auth.nonce),
    ("expires_at", .int auth.expiresAt),
    ("approval_id", .string auth.approvalID),
    ("requester_id", .string auth.requesterID),
    ("approver_id", .string auth.approverID),
    ("target_host_id", .string auth.targetHostID)]

def helperAction : Operation → String
  | .apply => "port_traffic_apply"
  | .remove => "port_traffic_remove"
  | .reset => "port_traffic_reset"
  | .snapshot | .purge => ""

/-- The task parameters and the policy fields they have to agree with. -/
def boundParameters : List (String × String) := [
  ("policy_id", "id"),
  ("protocol", "protocol"),
  ("direction", "direction"),
  ("port_start", "port_start"),
  ("port_end", "port_end"),
  ("interface_name", "interface_name"),
  ("mode", "mode"),
  ("quota_bytes", "quota_bytes"),
  ("egress_rate_bps", "egress_rate_bps"),
  ("counter_generation", "counter_generation"),
  ("reset_policy", "reset_policy"),
  ("next_reset_at", "next_reset_at")]

def parameterMatches (request : Request) (auth : Authorization) (key policyKey : String) : Bool :=
  auth.parameters.get key = request.policy.get policyKey

def verifyAuthorization (request : Request) (trust : Trust) (completed : Dict Int) (now : Int) :
    Except String Authorization := do
  let some auth := request.authorization | throw "signed authorization is required"
  if auth.action ≠ helperAction request.operation then
    throw "signed authorization is required"
  if auth.id = "" ∨ auth.nonce.utf8ByteSize < 16 ∨ auth.targetHostID = "" then
    throw "signed authorization identity is invalid"
  if auth.targetHostID ≠ trust.hostID then
    throw "signed authorization targets another host"
  if auth.expiresAt < now ∨ now + 15 * 60 < auth.expiresAt then
    throw "signed authorization expiry is invalid"
  if completed.contains auth.nonce then
    throw "signed authorization nonce was already used"
  if (boundParameters.all fun p => parameterMatches request auth p.1 p.2) = false then
    throw "signed authorization parameters do not match"
  let expectedDryRun := if request.dryRun then "true" else "false"
  if auth.parameters.get "dry_run" ≠ expectedDryRun then
    throw "signed authorization dry-run state does not match"
  let risky : Bool := request.operation = .reset ∨ request.policy.get "mode" = "enforcing" ∨
    request.policy.get "egress_rate_bps" ≠ "0"
  if risky ∧ (auth.approvalID = "" ∨ auth.requesterID = "" ∨ auth.approverID = "" ∨
      auth.requesterID = auth.approverID) then
    throw "risky helper operation lacks independent approval"
  let payload := Json.render Json.goEscape (signedAuthorization auth)
  if trust.verifies payload auth.signature = false then
    throw "signed authorization signature is invalid"
  return auth

/-- The key with the least expiry, the first of them where several have it. -/
def oldestNonce (completed : Dict Int) : String :=
  (completed.entries.foldl (fun oldest entry => if entry.2 < oldest.2 then entry else oldest)
    ("", 2 ^ 63 - 1)).1

/-- Drops expired nonces, makes room for one more, and records this one. -/
def consumeNonce (completed : Dict Int) (nonce : String) (expiresAt now : Int) : Dict Int :=
  let live := completed.filter fun entry => now ≤ entry.2
  let oldest := oldestNonce live
  let kept := if 4096 ≤ live.size ∧ oldest ≠ "" then live.erase oldest else live
  kept.insert nonce expiresAt

end VpsGuardian.NetHelper
