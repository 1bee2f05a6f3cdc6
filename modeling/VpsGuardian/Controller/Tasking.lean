import VpsGuardian.Controller.Records
import VpsGuardian.Lib.Base64
import VpsGuardian.Lib.JsonEscape

/-!
The tasks the Controller signs for its Agents (`tasking.py`).
-/

namespace VpsGuardian.Controller

open Lib

/-- The values the code gives to `AgentTask.status`, and `running`, for which it
only looks. -/
inductive TaskStatus
  | pending
  | running
  | delivered
  | succeeded
  | failed
  | cancelled
  deriving DecidableEq, Repr

structure AgentTask where
  id : String
  agentID : String
  approvalID : Option String
  requesterID : Option String
  approverID : Option String
  targetHostID : Option String
  action : String
  parameters : Dict String
  status : TaskStatus
  nonce : String
  expiresAt : Time
  signature : String
  createdAt : Time
  deriving DecidableEq

def registeredActions : List String := [
  "restart_container",
  "restart_systemd",
  "validate_caddy",
  "reload_caddy",
  "local_health_check",
  "cleanup_cache",
  "rollback_caddy_config",
  "collect_diagnostics",
  "disk_cleanup_preview",
  "restricted_cleanup",
  "restic_backup",
  "restic_check",
  "port_traffic_apply",
  "port_traffic_remove",
  "port_traffic_reset"]

/-- An Ed25519 key: what its private half signs, its public half accepts. -/
structure SigningKey where
  sign : ByteArray → List UInt8
  verify : ByteArray → List UInt8 → Bool
  verify_sign : ∀ message, verify message (sign message) = true

/-- The bytes drawn for one task: `os.urandom(16)` for `uuid4` and
`os.urandom(24)` for `token_urlsafe`. -/
structure Entropy where
  uuid : BitVec 128
  secret : List UInt8
  length : secret.length = 24

/-- The digits of a 128 bit number, most significant first. -/
def hexDigits128 (int : BitVec 128) : List Char :=
  (List.range 32).map fun i => (int.toNat / 16 ^ (31 - i) % 16).digitChar

/-- `str(uuid.uuid4())` -/
def uuid4 (random : BitVec 128) : String :=
  let variant := (random &&& ~~~(0xc000#128 <<< 48)) ||| (0x8000#128 <<< 48)
  let version := (variant &&& ~~~(0xf000#128 <<< 64)) ||| (4#128 <<< 76)
  let hex := hexDigits128 version
  .ofList (hex.take 8 ++ '-' :: (hex.drop 8).take 4 ++ '-' :: (hex.drop 12).take 4 ++
    '-' :: (hex.drop 16).take 4 ++ '-' :: hex.drop 20)

/-- `secrets.token_urlsafe(24)` -/
def tokenURLSafe (random : List UInt8) : String :=
  .ofList ((Base64.encode Base64.urlSafe random).filter (· != '='))

/-- `int(value.timestamp())`. The double that `timestamp` returns is close enough
to the exact quotient for this up to the year 2500. -/
def intTimestamp (value : Time) : Int := value.tdiv 1000000

/-- `value + delta` for a time that `datetime` can represent. -/
def addTime (value delta : Time) : Except String Time :=
  if seconds (-62135596800) ≤ value + delta ∧ value + delta < seconds 253402300800 then
    .ok (value + delta)
  else .error "date value out of range"

/-- The dictionary `task_signing_payload` builds, in its order. -/
def taskSigningPayload (taskID action : String) (parameters : Dict String) (nonce : String)
    (expiresAt : Int) (approvalID requesterID approverID targetHostID : String) : Json.Value :=
  .object [
    ("id", .string taskID),
    ("action", .string action),
    ("parameters", Json.pythonObject parameters),
    ("nonce", .string nonce),
    ("expires_at", .int expiresAt),
    ("approval_id", .string approvalID),
    ("requester_id", .string requesterID),
    ("approver_id", .string approverID),
    ("target_host_id", .string targetHostID)]

/-- `json.dumps(value, separators=(",", ":"), ensure_ascii=False).encode()` -/
def pythonBytes (value : Json.Value) : ByteArray :=
  (String.ofList (Json.render Json.pythonEscape value)).toUTF8

/-- The keyword arguments of `create_agent_task`. -/
structure TaskRequest where
  agentID : String
  action : String
  parameters : Dict String
  ttlSeconds : Int := 300
  approvalID : Option String := none
  requesterID : Option String := none
  approverID : Option String := none
  targetHostID : Option String := none

def createAgentTask (key : SigningKey) (random : Entropy) (now : Time) (request : TaskRequest) :
    Except String AgentTask := do
  raiseIf (request.action ∉ registeredActions) "action is not registered"
  raiseIf (¬ (30 ≤ request.ttlSeconds ∧ request.ttlSeconds ≤ 900))
    "task TTL is outside the permitted range"
  raiseIf (16 < request.parameters.size ∨ request.parameters.entries.any fun entry =>
    64 < entry.1.length || 1024 < entry.2.length) "task parameters exceed limits"
  let taskID := uuid4 random.uuid
  let nonce := tokenURLSafe random.secret
  let expiresAt ← addTime now (seconds request.ttlSeconds)
  let payload := pythonBytes <| taskSigningPayload taskID request.action request.parameters nonce
    (intTimestamp expiresAt) (request.approvalID.getD "") (request.requesterID.getD "")
    (request.approverID.getD "") (request.targetHostID.getD "")
  return {
    id := taskID
    agentID := request.agentID
    action := request.action
    parameters := request.parameters
    nonce := nonce
    expiresAt := expiresAt
    signature := .ofList (Base64.encode Base64.standard (key.sign payload))
    approvalID := request.approvalID
    requesterID := request.requesterID
    approverID := request.approverID
    targetHostID := request.targetHostID
    status := .pending
    createdAt := now }

/-- `serialize_agent_task`, with the parameters in the order of the stored dictionary. -/
def serializeAgentTask (task : AgentTask) : Json.Value :=
  .object [
    ("id", .string task.id),
    ("action", .string task.action),
    ("parameters", Json.stringMembers task.parameters.entries),
    ("nonce", .string task.nonce),
    ("expires_at", .int (intTimestamp task.expiresAt)),
    ("signature", .string task.signature),
    ("approval_id", .string (task.approvalID.getD "")),
    ("requester_id", .string (task.requesterID.getD "")),
    ("approver_id", .string (task.approverID.getD "")),
    ("target_host_id", .string (task.targetHostID.getD ""))]

/-- What `task_signing_payload` returns for the fields of a task. -/
def AgentTask.signingPayload (task : AgentTask) : ByteArray :=
  pythonBytes <| taskSigningPayload task.id task.action task.parameters task.nonce
    (intTimestamp task.expiresAt) (task.approvalID.getD "") (task.requesterID.getD "")
    (task.approverID.getD "") (task.targetHostID.getD "")

/-! ### What a success says -/

theorem addTime_eq_ok {value delta time : Time} : addTime value delta = .ok time ↔
    time = value + delta ∧ seconds (-62135596800) ≤ time ∧ time < seconds 253402300800 := by
  unfold addTime
  constructor
  · intro h
    split at h
    next hrange =>
      cases h
      exact ⟨rfl, hrange⟩
    next => cases h
  · rintro ⟨rfl, hrange⟩
    rw [if_pos hrange]

/-- The fields of an accepted task, and the limits it was checked against. -/
structure Created (key : SigningKey) (random : Entropy) (now : Time) (request : TaskRequest)
    (task : AgentTask) : Prop where
  action : request.action ∈ registeredActions
  ttl : 30 ≤ request.ttlSeconds ∧ request.ttlSeconds ≤ 900
  expiresAt : task.expiresAt = now + seconds request.ttlSeconds
  representable : seconds (-62135596800) ≤ task.expiresAt ∧
    task.expiresAt < seconds 253402300800
  eq : task = {
    id := uuid4 random.uuid
    agentID := request.agentID
    action := request.action
    parameters := request.parameters
    nonce := tokenURLSafe random.secret
    expiresAt := task.expiresAt
    signature := .ofList (Base64.encode Base64.standard (key.sign task.signingPayload))
    approvalID := request.approvalID
    requesterID := request.requesterID
    approverID := request.approverID
    targetHostID := request.targetHostID
    status := .pending
    createdAt := now }

theorem createAgentTask_ok {key : SigningKey} {random : Entropy} {now : Time}
    {request : TaskRequest} {task : AgentTask}
    (h : createAgentTask key random now request = .ok task) :
    Created key random now request task := by
  unfold createAgentTask at h
  obtain ⟨haction, h⟩ := raiseIf_bind_eq_ok.mp h
  obtain ⟨httl, h⟩ := raiseIf_bind_eq_ok.mp h
  obtain ⟨-, h⟩ := raiseIf_bind_eq_ok.mp h
  obtain ⟨expiresAt, hexpiresAt, h⟩ := bind_eq_ok.mp h
  obtain ⟨heq, hrepresentable⟩ := addTime_eq_ok.mp hexpiresAt
  cases h
  exact ⟨not_not.mp haction, not_not.mp httl, heq, hrepresentable, rfl⟩

/-- A request within the limits is accepted. -/
theorem exists_createAgentTask (key : SigningKey) (random : Entropy) {now : Time}
    {request : TaskRequest} (haction : request.action ∈ registeredActions)
    (httl : 30 ≤ request.ttlSeconds ∧ request.ttlSeconds ≤ 900)
    (hparameters : ¬ (16 < request.parameters.size ∨ request.parameters.entries.any fun entry =>
      64 < entry.1.length || 1024 < entry.2.length))
    (htime : addTime now (seconds request.ttlSeconds) = .ok (now + seconds request.ttlSeconds)) :
    ∃ task, createAgentTask key random now request = .ok task := by
  unfold createAgentTask raiseIf
  rw [if_neg (not_not.mpr haction), if_neg (not_not.mpr httl), if_neg hparameters, htime]
  exact ⟨_, rfl⟩

/-! ### Fixtures for concrete runs -/

/-- A key that signs a message with its own bytes. -/
def echoKey : SigningKey where
  sign message := message.data.toList
  verify message signature := signature == message.data.toList
  verify_sign _ := beq_self_eq_true _

/-- A draw in which only the identifier differs from others. -/
def Entropy.ofUUID (uuid : BitVec 128) : Entropy := ⟨uuid, List.replicate 24 0, rfl⟩

end VpsGuardian.Controller
