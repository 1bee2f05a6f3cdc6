import VpsGuardian.Agent.Protocol
import VpsGuardian.Controller.Tasking
import VpsGuardian.Lib.JsonRoundTrip

/-!
The signed bytes of a task on both sides of the protocol.

The Controller signs what Python's encoder writes; the Agent and its network
helper check the signature over what Go's encoder writes. The two texts differ
in the characters that Go escapes for HTML, and in nothing else.
-/

namespace VpsGuardian.Protocol.Signing

open Lib
open Controller (AgentTask Entropy SigningKey TaskRequest Time Created createAgentTask
  serializeAgentTask taskSigningPayload echoKey pythonBytes intTimestamp seconds minutes)
open VpsGuardian.Agent (Task decodeTask decodeAuthorization marshalTask taskPayload goBytes
  verifyTask unix)

/-- The heartbeat response carries a task as Python's compact encoder writes it. -/
def toAgent (task : AgentTask) : Option Task :=
  (Json.parse (.ofList (Json.render Json.pythonEscape (serializeAgentTask task)))).bind decodeTask

/-- The Agent passes a task on to its helper as Go's encoder writes it. -/
def toHelper (task : Task) : Option NetHelper.Authorization :=
  (Json.parse (.ofList (Json.render Json.goEscape (marshalTask task)))).bind decodeAuthorization

/-- The bytes over which the helper checks the signature. -/
def helperPayload (auth : NetHelper.Authorization) : ByteArray :=
  goBytes (NetHelper.signedAuthorization auth)

/-- What the two sides have to agree on about a task created at some time: the
bytes that the Controller signed are those that the Agent and its helper check,
and the Agent accepts the task until it expires. -/
structure Agree (key : SigningKey) (created : Time) (task : AgentTask) : Prop where
  signed : task.signature =
    .ofList (Base64.encode Base64.standard (key.sign task.signingPayload))
  agent : ∃ received, toAgent task = some received ∧ taskPayload received = task.signingPayload ∧
    ∀ now, created ≤ now → now ≤ task.expiresAt → verifyTask received key.verify now = .ok ()
  helper : ∃ received auth, toAgent task = some received ∧ toHelper received = some auth ∧
    helperPayload auth = task.signingPayload

/-- No character that Go escapes for HTML: `<`, `>`, `&`, U+2028, U+2029. -/
def HTMLFree (s : String) : Prop := ∀ c ∈ s.toList, Json.isHTMLSensitive c = false

/-- No parameter and no id of the request has a character that Go escapes for HTML. -/
structure Plain (request : TaskRequest) : Prop where
  parameters : ∀ entry ∈ request.parameters.entries, HTMLFree entry.1 ∧ HTMLFree entry.2
  approvalID : HTMLFree (request.approvalID.getD "")
  requesterID : HTMLFree (request.requesterID.getD "")
  approverID : HTMLFree (request.approverID.getD "")
  targetHostID : HTMLFree (request.targetHostID.getD "")

/-! ### Transport -/

/-- The task as the Agent decodes it. -/
def view (task : AgentTask) : Task where
  id := task.id
  action := task.action
  parameters := task.parameters
  nonce := task.nonce
  expiresAt := intTimestamp task.expiresAt
  signature := task.signature
  approvalID := task.approvalID.getD ""
  requesterID := task.requesterID.getD ""
  approverID := task.approverID.getD ""
  targetHostID := task.targetHostID.getD ""

/-- The whole seconds of a time, which Python rounds towards zero. -/
theorem intTimestamp_bounds (time : Time) :
    time / 1000000 ≤ intTimestamp time ∧ intTimestamp time ≤ time / 1000000 + 1 ∧
      (0 ≤ time → intTimestamp time = time / 1000000) := by
  unfold intTimestamp Time at *
  rw [Int.tdiv_eq_ediv]
  have hsign : (1000000 : Int).sign = 1 := rfl
  rw [hsign]
  split
  next => omega
  next h =>
    rw [not_or] at h
    omega

/-- The time of a datetime fits into 64 bits. -/
theorem intTimestamp_range {time : Time}
    (h : seconds (-62135596800) ≤ time ∧ time < seconds 253402300800) :
    -2 ^ 63 ≤ intTimestamp time ∧ intTimestamp time < 2 ^ 63 := by
  have hbounds := intTimestamp_bounds time
  unfold seconds at h
  unfold Time at *
  omega

theorem toAgent_eq {task : AgentTask}
    (h : seconds (-62135596800) ≤ task.expiresAt ∧ task.expiresAt < seconds 253402300800) :
    toAgent task = some (view task) := by
  have hparameters : Agent.mapField (serializeAgentTask task) "parameters" =
      some task.parameters :=
    Agent.mapField_stringMembers rfl task.parameters.ofList_entries
  have hexpires : Agent.int64Field (serializeAgentTask task) "expires_at" =
      some (intTimestamp task.expiresAt) :=
    Agent.int64Field_int rfl (intTimestamp_range h)
  rw [toAgent, Json.parse_render Json.unescapes_python, Option.bind_some, decodeTask,
    hparameters, hexpires]
  rfl

theorem toHelper_eq {task : Task} (h : -2 ^ 63 ≤ task.expiresAt ∧ task.expiresAt < 2 ^ 63) :
    ∃ auth, toHelper task = some auth ∧
      NetHelper.signedAuthorization auth = Agent.signedTask task := by
  have hparameters : Agent.mapField (marshalTask task) "parameters" =
      some (Json.goSorted task.parameters) :=
    Agent.mapField_stringMembers rfl (Json.goSorted task.parameters).ofList_entries
  have hexpires : Agent.int64Field (marshalTask task) "expires_at" = some task.expiresAt :=
    Agent.int64Field_int rfl h
  have hdecode : decodeTask (marshalTask task) =
      some { task with parameters := Json.goSorted task.parameters } := by
    rw [decodeTask, hparameters, hexpires]
    rfl
  rw [toHelper, Json.parse_render Json.unescapes_go, Option.bind_some, decodeAuthorization,
    hdecode]
  refine ⟨_, rfl, ?_⟩
  simp only [NetHelper.signedAuthorization, Agent.signedTask, Json.goObject_goSorted]

/-! ### The signed text -/

/-- What Python's encoder writes for the signature of a task. -/
def signedValue (task : AgentTask) : Json.Value :=
  taskSigningPayload task.id task.action task.parameters task.nonce (intTimestamp task.expiresAt)
    (task.approvalID.getD "") (task.requesterID.getD "") (task.approverID.getD "")
    (task.targetHostID.getD "")

/-- Both sides sign one and the same JSON value. -/
theorem signedTask_view (task : AgentTask) : Agent.signedTask (view task) = signedValue task := by
  simp only [Agent.signedTask, view, signedValue, taskSigningPayload, Json.goObject_eq_pythonObject]

theorem toUTF8_inj {cs ds : List Char} :
    (String.ofList cs).toUTF8 = (String.ofList ds).toUTF8 ↔ cs = ds := by
  constructor
  · intro h
    exact String.ofList_injective (String.toByteArray_inj.mp h)
  · rintro rfl
    rfl

/-- The bytes of the two sides are equal exactly when no string of the value has
a character that Go escapes for HTML. -/
theorem goBytes_eq_pythonBytes_iff (v : Json.Value) :
    goBytes v = pythonBytes v ↔ ∀ c ∈ Json.chars v, Json.isHTMLSensitive c = false := by
  rw [goBytes, pythonBytes, toUTF8_inj, eq_comm, Json.render_python_eq_render_go_iff]

theorem forall_chars_pythonObject {P : Char → Prop} {m : Dict String} :
    (∀ c ∈ Json.chars (Json.pythonObject m), P c) ↔
      ∀ entry ∈ m.entries, (∀ c ∈ entry.1.toList, P c) ∧ ∀ c ∈ entry.2.toList, P c := by
  rw [Json.pythonObject, Json.stringMembers, Json.chars, Json.forall_charsMembers]
  simp only [List.forall_mem_map, List.mem_insertionSort, Json.chars]

/-! ### Names and random text have no sensitive character -/

theorem htmlFree_registered {action : String} (h : action ∈ Controller.registeredActions) :
    HTMLFree action := by
  have hall : (Controller.registeredActions.all fun action =>
      action.toList.all fun c => !Json.isHTMLSensitive c) = true := by decide +kernel
  intro c hc
  simpa using List.all_eq_true.mp (List.all_eq_true.mp hall action h) c hc

theorem urlSafe_not_sensitive {c : Char} (h : c ∈ Base64.urlSafe) :
    Json.isHTMLSensitive c = false := by
  have hall : (Base64.urlSafe.all fun c => !Json.isHTMLSensitive c) = true := by decide
  simpa using List.all_eq_true.mp hall c h

theorem tokenURLSafe_eq (random : Entropy) :
    Controller.tokenURLSafe random.secret =
      .ofList (Base64.encode Base64.urlSafe random.secret) := by
  have hpadding := Base64.padding_not_mem_encode Base64.isAlphabet_urlSafe random.secret
    (by rw [random.length])
  have hfilter : (Base64.encode Base64.urlSafe random.secret).filter (· != '=') =
      Base64.encode Base64.urlSafe random.secret := by
    rw [List.filter_eq_self]
    intro c hc
    have hne : c ≠ '=' := fun heq => hpadding (heq ▸ hc)
    simpa using hne
  rw [Controller.tokenURLSafe, hfilter]

theorem htmlFree_tokenURLSafe (random : Entropy) :
    HTMLFree (Controller.tokenURLSafe random.secret) := by
  intro c hc
  rw [tokenURLSafe_eq, String.toList_ofList] at hc
  obtain hc | rfl := Base64.mem_encode Base64.isAlphabet_urlSafe random.secret c hc
  · exact urlSafe_not_sensitive hc
  · rfl

/-- 24 bytes give 32 digits. -/
theorem length_tokenURLSafe (random : Entropy) :
    (Controller.tokenURLSafe random.secret).length = 32 := by
  rw [tokenURLSafe_eq, String.length_ofList, Base64.length_encode, random.length]

theorem hexDigit_not_sensitive {n : Nat} (h : n < 16) :
    Json.isHTMLSensitive n.digitChar = false := by
  revert n
  decide

theorem mem_hexDigits128 {int : BitVec 128} {c : Char} (h : c ∈ Controller.hexDigits128 int) :
    Json.isHTMLSensitive c = false := by
  obtain ⟨i, -, rfl⟩ := List.mem_map.mp h
  exact hexDigit_not_sensitive (Nat.mod_lt _ (by decide))

theorem htmlFree_uuid4 (random : BitVec 128) : HTMLFree (Controller.uuid4 random) := by
  intro c hc
  rw [Controller.uuid4] at hc
  simp only [String.toList_ofList, List.cons_append, List.append_assoc, List.mem_append,
    List.mem_cons] at hc
  obtain hc | rfl | hc | rfl | hc | rfl | hc | rfl | hc := hc
  · exact mem_hexDigits128 (List.mem_of_mem_take hc)
  · rfl
  · exact mem_hexDigits128 (List.mem_of_mem_drop (List.mem_of_mem_take hc))
  · rfl
  · exact mem_hexDigits128 (List.mem_of_mem_drop (List.mem_of_mem_take hc))
  · rfl
  · exact mem_hexDigits128 (List.mem_of_mem_drop (List.mem_of_mem_take hc))
  · rfl
  · exact mem_hexDigits128 (List.mem_of_mem_drop hc)

theorem uuid4_ne_empty (random : BitVec 128) : Controller.uuid4 random ≠ "" := by
  intro h
  have htext := congrArg String.toList h
  rw [Controller.uuid4] at htext
  simp at htext

/-! ### Agreement -/

theorem htmlFree_of_all {s : String} (h : (s.toList.all fun c => !Json.isHTMLSensitive c) = true) :
    HTMLFree s := by
  intro c hc
  simpa using List.all_eq_true.mp h c hc

/-- The field names are the same for all tasks. -/
theorem forall_chars_signedValue {task : AgentTask} :
    (∀ c ∈ Json.chars (signedValue task), Json.isHTMLSensitive c = false) ↔
      HTMLFree task.id ∧ HTMLFree task.action ∧
      (∀ entry ∈ task.parameters.entries, HTMLFree entry.1 ∧ HTMLFree entry.2) ∧
      HTMLFree task.nonce ∧ HTMLFree (task.approvalID.getD "") ∧
      HTMLFree (task.requesterID.getD "") ∧ HTMLFree (task.approverID.getD "") ∧
      HTMLFree (task.targetHostID.getD "") := by
  have hid : HTMLFree "id" := htmlFree_of_all rfl
  have haction : HTMLFree "action" := htmlFree_of_all rfl
  have hparameters : HTMLFree "parameters" := htmlFree_of_all rfl
  have hnonce : HTMLFree "nonce" := htmlFree_of_all rfl
  have hexpires : HTMLFree "expires_at" := htmlFree_of_all rfl
  have happroval : HTMLFree "approval_id" := htmlFree_of_all rfl
  have hrequester : HTMLFree "requester_id" := htmlFree_of_all rfl
  have happrover : HTMLFree "approver_id" := htmlFree_of_all rfl
  have htarget : HTMLFree "target_host_id" := htmlFree_of_all rfl
  unfold HTMLFree at *
  rw [signedValue, taskSigningPayload, Json.chars, Json.forall_charsMembers]
  simp only [List.forall_mem_cons, List.not_mem_nil, false_implies, implies_true, and_true,
    forall_chars_pythonObject, Json.chars, Json.Value.int]
  constructor
  · rintro ⟨⟨-, h₁⟩, ⟨-, h₂⟩, ⟨-, h₃⟩, ⟨-, h₄⟩, -, ⟨-, h₅⟩, ⟨-, h₆⟩, ⟨-, h₇⟩, -, h₈⟩
    exact ⟨h₁, h₂, h₃, h₄, h₅, h₆, h₇, h₈⟩
  · rintro ⟨h₁, h₂, h₃, h₄, h₅, h₆, h₇, h₈⟩
    exact ⟨⟨hid, h₁⟩, ⟨haction, h₂⟩, ⟨hparameters, h₃⟩, ⟨hnonce, h₄⟩, hexpires, ⟨happroval, h₅⟩,
      ⟨hrequester, h₆⟩, ⟨happrover, h₇⟩, htarget, h₈⟩

/-- For an accepted task, the sensitive characters can only be in the parameters
and the ids of the request. -/
theorem plain_iff {key : SigningKey} {random : Entropy} {now : Time} {request : TaskRequest}
    {task : AgentTask} (h : Created key random now request task) :
    (∀ c ∈ Json.chars (signedValue task), Json.isHTMLSensitive c = false) ↔ Plain request := by
  have hid : task.id = Controller.uuid4 random.uuid := congrArg AgentTask.id h.eq
  have haction : task.action = request.action := congrArg AgentTask.action h.eq
  have hparameters : task.parameters = request.parameters := congrArg AgentTask.parameters h.eq
  have hnonce : task.nonce = Controller.tokenURLSafe random.secret :=
    congrArg AgentTask.nonce h.eq
  have happroval : task.approvalID = request.approvalID := congrArg AgentTask.approvalID h.eq
  have hrequester : task.requesterID = request.requesterID := congrArg AgentTask.requesterID h.eq
  have happrover : task.approverID = request.approverID := congrArg AgentTask.approverID h.eq
  have htarget : task.targetHostID = request.targetHostID := congrArg AgentTask.targetHostID h.eq
  rw [forall_chars_signedValue, hid, haction, hparameters, hnonce, happroval, hrequester,
    happrover, htarget]
  constructor
  · rintro ⟨-, -, hentries, -, happroval, hrequester, happrover, htarget⟩
    exact ⟨hentries, happroval, hrequester, happrover, htarget⟩
  · rintro ⟨hentries, happroval, hrequester, happrover, htarget⟩
    exact ⟨htmlFree_uuid4 random.uuid, htmlFree_registered h.action, hentries,
      htmlFree_tokenURLSafe random, happroval, hrequester, happrover, htarget⟩

theorem signature_eq {key : SigningKey} {random : Entropy} {now : Time} {request : TaskRequest}
    {task : AgentTask} (h : Created key random now request task) :
    task.signature = .ofList (Base64.encode Base64.standard (key.sign task.signingPayload)) :=
  congrArg AgentTask.signature h.eq

/-- Where the bytes agree, the Agent accepts the task until it expires. -/
theorem verifyTask_view {key : SigningKey} {random : Entropy} {created : Nat}
    {request : TaskRequest} {task : AgentTask} (h : Created key random created request task)
    (hpayload : taskPayload (view task) = task.signingPayload) {now : Time}
    (hcreated : (created : Time) ≤ now) (hexpires : now ≤ task.expiresAt) :
    verifyTask (view task) key.verify now = .ok () := by
  have hidentity : ¬ ((view task).id = "" ∨ (view task).nonce.utf8ByteSize < 16) := by
    have hid : (view task).id = Controller.uuid4 random.uuid := congrArg AgentTask.id h.eq
    have hnonce : (view task).nonce = Controller.tokenURLSafe random.secret :=
      congrArg AgentTask.nonce h.eq
    have hlength := Agent.length_le_utf8ByteSize (Controller.tokenURLSafe random.secret)
    rw [length_tokenURLSafe] at hlength
    rw [hid, hnonce]
    rintro (hempty | hshort)
    · exact uuid4_ne_empty random.uuid hempty
    · omega
  have hexpiry : ¬ ((view task).expiresAt < unix now ∨
      unix (now + minutes 15) < (view task).expiresAt) := by
    have hbounds := intTimestamp_bounds task.expiresAt
    have httl := h.ttl
    have hsum := h.expiresAt
    simp only [view, unix, minutes, seconds] at hsum ⊢
    unfold Time at *
    omega
  have hsignature : Agent.decodeString (view task).signature =
      some (key.sign task.signingPayload) := by
    rw [show (view task).signature = task.signature from rfl, signature_eq h]
    exact Agent.decodeString_encode _
  have hverify : ¬ key.verify (taskPayload (view task)) (key.sign task.signingPayload) = false := by
    rw [hpayload, key.verify_sign]
    decide
  unfold verifyTask
  rw [raiseIf_bind_eq_ok]
  refine ⟨hidentity, ?_⟩
  rw [raiseIf_bind_eq_ok]
  refine ⟨hexpiry, ?_⟩
  rw [orRaise_bind_eq_ok]
  exact ⟨_, hsignature, if_neg hverify⟩

/-- The bytes the Agent checks are the signed ones exactly for a plain request. -/
theorem taskPayload_view_iff {key : SigningKey} {random : Entropy} {now : Time}
    {request : TaskRequest} {task : AgentTask} (h : Created key random now request task) :
    taskPayload (view task) = task.signingPayload ↔ Plain request := by
  rw [taskPayload, signedTask_view, ← plain_iff h]
  exact goBytes_eq_pythonBytes_iff (signedValue task)

theorem Agree.taskPayload_view {key : SigningKey} {random : Entropy} {created now : Time}
    {request : TaskRequest} {task : AgentTask} (hcreated : Created key random now request task)
    (h : Agree key created task) : taskPayload (view task) = task.signingPayload := by
  obtain ⟨received, hreceived, hpayload, -⟩ := h.agent
  rw [toAgent_eq hcreated.representable, Option.some.injEq] at hreceived
  subst hreceived
  exact hpayload

/-- For every accepted task, the two sides agree on the signed bytes exactly when
no parameter and no id has one of the five characters that Go escapes for HTML. -/
theorem agree_iff_plain (key : SigningKey) (random : Entropy) (created : Nat)
    (request : TaskRequest) (task : AgentTask)
    (h : createAgentTask key random created request = .ok task) :
    Agree key created task ↔ Plain request := by
  have hcreated := Controller.createAgentTask_ok h
  have hrange := intTimestamp_range hcreated.representable
  have hview := toAgent_eq hcreated.representable
  constructor
  · intro hagree
    exact (taskPayload_view_iff hcreated).mp (hagree.taskPayload_view hcreated)
  · intro hplain
    have hpayload := (taskPayload_view_iff hcreated).mpr hplain
    obtain ⟨auth, hauth, hsigned⟩ := @toHelper_eq (view task) hrange
    refine ⟨signature_eq hcreated, ⟨view task, hview, hpayload, fun now => ?_⟩,
      ⟨view task, auth, hview, hauth, ?_⟩⟩
    · exact verifyTask_view hcreated hpayload
    · rw [helperPayload, hsigned]
      exact hpayload

/-! ### A health check of two addresses -/

def healthCheck (address : String) : TaskRequest where
  agentID := "agent-1"
  action := "local_health_check"
  parameters := ⟨[("target", address), ("dry_run", "false")], by simp⟩

theorem exists_healthCheck (address : String) (h : address.length ≤ 1024) :
    ∃ task, createAgentTask echoKey (.ofUUID 0) 0 (healthCheck address) = .ok task := by
  apply Controller.exists_createAgentTask
  · simp [healthCheck, Controller.registeredActions]
  · constructor
    · show (30 : Int) ≤ 300
      decide
    · show (300 : Int) ≤ 900
      decide
  · have hlengths : "target".length ≤ 64 ∧ "dry_run".length ≤ 64 ∧ "false".length ≤ 1024 := by
      decide
    simpa [healthCheck, Dict.size, h] using hlengths
  · rfl

theorem agree_iff_plain_healthCheck :
    ∃ task, createAgentTask echoKey (.ofUUID 0) (0 : Nat)
        (healthCheck "http://127.0.0.1/status") = .ok task ∧ Agree echoKey (0 : Nat) task := by
  obtain ⟨task, h⟩ := exists_healthCheck "http://127.0.0.1/status" (by decide)
  refine ⟨task, h, (agree_iff_plain echoKey (.ofUUID 0) 0 _ task h).mpr ?_⟩
  refine ⟨?_, htmlFree_of_all rfl, htmlFree_of_all rfl, htmlFree_of_all rfl, htmlFree_of_all rfl⟩
  intro entry hentry
  simp only [healthCheck, List.mem_cons, List.not_mem_nil, or_false] at hentry
  obtain rfl | rfl := hentry
  · exact ⟨htmlFree_of_all rfl, htmlFree_of_all rfl⟩
  · exact ⟨htmlFree_of_all rfl, htmlFree_of_all rfl⟩

/-- An address with two query parameters is enough for the signature to be refused. -/
theorem ampersand_breaks_agreement :
    ∃ task, createAgentTask echoKey (.ofUUID 0) (0 : Nat)
        (healthCheck "http://127.0.0.1/status?deep=1&json=1") = .ok task ∧
      ¬ Agree echoKey (0 : Nat) task := by
  obtain ⟨task, h⟩ := exists_healthCheck "http://127.0.0.1/status?deep=1&json=1" (by decide)
  refine ⟨task, h, fun hagree => ?_⟩
  have hcreated := Controller.createAgentTask_ok h
  have hplain := (taskPayload_view_iff hcreated).mp (hagree.taskPayload_view hcreated)
  have hvalue := (hplain.parameters ("target", "http://127.0.0.1/status?deep=1&json=1")
    (by simp [healthCheck])).2
  have hampersand := hvalue '&' (by decide)
  exact absurd hampersand (by decide)

end VpsGuardian.Protocol.Signing
