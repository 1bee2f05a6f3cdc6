import VpsGuardian.Controller.Tasking
import VpsGuardian.Lib.Run

/-!
Deciding an approval (`decide_approval`).

Concurrent requests run in transactions of their own under READ COMMITTED: a
query sees the committed row, a row that another transaction has updated is
locked until that transaction ends, and the updates and insertions of a
transaction become visible with its commit. Inserting a task does not wait for
an update of the approval, as the key of the approval's row does not change.
-/

namespace VpsGuardian.Controller.Decisions

open Lib

inductive ApprovalStatus
  | pending
  | approved
  | partiallyApproved
  | approvedWithConditions
  | changesRequested
  | rejected
  | dryRunOnly
  | executing
  | executed
  | failed
  | rolledBack
  | expired
  | withdrawn
  deriving DecidableEq, Repr

inductive Decision
  | approved
  | approvedWithConditions
  | changesRequested
  | rejected
  | dryRunOnly
  deriving DecidableEq, Repr

def Decision.status : Decision → ApprovalStatus
  | .approved => .approved
  | .approvedWithConditions => .approvedWithConditions
  | .changesRequested => .changesRequested
  | .rejected => .rejected
  | .dryRunOnly => .dryRunOnly

structure PlannedAction where
  type : String
  parameters : Dict String
  deriving DecidableEq

/-- A row of `approvals`. The plan is `parameters["actions"]`: `none` where that is
no list, with `none` for an item that is no action with parameters. -/
structure Approval where
  id : String
  actionName : String
  riskLevel : Int
  status : ApprovalStatus
  agentID : String
  plan : Option (List (Option PlannedAction))
  /-- `impact["policy_id"]` -/
  policyID : String
  expiresAt : Time
  decidedAt : Option Time
  decidedBy : Option String
  requestedBy : Option String
  targetHostID : Option String
  deriving DecidableEq

/-- The number of actions in the plan of an approval. -/
def Approval.actionCount (approval : Approval) : Nat := (approval.plan.getD []).length

/-- One request: the admin, the payload, the code with which `_require_step_up`
refuses it if it does, and whether the reauthentication succeeds. -/
structure DecisionRequest where
  userID : String
  decision : Decision
  confirmation : String
  currentPassword : Option String
  rollbackConfirmed : Bool
  stepUpError : Option String
  reauthenticated : Bool

/-- What no request changes: the Agents with their hosts, and the signing key. -/
structure Environment where
  agents : List (String × String)
  key : SigningKey

def approvalIsExpired (approval : Approval) (now : Time) : Bool := approval.expiresAt ≤ now

/-- The decisions for which the plan is dispatched. -/
def Decision.dispatches (decision : Decision) : Bool :=
  decision = .approved ∨ decision = .dryRunOnly

/-- The checks on a pending approval before its plan is read. -/
def checkDecision (approval : Approval) (request : DecisionRequest) :
    Except HTTPException Unit := do
  raiseIf (approval.status ≠ .pending) ⟨404, "pending approval not found"⟩
  raiseIf ((request.decision = .approved ∨ request.decision = .approvedWithConditions ∨
      request.decision = .dryRunOnly) ∧ 2 ≤ approval.riskLevel ∧
      approval.requestedBy = some request.userID)
    ⟨403, "requester cannot approve this high-risk task"⟩
  let highRisk : Bool := (request.decision = .approved ∨
    request.decision = .approvedWithConditions) ∧ 2 ≤ approval.riskLevel
  raiseIf (highRisk ∧ request.stepUpError.isSome) ⟨403, request.stepUpError.getD ""⟩
  raiseIf (highRisk ∧ request.rollbackConfirmed = false)
    ⟨422, "high-risk approval requires rollback confirmation"⟩
  raiseIf (highRisk ∧ request.currentPassword = none)
    ⟨422, "high-risk approval requires reauthentication"⟩
  raiseIf (highRisk ∧ request.reauthenticated = false) ⟨401, "current password is invalid"⟩

/-- The actions to dispatch for a decision. -/
def executablePlan (env : Environment) (approval : Approval) (request : DecisionRequest) :
    Except HTTPException (List (Option PlannedAction)) :=
  if request.decision.dispatches then do
    raiseIf (approval.actionName = "port_traffic_reset_schedule_change" ∧
        request.confirmation ≠ "SCHEDULE " ++ approval.policyID)
      ⟨409, "reset schedule change requires the exact second confirmation"⟩
    let plan := approval.plan.getD []
    raiseIf (env.agents.lookup approval.agentID = none ∨ plan = [])
      ⟨409, "approval has no executable Agent plan"⟩
    return plan
  else return []

/-- The parameters of the task for an action. -/
def taskParameters (approval : Approval) (request : DecisionRequest) (action : PlannedAction) :
    Except HTTPException (Dict String) := do
  let parameters := action.parameters.insert "dry_run"
    (if request.decision = .dryRunOnly then "true" else "false")
  raiseIf (action.type = "restricted_cleanup" ∧
      request.confirmation ≠ "CONFIRM CLEANUP " ++ approval.id)
    ⟨409, "restricted cleanup requires the exact second confirmation"⟩
  raiseIf (action.type = "port_traffic_reset" ∧
      request.confirmation ≠ "RESET " ++ parameters.get "policy_id")
    ⟨409, "port traffic reset requires the exact second confirmation"⟩
  return if action.type = "restricted_cleanup" ∨ action.type = "port_traffic_reset" then
    parameters.insert "second_confirmation" "confirmed" else parameters

/-- The task for the next action of the plan. -/
def createTask (env : Environment) (approval : Approval) (request : DecisionRequest)
    (item : Option PlannedAction) (random : Entropy) (now : Time) :
    Except HTTPException AgentTask := do
  let action ← orRaise item ⟨409, "approval Agent plan is invalid"⟩
  let parameters ← taskParameters approval request action
  (createAgentTask env.key random now {
    agentID := approval.agentID
    action := action.type
    parameters := parameters
    approvalID := some approval.id
    requesterID := approval.requestedBy
    approverID := some request.userID
    targetHostID := approval.targetHostID.or (env.agents.lookup approval.agentID)
  }).mapError fun _ => internalServerError

/-! ### Concurrent requests -/

/-- The columns an update writes; `decided_by` is left alone where there is no value. -/
structure Update where
  status : ApprovalStatus
  decidedAt : Time
  decidedBy : Option String
  deriving DecidableEq

def Update.apply (update : Update) (approval : Approval) : Approval :=
  { approval with
    status := update.status
    decidedAt := some update.decidedAt
    decidedBy := update.decidedBy.or approval.decidedBy }

/-- Where a request stands between two statements. -/
inductive Stage
  | waiting
  /-- The approval was read when it had expired. -/
  | expiring
  /-- The approval was read when it was pending; the actions that are left, and
  the tasks that were inserted. -/
  | creating (approval : Approval) (remaining : List (Option PlannedAction))
      (tasks : List AgentTask)
  /-- The row is updated and locked. -/
  | updated (update : Update) (tasks : List AgentTask)
  | answered
  deriving DecidableEq

def Stage.isUpdated : Stage → Bool
  | .updated _ _ => true
  | _ => false

/-- In a transaction that has read the approval and is not finished. -/
def Stage.isOpen : Stage → Bool
  | .waiting | .answered => false
  | _ => true

variable {n : Nat}

/-- The committed row of the approval, the committed tasks that carry its id, and
the requests. -/
structure System (n : Nat) where
  approval : Approval
  tasks : List AgentTask
  stages : Fin n → Stage

/-- Some request executes its next statement, or loses its connection. -/
structure Event (n : Nat) where
  request : Fin n
  now : Time
  random : Entropy
  disconnected : Bool := false

def System.to (s : System n) (i : Fin n) (stage : Stage) : System n :=
  { s with stages := Function.update s.stages i stage }

/-- The query for the approval and the checks that follow it. -/
def select (env : Environment) (approval : Approval) (request : DecisionRequest) (now : Time) :
    Stage :=
  if approval.status = .pending ∧ approvalIsExpired approval now then .expiring
  else
    match (checkDecision approval request).bind fun _ => executablePlan env approval request with
    | .ok plan => .creating approval plan []
    | .error _ => .answered

/-- A decision of an approval, as the statements of one request. An error rolls
the transaction back. -/
def step (env : Environment) (requests : Fin n → DecisionRequest) (s : System n)
    (event : Event n) : System n :=
  let i := event.request
  if event.disconnected then s.to i .answered
  else
    match s.stages i with
    | .waiting => s.to i (select env s.approval (requests i) event.now)
    | .expiring =>
        if ∃ j, (s.stages j).isUpdated then s
        else s.to i (.updated ⟨.expired, event.now, none⟩ [])
    | .creating _ [] tasks =>
        if ∃ j, (s.stages j).isUpdated then s
        else s.to i (.updated
          ⟨(requests i).decision.status, event.now, some (requests i).userID⟩ tasks)
    | .creating approval (item :: remaining) tasks =>
        match createTask env approval (requests i) item event.random event.now with
        | .ok task => s.to i (.creating approval remaining (tasks ++ [task]))
        | .error _ => s.to i .answered
    | .updated update tasks =>
        { s.to i .answered with
          approval := update.apply s.approval
          tasks := s.tasks ++ tasks }
    | .answered => s

/-- The plan was dispatched at most once, and the row records the decision whose
tasks were created. -/
structure DispatchedOnce (requests : Fin n → DecisionRequest) (s : System n) : Prop where
  bounded : s.tasks.length ≤ s.approval.actionCount
  recorded : s.tasks ≠ [] → ∃ i, s.approval.status = (requests i).decision.status ∧
    s.approval.decidedBy = some (requests i).userID ∧
    ∀ task ∈ s.tasks, task.approverID = some (requests i).userID

/-- No request reads the approval while another one that has read it is unfinished. -/
def Apart (s : System n) (event : Event n) : Prop :=
  s.stages event.request = .waiting → ∀ j, (s.stages j).isOpen = false

instance (s : System n) (event : Event n) : Decidable (Apart s event) :=
  inferInstanceAs (Decidable (_ → _))

def initial (approval : Approval) : System n := ⟨approval, [], fun _ => .waiting⟩

/-! ### One statement -/

@[simp] theorem System.to_approval (s : System n) (i : Fin n) (stage : Stage) :
    (s.to i stage).approval = s.approval := rfl

@[simp] theorem System.to_tasks (s : System n) (i : Fin n) (stage : Stage) :
    (s.to i stage).tasks = s.tasks := rfl

@[simp] theorem System.to_self (s : System n) (i : Fin n) (stage : Stage) :
    (s.to i stage).stages i = stage := by
  simp [System.to]

theorem System.to_of_ne (s : System n) {i j : Fin n} (stage : Stage) (h : j ≠ i) :
    (s.to i stage).stages j = s.stages j := by
  simp [System.to, h]

theorem createTask_approverID {env : Environment} {approval : Approval}
    {request : DecisionRequest} {item : Option PlannedAction} {random : Entropy} {now : Time}
    {task : AgentTask} (h : createTask env approval request item random now = .ok task) :
    task.approverID = some request.userID := by
  unfold createTask at h
  obtain ⟨action, -, h⟩ := orRaise_bind_eq_ok.mp h
  obtain ⟨parameters, -, h⟩ := bind_eq_ok.mp h
  have hcreated := createAgentTask_ok (mapError_eq_ok.mp h)
  exact congrArg AgentTask.approverID hcreated.eq

theorem executablePlan_length {env : Environment} {approval : Approval}
    {request : DecisionRequest} {plan : List (Option PlannedAction)}
    (h : executablePlan env approval request = .ok plan) : plan.length ≤ approval.actionCount := by
  unfold executablePlan at h
  split at h
  next =>
    obtain ⟨-, h⟩ := raiseIf_bind_eq_ok.mp h
    obtain ⟨-, h⟩ := raiseIf_bind_eq_ok.mp h
    cases h
    exact le_refl _
  next =>
    cases h
    exact Nat.zero_le _

theorem status_ne_pending (decision : Decision) : decision.status ≠ .pending := by
  cases decision <;> decide

/-- What a request holds agrees with the committed row. -/
def Stage.Fits (approval : Approval) (request : DecisionRequest) : Stage → Prop
  | .waiting | .answered => True
  | .expiring => approval.status = .pending
  | .creating read remaining tasks =>
      read = approval ∧ approval.status = .pending ∧
        tasks.length + remaining.length ≤ approval.actionCount ∧
        ∀ task ∈ tasks, task.approverID = some request.userID
  | .updated update tasks =>
      approval.status = .pending ∧ tasks.length ≤ approval.actionCount ∧
        (tasks ≠ [] → update.status = request.decision.status ∧
          update.decidedBy = some request.userID ∧
          ∀ task ∈ tasks, task.approverID = some request.userID) ∧ update.status ≠ .pending

/-- A stage that is not open says nothing about the row. -/
theorem Stage.fits_of_not_open {stage : Stage} (h : stage.isOpen = false) (approval : Approval)
    (request : DecisionRequest) : stage.Fits approval request := by
  cases stage with
  | waiting => trivial
  | answered => trivial
  | expiring => simp [Stage.isOpen] at h
  | creating => simp [Stage.isOpen] at h
  | updated => simp [Stage.isOpen] at h

structure Invariant (requests : Fin n → DecisionRequest) (s : System n) : Prop where
  fits : ∀ i, (s.stages i).Fits s.approval (requests i)
  alone : ∀ i j, (s.stages i).isOpen = true → (s.stages j).isOpen = true → i = j
  fresh : s.approval.status = .pending → s.tasks = []
  once : DispatchedOnce requests s

variable {env : Environment} {requests : Fin n → DecisionRequest} {s : System n}

theorem invariant_initial (approval : Approval) :
    Invariant requests (initial approval : System n) where
  fits _ := trivial
  alone _ _ h := by simp [initial, Stage.isOpen] at h
  fresh _ := rfl
  once := ⟨Nat.zero_le _, fun h => absurd rfl h⟩

/-- A request that goes on alone with what it has read keeps the invariant. -/
theorem Invariant.to (h : Invariant requests s) {i : Fin n} {stage : Stage}
    (hfits : stage.Fits s.approval (requests i))
    (halone : stage.isOpen = true → ∀ j, j ≠ i → (s.stages j).isOpen = false) :
    Invariant requests (s.to i stage) where
  fits j := by
    by_cases hj : j = i
    · subst hj
      simpa using hfits
    · rw [s.to_of_ne stage hj]
      exact h.fits j
  alone j k hj hk := by
    by_cases hji : j = i
    · by_cases hki : k = i
      · exact hji.trans hki.symm
      · rw [s.to_of_ne stage hki] at hk
        rw [hji, s.to_self] at hj
        rw [halone hj k hki] at hk
        cases hk
    · by_cases hki : k = i
      · rw [s.to_of_ne stage hji] at hj
        rw [hki, s.to_self] at hk
        rw [halone hk j hji] at hj
        cases hj
      · rw [s.to_of_ne stage hji] at hj
        rw [s.to_of_ne stage hki] at hk
        exact h.alone j k hj hk
  fresh := h.fresh
  once := ⟨h.once.bounded, h.once.recorded⟩

/-- Beside an open request no other one is open. -/
theorem Invariant.others (h : Invariant requests s) {i : Fin n}
    (hi : (s.stages i).isOpen = true) : ∀ j, j ≠ i → (s.stages j).isOpen = false := by
  intro j hj
  by_contra hopen
  exact hj (h.alone j i (by simpa using hopen) hi)

theorem select_fits (approval : Approval) (request : DecisionRequest) (now : Time) :
    (select env approval request now).Fits approval request := by
  unfold select
  split
  next hexpired => exact hexpired.1
  next =>
    split
    next plan hplan =>
      obtain ⟨⟨⟩, hcheck, hplan⟩ := bind_eq_ok.mp hplan
      have hpending := (raiseIf_bind_eq_ok.mp hcheck).1
      refine ⟨rfl, not_not.mp hpending, ?_, by simp⟩
      simpa using executablePlan_length hplan
    next => trivial

theorem Invariant.commit (h : Invariant requests s) {i : Fin n} {update : Update}
    {tasks : List AgentTask} (hstage : s.stages i = .updated update tasks) :
    Invariant requests { s.to i .answered with
      approval := update.apply s.approval
      tasks := s.tasks ++ tasks } := by
  have hopen : (s.stages i).isOpen = true := by rw [hstage]; rfl
  have hothers := h.others hopen
  have hfits := h.fits i
  rw [hstage] at hfits
  obtain ⟨hpending, hbounded, hrecorded, hstatus⟩ := hfits
  have hclosed : ∀ j, ((s.to i .answered).stages j).isOpen = false := by
    intro j
    by_cases hj : j = i
    · rw [hj, s.to_self]
      rfl
    · rw [s.to_of_ne _ hj]
      exact hothers j hj
  have htasks : s.tasks ++ tasks = tasks := by rw [h.fresh hpending, List.nil_append]
  refine ⟨fun j => Stage.fits_of_not_open (hclosed j) _ _, fun j k hj => ?_, fun hnew => ?_, ?_⟩
  · have hj' := hclosed j
    simp only [hj'] at hj
    cases hj
  · exact absurd hnew hstatus
  · constructor
    · simpa [htasks, Update.apply, Approval.actionCount] using hbounded
    · intro hne
      simp only [htasks] at hne ⊢
      obtain ⟨hdecision, hdecidedBy, happrover⟩ := hrecorded hne
      refine ⟨i, hdecision, ?_, happrover⟩
      simp [Update.apply, hdecidedBy]

theorem Invariant.step (h : Invariant requests s) {event : Event n} (hapart : Apart s event) :
    Invariant requests (step env requests s event) := by
  unfold Decisions.step
  dsimp only
  have hfits := h.fits event.request
  split
  next => exact h.to trivial (by simp [Stage.isOpen])
  next =>
    cases hstage : s.stages event.request with
    | waiting =>
      refine h.to (select_fits _ _ _) fun _ j _ => hapart hstage j
    | expiring =>
      have hothers := h.others (i := event.request) (by rw [hstage]; rfl)
      rw [hstage] at hfits
      dsimp only
      split
      next => exact h
      next =>
        refine h.to ⟨hfits, Nat.zero_le _, fun hne => absurd rfl hne, nofun⟩ fun _ => hothers
    | creating approval remaining tasks =>
      have hothers := h.others (i := event.request) (by rw [hstage]; rfl)
      rw [hstage] at hfits
      obtain ⟨hread, hpending, hlength, happrover⟩ := hfits
      cases remaining with
      | nil =>
        dsimp only
        split
        next => exact h
        next =>
          refine h.to ⟨hpending, hlength, fun _ => ⟨rfl, rfl, happrover⟩, ?_⟩ fun _ => hothers
          exact status_ne_pending _
      | cons item remaining =>
        dsimp only
        split
        next task htask =>
          refine h.to ⟨hread, hpending, ?_, ?_⟩ fun _ => hothers
          · simp only [List.length_append, List.length_cons, List.length_nil] at hlength ⊢
            omega
          · intro t ht
            obtain ht | ht := List.mem_append.mp ht
            · exact happrover t ht
            · rw [List.mem_singleton.mp ht]
              exact createTask_approverID htask
        next => exact h.to trivial (by simp [Stage.isOpen])
    | updated update tasks => exact h.commit hstage
    | answered => exact h

/-- Any number of requests that decide a pending approval dispatch its plan at
most once, and leave the decision whose tasks were created, as long as none of
them reads the approval between the reading and the end of another one. -/
theorem dispatched_once (env : Environment) (requests : Fin n → DecisionRequest)
    (approval : Approval) (events : List (Event n))
    (h : Meets (step env requests) Apart (initial approval) events) :
    DispatchedOnce requests (run (step env requests) (initial approval) events) :=
  (run_invariant (I := Invariant requests) (fun _ _ hapart hs => hs.step hapart)
    (invariant_initial approval) h).once

/-! ### Two admins and one approval -/

def exampleEnvironment : Environment := ⟨[("agent-1", "host-1")], echoKey⟩

def enforcementChange : Approval where
  id := "approval-1"
  actionName := "port_traffic_enforcement_change"
  riskLevel := 3
  status := .pending
  agentID := "agent-1"
  plan := some [some ⟨"port_traffic_apply", ⟨[("policy_id", "policy-1")], by decide⟩⟩]
  policyID := "policy-1"
  expiresAt := minutes 30
  decidedAt := none
  decidedBy := none
  requestedBy := some "admin-0"
  targetHostID := some "host-1"

def approve (userID : String) : DecisionRequest where
  userID := userID
  decision := .approved
  confirmation := "confirmed"
  currentPassword := some "correct horse battery"
  rollbackConfirmed := true
  stepUpError := none
  reauthenticated := true

def twoAdmins : Fin 2 → DecisionRequest := ![approve "admin-1", approve "admin-2"]

def statement (request : Fin 2) (uuid : BitVec 128) : Event 2 where
  request := request
  now := 0
  random := .ofUUID uuid

local instance two_neZero : NeZero 2 := ⟨Nat.succ_ne_zero 1⟩

/-- One request after the other: the second one finds no pending approval. -/
def consecutive : List (Event 2) := [statement 0 0, statement 0 1, statement 0 2, statement 0 3,
  statement 1 4, statement 1 5]

/-- Both requests read the approval before one of them commits. -/
def overlapping : List (Event 2) := [statement 0 0, statement 1 1, statement 0 2, statement 1 3,
  statement 0 4, statement 0 5, statement 1 6, statement 1 7]

theorem dispatched_once_consecutive :
    (run (step exampleEnvironment twoAdmins) (initial enforcementChange) consecutive).tasks.length
        = 1 ∧
      DispatchedOnce twoAdmins
        (run (step exampleEnvironment twoAdmins) (initial enforcementChange) consecutive) :=
  ⟨by decide +kernel, dispatched_once exampleEnvironment twoAdmins enforcementChange consecutive
    (by decide +kernel)⟩

/-- Both requests of two admins dispatch the plan, and the row records the second one. -/
theorem overlapping_decisions_dispatch_twice :
    ¬ DispatchedOnce twoAdmins
      (run (step exampleEnvironment twoAdmins) (initial enforcementChange) overlapping) := by
  intro h
  have htasks : (run (step exampleEnvironment twoAdmins) (initial enforcementChange)
      overlapping).tasks.length = 2 := by decide +kernel
  have hactions : (run (step exampleEnvironment twoAdmins) (initial enforcementChange)
      overlapping).approval.actionCount = 1 := by decide +kernel
  have hbounded := h.bounded
  omega

end VpsGuardian.Controller.Decisions
