import VpsGuardian.Repair.Records

/-!
The ingestion of action results (`record_agent_results`).

A result sets the status of a task once. Whether an attempt is complete is read
off the statuses of its tasks, at every call that has set one, so it does not
matter in which order and in how many calls the results arrive.
-/

namespace VpsGuardian.Repair

open Lib Controller

/-- The entries of an action result the Controller reads: `str(result.get("task_id", ""))`,
whether `success` is `True`, the duration in microseconds if it is a number that
is not negative, and the document with `after` and `exit_code`. -/
structure ActionResult where
  taskID : String
  success : Bool
  duration : Option Time
  after : Json.Value
  exitCode : Json.Value
  document : Json.Value

/-- An event of a heartbeat: an `action_result` with a dictionary, or anything else. -/
inductive Event
  | actionResult (result : ActionResult)
  | other

variable {ρ : Type}

/-- What the functions use that are not in this module: how a result is
redacted, and what a port traffic result does to the approvals and to the other
tables. -/
structure Context (ρ : Type) where
  redact : Json.Value → Json.Value
  recordPortTrafficResult : Time → TaskRow → List Approval × ρ → List Approval × ρ

variable (context : Context ρ)

/-- The task after its result. -/
def TaskRow.complete (now : Time) (result : ActionResult) (task : TaskRow) : TaskRow :=
  let status := if result.success then TaskStatus.succeeded else .failed
  { task with
    status := status
    result := some (context.redact result.document)
    completedAt := some now
    startedAt := match result.duration with
      | some duration => some (now - duration)
      | none => task.startedAt
    verificationResult := some (.object [
      ("success", .bool result.success),
      ("after", result.after),
      ("exit_code", result.exitCode)]) }

/-- One event of `record_agent_results`, with the ids of the tasks changed so far. -/
def recordResult (agentID : String) (now : Time) (state : Db ρ × List String) :
    Event → Db ρ × List String
  | .other => state
  | .actionResult result =>
    match Table.lookup (fun task : TaskRow => task.id) result.taskID state.1.tasks with
    | none => state
    | some task =>
      if task.agentID ≠ agentID ∨ task.status ∈ terminalTaskStates then state
      else
        let db := state.1
        let completed := task.complete context now result
        let (approvals, others) :=
          if completed.action ∈ portTrafficActions then
            context.recordPortTrafficResult now completed (db.approvals, db.others)
          else (db.approvals, db.others)
        ({ db with
            tasks := Table.put (fun task : TaskRow => task.id) completed db.tasks
            approvals := approvals
            others := others
            auditLog := db.auditLog ++ [⟨"agent.task_result", "agent_task", task.id,
              if result.success then "succeeded" else "failed",
              .object [("action", .string task.action),
                ("dry_run",
                  ((task.parameters.get? "dry_run").map Json.Value.string).getD .null)]⟩] },
          task.id :: state.2)

/-- The statuses of an attempt's tasks, with the approvals they belong to, once
all of them are terminal. -/
structure Outcome where
  taskStatuses : List (String × TaskStatus)
  approvalIDs : List String

def Outcome.success (outcome : Outcome) : Bool :=
  outcome.taskStatuses.all fun entry => entry.2 == .succeeded

def RepairAttempt.own (tasks : List TaskRow) (attempt : RepairAttempt) : List TaskRow :=
  tasks.filter fun task => decide (task.id ∈ attempt.taskIDs)

def outcome (tasks : List TaskRow) (attempt : RepairAttempt) : Option Outcome :=
  let own := attempt.own tasks
  if attempt.taskIDs = [] ∨ own.length ≠ attempt.taskIDs.length ∨
      ∃ task ∈ own, task.status ∉ terminalTaskStates then none
  else some ⟨own.map fun task => (task.id, task.status),
    (own.filterMap (·.approvalID)).filter (· ≠ "")⟩

def RepairAttempt.close (outcome : Outcome) (attempt : RepairAttempt) : RepairAttempt :=
  { attempt with
    success := some outcome.success
    taskStatuses := some outcome.taskStatuses }

def Approval.execute (approvalIDs : List String) (approval : Approval) : Approval :=
  if approval.id ∈ approvalIDs ∧
      (approval.status = .approved ∨ approval.status = .dryRunOnly) then
    { approval with status := .executed }
  else approval

/-- One open attempt of the scan. -/
def closeAttempt (now : Time) (db : Db ρ) (attempt : RepairAttempt) : Db ρ :=
  match outcome db.tasks attempt with
  | none => db
  | some outcome => { db with
      attempts := Table.put (fun attempt : RepairAttempt => attempt.id) (attempt.close outcome)
        db.attempts
      approvals := db.approvals.map (Approval.execute outcome.approvalIDs)
      incidents := db.incidents.map fun incident =>
        if incident.id = attempt.incidentID then { incident with
          timeline := incident.timeline ++ [⟨now, "repair " ++ attempt.action ++
            if outcome.success then " passed" else " failed"⟩] }
        else incident
      auditLog := db.auditLog ++ [⟨"repair.completed", "repair_attempt", attempt.id,
        if outcome.success then "success" else "failed",
        .object [("runbook", .string attempt.action), ("dry_run", .bool attempt.dryRun)]⟩] }

def recordAgentResults (agentID : String) (now : Time) (db : Db ρ) (events : List Event) : Db ρ :=
  let (db, changed) := events.foldl (recordResult context agentID now) (db, [])
  if changed = [] then db
  else (db.attempts.filter fun attempt => attempt.success.isNone).foldl (closeAttempt now) db

/-- A call of `record_agent_results` for an Agent. -/
structure Call where
  now : Time
  events : List Event

/-- Calls for one Agent, as steps. -/
def ingest (agentID : String) (db : Db ρ) (call : Call) : Db ρ :=
  recordAgentResults context agentID call.now db call.events

/-! ### What the statuses depend on -/

/-- The columns of a task that decide about attempts and approvals. -/
structure TaskView where
  id : String
  agentID : String
  approvalID : Option String
  action : String
  status : TaskStatus

def TaskRow.view (task : TaskRow) : TaskView :=
  ⟨task.id, task.agentID, task.approvalID, task.action, task.status⟩

/-- The status of a task of an Agent after some events. -/
def TaskView.receive (agentID : String) (events : List Event) (task : TaskView) : TaskView :=
  match events with
  | [] => task
  | .other :: events => task.receive agentID events
  | .actionResult result :: events =>
    if result.taskID = task.id ∧ task.agentID = agentID ∧ task.status ∉ terminalTaskStates then
      { task with status := if result.success then .succeeded else .failed }
    else task.receive agentID events

theorem TaskView.receive_of_terminal {agentID : String} {task : TaskView}
    (h : task.status ∈ terminalTaskStates) (events : List Event) :
    task.receive agentID events = task := by
  induction events with
  | nil => rfl
  | cons event events ih =>
    cases event with
    | other => exact ih
    | actionResult result =>
      rw [receive, if_neg (fun hopen => hopen.2.2 h)]
      exact ih

theorem TaskView.receive_append (agentID : String) (first second : List Event) (task : TaskView) :
    task.receive agentID (first ++ second) =
      (task.receive agentID first).receive agentID second := by
  induction first with
  | nil => rfl
  | cons event first ih =>
    cases event with
    | other => exact ih
    | actionResult result =>
      rw [List.cons_append, receive, receive]
      by_cases h : result.taskID = task.id ∧ task.agentID = agentID ∧
          task.status ∉ terminalTaskStates
      · rw [if_pos h, if_pos h, receive_of_terminal]
        cases result.success <;> simp [terminalTaskStates]
      · rw [if_neg h, if_neg h]
        exact ih

/-- A received result is the result of some event, and once there is one for
an open task, the task is no longer open. -/
theorem TaskView.receive_eq (agentID : String) (events : List Event) (task : TaskView) :
    (task.receive agentID events = task ∧
        (task.agentID = agentID → task.status ∉ terminalTaskStates →
          ∀ result, .actionResult result ∈ events → result.taskID ≠ task.id)) ∨
      ∃ result, .actionResult result ∈ events ∧ result.taskID = task.id ∧
        task.agentID = agentID ∧ task.status ∉ terminalTaskStates ∧
        task.receive agentID events =
          { task with status := if result.success then .succeeded else .failed } := by
  induction events with
  | nil => exact .inl ⟨rfl, fun _ _ _ h => nomatch h⟩
  | cons event events ih =>
    cases event with
    | other =>
      refine ih.imp (fun h => ⟨h.1, fun hagent hopen result hresult => ?_⟩)
        (fun ⟨result, hresult, h⟩ => ⟨result, List.mem_cons_of_mem _ hresult, h⟩)
      refine h.2 hagent hopen result ?_
      simpa using hresult
    | actionResult result =>
      rw [receive]
      by_cases h : result.taskID = task.id ∧ task.agentID = agentID ∧
          task.status ∉ terminalTaskStates
      · rw [if_pos h]
        exact .inr ⟨result, List.mem_cons_self, h.1, h.2.1, h.2.2, rfl⟩
      · rw [if_neg h]
        refine ih.imp (fun hkept => ⟨hkept.1, fun hagent hopen other hother => ?_⟩)
          (fun ⟨other, hother, hrest⟩ => ⟨other, List.mem_cons_of_mem _ hother, hrest⟩)
        obtain heq | hother := List.mem_cons.mp hother
        · injection heq with heq
          exact fun hid => h ⟨heq ▸ hid, hagent, hopen⟩
        · exact hkept.2 hagent hopen other hother

/-- Two results for the same task are the same. -/
def OneResultPerTask (events : List Event) : Prop :=
  ∀ result result', .actionResult result ∈ events → .actionResult result' ∈ events →
    result.taskID = result'.taskID → result = result'

/-- With one result for each task, what a task receives is a matter of which
events there are. -/
theorem TaskView.receive_congr {agentID : String} {events events' : List Event}
    (hone : OneResultPerTask events) (hsame : ∀ event, event ∈ events ↔ event ∈ events')
    (task : TaskView) : task.receive agentID events = task.receive agentID events' := by
  obtain ⟨hkept, hnone⟩ | ⟨result, hresult, hid, hagent, hopen, hreceived⟩ :=
    task.receive_eq agentID events
  · obtain ⟨hkept', -⟩ | ⟨result, hresult, hid, hagent, hopen, -⟩ :=
      task.receive_eq agentID events'
    · rw [hkept, hkept']
    · exact absurd hid (hnone hagent hopen result ((hsame _).mpr hresult))
  · obtain ⟨-, hnone⟩ | ⟨result', hresult', hid', -, -, hreceived'⟩ :=
      task.receive_eq agentID events'
    · exact absurd hid (hnone hagent hopen result ((hsame _).mp hresult))
    · rw [hreceived, hreceived', hone result result' hresult ((hsame _).mpr hresult')
        (hid.trans hid'.symm)]

/-- A task that changes was open and is so no longer. -/
theorem TaskView.receive_ne {agentID : String} {events : List Event} {task : TaskView}
    (h : task.receive agentID events ≠ task) :
    task.status ∉ terminalTaskStates ∧
      (task.receive agentID events).status ∈ terminalTaskStates := by
  obtain ⟨hkept, -⟩ | ⟨result, -, -, -, hopen, hreceived⟩ := task.receive_eq agentID events
  · exact absurd hkept h
  · refine ⟨hopen, ?_⟩
    rw [hreceived]
    cases result.success <;> simp [terminalTaskStates]

/-- Nothing changes in two lists of events exactly if nothing changes in either. -/
theorem TaskView.receive_append_eq {agentID : String} {first second : List Event}
    {task : TaskView} : task.receive agentID (first ++ second) = task ↔
      task.receive agentID first = task ∧
        (task.receive agentID first).receive agentID second = task.receive agentID first := by
  rw [receive_append]
  constructor
  · intro h
    have hfirst : task.receive agentID first = task := by
      by_contra hne
      obtain ⟨hopen, hterminal⟩ := receive_ne hne
      rw [receive_of_terminal hterminal] at h
      exact hne h
    exact ⟨hfirst, h.trans hfirst.symm⟩
  · rintro ⟨hfirst, hsecond⟩
    rw [hsecond, hfirst]

theorem TaskView.receive_action (agentID : String) (events : List Event) (task : TaskView) :
    (task.receive agentID events).id = task.id ∧
      (task.receive agentID events).action = task.action := by
  obtain ⟨hkept, -⟩ | ⟨result, -, -, -, -, hreceived⟩ := task.receive_eq agentID events
  · rw [hkept]
    exact ⟨rfl, rfl⟩
  · rw [hreceived]
    exact ⟨rfl, rfl⟩

/-! ### The results of one call -/

/-- No result is for a port traffic task. -/
def Plain (tasks : List TaskView) (events : List Event) : Prop :=
  ∀ task ∈ tasks, ∀ result, .actionResult result ∈ events → result.taskID = task.id →
    task.action ∉ portTrafficActions

variable {context} {agentID : String} {now : Time}

variable (context agentID now) in
theorem recordResult_spec {db : Db ρ} (changed : List String) (event : Event)
    (hkeys : (db.tasks.map (·.id)).Nodup) :
    let after := recordResult context agentID now (db, changed) event
    after.1.tasks.map TaskRow.view =
        (db.tasks.map TaskRow.view).map (TaskView.receive agentID [event]) ∧
      after.1.attempts = db.attempts ∧
      (Plain (db.tasks.map TaskRow.view) [event] → after.1.approvals = db.approvals) ∧
      (after.2 = [] ↔ changed = [] ∧ ∀ task ∈ db.tasks.map TaskRow.view,
        task.receive agentID [event] = task) := by
  have hnothing (hkept : ∀ task ∈ db.tasks, task.view.receive agentID [event] = task.view) :
      db.tasks.map TaskRow.view =
          (db.tasks.map TaskRow.view).map (TaskView.receive agentID [event]) ∧
        (changed = [] ↔ changed = [] ∧ ∀ task ∈ db.tasks.map TaskRow.view,
          task.receive agentID [event] = task) := by
    refine ⟨?_, ?_⟩
    · rw [List.map_map]
      exact List.map_congr_left fun task htask => (hkept task htask).symm
    · rw [List.forall_mem_map]
      exact ⟨fun h => ⟨h, hkept⟩, And.left⟩
  cases event with
  | other =>
    obtain ⟨htasks, hchanged⟩ := hnothing fun _ _ => rfl
    exact ⟨htasks, rfl, fun _ => rfl, hchanged⟩
  | actionResult result =>
    intro after
    cases hlookup : Table.lookup (fun task : TaskRow => task.id) result.taskID db.tasks with
    | none =>
      have hafter : after = (db, changed) := by
        simp only [after, recordResult, hlookup]
      obtain ⟨htasks, hchanged⟩ := hnothing fun task htask => by
        rw [TaskView.receive, if_neg fun h => Table.lookup_eq_none.mp hlookup task htask h.1.symm]
        rfl
      rw [hafter]
      exact ⟨htasks, rfl, fun _ => rfl, hchanged⟩
    | some found =>
      have hfound := Table.mem_of_lookup hlookup
      have hid : found.id = result.taskID := by
        have hkey := Table.key_of_lookup hlookup
        exact hkey
      by_cases hclosed : found.agentID ≠ agentID ∨ found.status ∈ terminalTaskStates
      · have hafter : after = (db, changed) := by
          simp only [after, recordResult, hlookup, if_pos hclosed]
        obtain ⟨htasks, hchanged⟩ := hnothing fun task htask => by
          refine if_neg fun h => ?_
          have heq : task = found := Table.eq_of_mem hkeys htask hfound (h.1.symm.trans hid.symm)
          exact hclosed.elim (fun hagent => hagent (heq ▸ h.2.1)) fun hdone => h.2.2 (heq ▸ hdone)
        rw [hafter]
        exact ⟨htasks, rfl, fun _ => rfl, hchanged⟩
      · obtain ⟨hagent, hopen⟩ := not_or.mp hclosed
        rw [not_not] at hagent
        have hafter : after.1.tasks = Table.put (fun task : TaskRow => task.id)
            (found.complete context now result) db.tasks ∧ after.1.attempts = db.attempts ∧
            (found.action ∉ portTrafficActions → after.1.approvals = db.approvals) ∧
            after.2 = found.id :: changed := by
          simp only [after, recordResult, hlookup, if_neg hclosed]
          refine ⟨trivial, trivial, fun hplain => ?_, trivial⟩
          rw [if_neg (show (found.complete context now result).action ∉ _ from hplain)]
        refine ⟨?_, hafter.2.1, fun hplain => hafter.2.2.1 ?_, ?_⟩
        · rw [hafter.1, Table.put, List.map_map, List.map_map]
          refine List.map_congr_left fun task htask => ?_
          by_cases htaskID : task.id = found.id
          · have heq : task = found := Table.eq_of_mem hkeys htask hfound htaskID
            subst heq
            simp only [Function.comp_apply]
            rw [if_pos (show task.id = (task.complete context now result).id from rfl),
              TaskView.receive, if_pos ⟨hid.symm, hagent, hopen⟩]
            rfl
          · simp only [Function.comp_apply]
            rw [if_neg (show ¬task.id = (found.complete context now result).id from htaskID),
              TaskView.receive, if_neg fun h => htaskID (h.1.symm.trans hid.symm)]
            rfl
        · exact hplain found.view (List.mem_map_of_mem hfound) result (List.mem_singleton.mpr rfl)
            hid.symm
        · rw [hafter.2.2.2]
          refine ⟨fun h => absurd h (List.cons_ne_nil _ _), ?_⟩
          rintro ⟨-, hkept⟩
          have hsame := hkept found.view (List.mem_map_of_mem hfound)
          rw [TaskView.receive, if_pos ⟨hid.symm, hagent, hopen⟩] at hsame
          refine absurd (congrArg TaskView.status hsame) fun hstatus => hopen ?_
          rw [show found.status = found.view.status from rfl, ← hstatus]
          cases result.success <;> simp [terminalTaskStates]

theorem ids_of_views {tasks tasks' : List TaskRow} {f : TaskView → TaskView}
    (h : tasks'.map TaskRow.view = (tasks.map TaskRow.view).map f)
    (hf : ∀ task, (f task).id = task.id) : tasks'.map (·.id) = tasks.map (·.id) := by
  have hids := congrArg (List.map TaskView.id) h
  rw [List.map_map, List.map_map, List.map_map] at hids
  exact hids.trans (List.map_congr_left fun task _ => hf task.view)

variable (context agentID now) in
theorem recordResults_spec {db : Db ρ} (changed : List String) (events : List Event)
    (hkeys : (db.tasks.map (·.id)).Nodup) :
    let after := events.foldl (recordResult context agentID now) (db, changed)
    after.1.tasks.map TaskRow.view =
        (db.tasks.map TaskRow.view).map (TaskView.receive agentID events) ∧
      after.1.attempts = db.attempts ∧
      (Plain (db.tasks.map TaskRow.view) events → after.1.approvals = db.approvals) ∧
      (after.2 = [] ↔ changed = [] ∧ ∀ task ∈ db.tasks.map TaskRow.view,
        task.receive agentID events = task) := by
  induction events generalizing db changed with
  | nil =>
    refine ⟨?_, rfl, fun _ => rfl, ⟨fun h => ⟨h, fun _ _ => rfl⟩, And.left⟩⟩
    exact (List.map_id (db.tasks.map TaskRow.view)).symm
  | cons event events ih =>
    obtain ⟨htasks, hattempts, happrovals, hchanged⟩ :=
      recordResult_spec context agentID now changed event hkeys
    have hcons : ∀ task : TaskView, task.receive agentID (event :: events) =
        (task.receive agentID [event]).receive agentID events :=
      TaskView.receive_append agentID [event] events
    rw [List.foldl_cons]
    generalize recordResult context agentID now (db, changed) event = state
      at htasks hattempts happrovals hchanged ⊢
    obtain ⟨db', changed'⟩ := state
    have hkeys' : (db'.tasks.map (·.id)).Nodup := by
      rw [ids_of_views htasks fun task => (task.receive_action agentID [event]).1]
      exact hkeys
    obtain ⟨htasks', hattempts', happrovals', hchanged'⟩ := ih changed' hkeys'
    refine ⟨?_, hattempts'.trans hattempts, fun hplain => ?_, ?_⟩
    · rw [htasks', htasks, List.map_map]
      exact List.map_congr_left fun task _ => (hcons task).symm
    · refine (happrovals' ?_).trans (happrovals ?_)
      · rw [htasks]
        intro task htask result hresult hid
        obtain ⟨before, hbefore, rfl⟩ := List.mem_map.mp htask
        obtain ⟨hbeforeID, hbeforeAction⟩ := before.receive_action agentID [event]
        rw [hbeforeAction]
        exact hplain before hbefore result (List.mem_cons_of_mem event hresult)
          (hid.trans hbeforeID)
      · intro task htask result hresult
        exact hplain task htask result (by simpa using Or.inl (List.mem_singleton.mp hresult))
    · have hboth : ∀ task : TaskView, task.receive agentID (event :: events) = task ↔
          task.receive agentID [event] = task ∧
            (task.receive agentID [event]).receive agentID events = task.receive agentID [event] :=
        fun task => show task.receive agentID ([event] ++ events) = task ↔ _ from
          TaskView.receive_append_eq
      rw [hchanged', hchanged, htasks, and_assoc]
      simp only [hboth, List.forall_mem_map, forall₂_and]

/-! ### The scan of the open attempts -/

theorem RepairAttempt.own_views (tasks : List TaskRow) (attempt : RepairAttempt) :
    (attempt.own tasks).map TaskRow.view =
      (tasks.map TaskRow.view).filter fun task => decide (task.id ∈ attempt.taskIDs) := by
  rw [List.filter_map]
  rfl

/-- Only these columns of its tasks decide about an attempt. -/
theorem outcome_congr {tasks tasks' : List TaskRow} {attempt : RepairAttempt}
    (h : (attempt.own tasks).map TaskRow.view = (attempt.own tasks').map TaskRow.view) :
    outcome tasks attempt = outcome tasks' attempt := by
  have hlength : (attempt.own tasks).length = (attempt.own tasks').length := by
    simpa using congrArg List.length h
  have hopen (own : List TaskRow) : (∃ task ∈ own, task.status ∉ terminalTaskStates) ↔
      ∃ task ∈ own.map TaskRow.view, task.status ∉ terminalTaskStates := by
    simp only [List.mem_map, exists_exists_and_eq_and]
    rfl
  have hstatuses (own : List TaskRow) : own.map (fun task => (task.id, task.status)) =
      (own.map TaskRow.view).map fun task => (task.id, task.status) := by
    rw [List.map_map]
    rfl
  have happrovals (own : List TaskRow) : own.filterMap (fun task => task.approvalID) =
      (own.map TaskRow.view).filterMap (·.approvalID) := by
    rw [List.filterMap_map]
    rfl
  unfold outcome
  dsimp only
  simp only [hopen, hstatuses, happrovals, h, hlength]

/-- The attempt after a scan that sees the given tasks. -/
def RepairAttempt.settle (tasks : List TaskRow) (attempt : RepairAttempt) : RepairAttempt :=
  match attempt.success, outcome tasks attempt with
  | none, some outcome => attempt.close outcome
  | _, _ => attempt

theorem RepairAttempt.settle_id (tasks : List TaskRow) (attempt : RepairAttempt) :
    (attempt.settle tasks).id = attempt.id := by
  unfold settle
  split <;> rfl

/-- A scan changes nothing that a later scan would not change in the same way. -/
theorem RepairAttempt.settle_settle {tasks tasks' : List TaskRow} {attempt : RepairAttempt}
    (h : ∀ result, outcome tasks attempt = some result → outcome tasks' attempt = some result) :
    (attempt.settle tasks).settle tasks' = attempt.settle tasks' := by
  cases hsuccess : attempt.success with
  | some success => simp only [settle, hsuccess]
  | none =>
    cases houtcome : outcome tasks attempt with
    | none => simp only [settle, hsuccess, houtcome]
    | some result => simp only [settle, close, hsuccess, houtcome, h result houtcome]

/-- The approvals that a scan of the attempts executes. -/
def executedBy (tasks : List TaskRow) (attempts : List RepairAttempt) : List String :=
  attempts.flatMap fun attempt =>
    if attempt.success.isNone then ((outcome tasks attempt).map (·.approvalIDs)).getD [] else []

theorem Approval.execute_execute (first second : List String) (approval : Approval) :
    (approval.execute first).execute second = approval.execute (first ++ second) := by
  unfold Approval.execute
  by_cases hstatus : approval.status = .approved ∨ approval.status = .dryRunOnly
  · by_cases hfirst : approval.id ∈ first <;> by_cases hsecond : approval.id ∈ second <;>
      simp [hstatus, hfirst, hsecond]
  · simp [hstatus]

theorem Approval.execute_congr {ids ids' : List String} (h : ∀ id, id ∈ ids ↔ id ∈ ids')
    (approval : Approval) : approval.execute ids = approval.execute ids' := by
  simp only [Approval.execute, h]

theorem Approval.execute_nil (approval : Approval) : approval.execute [] = approval :=
  if_neg fun h => nomatch h.1

variable (now) in
theorem closeAttempts_spec {db : Db ρ} (hkeys : (db.attempts.map (·.id)).Nodup)
    {scanned : List RepairAttempt} (hnodup : scanned.Nodup)
    (hscanned : ∀ attempt ∈ scanned, attempt ∈ db.attempts)
    (hopen : ∀ attempt ∈ scanned, attempt.success = none) :
    let after := scanned.foldl (closeAttempt now) db
    after.tasks = db.tasks ∧
      after.attempts = db.attempts.map (fun attempt =>
        if attempt ∈ scanned then attempt.settle db.tasks else attempt) ∧
      after.approvals = db.approvals.map (Approval.execute (executedBy db.tasks scanned)) := by
  induction scanned generalizing db with
  | nil =>
    refine ⟨rfl, ?_, ?_⟩
    · simp
    · exact (List.map_id' db.approvals).symm.trans
        (List.map_congr_left fun approval _ => approval.execute_nil.symm)
  | cons attempt scanned ih =>
    obtain ⟨hfresh, hnodup⟩ := List.nodup_cons.mp hnodup
    obtain ⟨hattempt, hscanned⟩ := List.forall_mem_cons.mp hscanned
    obtain ⟨hattemptOpen, hopen⟩ := List.forall_mem_cons.mp hopen
    rw [List.foldl_cons]
    have hstep : (closeAttempt now db attempt).tasks = db.tasks ∧
        (closeAttempt now db attempt).attempts = db.attempts.map (fun other =>
          if other = attempt then attempt.settle db.tasks else other) ∧
        (closeAttempt now db attempt).approvals =
          db.approvals.map (Approval.execute (executedBy db.tasks [attempt])) := by
      unfold closeAttempt
      cases houtcome : outcome db.tasks attempt with
      | none =>
        refine ⟨rfl, ?_, ?_⟩
        · have hsettle : attempt.settle db.tasks = attempt := by
            simp only [RepairAttempt.settle, hattemptOpen, houtcome]
          rw [hsettle]
          exact (List.map_id' db.attempts).symm.trans
            (List.map_congr_left fun other _ => by split_ifs with h; exacts [h, rfl])
        · simp only [executedBy, List.flatMap_cons, List.flatMap_nil, houtcome, Option.map_none,
            Option.getD_none, ite_self, List.append_nil]
          exact (List.map_id' db.approvals).symm.trans
            (List.map_congr_left fun approval _ => approval.execute_nil.symm)
      | some result =>
        refine ⟨rfl, ?_, ?_⟩
        · refine List.map_congr_left fun other hother => ?_
          have hsettle : attempt.settle db.tasks = attempt.close result := by
            simp only [RepairAttempt.settle, hattemptOpen, houtcome]
          rw [hsettle]
          have hid : (other.id = (attempt.close result).id) = (other = attempt) :=
            propext ⟨fun hid => Table.eq_of_mem hkeys hother hattempt hid, fun h => h ▸ rfl⟩
          simp only [hid]
        · simp only [executedBy, List.flatMap_cons, List.flatMap_nil, houtcome, Option.map_some,
            Option.getD_some, hattemptOpen, Option.isNone_none, if_true, List.append_nil]
    obtain ⟨htasks, hattempts, happrovals⟩ := hstep
    have hids : (closeAttempt now db attempt).attempts.map (·.id) = db.attempts.map (·.id) := by
      rw [hattempts, List.map_map]
      refine List.map_congr_left fun other _ => ?_
      by_cases h : other = attempt
      · rw [Function.comp_apply, if_pos h, RepairAttempt.settle_id, h]
      · rw [Function.comp_apply, if_neg h]
    have hscanned' : ∀ other ∈ scanned, other ∈ (closeAttempt now db attempt).attempts := by
      intro other hother
      rw [hattempts]
      refine List.mem_map.mpr ⟨other, hscanned other hother, if_neg ?_⟩
      rintro rfl
      exact hfresh hother
    have hkeys' : ((closeAttempt now db attempt).attempts.map (·.id)).Nodup := by
      rw [hids]
      exact hkeys
    obtain ⟨htasks', hattempts', happrovals'⟩ := ih hkeys' hnodup hscanned' hopen
    · refine ⟨htasks'.trans htasks, ?_, ?_⟩
      · rw [hattempts', hattempts, htasks, List.map_map]
        refine List.map_congr_left fun other _ => ?_
        simp only [Function.comp_apply, List.mem_cons]
        by_cases h : other = attempt
        · subst h
          rw [if_pos rfl, if_pos (Or.inl rfl), RepairAttempt.settle_settle fun _ => id, ite_self]
        · rw [if_neg h]
          simp only [h, false_or]
      · rw [happrovals', happrovals, htasks, List.map_map]
        refine List.map_congr_left fun approval _ => ?_
        rw [Function.comp_apply, Approval.execute_execute]
        simp only [executedBy, List.flatMap_cons, List.flatMap_nil, List.append_nil]

/-! ### The calls of a run -/

/-- The outcome of an attempt does not change when more results arrive. -/
theorem outcome_receive {agentID : String} {events : List Event} {tasks tasks' : List TaskRow}
    (h : tasks'.map TaskRow.view = (tasks.map TaskRow.view).map (TaskView.receive agentID events))
    {attempt : RepairAttempt} {result : Outcome} (houtcome : outcome tasks attempt = some result) :
    outcome tasks' attempt = some result := by
  have hterminal : ∀ task ∈ attempt.own tasks, task.status ∈ terminalTaskStates := by
    intro task htask
    by_contra hopen
    rw [outcome, if_pos (.inr (.inr ⟨task, htask, hopen⟩))] at houtcome
    cases houtcome
  have hsame : (attempt.own tasks').map TaskRow.view = (attempt.own tasks).map TaskRow.view := by
    rw [RepairAttempt.own_views, h, List.filter_map]
    have hids : ((fun task : TaskView => decide (task.id ∈ attempt.taskIDs)) ∘
        TaskView.receive agentID events) = fun task => decide (task.id ∈ attempt.taskIDs) := by
      funext task
      rw [Function.comp_apply, (task.receive_action agentID events).1]
    rw [hids, ← RepairAttempt.own_views]
    refine (List.map_congr_left fun task htask => ?_).trans (List.map_id _)
    obtain ⟨row, hrow, rfl⟩ := List.mem_map.mp htask
    exact TaskView.receive_of_terminal (hterminal row hrow) events
  rw [outcome_congr hsame, houtcome]

/-- What events make of the tasks of an Agent and, once one of them has changed
a task, of the attempts and approvals. -/
structure Ingested (agentID : String) (events : List Event) (db after : Db ρ) : Prop where
  tasks : after.tasks.map TaskRow.view =
    (db.tasks.map TaskRow.view).map (TaskView.receive agentID events)
  rows : (after.attempts = db.attempts ∧ after.approvals = db.approvals ∧
      ∀ task ∈ db.tasks.map TaskRow.view, task.receive agentID events = task) ∨
    (after.attempts = db.attempts.map (RepairAttempt.settle after.tasks) ∧
      after.approvals = db.approvals.map (Approval.execute (executedBy after.tasks db.attempts)) ∧
      ∃ task ∈ db.tasks.map TaskRow.view, task.receive agentID events ≠ task)

theorem ingest_spec {db : Db ρ} (call : Call) (hkeys : db.Keys)
    (hplain : Plain (db.tasks.map TaskRow.view) call.events) :
    Ingested agentID call.events db (ingest context agentID db call) := by
  obtain ⟨htasks, hattempts, happrovals, hchanged⟩ :=
    recordResults_spec context agentID call.now [] call.events hkeys.tasks
  unfold ingest recordAgentResults
  generalize call.events.foldl (recordResult context agentID call.now) (db, []) = state
    at htasks hattempts happrovals hchanged ⊢
  obtain ⟨received, changed⟩ := state
  dsimp only at htasks hattempts happrovals hchanged ⊢
  by_cases hnone : changed = []
  · rw [if_pos hnone]
    exact ⟨htasks, .inl ⟨hattempts, happrovals hplain, (hchanged.mp hnone).2⟩⟩
  · rw [if_neg hnone]
    have hopen : ∀ attempt ∈ received.attempts.filter (fun attempt => attempt.success.isNone),
        attempt.success = none := fun attempt hattempt => by
      simpa using (List.mem_filter.mp hattempt).2
    have hkeys' : (received.attempts.map (·.id)).Nodup := hattempts ▸ hkeys.attempts
    obtain ⟨hafterTasks, hafterAttempts, hafterApprovals⟩ := closeAttempts_spec call.now
      hkeys' ((List.Nodup.of_map _ hkeys').filter _)
      (fun attempt hattempt => (List.mem_filter.mp hattempt).1) hopen
    refine ⟨by rw [hafterTasks, htasks], .inr ⟨?_, ?_, ?_⟩⟩
    · rw [hafterAttempts, hafterTasks, hattempts]
      refine List.map_congr_left fun attempt hattempt => ?_
      cases hsuccess : attempt.success with
      | none => rw [if_pos (List.mem_filter.mpr ⟨hattempt, by rw [hsuccess]; rfl⟩)]
      | some success => simp only [RepairAttempt.settle, hsuccess, ite_self]
    · rw [hafterApprovals, hafterTasks, happrovals hplain, hattempts]
      refine List.map_congr_left fun approval _ => Approval.execute_congr (fun id => ?_) approval
      simp only [executedBy, List.mem_flatMap, List.mem_filter]
      refine exists_congr fun attempt => ?_
      cases attempt.success <;> simp
    · by_contra hkept
      simp only [not_exists, not_and, not_not] at hkept
      exact hnone (hchanged.mpr ⟨rfl, hkept⟩)

theorem Ingested.refl (agentID : String) (db : Db ρ) : Ingested agentID [] db db :=
  ⟨(List.map_id _).symm, .inl ⟨rfl, rfl, fun _ _ => rfl⟩⟩

theorem Ingested.keys {events : List Event} {db after : Db ρ}
    (h : Ingested agentID events db after) (hkeys : db.Keys) : after.Keys := by
  constructor
  · rw [ids_of_views h.tasks fun task => (task.receive_action agentID events).1]
    exact hkeys.tasks
  · obtain ⟨hattempts, -⟩ | ⟨hattempts, -⟩ := h.rows
    · rw [hattempts]
      exact hkeys.attempts
    · rw [hattempts, List.map_map]
      have hids : ((·.id) ∘ RepairAttempt.settle after.tasks) = (·.id) :=
        funext (RepairAttempt.settle_id after.tasks)
      rw [hids]
      exact hkeys.attempts

/-- A later scan executes what an earlier one did, and what the earlier one left open. -/
theorem mem_executedBy_settle {tasks tasks' : List TaskRow} {attempts : List RepairAttempt}
    (h : ∀ attempt result, outcome tasks attempt = some result →
      outcome tasks' attempt = some result) (id : String) :
    id ∈ executedBy tasks attempts ++
        executedBy tasks' (attempts.map (RepairAttempt.settle tasks)) ↔
      id ∈ executedBy tasks' attempts := by
  simp only [executedBy, List.mem_append, List.mem_flatMap, List.mem_map,
    exists_exists_and_eq_and, ← exists_or, ← and_or_left]
  refine exists_congr fun attempt => and_congr_right fun _ => ?_
  cases hsuccess : attempt.success with
  | some success => simp [RepairAttempt.settle, hsuccess]
  | none =>
    cases houtcome : outcome tasks attempt with
    | none => simp [RepairAttempt.settle, hsuccess, houtcome]
    | some result =>
      simp [RepairAttempt.settle, RepairAttempt.close, hsuccess, houtcome,
        h attempt result houtcome]

theorem Ingested.trans {first second : List Event} {db middle after : Db ρ}
    (h : Ingested agentID first db middle) (h' : Ingested agentID second middle after) :
    Ingested agentID (first ++ second) db after := by
  have htasks : after.tasks.map TaskRow.view =
      (db.tasks.map TaskRow.view).map (TaskView.receive agentID (first ++ second)) := by
    rw [h'.tasks, h.tasks, List.map_map]
    exact List.map_congr_left fun task _ => (task.receive_append agentID first second).symm
  have hlater : ∀ attempt result, outcome middle.tasks attempt = some result →
      outcome after.tasks attempt = some result := fun _ _ => outcome_receive h'.tasks
  refine ⟨htasks, ?_⟩
  obtain ⟨hattempts', happrovals', hkept'⟩ | ⟨hattempts', happrovals', task', htask', hne'⟩ :=
    h'.rows
  · -- the second part changes nothing, so the outcomes are those after the first
    have hviews : after.tasks.map TaskRow.view = middle.tasks.map TaskRow.view :=
      h'.tasks.trans ((List.map_congr_left hkept').trans (List.map_id _))
    have hsame : ∀ attempt, outcome after.tasks attempt = outcome middle.tasks attempt := by
      intro attempt
      refine outcome_congr ?_
      rw [RepairAttempt.own_views, RepairAttempt.own_views, hviews]
    rw [h.tasks, List.forall_mem_map] at hkept'
    obtain ⟨hattempts, happrovals, hkept⟩ | ⟨hattempts, happrovals, task, htask, hne⟩ := h.rows
    · refine .inl ⟨hattempts'.trans hattempts, happrovals'.trans happrovals, fun task htask => ?_⟩
      exact TaskView.receive_append_eq.mpr ⟨hkept task htask, hkept' task htask⟩
    · refine .inr ⟨hattempts'.trans (hattempts.trans ?_), happrovals'.trans (happrovals.trans ?_),
        task, htask, fun heq => hne (TaskView.receive_append_eq.mp heq).1⟩
      · exact List.map_congr_left fun attempt _ => by
          rw [RepairAttempt.settle, RepairAttempt.settle, hsame]
      · simp only [executedBy, hsame]
  · rw [h.tasks] at htask'
    obtain ⟨task, htask, rfl⟩ := List.mem_map.mp htask'
    have hne : task.receive agentID (first ++ second) ≠ task :=
      fun heq => hne' (TaskView.receive_append_eq.mp heq).2
    obtain ⟨hattempts, happrovals, -⟩ | ⟨hattempts, happrovals, -⟩ := h.rows
    · rw [hattempts] at hattempts' happrovals'
      rw [happrovals] at happrovals'
      exact .inr ⟨hattempts', happrovals', task, htask, hne⟩
    · refine .inr ⟨?_, ?_, task, htask, hne⟩
      · rw [hattempts', hattempts, List.map_map]
        exact List.map_congr_left fun attempt _ => RepairAttempt.settle_settle (hlater attempt)
      · rw [happrovals', hattempts, happrovals, List.map_map]
        refine List.map_congr_left fun approval _ => ?_
        rw [Function.comp_apply, Approval.execute_execute]
        exact Approval.execute_congr (mem_executedBy_settle hlater) approval

theorem Plain.kept {first second : List Event} {db middle : Db ρ}
    (hplain : Plain (db.tasks.map TaskRow.view) (first ++ second))
    (h : Ingested agentID first db middle) : Plain (middle.tasks.map TaskRow.view) second := by
  rw [h.tasks]
  intro task htask result hresult hid
  obtain ⟨before, hbefore, rfl⟩ := List.mem_map.mp htask
  obtain ⟨hbeforeID, hbeforeAction⟩ := before.receive_action agentID first
  rw [hbeforeAction]
  exact hplain before hbefore result (List.mem_append_right first hresult) (hid.trans hbeforeID)

def eventsOf (calls : List Call) : List Event := calls.flatMap (·.events)

variable (context agentID) in
theorem run_ingested {db : Db ρ} (calls : List Call) (hkeys : db.Keys)
    (hplain : Plain (db.tasks.map TaskRow.view) (eventsOf calls)) :
    Ingested agentID (eventsOf calls) db (run (ingest context agentID) db calls) := by
  induction calls generalizing db with
  | nil => exact .refl agentID db
  | cons call calls ih =>
    have hcall : Ingested agentID call.events db (ingest context agentID db call) :=
      ingest_spec call hkeys fun task htask result hresult =>
        hplain task htask result (List.mem_append_left _ hresult)
    exact hcall.trans (ih (hcall.keys hkeys) (Plain.kept hplain hcall))

/-! ### Statuses that are final -/

def taskStatuses (db : Db ρ) : List (String × TaskStatus) :=
  db.tasks.map fun task => (task.id, task.status)

theorem taskStatuses_eq (db : Db ρ) :
    taskStatuses db = (db.tasks.map TaskRow.view).map fun task => (task.id, task.status) := by
  rw [List.map_map]
  rfl

theorem closeAttempts_tasks (db : Db ρ) (scanned : List RepairAttempt) :
    (scanned.foldl (closeAttempt now) db).tasks = db.tasks := by
  induction scanned generalizing db with
  | nil => rfl
  | cons attempt scanned ih =>
    rw [List.foldl_cons, ih, closeAttempt]
    split <;> rfl

variable (context agentID) in
/-- What a call makes of the tasks, whatever the results are for. -/
theorem ingest_tasks {db : Db ρ} (call : Call) (hkeys : (db.tasks.map (·.id)).Nodup) :
    (ingest context agentID db call).tasks.map TaskRow.view =
      (db.tasks.map TaskRow.view).map (TaskView.receive agentID call.events) := by
  obtain ⟨htasks, -⟩ := recordResults_spec context agentID call.now [] call.events hkeys
  unfold ingest recordAgentResults
  generalize call.events.foldl (recordResult context agentID call.now) (db, []) = state at htasks ⊢
  obtain ⟨received, changed⟩ := state
  dsimp only
  split_ifs
  · exact htasks
  · rw [closeAttempts_tasks]
    exact htasks

/-- Calls for any of the Agents, as steps. -/
def ingestAny (context : Context ρ) (db : Db ρ) (input : String × Call) : Db ρ :=
  ingest context input.1 db input.2

theorem run_terminal {db : Db ρ} (hkeys : (db.tasks.map (·.id)).Nodup)
    (inputs : List (String × Call)) {id : String} {status : TaskStatus}
    (hterminal : status ∈ terminalTaskStates) (h : (id, status) ∈ taskStatuses db) :
    (id, status) ∈ taskStatuses (run (ingestAny context) db inputs) := by
  induction inputs generalizing db with
  | nil => exact h
  | cons input inputs ih =>
    have htasks := ingest_tasks context input.1 input.2 hkeys
    show _ ∈ taskStatuses (run (ingestAny context) (ingestAny context db input) inputs)
    refine ih ?_ ?_
    · rw [ingestAny, ids_of_views htasks fun task => (task.receive_action input.1 _).1]
      exact hkeys
    · rw [taskStatuses_eq] at h ⊢
      obtain ⟨task, htask, heq⟩ := List.mem_map.mp h
      rw [ingestAny, htasks, List.map_map]
      refine List.mem_map.mpr ⟨task, htask, ?_⟩
      rw [Function.comp_apply, TaskView.receive_of_terminal, heq]
      rw [show task.status = status from congrArg Prod.snd heq]
      exact hterminal

/-- What is compared: the statuses of the tasks, the outcomes of the attempts
and the statuses of the approvals. -/
structure SameOutcome (db db' : Db ρ) : Prop where
  tasks : taskStatuses db = taskStatuses db'
  attempts : db.attempts.map (fun attempt => (attempt.id, attempt.success, attempt.taskStatuses)) =
    db'.attempts.map fun attempt => (attempt.id, attempt.success, attempt.taskStatuses)
  approvals : db.approvals.map (fun approval => (approval.id, approval.status)) =
    db'.approvals.map fun approval => (approval.id, approval.status)

section TwoTasks

def taskOf (id action : String) : TaskRow where
  id := id
  agentID := "agent-1"
  approvalID := some "approval-1"
  requesterID := none
  approverID := none
  targetHostID := none
  action := action
  parameters := Dict.empty
  status := .delivered
  nonce := id
  expiresAt := seconds 300
  signature := ""
  createdAt := 0
  result := none
  verificationResult := none
  startedAt := none
  completedAt := none

def twoTasks : Db Unit where
  tasks := [taskOf "task-1" "restart_container", taskOf "task-2" "local_health_check"]
  attempts := [⟨"attempt-1", "incident-1", "restart_exited_container", false, none, Dict.empty,
    ["task-1", "task-2"], none, 0⟩]
  approvals := [⟨"approval-1", "incident-1", "restart_exited_container", 2, .approved, "agent-1",
    [], none, 0, seconds 600, none, none⟩]
  incidents := []
  auditLog := []
  others := ()

def keepAll : Context Unit where
  redact := id
  recordPortTrafficResult := fun _ _ state => state

def resultOf (taskID : String) (success : Bool) : ActionResult :=
  ⟨taskID, success, none, .null, .null, .null⟩

end TwoTasks

end VpsGuardian.Repair
