import VpsGuardian.Agent.Transport

/-!
What the statuses of the Controller say about the actions of the Agent.

A task that succeeded or failed for the Controller has been run or refused by the Agent, and no
result is lost between the two.
-/

namespace VpsGuardian.Agent.Delivery

open Lib
open Repair (Follows TaskRow mem_terminalTaskStates terminalTaskStates)

variable {ρ : Type} {parties : Parties ρ}

/-! ### Executions -/

/-- What the action came to, for an execution that ran it. -/
def outcome? : Execution → Option (Except String Unit)
  | .ran outcome _ _ _ => some outcome
  | _ => none

/-- The action of a task has run, with an outcome of a kind. -/
def Ran (executions : List (Task × Execution)) (id : String) (P : Except String Unit → Prop) :
    Prop :=
  ∃ entry ∈ executions, entry.1.id = id ∧ ∃ outcome, outcome? entry.2 = some outcome ∧ P outcome

/-- A task has been refused because its action is cooling down. -/
def Refused (executions : List (Task × Execution)) (id : String) : Prop :=
  ∃ entry ∈ executions, entry.1.id = id ∧ ∃ result, entry.2 = .refused result

/-- What has to have happened for a result to say that a task succeeded, or that it failed. -/
def Vouched (executions : List (Task × Execution)) (id : String) : Bool → Prop
  | true => Ran executions id fun _ => True
  | false => Ran executions id (fun outcome => ∃ e, outcome = .error e) ∨ Refused executions id

/-- The result of an action that has run and failed. -/
def Fails (result : ActionResult) : Prop := result.success = false ∧ result.exitCode = 1

/-- How an execution ends, with what it says and what it leaves behind. -/
inductive Ends (memory : ActionState) (task : Task) : Execution → Prop
  | duplicate {result : ActionResult} (hdone : memory.completed.contains task.id = true)
      (hid : result.taskID = task.id) (hsuccess : result.success = true) :
      Ends memory task (.duplicate result)
  | refused {result : ActionResult} (hid : result.taskID = task.id)
      (hsuccess : result.success = false) (hcode : result.exitCode = 0) :
      Ends memory task (.refused result)
  | ran {outcome : Except String Unit} {result : ActionResult} {after : ActionState} {host : Host}
      (hnew : memory.completed.contains task.id = false) (hid : result.taskID = task.id)
      (hsuccess : result.success = true → outcome = .ok ())
      (hfails : result.success = false → Fails result ∧ ∃ e, outcome = .error e)
      (hafter : ∀ id, after.completed.contains id = true ↔
        id = task.id ∨ memory.completed.contains id = true) :
      Ends memory task (.ran outcome result after host)

theorem contains_insert (m : Dict Int) (key k : String) (value : Int) :
    (m.insert key value).contains k = true ↔ k = key ∨ m.contains k = true := by
  simp only [Dict.contains, Dict.get?_insert]
  split_ifs with h
  · simp [h]
  · simp [h]

theorem execute_ends (config : Config) (env : Surroundings) (memory : ActionState) (task : Task)
    (host : Host) : Ends memory task (execute config env memory task host) := by
  unfold execute
  split_ifs with hdone hcooling
  · exact .duplicate hdone rfl rfl
  · exact .refused rfl rfl rfl
  · refine .ran (by simpa using hdone) ?_ ?_ ?_ fun id => contains_insert _ _ _ _
    all_goals
      cases (runAction config env task
        { host with before := .empty, after := .empty, message := "" }).1 <;>
      simp [finishedResult, pendingResult, Fails]

section Executions

variable {executions : List (Task × Execution)} {id : String} {P Q : Except String Unit → Prop}

theorem Ran.imp (h : Ran executions id P) (hPQ : ∀ outcome, P outcome → Q outcome) :
    Ran executions id Q := by
  obtain ⟨entry, hentry, hid, outcome, houtcome, hP⟩ := h
  exact ⟨entry, hentry, hid, outcome, houtcome, hPQ outcome hP⟩

theorem Ran.append (h : Ran executions id P) (later : List (Task × Execution)) :
    Ran (executions ++ later) id P := by
  obtain ⟨entry, hentry, hrest⟩ := h
  exact ⟨entry, List.mem_append_left _ hentry, hrest⟩

theorem Refused.append (h : Refused executions id) (later : List (Task × Execution)) :
    Refused (executions ++ later) id := by
  obtain ⟨entry, hentry, hrest⟩ := h
  exact ⟨entry, List.mem_append_left _ hentry, hrest⟩

theorem Vouched.append {success : Bool} (h : Vouched executions id success)
    (later : List (Task × Execution)) : Vouched (executions ++ later) id success := by
  cases success with
  | true => exact Ran.append h later
  | false => exact h.imp (·.append later) (·.append later)

theorem ran_last {task : Task} {outcome : Except String Unit} {result : ActionResult}
    {after : ActionState} {host : Host} (hP : P outcome) :
    Ran (executions ++ [(task, .ran outcome result after host)]) task.id P :=
  ⟨_, List.mem_append_right _ (List.mem_singleton_self _), rfl, outcome, rfl, hP⟩

end Executions

/-! ### The phases -/

/-- The tasks that the process has at hand. -/
def Phase.tasks : Phase → List Task
  | .answered _ _ tasks | .handling _ tasks | .saving _ _ tasks | .reporting _ _ tasks => tasks
  | _ => []

/-- The result that is not enqueued yet. -/
def Phase.result? : Phase → Option ActionResult
  | .saving _ result _ | .reporting _ result _ => some result
  | _ => none

/-- The result that is enqueued next. -/
def Phase.reported? : Phase → Option ActionResult
  | .reporting _ result _ => some result
  | _ => none

/-- What the process knows, or would know if it started now. -/
def System.memory (s : System ρ) : ActionState := s.phase.memory?.getD (loadedState s.stateFile)

theorem memory_of_phase {s : System ρ} {phase : Phase} {memory : ActionState}
    (hphase : s.phase = phase) (h : phase.memory? = some memory) : s.memory = memory := by
  rw [System.memory, hphase, h]
  rfl

theorem memory_of_down {s : System ρ} (h : s.phase = .down) :
    s.memory = loadedState s.stateFile := by
  rw [System.memory, h]
  rfl

/-- What the process knows changes only where it stops or executes a task. -/
theorem memory_moves {s s' : System ρ} {input : Input} (h : Moves parties s input s') :
    (s'.memory = s.memory ∧ s'.executions = s.executions) ∨
    (input = .crash ∧ s' = { s with phase := .down }) ∨
    ∃ memory task tasks env host, input = .execute env host ∧
      s.phase = .handling memory (task :: tasks) ∧
      s' = { s with
        executions := s.executions ++ [(task, execute parties.agent env memory task host)]
        phase := .afterExecution memory tasks (execute parties.agent env memory task host) } := by
  have hsame {phase phase' : Phase} {memory : ActionState} {t : System ρ}
      (hphase : s.phase = phase) (hmemory : phase.memory? = some memory)
      (hphase' : t.phase = phase') (hmemory' : phase'.memory? = some memory)
      (hexecutions : t.executions = s.executions) :
      t.memory = s.memory ∧ t.executions = s.executions :=
    ⟨(memory_of_phase hphase' hmemory').trans (memory_of_phase hphase hmemory).symm, hexecutions⟩
  cases h with
  | stay => exact .inl ⟨rfl, rfl⟩
  | start hphase => exact .inl ⟨(memory_of_down hphase).symm, rfl⟩
  | crash => exact .inr (.inl ⟨rfl, rfl⟩)
  | look hphase => exact .inl ⟨rfl, rfl⟩
  | heartbeat hphase hevents => exact .inl (hsame hphase rfl rfl rfl rfl)
  | unreachable hphase => exact .inl (hsame hphase rfl rfl rfl rfl)
  | notAccepted hphase => exact .inl (hsame hphase rfl rfl rfl rfl)
  | answer hphase hreply => exact .inl (hsame hphase rfl rfl rfl rfl)
  | ack hphase => exact .inl (hsame hphase rfl rfl rfl rfl)
  | skip hphase => exact .inl (hsame hphase rfl rfl rfl rfl)
  | execute hphase hverify => exact .inr (.inr ⟨_, _, _, _, _, rfl, hphase, rfl⟩)
  | save hphase => exact .inl (hsame hphase rfl rfl rfl rfl)
  | enqueue hphase => exact .inl (hsame hphase rfl rfl rfl rfl)
  | done hphase => exact .inl (hsame hphase rfl rfl rfl rfl)
  | refuse => exact .inl ⟨rfl, rfl⟩
  | take hrequest hrows hreplies => exact .inl ⟨rfl, rfl⟩
  | lose => exact .inl ⟨rfl, rfl⟩
  | aside hrows => exact .inl ⟨rfl, rfl⟩

/-! ### Records -/

theorem ofInt_inj {i j : Int} (h : Json.Number.ofInt i = .ofInt j) : i = j := by
  simp only [Json.Number.ofInt, Json.Number.mk.injEq, decide_eq_decide, and_true] at h
  omega

theorem report_inj {result result' : ActionResult} (h : report result = report result') :
    result.taskID = result'.taskID ∧ result.success = result'.success ∧
      result.exitCode = result'.exitCode := by
  simp only [report, marshalResult, Json.Value.object.injEq, List.cons.injEq, Prod.mk.injEq,
    Json.Value.string.injEq, Json.Value.bool.injEq, Json.Value.int, Json.Value.number.injEq,
    true_and] at h
  obtain ⟨⟨hid, -, hsuccess, -, -, -, -, -, hcode, -⟩, -⟩ := h
  exact ⟨hid, hsuccess, ofInt_inj hcode⟩

theorem report_ne_heartbeatFailed (result : ActionResult) (now summary : String) :
    report result ≠ heartbeatFailed now summary := by
  simp [report, heartbeatFailed]

theorem eventOf_report (reading : Reading) (result : ActionResult) :
    ∃ event : Repair.ActionResult, eventOf reading (report result) = .actionResult event ∧
      event.taskID = result.taskID ∧ event.success = result.success :=
  ⟨_, rfl, rfl, rfl⟩

/-! ### Where the statuses come from -/

/-- A result of a task of the Agent, which the executions bear out. -/
def Vouches (agentID : String) (rows : List TaskRow) (executions : List (Task × Execution))
    (result : ActionResult) : Prop :=
  Known agentID rows result.taskID ∧ Vouched executions result.taskID result.success

structure Sound (parties : Parties ρ) (s : System ρ) : Prop where
  keys : (s.db.tasks.map (·.id)).Nodup
  transport : Transport parties s
  replies : ∀ reply ∈ s.replies, ∀ task ∈ reply.2, Known parties.agentID s.db.tasks task.id
  tasks : ∀ task ∈ s.phase.tasks, Known parties.agentID s.db.tasks task.id
  memory : ∀ id, s.memory.completed.contains id = true → Ran s.executions id fun _ => True
  file : ∀ id, (loadedState s.stateFile).completed.contains id = true →
    Ran s.executions id fun _ => True
  result : ∀ result, s.phase.result? = some result →
    Vouches parties.agentID s.db.tasks s.executions result
  records : ∀ value ∈ s.queue.enqueued, (∃ now summary, value = heartbeatFailed now summary) ∨
    ∃ result, value = report result ∧ Vouches parties.agentID s.db.tasks s.executions result
  settled : ∀ i ∈ s.seen, ∀ result, s.queue.enqueued[i]? = some (report result) →
    ∃ row ∈ s.db.tasks, row.id = result.taskID ∧ row.agentID = parties.agentID ∧
      row.status ∈ terminalTaskStates
  rows : ∀ row ∈ s.db.tasks, row.agentID = parties.agentID →
    (row.status = .succeeded → Vouched s.executions row.id true) ∧
      (row.status = .failed → Vouched s.executions row.id false)

theorem Known.follows {agentID id : String} {events : List Repair.Event}
    {tasks tasks' : List TaskRow} (h : Known agentID tasks id)
    (hrows : Follows agentID events tasks tasks') : Known agentID tasks' id := by
  obtain ⟨row, hrow, hid, hagent⟩ := h
  obtain ⟨row', hrow', hid', hagent', -⟩ := hrows.forward row hrow hagent
  exact ⟨row', hrow', hid'.trans hid, hagent'⟩

/-- What is settled stays so. -/
theorem settled_follows {agentID id : String} {events : List Repair.Event}
    {tasks tasks' : List TaskRow} (hrows : Follows agentID events tasks tasks')
    (h : ∃ row ∈ tasks, row.id = id ∧ row.agentID = agentID ∧ row.status ∈ terminalTaskStates) :
    ∃ row ∈ tasks', row.id = id ∧ row.agentID = agentID ∧ row.status ∈ terminalTaskStates := by
  obtain ⟨row, hrow, hid, hagent, hterminal⟩ := h
  obtain ⟨row', hrow', hid', hagent', hstatus⟩ := hrows.forward row hrow hagent
  have hsame : (row.view.receive agentID events).status = row.status := by
    rw [Repair.TaskView.receive_of_terminal (show row.view.status ∈ _ from hterminal)]
    rfl
  rw [hsame] at hstatus
  exact ⟨row', hrow', hid'.trans hid, hagent', hstatus hterminal ▸ hterminal⟩

/-- Where no result has arrived, what is settled was so before. -/
theorem status_aside {agentID : String} {tasks tasks' : List TaskRow}
    (hrows : Follows agentID [] tasks tasks') {row : TaskRow} (hrow : row ∈ tasks')
    (hagent : row.agentID = agentID) (hterminal : row.status ∈ terminalTaskStates) :
    ∃ before ∈ tasks, before.id = row.id ∧ before.agentID = agentID ∧
      row.status = before.status :=
  hrows.backward row hrow hagent hterminal

/-- The status of a settled task is that of something the executions bear out. -/
theorem vouched_of_source {executions : List (Task × Execution)} {row : TaskRow}
    (hsource : row.status ∈ terminalTaskStates → ∃ success, Vouched executions row.id success ∧
      row.status = if success then .succeeded else .failed) :
    (row.status = .succeeded → Vouched executions row.id true) ∧
      (row.status = .failed → Vouched executions row.id false) := by
  constructor <;> intro hstatus
  · obtain ⟨success, hvouched, heq⟩ := hsource (mem_terminalTaskStates.mpr (.inl hstatus))
    cases success with
    | true => exact hvouched
    | false => simp [hstatus] at heq
  · obtain ⟨success, hvouched, heq⟩ := hsource (mem_terminalTaskStates.mpr (.inr hstatus))
    cases success with
    | true => simp [hstatus] at heq
    | false => exact hvouched

section Step

variable {s : System ρ}

theorem Sound.source (h : Sound parties s) {row : TaskRow} (hrow : row ∈ s.db.tasks)
    (hagent : row.agentID = parties.agentID) (hterminal : row.status ∈ terminalTaskStates) :
    ∃ success, Vouched s.executions row.id success ∧
      row.status = if success then .succeeded else .failed := by
  obtain hsucceeded | hfailed := mem_terminalTaskStates.mp hterminal
  · exact ⟨true, (h.rows row hrow hagent).1 hsucceeded, hsucceeded⟩
  · exact ⟨false, (h.rows row hrow hagent).2 hfailed, hfailed⟩

/-- The records of a heartbeat are those from its first one on. -/
theorem Transport.getElem?_events (h : Transport parties s) {request : Request}
    (hrequest : request ∈ s.requests) {k : Nat} (hk : k < request.events.length) :
    s.queue.enqueued[request.start + k]? = request.events[k]? := by
  obtain ⟨-, -, ⟨rest, hrest⟩, -⟩ := h.requests request hrequest
  rw [← List.getElem?_drop, ← hrest, List.getElem?_append_left hk]

/-- A record has become a result that the Controller has settled. -/
theorem Sound.take (h : Sound parties s) {request : Request} (hrequest : request ∈ s.requests)
    {after : Repair.Db ρ}
    (hrows : Follows parties.agentID (request.events.map (eventOf parties.reading)) s.db.tasks
      after.tasks) :
    (∀ i ∈ s.seen ++ List.range' request.start request.events.length, ∀ result,
      s.queue.enqueued[i]? = some (report result) →
      ∃ row ∈ after.tasks, row.id = result.taskID ∧ row.agentID = parties.agentID ∧
        row.status ∈ terminalTaskStates) ∧
    ∀ row ∈ after.tasks, row.agentID = parties.agentID →
      (row.status = .succeeded → Vouched s.executions row.id true) ∧
        (row.status = .failed → Vouched s.executions row.id false) := by
  constructor
  · intro i hi result hresult
    obtain hold | hnew := List.mem_append.mp hi
    · exact settled_follows hrows (h.settled i hold result hresult)
    obtain ⟨hstart, hlt⟩ := List.mem_range'_1.mp hnew
    obtain ⟨k, rfl⟩ := Nat.exists_eq_add_of_le hstart
    rw [h.transport.getElem?_events hrequest (Nat.lt_of_add_lt_add_left hlt)] at hresult
    have hvalue : report result ∈ s.queue.enqueued := by
      obtain ⟨-, -, hevents, -⟩ := h.transport.requests request hrequest
      exact List.mem_of_mem_drop (hevents.subset (List.mem_of_getElem? hresult))
    obtain ⟨row, hrow, hid, hagent⟩ : Known parties.agentID s.db.tasks result.taskID := by
      obtain ⟨now, summary, hfailed⟩ | ⟨result', hsame, hknown, -⟩ := h.records _ hvalue
      · exact absurd hfailed (report_ne_heartbeatFailed _ _ _)
      · rwa [(report_inj hsame).1]
    obtain ⟨event, hevent, heventID, -⟩ := eventOf_report parties.reading result
    -- after a result for it a task is no longer open
    have hterminal : (row.view.receive parties.agentID
        (request.events.map (eventOf parties.reading))).status ∈ terminalTaskStates := by
      obtain ⟨hkept, hnone⟩ | ⟨other, -, -, -, -, hreceived⟩ := row.view.receive_eq
        parties.agentID (request.events.map (eventOf parties.reading))
      · rw [hkept]
        by_contra hopen
        refine hnone hagent hopen event ?_ (heventID.trans hid.symm)
        exact hevent ▸ List.mem_map_of_mem (List.mem_of_getElem? hresult)
      · rw [hreceived, mem_terminalTaskStates]
        cases other.success <;> simp
    obtain ⟨row', hrow', hid', hagent', hstatus⟩ := hrows.forward row hrow hagent
    exact ⟨row', hrow', hid'.trans hid, hagent', hstatus hterminal ▸ hterminal⟩
  · intro row' hrow' hagent
    refine vouched_of_source fun hterminal => ?_
    -- a status that is new is that of some event
    obtain ⟨row, hrow, hid, hown, hstatus⟩ := hrows.backward row' hrow' hagent hterminal
    rw [← hid]
    obtain ⟨hkept, -⟩ | ⟨event, hevent, heventID, -, -, hreceived⟩ := row.view.receive_eq
      parties.agentID (request.events.map (eventOf parties.reading))
    · have hsame : row'.status = row.status := by rw [hstatus, hkept]; rfl
      rw [hsame] at hterminal ⊢
      exact h.source hrow hown hterminal
    · obtain ⟨value, hvalue, heq⟩ := List.mem_map.mp hevent
      obtain ⟨-, -, hevents, -⟩ := h.transport.requests request hrequest
      obtain ⟨now, summary, rfl⟩ | ⟨result, rfl, -, hvouched⟩ :=
        h.records value (List.mem_of_mem_drop (hevents.subset hvalue))
      · cases heq
      · cases heq
        rw [hreceived] at hstatus
        have hid' : result.taskID = row.id := heventID
        rw [← hid']
        exact ⟨result.success, hvouched, hstatus⟩

/-- A record that is enqueued, where what it reports is borne out. -/
theorem Sound.enqueue (h : Sound parties s) {value : Json.Value} {fails : Bool}
    (hvalue : (∃ now summary, value = heartbeatFailed now summary) ∨ ∃ result,
      value = report result ∧ Vouches parties.agentID s.db.tasks s.executions result) :
    let queue := Queue.step parties.maxBytes s.queue (.enqueue value fails)
    (∀ value ∈ queue.enqueued, (∃ now summary, value = heartbeatFailed now summary) ∨
      ∃ result, value = report result ∧ Vouches parties.agentID s.db.tasks s.executions result) ∧
    ∀ i ∈ s.seen, ∀ result, queue.enqueued[i]? = some (report result) →
      ∃ row ∈ s.db.tasks, row.id = result.taskID ∧ row.agentID = parties.agentID ∧
        row.status ∈ terminalTaskStates := by
  intro queue
  constructor
  · intro other hother
    obtain heq | ⟨file, dropped, heq⟩ :=
      enqueue_cases parties.maxBytes s.queue value fails
    · simp only [queue, heq] at hother
      exact h.records other hother
    · simp only [queue, heq, List.mem_append, List.mem_singleton] at hother
      obtain hold | rfl := hother
      · exact h.records other hold
      · exact hvalue
  · intro i hi result hresult
    rw [(grows_enqueue value fails).getElem? (h.transport.seen i hi)] at hresult
    exact h.settled i hi result hresult

theorem enqueued_ack {maxBytes : Int} {queue : Queue.State} (count : Nat) (fails : Bool) :
    (Queue.step maxBytes queue (.ack count fails)).enqueued = queue.enqueued := by
  obtain h | ⟨file, taken, dropped, -, h⟩ :=
    ack_cases maxBytes queue count fails
  · rw [h]
  · rw [h]

/-- What an execution reports and remembers has happened. -/
theorem Sound.execute (h : Sound parties s) {memory : ActionState} {task : Task}
    {tasks : List Task} (hphase : s.phase = .handling memory (task :: tasks))
    {execution : Execution} (hends : Ends memory task execution) :
    let s' := { s with
      executions := s.executions ++ [(task, execution)]
      phase := .afterExecution memory tasks execution }
    (∀ task ∈ s'.phase.tasks, Known parties.agentID s.db.tasks task.id) ∧
    (∀ id, s'.memory.completed.contains id = true → Ran s'.executions id fun _ => True) ∧
    ∀ result, s'.phase.result? = some result →
      Vouches parties.agentID s.db.tasks s'.executions result := by
  have hmemory := h.memory
  have htasks := h.tasks
  rw [memory_of_phase hphase rfl] at hmemory
  rw [hphase] at htasks
  have hknown := htasks task List.mem_cons_self
  have hrest : ∀ task ∈ tasks, Known parties.agentID s.db.tasks task.id :=
    fun task htask => htasks task (List.mem_cons_of_mem _ htask)
  cases hends with
  | duplicate hdone hid hsuccess =>
    -- it reports a success, and what the memory says is only that the task has run
    refine ⟨hrest, fun id hid => (hmemory id hid).append _, ?_⟩
    rintro _ ⟨⟩
    refine ⟨hid ▸ hknown, ?_⟩
    rw [hid, hsuccess]
    exact Ran.append (hmemory _ hdone) _
  | refused hid hsuccess hcode =>
    refine ⟨hrest, fun id hid => (hmemory id hid).append _, ?_⟩
    rintro _ ⟨⟩
    refine ⟨hid ▸ hknown, ?_⟩
    rw [hid, hsuccess]
    exact .inr ⟨_, List.mem_append_right _ (List.mem_singleton_self _), rfl, _, rfl⟩
  | @ran outcome result after host hnew hid hsuccess hfails hafter =>
    dsimp only [Phase.afterExecution]
    split_ifs with hrunning
    · refine ⟨hrest, fun id hdone => ?_, ?_⟩
      · obtain rfl | hold := (hafter id).mp hdone
        · exact ran_last trivial
        · exact (hmemory id hold).append _
      · rintro _ ⟨⟩
        refine ⟨hid ▸ hknown, ?_⟩
        rw [hid]
        cases hcase : result.success with
        | true => exact ran_last trivial
        | false => exact .inl (ran_last (hfails hcase).2)
    · -- the process stopped on the way: what counts is the file
      exact ⟨nofun, fun id hdone => (h.file id hdone).append _, nofun⟩

end Step

theorem sound_moves {s s' : System ρ} {input : Input} (h : Sound parties s)
    (hmoves : Moves parties s input s') : Sound parties s' := by
  have htransport := transport_moves h.transport hmoves
  -- what is remembered has run, whatever the step
  have hmemory : ∀ id, s'.memory.completed.contains id = true →
      Ran s'.executions id fun _ => True := by
    obtain ⟨hmemory, hexecutions⟩ | ⟨-, rfl⟩ | ⟨memory, task, tasks, env, host, -, hphase, rfl⟩ :=
      memory_moves hmoves
    · rw [hmemory, hexecutions]
      exact h.memory
    · exact h.file
    · exact (h.execute hphase (execute_ends parties.agent _ _ _ _)).2.1
  have hbefore := h.memory
  have htasks := h.tasks
  have hresult := h.result
  cases hmoves with
  | stay => exact h
  | start hphase =>
    refine { h with
      transport := htransport, tasks := nofun, memory := hmemory, result := nofun, file := ?_ }
    split_ifs
    · exact h.file
    · exact h.file
  | crash =>
    exact { h with transport := htransport, tasks := nofun, memory := hmemory, result := nofun }
  | look hphase => exact { h with transport := htransport }
  | heartbeat hphase hevents =>
    exact { h with transport := htransport, tasks := nofun, memory := hmemory, result := nofun }
  | unreachable hphase =>
    obtain ⟨hrecords, hsettled⟩ := h.enqueue (.inl ⟨_, _, rfl⟩)
    exact { h with
      transport := htransport, tasks := nofun, memory := hmemory, result := nofun
      records := hrecords, settled := hsettled }
  | notAccepted hphase =>
    exact { h with transport := htransport, tasks := nofun, memory := hmemory, result := nofun }
  | answer hphase hreply =>
    exact { h with
      transport := htransport, tasks := h.replies _ hreply, memory := hmemory, result := nofun }
  | ack hphase =>
    rw [hphase] at htasks
    refine { h with
      transport := htransport, tasks := htasks, memory := hmemory, result := nofun
      records := ?_, settled := ?_ }
    · rw [enqueued_ack]
      exact h.records
    · rw [enqueued_ack]
      exact h.settled
  | skip hphase =>
    rw [hphase] at htasks
    exact { h with
      transport := htransport, memory := hmemory, result := nofun
      tasks := fun task htask => htasks task (List.mem_cons_of_mem _ htask) }
  | execute hphase hverify =>
    obtain ⟨htasks, -, hresult⟩ := h.execute hphase (execute_ends parties.agent _ _ _ _)
    exact { h with
      transport := htransport, tasks := htasks, memory := hmemory, result := hresult
      file := fun id hid => (h.file id hid).append _
      records := fun value hvalue => (h.records value hvalue).imp_right
        fun ⟨result, heq, hknown, hvouched⟩ => ⟨result, heq, hknown, hvouched.append _⟩
      rows := fun row hrow hagent => ((h.rows row hrow hagent).imp
        fun hvouched hstatus => (hvouched hstatus).append _)
        fun hvouched hstatus => (hvouched hstatus).append _ }
  | save hphase =>
    rw [hphase] at htasks hresult
    refine { h with
      transport := htransport, tasks := htasks, memory := hmemory, result := hresult, file := ?_ }
    split_ifs
    · exact h.file
    · rw [memory_of_phase hphase rfl] at hbefore
      exact hbefore
  | enqueue hphase =>
    rw [hphase] at htasks hresult
    obtain ⟨hrecords, hsettled⟩ := h.enqueue (.inr ⟨_, rfl, hresult _ rfl⟩)
    exact { h with
      transport := htransport, tasks := htasks, memory := hmemory, result := nofun
      records := hrecords, settled := hsettled }
  | done hphase =>
    exact { h with transport := htransport, tasks := nofun, memory := hmemory, result := nofun }
  | refuse => exact { h with transport := htransport }
  | take hrequest hrows hreplies =>
    obtain ⟨hsettled, hstatuses⟩ := h.take hrequest hrows
    exact {
      keys := hrows.nodup
      transport := htransport
      replies := fun reply hreply task htask => by
        obtain hold | hnew := List.mem_append.mp hreply
        · exact (h.replies reply hold task htask).follows hrows
        · exact (hreplies reply hnew).2 task htask
      tasks := fun task htask => (h.tasks task htask).follows hrows
      memory := hmemory
      file := h.file
      result := fun result hthis => ((hresult result hthis).imp_left (·.follows hrows))
      records := fun value hvalue => (h.records value hvalue).imp_right
        fun ⟨result, heq, hvouches⟩ => ⟨result, heq, hvouches.imp_left (·.follows hrows)⟩
      settled := hsettled
      rows := hstatuses }
  | lose => exact { h with transport := htransport }
  | aside hrows =>
    exact {
      keys := hrows.nodup
      transport := htransport
      replies := fun reply hreply task htask => (h.replies reply hreply task htask).follows hrows
      tasks := fun task htask => (h.tasks task htask).follows hrows
      memory := hmemory
      file := h.file
      result := fun result hthis => ((hresult result hthis).imp_left (·.follows hrows))
      records := fun value hvalue => (h.records value hvalue).imp_right
        fun ⟨result, heq, hvouches⟩ => ⟨result, heq, hvouches.imp_left (·.follows hrows)⟩
      settled := fun i hi result hthis => settled_follows hrows (h.settled i hi result hthis)
      rows := fun row hrow hagent => vouched_of_source fun hterminal => by
        obtain ⟨before, hbefore, hid, hown, hsame⟩ := status_aside hrows hrow hagent hterminal
        rw [hsame] at hterminal
        rw [hsame, ← hid]
        exact h.source hbefore hown hterminal }

/-- A database in which no task is settled that belongs to the Agent. -/
structure Fresh (parties : Parties ρ) (db : Repair.Db ρ) : Prop where
  keys : (db.tasks.map (·.id)).Nodup
  unsettled : ∀ row ∈ db.tasks, row.agentID = parties.agentID → row.status ∉ terminalTaskStates

theorem sound_initial {db : Repair.Db ρ} (hdb : Fresh parties db) : Sound parties (initial db) where
  keys := hdb.keys
  transport := transport_initial db
  replies := nofun
  tasks := nofun
  memory := nofun
  file := nofun
  result := nofun
  records := nofun
  settled := nofun
  rows row hrow hagent := by
    have hopen := hdb.unsettled row hrow hagent
    rw [mem_terminalTaskStates, not_or] at hopen
    exact ⟨fun h => absurd h hopen.1, fun h => absurd h hopen.2⟩

theorem sound_run {db : Repair.Db ρ} (hdb : Fresh parties db) (inputs : List Input) :
    Sound parties (run (step parties) (initial db) inputs) :=
  run_invariant_of_step (fun _ input h => sound_moves h (step_moves h.keys input))
    (sound_initial hdb) inputs

/-- A task of the Agent that succeeded for the Controller has been run, and one that failed has been
run with an error or has been refused. -/
theorem statuses_vouched {db : Repair.Db ρ} (hdb : Fresh parties db) (inputs : List Input) :
    let s := run (step parties) (initial db) inputs
    ∀ row ∈ s.db.tasks, row.agentID = parties.agentID →
      (row.status = .succeeded → Ran s.executions row.id fun _ => True) ∧
        (row.status = .failed →
          Ran s.executions row.id (fun outcome => ∃ e, outcome = .error e) ∨
            Refused s.executions row.id) :=
  (sound_run hdb inputs).rows

/-! A task of an Agent that is handed out, run, saved and reported. -/

section Sample

open Controller (minutes)

def sampleRow : TaskRow where
  id := "task-1"
  agentID := "agent-1"
  approvalID := none
  requesterID := none
  approverID := none
  targetHostID := none
  action := "restart_systemd"
  parameters := .ofList [("target", "caddy"), ("dry_run", "false")]
  status := .pending
  nonce := "0123456789abcdef"
  expiresAt := minutes 10
  signature := ""
  createdAt := 0
  result := none
  verificationResult := none
  startedAt := none
  completedAt := none

def sampleDb : Repair.Db Unit := ⟨[sampleRow], [], [], [], [], ()⟩

def sampleConfig : Config where
  systemdAllowlist := ["caddy"]
  containerAllowlist := []
  configAllowlist := []
  cacheAllowlist := []
  cacheRetention := 0
  caddyContainer := ""
  caddyContainerConfig := ""
  snapshotDirectory := ""
  actionBackupDirectory := ""
  localHealthURLs := []
  resticRepositoryFile := ""
  resticPasswordFile := ""
  resticPathsAllowlist := []
  portTrafficEnabled := false
  netHelperSocket := ""

def sampleParties : Parties Unit where
  agentID := "agent-1"
  controller := ⟨⟨Controller.echoKey, 60⟩, ⟨id, fun _ _ others => others⟩, fun _ => .error ""⟩
  reading := ⟨fun _ => "", fun _ => none⟩
  agent := sampleConfig
  verify := fun _ _ => true
  maxBytes := 65536

def sampleEnvironment : Surroundings where
  now := minutes 1
  finished := minutes 1
  elapsed := .ofInt 5
  finishedAt := "1970-01-01T00:01:00Z"
  stamp := ""
  goos := "linux"
  goarch := "amd64"
  path := ""
  sha256String := fun _ => ""
  parseURL := fun _ => none
  retries := 0
  walk := fun _ => []

def sampleHost : Host := ⟨[], true, fun _ => none, [], .empty, .empty, ""⟩

def sampleHeartbeat : Repair.Heartbeat where
  agentID := "agent-1"
  hostID := "host-1"
  labels := .empty
  events := []
  observation := none
  draws := ⟨"incident-1", "approval-1", "attempt-1", fun index => .ofUUID index⟩

def handOut : List Input := [.start false, .heartbeat false, .receive 0 (minutes 1) sampleHeartbeat]

def carryOut : List Input := [.answer 0, .ack false, .execute sampleEnvironment sampleHost,
  .save false, .enqueue false, .done, .crash, .start false]

theorem fresh_sample : Fresh sampleParties sampleDb := ⟨by decide, by decide⟩

theorem statuses_vouched_sample :
    let s := run (step sampleParties) (initial sampleDb) (handOut ++ carryOut)
    ∀ row ∈ s.db.tasks, row.agentID = "agent-1" →
      (row.status = .succeeded → Ran s.executions row.id fun _ => True) ∧
        (row.status = .failed →
          Ran s.executions row.id (fun outcome => ∃ e, outcome = .error e) ∨
            Refused s.executions row.id) :=
  statuses_vouched fresh_sample (handOut ++ carryOut)

end Sample

/-- A result that the Agent has enqueued has settled its task, has been dropped for the size of the
queue, or is still in the file. -/
theorem results_kept {db : Repair.Db ρ} (hdb : Fresh parties db) (inputs : List Input) :
    let s := run (step parties) (initial db) inputs
    ∀ i result, s.queue.enqueued[i]? = some (report result) →
      (∃ row ∈ s.db.tasks, row.id = result.taskID ∧ row.agentID = parties.agentID ∧
        row.status ∈ terminalTaskStates) ∨
      i ∈ s.queue.account.dropped ∨
      ∃ queued, Queue.DiskQueue.read s.queue.file = some queued ∧ report result ∈ queued := by
  intro s i result hresult
  have hsound := sound_run hdb inputs
  obtain ⟨queued, hqueue⟩ := hsound.transport.queue
  obtain hlt | hge := Nat.lt_or_ge i s.queue.account.first
  -- what has left the queue at the front has been taken or dropped
  · obtain hseen | hdropped := hsound.transport.first hlt
    · exact .inl (hsound.settled i hseen result hresult)
    · exact .inr (.inl hdropped)
  · obtain ⟨k, rfl⟩ := Nat.exists_eq_add_of_le hge
    refine .inr (.inr ⟨queued, hqueue.read, ?_⟩)
    rw [← List.getElem?_drop, hqueue.tracks.queued] at hresult
    exact List.mem_of_getElem? hresult

theorem results_kept_sample :
    let s := run (step sampleParties) (initial sampleDb) (handOut ++ carryOut)
    ∀ i result, s.queue.enqueued[i]? = some (report result) →
      (∃ row ∈ s.db.tasks, row.id = result.taskID ∧ row.agentID = "agent-1" ∧
        row.status ∈ terminalTaskStates) ∨
      i ∈ s.queue.account.dropped ∨
      ∃ queued, Queue.DiskQueue.read s.queue.file = some queued ∧ report result ∈ queued :=
  results_kept fresh_sample (handOut ++ carryOut)

end VpsGuardian.Agent.Delivery
