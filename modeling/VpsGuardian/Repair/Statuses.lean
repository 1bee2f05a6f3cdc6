import VpsGuardian.Repair.Bounds

/-!
How the tasks of the Controller move on in a heartbeat: results settle open ones, a repair adds
pending ones, and what is handed out is delivered.
-/

namespace VpsGuardian.Repair

open Lib Controller

variable {ρ : Type}

/-! ### What a repair adds -/

/-- Only pending tasks are added, and the ids stay distinct. -/
structure Adds (db after : Db ρ) : Prop where
  tasks : ∃ created, after.tasks = db.tasks ++ created ∧ ∀ row ∈ created, row.status = .pending
  nodup : (db.tasks.map (·.id)).Nodup → (after.tasks.map (·.id)).Nodup

theorem Adds.of_eq {db after : Db ρ} (h : after.tasks = db.tasks) : Adds db after :=
  ⟨⟨[], by rw [h, List.append_nil], by simp⟩, by rw [h]; exact id⟩

theorem Adds.trans {first second third : Db ρ} (h : Adds first second) (h' : Adds second third) :
    Adds first third := by
  obtain ⟨created, htasks, hpending⟩ := h.tasks
  obtain ⟨created', htasks', hpending'⟩ := h'.tasks
  refine ⟨⟨created ++ created', by rw [htasks', htasks, List.append_assoc], fun row hrow => ?_⟩,
    fun hnodup => h'.nodup (h.nodup hnodup)⟩
  exact (List.mem_append.mp hrow).elim (hpending row) (hpending' row)

theorem createTasks_pending {settings : Settings} {now : Time} {request : PlanRequest}
    {dryRun : Bool} {draws : Nat → Entropy} {actions : List PlannedAction} {index : Nat}
    {tasks : List TaskRow}
    (h : createTasks settings now request dryRun draws index actions = .ok tasks) :
    ∀ row ∈ tasks, row.status = .pending := by
  induction actions generalizing index tasks with
  | nil =>
    cases h
    simp
  | cons action actions ih =>
    rw [createTasks] at h
    split at h
    · exact ih (raiseIf_bind_eq_ok.mp h).2
    · obtain ⟨task, htask, h⟩ := bind_eq_ok.mp h
      obtain ⟨rest, hrest, h⟩ := bind_eq_ok.mp h
      cases h
      intro row hrow
      obtain rfl | hrow := List.mem_cons.mp hrow
      · show task.status = .pending
        rw [(createAgentTask_ok htask).eq]
      · exact ih hrest row hrow

theorem plan_adds {settings : Settings} {now : Time} {db after : Db ρ} {request : PlanRequest}
    {dryRun : Bool} {draws : Draws} {result : RepairPlan}
    (h : plan settings now db request dryRun draws = .ok (after, result)) : Adds db after := by
  unfold plan at h
  obtain ⟨reason, -, h⟩ := bind_eq_ok.mp h
  cases reason with
  | some reason =>
    cases h
    exact .of_eq rfl
  | none =>
    dsimp only at h
    split at h
    · cases h
      exact .of_eq rfl
    split at h
    · cases h
      exact .of_eq rfl
    obtain ⟨actions, -, h⟩ := bind_eq_ok.mp h
    obtain ⟨checked, -, h⟩ := bind_eq_ok.mp h
    obtain ⟨tasks, htasks, h⟩ := bind_eq_ok.mp h
    obtain ⟨added, hadded, h⟩ := bind_eq_ok.mp h
    cases h
    obtain ⟨rfl, hkeys⟩ := add_eq_ok hadded
    refine ⟨⟨tasks, rfl, ?_⟩, fun _ => hkeys.tasks⟩
    unfold planTasks at htasks
    split at htasks
    · cases htasks
      simp
    · exact createTasks_pending htasks

theorem dispatch_adds {settings : Settings} {now : Time} {db after : Db ρ} {request : PlanRequest}
    {draws : Draws} (h : dispatch settings now db request draws = .ok after) : Adds db after := by
  have hplan {db' after : Db ρ} {dryRun : Bool} (hdb : db'.tasks = db.tasks)
      (h : (do
        let planned ← plan settings now db' request dryRun draws
        return recordPlanAudit request.incident.id planned) = .ok after) : Adds db after := by
    obtain ⟨⟨planned, result⟩, hplanned, h⟩ := bind_eq_ok.mp h
    cases h
    exact (Adds.of_eq hdb).trans ((plan_adds hplanned).trans (.of_eq rfl))
  have hstay {after : Db ρ} (h : Unplanned db after) : Adds db after := .of_eq h.tasks
  unfold dispatch at h
  dsimp only at h
  split at h
  · unfold repeatRepair at h
    dsimp only at h
    split at h
    · cases h
      exact hstay (appendOnce_unplanned _ _ _ _ _ _)
    · split at h
      · cases h
        exact hstay (recordStops_unplanned _ _ _ _ _)
      · exact hplan (recordStops_unplanned _ _ _ _ _).tasks h
  · unfold firstRepair at h
    split at h
    · cases h
      exact hstay (appendOnce_unplanned _ _ _ _ _ _)
    · cases h
      exact hstay (appendOnce_unplanned _ _ _ _ _ _)
    · split at h
      · cases h
        exact hstay (appendOnce_unplanned _ _ _ _ _ _)
      · exact hplan rfl h
  · exact hplan rfl h

theorem reconcile_adds {config : Config ρ} {now : Time} {db after : Db ρ} {heartbeat : Heartbeat}
    (h : reconcileStagingHeartbeat config now db heartbeat = .ok after) : Adds db after := by
  unfold reconcileStagingHeartbeat at h
  split at h
  · cases h
    exact .of_eq rfl
  split at h
  · cases h
    exact .of_eq rfl
  obtain ⟨⟨opened, incident⟩, hopen, h⟩ := bind_eq_ok.mp h
  obtain ⟨-, -, htasks, -⟩ := openIncident_cases hopen
  have hresolved : Adds db
      (resolveAbsentIncidents now opened heartbeat.hostID (some incident)) := .of_eq htasks
  dsimp only at h
  unfold maybeDispatch at h
  split at h
  · rw [← Except.ok.inj h]
    exact hresolved
  · obtain ⟨runbook, -, h⟩ := bind_eq_ok.mp h
    exact hresolved.trans (dispatch_adds h)

/-! ### What a heartbeat does to the tasks -/

theorem TaskView.receive_agentID (agentID : String) (events : List Event) (task : TaskView) :
    (task.receive agentID events).agentID = task.agentID := by
  obtain ⟨hkept, -⟩ | ⟨result, -, -, -, -, hreceived⟩ := task.receive_eq agentID events
  · rw [hkept]
  · rw [hreceived]

/-- Where a status can go: results settle an open task for good, and otherwise it stays open. -/
structure Advances (agentID : String) (events : List Event) (tasks tasks' : List TaskRow) :
    Prop where
  nodup : (tasks'.map (·.id)).Nodup
  kept : ∀ row ∈ tasks, ∃ row' ∈ tasks', row'.id = row.id
  rows : ∀ row' ∈ tasks',
    (∃ row ∈ tasks, row'.id = row.id ∧ row'.agentID = row.agentID ∧
      (row'.status = (row.view.receive agentID events).status ∨
        row'.status ∉ terminalTaskStates ∧
          (row.view.receive agentID events).status ∉ terminalTaskStates)) ∨
    (∀ row ∈ tasks, row.id ≠ row'.id) ∧ row'.status ∉ terminalTaskStates

theorem deliverable_open {agentID : String} {now : Time} {tasks : List TaskRow} {row : TaskRow}
    (h : row ∈ deliverable agentID now tasks) :
    row ∈ tasks ∧ row.agentID = agentID ∧ row.status ∉ terminalTaskStates := by
  have hmem := List.mem_of_mem_take h
  rw [List.mem_insertionSort, List.mem_filter] at hmem
  obtain ⟨hrow, hopen⟩ := hmem
  simp only [Bool.and_eq_true, Bool.or_eq_true, beq_iff_eq] at hopen
  refine ⟨hrow, hopen.1.1, ?_⟩
  obtain hstatus | hstatus := hopen.1.2 <;> simp [hstatus, terminalTaskStates]

theorem agentHeartbeat_advances {config : Config ρ} {now : Time} {db after : Db ρ}
    {heartbeat : Heartbeat} (hkeys : (db.tasks.map (·.id)).Nodup)
    (h : agentHeartbeat config now db heartbeat = .ok after) :
    Advances heartbeat.agentID heartbeat.events db.tasks after.tasks := by
  obtain ⟨reconciled, hreconciled, hafter⟩ := bind_eq_ok.mp h
  set received := recordAgentResults config.results heartbeat.agentID now db heartbeat.events
  have hviews : received.tasks.map TaskRow.view = (db.tasks.map TaskRow.view).map
      (TaskView.receive heartbeat.agentID heartbeat.events) :=
    ingest_tasks config.results heartbeat.agentID ⟨now, heartbeat.events⟩ hkeys
  have hreceivedKeys : (received.tasks.map (·.id)).Nodup := by
    rw [ids_of_views hviews fun task => (task.receive_action _ _).1]
    exact hkeys
  obtain ⟨⟨created, htasks, hpending⟩, hnodup⟩ := reconcile_adds hreconciled
  have hreconciledKeys := hnodup hreceivedKeys
  set delivered := (deliverable heartbeat.agentID now reconciled.tasks).map (·.id) with hdelivered
  have hafterTasks : after.tasks = reconciled.tasks.map fun task =>
      if task.id ∈ delivered then { task with status := .delivered } else task := by
    cases hafter
    rfl
  have hids : after.tasks.map (·.id) = reconciled.tasks.map (·.id) := by
    rw [hafterTasks, List.map_map]
    refine List.map_congr_left fun task _ => ?_
    rw [Function.comp_apply]
    split_ifs <;> rfl
  -- only open tasks are handed out, since an id belongs to one task
  have hopen : ∀ row ∈ reconciled.tasks, row.id ∈ delivered → row.status ∉ terminalTaskStates := by
    intro row hrow hmem
    obtain ⟨row', hrow', hid⟩ := List.mem_map.mp hmem
    obtain ⟨hmem', -, hstatus⟩ := deliverable_open hrow'
    rwa [← List.inj_on_of_nodup_map hreconciledKeys hmem' hrow hid]
  constructor
  · rw [hids]
    exact hreconciledKeys
  · intro row hrow
    have hid : row.id ∈ after.tasks.map (·.id) := by
      rw [hids, htasks, List.map_append,
        ids_of_views hviews fun task => (task.receive_action _ _).1]
      exact List.mem_append_left _ (List.mem_map_of_mem hrow)
    exact List.mem_map.mp hid
  · intro row' hrow'
    rw [hafterTasks] at hrow'
    obtain ⟨row, hrow, rfl⟩ := List.mem_map.mp hrow'
    have hrow'' := hrow
    rw [htasks] at hrow''
    obtain hold | hnew := List.mem_append.mp hrow''
    · have hview := List.mem_map_of_mem (f := TaskRow.view) hold
      rw [hviews, List.map_map] at hview
      obtain ⟨before, hbefore, heq⟩ := List.mem_map.mp hview
      rw [Function.comp_apply] at heq
      have hid : row.id = before.id :=
        (congrArg TaskView.id heq).symm.trans (before.view.receive_action _ _).1
      have hagent : row.agentID = before.agentID :=
        (congrArg TaskView.agentID heq).symm.trans (TaskView.receive_agentID _ _ _)
      have hstatus : row.status = (before.view.receive heartbeat.agentID heartbeat.events).status :=
        (congrArg TaskView.status heq).symm
      refine .inl ⟨before, hbefore, ?_⟩
      split_ifs with hmem
      · exact ⟨hid, hagent, .inr ⟨by simp [terminalTaskStates], hstatus ▸ hopen row hrow hmem⟩⟩
      · exact ⟨hid, hagent, .inl hstatus⟩
    · refine .inr ⟨fun before hbefore heq => ?_, ?_⟩
      · have hfresh := hreconciledKeys
        rw [htasks, List.map_append, List.nodup_append,
          ids_of_views hviews fun task => (task.receive_action _ _).1] at hfresh
        refine hfresh.2.2 _ (List.mem_map_of_mem hbefore) _ (List.mem_map_of_mem hnew) ?_
        rw [heq]
        split_ifs <;> rfl
      · split_ifs
        · simp [terminalTaskStates]
        · rw [hpending row hnew]
          simp [terminalTaskStates]

/-! ### What one Agent sees of it -/

theorem mem_terminalTaskStates {status : TaskStatus} :
    status ∈ terminalTaskStates ↔ status = .succeeded ∨ status = .failed := by
  simp [terminalTaskStates]

/-- What becomes of the tasks of an Agent that reports some events: they stay its own, what is
settled stays settled as it is, and nothing else is settled. -/
structure Follows (agentID : String) (events : List Event) (tasks tasks' : List TaskRow) :
    Prop where
  nodup : (tasks'.map (·.id)).Nodup
  forward : ∀ row ∈ tasks, row.agentID = agentID →
    ∃ row' ∈ tasks', row'.id = row.id ∧ row'.agentID = agentID ∧
      ((row.view.receive agentID events).status ∈ terminalTaskStates →
        row'.status = (row.view.receive agentID events).status)
  backward : ∀ row' ∈ tasks', row'.agentID = agentID → row'.status ∈ terminalTaskStates →
    ∃ row ∈ tasks, row.id = row'.id ∧ row.agentID = agentID ∧
      row'.status = (row.view.receive agentID events).status

/-- What the Agent reports may be what arrived, or nothing where it arrived from another one. -/
theorem Advances.follows {agentID sender : String} {events sent : List Event}
    {tasks tasks' : List TaskRow} (hkeys : (tasks.map (·.id)).Nodup)
    (h : Advances sender sent tasks tasks')
    (hsame : ∀ task : TaskView, task.agentID = agentID →
      task.receive sender sent = task.receive agentID events) :
    Follows agentID events tasks tasks' where
  nodup := h.nodup
  forward row hrow hagent := by
    obtain ⟨row', hrow', hid⟩ := h.kept row hrow
    obtain ⟨before, hbefore, hid', hagent', hstatus⟩ | ⟨hfresh, -⟩ := h.rows row' hrow'
    · obtain rfl := List.inj_on_of_nodup_map hkeys hrow hbefore (hid.symm.trans hid')
      rw [← hsame row.view hagent]
      exact ⟨row', hrow', hid, hagent'.trans hagent, fun hterminal =>
        hstatus.resolve_right fun hopen => hopen.2 hterminal⟩
    · exact absurd hid.symm (hfresh row hrow)
  backward row' hrow' hagent hterminal := by
    obtain ⟨row, hrow, hid, hagent', hstatus⟩ | ⟨-, hopen⟩ := h.rows row' hrow'
    · have hown : row.agentID = agentID := hagent'.symm.trans hagent
      rw [hsame row.view hown] at hstatus
      exact ⟨row, hrow, hid.symm, hown, hstatus.resolve_right fun hopen => hopen.1 hterminal⟩
    · exact absurd hterminal hopen

/-- The results of one Agent are nothing to the tasks of another. -/
theorem receive_of_agentID_ne {agentID : String} {task : TaskView} (h : task.agentID ≠ agentID)
    (events : List Event) : task.receive agentID events = task := by
  obtain ⟨hkept, -⟩ | ⟨-, -, -, hagent, -⟩ := task.receive_eq agentID events
  · exact hkept
  · exact absurd hagent h

theorem follows_refl {agentID : String} {tasks : List TaskRow}
    (hkeys : (tasks.map (·.id)).Nodup) : Follows agentID [] tasks tasks where
  nodup := hkeys
  forward row hrow hagent := ⟨row, hrow, rfl, hagent, fun _ => rfl⟩
  backward row hrow hagent _ := ⟨row, hrow, rfl, hagent, rfl⟩

/-- A new task, which is open, settles nothing. -/
theorem follows_create {agentID : String} {tasks : List TaskRow} {row : TaskRow}
    (hkeys : (tasks.map (·.id)).Nodup) (hfresh : row.id ∉ tasks.map (·.id))
    (hopen : row.status ∉ terminalTaskStates) :
    Follows agentID [] tasks (tasks ++ [row]) where
  nodup := by
    rw [List.map_append, List.nodup_append]
    refine ⟨hkeys, List.nodup_singleton _, fun id hid id' hid' heq => hfresh ?_⟩
    have hnew : id' = row.id := List.mem_singleton.mp hid'
    rwa [← hnew, ← heq]
  forward before hbefore hagent :=
    ⟨before, List.mem_append_left _ hbefore, rfl, hagent, fun _ => rfl⟩
  backward after hafter hagent hterminal := by
    obtain hold | hnew := List.mem_append.mp hafter
    · exact ⟨after, hold, rfl, hagent, rfl⟩
    · obtain rfl := List.mem_singleton.mp hnew
      exact absurd hterminal hopen

/-- A change of open tasks to open ones settles nothing. -/
theorem follows_map {agentID : String} {tasks : List TaskRow} {f : TaskRow → TaskRow}
    (hkeys : (tasks.map (·.id)).Nodup)
    (hf : ∀ row, (f row).id = row.id ∧ (f row).agentID = row.agentID)
    (hstatus : ∀ row, f row = row ∨
      row.status ∉ terminalTaskStates ∧ (f row).status ∉ terminalTaskStates) :
    Follows agentID [] tasks (tasks.map f) where
  nodup := by
    rw [List.map_map]
    exact (congrArg List.Nodup (List.map_congr_left fun row _ => (hf row).1)).mpr hkeys
  forward row hrow hagent := by
    refine ⟨f row, List.mem_map_of_mem hrow, (hf row).1, (hf row).2.trans hagent, fun h => ?_⟩
    obtain hsame | ⟨hopen, -⟩ := hstatus row
    · rw [hsame]
      rfl
    · exact absurd h hopen
  backward row' hrow' hagent hterminal := by
    obtain ⟨row, hrow, rfl⟩ := List.mem_map.mp hrow'
    obtain hsame | ⟨-, hopen⟩ := hstatus row
    · exact ⟨row, hrow, (hf row).1.symm, (hf row).2.symm.trans hagent, by rw [hsame]; rfl⟩
    · exact absurd hterminal hopen

/-- The first result for an open task settles it. -/
theorem TaskView.receive_succeeded {agentID : String} {events : List Event} {task : TaskView}
    (hopen : task.status ∉ terminalTaskStates)
    (h : (task.receive agentID events).status = .succeeded) :
    ∃ (i : Nat) (result : ActionResult), events[i]? = some (.actionResult result) ∧
      result.taskID = task.id ∧ result.success = true ∧
      ∀ j < i, ∀ earlier, events[j]? = some (.actionResult earlier) →
        earlier.taskID ≠ task.id := by
  induction events with
  | nil =>
    rw [receive] at h
    exact absurd (mem_terminalTaskStates.mpr (.inl h)) hopen
  | cons event events ih =>
    -- an event that leaves the task alone comes before the first result
    have hlater (hevent : ∀ earlier, event = .actionResult earlier → earlier.taskID ≠ task.id)
        (h : (task.receive agentID events).status = .succeeded) :
        ∃ (i : Nat) (result : ActionResult), (event :: events)[i]? = some (.actionResult result) ∧
          result.taskID = task.id ∧ result.success = true ∧
          ∀ j < i, ∀ earlier, (event :: events)[j]? = some (.actionResult earlier) →
            earlier.taskID ≠ task.id := by
      obtain ⟨i, result, hi, hid, hsuccess, hfirst⟩ := ih h
      refine ⟨i + 1, result, hi, hid, hsuccess, fun j hj earlier hearlier => ?_⟩
      cases j with
      | zero => exact hevent earlier (Option.some.inj hearlier)
      | succ j => exact hfirst j (Nat.lt_of_succ_lt_succ hj) earlier hearlier
    cases event with
    | other => exact hlater (fun _ heq => by cases heq) h
    | actionResult result =>
      rw [receive] at h
      by_cases hthis : result.taskID = task.id ∧ task.agentID = agentID ∧
          task.status ∉ terminalTaskStates
      · rw [if_pos hthis] at h
        have hsuccess : result.success = true := by
          by_contra hfails
          rw [if_neg hfails] at h
          cases h
        exact ⟨0, result, rfl, hthis.1, hsuccess, fun j hj => absurd hj (Nat.not_lt_zero j)⟩
      · rw [if_neg hthis] at h
        have hagent : task.agentID = agentID := by
          by_contra hne
          rw [receive_of_agentID_ne hne] at h
          exact hopen (mem_terminalTaskStates.mpr (.inl h))
        refine hlater (fun earlier heq hid => hthis ?_) h
        cases heq
        exact ⟨hid, hagent, hopen⟩

end VpsGuardian.Repair
