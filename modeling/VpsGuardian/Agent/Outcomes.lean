import VpsGuardian.Agent.Truthful

/-!
How often the Agent runs a task, and when a success is one.

The Agent reports a task that it has run before as a success, whatever the first run came to. The
Controller settles a task by the first result that reaches it, so a failure is known as one unless
its own result is lost.
-/

namespace VpsGuardian.Agent.Delivery

open Lib
open Repair (Follows mem_terminalTaskStates terminalTaskStates)

variable {ρ : Type} {parties : Parties ρ}

/-! ### At most once -/

/-- The ids of the tasks whose actions have run, in this order. -/
def ranIDs (executions : List (Task × Execution)) : List String :=
  executions.filterMap fun entry => (outcome? entry.2).map fun _ => entry.1.id

/-- The process does not stop while it runs an action, nor before it has saved that it ran it. -/
def StopsSaved (parties : Parties ρ) (s : System ρ) (input : Input) : Prop :=
  match input with
  | .crash => ∀ id, s.memory.completed.contains id = true →
      (loadedState s.stateFile).completed.contains id = true
  | .execute _ _ => (step parties s input).phase ≠ .down
  | _ => True

structure Once (s : System ρ) : Prop where
  nodup : (ranIDs s.executions).Nodup
  known : ∀ id ∈ ranIDs s.executions, s.memory.completed.contains id = true

theorem once_execute {s : System ρ} (h : Once s) {memory : ActionState} {task : Task}
    {tasks : List Task} (hphase : s.phase = .handling memory (task :: tasks))
    {execution : Execution} (hends : Ends memory task execution)
    (hstays : Phase.afterExecution memory tasks execution ≠ .down) :
    Once { s with
      executions := s.executions ++ [(task, execution)]
      phase := .afterExecution memory tasks execution } := by
  have hknown := h.known
  rw [memory_of_phase hphase rfl] at hknown
  cases hends with
  | @duplicate result hdone hid hsuccess =>
    have hsame : ranIDs (s.executions ++ [(task, .duplicate result)]) = ranIDs s.executions := by
      simp [ranIDs, outcome?]
    exact ⟨hsame ▸ h.nodup, hsame ▸ hknown⟩
  | @refused result hid hsuccess hcode =>
    have hsame : ranIDs (s.executions ++ [(task, .refused result)]) = ranIDs s.executions := by
      simp [ranIDs, outcome?]
    exact ⟨hsame ▸ h.nodup, hsame ▸ hknown⟩
  | @ran outcome result after host hnew hid hsuccess hfails hafter =>
    have hlast : ranIDs (s.executions ++ [(task, .ran outcome result after host)]) =
        ranIDs s.executions ++ [task.id] := by
      simp [ranIDs, outcome?]
    dsimp only [Phase.afterExecution] at hstays ⊢
    split_ifs at hstays ⊢ with hrunning
    · -- a task that runs is not among those that are remembered, and it is from now on
      refine ⟨?_, fun id hmem => (hafter id).mpr ?_⟩
      · rw [hlast, List.nodup_append]
        refine ⟨h.nodup, List.nodup_singleton _, fun id hmem id' hmem' heq => ?_⟩
        rw [heq, List.mem_singleton.mp hmem'] at hmem
        rw [hknown _ hmem] at hnew
        cases hnew
      · rw [hlast] at hmem
        obtain hold | hthis := List.mem_append.mp hmem
        · exact .inr (hknown id hold)
        · exact .inl (List.mem_singleton.mp hthis)
    · exact absurd rfl hstays

theorem once_moves {s s' : System ρ} {input : Input} (h : Once s)
    (hstops : StopsSaved parties s input) (hmoves : Moves parties s input s')
    (hstep : s' = step parties s input) : Once s' := by
  obtain ⟨hmemory, hexecutions⟩ | ⟨rfl, rfl⟩ | ⟨memory, task, tasks, env, host, rfl, hphase, hs'⟩ :=
    memory_moves hmoves
  · exact ⟨hexecutions ▸ h.nodup, by rw [hmemory, hexecutions]; exact h.known⟩
  · exact { h with known := fun id hid => hstops id (h.known id hid) }
  · subst hs'
    refine once_execute h hphase (execute_ends parties.agent _ _ _ _) ?_
    rw [StopsSaved, ← hstep] at hstops
    exact hstops

section Sample

open Controller (minutes)

def deliveredRow : Repair.TaskRow := { sampleRow with status := .delivered }

def deliveredDb : Repair.Db Unit := { sampleDb with tasks := [deliveredRow] }

/-- The sample with the task on its way. -/
def handed : System Unit := { initial sampleDb with
  db := deliveredDb
  stateFile := some (loadedState none)
  queue := { Queue.initial with latest := some [] }
  phase := .waiting (loadedState none) 0 0
  sent := 1
  replies := [(0, [Protocol.Signing.view sampleRow.toAgentTask])] }

theorem answerHeartbeat_sample :
    answerHeartbeat sampleParties (minutes 1) sampleDb sampleHeartbeat =
      .ok (deliveredDb, some [Protocol.Signing.view sampleRow.toAgentTask]) := by
  have hafter : Repair.agentHeartbeat sampleParties.controller (minutes 1) sampleDb
      sampleHeartbeat = .ok deliveredDb := rfl
  have hrows : Repair.deliverable "agent-1" (minutes 1) deliveredDb.tasks = [deliveredRow] := rfl
  have htask : Protocol.Signing.toAgent deliveredRow.toAgentTask =
      some (Protocol.Signing.view sampleRow.toAgentTask) := Protocol.Signing.toAgent_eq (by decide)
  rw [answerHeartbeat, hafter]
  show Except.ok (deliveredDb, (Repair.deliverable "agent-1" (minutes 1) deliveredDb.tasks).mapM
    fun row => Protocol.Signing.toAgent row.toAgentTask) = _
  rw [hrows, List.mapM_cons, htask]
  rfl

def awaiting : System Unit := { initial sampleDb with
  stateFile := some (loadedState none)
  queue := { Queue.initial with latest := some [] }
  phase := .waiting (loadedState none) 0 0
  sent := 1
  requests := [⟨0, 0, []⟩] }

theorem run_handOut : run (step sampleParties) (initial sampleDb) handOut = handed :=
  @take_eq Unit sampleParties awaiting 0 (minutes 1) sampleHeartbeat ⟨0, 0, []⟩ deliveredDb _
    answerHeartbeat_sample

def Phase.isDown : Phase → Bool
  | .down => true
  | _ => false

theorem stopsSaved_crash {s : System Unit}
    (h : s.memory.completed = (loadedState s.stateFile).completed) :
    StopsSaved sampleParties s .crash := fun _ hid => h ▸ hid

theorem stopsSaved_execute {s : System Unit} {env : Surroundings} {host : Host}
    (h : (step sampleParties s (.execute env host)).phase.isDown = false) :
    StopsSaved sampleParties s (.execute env host) :=
  fun hdown => Bool.false_ne_true (h.symm.trans (congrArg Phase.isDown hdown))

end Sample

/-! ### Successes that are successes -/

/-- The record of a failed run of a task. -/
def FailedAt (records : List Json.Value) (i : Nat) (id : String) : Prop :=
  ∃ result, records[i]? = some (report result) ∧ result.taskID = id ∧ Fails result

/-- The action of a task has run without an error, or a failed run of it is among the records before
a number. -/
def System.Earned (s : System ρ) (number : Nat) (id : String) : Prop :=
  Ran s.executions id (· = .ok ()) ∨ ∃ i < number, FailedAt s.queue.enqueued i id

/-- No failing result is lost: the process does not stop before it enqueues one whose task the state
file has as completed, it enqueues it, and the queue drops it only after the Controller has
taken it. -/
structure KeepsFailures (parties : Parties ρ) (s : System ρ) (input : Input) : Prop where
  reports : ∀ result, s.phase.reported? = some result → Fails result →
    input ≠ .enqueue true ∧
      (input = .crash → (loadedState s.stateFile).completed.contains result.taskID = false)
  drops : ∀ i ∈ (step parties s input).queue.account.dropped, i ∉ s.queue.account.dropped →
    i ∉ s.seen → ∀ id, ¬FailedAt (step parties s input).queue.enqueued i id

/-- A reported success is earned: either the action has run without an error, or an earlier record
says that it failed. -/
structure Honest (parties : Parties ρ) (s : System ρ) : Prop where
  successes : ∀ i result, s.queue.enqueued[i]? = some (report result) → result.success = true →
    s.Earned i result.taskID
  memory : ∀ id, s.memory.completed.contains id = true →
    s.Earned s.queue.enqueued.length id ∨
      ∃ result, s.phase.result? = some result ∧ result.taskID = id ∧ Fails result
  file : ∀ id, (loadedState s.stateFile).completed.contains id = true →
    s.Earned s.queue.enqueued.length id ∨
      ∃ result, s.phase.reported? = some result ∧ result.taskID = id ∧ Fails result
  result : ∀ result, s.phase.result? = some result → result.success = true →
    s.Earned s.queue.enqueued.length result.taskID
  dropped : ∀ i ∈ s.queue.account.dropped, ∀ id, FailedAt s.queue.enqueued i id → i ∈ s.seen
  rows : ∀ row ∈ s.db.tasks, row.agentID = parties.agentID → row.status = .succeeded →
    Ran s.executions row.id (· = .ok ())

theorem Grows.failedAt {queue queue' : Queue.State} (h : Grows queue queue') {i : Nat} {id : String}
    (hfailed : FailedAt queue.enqueued i id) : FailedAt queue'.enqueued i id := by
  obtain ⟨result, hresult, hrest⟩ := hfailed
  have hi := (List.getElem?_eq_some_iff.mp hresult).1
  exact ⟨result, (h.getElem? hi).trans hresult, hrest⟩

/-- What only grows in a step. -/
structure Later (s s' : System ρ) : Prop where
  executions : s.executions <+: s'.executions
  queue : Grows s.queue s'.queue
  seen : ∀ i ∈ s.seen, i ∈ s'.seen

theorem later_moves {s s' : System ρ} {input : Input} (h : Moves parties s input s') :
    Later s s' := by
  have hrefl : Later s s := ⟨List.prefix_rfl, .refl _, fun _ hi => hi⟩
  cases h with
  | look hphase => exact { hrefl with queue := ⟨List.prefix_rfl, fun _ hi => hi⟩ }
  | heartbeat hphase hevents => exact { hrefl with queue := ⟨List.prefix_rfl, fun _ hi => hi⟩ }
  | unreachable hphase => exact { hrefl with queue := grows_enqueue _ _ }
  | ack hphase => exact { hrefl with queue := grows_ack _ _ }
  | execute hphase hverify => exact { hrefl with executions := List.prefix_append _ _ }
  | enqueue hphase => exact { hrefl with queue := grows_enqueue _ _ }
  | take hrequest hrows hreplies =>
    exact { hrefl with seen := fun i hi => List.mem_append_left _ hi }
  | _ => exact { hrefl with }

/-- What is earned stays so. -/
theorem System.Earned.later {s s' : System ρ} {number number' : Nat} {id : String}
    (h : s.Earned number id) (hlater : Later s s') (hnumber : number ≤ number') :
    s'.Earned number' id := by
  obtain hran | ⟨i, hi, hfailed⟩ := h
  · obtain ⟨more, hmore⟩ := hlater.executions
    exact .inl (hmore ▸ hran.append more)
  · exact .inr ⟨i, hi.trans_le hnumber, hlater.queue.failedAt hfailed⟩

/-- The first result that reaches the Controller settles a task; where that is a success, no failed
run of it comes before. -/
theorem Honest.take {s : System ρ} (h : Honest parties s) (hsound : Sound parties s)
    {request : Request} (hrequest : request ∈ s.requests) {after : Repair.Db ρ}
    (hrows : Follows parties.agentID (request.events.map (eventOf parties.reading)) s.db.tasks
      after.tasks) :
    ∀ row ∈ after.tasks, row.agentID = parties.agentID → row.status = .succeeded →
      Ran s.executions row.id (· = .ok ()) := by
  intro row' hrow' hagent hsucceeded
  obtain ⟨row, hrow, hid, hown, hstatus⟩ :=
    hrows.backward row' hrow' hagent (mem_terminalTaskStates.mpr (.inl hsucceeded))
  rw [← hid]
  by_cases hopen : row.status ∈ terminalTaskStates
  · rw [Repair.TaskView.receive_of_terminal (show row.view.status ∈ _ from hopen)] at hstatus
    exact h.rows row hrow hown (hstatus.symm.trans hsucceeded)
  obtain ⟨k, event, hevent, heventID, hsuccess, hfirst⟩ :=
    Repair.TaskView.receive_succeeded (show row.view.status ∉ _ from hopen)
      (hstatus.symm.trans hsucceeded)
  rw [List.getElem?_map, Option.map_eq_some_iff] at hevent
  obtain ⟨value, hvalue, heq⟩ := hevent
  have hk := (List.getElem?_eq_some_iff.mp hvalue).1
  have hrecord := (hsound.transport.getElem?_events hrequest hk).trans hvalue
  obtain ⟨-, -, -, hbefore⟩ := hsound.transport.requests request hrequest
  obtain ⟨now, summary, rfl⟩ | ⟨result, rfl, -⟩ :=
    hsound.records value (List.mem_of_getElem? hrecord)
  · cases heq
  cases heq
  have hresultID : result.taskID = row.id := heventID
  obtain hran | ⟨j, hj, earlier, hearlier, hearlierID, hfails⟩ :=
    h.successes _ result hrecord hsuccess
  · exact hresultID ▸ hran
  exfalso
  obtain hlt | hge := Nat.lt_or_ge j request.start
  · -- an older heartbeat brought the failed run, or it was dropped after it had been taken
    have hseen : j ∈ s.seen := (hbefore j hlt).elim id fun hdropped =>
      h.dropped j hdropped _ ⟨earlier, hearlier, hearlierID, hfails⟩
    obtain ⟨other, hother, hotherID, -, hterminal⟩ := hsound.settled j hseen earlier hearlier
    have hsame : other.id = row.id := hotherID.trans (hearlierID.trans hresultID)
    obtain rfl := List.inj_on_of_nodup_map hsound.keys hother hrow hsame
    exact hopen hterminal
  · -- the same heartbeat brings the failed run first
    obtain ⟨m, rfl⟩ := Nat.exists_eq_add_of_le hge
    have hm : m < k := Nat.lt_of_add_lt_add_left hj
    rw [hsound.transport.getElem?_events hrequest (hm.trans hk)] at hearlier
    obtain ⟨event, hreport, hreportID, -⟩ := eventOf_report parties.reading earlier
    refine hfirst m hm event ?_ (hreportID.trans (hearlierID.trans hresultID))
    rw [List.getElem?_map, hearlier, Option.map_some, hreport]

theorem Honest.rows_moves {s s' : System ρ} {input : Input} (h : Honest parties s)
    (hsound : Sound parties s) (hmoves : Moves parties s input s') :
    ∀ row ∈ s'.db.tasks, row.agentID = parties.agentID → row.status = .succeeded →
      Ran s'.executions row.id (· = .ok ()) := by
  cases hmoves with
  | execute hphase hverify =>
    exact fun row hrow hagent hstatus => (h.rows row hrow hagent hstatus).append _
  | take hrequest hrows hreplies => exact h.take hsound hrequest hrows
  | aside hrows =>
    intro row hrow hagent hstatus
    obtain ⟨before, hbefore, hid, hown, hsame⟩ :=
      status_aside hrows hrow hagent (mem_terminalTaskStates.mpr (.inl hstatus))
    exact hid ▸ h.rows before hbefore hown (hsame.symm.trans hstatus)
  | _ => exact h.rows

/-- A step adds one record at most: that of a failed heartbeat, or that of the result at hand. -/
theorem enqueued_moves {s s' : System ρ} {input : Input} (hmoves : Moves parties s input s') :
    s'.queue.enqueued = s.queue.enqueued ∨ ∃ value,
      s'.queue.enqueued = s.queue.enqueued ++ [value] ∧
      ((∃ now summary, value = heartbeatFailed now summary) ∨
        ∃ result, s.phase.result? = some result ∧ value = report result) := by
  have henqueue (value : Json.Value) (fails : Bool) :
      (Queue.step parties.maxBytes s.queue (.enqueue value fails)).enqueued = s.queue.enqueued ∨
        (Queue.step parties.maxBytes s.queue (.enqueue value fails)).enqueued =
          s.queue.enqueued ++ [value] := by
    obtain heq | ⟨file, dropped, heq⟩ :=
      enqueue_cases parties.maxBytes s.queue value fails
    · exact .inl (by rw [heq])
    · exact .inr (by rw [heq])
  cases hmoves with
  | unreachable hphase =>
    exact (henqueue _ _).imp_right fun heq => ⟨_, heq, .inl ⟨_, _, rfl⟩⟩
  | ack hphase => exact .inl (enqueued_ack _ _)
  | enqueue hphase =>
    exact (henqueue _ _).imp_right fun heq => ⟨_, heq, .inr ⟨_, by rw [hphase]; rfl, rfl⟩⟩
  | _ => exact .inl rfl

theorem Honest.successes_moves {s s' : System ρ} {input : Input} (h : Honest parties s)
    (hmoves : Moves parties s input s') :
    ∀ i result, s'.queue.enqueued[i]? = some (report result) → result.success = true →
      s'.Earned i result.taskID := by
  have hlater := later_moves hmoves
  intro i result hresult hsuccess
  obtain hlt | hge := Nat.lt_or_ge i s.queue.enqueued.length
  · rw [hlater.queue.getElem? hlt] at hresult
    exact (h.successes i result hresult hsuccess).later hlater le_rfl
  obtain heq | ⟨value, heq, hvalue⟩ := enqueued_moves hmoves
  · rw [heq, List.getElem?_eq_none hge] at hresult
    cases hresult
  · rw [heq, List.getElem?_append_right hge, List.getElem?_singleton] at hresult
    split_ifs at hresult with hzero
    obtain ⟨now, summary, rfl⟩ | ⟨other, hother, rfl⟩ := hvalue
    · exact absurd (Option.some.inj hresult).symm (report_ne_heartbeatFailed _ _ _)
    · obtain ⟨hid, hsame, -⟩ := report_inj (Option.some.inj hresult)
      rw [← hid]
      exact (h.result other hother (hsame.trans hsuccess)).later hlater hge

theorem Honest.dropped_moves {s s' : System ρ} {input : Input} (h : Honest parties s)
    (hsound : Sound parties s) (hkeeps : KeepsFailures parties s input)
    (hmoves : Moves parties s input s') (hstep : s' = step parties s input) :
    ∀ i ∈ s'.queue.account.dropped, ∀ id, FailedAt s'.queue.enqueued i id → i ∈ s'.seen := by
  have hlater := later_moves hmoves
  intro i hi id hfailed
  by_cases hold : i ∈ s.queue.account.dropped
  · obtain ⟨queued, hqueue⟩ := hsound.transport.queue
    have hlt : i < s.queue.enqueued.length :=
      (hqueue.tracks.lt_first (List.mem_append_right _ hold)).trans_le hqueue.tracks.le
    obtain ⟨result, hresult, hrest⟩ := hfailed
    rw [hlater.queue.getElem? hlt] at hresult
    exact hlater.seen i (h.dropped i hold id ⟨result, hresult, hrest⟩)
  · by_contra hunseen
    subst hstep
    exact hkeeps.drops i hi hold (fun hseen => hunseen (hlater.seen i hseen)) id hfailed

/-- An execution earns what it reports as a success. -/
theorem Honest.execute {s : System ρ} (h : Honest parties s) {memory : ActionState} {task : Task}
    {tasks : List Task} (hphase : s.phase = .handling memory (task :: tasks))
    {execution : Execution} (hends : Ends memory task execution) :
    let s' := { s with
      executions := s.executions ++ [(task, execution)]
      phase := .afterExecution memory tasks execution }
    (∀ id, s'.memory.completed.contains id = true →
      s'.Earned s'.queue.enqueued.length id ∨
        ∃ result, s'.phase.result? = some result ∧ result.taskID = id ∧ Fails result) ∧
    ∀ result, s'.phase.result? = some result → result.success = true →
      s'.Earned s'.queue.enqueued.length result.taskID := by
  intro s'
  have hlater : Later s s' := ⟨List.prefix_append _ _, .refl _, fun _ hi => hi⟩
  have hmemory (id : String) (hid : memory.completed.contains id = true) :
      s'.Earned s'.queue.enqueued.length id := by
    have hbefore := h.memory id
    rw [memory_of_phase hphase rfl, hphase] at hbefore
    obtain hearned | ⟨result, hnone, -⟩ := hbefore hid
    · exact hearned.later hlater le_rfl
    · cases hnone
  cases hends with
  | duplicate hdone hid hsuccess =>
    refine ⟨fun id hid => .inl (hmemory id hid), ?_⟩
    rintro _ ⟨⟩ -
    exact hid ▸ hmemory _ hdone
  | refused hid hsuccess hcode =>
    refine ⟨fun id hid => .inl (hmemory id hid), ?_⟩
    rintro _ ⟨⟩ hclaims
    rw [hsuccess] at hclaims
    cases hclaims
  | @ran outcome result after host hnew hid hsuccess hfails hafter =>
    have hran (hok : outcome = .ok ()) : s'.Earned s'.queue.enqueued.length task.id :=
      .inl (ran_last hok)
    cases hrunning : host.running with
    | true =>
      have hs' : s'.phase = .saving after result tasks := by
        simp only [s', Phase.afterExecution, hrunning, if_true]
      rw [memory_of_phase hs' rfl, hs']
      refine ⟨fun id hdone => ?_, ?_⟩
      · obtain rfl | hold := (hafter id).mp hdone
        · cases hcase : result.success with
          | true => exact .inl (hran (hsuccess hcase))
          | false => exact .inr ⟨result, rfl, hid, (hfails hcase).1⟩
        · exact .inl (hmemory id hold)
      · rintro _ ⟨⟩ hclaims
        exact hid ▸ hran (hsuccess hclaims)
    | false =>
      have hs' : s'.phase = .down := by
        simp only [s', Phase.afterExecution, hrunning, Bool.false_eq_true, if_false]
      rw [memory_of_down hs', hs']
      refine ⟨fun id hdone => ?_, fun result hnone => ?_⟩
      · have hfile := h.file id hdone
        rw [hphase] at hfile
        obtain hearned | ⟨other, hother, -⟩ := hfile
        · exact .inl (hearned.later hlater le_rfl)
        · cases hother
      · cases hnone

theorem honest_moves {s s' : System ρ} {input : Input} (h : Honest parties s)
    (hsound : Sound parties s) (hkeeps : KeepsFailures parties s input)
    (hmoves : Moves parties s input s') (hstep : s' = step parties s input) :
    Honest parties s' := by
  have hlater := later_moves hmoves
  have hlength := hlater.queue.enqueued.length_le
  have hsuccesses := h.successes_moves hmoves
  have hdropped := h.dropped_moves hsound hkeeps hmoves hstep
  have hrows := h.rows_moves hsound hmoves
  have hmemory {phase : Phase} {memory : ActionState} (hphase : s.phase = phase)
      (hup : phase.memory? = some memory) (hnone : phase.result? = none) (id : String)
      (hid : memory.completed.contains id = true) : s'.Earned s'.queue.enqueued.length id := by
    rw [← memory_of_phase hphase hup] at hid
    obtain hearned | ⟨result, hresult, -⟩ := h.memory id hid
    · exact hearned.later hlater hlength
    · rw [hphase, hnone] at hresult
      cases hresult
  have hfile {phase : Phase} (hphase : s.phase = phase) (hnone : phase.reported? = none)
      (id : String) (hid : (loadedState s.stateFile).completed.contains id = true) :
      s'.Earned s'.queue.enqueued.length id := by
    obtain hearned | ⟨result, hresult, -⟩ := h.file id hid
    · exact hearned.later hlater hlength
    · rw [hphase, hnone] at hresult
      cases hresult
  -- a step that neither has nor gets a result
  have hquiet {phase : Phase} {memory : ActionState} (hphase : s.phase = phase)
      (hup : phase.memory? = some memory) (hnone : phase.result? = none)
      (hnothing : phase.reported? = none) (hmemory' : s'.memory = memory)
      (hnone' : s'.phase.result? = none) (hfile' : s'.stateFile = s.stateFile) :
      Honest parties s' :=
    ⟨hsuccesses, fun id hid => .inl (hmemory hphase hup hnone id (hmemory' ▸ hid)),
      fun id hid => .inl (hfile hphase hnothing id (hfile' ▸ hid)),
      fun result hresult => absurd (hresult.symm.trans hnone') (Option.some_ne_none _),
      hdropped, hrows⟩
  -- a step that leaves the process alone
  have haside (hphase : s'.phase = s.phase) (hmemory' : s'.memory = s.memory)
      (hfile' : s'.stateFile = s.stateFile) : Honest parties s' :=
    ⟨hsuccesses,
      fun id hid => hphase ▸ (h.memory id (hmemory' ▸ hid)).imp_left (·.later hlater hlength),
      fun id hid => hphase ▸ (h.file id (hfile' ▸ hid)).imp_left (·.later hlater hlength),
      fun result hresult hsuccess =>
        (h.result result (hphase ▸ hresult) hsuccess).later hlater hlength, hdropped, hrows⟩
  cases hmoves with
  | stay => exact h
  | start hphase =>
    refine ⟨hsuccesses, fun id hid => .inl (hfile hphase rfl id hid), fun id hid => .inl ?_,
      nofun, hdropped, hrows⟩
    split_ifs at hid
    · exact hfile hphase rfl id hid
    · exact hfile hphase rfl id hid
  | crash =>
    -- only the file is left, and it has no failure that is not enqueued
    have hearned (id : String) (hid : (loadedState s.stateFile).completed.contains id = true) :
        s.Earned s.queue.enqueued.length id := by
      obtain hearned | ⟨result, hresult, rfl, hfails⟩ := h.file id hid
      · exact hearned
      · rw [(hkeeps.reports result hresult hfails).2 rfl] at hid
        cases hid
    exact ⟨hsuccesses, fun id hid => .inl (hearned id hid), fun id hid => .inl (hearned id hid),
      nofun, hdropped, hrows⟩
  | look hphase => exact haside rfl rfl rfl
  | heartbeat hphase hevents => exact hquiet hphase rfl rfl rfl rfl rfl rfl
  | unreachable hphase => exact hquiet hphase rfl rfl rfl rfl rfl rfl
  | notAccepted hphase => exact hquiet hphase rfl rfl rfl rfl rfl rfl
  | answer hphase hreply => exact hquiet hphase rfl rfl rfl rfl rfl rfl
  | ack hphase => exact hquiet hphase rfl rfl rfl rfl rfl rfl
  | skip hphase => exact hquiet hphase rfl rfl rfl rfl rfl rfl
  | execute hphase hverify =>
    obtain ⟨hmemory, hresult⟩ := h.execute hphase (execute_ends parties.agent _ _ _ _)
    exact ⟨hsuccesses, hmemory, fun id hid => .inl (hfile hphase rfl id hid), hresult,
      hdropped, hrows⟩
  | @save memory result tasks fails hphase =>
    have hbefore (id : String) (hid : memory.completed.contains id = true) :=
      h.memory id ((memory_of_phase hphase rfl).symm ▸ hid)
    have hresult := h.result
    rw [hphase] at hbefore hresult
    refine ⟨hsuccesses, hbefore, fun id hid => ?_, hresult, hdropped, hrows⟩
    cases fails with
    | true => exact .inl (hfile hphase rfl id hid)
    | false => exact hbefore id hid
  | @enqueue memory result tasks fails hphase =>
    have hreported : s.phase.reported? = some result := by rw [hphase]; rfl
    have hbefore (id : String) (hid : memory.completed.contains id = true) :=
      h.memory id ((memory_of_phase hphase rfl).symm ▸ hid)
    have hstored := h.file
    rw [hphase] at hbefore hstored
    have hnew {id : String} (hthis : ∃ other, some result = some other ∧ other.taskID = id ∧
        Fails other) :
        let queue := Queue.step parties.maxBytes s.queue (.enqueue (report result) fails)
        FailedAt queue.enqueued s.queue.enqueued.length id ∧
          s.queue.enqueued.length < queue.enqueued.length := by
      obtain ⟨other, heq, hid, hfails⟩ := hthis
      cases heq
      obtain rfl : fails = false := by
        have hreports := (hkeeps.reports result hreported hfails).1
        cases fails with
        | true => exact absurd rfl hreports
        | false => rfl
      obtain ⟨queued, hqueue⟩ := hsound.transport.queue
      rw [Queue.step_enqueue hqueue]
      refine ⟨⟨result, List.getElem?_concat_length, hid, hfails⟩, ?_⟩
      simp
    exact ⟨hsuccesses,
      fun id hid => .inl ((hbefore id hid).elim (·.later hlater hlength) fun hthis =>
        .inr ⟨_, (hnew hthis).2, (hnew hthis).1⟩),
      fun id hid => .inl ((hstored id hid).elim (·.later hlater hlength) fun hthis =>
        .inr ⟨_, (hnew hthis).2, (hnew hthis).1⟩),
      nofun, hdropped, hrows⟩
  | done hphase => exact hquiet hphase rfl rfl rfl rfl rfl rfl
  | refuse => exact haside rfl rfl rfl
  | take hrequest hfollows hreplies => exact haside rfl rfl rfl
  | lose => exact haside rfl rfl rfl
  | aside hfollows => exact haside rfl rfl rfl

theorem honest_initial {db : Repair.Db ρ} (hdb : Fresh parties db) :
    Honest parties (initial db) where
  successes := nofun
  memory := nofun
  file := nofun
  result := nofun
  dropped := nofun
  rows row hrow hagent h :=
    absurd (mem_terminalTaskStates.mpr (.inl h)) (hdb.unsettled row hrow hagent)

/-- As long as no failing result is lost, a task that succeeded for the Controller has been run
without an error, however often it was handed out. -/
theorem succeeded_ran_ok {db : Repair.Db ρ} (hdb : Fresh parties db) {inputs : List Input}
    (hkeeps : Meets (step parties) (KeepsFailures parties) (initial db) inputs) :
    let s := run (step parties) (initial db) inputs
    ∀ row ∈ s.db.tasks, row.agentID = parties.agentID → row.status = .succeeded →
      Ran s.executions row.id (· = .ok ()) := by
  have hstart : Sound parties (initial db) ∧ Honest parties (initial db) :=
    ⟨sound_initial hdb, honest_initial hdb⟩
  refine (run_invariant (I := fun s => Sound parties s ∧ Honest parties s)
    (fun s input hinput h => ?_) hstart hkeeps).2.rows
  have hmoves : Moves parties s input (step parties s input) := step_moves h.1.keys input
  exact ⟨sound_moves h.1 hmoves, honest_moves h.2 h.1 hinput hmoves rfl⟩

section Sample

/-- A step that drops nothing and has no failing result at hand. -/
def Quiet (s : System Unit) (input : Input) : Prop :=
  (step sampleParties s input).queue.account.dropped = [] ∧
    ∀ result ∈ s.phase.reported?.toList, result.success = true

instance decidableQuiet (s : System Unit) (input : Input) : Decidable (Quiet s input) :=
  inferInstanceAs (Decidable (_ ∧ _))

theorem keepsFailures_of_quiet (s : System Unit) (input : Input) (h : Quiet s input) :
    KeepsFailures sampleParties s input where
  reports result hresult hfails := by
    have hsuccess := h.2 result (by rw [hresult]; exact List.mem_singleton_self _)
    rw [hfails.1] at hsuccess
    cases hsuccess
  drops i hi := by
    rw [h.1] at hi
    cases hi

theorem succeeded_ran_ok_sample :
    let s := run (step sampleParties) (initial sampleDb) (handOut ++ carryOut)
    ∀ row ∈ s.db.tasks, row.agentID = "agent-1" → row.status = .succeeded →
      Ran s.executions row.id (· = .ok ()) := by
  refine succeeded_ran_ok fresh_sample
    (Meets.mono keepsFailures_of_quiet (Meets.append.mpr ⟨?_, ?_⟩))
  · decide +kernel
  · rw [run_handOut]
    decide +kernel

end Sample

end VpsGuardian.Agent.Delivery
