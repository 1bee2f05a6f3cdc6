import VpsGuardian.PortPolicies.BoundaryTimes
import VpsGuardian.PortPolicies.Blocking

/-!
The order in which the boundaries of a policy are queued.

A pass does not see the resets that a heartbeat has marked as `delivered`. Where it finds none of
them, each boundary of a policy is later than those of all its earlier tasks, which have ended.
-/

namespace VpsGuardian.PortPolicies

open Lib
open Controller (Time AgentTask TaskStatus Entropy createAgentTask)

/-- Two tasks for one boundary of a policy. -/
def SameBoundary (a b : AgentTask) : Prop :=
  (Scheduled a ∧ Scheduled b) ∧
    a.parameters.get? "policy_id" = b.parameters.get? "policy_id" ∧
    a.parameters.get "scheduled_for" = b.parameters.get "scheduled_for"

/-- No scheduled reset of the policy is handed out and without a result. -/
def Reported (db : Db) (policy : PortTrafficPolicy) : Prop :=
  ∀ task ∈ db.tasks, Scheduled task → task.parameters.get? "policy_id" = some policy.id →
    task.status ≠ .delivered

/-- No pass queues a reset of a policy while one is handed out and without a result. -/
def Answered (db : Db) (input : Input) : Prop :=
  match input.operation with
  | .dispatch _ => ∀ policy ∈ db.policies, Due (db.arrive input) policy →
      outstandingReset db policy = false → Reported db policy
  | _ => True

instance (a b : AgentTask) : Decidable (SameBoundary a b) :=
  inferInstanceAs (Decidable ((_ ∧ _) ∧ _ ∧ _))

instance (db : Db) (policy : PortTrafficPolicy) : Decidable (Reported db policy) :=
  inferInstanceAs (Decidable (∀ _ ∈ _, _))

instance : ∀ (db : Db) (input : Input), Decidable (Answered db input)
  | db, ⟨elapsed, .dispatch random⟩ => inferInstanceAs (Decidable (∀ policy ∈ db.policies,
      Due (db.arrive ⟨elapsed, .dispatch random⟩) policy →
        outstandingReset db policy = false → Reported db policy))
  | _, ⟨_, .hosts ..⟩ => isTrue trivial
  | _, ⟨_, .create ..⟩ => isTrue trivial
  | _, ⟨_, .update ..⟩ => isTrue trivial
  | _, ⟨_, .requestChange ..⟩ => isTrue trivial
  | _, ⟨_, .requestReset ..⟩ => isTrue trivial
  | _, ⟨_, .decide ..⟩ => isTrue trivial
  | _, ⟨_, .heartbeat ..⟩ => isTrue trivial

/-! ### The order of boundaries -/

/-- The task of a boundary, as the scheduler creates it. -/
structure ResetFor (task : AgentTask) (boundary : Time) : Prop where
  intro ::
  action : task.action = "port_traffic_reset"
  real : task.parameters.get? "dry_run" = some "false"
  text : task.parameters.get? "scheduled_for" = some (isoformat boundary)
  time : Representable boundary

/-- Where a task comes from: an endpoint, or a boundary of a policy that was due. -/
def Origin (db : Db) (task : AgentTask) : Prop :=
  task.parameters.get? "scheduled_for" = none ∨
    ∃ boundary, ResetFor task boundary ∧ boundary ≤ db.clock ∧ ∃ policy ∈ db.policies,
      task.parameters.get? "policy_id" = some policy.id ∧
        task.targetHostID = some policy.hostID

/-- The boundaries of a policy are queued in their order, each after the one before has ended. -/
structure Orderly (db : Db) : Prop where
  intro ::
  origins : ∀ task ∈ db.tasks, Origin db task
  distinct : ∀ a ∈ db.tasks, ∀ b ∈ db.tasks, a.id ≠ b.id →
    a.parameters.get? "policy_id" = b.parameters.get? "policy_id" →
    ∀ d e, ResetFor a d → ResetFor b e → d ≠ e ∧ (terminal a.status = false → e < d)
  passed : ∀ task ∈ db.tasks, ∀ boundary, ResetFor task boundary →
    terminal task.status = true → ∀ runtime ∈ db.runtimes,
      task.parameters.get? "policy_id" = some runtime.policyID →
      ∀ next ∈ runtime.nextResetAt, boundary < next

theorem isoformat_injective {a b : Time} (ha : Representable a) (hb : Representable b)
    (h : isoformat a = isoformat b) : a = b := by
  have hread := datetimeFromISOFormat_isoformat ha
  rw [h, datetimeFromISOFormat_isoformat hb] at hread
  exact (Option.some.inj hread).symm

theorem isoformat_ne_empty {value : Time} (h : Representable value) : isoformat value ≠ "" := by
  intro hempty
  have hread := datetimeFromISOFormat_isoformat h
  rw [hempty] at hread
  exact absurd hread (by simp [datetimeFromISOFormat])

section Order

variable {task : AgentTask} {boundary : Time}

theorem ResetFor.unique (h : ResetFor task boundary) {other : Time} (hother : ResetFor task other) :
    boundary = other :=
  isoformat_injective h.time hother.time (Option.some.inj (h.text.symm.trans hother.text))

theorem ResetFor.scheduled (h : ResetFor task boundary) : Scheduled task := by
  refine ⟨h.action, ?_⟩
  rw [Dict.get, h.text]
  exact isoformat_ne_empty h.time

/-- A task is for a boundary whatever becomes of it. -/
theorem ResetFor.of_eq (h : ResetFor task boundary) {task' : AgentTask}
    (haction : task'.action = task.action) (hparameters : task'.parameters = task.parameters) :
    ResetFor task' boundary :=
  ⟨haction.trans h.action, hparameters ▸ h.real, hparameters ▸ h.text, h.time⟩

theorem not_resetFor (h : task.parameters.get? "scheduled_for" = none) :
    ¬ResetFor task boundary := by
  intro hreset
  have htext := hreset.text
  rw [h] at htext
  cases htext

/-- A scheduled task comes from a boundary. -/
theorem Origin.resetFor {db : Db} (h : Origin db task) (hscheduled : Scheduled task) :
    ∃ boundary, ResetFor task boundary := by
  rcases h with hnone | ⟨boundary, hreset, -⟩
  · refine absurd ?_ hscheduled.2
    rw [Dict.get, hnone]
    rfl
  · exact ⟨boundary, hreset⟩

/-- Tasks of one boundary are one. -/
theorem Orderly.unique {db : Db} (h : Orderly db) {a b : AgentTask} (ha : a ∈ db.tasks)
    (hb : b ∈ db.tasks) (hsame : SameBoundary a b) : a.id = b.id := by
  obtain ⟨⟨hscheduled, hscheduled'⟩, hpolicy, htext⟩ := hsame
  obtain ⟨d, hd⟩ := (h.origins a ha).resetFor hscheduled
  obtain ⟨e, he⟩ := (h.origins b hb).resetFor hscheduled'
  by_contra hne
  refine (h.distinct a ha b hb hne hpolicy d e hd he).1 (isoformat_injective hd.time he.time ?_)
  rw [Dict.get, hd.text, Dict.get, he.text] at htext
  exact htext

end Order

/-! ### Operations -/

section Operations

variable {env : Environment} {db db' : Db}

theorem Orderly.empty : Orderly .empty :=
  ⟨fun _ h => absurd h List.not_mem_nil, fun _ h => absurd h List.not_mem_nil,
    fun _ h => absurd h List.not_mem_nil⟩

/-- Policies stay where they are, and time goes on. -/
def Follows (db db' : Db) : Prop :=
  db.clock ≤ db'.clock ∧ ∀ policy ∈ db.policies, ∃ policy' ∈ db'.policies,
    policy'.id = policy.id ∧ policy'.hostID = policy.hostID

theorem Origin.follow (hfollows : Follows db db') {task task' : AgentTask} (h : Origin db task)
    (haction : task'.action = task.action) (hparameters : task'.parameters = task.parameters)
    (htarget : task'.targetHostID = task.targetHostID) : Origin db' task' := by
  rcases h with hnone | ⟨boundary, hreset, hclock, policy, hpolicy, hid, hhost⟩
  · exact .inl (hparameters ▸ hnone)
  · obtain ⟨policy', hpolicy', hid', hhost'⟩ := hfollows.2 policy hpolicy
    refine .inr ⟨boundary, hreset.of_eq haction hparameters, hclock.trans hfollows.1, policy',
      hpolicy', ?_, ?_⟩
    · rw [hparameters, hid, hid']
    · rw [htarget, hhost, hhost']

/-- The task is still what it was, as far as boundaries are concerned. -/
def SameTask (task task' : AgentTask) : Prop :=
  task'.id = task.id ∧ task'.action = task.action ∧ task'.parameters = task.parameters ∧
    task'.targetHostID = task.targetHostID ∧ terminal task'.status = terminal task.status

theorem SameTask.refl (task : AgentTask) : SameTask task task := ⟨rfl, rfl, rfl, rfl, rfl⟩

/-- Every row has its boundary from before, or none. -/
def SameBoundaries (runtimes runtimes' : List PortTrafficRuntimeState) : Prop :=
  ∀ runtime' ∈ runtimes', ∀ next ∈ runtime'.nextResetAt, ∃ runtime ∈ runtimes,
    runtime.policyID = runtime'.policyID ∧ next ∈ runtime.nextResetAt

/-- Tasks for no boundary do not matter, and neither does what leaves tasks and boundaries as
they are. -/
theorem Orderly.follow (h : Orderly db) (hfollows : Follows db db')
    (htasks : ∀ task' ∈ db'.tasks, task'.parameters.get? "scheduled_for" = none ∨
      ∃ task ∈ db.tasks, SameTask task task')
    (hruntimes : SameBoundaries db.runtimes db'.runtimes) : Orderly db' := by
  refine ⟨?_, ?_, ?_⟩
  · intro task' htask'
    rcases htasks task' htask' with hnone | ⟨task, htask, -, haction, hparameters, htarget, -⟩
    · exact .inl hnone
    · exact (h.origins task htask).follow hfollows haction hparameters htarget
  · intro a' ha' b' hb' hne hpolicy d e hd he
    rcases htasks a' ha' with hnone | ⟨a, ha, haid, haction, hparameters, -, hterminal⟩
    · exact absurd hd (not_resetFor hnone)
    rcases htasks b' hb' with hnone | ⟨b, hb, hbid, haction', hparameters', -⟩
    · exact absurd he (not_resetFor hnone)
    rw [hterminal]
    refine h.distinct a ha b hb ?_ ?_ d e (hd.of_eq haction.symm hparameters.symm)
      (he.of_eq haction'.symm hparameters'.symm)
    · rw [← haid, ← hbid]
      exact hne
    · rw [← hparameters, ← hparameters']
      exact hpolicy
  · intro task' htask' boundary hreset hterminal runtime' hruntime' hpolicy next hnext
    rcases htasks task' htask' with hnone | ⟨task, htask, -, haction, hparameters, -, hsame⟩
    · exact absurd hreset (not_resetFor hnone)
    obtain ⟨runtime, hruntime, hkey, hnext'⟩ := hruntimes runtime' hruntime' next hnext
    refine h.passed task htask boundary (hreset.of_eq haction.symm hparameters.symm)
      (hsame ▸ hterminal) runtime hruntime ?_ next hnext'
    rw [← hparameters, hpolicy, hkey]

theorem SameBoundaries.refl (runtimes : List PortTrafficRuntimeState) :
    SameBoundaries runtimes runtimes :=
  fun runtime hruntime _ hnext => ⟨runtime, hruntime, rfl, hnext⟩

theorem Adds.orderly (h : Adds db db') (hdb : Orderly db) : Orderly db' := by
  obtain ⟨⟨added, htasks, hadded⟩, hruntimes, hpolicies, -, -, hclock⟩ := h
  refine hdb.follow ⟨hclock.ge, hpolicies⟩ ?_ ?_
  · rw [htasks]
    refine List.forall_mem_append.mpr ⟨fun task htask => .inr ⟨task, htask, .refl task⟩, ?_⟩
    exact fun task htask => .inl (hadded task htask).boundary
  · intro runtime hruntime next hnext
    rcases hruntimes runtime hruntime with hold | hnone
    · exact ⟨runtime, hold, rfl, hnext⟩
    · rw [hnone] at hnext
      cases hnext

theorem arrive_orderly (hdb : Orderly db) (input : Input) : Orderly (db.arrive input) := by
  refine hdb.follow ⟨?_, fun policy hpolicy => ⟨policy, hpolicy, rfl, rfl⟩⟩
    (fun task htask => .inr ⟨task, htask, .refl task⟩) (.refl _)
  show db.clock ≤ db.clock + (input.elapsed : Int)
  unfold Time at *
  omega

/-- A generation of a row says nothing about its boundary. -/
theorem recordGenerations_rest (observed : List (String × Nat)) :
    ∃ runtimes, observed.foldl recordGeneration db = { db with runtimes := runtimes } ∧
      SameBoundaries db.runtimes runtimes := by
  induction observed generalizing db with
  | nil => exact ⟨db.runtimes, rfl, .refl _⟩
  | cons entry observed ih =>
    obtain ⟨next, hnext, hsame⟩ : ∃ next, recordGeneration db entry = { db with runtimes := next } ∧
        SameBoundaries db.runtimes next := by
      unfold recordGeneration
      split
      next runtime hruntime =>
        refine ⟨_, rfl, fun row hrow boundary hboundary => ?_⟩
        rcases Table.mem_put.mp hrow with ⟨rfl, -⟩ | ⟨hmem, -⟩
        · exact ⟨runtime, Table.mem_of_lookup hruntime, rfl, hboundary⟩
        · exact ⟨row, hmem, rfl, hboundary⟩
      · exact ⟨db.runtimes, rfl, .refl _⟩
    obtain ⟨runtimes, hruntimes, hrest⟩ := @ih { db with runtimes := next }
    refine ⟨runtimes, ?_, fun row hrow boundary hboundary => ?_⟩
    · rw [List.foldl_cons, hnext, hruntimes]
    · obtain ⟨row', hrow', hkey, hboundary'⟩ := hrest row hrow boundary hboundary
      obtain ⟨row'', hrow'', hkey', hboundary''⟩ := hsame row' hrow' boundary hboundary'
      exact ⟨row'', hrow'', hkey'.trans hkey, hboundary''⟩

theorem recordGenerations_orderly (h : Orderly db) (observed : List (String × Nat)) :
    Orderly (observed.foldl recordGeneration db) := by
  obtain ⟨runtimes, hobserved, hsame⟩ := @recordGenerations_rest db observed
  rw [hobserved]
  exact h.follow ⟨le_rfl, fun policy hpolicy => ⟨policy, hpolicy, rfl, rfl⟩⟩
    (fun task htask => .inr ⟨task, htask, .refl task⟩) hsame

def deliver (db : Db) (task : AgentTask) : Db := db.putTask { task with status := .delivered }

theorem deliver_rest (tasks : List AgentTask) (next : Db) :
    ∃ rows, tasks.foldl deliver next = { next with tasks := rows } := by
  induction tasks generalizing next with
  | nil => exact ⟨next.tasks, rfl⟩
  | cons task tasks ih =>
    obtain ⟨rows, hrows⟩ := ih (deliver next task)
    exact ⟨rows, hrows⟩

/-- A task that is handed out stays what it is. -/
theorem deliver_tasks {tasks : List AgentTask}
    (htasks : ∀ task ∈ tasks, task ∈ db.tasks ∧ terminal task.status = false) {next : Db}
    (hnext : ∀ task' ∈ next.tasks, ∃ task ∈ db.tasks, SameTask task task') :
    ∀ task' ∈ (tasks.foldl deliver next).tasks, ∃ task ∈ db.tasks, SameTask task task' := by
  induction tasks generalizing next with
  | nil => exact hnext
  | cons task tasks ih =>
    obtain ⟨⟨hmem, hterminal⟩, hrest⟩ := List.forall_mem_cons.mp htasks
    refine ih hrest (Table.forall_put hnext ⟨task, hmem, rfl, rfl, rfl, rfl, ?_⟩)
    exact hterminal.symm

theorem deliver_orderly (h : Orderly db) {tasks : List AgentTask}
    (htasks : ∀ task ∈ tasks, task ∈ db.tasks ∧ terminal task.status = false) :
    Orderly (tasks.foldl deliver db) := by
  have hsame := deliver_tasks htasks fun task htask => ⟨task, htask, .refl task⟩
  obtain ⟨rows, hrows⟩ := deliver_rest tasks db
  rw [hrows] at hsame ⊢
  exact h.follow ⟨le_rfl, fun policy hpolicy => ⟨policy, hpolicy, rfl, rfl⟩⟩
    (fun task htask => .inr (hsame task htask)) (.refl _)

theorem deliver_keeps {tasks : List AgentTask} {task : AgentTask} {next : Db}
    (htask : task ∈ next.tasks) (hne : ∀ other ∈ tasks, task.id ≠ other.id) :
    task ∈ (tasks.foldl deliver next).tasks := by
  induction tasks generalizing next with
  | nil => exact htask
  | cons other tasks ih =>
    obtain ⟨hother, hrest⟩ := List.forall_mem_cons.mp hne
    exact ih (Table.mem_put_of_ne htask hother) hrest

theorem mem_deliverable {agentID : String} {task : AgentTask} (h : task ∈ deliverable db agentID) :
    task ∈ db.tasks ∧ terminal task.status = false := by
  have hmem := List.mem_of_mem_take h
  rw [List.mem_insertionSort, List.mem_filter, decide_eq_true_eq] at hmem
  obtain ⟨htask, -, hstatus, -⟩ := hmem
  refine ⟨htask, ?_⟩
  rcases hstatus with hpending | hdelivered
  · rw [hpending]
    rfl
  · rw [hdelivered]
    rfl

/-- The boundaries that the end of a task leaves: a row keeps its own, unless it is the row of the
task's policy, where the boundary is later than that of the task. -/
def Advances (clock : Time) (task : AgentTask) (runtimes runtimes' : List PortTrafficRuntimeState) :
    Prop :=
  ∀ runtime' ∈ runtimes', ∀ next ∈ runtime'.nextResetAt,
    ((∃ runtime ∈ runtimes, runtime.policyID = runtime'.policyID ∧ next ∈ runtime.nextResetAt) ∧
      ∀ boundary, ResetFor task boundary →
        task.parameters.get? "policy_id" ≠ some runtime'.policyID) ∨
      clock < next ∨ ∃ boundary, ResetFor task boundary ∧ boundary < next ∧
        task.parameters.get? "policy_id" = some runtime'.policyID

theorem Moved.advances (hordered : env.zoneInfo.Ordered) {clock : Time} {task : AgentTask}
    {runtimes runtimes' : List PortTrafficRuntimeState}
    (h : Moved env clock task (task.parameters.get "policy_id") runtimes runtimes')
    (horigin : Origin db task) : Advances clock task runtimes runtimes' := by
  intro runtime' hruntime' next hnext
  cases h with
  | missing hnone =>
    refine .inl ⟨⟨runtime', hruntime', rfl, hnext⟩, fun boundary _ hpolicy => ?_⟩
    refine Table.lookup_eq_none.mp hnone runtime' hruntime' ?_
    rw [Dict.get, hpolicy]
    rfl
  | kept hleaves =>
    refine .inl ⟨⟨runtime', hruntime', rfl, hnext⟩, fun boundary hreset _ => ?_⟩
    by_cases hstatus : task.status = .succeeded
    · have hdry := hleaves.1 hstatus hreset.action
      rw [Dict.get, hreset.real] at hdry
      exact absurd hdry (by decide)
    · exact hleaves.2 hstatus hreset.scheduled
  | @moved runtime hruntime generation resetPolicy after boundary hafter hboundary =>
    rcases Table.mem_put.mp hruntime' with ⟨rfl, -⟩ | ⟨hmem, hne⟩
    · obtain rfl : boundary = some next := hnext
      have hlater := nextResetAt_later hordered hboundary
      rcases hafter with rfl | ⟨-, hscheduled, rfl⟩
      · exact .inr (.inl hlater)
      · obtain hnone | ⟨due, hreset, -, policy, -, hpolicy, -⟩ := horigin
        · refine absurd ?_ hscheduled.2
          rw [Dict.get, hnone]
          rfl
        · have hkey : runtime.policyID = task.parameters.get "policy_id" :=
            Table.key_of_lookup hruntime
          refine .inr (.inr ⟨due, hreset, ?_, ?_⟩)
          · rw [Dict.get, hreset.text, Option.getD_some,
              datetimeFromISOFormat_isoformat hreset.time] at hlater
            exact hlater
          · rw [hpolicy, hkey, Dict.get, hpolicy]
            rfl
    · refine .inl ⟨⟨runtime', hmem, rfl, hnext⟩, fun _ _ hpolicy => hne ?_⟩
      have hkey : runtime.policyID = task.parameters.get "policy_id" := Table.key_of_lookup hruntime
      show runtime'.policyID = runtime.policyID
      rw [hkey, Dict.get, hpolicy]
      rfl

theorem terminal_finished (task : AgentTask) (success : Bool) :
    terminal (finished task success).status = true := by
  cases success <;> rfl

/-- The end of a task keeps the order of boundaries if the boundary of its policy moves on. -/
theorem Orderly.finish (h : Orderly db) {task task' : AgentTask} {success : Bool}
    (htask : task ∈ db.tasks) (hterminal : terminal task.status = false)
    (hfinished : task' = finished task success) (hfollows : Follows db db')
    (htasks : db'.tasks = Table.put (·.id) task' db.tasks)
    (hadvances : Advances db.clock task' db.runtimes db'.runtimes) : Orderly db' := by
  have hid : task'.id = task.id := by rw [hfinished, finished]
  have haction : task'.action = task.action := by rw [hfinished, finished]
  have hparameters : task'.parameters = task.parameters := by rw [hfinished, finished]
  have htarget : task'.targetHostID = task.targetHostID := by rw [hfinished, finished]
  have hends : terminal task'.status = true := hfinished ▸ terminal_finished task success
  have hrows : ∀ row' ∈ db'.tasks, row' = task' ∨ (row' ∈ db.tasks ∧ row'.id ≠ task.id) := by
    intro row' hrow'
    rw [htasks] at hrow'
    rcases Table.mem_put.mp hrow' with ⟨rfl, -⟩ | ⟨hmem, hne⟩
    · exact .inl rfl
    · exact .inr ⟨hmem, hid ▸ hne⟩
  have hreset {boundary : Time} (hboundary : ResetFor task' boundary) : ResetFor task boundary :=
    hboundary.of_eq haction.symm hparameters.symm
  refine ⟨?_, ?_, ?_⟩
  · intro row' hrow'
    rcases hrows row' hrow' with rfl | ⟨hmem, -⟩
    · exact (h.origins task htask).follow hfollows haction hparameters htarget
    · exact (h.origins row' hmem).follow hfollows rfl rfl rfl
  · intro a ha b hb hne hpolicy d e hd he
    rcases hrows a ha with rfl | ⟨ha, -⟩
    · rcases hrows b hb with rfl | ⟨hb, -⟩
      · exact absurd rfl hne
      · refine ⟨(h.distinct task htask b hb (hid ▸ hne) (hparameters ▸ hpolicy) d e (hreset hd)
          he).1, fun hlive => ?_⟩
        rw [hends] at hlive
        cases hlive
    · rcases hrows b hb with rfl | ⟨hb, -⟩
      · exact h.distinct a ha task htask (hid ▸ hne) (hparameters ▸ hpolicy) d e hd (hreset he)
      · exact h.distinct a ha b hb hne hpolicy d e hd he
  · intro row' hrow' boundary hboundary hrowEnds runtime' hruntime' hpolicy next hnext
    have horigin : Origin db row' := by
      rcases hrows row' hrow' with rfl | ⟨hmem, -⟩
      · exact (h.origins task htask).follow ⟨le_rfl, fun policy hmem => ⟨policy, hmem, rfl, rfl⟩⟩
          haction hparameters htarget
      · exact h.origins row' hmem
    rcases hadvances runtime' hruntime' next hnext with
      ⟨⟨runtime, hruntime, hkey, hnext'⟩, hother⟩ | hlater | ⟨due, hdue, hlater, hpolicy'⟩
    · rcases hrows row' hrow' with rfl | ⟨hmem, -⟩
      · exact absurd hpolicy (hother boundary hboundary)
      · exact h.passed row' hmem boundary hboundary hrowEnds runtime hruntime (hkey ▸ hpolicy) next
          hnext'
    · rcases horigin with hnone | ⟨other, hother, hpast, -⟩
      · exact absurd hboundary (not_resetFor hnone)
      · obtain rfl := hboundary.unique hother
        exact lt_of_le_of_lt hpast hlater
    · rcases hrows row' hrow' with rfl | ⟨hmem, hne⟩
      · obtain rfl := hdue.unique hboundary
        exact hlater
      · -- The task was the last one of its policy.
        have hbefore := (h.distinct task htask row' hmem hne.symm
          (hparameters ▸ hpolicy'.trans hpolicy.symm) due boundary (hreset hdue) hboundary).2
          hterminal
        exact lt_trans hbefore hlater

/-- What is recorded of a result leaves the policies of their hosts in place. -/
theorem Recorded.follows {task : AgentTask} (h : Recorded db task db')
    (hpolicyIDs : (db.policies.map (·.id)).Nodup) : Follows db db' := by
  obtain ⟨hrest, hpolicies, -⟩ := h
  refine ⟨by rw [hrest], ?_⟩
  rcases hpolicies with hsame | ⟨policy, policy', hfound, houtcome, hsame⟩
  · rw [hsame]
    exact fun policy hpolicy => ⟨policy, hpolicy, rfl, rfl⟩
  · have hconfiguration := houtcome.configuration
    simp only [PortTrafficPolicy.configuration, Prod.mk.injEq] at hconfiguration
    rw [hsame]
    exact exists_putPolicy hpolicyIDs (Table.mem_of_lookup hfound) hconfiguration.1.1
      hconfiguration.1.2.1

theorem recordAgentResult_orderly (hordered : env.zoneInfo.Ordered) {agentID : String}
    {result : ActionResult} (hpolicyIDs : (db.policies.map (·.id)).Nodup) (h : Orderly db)
    (hrecord : recordAgentResult env agentID db result = .ok db') : Orderly db' := by
  rcases recordAgentResult_ok hrecord with rfl | ⟨task, hfound, -, hterminal, hnext⟩
  · exact h
  · have htask := Table.mem_of_lookup hfound
    rcases hnext with ⟨haction, rfl⟩ | ⟨haction, hnext⟩
    · refine h.finish htask hterminal rfl
        ⟨le_rfl, fun policy hpolicy => ⟨policy, hpolicy, rfl, rfl⟩⟩ rfl
        fun runtime hruntime next hnext => ?_
      refine .inl ⟨⟨runtime, hruntime, rfl, hnext⟩, fun boundary hreset _ => haction ?_⟩
      have hreset' : task.action = "port_traffic_reset" := hreset.action
      rw [hreset']
      simp [portTrafficActions]
    · have hrecorded := recordPortTrafficResult_ok hnext
      refine h.finish htask hterminal (rfl : finished task result.success = finished task _)
        (hrecorded.follows hpolicyIDs) ?_ ?_
      · rw [hrecorded.rest]
        rfl
      · rcases recordPortTrafficResult_moved hnext with ⟨hnone, hsame⟩ | hmoved
        · rw [hsame]
          intro runtime hruntime next hnext
          refine .inl ⟨⟨runtime, hruntime, rfl, hnext⟩, fun boundary hreset _ => ?_⟩
          rcases h.origins task htask with hunscheduled | ⟨_, -, -, policy, hpolicy, hid, -⟩
          · exact not_resetFor hunscheduled (hreset.of_eq rfl rfl)
          · refine Table.lookup_eq_none.mp hnone policy hpolicy ?_
            rw [finished_parameters, Dict.get, hid]
            rfl
        · have hfinished : Origin db (finished task result.success) :=
            (h.origins task htask).follow
              ⟨le_rfl, fun policy hpolicy => ⟨policy, hpolicy, rfl, rfl⟩⟩ rfl rfl rfl
          exact hmoved.advances hordered hfinished

theorem recordAgentResult_policyIDs {agentID : String} {result : ActionResult}
    (hrecord : recordAgentResult env agentID db result = .ok db') :
    db'.policies.map (·.id) = db.policies.map (·.id) := by
  rcases recordAgentResult_ok hrecord with rfl | ⟨task, -, -, -, ⟨-, rfl⟩ | ⟨-, hnext⟩⟩
  · rfl
  · rfl
  · rcases (recordPortTrafficResult_ok hnext).policies with hsame | ⟨_, policy', -, -, hsame⟩
    · rw [hsame]
      rfl
    · rw [hsame]
      exact Table.map_key_put policy' db.policies

theorem heartbeat_orderly (hordered : env.zoneInfo.Ordered) {agentID : String}
    {results : List ActionResult} {observed : List (String × Nat)} (hconstraints : db.Constraints)
    (h : Orderly db) (hbeat : agentHeartbeat env db agentID results observed = .ok db') :
    Orderly db' := by
  obtain ⟨-, recorded, hrecorded, rfl⟩ := agentHeartbeat_ok hbeat
  obtain ⟨horderly, -⟩ : Orderly recorded ∧ (recorded.policies.map (·.id)).Nodup := by
    refine foldlM_invariant (P := fun next => Orderly next ∧ (next.policies.map (·.id)).Nodup)
      (fun next result next' hnext hround => ?_) ⟨h, hconstraints.policyIDs⟩ hrecorded
    refine ⟨recordAgentResult_orderly hordered hnext.2 hnext.1 hround, ?_⟩
    rw [recordAgentResult_policyIDs hround]
    exact hnext.2
  exact deliver_orderly (recordGenerations_orderly horderly observed)
    fun task htask => mem_deliverable htask

end Operations

/-! ### A pass -/

/-- The rows that the rounds of a pass leave so far. -/
structure Rounded (db next : Db) : Prop where
  intro ::
  rest : next.policies = db.policies ∧ next.hosts = db.hosts ∧ next.clock = db.clock
  tasks : ∃ added, next.tasks = db.tasks ++ added ∧ ∀ task ∈ added, task.status = .pending
  orderly : Orderly next

theorem scheduledResetParameters_boundary (policy : PortTrafficPolicy) (dueAt : Time)
    (boundary : Option Time) :
    (scheduledResetParameters policy dueAt boundary).get? "scheduled_for" =
      some (isoformat dueAt) :=
  (Frozen.describes_ofList ⟨policy, policy.mode, policy.egressRateBps, policy.resetPolicy, boundary⟩
    [("reason", "scheduled"), ("scheduled_for", isoformat dueAt),
      ("second_confirmation", "confirmed"), ("dry_run", "false")] scheduled_nodup).2 _ _ (by simp)

section Pass

variable {env : Environment} {db next next' : Db} {random : String → Entropy}

theorem Rounded.outstanding (h : Rounded db next) {policy : PortTrafficPolicy}
    (hnext : outstandingReset next policy = false) : outstandingReset db policy = false := by
  obtain ⟨added, htasks, -⟩ := h.tasks
  exact outstandingReset_mono htasks hnext

/-- Without an outstanding reset, all earlier boundaries of the policy have ended, and the boundary
that is due is later. -/
theorem Rounded.ended (hdb : Orderly db) (hpolicyIDs : (db.policies.map (·.id)).Nodup)
    (hdispatchable : Dispatchable db) (hnext : Rounded db next)
    {due : PortTrafficRuntimeState × Time} (hdue : due ∈ dueResets db) {policy : PortTrafficPolicy}
    (hpolicy : policy ∈ db.policies) (hkey : policy.id = due.1.policyID)
    (houtstanding : outstandingReset next policy = false) (hreported : Reported db policy)
    {task : AgentTask}
    (htask : task ∈ next.tasks) {boundary : Time} (hreset : ResetFor task boundary)
    (hpolicyID : task.parameters.get? "policy_id" = some policy.id) :
    terminal task.status = true ∧ boundary < due.2 := by
  obtain ⟨hruntime, hdueAt, -⟩ := mem_dueResets.mp hdue
  obtain ⟨⟨hpolicies, -⟩, ⟨added, htasks, hadded⟩, horderly⟩ := hnext
  have hhost : task.targetHostID = some policy.hostID := by
    rcases horderly.origins task htask with hnone | ⟨_, -, -, policy', hpolicy', hid, hhost⟩
    · exact absurd hreset (not_resetFor hnone)
    · obtain rfl := Table.eq_of_mem hpolicyIDs (hpolicies ▸ hpolicy') hpolicy
        (Option.some.inj (hid.symm.trans hpolicyID))
      exact hhost
  have hpending : task.status ≠ .pending := fun hpending =>
    Bool.eq_false_iff.mp houtstanding (outstandingReset_eq_true.mpr
      ⟨task, htask, ⟨hreset.action, hpolicyID⟩, hhost, .inl hpending⟩)
  have hold : task ∈ db.tasks := by
    rw [htasks] at htask
    exact (List.mem_append.mp htask).resolve_right fun hnew => hpending (hadded task hnew)
  obtain ⟨hrunning, hcancelled⟩ := hdispatchable.statuses task hold
  have hdelivered := hreported task hold hreset.scheduled hpolicyID
  have hterminal : terminal task.status = true := by
    cases hstatus : task.status with
    | pending => exact absurd hstatus hpending
    | running => exact absurd hstatus hrunning
    | delivered => exact absurd hstatus hdelivered
    | cancelled => exact absurd hstatus hcancelled
    | succeeded => rfl
    | failed => rfl
  exact ⟨hterminal, hdb.passed task hold boundary hreset hterminal due.1 hruntime
    (hkey ▸ hpolicyID) due.2 hdueAt⟩

theorem Rounded.round (hdb : Orderly db) (hpolicyIDs : (db.policies.map (·.id)).Nodup)
    (hdispatchable : Dispatchable db)
    (hanswered : ∀ policy ∈ db.policies, Due db policy → outstandingReset db policy = false →
      Reported db policy)
    (hnext : Rounded db next) {due : PortTrafficRuntimeState × Time} (hdue : due ∈ dueResets db)
    (hround : dispatchReset env random next due = .ok next') : Rounded db next' := by
  rcases dispatchReset_ok hround with
    rfl | rfl | ⟨policy, agent, boundary, task, hfound, ⟨⟨henabled, hrecurrence⟩, happroved,
      host, hhost, hagent, hrevoked⟩, houtstanding, -, hcreated, rfl⟩
  · exact hnext
  · refine ⟨hnext.rest, hnext.tasks, hnext.orderly.follow
      ⟨le_rfl, fun policy hpolicy => ⟨policy, hpolicy, rfl, rfl⟩⟩
      (fun task htask => .inr ⟨task, htask, .refl task⟩) ?_⟩
    intro runtime hruntime time htime
    rcases Table.mem_put.mp hruntime with ⟨rfl, -⟩ | ⟨hmem, -⟩
    · cases htime
    · exact ⟨runtime, hmem, rfl, htime⟩
  · obtain ⟨hruntime, hdueAt, hle⟩ := mem_dueResets.mp hdue
    have hpolicy : policy ∈ next.policies := Table.mem_of_lookup hfound
    have hkey : policy.id = due.1.policyID := Table.key_of_lookup hfound
    obtain ⟨⟨-, hpolicyID⟩, ⟨hpending, htarget⟩, -⟩ := resets_scheduled hcreated
    have hfresh := hnext.outstanding houtstanding
    obtain ⟨⟨hpolicies, hhosts, hclock⟩, ⟨added, htasks, hadded⟩, horderly⟩ := id hnext
    have hreported : Reported db policy := by
      refine hanswered policy (hpolicies ▸ hpolicy) ⟨hpolicies ▸ hpolicy, henabled, hrecurrence,
        happroved, ⟨host, ?_, agent, hagent, hrevoked⟩, due.1, hruntime, hkey.symm, due.2, hdueAt,
        hle⟩ hfresh
      unfold Db.host? at hhost ⊢
      exact hhosts ▸ hhost
    have heq := (Controller.createAgentTask_ok hcreated).eq
    have hreset : ResetFor task due.2 := by
      rw [heq]
      exact ⟨rfl, (Frozen.Describes.scheduled policy due.2 boundary).2.1,
        scheduledResetParameters_boundary policy due.2 boundary,
        hdispatchable.boundaries due.1 hruntime due.2 hdueAt⟩
    have hended {other : AgentTask} (hother : other ∈ next.tasks) {time : Time}
        (htime : ResetFor other time)
        (hsame : other.parameters.get? "policy_id" = task.parameters.get? "policy_id") :=
      hnext.ended hdb hpolicyIDs hdispatchable hdue (hpolicies ▸ hpolicy) hkey houtstanding
        hreported hother htime (hsame.trans hpolicyID)
    refine ⟨⟨hpolicies, hhosts, hclock⟩, ⟨added ++ [task], ?_, ?_⟩, ?_, ?_, ?_⟩
    · exact (congrArg (· ++ [task]) htasks).trans (List.append_assoc _ _ _)
    · exact List.forall_mem_append.mpr ⟨hadded, List.forall_mem_singleton.mpr hpending⟩
    · refine List.forall_mem_append.mpr ⟨horderly.origins, List.forall_mem_singleton.mpr (.inr ?_)⟩
      exact ⟨due.2, hreset, hclock ▸ hle, policy, hpolicy, hpolicyID, htarget⟩
    · intro a ha b hb hne hsame d e hd he
      rcases List.mem_append.mp ha with hold | hnew
      · rcases List.mem_append.mp hb with hold' | hnew
        · exact horderly.distinct a hold b hold' hne hsame d e hd he
        · obtain rfl := List.mem_singleton.mp hnew
          obtain rfl := hreset.unique he
          obtain ⟨hterminal, hbefore⟩ := hended hold hd hsame
          refine ⟨hbefore.ne, fun hlive => ?_⟩
          rw [hterminal] at hlive
          cases hlive
      · obtain rfl := List.mem_singleton.mp hnew
        obtain rfl := hreset.unique hd
        rcases List.mem_append.mp hb with hold | hnew'
        · obtain ⟨-, hbefore⟩ := hended hold he hsame.symm
          exact ⟨hbefore.ne', fun _ => hbefore⟩
        · exact absurd (congrArg (·.id) (List.mem_singleton.mp hnew')).symm hne
    · intro other hother time htime hterminal
      rcases List.mem_append.mp hother with hold | hnew
      · exact horderly.passed other hold time htime hterminal
      · obtain rfl := List.mem_singleton.mp hnew
        rw [hpending] at hterminal
        cases hterminal

theorem dispatch_orderly (hdb : Orderly db) (hconstraints : db.Constraints)
    (hdispatchable : Dispatchable db)
    (hanswered : ∀ policy ∈ db.policies, Due db policy → outstandingReset db policy = false →
      Reported db policy)
    (h : dispatchDuePortTrafficResets env db random = .ok next) : Orderly next := by
  obtain ⟨-, hrounds⟩ := dispatchDuePortTrafficResets_ok h
  have hfirst : Rounded db db :=
    ⟨⟨rfl, rfl, rfl⟩, ⟨[], (List.append_nil _).symm, fun _ h => absurd h List.not_mem_nil⟩, hdb⟩
  have hlast : Rounded db next :=
    foldlM_invariant_of_mem (fun due hdue _ _ hnext hround => hnext.round hdb
      hconstraints.policyIDs hdispatchable hanswered hdue hround) hfirst hrounds
  exact hlast.orderly

/-- One step keeps the order of boundaries. -/
theorem step_orderly (hordered : env.zoneInfo.Ordered) (hconstraints : db.Constraints)
    (hdispatchable : Dispatchable db) (h : Orderly db) {input : Input}
    (hanswered : Answered db input) : Orderly (step env db input) := by
  have harrived := arrive_orderly h input
  have hdispatchable' : Dispatchable (db.arrive input) :=
    ⟨hdispatchable.statuses, hdispatchable.plans, hdispatchable.boundaries⟩
  rcases step_cases env db input with htransaction | hfailed
  · rcases transaction_adds hdispatchable'.plans htransaction with
      hadds | ⟨agentID, results, observed, hoperation⟩ | ⟨random, hoperation⟩
    · exact hadds.orderly harrived
    · rw [hoperation] at htransaction
      exact heartbeat_orderly hordered (hconstraints.arrive input) harrived htransaction
    · unfold Answered at hanswered
      rw [hoperation] at htransaction hanswered
      exact dispatch_orderly harrived (hconstraints.arrive input) hdispatchable' hanswered
        htransaction
  · rw [hfailed]
    exact harrived

end Pass

end VpsGuardian.PortPolicies
