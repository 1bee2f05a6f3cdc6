import VpsGuardian.PortPolicies.BoundaryOrder

/-!
The resets of one boundary (`dispatch_due_port_traffic_resets`, `_record_port_traffic_result`).

A boundary has one task while the passes see the tasks of the boundaries before, and the result of
a task is recorded once.
-/

namespace VpsGuardian.PortPolicies

open Lib
open Controller (Time AgentTask TaskStatus Entropy uuid4 seconds)

/-- A task that has not ended and not expired. -/
def Live (db : Db) (task : AgentTask) : Prop :=
  terminal task.status = false ∧ db.clock < task.expiresAt

/-- A reset that succeeded, and was no dry run. -/
def Performed (task : AgentTask) : Prop :=
  task.action = "port_traffic_reset" ∧ task.status = .succeeded ∧
    task.parameters.get "dry_run" ≠ "true"

/-- The event records the reset that a task performed. -/
def Records (event : PortTrafficResetEvent) (task : AgentTask) : Prop :=
  (event.policyID = task.parameters.get "policy_id" ∧
    event.reason = .ofList (((task.parameters.get? "reason").getD "manual").toList.take 64)) ∧
  event.requestedBy = task.requesterID ∧ event.approvalID = task.approvalID

/-- Every reset event has a task of its own whose reset it records. -/
structure Attributed (db : Db) (owners : List AgentTask) : Prop where
  intro ::
  events : List.Forall₂ Records db.resetEvents owners
  performed : ∀ owner ∈ owners, owner ∈ db.tasks ∧ Performed owner
  ids : (owners.map (·.id)).Nodup

/-- A boundary has one task at a time, and one event at most. -/
structure Once (db : Db) : Prop where
  live : ∀ a ∈ db.tasks, ∀ b ∈ db.tasks, SameBoundary a b → Live db a → Live db b → a.id = b.id
  recorded : ∃ owners, Attributed db owners ∧ owners.Pairwise fun a b => ¬SameBoundary a b

instance (db : Db) (task : AgentTask) : Decidable (Live db task) :=
  inferInstanceAs (Decidable (_ ∧ _))

/-! ### Events -/

section Events

variable {env : Environment} {db db' : Db} {owners : List AgentTask}

theorem Attributed.empty : Attributed .empty [] :=
  ⟨.nil, fun _ h => absurd h List.not_mem_nil, List.nodup_nil⟩

theorem Attributed.keep (h : Attributed db owners) (hevents : db'.resetEvents = db.resetEvents)
    (htasks : ∀ owner ∈ owners, owner ∈ db'.tasks) : Attributed db' owners :=
  ⟨hevents ▸ h.events, fun owner howner => ⟨htasks owner howner, (h.performed owner howner).2⟩,
    h.ids⟩

theorem Performed.terminal {task : AgentTask} (h : Performed task) :
    PortPolicies.terminal task.status = true := by
  rw [h.2.1]
  rfl

/-- A task that has not ended has no event. -/
theorem Attributed.ne (h : Attributed db owners) (hids : (db.tasks.map (·.id)).Nodup)
    {task : AgentTask} (htask : task ∈ db.tasks) (hterminal : terminal task.status = false) :
    ∀ owner ∈ owners, owner.id ≠ task.id := by
  intro owner howner hid
  obtain ⟨hmem, hperformed⟩ := h.performed owner howner
  obtain rfl := Table.eq_of_mem hids hmem htask hid
  rw [hperformed.terminal] at hterminal
  cases hterminal

/-- The outcome of a task adds an event if the task performed a reset, and only then. -/
theorem recordOutcome_events {policy : PortTrafficPolicy} {task : AgentTask} {reported : Option Int}
    (hkey : policy.id = task.parameters.get "policy_id")
    (h : recordOutcome env db policy task reported = .ok db') :
    db'.resetEvents = db.resetEvents ∨
      (task.status = .succeeded ∧ task.parameters.get "dry_run" ≠ "true" ∧
        task.action ≠ "port_traffic_apply" ∧ task.action ≠ "port_traffic_remove") ∧
      ∃ event, db'.resetEvents = db.resetEvents ++ [event] ∧ Records event task := by
  unfold recordOutcome at h
  split_ifs at h with hstatus hdry happly hremove
  · unfold recordFailure at h
    dsimp only at h
    split_ifs at h
    · obtain ⟨runtimes, rfl⟩ := schedule_ok h
      exact .inl rfl
    · cases h
      exact .inl rfl
  · cases h
    exact .inl rfl
  · unfold recordApply at h
    obtain ⟨policy', -, h⟩ := bind_eq_ok.mp h
    split at h
    · split_ifs at h
      · split at h
        · cases h
          exact .inl rfl
        · obtain ⟨runtimes, rfl⟩ := schedule_ok h
          exact .inl rfl
      · cases h
        exact .inl rfl
    · cases h
      exact .inl rfl
  · cases h
    exact .inl rfl
  · refine .inr ⟨⟨not_not.mp hstatus, hdry, happly, hremove⟩, ?_⟩
    unfold recordReset at h
    dsimp only at h
    split at h
    · cases h
      exact ⟨_, rfl, ⟨hkey, rfl⟩, rfl, rfl⟩
    · obtain ⟨runtimes, rfl⟩ := schedule_ok h
      exact ⟨_, rfl, ⟨hkey, rfl⟩, rfl, rfl⟩

theorem recordPortTrafficResult_events {task : AgentTask} {reported : Option Int}
    (haction : task.action ∈ portTrafficActions)
    (h : recordPortTrafficResult env db task reported = .ok db') :
    db'.resetEvents = db.resetEvents ∨
      Performed task ∧
        ∃ event, db'.resetEvents = db.resetEvents ++ [event] ∧ Records event task := by
  unfold recordPortTrafficResult at h
  split at h
  · cases h
    exact .inl rfl
  next policy hfound =>
    obtain ⟨recorded, hrecorded, rfl⟩ := map_eq_ok.mp h
    obtain ⟨approvals, hclosed, -⟩ := closeApproval_eq recorded task
    rw [hclosed]
    rcases recordOutcome_events (Table.key_of_lookup hfound) hrecorded with
      hsame | ⟨⟨hstatus, hdry, happly, hremove⟩, hevent⟩
    · exact .inl hsame
    · refine .inr ⟨⟨?_, hstatus, hdry⟩, hevent⟩
      simp only [portTrafficActions, List.mem_cons, List.not_mem_nil, or_false] at haction
      exact (haction.resolve_left happly).resolve_left hremove

theorem recordAgentResult_attributed {agentID : String} {result : ActionResult}
    (hids : (db.tasks.map (·.id)).Nodup) (h : Attributed db owners)
    (hrecord : recordAgentResult env agentID db result = .ok db') :
    (db'.tasks.map (·.id)).Nodup ∧ ∃ owners', Attributed db' owners' := by
  rcases recordAgentResult_ok hrecord with rfl | ⟨task, hfound, -, hterminal, hnext⟩
  · exact ⟨hids, owners, h⟩
  · have htask := Table.mem_of_lookup hfound
    have hne := h.ne hids htask hterminal
    have hput : db'.tasks = Table.put (·.id) (finished task result.success) db.tasks := by
      rcases hnext with ⟨-, rfl⟩ | ⟨-, hnext⟩
      · rfl
      · rw [(recordPortTrafficResult_ok hnext).rest]
        rfl
    have hids' : (db'.tasks.map (·.id)).Nodup := by
      rw [hput, Table.map_key_put]
      exact hids
    have hkept : ∀ owner ∈ owners, owner ∈ db'.tasks := by
      intro owner howner
      rw [hput]
      exact Table.mem_put_of_ne (h.performed owner howner).1 (hne owner howner)
    refine ⟨hids', ?_⟩
    rcases hnext with ⟨-, rfl⟩ | ⟨haction, hnext⟩
    · exact ⟨owners, h.keep rfl hkept⟩
    · have haction' : (finished task result.success).action ∈ portTrafficActions := haction
      rcases recordPortTrafficResult_events haction' hnext with
        hsame | ⟨hperformed, event, hevents, hrecords⟩
      · exact ⟨owners, h.keep hsame hkept⟩
      · refine ⟨owners ++ [finished task result.success], ?_, ?_, ?_⟩
        · rw [hevents]
          exact List.rel_append h.events (.cons hrecords .nil)
        · refine List.forall_mem_append.mpr ⟨fun owner howner => ⟨hkept owner howner,
            (h.performed owner howner).2⟩, List.forall_mem_singleton.mpr ⟨?_, hperformed⟩⟩
          rw [hput]
          exact Table.mem_put_self (List.mem_map_of_mem (f := (·.id)) htask)
        · rw [List.map_append, List.nodup_append]
          refine ⟨h.ids, List.nodup_singleton _, ?_⟩
          rintro id hid _ hlast rfl
          obtain ⟨owner, howner, hsame⟩ := List.mem_map.mp hid
          exact hne owner howner (hsame.trans (List.mem_singleton.mp hlast))

theorem heartbeat_attributed {agentID : String} {results : List ActionResult}
    {observed : List (String × Nat)} (hids : (db.tasks.map (·.id)).Nodup) (h : Attributed db owners)
    (hbeat : agentHeartbeat env db agentID results observed = .ok db') :
    ∃ owners', Attributed db' owners' := by
  obtain ⟨-, recorded, hrecorded, rfl⟩ := agentHeartbeat_ok hbeat
  obtain ⟨hids', owners', howners⟩ : (recorded.tasks.map (·.id)).Nodup ∧
      ∃ owners', Attributed recorded owners' := by
    refine foldlM_invariant (P := fun next => (next.tasks.map (·.id)).Nodup ∧
      ∃ owners', Attributed next owners') (fun _ _ _ hnext hround => ?_) ⟨hids, owners, h⟩ hrecorded
    obtain ⟨hids, owners, h⟩ := hnext
    exact recordAgentResult_attributed hids h hround
  obtain ⟨runtimes, hobserved, -⟩ := @recordGenerations_rest recorded observed
  obtain ⟨rows, hrows⟩ :=
    deliver_rest (deliverable (observed.foldl recordGeneration recorded) agentID)
      (observed.foldl recordGeneration recorded)
  have hobservedOwners : Attributed (observed.foldl recordGeneration recorded) owners' := by
    rw [hobserved]
    exact howners.keep rfl fun owner howner => (howners.performed owner howner).1
  refine ⟨owners', hobservedOwners.keep ?_ fun owner howner => ?_⟩
  · exact congrArg (·.resetEvents) hrows
  · refine deliver_keeps (hobservedOwners.performed owner howner).1 fun task htask => ?_
    obtain ⟨hmem, hterminal⟩ := mem_deliverable htask
    refine hobservedOwners.ne ?_ hmem hterminal owner howner
    rw [hobserved]
    exact hids'

theorem dispatch_attributed {random : String → Entropy} (h : Attributed db owners)
    (hdispatch : dispatchDuePortTrafficResets env db random = .ok db') : Attributed db' owners := by
  obtain ⟨-, hrounds⟩ := dispatchDuePortTrafficResets_ok hdispatch
  obtain ⟨hevents, htasks⟩ : db'.resetEvents = db.resetEvents ∧
      ∀ task ∈ db.tasks, task ∈ db'.tasks := by
    refine foldlM_invariant (P := fun next => next.resetEvents = db.resetEvents ∧
      ∀ task ∈ db.tasks, task ∈ next.tasks) (fun next _ _ hnext hround => ?_)
      ⟨rfl, fun _ htask => htask⟩ hrounds
    rcases dispatchReset_ok hround with rfl | rfl | ⟨_, _, _, _, -, -, -, -, -, rfl⟩
    · exact hnext
    · exact hnext
    · exact ⟨hnext.1, fun task htask => List.mem_append_left _ (hnext.2 task htask)⟩
  exact h.keep hevents fun owner howner => htasks owner (h.performed owner howner).1

theorem step_attributed (hconstraints : db.Constraints) (hdispatchable : Dispatchable db)
    (h : ∃ owners, Attributed db owners) (input : Input) :
    ∃ owners, Attributed (step env db input) owners := by
  obtain ⟨owners, h⟩ := h
  have harrived : Attributed (db.arrive input) owners :=
    h.keep rfl fun owner howner => (h.performed owner howner).1
  have hplans : ∀ approval ∈ (db.arrive input).approvals, PlansUnscheduled approval :=
    hdispatchable.plans
  rcases step_cases env db input with htransaction | hfailed
  · rcases transaction_adds hplans htransaction with
      hadds | ⟨agentID, results, observed, hoperation⟩ | ⟨random, hoperation⟩
    · obtain ⟨added, htasks, -⟩ := hadds.tasks
      refine ⟨owners, harrived.keep hadds.rest.1 fun owner howner => ?_⟩
      rw [htasks]
      exact List.mem_append_left _ (harrived.performed owner howner).1
    · rw [hoperation] at htransaction
      exact heartbeat_attributed (hconstraints.arrive input).taskIDs harrived htransaction
    · rw [hoperation] at htransaction
      exact ⟨owners, dispatch_attributed harrived htransaction⟩
  · rw [hfailed]
    exact ⟨owners, harrived⟩

end Events

/-! ### Runs -/

theorem Orderly.once {db : Db} (h : Orderly db) (hattributed : ∃ owners, Attributed db owners) :
    Once db := by
  obtain ⟨owners, howners⟩ := hattributed
  refine ⟨fun a ha b hb hsame _ _ => h.unique ha hb hsame, owners, howners, ?_⟩
  refine (List.pairwise_map.mp howners.ids).imp_of_mem fun ha hb hne hsame => hne ?_
  exact h.unique (howners.performed _ ha).1 (howners.performed _ hb).1 hsame

theorem utcOnly_ordered : utcOnly.Ordered := by
  intro name zone hzone value today date start htoday hdate hstart
  unfold utcOnly at hzone
  split_ifs at hzone
  cases hzone
  have hordinal := Date.fromOrdinal_eq_some.mp htoday
  have hbefore : today.ordinal < date.ordinal := Date.ordinal_lt_of_lt hdate
  unfold Zone.midnight at hstart
  dsimp only at hstart hordinal
  split_ifs at hstart
  cases hstart
  unfold seconds at *
  unfold Time at *
  omega

/-- A second after the pass, the Agent asks for its tasks. -/
def handedOut : List Input := secondly monthlyResets ++ endOfJanuary :: secondly [reports []]

/-- A pass a second after the task was handed out. -/
def nextPass : Input := ⟨1000000, .dispatch fun _ => .ofUUID 6⟩

/-- A pass at the end of February 1970. -/
def endOfFebruary : Input := ⟨2419200000000, .dispatch fun _ => .ofUUID 6⟩

/-- The reset of January is reported before the boundary of February. -/
def resetTwice : List Input := handedOut ++ secondly [reports [(5, true)]] ++ [endOfFebruary]

end VpsGuardian.PortPolicies
