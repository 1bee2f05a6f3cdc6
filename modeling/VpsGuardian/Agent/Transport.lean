import VpsGuardian.Agent.Delivery
import VpsGuardian.Repair.Statuses

/-!
What the Agent has given up and what the Controller has taken.

A step is taken apart once (`Moves`); the invariants of this module and of the next ones are about
its cases.
-/

namespace VpsGuardian.Agent.Delivery

open Lib
open Controller (Time)
open Repair (Follows deliverable terminalTaskStates)

variable {ρ : Type} {parties : Parties ρ}

/-! ### What a step can do -/

/-- A task of the Agent. -/
def Known (agentID : String) (rows : List Repair.TaskRow) (id : String) : Prop :=
  ∃ row ∈ rows, row.id = id ∧ row.agentID = agentID

/-- What an input makes of a state, with what has to be the case for it. -/
inductive Moves (parties : Parties ρ) (s : System ρ) : Input → System ρ → Prop
  | stay (input : Input) : Moves parties s input s
  | start {fails : Bool} (hphase : s.phase = .down) :
      Moves parties s (.start fails) { s with
        phase := .idle (loadedState s.stateFile)
        stateFile := if fails then s.stateFile else some (loadedState s.stateFile) }
  | crash : Moves parties s .crash { s with phase := .down }
  | look {memory : ActionState} {fails : Bool} (hphase : s.phase = .idle memory) :
      Moves parties s (.heartbeat fails)
        { s with queue := Queue.step parties.maxBytes s.queue (.snapshot 100 fails) }
  | heartbeat {memory : ActionState} {fails : Bool} {events : List Json.Value}
      (hphase : s.phase = .idle memory)
      (hevents : (Queue.step parties.maxBytes s.queue (.snapshot 100 fails)).latest =
        some events) :
      Moves parties s (.heartbeat fails) { s with
        queue := Queue.step parties.maxBytes s.queue (.snapshot 100 fails)
        phase := .waiting memory s.sent events.length
        sent := s.sent + 1
        requests := s.requests ++ [⟨s.sent, s.queue.account.first, events⟩] }
  | unreachable {memory : ActionState} {number count : Nat} {now summary : String} {fails : Bool}
      (hphase : s.phase = .waiting memory number count) :
      Moves parties s (.unreachable now summary fails) { s with
        queue := Queue.step parties.maxBytes s.queue (.enqueue (heartbeatFailed now summary) fails)
        phase := .idle memory }
  | notAccepted {memory : ActionState} {number count : Nat}
      (hphase : s.phase = .waiting memory number count) :
      Moves parties s .notAccepted { s with phase := .idle memory }
  | answer {memory : ActionState} {number count index : Nat} {tasks : List Task}
      (hphase : s.phase = .waiting memory number count) (hreply : (number, tasks) ∈ s.replies) :
      Moves parties s (.answer index) { s with phase := .answered memory count tasks }
  | ack {memory : ActionState} {count : Nat} {tasks : List Task} {fails : Bool}
      (hphase : s.phase = .answered memory count tasks) :
      Moves parties s (.ack fails) { s with
        queue := Queue.step parties.maxBytes s.queue (.ack count fails)
        phase := .handling memory tasks }
  | skip {memory : ActionState} {task : Task} {tasks : List Task} {env : Surroundings} {host : Host}
      (hphase : s.phase = .handling memory (task :: tasks)) :
      Moves parties s (.execute env host) { s with phase := .handling memory tasks }
  | execute {memory : ActionState} {task : Task} {tasks : List Task} {env : Surroundings}
      {host : Host} (hphase : s.phase = .handling memory (task :: tasks))
      (hverify : verifyTask task parties.verify env.now = .ok ()) :
      Moves parties s (.execute env host) { s with
        executions := s.executions ++ [(task, execute parties.agent env memory task host)]
        phase := .afterExecution memory tasks (execute parties.agent env memory task host) }
  | save {memory : ActionState} {result : ActionResult} {tasks : List Task} {fails : Bool}
      (hphase : s.phase = .saving memory result tasks) :
      Moves parties s (.save fails) { s with
        stateFile := if fails then s.stateFile else some memory
        phase := .reporting memory result tasks }
  | enqueue {memory : ActionState} {result : ActionResult} {tasks : List Task} {fails : Bool}
      (hphase : s.phase = .reporting memory result tasks) :
      Moves parties s (.enqueue fails) { s with
        queue := Queue.step parties.maxBytes s.queue (.enqueue (report result) fails)
        phase := .handling memory tasks }
  | done {memory : ActionState} (hphase : s.phase = .handling memory []) :
      Moves parties s .done { s with phase := .idle memory }
  | refuse {index : Nat} {now : Time} {heartbeat : Repair.Heartbeat} :
      Moves parties s (.receive index now heartbeat)
        { s with requests := s.requests.eraseIdx index }
  | take {index : Nat} {now : Time} {heartbeat : Repair.Heartbeat} {request : Request}
      {after : Repair.Db ρ} {replies : List (Nat × List Task)} (hrequest : request ∈ s.requests)
      (hrows : Follows parties.agentID (request.events.map (eventOf parties.reading)) s.db.tasks
        after.tasks)
      (hreplies : ∀ reply ∈ replies, reply.1 = request.number ∧
        ∀ task ∈ reply.2, Known parties.agentID after.tasks task.id) :
      Moves parties s (.receive index now heartbeat) { s with
        requests := s.requests.eraseIdx index
        db := after
        seen := s.seen ++ List.range' request.start request.events.length
        replies := s.replies ++ replies }
  | lose {index : Nat} :
      Moves parties s (.lose index) { s with requests := s.requests.eraseIdx index }
  | aside {input : Input} {after : Repair.Db ρ}
      (hrows : Follows parties.agentID [] s.db.tasks after.tasks) :
      Moves parties s input { s with db := after }

/-- A task comes to the Agent under its id. -/
theorem toAgent_id {task : Controller.AgentTask} {received : Task}
    (h : Protocol.Signing.toAgent task = some received) : received.id = task.id := by
  rw [Protocol.Signing.toAgent, Json.parse_render Json.unescapes_python, Option.bind_some] at h
  have hid : stringField (Controller.serializeAgentTask task) "id" = some task.id := rfl
  rw [decodeTask, hid] at h
  simp only [Option.bind_eq_bind, Option.bind_eq_some_iff, Option.some.injEq] at h
  obtain ⟨_, rfl, _, -, _, -, _, -, _, -, _, -, _, -, _, -, _, -, _, -, rfl⟩ := h
  rfl

theorem mem_of_mapM_eq_some {α β : Type} {f : α → Option β} {items : List α} {images : List β}
    (h : items.mapM f = some images) : ∀ image ∈ images, ∃ item ∈ items, f item = some image := by
  induction items generalizing images with
  | nil =>
    cases h
    simp
  | cons item items ih =>
    rw [List.mapM_cons] at h
    obtain ⟨first, hfirst, h⟩ := Option.bind_eq_some_iff.mp h
    obtain ⟨rest, hrest, h⟩ := Option.bind_eq_some_iff.mp h
    cases h
    intro image himage
    obtain rfl | himage := List.mem_cons.mp himage
    · exact ⟨item, List.mem_cons_self, hfirst⟩
    · obtain ⟨source, hsource, hf⟩ := ih hrest image himage
      exact ⟨source, List.mem_cons_of_mem _ hsource, hf⟩

/-- The tasks of an answer are those of the Agent. -/
theorem answerHeartbeat_known {now : Time} {db after : Repair.Db ρ}
    {heartbeat : Repair.Heartbeat} {tasks : Option (List Task)}
    (h : answerHeartbeat parties now db heartbeat = .ok (after, tasks)) :
    Repair.agentHeartbeat parties.controller now db heartbeat = .ok after ∧
      ∀ handed ∈ tasks, ∀ task ∈ handed, Known heartbeat.agentID after.tasks task.id := by
  obtain ⟨after', hafter, h⟩ := bind_eq_ok.mp h
  cases h
  refine ⟨hafter, fun handed hhanded task htask => ?_⟩
  obtain ⟨row, hrow, htoAgent⟩ := mem_of_mapM_eq_some hhanded task htask
  obtain ⟨hmem, hagent, -⟩ := Repair.deliverable_open hrow
  exact ⟨row, hmem, (toAgent_id htoAgent).symm, hagent⟩

theorem take_eq {s : System ρ} {index : Nat} {now : Time} {heartbeat : Repair.Heartbeat}
    {request : Request} {after : Repair.Db ρ} {tasks : Option (List Task)}
    (h : answerHeartbeat parties now s.db { heartbeat with
      agentID := parties.agentID, events := request.events.map (eventOf parties.reading) } =
      .ok (after, tasks)) :
    s.take parties index now heartbeat request = { s with
      requests := s.requests.eraseIdx index
      db := after
      seen := s.seen ++ List.range' request.start request.events.length
      replies := s.replies ++ (tasks.map fun tasks => (request.number, tasks)).toList } := by
  simp only [System.take, h]

theorem step_moves {s : System ρ} (hkeys : (s.db.tasks.map (·.id)).Nodup) (input : Input) :
    Moves parties s input (step parties s input) := by
  cases input with
  | start fails =>
    simp only [step]
    split
    · exact .start ‹_›
    · exact .stay _
  | crash => exact .crash
  | heartbeat fails =>
    simp only [step]
    split
    · split
      · exact .heartbeat ‹_› ‹_›
      · exact .look ‹_›
    · exact .stay _
  | unreachable now summary fails =>
    simp only [step]
    split
    · exact .unreachable ‹_›
    · exact .stay _
  | notAccepted =>
    simp only [step]
    split
    · exact .notAccepted ‹_›
    · exact .stay _
  | answer index =>
    simp only [step]
    split
    · split_ifs with hnumber
      · subst hnumber
        exact .answer ‹_› (List.mem_of_getElem? ‹_›)
      · exact .stay _
    · exact .stay _
  | ack fails =>
    simp only [step]
    split
    · exact .ack ‹_›
    · exact .stay _
  | execute env host =>
    simp only [step]
    split
    · unfold System.handle
      split
      · exact .skip ‹_›
      · exact .execute ‹_› ‹_›
    · exact .stay _
  | save fails =>
    simp only [step]
    split
    · exact .save ‹_›
    · exact .stay _
  | enqueue fails =>
    simp only [step]
    split
    · exact .enqueue ‹_›
    · exact .stay _
  | done =>
    simp only [step]
    split
    · exact .done ‹_›
    · exact .stay _
  | receive index now heartbeat =>
    simp only [step]
    split
    next request hrequest =>
      unfold System.take
      dsimp only
      split
      · exact .refuse
      next after tasks hanswer =>
        obtain ⟨hafter, hknown⟩ := answerHeartbeat_known hanswer
        refine .take (List.mem_of_getElem? hrequest)
          ((Repair.agentHeartbeat_advances hkeys hafter).follows hkeys fun _ _ => rfl) ?_
        intro reply hreply
        obtain ⟨handed, hhanded, rfl⟩ : ∃ handed ∈ tasks, (request.number, handed) = reply := by
          simpa using hreply
        exact ⟨rfl, hknown handed hhanded⟩
    · exact .stay _
  | lose index => exact .lose
  | other now heartbeat =>
    simp only [step]
    split_ifs with hagent
    · exact .stay _
    · refine .aside ?_
      cases hafter : Repair.agentHeartbeat parties.controller now s.db heartbeat with
      | error e => exact Repair.follows_refl hkeys
      | ok after =>
        exact (Repair.agentHeartbeat_advances hkeys hafter).follows hkeys fun task hown =>
          Repair.receive_of_agentID_ne (fun heq => hagent (heq.symm.trans hown)) _
  | create row =>
    simp only [step]
    split_ifs with h
    · exact .stay _
    · rw [not_or, not_not] at h
      exact .aside (Repair.follows_create hkeys h.1 (by simp [h.2, terminalTaskStates]))
  | decommission =>
    refine .aside (Repair.follows_map hkeys (fun row => ?_) fun row => ?_)
    · split_ifs <;> exact ⟨rfl, rfl⟩
    · split_ifs with h
      · exact .inr (by simp [h.2, terminalTaskStates])
      · exact .inl rfl

theorem keys_moves {s s' : System ρ} {input : Input} (h : (s.db.tasks.map (·.id)).Nodup)
    (hmoves : Moves parties s input s') : (s'.db.tasks.map (·.id)).Nodup := by
  cases hmoves with
  | take hrequest hrows hreplies => exact hrows.nodup
  | aside hrows => exact hrows.nodup
  | _ => exact h

/-! ### The queue -/

section Queue

variable {maxBytes : Int} {queue : Queue.State}

variable (maxBytes queue) in
theorem enqueue_cases (value : Json.Value) (fails : Bool) :
    Queue.step maxBytes queue (.enqueue value fails) = { queue with latest := none } ∨
      ∃ file dropped, Queue.step maxBytes queue (.enqueue value fails) =
        { file, latest := none, enqueued := queue.enqueued ++ [value]
          account := queue.account.drop dropped } := by
  simp only [Queue.step]
  split
  · exact .inr ⟨_, _, rfl⟩
  · exact .inl rfl

variable (maxBytes queue) in
theorem ack_cases (count : Nat) (fails : Bool) :
    Queue.step maxBytes queue (.ack count fails) = { queue with latest := none } ∨
      ∃ file taken dropped, taken ≤ count ∧ Queue.step maxBytes queue (.ack count fails) =
        { queue with
          file, latest := none, account := (queue.account.acknowledge taken).drop dropped } := by
  simp only [Queue.step]
  split
  · exact .inr ⟨_, _, _, Nat.min_le_left _ _, rfl⟩
  · exact .inl rfl

/-- Records and the numbers of those that were dropped only become more. -/
structure Grows (queue queue' : Queue.State) : Prop where
  enqueued : queue.enqueued <+: queue'.enqueued
  dropped : ∀ i ∈ queue.account.dropped, i ∈ queue'.account.dropped

theorem Grows.refl (queue : Queue.State) : Grows queue queue :=
  ⟨List.prefix_rfl, fun _ h => h⟩

theorem grows_enqueue (value : Json.Value) (fails : Bool) :
    Grows queue (Queue.step maxBytes queue (.enqueue value fails)) := by
  obtain h | ⟨file, dropped, h⟩ := enqueue_cases maxBytes queue value fails
  · rw [h]
    exact ⟨List.prefix_rfl, fun _ h => h⟩
  · rw [h]
    exact ⟨List.prefix_append _ _, fun i hi => List.mem_append_left _ hi⟩

theorem grows_ack (count : Nat) (fails : Bool) :
    Grows queue (Queue.step maxBytes queue (.ack count fails)) := by
  obtain h | ⟨file, taken, dropped, -, h⟩ :=
    ack_cases maxBytes queue count fails
  · rw [h]
    exact ⟨List.prefix_rfl, fun _ h => h⟩
  · rw [h]
    exact ⟨List.prefix_rfl, fun i hi => List.mem_append_left _ hi⟩

theorem Grows.getElem? {queue' : Queue.State} (h : Grows queue queue') {i : Nat}
    (hi : i < queue.enqueued.length) : queue'.enqueued[i]? = queue.enqueued[i]? := by
  obtain ⟨rest, hrest⟩ := h.enqueued
  rw [← hrest, List.getElem?_append_left hi]

end Queue

/-! ### What is given up has been taken -/

/-- The Controller has taken so many of the oldest records of the queue. -/
def System.Taken (s : System ρ) (count : Nat) : Prop :=
  ∀ i ∈ List.range' s.queue.account.first count, i ∈ s.seen

/-- What the process relies on while it waits for an answer and has not acknowledged it yet. -/
def System.Awaits (s : System ρ) : Phase → Prop
  | .waiting _ number count =>
      number < s.sent ∧
        (∀ request ∈ s.requests, request.number = number →
          request.start = s.queue.account.first ∧ request.events.length = count) ∧
        ∀ reply ∈ s.replies, reply.1 = number → s.Taken count
  | .answered _ count _ => s.Taken count
  | _ => True

theorem awaits_afterExecution (s : System ρ) (memory : ActionState) (tasks : List Task)
    (execution : Execution) : s.Awaits (.afterExecution memory tasks execution) := by
  cases execution with
  | duplicate result => trivial
  | refused result => trivial
  | ran outcome result state host =>
    rw [Phase.afterExecution]
    split_ifs <;> trivial

/-- Every heartbeat carries records as they were enqueued, and what came before them has been taken
or dropped. -/
structure Transport (parties : Parties ρ) (s : System ρ) : Prop where
  queue : ∃ queued, s.queue.Consistent parties.maxBytes queued
  acknowledged : ∀ i ∈ s.queue.account.acknowledged, i ∈ s.seen
  seen : ∀ i ∈ s.seen, i < s.queue.enqueued.length
  requests : ∀ request ∈ s.requests, request.number < s.sent ∧
    request.start + request.events.length ≤ s.queue.enqueued.length ∧
    request.events <+: s.queue.enqueued.drop request.start ∧
    ∀ i < request.start, i ∈ s.seen ∨ i ∈ s.queue.account.dropped
  replies : ∀ reply ∈ s.replies, reply.1 < s.sent
  phase : s.Awaits s.phase

theorem transport_initial (db : Repair.Db ρ) : Transport parties (initial db) where
  queue := ⟨[], Queue.consistent_initial⟩
  acknowledged := nofun
  seen := nofun
  requests := nofun
  replies := nofun
  phase := trivial

/-- What has left the queue has been taken or dropped. -/
theorem Transport.first {s : System ρ} (h : Transport parties s) {i : Nat}
    (hi : i < s.queue.account.first) : i ∈ s.seen ∨ i ∈ s.queue.account.dropped := by
  obtain ⟨queued, hqueue⟩ := h.queue
  have hmem := hqueue.tracks.settled.mem_iff.mpr (List.mem_range.mpr hi)
  exact (List.mem_append.mp hmem).imp_left (h.acknowledged i)

/-- The queue after a call, where the process no longer waits. -/
theorem Transport.call {s : System ρ} (h : Transport parties s) {operation : Queue.Operation}
    {phase : Phase} (hgrows : Grows s.queue (Queue.step parties.maxBytes s.queue operation))
    (hacknowledged : ∀ i ∈ (Queue.step parties.maxBytes s.queue operation).account.acknowledged,
      i ∈ s.seen)
    (hphase : ∀ s : System ρ, s.Awaits phase) :
    Transport parties
      { s with queue := Queue.step parties.maxBytes s.queue operation, phase } where
  queue := by
    obtain ⟨queued, hqueue⟩ := h.queue
    exact Queue.consistent_step hqueue operation
  acknowledged := hacknowledged
  seen i hi := (h.seen i hi).trans_le hgrows.enqueued.length_le
  requests request hrequest := by
    obtain ⟨hnumber, hlength, hevents, hbefore⟩ := h.requests request hrequest
    refine ⟨hnumber, hlength.trans hgrows.enqueued.length_le, ?_,
      fun i hi => (hbefore i hi).imp_right (hgrows.dropped i)⟩
    obtain ⟨rest, hrest⟩ := hgrows.enqueued
    refine hevents.trans ?_
    rw [← hrest, List.drop_append]
    exact List.prefix_append _ _
  replies := h.replies
  phase := hphase _

theorem Transport.enqueue {s : System ρ} (h : Transport parties s) (value : Json.Value)
    (fails : Bool) {phase : Phase} (hphase : ∀ s : System ρ, s.Awaits phase) :
    Transport parties
      { s with queue := Queue.step parties.maxBytes s.queue (.enqueue value fails), phase } := by
  refine h.call (grows_enqueue value fails) (fun i hi => h.acknowledged i ?_) hphase
  obtain heq | ⟨file, dropped, heq⟩ :=
    enqueue_cases parties.maxBytes s.queue value fails
  · rwa [heq] at hi
  · rwa [heq] at hi

theorem Transport.ack {s : System ρ} (h : Transport parties s) {count : Nat}
    (htaken : s.Taken count) (fails : Bool) {phase : Phase}
    (hphase : ∀ s : System ρ, s.Awaits phase) :
    Transport parties
      { s with queue := Queue.step parties.maxBytes s.queue (.ack count fails), phase } := by
  refine h.call (grows_ack count fails) (fun i hi => ?_) hphase
  obtain heq | ⟨file, taken, dropped, hle, heq⟩ :=
    ack_cases parties.maxBytes s.queue count fails
  · rw [heq] at hi
    exact h.acknowledged i hi
  · rw [heq] at hi
    obtain hold | hnew := List.mem_append.mp hi
    · exact h.acknowledged i hold
    · obtain ⟨hfirst, hlt⟩ := List.mem_range'_1.mp hnew
      exact htaken i (List.mem_range'_1.mpr ⟨hfirst, hlt.trans_le (Nat.add_le_add_left hle _)⟩)

/-- A heartbeat on its way is lost or arrives. -/
theorem Transport.arrive {s : System ρ} (h : Transport parties s) {requests : List Request}
    (hrequests : ∀ request ∈ requests, request ∈ s.requests) (db : Repair.Db ρ) :
    Transport parties { s with requests, db } where
  queue := h.queue
  acknowledged := h.acknowledged
  seen := h.seen
  requests request hrequest := h.requests request (hrequests request hrequest)
  replies := h.replies
  phase := by
    have hphase := h.phase
    revert hphase
    cases s.phase with
    | waiting memory number count =>
      exact fun ⟨hnumber, hown, hreplies⟩ =>
        ⟨hnumber, fun request hrequest => hown request (hrequests request hrequest), hreplies⟩
    | _ => exact id

theorem Transport.take {s : System ρ} (h : Transport parties s) {request : Request}
    (hrequest : request ∈ s.requests) {replies : List (Nat × List Task)}
    (hreplies : ∀ reply ∈ replies, reply.1 = request.number) :
    Transport parties { s with
      seen := s.seen ++ List.range' request.start request.events.length
      replies := s.replies ++ replies } := by
  obtain ⟨hnumber, hlength, hevents, hbefore⟩ := h.requests request hrequest
  exact {
    queue := h.queue
    acknowledged := fun i hi => List.mem_append_left _ (h.acknowledged i hi)
    seen := fun i hi => by
      obtain hold | hnew := List.mem_append.mp hi
      · exact h.seen i hold
      · exact (List.mem_range'_1.mp hnew).2.trans_le hlength
    requests := fun other hother => by
      obtain ⟨hnumber, hlength, hevents, hbefore⟩ := h.requests other hother
      exact ⟨hnumber, hlength, hevents, fun i hi =>
        (hbefore i hi).imp_left (List.mem_append_left _)⟩
    replies := fun reply hreply => by
      obtain hold | hnew := List.mem_append.mp hreply
      · exact h.replies reply hold
      · rwa [hreplies reply hnew]
    phase := by
      have hphase := h.phase
      revert hphase
      cases s.phase with
      | waiting memory number count =>
        rintro ⟨hsent, hown, hanswered⟩
        refine ⟨hsent, hown, fun reply hreply hthis i hi => ?_⟩
        obtain hold | hnew := List.mem_append.mp hreply
        · exact List.mem_append_left _ (hanswered reply hold hthis i hi)
        · -- the answer is to the heartbeat with the oldest records
          obtain ⟨hstart, hcount⟩ :=
            hown request hrequest ((hreplies reply hnew).symm.trans hthis)
          refine List.mem_append_right _ ?_
          rw [hstart, hcount]
          exact hi
      | answered memory count tasks =>
        exact fun htaken i hi => List.mem_append_left _ (htaken i hi)
      | _ => exact id }

theorem Transport.heartbeat {s : System ρ} (h : Transport parties s) {memory : ActionState}
    {fails : Bool} {events : List Json.Value}
    (hevents : (Queue.step parties.maxBytes s.queue (.snapshot 100 fails)).latest = some events) :
    Transport parties { s with
      queue := Queue.step parties.maxBytes s.queue (.snapshot 100 fails)
      phase := .waiting memory s.sent events.length
      sent := s.sent + 1
      requests := s.requests ++ [⟨s.sent, s.queue.account.first, events⟩] } := by
  obtain ⟨queued, hqueue⟩ := h.queue
  obtain ⟨queued', hqueue'⟩ := Queue.consistent_step hqueue (.snapshot 100 fails)
  have hoffered : events <+: s.queue.enqueued.drop s.queue.account.first :=
    hqueue'.tracks.queued ▸ hqueue'.latest events hevents
  exact {
    queue := ⟨queued', hqueue'⟩
    acknowledged := h.acknowledged
    seen := h.seen
    requests := fun request hrequest => by
      obtain hold | hnew := List.mem_append.mp hrequest
      · obtain ⟨hnumber, hrest⟩ := h.requests request hold
        exact ⟨Nat.lt_succ_of_lt hnumber, hrest⟩
      · obtain rfl := List.mem_singleton.mp hnew
        have hlength := hoffered.length_le
        have hfirst := hqueue.tracks.le
        rw [List.length_drop] at hlength
        refine ⟨Nat.lt_succ_self _, ?_, hoffered, fun i hi => h.first hi⟩
        show s.queue.account.first + events.length ≤ s.queue.enqueued.length
        omega
    replies := fun reply hreply => Nat.lt_succ_of_lt (h.replies reply hreply)
    phase := by
      refine ⟨Nat.lt_succ_self _, fun request hrequest hnumber => ?_,
        fun reply hreply hnumber => ?_⟩
      -- the number is new, so only the heartbeat that has just been sent has it
      · obtain hold | hnew := List.mem_append.mp hrequest
        · exact absurd hnumber (h.requests request hold).1.ne
        · obtain rfl := List.mem_singleton.mp hnew
          exact ⟨rfl, rfl⟩
      · exact absurd hnumber (h.replies reply hreply).ne }

theorem transport_moves {s s' : System ρ} {input : Input} (h : Transport parties s)
    (hmoves : Moves parties s input s') : Transport parties s' := by
  cases hmoves with
  | stay => exact h
  | start hphase => exact { h with phase := trivial }
  | crash => exact { h with phase := trivial }
  | @look memory fails hphase =>
    obtain ⟨queued, hqueue⟩ := h.queue
    exact { h with
      queue := Queue.consistent_step hqueue (.snapshot 100 fails)
      phase := by rw [hphase]; trivial }
  | heartbeat hphase hevents => exact h.heartbeat hevents
  | unreachable hphase => exact h.enqueue _ _ fun _ => trivial
  | notAccepted hphase => exact { h with phase := trivial }
  | answer hphase hreply =>
    have hawaits := h.phase
    rw [hphase] at hawaits
    exact { h with phase := hawaits.2.2 _ hreply rfl }
  | ack hphase =>
    have hawaits := h.phase
    rw [hphase] at hawaits
    exact h.ack hawaits _ fun _ => trivial
  | skip hphase => exact { h with phase := trivial }
  | execute hphase hverify => exact { h with phase := awaits_afterExecution _ _ _ _ }
  | save hphase => exact { h with phase := trivial }
  | enqueue hphase => exact h.enqueue _ _ fun _ => trivial
  | done hphase => exact { h with phase := trivial }
  | refuse => exact h.arrive (fun _ => List.mem_of_mem_eraseIdx) s.db
  | take hrequest hrows hreplies =>
    exact (h.take hrequest fun reply hreply => (hreplies reply hreply).1).arrive
      (fun _ => List.mem_of_mem_eraseIdx) _
  | lose => exact h.arrive (fun _ => List.mem_of_mem_eraseIdx) s.db
  | aside hrows => exact h.arrive (fun _ => id) _

end VpsGuardian.Agent.Delivery
