import VpsGuardian.Agent.DiskQueue
import VpsGuardian.Agent.Registry
import VpsGuardian.Protocol.Signing
import VpsGuardian.Repair.Dispatch

/-!
Tasks from the Controller to an Agent and their results back (`run` of `agent/main.go` and
`agent_heartbeat`).

The process of the Agent may stop between any two of its durable writes. Heartbeats and their
answers may be lost and may arrive late; a heartbeat is taken once at most.
-/

namespace VpsGuardian.Agent.Delivery

open Lib
open Controller (Time)
open Repair (TaskRow Db)

/-! ### Reports -/

/-- A result as `json.Marshal` writes it, in the order of the struct's fields. -/
def marshalResult (result : ActionResult) : Json.Value :=
  .object [
    ("task_id", .string result.taskID),
    ("action", .string result.action),
    ("success", .bool result.success),
    ("dry_run", .bool result.dryRun),
    ("before", Json.goObject result.before),
    ("after", Json.goObject result.after),
    ("message", .string result.message),
    ("finished_at", .string result.finishedAt),
    ("exit_code", .int result.exitCode),
    ("duration_ms", .number result.durationMS)]

/-- The record of a result. -/
def report (result : ActionResult) : Json.Value :=
  .object [("result", marshalResult result), ("type", .string "action_result")]

/-- The record of a heartbeat that has failed. -/
def heartbeatFailed (now summary : String) : Json.Value :=
  .object [("at", .string now), ("summary_sha256", .string summary),
    ("type", .string "heartbeat_failed")]

/-- How the Controller reads what is not of the type the Agent sends: `str` of a value, and the
duration in microseconds. -/
structure Reading where
  str : Json.Value → String
  duration : Json.Value → Option Time

def isTrue : Option Json.Value → Bool
  | some (.bool b) => b
  | _ => false

/-- An event as `record_agent_results` reads it. -/
def eventOf (reading : Reading) (event : Json.Value) : Repair.Event :=
  match event.member? "type", event.member? "result" with
  | some (.string "action_result"), some (.object members) =>
      let result : Json.Value := .object members
      .actionResult {
        taskID := match result.member? "task_id" with
          | none => ""
          | some (.string id) => id
          | some value => reading.str value
        success := isTrue (result.member? "success")
        duration := (result.member? "duration_ms").bind reading.duration
        after := (result.member? "after").getD (.object [])
        exitCode := (result.member? "exit_code").getD .null
        document := result }
  | _, _ => .other

/-! ### The system -/

/-- A heartbeat on its way. Its events are the records from one on, in the order of all records. -/
structure Request where
  number : Nat
  start : Nat
  events : List Json.Value

/-- Where the process of the Agent is. -/
inductive Phase where
  | down
  | idle (memory : ActionState)
  /-- Waits for the answer to a heartbeat with so many events. -/
  | waiting (memory : ActionState) (number count : Nat)
  /-- `Ack` comes next. -/
  | answered (memory : ActionState) (count : Nat) (tasks : List Task)
  | handling (memory : ActionState) (tasks : List Task)
  /-- `saveState` comes next. -/
  | saving (memory : ActionState) (result : ActionResult) (tasks : List Task)
  /-- `Enqueue` of the result comes next. -/
  | reporting (memory : ActionState) (result : ActionResult) (tasks : List Task)

def Phase.memory? : Phase → Option ActionState
  | .down => none
  | .idle memory | .waiting memory _ _ | .answered memory _ _ | .handling memory _
  | .saving memory _ _ | .reporting memory _ _ => some memory

structure System (ρ : Type) where
  db : Db ρ
  stateFile : Option ActionState
  queue : Queue.State
  phase : Phase
  sent : Nat
  requests : List Request
  /-- Answers on their way: the number of the heartbeat, and the tasks. -/
  replies : List (Nat × List Task)
  /-- The executions so far, and the numbers of the records that the Controller has taken. -/
  executions : List (Task × Execution)
  seen : List Nat

structure Parties (ρ : Type) where
  agentID : String
  controller : Repair.Config ρ
  reading : Reading
  agent : Config
  verify : ByteArray → List UInt8 → Bool
  maxBytes : Int

inductive Input where
  /-- `NewActionRegistry`; the state may fail to be saved. -/
  | start (fails : Bool)
  | crash
  | heartbeat (fails : Bool)
  /-- No answer in time. -/
  | unreachable (now summary : String) (fails : Bool)
  /-- The identity is still pending. -/
  | notAccepted
  | answer (index : Nat)
  | ack (fails : Bool)
  | execute (env : Surroundings) (host : Host)
  | save (fails : Bool)
  | enqueue (fails : Bool)
  | done
  /-- The Controller takes a heartbeat; all but its events and its Agent is part of the input. -/
  | receive (index : Nat) (now : Time) (heartbeat : Repair.Heartbeat)
  | lose (index : Nat)
  /-- The heartbeat of another Agent. -/
  | other (now : Time) (heartbeat : Repair.Heartbeat)
  /-- A task that is created by a request. -/
  | create (row : TaskRow)
  /-- The Agent is decommissioned: its pending tasks are cancelled. -/
  | decommission

variable {ρ : Type} (parties : Parties ρ)

/-- The maps of a state that has been saved, or empty ones. -/
def loadedState (stateFile : Option ActionState) : ActionState :=
  let state := stateFile.getD ⟨.empty, .empty, 0⟩
  { state with startCount := state.startCount + 1 }

/-- The transaction of a heartbeat, with the tasks that its answer carries. The rows that are
handed out can still be handed out afterwards. -/
def answerHeartbeat (now : Time) (db : Db ρ) (heartbeat : Repair.Heartbeat) :
    Except String (Db ρ × Option (List Task)) := do
  let after ← Repair.agentHeartbeat parties.controller now db heartbeat
  return (after, (Repair.deliverable heartbeat.agentID now after.tasks).mapM fun row =>
    Protocol.Signing.toAgent row.toAgentTask)

/-- Where the process goes on after an execution: a result of an action that has run is saved
before it is reported. -/
def Phase.afterExecution (memory : ActionState) (tasks : List Task) : Execution → Phase
  | .duplicate result | .refused result => .reporting memory result tasks
  | .ran _ result state host => if host.running then .saving state result tasks else .down

/-- The head of the tasks: one that does not verify is left out. -/
def System.handle (s : System ρ) (env : Surroundings) (host : Host) (memory : ActionState)
    (task : Task) (tasks : List Task) : System ρ :=
  match verifyTask task parties.verify env.now with
  | .error _ => { s with phase := .handling memory tasks }
  | .ok () =>
      let execution := execute parties.agent env memory task host
      -- what has run is neither saved nor reported yet
      { s with
        executions := s.executions ++ [(task, execution)]
        phase := .afterExecution memory tasks execution }

def System.take (s : System ρ) (index : Nat) (now : Time) (heartbeat : Repair.Heartbeat)
    (request : Request) : System ρ :=
  let heartbeat := { heartbeat with
    agentID := parties.agentID, events := request.events.map (eventOf parties.reading) }
  let s := { s with requests := s.requests.eraseIdx index }
  match answerHeartbeat parties now s.db heartbeat with
  -- the transaction is rolled back and nothing is answered
  | .error _ => s
  | .ok (after, tasks) => { s with
      db := after
      seen := s.seen ++ List.range' request.start request.events.length
      replies := s.replies ++ (tasks.map fun tasks => (request.number, tasks)).toList }

def step (s : System ρ) : Input → System ρ
  | .start fails =>
      match s.phase with
      | .down =>
          let memory := loadedState s.stateFile
          -- the constructor ignores that the state could not be saved
          { s with phase := .idle memory, stateFile := if fails then s.stateFile else some memory }
      | _ => s
  -- the files stay, what is only in memory is lost
  | .crash => { s with phase := .down }
  | .heartbeat fails =>
      match s.phase with
      | .idle memory =>
          let queue := Queue.step parties.maxBytes s.queue (.snapshot 100 fails)
          match queue.latest with
          | some events => { s with
              queue := queue
              phase := .waiting memory s.sent events.length
              sent := s.sent + 1
              requests := s.requests ++ [⟨s.sent, s.queue.account.first, events⟩] }
          | none => { s with queue := queue }
      | _ => s
  | .unreachable now summary fails =>
      match s.phase with
      | .waiting memory _ _ => { s with
          queue := Queue.step parties.maxBytes s.queue
            (.enqueue (heartbeatFailed now summary) fails)
          phase := .idle memory }
      | _ => s
  | .notAccepted =>
      match s.phase with
      | .waiting memory _ _ => { s with phase := .idle memory }
      | _ => s
  | .answer index =>
      match s.phase, s.replies[index]? with
      | .waiting memory number count, some (number', tasks) =>
          -- an answer to an earlier heartbeat reaches nobody: its connection is gone
          if number' = number then { s with phase := .answered memory count tasks } else s
      | _, _ => s
  | .ack fails =>
      match s.phase with
      | .answered memory count tasks => { s with
          queue := Queue.step parties.maxBytes s.queue (.ack count fails)
          phase := .handling memory tasks }
      | _ => s
  | .execute env host =>
      match s.phase with
      | .handling memory (task :: tasks) => s.handle parties env host memory task tasks
      | _ => s
  | .save fails =>
      match s.phase with
      | .saving memory result tasks => { s with
          stateFile := if fails then s.stateFile else some memory
          phase := .reporting memory result tasks }
      | _ => s
  | .enqueue fails =>
      match s.phase with
      | .reporting memory result tasks => { s with
          queue := Queue.step parties.maxBytes s.queue (.enqueue (report result) fails)
          phase := .handling memory tasks }
      | _ => s
  | .done =>
      match s.phase with
      | .handling memory [] => { s with phase := .idle memory }
      | _ => s
  | .receive index now heartbeat =>
      match s.requests[index]? with
      | some request => s.take parties index now heartbeat request
      | none => s
  | .lose index => { s with requests := s.requests.eraseIdx index }
  | .other now heartbeat =>
      if heartbeat.agentID = parties.agentID then s
      else { s with
        db := (Repair.agentHeartbeat parties.controller now s.db heartbeat).toOption.getD s.db }
  | .create row =>
      if row.id ∈ s.db.tasks.map (·.id) ∨ row.status ≠ .pending then s
      else { s with db := { s.db with tasks := s.db.tasks ++ [row] } }
  | .decommission =>
      { s with db := { s.db with tasks := s.db.tasks.map fun row =>
          if row.agentID = parties.agentID ∧ row.status = .pending then
            { row with status := .cancelled }
          else row } }

/-- The Agent before its first start. -/
def initial (db : Db ρ) : System ρ where
  db := db
  stateFile := none
  queue := Queue.initial
  phase := .down
  sent := 0
  requests := []
  replies := []
  executions := []
  seen := []

end VpsGuardian.Agent.Delivery
