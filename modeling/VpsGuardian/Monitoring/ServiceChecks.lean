import VpsGuardian.Controller.Records
import VpsGuardian.Lib.Trace
import VpsGuardian.Redaction.Text

/-!
Service checks: the monitor's passes over them (`monitoring.py`), and the Agents
that run the others and report in their heartbeats (`remote_checks.go`).

A pass is one transaction: it reads the rows at its start, probes one after the
other and commits at the end, with heartbeats in between. The alert that a result
is shown to is not part of the state here.
-/

namespace VpsGuardian.Monitoring.ServiceChecks

open Lib
open Controller (Time seconds)
open Redaction (Platform redactStructure)

inductive CheckResultStatus
  | ok
  | failed
  | unsupported
  | error
  deriving DecidableEq, Repr

/-- A row of `service_checks`. -/
structure ServiceCheck where
  id : String
  kind : String
  enabled : Bool
  runnerAgentID : Option String
  configuration : Json.Value
  intervalSeconds : Nat
  timeoutSeconds : Int
  lastCheckedAt : Option Time

structure ProbeResult where
  success : Bool
  checkedAt : Time
  latency : Json.Number
  evidence : Json.Value
  error : Option String
  status : CheckResultStatus

/-- A row of `service_check_results`. -/
structure ServiceCheckResult where
  checkID : String
  status : CheckResultStatus
  checkedAt : Time
  latency : Json.Number
  statusCode : Option Int
  message : Option String
  details : Json.Value

/-- What an Agent is told about a check. -/
structure RemoteCheck where
  id : String
  kind : String
  configuration : Json.Value
  timeoutSeconds : Int

/-- An entry of the services in a heartbeat. -/
structure ServiceItem where
  kind : String
  checkID : String
  status : String
  latency : Option Json.Number
  details : Option Json.Value
  message : Option String

/-- What running a check gave: its evidence, the error if there was one, and how long it took. -/
structure Outcome where
  details : Option Json.Value
  error : Option String
  latency : Json.Number

def zero : Json.Number := .ofInt 0

def member? (key : String) : Json.Value → Option Json.Value
  | .object members => members.lookup key
  | _ => none

/-! ### Results -/

/-- `int(value)` for the value of an `int`, which a truth value is. -/
def statusCode : Option Json.Value → Option Int
  | some (.number n) => n.toInt?
  | some (.bool b) => some (if b then 1 else 0)
  | _ => none

def truncated (limit : Nat) (text : String) : String := .ofList (text.toList.take limit)

/-- `text or None`. -/
def nonempty (text : String) : Option String := if text = "" then none else some text

section

variable (platform : Platform)

def detailsOf (evidence : Json.Value) : Json.Value :=
  match redactStructure platform evidence with
  | .object members => .object members
  | _ => .object []

/-- The record of `persist_check_result`. -/
def checkResult (check : ServiceCheck) (result : ProbeResult) : ServiceCheckResult where
  checkID := check.id
  status := if result.success then .ok
    else if result.status = .unsupported then .unsupported else .failed
  checkedAt := result.checkedAt
  latency := result.latency
  statusCode := statusCode (member? "status" (detailsOf platform result.evidence))
  message := (result.error.bind nonempty).map (truncated 512)
  details := detailsOf platform result.evidence

/-- The row of the check after its result. -/
def persist (checks : List ServiceCheck) (result : ServiceCheckResult) : List ServiceCheck :=
  checks.map fun check =>
    if check.id = result.checkID then { check with lastCheckedAt := some result.checkedAt }
    else check

/-! ### The Controller -/

/-- Whether the interval since the last result has passed. -/
def ServiceCheck.due (check : ServiceCheck) (now : Time) : Bool :=
  check.lastCheckedAt.all fun last => last + seconds check.intervalSeconds ≤ now

/-- The text of the error, where `probe_definition_from_check` raises one. -/
def definitionError (configurationError : Json.Value → Option String) (check : ServiceCheck) :
    Option String :=
  if check.kind ∈ ["http", "https", "tcp", "icmp"] then configurationError check.configuration
  else some "check kind must run on its selected agent"

/-- One check of a pass; `probed` is what `run_probe` gives. -/
def probe (configurationError : Json.Value → Option String) (now : Time) (check : ServiceCheck)
    (probed : ProbeResult) : ProbeResult :=
  match definitionError configurationError check with
  | some error => ⟨false, now, zero, .object [], some error, .unsupported⟩
  | none => probed

def assignedAgentChecks (checks : List ServiceCheck) (agentID : String) : List RemoteCheck :=
  (checks.filter fun check => check.enabled && check.runnerAgentID == some agentID).map
    fun check => ⟨check.id, check.kind, check.configuration, check.timeoutSeconds⟩

/-- The status of an item, and whether it is one of those an Agent may report. -/
def itemStatus (status : String) : CheckResultStatus :=
  if status = "ok" then .ok
  else if status = "failed" then .failed
  else if status = "unsupported" then .unsupported
  else .error

/-- The result of an item, if it is one of a check that the Agent runs. -/
def itemResult (checks : List ServiceCheck) (agentID : String) (now : Time) (item : ServiceItem) :
    Option ServiceCheckResult :=
  if item.kind ≠ "guardian_check_result" then none
  else
    (checks.find? fun check => check.id == item.checkID &&
      check.runnerAgentID == some agentID && check.enabled).map fun check =>
        let status := itemStatus item.status
        checkResult platform check {
          success := status = .ok
          checkedAt := now
          latency := item.latency.getD zero
          evidence := detailsOf platform (item.details.getD (.object []))
          error := nonempty (truncated 300 (item.message.getD ""))
          status := if status = .error then .failed else status }

def recordAgentCheckResults (checks : List ServiceCheck) (agentID : String)
    (services : List ServiceItem) (now : Time) : List ServiceCheck × List ServiceCheckResult :=
  (services.take 500).foldl (fun acc item =>
    match itemResult platform acc.1 agentID now item with
    | none => acc
    | some result => (persist acc.1 result, acc.2 ++ [result])) (checks, [])

end

/-! ### The Agent -/

def isIdentifierStart (c : Char) : Bool := c.isAlphanum

def isIdentifierChar (c : Char) : Bool := c.isAlphanum || ['_', '.', '@', '-'].contains c

/-- `identifierPattern`. -/
def isIdentifier (id : String) : Bool :=
  match id.toList with
  | [] => false
  | c :: rest => isIdentifierStart c && rest.length ≤ 127 && rest.all isIdentifierChar

/-- The reported status and message of an outcome. -/
def Outcome.report (outcome : Outcome) : String × Option String :=
  match outcome.error with
  | none => ("ok", none)
  | some error =>
      match outcome.details.bind (member? "unsupported") with
      | some (.bool true) => ("unsupported", some "probe is unsupported")
      | _ => ("failed", some error)

def runRemoteCheck (outcomes : RemoteCheck → Outcome) (check : RemoteCheck) : ServiceItem :=
  if isIdentifier check.id then
    let timeoutSeconds :=
      if check.timeoutSeconds < 1 ∨ 30 < check.timeoutSeconds then 5 else check.timeoutSeconds
    let outcome := outcomes { check with timeoutSeconds := timeoutSeconds }
    ⟨"guardian_check_result", check.id, outcome.report.1, some outcome.latency, outcome.details,
      outcome.report.2⟩
  else
    ⟨"guardian_check_result", check.id, "failed", none, none, some "check identity is invalid"⟩

def runRemoteChecks (outcomes : RemoteCheck → Outcome) (checks : List RemoteCheck) :
    List ServiceItem :=
  (checks.take 100).map (runRemoteCheck outcomes)

/-! ### The system -/

/-- A pass of the monitor: the rows it has still to look at, and the results so far. -/
structure Pass where
  now : Time
  waiting : List ServiceCheck
  records : List ServiceCheckResult

/-- `pending` is what each Agent was told last. -/
structure State where
  checks : List ServiceCheck
  pass : Option Pass
  pending : String → List RemoteCheck

/-- An item of `collectServices`. -/
structure LocalService where
  item : ServiceItem
  kind_ne : item.kind ≠ "guardian_check_result"

/-- What happens next. A probe takes some time from the start of the pass. A heartbeat that is
not `answered` is recorded, but its response does not reach the Agent. -/
inductive Input where
  | beginPass (now : Time)
  | probeNext (elapsed : Nat) (probed : ProbeResult)
  | commitPass
  | abortPass
  | heartbeat (agentID : String) (now : Time) (services : List LocalService)
      (outcomes : RemoteCheck → Outcome) (answered : Bool)
  | restartAgent (agentID : String)
  | deleteAgent (agentID : String)
  | createServiceCheck (check : ServiceCheck)
  | updateServiceCheck (id : String) (enabled : Option Bool) (intervalSeconds : Option Nat)
  | deleteServiceCheck (id : String)

/-- The ids of a pass. -/
def Pass.ids (pass : Pass) : List String :=
  pass.waiting.map (·.id) ++ pass.records.map (·.checkID)

/-- The pass has written the row, so a change of it waits for the end of the pass. -/
def State.locked (s : State) (id : String) : Bool :=
  s.pass.any fun pass => pass.records.any (·.checkID == id)

section

variable (platform : Platform) (configurationError : Json.Value → Option String)

def State.beginPass (s : State) (now : Time) : State :=
  if s.pass.isSome then s
  else
    let waiting := s.checks.filter fun check => check.enabled && check.runnerAgentID == none
    { s with pass := some ⟨now, waiting, []⟩ }

/-- The next row of a pass: skipped if it is not due, else probed. The pass fails if the row is
gone when the result is to be written. -/
def State.probeNext (s : State) (elapsed : Nat) (probed : ProbeResult) : State :=
  match s.pass with
  | none => s
  | some ⟨_, [], _⟩ => s
  | some ⟨now, check :: waiting, records⟩ =>
      if check.due now = false then { s with pass := some ⟨now, waiting, records⟩ }
      else if s.checks.any (·.id == check.id) = false then { s with pass := none }
      else
        let result := probe configurationError now check
          { probed with checkedAt := now + elapsed }
        { s with pass := some ⟨now, waiting, records ++ [checkResult platform check result]⟩ }

def State.commitPass (s : State) : State × List ServiceCheckResult :=
  match s.pass with
  | some ⟨_, [], records⟩ => ({ s with
      checks := records.foldl persist s.checks
      pass := none }, records)
  | _ => (s, [])

/-- The services of a heartbeat. -/
def State.services (s : State) (agentID : String) (services : List LocalService)
    (outcomes : RemoteCheck → Outcome) : List ServiceItem :=
  services.map (·.item) ++ runRemoteChecks outcomes (s.pending agentID)

def State.heartbeat (s : State) (agentID : String) (now : Time) (services : List LocalService)
    (outcomes : RemoteCheck → Outcome) (answered : Bool) : State × List ServiceCheckResult :=
  let recorded := recordAgentCheckResults platform s.checks agentID
    (s.services agentID services outcomes) now
  let pending := if answered
    then Function.update s.pending agentID (assignedAgentChecks recorded.1 agentID) else s.pending
  ({ s with
    checks := recorded.1
    pending := pending }, recorded.2)

/-- The runner of a check is set to null with its Agent. -/
def State.deleteAgent (s : State) (agentID : String) : State :=
  { s with checks := s.checks.map fun check =>
      if check.runnerAgentID = some agentID then { check with runnerAgentID := none } else check }

/-- A new check has an id of its own and no result. -/
def State.createServiceCheck (s : State) (check : ServiceCheck) : State :=
  if check.id ∈ s.checks.map (·.id) ++ (s.pass.map Pass.ids).getD [] then s
  else { s with checks := s.checks ++ [{ check with lastCheckedAt := none }] }

def State.updateServiceCheck (s : State) (id : String) (enabled : Option Bool)
    (intervalSeconds : Option Nat) : State :=
  if s.locked id then s
  else { s with checks := s.checks.map fun check =>
    if check.id = id then { check with
      enabled := enabled.getD check.enabled
      intervalSeconds := intervalSeconds.getD check.intervalSeconds }
    else check }

def State.deleteServiceCheck (s : State) (id : String) : State :=
  if s.locked id then s else { s with checks := s.checks.filter fun check => check.id != id }

/-- A step, with the results it records. -/
def step (s : State) : Input → State × List ServiceCheckResult
  | .beginPass now => (s.beginPass now, [])
  | .probeNext elapsed probed => (s.probeNext platform configurationError elapsed probed, [])
  | .commitPass => s.commitPass
  | .abortPass => ({ s with pass := none }, [])
  | .heartbeat agentID now services outcomes answered =>
      s.heartbeat platform agentID now services outcomes answered
  | .restartAgent agentID => ({ s with pending := Function.update s.pending agentID [] }, [])
  | .deleteAgent agentID => (s.deleteAgent agentID, [])
  | .createServiceCheck check => (s.createServiceCheck check, [])
  | .updateServiceCheck id enabled intervalSeconds =>
      (s.updateServiceCheck id enabled intervalSeconds, [])
  | .deleteServiceCheck id => (s.deleteServiceCheck id, [])

end

end VpsGuardian.Monitoring.ServiceChecks
