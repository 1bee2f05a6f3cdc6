import VpsGuardian.Controller.AgentSecurity
import VpsGuardian.Lib.Run

/-!
Enrollment tokens (`enrollment.py` and the handlers that use it).

A token is one row that serves as credential and as the session whose progress the installer
reports. The functions work on rows; a handler writes what they return and commits unless a
constraint of the tables is broken.
-/

namespace VpsGuardian.Enrollment

open Lib
open Controller (Time minutes)

inductive EnrollmentStatus
  | waiting
  | installerDownloaded
  | installerVerified
  | prerequisitesChecked
  | agentDownloaded
  | agentVerified
  | localKeyGenerated
  | csrSubmitted
  | certificateIssued
  | serviceInstalled
  | serviceStarted
  | heartbeatReceived
  | completed
  | failed
  | expired
  | revoked
  deriving DecidableEq, Repr

namespace EnrollmentStatus

def value : EnrollmentStatus → String
  | waiting => "waiting"
  | installerDownloaded => "installer_downloaded"
  | installerVerified => "installer_verified"
  | prerequisitesChecked => "prerequisites_checked"
  | agentDownloaded => "agent_downloaded"
  | agentVerified => "agent_verified"
  | localKeyGenerated => "local_key_generated"
  | csrSubmitted => "csr_submitted"
  | certificateIssued => "certificate_issued"
  | serviceInstalled => "service_installed"
  | serviceStarted => "service_started"
  | heartbeatReceived => "heartbeat_received"
  | completed => "completed"
  | failed => "failed"
  | expired => "expired"
  | revoked => "revoked"

/-- `ENROLLMENT_STEPS` -/
def steps : List EnrollmentStatus :=
  [waiting, installerDownloaded, installerVerified, prerequisitesChecked, agentDownloaded,
    agentVerified, localKeyGenerated, csrSubmitted, certificateIssued, serviceInstalled,
    serviceStarted, heartbeatReceived, completed]

/-- `ENROLLMENT_SEQUENCE` -/
def sequence? (status : EnrollmentStatus) : Option Nat := steps.idxOf? status

/-- `TERMINAL_STATUSES` -/
def terminal : EnrollmentStatus → Bool
  | completed | failed | expired | revoked => true
  | _ => false

/-- `INSTALLER_PROGRESS_STEPS` -/
def installerProgressSteps : List EnrollmentStatus := (steps.drop 1).take 7

/-- `POST_BOOTSTRAP_PROGRESS_STEPS` -/
def postBootstrapProgressSteps : List EnrollmentStatus := [serviceInstalled, serviceStarted]

end EnrollmentStatus

structure EnrollmentToken where
  id : String
  hostID : String
  tokenHash : String
  progressTokenHash : Option String
  createdAt : Time
  expiresAt : Time
  usedAt : Option Time
  revokedAt : Option Time
  completedAt : Option Time
  status : EnrollmentStatus
  statusSequence : Nat
  sourceCIDR : Option String
  errorCode : Option String
  errorStep : Option String
  errorSummary : Option String
  rolledBack : Bool
  deriving DecidableEq, Repr

structure EnrollmentEvent where
  enrollmentID : String
  status : EnrollmentStatus
  statusSequence : Nat
  deriving DecidableEq, Repr

/-- A host, and whether it has an Agent that is not revoked. -/
structure Host where
  id : String
  enabled : Bool
  agentActive : Bool
  deriving DecidableEq, Repr

structure Db where
  clock : Time
  hosts : List Host
  tokens : List EnrollmentToken
  events : List EnrollmentEvent
  deriving DecidableEq, Repr

/-- The hash of the credentials, and addresses and networks as `ipaddress` reads them. -/
structure Settings where
  tokenDigest : String → String
  /-- `str(ip_network(value, strict=False))` -/
  network : String → Option String
  inNetwork : String → String → Bool

/-- `_record_event`, once the row has its new status. -/
def EnrollmentToken.event (token : EnrollmentToken) : EnrollmentEvent :=
  ⟨token.id, token.status, token.statusSequence⟩

namespace Db

def initial (clock : Time) (hosts : List Host) : Db := ⟨clock, hosts, [], []⟩

def host? (db : Db) (hostID : String) : Option Host := Table.lookup (·.id) hostID db.hosts

def token? (db : Db) (tokenID : String) : Option EnrollmentToken :=
  Table.lookup (·.id) tokenID db.tokens

def putHost (db : Db) (host : Host) : Db := { db with hosts := Table.put (·.id) host db.hosts }

/-- Writes a row back, with the events recorded on the way. -/
def save (db : Db) (token : EnrollmentToken) (events : List EnrollmentEvent) : Db :=
  { db with tokens := Table.put (·.id) token db.tokens, events := db.events ++ events }

/-- The unique constraints of the tables. -/
structure Constraints (db : Db) : Prop where
  ids : (db.tokens.map (·.id)).Nodup
  tokenHashes : (db.tokens.map (·.tokenHash)).Nodup
  progressTokenHashes : (db.tokens.filterMap (·.progressTokenHash)).Nodup
  events : (db.events.map fun event => (event.enrollmentID, event.status)).Nodup

instance (db : Db) : Decidable db.Constraints :=
  decidable_of_iff
    ((db.tokens.map (·.id)).Nodup ∧ (db.tokens.map (·.tokenHash)).Nodup ∧
      (db.tokens.filterMap (·.progressTokenHash)).Nodup ∧
      (db.events.map fun event => (event.enrollmentID, event.status)).Nodup)
    ⟨fun h => ⟨h.1, h.2.1, h.2.2.1, h.2.2.2⟩, fun h => ⟨h.1, h.2, h.3, h.4⟩⟩

end Db

/-! ### Progress -/

def advanceEnrollment (token : EnrollmentToken) (status : EnrollmentStatus) (occurredAt : Time)
    (allowCompletion : Bool) : Except String (EnrollmentToken × List EnrollmentEvent) := do
  let target ← orRaise status.sequence? "invalid enrollment progress state"
  raiseIf (status = .completed ∧ !allowCompletion) "completed requires an authenticated heartbeat"
  raiseIf token.status.terminal "enrollment session is no longer active"
  raiseIf (target < token.statusSequence) "enrollment progress cannot move backwards"
  if target = token.statusSequence then return (token, [])
  else
    let advanced := { token with
      status := status
      statusSequence := target
      completedAt := if status = .completed then some occurredAt else token.completedAt }
    return (advanced, [advanced.event])

/-- `value[:length]` -/
def truncate (length : Nat) (value : String) : String := .ofList (value.toList.take length)

/-- What a failure says. -/
structure Failure where
  errorCode : String
  errorSummary : String
  rolledBack : Bool
  deriving DecidableEq, Repr

def failEnrollment (token : EnrollmentToken) (failure : Failure) (errorStep : String) :
    Except String (EnrollmentToken × List EnrollmentEvent) := do
  raiseIf (token.status = .completed ∨ token.status = .revoked ∨ token.status = .expired)
    "enrollment session is no longer active"
  let failed := { token with
    status := .failed
    errorCode := some (truncate 64 failure.errorCode)
    errorStep := some (truncate 32 errorStep)
    errorSummary := some (truncate 240 failure.errorSummary)
    rolledBack := failure.rolledBack
    progressTokenHash := none }
  return (failed, [failed.event])

/-! ### Issue and revocation -/

/-- What an operator asks for, and the identifiers drawn for the new token. -/
structure EnrollmentTokenIssue where
  ttl : Time
  sourceCIDR : Option String
  osFamily : String
  revokeExisting : Bool
  tokenID : String
  value : String
  deriving DecidableEq, Repr

def osFamilies : List String := ["auto", "debian", "rhel", "fedora", "alpine", "generic"]

def normalizeSourceCIDR (settings : Settings) (value : Option String) :
    Except String (Option String) :=
  match value with
  | none => .ok none
  | some value =>
      let stripped := Controller.strip value.toList
      if stripped = [] then .ok none
      else do
        let network ← orRaise (settings.network (.ofList stripped))
          "enrollment source CIDR is invalid"
        return some network

/-- The checks before a token is issued, with the network it is bound to. -/
def checkIssue (settings : Settings) (host : Host) (payload : EnrollmentTokenIssue) :
    Except String (Option String) := do
  raiseIf (payload.ttl < minutes 1 ∨ minutes (24 * 60) < payload.ttl)
    "enrollment token lifetime is outside the allowed range"
  raiseIf host.agentActive "host already has an active agent"
  raiseIf (payload.osFamily ∉ osFamilies) "unsupported enrollment operating system family"
  normalizeSourceCIDR settings payload.sourceCIDR

/-- The query for the tokens that a new one replaces. -/
def EnrollmentToken.replaceable (token : EnrollmentToken) (hostID : String) (now : Time) : Bool :=
  token.hostID = hostID ∧ token.usedAt = none ∧ token.revokedAt = none ∧ now < token.expiresAt

def EnrollmentToken.revoke (token : EnrollmentToken) (now : Time) : EnrollmentToken :=
  { token with revokedAt := some now, status := .revoked }

/-- The row `issue_enrollment_token` adds. -/
def newToken (settings : Settings) (hostID : String) (payload : EnrollmentTokenIssue)
    (sourceCIDR : Option String) (now : Time) : EnrollmentToken where
  id := payload.tokenID
  hostID := hostID
  tokenHash := settings.tokenDigest payload.value
  progressTokenHash := none
  createdAt := now
  expiresAt := now + payload.ttl
  usedAt := none
  revokedAt := none
  completedAt := none
  status := .waiting
  statusSequence := 0
  sourceCIDR := sourceCIDR
  errorCode := none
  errorStep := none
  errorSummary := none
  rolledBack := false

def issueEnrollmentToken (settings : Settings) (db : Db) (host : Host)
    (payload : EnrollmentTokenIssue) : Except String Db := do
  let sourceCIDR ← checkIssue settings host payload
  let replaced := fun token => payload.revokeExisting && token.replaceable host.id db.clock
  let token := newToken settings host.id payload sourceCIDR db.clock
  return { db with
    tokens := (db.tokens.map fun previous =>
      if replaced previous then previous.revoke db.clock else previous) ++ [token]
    events := db.events ++
      ((db.tokens.filter replaced).map fun previous => (previous.revoke db.clock).event) ++
      [token.event] }

def revokeEnrollmentToken (db : Db) (tokenID hostID : String) : Except String Db := do
  let token ← orRaise ((db.token? tokenID).filter fun token => token.hostID = hostID)
    "enrollment token not found"
  raiseIf token.usedAt.isSome "used enrollment token cannot be revoked"
  if token.revokedAt = none then
    let revoked := token.revoke db.clock
    return db.save revoked [revoked.event]
  else return db

/-! ### Credentials -/

def sourceAllowed (settings : Settings) (token : EnrollmentToken) (sourceIP : String) : Bool :=
  token.sourceCIDR.all (settings.inNetwork sourceIP)

def authenticateEnrollmentToken (settings : Settings) (db : Db) (value : String)
    (expectedHostID sourceIP : Option String) : Except String EnrollmentToken := do
  let token ← orRaise (Table.lookup (·.tokenHash) (settings.tokenDigest value) db.tokens)
    "invalid enrollment token"
  raiseIf token.usedAt.isSome "enrollment token was already used"
  raiseIf token.revokedAt.isSome "enrollment token was revoked"
  raiseIf (token.status = .failed) "enrollment session failed and must be regenerated"
  raiseIf (token.expiresAt ≤ db.clock) "enrollment token expired"
  raiseIf (!(db.host? token.hostID).any (·.enabled)) "enrollment target is unavailable"
  raiseIf (expectedHostID.any (· ≠ token.hostID)) "enrollment token host mismatch"
  raiseIf (sourceIP.any (!sourceAllowed settings token ·)) "enrollment source is not allowed"
  return token

def issueProgressToken (settings : Settings) (token : EnrollmentToken) (value : String) :
    Except String EnrollmentToken := do
  raiseIf (token.usedAt = none ∨ token.status ≠ .certificateIssued)
    "progress credential requires a completed bootstrap"
  return { token with progressTokenHash := some (settings.tokenDigest value) }

def authenticateProgressToken (settings : Settings) (db : Db) (value : String)
    (sourceIP : Option String) : Except String EnrollmentToken := do
  let token ← orRaise
    (Table.lookup (·.progressTokenHash) (some (settings.tokenDigest value)) db.tokens)
    "invalid enrollment progress credential"
  raiseIf (token.revokedAt.isSome ∨ token.status.terminal) "enrollment session is no longer active"
  raiseIf (token.expiresAt ≤ db.clock) "enrollment progress credential expired"
  raiseIf (!(db.host? token.hostID).any (·.enabled)) "enrollment target is unavailable"
  raiseIf (sourceIP.any (!sourceAllowed settings token ·)) "enrollment source is not allowed"
  return token

/-- `ENROLLMENT_STEPS[status_sequence + 1 : ENROLLMENT_SEQUENCE["csr_submitted"] + 1]` -/
def skippedSteps (token : EnrollmentToken) : List EnrollmentStatus :=
  (EnrollmentStatus.steps.take 8).drop (token.statusSequence + 1)

def consumeEnrollmentToken (settings : Settings) (db : Db) (value : String)
    (expectedHostID sourceIP : Option String) :
    Except String (EnrollmentToken × List EnrollmentEvent) := do
  let token ← authenticateEnrollmentToken settings db value expectedHostID sourceIP
  raiseIf (token.usedAt.isSome ∨ token.revokedAt.isSome ∨ token.expiresAt ≤ db.clock)
    "enrollment token was already used"
  (skippedSteps token).foldlM (fun (token, events) status => do
    let (token, event) ← advanceEnrollment token status db.clock false
    return (token, events ++ event)) ({ token with usedAt := some db.clock }, [])

/-- The steps an authenticated heartbeat takes a session through. -/
def completionSteps : List EnrollmentStatus :=
  [.certificateIssued, .serviceInstalled, .serviceStarted, .heartbeatReceived, .completed]

/-- The token a heartbeat of the host completes. -/
def completedToken? (db : Db) (hostID : String) : Option EnrollmentToken :=
  let candidates := db.tokens.filter fun token => token.hostID = hostID ∧ token.usedAt.isSome ∧
    token.revokedAt = none ∧ token.completedAt = none
  (candidates.insertionSort fun a b => b.createdAt ≤ a.createdAt).head?.filter
    fun token => token.status ≠ .failed

def completeHostEnrollment (db : Db) (hostID : String) : Except String Db :=
  match completedToken? db hostID with
  | none => .ok db
  | some token => do
      let (completed, events) ← completionSteps.foldlM (fun (token, events) status => do
        if token.statusSequence < status.sequence?.getD 0 then
          let (token, event) ← advanceEnrollment token status db.clock (status = .completed)
          return (token, events ++ event)
        else return (token, events)) (token, [])
      return db.save { completed with progressTokenHash := none } events

/-! ### Requests -/

structure EnrollmentProgressReport where
  status : EnrollmentStatus
  errorCode : Option String
  errorSummary : Option String
  rolledBack : Bool
  deriving DecidableEq, Repr

/-- Whether an optional text is given and not empty. -/
def given (text : Option String) : Bool := text.any (· ≠ "")

/-- The token of a report, and the steps its credential may report. -/
def reportedToken (settings : Settings) (db : Db) (enrollmentToken progressToken : Option String)
    (source : String) : Except String (EnrollmentToken × List EnrollmentStatus) :=
  if given progressToken then do
    let token ← authenticateProgressToken settings db (progressToken.getD "") source
    return (token, EnrollmentStatus.postBootstrapProgressSteps)
  else do
    let token ← authenticateEnrollmentToken settings db (enrollmentToken.getD "") none source
    return (token, EnrollmentStatus.installerProgressSteps)

def reportEnrollmentProgress (settings : Settings) (db : Db)
    (enrollmentToken progressToken : Option String) (source : String)
    (payload : EnrollmentProgressReport) : Except String Db := do
  raiseIf (given enrollmentToken = given progressToken) "invalid enrollment credential"
  let (token, allowedSteps) ← reportedToken settings db enrollmentToken progressToken source
  if payload.status = .failed then
    raiseIf (!given payload.errorCode ∨ !given payload.errorSummary)
      "failed progress requires a safe error summary"
    let (failed, events) ← failEnrollment token
      ⟨payload.errorCode.getD "", payload.errorSummary.getD "", payload.rolledBack⟩
      token.status.value
    return db.save failed events
  else
    raiseIf (payload.status ∉ allowedSteps) "installer cannot report this progress state"
    let (advanced, events) ← advanceEnrollment token payload.status db.clock false
    return db.save advanced events

/-- The host of a consumed token gets its Agent. -/
def activateAgent (db : Db) (hostID : String) : Except String Db := do
  let host ← orRaise (db.host? hostID) "enrollment target is unavailable"
  raiseIf host.agentActive "host already has an active agent"
  return db.putHost { host with agentActive := true }

/-- `bootstrap_agent`, whose certificate is issued on the way. -/
def bootstrapAgent (settings : Settings) (db : Db) (value hostID source progress : String) :
    Except String (String × Db) := do
  let (token, events) ← consumeEnrollmentToken settings db value (some hostID) (some source)
  let activated ← activateAgent db token.hostID
  let (token, issued) ← advanceEnrollment token .certificateIssued db.clock false
  let token ← issueProgressToken settings token progress
  return (token.id, activated.save token (events ++ issued))

/-- `enroll_agent` under a one-time token. -/
def enrollAgent (settings : Settings) (db : Db) (value : String) : Except String (String × Db) := do
  let (token, events) ← consumeEnrollmentToken settings db value none none
  let activated ← activateAgent db token.hostID
  return (token.id, activated.save token events)

inductive Operation
  /-- What other handlers write to the row of a host. -/
  | writeHost (host : Host)
  | issue (hostID : String) (payload : EnrollmentTokenIssue)
  | report (enrollmentToken progressToken : Option String) (source : String)
      (payload : EnrollmentProgressReport)
  | bootstrap (value hostID source progress : String)
  | enroll (value : String)
  | fail (tokenID : String) (failure : Failure) (errorStep : String)
  | revoke (tokenID hostID : String)
  | complete (hostID : String)
  deriving DecidableEq, Repr

/-- The token that an operation consumes, and the tables after it. -/
def transaction (settings : Settings) (db : Db) : Operation → Except String (Option String × Db)
  | .writeHost host =>
      .ok (none, { db with hosts := (db.hosts.filter (·.id ≠ host.id)) ++ [host] })
  | .issue hostID payload => do
      let host ← orRaise (db.host? hostID) "host not found"
      let db ← issueEnrollmentToken settings db host payload
      return (none, db)
  | .report enrollmentToken progressToken source payload => do
      let db ← reportEnrollmentProgress settings db enrollmentToken progressToken source payload
      return (none, db)
  | .bootstrap value hostID source progress => do
      let (tokenID, db) ← bootstrapAgent settings db value hostID source progress
      return (some tokenID, db)
  | .enroll value => do
      let (tokenID, db) ← enrollAgent settings db value
      return (some tokenID, db)
  | .fail tokenID failure errorStep => do
      let token ← orRaise (db.token? tokenID) "enrollment token not found"
      let (failed, events) ← failEnrollment token failure errorStep
      return (none, db.save failed events)
  | .revoke tokenID hostID => do
      let db ← revokeEnrollmentToken db tokenID hostID
      return (none, db)
  | .complete hostID => do
      let db ← completeHostEnrollment db hostID
      return (none, db)

/-- An operation, the time since the one before, and whether what its handler checks beside the
tables (permissions, limits, certificates) lets it commit. -/
structure Input where
  elapsed : Nat
  accepted : Bool
  operation : Operation
  deriving DecidableEq, Repr

def Db.arrive (db : Db) (input : Input) : Db := { db with clock := db.clock + input.elapsed }

/-- The token that an input consumes, and the database it leaves. -/
def serve (settings : Settings) (db : Db) (input : Input) : Option String × Db :=
  match transaction settings (db.arrive input) input.operation with
  | .ok (consumed, db') =>
      if input.accepted ∧ db'.Constraints then (consumed, db') else (none, db.arrive input)
  | .error _ => (none, db.arrive input)

def step (settings : Settings) (db : Db) (input : Input) : Db := (serve settings db input).2

end VpsGuardian.Enrollment
