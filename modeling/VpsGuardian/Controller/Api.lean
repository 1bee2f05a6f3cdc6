import VpsGuardian.Lib.Run
import VpsGuardian.Controller.Identities
import VpsGuardian.Controller.Maintenance

/-!
The handlers of maintenance sessions, and the Controller as a state machine that
serves one operation after the other, each at a time of its own.
-/

namespace VpsGuardian.Controller

open Lib

/-! ### Maintenance sessions -/

inductive ApprovalStatus
  | pending
  | approved
  | partiallyApproved
  | approvedWithConditions
  | changesRequested
  | rejected
  | dryRunOnly
  | executing
  | executed
  | failed
  | rolledBack
  | expired
  | withdrawn
  deriving DecidableEq, Repr

structure Approval where
  status : ApprovalStatus
  actionName : String
  targetHostID : Option String
  requestedBy : Option String
  decidedBy : Option String
  deriving DecidableEq, Repr

/-- An independent approval to decommission the host. -/
def Approval.permitsDecommission (approval : Approval) (hostID : String) : Bool :=
  (approval.status = .approved ∨ approval.status = .approvedWithConditions) ∧
    approval.actionName = "agent.decommission" ∧ approval.targetHostID = some hostID ∧
    approval.requestedBy.isSome ∧ approval.decidedBy.isSome ∧
    approval.requestedBy ≠ approval.decidedBy

def createAgentMaintenanceSession (settings : Settings) (db : Db) (hostID : String)
    (payload : AgentMaintenanceIssue) (approval : Option Approval) : Transaction := do
  let host ← orRaise (db.host? hostID) ⟨404, "managed Agent not found"⟩
  let record ← orRaise (db.hostAgent? hostID) ⟨404, "managed Agent not found"⟩
  raiseIf (payload.kind = .decommission ∧
    payload.confirmation ≠ some ("DECOMMISSION " ++ host.name))
    ⟨409, "decommission confirmation mismatch"⟩
  raiseIf (payload.kind = .decommission ∧ !approval.any (·.permitsDecommission host.id))
    ⟨409, "independently approved host-bound decommission is required"⟩
  let (session, db) ← (issueMaintenanceSession settings db host record payload).mapError (⟨409, ·⟩)
  raiseIf (!settings.oneCommandInstallEnabled)
    ⟨409, "Agent maintenance commands are not enabled"⟩
  commit db (.ok (.maintenanceToken session.id)) internalServerError

structure AgentMaintenanceStart where
  kind : AgentMaintenanceKind
  credential : String
  sourceIP : String
  fingerprintHeader : Option String
  serialHeader : Option String
  /-- The progress credential drawn for the session. -/
  progress : String
  deriving DecidableEq, Repr

/-- The certificate a session is started with; outside production it defaults to
the certificate of the session's identity. -/
def maintenanceCertificate (settings : Settings) (request : AgentRequest)
    (payload : AgentMaintenanceStart) (identity : AgentIdentity) :
    Except HTTPException (String × String) :=
  if settings.production then trustedClientCertificateIdentity request
  else do
    let fingerprint ← orRaise (normalizeCertificateFingerprint
      (payload.fingerprintHeader.getD identity.certificateFingerprint)) internalServerError
    let serial ← orRaise (normalizeCertificateSerial
      (payload.serialHeader.getD (identity.certificateSerial.getD "0"))) internalServerError
    return (fingerprint, serial)

def startAgentMaintenance (settings : Settings) (db : Db) (payload : AgentMaintenanceStart)
    (request : AgentRequest) : Transaction := do
  raiseIf (payload.credential = "") ⟨401, "invalid maintenance credential"⟩
  let session ← (consumeMaintenanceSession settings db payload.credential payload.progress
    payload.sourceIP payload.kind).mapError (⟨401, ·⟩)
  let record ← orRaise (db.record? session.agentID) ⟨409, "maintenance identity is unavailable"⟩
  let identity ← orRaise (db.identity? (session.oldIdentityID.getD ""))
    ⟨409, "maintenance identity is unavailable"⟩
  let (fingerprint, serial) ← maintenanceCertificate settings request payload identity
  raiseIf (fingerprint ≠ identity.certificateFingerprint ∨
      identity.certificateSerial.any (· ≠ serial)) ⟨401, "maintenance certificate mismatch"⟩
  commit (db.putSession session)
    (.ok (.maintenanceStarted session.id record.id session.expectedIdentityVersion))
    internalServerError

structure AgentMaintenanceProgress where
  kind : AgentMaintenanceKind
  credential : String
  status : MaintenanceStatus
  errorSummary : Option String
  deriving DecidableEq, Repr

/-- Whether an identity has taken the place of the session's one. -/
def observeRotation (record : AgentRecord) (session : AgentMaintenanceSession) :
    Except String AgentMaintenanceSession := do
  raiseIf (record.agent.identityVersion ≤ session.expectedIdentityVersion)
    "new identity generation has not been observed"
  let active ← orRaise (record.inState .active).head? "new active identity is not verified"
  raiseIf (some active.id = session.oldIdentityID) "new active identity is not verified"
  return { session with newIdentityID := some active.id }

/-- Whether the Agent has come back since the session started. -/
def observeHeartbeat (record : Option AgentRecord) (session : AgentMaintenanceSession)
    (kind : AgentMaintenanceKind) : Except String AgentMaintenanceSession := do
  let record ← orRaise record "Controller has not observed a post-change heartbeat"
  let heartbeat ← orRaise record.agent.lastHeartbeatAt
    "Controller has not observed a post-change heartbeat"
  let sessionStarted ← orRaise session.usedAt "maintenance session has not started"
  raiseIf (heartbeat ≤ sessionStarted) "post-change heartbeat is not newer than session start"
  match kind with
  | .reinstall | .rotateIdentity => observeRotation record session
  | .repair | .decommission => return session

/-- What the session takes down before it advances. -/
def observeProgress (db : Db) (session : AgentMaintenanceSession)
    (payload : AgentMaintenanceProgress) : Except String AgentMaintenanceSession :=
  if payload.status = .heartbeatVerified then
    observeHeartbeat (db.record? session.agentID) session payload.kind
  else .ok session

def maintenanceProgress (settings : Settings) (db : Db) (payload : AgentMaintenanceProgress) :
    Except String AgentMaintenanceSession := do
  let session ← authenticateMaintenanceProgress settings db payload.credential payload.kind
  let observed ← observeProgress db session payload
  raiseIf (payload.status = .completed ∧ payload.kind ≠ .repair)
    "this maintenance kind requires Controller finalization"
  advanceMaintenance observed payload.status payload.errorSummary

def reportAgentMaintenanceProgress (settings : Settings) (db : Db)
    (payload : AgentMaintenanceProgress) : Transaction := do
  raiseIf (payload.credential = "") ⟨401, "invalid maintenance progress credential"⟩
  let session ← (maintenanceProgress settings db payload).mapError (⟨409, ·⟩)
  commit (db.putSession session) (.ok .accepted) internalServerError

structure AgentMaintenanceFinalize where
  confirmation : String
  expectedIdentityVersion : Nat
  crlNumber : Option Nat
  crlSHA256 : Option String
  deriving DecidableEq, Repr

/-- The decommission branch of the finalization: the session's identity and the
Agent are revoked and the host is disabled. -/
def decommission (db : Db) (host : Host) (session : AgentMaintenanceSession)
    (payload : AgentMaintenanceFinalize) : Except HTTPException Db := do
  let identity ← orRaise (db.identity? (session.oldIdentityID.getD ""))
    ⟨409, "decommission requires CRL evidence"⟩
  let crlNumber ← orRaise payload.crlNumber ⟨409, "decommission requires CRL evidence"⟩
  let crlSHA256 ← orRaise payload.crlSHA256 ⟨409, "decommission requires CRL evidence"⟩
  requireMatchingCRLPublication db ⟨payload.expectedIdentityVersion, crlNumber, crlSHA256⟩
    identity.certificateSerial
  let revoked := db.putIdentity { identity with state := .revoked }
  let record ← orRaise (revoked.record? session.agentID) ⟨409, "Agent not found"⟩
  return (revoked.putRecord { record with agent := { record.agent with
    revokedAt := some db.clock } }).putHost { host with enabled := false }

/-- The branch of the other finalizations. -/
def requireRevokedIdentity (db : Db) (session : AgentMaintenanceSession) :
    Except HTTPException Unit := do
  let old ← orRaise (db.identity? (session.oldIdentityID.getD ""))
    ⟨409, "old identity has not entered retirement"⟩
  raiseIf (old.state ≠ .retiring ∧ old.state ≠ .revoked)
    ⟨409, "old identity has not entered retirement"⟩
  raiseIf (old.state ≠ .revoked)
    ⟨409, "old identity must be CRL-published and revoked before finalization"⟩

/-- What a finalization does beside completing the session. -/
def finalization (db : Db) (host : Host) (session : AgentMaintenanceSession)
    (payload : AgentMaintenanceFinalize) : Except HTTPException Db :=
  match session.kind with
  | .decommission => decommission db host session payload
  | .reinstall | .rotateIdentity => do
      requireRevokedIdentity db session
      return db
  | .repair => .ok db

def finalizeAgentMaintenance (db : Db) (hostID sessionID : String)
    (payload : AgentMaintenanceFinalize) : Transaction := do
  let host ← orRaise (db.host? hostID) ⟨404, "maintenance session not found"⟩
  let session ← orRaise (db.session? sessionID) ⟨404, "maintenance session not found"⟩
  raiseIf (session.hostID ≠ host.id) ⟨404, "maintenance session not found"⟩
  raiseIf (session.status ≠ .confirmationPending)
    ⟨409, "maintenance is not ready for finalization"⟩
  raiseIf (payload.confirmation ≠ "FINALIZE " ++ host.name)
    ⟨409, "finalization confirmation mismatch"⟩
  let record ← orRaise (db.record? session.agentID) ⟨409, "Agent not found"⟩
  raiseIf (record.agent.identityVersion ≠ payload.expectedIdentityVersion)
    ⟨409, "stale Agent identity version"⟩
  let finalized ← finalization db host session payload
  let session ← (advanceMaintenance session .completed none).mapError fun _ => internalServerError
  commit (finalized.putSession session) (.ok (.maintenance session)) internalServerError

/-! ### The Controller -/

inductive Operation
  | createHost (host : Host)
  | setHostEnabled (hostID : String) (enabled : Bool)
  | publishCRL (publication : CRLPublication)
  | enrollAgent (token : EnrollmentToken) (request : AgentRequest) (payload : AgentEnrollRequest)
      (ids : EnrollmentIDs)
  | bootstrapAgent (token : EnrollmentToken) (payload : AgentBootstrapRequest)
      (ids : EnrollmentIDs)
  | prepareAgentIdentity (agentID : String) (payload : AgentRotateRequest)
  | activateAgentIdentity (agentID identityID : String) (expectedVersion : Nat)
  | retirePendingAgentIdentity (agentID identityID : String) (expectedVersion : Nat)
  | validatePendingAgentIdentity (agentID identityID : String) (expectedVersion : Nat)
      (request : AgentRequest)
  | renewAgentCertificate (agentID : String) (payload : AgentRenewRequest) (request : AgentRequest)
  | agentHeartbeat (agentID : String) (request : AgentRequest)
  | revokeRetiringAgentIdentity (agentID identityID : String)
      (payload : AgentIdentityRevokeRequest)
  | revokeAgent (agentID : String) (payload : AgentIdentityRevokeRequest)
  | createAgentMaintenanceSession (hostID : String) (payload : AgentMaintenanceIssue)
      (approval : Option Approval)
  | startAgentMaintenance (payload : AgentMaintenanceStart) (request : AgentRequest)
  | reportAgentMaintenanceProgress (payload : AgentMaintenanceProgress)
  | finalizeAgentMaintenance (hostID sessionID : String) (payload : AgentMaintenanceFinalize)
  deriving DecidableEq, Repr

def transaction (settings : Settings) (db : Db) : Operation → Transaction
  | .createHost host =>
      commit { db with hosts := db.hosts ++ [host] } (.ok .accepted) ⟨409, "host already exists"⟩
  | .setHostEnabled hostID enabled => do
      let host ← orRaise (db.host? hostID) ⟨404, "one or more hosts were not found"⟩
      commit (db.putHost { host with enabled := enabled }) (.ok .accepted) internalServerError
  | .publishCRL publication =>
      commit { db with publications := db.publications ++ [publication] } (.ok .accepted)
        internalServerError
  | .enrollAgent token request payload ids => enrollAgent settings db token request payload ids
  | .bootstrapAgent token payload ids => bootstrapAgent settings db token payload ids
  | .prepareAgentIdentity agentID payload => prepareAgentIdentity settings db agentID payload
  | .activateAgentIdentity agentID identityID expectedVersion =>
      activateAgentIdentity db agentID identityID expectedVersion
  | .retirePendingAgentIdentity agentID identityID expectedVersion =>
      retirePendingAgentIdentity db agentID identityID expectedVersion
  | .validatePendingAgentIdentity agentID identityID expectedVersion request =>
      validatePendingAgentIdentity settings db agentID identityID expectedVersion request
  | .renewAgentCertificate agentID payload request =>
      renewAgentCertificate settings db agentID payload request
  | .agentHeartbeat agentID request => agentHeartbeat settings db agentID request
  | .revokeRetiringAgentIdentity agentID identityID payload =>
      revokeRetiringAgentIdentity db agentID identityID payload
  | .revokeAgent agentID payload => revokeAgent db agentID payload
  | .createAgentMaintenanceSession hostID payload approval =>
      createAgentMaintenanceSession settings db hostID payload approval
  | .startAgentMaintenance payload request => startAgentMaintenance settings db payload request
  | .reportAgentMaintenanceProgress payload => reportAgentMaintenanceProgress settings db payload
  | .finalizeAgentMaintenance hostID sessionID payload =>
      finalizeAgentMaintenance db hostID sessionID payload

/-- An operation and the time since the one before. -/
structure Input where
  elapsed : Nat
  operation : Operation
  deriving DecidableEq, Repr

/-- The database at the time an input arrives. -/
def Db.arrive (db : Db) (input : Input) : Db := { db with clock := db.clock + input.elapsed }

/-- What an input is answered, and the database it leaves. -/
def serve (settings : Settings) (db : Db) (input : Input) : Except HTTPException Reply × Db :=
  match transaction settings (db.arrive input) input.operation with
  | .ok (reply, db') => (reply, db')
  | .error e => (.error e, db.arrive input)

def step (settings : Settings) (db : Db) (input : Input) : Db := (serve settings db input).2

end VpsGuardian.Controller
