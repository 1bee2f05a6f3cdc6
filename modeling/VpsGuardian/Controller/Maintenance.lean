import VpsGuardian.Controller.AgentSecurity

/-!
Maintenance sessions (`maintenance.py`).

A session remembers the identity that was active when it was issued. The errors
of this module are texts, which the handlers answer under a status code of
their own.
-/

namespace VpsGuardian.Controller

open Lib

def MaintenanceStatus.terminal : MaintenanceStatus → Bool
  | .completed | .failed | .rolledBack | .expired | .revoked => true
  | _ => false

/-- `STATUS_SEQUENCE` -/
def MaintenanceStatus.sequence : MaintenanceStatus → Nat
  | .waiting => 0
  | .started => 1
  | .artifactVerified => 2
  | .serviceStopped => 3
  | .identityRotated => 4
  | .serviceStarted => 5
  | .heartbeatVerified => 6
  | .confirmationPending => 7
  | .completed | .failed | .rolledBack | .expired | .revoked => 8

/-- `ALLOWED_BY_KIND` -/
def AgentMaintenanceKind.allowed : AgentMaintenanceKind → List MaintenanceStatus
  | .repair =>
      [.started, .artifactVerified, .serviceStopped, .serviceStarted, .heartbeatVerified,
        .completed, .failed, .rolledBack]
  | .reinstall =>
      [.started, .artifactVerified, .serviceStopped, .identityRotated, .serviceStarted,
        .heartbeatVerified, .confirmationPending, .completed, .failed, .rolledBack]
  | .rotateIdentity =>
      [.started, .artifactVerified, .identityRotated, .serviceStarted, .heartbeatVerified,
        .confirmationPending, .completed, .failed, .rolledBack]
  | .decommission =>
      [.started, .artifactVerified, .serviceStopped, .confirmationPending, .completed, .failed]

def maintenanceCredentialDigest (settings : Settings) (value : String)
    (kind : AgentMaintenanceKind) (channel : String) : String :=
  settings.sha256Hex ("vps-guardian:" ++ kind.value ++ ":" ++ channel ++ ":" ++ value)

/-- `_record` -/
def AgentMaintenanceSession.record (session : AgentMaintenanceSession)
    (status : MaintenanceStatus) : AgentMaintenanceSession :=
  { session with status := status, statusSequence := status.sequence }

/-- `ttl: timedelta = timedelta(minutes=10)` -/
def maintenanceSessionTTL : Time := minutes 10

/-- A waiting session of the host gives way to a new one. -/
def supersede (hostID : String) (now : Time) (session : AgentMaintenanceSession) :
    AgentMaintenanceSession :=
  if session.hostID = hostID ∧ session.status = .waiting then
    { session with status := .revoked, revokedAt := some now }
  else session

/-- What the operator asks for, and the identifiers drawn for the new session. -/
structure AgentMaintenanceIssue where
  kind : AgentMaintenanceKind
  sourceCIDR : Option String
  purgeLocalState : Bool
  approvalID : Option String
  confirmation : Option String
  sessionID : String
  token : String
  deriving DecidableEq, Repr

def issueMaintenanceSession (settings : Settings) (db : Db) (host : Host) (record : AgentRecord)
    (payload : AgentMaintenanceIssue) : Except String (AgentMaintenanceSession × Db) := do
  raiseIf (record.revoked ∨ !host.enabled) "maintenance requires an enabled active Agent"
  raiseIf (payload.sourceCIDR.any fun cidr => !settings.validNetwork cidr) "source CIDR is invalid"
  raiseIf (payload.kind ≠ .decommission ∧ payload.purgeLocalState)
    "purge mode is only valid for decommission"
  raiseIf (payload.kind = .decommission ∧ payload.approvalID.getD "" = "")
    "decommission requires an approved high-risk request"
  let active ← orRaise (record.inState .active).head? "Agent has no active identity"
  let now := db.clock
  let existing := (db.sessions.filter fun session =>
    session.hostID == host.id && !session.status.terminal).getLast?
  raiseIf (existing.any (·.status ≠ .waiting))
    "an in-progress maintenance session must be resolved before issuing another"
  let session : AgentMaintenanceSession :=
    { id := payload.sessionID
      hostID := host.id
      agentID := record.id
      kind := payload.kind
      tokenHash := maintenanceCredentialDigest settings payload.token payload.kind "start"
      progressTokenHash := none
      status := .waiting
      statusSequence := MaintenanceStatus.sequence .waiting
      sourceCIDR := payload.sourceCIDR
      purgeLocalState := payload.purgeLocalState
      expectedIdentityVersion := record.agent.identityVersion
      oldIdentityID := some active.id
      newIdentityID := none
      approvalID := payload.approvalID
      expiresAt := now + maintenanceSessionTTL
      usedAt := none
      revokedAt := none }
  return (session,
    { db with sessions := db.sessions.map (supersede host.id now) ++ [session] })

def sourceAllowed (settings : Settings) (session : AgentMaintenanceSession) (sourceIP : String) :
    Bool :=
  session.sourceCIDR.all fun cidr => sourceIP ≠ "" && settings.inNetwork sourceIP cidr

/-- Starts a waiting session; `progress` is the credential drawn for its progress. -/
def consumeMaintenanceSession (settings : Settings) (db : Db) (value progress sourceIP : String)
    (kind : AgentMaintenanceKind) : Except String AgentMaintenanceSession := do
  let digest := maintenanceCredentialDigest settings value kind "start"
  let session ← orRaise (Table.lookup (·.tokenHash) digest db.sessions)
    "invalid maintenance credential"
  raiseIf (session.kind ≠ kind) "maintenance credential type mismatch"
  raiseIf (session.revokedAt.isSome ∨ session.status.terminal)
    "maintenance credential is no longer active"
  raiseIf (session.expiresAt ≤ db.clock) "maintenance credential expired"
  raiseIf (!sourceAllowed settings session sourceIP)
    "maintenance source is outside the allowed CIDR"
  raiseIf (session.usedAt.isSome ∨ session.status ≠ .waiting)
    "maintenance credential was already consumed"
  return { session.record .started with
    usedAt := some db.clock
    progressTokenHash := some (maintenanceCredentialDigest settings progress kind "progress") }

def authenticateMaintenanceProgress (settings : Settings) (db : Db) (value : String)
    (kind : AgentMaintenanceKind) : Except String AgentMaintenanceSession := do
  let digest := maintenanceCredentialDigest settings value kind "progress"
  let session ← orRaise (Table.lookup (·.progressTokenHash) (some digest) db.sessions)
    "invalid maintenance progress credential"
  raiseIf (session.kind ≠ kind) "invalid maintenance progress credential"
  raiseIf (session.status.terminal ∨ session.revokedAt.isSome) "maintenance session is terminal"
  return session

def advanceMaintenance (session : AgentMaintenanceSession) (status : MaintenanceStatus)
    (errorSummary : Option String) : Except String AgentMaintenanceSession := do
  raiseIf (status ∉ session.kind.allowed) "status is not valid for this maintenance kind"
  raiseIf ((status ≠ .failed ∧ status ≠ .rolledBack) ∧ status.sequence ≤ session.statusSequence)
    "maintenance progress must be monotonic"
  raiseIf (errorSummary.any fun summary => 240 < summary.length) "error summary is too long"
  return session.record status

/-! ### What a session keeps -/

/-- The Agent and the identity a session was issued for. -/
def AgentMaintenanceSession.subject (session : AgentMaintenanceSession) :
    String × Option String := (session.agentID, session.oldIdentityID)

@[simp] theorem record_subject (session : AgentMaintenanceSession) (status : MaintenanceStatus) :
    (session.record status).subject = session.subject := rfl

@[simp] theorem record_id (session : AgentMaintenanceSession) (status : MaintenanceStatus) :
    (session.record status).id = session.id := rfl

theorem supersede_subject (hostID : String) (now : Time) (session : AgentMaintenanceSession) :
    (supersede hostID now session).subject = session.subject := by
  unfold supersede
  split <;> rfl

/-- An issued session names an active identity of the Agent; the others keep their subject. -/
theorem issueMaintenanceSession_ok {settings : Settings} {db db' : Db} {host : Host}
    {record : AgentRecord} {payload : AgentMaintenanceIssue} {session : AgentMaintenanceSession}
    (h : issueMaintenanceSession settings db host record payload = .ok (session, db')) :
    ∃ active ∈ record.inState .active, session.subject = (record.id, some active.id) ∧
      db' = { db with sessions := db.sessions.map (supersede host.id db.clock) ++ [session] } := by
  unfold issueMaintenanceSession at h
  simp only [raiseIf_bind_eq_ok] at h
  obtain ⟨-, -, -, -, h⟩ := h
  obtain ⟨active, hactive, h⟩ := orRaise_bind_eq_ok.mp h
  obtain ⟨-, h⟩ := raiseIf_bind_eq_ok.mp h
  cases h
  exact ⟨active, List.mem_of_head? hactive, rfl, rfl⟩

theorem consumeMaintenanceSession_ok {settings : Settings} {db : Db}
    {value progress sourceIP : String} {kind : AgentMaintenanceKind}
    {session : AgentMaintenanceSession}
    (h : consumeMaintenanceSession settings db value progress sourceIP kind = .ok session) :
    ∃ waiting ∈ db.sessions, session.id = waiting.id ∧ session.subject = waiting.subject := by
  unfold consumeMaintenanceSession at h
  obtain ⟨waiting, hwaiting, h⟩ := orRaise_bind_eq_ok.mp h
  simp only [raiseIf_bind_eq_ok] at h
  obtain ⟨-, -, -, -, -, h⟩ := h
  cases h
  exact ⟨waiting, Table.mem_of_lookup hwaiting, rfl, rfl⟩

theorem authenticateMaintenanceProgress_ok {settings : Settings} {db : Db} {value : String}
    {kind : AgentMaintenanceKind} {session : AgentMaintenanceSession}
    (h : authenticateMaintenanceProgress settings db value kind = .ok session) :
    session ∈ db.sessions := by
  unfold authenticateMaintenanceProgress at h
  obtain ⟨found, hfound, h⟩ := orRaise_bind_eq_ok.mp h
  simp only [raiseIf_bind_eq_ok] at h
  obtain ⟨-, -, h⟩ := h
  cases h
  exact Table.mem_of_lookup hfound

theorem advanceMaintenance_ok {session session' : AgentMaintenanceSession}
    {status : MaintenanceStatus} {errorSummary : Option String}
    (h : advanceMaintenance session status errorSummary = .ok session') :
    session' = session.record status := by
  unfold advanceMaintenance at h
  simp only [raiseIf_bind_eq_ok] at h
  obtain ⟨-, -, -, h⟩ := h
  cases h
  rfl

end VpsGuardian.Controller
