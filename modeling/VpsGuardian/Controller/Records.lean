import VpsGuardian.Lib.Checks
import VpsGuardian.Lib.Table

/-!
The rows the Controller keeps about its Agents.

An Agent row and the identity rows that refer to it are one record, as the
relationship between the two models makes them. A transaction works on a copy of
the database and is committed only if the unique constraints and the partial
unique indexes of the migrations hold in it.
-/

namespace VpsGuardian.Controller

open Lib

/-- Microseconds since the epoch, the resolution of `datetime.now(UTC)`. -/
abbrev Time := Int

def seconds (n : Int) : Time := 1000000 * n

def minutes (n : Int) : Time := seconds (60 * n)

structure HTTPException where
  statusCode : Nat
  detail : String
  deriving DecidableEq, Repr

/-- What FastAPI answers when a handler lets another exception through. -/
def internalServerError : HTTPException := ⟨500, "Internal Server Error"⟩

structure Host where
  id : String
  name : String
  enabled : Bool
  deriving DecidableEq, Repr

structure Agent where
  id : String
  hostID : String
  signingPublicKey : String
  certificateFingerprint : String
  certificateSerial : Option String
  identityVersion : Nat
  revokedAt : Option Time
  lastHeartbeatAt : Option Time
  deriving DecidableEq, Repr

inductive AgentIdentityState
  | pending
  | active
  | retiring
  | revoked
  | retired
  deriving DecidableEq, Repr

structure AgentIdentity where
  id : String
  generation : Nat
  rotationID : Option String
  state : AgentIdentityState
  signingPublicKey : String
  certificateFingerprint : String
  certificateSerial : Option String
  expiresAt : Option Time
  verifiedAt : Option Time
  successfulHeartbeats : Nat
  deriving DecidableEq, Repr

/-- An Agent row with the identity rows whose `agent_id` it is. -/
structure AgentRecord where
  agent : Agent
  identities : List AgentIdentity
  deriving DecidableEq, Repr

namespace AgentRecord

def id (record : AgentRecord) : String := record.agent.id

def hostID (record : AgentRecord) : String := record.agent.hostID

def revoked (record : AgentRecord) : Bool := record.agent.revokedAt.isSome

def identity? (record : AgentRecord) (identityID : String) : Option AgentIdentity :=
  Table.lookup (·.id) identityID record.identities

/-- The identities in a state. -/
def inState (record : AgentRecord) (state : AgentIdentityState) : List AgentIdentity :=
  record.identities.filter fun identity => decide (identity.state = state)

/-- The identity row with its columns overwritten. -/
def put (record : AgentRecord) (identity : AgentIdentity) : AgentRecord :=
  { record with identities := Table.put (·.id) identity record.identities }

def add (record : AgentRecord) (identity : AgentIdentity) : AgentRecord :=
  { record with identities := record.identities ++ [identity] }

/-- Copies the keys of an identity to the Agent row. -/
def carry (record : AgentRecord) (identity : AgentIdentity) : AgentRecord :=
  { record with agent := { record.agent with
      signingPublicKey := identity.signingPublicKey
      certificateFingerprint := identity.certificateFingerprint
      certificateSerial := identity.certificateSerial } }

/-- The constraints of `agent_identities` within one Agent. -/
structure Constraints (record : AgentRecord) : Prop where
  generations : (record.identities.map (·.generation)).Nodup
  rotations : (record.identities.filterMap (·.rotationID)).Nodup
  oneActive : (record.inState .active).length ≤ 1
  onePending : (record.inState .pending).length ≤ 1

instance (record : AgentRecord) : Decidable record.Constraints :=
  decidable_of_iff
    ((record.identities.map (·.generation)).Nodup ∧
      (record.identities.filterMap (·.rotationID)).Nodup ∧
      (record.inState .active).length ≤ 1 ∧ (record.inState .pending).length ≤ 1)
    ⟨fun ⟨h₁, h₂, h₃, h₄⟩ => ⟨h₁, h₂, h₃, h₄⟩, fun ⟨h₁, h₂, h₃, h₄⟩ => ⟨h₁, h₂, h₃, h₄⟩⟩

end AgentRecord

inductive AgentMaintenanceKind
  | repair
  | reinstall
  | rotateIdentity
  | decommission
  deriving DecidableEq, Repr

def AgentMaintenanceKind.value : AgentMaintenanceKind → String
  | .repair => "repair"
  | .reinstall => "reinstall"
  | .rotateIdentity => "rotate_identity"
  | .decommission => "decommission"

inductive MaintenanceStatus
  | waiting
  | started
  | artifactVerified
  | serviceStopped
  | identityRotated
  | serviceStarted
  | heartbeatVerified
  | confirmationPending
  | completed
  | failed
  | rolledBack
  | expired
  | revoked
  deriving DecidableEq, Repr

structure AgentMaintenanceSession where
  id : String
  hostID : String
  agentID : String
  kind : AgentMaintenanceKind
  tokenHash : String
  progressTokenHash : Option String
  status : MaintenanceStatus
  statusSequence : Nat
  sourceCIDR : Option String
  purgeLocalState : Bool
  expectedIdentityVersion : Nat
  oldIdentityID : Option String
  newIdentityID : Option String
  approvalID : Option String
  expiresAt : Time
  usedAt : Option Time
  revokedAt : Option Time
  deriving DecidableEq, Repr

structure Nonce where
  value : String
  expiresAt : Time
  deriving DecidableEq, Repr

/-- A successful `gateway.crl_publication` audit row. -/
structure CRLPublication where
  number : Nat
  sha256 : String
  certificateSerial : String
  deriving DecidableEq, Repr

structure Db where
  clock : Time
  hosts : List Host
  records : List AgentRecord
  nonces : List Nonce
  publications : List CRLPublication
  sessions : List AgentMaintenanceSession
  deriving DecidableEq, Repr

namespace Db

def empty : Db := ⟨0, [], [], [], [], []⟩

/-- All identity rows, of whichever Agent. -/
def identities (db : Db) : List AgentIdentity := db.records.flatMap (·.identities)

def host? (db : Db) (hostID : String) : Option Host := Table.lookup (·.id) hostID db.hosts

def record? (db : Db) (agentID : String) : Option AgentRecord :=
  Table.lookup AgentRecord.id agentID db.records

/-- `host.agent` -/
def hostAgent? (db : Db) (hostID : String) : Option AgentRecord :=
  Table.lookup AgentRecord.hostID hostID db.records

def identity? (db : Db) (identityID : String) : Option AgentIdentity :=
  Table.lookup (·.id) identityID db.identities

def session? (db : Db) (sessionID : String) : Option AgentMaintenanceSession :=
  Table.lookup (·.id) sessionID db.sessions

def putHost (db : Db) (host : Host) : Db := { db with hosts := Table.put (·.id) host db.hosts }

def putRecord (db : Db) (record : AgentRecord) : Db :=
  { db with records := Table.put AgentRecord.id record db.records }

def addRecord (db : Db) (record : AgentRecord) : Db :=
  { db with records := db.records ++ [record] }

/-- Overwrites an identity row, of whichever Agent it is. -/
def putIdentity (db : Db) (identity : AgentIdentity) : Db :=
  { db with records := db.records.map (·.put identity) }

def putSession (db : Db) (session : AgentMaintenanceSession) : Db :=
  { db with sessions := Table.put (·.id) session db.sessions }

/-- The unique constraints of the tables, and that every Agent has its host. -/
structure Constraints (db : Db) : Prop where
  hostIDs : (db.hosts.map (·.id)).Nodup
  hostNames : (db.hosts.map (·.name)).Nodup
  agentIDs : (db.records.map AgentRecord.id).Nodup
  agentHosts : (db.records.map AgentRecord.hostID).Nodup
  hostRows : ∀ record ∈ db.records, record.hostID ∈ db.hosts.map (·.id)
  agentFingerprints : (db.records.map (·.agent.certificateFingerprint)).Nodup
  agentSerials : (db.records.filterMap (·.agent.certificateSerial)).Nodup
  identityIDs : (db.identities.map (·.id)).Nodup
  identityFingerprints : (db.identities.map (·.certificateFingerprint)).Nodup
  identitySerials : (db.identities.filterMap (·.certificateSerial)).Nodup
  perAgent : ∀ record ∈ db.records, record.Constraints
  nonces : (db.nonces.map (·.value)).Nodup
  sessionIDs : (db.sessions.map (·.id)).Nodup
  sessionTokens : (db.sessions.map (·.tokenHash)).Nodup
  progressTokens : (db.sessions.filterMap (·.progressTokenHash)).Nodup

instance (db : Db) : Decidable db.Constraints :=
  decidable_of_iff
    (((db.hosts.map (·.id)).Nodup ∧ (db.hosts.map (·.name)).Nodup) ∧
      ((db.records.map AgentRecord.id).Nodup ∧ (db.records.map AgentRecord.hostID).Nodup ∧
        (∀ record ∈ db.records, record.hostID ∈ db.hosts.map (·.id)) ∧
        (db.records.map (·.agent.certificateFingerprint)).Nodup ∧
        (db.records.filterMap (·.agent.certificateSerial)).Nodup) ∧
      ((db.identities.map (·.id)).Nodup ∧
        (db.identities.map (·.certificateFingerprint)).Nodup ∧
        (db.identities.filterMap (·.certificateSerial)).Nodup) ∧
      (∀ record ∈ db.records, record.Constraints) ∧ (db.nonces.map (·.value)).Nodup ∧
      (db.sessions.map (·.id)).Nodup ∧ (db.sessions.map (·.tokenHash)).Nodup ∧
      (db.sessions.filterMap (·.progressTokenHash)).Nodup)
    ⟨fun ⟨⟨h₁, h₂⟩, ⟨h₃, h₄, hr, h₅, h₆⟩, ⟨h₇, h₈, h₉⟩, h₁₀, h₁₁, h₁₂, h₁₃, h₁₄⟩ =>
        ⟨h₁, h₂, h₃, h₄, hr, h₅, h₆, h₇, h₈, h₉, h₁₀, h₁₁, h₁₂, h₁₃, h₁₄⟩,
      fun ⟨h₁, h₂, h₃, h₄, hr, h₅, h₆, h₇, h₈, h₉, h₁₀, h₁₁, h₁₂, h₁₃, h₁₄⟩ =>
        ⟨⟨h₁, h₂⟩, ⟨h₃, h₄, hr, h₅, h₆⟩, ⟨h₇, h₈, h₉⟩, h₁₀, h₁₁, h₁₂, h₁₃, h₁₄⟩⟩

theorem Constraints.identityIDs_nodup {db : Db} (h : db.Constraints) {record : AgentRecord}
    (hrecord : record ∈ db.records) : (record.identities.map (·.id)).Nodup := by
  have hall := h.identityIDs
  rw [identities, List.map_flatMap, List.nodup_flatMap] at hall
  exact hall.1 record hrecord

end Db

/-- What a handler answers with. -/
inductive Reply
  | accepted
  | enrolled (agentID hostID : String)
  | identity (identity : AgentIdentity)
  | heartbeat (accepted : Bool) (state : AgentIdentityState) (identityVersion : Nat)
  | maintenanceToken (sessionID : String)
  | maintenanceStarted (sessionID agentID : String) (expectedIdentityVersion : Nat)
  | maintenance (session : AgentMaintenanceSession)
  deriving DecidableEq, Repr

/-- A transaction is rolled back by an error, or commits a database and then
answers, which may also be with an error. -/
abbrev Transaction := Except HTTPException (Except HTTPException Reply × Db)

/-- Commits if the constraints hold, and fails with the handler's translation of
the `IntegrityError` otherwise. -/
def commit (db : Db) (reply : Except HTTPException Reply) (conflict : HTTPException) :
    Transaction :=
  if db.Constraints then .ok (reply, db) else .error conflict

theorem commit_eq_ok {db db' : Db} {reply reply' : Except HTTPException Reply}
    {conflict : HTTPException} : commit db reply conflict = .ok (reply', db') ↔
      db.Constraints ∧ reply = reply' ∧ db = db' := by
  unfold commit
  by_cases h : db.Constraints
  · simp [h]
  · simp [h]

end VpsGuardian.Controller
