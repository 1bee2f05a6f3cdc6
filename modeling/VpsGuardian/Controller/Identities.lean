import VpsGuardian.Controller.AgentSecurity

/-!
The life of Agent identities (`api.py`): enrollment, CSR bootstrap, rotation,
renewal, retirement and revocation.

Every handler is one transaction. An identifier, a certificate or a token that a
handler draws or reads from tables outside the model is part of its input.
-/

namespace VpsGuardian.Controller

open Lib

/-- Compare-and-set on the identity version; `db.refresh` hands the new row back. -/
def claimAgentIdentityVersion (record : AgentRecord) (expectedVersion : Nat) :
    Except HTTPException AgentRecord := do
  raiseIf (record.agent.identityVersion ≠ expectedVersion ∨ record.revoked)
    ⟨409, "stale agent identity version"⟩
  return { record with agent := { record.agent with
    identityVersion := record.agent.identityVersion + 1 } }

def pendingIdentityIsExpired (identity : AgentIdentity) (now : Time) : Bool :=
  identity.expiresAt.all (· ≤ now)

/-- The identity a handler is asked for by its Agent and its id. -/
def findIdentity (record : AgentRecord) (identityID : String) :
    Except HTTPException AgentIdentity :=
  orRaise (record.identity? identityID) ⟨404, "agent identity not found"⟩

/-! ### Enrollment -/

/-- The keys and the certificate a new identity is established with. -/
structure IdentityKeys where
  signingPublicKey : String
  certificateFingerprint : String
  certificateSerial : Option String
  expiresAt : Option Time
  deriving DecidableEq, Repr

/-- The identifiers drawn by an enrollment, of which it uses what it needs. -/
structure EnrollmentIDs where
  hostID : String
  agentID : String
  identityID : String
  deriving DecidableEq, Repr

/-- The identity an enrollment starts an Agent with. -/
def enrolledIdentity (identityID : String) (generation : Nat) (keys : IdentityKeys) (now : Time) :
    AgentIdentity :=
  { id := identityID
    generation := generation
    rotationID := none
    state := .active
    signingPublicKey := keys.signingPublicKey
    certificateFingerprint := keys.certificateFingerprint
    certificateSerial := keys.certificateSerial
    expiresAt := keys.expiresAt
    verifiedAt := some now
    successfulHeartbeats := 0 }

def newRecord (hostID agentID identityID : String) (keys : IdentityKeys) (now : Time) :
    AgentRecord :=
  let agent : Agent :=
    { id := agentID
      hostID := hostID
      signingPublicKey := keys.signingPublicKey
      certificateFingerprint := keys.certificateFingerprint
      certificateSerial := keys.certificateSerial
      identityVersion := 1
      revokedAt := none
      lastHeartbeatAt := none }
  ⟨agent, [enrolledIdentity identityID agent.identityVersion keys now]⟩

/-- The Agent row of a revoked Agent is taken into use again, under a new identity. -/
def AgentRecord.reenroll (record : AgentRecord) (identityID : String) (keys : IdentityKeys)
    (now : Time) : AgentRecord :=
  let agent := { record.agent with
    identityVersion := record.agent.identityVersion + 1
    signingPublicKey := keys.signingPublicKey
    certificateFingerprint := keys.certificateFingerprint
    certificateSerial := keys.certificateSerial
    revokedAt := none }
  ⟨agent, record.identities ++ [enrolledIdentity identityID agent.identityVersion keys now]⟩

/-- The rows `enroll_agent` and `bootstrap_agent` write for a host. -/
def establish (db : Db) (hostID : String) (ids : EnrollmentIDs) (keys : IdentityKeys)
    (conflict : HTTPException) : Transaction :=
  match db.hostAgent? hostID with
  | some record => do
      raiseIf (!record.revoked) ⟨409, "host already has an active agent"⟩
      commit (db.putRecord (record.reenroll ids.identityID keys db.clock))
        (.ok (.enrolled record.id hostID)) conflict
  | none =>
      commit (db.addRecord (newRecord hostID ids.agentID ids.identityID keys db.clock))
        (.ok (.enrolled ids.agentID hostID)) conflict

/-- What the enrollment token of a request amounts to. -/
inductive EnrollmentToken
  | missing
  /-- `EnrollmentTokenError` -/
  | rejected (detail : String)
  /-- An unused one-time token for a host. -/
  | oneTime (hostID : String)
  /-- The shared token of installations that are not in production. -/
  | legacy
  deriving DecidableEq, Repr

/-- `consume_enrollment_token`, up to the token's own row. -/
def consumeEnrollmentToken (db : Db) (token : EnrollmentToken) : Except String Host :=
  match token with
  | .oneTime hostID => do
      let host ← orRaise (db.host? hostID) "enrollment target is unavailable"
      raiseIf (!host.enabled) "enrollment target is unavailable"
      return host
  | .rejected detail => .error detail
  | .missing | .legacy => .error "invalid enrollment token"

structure AgentEnrollRequest where
  hostName : String
  hostEnabled : Bool
  signingPublicKey : String
  certificateFingerprint : String
  deriving DecidableEq, Repr

/-- The host of a one-time token; the shared token names none. -/
def enrollmentHost (settings : Settings) (db : Db) (token : EnrollmentToken) :
    Except HTTPException (Option Host) :=
  match consumeEnrollmentToken db token with
  | .ok host => .ok (some host)
  | .error detail =>
      if !settings.production ∧ token = .legacy then .ok none else .error ⟨401, detail⟩

/-- In production the gateway has to vouch for the enrolled certificate. -/
def enrollmentSerial (settings : Settings) (request : AgentRequest) (fingerprint : String) :
    Except HTTPException (Option String) :=
  if settings.production then do
    let (trusted, serial) ← trustedClientCertificateIdentity request
    raiseIf (fingerprint ≠ trusted) ⟨401, "enrollment certificate mismatch"⟩
    return some serial
  else return none

def enrollAgent (settings : Settings) (db : Db) (token : EnrollmentToken) (request : AgentRequest)
    (payload : AgentEnrollRequest) (ids : EnrollmentIDs) : Transaction := do
  raiseIf (token = .missing) ⟨401, "invalid enrollment token"⟩
  let tokenHost ← enrollmentHost settings db token
  let fingerprint ← orRaise (normalizeCertificateFingerprint payload.certificateFingerprint)
    ⟨422, "invalid certificate fingerprint"⟩
  let certificateSerial ← enrollmentSerial settings request fingerprint
  raiseIf (db.identities.any (·.certificateFingerprint == fingerprint))
    ⟨409, "certificate already enrolled"⟩
  raiseIf (certificateSerial.isSome ∧ db.identities.any (·.certificateSerial == certificateSerial))
    ⟨409, "certificate serial already enrolled"⟩
  raiseIf (tokenHost.any (·.name ≠ payload.hostName)) ⟨409, "enrollment token host mismatch"⟩
  let keys := ⟨payload.signingPublicKey, fingerprint, certificateSerial, none⟩
  let conflict := ⟨409, "certificate identity already enrolled"⟩
  match tokenHost <|> Table.lookup (·.name) payload.hostName db.hosts with
  | some host => establish db host.id ids keys conflict
  | none =>
      let host := ⟨ids.hostID, payload.hostName, payload.hostEnabled⟩
      establish { db with hosts := db.hosts ++ [host] } host.id ids keys conflict

/-- The certificate that `issue_agent_certificate` signs for a CSR. -/
structure IssuedAgentCertificate where
  fingerprint : String
  serial : String
  expiresAt : Time
  deriving DecidableEq, Repr

structure AgentBootstrapRequest where
  hostID : String
  csrPEM : String
  signingPublicKey : String
  signingKeyProof : String
  /-- Nothing when issuance is unavailable. -/
  issued : Option IssuedAgentCertificate
  deriving DecidableEq, Repr

def bootstrapAgent (settings : Settings) (db : Db) (token : EnrollmentToken)
    (payload : AgentBootstrapRequest) (ids : EnrollmentIDs) : Transaction := do
  raiseIf (token = .missing) ⟨401, "invalid enrollment token"⟩
  match settings.csrError payload.csrPEM payload.signingPublicKey payload.signingKeyProof with
  | some detail => .error ⟨422, detail⟩
  | none =>
  let host ← (consumeEnrollmentToken db token).mapError fun _ => ⟨401, "invalid enrollment token"⟩
  raiseIf (host.id ≠ payload.hostID) ⟨401, "invalid enrollment token"⟩
  raiseIf ((db.hostAgent? host.id).any (!·.revoked)) ⟨409, "host already has an active agent"⟩
  let issued ← orRaise payload.issued ⟨503, "certificate issuance unavailable"⟩
  establish db host.id ids
    ⟨payload.signingPublicKey, issued.fingerprint, some issued.serial, some issued.expiresAt⟩
    ⟨409, "certificate identity conflict"⟩

/-! ### Rotation -/

structure AgentRotateRequest where
  rotationID : String
  expectedVersion : Nat
  signingPublicKey : String
  certificateFingerprint : String
  certificateSerial : String
  identityID : String
  deriving DecidableEq, Repr

/-- The identity `prepare_agent_identity` adds. -/
def pendingIdentity (settings : Settings) (payload : AgentRotateRequest) (generation : Nat)
    (fingerprint certificateSerial : String) (createdAt : Time) : AgentIdentity :=
  { id := payload.identityID
    generation := generation
    rotationID := some payload.rotationID
    state := .pending
    signingPublicKey := payload.signingPublicKey
    certificateFingerprint := fingerprint
    certificateSerial := some certificateSerial
    expiresAt := some (createdAt + minutes settings.pendingIdentityTTL)
    verifiedAt := none
    successfulHeartbeats := 0 }

def prepareAgentIdentity (settings : Settings) (db : Db) (agentID : String)
    (payload : AgentRotateRequest) : Transaction := do
  let record ← lockActiveAgent db agentID
  let fingerprint ← orRaise (normalizeCertificateFingerprint payload.certificateFingerprint)
    internalServerError
  let certificateSerial ← orRaise (normalizeCertificateSerial payload.certificateSerial)
    internalServerError
  match record.identities.find? (·.rotationID == some payload.rotationID) with
  | some existing =>
      if existing.signingPublicKey ≠ payload.signingPublicKey ∨
          existing.certificateFingerprint ≠ fingerprint ∨
          existing.certificateSerial ≠ some certificateSerial then
        commit db (.error ⟨409, "rotation id payload conflict"⟩) internalServerError
      else commit db (.ok (.identity existing)) internalServerError
  | none =>
  raiseIf (db.identities.any (·.certificateFingerprint == fingerprint))
    ⟨409, "certificate already enrolled"⟩
  raiseIf (db.identities.any (·.certificateSerial == some certificateSerial))
    ⟨409, "certificate serial already enrolled"⟩
  let createdAt := db.clock
  let existingPending := (record.inState .pending).head?
  if existingPending.any (!pendingIdentityIsExpired · createdAt) then
    commit db (.error ⟨409, "agent already has a pending identity"⟩) internalServerError
  else do
    let claimed ← claimAgentIdentityVersion record payload.expectedVersion
    let cleared := match existingPending with
      | some expired => claimed.put { expired with state := .retired }
      | none => claimed
    let identity := pendingIdentity settings payload claimed.agent.identityVersion fingerprint
      certificateSerial createdAt
    commit (db.putRecord (cleared.add identity)) (.ok (.identity identity))
      ⟨409, "certificate identity already enrolled"⟩

def activateAgentIdentity (db : Db) (agentID identityID : String) (expectedVersion : Nat) :
    Transaction := do
  let record ← lockActiveAgent db agentID
  let identity ← findIdentity record identityID
  raiseIf (identity.state ≠ .pending) ⟨409, "identity is not pending"⟩
  let activatedAt := db.clock
  if pendingIdentityIsExpired identity activatedAt then do
    let claimed ← claimAgentIdentityVersion record expectedVersion
    commit (db.putRecord (claimed.put { identity with state := .retired }))
      (.error ⟨409, "pending identity expired and was retired"⟩) internalServerError
  else do
    raiseIf (identity.verifiedAt.isNone ∨ identity.successfulHeartbeats < 2)
      ⟨409, "pending identity requires two consecutive authenticated heartbeats"⟩
    let activeIdentity ← orRaise (record.inState .active).head?
      ⟨409, "agent has no active identity"⟩
    let claimed ← claimAgentIdentityVersion record expectedVersion
    let activated := { identity with state := .active }
    commit (db.putRecord (((claimed.put { activeIdentity with state := .retiring }).put
        activated).carry activated))
      (.ok (.identity activated)) ⟨409, "identity activation conflict"⟩

def retirePendingAgentIdentity (db : Db) (agentID identityID : String) (expectedVersion : Nat) :
    Transaction := do
  let record ← lockActiveAgent db agentID
  let identity ← findIdentity record identityID
  raiseIf (identity.state ≠ .pending) ⟨409, "only a pending identity can be retired directly"⟩
  let claimed ← claimAgentIdentityVersion record expectedVersion
  let retired := { identity with state := .retired }
  commit (db.putRecord (claimed.put retired)) (.ok (.identity retired)) internalServerError

def validatePendingAgentIdentity (settings : Settings) (db : Db) (agentID identityID : String)
    (expectedVersion : Nat) (request : AgentRequest) : Transaction := do
  let record ← lockActiveAgent db agentID
  let identity ← findIdentity record identityID
  raiseIf (identity.state ≠ .pending) ⟨409, "identity is not pending"⟩
  raiseIf (pendingIdentityIsExpired identity db.clock) ⟨409, "pending identity expired"⟩
  raiseIf (expectedVersion ≠ record.agent.identityVersion) ⟨409, "stale agent identity version"⟩
  let (authenticated, db) ← verifyAgentRequest settings db record request
  raiseIf (authenticated.id ≠ identity.id) ⟨401, "pending identity proof mismatch"⟩
  let verified := { identity with verifiedAt := identity.verifiedAt <|> some db.clock }
  commit (db.putRecord (record.put verified)) (.ok (.identity verified)) internalServerError

/-! ### Renewal and heartbeats -/

structure AgentRenewRequest where
  rotationID : String
  expectedVersion : Nat
  csrPEM : String
  signingPublicKey : String
  signingKeyProof : String
  /-- Nothing when issuance is unavailable. -/
  issued : Option IssuedAgentCertificate
  identityID : String
  deriving DecidableEq, Repr

/-- The identity `renew_agent_certificate` adds. -/
def renewedIdentity (payload : AgentRenewRequest) (issued : IssuedAgentCertificate)
    (generation : Nat) (renewedAt : Time) : AgentIdentity :=
  { id := payload.identityID
    generation := generation
    rotationID := some payload.rotationID
    state := .active
    signingPublicKey := payload.signingPublicKey
    certificateFingerprint := issued.fingerprint
    certificateSerial := some issued.serial
    expiresAt := some issued.expiresAt
    verifiedAt := some renewedAt
    successfulHeartbeats := 0 }

def onlyTheActiveIdentityCanRenew : HTTPException := ⟨409, "only the active identity can renew"⟩

def renewAgentCertificate (settings : Settings) (db : Db) (agentID : String)
    (payload : AgentRenewRequest) (request : AgentRequest) : Transaction := do
  let record ← lockActiveAgent db agentID
  let (authenticated, db) ← verifyAgentRequest settings db record request
  raiseIf (authenticated.state ≠ .active) onlyTheActiveIdentityCanRenew
  match settings.csrError payload.csrPEM payload.signingPublicKey payload.signingKeyProof with
  | some detail => .error ⟨422, detail⟩
  | none =>
  raiseIf (record.identities.any (·.rotationID == some payload.rotationID))
    ⟨409, "rotation id already used"⟩
  let issued ← orRaise payload.issued ⟨503, "certificate issuance unavailable"⟩
  raiseIf (db.identities.any fun identity =>
      identity.certificateFingerprint == issued.fingerprint ||
        identity.certificateSerial == some issued.serial)
    ⟨409, "certificate identity already enrolled"⟩
  let claimed ← claimAgentIdentityVersion record payload.expectedVersion
  let identity := renewedIdentity payload issued claimed.agent.identityVersion db.clock
  commit (db.putRecord (((claimed.put { authenticated with state := .retiring }).add
      identity).carry identity))
    (.ok (.identity identity)) ⟨409, "certificate identity conflict"⟩

/-- The identity part of a heartbeat. -/
def agentHeartbeat (settings : Settings) (db : Db) (agentID : String) (request : AgentRequest) :
    Transaction := do
  let record ← lockActiveAgent db agentID
  raiseIf (!(db.host? record.hostID).any (·.enabled)) ⟨403, "host monitoring is disabled"⟩
  let (authenticated, db) ← verifyAgentRequest settings db record request
  let now := db.clock
  if authenticated.state = .pending then
    let observed := { authenticated with
      successfulHeartbeats := authenticated.successfulHeartbeats + 1
      verifiedAt := authenticated.verifiedAt <|> some now }
    commit (db.putRecord (record.put observed))
      (.ok (.heartbeat false observed.state record.agent.identityVersion)) internalServerError
  else
    let seen := { record with agent := { record.agent with lastHeartbeatAt := some now } }
    commit (db.putRecord seen)
      (.ok (.heartbeat true authenticated.state record.agent.identityVersion)) internalServerError

/-! ### Revocation -/

structure AgentIdentityRevokeRequest where
  expectedVersion : Nat
  crlNumber : Nat
  crlSHA256 : String
  deriving DecidableEq, Repr

/-- The latest publication under the number has to be the one that is claimed. -/
def requireMatchingCRLPublication (db : Db) (payload : AgentIdentityRevokeRequest)
    (certificateSerial : Option String) : Except HTTPException Unit :=
  let publication :=
    (db.publications.filter fun publication => publication.number == payload.crlNumber).getLast?
  raiseIf (certificateSerial = none ∨ !publication.any fun publication =>
      publication.sha256 == payload.crlSHA256 &&
        some publication.certificateSerial == certificateSerial)
    ⟨409, "matching CRL publication is not verified"⟩

def revokeRetiringAgentIdentity (db : Db) (agentID identityID : String)
    (payload : AgentIdentityRevokeRequest) : Transaction := do
  let record ← lockActiveAgent db agentID
  let identity ← findIdentity record identityID
  if identity.state = .revoked then
    return (.ok (.identity identity), db)
  else do
    raiseIf (identity.state ≠ .retiring) ⟨409, "only a retiring identity can be revoked"⟩
    requireMatchingCRLPublication db payload identity.certificateSerial
    let claimed ← claimAgentIdentityVersion record payload.expectedVersion
    let revoked := { identity with state := .revoked }
    commit (db.putRecord (claimed.put revoked)) (.ok (.identity revoked)) internalServerError

def revokeAgent (db : Db) (agentID : String) (payload : AgentIdentityRevokeRequest) :
    Transaction := do
  let record ← lockActiveAgent db agentID
  let activeIdentity ← orRaise (record.inState .active).head?
    ⟨409, "active Agent identity is missing"⟩
  requireMatchingCRLPublication db payload activeIdentity.certificateSerial
  let claimed ← claimAgentIdentityVersion record payload.expectedVersion
  let revoked := claimed.put { activeIdentity with state := .revoked }
  commit (db.putRecord { revoked with agent := { revoked.agent with revokedAt := some db.clock } })
    (.ok .accepted) internalServerError

end VpsGuardian.Controller
