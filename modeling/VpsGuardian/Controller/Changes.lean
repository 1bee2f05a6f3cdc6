import VpsGuardian.Controller.Api

/-!
What one operation can do to the Agent records.

The handlers are taken apart once, here. An operation leaves the records as they
are, changes one of them, or adds one for a host that had none; `Change` lists
the changes. The decommission overwrites an identity by its id alone, so that it
stays within one record only because every session names an identity of the
Agent it was issued for.
-/

namespace VpsGuardian.Controller

open Lib

namespace AgentRecord

/-- The record with a claimed identity version. -/
def claim (record : AgentRecord) : AgentRecord :=
  { record with agent := { record.agent with identityVersion := record.agent.identityVersion + 1 } }

/-- The record of an Agent revoked at a time. -/
def revoke (record : AgentRecord) (now : Time) : AgentRecord :=
  { record with agent := { record.agent with revokedAt := some now } }

theorem mem_put {record : AgentRecord} {identity other : AgentIdentity} :
    other ∈ (record.put identity).identities ↔
      (other = identity ∧ identity.id ∈ record.identities.map (·.id)) ∨
        (other ∈ record.identities ∧ other.id ≠ identity.id) := Table.mem_put

theorem mem_inState {record : AgentRecord} {state : AgentIdentityState}
    {identity : AgentIdentity} :
    identity ∈ record.inState state ↔ identity ∈ record.identities ∧ identity.state = state := by
  simp [inState]

theorem mem_identities_of_head? {record : AgentRecord} {state : AgentIdentityState}
    {identity : AgentIdentity} (h : (record.inState state).head? = some identity) :
    identity ∈ record.identities ∧ identity.state = state :=
  mem_inState.mp (List.mem_of_head? h)

end AgentRecord

/-- Whether an operation enrolls the host of an Agent. -/
def Operation.enrolls (db : Db) (operation : Operation) (record : AgentRecord) : Bool :=
  match operation with
  | .enrollAgent _ _ payload _ =>
      db.hosts.any fun host => host.name == payload.hostName && host.id == record.hostID
  | .bootstrapAgent _ payload _ => record.hostID == payload.hostID
  | _ => false

/-- The session a finalization decommissions an Agent by. -/
def Operation.decommissions? (db : Db) (operation : Operation) :
    Option AgentMaintenanceSession :=
  match operation with
  | .finalizeAgentMaintenance _ sessionID _ =>
      (db.session? sessionID).filter fun session =>
        session.kind = .decommission ∧ session.status = .confirmationPending
  | _ => none

section Change

variable (db : Db) (operation : Operation) (record : AgentRecord)

/-- The changes an operation can make to one Agent record. -/
inductive Change : AgentRecord → Prop
  | seen (hrevoked : record.revoked = false) :
      Change { record with agent := { record.agent with lastHeartbeatAt := some db.clock } }
  | observed {identity : AgentIdentity} (hrevoked : record.revoked = false)
      (hidentity : identity ∈ record.identities) (hpending : identity.state = .pending)
      (verifiedAt : Option Time) (successfulHeartbeats : Nat) :
      Change (record.put { identity with
        verifiedAt := verifiedAt, successfulHeartbeats := successfulHeartbeats })
  | prepared {cleared : AgentRecord} {identity : AgentIdentity} (hrevoked : record.revoked = false)
      (hcleared : cleared = record.claim ∨ ∃ expired ∈ record.identities,
        expired.state = .pending ∧ cleared = record.claim.put { expired with state := .retired })
      (hstate : identity.state = .pending)
      (hgeneration : identity.generation = record.claim.agent.identityVersion) :
      Change (cleared.add identity)
  | activated {identity activeIdentity : AgentIdentity} (hrevoked : record.revoked = false)
      (hidentity : identity ∈ record.identities) (hpending : identity.state = .pending)
      (hunexpired : pendingIdentityIsExpired identity db.clock = false)
      (hactiveIdentity : activeIdentity ∈ record.identities)
      (hactive : activeIdentity.state = .active) :
      Change (((record.claim.put { activeIdentity with state := .retiring }).put
        { identity with state := .active }).carry { identity with state := .active })
  | renewed {authenticated identity : AgentIdentity} (hrevoked : record.revoked = false)
      (hauthenticated : authenticated ∈ record.identities)
      (hactive : authenticated.state = .active) (hstate : identity.state = .active)
      (hgeneration : identity.generation = record.claim.agent.identityVersion) :
      Change (((record.claim.put { authenticated with state := .retiring }).add identity).carry
        identity)
  | retired {identity : AgentIdentity} (hrevoked : record.revoked = false)
      (hidentity : identity ∈ record.identities) (hpending : identity.state = .pending) :
      Change (record.claim.put { identity with state := .retired })
  | revoked {identity : AgentIdentity} (hrevoked : record.revoked = false)
      (hidentity : identity ∈ record.identities) (hretiring : identity.state = .retiring) :
      Change (record.claim.put { identity with state := .revoked })
  | agentRevoked {identity : AgentIdentity} (hrevoked : record.revoked = false)
      (hidentity : identity ∈ record.identities) (hactive : identity.state = .active) :
      Change ((record.claim.put { identity with state := .revoked }).revoke db.clock)
  | decommissioned {identity : AgentIdentity} {session : AgentMaintenanceSession}
      (hidentity : identity ∈ record.identities)
      (hsession : operation.decommissions? db = some session)
      (hsubject : session.subject = (record.id, some identity.id)) :
      Change ((record.put { identity with state := .revoked }).revoke db.clock)
  | reenrolled (hrevoked : record.revoked = true) (henrolls : operation.enrolls db record = true)
      (identityID : String) (keys : IdentityKeys) :
      Change (record.reenroll identityID keys db.clock)

end Change

/-- What an operation can do to all records. -/
inductive Changes (db : Db) (operation : Operation) : List AgentRecord → Prop
  | same : Changes db operation db.records
  | changed {record record' : AgentRecord} (hrecord : record ∈ db.records)
      (hchange : Change db operation record record') :
      Changes db operation (Table.put AgentRecord.id record' db.records)
  | added (hostID agentID identityID : String) (keys : IdentityKeys) :
      Changes db operation
        (db.records ++ [newRecord hostID agentID identityID keys db.clock])

/-- Every session was issued for an identity of its Agent. -/
def SessionsOwned (db : Db) : Prop :=
  ∀ session ∈ db.sessions, ∃ record ∈ db.records, ∃ identity ∈ record.identities,
    session.subject = (record.id, some identity.id)

/-- What an operation leaves behind: the constraints hold, the records changed as
listed, and a session that is not an old one names an active identity. -/
structure Effect (db : Db) (operation : Operation) (db' : Db) : Prop where
  constraints : db'.Constraints
  clock : db'.clock = db.clock
  records : Changes db operation db'.records
  sessions : ∀ session ∈ db'.sessions,
    (∃ old ∈ db.sessions, session.subject = old.subject) ∨
      ∃ record ∈ db.records, ∃ active ∈ record.inState .active,
        session.subject = (record.id, some active.id)

namespace Effect

variable {db db' : Db} {operation : Operation}

/-- A committed transaction that leaves the sessions alone. -/
theorem of_records (hconstraints : db'.Constraints) (hclock : db'.clock = db.clock)
    (hsessions : db'.sessions = db.sessions) (hrecords : Changes db operation db'.records) :
    Effect db operation db' where
  constraints := hconstraints
  clock := hclock
  records := hrecords
  sessions := fun session hsession => .inl ⟨session, hsessions ▸ hsession, rfl⟩

/-- A committed transaction that overwrites one session, under its old subject. -/
theorem of_session {session old : AgentMaintenanceSession} (hconstraints : db'.Constraints)
    (hclock : db'.clock = db.clock) (hold : old ∈ db.sessions)
    (hsubject : session.subject = old.subject)
    (hsessions : db'.sessions = Table.put (·.id) session db.sessions)
    (hrecords : Changes db operation db'.records) : Effect db operation db' where
  constraints := hconstraints
  clock := hclock
  records := hrecords
  sessions := by
    intro other hother
    rw [hsessions] at hother
    rcases Table.mem_put.mp hother with ⟨rfl, -⟩ | ⟨hmem, -⟩
    · exact .inl ⟨old, hold, hsubject⟩
    · exact .inl ⟨other, hmem, rfl⟩

end Effect

/-! ### The identity handlers -/

theorem claimAgentIdentityVersion_ok {record claimed : AgentRecord} {expectedVersion : Nat}
    (h : claimAgentIdentityVersion record expectedVersion = .ok claimed) :
    claimed = record.claim := by
  unfold claimAgentIdentityVersion at h
  obtain ⟨-, h⟩ := raiseIf_bind_eq_ok.mp h
  cases h
  rfl

/-- A claim succeeds at the current version only. -/
theorem version_of_claim {record claimed : AgentRecord} {expectedVersion : Nat}
    (h : claimAgentIdentityVersion record expectedVersion = .ok claimed) :
    record.agent.identityVersion = expectedVersion := by
  unfold claimAgentIdentityVersion at h
  obtain ⟨hversion, -⟩ := raiseIf_bind_eq_ok.mp h
  exact not_not.mp (not_or.mp hversion).1

theorem mem_of_lockActiveAgent {db : Db} {agentID : String} {record : AgentRecord}
    (h : lockActiveAgent db agentID = .ok record) :
    record ∈ db.records ∧ record.revoked = false := by
  obtain ⟨hrecord, hrevoked⟩ := lockActiveAgent_eq_ok.mp h
  exact ⟨Table.mem_of_lookup hrecord, hrevoked⟩

theorem mem_of_findIdentity {record : AgentRecord} {identityID : String}
    {identity : AgentIdentity} (h : findIdentity record identityID = .ok identity) :
    identity ∈ record.identities := by
  unfold findIdentity at h
  exact Table.mem_of_lookup (orRaise_eq_ok.mp h)

section Handlers

variable {settings : Settings} {db db' : Db} {reply : Except HTTPException Reply}

/-- An enrollment that succeeds starts a new record or takes a revoked one into use. -/
theorem establish_effect {operation : Operation} {before : Db} {hostID : String}
    {ids : EnrollmentIDs} {keys : IdentityKeys} {conflict : HTTPException}
    (hrecords : db.records = before.records) (hclock : db.clock = before.clock)
    (hsessions : db.sessions = before.sessions)
    (henrolls : ∀ record ∈ before.records, record.hostID = hostID →
      (db.hosts.map (·.id)).Nodup → operation.enrolls before record = true)
    (h : establish db hostID ids keys conflict = .ok (reply, db')) :
    Effect before operation db' := by
  unfold establish at h
  cases hrecord : db.hostAgent? hostID with
  | none =>
      rw [hrecord] at h
      obtain ⟨hconstraints, -, rfl⟩ := commit_eq_ok.mp h
      refine Effect.of_records hconstraints hclock hsessions ?_
      show Changes before operation (db.records ++ _)
      rw [hrecords, hclock]
      exact .added hostID ids.agentID ids.identityID keys
  | some record =>
      rw [hrecord] at h
      obtain ⟨hrevoked, h⟩ := raiseIf_bind_eq_ok.mp h
      obtain ⟨hconstraints, -, rfl⟩ := commit_eq_ok.mp h
      have hmem : record ∈ db.records := Table.mem_of_lookup hrecord
      refine Effect.of_records hconstraints hclock hsessions ?_
      show Changes before operation (Table.put AgentRecord.id _ db.records)
      rw [hrecords, hclock]
      refine .changed (hrecords ▸ hmem) (.reenrolled ?_ ?_ ids.identityID keys)
      · simpa using hrevoked
      · exact henrolls record (hrecords ▸ hmem) (Table.key_of_lookup hrecord) hconstraints.hostIDs

theorem consumeEnrollmentToken_ok {token : EnrollmentToken} {host : Host}
    (h : consumeEnrollmentToken db token = .ok host) : host ∈ db.hosts := by
  cases token with
  | oneTime hostID =>
      obtain ⟨found, hfound, h⟩ := orRaise_bind_eq_ok.mp h
      obtain ⟨-, h⟩ := raiseIf_bind_eq_ok.mp h
      cases h
      exact Table.mem_of_lookup hfound
  | missing => cases h
  | rejected detail => cases h
  | legacy => cases h

theorem enrollmentHost_ok {token : EnrollmentToken} {host : Host}
    (h : enrollmentHost settings db token = .ok (some host)) : host ∈ db.hosts := by
  unfold enrollmentHost at h
  cases hconsume : consumeEnrollmentToken db token with
  | ok found =>
      rw [hconsume] at h
      cases h
      exact consumeEnrollmentToken_ok hconsume
  | error detail =>
      simp only [hconsume] at h
      split at h <;> cases h

theorem enrollAgent_effect (hdb : db.Constraints) {token : EnrollmentToken}
    {request : AgentRequest} {payload : AgentEnrollRequest} {ids : EnrollmentIDs}
    (h : enrollAgent settings db token request payload ids = .ok (reply, db')) :
    Effect db (.enrollAgent token request payload ids) db' := by
  unfold enrollAgent at h
  obtain ⟨-, h⟩ := raiseIf_bind_eq_ok.mp h
  obtain ⟨tokenHost, htoken, h⟩ := bind_eq_ok.mp h
  obtain ⟨fingerprint, -, h⟩ := orRaise_bind_eq_ok.mp h
  obtain ⟨certificateSerial, -, h⟩ := bind_eq_ok.mp h
  simp only [raiseIf_bind_eq_ok] at h
  obtain ⟨-, -, hname, h⟩ := h
  split at h
  · -- The host of the token, or the one that has the name already.
    rename_i host hhost
    have hknown : host ∈ db.hosts ∧ host.name = payload.hostName := by
      cases tokenHost with
      | some found =>
          obtain rfl : found = host := by simpa using hhost
          exact ⟨enrollmentHost_ok htoken, by simpa using hname⟩
      | none =>
          have hlookup : Table.lookup (·.name) payload.hostName db.hosts = some host := hhost
          exact ⟨Table.mem_of_lookup hlookup, Table.key_of_lookup hlookup⟩
    refine establish_effect rfl rfl rfl ?_ h
    intro record _ hhostID _
    rw [Operation.enrolls, List.any_eq_true]
    exact ⟨host, hknown.1, by simp [hknown.2, hhostID]⟩
  · -- A new host has no Agent yet, since every Agent has its host.
    refine establish_effect ?_ ?_ ?_ ?_ h
    · rfl
    · rfl
    · rfl
    intro record hrecord hhostID hnodup
    have hrow := hdb.hostRows record hrecord
    rw [List.map_append, List.nodup_append] at hnodup
    exact absurd rfl (hnodup.2.2 _ hrow _ (by simp [hhostID]))

theorem bootstrapAgent_effect {token : EnrollmentToken} {payload : AgentBootstrapRequest}
    {ids : EnrollmentIDs} (h : bootstrapAgent settings db token payload ids = .ok (reply, db')) :
    Effect db (.bootstrapAgent token payload ids) db' := by
  unfold bootstrapAgent at h
  obtain ⟨-, h⟩ := raiseIf_bind_eq_ok.mp h
  split at h
  · cases h
  · obtain ⟨host, -, h⟩ := bind_eq_ok.mp h
    simp only [raiseIf_bind_eq_ok] at h
    obtain ⟨hhost, -, h⟩ := h
    obtain ⟨issued, -, h⟩ := orRaise_bind_eq_ok.mp h
    refine establish_effect rfl rfl rfl ?_ h
    intro record _ hhostID _
    simpa [Operation.enrolls, hhostID] using hhost

theorem prepareAgentIdentity_effect {agentID : String} {payload : AgentRotateRequest}
    (h : prepareAgentIdentity settings db agentID payload = .ok (reply, db')) :
    Effect db (.prepareAgentIdentity agentID payload) db' := by
  unfold prepareAgentIdentity at h
  obtain ⟨record, hlock, h⟩ := bind_eq_ok.mp h
  obtain ⟨hrecord, hrevoked⟩ := mem_of_lockActiveAgent hlock
  obtain ⟨fingerprint, -, h⟩ := orRaise_bind_eq_ok.mp h
  obtain ⟨certificateSerial, -, h⟩ := orRaise_bind_eq_ok.mp h
  have hsame (hcommit : db.Constraints ∧ db = db') :
      Effect db (.prepareAgentIdentity agentID payload) db' := by
    obtain ⟨hconstraints, rfl⟩ := hcommit
    exact Effect.of_records hconstraints rfl rfl .same
  split at h
  · split at h
    · obtain ⟨hconstraints, -, heq⟩ := commit_eq_ok.mp h
      exact hsame ⟨hconstraints, heq⟩
    · obtain ⟨hconstraints, -, heq⟩ := commit_eq_ok.mp h
      exact hsame ⟨hconstraints, heq⟩
  · simp only [raiseIf_bind_eq_ok] at h
    obtain ⟨-, -, h⟩ := h
    split at h
    · obtain ⟨hconstraints, -, heq⟩ := commit_eq_ok.mp h
      exact hsame ⟨hconstraints, heq⟩
    · obtain ⟨claimed, hclaim, h⟩ := bind_eq_ok.mp h
      obtain rfl := claimAgentIdentityVersion_ok hclaim
      obtain ⟨hconstraints, -, rfl⟩ := commit_eq_ok.mp h
      refine Effect.of_records hconstraints rfl rfl
        (.changed hrecord (.prepared hrevoked ?_ rfl rfl))
      cases hpending : (record.inState .pending).head? with
      | none => exact .inl rfl
      | some expired =>
          obtain ⟨hmem, hstate⟩ := AgentRecord.mem_identities_of_head? hpending
          exact .inr ⟨expired, hmem, hstate, rfl⟩

theorem activateAgentIdentity_effect {agentID identityID : String} {expectedVersion : Nat}
    (h : activateAgentIdentity db agentID identityID expectedVersion = .ok (reply, db')) :
    Effect db (.activateAgentIdentity agentID identityID expectedVersion) db' := by
  unfold activateAgentIdentity at h
  obtain ⟨record, hlock, h⟩ := bind_eq_ok.mp h
  obtain ⟨hrecord, hrevoked⟩ := mem_of_lockActiveAgent hlock
  obtain ⟨identity, hidentity, h⟩ := bind_eq_ok.mp h
  replace hidentity := mem_of_findIdentity hidentity
  obtain ⟨hpending, h⟩ := raiseIf_bind_eq_ok.mp h
  replace hpending : identity.state = .pending := by simpa using hpending
  dsimp only at h
  split at h
  · obtain ⟨claimed, hclaim, h⟩ := bind_eq_ok.mp h
    obtain rfl := claimAgentIdentityVersion_ok hclaim
    obtain ⟨hconstraints, -, rfl⟩ := commit_eq_ok.mp h
    exact Effect.of_records hconstraints rfl rfl
      (.changed hrecord (.retired hrevoked hidentity hpending))
  · rename_i hunexpired
    obtain ⟨-, h⟩ := raiseIf_bind_eq_ok.mp h
    obtain ⟨activeIdentity, hactive, h⟩ := orRaise_bind_eq_ok.mp h
    obtain ⟨hmem, hstate⟩ := AgentRecord.mem_identities_of_head? hactive
    obtain ⟨claimed, hclaim, h⟩ := bind_eq_ok.mp h
    obtain rfl := claimAgentIdentityVersion_ok hclaim
    obtain ⟨hconstraints, -, rfl⟩ := commit_eq_ok.mp h
    exact Effect.of_records hconstraints rfl rfl (.changed hrecord
      (.activated hrevoked hidentity hpending (by simpa using hunexpired) hmem hstate))

theorem retirePendingAgentIdentity_effect {agentID identityID : String} {expectedVersion : Nat}
    (h : retirePendingAgentIdentity db agentID identityID expectedVersion = .ok (reply, db')) :
    Effect db (.retirePendingAgentIdentity agentID identityID expectedVersion) db' := by
  unfold retirePendingAgentIdentity at h
  obtain ⟨record, hlock, h⟩ := bind_eq_ok.mp h
  obtain ⟨hrecord, hrevoked⟩ := mem_of_lockActiveAgent hlock
  obtain ⟨identity, hidentity, h⟩ := bind_eq_ok.mp h
  obtain ⟨hpending, h⟩ := raiseIf_bind_eq_ok.mp h
  obtain ⟨claimed, hclaim, h⟩ := bind_eq_ok.mp h
  obtain rfl := claimAgentIdentityVersion_ok hclaim
  obtain ⟨hconstraints, -, rfl⟩ := commit_eq_ok.mp h
  exact Effect.of_records hconstraints rfl rfl (.changed hrecord
    (.retired hrevoked (mem_of_findIdentity hidentity) (by simpa using hpending)))

theorem validatePendingAgentIdentity_effect {agentID identityID : String} {expectedVersion : Nat}
    {request : AgentRequest} (h : validatePendingAgentIdentity settings db agentID identityID
      expectedVersion request = .ok (reply, db')) :
    Effect db (.validatePendingAgentIdentity agentID identityID expectedVersion request) db' := by
  unfold validatePendingAgentIdentity at h
  obtain ⟨record, hlock, h⟩ := bind_eq_ok.mp h
  obtain ⟨hrecord, hrevoked⟩ := mem_of_lockActiveAgent hlock
  obtain ⟨identity, hidentity, h⟩ := bind_eq_ok.mp h
  simp only [raiseIf_bind_eq_ok] at h
  obtain ⟨hpending, -, -, h⟩ := h
  obtain ⟨⟨authenticated, verified⟩, hverify, h⟩ := bind_eq_ok.mp h
  obtain ⟨-, -, nonces, rfl⟩ := verifyAgentRequest_ok hverify
  obtain ⟨-, h⟩ := raiseIf_bind_eq_ok.mp h
  obtain ⟨hconstraints, -, rfl⟩ := commit_eq_ok.mp h
  exact Effect.of_records hconstraints rfl rfl (.changed hrecord (.observed hrevoked
    (mem_of_findIdentity hidentity) (by simpa using hpending) _ identity.successfulHeartbeats))

/-- A renewal that succeeds: the record before, the identity that renewed, and the
identity that is active afterwards, of the generation after the expected version. -/
theorem renewAgentCertificate_ok {agentID : String} {payload : AgentRenewRequest}
    {request : AgentRequest}
    (h : renewAgentCertificate settings db agentID payload request = .ok (reply, db')) :
    ∃ record authenticated issued nonces, db.record? agentID = some record ∧
      record.revoked = false ∧ authenticated ∈ record.identities ∧
      authenticated.state = .active ∧ record.agent.identityVersion = payload.expectedVersion ∧
      db'.Constraints ∧
      let identity := renewedIdentity payload issued record.claim.agent.identityVersion db.clock
      reply = .ok (.identity identity) ∧
        db' = { db with nonces := nonces }.putRecord
          (((record.claim.put { authenticated with state := .retiring }).add identity).carry
            identity) := by
  unfold renewAgentCertificate at h
  obtain ⟨record, hlock, h⟩ := bind_eq_ok.mp h
  obtain ⟨hrecord, hrevoked⟩ := lockActiveAgent_eq_ok.mp hlock
  obtain ⟨⟨authenticated, verified⟩, hverify, h⟩ := bind_eq_ok.mp h
  obtain ⟨hmem, -, nonces, rfl⟩ := verifyAgentRequest_ok hverify
  obtain ⟨hactive, h⟩ := raiseIf_bind_eq_ok.mp h
  split at h
  · cases h
  · obtain ⟨-, h⟩ := raiseIf_bind_eq_ok.mp h
    obtain ⟨issued, -, h⟩ := orRaise_bind_eq_ok.mp h
    obtain ⟨-, h⟩ := raiseIf_bind_eq_ok.mp h
    obtain ⟨claimed, hclaim, h⟩ := bind_eq_ok.mp h
    have hversion := version_of_claim hclaim
    obtain rfl := claimAgentIdentityVersion_ok hclaim
    obtain ⟨hconstraints, hreply, rfl⟩ := commit_eq_ok.mp h
    exact ⟨record, authenticated, issued, nonces, hrecord, hrevoked, hmem,
      by simpa using hactive, hversion, hconstraints, hreply.symm, rfl⟩

theorem renewAgentCertificate_effect {agentID : String} {payload : AgentRenewRequest}
    {request : AgentRequest}
    (h : renewAgentCertificate settings db agentID payload request = .ok (reply, db')) :
    Effect db (.renewAgentCertificate agentID payload request) db' := by
  obtain ⟨record, authenticated, issued, nonces, hrecord, hrevoked, hmem, hactive, -,
    hconstraints, -, rfl⟩ := renewAgentCertificate_ok h
  exact Effect.of_records hconstraints rfl rfl (.changed (Table.mem_of_lookup hrecord)
    (.renewed hrevoked hmem hactive rfl rfl))

/-- A heartbeat that succeeds writes to a pending identity or to the Agent row. -/
theorem agentHeartbeat_ok {agentID : String} {request : AgentRequest}
    (h : agentHeartbeat settings db agentID request = .ok (reply, db')) :
    ∃ record record' nonces, db.record? agentID = some record ∧ record.revoked = false ∧
      db'.Constraints ∧ db' = { db with nonces := nonces }.putRecord record' ∧
      (record' = { record with agent := { record.agent with lastHeartbeatAt := some db.clock } } ∨
        ∃ identity ∈ record.identities, identity.state = .pending ∧
          ∃ verifiedAt successfulHeartbeats, record' = record.put { identity with
            verifiedAt := verifiedAt, successfulHeartbeats := successfulHeartbeats }) := by
  unfold agentHeartbeat at h
  obtain ⟨record, hlock, h⟩ := bind_eq_ok.mp h
  obtain ⟨hrecord, hrevoked⟩ := lockActiveAgent_eq_ok.mp hlock
  obtain ⟨-, h⟩ := raiseIf_bind_eq_ok.mp h
  obtain ⟨⟨authenticated, verified⟩, hverify, h⟩ := bind_eq_ok.mp h
  obtain ⟨hmem, -, nonces, rfl⟩ := verifyAgentRequest_ok hverify
  dsimp only at h
  split at h
  · rename_i hpending
    obtain ⟨hconstraints, -, rfl⟩ := commit_eq_ok.mp h
    exact ⟨record, _, nonces, hrecord, hrevoked, hconstraints, rfl,
      .inr ⟨authenticated, hmem, hpending, _, _, rfl⟩⟩
  · obtain ⟨hconstraints, -, rfl⟩ := commit_eq_ok.mp h
    exact ⟨record, _, nonces, hrecord, hrevoked, hconstraints, rfl, .inl rfl⟩

theorem agentHeartbeat_effect {agentID : String} {request : AgentRequest}
    (h : agentHeartbeat settings db agentID request = .ok (reply, db')) :
    Effect db (.agentHeartbeat agentID request) db' := by
  obtain ⟨record, record', nonces, hrecord, hrevoked, hconstraints, rfl, hwritten⟩ :=
    agentHeartbeat_ok h
  refine Effect.of_records hconstraints rfl rfl (.changed (Table.mem_of_lookup hrecord) ?_)
  rcases hwritten with rfl | ⟨identity, hmem, hpending, verifiedAt, beats, rfl⟩
  · exact .seen hrevoked
  · exact .observed hrevoked hmem hpending verifiedAt beats

theorem revokeRetiringAgentIdentity_effect (hdb : db.Constraints) {agentID identityID : String}
    {payload : AgentIdentityRevokeRequest}
    (h : revokeRetiringAgentIdentity db agentID identityID payload = .ok (reply, db')) :
    Effect db (.revokeRetiringAgentIdentity agentID identityID payload) db' := by
  unfold revokeRetiringAgentIdentity at h
  obtain ⟨record, hlock, h⟩ := bind_eq_ok.mp h
  obtain ⟨hrecord, hrevoked⟩ := mem_of_lockActiveAgent hlock
  obtain ⟨identity, hidentity, h⟩ := bind_eq_ok.mp h
  split at h
  · cases h
    exact Effect.of_records hdb rfl rfl .same
  · obtain ⟨hretiring, h⟩ := raiseIf_bind_eq_ok.mp h
    obtain ⟨_, -, h⟩ := bind_eq_ok.mp h
    obtain ⟨claimed, hclaim, h⟩ := bind_eq_ok.mp h
    obtain rfl := claimAgentIdentityVersion_ok hclaim
    obtain ⟨hconstraints, -, rfl⟩ := commit_eq_ok.mp h
    exact Effect.of_records hconstraints rfl rfl (.changed hrecord
      (.revoked hrevoked (mem_of_findIdentity hidentity) (by simpa using hretiring)))

/-- A revoked Agent: its record before, its active identity, and the database after. -/
theorem revokeAgent_ok {agentID : String} {payload : AgentIdentityRevokeRequest}
    (h : revokeAgent db agentID payload = .ok (reply, db')) :
    ∃ record identity, db.record? agentID = some record ∧ record.revoked = false ∧
      identity ∈ record.identities ∧ identity.state = .active ∧ db'.Constraints ∧
      db' = db.putRecord
        ((record.claim.put { identity with state := .revoked }).revoke db.clock) := by
  unfold revokeAgent at h
  obtain ⟨record, hlock, h⟩ := bind_eq_ok.mp h
  obtain ⟨hrecord, hrevoked⟩ := lockActiveAgent_eq_ok.mp hlock
  obtain ⟨identity, hactive, h⟩ := orRaise_bind_eq_ok.mp h
  obtain ⟨hmem, hstate⟩ := AgentRecord.mem_identities_of_head? hactive
  obtain ⟨_, -, h⟩ := bind_eq_ok.mp h
  obtain ⟨claimed, hclaim, h⟩ := bind_eq_ok.mp h
  obtain rfl := claimAgentIdentityVersion_ok hclaim
  obtain ⟨hconstraints, -, rfl⟩ := commit_eq_ok.mp h
  exact ⟨record, identity, hrecord, hrevoked, hmem, hstate, hconstraints, rfl⟩

theorem revokeAgent_effect {agentID : String} {payload : AgentIdentityRevokeRequest}
    (h : revokeAgent db agentID payload = .ok (reply, db')) :
    Effect db (.revokeAgent agentID payload) db' := by
  obtain ⟨record, identity, hrecord, hrevoked, hmem, hstate, hconstraints, rfl⟩ := revokeAgent_ok h
  exact Effect.of_records hconstraints rfl rfl
    (.changed (Table.mem_of_lookup hrecord) (.agentRevoked hrevoked hmem hstate))

/-! ### The maintenance handlers -/

theorem createAgentMaintenanceSession_effect {hostID : String} {payload : AgentMaintenanceIssue}
    {approval : Option Approval}
    (h : createAgentMaintenanceSession settings db hostID payload approval = .ok (reply, db')) :
    Effect db (.createAgentMaintenanceSession hostID payload approval) db' := by
  unfold createAgentMaintenanceSession at h
  obtain ⟨host, -, h⟩ := orRaise_bind_eq_ok.mp h
  obtain ⟨record, hrecord, h⟩ := orRaise_bind_eq_ok.mp h
  simp only [raiseIf_bind_eq_ok] at h
  obtain ⟨-, -, h⟩ := h
  obtain ⟨⟨session, issued⟩, hissue, h⟩ := bind_eq_ok.mp h
  obtain ⟨active, hactive, hsubject, rfl⟩ := issueMaintenanceSession_ok (mapError_eq_ok.mp hissue)
  obtain ⟨-, h⟩ := raiseIf_bind_eq_ok.mp h
  obtain ⟨hconstraints, -, rfl⟩ := commit_eq_ok.mp h
  refine ⟨hconstraints, rfl, .same, ?_⟩
  intro other hother
  rcases List.mem_append.mp hother with hother | hother
  · obtain ⟨old, hold, rfl⟩ := List.mem_map.mp hother
    exact .inl ⟨old, hold, supersede_subject _ _ old⟩
  · obtain rfl : other = session := by simpa using hother
    exact .inr ⟨record, Table.mem_of_lookup hrecord, active, hactive, hsubject⟩

theorem startAgentMaintenance_effect {payload : AgentMaintenanceStart} {request : AgentRequest}
    (h : startAgentMaintenance settings db payload request = .ok (reply, db')) :
    Effect db (.startAgentMaintenance payload request) db' := by
  unfold startAgentMaintenance at h
  obtain ⟨-, h⟩ := raiseIf_bind_eq_ok.mp h
  obtain ⟨session, hsession, h⟩ := bind_eq_ok.mp h
  obtain ⟨waiting, hwaiting, hid, hsubject⟩ :=
    consumeMaintenanceSession_ok (mapError_eq_ok.mp hsession)
  obtain ⟨record, -, h⟩ := orRaise_bind_eq_ok.mp h
  obtain ⟨identity, -, h⟩ := orRaise_bind_eq_ok.mp h
  obtain ⟨⟨fingerprint, serial⟩, -, h⟩ := bind_eq_ok.mp h
  obtain ⟨-, h⟩ := raiseIf_bind_eq_ok.mp h
  obtain ⟨hconstraints, -, rfl⟩ := commit_eq_ok.mp h
  exact Effect.of_session hconstraints rfl hwaiting hsubject rfl .same

theorem observeHeartbeat_ok {record : Option AgentRecord}
    {session observed : AgentMaintenanceSession} {kind : AgentMaintenanceKind}
    (h : observeHeartbeat record session kind = .ok observed) :
    observed.id = session.id ∧ observed.subject = session.subject := by
  unfold observeHeartbeat at h
  obtain ⟨found, -, h⟩ := orRaise_bind_eq_ok.mp h
  obtain ⟨heartbeat, -, h⟩ := orRaise_bind_eq_ok.mp h
  obtain ⟨sessionStarted, -, h⟩ := orRaise_bind_eq_ok.mp h
  obtain ⟨-, h⟩ := raiseIf_bind_eq_ok.mp h
  have hrotation (h : observeRotation found session = .ok observed) :
      observed.id = session.id ∧ observed.subject = session.subject := by
    unfold observeRotation at h
    obtain ⟨-, h⟩ := raiseIf_bind_eq_ok.mp h
    obtain ⟨active, -, h⟩ := orRaise_bind_eq_ok.mp h
    obtain ⟨-, h⟩ := raiseIf_bind_eq_ok.mp h
    cases h
    exact ⟨rfl, rfl⟩
  cases kind with
  | repair =>
      cases h
      exact ⟨rfl, rfl⟩
  | reinstall => exact hrotation h
  | rotateIdentity => exact hrotation h
  | decommission =>
      cases h
      exact ⟨rfl, rfl⟩

theorem maintenanceProgress_ok {payload : AgentMaintenanceProgress}
    {session : AgentMaintenanceSession}
    (h : maintenanceProgress settings db payload = .ok session) :
    ∃ old ∈ db.sessions, session.id = old.id ∧ session.subject = old.subject := by
  unfold maintenanceProgress at h
  obtain ⟨old, hold, h⟩ := bind_eq_ok.mp h
  obtain ⟨observed, hobserved, h⟩ := bind_eq_ok.mp h
  obtain ⟨-, h⟩ := raiseIf_bind_eq_ok.mp h
  obtain rfl := advanceMaintenance_ok h
  have hkept : observed.id = old.id ∧ observed.subject = old.subject := by
    unfold observeProgress at hobserved
    split at hobserved
    · exact observeHeartbeat_ok hobserved
    · cases hobserved
      exact ⟨rfl, rfl⟩
  exact ⟨old, authenticateMaintenanceProgress_ok hold, hkept.1, hkept.2⟩

theorem reportAgentMaintenanceProgress_effect {payload : AgentMaintenanceProgress}
    (h : reportAgentMaintenanceProgress settings db payload = .ok (reply, db')) :
    Effect db (.reportAgentMaintenanceProgress payload) db' := by
  unfold reportAgentMaintenanceProgress at h
  obtain ⟨-, h⟩ := raiseIf_bind_eq_ok.mp h
  obtain ⟨session, hsession, h⟩ := bind_eq_ok.mp h
  obtain ⟨old, hold, -, hsubject⟩ := maintenanceProgress_ok (mapError_eq_ok.mp hsession)
  obtain ⟨hconstraints, -, rfl⟩ := commit_eq_ok.mp h
  exact Effect.of_session hconstraints rfl hold hsubject rfl .same

/-- Overwriting an identity by its id reaches only the record that has it. -/
theorem putIdentity_records (hdb : db.Constraints) {record : AgentRecord}
    {identity identity' : AgentIdentity} (hrecord : record ∈ db.records)
    (hidentity : identity ∈ record.identities) (hid : identity'.id = identity.id) :
    (db.putIdentity identity').records =
      Table.put AgentRecord.id (record.put identity') db.records := by
  refine List.map_congr_left fun other hother => ?_
  by_cases hsame : other.id = (record.put identity').id
  · rw [if_pos hsame, Table.eq_of_mem hdb.agentIDs hother hrecord hsame]
  · rw [if_neg hsame]
    have hforeign : identity'.id ∉ other.identities.map (·.id) := by
      intro hmem
      obtain ⟨child, hchild, hchild'⟩ := List.mem_map.mp hmem
      have howner : other = record := Table.owner_unique hdb.identityIDs hother hrecord hchild
        hidentity (hchild'.trans hid)
      have hsame' : other.id = record.id := congrArg AgentRecord.id howner
      exact hsame hsame'
    rw [AgentRecord.put, Table.put_of_not_mem hforeign]

/-- A decommission revokes the session's identity and the Agent it belongs to. -/
theorem decommission_ok (hdb : db.Constraints) {host : Host} {session : AgentMaintenanceSession}
    {payload : AgentMaintenanceFinalize} {record : AgentRecord} {identity : AgentIdentity}
    (hrecord : record ∈ db.records) (hidentity : identity ∈ record.identities)
    (hsubject : session.subject = (record.id, some identity.id))
    (h : decommission db host session payload = .ok db') :
    db' = { db with
      records := Table.put AgentRecord.id
        ((record.put { identity with state := .revoked }).revoke db.clock) db.records
      hosts := Table.put (·.id) { host with enabled := false } db.hosts } := by
  have hagent : session.agentID = record.id := congrArg Prod.fst hsubject
  have hold : session.oldIdentityID = some identity.id := congrArg Prod.snd hsubject
  unfold decommission at h
  obtain ⟨found, hfound, h⟩ := orRaise_bind_eq_ok.mp h
  obtain ⟨crlNumber, -, h⟩ := orRaise_bind_eq_ok.mp h
  obtain ⟨crlSHA256, -, h⟩ := orRaise_bind_eq_ok.mp h
  obtain ⟨_, -, h⟩ := bind_eq_ok.mp h
  obtain ⟨updated, hupdated, h⟩ := orRaise_bind_eq_ok.mp h
  rw [hold] at hfound
  have hmem : identity ∈ db.identities := List.mem_flatMap.mpr ⟨record, hrecord, hidentity⟩
  obtain rfl : found = identity :=
    Table.eq_of_mem hdb.identityIDs (Table.mem_of_lookup hfound) hmem (Table.key_of_lookup hfound)
  have hrecords : (db.putIdentity { found with state := .revoked }).records = _ :=
    putIdentity_records hdb hrecord hidentity rfl
  obtain rfl : updated = record.put { found with state := .revoked } := by
    unfold Db.record? at hupdated
    rw [hrecords] at hupdated
    have hkey : (record.put { found with state := .revoked }).id ∈
        db.records.map AgentRecord.id := List.mem_map.mpr ⟨record, hrecord, rfl⟩
    have hnodup : ((Table.put AgentRecord.id (record.put { found with state := .revoked })
        db.records).map AgentRecord.id).Nodup := by
      rw [Table.map_key_put]
      exact hdb.agentIDs
    refine Table.eq_of_mem hnodup (Table.mem_of_lookup hupdated) (Table.mem_put_self hkey) ?_
    rw [Table.key_of_lookup hupdated, hagent]
    rfl
  cases h
  unfold Db.putRecord
  rw [hrecords, Table.put_put]
  · rfl
  · rfl

theorem finalization_records (hdb : db.Constraints) (howned : SessionsOwned db)
    (hostID : String) {sessionID : String} {host : Host} {session : AgentMaintenanceSession}
    {payload : AgentMaintenanceFinalize} (hsession : db.session? sessionID = some session)
    (hstatus : session.status = .confirmationPending)
    (h : finalization db host session payload = .ok db') :
    Changes db (.finalizeAgentMaintenance hostID sessionID payload) db'.records ∧
      db'.clock = db.clock ∧ db'.sessions = db.sessions := by
  unfold finalization at h
  split at h
  · rename_i hkind
    obtain ⟨record, hrecord, identity, hidentity, hsubject⟩ :=
      howned session (Table.mem_of_lookup hsession)
    obtain rfl := decommission_ok hdb hrecord hidentity hsubject h
    refine ⟨.changed hrecord (.decommissioned hidentity ?_ hsubject), rfl, rfl⟩
    simp [Operation.decommissions?, hsession, hkind, hstatus]
  · obtain ⟨_, -, h⟩ := bind_eq_ok.mp h
    cases h
    exact ⟨.same, rfl, rfl⟩
  · obtain ⟨_, -, h⟩ := bind_eq_ok.mp h
    cases h
    exact ⟨.same, rfl, rfl⟩
  · cases h
    exact ⟨.same, rfl, rfl⟩

/-- A finalization completes its session after its own branch. -/
theorem finalizeAgentMaintenance_ok {hostID sessionID : String} {payload : AgentMaintenanceFinalize}
    (h : finalizeAgentMaintenance db hostID sessionID payload = .ok (reply, db')) :
    ∃ host session finalized, db.session? sessionID = some session ∧
      session.status = .confirmationPending ∧
      finalization db host session payload = .ok finalized ∧ db'.Constraints ∧
      reply = .ok (.maintenance (session.record .completed)) ∧
      db' = finalized.putSession (session.record .completed) := by
  unfold finalizeAgentMaintenance at h
  obtain ⟨host, -, h⟩ := orRaise_bind_eq_ok.mp h
  obtain ⟨session, hsession, h⟩ := orRaise_bind_eq_ok.mp h
  simp only [raiseIf_bind_eq_ok] at h
  obtain ⟨-, hstatus, -, h⟩ := h
  obtain ⟨record, -, h⟩ := orRaise_bind_eq_ok.mp h
  obtain ⟨-, h⟩ := raiseIf_bind_eq_ok.mp h
  obtain ⟨finalized, hfinalized, h⟩ := bind_eq_ok.mp h
  obtain ⟨completed, hcompleted, h⟩ := bind_eq_ok.mp h
  obtain rfl := advanceMaintenance_ok (mapError_eq_ok.mp hcompleted)
  obtain ⟨hconstraints, hreply, rfl⟩ := commit_eq_ok.mp h
  exact ⟨host, session, finalized, hsession, by simpa using hstatus, hfinalized, hconstraints,
    hreply.symm, rfl⟩

theorem finalizeAgentMaintenance_effect (hdb : db.Constraints) (howned : SessionsOwned db)
    {hostID sessionID : String} {payload : AgentMaintenanceFinalize}
    (h : finalizeAgentMaintenance db hostID sessionID payload = .ok (reply, db')) :
    Effect db (.finalizeAgentMaintenance hostID sessionID payload) db' := by
  obtain ⟨host, session, finalized, hsession, hstatus, hfinalized, hconstraints, -, rfl⟩ :=
    finalizeAgentMaintenance_ok h
  obtain ⟨hrecords, hclock, hsessions⟩ :=
    finalization_records hdb howned hostID hsession hstatus hfinalized
  refine Effect.of_session hconstraints hclock (Table.mem_of_lookup hsession)
    (record_subject session .completed) ?_ hrecords
  show Table.put _ _ finalized.sessions = _
  rw [hsessions]

end Handlers

end VpsGuardian.Controller
