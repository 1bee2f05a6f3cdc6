import VpsGuardian.Lib.Trace
import VpsGuardian.Controller.Soundness

/-!
What one operation can do to the maintenance sessions.

The handlers of identities leave the sessions alone. The others overwrite one session, or
supersede the waiting sessions of a host and add a new one.
-/

namespace VpsGuardian.Controller

open Lib

/-- A heartbeat after the start of a session and, where the identity was to be replaced, an
active identity that is not the old one. -/
structure Verified (db : Db) (session : AgentMaintenanceSession) : Prop where
  status : session.status = .heartbeatVerified
  observed : ∃ record, db.record? session.agentID = some record ∧
    (∃ usedAt ∈ session.usedAt, ∃ heartbeat ∈ record.agent.lastHeartbeatAt, usedAt < heartbeat) ∧
    (session.kind = .reinstall ∨ session.kind = .rotateIdentity →
      ∃ active ∈ record.inState .active, session.newIdentityID = some active.id ∧
        session.oldIdentityID ≠ some active.id)

/-- The session a progress report is about. -/
def AgentMaintenanceProgress.session? (settings : Settings) (db : Db)
    (payload : AgentMaintenanceProgress) : Option AgentMaintenanceSession :=
  (authenticateMaintenanceProgress settings db payload.credential payload.kind).toOption

section SessionChange

variable (settings : Settings) (db : Db) (operation : Operation)
  (session : AgentMaintenanceSession)

/-- What an operation can do to one session. -/
inductive SessionChange : AgentMaintenanceSession → Prop
  | kept : SessionChange session
  | superseded (hwaiting : session.status = .waiting) :
      SessionChange { session with status := .revoked, revokedAt := some db.clock }
  | started (hwaiting : session.status = .waiting) (hunused : session.usedAt = none)
      (hrevoked : session.revokedAt = none) (hunexpired : db.clock < session.expiresAt)
      (progressTokenHash : Option String) :
      SessionChange { session.record .started with
        usedAt := some db.clock, progressTokenHash := progressTokenHash }
  | progressed {payload : AgentMaintenanceProgress}
      (hoperation : operation = .reportAgentMaintenanceProgress payload)
      (hsession : payload.session? settings db = some session)
      (hactive : session.status.terminal = false)
      (hallowed : payload.status ∈ session.kind.allowed)
      (hforward : payload.status ≠ .failed → payload.status ≠ .rolledBack →
        session.statusSequence < payload.status.sequence)
      (hcompleted : payload.status = .completed → session.kind = .repair)
      (hsummary : payload.errorSummary.all (·.length ≤ 240) = true)
      {newIdentityID : Option String}
      (hverified : payload.status = .heartbeatVerified →
        Verified db ({ session with newIdentityID := newIdentityID }.record payload.status)) :
      SessionChange ({ session with newIdentityID := newIdentityID }.record payload.status)
  | finalized (hpending : session.status = .confirmationPending)
      (hforward : session.statusSequence < MaintenanceStatus.sequence .completed) :
      SessionChange (session.record .completed)

/-- What an operation can do to all sessions. -/
inductive SessionChanges : List AgentMaintenanceSession → Prop
  | changed {f : AgentMaintenanceSession → AgentMaintenanceSession}
      (hf : ∀ session ∈ db.sessions, SessionChange settings db operation session (f session)) :
      SessionChanges (db.sessions.map f)
  | issued {hostID : String} {session : AgentMaintenanceSession} (hhost : session.hostID = hostID)
      (hwaiting : session.status = .waiting)
      (hsequence : session.statusSequence = MaintenanceStatus.sequence .waiting)
      (hfree : ∀ existing ∈ (db.sessions.filter fun other =>
        other.hostID == hostID && !other.status.terminal).getLast?, existing.status = .waiting) :
      SessionChanges (db.sessions.map (supersede hostID db.clock) ++ [session])

end SessionChange

/-! ### Transactions that leave the sessions alone -/

/-- A transaction that commits no change of the sessions. -/
def KeepsSessions (db : Db) (transaction : Transaction) : Prop :=
  ∀ reply db', transaction = .ok (reply, db') → db'.sessions = db.sessions

namespace KeepsSessions

variable {db : Db}

theorem commit {db' : Db} {reply : Except HTTPException Reply} {conflict : HTTPException}
    (h : db'.sessions = db.sessions) : KeepsSessions db (commit db' reply conflict) := by
  intro reply' db'' hcommit
  obtain ⟨-, -, rfl⟩ := commit_eq_ok.mp hcommit
  exact h

theorem error (e : HTTPException) : KeepsSessions db (.error e) := by
  intro reply db' h
  cases h

theorem bind {α : Type} {m : Except HTTPException α} {f : α → Transaction}
    (h : ∀ a, m = .ok a → KeepsSessions db (f a)) : KeepsSessions db (m >>= f) := by
  intro reply db' hbind
  obtain ⟨a, ha, hf⟩ := bind_eq_ok.mp hbind
  exact h a ha reply db' hf

theorem establish {db' : Db} (h : db'.sessions = db.sessions) (hostID : String)
    (ids : EnrollmentIDs) (keys : IdentityKeys) (conflict : HTTPException) :
    KeepsSessions db (establish db' hostID ids keys conflict) := by
  unfold Controller.establish
  split
  · exact bind fun _ _ => commit h
  · exact commit h

variable {settings : Settings}

theorem enrollAgent (token : EnrollmentToken) (request : AgentRequest)
    (payload : AgentEnrollRequest) (ids : EnrollmentIDs) :
    KeepsSessions db (enrollAgent settings db token request payload ids) := by
  unfold Controller.enrollAgent
  refine bind fun _ _ => bind fun tokenHost _ => bind fun _ _ => bind fun _ _ => ?_
  refine bind fun _ _ => bind fun _ _ => bind fun _ _ => ?_
  dsimp only
  split
  · exact establish rfl _ _ _ _
  · exact establish rfl _ _ _ _

theorem bootstrapAgent (token : EnrollmentToken) (payload : AgentBootstrapRequest)
    (ids : EnrollmentIDs) : KeepsSessions db (bootstrapAgent settings db token payload ids) := by
  unfold Controller.bootstrapAgent
  refine bind fun _ _ => ?_
  split
  · exact error _
  · refine bind fun _ _ => bind fun _ _ => bind fun _ _ => bind fun _ _ => ?_
    exact establish rfl _ _ _ _

theorem prepareAgentIdentity (agentID : String) (payload : AgentRotateRequest) :
    KeepsSessions db (prepareAgentIdentity settings db agentID payload) := by
  unfold Controller.prepareAgentIdentity
  refine bind fun record _ => bind fun _ _ => bind fun _ _ => ?_
  split
  · split
    · exact commit rfl
    · exact commit rfl
  · refine bind fun _ _ => bind fun _ _ => ?_
    dsimp only
    split
    · exact commit rfl
    · exact bind fun _ _ => commit rfl

theorem activateAgentIdentity (agentID identityID : String) (expectedVersion : Nat) :
    KeepsSessions db (activateAgentIdentity db agentID identityID expectedVersion) := by
  unfold Controller.activateAgentIdentity
  refine bind fun _ _ => bind fun _ _ => bind fun _ _ => ?_
  dsimp only
  split
  · exact bind fun _ _ => commit rfl
  · exact bind fun _ _ => bind fun _ _ => bind fun _ _ => commit rfl

theorem retirePendingAgentIdentity (agentID identityID : String) (expectedVersion : Nat) :
    KeepsSessions db (retirePendingAgentIdentity db agentID identityID expectedVersion) := by
  unfold Controller.retirePendingAgentIdentity
  exact bind fun _ _ => bind fun _ _ => bind fun _ _ => bind fun _ _ => commit rfl

theorem validatePendingAgentIdentity (agentID identityID : String) (expectedVersion : Nat)
    (request : AgentRequest) : KeepsSessions db
      (validatePendingAgentIdentity settings db agentID identityID expectedVersion request) := by
  unfold Controller.validatePendingAgentIdentity
  refine bind fun _ _ => bind fun _ _ => bind fun _ _ => bind fun _ _ => bind fun _ _ => ?_
  refine bind fun authenticated hverify => ?_
  obtain ⟨-, -, nonces, hdb⟩ := verifyAgentRequest_ok hverify
  refine bind fun _ _ => commit ?_
  rw [hdb]
  rfl

theorem renewAgentCertificate (agentID : String) (payload : AgentRenewRequest)
    (request : AgentRequest) :
    KeepsSessions db (renewAgentCertificate settings db agentID payload request) := by
  intro reply db' h
  obtain ⟨record, authenticated, issued, nonces, -, -, -, -, -, -, -, rfl⟩ :=
    renewAgentCertificate_ok h
  rfl

theorem agentHeartbeat (agentID : String) (request : AgentRequest) :
    KeepsSessions db (agentHeartbeat settings db agentID request) := by
  intro reply db' h
  obtain ⟨record, record', nonces, -, -, -, rfl, -⟩ := agentHeartbeat_ok h
  rfl

theorem revokeRetiringAgentIdentity (agentID identityID : String)
    (payload : AgentIdentityRevokeRequest) :
    KeepsSessions db (revokeRetiringAgentIdentity db agentID identityID payload) := by
  unfold Controller.revokeRetiringAgentIdentity
  refine bind fun _ _ => bind fun _ _ => ?_
  split
  · intro reply db' h
    cases h
    rfl
  · exact bind fun _ _ => bind fun _ _ => bind fun _ _ => commit rfl

theorem revokeAgent (agentID : String) (payload : AgentIdentityRevokeRequest) :
    KeepsSessions db (revokeAgent db agentID payload) := by
  intro reply db' h
  obtain ⟨record, identity, -, -, -, -, -, rfl⟩ := revokeAgent_ok h
  rfl

end KeepsSessions

/-! ### The maintenance handlers -/

theorem SessionChanges.same {settings : Settings} {db : Db} {operation : Operation} :
    SessionChanges settings db operation db.sessions := by
  have h : SessionChanges settings db operation (db.sessions.map id) :=
    .changed fun session _ => .kept
  rwa [List.map_id] at h

/-- One session is overwritten. -/
theorem SessionChanges.put {settings : Settings} {db : Db} {operation : Operation}
    {session session' : AgentMaintenanceSession} (hids : (db.sessions.map (·.id)).Nodup)
    (hsession : session ∈ db.sessions) (hid : session'.id = session.id)
    (hchange : SessionChange settings db operation session session') :
    SessionChanges settings db operation (Table.put (·.id) session' db.sessions) := by
  refine .changed fun other hother => ?_
  by_cases hsame : other.id = session'.id
  · obtain rfl : other = session := Table.eq_of_mem hids hother hsession (hsame.trans hid)
    rw [if_pos hsame]
    exact hchange
  · rw [if_neg hsame]
    exact .kept

section Handlers

variable {settings : Settings} {db db' : Db} {reply : Except HTTPException Reply}

theorem createAgentMaintenanceSession_sessions {hostID : String} {payload : AgentMaintenanceIssue}
    {approval : Option Approval}
    (h : createAgentMaintenanceSession settings db hostID payload approval = .ok (reply, db')) :
    SessionChanges settings db (.createAgentMaintenanceSession hostID payload approval)
      db'.sessions := by
  unfold createAgentMaintenanceSession at h
  obtain ⟨host, -, h⟩ := orRaise_bind_eq_ok.mp h
  obtain ⟨record, -, h⟩ := orRaise_bind_eq_ok.mp h
  simp only [raiseIf_bind_eq_ok] at h
  obtain ⟨-, -, h⟩ := h
  obtain ⟨⟨session, issued⟩, hissue, h⟩ := bind_eq_ok.mp h
  obtain ⟨-, h⟩ := raiseIf_bind_eq_ok.mp h
  obtain ⟨-, -, rfl⟩ := commit_eq_ok.mp h
  replace hissue := mapError_eq_ok.mp hissue
  unfold issueMaintenanceSession at hissue
  simp only [raiseIf_bind_eq_ok] at hissue
  obtain ⟨-, -, -, -, hissue⟩ := hissue
  obtain ⟨active, -, hissue⟩ := orRaise_bind_eq_ok.mp hissue
  obtain ⟨hfree, hissue⟩ := raiseIf_bind_eq_ok.mp hissue
  cases hissue
  refine .issued ?_ ?_ ?_ fun existing hexisting => ?_
  · rfl
  · rfl
  · rfl
  by_contra hne
  rw [Option.any_eq_true] at hfree
  exact hfree ⟨existing, hexisting, decide_eq_true hne⟩

/-- A session that is started was waiting, under the digest of the credential. -/
theorem startAgentMaintenance_ok {payload : AgentMaintenanceStart} {request : AgentRequest}
    (h : startAgentMaintenance settings db payload request = .ok (reply, db')) :
    ∃ session ∈ db.sessions,
      session.tokenHash =
        maintenanceCredentialDigest settings payload.credential payload.kind "start" ∧
      session.status = .waiting ∧ session.usedAt = none ∧ session.revokedAt = none ∧
      db.clock < session.expiresAt ∧
      (∃ agentID version, reply = .ok (.maintenanceStarted session.id agentID version)) ∧
      ∃ progressTokenHash, db' = db.putSession { session.record .started with
        usedAt := some db.clock, progressTokenHash := progressTokenHash } := by
  unfold startAgentMaintenance at h
  obtain ⟨-, h⟩ := raiseIf_bind_eq_ok.mp h
  obtain ⟨started, hstarted, h⟩ := bind_eq_ok.mp h
  obtain ⟨record, -, h⟩ := orRaise_bind_eq_ok.mp h
  obtain ⟨identity, -, h⟩ := orRaise_bind_eq_ok.mp h
  obtain ⟨_, -, h⟩ := bind_eq_ok.mp h
  obtain ⟨-, h⟩ := raiseIf_bind_eq_ok.mp h
  obtain ⟨-, hreply, rfl⟩ := commit_eq_ok.mp h
  replace hstarted := mapError_eq_ok.mp hstarted
  unfold consumeMaintenanceSession at hstarted
  obtain ⟨session, hsession, hstarted⟩ := orRaise_bind_eq_ok.mp hstarted
  simp only [raiseIf_bind_eq_ok] at hstarted
  obtain ⟨-, hlive, hunexpired, -, hunused, hstarted⟩ := hstarted
  cases hstarted
  obtain ⟨hunused, hwaiting⟩ := not_or.mp hunused
  refine ⟨session, Table.mem_of_lookup hsession, Table.key_of_lookup hsession, not_not.mp hwaiting,
    ?_, ?_, not_le.mp hunexpired, ⟨_, _, hreply.symm⟩, _, rfl⟩
  · simpa using hunused
  · simpa using (not_or.mp hlive).1

theorem startAgentMaintenance_sessions (hdb : db.Constraints) {payload : AgentMaintenanceStart}
    {request : AgentRequest}
    (h : startAgentMaintenance settings db payload request = .ok (reply, db')) :
    SessionChanges settings db (.startAgentMaintenance payload request) db'.sessions := by
  obtain ⟨session, hsession, -, hwaiting, hunused, hrevoked, hunexpired, -, digest, rfl⟩ :=
    startAgentMaintenance_ok h
  exact .put hdb.sessionIDs hsession rfl (.started hwaiting hunused hrevoked hunexpired digest)

/-- The heartbeat and the identity that a session takes down have been seen. -/
theorem observeHeartbeat_verified {session observed : AgentMaintenanceSession}
    {kind : AgentMaintenanceKind} (hkind : session.kind = kind)
    (h : observeHeartbeat (db.record? session.agentID) session kind = .ok observed) :
    ∃ newIdentityID, observed = { session with newIdentityID := newIdentityID } ∧
      Verified db (observed.record .heartbeatVerified) := by
  unfold observeHeartbeat at h
  obtain ⟨record, hrecord, h⟩ := orRaise_bind_eq_ok.mp h
  obtain ⟨heartbeat, hheartbeat, h⟩ := orRaise_bind_eq_ok.mp h
  obtain ⟨usedAt, husedAt, h⟩ := orRaise_bind_eq_ok.mp h
  obtain ⟨hlater, h⟩ := raiseIf_bind_eq_ok.mp h
  have hseen : ∃ usedAt ∈ session.usedAt, ∃ heartbeat ∈ record.agent.lastHeartbeatAt,
      usedAt < heartbeat := ⟨usedAt, husedAt, heartbeat, hheartbeat, not_le.mp hlater⟩
  have hunreplaced (hkind : session.kind = .repair ∨ session.kind = .decommission)
      (hsame : session = observed) : ∃ newIdentityID,
        observed = { session with newIdentityID := newIdentityID } ∧
          Verified db (observed.record .heartbeatVerified) := by
    subst hsame
    refine ⟨session.newIdentityID, rfl, rfl, record, hrecord, hseen, fun hreplaced => ?_⟩
    rcases hkind with hkind | hkind
    · rw [show (session.record .heartbeatVerified).kind = .repair from hkind] at hreplaced
      simp at hreplaced
    · rw [show (session.record .heartbeatVerified).kind = .decommission from hkind] at hreplaced
      simp at hreplaced
  have hreplaced (hrotation : observeRotation record session = .ok observed) : ∃ newIdentityID,
      observed = { session with newIdentityID := newIdentityID } ∧
        Verified db (observed.record .heartbeatVerified) := by
    unfold observeRotation at hrotation
    obtain ⟨-, hrotation⟩ := raiseIf_bind_eq_ok.mp hrotation
    obtain ⟨active, hactive, hrotation⟩ := orRaise_bind_eq_ok.mp hrotation
    obtain ⟨hnew, hrotation⟩ := raiseIf_bind_eq_ok.mp hrotation
    cases hrotation
    exact ⟨some active.id, rfl, rfl, record, hrecord, hseen,
      fun _ => ⟨active, List.mem_of_head? hactive, rfl, fun hsame => hnew hsame.symm⟩⟩
  cases kind with
  | repair => exact hunreplaced (.inl hkind) (Except.ok.inj h)
  | reinstall => exact hreplaced h
  | rotateIdentity => exact hreplaced h
  | decommission => exact hunreplaced (.inr hkind) (Except.ok.inj h)

theorem authenticateMaintenanceProgress_live {value : String} {kind : AgentMaintenanceKind}
    {session : AgentMaintenanceSession}
    (h : authenticateMaintenanceProgress settings db value kind = .ok session) :
    session.kind = kind ∧ session.status.terminal = false := by
  unfold authenticateMaintenanceProgress at h
  obtain ⟨found, -, h⟩ := orRaise_bind_eq_ok.mp h
  simp only [raiseIf_bind_eq_ok] at h
  obtain ⟨hkind, hactive, h⟩ := h
  cases h
  exact ⟨not_not.mp hkind, by simpa using (not_or.mp hactive).1⟩

theorem advanceMaintenance_forward {session session' : AgentMaintenanceSession}
    {status : MaintenanceStatus} {errorSummary : Option String}
    (h : advanceMaintenance session status errorSummary = .ok session') :
    status ∈ session.kind.allowed ∧
      (status ≠ .failed → status ≠ .rolledBack → session.statusSequence < status.sequence) ∧
      errorSummary.all (·.length ≤ 240) = true := by
  unfold advanceMaintenance at h
  simp only [raiseIf_bind_eq_ok] at h
  obtain ⟨hallowed, hforward, hsummary, -⟩ := h
  refine ⟨not_not.mp hallowed, fun hfailed hrolledBack => ?_, ?_⟩
  · exact not_le.mp fun hle => hforward ⟨⟨hfailed, hrolledBack⟩, hle⟩
  · cases errorSummary with
    | none => rfl
    | some summary => simpa using hsummary

theorem reportAgentMaintenanceProgress_sessions (hdb : db.Constraints)
    {payload : AgentMaintenanceProgress}
    (h : reportAgentMaintenanceProgress settings db payload = .ok (reply, db')) :
    SessionChanges settings db (.reportAgentMaintenanceProgress payload) db'.sessions := by
  unfold reportAgentMaintenanceProgress at h
  obtain ⟨-, h⟩ := raiseIf_bind_eq_ok.mp h
  obtain ⟨advanced, hadvanced, h⟩ := bind_eq_ok.mp h
  obtain ⟨-, -, rfl⟩ := commit_eq_ok.mp h
  replace hadvanced := mapError_eq_ok.mp hadvanced
  unfold maintenanceProgress at hadvanced
  obtain ⟨session, hsession, hadvanced⟩ := bind_eq_ok.mp hadvanced
  obtain ⟨observed, hobserved, hadvanced⟩ := bind_eq_ok.mp hadvanced
  obtain ⟨hcompleted, hadvanced⟩ := raiseIf_bind_eq_ok.mp hadvanced
  obtain ⟨hallowed, hforward, hsummary⟩ := advanceMaintenance_forward hadvanced
  obtain rfl := advanceMaintenance_ok hadvanced
  obtain ⟨hkind, hactive⟩ := authenticateMaintenanceProgress_live hsession
  have htaken : ∃ newIdentityID, observed = { session with newIdentityID := newIdentityID } ∧
      (payload.status = .heartbeatVerified → Verified db (observed.record payload.status)) := by
    unfold observeProgress at hobserved
    split at hobserved
    · rename_i hstatus
      obtain ⟨newIdentityID, heq, hverified⟩ := observeHeartbeat_verified hkind hobserved
      exact ⟨newIdentityID, heq, fun _ => hstatus ▸ hverified⟩
    · rename_i hstatus
      cases hobserved
      exact ⟨session.newIdentityID, rfl, fun h => absurd h hstatus⟩
  obtain ⟨newIdentityID, rfl, hverified⟩ := htaken
  refine .put hdb.sessionIDs (authenticateMaintenanceProgress_ok hsession) rfl
    (.progressed rfl ?_ hactive hallowed hforward (fun hdone => ?_) hsummary hverified)
  · rw [AgentMaintenanceProgress.session?, hsession]
    rfl
  · by_contra hne
    exact hcompleted ⟨hdone, fun h => hne (hkind.trans h)⟩

theorem reportAgentMaintenanceProgress_records {payload : AgentMaintenanceProgress}
    (h : reportAgentMaintenanceProgress settings db payload = .ok (reply, db')) :
    db'.records = db.records := by
  unfold reportAgentMaintenanceProgress at h
  obtain ⟨-, h⟩ := raiseIf_bind_eq_ok.mp h
  obtain ⟨advanced, -, h⟩ := bind_eq_ok.mp h
  obtain ⟨-, -, rfl⟩ := commit_eq_ok.mp h
  rfl

theorem finalizeAgentMaintenance_sessions (hdb : Sound db) {hostID sessionID : String}
    {payload : AgentMaintenanceFinalize}
    (h : finalizeAgentMaintenance db hostID sessionID payload = .ok (reply, db')) :
    SessionChanges settings db (.finalizeAgentMaintenance hostID sessionID payload)
      db'.sessions := by
  have hforward : ∀ session, db.session? sessionID = some session →
      session.statusSequence < MaintenanceStatus.sequence .completed := by
    intro session hsession
    unfold finalizeAgentMaintenance at h
    obtain ⟨host, -, h⟩ := orRaise_bind_eq_ok.mp h
    obtain ⟨found, hfound, h⟩ := orRaise_bind_eq_ok.mp h
    obtain rfl : found = session := Option.some_inj.mp (hfound.symm.trans hsession)
    simp only [raiseIf_bind_eq_ok] at h
    obtain ⟨-, -, -, h⟩ := h
    obtain ⟨record, -, h⟩ := orRaise_bind_eq_ok.mp h
    obtain ⟨-, h⟩ := raiseIf_bind_eq_ok.mp h
    obtain ⟨finalized, -, h⟩ := bind_eq_ok.mp h
    obtain ⟨completed, hcompleted, -⟩ := bind_eq_ok.mp h
    exact (advanceMaintenance_forward (mapError_eq_ok.mp hcompleted)).2.1 (by decide) (by decide)
  obtain ⟨host, session, finalized, hsession, hstatus, hfinalized, -, -, rfl⟩ :=
    finalizeAgentMaintenance_ok h
  have hsame : finalized.sessions = db.sessions :=
    (finalization_records hdb.constraints hdb.owned hostID hsession hstatus hfinalized).2.2
  have hput : SessionChanges settings db (.finalizeAgentMaintenance hostID sessionID payload)
      (Table.put (·.id) (session.record .completed) db.sessions) :=
    .put hdb.constraints.sessionIDs (Table.mem_of_lookup hsession) rfl
      (.finalized hstatus (hforward session hsession))
  rw [← hsame] at hput
  exact hput

/-- What a transaction does to the sessions. -/
theorem transaction_sessions {operation : Operation} (hdb : Sound db)
    (h : transaction settings db operation = .ok (reply, db')) :
    SessionChanges settings db operation db'.sessions := by
  have hsame (hkeeps : KeepsSessions db (transaction settings db operation)) :
      SessionChanges settings db operation db'.sessions := by
    rw [hkeeps reply db' h]
    exact .same
  cases operation with
  | createHost host => exact hsame (.commit rfl)
  | setHostEnabled hostID enabled => exact hsame (.bind fun _ _ => .commit rfl)
  | publishCRL publication => exact hsame (.commit rfl)
  | enrollAgent token request payload ids => exact hsame (.enrollAgent token request payload ids)
  | bootstrapAgent token payload ids => exact hsame (.bootstrapAgent token payload ids)
  | prepareAgentIdentity agentID payload => exact hsame (.prepareAgentIdentity agentID payload)
  | activateAgentIdentity agentID identityID version =>
    exact hsame (.activateAgentIdentity agentID identityID version)
  | retirePendingAgentIdentity agentID identityID version =>
    exact hsame (.retirePendingAgentIdentity agentID identityID version)
  | validatePendingAgentIdentity agentID identityID version request =>
    exact hsame (.validatePendingAgentIdentity agentID identityID version request)
  | renewAgentCertificate agentID payload request =>
    exact hsame (.renewAgentCertificate agentID payload request)
  | agentHeartbeat agentID request => exact hsame (.agentHeartbeat agentID request)
  | revokeRetiringAgentIdentity agentID identityID payload =>
    exact hsame (.revokeRetiringAgentIdentity agentID identityID payload)
  | revokeAgent agentID payload => exact hsame (.revokeAgent agentID payload)
  | createAgentMaintenanceSession hostID payload approval =>
    exact createAgentMaintenanceSession_sessions h
  | startAgentMaintenance payload request =>
    exact startAgentMaintenance_sessions hdb.constraints h
  | reportAgentMaintenanceProgress payload =>
    exact reportAgentMaintenanceProgress_sessions hdb.constraints h
  | finalizeAgentMaintenance hostID sessionID payload =>
    exact finalizeAgentMaintenance_sessions hdb h

end Handlers

/-- An input lets time pass, and its operation may change the sessions. -/
theorem step_sessions (settings : Settings) {db : Db} (hdb : Sound db) (input : Input) :
    (step settings db input).clock = db.clock + input.elapsed ∧
      SessionChanges settings (db.arrive input) input.operation
        (step settings db input).sessions := by
  refine ⟨?_, ?_⟩
  · rcases step_cases hdb input with h | h
    · rw [h]
      rfl
    · exact h.clock
  · unfold step serve
    cases h : transaction settings (db.arrive input) input.operation with
    | error e => exact .same
    | ok outcome => exact transaction_sessions (hdb.arrive input) h

end VpsGuardian.Controller
