import VpsGuardian.Controller.Soundness

/-!
An Agent row and its identity rows agree, as long as no Agent is decommissioned
by a session whose identity has been replaced in the meantime.

A decommission revokes the identity that was active when its session was issued.
It compares the identity version the operator expects with the current one, but
not with the one the session was issued at.
-/

namespace VpsGuardian.Controller

open Lib

/-- The Agent row carries the keys of an identity. -/
def Agent.Carries (agent : Agent) (identity : AgentIdentity) : Prop :=
  agent.signingPublicKey = identity.signingPublicKey ∧
    agent.certificateFingerprint = identity.certificateFingerprint ∧
    agent.certificateSerial = identity.certificateSerial

/-- The representation invariant of one Agent. -/
structure Represented (record : AgentRecord) : Prop where
  atMostOne : (record.inState .active).length ≤ 1
  revoked : record.revoked = true → record.inState .active = []
  current : record.revoked = false →
    ∃ identity, record.inState .active = [identity] ∧ record.agent.Carries identity
  generations : (record.identities.map (·.generation)).Nodup
  bounded : ∀ identity ∈ record.identities, identity.generation ≤ record.agent.identityVersion

/-- A session that decommissions an Agent is about the Agent's active identity. -/
def DecommissionsCurrent (db : Db) (input : Input) : Prop :=
  ∀ session ∈ input.operation.decommissions? db,
    ∀ record ∈ db.records, record.id = session.agentID →
      ∀ identity ∈ record.inState .active, session.oldIdentityID = some identity.id

instance (db : Db) (input : Input) : Decidable (DecommissionsCurrent db input) :=
  inferInstanceAs (Decidable (∀ session ∈ input.operation.decommissions? db, _))

/-! ### One record -/

namespace Represented

variable {record : AgentRecord}

/-- What the unique constraints leave to be shown. -/
theorem of_constraints (h : record.Constraints)
    (hrevoked : record.revoked = true → ∀ identity ∈ record.identities, identity.state ≠ .active)
    (hcurrent : record.revoked = false → ∃ identity ∈ record.identities,
      identity.state = .active ∧ record.agent.Carries identity)
    (hbounded : ∀ identity ∈ record.identities,
      identity.generation ≤ record.agent.identityVersion) : Represented record where
  atMostOne := h.oneActive
  revoked := by
    intro hrev
    refine List.eq_nil_iff_forall_not_mem.mpr fun identity hidentity => ?_
    obtain ⟨hmem, hactive⟩ := AgentRecord.mem_inState.mp hidentity
    exact hrevoked hrev identity hmem hactive
  current := by
    intro hrev
    obtain ⟨identity, hmem, hactive, hcarries⟩ := hcurrent hrev
    have hin : identity ∈ record.inState .active := AgentRecord.mem_inState.mpr ⟨hmem, hactive⟩
    have hone : (record.inState .active).length = 1 :=
      Nat.le_antisymm h.oneActive (List.length_pos_of_mem hin)
    obtain ⟨only, honly⟩ := List.length_eq_one_iff.mp hone
    obtain rfl : identity = only := by simpa [honly] using hin
    exact ⟨identity, honly, hcarries⟩
  generations := h.generations
  bounded := hbounded

/-- An Agent that is not revoked needs an active identity, and no more than the constraints. -/
theorem of_live (h : record.Constraints) (hlive : record.revoked = false)
    {active : AgentIdentity} (hmem : active ∈ record.identities)
    (hactive : active.state = .active) (hcarries : record.agent.Carries active)
    (hbounded : ∀ identity ∈ record.identities,
      identity.generation ≤ record.agent.identityVersion) : Represented record := by
  refine of_constraints h (fun hrevoked => ?_) (fun _ => ⟨active, hmem, hactive, hcarries⟩) hbounded
  exact Bool.noConfusion (hlive.symm.trans hrevoked)

/-- The active identity of an Agent that is not revoked. -/
theorem exists_active (h : Represented record) (hrevoked : record.revoked = false) :
    ∃ identity ∈ record.identities, identity.state = .active ∧ record.agent.Carries identity := by
  obtain ⟨identity, honly, hcarries⟩ := h.current hrevoked
  have hin : identity ∈ record.inState .active := by simp [honly]
  obtain ⟨hmem, hactive⟩ := AgentRecord.mem_inState.mp hin
  exact ⟨identity, hmem, hactive, hcarries⟩

theorem eq_of_active (h : Represented record) {identity other : AgentIdentity}
    (hidentity : identity ∈ record.identities) (hactive : identity.state = .active)
    (hother : other ∈ record.identities) (hother' : other.state = .active) : identity = other := by
  have hin := AgentRecord.mem_inState.mpr ⟨hidentity, hactive⟩
  have hin' := AgentRecord.mem_inState.mpr ⟨hother, hother'⟩
  match hlist : record.inState .active, h.atMostOne with
  | [], _ => simp [hlist] at hin
  | [only], _ =>
      rw [hlist, List.mem_singleton] at hin hin'
      exact hin.trans hin'.symm

end Represented

/-- Rows that differ in an overwritten identity keep the generation bound. -/
theorem bounded_put (record : AgentRecord) {version : Nat} {old new : AgentIdentity}
    (hbounded : ∀ identity ∈ record.identities, identity.generation ≤ version)
    (hold : old ∈ record.identities) (hnew : new.generation = old.generation) :
    ∀ identity ∈ (record.put new).identities, identity.generation ≤ version :=
  Table.forall_put hbounded (hnew ▸ hbounded old hold)

/-- The active identity outlives the overwriting of one that was not active. -/
theorem active_put {record : AgentRecord} (hids : (record.identities.map (·.id)).Nodup)
    {active old new : AgentIdentity} (hactive : active ∈ record.identities)
    (hstate : active.state = .active) (hold : old ∈ record.identities)
    (hinactive : old.state ≠ .active) (hid : new.id = old.id) :
    active ∈ (record.put new).identities := by
  refine AgentRecord.mem_put.mpr (.inr ⟨hactive, fun heq => ?_⟩)
  obtain rfl : active = old := Table.eq_of_mem hids hactive hold (heq.trans hid)
  exact hinactive hstate

/-- Overwriting the active identity by one that is not leaves none. -/
theorem no_active_put (record : AgentRecord) {old new : AgentIdentity}
    (honly : ∀ identity ∈ record.identities, identity.state = .active → identity.id = old.id)
    (hid : new.id = old.id) (hnew : new.state ≠ .active) :
    ∀ identity ∈ (record.put new).identities, identity.state ≠ .active := by
  intro identity hidentity hactive
  rcases AgentRecord.mem_put.mp hidentity with ⟨rfl, -⟩ | ⟨hmem, hne⟩
  · exact hnew hactive
  · exact hne ((honly identity hmem hactive).trans hid.symm)

theorem new_represented (hostID agentID identityID : String) (keys : IdentityKeys) (now : Time) :
    Represented (newRecord hostID agentID identityID keys now) where
  atMostOne := Nat.le_refl 1
  revoked := fun h => by cases h
  current := fun _ => ⟨_, rfl, rfl, rfl, rfl⟩
  generations := List.nodup_singleton 1
  bounded := fun identity hidentity => by
    obtain rfl := List.mem_singleton.mp hidentity
    exact Nat.le_refl 1

/-- One change keeps a record represented, if a decommission is about the active identity. -/
theorem Change.represented {db : Db} {operation : Operation} {record record' : AgentRecord}
    (h : Change db operation record record') (hrecord : Represented record)
    (hids : (record.identities.map (·.id)).Nodup) (hconstraints : record'.Constraints)
    (hcurrent : ∀ session ∈ operation.decommissions? db, record.id = session.agentID →
      ∀ identity ∈ record.inState .active, session.oldIdentityID = some identity.id) :
    Represented record' := by
  have hclaimed : ∀ identity ∈ record.identities,
      identity.generation ≤ record.agent.identityVersion + 1 :=
    fun identity hidentity => Nat.le_succ_of_le (hrecord.bounded identity hidentity)
  cases h with
  | seen hrevoked =>
      obtain ⟨active, hmem, hactive, hcarries⟩ := hrecord.exists_active hrevoked
      exact .of_live hconstraints hrevoked hmem hactive hcarries hrecord.bounded
  | observed hrevoked hidentity hpending =>
      obtain ⟨active, hmem, hactive, hcarries⟩ := hrecord.exists_active hrevoked
      exact .of_live hconstraints hrevoked
        (active_put hids hmem hactive hidentity (by simp [hpending]) rfl) hactive hcarries
        (bounded_put record hrecord.bounded hidentity rfl)
  | @prepared cleared identity hrevoked hcleared hstate hgeneration =>
      obtain ⟨active, hmem, hactive, hcarries⟩ := hrecord.exists_active hrevoked
      have hkept : cleared.agent = record.claim.agent ∧ active ∈ cleared.identities ∧
          ∀ other ∈ cleared.identities, other.generation ≤ record.agent.identityVersion + 1 := by
        rcases hcleared with rfl | ⟨expired, hexpired, hpending, rfl⟩
        · exact ⟨rfl, hmem, hclaimed⟩
        · exact ⟨rfl, active_put hids hmem hactive hexpired (by simp [hpending]) rfl,
            bounded_put record.claim hclaimed hexpired rfl⟩
      obtain ⟨hagent, hmem', hbounded⟩ := hkept
      refine .of_live hconstraints ?_ (List.mem_append_left _ hmem') hactive ?_ ?_
      · show cleared.agent.revokedAt.isSome = false
        rw [hagent]
        exact hrevoked
      · show cleared.agent.Carries active
        rw [hagent]
        exact hcarries
      · intro other hother
        show other.generation ≤ cleared.agent.identityVersion
        rw [hagent]
        rcases List.mem_append.mp hother with hother | hother
        · exact hbounded other hother
        · obtain rfl : other = identity := by simpa using hother
          exact hgeneration.le
  | @activated identity activeIdentity hrevoked hidentity hpending hunexpired hactiveIdentity =>
      have hpresent : identity.id ∈
          (record.claim.put { activeIdentity with state := .retiring }).identities.map (·.id) := by
        rw [AgentRecord.put, Table.map_key_put]
        exact List.mem_map_of_mem hidentity
      refine .of_live hconstraints hrevoked (Table.mem_put_self hpresent) rfl ⟨rfl, rfl, rfl⟩ ?_
      have hbounded : ∀ other ∈
          (record.claim.put { activeIdentity with state := .retiring }).identities,
          other.generation ≤ record.agent.identityVersion + 1 :=
        bounded_put record.claim hclaimed hactiveIdentity rfl
      exact Table.forall_put hbounded (hclaimed identity hidentity)
  | @renewed authenticated identity hrevoked hauthenticated hactive hstate hgeneration =>
      refine .of_live hconstraints hrevoked (List.mem_append_right _ (List.mem_singleton_self _))
        hstate ⟨rfl, rfl, rfl⟩ ?_
      have hbounded : ∀ other ∈
          (record.claim.put { authenticated with state := .retiring }).identities,
          other.generation ≤ record.agent.identityVersion + 1 :=
        bounded_put record.claim hclaimed hauthenticated rfl
      intro other hother
      rcases List.mem_append.mp hother with hother | hother
      · exact hbounded other hother
      · obtain rfl : other = identity := by simpa using hother
        exact hgeneration.le
  | retired hrevoked hidentity hpending =>
      obtain ⟨active, hmem, hactive, hcarries⟩ := hrecord.exists_active hrevoked
      exact .of_live hconstraints hrevoked
        (active_put hids hmem hactive hidentity (by simp [hpending]) rfl) hactive hcarries
        (bounded_put record.claim hclaimed hidentity rfl)
  | revoked hrevoked hidentity hretiring =>
      obtain ⟨active, hmem, hactive, hcarries⟩ := hrecord.exists_active hrevoked
      exact .of_live hconstraints hrevoked
        (active_put hids hmem hactive hidentity (by simp [hretiring]) rfl) hactive hcarries
        (bounded_put record.claim hclaimed hidentity rfl)
  | agentRevoked hrevoked hidentity hactive =>
      refine .of_constraints hconstraints (fun _ => ?_) (fun hlive => ?_)
        (bounded_put record.claim hclaimed hidentity rfl)
      · refine no_active_put record.claim (fun other hother hother' => ?_) rfl (by simp)
        rw [hrecord.eq_of_active hother hother' hidentity hactive]
      · cases hlive
  | @decommissioned identity session hidentity hsession hsubject =>
      refine .of_constraints hconstraints (fun _ => ?_) (fun hlive => ?_)
        (bounded_put record hrecord.bounded hidentity rfl)
      · have hagent : session.agentID = record.id := congrArg Prod.fst hsubject
        have hold : session.oldIdentityID = some identity.id := congrArg Prod.snd hsubject
        refine no_active_put record (fun other hother hother' => ?_) rfl (by simp)
        have hother'' := hcurrent session hsession hagent.symm other
          (AgentRecord.mem_inState.mpr ⟨hother, hother'⟩)
        exact Option.some.inj (hother''.symm.trans hold)
      · cases hlive
  | reenrolled hrevoked henrolls identityID keys =>
      refine .of_live hconstraints rfl (List.mem_append_right _ (List.mem_singleton_self _)) rfl
        ⟨rfl, rfl, rfl⟩ ?_
      intro other hother
      rcases List.mem_append.mp hother with hother | hother
      · exact hclaimed other hother
      · rw [List.mem_singleton] at hother
        exact hother ▸ Nat.le_refl _

/-- All records stay represented, if a decommission is about the active identity. -/
theorem Changes.represented {db : Db} {operation : Operation} {records : List AgentRecord}
    (h : Changes db operation records) (hdb : db.Constraints)
    (hconstraints : ∀ record ∈ records, record.Constraints)
    (hcurrent : ∀ session ∈ operation.decommissions? db, ∀ record ∈ db.records,
      record.id = session.agentID → ∀ identity ∈ record.inState .active,
        session.oldIdentityID = some identity.id)
    (hrecords : ∀ record ∈ db.records, Represented record) :
    ∀ record ∈ records, Represented record := by
  refine h.forall (fun record hrecord record' hrecord' hchange hrepresented => ?_)
    (fun hostID agentID identityID keys => new_represented hostID agentID identityID keys db.clock)
    hrecords
  exact hchange.represented hrepresented (hdb.identityIDs_nodup hrecord)
    (hconstraints record' hrecord')
    fun session hsession hagent => hcurrent session hsession record hrecord hagent

theorem Change.version_le {db : Db} {operation : Operation} {record record' : AgentRecord}
    (h : Change db operation record record') :
    record.agent.identityVersion ≤ record'.agent.identityVersion := by
  have hclaim : record.agent.identityVersion ≤ record.claim.agent.identityVersion :=
    Nat.le_succ _
  cases h with
  | seen => exact Nat.le_refl _
  | observed => exact Nat.le_refl _
  | prepared hrevoked hcleared =>
      rcases hcleared with rfl | ⟨expired, -, -, rfl⟩
      · exact hclaim
      · exact hclaim
  | activated => exact hclaim
  | renewed => exact hclaim
  | retired => exact hclaim
  | revoked => exact hclaim
  | agentRevoked => exact hclaim
  | decommissioned => exact Nat.le_refl _
  | reenrolled => exact hclaim

/-! ### Runs -/

theorem represented_step {settings : Settings} {db : Db} {input : Input} (hdb : Sound db)
    (hcurrent : DecommissionsCurrent db input) (h : ∀ record ∈ db.records, Represented record) :
    ∀ record ∈ (step settings db input).records, Represented record := by
  rcases step_cases hdb input with hstep | heffect
  · rw [hstep]
    exact h
  · exact heffect.records.represented (hdb.arrive input).constraints
      heffect.constraints.perAgent hcurrent h

/-- Every Agent is still there, under an identity version that is not smaller. -/
def VersionsGrow (db db' : Db) : Prop :=
  ∀ record ∈ db.records, ∃ record' ∈ db'.records, record'.id = record.id ∧
    record.agent.identityVersion ≤ record'.agent.identityVersion

theorem VersionsGrow.refl (db : Db) : VersionsGrow db db :=
  fun record hrecord => ⟨record, hrecord, rfl, Nat.le_refl _⟩

theorem VersionsGrow.trans {db db' db'' : Db} (h : VersionsGrow db db')
    (h' : VersionsGrow db' db'') : VersionsGrow db db'' := by
  intro record hrecord
  obtain ⟨record', hrecord', hid, hversion⟩ := h record hrecord
  obtain ⟨record'', hrecord'', hid', hversion'⟩ := h' record' hrecord'
  exact ⟨record'', hrecord'', hid'.trans hid, hversion.trans hversion'⟩

theorem versionsGrow_step {settings : Settings} {db : Db} {input : Input} (hdb : Sound db) :
    VersionsGrow db (step settings db input) := by
  rcases step_cases hdb input with hstep | heffect
  · rw [hstep]
    exact .refl db
  · intro record hrecord
    exact heffect.records.successor (hdb.arrive input).constraints
      (R := fun record record' => record.agent.identityVersion ≤ record'.agent.identityVersion)
      (fun _ => Nat.le_refl _) (fun _ _ _ _ hchange => hchange.version_le) hrecord

theorem versionsGrow_run {settings : Settings} {db : Db} (hdb : Sound db) (inputs : List Input) :
    VersionsGrow db (run (step settings) db inputs) := by
  induction inputs generalizing db with
  | nil => exact .refl db
  | cons input inputs ih => exact (versionsGrow_step hdb).trans (ih (sound_step hdb))

/-- In every run in which each decommission is about the active identity, the
Agent rows agree with their identities and the identity versions never decrease. -/
theorem identities_represented (settings : Settings) (history later : List Input)
    (h : Meets (step settings) DecommissionsCurrent Db.empty (history ++ later)) :
    (∀ record ∈ (run (step settings) Db.empty (history ++ later)).records, Represented record) ∧
      VersionsGrow (run (step settings) Db.empty history)
        (run (step settings) Db.empty (history ++ later)) := by
  constructor
  · have hinvariant : Sound (run (step settings) Db.empty (history ++ later)) ∧
        ∀ record ∈ (run (step settings) Db.empty (history ++ later)).records,
          Represented record := by
      refine run_invariant (I := fun db => Sound db ∧ ∀ record ∈ db.records, Represented record)
        (fun db input hcurrent hdb => ?_) ⟨sound_empty, fun _ hrecord => by cases hrecord⟩ h
      exact ⟨sound_step hdb.1, represented_step hdb.1 hcurrent hdb.2⟩
    exact hinvariant.2
  · rw [run_append]
    exact versionsGrow_run (sound_run settings history) later

/-! ### A decommission before and after a renewal -/

/-- A production Controller with an ideal hash and ideal signatures. -/
def idealSettings : Settings where
  production := true
  nonceTTL := 300
  pendingIdentityTTL := 15
  oneCommandInstallEnabled := true
  sha256Hex := id
  verifySignature := fun publicKey message signature => signature == publicKey ++ ":" ++ message
  csrError := fun _ _ _ => none
  validNetwork := fun _ => true
  inNetwork := fun _ _ => true

/-- A SHA-256 fingerprint made of one digit. -/
def fingerprintOf (digit : Char) : String := String.ofList (List.replicate 64 digit)

/-- A request the Agent signs with its key at a whole second. -/
def signedRequest (key fingerprint serial timestamp nonce : String) : AgentRequest where
  gatewayCertificate := some (fingerprint, serial)
  fingerprintHeader := ""
  timestamp := timestamp
  nonce := nonce
  signature := key ++ ":" ++
    buildAgentSigningMessage idealSettings "agent-1" timestamp nonce "payload"
  body := "payload"

/-- The host `alpha` and its Agent, with a first identity. -/
def enrolledAgent : List Input :=
  [⟨0, .createHost ⟨"host-1", "alpha", true⟩⟩,
    ⟨0, .bootstrapAgent (.oneTime "host-1")
      ⟨"host-1", "csr", "key-1", "proof", some ⟨fingerprintOf '1', "A1", seconds 86400⟩⟩
      ⟨"unused", "agent-1", "identity-1"⟩⟩]

/-- A decommission of `alpha` that waits for its confirmation. -/
def decommissionSession : List Input :=
  [⟨0, .createAgentMaintenanceSession "host-1"
      ⟨.decommission, none, false, some "approval-1", some "DECOMMISSION alpha", "session-1",
        "start-token"⟩
      (some ⟨.approved, "agent.decommission", some "host-1", some "alice", some "bob"⟩)⟩,
    ⟨0, .startAgentMaintenance
      ⟨.decommission, "start-token", "192.0.2.1", none, none, "progress-token"⟩
      (signedRequest "key-1" (fingerprintOf '1') "A1" "0" "nonce-0000000000")⟩,
    ⟨0, .reportAgentMaintenanceProgress
      ⟨.decommission, "progress-token", .confirmationPending, none⟩⟩]

/-- The Agent renews its certificate. -/
def renewal : Input :=
  ⟨0, .renewAgentCertificate "agent-1"
    ⟨"rotation-1", 1, "csr", "key-2", "proof", some ⟨fingerprintOf '2', "A2", seconds 86400⟩,
      "identity-2"⟩
    (signedRequest "key-1" (fingerprintOf '1') "A1" "0" "nonce-0000000001")⟩

/-- The certificate of the first identity is on the CRL, and the decommission is confirmed. -/
def confirmation (identityVersion : Nat) : List Input :=
  [⟨0, .publishCRL ⟨1, "crl-1", "A1"⟩⟩,
    ⟨0, .finalizeAgentMaintenance "host-1" "session-1"
      ⟨"FINALIZE alpha", identityVersion, some 1, some "crl-1"⟩⟩]

theorem identities_represented_decommissioned :
    (∀ record ∈ (run (step idealSettings) Db.empty
        (enrolledAgent ++ (decommissionSession ++ confirmation 1))).records, Represented record) ∧
      VersionsGrow (run (step idealSettings) Db.empty enrolledAgent)
        (run (step idealSettings) Db.empty
          (enrolledAgent ++ (decommissionSession ++ confirmation 1))) :=
  identities_represented idealSettings enrolledAgent (decommissionSession ++ confirmation 1)
    (by decide +kernel)

/-- A renewal between the issue and the confirmation of a decommission leaves a
revoked Agent with an active identity. -/
theorem renewal_outlives_decommission :
    ¬ ∀ record ∈ (run (step idealSettings) Db.empty
      (enrolledAgent ++ decommissionSession ++ renewal :: confirmation 2)).records,
      Represented record := by
  intro h
  have hviolated : ∃ record ∈ (run (step idealSettings) Db.empty
      (enrolledAgent ++ decommissionSession ++ renewal :: confirmation 2)).records,
      record.revoked = true ∧ record.inState .active ≠ [] := by decide +kernel
  obtain ⟨record, hrecord, hrevoked, hactive⟩ := hviolated
  exact hactive ((h record hrecord).revoked hrevoked)

end VpsGuardian.Controller
