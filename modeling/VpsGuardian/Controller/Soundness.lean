import VpsGuardian.Controller.Changes

/-!
What every database the Controller reaches has in common, and what one input
does to it.
-/

namespace VpsGuardian.Controller

open Lib

/-- What holds in every database the Controller reaches. -/
structure Sound (db : Db) : Prop where
  constraints : db.Constraints
  owned : SessionsOwned db

theorem transaction_effect {settings : Settings} {db db' : Db} {operation : Operation}
    {reply : Except HTTPException Reply} (hdb : Sound db)
    (h : transaction settings db operation = .ok (reply, db')) : Effect db operation db' := by
  cases operation with
  | createHost host =>
      obtain ⟨hconstraints, -, rfl⟩ := commit_eq_ok.mp h
      exact Effect.of_records hconstraints rfl rfl .same
  | setHostEnabled hostID enabled =>
      obtain ⟨host, -, h⟩ := orRaise_bind_eq_ok.mp h
      obtain ⟨hconstraints, -, rfl⟩ := commit_eq_ok.mp h
      exact Effect.of_records hconstraints rfl rfl .same
  | publishCRL publication =>
      obtain ⟨hconstraints, -, rfl⟩ := commit_eq_ok.mp h
      exact Effect.of_records hconstraints rfl rfl .same
  | enrollAgent token request payload ids => exact enrollAgent_effect hdb.constraints h
  | bootstrapAgent token payload ids => exact bootstrapAgent_effect h
  | prepareAgentIdentity agentID payload => exact prepareAgentIdentity_effect h
  | activateAgentIdentity agentID identityID expectedVersion =>
      exact activateAgentIdentity_effect h
  | retirePendingAgentIdentity agentID identityID expectedVersion =>
      exact retirePendingAgentIdentity_effect h
  | validatePendingAgentIdentity agentID identityID expectedVersion request =>
      exact validatePendingAgentIdentity_effect h
  | renewAgentCertificate agentID payload request => exact renewAgentCertificate_effect h
  | agentHeartbeat agentID request => exact agentHeartbeat_effect h
  | revokeRetiringAgentIdentity agentID identityID payload =>
      exact revokeRetiringAgentIdentity_effect hdb.constraints h
  | revokeAgent agentID payload => exact revokeAgent_effect h
  | createAgentMaintenanceSession hostID payload approval =>
      exact createAgentMaintenanceSession_effect h
  | startAgentMaintenance payload request => exact startAgentMaintenance_effect h
  | reportAgentMaintenanceProgress payload => exact reportAgentMaintenanceProgress_effect h
  | finalizeAgentMaintenance hostID sessionID payload =>
      exact finalizeAgentMaintenance_effect hdb.constraints hdb.owned h

/-- The identities of a record have successors with the same ids in another one. -/
def AgentRecord.ContinuedBy (record record' : AgentRecord) : Prop :=
  record'.id = record.id ∧
    ∀ identity ∈ record.identities, ∃ identity' ∈ record'.identities, identity'.id = identity.id

namespace AgentRecord.ContinuedBy

theorem refl (record : AgentRecord) : record.ContinuedBy record :=
  ⟨rfl, fun identity hidentity => ⟨identity, hidentity, rfl⟩⟩

theorem trans {record record' record'' : AgentRecord} (h : record.ContinuedBy record')
    (h' : record'.ContinuedBy record'') : record.ContinuedBy record'' := by
  refine ⟨h'.1.trans h.1, fun identity hidentity => ?_⟩
  obtain ⟨identity', hidentity', heq⟩ := h.2 identity hidentity
  obtain ⟨identity'', hidentity'', heq'⟩ := h'.2 identity' hidentity'
  exact ⟨identity'', hidentity'', heq'.trans heq⟩

theorem put (record : AgentRecord) (identity : AgentIdentity) :
    record.ContinuedBy (record.put identity) :=
  ⟨rfl, fun _ hold => Table.exists_key_put identity hold⟩

theorem add (record : AgentRecord) (identity : AgentIdentity) :
    record.ContinuedBy (record.add identity) :=
  ⟨rfl, fun old hold => ⟨old, List.mem_append_left _ hold, rfl⟩⟩

/-- A change of the columns of the Agent row, its id apart. -/
theorem of_identities {record record' : AgentRecord} (hid : record'.id = record.id)
    (h : record'.identities = record.identities) : record.ContinuedBy record' :=
  ⟨hid, fun identity hidentity => ⟨identity, h ▸ hidentity, rfl⟩⟩

theorem claim (record : AgentRecord) : record.ContinuedBy record.claim := of_identities rfl rfl

theorem carry (record : AgentRecord) (identity : AgentIdentity) :
    record.ContinuedBy (record.carry identity) := of_identities rfl rfl

theorem revoke (record : AgentRecord) (now : Time) : record.ContinuedBy (record.revoke now) :=
  of_identities rfl rfl

end AgentRecord.ContinuedBy

theorem Change.continuedBy {db : Db} {operation : Operation} {record record' : AgentRecord}
    (h : Change db operation record record') : record.ContinuedBy record' := by
  cases h with
  | seen => exact .of_identities rfl rfl
  | observed => exact .put _ _
  | prepared hrevoked hcleared =>
      refine .trans ?_ (.add _ _)
      rcases hcleared with rfl | ⟨expired, -, -, rfl⟩
      · exact .claim record
      · exact .trans (.claim record) (.put _ _)
  | activated => exact .trans (.trans (.trans (.claim record) (.put _ _)) (.put _ _)) (.carry _ _)
  | renewed => exact .trans (.trans (.trans (.claim record) (.put _ _)) (.add _ _)) (.carry _ _)
  | retired => exact .trans (.claim record) (.put _ _)
  | revoked => exact .trans (.claim record) (.put _ _)
  | agentRevoked => exact .trans (.trans (.claim record) (.put _ _)) (.revoke _ _)
  | decommissioned => exact .trans (.put _ _) (.revoke _ _)
  | reenrolled => exact ⟨rfl, fun old hold => ⟨old, List.mem_append_left _ hold, rfl⟩⟩

section Rules

variable {db : Db} {operation : Operation} {records : List AgentRecord}

/-- A property that every change keeps and a new record has, all records keep. -/
theorem Changes.forall (h : Changes db operation records) {P : AgentRecord → Prop}
    (hchange : ∀ record ∈ db.records, ∀ record' ∈ records,
      Change db operation record record' → P record → P record')
    (hnew : ∀ hostID agentID identityID keys, P (newRecord hostID agentID identityID keys db.clock))
    (hrecords : ∀ record ∈ db.records, P record) : ∀ record ∈ records, P record := by
  cases h with
  | same => exact hrecords
  | @changed record record' hrecord hnext =>
      have hmem : record' ∈ Table.put AgentRecord.id record' db.records :=
        Table.mem_put_self (List.mem_map.mpr ⟨record, hrecord, hnext.continuedBy.1.symm⟩)
      exact Table.forall_put hrecords
        (hchange record hrecord record' hmem hnext (hrecords record hrecord))
  | added hostID agentID identityID keys =>
      intro record hrecord
      rcases List.mem_append.mp hrecord with hrecord | hrecord
      · exact hrecords record hrecord
      · rw [List.mem_singleton] at hrecord
        exact hrecord ▸ hnew hostID agentID identityID keys

/-- A relation that every change and every unchanged record has, each record has
with its successor. -/
theorem Changes.successor (h : Changes db operation records) (hdb : db.Constraints)
    {R : AgentRecord → AgentRecord → Prop} (hrefl : ∀ record, R record record)
    (hchange : ∀ record ∈ db.records, ∀ record' ∈ records,
      Change db operation record record' → R record record')
    {record : AgentRecord} (hrecord : record ∈ db.records) :
    ∃ record' ∈ records, record'.id = record.id ∧ R record record' := by
  cases h with
  | same => exact ⟨record, hrecord, rfl, hrefl record⟩
  | @changed old new hold hnew =>
      have hmem : new ∈ Table.put AgentRecord.id new db.records :=
        Table.mem_put_self (List.mem_map.mpr ⟨old, hold, hnew.continuedBy.1.symm⟩)
      refine Table.exists_put hrefl ?_ hrecord
      intro other hother hid
      have hsame : other = old :=
        Table.eq_of_mem hdb.agentIDs hother hold (hid.trans hnew.continuedBy.1)
      exact hsame ▸ hchange old hold new hmem hnew
  | added => exact ⟨record, List.mem_append_left _ hrecord, rfl, hrefl record⟩

end Rules

theorem Effect.sound {db db' : Db} {operation : Operation} (hdb : Sound db)
    (h : Effect db operation db') : Sound db' := by
  refine ⟨h.constraints, fun session hsession => ?_⟩
  have hsubject : ∃ record ∈ db.records, ∃ identity ∈ record.identities,
      session.subject = (record.id, some identity.id) := by
    rcases h.sessions session hsession with ⟨old, hold, heq⟩ |
      ⟨record, hrecord, active, hactive, heq⟩
    · obtain ⟨record, hrecord, identity, hidentity, hold'⟩ := hdb.owned old hold
      exact ⟨record, hrecord, identity, hidentity, heq.trans hold'⟩
    · exact ⟨record, hrecord, active, (AgentRecord.mem_inState.mp hactive).1, heq⟩
  obtain ⟨record, hrecord, identity, hidentity, heq⟩ := hsubject
  obtain ⟨record', hrecord', hid, hcontinued⟩ := h.records.successor hdb.constraints
    AgentRecord.ContinuedBy.refl (fun _ _ _ _ hchange => hchange.continuedBy)
    hrecord
  obtain ⟨identity', hidentity', hid'⟩ := hcontinued.2 identity hidentity
  exact ⟨record', hrecord', identity', hidentity', by rw [heq, hid, hid']⟩

theorem Sound.arrive {db : Db} (hdb : Sound db) (input : Input) : Sound (db.arrive input) := by
  obtain ⟨⟨h₁, h₂, h₃, h₄, h₅, h₆, h₇, h₈, h₉, h₁₀, h₁₁, h₁₂, h₁₃, h₁₄, h₁₅⟩, howned⟩ := hdb
  exact ⟨⟨h₁, h₂, h₃, h₄, h₅, h₆, h₇, h₈, h₉, h₁₀, h₁₁, h₁₂, h₁₃, h₁₄, h₁₅⟩, howned⟩

/-- An input lets time pass and otherwise has no effect, or that of its operation. -/
theorem step_cases {settings : Settings} {db : Db} (hdb : Sound db) (input : Input) :
    step settings db input = db.arrive input ∨
      Effect (db.arrive input) input.operation (step settings db input) := by
  unfold step serve
  cases h : transaction settings (db.arrive input) input.operation with
  | error e => exact .inl rfl
  | ok outcome => exact .inr (transaction_effect (hdb.arrive input) h)

theorem sound_step {settings : Settings} {db : Db} {input : Input} (hdb : Sound db) :
    Sound (step settings db input) := by
  rcases step_cases hdb input with h | h
  · exact h ▸ hdb.arrive input
  · exact h.sound (hdb.arrive input)

theorem sound_empty : Sound Db.empty := by
  refine ⟨by decide, fun session hsession => ?_⟩
  cases hsession

theorem sound_run (settings : Settings) (inputs : List Input) :
    Sound (run (step settings) Db.empty inputs) :=
  run_invariant_of_step (fun _ _ hdb => sound_step hdb) sound_empty inputs

end VpsGuardian.Controller
