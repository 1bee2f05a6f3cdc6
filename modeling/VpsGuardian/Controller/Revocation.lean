import VpsGuardian.Controller.Representation

/-!
The identities of a revoked Agent stay unusable, as long as its row is not taken
into use again while one of them is retiring, or pending and not expired.

Revoking an Agent changes the state of one identity and marks the Agent row. The
mark is what stops all other identities, and the next enrollment removes it.
-/

namespace VpsGuardian.Controller

open Lib

/-- A revoked Agent is enrolled again only when no identity of it would be
accepted; an active one makes the enrollment fail. -/
def ReenrollsClean (db : Db) (input : Input) : Prop :=
  ∀ record ∈ db.records, record.revoked = true → input.operation.enrolls db record = true →
    ∀ identity ∈ record.identities,
      identity.accepted (db.arrive input).clock = true → identity.state = .active

instance (db : Db) (input : Input) : Decidable (ReenrollsClean db input) :=
  inferInstanceAs (Decidable (∀ record ∈ db.records, _))

/-- Whether an input revokes an Agent: by `revoke_agent` or by the finalization
of a decommission. -/
def revokes (settings : Settings) (db : Db) (input : Input) (agentID : String) : Bool :=
  match input.operation, (serve settings db input).1 with
  | .revokeAgent id _, .ok _ => id == agentID
  | .finalizeAgentMaintenance _ _ _, .ok (.maintenance session) =>
      session.kind == .decommission && session.agentID == agentID
  | _, _ => false

/-- The identities there are for an Agent. -/
def Db.identityIDs (db : Db) (agentID : String) : List String :=
  (db.records.filter (·.id == agentID)).flatMap fun record => record.identities.map (·.id)

/-- The identity a request is authenticated as, by the steps every handler of
Agent requests begins with. -/
def authenticatedAs (settings : Settings) (db : Db) (agentID : String) (request : AgentRequest) :
    Option String :=
  match (do verifyAgentRequest settings db (← lockActiveAgent db agentID) request) with
  | .ok (identity, _) => some identity.id
  | .error _ => none

/-! ### An identity that cannot be used -/

/-- The record has the identity, and either the Agent is revoked or the identity
is not accepted. -/
structure Barred (now : Time) (identityID : String) (record : AgentRecord) : Prop where
  present : ∃ identity ∈ record.identities, identity.id = identityID
  unusable : record.revoked = true ∨ ∀ identity ∈ record.identities,
    identity.id = identityID → identity.accepted now = false

theorem accepted_mono {identity : AgentIdentity} {now now' : Time} (hle : now ≤ now')
    (h : identity.accepted now = false) : identity.accepted now' = false := by
  unfold AgentIdentity.accepted at h ⊢
  cases hstate : identity.state with
  | pending =>
      rw [hstate] at h
      cases hexpires : identity.expiresAt with
      | none => rfl
      | some expiresAt =>
          simp only [hexpires, Option.any_some, decide_eq_false_iff_not, not_lt] at h ⊢
          exact h.trans hle
  | active => simp [hstate] at h
  | retiring => simp [hstate] at h
  | revoked => rfl
  | retired => rfl

/-- A pending identity that is not expired is accepted. -/
theorem accepted_of_unexpired {identity : AgentIdentity} {now : Time}
    (hpending : identity.state = .pending)
    (hunexpired : pendingIdentityIsExpired identity now = false) :
    identity.accepted now = true := by
  unfold pendingIdentityIsExpired at hunexpired
  rw [AgentIdentity.accepted, hpending]
  cases hexpires : identity.expiresAt with
  | none => simp [hexpires] at hunexpired
  | some expiresAt =>
      simp only [hexpires, Option.all_some, decide_eq_false_iff_not, not_le] at hunexpired
      simpa only [Option.any_some, decide_eq_true_eq] using hunexpired

theorem Barred.later {now now' : Time} (hle : now ≤ now') {identityID : String}
    {record : AgentRecord} (h : Barred now identityID record) : Barred now' identityID record := by
  refine ⟨h.present, h.unusable.imp id fun hall identity hidentity hid => ?_⟩
  exact accepted_mono hle (hall identity hidentity hid)

/-- In a table without duplicate ids, an added row has an id of its own. -/
theorem id_ne_of_add {record : AgentRecord} {new : AgentIdentity}
    (hids : ((record.add new).identities.map (·.id)).Nodup) {identity : AgentIdentity}
    (hidentity : identity ∈ record.identities) : identity.id ≠ new.id := by
  rw [AgentRecord.add, List.map_append, List.nodup_append] at hids
  exact hids.2.2 _ (List.mem_map_of_mem hidentity) _ (by simp)

section Change

variable {db : Db} {operation : Operation} {record record' : AgentRecord} {identityID : String}

/-- No change makes an identity usable again, a re-enrollment apart. -/
theorem Change.barred (h : Change db operation record record')
    (hids : (record'.identities.map (·.id)).Nodup) (hconstraints : record'.Constraints)
    (hclean : record.revoked = true → operation.enrolls db record = true →
      ∀ identity ∈ record.identities, identity.accepted db.clock = true →
        identity.state = .active)
    (hbarred : Barred db.clock identityID record) : Barred db.clock identityID record' := by
  have hpresent : ∃ identity ∈ record'.identities, identity.id = identityID := by
    obtain ⟨identity, hidentity, hid⟩ := hbarred.present
    obtain ⟨identity', hidentity', hid'⟩ := h.continuedBy.2 identity hidentity
    exact ⟨identity', hidentity', hid'.trans hid⟩
  -- For an Agent that is not revoked, the identity itself is what is not accepted.
  have hlive : record.revoked = false → ∀ identity ∈ record.identities,
      identity.id = identityID → identity.accepted db.clock = false := by
    intro hrevoked
    rcases hbarred.unusable with hrevoked' | hall
    · exact Bool.noConfusion (hrevoked.symm.trans hrevoked')
    · exact hall
  have hadded {earlier : AgentRecord} {new : AgentIdentity}
      (hids : ((earlier.add new).identities.map (·.id)).Nodup)
      (hthere : ∃ identity ∈ earlier.identities, identity.id = identityID)
      (hall : ∀ identity ∈ earlier.identities, identity.id = identityID →
        identity.accepted db.clock = false) :
      ∀ identity ∈ (earlier.add new).identities, identity.id = identityID →
        identity.accepted db.clock = false := by
    intro identity hidentity hid
    rcases List.mem_append.mp hidentity with hidentity | hidentity
    · exact hall identity hidentity hid
    · rw [List.mem_singleton] at hidentity
      obtain ⟨old, hold, hold'⟩ := hthere
      exact absurd (hold'.trans (hid.symm.trans (congrArg _ hidentity))) (id_ne_of_add hids hold)
  refine ⟨hpresent, ?_⟩
  cases h with
  | seen hrevoked => exact .inr (hlive hrevoked)
  | @observed identity hrevoked hidentity =>
      exact .inr (Table.forall_put (hlive hrevoked) (hlive hrevoked identity hidentity))
  | @prepared cleared identity hrevoked hcleared hstate hgeneration =>
      refine .inr (hadded hids ?_ ?_)
      · obtain ⟨old, hold, hid⟩ := hbarred.present
        rcases hcleared with rfl | ⟨expired, -, -, rfl⟩
        · exact ⟨old, hold, hid⟩
        · obtain ⟨new, hnew, hid'⟩ := (AgentRecord.ContinuedBy.put record.claim
            { expired with state := .retired }).2 old hold
          exact ⟨new, hnew, hid'.trans hid⟩
      · rcases hcleared with rfl | ⟨expired, -, -, rfl⟩
        · exact hlive hrevoked
        · exact Table.forall_put (hlive hrevoked) fun _ => rfl
  | @activated identity activeIdentity hrevoked hidentity hpending hunexpired hmem hactive =>
      -- Both rows that change were accepted, so neither is the barred one.
      have haccepted := accepted_of_unexpired hpending hunexpired
      have haccepted' : activeIdentity.accepted db.clock = true := by
        rw [AgentIdentity.accepted, hactive]
      refine .inr (Table.forall_put (Table.forall_put (hlive hrevoked) fun hid => ?_) fun hid => ?_)
      · exact absurd haccepted' (by simp [hlive hrevoked _ hmem hid])
      · exact absurd haccepted (by simp [hlive hrevoked _ hidentity hid])
  | @renewed authenticated identity hrevoked hmem hactive hstate hgeneration =>
      have haccepted : authenticated.accepted db.clock = true := by
        rw [AgentIdentity.accepted, hactive]
      refine .inr (hadded hids ?_ ?_)
      · obtain ⟨old, hold, hid⟩ := hbarred.present
        obtain ⟨new, hnew, hid'⟩ := (AgentRecord.ContinuedBy.put record.claim
          { authenticated with state := .retiring }).2 old hold
        exact ⟨new, hnew, hid'.trans hid⟩
      · refine Table.forall_put (hlive hrevoked) fun hid => ?_
        exact absurd haccepted (by simp [hlive hrevoked _ hmem hid])
  | retired hrevoked => exact .inr (Table.forall_put (hlive hrevoked) fun _ => rfl)
  | revoked hrevoked => exact .inr (Table.forall_put (hlive hrevoked) fun _ => rfl)
  | agentRevoked => exact .inl rfl
  | decommissioned => exact .inl rfl
  | reenrolled hrevoked henrolls newID keys =>
      refine .inr (hadded hids hbarred.present fun identity hidentity hid => ?_)
      by_contra haccepted
      have hactive := hclean hrevoked henrolls identity hidentity (by simpa using haccepted)
      -- An old active identity beside the new one breaks the partial unique index.
      have hone := hconstraints.oneActive
      have hold : identity ∈ record.inState .active :=
        AgentRecord.mem_inState.mpr ⟨hidentity, hactive⟩
      have htwo : ((record.reenroll newID keys db.clock).inState .active).length =
          (record.inState .active).length + 1 := by
        simp [AgentRecord.inState, AgentRecord.reenroll, enrolledIdentity]
      have hpos := List.length_pos_of_mem hold
      omega

end Change

/-! ### Runs -/

/-- The Agent has a record in which the identity is barred. -/
def BarredIn (db : Db) (agentID identityID : String) : Prop :=
  ∃ record ∈ db.records, record.id = agentID ∧ Barred db.clock identityID record

theorem BarredIn.arrive {db : Db} {agentID identityID : String}
    (h : BarredIn db agentID identityID) (input : Input) :
    BarredIn (db.arrive input) agentID identityID := by
  obtain ⟨record, hrecord, hid, hbarred⟩ := h
  exact ⟨record, hrecord, hid, hbarred.later (le_add_of_nonneg_right (Int.natCast_nonneg _))⟩

theorem barredIn_step {settings : Settings} {db : Db} {input : Input}
    {agentID identityID : String} (hdb : Sound db) (hclean : ReenrollsClean db input)
    (h : BarredIn db agentID identityID) :
    BarredIn (step settings db input) agentID identityID := by
  rcases step_cases hdb input with hstep | heffect
  · rw [hstep]
    exact h.arrive input
  · obtain ⟨record, hrecord, hid, hbarred⟩ := h.arrive input
    obtain ⟨record', hrecord', hid', hkept⟩ := heffect.records.successor
      (hdb.arrive input).constraints (R := fun record record' =>
        Barred (db.arrive input).clock identityID record →
          Barred (db.arrive input).clock identityID record')
      (fun _ hbarred => hbarred)
      (fun record hrecord record' hrecord' hchange => hchange.barred
        (heffect.constraints.identityIDs_nodup hrecord')
        (heffect.constraints.perAgent record' hrecord') (hclean record hrecord)) hrecord
    refine ⟨record', hrecord', hid'.trans hid, ?_⟩
    rw [heffect.clock]
    exact hkept hbarred

/-- A successful revocation marks the Agent row. -/
theorem revoked_of_revokes {settings : Settings} {db : Db} {input : Input} {agentID : String}
    (hdb : Sound db) (h : revokes settings db input agentID = true) :
    ∃ operation, Effect (db.arrive input) operation (step settings db input) ∧
      ∀ record ∈ (step settings db input).records, record.id = agentID →
        record.revoked = true := by
  obtain ⟨elapsed, operation⟩ := input
  have hsound := hdb.arrive ⟨elapsed, operation⟩
  unfold revokes step serve at *
  cases htransaction : transaction settings (db.arrive ⟨elapsed, operation⟩) operation with
  | error e =>
      simp only [htransaction] at h
      cases operation <;> cases h
  | ok outcome =>
      obtain ⟨reply, db'⟩ := outcome
      refine ⟨operation, transaction_effect hsound htransaction, ?_⟩
      simp only [htransaction] at h
      cases operation with
      | revokeAgent id payload =>
          cases reply with
          | error e => cases h
          | ok reply =>
              obtain rfl : id = agentID := by simpa using h
              obtain ⟨record, identity, hrecord, -, -, -, hconstraints, rfl⟩ :=
                revokeAgent_ok htransaction
              intro other hother hid
              rcases Table.mem_put.mp hother with ⟨rfl, -⟩ | ⟨-, hne⟩
              · rfl
              · exact absurd (hid.trans (Table.key_of_lookup hrecord).symm) hne
      | finalizeAgentMaintenance hostID sessionID payload =>
          obtain ⟨host, session, finalized, hsession, hstatus, hfinalized, -, rfl, rfl⟩ :=
            finalizeAgentMaintenance_ok htransaction
          obtain ⟨hkind, hagent⟩ : session.kind = .decommission ∧ session.agentID = agentID := by
            simpa [AgentMaintenanceSession.record] using h
          unfold finalization at hfinalized
          rw [hkind] at hfinalized
          obtain ⟨record, hrecord, identity, hidentity, hsubject⟩ :=
            hsound.owned session (Table.mem_of_lookup hsession)
          obtain rfl := decommission_ok hsound.constraints hrecord hidentity hsubject hfinalized
          have hid : session.agentID = record.id := congrArg Prod.fst hsubject
          intro other hother hother'
          rcases Table.mem_put.mp hother with ⟨rfl, -⟩ | ⟨-, hne⟩
          · rfl
          · exact absurd (hother'.trans (hagent.symm.trans hid)) hne
      | _ => cases reply <;> cases h

theorem barredIn_of_revokes {settings : Settings} {db : Db} {input : Input}
    {agentID identityID : String} (hdb : Sound db)
    (hrevokes : revokes settings db input agentID = true)
    (hidentity : identityID ∈ db.identityIDs agentID) :
    BarredIn (step settings db input) agentID identityID := by
  obtain ⟨operation, heffect, hrevoked⟩ := revoked_of_revokes hdb hrevokes
  obtain ⟨record, hrecord, hmem⟩ := List.mem_flatMap.mp hidentity
  obtain ⟨hrecord, hid⟩ := List.mem_filter.mp hrecord
  obtain ⟨identity, hpresent, rfl⟩ := List.mem_map.mp hmem
  obtain ⟨record', hrecord', hid', hcontinued⟩ := heffect.records.successor
    (hdb.arrive input).constraints AgentRecord.ContinuedBy.refl
    (fun _ _ _ _ hchange => hchange.continuedBy) hrecord
  have hagent : record'.id = agentID := hid'.trans (by simpa using hid)
  exact ⟨record', hrecord', hagent, hcontinued.2 identity hpresent,
    .inl (hrevoked record' hrecord' hagent)⟩

theorem BarredIn.not_authenticated {settings : Settings} {db : Db} {agentID identityID : String}
    (hdb : Sound db) (h : BarredIn db agentID identityID) (request : AgentRequest) :
    authenticatedAs settings db agentID request ≠ some identityID := by
  unfold authenticatedAs
  split
  · rename_i identity db' haccept
    obtain ⟨locked, hlock, hverify⟩ := bind_eq_ok.mp haccept
    obtain ⟨hlocked, hrevoked⟩ := lockActiveAgent_eq_ok.mp hlock
    obtain ⟨hidentity, haccepted, -⟩ := verifyAgentRequest_ok hverify
    obtain ⟨record, hrecord, hid, hbarred⟩ := h
    obtain rfl : record = locked := Table.eq_of_mem hdb.constraints.agentIDs hrecord
      (Table.mem_of_lookup hlocked) (hid.trans (Table.key_of_lookup hlocked).symm)
    rintro ⟨hsame⟩
    rcases hbarred.unusable with hrevoked' | hall
    · exact Bool.noConfusion (hrevoked.symm.trans hrevoked')
    · exact Bool.noConfusion ((hall identity hidentity rfl).symm.trans haccepted)
  · simp

/-- In every run in which no revoked Agent is enrolled again while one of its
identities would be accepted, an identity there was before a revocation of its
Agent is never accepted after it. -/
theorem revocation_is_final (settings : Settings) {history later : List Input}
    {revocation : Input} {agentID identityID : String}
    (hclean : Meets (step settings) ReenrollsClean Db.empty (history ++ revocation :: later))
    (hrevokes : revokes settings (run (step settings) Db.empty history) revocation agentID = true)
    (hidentity : identityID ∈ (run (step settings) Db.empty history).identityIDs agentID)
    (next : Input) (request : AgentRequest) :
    authenticatedAs settings
      ((run (step settings) Db.empty (history ++ revocation :: later)).arrive next) agentID
      request ≠ some identityID := by
  have hhistory := sound_run settings history
  have hbarred := barredIn_of_revokes hhistory hrevokes hidentity
  have hlater := (Meets.append.mp hclean).2.2
  have hinvariant := run_invariant
    (I := fun db => Sound db ∧ BarredIn db agentID identityID)
    (fun db input hclean h => ⟨sound_step h.1, barredIn_step h.1 hclean h.2⟩)
    ⟨sound_step hhistory, hbarred⟩ hlater
  rw [run_append]
  exact (hinvariant.2.arrive next).not_authenticated (hinvariant.1.arrive next) request

/-! ### A revocation before and after a renewal -/

/-- The certificate with the serial is on the CRL. -/
def publication (certificateSerial : String) : Input :=
  ⟨0, .publishCRL ⟨1, "crl-1", certificateSerial⟩⟩

def agentRevocation (identityVersion : Nat) : Input :=
  ⟨0, .revokeAgent "agent-1" ⟨identityVersion, 1, "crl-1"⟩⟩

/-- The row of the revoked Agent is taken into use again. -/
def reenrollment : Input :=
  ⟨0, .bootstrapAgent (.oneTime "host-1")
    ⟨"host-1", "csr", "key-3", "proof", some ⟨fingerprintOf '3', "A3", seconds 86400⟩⟩
    ⟨"unused", "unused", "identity-3"⟩⟩

/-- A request under the first identity. -/
def oldRequest : AgentRequest :=
  signedRequest "key-1" (fingerprintOf '1') "A1" "0" "nonce-0000000002"

theorem revocation_is_final_reenrolled :
    authenticatedAs idealSettings
      ((run (step idealSettings) Db.empty
        (enrolledAgent ++ [publication "A1"] ++ agentRevocation 1 :: [reenrollment])).arrive
        ⟨0, .agentHeartbeat "agent-1" oldRequest⟩) "agent-1" oldRequest ≠ some "identity-1" :=
  revocation_is_final idealSettings (by decide +kernel) (by decide +kernel) (by decide +kernel)
    ⟨0, .agentHeartbeat "agent-1" oldRequest⟩ oldRequest

/-- The first identity, left retiring by a renewal, outlives the revocation of its
Agent: it is accepted once the Agent is enrolled again. -/
theorem retiring_identity_outlives_revocation :
    ¬ ∀ (history later : List Input) (revocation : Input) (agentID identityID : String),
      revokes idealSettings (run (step idealSettings) Db.empty history) revocation agentID = true →
      identityID ∈ (run (step idealSettings) Db.empty history).identityIDs agentID →
      ∀ (next : Input) (request : AgentRequest), authenticatedAs idealSettings
        ((run (step idealSettings) Db.empty (history ++ revocation :: later)).arrive next) agentID
        request ≠ some identityID := by
  intro h
  refine h (enrolledAgent ++ [renewal, publication "A2"]) [reenrollment] (agentRevocation 2)
    "agent-1" "identity-1" ?_ ?_ ⟨0, .agentHeartbeat "agent-1" oldRequest⟩ oldRequest ?_
  · decide +kernel
  · decide +kernel
  · decide +kernel

end VpsGuardian.Controller
