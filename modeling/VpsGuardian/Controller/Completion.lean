import VpsGuardian.Controller.Exclusivity
import VpsGuardian.Controller.Representation

/-!
What a completed maintenance session has seen.

The heartbeat of the Agent is checked when `heartbeat_verified` is reported. A report has only to
move a session forward, so that the check happens only if the Agent does not leave that status
out.
-/

namespace VpsGuardian.Controller

open Lib

/-- The status by which the Agent reports that its own part is done. -/
def AgentMaintenanceKind.concluding : AgentMaintenanceKind → Option MaintenanceStatus
  | .repair => some .completed
  | .reinstall | .rotateIdentity => some .confirmationPending
  | .decommission => none

def Operation.progress? : Operation → Option AgentMaintenanceProgress
  | .reportAgentMaintenanceProgress payload => some payload
  | _ => none

/-- A report that the Agent's part is done finds the session no earlier than
`heartbeat_verified`. -/
def ConcludesVerified (settings : Settings) (db : Db) (input : Input) : Prop :=
  ∀ payload ∈ input.operation.progress?,
    payload.kind.concluding = some payload.status →
    payload.errorSummary.all (·.length ≤ 240) = true →
    ∀ session ∈ payload.session? settings (db.arrive input),
      MaintenanceStatus.sequence .heartbeatVerified ≤ session.statusSequence

instance (settings : Settings) (db : Db) (input : Input) :
    Decidable (ConcludesVerified settings db input) :=
  inferInstanceAs (Decidable (∀ payload ∈ input.operation.progress?, _))

/-- The heartbeat of a session was verified at some moment of the run. -/
def PassedVerified (settings : Settings) (history : List Input) (sessionID : String) : Prop :=
  ∃ earlier later, history = earlier ++ later ∧
    ∃ session ∈ (run (step settings) Db.empty earlier).sessions,
      session.id = sessionID ∧ Verified (run (step settings) Db.empty earlier) session

/-- The sessions that were to bring the Agent back have seen it come back when they are
completed. -/
def CompletionsVerified (settings : Settings) (history : List Input) : Prop :=
  ∀ session ∈ (run (step settings) Db.empty history).sessions, session.kind ≠ .decommission →
    session.status = .completed → PassedVerified settings history session.id

/-! ### Sessions at or past `heartbeat_verified` -/

def AgentMaintenanceSession.Past (session : AgentMaintenanceSession) : Prop :=
  session.kind ≠ .decommission ∧ (session.status = .heartbeatVerified ∨
    session.status = .confirmationPending ∨ session.status = .completed)

section Past

variable {settings : Settings}

theorem PassedVerified.append {history : List Input} {sessionID : String}
    (h : PassedVerified settings history sessionID) (inputs : List Input) :
    PassedVerified settings (history ++ inputs) sessionID := by
  obtain ⟨earlier, later, rfl, hverified⟩ := h
  exact ⟨earlier, later ++ inputs, List.append_assoc _ _ _, hverified⟩

theorem session?_kind {db : Db} {payload : AgentMaintenanceProgress}
    {session : AgentMaintenanceSession} (h : payload.session? settings db = some session) :
    session.kind = payload.kind := by
  unfold AgentMaintenanceProgress.session? at h
  cases hsession : authenticateMaintenanceProgress settings db payload.credential payload.kind with
  | error e =>
    rw [hsession] at h
    cases h
  | ok found =>
    rw [hsession] at h
    cases h
    exact (authenticateMaintenanceProgress_live hsession).1

/-- A session that is open and numbered from `heartbeat_verified` on is past it. -/
theorem AgentMaintenanceSession.Numbered.past {session : AgentMaintenanceSession}
    (hnumbered : session.Numbered) (hkind : session.kind ≠ .decommission)
    (hactive : session.status.terminal = false)
    (hle : MaintenanceStatus.sequence .heartbeatVerified ≤ session.statusSequence) :
    session.Past := by
  have hsequence := hle.trans hnumbered
  refine ⟨hkind, ?_⟩
  cases hstatus : session.status <;> rw [hstatus] at hsequence hactive <;>
    simp_all [MaintenanceStatus.sequence, MaintenanceStatus.terminal]

/-- A session that an operation takes past `heartbeat_verified` was past it before, or is verified
by the operation. -/
theorem SessionChange.past {db : Db} {input : Input} {session session' : AgentMaintenanceSession}
    (hconcludes : ConcludesVerified settings db input) (hnumbered : session.Numbered)
    (h : SessionChange settings (db.arrive input) input.operation session session')
    (hpast : session'.Past) :
    session.Past ∨ ∃ payload, input.operation = .reportAgentMaintenanceProgress payload ∧
      Verified (db.arrive input) session' := by
  cases h with
  | kept => exact .inl hpast
  | superseded => simp [AgentMaintenanceSession.Past] at hpast
  | started => simp [AgentMaintenanceSession.Past, AgentMaintenanceSession.record] at hpast
  | @progressed payload hoperation hsession hactive hallowed _ hcompleted hsummary _ hverified =>
    obtain ⟨hkind, hstatus⟩ := hpast
    replace hkind : session.kind ≠ .decommission := hkind
    have hpast (hconcluding : session.kind.concluding = some payload.status) : session.Past := by
      rw [session?_kind hsession] at hconcluding
      refine hnumbered.past hkind hactive
        (hconcludes payload ?_ hconcluding hsummary session hsession)
      rw [hoperation]
      rfl
    rcases hstatus with hstatus | hstatus | hstatus
    · exact .inr ⟨payload, hoperation, hverified hstatus⟩
    · refine .inl (hpast ?_)
      replace hstatus : payload.status = .confirmationPending := hstatus
      rw [hstatus] at hallowed ⊢
      cases hsession : session.kind with
      | repair =>
        rw [hsession] at hallowed
        simp [AgentMaintenanceKind.allowed] at hallowed
      | reinstall => rfl
      | rotateIdentity => rfl
      | decommission => exact absurd hsession hkind
    · refine .inl (hpast ?_)
      replace hstatus : payload.status = .completed := hstatus
      rw [hcompleted hstatus, hstatus]
      rfl
  | finalized hpending => exact .inl ⟨hpast.1, .inr (.inl hpending)⟩

/-- A report of progress leaves the Agents as they were. -/
theorem Verified.step {db : Db} {input : Input} {payload : AgentMaintenanceProgress}
    {session : AgentMaintenanceSession}
    (hoperation : input.operation = .reportAgentMaintenanceProgress payload)
    (h : Verified (db.arrive input) session) : Verified (step settings db input) session := by
  have hrecords : (Controller.step settings db input).records = (db.arrive input).records := by
    unfold Controller.step serve
    cases htransaction : transaction settings (db.arrive input) input.operation with
    | error e => rfl
    | ok outcome =>
      rw [hoperation] at htransaction
      exact reportAgentMaintenanceProgress_records htransaction
  obtain ⟨hstatus, record, hrecord, hobserved⟩ := h
  refine ⟨hstatus, record, ?_, hobserved⟩
  rw [Db.record?, hrecords]
  exact hrecord

/-- What is new past `heartbeat_verified` after an input was verified by it. -/
theorem passedVerified_step {history : List Input} {input : Input}
    (hdb : Orderly (run (step settings) Db.empty history))
    (hconcludes : ConcludesVerified settings (run (step settings) Db.empty history) input)
    (hpassed : ∀ session ∈ (run (step settings) Db.empty history).sessions,
      session.Past → PassedVerified settings history session.id) :
    ∀ session ∈ (run (step settings) Db.empty (history ++ [input])).sessions,
      session.Past → PassedVerified settings (history ++ [input]) session.id := by
  have hrun : run (step settings) Db.empty (history ++ [input]) =
      step settings (run (step settings) Db.empty history) input := run_append _ _ _ _
  intro session' hsession' hpast
  have hmem := hsession'
  rw [hrun] at hmem
  have hchanges := (step_sessions settings hdb.sound input).2
  have hold (session) (hsession : session ∈ (run (step settings) Db.empty history).sessions)
      (hchange : SessionChange settings ((run (step settings) Db.empty history).arrive input)
        input.operation session session') :
      PassedVerified settings (history ++ [input]) session'.id := by
    have hnumbered := hdb.numbered session hsession
    rcases hchange.past hconcludes hnumbered hpast with hbefore | ⟨payload, hoperation, hverified⟩
    · rw [(hchange.succeeds hnumbered).1.id]
      exact (hpassed session hsession hbefore).append [input]
    · refine ⟨history ++ [input], [], (List.append_nil _).symm, session', hsession', rfl, ?_⟩
      rw [hrun]
      exact hverified.step hoperation
  generalize (step settings (run (step settings) Db.empty history) input).sessions = sessions at *
  cases hchanges with
  | changed hf =>
    obtain ⟨session, hsession, rfl⟩ := List.mem_map.mp hmem
    exact hold session hsession (hf session hsession)
  | issued hhost hwaiting hsequence hfree =>
    rcases List.mem_append.mp hmem with hmem | hnew
    · obtain ⟨session, hsession, rfl⟩ := List.mem_map.mp hmem
      exact hold session hsession (supersede_change _ session)
    · rw [List.mem_singleton] at hnew
      rw [hnew, AgentMaintenanceSession.Past, hwaiting] at hpast
      simp at hpast

end Past

/-- If the Agents report the heartbeat before they report the end of their part, every session
that is completed has passed the verification. -/
theorem completions_verified (settings : Settings) (history : List Input)
    (h : Meets (step settings) (ConcludesVerified settings) Db.empty history) :
    CompletionsVerified settings history := by
  have hinvariant := run_history (s := Db.empty)
    (I := fun history db => Orderly db ∧
      ∀ session ∈ db.sessions, session.Past → PassedVerified settings history session.id)
    ⟨orderly_empty, fun _ hsession => absurd hsession List.not_mem_nil⟩
    (fun history input hconcludes hbefore => ?_) h
  · exact fun session hsession hkind hcompleted =>
      hinvariant.2 session hsession ⟨hkind, .inr (.inr hcompleted)⟩
  · refine ⟨?_, passedVerified_step hbefore.1 hconcludes hbefore.2⟩
    rw [run_append]
    exact orderly_step hbefore.1 input

/-! ### A repair with and without a heartbeat -/

/-- A repair of `alpha` that has been started. -/
def repairSession : List Input :=
  [⟨0, .createAgentMaintenanceSession "host-1"
      ⟨.repair, none, false, none, none, "session-1", "start-token"⟩ none⟩,
    ⟨0, .startAgentMaintenance ⟨.repair, "start-token", "192.0.2.1", none, none, "progress-token"⟩
      (signedRequest "key-1" (fingerprintOf '1') "A1" "0" "nonce-0000000000")⟩]

def repairReport (status : MaintenanceStatus) : Input :=
  ⟨0, .reportAgentMaintenanceProgress ⟨.repair, "progress-token", status, none⟩⟩

/-- The Agent is back. -/
def laterHeartbeat : Input :=
  ⟨1, .agentHeartbeat "agent-1"
    (signedRequest "key-1" (fingerprintOf '1') "A1" "0" "nonce-0000000001")⟩

theorem completions_verified_repaired :
    CompletionsVerified idealSettings (enrolledAgent ++ repairSession ++
      [laterHeartbeat, repairReport .heartbeatVerified, repairReport .completed]) :=
  completions_verified idealSettings _ (by decide +kernel)

/-- A repair is completed although no heartbeat was ever verified. -/
theorem repair_completed_unverified :
    ¬CompletionsVerified idealSettings
      (enrolledAgent ++ repairSession ++ [repairReport .completed]) := by
  intro h
  have hcompleted : ∃ session ∈ (run (step idealSettings) Db.empty
      (enrolledAgent ++ repairSession ++ [repairReport .completed])).sessions,
      session.kind ≠ .decommission ∧ session.status = .completed := by decide +kernel
  have hnever : ∀ earlier ∈ (enrolledAgent ++ repairSession ++ [repairReport .completed]).inits,
      ∀ session ∈ (run (step idealSettings) Db.empty earlier).sessions,
        session.status ≠ .heartbeatVerified := by decide +kernel
  obtain ⟨session, hsession, hkind, hstatus⟩ := hcompleted
  obtain ⟨earlier, later, hsplit, verified, hverified, -, hpassed⟩ :=
    h session hsession hkind hstatus
  refine hnever earlier ?_ verified hverified hpassed.status
  rw [List.mem_inits, hsplit]
  exact List.prefix_append earlier later

end VpsGuardian.Controller
