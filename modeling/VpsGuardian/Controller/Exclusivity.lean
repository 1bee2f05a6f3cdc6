import VpsGuardian.Controller.Sessions

/-!
A host has one maintenance session at a time, and a session goes forward only.

A session is issued only if the open one of its host is still waiting, and that one is revoked
with the same statement. Its credential starts it from `waiting`, which no session comes back to.
-/

namespace VpsGuardian.Controller

open Lib

/-- The sessions of a host that have not ended. -/
def Db.openSessions (db : Db) (hostID : String) : List AgentMaintenanceSession :=
  db.sessions.filter fun session => session.hostID == hostID && !session.status.terminal

/-- A session can be neither started nor advanced any more by its start credential. -/
def AgentMaintenanceSession.Closed (session : AgentMaintenanceSession) (now : Time) : Prop :=
  session.revokedAt ≠ none ∨ session.status.terminal = true ∨ session.expiresAt ≤ now

/-- The session that an input starts, and the digest of the credential it is started with. -/
def startedSession? (settings : Settings) (db : Db) (input : Input) : Option (String × String) :=
  match input.operation, (serve settings db input).1 with
  | .startAgentMaintenance payload _, .ok (.maintenanceStarted sessionID _ _) =>
      some (sessionID, maintenanceCredentialDigest settings payload.credential payload.kind "start")
  | _, _ => none

/-- The Controller with the sessions it starts as its outputs. -/
def starts (settings : Settings) (db : Db) (input : Input) : Db × List (String × String) :=
  (step settings db input, (startedSession? settings db input).toList)

/-! ### One session over time -/

/-- What of a session stays. -/
structure Succeeds (session session' : AgentMaintenanceSession) : Prop where
  id : session'.id = session.id
  hostID : session'.hostID = session.hostID
  tokenHash : session'.tokenHash = session.tokenHash
  expiresAt : session'.expiresAt = session.expiresAt
  used : session.usedAt ≠ none → session'.usedAt ≠ none
  revoked : session.revokedAt ≠ none → session'.revokedAt ≠ none
  terminal : session.status.terminal = true → session'.status = session.status
  sequence : session.statusSequence ≤ session'.statusSequence

theorem MaintenanceStatus.sequence_le (status : MaintenanceStatus) : status.sequence ≤ 8 := by
  cases status <;> decide

theorem Succeeds.refl (session : AgentMaintenanceSession) : Succeeds session session :=
  ⟨rfl, rfl, rfl, rfl, fun h => h, fun h => h, fun _ => rfl, le_rfl⟩

theorem Succeeds.trans {session session' session'' : AgentMaintenanceSession}
    (h : Succeeds session session') (h' : Succeeds session' session'') :
    Succeeds session session'' where
  id := h'.id.trans h.id
  hostID := h'.hostID.trans h.hostID
  tokenHash := h'.tokenHash.trans h.tokenHash
  expiresAt := h'.expiresAt.trans h.expiresAt
  used := fun hused => h'.used (h.used hused)
  revoked := fun hrevoked => h'.revoked (h.revoked hrevoked)
  terminal := by
    intro hterminal
    have hsame := h.terminal hterminal
    rw [← hsame] at hterminal
    exact (h'.terminal hterminal).trans hsame
  sequence := h.sequence.trans h'.sequence

theorem Succeeds.closed {session session' : AgentMaintenanceSession} (h : Succeeds session session')
    {now now' : Time} (hle : now ≤ now') (hclosed : session.Closed now) : session'.Closed now' := by
  rcases hclosed with hrevoked | hterminal | hexpired
  · exact .inl (h.revoked hrevoked)
  · refine .inr (.inl ?_)
    rw [h.terminal hterminal]
    exact hterminal
  · refine .inr (.inr ?_)
    rw [h.expiresAt]
    exact hexpired.trans hle

/-- The number of a session does not run ahead of its status. -/
def AgentMaintenanceSession.Numbered (session : AgentMaintenanceSession) : Prop :=
  session.statusSequence ≤ session.status.sequence

section Change

variable {settings : Settings} {db : Db} {operation : Operation}

theorem SessionChange.succeeds {session session' : AgentMaintenanceSession}
    (h : SessionChange settings db operation session session') (hnumbered : session.Numbered) :
    Succeeds session session' ∧ session'.Numbered := by
  have hlive (status : MaintenanceStatus) (hstatus : session.status = status)
      (hactive : status.terminal = false) : session.status.terminal = true →
      session'.status = session.status := by
    intro hterminal
    rw [hstatus, hactive] at hterminal
    cases hterminal
  cases h with
  | kept => exact ⟨.refl session, hnumbered⟩
  | superseded hwaiting =>
    refine ⟨⟨rfl, rfl, rfl, rfl, fun h => h, fun _ => nofun, hlive _ hwaiting rfl, le_rfl⟩, ?_⟩
    exact hnumbered.trans (MaintenanceStatus.sequence_le _)
  | started hwaiting hunused hrevoked hunexpired digest =>
    refine ⟨⟨rfl, rfl, rfl, rfl, fun _ => nofun, fun h => h, hlive _ hwaiting rfl, ?_⟩, le_rfl⟩
    unfold AgentMaintenanceSession.Numbered at hnumbered
    rw [hwaiting] at hnumbered
    exact hnumbered.trans (Nat.zero_le 1)
  | progressed hoperation hsession hactive hallowed hforward hcompleted hsummary hverified =>
    refine ⟨⟨rfl, rfl, rfl, rfl, fun h => h, fun h => h, hlive _ rfl hactive, ?_⟩, le_rfl⟩
    -- A failure or a rollback has the highest number.
    rename_i payload newIdentityID
    show session.statusSequence ≤ payload.status.sequence
    by_cases hfailed : payload.status = .failed
    · rw [hfailed]
      exact hnumbered.trans (MaintenanceStatus.sequence_le _)
    · by_cases hrolledBack : payload.status = .rolledBack
      · rw [hrolledBack]
        exact hnumbered.trans (MaintenanceStatus.sequence_le _)
      · exact (hforward hfailed hrolledBack).le
  | finalized hpending hforward =>
    exact ⟨⟨rfl, rfl, rfl, rfl, fun h => h, fun h => h, hlive _ hpending rfl, hforward.le⟩, le_rfl⟩

theorem supersede_change (hostID : String) (session : AgentMaintenanceSession) :
    SessionChange settings db operation session (supersede hostID db.clock session) := by
  unfold supersede
  split
  · rename_i h
    exact .superseded h.2
  · exact .kept

end Change

/-! ### All sessions -/

/-- The sessions of a database are numbered, and those of one host exclude each other. -/
structure Orderly (db : Db) : Prop where
  sound : Sound db
  numbered : ∀ session ∈ db.sessions, session.Numbered
  exclusive : db.sessions.Pairwise fun session other =>
    session.hostID = other.hostID → session.status.terminal = true ∨ other.status.terminal = true

namespace Orderly

variable {db : Db}

theorem openSessions_length (h : Orderly db) (hostID : String) :
    (db.openSessions hostID).length ≤ 1 := by
  have hpairs : (db.openSessions hostID).Pairwise fun session other =>
      session.hostID = other.hostID →
        session.status.terminal = true ∨ other.status.terminal = true :=
    h.exclusive.filter _
  have hopen : ∀ session ∈ db.openSessions hostID,
      session.hostID = hostID ∧ session.status.terminal = false := by
    intro session hsession
    simpa [Db.openSessions] using (List.mem_filter.mp hsession).2
  cases hlist : db.openSessions hostID with
  | nil => exact Nat.zero_le 1
  | cons first rest =>
    cases rest with
    | nil => exact le_rfl
    | cons second rest =>
      rw [hlist] at hpairs hopen
      obtain ⟨hhost, hfirst⟩ := hopen first List.mem_cons_self
      obtain ⟨hhost', hsecond⟩ := hopen second (List.mem_cons_of_mem _ List.mem_cons_self)
      have hclash := (List.pairwise_cons.mp hpairs).1 second List.mem_cons_self
        (hhost.trans hhost'.symm)
      rw [hfirst, hsecond] at hclash
      simp at hclash

/-- The open session of a host is the newest one. -/
theorem getLast_openSessions (h : Orderly db) {session : AgentMaintenanceSession}
    (hsession : session ∈ db.sessions) (hactive : session.status.terminal = false) :
    (db.openSessions session.hostID).getLast? = some session := by
  have hmem : session ∈ db.openSessions session.hostID := by
    simp [Db.openSessions, hsession, hactive]
  have hlength := h.openSessions_length session.hostID
  cases hlist : db.openSessions session.hostID with
  | nil =>
    rw [hlist] at hmem
    cases hmem
  | cons first rest =>
    rw [hlist] at hmem hlength
    obtain rfl : rest = [] := List.length_eq_zero_iff.mp (by simpa using hlength)
    rw [List.mem_singleton] at hmem
    rw [hmem]
    rfl

end Orderly

section Step

variable {settings : Settings}

/-- Every session has its successor after a step. -/
theorem SessionChanges.successor {db : Db} {operation : Operation}
    {sessions : List AgentMaintenanceSession} (h : SessionChanges settings db operation sessions)
    (hnumbered : ∀ session ∈ db.sessions, session.Numbered) {session : AgentMaintenanceSession}
    (hsession : session ∈ db.sessions) : ∃ session' ∈ sessions, Succeeds session session' := by
  cases h with
  | @changed f hf =>
    exact ⟨f session, List.mem_map_of_mem hsession,
      ((hf session hsession).succeeds (hnumbered session hsession)).1⟩
  | @issued hostID =>
    refine ⟨supersede hostID db.clock session,
      List.mem_append_left _ (List.mem_map_of_mem hsession), ?_⟩
    have hchange : SessionChange settings db operation session _ := supersede_change hostID session
    exact (hchange.succeeds (hnumbered session hsession)).1

/-- Sessions that succeed one another exclude each other as before. -/
theorem exclusive_map {db : Db} {operation : Operation} (hdb : Orderly db)
    {f : AgentMaintenanceSession → AgentMaintenanceSession}
    (hf : ∀ session ∈ db.sessions, SessionChange settings db operation session (f session)) :
    (∀ session ∈ db.sessions.map f, session.Numbered) ∧
      (db.sessions.map f).Pairwise fun session other => session.hostID = other.hostID →
        session.status.terminal = true ∨ other.status.terminal = true := by
  have hsucceeds (session) (hsession : session ∈ db.sessions) :=
    (hf session hsession).succeeds (hdb.numbered session hsession)
  refine ⟨?_, ?_⟩
  · intro session' hsession'
    obtain ⟨session, hsession, rfl⟩ := List.mem_map.mp hsession'
    exact (hsucceeds session hsession).2
  · rw [List.pairwise_map]
    refine hdb.exclusive.imp_of_mem fun {session other} hsession hother hexclusive hhost => ?_
    obtain ⟨hkept, -⟩ := hsucceeds session hsession
    obtain ⟨hkept', -⟩ := hsucceeds other hother
    rw [hkept.hostID, hkept'.hostID] at hhost
    rcases hexclusive hhost with hterminal | hterminal
    · rw [hkept.terminal hterminal]
      exact .inl hterminal
    · rw [hkept'.terminal hterminal]
      exact .inr hterminal

theorem SessionChanges.orderly {db : Db} {operation : Operation}
    {sessions : List AgentMaintenanceSession} (hdb : Orderly db)
    (h : SessionChanges settings db operation sessions) :
    (∀ session ∈ sessions, session.Numbered) ∧
      sessions.Pairwise fun session other => session.hostID = other.hostID →
        session.status.terminal = true ∨ other.status.terminal = true := by
  cases h with
  | changed hf => exact exclusive_map hdb hf
  | @issued hostID new hhost hwaiting hsequence hfree =>
    obtain ⟨hnumbered, hexclusive⟩ := exclusive_map hdb fun session _ =>
      (supersede_change hostID session : SessionChange settings db operation session _)
    refine ⟨?_, ?_⟩
    · intro session hsession
      rcases List.mem_append.mp hsession with hold | hnew
      · exact hnumbered session hold
      · rw [List.mem_singleton] at hnew
        rw [hnew, AgentMaintenanceSession.Numbered, hsequence, hwaiting]
    · rw [List.pairwise_append]
      refine ⟨hexclusive, List.pairwise_singleton _ _, ?_⟩
      intro session' hsession' new' hnew' hsame
      obtain ⟨session, hsession, rfl⟩ := List.mem_map.mp hsession'
      rw [List.mem_singleton] at hnew'
      rw [hnew', hhost] at hsame
      refine .inl ?_
      unfold supersede at hsame ⊢
      by_cases hwaits : session.hostID = hostID ∧ session.status = .waiting
      · rw [if_pos hwaits]
        rfl
      · rw [if_neg hwaits] at hsame ⊢
        -- An open session of the host is the newest, which is waiting.
        by_contra hactive
        rw [Bool.not_eq_true] at hactive
        have hlast := hdb.getLast_openSessions hsession hactive
        rw [hsame] at hlast
        exact hwaits ⟨hsame, hfree session hlast⟩

theorem orderly_step {db : Db} (hdb : Orderly db) (input : Input) :
    Orderly (step settings db input) := by
  have harrived : Orderly (db.arrive input) := ⟨hdb.sound.arrive input, hdb.numbered, hdb.exclusive⟩
  obtain ⟨hnumbered, hexclusive⟩ := (step_sessions settings hdb.sound input).2.orderly harrived
  exact ⟨sound_step hdb.sound, hnumbered, hexclusive⟩

theorem orderly_empty : Orderly Db.empty :=
  ⟨sound_empty, fun _ h => absurd h List.not_mem_nil, List.Pairwise.nil⟩

theorem orderly_run (inputs : List Input) : Orderly (run (step settings) Db.empty inputs) :=
  run_invariant_of_step (I := Orderly) (fun _ input hdb => orderly_step hdb input) orderly_empty
    inputs

theorem step_successor (settings : Settings) {db : Db} (hdb : Orderly db) (input : Input)
    {session : AgentMaintenanceSession} (hsession : session ∈ db.sessions) :
    ∃ session' ∈ (step settings db input).sessions, Succeeds session session' :=
  (step_sessions settings hdb.sound input).2.successor hdb.numbered hsession

theorem run_successor {db : Db} (hdb : Orderly db) (inputs : List Input)
    {session : AgentMaintenanceSession} (hsession : session ∈ db.sessions) :
    ∃ session' ∈ (run (step settings) db inputs).sessions, Succeeds session session' := by
  induction inputs generalizing db session with
  | nil => exact ⟨session, hsession, .refl session⟩
  | cons input inputs ih =>
    obtain ⟨session', hsession', hsucceeds⟩ := step_successor settings hdb input hsession
    obtain ⟨session'', hsession'', hsucceeds'⟩ := ih (orderly_step hdb input) hsession'
    exact ⟨session'', hsession'', hsucceeds.trans hsucceeds'⟩

/-- A request that is answered has been committed. -/
theorem transaction_of_serve {db : Db} {input : Input} {reply : Reply}
    (h : (serve settings db input).1 = .ok reply) :
    transaction settings (db.arrive input) input.operation =
      .ok (.ok reply, step settings db input) := by
  unfold step
  unfold serve at h ⊢
  cases htransaction : transaction settings (db.arrive input) input.operation with
  | error e =>
    rw [htransaction] at h
    cases h
  | ok outcome =>
    rw [htransaction] at h
    exact congrArg Except.ok (Prod.ext h rfl)

/-- A session that is started was waiting and not closed, and has been used afterwards. -/
theorem startedSession_some {db : Db} {input : Input}
    {start : String × String} (h : startedSession? settings db input = some start) :
    (∃ session ∈ db.sessions, (session.id, session.tokenHash) = start ∧ session.usedAt = none ∧
        ¬session.Closed (db.arrive input).clock) ∧
      ∃ session' ∈ (step settings db input).sessions,
        (session'.id, session'.tokenHash) = start ∧ session'.usedAt ≠ none := by
  unfold startedSession? at h
  split at h
  · rename_i payload request sessionID agentID version hoperation hreply
    cases h
    have htransaction := transaction_of_serve hreply
    rw [hoperation] at htransaction
    obtain ⟨session, hsession, htoken, hwaiting, hunused, hrevoked, hunexpired,
      ⟨agentID', version', hreply'⟩, digest, hdb'⟩ := startAgentMaintenance_ok htransaction
    cases hreply'
    rw [hdb']
    have hkey : session.id ∈ (db.arrive input).sessions.map (·.id) := List.mem_map_of_mem hsession
    refine ⟨⟨session, hsession, Prod.ext rfl htoken, hunused, ?_⟩, _,
      Table.mem_put_self hkey, Prod.ext rfl htoken, nofun⟩
    rintro (hclosed | hclosed | hclosed)
    · exact hclosed hrevoked
    · rw [hwaiting] at hclosed
      cases hclosed
    · exact absurd hunexpired (not_lt.mpr hclosed)
  · cases h

/-- The session of a start, which cannot be started again. -/
def Spent (start : String × String) (db : Db) : Prop :=
  ∃ session ∈ db.sessions, (session.id, session.tokenHash) = start ∧
    (session.usedAt ≠ none ∨ session.Closed db.clock)

theorem Spent.step {db : Db} (hdb : Orderly db) {start : String × String} (h : Spent start db)
    (input : Input) : Spent start (step settings db input) := by
  obtain ⟨session, hsession, rfl, hspent⟩ := h
  obtain ⟨session', hsession', hsucceeds⟩ := step_successor settings hdb input hsession
  have hclock := (step_sessions settings hdb.sound input).1
  refine ⟨session', hsession', Prod.ext hsucceeds.id hsucceeds.tokenHash, ?_⟩
  rcases hspent with hused | hclosed
  · exact .inl (hsucceeds.used hused)
  · refine .inr (hsucceeds.closed ?_ hclosed)
    rw [hclock]
    exact le_add_of_nonneg_right (Int.natCast_nonneg _)

/-- The session that is started now is another one, under another credential. -/
theorem Spent.respected {db : Db} (hdb : Orderly db) {start start' : String × String}
    (h : Spent start db) {input : Input}
    (hstart : startedSession? settings db input = some start') :
    start.1 ≠ start'.1 ∧ start.2 ≠ start'.2 := by
  obtain ⟨session, hsession, rfl, hspent⟩ := h
  obtain ⟨⟨session', hsession', rfl, hunused, hopen⟩, -⟩ := startedSession_some hstart
  have hdifferent : session ≠ session' := by
    rintro rfl
    rcases hspent with hused | hclosed
    · exact hused hunused
    · refine hopen ((Succeeds.refl session).closed ?_ hclosed)
      exact le_add_of_nonneg_right (Int.natCast_nonneg _)
  refine ⟨fun hid => hdifferent ?_, fun htoken => hdifferent ?_⟩
  · exact Table.eq_of_mem hdb.sound.constraints.sessionIDs hsession hsession' hid
  · exact Table.eq_of_mem hdb.sound.constraints.sessionTokens hsession hsession' htoken

theorem orderly_meets (settings : Settings) {db : Db} (hdb : Orderly db) (inputs : List Input) :
    Meets (next (starts settings)) (fun db _ => Orderly db) db inputs :=
  Meets.of_invariant (P := fun _ _ => True) (I := Orderly)
    (fun _ input _ hdb => ⟨orderly_step hdb input, hdb⟩) hdb
    (Meets.of_forall (fun _ _ => trivial) db inputs)

end Step

/-- A host has at most one open session. No session is started twice, no credential is accepted
twice, and none once its session is closed. A session's number does not fall, and a terminal
status stays. -/
theorem maintenance_exclusive (settings : Settings) (history later : List Input) :
    let db := run (step settings) Db.empty history
    let db' := run (step settings) Db.empty (history ++ later)
    (∀ hostID, (db.openSessions hostID).length ≤ 1) ∧
      (trace (starts settings) Db.empty history).Pairwise (fun start start' =>
        start.1 ≠ start'.1 ∧ start.2 ≠ start'.2) ∧
      ∀ session ∈ db.sessions,
        (∃ session', db'.session? session.id = some session' ∧
          session.statusSequence ≤ session'.statusSequence ∧
          (session.status.terminal = true → session'.status = session.status)) ∧
        (session.Closed db.clock →
          ∀ start ∈ trace (starts settings) db later, start.1 ≠ session.id) := by
  intro db db'
  have hdb : Orderly db := orderly_run history
  have hrun : db' = run (step settings) db later := run_append _ _ _ _
  have hdb' : Orderly db' := orderly_run (history ++ later)
  refine ⟨hdb.openSessions_length, ?_, fun session hsession => ⟨?_, fun hclosed => ?_⟩⟩
  · refine (orderly_meets settings orderly_empty history).trace_pairwise (K := Spent) ?_ ?_ ?_ ?_
    · intro db input _
      cases hstart : startedSession? settings db input with
      | none => simp [starts, hstart]
      | some start => simp [starts, hstart]
    · intro db input hdb start hstart
      obtain ⟨-, session, hsession, hid, hused⟩ :=
        startedSession_some (Option.mem_toList.mp hstart)
      exact ⟨session, hsession, hid, .inl hused⟩
    · exact fun db input start hdb hspent => hspent.step hdb input
    · exact fun db input start hdb hspent start' hstart =>
        hspent.respected hdb (Option.mem_toList.mp hstart)
  · obtain ⟨session', hsession', hsucceeds⟩ := run_successor hdb later hsession
    rw [← hrun] at hsession'
    refine ⟨session', ?_, hsucceeds.sequence, hsucceeds.terminal⟩
    rw [← hsucceeds.id]
    exact Table.lookup_of_mem hdb'.sound.constraints.sessionIDs hsession'
  · have hspent : Spent (session.id, session.tokenHash) db :=
      ⟨session, hsession, rfl, .inr hclosed⟩
    have hlater := forall_trace_of_recorded (K := Spent)
      (R := fun start start' => start.1 ≠ start'.1 ∧ start.2 ≠ start'.2)
      (fun db input start hdb hspent => hspent.step hdb input)
      (fun db input start hdb hspent start' hstart =>
        hspent.respected hdb (Option.mem_toList.mp hstart))
      hspent (orderly_meets settings hdb later)
    exact fun start hstart => (hlater start hstart).1.symm

end VpsGuardian.Controller
