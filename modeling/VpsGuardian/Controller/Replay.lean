import VpsGuardian.Controller.AgentSecurity
import VpsGuardian.Lib.Trace

/-!
No Agent request is accepted twice.

The nonce of an accepted request is stored until its timestamp has become stale
for every later clock, whether the Agent's clock was ahead or behind.
-/

namespace VpsGuardian.Controller.Replay

open Lib

variable (settings : Settings)

/-- What happens to the nonces of the Controller. -/
inductive Call
  /-- A request that arrives for an Agent whose row is locked by the caller. -/
  | verify (record : AgentRecord) (request : AgentRequest)
  /-- A committed cleanup of expired nonces. -/
  | cleanup

/-- A call and the microseconds since the call before it. -/
structure Event where
  elapsed : Nat
  call : Call

def arrive (db : Db) (event : Event) : Db := { db with clock := db.clock + event.elapsed }

/-- One call, with the request it accepts. A refused request is rolled back. -/
def serve (db : Db) (event : Event) : Db × List AgentRequest :=
  let db := arrive db event
  match event.call with
  | .verify record request =>
      match verifyAgentRequest settings db record request with
      | .ok (_, db) => (db, [request])
      | .error _ => (db, [])
  | .cleanup =>
      ({ db with nonces := db.nonces.filter fun nonce => decide (db.clock ≤ nonce.expiresAt) }, [])

/-- The requests a run accepts, in their order. -/
def acceptedRequests (db : Db) (events : List Event) : List AgentRequest :=
  trace (serve settings) db events

def after (db : Db) (events : List Event) : Db := run (next (serve settings)) db events

def SameRequest (a b : AgentRequest) : Prop :=
  a.timestamp = b.timestamp ∧ a.nonce = b.nonce ∧ a.signature = b.signature ∧ a.body = b.body

/-- The freshness check of `verify_agent_request`. -/
def Fresh (clock : Time) (timestamp : String) : Prop :=
  ∃ signedAt, fromTimestamp timestamp = some signedAt ∧
    |clock - signedAt| ≤ seconds settings.nonceTTL

variable {settings}

/-- What a success reads and writes in the table of nonces. -/
theorem verifyAgentRequest_nonces {db db' : Db} {record : AgentRecord} {request : AgentRequest}
    {identity : AgentIdentity}
    (h : verifyAgentRequest settings db record request = .ok (identity, db')) :
    ∃ signedAt, fromTimestamp request.timestamp = some signedAt ∧
      |db.clock - signedAt| ≤ seconds settings.nonceTTL ∧
      (∀ nonce ∈ db.nonces, db.clock ≤ nonce.expiresAt → nonce.value ≠ request.nonce) ∧
      db' = { db with
        nonces := (db.nonces.filter fun nonce => decide (db.clock ≤ nonce.expiresAt)) ++
          [⟨request.nonce, max db.clock signedAt + seconds settings.nonceTTL⟩] } := by
  unfold verifyAgentRequest at h
  obtain ⟨⟨fingerprint, certificateSerial⟩, -, h⟩ := bind_eq_ok.mp h
  obtain ⟨-, h⟩ := raiseIf_bind_eq_ok.mp h
  obtain ⟨found, -, h⟩ := orRaise_bind_eq_ok.mp h
  obtain ⟨signedAt, hsignedAt, h⟩ := orRaise_bind_eq_ok.mp h
  obtain ⟨hfresh, h⟩ := raiseIf_bind_eq_ok.mp h
  obtain ⟨hunused, h⟩ := raiseIf_bind_eq_ok.mp h
  obtain ⟨-, h⟩ := raiseIf_bind_eq_ok.mp h
  cases h
  refine ⟨signedAt, hsignedAt, not_lt.mp hfresh, ?_, rfl⟩
  intro nonce hnonce hlive heq
  apply hunused
  rw [List.any_eq_true]
  exact ⟨nonce, List.mem_filter.mpr ⟨hnonce, decide_eq_true hlive⟩, by simp [heq]⟩

variable (settings) in
/-- The Controller can still tell an accepted request from a new one: its nonce
is stored for as long as its timestamp is fresh. -/
def Remembered (request : AgentRequest) (db : Db) : Prop :=
  ∃ signedAt, fromTimestamp request.timestamp = some signedAt ∧
    (signedAt + seconds settings.nonceTTL < db.clock ∨
      ∃ nonce ∈ db.nonces, nonce.value = request.nonce ∧
        signedAt + seconds settings.nonceTTL ≤ nonce.expiresAt)

theorem Remembered.arrive {request : AgentRequest} {db : Db} (h : Remembered settings request db)
    (event : Event) : Remembered settings request (arrive db event) := by
  obtain ⟨signedAt, hsignedAt, hstale | hstored⟩ := h
  · refine ⟨signedAt, hsignedAt, Or.inl ?_⟩
    exact lt_of_lt_of_le hstale (le_add_of_nonneg_right (Int.natCast_nonneg _))
  · exact ⟨signedAt, hsignedAt, Or.inr hstored⟩

/-- A nonce that the cleanup removes belongs to a stale timestamp. -/
theorem Remembered.cleanup {request : AgentRequest} {db : Db}
    (h : Remembered settings request db) (added : List Nonce) :
    Remembered settings request { db with
      nonces := (db.nonces.filter fun nonce => decide (db.clock ≤ nonce.expiresAt)) ++ added } := by
  obtain ⟨signedAt, hsignedAt, hstale | ⟨nonce, hnonce, hvalue, hexpires⟩⟩ := h
  · exact ⟨signedAt, hsignedAt, Or.inl hstale⟩
  · refine ⟨signedAt, hsignedAt, ?_⟩
    by_cases hlive : db.clock ≤ nonce.expiresAt
    · right
      refine ⟨nonce, List.mem_append_left _ ?_, hvalue, hexpires⟩
      exact List.mem_filter.mpr ⟨hnonce, decide_eq_true hlive⟩
    · left
      exact lt_of_le_of_lt hexpires (not_le.mp hlive)

theorem Remembered.serve {request : AgentRequest} {db : Db} (h : Remembered settings request db)
    (event : Event) : Remembered settings request (serve settings db event).1 := by
  have h := h.arrive event
  unfold Replay.serve
  dsimp only
  cases hcall : event.call with
  | verify record other =>
    cases hverify : verifyAgentRequest settings (Replay.arrive db event) record other with
    | error exception =>
      simp only [hverify]
      exact h
    | ok result =>
      obtain ⟨identity, db'⟩ := result
      simp only [hverify]
      obtain ⟨signedAt, -, -, -, rfl⟩ := verifyAgentRequest_nonces hverify
      exact h.cleanup _
  | cleanup => simpa using h.cleanup []

/-- An accepted request passed the check, and its nonce is stored long enough. -/
theorem mem_serve {request : AgentRequest} {db : Db} {event : Event}
    (h : request ∈ (serve settings db event).2) :
    ∃ record identity, verifyAgentRequest settings (arrive db event) record request =
      .ok (identity, (serve settings db event).1) := by
  unfold serve at h ⊢
  dsimp only at h ⊢
  cases hcall : event.call with
  | cleanup => simp [hcall] at h
  | verify record other =>
    simp only [hcall] at h
    cases hverify : verifyAgentRequest settings (arrive db event) record other with
    | error exception => simp [hverify] at h
    | ok result =>
      obtain ⟨identity, db'⟩ := result
      simp only [hverify, List.mem_singleton] at h
      subst h
      refine ⟨record, identity, ?_⟩
      simp only [hverify]

theorem remembered_of_mem_serve {request : AgentRequest} {db : Db} {event : Event}
    (h : request ∈ (serve settings db event).2) :
    Remembered settings request (serve settings db event).1 := by
  obtain ⟨record, identity, hverify⟩ := mem_serve h
  obtain ⟨signedAt, hsignedAt, -, -, heq⟩ := verifyAgentRequest_nonces hverify
  rw [heq]
  refine ⟨signedAt, hsignedAt, Or.inr ⟨_, List.mem_append_right _ (List.mem_singleton.mpr rfl), rfl,
    ?_⟩⟩
  exact Int.add_le_add_right (le_max_right _ _) _

/-- While a timestamp is fresh, the nonce of an accepted request with it is stored and live. -/
theorem Remembered.stored {request : AgentRequest} {db : Db} (h : Remembered settings request db)
    (hfresh : Fresh settings db.clock request.timestamp) :
    ∃ nonce ∈ db.nonces, nonce.value = request.nonce ∧ db.clock ≤ nonce.expiresAt := by
  obtain ⟨signedAt, hsignedAt, hage⟩ := hfresh
  have hclock : db.clock ≤ signedAt + seconds settings.nonceTTL :=
    sub_le_iff_le_add'.mp (abs_le.mp hage).2
  obtain ⟨signedAt', hsignedAt', hstale | ⟨nonce, hnonce, hvalue, hexpires⟩⟩ := h
  · rw [hsignedAt, Option.some.injEq] at hsignedAt'
    subst hsignedAt'
    exact absurd hstale (not_lt.mpr hclock)
  · rw [hsignedAt, Option.some.injEq] at hsignedAt'
    subst hsignedAt'
    exact ⟨nonce, hnonce, hvalue, le_trans hclock hexpires⟩

/-- A remembered request is not accepted again. -/
theorem Remembered.not_same {request other : AgentRequest} {db : Db} {event : Event}
    (h : Remembered settings request db) (hother : other ∈ (Replay.serve settings db event).2) :
    ¬ SameRequest request other := by
  intro hsame
  obtain ⟨record, identity, hverify⟩ := mem_serve hother
  obtain ⟨signedAt, hsignedAt, hage, hunused, -⟩ := verifyAgentRequest_nonces hverify
  obtain ⟨nonce, hnonce, hvalue, hlive⟩ :=
    (h.arrive event).stored ⟨signedAt, hsame.1 ▸ hsignedAt, hage⟩
  exact hunused nonce hnonce hlive (hvalue.trans hsame.2.1)

end VpsGuardian.Controller.Replay
