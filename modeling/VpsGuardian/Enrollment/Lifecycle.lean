import VpsGuardian.Enrollment.Tokens
import VpsGuardian.Lib.Trace

/-!
A token is consumed once, and a session that has ended stays as it ended.

The second holds as long as no failed session is revoked. The functions that advance or fail a
session test its status; the two that revoke one test only whether the token was used or revoked
before, and a failed session can be neither.
-/

namespace VpsGuardian.Enrollment

open Lib
open Controller (Time minutes)

/-- A token that was used or revoked, or whose session has ended or expired. -/
def EnrollmentToken.Closed (token : EnrollmentToken) (now : Time) : Prop :=
  token.usedAt ≠ none ∨ token.revokedAt ≠ none ∨ token.status.terminal = true ∨
    token.expiresAt ≤ now

/-- The Controller with the tokens it consumes as its outputs. -/
def consumptions (settings : Settings) (db : Db) (input : Input) : Db × List String :=
  (step settings db input, (serve settings db input).1.toList)

/-- Whether an operation is asked to revoke a token and may do so. -/
def Operation.revokes (settings : Settings) (db : Db) (token : EnrollmentToken) :
    Operation → Bool
  | .issue hostID payload =>
      payload.revokeExisting && token.replaceable hostID db.clock &&
        (db.host? hostID).any fun host => (checkIssue settings host payload).toBool
  | .revoke tokenID hostID =>
      token.id = tokenID ∧ token.hostID = hostID ∧ token.usedAt = none ∧ token.revokedAt = none
  | _ => false

/-- No failed session is revoked, neither by its own request nor by the issue of a new token. -/
def SparesFailed (settings : Settings) (db : Db) (input : Input) : Prop :=
  input.accepted = true → ∀ token ∈ db.tokens,
    input.operation.revokes settings (db.arrive input) token = true → token.status ≠ .failed

instance (settings : Settings) (db : Db) (input : Input) :
    Decidable (SparesFailed settings db input) :=
  inferInstanceAs (Decidable (input.accepted = true → ∀ token ∈ db.tokens, _))

/-! ### One token over time -/

/-- A session ends by failing, or its token has been revoked or used. -/
def EnrollmentToken.Consistent (token : EnrollmentToken) : Prop :=
  token.status.terminal = true →
    token.status = .failed ∨ token.revokedAt ≠ none ∨ token.usedAt ≠ none

/-- What of a token stays; its ended session changes only when the token is revoked. -/
structure Succeeds (revoked : Prop) (token token' : EnrollmentToken) : Prop where
  id : token'.id = token.id
  expiresAt : token'.expiresAt = token.expiresAt
  usedAt : token.usedAt ≠ none → token'.usedAt ≠ none
  revokedAt : token.revokedAt ≠ none → token'.revokedAt ≠ none
  sequence : token.statusSequence ≤ token'.statusSequence
  consistent : token.Consistent → token'.Consistent
  failed : token.status = .failed → token'.status = .failed ∨ token'.revokedAt ≠ none
  terminal : token.status.terminal = true → ¬revoked → token'.status = token.status

namespace Succeeds

variable {revoked : Prop} {token token' token'' : EnrollmentToken}

theorem refl (token : EnrollmentToken) : Succeeds revoked token token :=
  ⟨rfl, rfl, fun h => h, fun h => h, le_rfl, fun h => h, .inl, fun _ _ => rfl⟩

theorem trans (h : Succeeds revoked token token') (h' : Succeeds revoked token' token'') :
    Succeeds revoked token token'' where
  id := h'.id.trans h.id
  expiresAt := h'.expiresAt.trans h.expiresAt
  usedAt := fun hused => h'.usedAt (h.usedAt hused)
  revokedAt := fun hrevoked => h'.revokedAt (h.revokedAt hrevoked)
  sequence := h.sequence.trans h'.sequence
  consistent := fun hconsistent => h'.consistent (h.consistent hconsistent)
  failed := by
    intro hfailed
    rcases h.failed hfailed with hfailed' | hrevoked
    · exact h'.failed hfailed'
    · exact .inr (h'.revokedAt hrevoked)
  terminal := by
    intro hterminal hspared
    have hsame := h.terminal hterminal hspared
    rw [← hsame] at hterminal
    exact (h'.terminal hterminal hspared).trans hsame

theorem closed (h : Succeeds revoked token token') (hconsistent : token.Consistent)
    {now now' : Time} (hle : now ≤ now') (hclosed : token.Closed now) : token'.Closed now' := by
  rcases hclosed with hused | hrevoked | hterminal | hexpired
  · exact .inl (h.usedAt hused)
  · exact .inr (.inl (h.revokedAt hrevoked))
  · rcases hconsistent hterminal with hfailed | hrevoked | hused
    · rcases h.failed hfailed with hfailed' | hrevoked
      · refine .inr (.inr (.inl ?_))
        rw [hfailed']
        rfl
      · exact .inr (.inl hrevoked)
    · exact .inr (.inl (h.revokedAt hrevoked))
    · exact .inl (h.usedAt hused)
  · refine .inr (.inr (.inr ?_))
    rw [h.expiresAt]
    exact hexpired.trans hle

/-- A change of the columns that no query depends on. -/
theorem of_same (hid : token'.id = token.id) (hexpires : token'.expiresAt = token.expiresAt)
    (hused : token'.usedAt = token.usedAt) (hrevoked : token'.revokedAt = token.revokedAt)
    (hsequence : token'.statusSequence = token.statusSequence)
    (hstatus : token'.status = token.status) : Succeeds revoked token token' := by
  refine ⟨hid, hexpires, ?_, ?_, hsequence.ge, ?_, ?_, fun _ _ => hstatus⟩
  · rw [hused]
    exact fun h => h
  · rw [hrevoked]
    exact fun h => h
  · unfold EnrollmentToken.Consistent
    rw [hstatus, hused, hrevoked]
    exact fun h => h
  · rw [hstatus]
    exact .inl

end Succeeds

/-- The status of a step is terminal only if it is the last one. -/
theorem terminal_of_sequence {status : EnrollmentStatus} {target : Nat}
    (h : status.sequence? = some target) (hterminal : status.terminal = true) :
    status = .completed := by
  have hsteps : status = .completed ∨ status.terminal = false ∨ status.sequence? = none := by
    cases status <;> decide
  rcases hsteps with hcompleted | hactive | hnone
  · exact hcompleted
  · rw [hactive] at hterminal
    cases hterminal
  · rw [hnone] at h
    cases h

theorem advance_succeeds {revoked : Prop} {token token' : EnrollmentToken}
    {status : EnrollmentStatus} {now : Time} {allowCompletion : Bool}
    {events : List EnrollmentEvent} (hused : allowCompletion = true → token.usedAt ≠ none)
    (h : advanceEnrollment token status now allowCompletion = .ok (token', events)) :
    Succeeds revoked token token' ∧ token'.usedAt = token.usedAt := by
  unfold advanceEnrollment at h
  obtain ⟨target, htarget, h⟩ := orRaise_bind_eq_ok.mp h
  obtain ⟨hcompletes, h⟩ := raiseIf_bind_eq_ok.mp h
  obtain ⟨hactive, h⟩ := raiseIf_bind_eq_ok.mp h
  obtain ⟨hforward, h⟩ := raiseIf_bind_eq_ok.mp h
  split at h
  · cases h
    exact ⟨.refl token, rfl⟩
  · cases h
    refine ⟨⟨rfl, rfl, fun h => h, fun h => h, not_lt.mp hforward, fun _ hterminal => ?_,
      fun hfailed => ?_, fun hterminal => absurd hterminal hactive⟩, rfl⟩
    · have hcompleted := terminal_of_sequence htarget hterminal
      have hallowed : allowCompletion = true := by
        by_contra hnot
        exact hcompletes ⟨hcompleted, by simpa using hnot⟩
      exact .inr (.inr (hused hallowed))
    · rw [hfailed] at hactive
      exact absurd rfl hactive

theorem fail_succeeds {revoked : Prop} {token token' : EnrollmentToken} {failure : Failure}
    {errorStep : String} {events : List EnrollmentEvent}
    (h : failEnrollment token failure errorStep = .ok (token', events)) :
    Succeeds revoked token token' := by
  unfold failEnrollment at h
  obtain ⟨hactive, h⟩ := raiseIf_bind_eq_ok.mp h
  cases h
  refine ⟨rfl, rfl, fun h => h, fun h => h, le_rfl, fun _ _ => .inl rfl, fun _ => .inl rfl, ?_⟩
  -- Of the sessions that have ended, only a failed one can fail.
  intro hterminal _
  cases hstatus : token.status <;> rw [hstatus] at hterminal hactive <;>
    simp_all [EnrollmentStatus.terminal]

theorem revoke_succeeds {revoked : Prop} (hrevoked : revoked) (token : EnrollmentToken)
    (now : Time) : Succeeds revoked token (token.revoke now) :=
  ⟨rfl, rfl, fun h => h, fun _ => nofun, le_rfl, fun _ _ => .inr (.inl nofun),
    fun _ => .inr nofun, fun _ hspared => absurd hrevoked hspared⟩

/-! ### All tokens -/

/-- The tables keep their constraints, and their rows are consistent. -/
structure Valid (db : Db) : Prop where
  constraints : db.Constraints
  consistent : ∀ token ∈ db.tokens, token.Consistent

/-- What an operation does to the rows of tokens. -/
def TokenChanges (settings : Settings) (db : Db) (operation : Operation)
    (tokens : List EnrollmentToken) : Prop :=
  ∃ (f : EnrollmentToken → EnrollmentToken) (new : List EnrollmentToken),
    tokens = db.tokens.map f ++ new ∧ (∀ token ∈ new, token.Consistent) ∧
      ∀ token ∈ db.tokens,
        Succeeds (operation.revokes settings db token = true) token (f token)

section Changes

variable {settings : Settings} {db : Db} {operation : Operation}

theorem TokenChanges.same : TokenChanges settings db operation db.tokens := by
  refine ⟨id, [], ?_, fun _ hnew => absurd hnew List.not_mem_nil, fun token _ => .refl token⟩
  rw [List.map_id, List.append_nil]

/-- One row is written. -/
theorem TokenChanges.put (hdb : Valid db) {token token' : EnrollmentToken}
    (htoken : token ∈ db.tokens)
    (h : Succeeds (operation.revokes settings db token = true) token token') :
    TokenChanges settings db operation (Table.put (·.id) token' db.tokens) := by
  refine ⟨_, [], (List.append_nil _).symm, fun _ hnew => absurd hnew List.not_mem_nil, ?_⟩
  intro other hother
  by_cases hsame : other.id = token'.id
  · obtain rfl : other = token :=
      Table.eq_of_mem hdb.constraints.ids hother htoken (hsame.trans h.id)
    rw [if_pos hsame]
    exact h
  · rw [if_neg hsame]
    exact .refl other

theorem TokenChanges.consistent {tokens : List EnrollmentToken}
    (h : TokenChanges settings db operation tokens) (hdb : Valid db) :
    ∀ token ∈ tokens, token.Consistent := by
  obtain ⟨f, new, rfl, hnew, hold⟩ := h
  intro token' htoken'
  rcases List.mem_append.mp htoken' with hmapped | hadded
  · obtain ⟨token, htoken, rfl⟩ := List.mem_map.mp hmapped
    exact (hold token htoken).consistent (hdb.consistent token htoken)
  · exact hnew token' hadded

theorem authenticate_ok {value : String} {expectedHostID sourceIP : Option String}
    {token : EnrollmentToken}
    (h : authenticateEnrollmentToken settings db value expectedHostID sourceIP = .ok token) :
    token ∈ db.tokens ∧ token.usedAt = none ∧ token.revokedAt = none ∧ token.status ≠ .failed ∧
      db.clock < token.expiresAt := by
  unfold authenticateEnrollmentToken at h
  obtain ⟨found, hfound, h⟩ := orRaise_bind_eq_ok.mp h
  simp only [raiseIf_bind_eq_ok] at h
  obtain ⟨hunused, hrevoked, hfailed, hunexpired, -, -, -, h⟩ := h
  cases h
  exact ⟨Table.mem_of_lookup hfound, by simpa using hunused, by simpa using hrevoked, hfailed,
    not_le.mp hunexpired⟩

theorem authenticateProgress_mem {value : String} {sourceIP : Option String}
    {token : EnrollmentToken}
    (h : authenticateProgressToken settings db value sourceIP = .ok token) :
    token ∈ db.tokens := by
  unfold authenticateProgressToken at h
  obtain ⟨found, hfound, h⟩ := orRaise_bind_eq_ok.mp h
  simp only [raiseIf_bind_eq_ok] at h
  obtain ⟨-, -, -, -, h⟩ := h
  cases h
  exact Table.mem_of_lookup hfound

/-- A token that is consumed was open, and has been used afterwards. -/
theorem consume_ok (hdb : Valid db) {value : String} {expectedHostID sourceIP : Option String}
    {token' : EnrollmentToken} {events : List EnrollmentEvent} (revoked : EnrollmentToken → Prop)
    (h : consumeEnrollmentToken settings db value expectedHostID sourceIP = .ok (token', events)) :
    ∃ token ∈ db.tokens, ¬token.Closed db.clock ∧ Succeeds (revoked token) token token' ∧
      token'.usedAt ≠ none := by
  unfold consumeEnrollmentToken at h
  obtain ⟨token, hauthenticated, h⟩ := bind_eq_ok.mp h
  obtain ⟨-, h⟩ := raiseIf_bind_eq_ok.mp h
  obtain ⟨htoken, hunused, hrevoked, hfailed, hunexpired⟩ := authenticate_ok hauthenticated
  refine ⟨token, htoken, ?_, ?_⟩
  · rintro (hused | hrevoked' | hterminal | hexpired)
    · exact hused hunused
    · exact hrevoked' hrevoked
    · rcases hdb.consistent token htoken hterminal with hfailed' | hrevoked' | hused
      · exact hfailed hfailed'
      · exact hrevoked' hrevoked
      · exact hused hunused
    · exact absurd hunexpired (not_lt.mpr hexpired)
  · have hinvariant := foldlM_invariant
      (P := fun progress : EnrollmentToken × List EnrollmentEvent =>
        Succeeds (revoked token) token progress.1 ∧ progress.1.usedAt ≠ none)
      (fun progress status progress' hprogress hround => ?_) ⟨?_, ?_⟩ h
    · exact hinvariant
    · obtain ⟨⟨advanced, event⟩, hadvanced, hround⟩ := bind_eq_ok.mp hround
      cases hround
      obtain ⟨hsucceeds, hused⟩ := advance_succeeds (fun h => absurd h Bool.false_ne_true) hadvanced
      refine ⟨hprogress.1.trans hsucceeds, ?_⟩
      rw [hused]
      exact hprogress.2
    · exact ⟨rfl, rfl, fun _ => nofun, fun h => h, le_rfl, fun _ _ => .inr (.inr nofun), .inl,
        fun _ _ => rfl⟩
    · exact Option.some_ne_none _

/-- The rows after the issue of a token. -/
theorem issue_changes {hostID : String} {host : Host} {payload : EnrollmentTokenIssue} {db' : Db}
    (hhost : db.host? hostID = some host)
    (h : issueEnrollmentToken settings db host payload = .ok db') :
    TokenChanges settings db (.issue hostID payload) db'.tokens ∧ db'.clock = db.clock := by
  unfold issueEnrollmentToken at h
  obtain ⟨sourceCIDR, hcheck, h⟩ := bind_eq_ok.mp h
  cases h
  have hid : host.id = hostID := Table.key_of_lookup hhost
  refine ⟨⟨_, [newToken settings host.id payload sourceCIDR db.clock], rfl, ?_, ?_⟩, rfl⟩
  · intro token htoken
    rw [List.mem_singleton] at htoken
    rw [htoken]
    exact nofun
  · intro token _
    split
    · rename_i hreplaced
      refine revoke_succeeds ?_ token db.clock
      rw [hid] at hreplaced
      simp [Operation.revokes, hreplaced, hhost, hcheck, Except.toBool]
    · exact .refl token

theorem revoke_changes (hdb : Valid db) {tokenID hostID : String} {db' : Db}
    (h : revokeEnrollmentToken db tokenID hostID = .ok db') :
    TokenChanges settings db (.revoke tokenID hostID) db'.tokens ∧ db'.clock = db.clock := by
  unfold revokeEnrollmentToken at h
  obtain ⟨token, htoken, h⟩ := orRaise_bind_eq_ok.mp h
  obtain ⟨hunused, h⟩ := raiseIf_bind_eq_ok.mp h
  obtain ⟨hfound, hhost⟩ := Option.filter_eq_some_iff.mp htoken
  have hid : token.id = tokenID := Table.key_of_lookup hfound
  split at h
  · rename_i hrevoked
    cases h
    refine ⟨.put hdb (Table.mem_of_lookup hfound) (revoke_succeeds ?_ token db.clock), rfl⟩
    have husedAt : token.usedAt = none := by simpa using hunused
    simpa [Operation.revokes, hid, husedAt, hrevoked] using hhost
  · cases h
    exact ⟨.same, rfl⟩

theorem report_changes (hdb : Valid db) {enrollmentToken progressToken : Option String}
    {source : String} {payload : EnrollmentProgressReport} {db' : Db}
    (h : reportEnrollmentProgress settings db enrollmentToken progressToken source payload =
      .ok db') :
    TokenChanges settings db (.report enrollmentToken progressToken source payload) db'.tokens ∧
      db'.clock = db.clock := by
  unfold reportEnrollmentProgress at h
  obtain ⟨-, h⟩ := raiseIf_bind_eq_ok.mp h
  obtain ⟨⟨token, allowedSteps⟩, hreported, h⟩ := bind_eq_ok.mp h
  have htoken : token ∈ db.tokens := by
    unfold reportedToken at hreported
    split at hreported
    · obtain ⟨found, hfound, hreported⟩ := bind_eq_ok.mp hreported
      cases hreported
      exact authenticateProgress_mem hfound
    · obtain ⟨found, hfound, hreported⟩ := bind_eq_ok.mp hreported
      cases hreported
      exact (authenticate_ok hfound).1
  dsimp only at h
  split at h
  · obtain ⟨-, h⟩ := raiseIf_bind_eq_ok.mp h
    obtain ⟨⟨failed, events⟩, hfailed, h⟩ := bind_eq_ok.mp h
    cases h
    exact ⟨.put hdb htoken (fail_succeeds hfailed), rfl⟩
  · obtain ⟨-, h⟩ := raiseIf_bind_eq_ok.mp h
    obtain ⟨⟨advanced, events⟩, hadvanced, h⟩ := bind_eq_ok.mp h
    cases h
    exact ⟨.put hdb htoken (advance_succeeds (fun h => absurd h Bool.false_ne_true) hadvanced).1,
      rfl⟩

/-- A heartbeat completes a token that was used. -/
theorem complete_changes (hdb : Valid db) {hostID : String} {db' : Db}
    (h : completeHostEnrollment db hostID = .ok db') :
    TokenChanges settings db (.complete hostID) db'.tokens ∧ db'.clock = db.clock := by
  unfold completeHostEnrollment at h
  cases htoken : completedToken? db hostID with
  | none =>
    rw [htoken] at h
    cases h
    exact ⟨.same, rfl⟩
  | some token =>
    rw [htoken] at h
    obtain ⟨⟨completed, events⟩, hcompleted, h⟩ := bind_eq_ok.mp h
    cases h
    obtain ⟨hhead, -⟩ := Option.filter_eq_some_iff.mp htoken
    obtain ⟨hmem, hcandidate⟩ :=
      List.mem_filter.mp ((List.mem_insertionSort _).mp (List.mem_of_head? hhead))
    have hused : token.usedAt ≠ none := by
      intro hnone
      simp [hnone] at hcandidate
    have hinvariant := foldlM_invariant
      (P := fun progress : EnrollmentToken × List EnrollmentEvent =>
        Succeeds (Operation.revokes settings db token (.complete hostID) = true) token progress.1 ∧
          progress.1.usedAt ≠ none)
      (fun progress status progress' hprogress hround => ?_) ⟨.refl token, hused⟩ hcompleted
    · refine ⟨.put hdb hmem (hinvariant.1.trans ?_), rfl⟩
      exact .of_same rfl rfl rfl rfl rfl rfl
    · dsimp only at hround
      split at hround
      · obtain ⟨⟨advanced, event⟩, hadvanced, hround⟩ := bind_eq_ok.mp hround
        cases hround
        obtain ⟨hsucceeds, hkept⟩ := advance_succeeds (fun _ => hprogress.2) hadvanced
        refine ⟨hprogress.1.trans hsucceeds, ?_⟩
        rw [hkept]
        exact hprogress.2
      · cases hround
        exact hprogress

theorem activateAgent_ok {hostID : String} {db' : Db} (h : activateAgent db hostID = .ok db') :
    db'.tokens = db.tokens ∧ db'.clock = db.clock := by
  unfold activateAgent at h
  obtain ⟨host, -, h⟩ := orRaise_bind_eq_ok.mp h
  obtain ⟨-, h⟩ := raiseIf_bind_eq_ok.mp h
  cases h
  exact ⟨rfl, rfl⟩

/-- The token that is consumed was open, and has been used afterwards. -/
def Consumed (db db' : Db) (tokenID : String) : Prop :=
  (∃ token ∈ db.tokens, token.id = tokenID ∧ ¬token.Closed db.clock) ∧
    ∃ token' ∈ db'.tokens, token'.id = tokenID ∧ token'.usedAt ≠ none

theorem consumed_save {db' : Db} {token token' : EnrollmentToken} (htoken : token ∈ db.tokens)
    (hopen : ¬token.Closed db.clock) (hid : token'.id = token.id) (hused : token'.usedAt ≠ none)
    (htokens : db'.tokens = Table.put (·.id) token' db.tokens) : Consumed db db' token'.id := by
  refine ⟨⟨token, htoken, hid.symm, hopen⟩, token', ?_, rfl, hused⟩
  rw [htokens]
  refine Table.mem_put_self ?_
  rw [hid]
  exact List.mem_map_of_mem htoken

theorem enroll_changes (hdb : Valid db) {value tokenID : String} {db' : Db}
    (h : enrollAgent settings db value = .ok (tokenID, db')) :
    TokenChanges settings db (.enroll value) db'.tokens ∧ db'.clock = db.clock ∧
      Consumed db db' tokenID := by
  unfold enrollAgent at h
  obtain ⟨⟨token', events⟩, hconsumed, h⟩ := bind_eq_ok.mp h
  obtain ⟨activated, hactivated, h⟩ := bind_eq_ok.mp h
  cases h
  obtain ⟨token, htoken, hopen, hsucceeds, hused⟩ := consume_ok hdb
    (fun token => Operation.revokes settings db token (.enroll value) = true) hconsumed
  obtain ⟨htokens, hclock⟩ := activateAgent_ok hactivated
  have hsaved : (activated.save token' events).tokens = Table.put (·.id) token' db.tokens := by
    rw [← htokens]
    rfl
  refine ⟨?_, hclock, consumed_save htoken hopen hsucceeds.id hused hsaved⟩
  rw [hsaved]
  exact .put hdb htoken hsucceeds

theorem bootstrap_changes (hdb : Valid db) {value hostID source progress tokenID : String}
    {db' : Db} (h : bootstrapAgent settings db value hostID source progress = .ok (tokenID, db')) :
    TokenChanges settings db (.bootstrap value hostID source progress) db'.tokens ∧
      db'.clock = db.clock ∧ Consumed db db' tokenID := by
  unfold bootstrapAgent at h
  obtain ⟨⟨consumed, events⟩, hconsumed, h⟩ := bind_eq_ok.mp h
  obtain ⟨activated, hactivated, h⟩ := bind_eq_ok.mp h
  obtain ⟨⟨certified, issued⟩, hcertified, h⟩ := bind_eq_ok.mp h
  obtain ⟨final, hfinal, h⟩ := bind_eq_ok.mp h
  cases h
  unfold issueProgressToken at hfinal
  obtain ⟨-, hfinal⟩ := raiseIf_bind_eq_ok.mp hfinal
  cases hfinal
  obtain ⟨token, htoken, hopen, hsucceeds, hused⟩ := consume_ok hdb
    (fun token => Operation.revokes settings db token (.bootstrap value hostID source progress) =
      true) hconsumed
  obtain ⟨hadvanced, hkept⟩ := advance_succeeds (fun h => absurd h Bool.false_ne_true) hcertified
  obtain ⟨htokens, hclock⟩ := activateAgent_ok hactivated
  generalize hfinal : { certified with
    progressTokenHash := some (settings.tokenDigest progress) } = final
  have hlast : Succeeds (Operation.revokes settings db token
      (.bootstrap value hostID source progress) = true) certified final := by
    subst hfinal
    exact .of_same rfl rfl rfl rfl rfl rfl
  have hsucceeds := hsucceeds.trans (hadvanced.trans hlast)
  have hsaved : (activated.save final (events ++ issued)).tokens =
      Table.put (·.id) final db.tokens := by
    rw [← htokens]
    rfl
  refine ⟨?_, hclock, consumed_save htoken hopen hsucceeds.id (hlast.usedAt ?_) hsaved⟩
  · rw [hsaved]
    exact .put hdb htoken hsucceeds
  · rw [hkept]
    exact hused

/-- What a transaction does to the tokens, and to the one it consumes. -/
theorem transaction_changes (hdb : Valid db) {consumed : Option String} {db' : Db}
    (h : transaction settings db operation = .ok (consumed, db')) :
    TokenChanges settings db operation db'.tokens ∧ db'.clock = db.clock ∧
      ∀ tokenID ∈ consumed, Consumed db db' tokenID := by
  have hnone : ∀ tokenID ∈ (none : Option String), Consumed db db' tokenID :=
    fun _ hmem => absurd hmem (Option.not_mem_none _)
  cases operation with
  | writeHost host =>
    cases h
    exact ⟨.same, rfl, hnone⟩
  | issue hostID payload =>
    obtain ⟨host, hhost, h⟩ := orRaise_bind_eq_ok.mp h
    obtain ⟨issued, hissued, h⟩ := bind_eq_ok.mp h
    cases h
    obtain ⟨hchanges, hclock⟩ := issue_changes hhost hissued
    exact ⟨hchanges, hclock, hnone⟩
  | report enrollmentToken progressToken source payload =>
    obtain ⟨reported, hreported, h⟩ := bind_eq_ok.mp h
    cases h
    obtain ⟨hchanges, hclock⟩ := report_changes hdb hreported
    exact ⟨hchanges, hclock, hnone⟩
  | bootstrap value hostID source progress =>
    obtain ⟨⟨tokenID, bootstrapped⟩, hbootstrapped, h⟩ := bind_eq_ok.mp h
    cases h
    obtain ⟨hchanges, hclock, hconsumed⟩ := bootstrap_changes hdb hbootstrapped
    refine ⟨hchanges, hclock, fun id hid => ?_⟩
    rw [← Option.some_inj.mp hid]
    exact hconsumed
  | enroll value =>
    obtain ⟨⟨tokenID, enrolled⟩, henrolled, h⟩ := bind_eq_ok.mp h
    cases h
    obtain ⟨hchanges, hclock, hconsumed⟩ := enroll_changes hdb henrolled
    refine ⟨hchanges, hclock, fun id hid => ?_⟩
    rw [← Option.some_inj.mp hid]
    exact hconsumed
  | fail tokenID failure errorStep =>
    obtain ⟨token, htoken, h⟩ := orRaise_bind_eq_ok.mp h
    obtain ⟨⟨failed, events⟩, hfailed, h⟩ := bind_eq_ok.mp h
    cases h
    exact ⟨.put hdb (Table.mem_of_lookup htoken) (fail_succeeds hfailed), rfl, hnone⟩
  | revoke tokenID hostID =>
    obtain ⟨revoked, hrevoked, h⟩ := bind_eq_ok.mp h
    cases h
    obtain ⟨hchanges, hclock⟩ := revoke_changes hdb hrevoked
    exact ⟨hchanges, hclock, hnone⟩
  | complete hostID =>
    obtain ⟨completed, hcompleted, h⟩ := bind_eq_ok.mp h
    cases h
    obtain ⟨hchanges, hclock⟩ := complete_changes hdb hcompleted
    exact ⟨hchanges, hclock, hnone⟩

end Changes

/-! ### Runs -/

section Runs

variable (settings : Settings) {db : Db}

theorem Valid.arrive (h : Valid db) (input : Input) : Valid (db.arrive input) :=
  ⟨⟨h.constraints.ids, h.constraints.tokenHashes, h.constraints.progressTokenHashes,
    h.constraints.events⟩, h.consistent⟩

/-- What an input does; one that is not accepted lets only time pass. -/
structure StepEffect (settings : Settings) (db : Db) (input : Input) : Prop where
  valid : Valid (step settings db input)
  clock : (step settings db input).clock = db.clock + input.elapsed
  changes : TokenChanges settings (db.arrive input) input.operation (step settings db input).tokens
  refused : input.accepted = false → (step settings db input).tokens = db.tokens
  consumed : ∀ tokenID ∈ (serve settings db input).1,
    Consumed (db.arrive input) (step settings db input) tokenID

theorem step_effect (hdb : Valid db) (input : Input) : StepEffect settings db input := by
  have harrived := hdb.arrive input
  have hrejected (hserve : serve settings db input = (none, db.arrive input)) :
      StepEffect settings db input := by
    have hstep : step settings db input = db.arrive input := congrArg Prod.snd hserve
    refine ⟨?_, ?_, ?_, fun _ => ?_, ?_⟩
    · exact hstep ▸ harrived
    · rw [hstep]
      rfl
    · rw [hstep]
      exact .same
    · rw [hstep]
      rfl
    · rw [hserve]
      exact fun _ hmem => absurd hmem (Option.not_mem_none _)
  cases htransaction : transaction settings (db.arrive input) input.operation with
  | error e =>
    refine hrejected ?_
    unfold serve
    rw [htransaction]
  | ok outcome =>
    obtain ⟨consumed, db'⟩ := outcome
    by_cases hcommits : input.accepted ∧ db'.Constraints
    · have hserve : serve settings db input = (consumed, db') := by
        unfold serve
        rw [htransaction]
        exact if_pos hcommits
      have hstep : step settings db input = db' := congrArg Prod.snd hserve
      obtain ⟨hchanges, hclock, hconsumed⟩ := transaction_changes harrived htransaction
      refine ⟨?_, ?_, ?_, fun hrefused => ?_, ?_⟩
      · exact hstep ▸ ⟨hcommits.2, hchanges.consistent harrived⟩
      · rw [hstep, hclock]
        rfl
      · exact hstep ▸ hchanges
      · rw [hcommits.1] at hrefused
        cases hrefused
      · rw [hserve, hstep]
        exact hconsumed
    · refine hrejected ?_
      unfold serve
      rw [htransaction]
      exact if_neg hcommits

variable {settings} in
/-- A token that may be revoked has neither been used nor revoked. -/
theorem Operation.revokes_open {operation : Operation} {token : EnrollmentToken}
    (h : operation.revokes settings db token = true) :
    token.usedAt = none ∧ token.revokedAt = none := by
  cases operation with
  | issue hostID payload =>
    simp only [Operation.revokes, EnrollmentToken.replaceable, Bool.and_eq_true,
      decide_eq_true_eq] at h
    exact ⟨h.1.2.2.1, h.1.2.2.2.1⟩
  | revoke tokenID hostID =>
    simp only [Operation.revokes, decide_eq_true_eq] at h
    exact h.2.2
  | _ => cases h

theorem Succeeds.mono {revoked revoked' : Prop} {token token' : EnrollmentToken}
    (h : Succeeds revoked token token')
    (hrevoked : token.status.terminal = true → revoked → revoked') :
    Succeeds revoked' token token' :=
  { h with terminal := fun hterminal hspared =>
      h.terminal hterminal fun hhit => hspared (hrevoked hterminal hhit) }

theorem step_successor (hdb : Valid db) (input : Input) {token : EnrollmentToken}
    (htoken : token ∈ db.tokens) : ∃ token' ∈ (step settings db input).tokens,
      Succeeds (¬SparesFailed settings db input) token token' := by
  have heffect := step_effect settings hdb input
  cases haccepted : input.accepted with
  | false =>
    rw [heffect.refused haccepted]
    exact ⟨token, htoken, .refl token⟩
  | true =>
    obtain ⟨f, new, htokens, -, hold⟩ := heffect.changes
    rw [htokens]
    refine ⟨f token, List.mem_append_left _ (List.mem_map_of_mem htoken),
      (hold token htoken).mono fun hterminal hrevokes hspares => ?_⟩
    obtain ⟨hunused, hunrevoked⟩ := Operation.revokes_open hrevokes
    rcases hdb.consistent token htoken hterminal with hfailed | hrevoked | hused
    · exact hspares haccepted token htoken hrevokes hfailed
    · exact hrevoked hunrevoked
    · exact hused hunused

theorem run_valid (hdb : Valid db) (inputs : List Input) : Valid (run (step settings) db inputs) :=
  run_invariant_of_step (I := Valid) (fun _ input hdb => (step_effect settings hdb input).valid)
    hdb inputs

theorem run_successor (hdb : Valid db) (inputs : List Input) {token : EnrollmentToken}
    (htoken : token ∈ db.tokens) : ∃ token' ∈ (run (step settings) db inputs).tokens,
      Succeeds (¬Meets (step settings) (SparesFailed settings) db inputs) token token' := by
  induction inputs generalizing db token with
  | nil => exact ⟨token, htoken, .refl token⟩
  | cons input inputs ih =>
    obtain ⟨token', htoken', hsucceeds⟩ := step_successor settings hdb input htoken
    obtain ⟨token'', htoken'', hsucceeds'⟩ := ih (step_effect settings hdb input).valid htoken'
    refine ⟨token'', htoken'', (hsucceeds.mono ?_).trans (hsucceeds'.mono ?_)⟩
    · exact fun _ hhit hmeets => hhit hmeets.1
    · exact fun _ hhit hmeets => hhit hmeets.2

/-- A token that cannot be consumed any more. -/
def Spent (tokenID : String) (db : Db) : Prop :=
  ∃ token ∈ db.tokens, token.id = tokenID ∧ token.Closed db.clock

theorem Spent.step {tokenID : String} (hdb : Valid db) (h : Spent tokenID db) (input : Input) :
    Spent tokenID (step settings db input) := by
  obtain ⟨token, htoken, rfl, hclosed⟩ := h
  obtain ⟨token', htoken', hsucceeds⟩ := step_successor settings hdb input htoken
  refine ⟨token', htoken', hsucceeds.id, hsucceeds.closed (hdb.consistent token htoken) ?_ hclosed⟩
  rw [(step_effect settings hdb input).clock]
  exact le_add_of_nonneg_right (Int.natCast_nonneg _)

theorem Spent.respected {tokenID : String} (hdb : Valid db) (h : Spent tokenID db) {input : Input}
    {consumed : String} (hconsumed : consumed ∈ (consumptions settings db input).2) :
    tokenID ≠ consumed := by
  rintro rfl
  obtain ⟨token, htoken, rfl, hclosed⟩ := h
  obtain ⟨⟨other, hother, hid, hopen⟩, -⟩ :=
    (step_effect settings hdb input).consumed _ (Option.mem_toList.mp hconsumed)
  obtain rfl : other = token := Table.eq_of_mem hdb.constraints.ids hother htoken hid
  refine hopen ((Succeeds.refl other : Succeeds False other other).closed
    (hdb.consistent other htoken) ?_ hclosed)
  exact le_add_of_nonneg_right (Int.natCast_nonneg _)

theorem valid_meets (hdb : Valid db) (inputs : List Input) :
    Meets (next (consumptions settings)) (fun db _ => Valid db) db inputs :=
  Meets.of_invariant (P := fun _ _ => True) (I := Valid)
    (fun _ input _ hdb => ⟨(step_effect settings hdb input).valid, hdb⟩) hdb
    (Meets.of_forall (fun _ _ => trivial) db inputs)

end Runs

theorem valid_initial (clock : Time) (hosts : List Host) : Valid (Db.initial clock hosts) :=
  ⟨⟨List.nodup_nil, List.nodup_nil, List.nodup_nil, List.nodup_nil⟩,
    fun _ htoken => absurd htoken List.not_mem_nil⟩

/-- No token is consumed twice, or once it is closed, and no session moves back. A session that
has ended keeps its status as long as no failed one is revoked. -/
theorem ended_sessions_stay (settings : Settings) (clock : Time) (hosts : List Host)
    (history later : List Input) :
    let db := run (step settings) (Db.initial clock hosts) history
    let db' := run (step settings) (Db.initial clock hosts) (history ++ later)
    (trace (consumptions settings) (Db.initial clock hosts) history).Nodup ∧
      ∀ token ∈ db.tokens,
        (token.Closed db.clock → token.id ∉ trace (consumptions settings) db later) ∧
        ∃ token', db'.token? token.id = some token' ∧
          token.statusSequence ≤ token'.statusSequence ∧
          (Meets (step settings) (SparesFailed settings) db later →
            token.status.terminal = true → token'.status = token.status) := by
  intro db db'
  have hdb : Valid db := run_valid settings (valid_initial clock hosts) history
  have hrun : db' = run (step settings) db later := run_append _ _ _ _
  have hdb' : Valid db' := run_valid settings (valid_initial clock hosts) (history ++ later)
  refine ⟨?_, fun token htoken => ⟨fun hclosed => ?_, ?_⟩⟩
  · refine (valid_meets settings (valid_initial clock hosts) history).trace_pairwise (K := Spent)
      ?_ ?_ ?_ ?_
    · intro db input _
      cases hconsumed : (serve settings db input).1 with
      | none => simp [consumptions, hconsumed]
      | some tokenID => simp [consumptions, hconsumed]
    · intro db input hdb tokenID hconsumed
      obtain ⟨-, token', htoken', hid, hused⟩ :=
        (step_effect settings hdb input).consumed tokenID (Option.mem_toList.mp hconsumed)
      exact ⟨token', htoken', hid, .inl hused⟩
    · exact fun db input tokenID hdb hspent => hspent.step settings hdb input
    · exact fun db input tokenID hdb hspent consumed => hspent.respected settings hdb
  · have hlater := forall_trace_of_recorded (K := Spent) (R := fun tokenID consumed =>
      tokenID ≠ consumed) (fun db input tokenID hdb hspent => hspent.step settings hdb input)
      (fun db input tokenID hdb hspent consumed => hspent.respected settings hdb)
      ⟨token, htoken, rfl, hclosed⟩ (valid_meets settings hdb later)
    exact fun hmem => hlater _ hmem rfl
  · obtain ⟨token', htoken', hsucceeds⟩ := run_successor settings hdb later htoken
    rw [← hrun] at htoken'
    refine ⟨token', ?_, hsucceeds.sequence, fun hmeets hterminal =>
      hsucceeds.terminal hterminal fun hhit => hhit hmeets⟩
    rw [← hsucceeds.id]
    exact Table.lookup_of_mem hdb'.constraints.ids htoken'

/-! ### A failed installation -/

def plainSettings : Settings where
  tokenDigest := id
  network := some
  inNetwork := fun _ _ => true

def oneHost : Db := .initial 0 [⟨"host-1", true, false⟩]

def issued (tokenID : String) (revokeExisting : Bool) : Input :=
  ⟨0, true, .issue "host-1" ⟨minutes 10, none, "auto", revokeExisting, tokenID, tokenID⟩⟩

/-- The installer gives up. -/
def failedReport : Input :=
  ⟨0, true, .report (some "token-1") none "192.0.2.1"
    ⟨.failed, some "artifact_mismatch", some "checksum mismatch", true⟩⟩

/-- The failed session stays failed when the next token leaves it alone. -/
theorem ended_sessions_stay_failed : ∃ token',
    (run (step plainSettings) oneHost
      ([issued "token-1" true, failedReport] ++ [issued "token-2" false])).token? "token-1" =
        some token' ∧ token'.status = .failed := by
  have hfailed : ∃ token ∈ (run (step plainSettings) oneHost
      [issued "token-1" true, failedReport]).tokens,
      token.id = "token-1" ∧ token.status = .failed := by decide +kernel
  obtain ⟨token, htoken, hid, hstatus⟩ := hfailed
  obtain ⟨-, hstays⟩ := ended_sessions_stay plainSettings 0 [⟨"host-1", true, false⟩]
    [issued "token-1" true, failedReport] [issued "token-2" false]
  obtain ⟨-, token', htoken', -, hended⟩ := hstays token htoken
  rw [hid] at htoken'
  refine ⟨token', htoken', ?_⟩
  rw [hended (by decide +kernel) (by rw [hstatus]; rfl), hstatus]

/-- The issue of a new token turns a failed session into a revoked one. -/
theorem failed_session_revoked :
    ¬ ∀ (history later : List Input), ∀ token ∈ (run (step plainSettings) oneHost history).tokens,
      token.status.terminal = true →
        ∀ token' ∈ (run (step plainSettings) oneHost (history ++ later)).token? token.id,
          token'.status = token.status := by
  intro h
  have hviolated : ∃ token ∈ (run (step plainSettings) oneHost
      [issued "token-1" true, failedReport]).tokens, token.status.terminal = true ∧
      ∃ token' ∈ (run (step plainSettings) oneHost
        ([issued "token-1" true, failedReport] ++ [issued "token-2" true])).token? token.id,
        token'.status ≠ token.status := by decide +kernel
  obtain ⟨token, htoken, hterminal, token', htoken', hchanged⟩ := hviolated
  exact hchanged (h _ _ token htoken hterminal token' htoken')

end VpsGuardian.Enrollment
