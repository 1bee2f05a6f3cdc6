import VpsGuardian.Backup.RecoveryPoints

/-!
A recovery point is promoted once and does not change afterwards.

A session that has claimed a point has found it pending and holds its row until it commits, so
the point is pending when it does. A point that is verified is changed by nobody, and a
promotion that comes later finds out whether it is a replay by its digest alone: a digest
stands for one snapshot and one manifest.
-/

namespace VpsGuardian.Backup

open Lib Lib.Json Lib.ReadCommitted

/-! ### What a digest stands for -/

theorem toLower_toLower (s : String) : s.toLower.toLower = s.toLower := by
  unfold String.toLower
  rw [String.map_map]
  congr 1
  funext c
  exact Char.toLower_toLower_eq_toLower c

section Digest

variable {sha256 : String → String}

theorem normalizedSha256_eq_ok {value label normalized : String}
    (h : normalizedSha256 value label = .ok normalized) : normalized = value.toLower := by
  unfold normalizedSha256 at h
  split_ifs at h
  cases h
  rfl

theorem attestationDigest_eq_ok {id snapshotID checksum digest : String}
    {attestation : RecoveryVerificationAttestation}
    (h : attestationDigest sha256 id snapshotID checksum attestation = .ok digest) :
    ∃ evidenceDigest completedAt, digest = canonicalDigest sha256
      (statementOf id snapshotID checksum.toLower evidenceDigest completedAt attestation) := by
  unfold attestationDigest at h
  obtain ⟨-, h⟩ := raiseIf_bind_eq_ok.mp h
  obtain ⟨-, h⟩ := raiseIf_bind_eq_ok.mp h
  obtain ⟨manifestChecksum, hmanifest, h⟩ := bind_eq_ok.mp h
  obtain ⟨-, h⟩ := raiseIf_bind_eq_ok.mp h
  obtain ⟨evidenceDigest, -, h⟩ := bind_eq_ok.mp h
  obtain ⟨completedAt, -, h⟩ := bind_eq_ok.mp h
  cases h
  rw [normalizedSha256_eq_ok hmanifest]
  exact ⟨evidenceDigest, completedAt, rfl⟩

/-- Without collisions, a digest stands for one payload. -/
theorem canonicalDigest_injective (hsha : sha256.Injective) :
    (canonicalDigest sha256).Injective := by
  intro payload payload' h
  have htext := hsha h
  have hparse := parse_render unescapes_python payload
  rw [htext, parse_render unescapes_python payload', Option.some_inj] at hparse
  exact hparse.symm

/-- One digest, one snapshot and one manifest. -/
theorem attestationDigest_inj (hsha : sha256.Injective)
    {id id' snapshotID snapshotID' checksum checksum' digest : String}
    {attestation attestation' : RecoveryVerificationAttestation}
    (h : attestationDigest sha256 id snapshotID checksum attestation = .ok digest)
    (h' : attestationDigest sha256 id' snapshotID' checksum' attestation' = .ok digest) :
    snapshotID.toLower = snapshotID'.toLower ∧ checksum.toLower = checksum'.toLower := by
  obtain ⟨evidenceDigest, completedAt, rfl⟩ := attestationDigest_eq_ok h
  obtain ⟨evidenceDigest', completedAt', heq⟩ := attestationDigest_eq_ok h'
  have hstatement := canonicalDigest_injective hsha heq
  unfold statementOf at hstatement
  simp only [Value.object.injEq, List.cons.injEq, Prod.mk.injEq, Value.string.injEq,
    true_and, and_true] at hstatement
  exact ⟨hstatement.1.2.2, hstatement.1.2.1⟩

end Digest

/-! ### The outline -/

section Outline

variable (sha256 : String → String)

/-- A verified point has the digest of an attestation for its snapshot and its manifest. -/
def Attested (id : String) (point : RecoveryPoint) : Prop :=
  point.verified = true → ∃ attestation digest,
    attestationDigest sha256 id point.snapshotID.toLower point.checksum.toLower attestation =
      .ok digest ∧ point.attestationDigest = some digest

/-- The promotions that a request can ask for. -/
def Request.Calls : Request → Promotion → Prop
  | .promote call, call' => call' = call
  | .record call, call' => ∃ id existing, call' = call.promotion id existing

def Request.Claims (request : Request) (claim : Claim) : Prop :=
  ∃ call, request.Calls call ∧ call.claim sha256 = .ok claim

section Session

variable (request : Request) (written : String → Option (Option RecoveryPoint))
  (rows : String → Option RecoveryPoint)

def Untouched : Prop := ∀ id, written id = none

/-- The session has claimed a pending point. -/
def Claimed (claim : Claim) : Prop :=
  ∃ point, rows claim.recoveryPointID = some point ∧ point.verified = false ∧
    written claim.recoveryPointID = some (some (claim.promote point))

/-- How far a call has come. -/
def Reached (progress : Option (Progress String RecoveryPoint)) : Stage → Prop
  | .looking call => request = .record call ∧ Untouched written
  | .claiming claim =>
      request.Claims sha256 claim ∧
        match progress with
        | none => Untouched written
        | some p => p.taken = [] ∧ Untouched written ∨
            p.taken.length = 1 ∧ Claimed written rows claim
  | .reloading claim claimed =>
      request.Claims sha256 claim ∧ (claimed = 1 → Claimed written rows claim)
  | .inserting id point => Untouched written ∧ Attested sha256 id point
  | .returned (.promotion claim true) => request.Claims sha256 claim ∧ Claimed written rows claim
  | .ended (.promotion claim true) =>
      request.Claims sha256 claim ∧ ∃ point, rows claim.recoveryPointID = some point ∧
        point.verified = true ∧ point.attestationDigest = some claim.digest
  | _ => True

end Session

structure Careful (request : Request) (x : Session String RecoveryPoint Stage)
    (rows : String → Option RecoveryPoint) : Prop where
  /-- A verified point is not changed. -/
  keeps : ∀ id row point, x.written id = some row → rows id = some point →
    point.verified = true → row = some point
  attested : ∀ id point, x.written id = some (some point) → Attested sha256 id point
  reached : Reached sha256 request x.written rows x.progress x.stage

def outline {ι : Type} (requests : ι → Request) : Outline ι String RecoveryPoint Stage where
  committed rows := ∀ id point, rows id = some point → Attested sha256 id point
  session i := Careful sha256 (requests i)
  pair _ _ x y := ∀ claim claim', x.stage = .ended (.promotion claim true) →
    y.stage = .ended (.promotion claim' true) → claim.recoveryPointID ≠ claim'.recoveryPointID

end Outline

section Calls

variable {sha256 : String → String} {request : Request}
  {written : String → Option (Option RecoveryPoint)} {rows rows' : String → Option RecoveryPoint}

theorem claim_eq_ok {call : Promotion} {claim : Claim} (h : call.claim sha256 = .ok claim) :
    claim.recoveryPointID = call.recoveryPointID ∧
      claim.snapshotID = call.expectedSnapshotID.toLower ∧
        claim.checksum = call.expectedChecksum.toLower ∧
          attestationDigest sha256 claim.recoveryPointID claim.snapshotID claim.checksum
            call.attestation = .ok claim.digest := by
  unfold Promotion.claim at h
  obtain ⟨-, h⟩ := raiseIf_bind_eq_ok.mp h
  obtain ⟨-, h⟩ := raiseIf_bind_eq_ok.mp h
  obtain ⟨snapshotID, hsnapshot, h⟩ := bind_eq_ok.mp h
  obtain ⟨checksum, hchecksum, h⟩ := bind_eq_ok.mp h
  obtain ⟨digest, hdigest, h⟩ := bind_eq_ok.mp h
  cases h
  exact ⟨rfl, normalizedSha256_eq_ok hsnapshot, normalizedSha256_eq_ok hchecksum, hdigest⟩

theorem matches_iff {claim : Claim} {id : String} {point : RecoveryPoint} :
    claim.matches id point = true ↔
      id = claim.recoveryPointID ∧ point.verified = false ∧
        point.verificationVersion = claim.expectedVersion ∧
          point.snapshotID.toLower = claim.snapshotID ∧
            point.checksum.toLower = claim.checksum := by
  simp [Claim.matches, and_assoc]

/-- A point that is promoted is attested. -/
theorem attested_promote {claim : Claim} (hclaim : request.Claims sha256 claim)
    {point : RecoveryPoint} (hmatches : claim.matches claim.recoveryPointID point = true) :
    Attested sha256 claim.recoveryPointID (claim.promote point) := by
  obtain ⟨call, -, hcall⟩ := hclaim
  obtain ⟨-, -, -, hdigest⟩ := claim_eq_ok hcall
  obtain ⟨-, -, -, hsnapshot, hchecksum⟩ := matches_iff.mp hmatches
  intro _
  refine ⟨call.attestation, claim.digest, ?_, rfl⟩
  change attestationDigest sha256 _ point.snapshotID.toLower point.checksum.toLower _ = _
  rw [hsnapshot, hchecksum]
  exact hdigest

/-- A new point is attested. -/
theorem attested_point {call : Recording} {point : RecoveryPoint}
    (h : call.point sha256 = .ok point) : Attested sha256 call.newID point := by
  intro hverified
  unfold Recording.point at h
  obtain ⟨stored, hstored, h⟩ := bind_eq_ok.mp h
  cases h
  change call.result.verified = true at hverified
  obtain ⟨verifiedAt, hat⟩ : ∃ verifiedAt, call.verifiedAt = some verifiedAt :=
    ⟨_, if_pos hverified⟩
  unfold Recording.digest at hstored
  rw [hat] at hstored
  obtain ⟨digest, hdigest, rfl⟩ := map_eq_ok.mp hstored
  refine ⟨call.attestation verifiedAt, digest, ?_, rfl⟩
  have hsnapshot : call.snapshotID.toLower = call.snapshotID := toLower_toLower _
  have hchecksum : call.checksum.toLower = call.checksum := toLower_toLower _
  change attestationDigest sha256 _ call.snapshotID.toLower call.checksum.toLower _ = _
  rw [hsnapshot, hchecksum]
  exact hdigest

/-- A promotion that begins has claimed nothing yet. -/
theorem reached_start {call : Promotion} (hcall : request.Calls call) (h : Untouched written) :
    Reached sha256 request written rows none (call.start sha256) := by
  unfold Promotion.start
  split
  · rename_i claim hclaim
    exact ⟨⟨call, hcall, hclaim⟩, h⟩
  · trivial

theorem reached_request (request : Request) (h : Untouched written) :
    Reached sha256 request written rows none (request.start sha256) := by
  cases request with
  | promote call => exact @reached_start sha256 (.promote call) _ _ _ rfl h
  | record call =>
    unfold Request.start
    dsimp only
    split
    · exact ⟨rfl, h⟩
    · trivial

theorem reached_found {call : Recording} (hrequest : request = .record call)
    (h : Untouched written) (found : List (String × RecoveryPoint)) :
    Reached sha256 request written rows none (call.found sha256 found) := by
  unfold Recording.found
  split
  · rename_i id existing rest
    split_ifs
    · unfold Recording.conflicts
      split_ifs
      · split <;> trivial
      · trivial
    · trivial
    · subst hrequest
      exact reached_start ⟨id, existing, rfl⟩ h
  · unfold Recording.create
    split
    · rename_i point hpoint
      exact ⟨h, attested_point hpoint⟩
    · trivial

theorem Reached.selected {stage : Stage} {condition : String → RecoveryPoint → Bool}
    {next : List (String × RecoveryPoint) → Stage}
    {progress : Option (Progress String RecoveryPoint)}
    (h : Reached sha256 request written rows progress stage)
    (hstatement : statement sha256 stage = .select condition next)
    (found : List (String × RecoveryPoint)) :
    Reached sha256 request written rows none (next found) := by
  cases stage with
  | looking call =>
    cases hstatement
    exact reached_found h.1 h.2 found
  | reloading claim claimed =>
    cases hstatement
    obtain ⟨hclaim, hclaimed⟩ := h
    dsimp only
    cases found with
    | nil =>
      unfold Claim.reloaded
      split_ifs <;> trivial
    | cons row rest =>
      unfold Claim.reloaded
      dsimp only
      split_ifs with hone hreplay
      · exact ⟨hclaim, hclaimed hone⟩
      · trivial
      · trivial
  | claiming claim | inserting id point | returned outcome | ended outcome => cases hstatement

/-- A call has ended after its commit only. -/
theorem select_ne_ended {stage : Stage} {condition : String → RecoveryPoint → Bool}
    {next : List (String × RecoveryPoint) → Stage}
    (hstatement : statement sha256 stage = .select condition next)
    (found : List (String × RecoveryPoint)) (outcome : Outcome) :
    next found ≠ .ended outcome := by
  cases stage with
  | looking call =>
    cases hstatement
    unfold Recording.found
    split
    · split_ifs
      · exact Stage.noConfusion
      · exact Stage.noConfusion
      · unfold Promotion.start
        split <;> exact Stage.noConfusion
    · unfold Recording.create
      split <;> exact Stage.noConfusion
  | reloading claim claimed =>
    cases hstatement
    exact Stage.noConfusion
  | claiming claim | inserting id point | returned outcome | ended outcome => cases hstatement

/-- Rows are altered where a point is claimed. -/
theorem statement_alter {stage : Stage} {order : List String → List String}
    {condition : String → RecoveryPoint → Bool} {change : RecoveryPoint → Option RecoveryPoint}
    {next : List (String × RecoveryPoint) → Stage}
    (h : statement sha256 stage = .alter order condition change next) :
    ∃ claim, stage = .claiming claim ∧ order = id ∧ condition = claim.matches ∧
      change = (fun point => some (claim.promote point)) ∧
        next = fun rows => .reloading claim rows.length := by
  cases stage with
  | claiming claim =>
    cases h
    exact ⟨claim, rfl, rfl, rfl, rfl, rfl⟩
  | looking call | reloading claim claimed | inserting id point | returned outcome
    | ended outcome => cases h

theorem statement_insert {stage : Stage} {id : String} {point : RecoveryPoint}
    {next : Bool → Stage} (h : statement sha256 stage = .insert id point next) :
    stage = .inserting id point ∧
      next = fun free => .returned (if free then .recorded id else .failed) := by
  cases stage with
  | inserting id point =>
    cases h
    exact ⟨rfl, rfl⟩
  | looking call | claiming claim | reloading claim claimed | returned outcome
    | ended outcome => cases h

theorem statement_commit {stage stage' : Stage} (h : statement sha256 stage = .commit stage') :
    ∃ outcome, stage = .returned outcome ∧ stage' = .ended outcome := by
  cases stage with
  | returned outcome =>
    cases h
    exact ⟨outcome, rfl, rfl⟩
  | looking call | claiming claim | reloading claim claimed | inserting id point
    | ended outcome => cases h

theorem statement_rollback {stage stage' : Stage} :
    statement sha256 stage ≠ .rollback stage' := by
  intro h
  cases stage <;> cases h

end Calls

section Valid

variable {ι : Type} {sha256 : String → String} {requests : ι → Request}

theorem Careful.between {request : Request} {x : Session String RecoveryPoint Stage}
    {rows : String → Option RecoveryPoint} (h : Careful sha256 request x rows) {stage : Stage}
    (hreached : Reached sha256 request x.written rows none stage) :
    Careful sha256 request (x.to stage) rows :=
  ⟨h.keeps, h.attested, hreached⟩

theorem Careful.start {request : Request} {rows : String → Option RecoveryPoint} {stage : Stage}
    (hreached : Reached sha256 request (fun _ => none) rows none stage) :
    Careful sha256 request (.start stage) rows :=
  ⟨fun _ _ _ hnone => (by cases hnone), fun _ _ hnone => (by cases hnone), hreached⟩

/-- A point is claimed while it is pending, and only once. -/
theorem Careful.took {request : Request} {x : Session String RecoveryPoint Stage}
    {rows : String → Option RecoveryPoint} (h : Careful sha256 request x rows) {claim : Claim}
    (hstage : x.stage = .claiming claim) {k : String} {remaining : List String}
    {taken : List (String × RecoveryPoint)}
    (hprogress : x.progress = some ⟨k :: remaining, taken⟩) {point : RecoveryPoint}
    (hrow : (x.written k).getD (rows k) = some point) (hmatches : claim.matches k point = true) :
    Careful sha256 request { x with
      written := Function.update x.written k (some (some (claim.promote point)))
      progress := some ⟨remaining, taken ++ [(k, point)]⟩ } rows := by
  obtain ⟨rfl, hpending, -⟩ := matches_iff.mp hmatches
  have hreached := h.reached
  rw [hstage, hprogress] at hreached
  obtain ⟨hclaim, ⟨htaken, huntouched⟩ | ⟨-, before, -, -, hwritten⟩⟩ := hreached
  · change taken = [] at htaken
    subst htaken
    rw [huntouched, Option.getD_none] at hrow
    refine ⟨fun id row other hwritten hother hverified => ?_, fun id other hwritten => ?_, ?_⟩
    · by_cases hid : id = claim.recoveryPointID
      · subst hid
        rw [hrow, Option.some_inj] at hother
        subst hother
        rw [hpending] at hverified
        cases hverified
      · refine h.keeps id row other ?_ hother hverified
        exact (Function.update_of_ne hid _ _).symm.trans hwritten
    · by_cases hid : id = claim.recoveryPointID
      · subst hid
        dsimp only at hwritten
        rw [Function.update_self] at hwritten
        cases hwritten
        exact attested_promote hclaim hmatches
      · refine h.attested id other ?_
        exact (Function.update_of_ne hid _ _).symm.trans hwritten
    · rw [hstage]
      exact ⟨hclaim, .inr ⟨rfl, point, hrow, hpending, Function.update_self _ _ _⟩⟩
  · -- the point is promoted already, as the session sees it
    rw [hwritten, Option.getD_some, Option.some_inj] at hrow
    subst hrow
    cases hpending

theorem Reached.frame {request : Request} {written : String → Option (Option RecoveryPoint)}
    {rows rows' : String → Option RecoveryPoint}
    {progress : Option (Progress String RecoveryPoint)} {stage : Stage}
    (h : Reached sha256 request written rows progress stage)
    (hrows : ∀ id, (written id).isSome → rows' id = rows id)
    (hkept : ∀ id point, rows id = some point → point.verified = true → rows' id = some point) :
    Reached sha256 request written rows' progress stage := by
  have hclaimed (claim : Claim) (hc : Claimed written rows claim) :
      Claimed written rows' claim := by
    obtain ⟨point, hpoint, hpending, hwritten⟩ := hc
    refine ⟨point, ?_, hpending, hwritten⟩
    rw [hrows _ (by rw [hwritten]; rfl)]
    exact hpoint
  unfold Reached at h ⊢
  split at h
  · exact h
  · obtain ⟨hclaim, hprogress⟩ := h
    refine ⟨hclaim, ?_⟩
    split at hprogress
    · exact hprogress
    · exact hprogress.imp_right fun htaken => ⟨htaken.1, hclaimed _ htaken.2⟩
  · exact ⟨h.1, fun hone => hclaimed _ (h.2 hone)⟩
  · exact h
  · exact ⟨h.1, hclaimed _ h.2⟩
  · obtain ⟨hclaim, point, hpoint, hverified, hdigest⟩ := h
    exact ⟨hclaim, point, hkept _ point hpoint hverified, hverified, hdigest⟩
  · trivial

/-- What a careful session commits leaves verified points as they are. -/
theorem Careful.view {s : System ι String RecoveryPoint Stage} {i : ι}
    (h : Careful sha256 (requests i) (s.sessions i) s.rows) {id : String} {point : RecoveryPoint}
    (hpoint : s.rows id = some point) (hverified : point.verified = true) :
    s.view i id = some point := by
  rw [System.view]
  cases hwritten : (s.sessions i).written id with
  | none => exact hpoint
  | some row => exact h.keeps id row point hwritten hpoint hverified

theorem Untouched.view {s : System ι String RecoveryPoint Stage} {i : ι}
    (h : Untouched (s.sessions i).written) (id : String) :
    s.view i id = s.rows id := by
  rw [System.view, h id, Option.getD_none]

variable [DecidableEq ι]

theorem outline_own {s s' : System ι String RecoveryPoint Stage} {i : ι}
    (h : Careful sha256 (requests i) (s.sessions i) s.rows)
    (heffect : Effect (code sha256 ι) s i s') :
    Careful sha256 (requests i) (s'.sessions i) s'.rows := by
  cases heffect with
  | waited => exact h
  | selected hstatement =>
    rw [System.set_self]
    exact h.between (h.reached.selected hstatement _)
  | found hstatement hprogress =>
    obtain ⟨claim, hstage, rfl, rfl, -, -⟩ := statement_alter hstatement
    rw [System.set_self]
    refine ⟨h.keeps, h.attested, ?_⟩
    have hreached := h.reached
    rw [hstage, hprogress] at hreached
    dsimp only
    rw [hstage]
    exact ⟨hreached.1, .inl ⟨rfl, hreached.2⟩⟩
  | passed hstatement hprogress _ =>
    obtain ⟨claim, hstage, rfl, rfl, -, -⟩ := statement_alter hstatement
    rw [System.set_self]
    refine ⟨h.keeps, h.attested, ?_⟩
    have hreached := h.reached
    rw [hstage, hprogress] at hreached
    dsimp only
    rw [hstage]
    exact hreached
  | took hstatement hprogress hfree hrow hmatches =>
    obtain ⟨claim, hstage, rfl, rfl, rfl, -⟩ := statement_alter hstatement
    rw [System.set_self, System.write_self]
    exact h.took hstage hprogress hrow hmatches
  | @altered order condition change next taken hstatement hprogress =>
    obtain ⟨claim, hstage, rfl, rfl, rfl, rfl⟩ := statement_alter hstatement
    rw [System.set_self]
    refine h.between ?_
    have hreached := h.reached
    rw [hstage, hprogress] at hreached
    obtain ⟨hclaim, ⟨htaken, -⟩ | ⟨-, hclaimed⟩⟩ := hreached
    · refine ⟨hclaim, fun hone => ?_⟩
      rw [show taken = [] from htaken] at hone
      cases hone
    · exact ⟨hclaim, fun _ => hclaimed⟩
  | refused hstatement =>
    obtain ⟨-, rfl⟩ := statement_insert hstatement
    rw [System.set_self]
    exact h.between trivial
  | @inserted id point next keys hstatement hfree hnew hkeys =>
    obtain ⟨hstage, rfl⟩ := statement_insert hstatement
    have hreached := h.reached
    rw [hstage] at hreached
    obtain ⟨huntouched, hattested⟩ := hreached
    rw [System.view, huntouched, Option.getD_none] at hnew
    rw [System.set_self, System.write_self]
    refine ⟨fun other row before hwritten hbefore hverified => ?_,
      fun other row hwritten => ?_, trivial⟩
    · by_cases hid : other = id
      · subst hid
        rw [System.set_rows] at hbefore
        cases hnew.symm.trans hbefore
      · refine h.keeps other row before ?_ hbefore hverified
        exact (Function.update_of_ne hid _ _).symm.trans hwritten
    · by_cases hid : other = id
      · subst hid
        rw [Session.to_written] at hwritten
        dsimp only at hwritten
        rw [Function.update_self] at hwritten
        cases hwritten
        exact hattested
      · refine h.attested other row ?_
        exact (Function.update_of_ne hid _ _).symm.trans hwritten
  | committed hstatement =>
    obtain ⟨outcome, hstage, rfl⟩ := statement_commit hstatement
    rw [System.finish_self, System.finish_rows]
    refine .start ?_
    have hreached := h.reached
    rw [hstage] at hreached
    cases outcome with
    | promotion claim promoted =>
      cases promoted with
      | false => trivial
      | true =>
        obtain ⟨hclaim, point, -, -, hwritten⟩ := hreached
        refine ⟨hclaim, claim.promote point, ?_, rfl, rfl⟩
        rw [System.view, hwritten, Option.getD_some]
    | recorded id | error error | failed => trivial
  | rolledBack hstatement => exact absurd hstatement statement_rollback

/-- A promotion is over with the commit of its session. -/
theorem ended_effect {s s' : System ι String RecoveryPoint Stage} {i : ι} {claim : Claim}
    (h : Careful sha256 (requests i) (s.sessions i) s.rows)
    (heffect : Effect (code sha256 ι) s i s')
    (hended : (s'.sessions i).stage = .ended (.promotion claim true)) :
    (s.sessions i).stage = .ended (.promotion claim true) ∨
      Claimed (s.sessions i).written s.rows claim := by
  cases heffect with
  | waited => exact .inl hended
  | selected hstatement =>
    rw [System.set_self, Session.to_stage] at hended
    exact absurd hended (select_ne_ended hstatement _ _)
  | found _ _ | passed _ _ _ =>
    rw [System.set_self] at hended
    exact .inl hended
  | took _ _ _ _ _ =>
    rw [System.set_self, System.write_self] at hended
    exact .inl hended
  | altered hstatement _ =>
    obtain ⟨claim', -, rfl, rfl, rfl, rfl⟩ := statement_alter hstatement
    rw [System.set_self] at hended
    cases hended
  | refused hstatement | inserted hstatement _ _ _ =>
    obtain ⟨-, rfl⟩ := statement_insert hstatement
    rw [System.set_self] at hended
    cases hended
  | committed hstatement =>
    obtain ⟨outcome, hstage, rfl⟩ := statement_commit hstatement
    rw [System.finish_self] at hended
    cases hended
    have hreached := h.reached
    rw [hstage] at hreached
    exact .inr hreached.2
  | rolledBack hstatement => exact absurd hstatement statement_rollback

theorem outline_valid (requests : ι → Request) :
    (outline sha256 requests).Valid (code sha256 ι) fun _ _ => True where
  own s i s' h _ heffect := by
    refine ⟨outline_own (h.sessions i) heffect, fun j hj claim claim' hi hother => ?_⟩
    rcases ended_effect (h.sessions i) heffect hi with hbefore | ⟨point, hpoint, hpending, -⟩
    · exact h.pairs i j hj.symm claim claim' hbefore hother
    · -- the point is pending until the commit, but the other session has promoted its own
      intro hid
      have hreached := (h.sessions j).reached
      rw [hother] at hreached
      obtain ⟨-, point', hpoint', hverified, -⟩ := hreached
      rw [← hid, hpoint, Option.some_inj] at hpoint'
      subst hpoint'
      rw [hpending] at hverified
      cases hverified
  symm i j x y h claim claim' hy hx heq := h claim' claim hx hy heq.symm
  commit s i stage h _ _ := by
    intro id point hpoint
    have hi : Careful sha256 (requests i) (s.sessions i) s.rows := h.sessions i
    rw [System.view] at hpoint
    cases hwritten : (s.sessions i).written id with
    | none =>
      rw [hwritten] at hpoint
      exact h.committed id point hpoint
    | some row =>
      rw [hwritten, Option.getD_some] at hpoint
      exact hi.attested id point (hwritten.trans (congrArg some hpoint))
  frame s i j stage h _ _ hj hrows := by
    have hi : Careful sha256 (requests i) (s.sessions i) s.rows := h.sessions i
    have hj : Careful sha256 (requests j) (s.sessions j) s.rows := h.sessions j
    refine ⟨fun id row point hwritten hpoint => ?_, hj.attested,
      hj.reached.frame hrows fun id point hpoint hverified => hi.view hpoint hverified⟩
    rw [hrows id (by rw [hwritten]; rfl)] at hpoint
    exact hj.keeps id row point hwritten hpoint
  lost i rows _ := ⟨.start trivial, fun j y claim claim' hx => by cases hx⟩

/-! ### Once and for all -/

variable {s : System ι String RecoveryPoint Stage}

/-- A verified point is not changed by a step. -/
theorem verified_step (h : (outline sha256 requests).Holds s) {id : String}
    {point : RecoveryPoint} (hpoint : s.rows id = some point) (hverified : point.verified = true)
    (input : Input ι) : (step (code sha256 ι) s input).rows id = some point := by
  cases input with
  | abort i =>
    rcases step_abort (code sha256 ι) s i with heq | heq <;> rw [heq] <;> exact hpoint
  | step i =>
    change (s.advance (code sha256 ι) i).rows id = some point
    rcases Outline.rows_effect (advance_effect (code sha256 ι) s i) with heq | ⟨-, heq⟩
    · rw [heq]
      exact hpoint
    · have hi : Careful sha256 (requests i) (s.sessions i) s.rows := h.sessions i
      rw [heq]
      exact hi.view hpoint hverified

/-- The call of the session has come back with this outcome. -/
def Returned (x : Session String RecoveryPoint Stage) (outcome : Outcome) : Prop :=
  x.stage = .returned outcome ∨ x.stage = .ended outcome

/-- How far a promotion of a verified point has come. -/
def Later (claim : Claim) (outcome : Outcome) (x : Session String RecoveryPoint Stage) :
    Nat → Prop
  | 0 => x.stage = .claiming claim ∧ x.progress = none ∧ Untouched x.written
  | 1 => x.stage = .claiming claim ∧ x.progress = some ⟨[], []⟩ ∧ Untouched x.written
  | 2 => x.stage = .reloading claim 0 ∧ Untouched x.written
  | _ => Returned x outcome

/-- What a promotion of a verified point comes to. -/
def Promotion.replay (sha256 : String → String) (call : Promotion) (point : RecoveryPoint) :
    Outcome :=
  match call.claim sha256 with
  | .error error => .error error
  | .ok claim =>
      if point.attestationDigest = some claim.digest then .promotion claim false
      else .error (.conflict claim.digest)

/-- An attested point has been promoted with the very attestation if it has its digest. -/
theorem isReplay_iff (hsha : sha256.Injective) {call : Promotion} {claim : Claim}
    (hclaim : call.claim sha256 = .ok claim) {point : RecoveryPoint}
    (hverified : point.verified = true)
    (hattested : Attested sha256 claim.recoveryPointID point) :
    claim.isReplay point = true ↔ point.attestationDigest = some claim.digest := by
  obtain ⟨-, hsnapshot, hchecksum, hdigest⟩ := claim_eq_ok hclaim
  obtain ⟨attestation, stored, hstored, heq⟩ := hattested hverified
  simp only [Claim.isReplay, Bool.and_eq_true, decide_eq_true_eq]
  constructor
  · exact fun h => h.2
  · intro hsame
    rw [heq, Option.some_inj] at hsame
    subst hsame
    obtain ⟨hs, hc⟩ := attestationDigest_inj hsha hstored hdigest
    rw [toLower_toLower] at hs hc
    refine ⟨⟨⟨hverified, ?_⟩, ?_⟩, heq⟩
    · rw [hs, hsnapshot, toLower_toLower]
    · rw [hc, hchecksum, toLower_toLower]

theorem returned_advance {i : ι} {outcome : Outcome} (h : Returned (s.sessions i) outcome) :
    Returned ((s.advance (code sha256 ι) i).sessions i) outcome := by
  unfold System.advance
  dsimp only
  rcases h with hstage | hstage
  · rw [hstage]
    right
    unfold code statement
    dsimp only
    rw [System.finish_self]
    rfl
  · rw [hstage]
    exact .inr hstage

/-- A promotion of a verified point goes on with each of its steps. -/
theorem later_advance (hsha : sha256.Injective) (h : (outline sha256 requests).Holds s)
    {call : Promotion} {claim : Claim} (hclaim : call.claim sha256 = .ok claim)
    {point : RecoveryPoint} (hpoint : s.rows claim.recoveryPointID = some point)
    (hverified : point.verified = true) {i : ι} {n : Nat}
    (hlater : Later claim (call.replay sha256 point) (s.sessions i) n) :
    Later claim (call.replay sha256 point) ((s.advance (code sha256 ι) i).sessions i) (n + 1) := by
  match n, hlater with
  | 0, ⟨hstage, hprogress, huntouched⟩ =>
    have hnone : s.matching i claim.matches = [] := by
      refine List.eq_nil_iff_forall_not_mem.mpr fun row hrow => ?_
      obtain ⟨-, hview, hmatches⟩ := mem_matching.mp hrow
      obtain ⟨hid, hpending, -⟩ := matches_iff.mp hmatches
      rw [huntouched.view, hid, hpoint, Option.some_inj] at hview
      rw [← hview, hverified] at hpending
      cases hpending
    unfold System.advance
    dsimp only
    rw [hstage]
    unfold code statement
    dsimp only
    rw [hprogress]
    dsimp only
    rw [hnone, System.set_self]
    exact ⟨rfl, rfl, huntouched⟩
  | 1, ⟨hstage, hprogress, huntouched⟩ =>
    unfold System.advance
    dsimp only
    rw [hstage]
    unfold code statement
    dsimp only
    rw [hprogress]
    unfold System.take
    dsimp only
    rw [System.set_self]
    exact ⟨rfl, huntouched⟩
  | 2, ⟨hstage, huntouched⟩ =>
    unfold System.advance
    dsimp only
    rw [hstage]
    unfold code statement
    dsimp only
    rw [System.set_self]
    left
    rw [Session.to_stage]
    congr 1
    have hmem : (claim.recoveryPointID, point) ∈
        s.matching i fun id _ => decide (id = claim.recoveryPointID) := by
      refine mem_matching.mpr ⟨h.listed.rows _ ?_, ?_, decide_eq_true rfl⟩
      · rw [hpoint]
        exact Option.some_ne_none _
      · rw [huntouched.view, hpoint]
    cases hfound : s.matching i fun id _ => decide (id = claim.recoveryPointID) with
    | nil =>
      rw [hfound] at hmem
      cases hmem
    | cons row rest =>
      obtain ⟨id, found⟩ := row
      have hrow : (id, found) ∈ s.matching i fun id _ => decide (id = claim.recoveryPointID) :=
        hfound ▸ List.mem_cons_self
      obtain ⟨-, hview, hid⟩ := mem_matching.mp hrow
      rw [huntouched.view, of_decide_eq_true hid, hpoint, Option.some_inj] at hview
      subst hview
      have hreplay := isReplay_iff hsha hclaim hverified (h.committed _ _ hpoint)
      unfold Claim.reloaded Promotion.replay
      rw [hclaim]
      dsimp only
      rw [if_neg (by decide : ¬(0 = 1))]
      by_cases hsame : point.attestationDigest = some claim.digest
      · rw [if_pos (hreplay.mpr hsame), if_pos hsame]
      · rw [if_neg (fun hr => hsame (hreplay.mp hr)), if_neg hsame]
  | n + 3, hlater => exact returned_advance hlater

/-- The same over a run in which the session is not aborted. -/
theorem later_run (hsha : sha256.Injective) {call : Promotion} {claim : Claim}
    (hclaim : call.claim sha256 = .ok claim) {point : RecoveryPoint}
    (hverified : point.verified = true) {i : ι} {inputs : List (Input ι)}
    (habort : .abort i ∉ inputs) {n : Nat} (h : (outline sha256 requests).Holds s)
    (hpoint : s.rows claim.recoveryPointID = some point)
    (hlater : Later claim (call.replay sha256 point) (s.sessions i) n) :
    Later claim (call.replay sha256 point)
      ((run (step (code sha256 ι)) s inputs).sessions i) (n + inputs.count (.step i)) := by
  induction inputs generalizing s n with
  | nil => exact hlater
  | cons input inputs ih =>
    rw [List.mem_cons, not_or] at habort
    have hnext : (outline sha256 requests).Holds (step (code sha256 ι) s input) :=
      (outline_valid requests).step h trivial
    have hrows := verified_step h hpoint hverified input
    rw [run_cons]
    by_cases hinput : input = .step i
    · subst hinput
      have hadvance := later_advance hsha h hclaim hpoint hverified hlater
      have hrun := ih habort.2 hnext hrows hadvance
      rw [List.count_cons_self]
      rw [show n + (inputs.count (.step i) + 1) = n + 1 + inputs.count (.step i) by omega]
      exact hrun
    · have hsame : (step (code sha256 ι) s input).sessions i = s.sessions i :=
        Outline.step_of_ne hinput (Ne.symm habort.1)
      rw [List.count_cons_of_ne (Ne.symm (Ne.symm hinput))]
      exact ih habort.2 hnext hrows (by rw [hsame]; exact hlater)

theorem returned_run {i : ι} {outcome : Outcome} {inputs : List (Input ι)}
    (habort : .abort i ∉ inputs) (h : Returned (s.sessions i) outcome) :
    Returned ((run (step (code sha256 ι)) s inputs).sessions i) outcome := by
  induction inputs generalizing s with
  | nil => exact h
  | cons input inputs ih =>
    rw [List.mem_cons, not_or] at habort
    refine ih habort.2 ?_
    by_cases hinput : input = .step i
    · subst hinput
      exact returned_advance h
    · rw [Outline.step_of_ne hinput (Ne.symm habort.1)]
      exact h

/-- Sessions of which none has begun. -/
def initial (sha256 : String → String) (keys : List String)
    (rows : String → Option RecoveryPoint) (requests : ι → Request) :
    System ι String RecoveryPoint Stage :=
  .initial keys rows fun i => (requests i).start sha256

/-- The session has ended with a commit, and it was the one to promote the point. -/
def Promoted (x : Session String RecoveryPoint Stage) (claim : Claim) : Prop :=
  x.stage = .ended (.promotion claim true)

omit [DecidableEq ι] in
theorem holds_initial {keys : List String} {rows : String → Option RecoveryPoint}
    (hkeys : ∀ id, rows id ≠ none → id ∈ keys)
    (hrows : ∀ id point, rows id = some point → Attested sha256 id point) :
    (outline sha256 requests).Holds (initial sha256 keys rows requests) where
  locks := wellLocked_initial _ _ _
  listed := listed_initial hkeys _
  committed := hrows
  sessions i := .start (reached_request (requests i) fun _ => rfl)
  pairs i j _ claim claim' hi _ := by
    have hi : (requests i).start sha256 = .ended (.promotion claim true) := hi
    cases hrequest : requests i with
    | promote call =>
      rw [hrequest] at hi
      unfold Request.start Promotion.start at hi
      dsimp only at hi
      split at hi <;> cases hi
    | record call =>
      rw [hrequest] at hi
      unfold Request.start at hi
      dsimp only at hi
      split at hi <;> cases hi

end Valid

/-! ### A replay with a negative version -/

def drill : RecoveryVerificationAttestation where
  verifier := "drill"
  verificationMethod := "isolated_restore"
  targetEnvironment := "staging"
  completedAt := ⟨0, true⟩
  evidenceDigest := String.ofList (List.replicate 64 'c')
  schemaVersion := 1

/-- Promotes the point with the result of the drill. -/
def drilled (expectedVersion : Int) : Promotion where
  recoveryPointID := "p"
  expectedVersion := expectedVersion
  expectedSnapshotID := String.ofList (List.replicate 64 'a')
  expectedChecksum := String.ofList (List.replicate 64 'b')
  attestation := drill

/-- The digest, if texts are their own digests. -/
def drillDigest : Except BackupError String :=
  attestationDigest id "p" (drilled 0).expectedSnapshotID (drilled 0).expectedChecksum drill

def drilledPoint : RecoveryPoint where
  hostID := "h"
  serviceName := "controller"
  snapshotID := (drilled 0).expectedSnapshotID
  manifest := ""
  checksum := (drilled 0).expectedChecksum
  verified := true
  verifiedAt := some 0
  verificationVersion := 1
  attestationDigest := drillDigest.toOption
  createdAt := 0

def drilledRows (id : String) : Option RecoveryPoint := if id = "p" then some drilledPoint else none

theorem drillDigest_eq_ok : ∃ digest, drillDigest = .ok digest := by
  have hok : drillDigest.isOk = true := by decide +kernel
  cases hdigest : drillDigest with
  | error error =>
    rw [hdigest] at hok
    cases hok
  | ok digest => exact ⟨digest, rfl⟩

theorem drilledRows_listed (id : String) (h : drilledRows id ≠ none) : id ∈ ["p"] := by
  unfold drilledRows at h
  split_ifs at h with hid
  · exact List.mem_singleton.mpr hid
  · exact absurd rfl h

theorem drilledRows_attested (key : String) (point : RecoveryPoint)
    (h : drilledRows key = some point) : Attested id key point := by
  unfold drilledRows at h
  split_ifs at h with hkey
  subst hkey
  cases h
  intro _
  obtain ⟨digest, hdigest⟩ := drillDigest_eq_ok
  refine ⟨drill, digest, ?_, ?_⟩
  · have hsnapshot : drilledPoint.snapshotID.toLower = (drilled 0).expectedSnapshotID := by
      decide +kernel
    have hchecksum : drilledPoint.checksum.toLower = (drilled 0).expectedChecksum := by
      decide +kernel
    rw [hsnapshot, hchecksum]
    exact hdigest
  · change drillDigest.toOption = some digest
    rw [hdigest]
    rfl

end VpsGuardian.Backup
