import VpsGuardian.Lib.ReadCommitted
import VpsGuardian.Lib.JsonRoundTrip
import VpsGuardian.Lib.Checks
import VpsGuardian.Controller.Records

/-!
Recovery points, recorded and promoted at the same time (`promote_recovery_point` and
`record_recovery_point` in `guardian/backup.py`).

Every call is a session of the database, which its caller ends with a commit; that the caller
rolls back, that the snapshot of a new point is already taken and that a check constraint is
violated are cases of a session that is aborted.
-/

namespace VpsGuardian.Backup

open Lib Lib.Json Lib.ReadCommitted
open Controller (Time)

/-- A `datetime`, by its wall clock where it has no offset. -/
structure DateTime where
  time : Time
  hasOffset : Bool
  deriving DecidableEq, Repr

/-- A row of `recovery_points`, found under its id. -/
structure RecoveryPoint where
  hostID : String
  serviceName : String
  snapshotID : String
  /-- The manifest in canonical form. -/
  manifest : String
  checksum : String
  verified : Bool
  verifiedAt : Option Time
  verificationVersion : Int
  attestationDigest : Option String
  createdAt : Time
  deriving DecidableEq, Repr

structure RecoveryVerificationAttestation where
  verifier : String
  verificationMethod : String
  targetEnvironment : String
  completedAt : DateTime
  evidenceDigest : String
  schemaVersion : Int
  deriving DecidableEq, Repr

inductive BackupError where
  | invalid (message : String)
  | notFound
  | conflict (attestationDigest : String)
  deriving DecidableEq, Repr

/-! ### Digests -/

def isAlphanumeric (c : Char) : Bool :=
  c.isDigit || ('a' ≤ c && c ≤ 'z') || ('A' ≤ c && c ≤ 'Z')

/-- `_SAFE_NAME` -/
def isSafeName (name : String) : Bool :=
  match name.toList with
  | [] => false
  | c :: rest =>
      isAlphanumeric c && rest.length ≤ 119 &&
        rest.all fun c => isAlphanumeric c || c == '_' || c == '.' || c == '-'

def isHexDigit (c : Char) : Bool := c.isDigit || ('a' ≤ c && c ≤ 'f') || ('A' ≤ c && c ≤ 'F')

def normalizedSha256 (value label : String) : Except BackupError String :=
  if value.toList.length = 64 ∧ value.toList.all isHexDigit then .ok value.toLower
  else .error (.invalid ("invalid " ++ label))

/-- `n` with at least `width` digits. -/
def padded (width : Nat) (n : Nat) : String :=
  let digits := toString n
  String.ofList (List.replicate (width - digits.length) '0') ++ digits

/-- Year, month and day of the given day after 1970-01-01; years are counted from March. -/
def civil (days : Int) : Nat × Nat × Nat :=
  let day := days + 719468
  let era := day / 146097
  let dayOfEra := (day - era * 146097).toNat
  let yearOfEra :=
    (dayOfEra - dayOfEra / 1460 + dayOfEra / 36524 - dayOfEra / 146096) / 365
  let dayOfYear := dayOfEra - (365 * yearOfEra + yearOfEra / 4 - yearOfEra / 100)
  let month := (5 * dayOfYear + 2) / 153
  let year := (yearOfEra + era * 400).toNat
  (if month < 10 then year else year + 1, if month < 10 then month + 3 else month - 9,
    dayOfYear - (153 * month + 2) / 5 + 1)

/-- `isoformat(timespec="microseconds")` of a time in UTC, with `Z` for the offset. -/
def isoformat (time : Time) : String :=
  let (year, month, day) := civil (time / 86400000000)
  let rest := (time % 86400000000).toNat
  let seconds := rest / 1000000
  padded 4 year ++ "-" ++ padded 2 month ++ "-" ++ padded 2 day ++ "T" ++
    padded 2 (seconds / 3600) ++ ":" ++ padded 2 (seconds / 60 % 60) ++ ":" ++
    padded 2 (seconds % 60) ++ "." ++ padded 6 (rest % 1000000) ++ "Z"

def canonicalAttestationTimestamp (value : DateTime) : Except BackupError String :=
  if value.hasOffset then .ok (isoformat value.time)
  else .error (.invalid "verification completion time must include a UTC offset")

/-- The statement that a digest stands for; the members are in order. -/
def statementOf (recoveryPointID snapshotID manifestChecksum evidenceDigest completedAt : String)
    (attestation : RecoveryVerificationAttestation) : Value :=
  .object [
    ("recovery_point", .object [
      ("id", .string recoveryPointID),
      ("manifest_checksum", .string manifestChecksum),
      ("snapshot_id", .string snapshotID.toLower)]),
    ("schema", .string "vps-guardian/recovery-verification-attestation/v1"),
    ("verification", .object [
      ("completed_at", .string completedAt),
      ("evidence_digest", .string evidenceDigest),
      ("method", .string attestation.verificationMethod),
      ("schema_version", .int 1),
      ("target_environment", .string attestation.targetEnvironment),
      ("verifier", .string attestation.verifier)])]

section

-- the hexadecimal digest of SHA-256
variable (sha256 : String → String)

def canonicalDigest (payload : Value) : String :=
  sha256 (.ofList (render pythonEscape payload))

def attestationDigest (recoveryPointID snapshotID checksum : String)
    (attestation : RecoveryVerificationAttestation) : Except BackupError String := do
  raiseIf (!isSafeName recoveryPointID) (.invalid "invalid recovery point ID")
  raiseIf (snapshotID = "" ∨ 128 < snapshotID.length ∨ Char.ofNat 0 ∈ snapshotID.toList)
    (.invalid "invalid recovery snapshot ID")
  let manifestChecksum ← normalizedSha256 checksum "manifest checksum"
  raiseIf (attestation.schemaVersion ≠ 1 ∨ !isSafeName attestation.verifier ∨
      attestation.verificationMethod ≠ "isolated_restore" ∨
      !isSafeName attestation.targetEnvironment)
    (.invalid "invalid recovery verification attestation")
  let evidenceDigest ← normalizedSha256 attestation.evidenceDigest "evidence digest"
  let completedAt ← canonicalAttestationTimestamp attestation.completedAt
  return canonicalDigest sha256
    (statementOf recoveryPointID snapshotID manifestChecksum evidenceDigest completedAt
      attestation)

/-! ### Promotion -/

/-- The arguments of `promote_recovery_point`. -/
structure Promotion where
  recoveryPointID : String
  expectedVersion : Int
  expectedSnapshotID : String
  expectedChecksum : String
  attestation : RecoveryVerificationAttestation
  deriving DecidableEq, Repr

/-- What a promotion compares and stores. -/
structure Claim where
  recoveryPointID : String
  expectedVersion : Int
  snapshotID : String
  checksum : String
  completedAt : Time
  digest : String
  deriving DecidableEq, Repr

def Promotion.claim (call : Promotion) : Except BackupError Claim := do
  raiseIf (call.expectedVersion < 0) (.invalid "invalid recovery point verification version")
  raiseIf (!isSafeName call.recoveryPointID) .notFound
  let snapshotID ← normalizedSha256 call.expectedSnapshotID "snapshot ID"
  let checksum ← normalizedSha256 call.expectedChecksum "manifest checksum"
  let digest ← attestationDigest sha256 call.recoveryPointID snapshotID checksum call.attestation
  return ⟨call.recoveryPointID, call.expectedVersion, snapshotID, checksum,
    call.attestation.completedAt.time, digest⟩

/-- The condition of the `UPDATE`. -/
def Claim.matches (claim : Claim) (id : String) (point : RecoveryPoint) : Bool :=
  id = claim.recoveryPointID && !point.verified &&
    point.verificationVersion = claim.expectedVersion &&
    point.snapshotID.toLower = claim.snapshotID && point.checksum.toLower = claim.checksum

def Claim.promote (claim : Claim) (point : RecoveryPoint) : RecoveryPoint :=
  { point with
    verified := true
    verifiedAt := some claim.completedAt
    verificationVersion := point.verificationVersion + 1
    attestationDigest := some claim.digest }

/-- Whether the point has been promoted with the very attestation. -/
def Claim.isReplay (claim : Claim) (point : RecoveryPoint) : Bool :=
  point.verified && point.snapshotID.toLower = claim.snapshotID &&
    point.checksum.toLower = claim.checksum && point.attestationDigest = some claim.digest

/-! ### Recording -/

structure BackupResult where
  snapshotID : String
  checksum : String
  manifest : String
  verified : Bool
  verificationCompletedAt : Option DateTime
  deriving DecidableEq, Repr

/-- The arguments of `record_recovery_point`, the id that a new point gets and the time. -/
structure Recording where
  hostID : String
  service : String
  result : BackupResult
  newID : String
  now : Time
  deriving DecidableEq, Repr

def Recording.snapshotID (call : Recording) : String := call.result.snapshotID.toLower

def Recording.checksum (call : Recording) : String := call.result.checksum.toLower

/-- A time without an offset is taken to be in UTC. -/
def withOffset (value : DateTime) : DateTime := { value with hasOffset := true }

def Recording.attestation (call : Recording) (completedAt : DateTime) :
    RecoveryVerificationAttestation where
  verifier := "guardian-backup"
  verificationMethod := "isolated_restore"
  targetEnvironment := "backup-staging"
  completedAt := withOffset completedAt
  evidenceDigest := call.checksum
  schemaVersion := 1

def Recording.completedAt (call : Recording) (existing : RecoveryPoint) : DateTime :=
  call.result.verificationCompletedAt.getD ⟨existing.createdAt, true⟩

/-- The promotion of a point that was there. -/
def Recording.promotion (call : Recording) (id : String) (existing : RecoveryPoint) :
    Promotion where
  recoveryPointID := id
  expectedVersion := existing.verificationVersion
  expectedSnapshotID := call.snapshotID
  expectedChecksum := call.checksum
  attestation := call.attestation (call.completedAt existing)

def Recording.verifiedAt (call : Recording) : Option DateTime :=
  if call.result.verified then
    some (withOffset (call.result.verificationCompletedAt.getD ⟨call.now, true⟩))
  else none

def Recording.digest (call : Recording) : Except BackupError (Option String) :=
  match call.verifiedAt with
  | none => .ok none
  | some verifiedAt =>
      (attestationDigest sha256 call.newID call.snapshotID call.checksum
        (call.attestation verifiedAt)).map some

/-- The new point. -/
def Recording.point (call : Recording) : Except BackupError RecoveryPoint := do
  let digest ← call.digest sha256
  return {
    hostID := call.hostID
    serviceName := call.service
    snapshotID := call.snapshotID
    manifest := call.result.manifest
    checksum := call.checksum
    verified := call.result.verified
    verifiedAt := call.verifiedAt.map DateTime.time
    verificationVersion := if call.result.verified then 1 else 0
    attestationDigest := digest
    createdAt := call.now }

/-! ### Calls as sessions -/

inductive Request where
  | promote (call : Promotion)
  | record (call : Recording)
  deriving DecidableEq, Repr

inductive Outcome where
  /-- `promote_recovery_point` returned; `record_recovery_point` passes on its point. -/
  | promotion (claim : Claim) (promoted : Bool)
  /-- `record_recovery_point` returned a point that it has not promoted. -/
  | recorded (id : String)
  | error (error : BackupError)
  | failed
  deriving DecidableEq, Repr

inductive Stage where
  | looking (call : Recording)
  | claiming (claim : Claim)
  /-- With the number of rows that were claimed. -/
  | reloading (claim : Claim) (claimed : Nat)
  | inserting (id : String) (point : RecoveryPoint)
  /-- The call has returned or raised. -/
  | returned (outcome : Outcome)
  | ended (outcome : Outcome)
  deriving DecidableEq, Repr

def Promotion.start (call : Promotion) : Stage :=
  match call.claim sha256 with
  | .ok claim => .claiming claim
  | .error error => .returned (.error error)

def Request.start : Request → Stage
  | .promote call => call.start sha256
  | .record call =>
      if isSafeName call.service then .looking call
      else .returned (.error (.invalid "invalid service name"))

def Recording.conflicts (call : Recording) (id : String) (existing : RecoveryPoint) : Outcome :=
  if existing.checksum.toLower ≠ call.checksum then
    match attestationDigest sha256 id call.snapshotID call.checksum
        (call.attestation (call.completedAt existing)) with
    | .ok digest => .error (.conflict digest)
    | .error error => .error error
  else .error (.invalid "recovery point content conflicts with existing snapshot")

def Recording.create (call : Recording) : Stage :=
  match call.point sha256 with
  | .ok point => .inserting call.newID point
  | .error error => .returned (.error error)

def Recording.found (call : Recording) : List (String × RecoveryPoint) → Stage
  | (id, existing) :: _ =>
      if existing.hostID ≠ call.hostID ∨ existing.serviceName ≠ call.service ∨
          existing.checksum.toLower ≠ call.checksum ∨ existing.manifest ≠ call.result.manifest then
        .returned (call.conflicts sha256 id existing)
      else if existing.verified ∨ !call.result.verified then .returned (.recorded id)
      else (call.promotion id existing).start sha256
  | [] => call.create sha256

def Claim.reloaded (claim : Claim) (claimed : Nat) : List (String × RecoveryPoint) → Outcome
  | [] =>
      if claimed = 1 then .error (.invalid "promoted recovery point disappeared")
      else .error .notFound
  | (_, point) :: _ =>
      if claimed = 1 then .promotion claim true
      else if claim.isReplay point then .promotion claim false
      else .error (.conflict claim.digest)

def statement : Stage → Statement String RecoveryPoint Stage
  | .looking call =>
      .select (fun _ point => point.snapshotID.toLower = call.snapshotID) (call.found sha256)
  | .claiming claim =>
      .alter id claim.matches (fun point => some (claim.promote point)) fun rows =>
        .reloading claim rows.length
  | .reloading claim claimed =>
      .select (fun id _ => id = claim.recoveryPointID) fun rows =>
        .returned (claim.reloaded claimed rows)
  | .inserting id point =>
      .insert id point fun free => .returned (if free then .recorded id else .failed)
  | .returned outcome => .commit (.ended outcome)
  | .ended _ => .done

def code (ι : Type) : Code ι String RecoveryPoint Stage :=
  ⟨fun _ => statement sha256, .ended .failed⟩

end

end VpsGuardian.Backup
