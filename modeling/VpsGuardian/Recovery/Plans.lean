import VpsGuardian.Recovery.Restic

/-!
Planning and executing the recovery of a snapshot (`RecoveryPlanner` of `guardian/backup.py`).

The file system does not change while a call looks at the target. What the target holds after
restic has written to it is up to restic.
-/

namespace VpsGuardian.Recovery

open Lib PythonJson

/-! ### Texts -/

def upperCodePoint (c : CodePoint) : CodePoint :=
  if 97 ≤ c.val ∧ c.val ≤ 122 then Fin.ofNat 0x110000 (c.val - 32) else c

/-- `upper()` of an ASCII text. -/
def upper (s : Text) : Text := s.map upperCodePoint

/-- What follows a prefix in the tags that have it. -/
def tagged (start : Text) (tags : List Text) : List Text :=
  (tags.filter start.isPrefixOf).map fun tag => tag.drop start.length

/-- The item of a list that has no other. -/
def onlyOne {α : Type} : List α → Option α
  | [item] => some item
  | _ => none

/-! ### Scopes -/

def scopes : List Text :=
  [Text.ofString "service", Text.ofString "controller", Text.ofString "host"]

/-- The scopes that need the metadata of a manifest. -/
def metadataScopes : List Text := [Text.ofString "controller", Text.ofString "host"]

/-! ### Impact -/

/-- `int.__add__` over the sizes -/
def totalBytes (artifacts : List (Text × Int × Text)) : Int := (artifacts.map fun a => a.2.1).sum

structure RecoveryImpact where
  snapshotID : Text
  host : Text
  service : Text
  manifestChecksum : Text
  artifactCount : Nat
  totalBytes : Int
  paths : List Text
  recoveryMetadata : Option (List (Text × Value))

structure RecoveryPlan where
  snapshotID : Text
  manifestChecksum : Text
  host : Text
  service : Text
  scope : Text
  target : Text
  artifactCount : Nat
  totalBytes : Int
  paths : List Text
  deriving DecidableEq

/-- What the digest of a plan is computed from. -/
def RecoveryPlan.members (plan : RecoveryPlan) : List (String × Value) :=
  [("schema_version", .int 1),
    ("snapshot_id", .string plan.snapshotID),
    ("manifest_checksum", .string plan.manifestChecksum),
    ("host", .string plan.host),
    ("service", .string plan.service),
    ("scope", .string plan.scope),
    ("target", .string plan.target),
    ("artifact_count", .int plan.artifactCount),
    ("total_bytes", .int plan.totalBytes),
    ("paths", textsValue plan.paths)]

def RecoveryPlan.digest (env : Environment) (plan : RecoveryPlan) : Digest :=
  canonicalDigest env plan.members

def RecoveryPlan.confirmation (env : Environment) (plan : RecoveryPlan) : Text :=
  Text.ofString "RESTORE " ++ upper plan.scope ++ Text.ofString " " ++ plan.service ++
    Text.ofString " " ++ (plan.digest env).text

/-- A snapshot that can be recovered, with its manifest. -/
structure SnapshotManifest where
  snapshot : SnapshotInfo
  manifest : List (Text × Value)
  artifacts : List (Text × Int × Text)
  checksum : Digest

section

variable (env : Environment)

def listRecoveryPoints : Restic (List SnapshotInfo) := do
  let found ← snapshots env.conversion
  return found.filter fun snapshot => snapshot.tags.contains guardianTag

/-- What the tags of a snapshot say. -/
structure SnapshotScope where
  host : Text
  service : Text
  checksum : Text
  deriving DecidableEq

def snapshotScope (snapshot : SnapshotInfo) : Except Failure SnapshotScope :=
  let unscoped : Failure := .of "snapshot is not a scoped Guardian recovery point"
  match tagged hostPrefix snapshot.tags, tagged servicePrefix snapshot.tags,
    tagged manifestPrefix snapshot.tags with
  | [host], [service], [checksum] => do
      raiseIf (guardianTag ∉ snapshot.tags ∨ snapshot.host ≠ host ∨
        isHex 64 64 checksum = false) unscoped
      validateName host "snapshot host"
      validateName service "snapshot service"
      return ⟨host, service, checksum⟩
  | _, _, _ => .error unscoped

def snapshotManifest (snapshotID : Text) : Restic SnapshotManifest := do
  .ofExcept (raiseIf (isHex 6 64 snapshotID = false)
    (.of "recovery planning requires a unique snapshot ID"))
  let found ← snapshots env.conversion
  -- a text with other letters than ASCII has no more hexadecimal digits in lower case
  let snapshot ← .ofExcept (orRaise
    (onlyOne (found.filter fun snapshot =>
      (lower snapshotID).isPrefixOf (lower snapshot.snapshotID)))
    (.of "recovery snapshot ID is missing or ambiguous"))
  .ofExcept (raiseIf (isHex 64 64 snapshot.snapshotID = false)
    (.of "Restic returned a non-canonical snapshot ID"))
  let scope ← .ofExcept (snapshotScope snapshot)
  let stdout ← dump snapshot.snapshotID
  let digest := env.sha256 stdout.toUTF8
  .ofExcept (raiseIf (digest.text ≠ lower scope.checksum)
    (.of "snapshot manifest tag does not match its contents"))
  let payload ← .ofExcept (orRaise (loads stdout.toList)
    (.of "snapshot contains an invalid manifest"))
  let parsed ← .ofExcept
    (parseManifestPayload env.categories payload (some scope.host) (some scope.service))
  return ⟨snapshot, parsed.1, parsed.2, digest⟩

def impact (snapshotID : Text) : Restic RecoveryImpact := do
  let found ← snapshotManifest env snapshotID
  let host ← .ofExcept (orRaise (field found.manifest "host") (.other "KeyError"))
  let service ← .ofExcept (orRaise (field found.manifest "service") (.other "KeyError"))
  return {
    snapshotID := lower found.snapshot.snapshotID
    host := env.conversion.str host
    service := env.conversion.str service
    manifestChecksum := found.checksum.text
    artifactCount := found.artifacts.length
    totalBytes := totalBytes found.artifacts
    paths := sortTexts (found.artifacts.map Prod.fst)
    recoveryMetadata := match field found.manifest "recovery_metadata" with
      | some (.dict metadata) => some metadata
      | _ => none }

/-! ### Plans -/

variable (fs : FileSystem)

def plan (snapshotID : Text) (target : PosixPath) (scope : Text) : Restic RecoveryPlan := do
  .ofExcept (raiseIf (scope ∉ scopes) (.of "invalid recovery scope"))
  .ofExcept (validateRestoreTarget fs target true)
  let impact ← impact env snapshotID
  .ofExcept (raiseIf (scope ∈ metadataScopes ∧ impact.recoveryMetadata = none)
    (.of "controller and host recovery require complete recovery metadata"))
  let expanded ← .ofExcept (expandUser fs target)
  let resolved ← .ofExcept (orRaise (fs.resolve expanded) (.other "OSError"))
  return {
    snapshotID := impact.snapshotID
    manifestChecksum := impact.manifestChecksum
    host := impact.host
    service := impact.service
    scope := scope
    target := resolved.text
    artifactCount := impact.artifactCount
    totalBytes := impact.totalBytes
    paths := impact.paths }

/-- A call of `restore`. -/
structure RestoreCall where
  snapshotID : Text
  target : PosixPath
  execute : Bool
  approvalID : Option Text
  planDigest : Option Text
  confirmation : Option Text
  scope : Text

/-- What an execution checks of a call against the plan of the moment. -/
def approve (call : RestoreCall) (plan : RecoveryPlan) : Except Failure Unit := do
  raiseIf (isHex 64 64 call.snapshotID = false)
    (.of "executed recovery requires the full snapshot ID")
  raiseIf (call.approvalID.all (fun id => !isSafeName id) = true)
    (.of "executed recovery requires a valid approval ID")
  raiseIf (call.planDigest.all (fun digest =>
      !isHex 64 64 digest || (plan.digest env).text != lower digest) = true ∨
      call.confirmation ≠ some (plan.confirmation env))
    (.of "execution requires approval of the current snapshot, manifest, scope, and target")

/-- `restore`, with what the target is after restic has written to it. -/
def recover (restored : Root) (call : RestoreCall) : Restic String := do
  let plan ← plan env fs call.snapshotID call.target call.scope
  if call.execute then do
    .ofExcept (approve env call plan)
    let result ← restore fs plan.snapshotID call.target false
    let _ ← .ofExcept (loadAndVerifyManifest env.sha256 env.categories restored
      (some plan.manifestChecksum) (some plan.host) (some plan.service))
    return result
  else restore fs plan.snapshotID call.target true

end

end VpsGuardian.Recovery
