import VpsGuardian.Lib.Action
import VpsGuardian.Recovery.Manifests

/-!
The commands that the Controller gives to restic (`ResticAdapter` of `guardian/backup.py`),
and how it removes old snapshots.

What a command prints is up to the repository, which may change between two commands.
-/

namespace VpsGuardian.Recovery

open Lib PythonJson

/-! ### Commands -/

/-- What becomes of a command: its password file is refused, so that it does not run, it fails, or
it prints something. -/
inductive Answer where
  | refused (failure : Failure)
  | failed (failure : Failure)
  | printed (stdout : String)
  deriving DecidableEq

/-- The answers to come, and the commands that have run, as their arguments, with their answers. -/
structure Backend where
  answers : List Answer
  issued : List (List Text × Answer)
  deriving DecidableEq

abbrev Restic := Action Backend Failure

/-- `_run`: the output of a command. -/
def runRestic (arguments : List Text) : Restic String := fun backend =>
  let answer := backend.answers.headD (.failed (.of "Restic operation failed with exit code 1"))
  let answers := backend.answers.tail
  match answer with
  | .refused failure => (.error failure, ⟨answers, backend.issued⟩)
  | .failed failure => (.error failure, ⟨answers, backend.issued ++ [(arguments, answer)]⟩)
  | .printed stdout => (.ok stdout, ⟨answers, backend.issued ++ [(arguments, answer)]⟩)

/-- `json.loads(result.stdout or "[]")` -/
def loadsOutput (stdout : String) : Option Value :=
  if stdout = "" then some (.list []) else loads stdout.toList

/-- `str` of a value. -/
structure Conversion where
  str : Value → Text
  string : ∀ s, str (.string s) = s
  /-- The texts of all other values begin with a digit, a sign, a bracket, or as `None`, `True`,
  `False`, `nan` and `inf` do. -/
  other : ∀ value, (∀ s, value ≠ .string s) → (str value).head? ≠ some (Text.ofChar 'g')

/-! ### Snapshots -/

structure SnapshotInfo where
  snapshotID : Text
  host : Text
  tags : List Text
  deriving DecidableEq

def snapshotInfo (conversion : Conversion) : Value → Option SnapshotInfo
  | .dict members =>
      match field members "id" with
      | some (.string id) => some {
          snapshotID := id
          host := ((field members "hostname").map conversion.str).getD (Text.ofString "unknown")
          tags := ((asList (field members "tags")).getD []).map conversion.str }
      | _ => none
  | _ => none

def snapshots (conversion : Conversion) : Restic (List SnapshotInfo) := do
  let stdout ← runRestic [Text.ofString "snapshots"]
  let invalid : Failure := .of "Restic returned invalid snapshot metadata"
  let payload ← .ofExcept (orRaise (loadsOutput stdout) invalid)
  let items ← .ofExcept (orRaise (asList (some payload)) invalid)
  return items.filterMap (snapshotInfo conversion)

/-- `[A-Fa-f0-9]{6,64}|latest` -/
def isSnapshotID (id : Text) : Bool := isHex 6 64 id || id == Text.ofString "latest"

/-- `dump` of the manifest. -/
def dump (id : Text) : Restic String := do
  .ofExcept (raiseIf (isSnapshotID id = false) (.of "invalid snapshot ID"))
  runRestic [Text.ofString "dump", id, manifestName.text]

/-! ### The target of a restore -/

def tilde : CodePoint := Text.ofChar '~'

/-- The file system while a target is looked at. -/
structure FileSystem where
  /-- `os.path.expanduser` -/
  expanduser : Text → Text
  /-- `path.is_symlink()`, unless it raises. -/
  isSymlink : PosixPath → Option Bool
  /-- `path.resolve(strict=False)`, unless it raises. -/
  resolve : PosixPath → Option PosixPath
  /-- The path exists, and is no directory or has entries. -/
  occupied : PosixPath → Bool
  /-- A path with a high surrogate has no encoding. -/
  encodable : ∀ path resolved, resolve path = some resolved →
    ∀ c ∈ resolved.text, Text.isHigh c = false

/-- `path.expanduser()` -/
def expandUser (fs : FileSystem) (path : PosixPath) : Except Failure PosixPath :=
  match path.parts with
  | first :: rest =>
      if path.isAbsolute = false ∧ first.head? = some tilde then do
        let home := fs.expanduser first
        raiseIf (home.head? = some tilde) (.other "RuntimeError")
        return ⟨(PosixPath.parse home).root, (PosixPath.parse home).parts ++ rest⟩
      else .ok path
  | [] => .ok path

/-- The paths from the first component of a path on. -/
def ancestors (path : PosixPath) : List PosixPath :=
  path.parts.inits.tail.map fun parts => ⟨path.root, parts⟩

def refuseSymlinks (fs : FileSystem) : List PosixPath → Except Failure Unit
  | [] => .ok ()
  | path :: paths => do
      let isSymlink ← orRaise (fs.isSymlink path) (.other "OSError")
      raiseIf (isSymlink = true)
        (.of "restore target cannot contain symbolic-link path components")
      refuseSymlinks fs paths

def validateRestoreTarget (fs : FileSystem) (target : PosixPath) (dryRun : Bool) :
    Except Failure Unit := do
  let expanded ← expandUser fs target
  raiseIf (expanded.isAbsolute = false) (.of "restore target must be an absolute path")
  refuseSymlinks fs (ancestors expanded)
  let resolved ← orRaise (fs.resolve expanded) (.other "OSError")
  raiseIf (resolved ≠ expanded) (.of "restore target must be a canonical path")
  raiseIf (resolved.parts = []) (.of "restore target cannot be a filesystem root")
  raiseIf (dryRun = false ∧ fs.occupied resolved = true)
    (.of "restore target must be a new or empty directory")

/-- `restore` without `include`. -/
def restore (fs : FileSystem) (id : Text) (target : PosixPath) (dryRun : Bool) : Restic String := do
  .ofExcept (raiseIf (isSnapshotID id = false) (.of "invalid snapshot ID"))
  .ofExcept (validateRestoreTarget fs target dryRun)
  if dryRun then runRestic [Text.ofString "ls", id]
  else runRestic [Text.ofString "restore", id, Text.ofString "--target", target.text]

/-! ### Retention -/

structure RetentionPolicy where
  keepHourly : Nat
  keepDaily : Nat
  keepWeekly : Nat
  keepMonthly : Nat
  bounds : keepHourly ≤ 1000 ∧ keepDaily ≤ 1000 ∧ keepWeekly ≤ 1000 ∧ keepMonthly ≤ 1000
  keeps : ¬(keepHourly = 0 ∧ keepDaily = 0 ∧ keepWeekly = 0 ∧ keepMonthly = 0)

def guardianTag : Text := Text.ofString "guardian"

def hostPrefix : Text := Text.ofString "guardian-host:"

def servicePrefix : Text := Text.ofString "guardian-service:"

def manifestPrefix : Text := Text.ofString "guardian-manifest:"

def requiredTags (host service : Text) : List Text :=
  [guardianTag, hostPrefix ++ host, servicePrefix ++ service]

def numberText (n : Nat) : Text := Text.ofString (toString n)

def retentionArguments (policy : RetentionPolicy) (host service : Text) :
    Except Failure (List Text) := do
  validateName host "host name"
  validateName service "service name"
  return [Text.ofString "forget", Text.ofString "--dry-run",
    Text.ofString "--host", host,
    Text.ofString "--tag", [Text.ofChar ','].intercalate (requiredTags host service),
    Text.ofString "--group-by", Text.ofString "host",
    Text.ofString "--keep-hourly", numberText policy.keepHourly,
    Text.ofString "--keep-daily", numberText policy.keepDaily,
    Text.ofString "--keep-weekly", numberText policy.keepWeekly,
    Text.ofString "--keep-monthly", numberText policy.keepMonthly]

/-- The snapshots of a group that a plan removes. -/
def groupSnapshots (group : Value) : Except Failure (List Value) :=
  let invalid : Failure := .of "Restic returned an invalid retention plan"
  match group with
  | .dict members => do
      let remove ← orRaise (asList (some ((field members "remove").getD (.list [])))) invalid
      let _ ← orRaise (asList (some ((field members "keep").getD (.list [])))) invalid
      return remove
  | _ => .error invalid

/-- The id of a snapshot that a plan removes. -/
def removedID (conversion : Conversion) (host service : Text) (snapshot : Value) :
    Except Failure Text :=
  match snapshot with
  | .dict members =>
      let escaped : Failure := .of "retention plan escaped the Guardian service scope"
      match field members "id", field members "hostname", field members "tags" with
      | some (.string id), some (.string hostname), some (.list tags) => do
          raiseIf (isHex 64 64 id = false ∨ hostname ≠ host ∨
            ∃ tag ∈ requiredTags host service, tag ∉ tags.map conversion.str) escaped
          return lower id
      | _, _, _ => .error escaped
  | _ => .error (.of "Restic returned an invalid retention plan")

def removedIDs (conversion : Conversion) (host service : Text) :
    List Value → Except Failure (List Text)
  | [] => .ok []
  | group :: groups => do
      let snapshots ← groupSnapshots group
      let ids ← snapshots.mapM (removedID conversion host service)
      let rest ← removedIDs conversion host service groups
      return ids ++ rest

/-- What the code takes from Python and its libraries. -/
structure Environment where
  sha256 : ByteArray → Digest
  categories : Categories
  conversion : Conversion

/-- `_canonical_digest` -/
def canonicalDigest (env : Environment) (members : List (String × Value)) : Digest :=
  env.sha256 (encode (dumps .compact 0 (.dict (named members))))

/-- `sorted` -/
def sortTexts (texts : List Text) : List Text := texts.insertionSort (· ≤ ·)

/-- What the digest of a retention plan is computed from. -/
structure RetentionContent where
  host : Text
  service : Text
  policy : RetentionPolicy
  groups : List Value
  removeSnapshotIDs : List Text

def RetentionPolicy.members (policy : RetentionPolicy) : List (String × Value) :=
  [("keep_hourly", .int policy.keepHourly), ("keep_daily", .int policy.keepDaily),
    ("keep_weekly", .int policy.keepWeekly), ("keep_monthly", .int policy.keepMonthly)]

def RetentionContent.members (content : RetentionContent) : List (String × Value) :=
  [("schema_version", .int 1),
    ("host", .string content.host),
    ("service", .string content.service),
    ("policy", .dict (named content.policy.members)),
    ("groups", .list content.groups),
    ("remove_snapshot_ids", textsValue content.removeSnapshotIDs)]

def RetentionContent.digest (env : Environment) (content : RetentionContent) : Digest :=
  canonicalDigest env content.members

section

variable (env : Environment)

def retentionPlan (policy : RetentionPolicy) (host service : Text) : Restic RetentionContent := do
  let arguments ← .ofExcept (retentionArguments policy host service)
  let stdout ← runRestic arguments
  let invalid : Failure := .of "Restic returned an invalid retention plan"
  let payload ← .ofExcept (orRaise (loadsOutput stdout) invalid)
  let groups ← .ofExcept (orRaise (asList (some payload)) invalid)
  let ids ← .ofExcept (removedIDs env.conversion host service groups)
  .ofExcept (raiseIf (¬ids.Nodup) (.of "Restic returned duplicate retention removals"))
  return ⟨host, service, policy, groups, sortTexts ids⟩

/-- A call of `apply_retention`. -/
structure RetentionCall where
  policy : RetentionPolicy
  host : Text
  service : Text
  planDigest : Text
  approvalID : Text
  confirmation : Text

def applyRetention (call : RetentionCall) : Restic RetentionContent := do
  .ofExcept (raiseIf (isSafeName call.approvalID = false)
    (.of "retention deletion requires a valid approval ID"))
  .ofExcept (raiseIf (isHex 64 64 call.planDigest = false)
    (.of "retention deletion requires an exact plan digest"))
  let plan ← retentionPlan env call.policy call.host call.service
  let digest := (plan.digest env).text
  .ofExcept (raiseIf (digest ≠ lower call.planDigest ∨
      call.confirmation ≠ Text.ofString "APPLY RETENTION " ++ digest)
    (.of "retention deletion requires approval of the current dry-run plan"))
  if plan.removeSnapshotIDs ≠ [] then
    let _ ← runRestic (Text.ofString "forget" :: plan.removeSnapshotIDs)
  return plan

end

end VpsGuardian.Recovery
