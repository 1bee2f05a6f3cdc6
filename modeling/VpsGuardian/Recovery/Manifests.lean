import VpsGuardian.Lib.Checks
import VpsGuardian.Lib.FileTree
import VpsGuardian.Lib.PythonJsonRoundTrip

/-!
Recovery manifests: staging, writing and checking them (`guardian/backup.py`).

A manifest lists the regular files below a directory with their sizes and
digests. The staging directory is new, and nothing outside changes what is in it.
-/

namespace VpsGuardian.Recovery

open Lib PythonJson

/-- What a call raises: a `BackupError`, or an exception of the standard library. -/
inductive Failure where
  | backup (message : Text)
  | other (exception : String)
  deriving DecidableEq, Repr

def Failure.of (message : String) : Failure := .backup (Text.ofString message)

/-! ### Texts -/

def isDigit (c : CodePoint) : Bool := 48 ≤ c.val && c.val ≤ 57

def isAlphanumeric (c : CodePoint) : Bool :=
  isDigit c || (65 ≤ c.val && c.val ≤ 90) || (97 ≤ c.val && c.val ≤ 122)

def isHexDigit (c : CodePoint) : Bool :=
  isDigit c || (65 ≤ c.val && c.val ≤ 70) || (97 ≤ c.val && c.val ≤ 102)

def isLowerHexDigit (c : CodePoint) : Bool := isDigit c || (97 ≤ c.val && c.val ≤ 102)

/-- `[A-Fa-f0-9]{least,most}` -/
def isHex (least most : Nat) (s : Text) : Bool :=
  least ≤ s.length && s.length ≤ most && s.all isHexDigit

/-- `_SAFE_NAME` -/
def isSafeName : Text → Bool
  | [] => false
  | c :: rest =>
      isAlphanumeric c && rest.length ≤ 119 &&
        rest.all fun c => isAlphanumeric c || (Text.ofString "_.-").contains c

def lowerCodePoint (c : CodePoint) : CodePoint :=
  if 65 ≤ c.val ∧ c.val ≤ 90 then Fin.ofNat 0x110000 (c.val + 32) else c

/-- `lower()` of an ASCII text. -/
def lower (s : Text) : Text := s.map lowerCodePoint

/-- What `hexdigest()` returns. -/
structure Digest where
  text : Text
  valid : (text.length == 64 && text.all isLowerHexDigit) = true
  deriving DecidableEq

/-- The code points whose category begins with `C`, as `unicodedata` has them. -/
structure Categories where
  isOther : CodePoint → Bool
  surrogate : ∀ c : CodePoint, 0xD800 ≤ c.val → c.val ≤ 0xDFFF → isOther c = true

def validateName (value : Text) (label : String) : Except Failure Unit :=
  raiseIf (isSafeName value = false) (.of ("invalid " ++ label))

/-- `sorted(set(texts))` -/
def sortedSet (texts : List Text) : List Text := texts.dedup.insertionSort (· ≤ ·)

/-! ### Dictionaries -/

def field (members : List (Text × Value)) (name : String) : Option Value :=
  members.lookup (Text.ofString name)

def asText : Option Value → Option Text
  | some (.string s) => some s
  | _ => none

def asList : Option Value → Option (List Value)
  | some (.list items) => some items
  | _ => none

/-- Whether a number is closer to 1 than to any other double. -/
def roundsToOne (n : Json.Number) : Bool :=
  let x : ℚ := (if n.negative then -1 else 1) * n.digits * (10 : ℚ) ^ n.exponent
  decide (1 - 1 / 2 ^ 54 ≤ x) && decide (x ≤ 1 + 1 / 2 ^ 53)

/-- `value == 1` -/
def equalsOne : Option Value → Bool
  | some (.int i) => i == 1
  | some (.bool b) => b
  | some (.float n) => roundsToOne n
  | _ => false

/-! ### Recovery metadata -/

def allowedKeys : List String :=
  ["source_commit", "alembic_revisions", "configuration_references",
    "public_certificate_references", "external_secret_references", "contains_secret_values"]

/-- `(?!0{40})[A-Fa-f0-9]{40}` -/
def isCommit (s : Text) : Bool := isHex 40 40 s && s.any (· != Text.ofChar '0')

/-- The value is absent or `False`. -/
def isFalse : Option Value → Bool
  | none | some (.bool false) => true
  | _ => false

section

variable (categories : Categories)

def isReference (s : Text) : Bool := s != [] && s.length ≤ 512 && !s.any categories.isOther

def validateReferences (label : String) : List Value → Except Failure (List Text)
  | [] => .ok []
  | .string s :: values => do
      raiseIf (isReference categories s = false) (.of ("invalid recovery metadata " ++ label))
      let texts ← validateReferences label values
      return s :: texts
  | _ :: _ => .error (.of ("invalid recovery metadata " ++ label))

/-- What the metadata of a manifest consist of. -/
structure Metadata where
  sourceCommit : Text
  alembicRevisions : List Text
  configurationReferences : List Text
  publicCertificateReferences : List Text
  externalSecretReferences : List Text
  deriving DecidableEq, Repr

def textsValue (texts : List Text) : Value := .list (texts.map .string)

def Metadata.members (metadata : Metadata) : List (Text × Value) :=
  [(Text.ofString "source_commit", .string metadata.sourceCommit),
    (Text.ofString "alembic_revisions", textsValue metadata.alembicRevisions),
    (Text.ofString "configuration_references", textsValue metadata.configurationReferences),
    (Text.ofString "public_certificate_references",
      textsValue metadata.publicCertificateReferences),
    (Text.ofString "external_secret_references", textsValue metadata.externalSecretReferences),
    (Text.ofString "contains_secret_values", .bool false)]

def validateRecoveryMetadata (metadata : List (Text × Value)) : Except Failure Metadata := do
  let invalid : Failure := .of "invalid recovery metadata"
  raiseIf ((metadata.any fun member => !(allowedKeys.map Text.ofString).contains member.1) = true ∨
    isFalse (field metadata "contains_secret_values") = false) invalid
  let commit ← orRaise (asText (field metadata "source_commit")) invalid
  raiseIf (isCommit commit = false) invalid
  let alembic ← orRaise (asList (field metadata "alembic_revisions")) invalid
  raiseIf (alembic.isEmpty = true) invalid
  let configuration ← orRaise (asList (field metadata "configuration_references")) invalid
  let certificates ← orRaise (asList (field metadata "public_certificate_references")) invalid
  let secrets ← orRaise (asList (field metadata "external_secret_references")) invalid
  raiseIf (secrets.isEmpty = true) invalid
  let alembic ← validateReferences categories "Alembic revision" alembic
  let configuration ← validateReferences categories "configuration reference" configuration
  let certificates ← validateReferences categories "public certificate reference" certificates
  let secrets ← validateReferences categories "external secret reference" secrets
  return ⟨lower commit, sortedSet alembic, sortedSet configuration, sortedSet certificates,
    sortedSet secrets⟩

end

/-! ### Staging -/

/-- A source path: whether it is a symbolic link, and the name and the node of what it resolves
to, which is no link. The root of the file system has no name. -/
structure Source where
  isSymlink : Bool
  resolved : Option (Option FileName × Node)
  distinct : (resolved.all fun found => found.2.distinct) = true

/-- `copytree` or `copy2` -/
def copySource : Node → Except Failure Node
  | .directory entries => do
      raiseIf ((belowEntries entries).any (fun entry => entry.2.isLink) = true)
        (.of "symbolic links inside backup sources are not allowed")
      raiseIf ((belowEntries entries).all (fun entry => entry.2.isPlain) = false)
        (.other "shutil.Error")
      return .directory entries
  | .file content => .ok (.file content)
  | .link _ | .special => .error (.of "unsupported backup source")

def stageFrom (seen : List (Option FileName)) :
    List Source → Except Failure (List (FileName × Node))
  | [] => .ok []
  | source :: sources => do
      let found ← orRaise source.resolved (.other "FileNotFoundError")
      raiseIf (source.isSymlink = true) (.of "symbolic-link backup sources are not allowed")
      raiseIf (found.1 ∈ seen) (.of "backup source names must be unique")
      let copied ← copySource found.2
      -- without a name the copy goes to the destination itself, which exists
      let name ← orRaise found.1 (.other "FileExistsError")
      let staged ← stageFrom (some name :: seen) sources
      return (name, copied) :: staged

/-- The entries of the destination. -/
def stageSources (sources : List Source) : Except Failure (List (FileName × Node)) :=
  stageFrom [] sources

/-- A directory with nothing but the way to a destination. -/
def stagingRoot (destination : List FileName) (staged : List (FileName × Node)) :
    List (FileName × Node) :=
  match destination with
  | [] => staged
  | name :: destination => [(name, .directory (stagingRoot destination staged))]

/-! ### Writing -/

theorem isFileName_manifest : isFileName (Text.ofString "manifest.json") = true := by decide

theorem isFileName_temporary : isFileName (Text.ofString "manifest.json.tmp") = true := by decide

def manifestName : FileName := ⟨Text.ofString "manifest.json", isFileName_manifest⟩

def temporaryName : FileName := ⟨Text.ofString "manifest.json.tmp", isFileName_temporary⟩

structure Artifact where
  path : Text
  size : Nat
  sha256 : Text
  deriving DecidableEq, Repr

def Artifact.toValue (artifact : Artifact) : Value :=
  .dict [(Text.ofString "path", .string artifact.path),
    (Text.ofString "size", .int artifact.size),
    (Text.ofString "sha256", .string artifact.sha256)]

def manifestMembers (host service createdAt : Text) (artifacts : List Artifact)
    (metadata : Option Metadata) : List (Text × Value) :=
  [(Text.ofString "schema_version", .int 1),
    (Text.ofString "host", .string host),
    (Text.ofString "service", .string service),
    (Text.ofString "created_at", .string createdAt),
    (Text.ofString "backup_engine", .string (Text.ofString "restic")),
    (Text.ofString "artifacts", .list (artifacts.map Artifact.toValue))] ++
  metadata.toList.map fun m => (Text.ofString "recovery_metadata", .dict m.members)

section

variable (sha256 : ByteArray → Digest) (categories : Categories)

def artifactOf (file : List FileName × ByteArray) : Artifact :=
  ⟨pathText file.1, file.2.size, (sha256 file.2).text⟩

def collectArtifacts : List (List FileName × Node) → Except Failure (List Artifact)
  | [] => .ok []
  | (path, node) :: entries =>
      if path.getLast? = some manifestName ∨ node.isDir = true then collectArtifacts entries
      else do
        let content ← orRaise node.content? (.of "backup staging contains an unsafe file type")
        let artifacts ← collectArtifacts entries
        return artifactOf sha256 (path, content) :: artifacts

/-- `sorted(paths)`, which compares them part by part. -/
def sortPaths (entries : List (List FileName × Node)) : List (List FileName × Node) :=
  entries.insertionSort fun a b => a.1.map FileName.text ≤ b.1.map FileName.text

def buildManifest (entries : List (FileName × Node)) (host service : Text)
    (recoveryMetadata : Option (List (Text × Value))) (createdAt : Text) :
    Except Failure (List (Text × Value)) := do
  validateName host "host name"
  validateName service "service name"
  let artifacts ← collectArtifacts sha256 (sortPaths (belowEntries entries))
  raiseIf (artifacts = []) (.of "backup contains no artifacts")
  match recoveryMetadata with
  | none => return manifestMembers host service createdAt artifacts none
  | some members => do
      let metadata ← validateRecoveryMetadata categories members
      return manifestMembers host service createdAt artifacts (some metadata)

/-- The text of a manifest file. -/
def manifestPayload (manifest : List (Text × Value)) : List Char :=
  dumps .compact 0 (.dict manifest) ++ ['\n']

def encode (text : List Char) : ByteArray := (String.ofList text).toUTF8

/-- Writes the temporary file and moves it over the manifest. Below a directory that
`build_manifest` accepts the temporary name is no link to a file and no special file. -/
def writeManifest (entries : List (FileName × Node)) (manifest : List (Text × Value)) :
    Except Failure (Text × List (FileName × Node)) := do
  let payload := encode (manifestPayload manifest)
  raiseIf (((entries.lookup temporaryName).all fun node => node.content?.isSome) = false)
    (.other "IsADirectoryError")
  raiseIf (((entries.lookup manifestName).any fun node => !node.isLink && node.isDir) = true)
    (.other "IsADirectoryError")
  let others := entries.filter fun entry => entry.1 ≠ temporaryName ∧ entry.1 ≠ manifestName
  return ((sha256 payload).text, others ++ [(manifestName, .file payload)])

/-! ### Reading -/

def backslash : CodePoint := Text.ofChar '\\'

def parseArtifact (seen : List Text) (artifact : Value) : Except Failure (Text × Int × Text) :=
  match artifact with
  | .dict members =>
      match field members "path", field members "size", field members "sha256" with
      | some (.string relative), some (.int size), some (.string checksum) => do
          raiseIf (relative = [] ∨ backslash ∈ relative ∨ size < 0 ∨ isHex 64 64 checksum = false)
            (.of "invalid recovery manifest artifact")
          let path := PosixPath.parse relative
          raiseIf (path.isAbsolute = true ∨ path.text ≠ relative ∨ ∃ part ∈ path.components,
              part ∈ [[], [PosixPath.dot], [PosixPath.dot, PosixPath.dot]])
            (.of "recovery manifest path traversal detected")
          raiseIf (relative = manifestName.text ∨ relative ∈ seen)
            (.of "recovery manifest contains duplicate or reserved paths")
          return (relative, size, lower checksum)
      | _, _, _ => .error (.of "invalid recovery manifest artifact")
  | _ => .error (.of "invalid recovery manifest artifact")

def parseArtifacts (normalized : List (Text × Int × Text)) :
    List Value → Except Failure (List (Text × Int × Text))
  | [] => .ok normalized
  | artifact :: artifacts => do
      let entry ← parseArtifact (normalized.map Prod.fst) artifact
      parseArtifacts (normalized ++ [entry]) artifacts

/-- The manifest with its metadata checked once more. -/
def withMetadata (manifest : List (Text × Value)) : Except Failure (List (Text × Value)) :=
  match field manifest "recovery_metadata" with
  | none | some .null => .ok manifest
  | some (.dict members) => do
      let metadata ← validateRecoveryMetadata categories members
      return set manifest (Text.ofString "recovery_metadata") (.dict metadata.members)
  | some _ => .error (.of "invalid recovery metadata")

def parseManifestPayload (payload : Value) (expectedHost expectedService : Option Text) :
    Except Failure (List (Text × Value) × List (Text × Int × Text)) :=
  match payload with
  | .dict members => do
      raiseIf (equalsOne (field members "schema_version") = false)
        (.of "unsupported recovery manifest")
      let host ← orRaise (asText (field members "host")) (.of "invalid recovery manifest scope")
      let service ← orRaise (asText (field members "service"))
        (.of "invalid recovery manifest scope")
      validateName host "recovery manifest host"
      validateName service "recovery manifest service"
      raiseIf (expectedHost.any (· != host) = true)
        (.of "recovery manifest host does not match the snapshot scope")
      raiseIf (expectedService.any (· != service) = true)
        (.of "recovery manifest service does not match the snapshot scope")
      let artifacts ← orRaise (asList (field members "artifacts"))
        (.of "recovery manifest contains no artifacts")
      raiseIf (artifacts.isEmpty = true) (.of "recovery manifest contains no artifacts")
      let normalized ← parseArtifacts [] artifacts
      let manifest ← withMetadata categories members
      return (manifest, normalized)
  | _ => .error (.of "unsupported recovery manifest")

/-! ### Verification -/

/-- A restored directory: whether its path is a symbolic link, and what it resolves to. -/
structure Root where
  isSymlink : Bool
  resolved : Option Node

/-- The regular files with their relative paths. Every entry below the root is looked at once and
must be a regular file or a directory. -/
def restoredRegularFiles (entries : List (FileName × Node)) :
    Except Failure (List (Text × ByteArray)) := do
  raiseIf ((belowEntries entries).all (fun entry => entry.2.isPlain) = false)
    (.of "restored snapshot contains an unsafe file type")
  return (filesBelow entries).map fun file => (pathText file.1, file.2)

/-- Universal newlines, as a file in text mode is read. -/
def universalNewlines : List Char → List Char
  | [] => []
  | '\r' :: '\n' :: rest => '\n' :: universalNewlines rest
  | '\r' :: rest => '\n' :: universalNewlines rest
  | c :: rest => c :: universalNewlines rest

def readText (content : ByteArray) : Option (List Char) :=
  (String.fromUTF8? content).map fun s => universalNewlines s.toList

def verifyArtifacts (files : List (Text × ByteArray)) :
    List (Text × Int × Text) → Except Failure Unit
  | [] => .ok ()
  | (relative, size, checksum) :: artifacts => do
      let content ← orRaise (files.lookup relative) (.other "KeyError")
      raiseIf ((content.size : Int) ≠ size ∨ (sha256 content).text ≠ checksum)
        (.backup (Text.ofString "artifact verification failed: " ++ relative))
      verifyArtifacts files artifacts

/-- Two lists are equal as sets. -/
def sameSet (a b : List Text) : Bool := a.all b.contains && b.all a.contains

def Root.entries (root : Root) : Except Failure (List (FileName × Node)) :=
  match root.resolved with
  | some (.directory entries) =>
      if root.isSymlink then .error (.of "restored snapshot directory is missing or unsafe")
      else .ok entries
  | _ => .error (.of "restored snapshot directory is missing or unsafe")

def loadAndVerifyManifest (root : Root)
    (expectedChecksum expectedHost expectedService : Option Text) :
    Except Failure (List (Text × Value)) := do
  raiseIf (expectedChecksum.any (fun checksum => !isHex 64 64 checksum) = true)
    (.of "invalid expected manifest checksum")
  let entries ← root.entries
  let files ← restoredRegularFiles entries
  let manifestPaths := (files.map Prod.fst).filter fun path =>
    (PosixPath.parse path).name == manifestName.text
  raiseIf (manifestPaths ≠ [manifestName.text])
    (.of "restored snapshot must contain exactly one root manifest")
  let content ← orRaise (files.lookup manifestName.text) (.other "KeyError")
  raiseIf (expectedChecksum.any (fun checksum => (sha256 content).text != lower checksum) = true)
    (.of "manifest checksum mismatch")
  let text ← orRaise (readText content) (.other "UnicodeDecodeError")
  let payload ← orRaise (loads text) (.of "invalid recovery manifest")
  let (manifest, artifacts) ← parseManifestPayload categories payload expectedHost expectedService
  raiseIf (sameSet (files.map Prod.fst) (manifestName.text :: artifacts.map Prod.fst) = false)
    (.of "restored snapshot file set does not match the manifest")
  verifyArtifacts sha256 files artifacts
  return manifest

end

end VpsGuardian.Recovery
