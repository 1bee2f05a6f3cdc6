import VpsGuardian.Lib.Checks
import VpsGuardian.Lib.PythonJsonRoundTrip
import VpsGuardian.Lifecycle.Timestamps

/-!
The journal of a lifecycle transaction: `scripts/lifecycle-journal.py`.

A document is a dictionary with thirteen fields. Every function takes an
arbitrary value and validates it first, so a document that one of them returns
has passed `validate_document`. The file stands for the journal's path: nobody
else writes it, and a write that fails part of the way leaves it as it was, up to
the last step, the sync of the directory.
-/

namespace VpsGuardian.Lifecycle

open Lib PythonJson

def maxJournalBytes : Nat := 64 * 1024

/-! ### Names -/

inductive Operation where
  | install
  | upgrade
  | rollback
  | stagingDeploy
  | stagingRollback
  deriving DecidableEq, Repr

namespace Operation

def name : Operation → String
  | install => "install"
  | upgrade => "upgrade"
  | rollback => "rollback"
  | stagingDeploy => "staging-deploy"
  | stagingRollback => "staging-rollback"

def all : List Operation := [install, upgrade, rollback, stagingDeploy, stagingRollback]

end Operation

inductive Phase where
  | initialized
  | prepared
  | quiesced
  | databaseUpdated
  | unitsUpdated
  | candidateActivated
  | verified
  | recoveryRequired
  | recoveryStarted
  | committed
  | previousRestored
  | aborted
  deriving DecidableEq, Repr

namespace Phase

def name : Phase → String
  | initialized => "initialized"
  | prepared => "prepared"
  | quiesced => "quiesced"
  | databaseUpdated => "database_updated"
  | unitsUpdated => "units_updated"
  | candidateActivated => "candidate_activated"
  | verified => "verified"
  | recoveryRequired => "recovery_required"
  | recoveryStarted => "recovery_started"
  | committed => "committed"
  | previousRestored => "previous_restored"
  | aborted => "aborted"

def all : List Phase :=
  [initialized, prepared, quiesced, databaseUpdated, unitsUpdated, candidateActivated, verified,
    recoveryRequired, recoveryStarted, committed, previousRestored, aborted]

/-- `PHASE_TRANSITIONS` -/
def transitions : Phase → List Phase
  | initialized => [prepared, recoveryRequired, aborted]
  | prepared => [quiesced, databaseUpdated, unitsUpdated, recoveryRequired, aborted]
  | quiesced => [databaseUpdated, unitsUpdated, candidateActivated, recoveryRequired]
  | databaseUpdated => [unitsUpdated, candidateActivated, recoveryRequired]
  | unitsUpdated => [candidateActivated, recoveryRequired]
  | candidateActivated => [verified, recoveryRequired]
  | verified => [committed, recoveryRequired]
  | recoveryRequired => [recoveryStarted]
  | recoveryStarted => [previousRestored, aborted]
  | committed => []
  | previousRestored => []
  | aborted => []

end Phase

/-- `TIMER_STATES` and `CONTROLLER_STATES` -/
inductive UnitState where
  | active
  | inactive
  | failed
  | unknown
  deriving DecidableEq, Repr

namespace UnitState

def name : UnitState → String
  | active => "active"
  | inactive => "inactive"
  | failed => "failed"
  | unknown => "unknown"

def all : List UnitState := [active, inactive, failed, unknown]

end UnitState

/-- The member of an enumeration with the given name. -/
def named {α : Type} (name : α → String) (all : List α) (text : Text) : Option α :=
  all.find? fun a => Text.ofString (name a) = text

def documentFields : List String :=
  ["schema_version", "operation", "phase", "previous_release", "candidate_release",
    "db_revision_before", "db_revision_after", "unit_metadata_refs", "image_metadata_refs",
    "timer_state", "controller_state", "created_at", "updated_at"]

def mutableFields : List String :=
  ["db_revision_after", "unit_metadata_refs", "image_metadata_refs", "timer_state",
    "controller_state"]

/-! ### Values -/

structure JournalError where
  message : Text
  deriving DecidableEq, Repr

def JournalError.of (message : String) : JournalError := ⟨Text.ofString message⟩

def slash : CodePoint := Text.ofChar '/'

def dot : CodePoint := Text.ofChar '.'

def isControl (c : CodePoint) : Bool := c.val < 32 || c.val == 127

/-- One round of `posixpath.normpath` over the components of a path. -/
def normalize (absolute : Bool) (components : List Text) (component : Text) : List Text :=
  if component = [] ∨ component = [dot] then components
  else if component ≠ [dot, dot] ∨ (absolute = false ∧ components = []) ∨
      components.getLast? = some [dot, dot] then components ++ [component]
  else components.dropLast

/-- `posixpath.normpath` -/
def normpath (path : Text) : Text :=
  let slashes :=
    if path.take 2 = [slash, slash] ∧ path.take 3 ≠ [slash, slash, slash] then 2
    else if path.head? = some slash then 1
    else 0
  let components := (path.splitOn slash).foldl (normalize (slashes != 0)) []
  let normal := List.replicate slashes slash ++ [slash].intercalate components
  if normal = [] then [dot] else normal

def validatePosixPath (value : Value) (label : String) (nullable : Bool) :
    Except JournalError (Option Text) :=
  match value with
  | .null =>
      if nullable then .ok none
      else .error (.of (label ++ " must be an absolute canonical path"))
  | .string path => do
      raiseIf (path = [] ∨ path = [slash])
        (.of (label ++ " must be an absolute canonical path"))
      raiseIf (path.any isControl = true) (.of (label ++ " contains a control character"))
      raiseIf (path.head? ≠ some slash ∨ path.take 2 = [slash, slash] ∨ normpath path ≠ path)
        (.of (label ++ " must be an absolute canonical path without traversal"))
      raiseIf (∃ component ∈ (path.splitOn slash).tail,
          component = [] ∨ component = [dot] ∨ component = [dot, dot])
        (.of (label ++ " must be an absolute canonical path without traversal"))
      return some path
  | _ => .error (.of (label ++ " must be an absolute canonical path"))

def isAlphanumeric (c : CodePoint) : Bool :=
  (48 ≤ c.val && c.val ≤ 57) || (65 ≤ c.val && c.val ≤ 90) || (97 ≤ c.val && c.val ≤ 122)

/-- `REVISION_PATTERN` -/
def isRevision : Text → Bool
  | [] => false
  | c :: rest =>
      isAlphanumeric c && rest.length ≤ 127 &&
        rest.all fun c => isAlphanumeric c || (Text.ofString "_.+:-").contains c

def validateRevision (value : Value) (label : String) : Except JournalError (Option Text) :=
  match value with
  | .null => .ok none
  | .string revision =>
      if isRevision revision then .ok (some revision)
      else .error (.of (label ++ " is invalid"))
  | _ => .error (.of (label ++ " is invalid"))

/-- The references of a list, in order. None of them is null. -/
def validateReferences (label : String) : List Value → Except JournalError (List Text)
  | [] => .ok []
  | item :: items => do
      let found ← validatePosixPath item label false
      let reference ← orRaise found
        (.of "required metadata reference unexpectedly validated as null")
      let references ← validateReferences label items
      return reference :: references

def validateReferenceList (value : Value) (label : String) : Except JournalError (List Text) :=
  match value with
  | .list items => do
      let references ← validateReferences label items
      raiseIf (¬references.Nodup) (.of (label ++ " cannot contain duplicate paths"))
      return references
  | _ => .error (.of (label ++ " must be a JSON array"))

def parseTimestamp (value : Value) (label : String) : Except JournalError DateTime :=
  match value with
  | .string text =>
      orRaise (scanTimestamp text) (.of (label ++ " must be a canonical UTC timestamp"))
  | _ => .error (.of (label ++ " must be a canonical UTC timestamp"))

/-- A string that names a member of an enumeration. -/
def validateName {α : Type} (name : α → String) (all : List α) (value : Value) (message : String) :
    Except JournalError α :=
  match value with
  | .string text => orRaise (named name all text) (.of message)
  | _ => .error (.of message)

def validateSchemaVersion (value : Value) : Except JournalError Unit :=
  match value with
  | .int 1 => .ok ()
  | _ => .error (.of "journal schema version is unsupported")

/-! ### Documents -/

structure JournalDocument where
  members : List (Text × Value)
  nodup : (members.map Prod.fst).Nodup

namespace JournalDocument

/-- `{key: item for key, item in raw.items()}` -/
def copy (raw : List (Text × Value)) : JournalDocument :=
  ⟨update [] raw, @nodup_update Value [] List.nodup_nil raw⟩

def get? (document : JournalDocument) (field : Text) : Option Value := document.members.lookup field

/-- `document[field]`, for a field that is there. -/
def field (document : JournalDocument) (name : String) : Value :=
  (document.get? (Text.ofString name)).getD .null

def keys (document : JournalDocument) : List Text := document.members.map Prod.fst

/-- The dictionaries are equal. -/
def Same (document document' : JournalDocument) : Prop :=
  ∀ field, document.get? field = document'.get? field

end JournalDocument

def sortedTexts (texts : List Text) : List Text := texts.insertionSort (· ≤ ·)

/-- `','.join(texts)` behind its label, for texts that there are. -/
def fieldDetail (label : String) (fields : List Text) : List Text :=
  if fields = [] then []
  else [Text.ofString label ++ (Text.ofString ",").intercalate fields]

def schemaMessage (unknown missing : List Text) : Text :=
  Text.ofString "journal fields do not match the strict schema (" ++
    (Text.ofString "; ").intercalate
      (fieldDetail "unknown=" unknown ++ fieldDetail "missing=" missing) ++
    Text.ofString ")"

def validateFields (field : String → Value) : Except JournalError Unit := do
  validateSchemaVersion (field "schema_version")
  let operation ← validateName Operation.name Operation.all (field "operation")
    "journal operation is invalid"
  let phase ← validateName Phase.name Phase.all (field "phase") "journal phase is invalid"
  let previousRelease ← validatePosixPath (field "previous_release") "previous_release" true
  let candidateRelease ← validatePosixPath (field "candidate_release") "candidate_release" false
  raiseIf (operation = .install ∧ previousRelease ≠ none)
    (.of "install cannot declare a previous release")
  raiseIf ((operation = .upgrade ∨ operation = .rollback ∨ operation = .stagingRollback) ∧
      previousRelease = none)
    (.of (operation.name ++ " requires a previous release"))
  raiseIf (previousRelease ≠ none ∧ previousRelease = candidateRelease)
    (.of "previous and candidate releases must differ")
  raiseIf (phase = .previousRestored ∧ previousRelease = none)
    (.of "previous_restored requires a previous release")
  let _ ← validateRevision (field "db_revision_before") "db_revision_before"
  let _ ← validateRevision (field "db_revision_after") "db_revision_after"
  let _ ← validateReferenceList (field "unit_metadata_refs") "unit_metadata_refs"
  let _ ← validateReferenceList (field "image_metadata_refs") "image_metadata_refs"
  let _ ← validateName UnitState.name UnitState.all (field "timer_state") "timer_state is invalid"
  let _ ← validateName UnitState.name UnitState.all (field "controller_state")
    "controller_state is invalid"
  let createdAt ← parseTimestamp (field "created_at") "created_at"
  let updatedAt ← parseTimestamp (field "updated_at") "updated_at"
  raiseIf (updatedAt < createdAt) (.of "updated_at cannot precede created_at")

def validateDocument (value : Value) : Except JournalError JournalDocument :=
  match value with
  | .dict raw => do
      let document := JournalDocument.copy raw
      let fields := documentFields.map Text.ofString
      let unknown := document.keys.filter fun key => key ∉ fields
      let missing := fields.filter fun key => key ∉ document.keys
      raiseIf (unknown ≠ [] ∨ missing ≠ [])
        ⟨schemaMessage (sortedTexts unknown) (sortedTexts missing)⟩
      validateFields document.field
      return document
  | _ => .error (.of "journal must contain a JSON object")

/-- `supplied or utc_timestamp()`, where an empty text counts as none. -/
def chosenTimestamp (supplied : Option Text) (now : DateTime) : Text :=
  match supplied with
  | some (c :: text) => c :: text
  | _ => isoformat now

/-- The arguments of `create_document`, and what the clock says. -/
structure Creation where
  operation : Text
  previousRelease : Option Text
  candidateRelease : Text
  dbRevisionBefore : Option Text
  dbRevisionAfter : Option Text
  unitMetadataRefs : List Text
  imageMetadataRefs : List Text
  timerState : Text
  controllerState : Text
  timestamp : Option Text
  now : DateTime

def optionalText : Option Text → Value
  | some text => .string text
  | none => .null

/-- The document that `create_document` builds. -/
def Creation.raw (request : Creation) (now : Text) : List (Text × Value) :=
  [(Text.ofString "schema_version", .int 1),
    (Text.ofString "operation", .string request.operation),
    (Text.ofString "phase", .string (Text.ofString Phase.initialized.name)),
    (Text.ofString "previous_release", optionalText request.previousRelease),
    (Text.ofString "candidate_release", .string request.candidateRelease),
    (Text.ofString "db_revision_before", optionalText request.dbRevisionBefore),
    (Text.ofString "db_revision_after", optionalText request.dbRevisionAfter),
    (Text.ofString "unit_metadata_refs", .list (request.unitMetadataRefs.map .string)),
    (Text.ofString "image_metadata_refs", .list (request.imageMetadataRefs.map .string)),
    (Text.ofString "timer_state", .string request.timerState),
    (Text.ofString "controller_state", .string request.controllerState),
    (Text.ofString "created_at", .string now),
    (Text.ofString "updated_at", .string now)]

def createDocument (request : Creation) : Except JournalError JournalDocument :=
  validateDocument (.dict (request.raw (chosenTimestamp request.timestamp request.now)))

/-- `timedelta` arithmetic overflows after the year 9999. -/
def nextTimestamp (previous : Value) (supplied : Option Text) (now : DateTime) :
    Except JournalError Text := do
  let previousValue ← parseTimestamp previous "updated_at"
  let candidate ← parseTimestamp (.string (chosenTimestamp supplied now)) "updated_at"
  if candidate ≤ previousValue then
    let next ← orRaise previousValue.addMicrosecond (.of "date value out of range")
    return isoformat next
  else return isoformat candidate

/-- The arguments of `update_document`, and what the clock says. -/
structure Update where
  phase : Text
  changes : List (Text × Value)
  timestamp : Option Text
  now : DateTime

def updateDocument (value : Value) (request : Update) : Except JournalError JournalDocument := do
  let current ← validateDocument value
  let currentPhase ← validateName Phase.name Phase.all (current.field "phase")
    "journal phase is invalid"
  raiseIf (∀ phase ∈ currentPhase.transitions, Text.ofString phase.name ≠ request.phase)
    ⟨Text.ofString ("illegal lifecycle phase transition: " ++ currentPhase.name ++ " -> ") ++
      request.phase⟩
  let unknown := (request.changes.map Prod.fst).filter
    fun key => key ∉ mutableFields.map Text.ofString
  raiseIf (unknown ≠ [])
    ⟨Text.ofString "update contains immutable or unknown fields: " ++
      (Text.ofString ",").intercalate (sortedTexts unknown)⟩
  let timestamp ← nextTimestamp (current.field "updated_at") request.timestamp request.now
  let updated := set (set (update current.members request.changes)
    (Text.ofString "phase") (.string request.phase))
    (Text.ofString "updated_at") (.string timestamp)
  validateDocument (.dict updated)

/-! ### The file -/

structure File where
  isRegular : Bool
  uid : Nat
  mode : Nat
  data : ByteArray

def validateSecureFileMetadata (file : File) (label : String) : Except JournalError Unit := do
  raiseIf (file.isRegular = false) (.of (label ++ " must be a regular non-symlink file"))
  raiseIf (file.uid ≠ 0 ∨ file.mode ≠ 0o600) (.of (label ++ " must be root-owned with mode 0600"))

/-- The text of a document, before it is encoded. -/
def documentText (document : JournalDocument) : List Char :=
  dumps (.indented 2) 0 (.dict document.members) ++ ['\n']

def serializeDocument (document : Value) : Except JournalError ByteArray := do
  let validated ← validateDocument document
  return (String.ofList (documentText validated)).toUTF8

def readDocument (journal : Option File) : Except JournalError JournalDocument := do
  let file ← orRaise journal (.of "journal file cannot be resolved")
  validateSecureFileMetadata file "journal file"
  raiseIf (file.data.size = 0 ∨ maxJournalBytes < file.data.size)
    (.of "journal file has an invalid size")
  let text ← orRaise (String.fromUTF8? file.data) (.of "journal file is not valid UTF-8 JSON")
  let decoded ← orRaise (loads text.toList) (.of "journal file is not valid UTF-8 JSON")
  validateDocument decoded

/-- The system calls of a write, in order. -/
inductive WriteStep where
  | mkstemp
  | setMode
  | write
  | sync
  | close
  | replace
  | syncDirectory
  deriving DecidableEq, Repr

inductive WriteError where
  | journal (error : JournalError)
  | os (step : WriteStep)

/-- The outcome, and the journal afterwards. A system call may fail; the temporary file is removed
then. -/
def atomicWriteDocument (fault : Option WriteStep) (journal : Option File) (document : Value) :
    Except WriteError Unit × Option File :=
  match serializeDocument document with
  | .error error => (.error (.journal error), journal)
  | .ok payload =>
      let written : File := ⟨true, 0, 0o600, payload⟩
      match fault with
      | some .syncDirectory => (.error (.os .syncDirectory), some written)
      | some step => (.error (.os step), journal)
      | none => (.ok (), some written)

end VpsGuardian.Lifecycle
