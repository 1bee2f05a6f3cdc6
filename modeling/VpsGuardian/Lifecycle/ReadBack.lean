import VpsGuardian.Lifecycle.Journal

/-!
When the journal can be read back.

What the reader validates depends on what is under each field and not on the
order of the fields, and the reader gets back what was written up to surrogate
pairs. So a document comes back exactly when its text is not longer than the
reader accepts and none of its strings has such a pair.
-/

namespace VpsGuardian.Lifecycle

open Lib PythonJson

/-! ### Validated documents -/

/-- What a field of a validated document can hold. -/
inductive FieldValue : Value → Prop
  | null : FieldValue .null
  | version : FieldValue (.int 1)
  | text (s : Text) : FieldValue (.string s)
  | texts (references : List Text) : FieldValue (.list (references.map .string))

theorem validateSchemaVersion_eq_ok {value : Value} (h : validateSchemaVersion value = .ok ()) :
    FieldValue value := by
  unfold validateSchemaVersion at h
  split at h
  · exact .version
  · cases h

theorem validateName_eq_ok {α : Type} {name : α → String} {all : List α} {value : Value}
    {message : String} {a : α} (h : validateName name all value message = .ok a) :
    value = .string (Text.ofString (name a)) := by
  unfold validateName at h
  split at h
  next text =>
    have hfound := List.find?_some (orRaise_eq_ok.mp h)
    rw [of_decide_eq_true hfound]
  · cases h

/-- A path that passes is the value itself, and null passes only where it may. -/
theorem validatePosixPath_eq_ok {value : Value} {label : String} {nullable : Bool}
    {found : Option Text} (h : validatePosixPath value label nullable = .ok found) :
    value = optionalText found := by
  unfold validatePosixPath at h
  split at h
  · split_ifs at h
    cases h
    rfl
  next path =>
    obtain ⟨-, h⟩ := raiseIf_bind_eq_ok.mp h
    obtain ⟨-, h⟩ := raiseIf_bind_eq_ok.mp h
    obtain ⟨-, h⟩ := raiseIf_bind_eq_ok.mp h
    obtain ⟨-, h⟩ := raiseIf_bind_eq_ok.mp h
    cases h
    rfl
  · cases h

theorem fieldValue_optionalText (text : Option Text) : FieldValue (optionalText text) := by
  cases text with
  | none => exact .null
  | some text => exact .text text

theorem validateRevision_eq_ok {value : Value} {label : String} {found : Option Text}
    (h : validateRevision value label = .ok found) : value = optionalText found := by
  unfold validateRevision at h
  split at h
  · cases h
    rfl
  · split_ifs at h
    cases h
    rfl
  · cases h

theorem validateReferences_eq_ok {label : String} {items : List Value} {references : List Text}
    (h : validateReferences label items = .ok references) : items = references.map .string := by
  induction items generalizing references with
  | nil =>
    cases h
    rfl
  | cons item items ih =>
    rw [validateReferences] at h
    obtain ⟨found, hfound, h⟩ := bind_eq_ok.mp h
    obtain ⟨reference, rfl, hitems⟩ := orRaise_bind_eq_ok.mp h
    obtain ⟨rest, hrest, hpure⟩ := bind_eq_ok.mp hitems
    cases hpure
    rw [validatePosixPath_eq_ok hfound, ih hrest]
    rfl

theorem validateReferenceList_eq_ok {value : Value} {label : String} {references : List Text}
    (h : validateReferenceList value label = .ok references) :
    value = .list (references.map .string) := by
  unfold validateReferenceList at h
  split at h
  · obtain ⟨found, hfound, h⟩ := bind_eq_ok.mp h
    obtain ⟨-, h⟩ := raiseIf_bind_eq_ok.mp h
    cases h
    rw [validateReferences_eq_ok hfound]
  · cases h

theorem parseTimestamp_eq_ok {value : Value} {label : String} {t : DateTime}
    (h : parseTimestamp value label = .ok t) :
    ∃ text, value = .string text ∧ scanTimestamp text = some t := by
  unfold parseTimestamp at h
  split at h
  next text => exact ⟨text, rfl, orRaise_eq_ok.mp h⟩
  · cases h

/-- The checks of `validate_document` on the fields, one after the other. -/
theorem validateFields_eq_ok {field : String → Value} : validateFields field = .ok () ↔
    validateSchemaVersion (field "schema_version") = .ok () ∧
    ∃ operation, validateName Operation.name Operation.all (field "operation")
      "journal operation is invalid" = .ok operation ∧
    ∃ phase, validateName Phase.name Phase.all (field "phase") "journal phase is invalid" =
      .ok phase ∧
    ∃ previous, validatePosixPath (field "previous_release") "previous_release" true =
      .ok previous ∧
    ∃ candidate, validatePosixPath (field "candidate_release") "candidate_release" false =
      .ok candidate ∧
    ¬(operation = .install ∧ previous ≠ none) ∧
    ¬((operation = .upgrade ∨ operation = .rollback ∨ operation = .stagingRollback) ∧
      previous = none) ∧
    ¬(previous ≠ none ∧ previous = candidate) ∧
    ¬(phase = .previousRestored ∧ previous = none) ∧
    (∃ before, validateRevision (field "db_revision_before") "db_revision_before" = .ok before) ∧
    (∃ after, validateRevision (field "db_revision_after") "db_revision_after" = .ok after) ∧
    (∃ units, validateReferenceList (field "unit_metadata_refs") "unit_metadata_refs" =
      .ok units) ∧
    (∃ images, validateReferenceList (field "image_metadata_refs") "image_metadata_refs" =
      .ok images) ∧
    (∃ timer, validateName UnitState.name UnitState.all (field "timer_state")
      "timer_state is invalid" = .ok timer) ∧
    (∃ controller, validateName UnitState.name UnitState.all (field "controller_state")
      "controller_state is invalid" = .ok controller) ∧
    ∃ created, parseTimestamp (field "created_at") "created_at" = .ok created ∧
    ∃ updated, parseTimestamp (field "updated_at") "updated_at" = .ok updated ∧
    ¬updated < created := by
  simp only [validateFields, bind_eq_ok, raiseIf_eq_ok, exists_and_left, exists_and_right,
    exists_const]
  exact ⟨fun ⟨⟨(), hversion⟩, h⟩ => ⟨hversion, h⟩, fun ⟨hversion, h⟩ => ⟨⟨(), hversion⟩, h⟩⟩

theorem fieldValue_of_validateFields {field : String → Value} (h : validateFields field = .ok ()) :
    ∀ name ∈ documentFields, FieldValue (field name) := by
  obtain ⟨hversion, operation, hoperation, phase, hphase, previous, hprevious, candidate,
    hcandidate, -, -, -, -, ⟨before, hbefore⟩, ⟨after, hafter⟩, ⟨units, hunits⟩,
    ⟨images, himages⟩, ⟨timer, htimer⟩, ⟨controller, hcontroller⟩, created, hcreated, updated,
    hupdated, -⟩ := validateFields_eq_ok.mp h
  obtain ⟨createdText, hcreated, -⟩ := parseTimestamp_eq_ok hcreated
  obtain ⟨updatedText, hupdated, -⟩ := parseTimestamp_eq_ok hupdated
  have hpath {text : Option Text} {value : Value} (heq : value = optionalText text) :
      FieldValue value := heq ▸ fieldValue_optionalText text
  have hname {text : Text} {value : Value} (heq : value = .string text) : FieldValue value :=
    heq ▸ .text text
  have hlist {references : List Text} {value : Value}
      (heq : value = .list (references.map .string)) : FieldValue value := heq ▸ .texts references
  simp only [documentFields, List.forall_mem_cons]
  exact ⟨validateSchemaVersion_eq_ok hversion, hname (validateName_eq_ok hoperation),
    hname (validateName_eq_ok hphase), hpath (validatePosixPath_eq_ok hprevious),
    hpath (validatePosixPath_eq_ok hcandidate), hpath (validateRevision_eq_ok hbefore),
    hpath (validateRevision_eq_ok hafter), hlist (validateReferenceList_eq_ok hunits),
    hlist (validateReferenceList_eq_ok himages), hname (validateName_eq_ok htimer),
    hname (validateName_eq_ok hcontroller), hname hcreated, hname hupdated,
    fun _ hnone => absurd hnone List.not_mem_nil⟩

namespace JournalDocument

theorem mem_keys {document : JournalDocument} {key : Text} :
    key ∈ document.keys ↔ ∃ value, document.get? key = some value := by
  constructor
  · intro h
    obtain ⟨⟨key, value⟩, hmem, rfl⟩ := List.mem_map.mp h
    exact ⟨value, (lookup_eq_some_iff document.nodup).mpr hmem⟩
  · rintro ⟨value, h⟩
    exact List.mem_map.mpr ⟨_, (lookup_eq_some_iff document.nodup).mp h, rfl⟩

/-- A dictionary copied from a document is the document. -/
theorem copy_members (document : JournalDocument) : copy document.members = document := by
  obtain ⟨members, hnodup⟩ := document
  have hmembers : update [] members = members := update_of_nodup [] members hnodup
  unfold copy
  congr

theorem get?_copy {raw : List (Text × Value)} (hnodup : (raw.map Prod.fst).Nodup) (key : Text) :
    (copy raw).get? key = raw.lookup key := by
  show (update [] raw).lookup key = raw.lookup key
  rw [update_of_nodup [] raw hnodup, List.nil_append]

theorem Same.keys {document document' : JournalDocument} (h : document.Same document')
    (key : Text) : key ∈ document.keys ↔ key ∈ document'.keys := by
  rw [mem_keys, mem_keys, h key]

theorem Same.field {document document' : JournalDocument} (h : document.Same document') :
    document.field = document'.field := by
  funext name
  rw [JournalDocument.field, JournalDocument.field, h]

end JournalDocument

open JournalDocument (Same)

/-- A document with exactly the fields of the schema, each of them valid. -/
def Valid (document : JournalDocument) : Prop :=
  (∀ key, key ∈ document.keys ↔ key ∈ documentFields.map Text.ofString) ∧
    validateFields document.field = .ok ()

theorem validateDocument_eq_ok {value : Value} {document : JournalDocument} :
    validateDocument value = .ok document ↔
      ∃ raw, value = .dict raw ∧ document = .copy raw ∧ Valid document := by
  unfold validateDocument
  split
  next raw =>
    have hfields : ¬((JournalDocument.copy raw).keys.filter
          (fun key => decide (key ∉ documentFields.map Text.ofString)) ≠ [] ∨
        (documentFields.map Text.ofString).filter
          (fun key => decide (key ∉ (JournalDocument.copy raw).keys)) ≠ []) ↔
        ∀ key, key ∈ (JournalDocument.copy raw).keys ↔
          key ∈ documentFields.map Text.ofString := by
      simp only [not_or, not_not, List.filter_eq_nil_iff, decide_eq_true_eq]
      exact ⟨fun h key => ⟨h.1 key, h.2 key⟩,
        fun h => ⟨fun key => (h key).mp, fun key => (h key).mpr⟩⟩
    rw [raiseIf_bind_eq_ok, hfields]
    constructor
    · rintro ⟨hkeys, h⟩
      obtain ⟨⟨⟩, hvalid, hdocument⟩ := bind_eq_ok.mp h
      cases hdocument
      exact ⟨raw, rfl, rfl, hkeys, hvalid⟩
    · rintro ⟨raw', hraw, rfl, hkeys, hvalid⟩
      cases hraw
      exact ⟨hkeys, bind_eq_ok.mpr ⟨(), hvalid, rfl⟩⟩
  next hnot =>
    constructor
    · intro h
      cases h
    · rintro ⟨raw, hraw, -⟩
      exact absurd hraw (hnot raw)

theorem valid_of_validateDocument {value : Value} {document : JournalDocument}
    (h : validateDocument value = .ok document) : Valid document := by
  obtain ⟨-, -, -, hvalid⟩ := validateDocument_eq_ok.mp h
  exact hvalid

theorem Valid.validated {document : JournalDocument} (h : Valid document) :
    validateDocument (.dict document.members) = .ok document :=
  validateDocument_eq_ok.mpr ⟨_, rfl, document.copy_members.symm, h⟩

theorem Valid.congr {document document' : JournalDocument} (hsame : document.Same document')
    (h : Valid document') : Valid document := by
  refine ⟨fun key => (hsame.keys key).trans (h.1 key), ?_⟩
  rw [hsame.field]
  exact h.2

/-- Every field of a valid document holds one of the few kinds of values. -/
theorem Valid.fieldValue {document : JournalDocument} (h : Valid document) {key : Text}
    {value : Value} (hget : document.get? key = some value) : FieldValue value := by
  have hkey : key ∈ documentFields.map Text.ofString :=
    (h.1 key).mp (JournalDocument.mem_keys.mpr ⟨value, hget⟩)
  obtain ⟨name, hname, rfl⟩ := List.mem_map.mp hkey
  have hfield := fieldValue_of_validateFields h.2 name hname
  rw [JournalDocument.field, hget] at hfield
  exact hfield

/-! ### Writing and reading -/

/-- The strings of a field: the field itself, or its references. -/
def strings : Value → List Text
  | .string s => [s]
  | .list items => items.filterMap fun
      | .string s => some s
      | _ => none
  | _ => []

theorem filterMap_strings (references : List Text) :
    strings (.list (references.map .string)) = references := by
  rw [strings, List.filterMap_map]
  exact List.filterMap_some

theorem readBack_eq_self_iff {value : Value} (h : FieldValue value) :
    readBack value = value ↔ ∀ s ∈ strings value, Text.hasPair s = false := by
  cases h with
  | null => simp [readBack, strings]
  | version => simp [readBack, strings]
  | text s => simp [readBack, strings, Text.joined_eq_self_iff]
  | texts references =>
    rw [filterMap_strings, readBack, readBackItems_eq_map, Value.list.injEq, List.map_map,
      List.map_inj_left]
    simp [readBack, Text.joined_eq_self_iff]

/-- The payload of a write. -/
def payload (document : JournalDocument) : ByteArray :=
  (String.ofList (documentText document)).toUTF8

/-- The payload is no longer than the reader accepts, and no string has a surrogate pair in two
code points. -/
def Fits (document : JournalDocument) : Prop :=
  (payload document).size ≤ maxJournalBytes ∧
    ∀ field value, document.get? field = some value →
      ∀ s ∈ strings value, Text.hasPair s = false

/-- Every write of the document that succeeds leaves a journal that reads as the document. -/
def ReadsBack (document : JournalDocument) : Prop :=
  ∀ fault journal journal',
    atomicWriteDocument fault journal (.dict document.members) = (.ok (), journal') →
      ∃ back, readDocument journal' = .ok back ∧ back.Same document

theorem atomicWriteDocument_eq_ok {fault : Option WriteStep} {journal journal' : Option File}
    {document : JournalDocument} (hvalid : Valid document) :
    atomicWriteDocument fault journal (.dict document.members) = (.ok (), journal') ↔
      fault = none ∧ journal' = some ⟨true, 0, 0o600, payload document⟩ := by
  have hserialize : serializeDocument (.dict document.members) = .ok (payload document) :=
    bind_eq_ok.mpr ⟨document, hvalid.validated, rfl⟩
  rw [atomicWriteDocument, hserialize]
  cases fault with
  | none => simp [eq_comm]
  | some step => cases step <;> simp

theorem size_payload_ne_zero (document : JournalDocument) : (payload document).size ≠ 0 := by
  have htext : documentText document ≠ [] := by simp [documentText]
  simpa [payload] using htext

theorem loads_payload (document : JournalDocument) :
    ∃ text, String.fromUTF8? (payload document) = some text ∧
      loads text.toList = some (readBack (.dict document.members)) := by
  refine ⟨String.ofList (documentText document), dif_pos (String.isValidUTF8 _), ?_⟩
  have hblank : Blank ['\n'] := by
    intro c hc
    obtain rfl := List.mem_singleton.mp hc
    rfl
  rw [String.toList_ofList]
  exact loads_dumps (.indented 2) 0 (.dict document.members) hblank

theorem readDocument_written (document : JournalDocument) :
    readDocument (some ⟨true, 0, 0o600, payload document⟩) =
      if maxJournalBytes < (payload document).size then
        .error (.of "journal file has an invalid size")
      else validateDocument (readBack (.dict document.members)) := by
  obtain ⟨text, htext, hloads⟩ := loads_payload document
  have hsize := size_payload_ne_zero document
  by_cases h : maxJournalBytes < (payload document).size
  · rw [if_pos h]
    simp only [readDocument, orRaise, validateSecureFileMetadata, raiseIf]
    simp [h, bind, Except.bind]
  · rw [if_neg h]
    simp only [readDocument, orRaise, validateSecureFileMetadata, raiseIf]
    simp [h, hsize, htext, hloads, bind, Except.bind]

/-- The document that comes back from the JSON text. -/
theorem readBack_document {document : JournalDocument} (hvalid : Valid document) :
    ∃ back : JournalDocument, readBack (.dict document.members) = .dict back.members ∧
      ∀ key, back.get? key = (document.get? key).map readBack := by
  have hkeys : ∀ key ∈ document.members.map Prod.fst, Text.hasPair key = false := by
    intro key hkey
    obtain ⟨name, -, rfl⟩ := List.mem_map.mp ((hvalid.1 key).mp hkey)
    exact Text.not_hasPair_ofString name
  obtain ⟨back, hback, hnodup, hlookup⟩ := readBack_dict document.nodup hkeys
  exact ⟨⟨back, hnodup⟩, hback, hlookup⟩

/-- A valid document can be read back exactly when it fits. -/
theorem readsBack_iff {document : JournalDocument} (hvalid : Valid document) :
    ReadsBack document ↔ Fits document := by
  obtain ⟨back, hback, hget⟩ := readBack_document hvalid
  constructor
  · intro h
    obtain ⟨read, hread, hsame⟩ := h none none _
      ((atomicWriteDocument_eq_ok hvalid).mpr ⟨rfl, rfl⟩)
    rw [readDocument_written] at hread
    split_ifs at hread with hsize
    refine ⟨Nat.le_of_not_lt hsize, fun field value hvalue => ?_⟩
    -- the document that was read is the one that came back from the text
    rw [hback] at hread
    obtain ⟨raw, hraw, rfl, -⟩ := validateDocument_eq_ok.mp hread
    cases hraw
    rw [JournalDocument.copy_members] at hsame
    have hfield : some (readBack value) = some value := by
      have heq := hget field
      rw [hvalue, hsame field, hvalue] at heq
      exact heq.symm
    exact (readBack_eq_self_iff (hvalid.fieldValue hvalue)).mp (Option.some.inj hfield)
  · intro h fault journal journal' hwrite
    obtain ⟨-, rfl⟩ := (atomicWriteDocument_eq_ok hvalid).mp hwrite
    have hsame : back.Same document := by
      intro key
      rw [hget]
      cases hvalue : document.get? key with
      | none => rfl
      | some value =>
        exact congrArg some
          ((readBack_eq_self_iff (hvalid.fieldValue hvalue)).mpr (h.2 key value hvalue))
    refine ⟨back, ?_, hsame⟩
    rw [readDocument_written, if_neg (Nat.not_lt.mpr h.1), hback]
    exact (hvalid.congr hsame).validated

end VpsGuardian.Lifecycle
