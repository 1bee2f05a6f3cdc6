import VpsGuardian.Lifecycle.ReadBack

/-!
The documents of a lifecycle transaction, from its creation through its updates.

Whatever the updates are, the fields they may not touch stay as they were
created and every update has a later time. Each of the documents can be read
back exactly when it fits into what the reader accepts.
-/

namespace VpsGuardian.Lifecycle

open Lib PythonJson

/-- The documents of some updates in a row, if all of them are accepted. -/
def history (document : JournalDocument) : List Update → Except JournalError (List JournalDocument)
  | [] => .ok [document]
  | request :: requests => do
      let next ← updateDocument (.dict document.members) request
      let later ← history next requests
      return document :: later

def JournalDocument.updatedAt? (document : JournalDocument) : Option DateTime :=
  match document.field "updated_at" with
  | .string text => scanTimestamp text
  | _ => none

/-- The other document has a later time. -/
def UpdatedBefore (document document' : JournalDocument) : Prop :=
  ∃ t t', document.updatedAt? = some t ∧ document'.updatedAt? = some t' ∧ t < t'

/-- The fields that an update leaves alone are the same. -/
def SameOutside (document document' : JournalDocument) : Prop :=
  ∀ field, field ∉ mutableFields.map Text.ofString → field ≠ Text.ofString "phase" →
    field ≠ Text.ofString "updated_at" → document'.get? field = document.get? field

/-! ### One update -/

theorem chosenTimestamp_next {previous : Value} {supplied : Option Text} {now : DateTime}
    {timestamp : Text} (h : nextTimestamp previous supplied now = .ok timestamp) :
    ∃ t t', parseTimestamp previous "updated_at" = .ok t ∧ timestamp = isoformat t' ∧ t < t' := by
  obtain ⟨t, ht, h⟩ := bind_eq_ok.mp h
  obtain ⟨candidate, -, h⟩ := bind_eq_ok.mp h
  refine ⟨t, ?_⟩
  split_ifs at h with hle
  · obtain ⟨next, hnext, h⟩ := orRaise_bind_eq_ok.mp h
    cases h
    exact ⟨next, ht, rfl, DateTime.lt_addMicrosecond hnext⟩
  · cases h
    exact ⟨candidate, ht, rfl, Nat.lt_of_not_le hle⟩

/-- What an accepted update has checked, and what the document has under each field then. -/
theorem updateDocument_eq_ok {current next : JournalDocument} {request : Update}
    (h : updateDocument (.dict current.members) request = .ok next) :
    Valid next ∧ (∀ entry ∈ request.changes, entry.1 ∈ mutableFields.map Text.ofString) ∧
      ∃ timestamp, nextTimestamp (current.field "updated_at") request.timestamp request.now =
        .ok timestamp ∧
      ∀ field, next.get? field =
        if field = Text.ofString "updated_at" then some (.string timestamp)
        else if field = Text.ofString "phase" then some (.string request.phase)
        else (request.changes.reverse.lookup field).or (current.get? field) := by
  obtain ⟨validated, hvalidated, h⟩ := bind_eq_ok.mp h
  obtain ⟨raw, hraw, rfl, -⟩ := validateDocument_eq_ok.mp hvalidated
  cases hraw
  rw [JournalDocument.copy_members] at h
  obtain ⟨phase, -, h⟩ := bind_eq_ok.mp h
  obtain ⟨-, h⟩ := raiseIf_bind_eq_ok.mp h
  obtain ⟨hunknown, h⟩ := raiseIf_bind_eq_ok.mp h
  obtain ⟨timestamp, htimestamp, h⟩ := bind_eq_ok.mp h
  refine ⟨valid_of_validateDocument h, ?_, timestamp, htimestamp, ?_⟩
  · intro entry hentry
    by_contra hnot
    have hmem : entry.1 ∈ (request.changes.map Prod.fst).filter
        fun key => key ∉ mutableFields.map Text.ofString :=
      List.mem_filter.mpr ⟨List.mem_map_of_mem hentry, decide_eq_true hnot⟩
    exact hunknown (List.ne_nil_of_mem hmem)
  · obtain ⟨raw, hraw, rfl, -⟩ := validateDocument_eq_ok.mp h
    cases hraw
    intro field
    have hnodup := nodup_set (nodup_set (nodup_update current.nodup request.changes)
      (Text.ofString "phase") (.string request.phase))
      (Text.ofString "updated_at") (.string timestamp)
    rw [JournalDocument.get?_copy hnodup, lookup_set, lookup_set, lookup_update]
    rfl

/-- An accepted update leaves the remaining fields alone and has a later time. -/
theorem updateDocument_effect {current next : JournalDocument} {request : Update}
    (h : updateDocument (.dict current.members) request = .ok next) :
    Valid next ∧ SameOutside current next ∧ UpdatedBefore current next := by
  obtain ⟨hvalid, hchanges, timestamp, htimestamp, hget⟩ := updateDocument_eq_ok h
  refine ⟨hvalid, ?_, ?_⟩
  · intro field hmutable hphase hupdated
    have hnone : request.changes.reverse.lookup field = none := by
      rw [List.lookup_eq_none_iff]
      intro entry hentry
      have hne : field ≠ entry.1 := by
        rintro rfl
        exact hmutable (hchanges entry (List.mem_reverse.mp hentry))
      exact bne_iff_ne.mpr hne
    rw [hget, if_neg hupdated, if_neg hphase, hnone, Option.none_or]
  · obtain ⟨t, t', ht, rfl, hlt⟩ := chosenTimestamp_next htimestamp
    obtain ⟨text, htext, hscan⟩ := parseTimestamp_eq_ok ht
    refine ⟨t, t', ?_, ?_, hlt⟩
    · rw [JournalDocument.updatedAt?, htext]
      exact hscan
    · have hfield : next.field "updated_at" = .string (isoformat t') := by
        rw [JournalDocument.field, hget, if_pos rfl]
        rfl
      rw [JournalDocument.updatedAt?, hfield]
      exact scanTimestamp_isoformat t'

/-! ### Any number of updates -/

theorem history_effect {document : JournalDocument} {requests : List Update}
    {documents : List JournalDocument} (hvalid : Valid document)
    (h : history document requests = .ok documents) :
    ∃ later, documents = document :: later ∧ (∀ d ∈ documents, Valid d) ∧
      (∀ d ∈ documents, SameOutside document d) ∧ documents.IsChain UpdatedBefore := by
  induction requests generalizing document documents with
  | nil =>
    cases h
    refine ⟨[], rfl, ?_, ?_, List.isChain_singleton document⟩
    · intro d hd
      rw [List.mem_singleton.mp hd]
      exact hvalid
    · intro d hd
      rw [List.mem_singleton.mp hd]
      exact fun _ _ _ _ => rfl
  | cons request requests ih =>
    obtain ⟨next, hnext, h⟩ := bind_eq_ok.mp h
    obtain ⟨later, hlater, h⟩ := bind_eq_ok.mp h
    cases h
    obtain ⟨hvalid', houtside, hbefore⟩ := updateDocument_effect hnext
    obtain ⟨rest, rfl, hvalids, hsame, hchain⟩ := ih hvalid' hlater
    refine ⟨next :: rest, rfl, List.forall_mem_cons.mpr ⟨hvalid, hvalids⟩, ?_,
      List.isChain_cons_cons.mpr ⟨hbefore, hchain⟩⟩
    refine List.forall_mem_cons.mpr ⟨fun _ _ _ _ => rfl, ?_⟩
    intro d hd field hmutable hphase hupdated
    exact (hsame d hd field hmutable hphase hupdated).trans
      (houtside field hmutable hphase hupdated)

/-- Along all accepted updates of an accepted document, the journal can always be read back, the
untouchable fields stay and the time increases, exactly when every document fits. -/
theorem journal_readable_iff {creation : Creation} {created : JournalDocument}
    (hcreated : createDocument creation = .ok created) {requests : List Update}
    {documents : List JournalDocument} (hhistory : history created requests = .ok documents) :
    ((∀ document ∈ documents, ReadsBack document) ∧
      (∀ document ∈ documents, SameOutside created document) ∧
      documents.IsChain UpdatedBefore) ↔
    ∀ document ∈ documents, Fits document := by
  obtain ⟨-, -, hvalids, hsame, hchain⟩ :=
    history_effect (valid_of_validateDocument hcreated) hhistory
  constructor
  · rintro ⟨hreads, -, -⟩ document hdocument
    exact (readsBack_iff (hvalids document hdocument)).mp (hreads document hdocument)
  · intro hfits
    exact ⟨fun document hdocument =>
      (readsBack_iff (hvalids document hdocument)).mpr (hfits document hdocument), hsame, hchain⟩

/-! ### An upgrade -/

/-- An absolute path of one component is canonical. -/
theorem validatePosixPath_single {name : Text} (hne : name ≠ [])
    (hdots : name ≠ [dot] ∧ name ≠ [dot, dot]) (hslash : slash ∉ name)
    (hcontrol : ∀ c ∈ name, isControl c = false) (label : String) (nullable : Bool) :
    validatePosixPath (.string (slash :: name)) label nullable = .ok (some (slash :: name)) := by
  have hsplit : (slash :: name).splitOn slash = [[], name] := by
    have hhead : ([] ++ slash :: name).splitOn slash = [] :: name.splitOn slash :=
      List.splitOn_append_cons_self_of_not_mem List.not_mem_nil name
    rw [List.nil_append] at hhead
    rw [hhead, List.splitOn_eq_singleton hslash]
  obtain ⟨c, rest, hname⟩ := List.exists_cons_of_ne_nil hne
  have hc : c ≠ slash := by
    rintro rfl
    exact hslash (hname ▸ List.mem_cons_self)
  have htake : (slash :: name).take 2 ≠ [slash, slash] := by
    rw [hname]
    simpa using hc
  have hnormal : normpath (slash :: name) = slash :: name := by
    have hcomponents : [[], name].foldl (normalize true) [] = [name] := by
      simp [normalize, hne, hdots.1, hdots.2]
    have hslashes : ((1 : Nat) != 0) = true := rfl
    simp only [normpath, htake, false_and, if_false, List.head?_cons, if_true, hsplit, hslashes,
      hcomponents]
    simp
  have hany : (slash :: name).any isControl = false := by
    rw [List.any_eq_false]
    intro d hd
    obtain rfl | hd := List.mem_cons.mp hd
    · decide
    · simp [hcontrol d hd]
  have htail : ¬∃ component ∈ [name],
      component = [] ∨ component = [dot] ∨ component = [dot, dot] := by
    simp [hne, hdots.1, hdots.2]
  simp only [validatePosixPath, hany, hnormal, hsplit, List.tail_cons]
  rw [raiseIf_bind_eq_ok]
  refine ⟨by simp [hne], ?_⟩
  rw [raiseIf_bind_eq_ok]
  refine ⟨Bool.false_ne_true, ?_⟩
  rw [raiseIf_bind_eq_ok]
  refine ⟨by simp [hname, hc], ?_⟩
  rw [raiseIf_bind_eq_ok]
  exact ⟨htail, rfl⟩

theorem validateReferences_strings {label : String} {references : List Text}
    (h : ∀ reference ∈ references,
      validatePosixPath (.string reference) label false = .ok (some reference)) :
    validateReferences label (references.map .string) = .ok references := by
  induction references with
  | nil => rfl
  | cons reference references ih =>
    have hreference := h reference List.mem_cons_self
    have hrest := ih fun other hother => h other (List.mem_cons_of_mem _ hother)
    rw [List.map_cons, validateReferences, hreference]
    refine bind_eq_ok.mpr ⟨some reference, rfl, ?_⟩
    refine orRaise_bind_eq_ok.mpr ⟨reference, rfl, ?_⟩
    exact bind_eq_ok.mpr ⟨references, hrest, rfl⟩

theorem parseTimestamp_isoformat (t : DateTime) (label : String) :
    parseTimestamp (.string (isoformat t)) label = .ok t := by
  rw [parseTimestamp, scanTimestamp_isoformat]
  rfl

theorem Creation.map_fst_raw (request : Creation) (now : Text) :
    (request.raw now).map Prod.fst = documentFields.map Text.ofString := rfl

theorem Creation.nodup_raw (request : Creation) (now : Text) :
    ((request.raw now).map Prod.fst).Nodup := by
  have hnodup : documentFields.Nodup := by decide
  rw [request.map_fst_raw now]
  exact hnodup.map Text.ofString_injective

theorem Creation.members_raw (request : Creation) (now : Text) :
    (JournalDocument.copy (request.raw now)).members = request.raw now :=
  update_of_nodup [] (request.raw now) (request.nodup_raw now)

theorem Creation.field_raw {request : Creation} {now : Text} {name : String} {value : Value}
    (h : (Text.ofString name, value) ∈ request.raw now) :
    (JournalDocument.copy (request.raw now)).field name = value := by
  rw [JournalDocument.field, JournalDocument.get?_copy (request.nodup_raw now),
    (lookup_eq_some_iff (request.nodup_raw now)).mpr h]
  rfl

theorem Creation.keys_raw (request : Creation) (now : Text) :
    (JournalDocument.copy (request.raw now)).keys = documentFields.map Text.ofString := by
  rw [JournalDocument.keys, request.members_raw, request.map_fst_raw]

def releaseTime : DateTime :=
  ⟨2026, 3, 1, 12, 0, 0, 0, by decide⟩

/-- An upgrade that refers to some unit files. -/
def upgrade (references : List Text) : Creation where
  operation := Text.ofString "upgrade"
  previousRelease := some (Text.ofString "/opt/guardian/releases/1")
  candidateRelease := Text.ofString "/opt/guardian/releases/2"
  dbRevisionBefore := some (Text.ofString "0007")
  dbRevisionAfter := none
  unitMetadataRefs := references
  imageMetadataRefs := []
  timerState := Text.ofString "active"
  controllerState := Text.ofString "active"
  timestamp := none
  now := releaseTime

theorem createDocument_upgrade {references : List Text}
    (h : validateReferenceList (.list (references.map .string)) "unit_metadata_refs" =
      .ok references) :
    createDocument (upgrade references) =
      .ok (.copy ((upgrade references).raw (isoformat releaseTime))) := by
  refine validateDocument_eq_ok.mpr ⟨_, rfl, rfl, fun key => ?_, ?_⟩
  · rw [Creation.keys_raw]
  · have hfield (name : String) (value : Value)
        (hmem : (Text.ofString name, value) ∈ (upgrade references).raw (isoformat releaseTime)) :=
      Creation.field_raw hmem
    have hparse := parseTimestamp_isoformat releaseTime
    rw [validateFields_eq_ok, hfield "schema_version" (.int 1) (by simp [Creation.raw]),
      hfield "operation" (.string (Text.ofString "upgrade")) (by simp [Creation.raw, upgrade]),
      hfield "phase" (.string (Text.ofString "initialized")) (by simp [Creation.raw, Phase.name]),
      hfield "previous_release" (.string (Text.ofString "/opt/guardian/releases/1"))
        (by simp [Creation.raw, upgrade, optionalText]),
      hfield "candidate_release" (.string (Text.ofString "/opt/guardian/releases/2"))
        (by simp [Creation.raw, upgrade]),
      hfield "db_revision_before" (.string (Text.ofString "0007"))
        (by simp [Creation.raw, upgrade, optionalText]),
      hfield "db_revision_after" .null (by simp [Creation.raw, upgrade, optionalText]),
      hfield "unit_metadata_refs" (.list (references.map .string))
        (by simp [Creation.raw, upgrade]),
      hfield "image_metadata_refs" (.list []) (by simp [Creation.raw, upgrade]),
      hfield "timer_state" (.string (Text.ofString "active")) (by simp [Creation.raw, upgrade]),
      hfield "controller_state" (.string (Text.ofString "active"))
        (by simp [Creation.raw, upgrade]),
      hfield "created_at" (.string (isoformat releaseTime)) (by simp [Creation.raw]),
      hfield "updated_at" (.string (isoformat releaseTime)) (by simp [Creation.raw])]
    exact ⟨rfl, .upgrade, rfl, .initialized, rfl,
      some (Text.ofString "/opt/guardian/releases/1"), rfl,
      some (Text.ofString "/opt/guardian/releases/2"), rfl, by decide, by decide, by decide,
      by decide, ⟨_, rfl⟩, ⟨_, rfl⟩, ⟨_, h⟩, ⟨_, rfl⟩, ⟨.active, rfl⟩, ⟨.active, rfl⟩, releaseTime,
      hparse _, releaseTime, hparse _, Nat.lt_irrefl _⟩

/-- Seventeen paths of some four thousand characters each. -/
def longReferences : List Text :=
  (List.range 17).map fun i => slash :: List.replicate (4000 + i) (Text.ofChar 'a')

theorem validateReferenceList_long :
    validateReferenceList (.list (longReferences.map .string)) "unit_metadata_refs" =
      .ok longReferences := by
  have hvalid : ∀ reference ∈ longReferences,
      validatePosixPath (.string reference) "unit_metadata_refs" false = .ok (some reference) := by
    intro reference hreference
    obtain ⟨i, -, rfl⟩ := List.mem_map.mp hreference
    have hcharacter {c : CodePoint} (hc : c ∈ List.replicate (4000 + i) (Text.ofChar 'a')) :
        c = Text.ofChar 'a' := List.eq_of_mem_replicate hc
    have hlong {short : Text} (hshort : short.length < 4000) :
        List.replicate (4000 + i) (Text.ofChar 'a') ≠ short := by
      rintro rfl
      rw [List.length_replicate] at hshort
      omega
    apply validatePosixPath_single (hlong (by decide)) ⟨hlong (by decide), hlong (by decide)⟩
    · intro hmem
      exact absurd (hcharacter hmem) (by decide)
    · intro c hc
      rw [hcharacter hc]
      decide
  have hnodup : longReferences.Nodup := by
    refine List.nodup_range.map fun i j h => ?_
    have hlength := congrArg List.length h
    simp only [List.length_cons, List.length_replicate] at hlength
    omega
  refine bind_eq_ok.mpr ⟨longReferences, validateReferences_strings hvalid, ?_⟩
  exact raiseIf_bind_eq_ok.mpr ⟨not_not.mpr hnodup, rfl⟩

theorem length_le_size (cs : List Char) : cs.length ≤ (String.ofList cs).toUTF8.size := by
  show cs.length ≤ (String.ofList cs).utf8ByteSize
  rw [String.utf8ByteSize_ofList]
  induction cs with
  | nil => exact le_rfl
  | cons c cs ih =>
    have hpos := c.utf8Size_pos
    rw [String.utf8Len_cons, List.length_cons]
    omega

theorem maxJournalBytes_lt_long :
    maxJournalBytes <
      (payload (.copy ((upgrade longReferences).raw (isoformat releaseTime)))).size := by
  let document : JournalDocument := .copy ((upgrade longReferences).raw (isoformat releaseTime))
  have hmem : (Text.ofString "unit_metadata_refs", .list (longReferences.map .string)) ∈
      document.members := by
    rw [Creation.members_raw]
    simp [Creation.raw, upgrade]
  have hitem : ∀ item ∈ longReferences.map .string,
      4000 ≤ (dumps (.indented 2) 2 item).length := by
    intro item hitem
    obtain ⟨reference, hreference, rfl⟩ := List.mem_map.mp hitem
    obtain ⟨i, -, rfl⟩ := List.mem_map.mp hreference
    have hquote := length_lt_quote (slash :: List.replicate (4000 + i) (Text.ofChar 'a'))
    rw [List.length_cons, List.length_replicate] at hquote
    rw [dumps]
    omega
  have hlist := mul_lt_length_dumps_list (.indented 2) 1 4000 hitem
  have hdict : (dumps (.indented 2) 1 (.list (longReferences.map .string))).length <
      (dumps (.indented 2) 0 (.dict document.members)).length :=
    length_lt_dumps_dict (.indented 2) 0 hmem
  have hsize := length_le_size (documentText document)
  have hlength : (longReferences.map Value.string).length = 17 := by
    rw [List.length_map, longReferences, List.length_map, List.length_range]
  rw [hlength] at hlist
  rw [documentText, List.length_append] at hsize
  show 64 * 1024 < (payload document).size
  rw [payload, documentText]
  omega

/-- A journal of seventeen long references is written, and cannot be read any more. -/
theorem journal_too_long : ∃ created journal,
    createDocument (upgrade longReferences) = .ok created ∧
      atomicWriteDocument none none (.dict created.members) = (.ok (), journal) ∧
      readDocument journal = .error (.of "journal file has an invalid size") := by
  have hcreated := createDocument_upgrade validateReferenceList_long
  have hvalid := valid_of_validateDocument hcreated
  refine ⟨_, _, hcreated, (atomicWriteDocument_eq_ok hvalid).mpr ⟨rfl, rfl⟩, ?_⟩
  rw [readDocument_written, if_pos maxJournalBytes_lt_long]

def preparation : Update where
  phase := Text.ofString "prepared"
  changes := [(Text.ofString "timer_state", .string (Text.ofString "inactive"))]
  timestamp := none
  now := releaseTime

def upgradeDocument : JournalDocument := .copy ((upgrade []).raw (isoformat releaseTime))

theorem isSome_preparation :
    (history upgradeDocument [preparation]).toOption.isSome = true := by decide +kernel

def preparedDocuments : List JournalDocument :=
  (history upgradeDocument [preparation]).toOption.get isSome_preparation

theorem history_preparation : history upgradeDocument [preparation] = .ok preparedDocuments :=
  eq_ok_of_isSome isSome_preparation

theorem journal_readable_upgrade :
    ((∀ document ∈ preparedDocuments, ReadsBack document) ∧
      (∀ document ∈ preparedDocuments, SameOutside upgradeDocument document) ∧
      preparedDocuments.IsChain UpdatedBefore) ↔
    ∀ document ∈ preparedDocuments, Fits document :=
  journal_readable_iff (createDocument_upgrade rfl) history_preparation

end VpsGuardian.Lifecycle
