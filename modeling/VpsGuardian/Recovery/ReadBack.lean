import VpsGuardian.Recovery.Manifests

/-!
A manifest that comes back from its file.

It comes back as it was, up to the order of its members, and its artifacts are
the regular files that do not carry the manifest's own name. It is accepted
again, unless one of these files has a backslash in its path.
-/

namespace VpsGuardian.Recovery

open Lib PythonJson

/-! ### Texts -/

theorem isHexDigit_of_isLowerHexDigit {c : CodePoint} (h : isLowerHexDigit c = true) :
    isHexDigit c = true ∧ lowerCodePoint c = c := by
  simp only [isLowerHexDigit, isDigit, Bool.or_eq_true, Bool.and_eq_true,
    decide_eq_true_eq] at h
  refine ⟨?_, if_neg (by omega)⟩
  simp only [isHexDigit, isDigit, Bool.or_eq_true, Bool.and_eq_true, decide_eq_true_eq]
  omega

namespace Digest

variable (digest : Digest)

theorem isLowerHexDigit_of_mem {c : CodePoint} (h : c ∈ digest.text) :
    isLowerHexDigit c = true := by
  have hvalid := digest.valid
  rw [Bool.and_eq_true, List.all_eq_true] at hvalid
  exact hvalid.2 c h

theorem isHex_text : isHex 64 64 digest.text = true := by
  have hvalid := digest.valid
  rw [Bool.and_eq_true, beq_iff_eq] at hvalid
  have hall : digest.text.all isHexDigit = true := List.all_eq_true.mpr fun c hc =>
    (isHexDigit_of_isLowerHexDigit (digest.isLowerHexDigit_of_mem hc)).1
  simp [isHex, hvalid.1, hall]

theorem lower_text : lower digest.text = digest.text := by
  conv_rhs => rw [← List.map_id digest.text]
  exact List.map_congr_left fun c hc =>
    (isHexDigit_of_isLowerHexDigit (digest.isLowerHexDigit_of_mem hc)).2

theorem not_hasPair_text : Text.hasPair digest.text = false := by
  apply Text.not_hasPair_of_forall
  intro c hc
  have hchar := digest.isLowerHexDigit_of_mem hc
  simp only [isLowerHexDigit, isDigit, Bool.or_eq_true, Bool.and_eq_true,
    decide_eq_true_eq] at hchar
  simp only [Text.isHigh, Json.isHighSurrogate, Bool.and_eq_false_iff, decide_eq_false_iff_not]
  omega

theorem text_injective : Function.Injective Digest.text := by
  rintro ⟨s, hs⟩ ⟨t, ht⟩ h
  cases h
  rfl

end Digest

theorem not_isHigh_of_lt {c : CodePoint} (h : c.val < 0xD800) : Text.isHigh c = false := by
  simp only [Text.isHigh, Json.isHighSurrogate, Bool.and_eq_false_iff, decide_eq_false_iff_not]
  omega

theorem isAlphanumeric_lt {c : CodePoint} (h : isAlphanumeric c = true) : c.val < 0xD800 := by
  simp only [isAlphanumeric, isDigit, Bool.or_eq_true, Bool.and_eq_true, decide_eq_true_eq] at h
  omega

theorem not_hasPair_of_isSafeName {s : Text} (h : isSafeName s = true) :
    Text.hasPair s = false := by
  apply Text.not_hasPair_of_forall
  intro c hc
  cases s with
  | nil => cases hc
  | cons first rest =>
    simp only [isSafeName, Bool.and_eq_true, List.all_eq_true, Bool.or_eq_true] at h
    obtain ⟨⟨hfirst, -⟩, hrest⟩ := h
    obtain rfl | hc := List.mem_cons.mp hc
    · exact not_isHigh_of_lt (isAlphanumeric_lt hfirst)
    · obtain hc | hc := hrest c hc
      · exact not_isHigh_of_lt (isAlphanumeric_lt hc)
      · obtain ⟨d, -, rfl⟩ := List.mem_map.mp (List.contains_iff_mem.mp hc)
        exact Text.isHigh_ofChar d

theorem not_isHigh_of_isHexDigit {c : CodePoint} (h : isHexDigit c = true) :
    Text.isHigh c = false := by
  apply not_isHigh_of_lt
  simp only [isHexDigit, isDigit, Bool.or_eq_true, Bool.and_eq_true, decide_eq_true_eq] at h
  omega

theorem not_hasPair_of_isHex {least most : Nat} {s : Text} (h : isHex least most s = true) :
    Text.hasPair s = false := by
  rw [isHex, Bool.and_eq_true, List.all_eq_true] at h
  exact Text.not_hasPair_of_forall fun c hc => not_isHigh_of_isHexDigit (h.2 c hc)

/-! ### Recovery metadata -/

theorem isHexDigit_lowerCodePoint {c : CodePoint} (h : isHexDigit c = true) :
    isHexDigit (lowerCodePoint c) = true ∧
      (lowerCodePoint c = Text.ofChar '0' → c = Text.ofChar '0') := by
  have hc := c.isLt
  have hzero : (Text.ofChar '0').val = 48 := rfl
  unfold lowerCodePoint
  split_ifs with hupper
  · simp only [isHexDigit, isDigit, Bool.or_eq_true, Bool.and_eq_true, decide_eq_true_eq,
      Fin.ext_iff, Fin.val_ofNat, hzero] at h ⊢
    omega
  · exact ⟨h, id⟩

theorem isCommit_lower {s : Text} (h : isCommit s = true) : isCommit (lower s) = true := by
  simp only [isCommit, isHex, Bool.and_eq_true, decide_eq_true_eq, List.all_eq_true,
    List.any_eq_true, bne_iff_ne] at h ⊢
  obtain ⟨⟨⟨hle, hge⟩, hall⟩, c, hc, hzero⟩ := h
  refine ⟨⟨⟨?_, ?_⟩, ?_⟩, lowerCodePoint c, List.mem_map_of_mem hc, ?_⟩
  · rwa [lower, List.length_map]
  · rwa [lower, List.length_map]
  · intro d hd
    obtain ⟨c, hc, rfl⟩ := List.mem_map.mp hd
    exact (isHexDigit_lowerCodePoint (hall c hc)).1
  · exact fun heq => hzero ((isHexDigit_lowerCodePoint (hall c hc)).2 heq)

theorem mem_sortedSet {texts : List Text} {s : Text} : s ∈ sortedSet texts ↔ s ∈ texts := by
  rw [sortedSet, (List.perm_insertionSort _ _).mem_iff, List.mem_dedup]

variable {categories : Categories}

theorem validateReferences_eq_ok {label : String} {values : List Value} {texts : List Text} :
    validateReferences categories label values = .ok texts ↔
      values = texts.map .string ∧ ∀ s ∈ texts, isReference categories s = true := by
  induction values generalizing texts with
  | nil =>
    constructor
    · intro h
      cases h
      simp
    · rintro ⟨h, -⟩
      obtain rfl := List.map_eq_nil_iff.mp h.symm
      rfl
  | cons value values ih =>
    cases value with
    | string s =>
      rw [validateReferences, raiseIf_bind_eq_ok]
      simp only [bind_eq_ok, ih, Bool.not_eq_false]
      constructor
      · rintro ⟨hs, texts, ⟨rfl, hall⟩, h⟩
        cases h
        exact ⟨rfl, List.forall_mem_cons.mpr ⟨hs, hall⟩⟩
      · rintro ⟨hmap, hall⟩
        cases texts with
        | nil => cases hmap
        | cons t texts =>
          obtain ⟨hs, hvalues⟩ := List.cons.inj hmap
          obtain ⟨ht, htexts⟩ := List.forall_mem_cons.mp hall
          obtain rfl := Value.string.inj hs
          exact ⟨ht, texts, ⟨hvalues, htexts⟩, rfl⟩
    | null | bool | int | float | nonFinite | list | dict =>
      constructor
      · intro h
        cases h
      · rintro ⟨hmap, -⟩
        cases texts <;> cases hmap

/-- What the checks of the metadata leave. -/
structure Metadata.Valid (categories : Categories) (metadata : Metadata) : Prop where
  commit : isCommit metadata.sourceCommit = true
  alembic : ∀ s ∈ metadata.alembicRevisions, isReference categories s = true
  configuration : ∀ s ∈ metadata.configurationReferences, isReference categories s = true
  certificates : ∀ s ∈ metadata.publicCertificateReferences, isReference categories s = true
  secrets : ∀ s ∈ metadata.externalSecretReferences, isReference categories s = true
  alembic_ne_nil : metadata.alembicRevisions ≠ []
  secrets_ne_nil : metadata.externalSecretReferences ≠ []

theorem sortedSet_ne_nil {texts : List Text} (h : texts ≠ []) : sortedSet texts ≠ [] := by
  obtain ⟨s, hs⟩ := List.exists_mem_of_ne_nil texts h
  exact List.ne_nil_of_mem (mem_sortedSet.mpr hs)

theorem valid_of_validateRecoveryMetadata {members : List (Text × Value)} {metadata : Metadata}
    (h : validateRecoveryMetadata categories members = .ok metadata) :
    metadata.Valid categories := by
  simp only [validateRecoveryMetadata, raiseIf_bind_eq_ok, orRaise_bind_eq_ok] at h
  obtain ⟨-, commit, -, hcommit, alembic, -, halembic, configuration, -, certificates, -, secrets,
    -, hsecrets, h⟩ := h
  simp only [bind_eq_ok, validateReferences_eq_ok] at h
  obtain ⟨alembic, ⟨rfl, ha⟩, configuration, ⟨rfl, hc⟩, certificates, ⟨rfl, hp⟩, secrets,
    ⟨rfl, hs⟩, h⟩ := h
  cases h
  constructor
  · exact isCommit_lower (Bool.eq_true_of_not_eq_false hcommit)
  · exact fun s hmem => ha s (mem_sortedSet.mp hmem)
  · exact fun s hmem => hc s (mem_sortedSet.mp hmem)
  · exact fun s hmem => hp s (mem_sortedSet.mp hmem)
  · exact fun s hmem => hs s (mem_sortedSet.mp hmem)
  · exact sortedSet_ne_nil fun hnil => halembic (by simp [hnil])
  · exact sortedSet_ne_nil fun hnil => hsecrets (by simp [hnil])

theorem not_hasPair_of_isReference {s : Text} (h : isReference categories s = true) :
    Text.hasPair s = false := by
  apply Text.not_hasPair_of_forall
  intro c hc
  apply Bool.eq_false_of_not_eq_true
  intro hhigh
  simp only [Text.isHigh, Json.isHighSurrogate, Bool.and_eq_true, decide_eq_true_eq] at hhigh
  simp only [isReference, Bool.and_eq_true, Bool.not_eq_true', List.any_eq_false] at h
  exact h.2 c hc (categories.surrogate c (by omega) (by omega))

theorem readBack_textsValue {texts : List Text}
    (h : ∀ s ∈ texts, isReference categories s = true) :
    readBack (textsValue texts) = textsValue texts := by
  rw [textsValue, readBack, readBackItems_eq_map, List.map_map]
  congr 1
  exact List.map_congr_left fun s hs => readBack_string (not_hasPair_of_isReference (h s hs))

/-! ### What comes back -/

section Back

variable {fields : List (String × Value)} {back : List (Text × Value)}

/-- A dictionary as it comes back: every key has the value it was written with. -/
structure ComesBack (fields : List (String × Value)) (back : List (Text × Value)) : Prop where
  nodup : (back.map Prod.fst).Nodup
  lookup : ∀ key, back.lookup key = ((named fields).lookup key).map readBack

theorem exists_comesBack (hnodup : (fields.map Prod.fst).Nodup) :
    ∃ back, readBack (.dict (named fields)) = .dict back ∧ ComesBack fields back := by
  obtain ⟨back, hback, hkeys, hlookup⟩ := readBack_named hnodup
  exact ⟨back, hback, hkeys, hlookup⟩

theorem ComesBack.field (h : ComesBack fields back) (name : String) :
    field back name = (fields.lookup name).map readBack := by
  rw [Recovery.field, h.lookup, lookup_named]

theorem ComesBack.exists_name (h : ComesBack fields back) {member : Text × Value}
    (hmem : member ∈ back) : ∃ name ∈ fields.map Prod.fst, Text.ofString name = member.1 := by
  have hsome : back.lookup member.1 = some member.2 := (lookup_eq_some_iff h.nodup).mpr hmem
  rw [h.lookup, Option.map_eq_some_iff] at hsome
  obtain ⟨value, hvalue, -⟩ := hsome
  obtain ⟨before, after, hsplit, -⟩ := List.lookup_eq_some_iff.mp hvalue
  have hkey : member.1 ∈ (named fields).map Prod.fst := by simp [hsplit]
  rw [map_fst_named] at hkey
  exact List.mem_map.mp hkey

end Back

def Metadata.fields (metadata : Metadata) : List (String × Value) :=
  [("source_commit", .string metadata.sourceCommit),
    ("alembic_revisions", textsValue metadata.alembicRevisions),
    ("configuration_references", textsValue metadata.configurationReferences),
    ("public_certificate_references", textsValue metadata.publicCertificateReferences),
    ("external_secret_references", textsValue metadata.externalSecretReferences),
    ("contains_secret_values", .bool false)]

/-- Checked metadata pass the check again when they come back. -/
theorem Metadata.Valid.validate_back {metadata : Metadata} (h : metadata.Valid categories)
    {back : List (Text × Value)} (hback : ComesBack metadata.fields back) :
    ∃ again, validateRecoveryMetadata categories back = .ok again := by
  have hcommit : field back "source_commit" = some (.string metadata.sourceCommit) := by
    have hpair : Text.hasPair metadata.sourceCommit = false := by
      have hhex := h.commit
      rw [isCommit, Bool.and_eq_true] at hhex
      exact not_hasPair_of_isHex hhex.1
    rw [hback.field, ← readBack_string hpair]
    rfl
  have halembic : field back "alembic_revisions" = some (textsValue metadata.alembicRevisions) := by
    rw [hback.field, ← readBack_textsValue h.alembic]
    rfl
  have hconfiguration : field back "configuration_references" =
      some (textsValue metadata.configurationReferences) := by
    rw [hback.field, ← readBack_textsValue h.configuration]
    rfl
  have hcertificates : field back "public_certificate_references" =
      some (textsValue metadata.publicCertificateReferences) := by
    rw [hback.field, ← readBack_textsValue h.certificates]
    rfl
  have hsecrets : field back "external_secret_references" =
      some (textsValue metadata.externalSecretReferences) := by
    rw [hback.field, ← readBack_textsValue h.secrets]
    rfl
  have hfalse : field back "contains_secret_values" = some (.bool false) := by
    rw [hback.field]
    rfl
  have hkeys : ¬(back.any fun member => !(allowedKeys.map Text.ofString).contains member.1) =
      true := by
    rw [Bool.not_eq_true, List.any_eq_false]
    intro member hmember
    obtain ⟨name, hname, hkey⟩ := hback.exists_name hmember
    have hallowed : member.1 ∈ allowedKeys.map Text.ofString := hkey ▸ List.mem_map_of_mem hname
    rw [List.contains_iff_mem.mpr hallowed]
    exact Bool.false_ne_true
  have hne {texts : List Text} (hnil : texts ≠ []) : ¬(texts.map Value.string).isEmpty = true := by
    simpa using hnil
  refine ⟨⟨lower metadata.sourceCommit, sortedSet metadata.alembicRevisions,
    sortedSet metadata.configurationReferences, sortedSet metadata.publicCertificateReferences,
    sortedSet metadata.externalSecretReferences⟩, ?_⟩
  simp only [validateRecoveryMetadata, raiseIf_bind_eq_ok, orRaise_bind_eq_ok, hcommit, halembic,
    hconfiguration, hcertificates, hsecrets, hfalse]
  refine ⟨?_, _, rfl, ?_, _, rfl, hne h.alembic_ne_nil, _, rfl, _, rfl, _, rfl,
    hne h.secrets_ne_nil, ?_⟩
  · rintro (hany | hfalse)
    · exact hkeys hany
    · cases hfalse
  · simp [h.commit]
  · rw [validateReferences_eq_ok.mpr ⟨rfl, h.alembic⟩,
      validateReferences_eq_ok.mpr ⟨rfl, h.configuration⟩,
      validateReferences_eq_ok.mpr ⟨rfl, h.certificates⟩,
      validateReferences_eq_ok.mpr ⟨rfl, h.secrets⟩]
    rfl

/-! ### Artifacts -/

section Artifacts

variable (sha256 : ByteArray → Digest)

/-- A regular file that does not carry the manifest's name. -/
def listedFile? (entry : List FileName × Node) : Option (List FileName × ByteArray) :=
  if entry.1.getLast? = some manifestName then none
  else entry.2.content?.map fun content => (entry.1, content)

def listedFiles (entries : List (List FileName × Node)) : List (List FileName × ByteArray) :=
  entries.filterMap listedFile?

theorem collectArtifacts_eq_ok {entries : List (List FileName × Node)}
    {artifacts : List Artifact} (h : collectArtifacts sha256 entries = .ok artifacts) :
    artifacts = (listedFiles entries).map (artifactOf sha256) := by
  induction entries generalizing artifacts with
  | nil =>
    cases h
    rfl
  | cons entry entries ih =>
    obtain ⟨path, node⟩ := entry
    rw [collectArtifacts] at h
    split_ifs at h with hskip
    · have hnone : listedFile? (path, node) = none := by
        obtain hname | hdir := hskip
        · exact if_pos hname
        · cases node with
          | file => cases hdir
          | directory | link | special => simp [listedFile?, Node.content?]
      rw [listedFiles, List.filterMap_cons_none hnone]
      exact ih h
    · rw [not_or] at hskip
      obtain ⟨content, hcontent, h⟩ := orRaise_bind_eq_ok.mp h
      obtain ⟨rest, hrest, h⟩ := bind_eq_ok.mp h
      cases h
      have hsome : listedFile? (path, node) = some (path, content) := by
        rw [listedFile?, if_neg hskip.1, hcontent]
        rfl
      rw [listedFiles, List.filterMap_cons_some hsome, List.map_cons, ih hrest]
      rfl

theorem mem_listedFiles {entries : List (FileName × Node)} {file : List FileName × ByteArray} :
    file ∈ listedFiles (sortPaths (belowEntries entries)) ↔
      file ∈ filesBelow entries ∧ file.1.getLast? ≠ some manifestName := by
  obtain ⟨path, content⟩ := file
  have hperm : (sortPaths (belowEntries entries)).Perm (belowEntries entries) :=
    List.perm_insertionSort _ _
  rw [listedFiles, List.mem_filterMap, mem_filesBelow]
  constructor
  · rintro ⟨⟨path', node⟩, hmem, h⟩
    unfold listedFile? at h
    split_ifs at h with hname
    obtain ⟨content', hcontent, hfile⟩ := Option.map_eq_some_iff.mp h
    obtain ⟨rfl, rfl⟩ := Prod.mk.inj hfile
    cases node with
    | file =>
      cases hcontent
      exact ⟨hperm.subset hmem, hname⟩
    | directory | link | special => cases hcontent
  · rintro ⟨hmem, hname⟩
    exact ⟨_, hperm.symm.subset hmem, if_neg hname⟩

theorem nodup_listedFiles {entries : List (FileName × Node)}
    (h : distinctEntries entries = true) :
    ((listedFiles (sortPaths (belowEntries entries))).map Prod.fst).Nodup := by
  have hperm : (sortPaths (belowEntries entries)).Perm (belowEntries entries) :=
    List.perm_insertionSort _ _
  have hnodup := ((hperm.map Prod.fst).nodup_iff).mpr (nodup_belowEntries entries h)
  refine hnodup.sublist ?_
  rw [listedFiles]
  induction sortPaths (belowEntries entries) with
  | nil => exact List.Sublist.slnil
  | cons entry entries ih =>
    by_cases hname : entry.1.getLast? = some manifestName
    · simpa [List.filterMap_cons, listedFile?, hname] using ih.cons entry.1
    · cases hcontent : entry.2.content? with
      | none => simpa [List.filterMap_cons, listedFile?, hname, hcontent] using ih.cons entry.1
      | some content => simpa [List.filterMap_cons, listedFile?, hname, hcontent] using ih

def artifactFields (file : List FileName × ByteArray) : List (String × Value) :=
  [("path", .string (pathText file.1)), ("size", .int file.2.size),
    ("sha256", .string (sha256 file.2).text)]

/-- What the artifact of a file is read as. -/
def entryOf (file : List FileName × ByteArray) : Text × Int × Text :=
  (pathText file.1, file.2.size, (sha256 file.2).text)

theorem components_pathText {path : List FileName} (hne : path ≠ []) :
    (PosixPath.parse (pathText path)).isAbsolute = false ∧
      (PosixPath.parse (pathText path)).text = pathText path ∧
      ∀ part ∈ (PosixPath.parse (pathText path)).components,
        part ∉ [[], [PosixPath.dot], [PosixPath.dot, PosixPath.dot]] := by
  rw [parse_pathText hne]
  refine ⟨rfl, ?_, fun part hpart => ?_⟩
  · exact if_neg (pathText_ne_nil hne)
  · obtain ⟨name, -, rfl⟩ := List.mem_map.mp hpart
    simp [name.text_ne_nil, name.text_ne_dot, name.text_ne_dots]

theorem parseArtifact_back {file : List FileName × ByteArray} (hne : file.1 ≠ [])
    (hmanifest : file.1 ≠ [manifestName]) {seen : List Text} {entry : Text × Int × Text} :
    parseArtifact seen (readBack (artifactOf sha256 file).toValue) = .ok entry ↔
      backslash ∉ pathText file.1 ∧ pathText file.1 ∉ seen ∧ entry = entryOf sha256 file := by
  have hnames : ((artifactFields sha256 file).map Prod.fst).Nodup := by simp [artifactFields]
  obtain ⟨back, hvalue, hback⟩ := exists_comesBack hnames
  have hdict : readBack (artifactOf sha256 file).toValue = .dict back := hvalue
  have hpath : field back "path" = some (.string (pathText file.1)) := by
    rw [hback.field, ← readBack_string (not_hasPair_pathText file.1)]
    rfl
  have hsize : field back "size" = some (.int file.2.size) := by
    rw [hback.field]
    rfl
  have hdigest : field back "sha256" = some (.string (sha256 file.2).text) := by
    rw [hback.field, ← readBack_string (sha256 file.2).not_hasPair_text]
    rfl
  obtain ⟨habsolute, htext, hparts⟩ := components_pathText hne
  have hreserved : pathText file.1 ≠ manifestName.text := by
    intro heq
    have hsingle : pathText [manifestName] = manifestName.text := by
      simp [pathText, List.intercalate]
    exact hmanifest ((pathText_inj hne (List.cons_ne_nil _ _)).mp (heq.trans hsingle.symm))
  have hnegative : ¬(file.2.size : Int) < 0 := by omega
  simp only [hdict, parseArtifact, hpath, hsize, hdigest, raiseIf_bind_eq_ok]
  constructor
  · rintro ⟨hinvalid, -, hduplicate, h⟩
    cases h
    rw [not_or, not_or] at hinvalid
    rw [not_or] at hduplicate
    refine ⟨hinvalid.2.1, hduplicate.2, ?_⟩
    rw [entryOf, (sha256 file.2).lower_text]
  · rintro ⟨hbackslash, hseen, rfl⟩
    refine ⟨?_, ?_, ?_, ?_⟩
    · rintro (h | h | h | h)
      · exact pathText_ne_nil hne h
      · exact hbackslash h
      · exact hnegative h
      · rw [(sha256 file.2).isHex_text] at h
        cases h
    · rintro (h | h | ⟨part, hpart, hmem⟩)
      · rw [habsolute] at h
        cases h
      · exact h htext
      · exact hparts part hpart hmem
    · rintro (h | h)
      · exact hreserved h
      · exact hseen h
    · rw [(sha256 file.2).lower_text]
      rfl

theorem parseArtifacts_back {files : List (List FileName × ByteArray)}
    (hfiles : ∀ file ∈ files, file.1 ≠ [] ∧ file.1 ≠ [manifestName])
    (hnodup : (files.map Prod.fst).Nodup) {normalized result : List (Text × Int × Text)}
    (hnew : ∀ file ∈ files, pathText file.1 ∉ normalized.map Prod.fst) :
    parseArtifacts normalized (files.map fun file => readBack (artifactOf sha256 file).toValue) =
        .ok result ↔
      (∀ file ∈ files, backslash ∉ pathText file.1) ∧
        result = normalized ++ files.map (entryOf sha256) := by
  induction files generalizing normalized with
  | nil => simp [parseArtifacts, eq_comm]
  | cons file files ih =>
    obtain ⟨hfile, hfiles⟩ := List.forall_mem_cons.mp hfiles
    obtain ⟨hfresh, hnew⟩ := List.forall_mem_cons.mp hnew
    rw [List.map_cons, List.nodup_cons] at hnodup
    have hnext : ∀ other ∈ files,
        pathText other.1 ∉ (normalized ++ [entryOf sha256 file]).map Prod.fst := by
      intro other hother hmem
      rw [List.map_append, List.mem_append] at hmem
      obtain hmem | hmem := hmem
      · exact hnew other hother hmem
      · have heq : pathText other.1 = pathText file.1 := by simpa [entryOf] using hmem
        rw [pathText_inj (hfiles other hother).1 hfile.1] at heq
        exact hnodup.1 (heq ▸ List.mem_map_of_mem hother)
    rw [List.map_cons, parseArtifacts, bind_eq_ok]
    constructor
    · rintro ⟨entry, hentry, h⟩
      obtain ⟨hbackslash, -, rfl⟩ := (parseArtifact_back sha256 hfile.1 hfile.2).mp hentry
      obtain ⟨hall, rfl⟩ := (ih hfiles hnodup.2 hnext).mp h
      exact ⟨List.forall_mem_cons.mpr ⟨hbackslash, hall⟩, by simp⟩
    · rintro ⟨hall, rfl⟩
      obtain ⟨hbackslash, hall⟩ := List.forall_mem_cons.mp hall
      refine ⟨entryOf sha256 file,
        (parseArtifact_back sha256 hfile.1 hfile.2).mpr ⟨hbackslash, hfresh, rfl⟩, ?_⟩
      exact (ih hfiles hnodup.2 hnext).mpr ⟨hall, by simp⟩

end Artifacts

/-! ### Manifests -/

theorem fromUTF8?_toUTF8 (s : String) : String.fromUTF8? s.toUTF8 = some s := by
  have hvalid : s.toUTF8.IsValidUTF8 := s.isValidUTF8
  rw [String.fromUTF8?, dif_pos hvalid]
  rfl

theorem universalNewlines_of_not_mem {text : List Char} (h : '\r' ∉ text) :
    universalNewlines text = text := by
  fun_induction universalNewlines text with
  | case1 => rfl
  | case2 rest => exact absurd List.mem_cons_self h
  | case3 rest => exact absurd List.mem_cons_self h
  | case4 c rest _ _ ih => rw [ih fun hmem => h (List.mem_cons_of_mem c hmem)]

/-- A manifest file holds no carriage return, so it is read as it was written. -/
theorem readText_encode (manifest : List (Text × Value)) :
    readText (encode (manifestPayload manifest)) = some (manifestPayload manifest) := by
  have hreturn : '\r' ∉ manifestPayload manifest := by
    intro h
    obtain h | h := List.mem_append.mp h
    · exact absurd (@printable_dumps .compact rfl (.dict manifest) 0 _ h) (by decide)
    · exact absurd (List.mem_singleton.mp h) (by decide)
  rw [readText, encode, fromUTF8?_toUTF8, Option.map_some, String.toList_ofList,
    universalNewlines_of_not_mem hreturn]

theorem loads_manifestPayload (manifest : List (Text × Value)) :
    loads (manifestPayload manifest) = some (readBack (.dict manifest)) := by
  refine loads_dumps .compact 0 (.dict manifest) fun c hc => ?_
  obtain rfl := List.mem_singleton.mp hc
  rfl

section Manifests

variable (sha256 : ByteArray → Digest)

def manifestFields (host service createdAt : Text) (artifacts : List Artifact)
    (metadata : Option Metadata) : List (String × Value) :=
  [("schema_version", .int 1), ("host", .string host), ("service", .string service),
    ("created_at", .string createdAt), ("backup_engine", .string (Text.ofString "restic")),
    ("artifacts", .list (artifacts.map Artifact.toValue))] ++
  metadata.toList.map fun m => ("recovery_metadata", .dict m.members)

variable {host service createdAt : Text} {metadata : Option Metadata}
  {files : List (List FileName × ByteArray)}

theorem named_manifestFields (artifacts : List Artifact) :
    named (manifestFields host service createdAt artifacts metadata) =
      manifestMembers host service createdAt artifacts metadata := by
  cases metadata <;> rfl

theorem nodup_manifestFields (artifacts : List Artifact) :
    ((manifestFields host service createdAt artifacts metadata).map Prod.fst).Nodup := by
  cases metadata <;> simp [manifestFields]

theorem withMetadata_back {artifacts : List Artifact} {back : List (Text × Value)}
    (hvalid : ∀ m ∈ metadata, m.Valid categories)
    (hback : ComesBack (manifestFields host service createdAt artifacts metadata) back) :
    ∃ manifest, withMetadata categories back = .ok manifest := by
  cases metadata with
  | none =>
    have hnone : field back "recovery_metadata" = none := by
      rw [hback.field]
      rfl
    exact ⟨back, by rw [withMetadata, hnone]⟩
  | some m =>
    have hm := hvalid m rfl
    have hfields : (m.fields.map Prod.fst).Nodup := by simp [Metadata.fields]
    obtain ⟨members, hvalue, hmembers⟩ := exists_comesBack hfields
    have hsome : field back "recovery_metadata" = some (.dict members) := by
      rw [hback.field, ← hvalue]
      rfl
    obtain ⟨again, hagain⟩ := hm.validate_back hmembers
    rw [withMetadata, hsome]
    exact ⟨_, bind_eq_ok.mpr ⟨again, hagain, rfl⟩⟩

/-- The manifest of some files is accepted when it comes back, unless a path has a backslash. -/
theorem parseManifestPayload_back (hhost : isSafeName host = true)
    (hservice : isSafeName service = true) (hvalid : ∀ m ∈ metadata, m.Valid categories)
    (hne : files ≠ []) (hfiles : ∀ file ∈ files, file.1 ≠ [] ∧ file.1 ≠ [manifestName])
    (hnodup : (files.map Prod.fst).Nodup) {artifacts : List (Text × Int × Text)} :
    (∃ manifest, parseManifestPayload categories (readBack (.dict (manifestMembers host service
        createdAt (files.map (artifactOf sha256)) metadata))) none none =
          .ok (manifest, artifacts)) ↔
      (∀ file ∈ files, backslash ∉ pathText file.1) ∧
        artifacts = files.map (entryOf sha256) := by
  have hfields : ((manifestFields host service createdAt (files.map (artifactOf sha256))
      metadata).map Prod.fst).Nodup := nodup_manifestFields _
  obtain ⟨back, hvalue, hback⟩ := exists_comesBack hfields
  rw [named_manifestFields] at hvalue
  have hversion : field back "schema_version" = some (.int 1) := by
    rw [hback.field]
    rfl
  have hhostField : field back "host" = some (.string host) := by
    rw [hback.field, ← readBack_string (not_hasPair_of_isSafeName hhost)]
    rfl
  have hserviceField : field back "service" = some (.string service) := by
    rw [hback.field, ← readBack_string (not_hasPair_of_isSafeName hservice)]
    rfl
  have hartifacts : field back "artifacts" =
      some (.list (files.map fun file => readBack (artifactOf sha256 file).toValue)) := by
    have hitems : readBack (.list ((files.map (artifactOf sha256)).map Artifact.toValue)) =
        .list (files.map fun file => readBack (artifactOf sha256 file).toValue) := by
      rw [readBack, readBackItems_eq_map, List.map_map, List.map_map]
      rfl
    rw [hback.field, ← hitems]
    rfl
  have hparse (result : List (Text × Int × Text)) := @parseArtifacts_back sha256 files hfiles
    hnodup [] result fun _ _ => List.not_mem_nil
  obtain ⟨checked, hchecked⟩ := withMetadata_back hvalid hback
  simp only [hvalue, parseManifestPayload, validateName, raiseIf_bind_eq_ok, orRaise_bind_eq_ok,
    hversion, hhostField, hserviceField, hartifacts]
  simp only [bind_eq_ok, hchecked]
  constructor
  · rintro ⟨manifest, -, _, hh, _, hs, -, -, -, -, _, hitems, -, found, hfound, _, -, h⟩
    cases hh
    cases hs
    cases hitems
    obtain ⟨hall, rfl⟩ := (hparse found).mp hfound
    cases h
    exact ⟨hall, rfl⟩
  · rintro ⟨hall, rfl⟩
    refine ⟨checked, ?_, host, rfl, service, rfl, ?_, ?_, ?_, ?_, _, rfl, ?_,
      files.map (entryOf sha256), (hparse _).mpr ⟨hall, rfl⟩, checked, rfl, rfl⟩
    · simp [equalsOne]
    · simp [hhost]
    · simp [hservice]
    · simp
    · simp
    · simpa using hne

end Manifests

end VpsGuardian.Recovery
