import VpsGuardian.Recovery.ReadBack

/-!
A manifest verifies the tree it was written for.

A restored directory passes its checks exactly when its regular files are those
that were staged. The writer and the reader disagree about three kinds of files,
which the last condition leaves out.
-/

namespace VpsGuardian.Recovery

open Lib PythonJson

variable {categories : Categories}

/-! ### Restored trees -/

/-- A restored tree has the regular files of a staged one, and besides them only directories. -/
structure Faithful (restored : Tree) (staged : List (FileName × Node)) : Prop where
  plain : ∀ entry ∈ belowEntries restored.entries, entry.2.isPlain = true
  files : ∀ file, file ∈ restored.files ↔ file ∈ filesBelow staged

/-- SHA-256 tells the contents of a restored tree from those of the staged one. -/
def CollisionFree (sha256 : ByteArray → Digest) (restored : Tree)
    (staged : List (FileName × Node)) : Prop :=
  ∀ file ∈ restored.files, ∀ file' ∈ filesBelow staged,
    sha256 file.2 = sha256 file'.2 → file.2 = file'.2

def root (tree : Tree) : Root := ⟨false, some (.directory tree.entries)⟩

/-- The verification of a restored tree with a recorded checksum succeeds. -/
def Accepts (sha256 : ByteArray → Digest) (categories : Categories) (tree : Tree)
    (checksum : Text) : Prop :=
  ∃ manifest,
    loadAndVerifyManifest sha256 categories (root tree) (some checksum) none none = .ok manifest

/-- No regular file below the root carries the manifest's name. -/
def NoNestedManifest (files : List (List FileName × ByteArray)) : Prop :=
  ∀ file ∈ files, file.1.getLast? = some manifestName → file.1 = [manifestName]

def fileTexts (tree : Tree) : List (Text × ByteArray) :=
  tree.files.map fun file => (pathText file.1, file.2)

section Trees

variable {tree : Tree}

theorem pathText_singleton (name : FileName) : pathText [name] = name.text := by
  simp [pathText, List.intercalate]

theorem map_fst_fileTexts :
    (fileTexts tree).map Prod.fst = (tree.files.map Prod.fst).map pathText := by
  rw [fileTexts, List.map_map, List.map_map]
  rfl

theorem nodup_fileTexts : ((fileTexts tree).map Prod.fst).Nodup := by
  rw [map_fst_fileTexts]
  refine List.Nodup.map_on ?_ (nodup_files tree)
  intro path hpath path' hpath' heq
  obtain ⟨file, hfile, rfl⟩ := List.mem_map.mp hpath
  obtain ⟨file', hfile', rfl⟩ := List.mem_map.mp hpath'
  exact (pathText_inj (ne_nil_of_mem_files hfile) (ne_nil_of_mem_files hfile')).mp heq

theorem lookup_fileTexts {path : List FileName} (hne : path ≠ []) {content : ByteArray} :
    (fileTexts tree).lookup (pathText path) = some content ↔ (path, content) ∈ tree.files := by
  rw [lookup_eq_some_iff nodup_fileTexts, fileTexts, List.mem_map]
  constructor
  · rintro ⟨⟨path', content'⟩, hmem, heq⟩
    obtain ⟨hpath, rfl⟩ := Prod.mk.inj heq
    rw [pathText_inj (ne_nil_of_mem_files hmem) hne] at hpath
    exact hpath ▸ hmem
  · exact fun hmem => ⟨_, hmem, rfl⟩

/-- Two files of one path are the same file. -/
theorem eq_of_mem_files {path : List FileName} {content content' : ByteArray}
    (h : (path, content) ∈ tree.files) (h' : (path, content') ∈ tree.files) :
    content = content' := by
  have hne : path ≠ [] := ne_nil_of_mem_files h
  rw [← lookup_fileTexts hne] at h h'
  exact Option.some.inj (h.symm.trans h')

theorem manifestPaths_iff :
    (((fileTexts tree).map Prod.fst).filter fun path =>
        (PosixPath.parse path).name == manifestName.text) = [manifestName.text] ↔
      NoNestedManifest tree.files ∧ ∃ content, ([manifestName], content) ∈ tree.files := by
  have hname (file : List FileName × ByteArray) (hfile : file ∈ tree.files) :
      ((PosixPath.parse (pathText file.1)).name == manifestName.text) = true ↔
        file.1.getLast? = some manifestName := by
    have hne := ne_nil_of_mem_files hfile
    rw [beq_iff_eq, name_parse_pathText hne, FileName.text_injective.eq_iff,
      List.getLast?_eq_some_getLast hne, Option.some.injEq]
  have hmem (text : Text) : text ∈ (fileTexts tree).map Prod.fst ↔
      ∃ file ∈ tree.files, pathText file.1 = text := by
    simp [fileTexts]
  constructor
  · intro h
    constructor
    · intro file hfile hlast
      have hfilter : pathText file.1 ∈ [manifestName.text] := by
        rw [← h, List.mem_filter]
        exact ⟨(hmem _).mpr ⟨file, hfile, rfl⟩, (hname file hfile).mpr hlast⟩
      rw [List.mem_singleton, ← pathText_singleton manifestName] at hfilter
      exact (pathText_inj (ne_nil_of_mem_files hfile) (List.cons_ne_nil _ _)).mp hfilter
    · have hself : manifestName.text ∈ (fileTexts tree).map Prod.fst := by
        have hfilter := List.mem_singleton_self manifestName.text
        rw [← h] at hfilter
        exact (List.mem_filter.mp hfilter).1
      obtain ⟨⟨path, content⟩, hfile, htext⟩ := (hmem _).mp hself
      rw [← pathText_singleton manifestName,
        pathText_inj (ne_nil_of_mem_files hfile) (List.cons_ne_nil _ _)] at htext
      exact ⟨content, htext ▸ hfile⟩
  · rintro ⟨hnested, content, hfile⟩
    have hall : ∀ text ∈ ((fileTexts tree).map Prod.fst).filter fun path =>
        (PosixPath.parse path).name == manifestName.text, text = manifestName.text := by
      intro text htext
      obtain ⟨htext, hlast⟩ := List.mem_filter.mp htext
      obtain ⟨file, hfile, rfl⟩ := (hmem text).mp htext
      rw [hnested file hfile ((hname file hfile).mp hlast), pathText_singleton]
    have hself : manifestName.text ∈ ((fileTexts tree).map Prod.fst).filter fun path =>
        (PosixPath.parse path).name == manifestName.text := by
      rw [List.mem_filter]
      refine ⟨(hmem _).mpr ⟨_, hfile, pathText_singleton manifestName⟩, ?_⟩
      rw [← pathText_singleton manifestName]
      exact (hname _ hfile).mpr rfl
    by_contra hne
    obtain hnil | ⟨text, htext, hother⟩ :=
      ((nodup_fileTexts.filter _).ne_singleton_iff manifestName.text).mp hne
    · rw [hnil] at hself
      cases hself
    · exact hother (hall text htext)

variable {sha256 : ByteArray → Digest}

theorem verifyArtifacts_eq_ok {files : List (Text × ByteArray)}
    {artifacts : List (Text × Int × Text)} :
    verifyArtifacts sha256 files artifacts = .ok () ↔
      ∀ artifact ∈ artifacts, ∃ content, files.lookup artifact.1 = some content ∧
        (content.size : Int) = artifact.2.1 ∧ (sha256 content).text = artifact.2.2 := by
  induction artifacts with
  | nil => simp [verifyArtifacts]
  | cons artifact artifacts ih =>
    obtain ⟨relative, size, checksum⟩ := artifact
    rw [verifyArtifacts, List.forall_mem_cons, orRaise_bind_eq_ok]
    simp only [raiseIf_bind_eq_ok, ih, not_or, not_not]
    constructor
    · rintro ⟨content, hlookup, ⟨hsize, hdigest⟩, hrest⟩
      exact ⟨⟨content, hlookup, hsize, hdigest⟩, hrest⟩
    · rintro ⟨⟨content, hlookup, hsize, hdigest⟩, hrest⟩
      exact ⟨content, hlookup, ⟨hsize, hdigest⟩, hrest⟩

theorem sameSet_iff {a b : List Text} : sameSet a b = true ↔ ∀ text, text ∈ a ↔ text ∈ b := by
  simp only [sameSet, Bool.and_eq_true, List.all_eq_true, List.contains_iff_mem]
  exact ⟨fun h text => ⟨h.1 text, h.2 text⟩, fun h =>
    ⟨fun text => (h text).mp, fun text => (h text).mpr⟩⟩

/-- What a verification that succeeds has found. -/
structure Verified (sha256 : ByteArray → Digest) (categories : Categories) (tree : Tree)
    (checksum : Text) (content : ByteArray) (artifacts : List (Text × Int × Text)) : Prop where
  isHex : isHex 64 64 checksum = true
  plain : ∀ entry ∈ belowEntries tree.entries, entry.2.isPlain = true
  nested : NoNestedManifest tree.files
  manifest : ([manifestName], content) ∈ tree.files
  digest : (sha256 content).text = lower checksum
  parses : ∃ text payload manifest, readText content = some text ∧ loads text = some payload ∧
    parseManifestPayload categories payload none none = .ok (manifest, artifacts)
  sameSet : ∀ text, text ∈ (fileTexts tree).map Prod.fst ↔
    text ∈ manifestName.text :: artifacts.map Prod.fst
  artifacts : ∀ artifact ∈ artifacts, ∃ content, (fileTexts tree).lookup artifact.1 = some content ∧
    (content.size : Int) = artifact.2.1 ∧ (sha256 content).text = artifact.2.2

theorem accepts_iff {checksum : Text} : Accepts sha256 categories tree checksum ↔
    ∃ content artifacts, Verified sha256 categories tree checksum content artifacts := by
  have hplain : ¬((belowEntries tree.entries).all fun entry => entry.2.isPlain) = false ↔
      ∀ entry ∈ belowEntries tree.entries, entry.2.isPlain = true := by
    rw [Bool.not_eq_false, List.all_eq_true]
  have hlookup (content : ByteArray) : (fileTexts tree).lookup manifestName.text = some content ↔
      ([manifestName], content) ∈ tree.files := by
    rw [← lookup_fileTexts (List.cons_ne_nil _ _), pathText_singleton]
  have hdigest (content : ByteArray) :
      ¬(some checksum).any (fun checksum => (sha256 content).text != lower checksum) = true ↔
        (sha256 content).text = lower checksum := by
    simp
  constructor
  · rintro ⟨manifest, h⟩
    obtain ⟨hhex, h⟩ := raiseIf_bind_eq_ok.mp h
    obtain ⟨entries, hentries, h⟩ := bind_eq_ok.mp h
    obtain rfl : tree.entries = entries := Except.ok.inj hentries
    obtain ⟨files, hfiles, h⟩ := bind_eq_ok.mp h
    obtain ⟨hall, hfiles⟩ := raiseIf_bind_eq_ok.mp hfiles
    obtain rfl : fileTexts tree = files := Except.ok.inj hfiles
    obtain ⟨hpaths, h⟩ := raiseIf_bind_eq_ok.mp h
    obtain ⟨content, hcontent, h⟩ := orRaise_bind_eq_ok.mp h
    obtain ⟨hsame, h⟩ := raiseIf_bind_eq_ok.mp h
    obtain ⟨text, htext, h⟩ := orRaise_bind_eq_ok.mp h
    obtain ⟨payload, hpayload, h⟩ := orRaise_bind_eq_ok.mp h
    obtain ⟨⟨parsed, artifacts⟩, hparse, h⟩ := bind_eq_ok.mp h
    obtain ⟨hset, h⟩ := raiseIf_bind_eq_ok.mp h
    obtain ⟨_, hverify, -⟩ := bind_eq_ok.mp h
    exact ⟨content, artifacts, by simpa using hhex, hplain.mp hall,
      (manifestPaths_iff.mp (not_not.mp hpaths)).1, (hlookup content).mp hcontent,
      (hdigest content).mp hsame, ⟨text, payload, parsed, htext, hpayload, hparse⟩,
      sameSet_iff.mp (Bool.eq_true_of_not_eq_false hset), verifyArtifacts_eq_ok.mp hverify⟩
  · rintro ⟨content, artifacts, h⟩
    obtain ⟨text, payload, manifest, htext, hpayload, hparse⟩ := h.parses
    refine ⟨manifest, raiseIf_bind_eq_ok.mpr ⟨by simp [h.isHex], ?_⟩⟩
    refine bind_eq_ok.mpr ⟨tree.entries, rfl, bind_eq_ok.mpr ⟨fileTexts tree, ?_, ?_⟩⟩
    · exact raiseIf_bind_eq_ok.mpr ⟨hplain.mpr h.plain, rfl⟩
    · refine raiseIf_bind_eq_ok.mpr
        ⟨not_not.mpr (manifestPaths_iff.mpr ⟨h.nested, content, h.manifest⟩), ?_⟩
      refine orRaise_bind_eq_ok.mpr ⟨content, (hlookup content).mpr h.manifest, ?_⟩
      refine raiseIf_bind_eq_ok.mpr ⟨(hdigest content).mpr h.digest, ?_⟩
      refine orRaise_bind_eq_ok.mpr ⟨text, htext, orRaise_bind_eq_ok.mpr ⟨payload, hpayload, ?_⟩⟩
      refine bind_eq_ok.mpr ⟨(manifest, artifacts), hparse, raiseIf_bind_eq_ok.mpr ⟨?_, ?_⟩⟩
      · rw [Bool.not_eq_false]
        exact sameSet_iff.mpr h.sameSet
      · exact bind_eq_ok.mpr ⟨(), verifyArtifacts_eq_ok.mpr h.artifacts, rfl⟩

end Trees

/-! ### Written trees -/

section Written

variable {sha256 : ByteArray → Digest} {entries : List (FileName × Node)}
  {manifest : List (Text × Value)} {checksum : Text} {written : List (FileName × Node)}

theorem writeManifest_eq_ok (h : writeManifest sha256 entries manifest = .ok (checksum, written)) :
    (∀ node, entries.lookup temporaryName = some node → node.content?.isSome = true) ∧
      (∀ node, entries.lookup manifestName = some node →
        ¬(node.isLink = false ∧ node.isDir = true)) ∧
      checksum = (sha256 (encode (manifestPayload manifest))).text ∧
      written = entries.filter (fun entry => entry.1 ≠ temporaryName ∧ entry.1 ≠ manifestName) ++
        [(manifestName, .file (encode (manifestPayload manifest)))] := by
  simp only [writeManifest, raiseIf_bind_eq_ok] at h
  obtain ⟨htemporary, hmanifest, h⟩ := h
  obtain ⟨rfl, rfl⟩ := Prod.mk.inj (Except.ok.inj h)
  refine ⟨fun node hnode => ?_, fun node hnode => ?_, rfl, rfl⟩
  · rw [Option.isSome_iff_ne_none]
    simpa [hnode] using htemporary
  · simpa [hnode] using hmanifest

/-- Nothing is below an entry that the manifest takes the place of. -/
theorem descendants_of_replaced (hdistinct : distinctEntries entries = true)
    (h : writeManifest sha256 entries manifest = .ok (checksum, written)) {name : FileName}
    {node : Node} (hmem : (name, node) ∈ entries)
    (hname : name = temporaryName ∨ name = manifestName) : node.descendants = [] := by
  obtain ⟨htemporary, hmanifest, -⟩ := writeManifest_eq_ok h
  have hlookup := lookup_of_mem hdistinct hmem
  cases node with
  | file | link | special => rfl
  | directory =>
    obtain rfl | rfl := hname
    · exact absurd (htemporary _ hlookup) (by simp [Node.content?])
    · exact absurd ⟨rfl, rfl⟩ (hmanifest _ hlookup)

theorem mem_filesBelow_written (hdistinct : distinctEntries entries = true)
    (h : writeManifest sha256 entries manifest = .ok (checksum, written))
    {file : List FileName × ByteArray} :
    file ∈ filesBelow written ↔
      (file ∈ filesBelow entries ∧ file.1 ≠ [temporaryName] ∧ file.1 ≠ [manifestName]) ∨
        file = ([manifestName], encode (manifestPayload manifest)) := by
  obtain ⟨path, content⟩ := file
  obtain ⟨-, -, -, hwritten⟩ := writeManifest_eq_ok h
  rw [mem_filesBelow, mem_filesBelow, mem_belowEntries, mem_belowEntries]
  constructor
  · rintro ⟨name, child, hmem, hpath⟩
    rw [hwritten, List.mem_append, List.mem_singleton, List.mem_filter] at hmem
    obtain ⟨hmem, hname⟩ | hmem := hmem
    · obtain ⟨htemporary, hmanifest⟩ := of_decide_eq_true hname
      refine .inl ⟨⟨name, child, hmem, hpath⟩, ?_, ?_⟩
      · obtain ⟨rfl, -⟩ | ⟨rest, rfl, -⟩ := hpath
        · exact fun heq => htemporary (List.cons.inj heq).1
        · exact fun heq => htemporary (List.cons.inj heq).1
      · obtain ⟨rfl, -⟩ | ⟨rest, rfl, -⟩ := hpath
        · exact fun heq => hmanifest (List.cons.inj heq).1
        · exact fun heq => hmanifest (List.cons.inj heq).1
    · obtain ⟨rfl, rfl⟩ := Prod.mk.inj hmem
      obtain ⟨rfl, hnode⟩ | ⟨rest, -, hbelow⟩ := hpath
      · cases hnode
        exact .inr rfl
      · exact absurd hbelow List.not_mem_nil
  · rintro (⟨⟨name, child, hmem, hpath⟩, htemporary, hmanifest⟩ | heq)
    · refine ⟨name, child, ?_, hpath⟩
      have hname : name ≠ temporaryName ∧ name ≠ manifestName := by
        obtain ⟨rfl, -⟩ | ⟨rest, -, hbelow⟩ := hpath
        · exact ⟨fun heq => htemporary (heq ▸ rfl), fun heq => hmanifest (heq ▸ rfl)⟩
        · rw [← not_or]
          intro hname
          rw [descendants_of_replaced hdistinct h hmem hname] at hbelow
          cases hbelow
      rw [hwritten, List.mem_append, List.mem_filter]
      exact .inl ⟨hmem, decide_eq_true hname⟩
    · obtain ⟨rfl, rfl⟩ := Prod.mk.inj heq
      refine ⟨manifestName, _, ?_, .inl ⟨rfl, rfl⟩⟩
      rw [hwritten]
      exact List.mem_append_right _ (List.mem_singleton_self _)

theorem distinct_written (hdistinct : distinctEntries entries = true)
    (h : writeManifest sha256 entries manifest = .ok (checksum, written)) :
    distinctEntries written = true := by
  obtain ⟨-, -, -, rfl⟩ := writeManifest_eq_ok h
  obtain ⟨hnodup, hall⟩ := distinctEntries_iff.mp hdistinct
  rw [distinctEntries_iff, List.map_append, List.nodup_append]
  refine ⟨⟨hnodup.sublist (List.filter_sublist.map Prod.fst), List.nodup_singleton _, ?_⟩, ?_⟩
  · intro name hname name' hname' heq
    obtain ⟨entry, hentry, rfl⟩ := List.mem_map.mp hname
    obtain rfl := List.mem_singleton.mp hname'
    exact (of_decide_eq_true (List.mem_filter.mp hentry).2).2 heq
  · intro entry hentry
    obtain hentry | hentry := List.mem_append.mp hentry
    · exact hall entry (List.mem_filter.mp hentry).1
    · obtain rfl := List.mem_singleton.mp hentry
      rfl

end Written

/-! ### Staged trees -/

theorem isPlain_of_copySource {node copied : Node} (h : copySource node = .ok copied) :
    copied = node ∧ copied.isPlain = true ∧
      ∀ entry ∈ copied.descendants, entry.2.isPlain = true := by
  cases node with
  | file content =>
    cases h
    exact ⟨rfl, rfl, fun _ hmem => absurd hmem List.not_mem_nil⟩
  | directory entries =>
    obtain ⟨-, h⟩ := raiseIf_bind_eq_ok.mp h
    obtain ⟨hplain, h⟩ := raiseIf_bind_eq_ok.mp h
    cases h
    rw [Bool.not_eq_false, List.all_eq_true] at hplain
    exact ⟨rfl, rfl, hplain⟩
  | link | special => cases h

theorem stageFrom_eq_ok {sources : List Source} {seen : List (Option FileName)}
    {staged : List (FileName × Node)} (h : stageFrom seen sources = .ok staged) :
    distinctEntries staged = true ∧ (∀ entry ∈ staged, some entry.1 ∉ seen) ∧
      ∀ entry ∈ staged, entry.2.isPlain = true ∧
        ∀ below ∈ entry.2.descendants, below.2.isPlain = true := by
  induction sources generalizing seen staged with
  | nil =>
    cases h
    exact ⟨rfl, by simp, by simp⟩
  | cons source sources ih =>
    obtain ⟨found, hfound, h⟩ := orRaise_bind_eq_ok.mp h
    obtain ⟨-, h⟩ := raiseIf_bind_eq_ok.mp h
    obtain ⟨hseen, h⟩ := raiseIf_bind_eq_ok.mp h
    obtain ⟨copied, hcopied, h⟩ := bind_eq_ok.mp h
    obtain ⟨name, hname, h⟩ := orRaise_bind_eq_ok.mp h
    obtain ⟨rest, hrest, h⟩ := bind_eq_ok.mp h
    cases h
    obtain ⟨hdistinct, hfresh, hplain⟩ := ih hrest
    obtain ⟨rfl, hcopy⟩ := isPlain_of_copySource hcopied
    have hnode : found.2.distinct = true := by
      have hsource := source.distinct
      rw [hfound] at hsource
      exact hsource
    refine ⟨?_, List.forall_mem_cons.mpr ⟨hname ▸ hseen, fun entry hentry hmem => ?_⟩,
      List.forall_mem_cons.mpr ⟨hcopy, hplain⟩⟩
    · have hnew : name ∉ rest.map Prod.fst := by
        intro hmem
        obtain ⟨entry, hentry, rfl⟩ := List.mem_map.mp hmem
        exact hfresh entry hentry List.mem_cons_self
      obtain ⟨hnodup, hall⟩ := distinctEntries_iff.mp hdistinct
      exact distinctEntries_iff.mpr
        ⟨List.nodup_cons.mpr ⟨hnew, hnodup⟩, List.forall_mem_cons.mpr ⟨hnode, hall⟩⟩
    · exact hfresh entry hentry (List.mem_cons_of_mem _ hmem)

theorem distinct_stagingRoot {staged : List (FileName × Node)}
    (h : distinctEntries staged = true) (destination : List FileName) :
    distinctEntries (stagingRoot destination staged) = true := by
  induction destination with
  | nil => exact h
  | cons name destination ih =>
    rw [stagingRoot, distinctEntries, Node.distinct, ih]
    rfl

theorem plain_of_forall_mem {entries : List (FileName × Node)}
    (h : ∀ entry ∈ entries, entry.2.isPlain = true ∧
      ∀ below ∈ entry.2.descendants, below.2.isPlain = true) :
    ∀ entry ∈ belowEntries entries, entry.2.isPlain = true := by
  rintro ⟨path, node⟩ hmem
  obtain ⟨name, child, hentry, ⟨-, rfl⟩ | ⟨rest, -, hbelow⟩⟩ := mem_belowEntries.mp hmem
  · exact (h _ hentry).1
  · exact (h _ hentry).2 (rest, node) hbelow

theorem plain_stagingRoot {staged : List (FileName × Node)}
    (h : ∀ entry ∈ belowEntries staged, entry.2.isPlain = true) (destination : List FileName) :
    ∀ entry ∈ belowEntries (stagingRoot destination staged), entry.2.isPlain = true := by
  induction destination with
  | nil => exact h
  | cons name destination ih =>
    refine plain_of_forall_mem fun entry hentry => ?_
    obtain rfl := List.mem_singleton.mp hentry
    exact ⟨rfl, ih⟩

theorem plain_written {sha256 : ByteArray → Digest} {entries written : List (FileName × Node)}
    {manifest : List (Text × Value)} {checksum : Text}
    (hplain : ∀ entry ∈ belowEntries entries, entry.2.isPlain = true)
    (h : writeManifest sha256 entries manifest = .ok (checksum, written)) :
    ∀ entry ∈ belowEntries written, entry.2.isPlain = true := by
  obtain ⟨-, -, -, rfl⟩ := writeManifest_eq_ok h
  refine plain_of_forall_mem fun entry hentry => ?_
  obtain hentry | hentry := List.mem_append.mp hentry
  · obtain ⟨name, node⟩ := entry
    have hmem := (List.mem_filter.mp hentry).1
    exact ⟨hplain _ (mem_belowEntries.mpr ⟨name, node, hmem, .inl ⟨rfl, rfl⟩⟩),
      fun below hbelow => hplain (name :: below.1, below.2)
        (mem_belowEntries.mpr ⟨name, node, hmem, .inr ⟨below.1, rfl, hbelow⟩⟩)⟩
  · obtain rfl := List.mem_singleton.mp hentry
    exact ⟨rfl, fun _ hbelow => absurd hbelow List.not_mem_nil⟩

/-! ### What the manifest verifies -/

/-- No staged file is one that the manifest leaves out, that its reader refuses, or that writing
it destroys. -/
structure Restorable (entries : List (FileName × Node)) : Prop where
  nested : NoNestedManifest (filesBelow entries)
  backslash : ∀ file ∈ filesBelow entries, backslash ∉ pathText file.1
  temporary : ∀ file ∈ filesBelow entries, file.1 ≠ [temporaryName]

/-- A built manifest: the scope is valid and its artifacts are the listed files. -/
structure Built (sha256 : ByteArray → Digest) (categories : Categories)
    (entries : List (FileName × Node)) (manifest : List (Text × Value)) : Prop where
  ne_nil : listedFiles (sortPaths (belowEntries entries)) ≠ []
  parses : distinctEntries entries = true → ∀ artifacts,
    (∃ parsed, parseManifestPayload categories (readBack (.dict manifest)) none none =
        .ok (parsed, artifacts)) ↔
      (∀ file ∈ listedFiles (sortPaths (belowEntries entries)),
        Recovery.backslash ∉ pathText file.1) ∧
        artifacts = (listedFiles (sortPaths (belowEntries entries))).map (entryOf sha256)

theorem built_of_buildManifest {sha256 : ByteArray → Digest} {entries : List (FileName × Node)}
    {host service createdAt : Text} {recoveryMetadata : Option (List (Text × Value))}
    {manifest : List (Text × Value)}
    (h : buildManifest sha256 categories entries host service recoveryMetadata createdAt =
      .ok manifest) : Built sha256 categories entries manifest := by
  obtain ⟨hhost, h⟩ := raiseIf_bind_eq_ok.mp h
  obtain ⟨hservice, h⟩ := raiseIf_bind_eq_ok.mp h
  obtain ⟨artifacts, hartifacts, h⟩ := bind_eq_ok.mp h
  obtain ⟨hne, h⟩ := raiseIf_bind_eq_ok.mp h
  obtain rfl := collectArtifacts_eq_ok sha256 hartifacts
  have hnil : listedFiles (sortPaths (belowEntries entries)) ≠ [] :=
    fun hnil => hne (by simp [hnil])
  have hmetadata : ∃ metadata : Option Metadata, (∀ m ∈ metadata, m.Valid categories) ∧
      manifest = manifestMembers host service createdAt
        ((listedFiles (sortPaths (belowEntries entries))).map (artifactOf sha256)) metadata := by
    cases recoveryMetadata with
    | none =>
      cases h
      exact ⟨none, by simp, rfl⟩
    | some members =>
      obtain ⟨metadata, hmetadata, h⟩ := bind_eq_ok.mp h
      cases h
      refine ⟨some metadata, fun m hm => ?_, rfl⟩
      cases hm
      exact valid_of_validateRecoveryMetadata hmetadata
  obtain ⟨metadata, hvalid, rfl⟩ := hmetadata
  refine ⟨hnil, fun hdistinct artifacts => ?_⟩
  refine parseManifestPayload_back sha256 (Bool.eq_true_of_not_eq_false hhost)
    (Bool.eq_true_of_not_eq_false hservice) hvalid hnil (fun file hfile => ?_)
    (nodup_listedFiles hdistinct)
  obtain ⟨hmem, hname⟩ := mem_listedFiles.mp hfile
  refine ⟨ne_nil_of_mem_belowEntries (mem_filesBelow.mp hmem), fun hsingle => hname ?_⟩
  rw [hsingle]
  rfl

section Main

variable {sha256 : ByteArray → Digest} {entries written : List (FileName × Node)}
  {manifest : List (Text × Value)} {checksum : Text}

/-- A verification that reads the written manifest finds the listed files in it. -/
theorem Verified.artifacts_eq (hbuilt : Built sha256 categories entries manifest)
    (hdistinct : distinctEntries entries = true) {tree : Tree}
    {artifacts : List (Text × Int × Text)}
    (h : Verified sha256 categories tree checksum (encode (manifestPayload manifest)) artifacts) :
    (∀ file ∈ listedFiles (sortPaths (belowEntries entries)), backslash ∉ pathText file.1) ∧
      artifacts = (listedFiles (sortPaths (belowEntries entries))).map (entryOf sha256) := by
  obtain ⟨text, payload, parsed, htext, hpayload, hparse⟩ := h.parses
  rw [readText_encode] at htext
  obtain rfl := Option.some.inj htext
  rw [loads_manifestPayload] at hpayload
  obtain rfl := Option.some.inj hpayload
  exact (hbuilt.parses hdistinct artifacts).mp ⟨parsed, hparse⟩

theorem Verified.digest_eq {tree : Tree} {payload content : ByteArray}
    {artifacts : List (Text × Int × Text)}
    (h : Verified sha256 categories tree (sha256 payload).text content artifacts) :
    sha256 content = sha256 payload := by
  apply Digest.text_injective
  rw [h.digest, Digest.lower_text]

variable (hdistinct : distinctEntries entries = true)
  (hwritten : writeManifest sha256 entries manifest = .ok (checksum, written))
include hdistinct hwritten

/-- If nothing gets lost, the listed files and the manifest are what is backed up. -/
theorem mem_written_iff (hrestorable : Restorable entries) {file : List FileName × ByteArray} :
    file ∈ filesBelow written ↔ file ∈ listedFiles (sortPaths (belowEntries entries)) ∨
      file = ([manifestName], encode (manifestPayload manifest)) := by
  rw [mem_filesBelow_written hdistinct hwritten, mem_listedFiles]
  refine or_congr_left ⟨fun ⟨hmem, _, hmanifest⟩ => ⟨hmem, fun hlast => ?_⟩,
    fun ⟨hmem, hlast⟩ => ⟨hmem, hrestorable.temporary file hmem, fun hsingle => ?_⟩⟩
  · exact hmanifest (hrestorable.nested file hmem hlast)
  · rw [hsingle] at hlast
    exact hlast rfl

/-- The tree that was backed up passes its own verification only if nothing was lost. -/
theorem restorable_of_accepts (hbuilt : Built sha256 categories entries manifest) {tree : Tree}
    (htree : tree.entries = written) (h : Accepts sha256 categories tree checksum) :
    Restorable entries := by
  obtain ⟨content, artifacts, h⟩ := accepts_iff.mp h
  have hmem (file : List FileName × ByteArray) : file ∈ tree.files ↔
      (file ∈ filesBelow entries ∧ file.1 ≠ [temporaryName] ∧ file.1 ≠ [manifestName]) ∨
        file = ([manifestName], encode (manifestPayload manifest)) := by
    rw [Tree.files, htree]
    exact mem_filesBelow_written hdistinct hwritten
  obtain rfl : content = encode (manifestPayload manifest) :=
    eq_of_mem_files h.manifest ((hmem _).mpr (.inr rfl))
  obtain ⟨hbackslash, rfl⟩ := h.artifacts_eq hbuilt hdistinct
  have hnested : NoNestedManifest (filesBelow entries) := by
    intro file hfile hlast
    by_contra hmanifest
    refine hmanifest (h.nested file ((hmem file).mpr (.inl ⟨hfile, fun hsingle => ?_, hmanifest⟩))
      hlast)
    rw [hsingle] at hlast
    exact absurd (Option.some.inj hlast) (by decide)
  refine ⟨hnested, fun file hfile => ?_, fun file hfile hsingle => ?_⟩
  · by_cases hlast : file.1.getLast? = some manifestName
    · rw [hnested file hfile hlast]
      decide
    · exact hbackslash file (mem_listedFiles.mpr ⟨hfile, hlast⟩)
  · -- the manifest lists the temporary file, and no file of that name is left
    have hlisted : file ∈ listedFiles (sortPaths (belowEntries entries)) := by
      refine mem_listedFiles.mpr ⟨hfile, ?_⟩
      rw [hsingle]
      decide
    have hkey : pathText file.1 ∈ (fileTexts tree).map Prod.fst := by
      refine (h.sameSet _).mpr (List.mem_cons_of_mem _ ?_)
      rw [List.map_map]
      exact List.mem_map.mpr ⟨file, hlisted, rfl⟩
    rw [map_fst_fileTexts] at hkey
    obtain ⟨path, hpath, heq⟩ := List.mem_map.mp hkey
    obtain ⟨other, hother, rfl⟩ := List.mem_map.mp hpath
    rw [pathText_inj (ne_nil_of_mem_files hother)
      (ne_nil_of_mem_belowEntries (mem_filesBelow.mp hfile)), hsingle] at heq
    obtain ⟨-, htemporary, -⟩ | rfl := (hmem other).mp hother
    · exact htemporary heq
    · exact absurd (List.cons.inj heq).1 (by decide)

theorem accepts_of_faithful (hbuilt : Built sha256 categories entries manifest)
    (hrestorable : Restorable entries) {restored : Tree} (h : Faithful restored written) :
    Accepts sha256 categories restored checksum := by
  obtain ⟨-, -, rfl, -⟩ := writeManifest_eq_ok hwritten
  have hmem (file : List FileName × ByteArray) :=
    (h.files file).trans (mem_written_iff hdistinct hwritten hrestorable)
  obtain ⟨parsed, hparsed⟩ := (hbuilt.parses hdistinct _).mpr ⟨fun file hfile =>
    hrestorable.backslash file (mem_listedFiles.mp hfile).1, rfl⟩
  refine accepts_iff.mpr ⟨encode (manifestPayload manifest), _, Digest.isHex_text _, h.plain,
    fun file hfile hlast => ?_, (hmem _).mpr (.inr rfl), (Digest.lower_text _).symm,
    ⟨_, _, parsed, readText_encode manifest, loads_manifestPayload manifest, hparsed⟩,
    fun text => ?_, fun artifact hartifact => ?_⟩
  · obtain hlisted | rfl := (hmem file).mp hfile
    · exact absurd hlast (mem_listedFiles.mp hlisted).2
    · rfl
  · rw [map_fst_fileTexts, List.map_map, List.mem_map, List.mem_cons, List.map_map, List.mem_map]
    constructor
    · rintro ⟨file, hfile, rfl⟩
      obtain hlisted | rfl := (hmem file).mp hfile
      · exact .inr ⟨file, hlisted, rfl⟩
      · exact .inl (pathText_singleton manifestName)
    · rintro (rfl | ⟨file, hlisted, rfl⟩)
      · exact ⟨_, (hmem _).mpr (.inr rfl), pathText_singleton manifestName⟩
      · exact ⟨file, (hmem file).mpr (.inl hlisted), rfl⟩
  · obtain ⟨file, hlisted, rfl⟩ := List.mem_map.mp hartifact
    have hfile : file ∈ restored.files := (hmem file).mpr (.inl hlisted)
    exact ⟨file.2, (lookup_fileTexts (ne_nil_of_mem_files hfile)).mpr hfile, rfl, rfl⟩

theorem faithful_of_accepts (hbuilt : Built sha256 categories entries manifest)
    (hrestorable : Restorable entries) {restored : Tree}
    (hfree : CollisionFree sha256 restored written)
    (h : Accepts sha256 categories restored checksum) : Faithful restored written := by
  obtain ⟨content, artifacts, h⟩ := accepts_iff.mp h
  obtain ⟨-, -, rfl, -⟩ := writeManifest_eq_ok hwritten
  have hmem : ∀ file, file ∈ filesBelow written ↔
      file ∈ listedFiles (sortPaths (belowEntries entries)) ∨
        file = ([manifestName], encode (manifestPayload manifest)) := fun _ =>
    mem_written_iff hdistinct hwritten hrestorable
  obtain rfl : content = encode (manifestPayload manifest) :=
    hfree _ h.manifest _ ((hmem _).mpr (.inr rfl)) h.digest_eq
  obtain ⟨-, rfl⟩ := h.artifacts_eq hbuilt hdistinct
  -- a listed file is there with its content
  have hlisted : ∀ file ∈ listedFiles (sortPaths (belowEntries entries)),
      file ∈ restored.files := by
    rintro ⟨path, content⟩ hfile
    obtain ⟨found, hlookup, -, hdigest⟩ := h.artifacts _ (List.mem_map_of_mem hfile)
    have hne : path ≠ [] :=
      ne_nil_of_mem_belowEntries (mem_filesBelow.mp (mem_listedFiles.mp hfile).1)
    have hfound : (path, found) ∈ restored.files := (lookup_fileTexts hne).mp hlookup
    have hcontent : found = content := hfree _ hfound _ ((hmem (path, content)).mpr (.inl hfile))
      (Digest.text_injective hdigest)
    exact hcontent ▸ hfound
  refine ⟨h.plain, fun file => ⟨fun hfile => (hmem file).mpr ?_, fun hfile => ?_⟩⟩
  · have hkey := (h.sameSet (pathText file.1)).mp (by
      rw [map_fst_fileTexts, List.map_map]
      exact List.mem_map.mpr ⟨file, hfile, rfl⟩)
    rw [List.map_map, List.mem_cons, List.mem_map] at hkey
    obtain ⟨path, content⟩ := file
    obtain heq | ⟨other, hother, heq⟩ := hkey
    · rw [← pathText_singleton manifestName,
        pathText_inj (ne_nil_of_mem_files hfile) (List.cons_ne_nil _ _)] at heq
      obtain rfl : path = [manifestName] := heq
      rw [eq_of_mem_files hfile h.manifest]
      exact .inr rfl
    · have hfound := hlisted other hother
      obtain rfl : other.1 = path :=
        (pathText_inj (ne_nil_of_mem_files hfound) (ne_nil_of_mem_files hfile)).mp heq
      rw [eq_of_mem_files hfile hfound]
      exact .inl hother
  · obtain hfile | rfl := (hmem file).mp hfile
    · exact hlisted file hfile
    · exact h.manifest

end Main

/-- The tree that was backed up is restored faithfully, so it has to be accepted. -/
theorem restorable_of_forall_faithful {sha256 : ByteArray → Digest} {sources : List Source}
    {destination : List FileName} {staged written : List (FileName × Node)}
    {host service createdAt checksum : Text} {recoveryMetadata : Option (List (Text × Value))}
    {manifest : List (Text × Value)} (hstaged : stageSources sources = .ok staged)
    (hbuilt : buildManifest sha256 categories (stagingRoot destination staged) host service
      recoveryMetadata createdAt = .ok manifest)
    (hwritten : writeManifest sha256 (stagingRoot destination staged) manifest =
      .ok (checksum, written))
    (haccepts : ∀ restored : Tree, Faithful restored written →
      Accepts sha256 categories restored checksum) :
    Restorable (stagingRoot destination staged) := by
  obtain ⟨hdistinct, -, hplain⟩ := stageFrom_eq_ok hstaged
  have hroot := distinct_stagingRoot hdistinct destination
  have hfaithful : Faithful ⟨written, distinct_written hroot hwritten⟩ written :=
    ⟨plain_written (plain_stagingRoot (plain_of_forall_mem hplain) destination) hwritten,
      fun _ => Iff.rfl⟩
  exact restorable_of_accepts hroot hwritten (built_of_buildManifest hbuilt) rfl
    (haccepts _ hfaithful)

/-- A backup verifies exactly after a faithful restore: every restored tree with the files that
were backed up is accepted, and no other is. This holds if and only if no staged file is called
`manifest.json` below the root or `manifest.json.tmp` at the root, and none has a backslash in its
path. -/
theorem verifies_iff_restorable {sha256 : ByteArray → Digest} {sources : List Source}
    {destination : List FileName} {staged written : List (FileName × Node)}
    {host service createdAt checksum : Text} {recoveryMetadata : Option (List (Text × Value))}
    {manifest : List (Text × Value)} (hstaged : stageSources sources = .ok staged)
    (hbuilt : buildManifest sha256 categories (stagingRoot destination staged) host service
      recoveryMetadata createdAt = .ok manifest)
    (hwritten : writeManifest sha256 (stagingRoot destination staged) manifest =
      .ok (checksum, written)) :
    ((∀ restored : Tree, Faithful restored written →
        Accepts sha256 categories restored checksum) ∧
      ∀ restored : Tree, CollisionFree sha256 restored written →
        Accepts sha256 categories restored checksum → Faithful restored written) ↔
      Restorable (stagingRoot destination staged) := by
  constructor
  · rintro ⟨haccepts, -⟩
    exact restorable_of_forall_faithful hstaged hbuilt hwritten haccepts
  · intro hrestorable
    have hroot := distinct_stagingRoot (stageFrom_eq_ok hstaged).1 destination
    have hbuilt := built_of_buildManifest hbuilt
    exact ⟨fun restored h => accepts_of_faithful hroot hwritten hbuilt hrestorable h,
      fun restored hfree h => faithful_of_accepts hroot hwritten hbuilt hrestorable hfree h⟩

/-! ### Two backups of a service -/

theorem isFileName_files : isFileName (Text.ofString "files") = true := by decide

theorem isFileName_app : isFileName (Text.ofString "app") = true := by decide

theorem isFileName_config : isFileName (Text.ofString "service.conf") = true := by decide

def filesName : FileName := ⟨Text.ofString "files", isFileName_files⟩

def appName : FileName := ⟨Text.ofString "app", isFileName_app⟩

def configName : FileName := ⟨Text.ofString "service.conf", isFileName_config⟩

def configContent : ByteArray := "healthy=true\n".toUTF8

def configText : Text :=
  Text.ofString "8ee0fb88d483d6bf9b20ba6a9a5b6fe81356a3fe065d1926299c0c0bcd315d0c"

def manifestText : Text :=
  Text.ofString "f29372986b3331aa1dc8b7fa0cb98bfc9f24eba4707b5d9ec0eefc4edf3ed373"

theorem valid_configText : (configText.length == 64 && configText.all isLowerHexDigit) = true := by
  decide

theorem valid_manifestText :
    (manifestText.length == 64 && manifestText.all isLowerHexDigit) = true := by
  decide

/-- The digest of the one staged file, and for everything else that of its manifest. -/
def sampleSha256 (content : ByteArray) : Digest :=
  if content = configContent then ⟨configText, valid_configText⟩
  else ⟨manifestText, valid_manifestText⟩

theorem isOther_surrogate (c : CodePoint) (hlow : 0xD800 ≤ c.val) (hhigh : c.val ≤ 0xDFFF) :
    decide (c.val < 32 ∨ 0xD800 ≤ c.val ∧ c.val ≤ 0xDFFF) = true :=
  decide_eq_true (.inr ⟨hlow, hhigh⟩)

def sampleCategories : Categories :=
  ⟨fun c => decide (c.val < 32 ∨ 0xD800 ≤ c.val ∧ c.val ≤ 0xDFFF), isOther_surrogate⟩

/-- A directory of a service with its configuration and some more files. -/
def appEntries (others : List (FileName × Node)) : List (FileName × Node) :=
  [(appName, .directory ((configName, .file configContent) :: others))]

def sampleManifest (others : List (FileName × Node)) : Except Failure (List (Text × Value)) :=
  buildManifest sampleSha256 sampleCategories (stagingRoot [filesName] (appEntries others))
    (Text.ofString "node-1") (Text.ofString "api") none
    (Text.ofString "2026-01-01T00:00:00+00:00")

theorem distinct_plain : ((some (some appName, Node.directory [(configName,
    .file configContent)]) : Option (Option FileName × Node)).all
      fun found => found.2.distinct) = true := by
  decide

theorem distinct_nested : ((some (some appName, Node.directory [(configName, .file configContent),
    (manifestName, .file configContent)]) : Option (Option FileName × Node)).all
      fun found => found.2.distinct) = true := by
  decide

def plainSource : Source :=
  ⟨false, some (some appName, .directory [(configName, .file configContent)]), distinct_plain⟩

/-- The directory of the service has a file called `manifest.json`. -/
def nestedSource : Source :=
  ⟨false, some (some appName, .directory [(configName, .file configContent),
    (manifestName, .file configContent)]), distinct_nested⟩

theorem isSome_sampleManifest_plain : (sampleManifest []).toOption.isSome = true := by
  decide +kernel

theorem isSome_sampleManifest_nested :
    (sampleManifest [(manifestName, .file configContent)]).toOption.isSome = true := by
  decide +kernel

theorem exists_sample (others : List (FileName × Node))
    (hbuilt : (sampleManifest others).toOption.isSome = true) :
    ∃ manifest checksum written, sampleManifest others = .ok manifest ∧
      writeManifest sampleSha256 (stagingRoot [filesName] (appEntries others)) manifest =
        .ok (checksum, written) :=
  ⟨_, _, _, eq_ok_of_isSome hbuilt, rfl⟩

/-- The manifest lists one file, and the backup verifies exactly. -/
theorem verifies_plain : ∃ manifest checksum written, sampleManifest [] = .ok manifest ∧
    (((∀ restored : Tree, Faithful restored written →
        Accepts sampleSha256 sampleCategories restored checksum) ∧
      ∀ restored : Tree, CollisionFree sampleSha256 restored written →
        Accepts sampleSha256 sampleCategories restored checksum → Faithful restored written) ↔
      Restorable (stagingRoot [filesName] (appEntries []))) := by
  obtain ⟨manifest, checksum, written, hbuilt, hwritten⟩ :=
    exists_sample [] isSome_sampleManifest_plain
  have hstaged : stageSources [plainSource] = .ok (appEntries []) := rfl
  exact ⟨manifest, checksum, written, hbuilt, verifies_iff_restorable hstaged hbuilt hwritten⟩

/-- The file called `manifest.json` is backed up and makes every restored tree fail. -/
theorem not_verifies_nested : ∃ staged manifest checksum written,
    stageSources [nestedSource] = .ok staged ∧
      buildManifest sampleSha256 sampleCategories (stagingRoot [filesName] staged)
        (Text.ofString "node-1") (Text.ofString "api") none
        (Text.ofString "2026-01-01T00:00:00+00:00") = .ok manifest ∧
      writeManifest sampleSha256 (stagingRoot [filesName] staged) manifest =
        .ok (checksum, written) ∧
      ¬∀ restored : Tree, Faithful restored written →
        Accepts sampleSha256 sampleCategories restored checksum := by
  obtain ⟨manifest, checksum, written, hbuilt, hwritten⟩ :=
    exists_sample [(manifestName, .file configContent)] isSome_sampleManifest_nested
  have hstaged : stageSources [nestedSource] =
      .ok (appEntries [(manifestName, .file configContent)]) := rfl
  refine ⟨_, manifest, checksum, written, hstaged, hbuilt, hwritten, fun haccepts => ?_⟩
  have hrestorable := restorable_of_forall_faithful hstaged hbuilt hwritten haccepts
  have hnested := hrestorable.nested ([filesName, appName, manifestName], configContent)
    (mem_filesBelow.mpr (by simp [belowEntries, stagingRoot, appEntries, Node.descendants])) rfl
  exact absurd (List.cons.inj hnested).2 (List.cons_ne_nil _ _)

end VpsGuardian.Recovery
