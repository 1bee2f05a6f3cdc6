import VpsGuardian.Release.Manifest

/-!
A release manifest identifies a tree.

A directory passes the verification against a manifest exactly when the manifest
was written for the same root and the same things are at the same paths.
-/

namespace VpsGuardian.Release

open Lib PythonJson
open PosixPath (slash dot)
open Recovery (encode readText manifestPayload readText_encode loads_manifestPayload)

/-! ### What a walk finds -/

/-- The text of the path that leads some names down from a directory. -/
def absolute (directory : Text) (below : List DiskName) : Text :=
  below.foldl (fun directory name => join directory name.fileName.text) directory

/-- The run can make an entry of an item, and walk it if it is a directory. -/
def Admits (system : System) (path : Text) (below : List DiskName) (item : Item) : Prop :=
  system.lstats path = true ∧
    match item with
    | .inr _ => below.length < system.depth ∧ system.scans path = true
    | .inl (_, .file _) => system.opens path = true
    | .inl (_, .link) | .inl (_, .special) => False

/-- The entry of an item. Links and special files have none. -/
def entryOf (sha256 : ByteArray → String) (below : List DiskName) : Item → Value
  | .inr status => .dict (named (directoryFields (relativePath below) status))
  | .inl (status, .file content) =>
      .dict (named (fileFields sha256 (relativePath below) status content))
  | .inl (_, .link) | .inl (_, .special) => .null

section Walk

variable {system : System} {sha256 : ByteArray → String} {path : Text} {below : List DiskName}

theorem entryFor_leaf {leaf : Status × Leaf} {value : Value} :
    entryFor system sha256 path (relativePath below) (.inl leaf) = .ok value ↔
      Admits system path below (.inl leaf) ∧ value = entryOf sha256 below (.inl leaf) := by
  obtain ⟨status, leaf⟩ := leaf
  unfold entryFor Admits
  rw [raiseIf_bind_eq_ok, Bool.not_eq_false, and_assoc]
  refine and_congr_right fun _ => ?_
  cases leaf with
  | file content =>
    dsimp only
    rw [raiseIf_bind_eq_ok, Bool.not_eq_false]
    exact and_congr_right fun _ => ⟨fun h => (Except.ok.inj h).symm, fun h => h ▸ rfl⟩
  | link | special => simp

theorem entryFor_branch {status : Status} {value : Value} :
    entryFor system sha256 path (relativePath below) (.inr status) = .ok value ↔
      system.lstats path = true ∧ value = entryOf sha256 below (.inr status) := by
  unfold entryFor
  rw [raiseIf_bind_eq_ok, Bool.not_eq_false]
  exact and_congr_right fun _ => ⟨fun h => (Except.ok.inj h).symm, fun h => h ▸ rfl⟩

/-- The children come in the order of their names. -/
theorem sorted_eq {γ : Type} (children : List (DiskName × γ)) :
    sorted children = NamedTree.sortByName children := by
  have hmap := List.map_insertionSort
    (fun a b : DiskName × γ =>
      numbers (fsencode a.1.fileName.text) ≤ numbers (fsencode b.1.fileName.text))
    (fun a b : DiskName × γ => a.1 ≤ b.1) id children fun a _ b _ => by
      change numbers (fsencode (fsdecode a.1.bytes)) ≤ numbers (fsencode (fsdecode b.1.bytes)) ↔ _
      rw [fsencode_fsdecode, fsencode_fsdecode]
      rfl
  rwa [List.map_id, List.map_id] at hmap

theorem visits_eq_map (children : List (DiskName × Node)) :
    visits system sha256 path below children = children.map fun child =>
      (child.1, visit system sha256 (join path child.1.fileName.text) (below ++ [child.1])
        child.2) := by
  induction children with
  | nil => rfl
  | cons child children ih => rw [visits, ih, List.map_cons]

/-- Visits that are each known are known one after the other. -/
theorem inOrder_eq_ok {children : List (DiskName × Node)}
    {visited : DiskName × Node → Except Failure (List Value)} {P : DiskName × Node → Prop}
    {found : DiskName × Node → List Value} {values : List Value}
    (h : ∀ child ∈ children, ∀ values, visited child = .ok values ↔
      P child ∧ values = found child) :
    inOrder (children.map fun child => (child.1, visited child)) = .ok values ↔
      (∀ child ∈ children, P child) ∧ values = children.flatMap found := by
  induction children generalizing values with
  | nil => simp [inOrder, eq_comm]
  | cons child children ih =>
    have htail {values : List Value} :
        inOrder (children.map fun child => (child.1, visited child)) = .ok values ↔ _ :=
      ih fun child hchild => h child (List.mem_cons_of_mem _ hchild)
    rw [List.map_cons, inOrder, bind_eq_ok, List.forall_mem_cons, List.flatMap_cons]
    constructor
    · rintro ⟨entries, hentries, hrest⟩
      obtain ⟨more, hmore, hvalues⟩ := bind_eq_ok.mp hrest
      obtain ⟨hchild, rfl⟩ := (h child List.mem_cons_self entries).mp hentries
      obtain ⟨hchildren, rfl⟩ := htail.mp hmore
      exact ⟨⟨hchild, hchildren⟩, (Except.ok.inj hvalues).symm⟩
    · rintro ⟨⟨hchild, hchildren⟩, rfl⟩
      exact ⟨found child, (h child List.mem_cons_self _).mpr ⟨hchild, rfl⟩,
        bind_eq_ok.mpr ⟨_, htail.mpr ⟨hchildren, rfl⟩, rfl⟩⟩

/-- A visit makes the entries of the listing, if it can make each of them. -/
theorem visit_eq_ok {node : Node} {values : List Value} :
    visit system sha256 path below node = .ok values ↔
      (∀ entry ∈ node.listing, Admits system (absolute path entry.1) (below ++ entry.1) entry.2) ∧
        values = node.listing.map fun entry => entryOf sha256 (below ++ entry.1) entry.2 := by
  induction node using NamedTree.induct generalizing path below values with
  | leaf leaf =>
    rw [visit, bind_eq_ok, NamedTree.listing, List.forall_mem_singleton, List.map_singleton,
      List.append_nil]
    constructor
    · rintro ⟨value, hvalue, hvalues⟩
      obtain ⟨hadmits, rfl⟩ := entryFor_leaf.mp hvalue
      exact ⟨hadmits, (Except.ok.inj hvalues).symm⟩
    · rintro ⟨hadmits, rfl⟩
      exact ⟨_, entryFor_leaf.mpr ⟨hadmits, rfl⟩, rfl⟩
  | branch status children ih =>
    have hvisit : ∀ child ∈ NamedTree.sortByName children, ∀ values,
        visit system sha256 (join path child.1.fileName.text) (below ++ [child.1]) child.2 =
            .ok values ↔ _ :=
      fun child hchild _ => ih child ((NamedTree.perm_sortByName _).mem_iff.mp hchild)
    have hwalk {values : List Value} :
        walk system path below (visits system sha256 path below children) = .ok values ↔
          (below.length < system.depth ∧ system.scans path = true) ∧
            (∀ child ∈ NamedTree.sortByName children, ∀ entry ∈ child.2.listing,
              Admits system (absolute path (child.1 :: entry.1)) (below ++ child.1 :: entry.1)
                entry.2) ∧
            values = (NamedTree.sortByName children).flatMap fun child =>
              child.2.listing.map fun entry =>
                entryOf sha256 (below ++ child.1 :: entry.1) entry.2 := by
      rw [walk, raiseIf_bind_eq_ok, raiseIf_bind_eq_ok, not_le, Bool.not_eq_false, and_assoc,
        sorted_eq, visits_eq_map, NamedTree.sortByName_map,
        inOrder_eq_ok hvisit]
      simp only [List.append_assoc, List.singleton_append]
      rfl
    rw [visit, bind_eq_ok, NamedTree.listing_branch, List.forall_mem_cons, List.map_cons,
      List.append_nil, List.forall_mem_flatMap, List.map_flatMap]
    simp only [List.forall_mem_map, List.map_map, Function.comp_def]
    constructor
    · rintro ⟨value, hvalue, hvalues⟩
      obtain ⟨entries, hentries, hvalues⟩ := bind_eq_ok.mp hvalues
      obtain ⟨hlstats, rfl⟩ := entryFor_branch.mp hvalue
      obtain ⟨hscans, hbelow, rfl⟩ := hwalk.mp hentries
      exact ⟨⟨⟨hlstats, hscans⟩, hbelow⟩, (Except.ok.inj hvalues).symm⟩
    · rintro ⟨⟨⟨hlstats, hscans⟩, hbelow⟩, rfl⟩
      exact ⟨_, entryFor_branch.mpr ⟨hlstats, rfl⟩,
        bind_eq_ok.mpr ⟨_, hwalk.mpr ⟨hscans, hbelow, rfl⟩, rfl⟩⟩

end Walk

/-! ### Entries told apart -/

theorem octal_injective : Function.Injective octal := by
  intro mode mode' h
  simp only [octal, List.map_cons, List.map_nil, List.cons.injEq, Fin.ext_iff,
    Fin.val_ofNat] at h
  omega

theorem not_hasPair_octal (mode : Fin 4096) : Text.hasPair (octal mode) = false := by
  apply Text.not_hasPair_of_forall
  intro c hc
  obtain ⟨digit, hdigit, rfl⟩ := List.mem_map.mp hc
  have hlt : digit < 8 := by
    simp only [List.mem_cons, List.not_mem_nil, or_false] at hdigit
    omega
  simp only [Text.isHigh, Json.isHighSurrogate, Fin.val_ofNat, Bool.and_eq_false_iff,
    decide_eq_false_iff_not]
  omega

/-- No name stands for the root. -/
theorem relativePath_injective : Function.Injective relativePath := by
  have hroot (name : DiskName) (below : List DiskName) :
      relativePath (name :: below) ≠ [dot] := by
    intro h
    have hparse := parse_pathText (List.cons_ne_nil name.fileName (below.map DiskName.fileName))
    rw [← List.map_cons, show pathText _ = [dot] from h] at hparse
    cases congrArg PosixPath.parts hparse
  intro below below' h
  cases below with
  | nil =>
    cases below' with
    | nil => rfl
    | cons name' below' => exact absurd h.symm (hroot name' below')
  | cons name below =>
    cases below' with
    | nil => exact absurd h (hroot name below)
    | cons name' below' =>
      exact List.map_injective_iff.mpr DiskName.fileName_injective
        ((pathText_inj (by simp) (by simp)).mp h)

theorem not_hasPair_relativePath (below : List DiskName) :
    Text.hasPair (relativePath below) = false := by
  cases below with
  | nil => rfl
  | cons name below => exact not_hasPair_pathText _

section Entries

variable {sha256 : ByteArray → String} {below below' : List DiskName}

theorem plain_entryOf (below : List DiskName) (item : Item) :
    plain (entryOf sha256 below item) = true := by
  have hpath := not_hasPair_relativePath below
  rcases item with ⟨status, content | _ | _⟩ | status
  · have hkeys :
        (["path", "mode", "uid", "gid", "type", "size", "sha256"] : List String).Nodup := by
      decide
    refine plain_named hkeys ?_
    simp [fileFields, common, plain, hpath, not_hasPair_octal, Text.not_hasPair_ofString]
  · rfl
  · rfl
  · have hkeys : (["path", "mode", "uid", "gid", "type"] : List String).Nodup := by decide
    refine plain_named hkeys ?_
    simp [directoryFields, common, plain, hpath, not_hasPair_octal, Text.not_hasPair_ofString]

/-- An item has an entry. -/
def Listed : Item → Prop
  | .inr _ | .inl (_, .file _) => True
  | .inl (_, .link) | .inl (_, .special) => False

theorem status_eq_iff {status status' : Status} :
    status = status' ↔ octal status.mode = octal status'.mode ∧ status.uid = status'.uid ∧
      status.gid = status'.gid := by
  cases status
  cases status'
  simp [octal_injective.eq_iff]

/-- Two entries are equal if they are of the same item at the same path. -/
theorem equal_entryOf {item item' : Item} (hitem : Listed item) (hitem' : Listed item')
    (hcollision : ∀ content ∈ content? item, ∀ content' ∈ content? item',
      sha256 content = sha256 content' → content = content') :
    equal (entryOf sha256 below item) (entryOf sha256 below' item') = true ↔
      below = below' ∧ item = item' := by
  rcases item with ⟨status, content | _ | _⟩ | status
  · rcases item' with ⟨status', content' | _ | _⟩ | status'
    · have hfields : equal (entryOf sha256 below (.inl (status, .file content)))
          (entryOf sha256 below' (.inl (status', .file content'))) = true ↔
          below = below' ∧ status = status' ∧ content.size = content'.size ∧
            sha256 content = sha256 content' := by
        simp [entryOf, equal_named, fileFields, common, List.lookup_cons, status_eq_iff,
          relativePath_injective.eq_iff, Text.ofString_injective.eq_iff, and_assoc]
      have hcontent : content.size = content'.size ∧ sha256 content = sha256 content' ↔
          content = content' :=
        ⟨fun h => hcollision content rfl content' rfl h.2, fun h => h ▸ ⟨rfl, rfl⟩⟩
      rw [hfields, hcontent, Sum.inl.injEq, Prod.mk.injEq, Leaf.file.injEq]
    · exact hitem'.elim
    · exact hitem'.elim
    · simp [entryOf, equal_named, fileFields, directoryFields, common]
  · exact hitem.elim
  · exact hitem.elim
  · rcases item' with ⟨status', content' | _ | _⟩ | status'
    · simp [entryOf, equal_named, fileFields, directoryFields, common]
    · exact hitem'.elim
    · exact hitem'.elim
    · simp [entryOf, equal_named, directoryFields, common, List.lookup_cons, status_eq_iff,
        relativePath_injective.eq_iff]

end Entries

/-! ### Manifests -/

section Manifests

variable {system : System} {sha256 : ByteArray → String} {disk : Disk} {root : PosixPath}

theorem canonicalRoot_eq_ok {argument : Bytes} (h : canonicalRoot disk argument = .ok root) :
    root = PosixPath.parse (fsdecode argument) ∧
      ∃ found, disk.lstat root = some found ∧ isDirectory found.node.item = true := by
  obtain ⟨-, h⟩ := raiseIf_bind_eq_ok.mp h
  obtain ⟨_, -, h⟩ := orRaise_bind_eq_ok.mp h
  obtain ⟨-, h⟩ := raiseIf_bind_eq_ok.mp h
  obtain ⟨resolved, -, h⟩ := orRaise_bind_eq_ok.mp h
  obtain ⟨hdirectory, h⟩ := raiseIf_bind_eq_ok.mp h
  obtain ⟨hsupplied, h⟩ := raiseIf_bind_eq_ok.mp h
  obtain rfl := Except.ok.inj h
  refine ⟨not_not.mp hsupplied, ?_⟩
  rw [Bool.not_eq_false, Option.any_eq_true] at hdirectory
  exact hdirectory

/-- The texts of paths on a command line have no surrogate pair. -/
theorem not_hasPair_root {argument : Bytes} (h : canonicalRoot disk argument = .ok root) :
    Text.hasPair root.text = false := by
  obtain ⟨rfl, -⟩ := canonicalRoot_eq_ok h
  apply Text.not_hasPair_of_forall
  intro c hc
  obtain rfl | rfl | hc := PosixPath.mem_text_parse hc
  · exact Text.isHigh_ofChar '/'
  · exact Text.isHigh_ofChar '.'
  · exact not_isHigh_of_mem_fsdecode hc

/-- The run can make an entry of everything in a tree. -/
def Admitted (system : System) (root : Text) (node : Node) : Prop :=
  ∀ entry ∈ node.listing, Admits system (absolute root entry.1) entry.1 entry.2

def entriesOf (sha256 : ByteArray → String) (node : Node) : List Value :=
  node.listing.map fun entry => entryOf sha256 entry.1 entry.2

def payloadOf (sha256 : ByteArray → String) (root : PosixPath) (node : Node) :
    List (Text × Value) :=
  named (manifestFields root (entriesOf sha256 node))

theorem buildManifest_eq_ok {argument : Bytes} {tree : Found}
    (hroot : canonicalRoot disk argument = .ok root) (htree : disk.lstat root = some tree)
    {payload : List (Text × Value)} :
    buildManifest system sha256 disk root = .ok payload ↔
      Admitted system root.text tree.node ∧ payload = payloadOf sha256 root tree.node := by
  obtain ⟨-, found, hfound, hdirectory⟩ := canonicalRoot_eq_ok hroot
  rw [htree] at hfound
  obtain rfl := Option.some.inj hfound
  have hcollect : collectEntries system sha256 disk root =
      visit system sha256 root.text [] tree.node := by
    obtain ⟨node, hdistinct⟩ := tree
    cases node with
    | leaf leaf => cases hdirectory
    | branch status children =>
      rw [collectEntries, htree, visit]
      rfl
  rw [buildManifest, hcollect, bind_eq_ok]
  constructor
  · rintro ⟨entries, hentries, hpayload⟩
    obtain ⟨hadmitted, rfl⟩ := visit_eq_ok.mp hentries
    exact ⟨hadmitted, (Except.ok.inj hpayload).symm⟩
  · rintro ⟨hadmitted, rfl⟩
    exact ⟨_, visit_eq_ok.mpr ⟨hadmitted, rfl⟩, rfl⟩

theorem plain_payloadOf (hroot : Text.hasPair root.text = false) (node : Node) :
    plain (.dict (payloadOf sha256 root node)) = true := by
  have hkeys : (["schema", "release_root", "entries"] : List String).Nodup := by decide
  refine plain_named hkeys ?_
  have hentries : (entriesOf sha256 node).all plain = true := by
    rw [List.all_eq_true]
    intro value hvalue
    obtain ⟨entry, -, rfl⟩ := List.mem_map.mp hvalue
    exact plain_entryOf entry.1 entry.2
  have hschema : Text.hasPair schema = false := Text.not_hasPair_ofString _
  simp [manifestFields, plain, plainItems_eq_all, hentries, hroot, hschema]

/-- A manifest file is read as what its payload comes back as. -/
theorem loadManifest_written (node : Node) :
    loadManifest (some (encode (manifestPayload (payloadOf sha256 root node)))) =
      .ok (readBack (.dict (payloadOf sha256 root node))) := by
  have hkeys : ((manifestFields root (entriesOf sha256 node)).map Prod.fst).Nodup := by
    change ["schema", "release_root", "entries"].Nodup
    decide
  obtain ⟨back, hback, -, hlookup⟩ := readBack_named hkeys
  have hfield (name : String) : back.lookup (Text.ofString name) =
      ((manifestFields root (entriesOf sha256 node)).lookup name).map readBack := by
    rw [hlookup, lookup_named]
  have hschema : back.lookup (Text.ofString "schema") = some (.string schema) := by
    rw [hfield]
    exact congrArg some (readBack_string (Text.not_hasPair_ofString _))
  have hroot : back.lookup (Text.ofString "release_root") =
      some (.string (Text.joined root.text)) := hfield _
  have hentries : back.lookup (Text.ofString "entries") =
      some (.list (readBackItems (entriesOf sha256 node))) := hfield _
  have hpayload : readBack (.dict (payloadOf sha256 root node)) = .dict back := hback
  rw [loadManifest]
  refine orRaise_bind_eq_ok.mpr ⟨_, rfl, orRaise_bind_eq_ok.mpr ⟨_, readText_encode _,
    orRaise_bind_eq_ok.mpr ⟨_, loads_manifestPayload _, ?_⟩⟩⟩
  rw [hpayload]
  dsimp only
  rw [hschema, hroot, hentries]
  refine raiseIf_bind_eq_ok.mpr ⟨?_, rfl⟩
  rw [Option.any_some, equal_string.mpr rfl]
  exact Bool.noConfusion

end Manifests

/-! ### Runs -/

theorem exitCode_eq_zero {α : Type} {result : Except Failure α} :
    exitCode result = 0 ↔ ∃ value, result = .ok value := by
  cases result <;> simp [exitCode]

theorem exitCode_eq_one {α : Type} {result : Except Failure α} :
    exitCode result = 1 ↔ ¬exitCode result = 0 := by
  cases result <;> simp [exitCode]

/-- A run wrote a manifest file for the tree at a root. -/
structure Written (system : System) (sha256 : ByteArray → String) (disk : Disk) (release : Bytes)
    (root : PosixPath) (tree : Found) (content : ByteArray) : Prop where
  canonical : canonicalRoot disk release = .ok root
  tree : disk.lstat root = some tree
  written : ∃ manifest path,
    main system sha256 disk .write release manifest = .ok (some (path, content))

/-- A tree stands at a root, and a manifest file that can be read stands outside of it. -/
structure Presented (system : System) (disk : Disk) (release manifest : Bytes) (root : PosixPath)
    (tree : Found) (content : ByteArray) : Prop where
  canonical : canonicalRoot disk release = .ok root
  tree : disk.lstat root = some tree
  readable : ∃ path, manifestPath disk manifest root = .ok path ∧
    readBytes system disk path = some content

/-- The contents of the regular files. -/
def contents (node : Node) : List ByteArray :=
  node.listing.filterMap fun entry => content? entry.2

/-- SHA-256 tells the contents of two trees apart. -/
def CollisionFree (sha256 : ByteArray → String) (node node' : Node) : Prop :=
  ∀ content ∈ contents node, ∀ content' ∈ contents node',
    sha256 content = sha256 content' → content = content'

section Runs

variable {system : System} {sha256 : ByteArray → String} {disk : Disk} {release manifest : Bytes}
  {root : PosixPath} {tree : Found} {content : ByteArray}

theorem Written.payload (h : Written system sha256 disk release root tree content) :
    Admitted system root.text tree.node ∧
      content = encode (manifestPayload (payloadOf sha256 root tree.node)) := by
  obtain ⟨manifest, path, hmain⟩ := h.written
  obtain ⟨root', hroot', hmain⟩ := bind_eq_ok.mp hmain
  rw [h.canonical] at hroot'
  obtain rfl := Except.ok.inj hroot'
  obtain ⟨path', -, hmain⟩ := bind_eq_ok.mp hmain
  obtain ⟨payload, hpayload, hcontent⟩ := bind_eq_ok.mp hmain
  obtain ⟨hadmitted, rfl⟩ := (buildManifest_eq_ok h.canonical h.tree).mp hpayload
  obtain ⟨-, hcontent⟩ := Prod.mk.inj (Option.some.inj (Except.ok.inj hcontent))
  exact ⟨hadmitted, hcontent.symm⟩

/-- A run writes the manifest of a tree that it can make the entries of. -/
theorem written_of_admitted (hroot : canonicalRoot disk release = .ok root)
    (htree : disk.lstat root = some tree) {path : PosixPath}
    (hpath : manifestPath disk manifest root = .ok path)
    (h : Admitted system root.text tree.node) :
    Written system sha256 disk release root tree
      (encode (manifestPayload (payloadOf sha256 root tree.node))) where
  canonical := hroot
  tree := htree
  written := ⟨manifest, path, bind_eq_ok.mpr ⟨root, hroot, bind_eq_ok.mpr ⟨path, hpath,
    bind_eq_ok.mpr ⟨_, (buildManifest_eq_ok hroot htree).mpr ⟨h, rfl⟩, rfl⟩⟩⟩⟩

theorem Presented.verify_eq_ok (h : Presented system disk release manifest root tree content)
    {expected : Value} (hload : loadManifest (some content) = .ok expected) :
    (∃ value, main system sha256 disk .verify release manifest = .ok value) ↔
      Admitted system root.text tree.node ∧
        equal expected (.dict (payloadOf sha256 root tree.node)) = true := by
  obtain ⟨path, hpath, hread⟩ := h.readable
  have hmain : main system sha256 disk .verify release manifest = (do
      let actual ← buildManifest system sha256 disk root
      raiseIf (equal expected (.dict actual) = false)
        (.of "release tree does not exactly match its manifest")
      return none) := by
    rw [main, h.canonical]
    change (manifestPath disk manifest root >>= _) = _
    rw [hpath]
    change (loadManifest (readBytes system disk path) >>= _) = _
    rw [hread, hload]
    rfl
  rw [hmain]
  constructor
  · rintro ⟨value, hvalue⟩
    obtain ⟨actual, hactual, hvalue⟩ := bind_eq_ok.mp hvalue
    obtain ⟨hadmitted, rfl⟩ := (buildManifest_eq_ok h.canonical h.tree).mp hactual
    obtain ⟨hequal, -⟩ := raiseIf_bind_eq_ok.mp hvalue
    exact ⟨hadmitted, Bool.eq_true_of_not_eq_false hequal⟩
  · rintro ⟨hadmitted, hequal⟩
    refine ⟨none, bind_eq_ok.mpr ⟨_, (buildManifest_eq_ok h.canonical h.tree).mpr
      ⟨hadmitted, rfl⟩, raiseIf_bind_eq_ok.mpr ⟨?_, rfl⟩⟩⟩
    rw [hequal]
    exact Bool.noConfusion

theorem equal_payloadOf {root root' : PosixPath} {node node' : Node} :
    equal (.dict (payloadOf sha256 root node)) (.dict (payloadOf sha256 root' node')) = true ↔
      root.text = root'.text ∧
        equalItems (entriesOf sha256 node) (entriesOf sha256 node') = true := by
  simp [payloadOf, equal_named, manifestFields, List.lookup_cons]

theorem Admits.listed {path : Text} {below : List DiskName} {item : Item}
    (h : Admits system path below item) : Listed item := by
  rcases item with ⟨status, content | _ | _⟩ | status
  · trivial
  · exact h.2
  · exact h.2
  · trivial

/-- Entries that can be made are equal if the listings are. -/
theorem equal_entriesOf {tree tree' : Found} {directory directory' : Text}
    (h : Admitted system directory tree.node) (h' : Admitted system directory' tree'.node)
    (hcollision : CollisionFree sha256 tree.node tree'.node) :
    equalItems (entriesOf sha256 tree.node) (entriesOf sha256 tree'.node) = true ↔
      tree.node.listing = tree'.node.listing := by
  refine equalItems_map fun entry hentry entry' hentry' => ?_
  rw [Prod.ext_iff]
  refine equal_entryOf (h entry hentry).listed (h' entry' hentry').listed ?_
  exact fun content hcontent content' hcontent' =>
    hcollision content (List.mem_filterMap.mpr ⟨entry, hentry, hcontent⟩)
      content' (List.mem_filterMap.mpr ⟨entry', hentry', hcontent'⟩)

/-- A tree passes the verification if it stands at the root of the manifest's tree and has the
same items at the same paths. -/
theorem verified_iff_same_tree {before after : Disk} {release release' manifest : Bytes}
    {root root' : PosixPath} {tree tree' : Found} {content : ByteArray}
    (hwritten : Written system sha256 before release root tree content)
    (hpresented : Presented system after release' manifest root' tree' content)
    (hcollision : CollisionFree sha256 tree.node tree'.node) :
    (exitCode (main system sha256 after .verify release' manifest) = 0 ↔
      root'.text = root.text ∧ ∀ below, tree'.node.item? below = tree.node.item? below) ∧
    ∀ below, (tree'.node.item? below).isSome ≠ (tree.node.item? below).isSome →
      exitCode (main system sha256 after .verify release' manifest) = 1 := by
  obtain ⟨hadmitted, rfl⟩ := hwritten.payload
  have hplain : plain (.dict (payloadOf sha256 root tree.node)) = true :=
    plain_payloadOf (not_hasPair_root hwritten.canonical) tree.node
  have hiff : exitCode (main system sha256 after .verify release' manifest) = 0 ↔
      root'.text = root.text ∧ ∀ below, tree'.node.item? below = tree.node.item? below := by
    rw [exitCode_eq_zero, hpresented.verify_eq_ok (loadManifest_written tree.node),
      equal_readBack _ _ hplain, equal_payloadOf,
      ← NamedTree.listing_inj tree'.distinct tree.distinct]
    constructor
    · rintro ⟨hadmitted', hroot, hentries⟩
      exact ⟨hroot.symm, ((equal_entriesOf hadmitted hadmitted' hcollision).mp hentries).symm⟩
    · rintro ⟨hroot, hlisting⟩
      -- whether an entry can be made depends on the text of its path alone
      have hadmitted' : Admitted system root'.text tree'.node := by
        rw [Admitted, hroot, hlisting]
        exact hadmitted
      exact ⟨hadmitted', hroot.symm,
        (equal_entriesOf hadmitted hadmitted' hcollision).mpr hlisting.symm⟩
  refine ⟨hiff, fun below hne => exitCode_eq_one.mpr fun hzero => hne ?_⟩
  rw [(hiff.mp hzero).2 below]

end Runs

/-! ### An installed release -/

/-- `bin` -/
def binName : DiskName := ⟨[98, 105, 110], by decide⟩

/-- `guardian` -/
def guardianName : DiskName := ⟨[103, 117, 97, 114, 100, 105, 97, 110], by decide⟩

/-- `unlisted` -/
def unlistedName : DiskName := ⟨[117, 110, 108, 105, 115, 116, 101, 100], by decide⟩

def releasePayload : ByteArray :=
  ⟨#[114, 101, 108, 101, 97, 115, 101, 45, 112, 97, 121, 108, 111, 97, 100, 10]⟩

def unexpectedPayload : ByteArray := ⟨#[117, 110, 101, 120, 112, 101, 99, 116, 101, 100]⟩

/-- The digests of the two contents. -/
def exampleDigest (content : ByteArray) : String :=
  if content = releasePayload then
    "481f69ec5558d9679a81d6deb0dbe8912cafefb6a4dd5d2dddd06f441e19f19a"
  else "bcf7690127d5b0c019c22e0472b2bb4e8d98784c6e7414f29436513a1c60853f"

def rootOwned (mode : Fin 4096) : Status := ⟨mode, 0, 0⟩

/-- A release with one executable, and with more beside its directory. -/
def releaseWith (more : List (DiskName × Node)) : Node :=
  .branch (rootOwned 0o755) ((binName, .branch (rootOwned 0o755)
    [(guardianName, .leaf (rootOwned 0o550, .file releasePayload))]) :: more)

def installed : Found := ⟨releaseWith [], by decide⟩

def extended : Found :=
  ⟨releaseWith [(unlistedName, .leaf (rootOwned 0o644, .file unexpectedPayload))], by decide⟩

/-- `/srv/release` -/
def releaseArgument : Bytes := [47, 115, 114, 118, 47, 114, 101, 108, 101, 97, 115, 101]

/-- `/srv/manifest` -/
def manifestArgument : Bytes := [47, 115, 114, 118, 47, 109, 97, 110, 105, 102, 101, 115, 116]

def pathOf (argument : Bytes) : PosixPath := PosixPath.parse (fsdecode argument)

theorem distinct_leaf (leaf : Status × Leaf) : (NamedTree.leaf leaf : Node).distinct = true := rfl

/-- A disk with a release and a manifest file. -/
def diskWith (release : Found) (manifest : ByteArray) : Disk where
  lstat path :=
    if path = pathOf releaseArgument then some release
    else if path = pathOf manifestArgument then
      some ⟨.leaf (rootOwned 0o600, .file manifest), distinct_leaf _⟩
    else none
  resolve path := some path

/-- Nothing is refused but recursion. -/
def exampleSystem : System := ⟨fun _ => true, fun _ => true, fun _ => true, 900⟩

theorem pathOf_manifest_ne : pathOf manifestArgument ≠ pathOf releaseArgument := by
  decide +kernel

theorem lstat_release (release : Found) (manifest : ByteArray) :
    (diskWith release manifest).lstat (pathOf releaseArgument) = some release := by
  simp [diskWith]

theorem lstat_manifest (release : Found) (manifest : ByteArray) :
    (diskWith release manifest).lstat (pathOf manifestArgument) =
      some ⟨.leaf (rootOwned 0o600, .file manifest), distinct_leaf _⟩ := by
  simp [diskWith, pathOf_manifest_ne]

theorem canonicalRoot_diskWith {release : Found} (h : isDirectory release.node.item = true)
    (manifest : ByteArray) :
    canonicalRoot (diskWith release manifest) releaseArgument = .ok (pathOf releaseArgument) := by
  have habsolute : (pathOf releaseArgument).isAbsolute = true := by decide +kernel
  have hfound := lstat_release release manifest
  have hlink : isLink release.node.item ≠ true := by
    intro hlink
    cases hitem : release.node.item with
    | inl leaf =>
      rw [hitem] at h
      cases h
    | inr status =>
      rw [hitem] at hlink
      cases hlink
  refine raiseIf_bind_eq_ok.mpr ⟨Bool.not_eq_false _ ▸ habsolute, orRaise_bind_eq_ok.mpr
    ⟨release, hfound, raiseIf_bind_eq_ok.mpr ⟨hlink, orRaise_bind_eq_ok.mpr
      ⟨pathOf releaseArgument, rfl, raiseIf_bind_eq_ok.mpr ⟨?_, raiseIf_bind_eq_ok.mpr
        ⟨not_not.mpr rfl, rfl⟩⟩⟩⟩⟩⟩
  rw [hfound, Option.any_some, h]
  exact Bool.noConfusion

theorem manifestPath_diskWith (release : Found) (manifest : ByteArray) :
    manifestPath (diskWith release manifest) manifestArgument (pathOf releaseArgument) =
      .ok (pathOf manifestArgument) := by
  have habsolute : (pathOf manifestArgument).isAbsolute = true := by decide +kernel
  have houtside (path : PosixPath) (h : path = pathOf manifestArgument) :
      ¬(path = pathOf releaseArgument ∨ pathOf releaseArgument ∈ parents path) := by
    subst h
    exact not_or.mpr ⟨pathOf_manifest_ne, by decide +kernel⟩
  have hresolved : PosixPath.mk (pathOf manifestArgument).root
      ((pathOf manifestArgument).parts.dropLast ++
        (pathOf manifestArgument).parts.getLast?.toList) = pathOf manifestArgument := by
    decide +kernel
  exact raiseIf_bind_eq_ok.mpr ⟨Bool.not_eq_false _ ▸ habsolute, orRaise_bind_eq_ok.mpr
    ⟨_, rfl, raiseIf_bind_eq_ok.mpr ⟨not_not.mpr hresolved, raiseIf_bind_eq_ok.mpr
      ⟨houtside _ hresolved, orRaise_bind_eq_ok.mpr ⟨_, lstat_manifest release manifest,
        raiseIf_bind_eq_ok.mpr ⟨Bool.noConfusion, rfl⟩⟩⟩⟩⟩⟩

/-- The manifest file of the installed release. -/
def installedManifest : ByteArray :=
  encode (manifestPayload (payloadOf exampleDigest (pathOf releaseArgument) installed.node))

theorem written_installed : Written exampleSystem exampleDigest (diskWith installed ⟨#[]⟩)
    releaseArgument (pathOf releaseArgument) installed installedManifest := by
  refine written_of_admitted (canonicalRoot_diskWith rfl _) (lstat_release _ _)
    (manifestPath_diskWith _ _) ?_
  have hlisting : installed.node.listing = [([], .inr (rootOwned 0o755)),
      ([binName], .inr (rootOwned 0o755)),
      ([binName, guardianName], .inl (rootOwned 0o550, .file releasePayload))] := rfl
  rw [Admitted, hlisting]
  simp [Admits, exampleSystem]

theorem presented_diskWith {release : Found} (h : isDirectory release.node.item = true) :
    Presented exampleSystem (diskWith release installedManifest) releaseArgument manifestArgument
      (pathOf releaseArgument) release installedManifest where
  canonical := canonicalRoot_diskWith h _
  tree := lstat_release _ _
  readable := by
    refine ⟨_, manifestPath_diskWith _ _, ?_⟩
    rw [readBytes, lstat_manifest]
    rfl

/-- The installed release passes, and not with one more file. -/
theorem verified_iff_same_tree_installed :
    exitCode (main exampleSystem exampleDigest (diskWith installed installedManifest) .verify
      releaseArgument manifestArgument) = 0 ∧
    exitCode (main exampleSystem exampleDigest (diskWith extended installedManifest) .verify
      releaseArgument manifestArgument) = 1 := by
  have hcontents : contents installed.node = [releasePayload] := rfl
  have hextended : contents extended.node = [releasePayload, unexpectedPayload] := rfl
  constructor
  · refine (verified_iff_same_tree written_installed (presented_diskWith rfl) ?_).1.mpr
      ⟨rfl, fun _ => rfl⟩
    rw [CollisionFree, hcontents]
    decide
  · refine (verified_iff_same_tree written_installed (presented_diskWith rfl) ?_).2
      [unlistedName] ?_
    · rw [CollisionFree, hcontents, hextended]
      decide
    · decide

end VpsGuardian.Release
