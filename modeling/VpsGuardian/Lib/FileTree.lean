import VpsGuardian.Lib.PosixPath

/-!
Trees of files, as a program finds them on a disk.

An entry has a name as `os.fsdecode` returns it, where a byte that is no UTF-8
stands as a low surrogate. Everything can be read, and nothing changes while it
is. The entries of a directory come in an order that says nothing about them.
-/

namespace VpsGuardian.Lib

open PosixPath (slash dot)

/-! ### Names -/

def isNameChar (c : CodePoint) : Bool :=
  c != slash && c.val != 0 &&
    (c.val < 0xD800 || 0xDFFF < c.val || (0xDC80 ≤ c.val && c.val ≤ 0xDCFF))

def isFileName (s : Text) : Bool := s != [] && s != [dot] && s != [dot, dot] && s.all isNameChar

structure FileName where
  text : Text
  valid : isFileName text = true
  deriving DecidableEq

namespace FileName

variable (name : FileName)

theorem isNameChar_of_mem {c : CodePoint} (h : c ∈ name.text) : isNameChar c = true := by
  have hvalid := name.valid
  rw [isFileName, Bool.and_eq_true, List.all_eq_true] at hvalid
  exact hvalid.2 c h

theorem text_ne_nil : name.text ≠ [] := by
  have hvalid := name.valid
  simp only [isFileName, Bool.and_eq_true, bne_iff_ne] at hvalid
  exact hvalid.1.1.1

theorem text_ne_dot : name.text ≠ [dot] := by
  have hvalid := name.valid
  simp only [isFileName, Bool.and_eq_true, bne_iff_ne] at hvalid
  exact hvalid.1.1.2

theorem text_ne_dots : name.text ≠ [dot, dot] := by
  have hvalid := name.valid
  simp only [isFileName, Bool.and_eq_true, bne_iff_ne] at hvalid
  exact hvalid.1.2

theorem slash_not_mem : slash ∉ name.text := by
  intro h
  have hchar := name.isNameChar_of_mem h
  simp [isNameChar] at hchar

theorem not_isHigh_of_mem {c : CodePoint} (h : c ∈ name.text) : Text.isHigh c = false := by
  have hchar := name.isNameChar_of_mem h
  simp only [isNameChar, Bool.and_eq_true, Bool.or_eq_true, decide_eq_true_eq] at hchar
  simp only [Text.isHigh, Json.isHighSurrogate, Bool.and_eq_false_iff, decide_eq_false_iff_not]
  omega

theorem text_injective : Function.Injective FileName.text := by
  rintro ⟨s, hs⟩ ⟨t, ht⟩ h
  cases h
  rfl

end FileName

/-! ### Relative paths -/

/-- The text of a relative path. -/
def pathText (path : List FileName) : Text := [slash].intercalate (path.map FileName.text)

theorem parse_pathText {path : List FileName} (h : path ≠ []) :
    PosixPath.parse (pathText path) = ⟨0, path.map FileName.text⟩ := by
  apply PosixPath.parse_intercalate
  · simpa using h
  · intro part hpart
    obtain ⟨name, -, rfl⟩ := List.mem_map.mp hpart
    exact name.slash_not_mem
  · intro hpart
    obtain ⟨name, -, hname⟩ := List.mem_map.mp hpart
    exact name.text_ne_nil hname
  · intro hpart
    obtain ⟨name, -, hname⟩ := List.mem_map.mp hpart
    exact name.text_ne_dot hname

theorem pathText_inj {path path' : List FileName} (h : path ≠ []) (h' : path' ≠ []) :
    pathText path = pathText path' ↔ path = path' := by
  refine ⟨fun heq => ?_, fun heq => heq ▸ rfl⟩
  have hparse := parse_pathText h
  rw [heq, parse_pathText h'] at hparse
  exact (List.map_injective_iff.mpr FileName.text_injective (congrArg PosixPath.parts hparse)).symm

theorem pathText_ne_nil {path : List FileName} (h : path ≠ []) : pathText path ≠ [] := by
  apply PosixPath.intercalate_ne_nil
  · simpa using h
  · intro hpart
    obtain ⟨name, -, hname⟩ := List.mem_map.mp hpart
    exact name.text_ne_nil hname

theorem name_parse_pathText {path : List FileName} (h : path ≠ []) :
    (PosixPath.parse (pathText path)).name = (path.getLast h).text := by
  rw [parse_pathText h, PosixPath.name, List.getLast?_map, List.getLast?_eq_some_getLast h]
  rfl

/-- The text of a path through names has no surrogate pair. -/
theorem not_hasPair_pathText (path : List FileName) : Text.hasPair (pathText path) = false := by
  apply Text.not_hasPair_of_forall
  intro c hc
  obtain rfl | ⟨part, hpart, hc⟩ := PosixPath.eq_or_mem_of_mem_intercalate hc
  · exact Text.isHigh_ofChar '/'
  · obtain ⟨name, -, rfl⟩ := List.mem_map.mp hpart
    exact name.not_isHigh_of_mem hc

/-! ### Trees -/

inductive Node where
  | file (content : ByteArray)
  | directory (entries : List (FileName × Node))
  /-- A symbolic link; it may lead to a directory. -/
  | link (toDirectory : Bool)
  /-- A device, a socket or a pipe. -/
  | special

namespace Node

/-- `path.is_dir()`, which follows links. -/
def isDir : Node → Bool
  | directory _ => true
  | link toDirectory => toDirectory
  | file _ | special => false

def isLink : Node → Bool
  | link _ => true
  | file _ | directory _ | special => false

/-- Regular files and directories. -/
def isPlain : Node → Bool
  | file _ | directory _ => true
  | link _ | special => false

def content? : Node → Option ByteArray
  | file content => some content
  | directory _ | link _ | special => none

end Node

mutual

/-- Everything below a node with its path from there; links are not followed. -/
def Node.descendants : Node → List (List FileName × Node)
  | .directory entries => belowEntries entries
  | .file _ | .link _ | .special => []

def belowEntries : List (FileName × Node) → List (List FileName × Node)
  | [] => []
  | (name, node) :: entries =>
      ([name], node) :: (node.descendants.map fun entry => (name :: entry.1, entry.2)) ++
        belowEntries entries

end

mutual

/-- No directory has two entries of one name. -/
def Node.distinct : Node → Bool
  | .directory entries => distinctEntries entries
  | .file _ | .link _ | .special => true

def distinctEntries : List (FileName × Node) → Bool
  | [] => true
  | (name, node) :: entries =>
      !(entries.map Prod.fst).contains name && node.distinct && distinctEntries entries

end

structure Tree where
  entries : List (FileName × Node)
  distinct : distinctEntries entries = true

/-- The regular files below some entries. -/
def filesBelow (entries : List (FileName × Node)) : List (List FileName × ByteArray) :=
  (belowEntries entries).filterMap fun entry => entry.2.content?.map fun c => (entry.1, c)

def Tree.files (tree : Tree) : List (List FileName × ByteArray) := filesBelow tree.entries

/-! ### What is below -/

theorem mem_belowEntries {entries : List (FileName × Node)} {path : List FileName} {node : Node} :
    (path, node) ∈ belowEntries entries ↔
      ∃ name child, (name, child) ∈ entries ∧
        ((path = [name] ∧ node = child) ∨
          ∃ rest, path = name :: rest ∧ (rest, node) ∈ child.descendants) := by
  induction entries with
  | nil => simp [belowEntries]
  | cons entry entries ih =>
    obtain ⟨name, child⟩ := entry
    rw [belowEntries, List.mem_append, List.mem_cons, ih]
    constructor
    · rintro ((h | h) | ⟨name', child', hmem, h⟩)
      · obtain ⟨hpath, hnode⟩ := Prod.mk.inj h
        exact ⟨name, child, List.mem_cons_self, .inl ⟨hpath, hnode⟩⟩
      · obtain ⟨⟨rest, node'⟩, hbelow, heq⟩ := List.mem_map.mp h
        obtain ⟨hpath, rfl⟩ := Prod.mk.inj heq
        exact ⟨name, child, List.mem_cons_self, .inr ⟨rest, hpath.symm, hbelow⟩⟩
      · exact ⟨name', child', List.mem_cons_of_mem _ hmem, h⟩
    · rintro ⟨name', child', hmem, h⟩
      obtain heq | hmem := List.mem_cons.mp hmem
      · obtain ⟨rfl, rfl⟩ := Prod.mk.inj heq
        obtain ⟨rfl, rfl⟩ | ⟨rest, rfl, hbelow⟩ := h
        · exact .inl (.inl rfl)
        · exact .inl (.inr (List.mem_map.mpr ⟨(rest, node), hbelow, rfl⟩))
      · exact .inr ⟨name', child', hmem, h⟩

/-- A path begins with the name of an entry. -/
theorem exists_head_of_mem_belowEntries {entries : List (FileName × Node)} {path : List FileName}
    {node : Node} (h : (path, node) ∈ belowEntries entries) :
    ∃ name rest, path = name :: rest ∧ name ∈ entries.map Prod.fst := by
  obtain ⟨name, child, hmem, ⟨rfl, -⟩ | ⟨rest, rfl, -⟩⟩ := mem_belowEntries.mp h
  · exact ⟨name, [], rfl, List.mem_map_of_mem hmem⟩
  · exact ⟨name, rest, rfl, List.mem_map_of_mem hmem⟩

theorem ne_nil_of_mem_belowEntries {entries : List (FileName × Node)} {path : List FileName}
    {node : Node} (h : (path, node) ∈ belowEntries entries) : path ≠ [] := by
  obtain ⟨name, rest, rfl, -⟩ := exists_head_of_mem_belowEntries h
  exact List.cons_ne_nil name rest

theorem ne_nil_of_mem_descendants {node child : Node} {path : List FileName}
    (h : (path, child) ∈ node.descendants) : path ≠ [] := by
  cases node with
  | directory entries => exact ne_nil_of_mem_belowEntries h
  | file | link | special => exact absurd h List.not_mem_nil

theorem distinctEntries_iff {entries : List (FileName × Node)} :
    distinctEntries entries = true ↔
      (entries.map Prod.fst).Nodup ∧ ∀ entry ∈ entries, entry.2.distinct = true := by
  induction entries with
  | nil => simp [distinctEntries]
  | cons entry entries ih =>
    simp only [distinctEntries, Bool.and_eq_true, ih, Bool.not_eq_true', List.map_cons,
      List.nodup_cons, List.forall_mem_cons, List.contains_eq_mem, decide_eq_false_iff_not]
    constructor
    · rintro ⟨⟨hname, hnode⟩, hnodup, hrest⟩
      exact ⟨⟨hname, hnodup⟩, hnode, hrest⟩
    · rintro ⟨⟨hname, hnodup⟩, hnode, hrest⟩
      exact ⟨⟨hname, hnode⟩, hnodup, hrest⟩

mutual

theorem Node.nodup_descendants : ∀ node : Node, node.distinct = true →
    (node.descendants.map Prod.fst).Nodup
  | .directory entries, h => nodup_belowEntries entries h
  | .file _, _ => List.nodup_nil
  | .link _, _ => List.nodup_nil
  | .special, _ => List.nodup_nil

theorem nodup_belowEntries : ∀ entries : List (FileName × Node), distinctEntries entries = true →
    ((belowEntries entries).map Prod.fst).Nodup
  | [], _ => List.nodup_nil
  | (name, node) :: entries, h => by
    rw [distinctEntries, Bool.and_eq_true, Bool.and_eq_true] at h
    obtain ⟨⟨hname, hnode⟩, hrest⟩ := h
    have hinner := Node.nodup_descendants node hnode
    have houter := nodup_belowEntries entries hrest
    have hmap : (node.descendants.map fun entry => (name :: entry.1, entry.2)).map Prod.fst =
        (node.descendants.map Prod.fst).map (name :: ·) := by
      rw [List.map_map, List.map_map]
      rfl
    rw [belowEntries, List.map_append, List.map_cons, hmap, List.nodup_append]
    refine ⟨List.nodup_cons.mpr ⟨?_, hinner.map (List.cons_injective)⟩, houter, ?_⟩
    · intro hmem
      obtain ⟨rest, hrest, hnil⟩ := List.mem_map.mp hmem
      obtain ⟨⟨rest, child⟩, hbelow, rfl⟩ := List.mem_map.mp hrest
      exact ne_nil_of_mem_descendants hbelow (List.cons.inj hnil).2
    · -- the paths of the other entries begin with other names
      intro path hpath path' hpath' heq
      obtain ⟨⟨path', child⟩, hbelow, rfl⟩ := List.mem_map.mp hpath'
      obtain ⟨name', rest, rfl, hname'⟩ := exists_head_of_mem_belowEntries hbelow
      have hhead : name = name' := by
        obtain rfl | hpath := List.mem_cons.mp hpath
        · exact (List.cons.inj heq).1
        · obtain ⟨rest', -, rfl⟩ := List.mem_map.mp hpath
          exact (List.cons.inj heq).1
      subst hhead
      simp [hname'] at hname

end

theorem lookup_of_mem {entries : List (FileName × Node)}
    (hdistinct : distinctEntries entries = true)
    {name : FileName} {node : Node} (h : (name, node) ∈ entries) :
    entries.lookup name = some node := by
  have hnodup := (distinctEntries_iff.mp hdistinct).1
  obtain ⟨before, after, rfl⟩ := List.append_of_mem h
  rw [List.map_append, List.map_cons, List.nodup_middle, List.nodup_cons, List.mem_append,
    not_or] at hnodup
  refine List.lookup_eq_some_iff.mpr ⟨before, after, rfl, fun entry hentry => ?_⟩
  rw [bne_iff_ne]
  intro heq
  have hfst : entry.1 ∈ before.map Prod.fst := List.mem_map_of_mem hentry
  exact hnodup.1.1 (heq ▸ hfst)

theorem mem_filesBelow {entries : List (FileName × Node)} {path : List FileName}
    {content : ByteArray} :
    (path, content) ∈ filesBelow entries ↔ (path, .file content) ∈ belowEntries entries := by
  rw [filesBelow, List.mem_filterMap]
  constructor
  · rintro ⟨⟨path', node⟩, hmem, h⟩
    cases node with
    | file content' =>
      cases h
      exact hmem
    | directory | link | special => cases h
  · intro h
    exact ⟨_, h, rfl⟩

theorem ne_nil_of_mem_files {tree : Tree} {file : List FileName × ByteArray}
    (h : file ∈ tree.files) : file.1 ≠ [] :=
  ne_nil_of_mem_belowEntries (mem_filesBelow.mp h)

theorem nodup_files (tree : Tree) : (tree.files.map Prod.fst).Nodup := by
  refine (nodup_belowEntries tree.entries tree.distinct).sublist ?_
  rw [Tree.files, filesBelow]
  induction belowEntries tree.entries with
  | nil => exact List.Sublist.slnil
  | cons entry entries ih =>
    cases hcontent : entry.2.content? with
    | none => simpa [List.filterMap_cons, hcontent] using ih.cons entry.1
    | some content => simpa [List.filterMap_cons, hcontent] using ih

end VpsGuardian.Lib
