import VpsGuardian.Lib.Run

/-!
A directory of directories, files and links, and what a crash leaves of it.

Directory operations are durable in the order in which they are made. The
content of a file is durable only once the file has been synced; otherwise a
crash may leave the file empty.
-/

namespace VpsGuardian.Lib.Directory

structure File where
  data : String
  synced : Bool
  deriving DecidableEq, Repr

inductive Node where
  | directory (files : String → Option File)
  | link (target : String)

/-- The entries of the directory all of this happens in. -/
abbrev Root : Type := String → Option Node

/-- `write` makes no file durable; nothing here syncs. -/
inductive Operation where
  | mkdir (name : String)
  | create (directory file : String)
  | write (directory file data : String)
  | removeFile (directory file : String)
  | remove (name : String)
  | rename (source destination : String)
  | symlink (target name : String)
  deriving DecidableEq, Repr

/-- The entries an operation changes. -/
def Operation.touches : Operation → List String
  | .mkdir name | .remove name | .symlink _ name => [name]
  | .create directory _ | .write directory _ _ | .removeFile directory _ => [directory]
  | .rename source destination => [source, destination]

/-- A file of a directory is set, or removed. -/
def setFile (root : Root) (directory file : String) (content : Option File) : Root :=
  match root directory with
  | some (.directory files) =>
      Function.update root directory (some (.directory (Function.update files file content)))
  | _ => root

def apply (root : Root) : Operation → Root
  | .mkdir name => Function.update root name (some (.directory fun _ => none))
  | .create directory file => setFile root directory file (some ⟨"", false⟩)
  | .write directory file data => setFile root directory file (some ⟨data, false⟩)
  | .removeFile directory file => setFile root directory file none
  | .remove name => Function.update root name none
  | .rename source destination =>
      Function.update (Function.update root destination (root source)) source none
  | .symlink target name => Function.update root name (some (.link target))

/-- The files in the directory a link leads to. -/
def resolve (root : Root) (name : String) : Option (String → Option File) :=
  match root name with
  | some (.link target) =>
      match root target with
      | some (.directory files) => some files
      | _ => none
  | _ => none

/-- A file after a crash that loses its content, if it can. -/
def File.crash (lost : Bool) (file : File) : File :=
  if lost && !file.synced then { file with data := "" } else file

/-- The directory after a crash. Which unsynced contents are lost is for the crash to say. -/
def crash (lost : String → String → Bool) (root : Root) : Root := fun name =>
  (root name).map fun
    | .directory files => .directory fun file => (files file).map (File.crash (lost name file))
    | .link target => .link target

/-! ### Frames -/

theorem setFile_of_ne {root : Root} {directory file name : String} {content : Option File}
    (h : name ≠ directory) : setFile root directory file content name = root name := by
  unfold setFile
  cases root directory with
  | none => rfl
  | some node =>
    cases node with
    | directory files => exact Function.update_of_ne h _ _
    | link target => rfl

/-- An operation leaves the entries it does not touch. -/
theorem apply_of_not_touched {root : Root} {operation : Operation} {name : String}
    (h : name ∉ operation.touches) : apply root operation name = root name := by
  cases operation with
  | mkdir other => exact Function.update_of_ne (List.ne_of_not_mem_cons h) _ _
  | create directory file => exact setFile_of_ne (List.ne_of_not_mem_cons h)
  | write directory file data => exact setFile_of_ne (List.ne_of_not_mem_cons h)
  | removeFile directory file => exact setFile_of_ne (List.ne_of_not_mem_cons h)
  | remove other => exact Function.update_of_ne (List.ne_of_not_mem_cons h) _ _
  | rename source destination =>
    simp only [Operation.touches, List.mem_cons, List.not_mem_nil, or_false, not_or] at h
    rw [apply, Function.update_of_ne h.1, Function.update_of_ne h.2]
  | symlink target other => exact Function.update_of_ne (List.ne_of_not_mem_cons h) _ _

theorem run_of_not_touched {root : Root} {operations : List Operation} {name : String}
    (h : ∀ operation ∈ operations, name ∉ operation.touches) :
    run apply root operations name = root name := by
  induction operations generalizing root with
  | nil => rfl
  | cons operation operations ih =>
    rw [run_cons, ih fun other hother => h other (List.mem_cons_of_mem _ hother)]
    exact apply_of_not_touched (h operation List.mem_cons_self)

theorem resolve_crash (lost : String → String → Bool) {root : Root} {name target : String}
    (hlink : root name = some (.link target)) {files : String → Option File}
    (htarget : root target = some (.directory files)) :
    resolve (crash lost root) name =
      some fun file => (files file).map (File.crash (lost target file)) := by
  simp [resolve, crash, hlink, htarget]

end VpsGuardian.Lib.Directory
