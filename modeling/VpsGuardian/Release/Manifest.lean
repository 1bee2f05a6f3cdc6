import VpsGuardian.Lib.DiskNames
import VpsGuardian.Lib.NamedTree
import VpsGuardian.Lib.PythonEquality
import VpsGuardian.Recovery.ReadBack

/-!
Release manifests: writing and verifying them (`scripts/release-manifest.py`).

A manifest lists the release directory and everything below it. While a run
lasts, the disk stays as it is, and a regular file has the size of its content.
-/

namespace VpsGuardian.Release

open Lib PythonJson
open PosixPath (slash dot)
open Recovery (encode readText manifestPayload)

/-- What ends a run: a `ManifestError`, or an exception that `main` does not catch. -/
inductive Failure where
  | manifest (message : Text)
  | other (exception : String)
  deriving DecidableEq, Repr

def Failure.of (message : String) : Failure := .manifest (Text.ofString message)

/-! ### Disks -/

/-- What `lstat` returns, but for the type and the size. -/
structure Status where
  /-- `stat.S_IMODE(st_mode)` -/
  mode : Fin 4096
  uid : Nat
  gid : Nat
  deriving DecidableEq

/-- What is no directory. -/
inductive Leaf where
  | file (content : ByteArray)
  | link
  /-- A device, a socket or a pipe. -/
  | special
  deriving DecidableEq

abbrev Item : Type := (Status × Leaf) ⊕ Status

abbrev Node : Type := NamedTree DiskName (Status × Leaf) Status

/-- Something on a disk, with everything below it. -/
structure Found where
  node : Node
  distinct : node.distinct = true

structure Disk where
  lstat : PosixPath → Option Found
  /-- `path.resolve(strict=True)` -/
  resolve : PosixPath → Option PosixPath

/-- What the operating system lets the run do at the path of a text, which may be too long, and
how deep `walk` may call itself. -/
structure System where
  lstats : Text → Bool
  scans : Text → Bool
  opens : Text → Bool
  depth : Nat

/-! ### Entries -/

def schema : Text := Text.ofString "vps-guardian-release-manifest/v1"

/-- `f"{mode:04o}"` -/
def octal (mode : Fin 4096) : Text :=
  [mode.val / 512, mode.val / 64 % 8, mode.val / 8 % 8, mode.val % 8].map fun digit =>
    Fin.ofNat 0x110000 (48 + digit)

/-- `os.path.join`, which makes the path of a child. -/
def join (directory name : Text) : Text :=
  if directory.getLast? = some slash then directory ++ name else directory ++ slash :: name

/-- `child_path.relative_to(root).as_posix()`, and what stands for the root. -/
def relativePath : List DiskName → Text
  | [] => [dot]
  | name :: below => pathText ((name :: below).map DiskName.fileName)

/-- The fields that every entry has. -/
def common (relative : Text) (status : Status) : List (String × Value) :=
  [("path", .string relative), ("mode", .string (octal status.mode)), ("uid", .int status.uid),
    ("gid", .int status.gid)]

section

variable (system : System) (sha256 : ByteArray → String)

def directoryFields (relative : Text) (status : Status) : List (String × Value) :=
  common relative status ++ [("type", .string (Text.ofString "directory"))]

def fileFields (relative : Text) (status : Status) (content : ByteArray) :
    List (String × Value) :=
  common relative status ++ [("type", .string (Text.ofString "file")), ("size", .int content.size),
    ("sha256", .string (Text.ofString (sha256 content)))]

def entryFor (path relative : Text) (item : Item) : Except Failure Value := do
  raiseIf (system.lstats path = false) (.other "OSError")
  match item with
  | .inr status => return .dict (named (directoryFields relative status))
  | .inl (status, .file content) => do
      raiseIf (system.opens path = false) (.other "OSError")
      return .dict (named (fileFields sha256 relative status content))
  | .inl (_, .link) =>
      .error (.manifest (Text.ofString "release contains a symbolic link: " ++ relative))
  | .inl (_, .special) =>
      .error (.manifest (Text.ofString "release contains an unsupported file type: " ++ relative))

/-! ### The walk -/

def cannotScan (directory : Text) : Failure :=
  .manifest (Text.ofString "cannot scan release directory: " ++ directory)

/-- `sorted(..., key=lambda item: os.fsencode(item.name))` -/
def sorted {γ : Type} (children : List (DiskName × γ)) : List (DiskName × γ) :=
  children.insertionSort fun a b =>
    numbers (fsencode a.1.fileName.text) ≤ numbers (fsencode b.1.fileName.text)

/-- The entries that the visits make one after the other. -/
def inOrder : List (DiskName × Except Failure (List Value)) → Except Failure (List Value)
  | [] => .ok []
  | (_, visited) :: children => do
      let entries ← visited
      let more ← inOrder children
      return entries ++ more

/-- `walk` on a directory some names below the root, whose children come with what a visit of
them does. -/
def walk (directory : Text) (below : List DiskName)
    (children : List (DiskName × Except Failure (List Value))) : Except Failure (List Value) := do
  raiseIf (system.depth ≤ below.length) (.other "RecursionError")
  raiseIf (system.scans directory = false) (cannotScan directory)
  inOrder (sorted children)

mutual

/-- The entry of a child, and behind it those of what is below the child. -/
def visit (path : Text) (below : List DiskName) : Node → Except Failure (List Value)
  | .leaf item => do
      let entry ← entryFor system sha256 path (relativePath below) (.inl item)
      return [entry]
  | .branch status children => do
      let entry ← entryFor system sha256 path (relativePath below) (.inr status)
      let entries ← walk system path below (visits path below children)
      return entry :: entries

def visits (path : Text) (below : List DiskName) :
    List (DiskName × Node) → List (DiskName × Except Failure (List Value))
  | [] => []
  | (name, child) :: children =>
      (name, visit (join path name.fileName.text) (below ++ [name]) child) ::
        visits path below children

end

def collectEntries (disk : Disk) (root : PosixPath) : Except Failure (List Value) := do
  let found ← orRaise (disk.lstat root) (.other "OSError")
  let entry ← entryFor system sha256 root.text (relativePath []) found.node.item
  match found.node with
  | .leaf _ => .error (cannotScan root.text)
  | .branch _ children => do
      let entries ← walk system root.text [] (visits system sha256 root.text [] children)
      return entry :: entries

/-! ### Manifests -/

def manifestFields (root : PosixPath) (entries : List Value) : List (String × Value) :=
  [("schema", .string schema), ("release_root", .string root.text), ("entries", .list entries)]

def buildManifest (disk : Disk) (root : PosixPath) : Except Failure (List (Text × Value)) := do
  let entries ← collectEntries system sha256 disk root
  return named (manifestFields root entries)

def loadManifest (content : Option ByteArray) : Except Failure Value := do
  let content ← orRaise content (.of "release manifest is unreadable or invalid")
  let text ← orRaise (readText content) (.of "release manifest is unreadable or invalid")
  let payload ← orRaise (loads text) (.of "release manifest is unreadable or invalid")
  match payload with
  | .dict members => do
      raiseIf ((members.lookup (Text.ofString "schema")).any
        (fun value => equal value (.string schema)) = false)
        (.of "release manifest schema is invalid")
      match members.lookup (Text.ofString "release_root"),
        members.lookup (Text.ofString "entries") with
      | some (.string _), some (.list _) => return payload
      | _, _ => .error (.of "release manifest structure is invalid")
  | _ => .error (.of "release manifest schema is invalid")

/-! ### Paths of a run -/

def isDirectory (item : Item) : Bool := item.isRight

def isLink : Item → Bool
  | .inl (_, .link) => true
  | .inl (_, .file _) | .inl (_, .special) | .inr _ => false

def content? : Item → Option ByteArray
  | .inl (_, .file content) => some content
  | .inl (_, .link) | .inl (_, .special) | .inr _ => none

def canonicalRoot (disk : Disk) (argument : Bytes) : Except Failure PosixPath := do
  let supplied := PosixPath.parse (fsdecode argument)
  raiseIf (supplied.isAbsolute = false) (.of "release root must be an absolute path")
  let found ← orRaise (disk.lstat supplied) (.of "release root cannot be resolved")
  raiseIf (isLink found.node.item = true) (.of "release root cannot be a symbolic link")
  let root ← orRaise (disk.resolve supplied) (.of "release root cannot be resolved")
  raiseIf ((disk.lstat root).any (fun found => isDirectory found.node.item) = false)
    (.of "release root must be a directory")
  raiseIf (root ≠ supplied) (.of "release root cannot contain symbolic-link path components")
  return root

/-- `path.parents` -/
def parents (path : PosixPath) : List PosixPath :=
  path.parts.inits.dropLast.map fun parts => { path with parts := parts }

def manifestPath (disk : Disk) (argument : Bytes) (root : PosixPath) :
    Except Failure PosixPath := do
  let path := PosixPath.parse (fsdecode argument)
  raiseIf (path.isAbsolute = false) (.of "manifest path must be absolute")
  let parent ← orRaise (disk.resolve { path with parts := path.parts.dropLast })
    (.of "manifest parent cannot be resolved")
  let resolved := { parent with parts := parent.parts ++ path.parts.getLast?.toList }
  raiseIf (resolved ≠ path) (.of "manifest path cannot contain symbolic-link path components")
  raiseIf (resolved = root ∨ root ∈ parents resolved)
    (.of "manifest must be stored outside the release tree")
  let found ← orRaise (disk.lstat path) (.of "manifest must already be a regular file")
  raiseIf ((content? found.node.item).isNone = true) (.of "manifest must be a regular file")
  return path

/-- What can be read of a file. -/
def readBytes (disk : Disk) (path : PosixPath) : Option ByteArray :=
  if system.opens path.text then (disk.lstat path).bind fun found => content? found.node.item
  else none

inductive Action where
  | write
  | verify
  deriving DecidableEq, Repr

/-- `main` without its exit code. It returns the file that it writes. -/
def main (disk : Disk) (action : Action) (releaseRoot manifest : Bytes) :
    Except Failure (Option (PosixPath × ByteArray)) := do
  let root ← canonicalRoot disk releaseRoot
  let path ← manifestPath disk manifest root
  match action with
  | .write => do
      let payload ← buildManifest system sha256 disk root
      return some (path, encode (manifestPayload payload))
  | .verify => do
      let expected ← loadManifest (readBytes system disk path)
      let actual ← buildManifest system sha256 disk root
      raiseIf (equal expected (.dict actual) = false)
        (.of "release tree does not exactly match its manifest")
      return none

end

/-- `main` returns 1 for a `ManifestError`, and an exception that it does not catch ends the
interpreter with 1. -/
def exitCode {α : Type} : Except Failure α → Nat
  | .ok _ => 0
  | .error _ => 1

end VpsGuardian.Release
