import VpsGuardian.Agent.Protocol
import VpsGuardian.Lib.Action

/-!
The host, as the actions of the Agent see it (`agent/actions.go`): the files they look at, the
commands they run and what they are answered.

Any call may fail, and the process may stop at any call, after which nothing more happens. Nobody
else writes to the files while an action runs, and the commands do not either.
-/

namespace VpsGuardian.Agent

open Lib
open Controller (Time)

/-! ### Paths -/

namespace Filepath

def isAbs (path : String) : Bool := path.toList.head? = some '/'

/-- The components that are left over, the last one first. -/
def reduced (rooted : Bool) (stack : List (List Char)) (part : List Char) : List (List Char) :=
  if part = [] ∨ part = ['.'] then stack
  else if part = ['.', '.'] then
    match stack with
    | [] => if rooted then [] else [part]
    | top :: rest => if top = ['.', '.'] then part :: stack else rest
  else part :: stack

def components (path : String) : List (List Char) :=
  ((path.toList.splitOn '/').foldl (reduced (isAbs path)) []).reverse

def ofComponents (rooted : Bool) (parts : List (List Char)) : String :=
  let body := ['/'].intercalate parts
  if rooted then .ofList ('/' :: body) else if body = [] then "." else .ofList body

def clean (path : String) : String := ofComponents (isAbs path) (components path)

/-- Everything up to the last slash, cleaned. -/
def dir (path : String) : String :=
  clean (.ofList (path.toList.reverse.dropWhile (· ≠ '/')).reverse)

def base (path : String) : String :=
  match ((path.toList.splitOn '/').filter (· ≠ [])).getLast? with
  | some part => .ofList part
  | none => if path = "" then "." else "/"

def join (elements : List String) : String :=
  match elements.filter (· ≠ "") with
  | [] => ""
  | elements => clean ("/".intercalate elements)

/-- The components that remain of two lists after their common beginning. -/
def apart : List (List Char) → List (List Char) → List (List Char) × List (List Char)
  | part :: base, part' :: target =>
      if part = part' then apart base target else (part :: base, part' :: target)
  | base, target => (base, target)

def rel (base target : String) : Option String :=
  let remains := apart (components base) (components target)
  if isAbs base ≠ isAbs target ∨ ['.', '.'] ∈ remains.1 then none
  else some (ofComponents false (remains.1.map (fun _ => ['.', '.']) ++ remains.2))

end Filepath

/-! ### Files -/

structure File where
  content : ByteArray
  mode : Nat
  deriving DecidableEq

/-- What there is at a path. -/
inductive Entry where
  | regular (file : File)
  | directory
  | link
  | special
  deriving DecidableEq

abbrev Files := String → Option Entry

def Files.set (files : Files) (path : String) (entry : Option Entry) : Files := fun path' =>
  if path' = path then entry else files path'

/-- The regular file at a path. -/
def Files.regular? (files : Files) (path : String) : Option File :=
  match files path with
  | some (.regular file) => some file
  | _ => none

/-- What `WalkDir` visits: a file with its time of modification, unless it cannot be read, or
something that is no regular file. The error is the one that the function is called with. -/
structure Visit where
  path : String
  error : Option String
  regular : Bool
  modTime : Except String Time

/-! ### Calls -/

/-- What becomes of a call. -/
structure Answer where
  error : Option String
  /-- What a command prints, the name a new file gets, a resolved path or a body. -/
  text : String
  /-- The status of a response, or how many bytes a failing write has written. -/
  number : Nat
  stops : Bool
  deriving Inhabited, DecidableEq

/-- What reaches the host beyond looking at files. -/
inductive Effect where
  | command (environment : Option (List String)) (name : String) (arguments : List String)
  | get (url : String)
  | helper (request : Json.Value)
  | mkdirAll (path : String)
  | create (path : String) (mode : Nat)
  | chmod (path : String) (mode : Nat)
  | write (path : String) (data : ByteArray)
  | rename (source destination : String)
  | remove (path : String)

/-- A call the files do not allow: an exclusive creation where there is something, and a call
for a file that is not there. -/
def Effect.refused (files : Files) : Effect → Bool
  | .create path _ => (files path).isSome
  | .chmod path _ | .write path _ => (files.regular? path).isNone
  | .rename source destination =>
      (files.regular? source).isNone || files destination = some .directory
  | .remove path => (files path).isNone || files path = some .directory
  | .command _ _ _ | .get _ | .helper _ | .mkdirAll _ => false

/-- The files after a call; of a write that fails a part may be there. -/
def Effect.apply (files : Files) (answer : Answer) : Effect → Files
  | .create path mode =>
      if answer.error = none then files.set path (some (.regular ⟨.empty, mode⟩)) else files
  | .chmod path mode =>
      match files.regular? path with
      | some file =>
          if answer.error = none then files.set path (some (.regular { file with mode := mode }))
          else files
      | none => files
  | .write path data =>
      match files.regular? path with
      | some file =>
          let written := if answer.error = none then data else data.extract 0 answer.number
          files.set path (some (.regular { file with content := file.content ++ written }))
      | none => files
  | .rename source destination =>
      if answer.error = none ∧ source ≠ destination then
        (files.set destination (files source)).set source none
      else files
  | .remove path => if answer.error = none then files.set path none else files
  | .mkdirAll path =>
      if answer.error = none ∧ files path = none then files.set path (some .directory) else files
  | .command _ _ _ | .get _ | .helper _ => files

structure Host where
  answers : List Answer
  running : Bool
  files : Files
  effects : List (Effect × Answer)
  before : Dict String
  after : Dict String
  message : String

abbrev Step := Action Host String

def stopped : Answer := { (default : Answer) with error := some "stopped", stops := true }

/-- The answer to a call that only looks at something. -/
def ask : Step Answer := fun s =>
  let answer := if s.running then s.answers.headD default else stopped
  let answer := if answer.stops then { answer with error := some "stopped" } else answer
  (.ok answer, { s with answers := s.answers.tail, running := s.running && !answer.stops })

/-- The answer to a call with an effect. -/
def perform (effect : Effect) : Step Answer := fun s =>
  let answer := if s.running then s.answers.headD default else stopped
  let error :=
    if answer.stops then some "stopped"
    else if effect.refused s.files then some "refused" else answer.error
  let answer := { answer with error := error }
  (.ok answer, { s with
    answers := s.answers.tail
    running := s.running && !answer.stops
    files := if s.running then effect.apply s.files answer else s.files
    effects := if s.running then s.effects ++ [(effect, answer)] else s.effects })

/-- `if err != nil { return err }` -/
def check (error : Option String) : Step Unit :=
  match error with
  | none => pure ()
  | some error => .throw error

def getFiles : Step Files := fun s => (.ok s.files, s)

def setBefore (key value : String) : Step Unit := fun s =>
  (.ok (), { s with before := s.before.insert key value })

def setAfter (key value : String) : Step Unit := fun s =>
  (.ok (), { s with after := s.after.insert key value })

def setMessage (message : String) : Step Unit := fun s => (.ok (), { s with message := message })

end VpsGuardian.Agent
