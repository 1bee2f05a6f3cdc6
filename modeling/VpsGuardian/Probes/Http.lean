import VpsGuardian.Lib.Dict
import VpsGuardian.NetHelper.Network

/-!
What makes an HTTP check succeed, for the Controller (`guardian/probes.py`, with
the definition built in `guardian/monitoring.py`) and for the Agent
(`agent/remote_checks.go`).

Both start from the configuration of the check, which may be any JSON object.
The Controller has it validated by pydantic, whose conversion of numbers and
whose opinion on the other fields are parameters here, as is `json.loads`; the
Agent looks at the types of the values itself.
-/

namespace VpsGuardian.Probes

open Lib

/-- A value of Python's `json`. A finite `float` is the rational number it stands for. -/
inductive Value where
  | null
  | bool (b : Bool)
  | int (n : Int)
  | float (x : ℚ)
  | nan
  | infinity (negative : Bool)
  | str (s : String)
  | list (items : List Value)
  | dict (members : List (String × Value))

abbrev Configuration : Type := Dict Value

/-- The final response, with its body as UTF-8 text. -/
structure Response where
  statusCode : Nat
  body : String
  threeDigits : statusCode < 1000 := by decide

/-- `expected in text`, and `strings.Contains`. -/
def occursIn (expected text : String) : Bool := expected.toList <:+: text.toList

/-- A number rounded towards zero. -/
def truncate (x : ℚ) : Int := x.num.tdiv x.den

/-! ### The Controller -/

/-- The number a value compares as, and the sign of an infinite one. -/
def Value.number? : Value → Option (ℚ ⊕ Bool)
  | .bool b => some (.inl (if b then 1 else 0))
  | .int n => some (.inl n)
  | .float x => some (.inl x)
  | .infinity negative => some (.inr negative)
  | _ => none

mutual

/-- `==` of Python. -/
def Value.equal : Value → Value → Bool
  | .null, .null => true
  | .str s, .str t => s == t
  | .list items, .list others => itemsEqual items others
  | .dict members, .dict others =>
      members.length == others.length && membersEqual members others
  | .nan, _ => false
  | .null, _ | .str _, _ | .list _, _ | .dict _, _ => false
  | .bool b, other => (Value.bool b).number? == other.number?
  | .int n, other => (Value.int n).number? == other.number?
  | .float x, other => (Value.float x).number? == other.number?
  | .infinity negative, other => (Value.infinity negative).number? == other.number?

def itemsEqual : List Value → List Value → Bool
  | [], [] => true
  | item :: items, other :: others => item.equal other && itemsEqual items others
  | _, _ => false

/-- Every member has an equal one under its key. -/
def membersEqual : List (String × Value) → List (String × Value) → Bool
  | [], _ => true
  | (key, value) :: members, others =>
      (match others.lookup key with
        | some other => value.equal other
        | none => false) && membersEqual members others

end

/-- The fields of a definition that decide about a response. -/
structure ProbeDefinition where
  expectedStatuses : List Int
  expectedContains : Option String
  expectedJson : Option (List (String × Value))
  maxResponseBytes : Int

/-- What pydantic decides: the conversion of a value to an `int`, and whether it
accepts the fields of the definition that are not modelled. -/
structure Pydantic where
  int : Value → Option Int
  others : Configuration → Bool

/-- The documented conversion: an `int` is itself, and a `float` is converted
only if it is whole. -/
structure Pydantic.Lax (pydantic : Pydantic) : Prop where
  int : ∀ n, pydantic.int (.int n) = some n
  float : ∀ x n, pydantic.int (.float x) = some n → x = n

/-- Python's `int(value)`, where `intOfText` reads a string; `none` where it raises. -/
def pythonInt (intOfText : String → Option Int) : Value → Option Int
  | .bool b => some (if b then 1 else 0)
  | .int n => some n
  | .float x => some (truncate x)
  | .str s => intOfText s
  | _ => none

def expectedStatuses (pydantic : Pydantic) : Option Value → Option (List Int)
  | none => some [200]
  | some (.list items) => items.mapM pydantic.int
  | some _ => none

def expectedContains : Option Value → Option (Option String)
  | none | some .null => some none
  | some (.str s) => if s.length ≤ 1024 then some (some s) else none
  | some _ => none

def expectedJson : Option Value → Option (Option (List (String × Value)))
  | none | some .null => some none
  | some (.dict members) => some (some members)
  | some _ => none

def maxResponseBytes (intOfText : String → Option Int) (value : Option Value) : Option Int := do
  let limit ← pythonInt intOfText (value.getD (.int 65536))
  if 1024 ≤ limit ∧ limit ≤ 1048576 then some limit else none

/-- `probe_definition_from_check`; there is no definition where it raises. -/
def probeDefinitionFromCheck (pydantic : Pydantic) (intOfText : String → Option Int)
    (configuration : Configuration) : Option ProbeDefinition := do
  let limit ← maxResponseBytes intOfText (configuration.get? "max_response_bytes")
  let statuses ← expectedStatuses pydantic (configuration.get? "expected_statuses")
  let contains ← expectedContains (configuration.get? "expected_contains")
  let json ← expectedJson (configuration.get? "expected_json")
  if pydantic.others configuration then
    some ⟨statuses, contains, json, limit⟩
  else none

/-- `_lookup_json`; `none` where it raises. -/
def lookupJson (document : Value) (path : String) : Option Value :=
  (path.splitOn ".").foldlM (fun current component =>
    match current with
    | .dict members => members.lookup component
    | _ => none) document

/-- The document has the expected value at every path; an empty expectation is none. -/
def checkJson (loads : String → Except String Value)
    (expected : Option (List (String × Value))) (text : String) : Except String Unit :=
  match expected.getD [] with
  | [] => pure ()
  | members => do
      let document ← loads text
      members.forM fun (path, value) =>
        match lookupJson document path with
        | none => throw path
        | some actual =>
            if actual.equal value then pure ()
            else throw ("JSON field " ++ path ++ " did not match")

/-- What `_http_probe` makes of the final response. -/
def httpProbe (loads : String → Except String Value) (definition : ProbeDefinition)
    (response : Response) : Except String Unit := do
  if definition.maxResponseBytes < response.body.utf8ByteSize then
    throw "HTTP response exceeded the configured size limit"
  if (response.statusCode : Int) ∉ definition.expectedStatuses then
    throw ("unexpected HTTP status " ++ toString response.statusCode)
  let expected := definition.expectedContains.getD ""
  if expected ≠ "" ∧ occursIn expected response.body = false then
    throw "expected response content missing"
  checkJson loads definition.expectedJson response.body

/-! ### The Agent -/

/-- A conversion to `int`, which on amd64 gives the least one where the value does not fit. -/
def goInt (n : Int) : Int := if n.natAbs < 2 ^ 63 then n else -2 ^ 63

/-- The `int` of a JSON number, which is decoded as a `float64`. -/
def floatInt : Value → Option Int
  | .int n => some (goInt (n.sign * NetHelper.float64 n.natAbs))
  | .float x => some (goInt (truncate x))
  | _ => none

def remoteString (configuration : Configuration) (key : String) : String :=
  match configuration.get? key with
  | some (.str s) => s
  | _ => ""

def remoteInt (configuration : Configuration) (key : String) (fallback : Int) : Int :=
  ((configuration.get? key).bind floatInt).getD fallback

/-- Whether the Agent accepts the status code. -/
def statusOK (configuration : Configuration) (statusCode : Nat) : Bool :=
  match configuration.get? "expected_statuses" with
  | some (.list (value :: values)) =>
      (value :: values).any fun v => floatInt v == some (statusCode : Int)
  | _ => statusCode == 200

/-- What `remoteHTTPCheck` makes of the final response. -/
def remoteHTTPCheck (configuration : Configuration) (response : Response) :
    Except String Unit := do
  let limit := remoteInt configuration "max_response_bytes" 65536
  if limit < 1024 ∨ 1048576 < limit then
    throw "HTTP response limit is invalid"
  if limit < response.body.utf8ByteSize then
    throw "HTTP response exceeded the configured size limit"
  if statusOK configuration response.statusCode = false then
    throw ("unexpected HTTP status " ++ toString response.statusCode)
  let expected := remoteString configuration "expected_contains"
  if expected ≠ "" ∧ occursIn expected response.body = false then
    throw "expected response content missing"

end VpsGuardian.Probes
