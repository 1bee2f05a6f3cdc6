import VpsGuardian.Lib.JsonRoundTrip
import VpsGuardian.Lib.Text

/-!
JSON as Python's `json` module reads and writes it.

`dumps` is `json.dumps` with `ensure_ascii` and `sort_keys`; the remaining
arguments are its layout. `loads` keeps a lone surrogate that is written as an
escape, and accepts `NaN` and the infinities. A float is kept as the decimal it
stands for and is written with its exponent; no reader here looks at its digits.
-/

namespace VpsGuardian.Lib.PythonJson

open Json (Number skipSpace isSpace)

inductive NonFinite where
  | nan
  | infinity
  | negativeInfinity
  deriving DecidableEq, Repr

/-- The members of a dictionary are in the order of their insertion. -/
inductive Value where
  | null
  | bool (b : Bool)
  | int (i : Int)
  | float (n : Number)
  | nonFinite (x : NonFinite)
  | string (s : Text)
  | list (items : List Value)
  | dict (members : List (Text × Value))
  deriving Repr, Inhabited

/-! ### Dictionaries -/

section Dictionary

variable {α : Type}

/-- `d[key] = value`: a new key comes last, a known one keeps its place. -/
def set : List (Text × α) → Text → α → List (Text × α)
  | [], key, value => [(key, value)]
  | (k, v) :: rest, key, value =>
      if k = key then (k, value) :: rest else (k, v) :: set rest key value

/-- `d.update(entries)` -/
def update (members entries : List (Text × α)) : List (Text × α) :=
  entries.foldl (fun members entry => set members entry.1 entry.2) members

def sortKeys (members : List (Text × α)) : List (Text × α) :=
  members.insertionSort fun a b => a.1 ≤ b.1

end Dictionary

/-! ### Writing -/

/-- `indent` and the blanks of `separators`. -/
structure Layout where
  indent : Option Nat
  afterComma : Nat
  afterColon : Nat

namespace Layout

/-- `separators=(",", ":")` -/
def compact : Layout := ⟨none, 0, 0⟩

/-- `indent=n` -/
def indented (n : Nat) : Layout := ⟨some n, 0, 1⟩

def newline (layout : Layout) (depth : Nat) : List Char :=
  match layout.indent with
  | none => []
  | some n => '\n' :: List.replicate (n * depth) ' '

/-- The blanks between two items. -/
def gap (layout : Layout) (depth : Nat) : List Char :=
  List.replicate layout.afterComma ' ' ++ layout.newline depth

/-- Some texts between brackets, which stand at a depth. -/
def enclose (layout : Layout) (depth : Nat) (opening closing : Char) :
    List (List Char) → List Char
  | [] => [opening, closing]
  | first :: rest =>
      opening :: (layout.newline (depth + 1) ++ first ++
        rest.flatMap (fun text => ',' :: (layout.gap (depth + 1) ++ text)) ++
        layout.newline depth ++ [closing])

end Layout

def escapeAscii (c : CodePoint) : List Char :=
  if c.val = 0x22 then ['\\', '"']
  else if c.val = 0x5C then ['\\', '\\']
  else if c.val = 0x0A then ['\\', 'n']
  else if c.val = 0x0D then ['\\', 'r']
  else if c.val = 0x09 then ['\\', 't']
  else if c.val = 0x0C then ['\\', 'f']
  else if c.val = 0x08 then ['\\', 'b']
  else if 0x20 ≤ c.val ∧ c.val < 0x7F then [Char.ofNat c.val]
  else (Text.utf16 c).flatMap Json.escapeUnicode

def quote (s : Text) : List Char := '"' :: (s.flatMap escapeAscii ++ ['"'])

def NonFinite.text : NonFinite → List Char
  | .nan => ['N', 'a', 'N']
  | .infinity => ['I', 'n', 'f', 'i', 'n', 'i', 't', 'y']
  | .negativeInfinity => ['-', 'I', 'n', 'f', 'i', 'n', 'i', 't', 'y']

def renderInt (i : Int) : List Char := Json.renderSigned (decide (i < 0)) i.natAbs

def renderFloat (n : Number) : List Char :=
  Json.renderSigned n.negative n.digits ++ 'e' :: renderInt n.exponent

def memberText (layout : Layout) (member : Text × List Char) : List Char :=
  quote member.1 ++ ':' :: (List.replicate layout.afterColon ' ' ++ member.2)

mutual

def dumps (layout : Layout) (depth : Nat) : Value → List Char
  | .null => ['n', 'u', 'l', 'l']
  | .bool true => ['t', 'r', 'u', 'e']
  | .bool false => ['f', 'a', 'l', 's', 'e']
  | .int i => renderInt i
  | .float n => renderFloat n
  | .nonFinite x => x.text
  | .string s => quote s
  | .list items => layout.enclose depth '[' ']' (dumpsItems layout (depth + 1) items)
  | .dict members =>
      layout.enclose depth '{' '}'
        ((sortKeys (dumpsMembers layout (depth + 1) members)).map (memberText layout))

def dumpsItems (layout : Layout) (depth : Nat) : List Value → List (List Char)
  | [] => []
  | item :: items => dumps layout depth item :: dumpsItems layout depth items

def dumpsMembers (layout : Layout) (depth : Nat) :
    List (Text × Value) → List (Text × List Char)
  | [] => []
  | (key, value) :: members =>
      (key, dumps layout depth value) :: dumpsMembers layout depth members

end

/-! ### Reading -/

def parseText (text : List Char) : Option (Text × List Char) :=
  (Json.parseUnits text).map fun p => (Text.join p.1, p.2)

def parseConstant : List Char → Option (Value × List Char)
  | 'n' :: 'u' :: 'l' :: 'l' :: rest => some (.null, rest)
  | 't' :: 'r' :: 'u' :: 'e' :: rest => some (.bool true, rest)
  | 'f' :: 'a' :: 'l' :: 's' :: 'e' :: rest => some (.bool false, rest)
  | 'N' :: 'a' :: 'N' :: rest => some (.nonFinite .nan, rest)
  | 'I' :: 'n' :: 'f' :: 'i' :: 'n' :: 'i' :: 't' :: 'y' :: rest =>
      some (.nonFinite .infinity, rest)
  | '-' :: 'I' :: 'n' :: 'f' :: 'i' :: 'n' :: 'i' :: 't' :: 'y' :: rest =>
      some (.nonFinite .negativeInfinity, rest)
  | _ => none

/-- What follows the whole part of a float. -/
def continuesFloat : List Char → Bool
  | '.' :: _ | 'e' :: _ | 'E' :: _ => true
  | _ => false

def parseNumeral (text : List Char) : Option (Value × List Char) :=
  (Json.parseNumber text).map fun p =>
    (if continuesFloat ((Json.parseMinus text).2.dropWhile Char.isDigit) then .float p.1
      else .int (if p.1.negative then -(p.1.digits : Int) else p.1.digits), p.2)

mutual

/-- One value at the start of a text, and the text after it. The first argument bounds the
recursion. -/
def parseValue : Nat → List Char → Option (Value × List Char)
  | 0, _ => none
  | fuel + 1, text =>
      match skipSpace text with
      | '"' :: rest => (parseText rest).map fun p => (.string p.1, p.2)
      | '[' :: rest =>
          match skipSpace rest with
          | ']' :: rest => some (.list [], rest)
          | rest => (parseItems fuel rest).map fun p => (.list p.1, p.2)
      | '{' :: rest =>
          match skipSpace rest with
          | '}' :: rest => some (.dict [], rest)
          | rest => (parseMembers fuel rest).map fun p => (.dict (update [] p.1), p.2)
      | rest => (parseConstant rest).or (parseNumeral rest)

def parseItems : Nat → List Char → Option (List Value × List Char)
  | 0, _ => none
  | fuel + 1, text =>
      match parseValue fuel text with
      | none => none
      | some (item, rest) =>
          match skipSpace rest with
          | ',' :: rest => (parseItems fuel rest).map fun p => (item :: p.1, p.2)
          | ']' :: rest => some ([item], rest)
          | _ => none

def parseMembers : Nat → List Char → Option (List (Text × Value) × List Char)
  | 0, _ => none
  | fuel + 1, text =>
      match skipSpace text with
      | '"' :: rest =>
          match parseText rest with
          | none => none
          | some (key, rest) =>
              match skipSpace rest with
              | ':' :: rest =>
                  match parseValue fuel rest with
                  | none => none
                  | some (value, rest) =>
                      match skipSpace rest with
                      | ',' :: rest =>
                          (parseMembers fuel rest).map fun p => ((key, value) :: p.1, p.2)
                      | '}' :: rest => some ([(key, value)], rest)
                      | _ => none
              | _ => none
      | _ => none

end

/-- A value, an item or a member takes at least one character, so the length of the text is fuel
enough. -/
def loads (text : List Char) : Option Value :=
  match parseValue (text.length + 1) text with
  | some (value, rest) => if skipSpace rest = [] then some value else none
  | none => none

end VpsGuardian.Lib.PythonJson
