import Mathlib

/-!
JSON texts and the values they denote.

The reader accepts the whole RFC 8259 grammar and resolves string escapes the
way Go's `encoding/json` does: an unpaired surrogate becomes U+FFFD. The writer
is parametrised by its escape function, because that is the only point in which
two compact encoders (no blanks after the separators) differ on strings, integers,
arrays and objects.
-/

namespace VpsGuardian.Lib.Json

/-- A number literal, kept exact: its value is `± digits * 10 ^ exponent`. -/
structure Number where
  negative : Bool
  digits : Nat
  exponent : Int
  deriving DecidableEq, Repr

inductive Value where
  | null
  | bool (b : Bool)
  | number (n : Number)
  | string (s : String)
  | array (items : List Value)
  | object (members : List (String × Value))
  deriving Repr, Inhabited

def Number.ofInt (i : Int) : Number := ⟨decide (i < 0), i.natAbs, 0⟩

def Value.int (i : Int) : Value := .number (.ofInt i)

/-- The integer a literal without fraction and exponent denotes. -/
def Number.toInt? (n : Number) : Option Int :=
  if n.exponent = 0 then some (if n.negative then -(n.digits : Int) else n.digits) else none

/-! ### Reading -/

def isSpace (c : Char) : Bool := c == ' ' || c == '\t' || c == '\n' || c == '\r'

def skipSpace (text : List Char) : List Char := text.dropWhile isSpace

/-- The value of a hexadecimal digit of either case. -/
def hexValue (c : Char) : Option Nat :=
  if '0' ≤ c ∧ c ≤ '9' then some (c.toNat - 48)
  else if 'a' ≤ c ∧ c ≤ 'f' then some (c.toNat - 87)
  else if 'A' ≤ c ∧ c ≤ 'F' then some (c.toNat - 55)
  else none

def hex4 (a b c d : Char) : Option Nat := do
  some (4096 * (← hexValue a) + 256 * (← hexValue b) + 16 * (← hexValue c) + (← hexValue d))

def isHighSurrogate (u : Nat) : Bool := 0xD800 ≤ u && u < 0xDC00

def isLowSurrogate (u : Nat) : Bool := 0xDC00 ≤ u && u < 0xE000

/-- The character after a backslash, other than `u`. -/
def unescape : Char → Option Char
  | '"' => some '"'
  | '\\' => some '\\'
  | '/' => some '/'
  | 'b' => some (Char.ofNat 8)
  | 'f' => some (Char.ofNat 12)
  | 'n' => some '\n'
  | 'r' => some '\r'
  | 't' => some '\t'
  | _ => none

def consUnit (u : Nat) (result : Option (List Nat × List Char)) : Option (List Nat × List Char) :=
  result.map fun p => (u :: p.1, p.2)

/-- The code units up to the closing quote, and the text after it. Only a `\u`
escape yields a surrogate. -/
def parseUnits : List Char → Option (List Nat × List Char)
  | [] => none
  | '"' :: rest => some ([], rest)
  | '\\' :: 'u' :: a :: b :: c :: d :: rest =>
      match hex4 a b c d with
      | some u => consUnit u (parseUnits rest)
      | none => none
  | '\\' :: c :: rest =>
      match unescape c with
      | some c => consUnit c.toNat (parseUnits rest)
      | none => none
  | c :: rest => if c.toNat < 0x20 then none else consUnit c.toNat (parseUnits rest)

/-- A code unit on its own: an unpaired surrogate is replaced by U+FFFD. -/
def loneUnit (u : Nat) : Char :=
  if isHighSurrogate u || isLowSurrogate u then Char.ofNat 0xFFFD else Char.ofNat u

def joinSurrogates : List Nat → List Char
  | [] => []
  | [u] => [loneUnit u]
  | u :: v :: rest =>
      if isHighSurrogate u && isLowSurrogate v then
        Char.ofNat (0x10000 + 1024 * (u - 0xD800) + (v - 0xDC00)) :: joinSurrogates rest
      else loneUnit u :: joinSurrogates (v :: rest)

/-- The string up to the closing quote, and the text after it. -/
def parseString (text : List Char) : Option (String × List Char) :=
  (parseUnits text).map fun p => (.ofList (joinSurrogates p.1), p.2)

/-- An optional minus sign, and the text after it. -/
def parseMinus : List Char → Bool × List Char
  | '-' :: rest => (true, rest)
  | rest => (false, rest)

/-- An optional sign, and the text after it. -/
def parseSign : List Char → Bool × List Char
  | '+' :: rest => (false, rest)
  | rest => parseMinus rest

/-- An optional exponent part: its value and the text after it. -/
def parseExponent : List Char → Option (Int × List Char)
  | 'e' :: rest | 'E' :: rest =>
      let signed := parseSign rest
      let digits := signed.2.takeWhile Char.isDigit
      if digits = [] then none
      else
        let value : Int := Nat.ofDigitChars 10 digits 0
        some (if signed.1 then -value else value, signed.2.dropWhile Char.isDigit)
  | rest => some (0, rest)

/-- An optional fraction part: its digits and the text after it. -/
def parseFraction : List Char → Option (List Char × List Char)
  | '.' :: rest =>
      let digits := rest.takeWhile Char.isDigit
      if digits = [] then none else some (digits, rest.dropWhile Char.isDigit)
  | rest => some ([], rest)

def parseNumber (text : List Char) : Option (Number × List Char) :=
  let signed := parseMinus text
  let whole := signed.2.takeWhile Char.isDigit
  if whole = [] ∨ (whole.head? = some '0' ∧ 1 < whole.length) then none
  else
    match parseFraction (signed.2.dropWhile Char.isDigit) with
    | none => none
    | some (fraction, rest) =>
        match parseExponent rest with
        | none => none
        | some (exponent, rest) =>
            some (⟨signed.1, Nat.ofDigitChars 10 (whole ++ fraction) 0,
              exponent - fraction.length⟩, rest)

mutual

/-- One value at the start of a text, and the text after it. The first argument
bounds the nesting together with the number of array items and object members. -/
def parseValue : Nat → List Char → Option (Value × List Char)
  | 0, _ => none
  | fuel + 1, text =>
      match skipSpace text with
      | 'n' :: 'u' :: 'l' :: 'l' :: rest => some (.null, rest)
      | 't' :: 'r' :: 'u' :: 'e' :: rest => some (.bool true, rest)
      | 'f' :: 'a' :: 'l' :: 's' :: 'e' :: rest => some (.bool false, rest)
      | '"' :: rest => (parseString rest).map fun p => (.string p.1, p.2)
      | '[' :: rest =>
          match skipSpace rest with
          | ']' :: rest => some (.array [], rest)
          | rest => (parseItems fuel rest).map fun p => (.array p.1, p.2)
      | '{' :: rest =>
          match skipSpace rest with
          | '}' :: rest => some (.object [], rest)
          | rest => (parseMembers fuel rest).map fun p => (.object p.1, p.2)
      | rest => (parseNumber rest).map fun p => (.number p.1, p.2)

def parseItems : Nat → List Char → Option (List Value × List Char)
  | 0, _ => none
  | fuel + 1, text =>
      match parseValue fuel text with
      | none => none
      | some (item, rest) =>
          match skipSpace rest with
          | ',' :: rest => (parseItems fuel rest).map fun p => (item :: p.1, p.2)
          | ']' :: rest => some ([item], rest)
          | _ => none

def parseMembers : Nat → List Char → Option (List (String × Value) × List Char)
  | 0, _ => none
  | fuel + 1, text =>
      match skipSpace text with
      | '"' :: rest =>
          match parseString rest with
          | none => none
          | some (key, rest) =>
              match skipSpace rest with
              | ':' :: rest =>
                  match parseValue fuel rest with
                  | none => none
                  | some (value, rest) =>
                      match skipSpace rest with
                      | ',' :: rest =>
                          (parseMembers fuel rest).map fun p =>
                            ((key, value) :: p.1, p.2)
                      | '}' :: rest => some ([(key, value)], rest)
                      | _ => none
              | _ => none
      | _ => none

end

/-- The value of a whole text. A value, an item or a member takes at least one
character, so the length of the text is fuel enough. -/
def parse (text : String) : Option Value :=
  match parseValue (text.toList.length + 1) text.toList with
  | some (value, rest) => if skipSpace rest = [] then some value else none
  | none => none

/-- The member an object has under a name; the last one where the name is repeated. -/
def Value.member? (name : String) : Value → Option Value
  | .object members => (members.reverse.find? fun m => m.1 == name).map (·.2)
  | _ => none

/-! ### Writing -/

/-- `\uXXXX` with lower-case digits. -/
def escapeUnicode (u : Nat) : List Char :=
  ['\\', 'u', (u / 4096 % 16).digitChar, (u / 256 % 16).digitChar, (u / 16 % 16).digitChar,
    (u % 16).digitChar]

def quote (escape : Char → List Char) (s : String) : List Char :=
  '"' :: s.toList.flatMap escape ++ ['"']

def renderSigned (negative : Bool) (n : Nat) : List Char :=
  (if negative then ['-'] else []) ++ Nat.toDigits 10 n

def renderNumber (n : Number) : List Char :=
  renderSigned n.negative n.digits ++
    if n.exponent = 0 then [] else 'e' :: renderSigned (decide (n.exponent < 0)) n.exponent.natAbs

mutual

/-- The compact text of a value. -/
def render (escape : Char → List Char) : Value → List Char
  | .null => ['n', 'u', 'l', 'l']
  | .bool true => ['t', 'r', 'u', 'e']
  | .bool false => ['f', 'a', 'l', 's', 'e']
  | .number n => renderNumber n
  | .string s => quote escape s
  | .array [] => ['[', ']']
  | .array (item :: items) => '[' :: render escape item ++ renderItems escape items
  | .object [] => ['{', '}']
  | .object ((key, value) :: members) =>
      '{' :: quote escape key ++ ':' :: render escape value ++ renderMembers escape members

def renderItems (escape : Char → List Char) : List Value → List Char
  | [] => [']']
  | item :: items => ',' :: render escape item ++ renderItems escape items

def renderMembers (escape : Char → List Char) : List (String × Value) → List Char
  | [] => ['}']
  | (key, value) :: members =>
      ',' :: quote escape key ++ ':' :: render escape value ++ renderMembers escape members

end

/-- The short escapes JSON has, for the characters every encoder escapes. -/
def escapeMandatory (c : Char) : List Char :=
  if c = '"' then ['\\', '"']
  else if c = '\\' then ['\\', '\\']
  else if c = '\n' then ['\\', 'n']
  else if c = '\r' then ['\\', 'r']
  else if c = '\t' then ['\\', 't']
  else if c = Char.ofNat 8 then ['\\', 'b']
  else if c = Char.ofNat 12 then ['\\', 'f']
  else if c.toNat < 0x20 then escapeUnicode c.toNat
  else [c]

/-- The characters Go's `json.Marshal` escapes beyond the mandatory ones: the
three that are special in HTML and the two line separators of JavaScript. -/
def isHTMLSensitive (c : Char) : Bool :=
  c == '<' || c == '>' || c == '&' || c == Char.ofNat 0x2028 || c == Char.ofNat 0x2029

/-- The escapes of CPython's `json.dumps(..., ensure_ascii=False)`. -/
def pythonEscape (c : Char) : List Char := escapeMandatory c

/-- The escapes of Go 1.24's `json.Marshal`, which escapes for HTML by default. -/
def goEscape (c : Char) : List Char :=
  if isHTMLSensitive c then escapeUnicode c.toNat else escapeMandatory c

end VpsGuardian.Lib.Json
