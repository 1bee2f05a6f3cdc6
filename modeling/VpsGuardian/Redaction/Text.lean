import VpsGuardian.Lib.Json
import VpsGuardian.Lib.Regex

/-!
Redaction of texts and structures (`redaction.py`).
-/

namespace VpsGuardian.Redaction

open Lib
open Regex (Match literal exactly sequence choice optional plus atLeast)

/-- What the code takes from the interpreter's Unicode tables and from `urllib`: the characters
`\w` stands for, `str.lower`, and what `_redact_url_queries` makes of one URL. -/
structure Platform where
  isWord : Char → Bool
  lower : String → String
  replaceUrl : List Char → List Char

/-- The tables for the letters of ASCII; URLs are left. -/
def asciiPlatform : Platform where
  isWord := fun c => c.isAlphanum || c == '_'
  lower := String.toLower
  replaceUrl := id

def redacted : String := "[REDACTED]"

/-! ### Characters -/

/-- `\s`. -/
def isSpace (c : Char) : Bool :=
  let n := c.toNat
  (9 ≤ n && n ≤ 13) || (28 ≤ n && n ≤ 32) || n == 0x85 || n == 0xA0 || n == 0x1680 ||
    (0x2000 ≤ n && n ≤ 0x200A) || n == 0x2028 || n == 0x2029 || n == 0x202F || n == 0x205F ||
    n == 0x3000

/-- The lower-case letter a character stands for where case is ignored. Four letters outside
ASCII stand for letters in it. -/
def foldCase (c : Char) : Char :=
  if c.toNat = 0x130 ∨ c.toNat = 0x131 then 'i'
  else if c.toNat = 0x17F then 's'
  else if c.toNat = 0x212A then 'k'
  else c.toLower

/-- A lower-case text under `(?i)`. -/
def ignoringCase (text : String) : Regex := literal (fun c d => foldCase d == c) text

def spaces : Regex := .star true (.char isSpace)

/-- `^` and `$` under `(?m)`. -/
def lineStart : Regex := .look fun before _ => before == none || before == some '\n'

def lineEnd : Regex := .look fun _ after => after == none || after == some '\n'

/-- `\b`. -/
def wordBoundary (platform : Platform) : Regex :=
  .look fun before after => before.any platform.isWord != after.any platform.isWord

/-! ### Patterns -/

def pemLabel : Regex := optional (choice [exactly "RSA ", exactly "EC ", exactly "OPENSSH "])

def pemPrivateKey : Regex := sequence [exactly "-----BEGIN ", pemLabel, exactly "PRIVATE KEY-----",
  .star false (.char fun _ => true), exactly "-----END ", pemLabel, exactly "PRIVATE KEY-----"]

/-- `[A-Za-z0-9_-]`. -/
def isTokenChar (c : Char) : Bool := c.isAlphanum || c == '_' || c == '-'

def jwt (platform : Platform) : Regex := sequence [wordBoundary platform, exactly "eyJ",
  atLeast 8 (.char isTokenChar), exactly ".", atLeast 8 (.char isTokenChar), exactly ".",
  atLeast 8 (.char isTokenChar), wordBoundary platform]

/-- A letter or digit, case ignored, or one of the other characters of a bearer token. -/
def isBearerChar (c : Char) : Bool :=
  (foldCase c).isAlphanum || ['.', '_', '~', '+', '/', '-'].contains c

def bearer : Regex := sequence [.group 1 (sequence [ignoringCase "bearer", plus (.char isSpace)]),
  atLeast 8 (.char isBearerChar), .star true (.char (· == '='))]

def headerNames : List String :=
  ["authorization", "proxy-authorization", "cookie", "set-cookie", "x-api-key", "api-key"]

def headerSecret : Regex := sequence [lineStart,
  .group 1 (sequence [choice (headerNames.map ignoringCase), spaces, .char (· == ':'), spaces]),
  plus (.char (· != '\n')), lineEnd]

/-- `[_-]?`. -/
def joiner : Regex := optional (.char fun c => c == '_' || c == '-')

def secretKey : Regex := choice [ignoringCase "password", ignoringCase "passwd",
  ignoringCase "pwd", ignoringCase "secret", ignoringCase "token",
  sequence [ignoringCase "api", joiner, ignoringCase "key"],
  sequence [ignoringCase "access", joiner, ignoringCase "key"],
  sequence [ignoringCase "private", joiner, ignoringCase "key"], ignoringCase "jwt"]

def separator : Regex := sequence [spaces, .char fun c => c == ':' || c == '=', spaces]

/-- `[^\s,;]`. -/
def isValueChar (c : Char) : Bool := !isSpace c && c != ',' && c != ';'

def quoted (quote : Char) : Regex :=
  sequence [.char (· == quote), .star true (.char (· != quote)), .char (· == quote)]

def keyValueSecret (platform : Platform) : Regex := sequence [wordBoundary platform,
  .group 1 secretKey, .group 2 separator,
  .alt (plus (.char isValueChar)) (.alt (quoted '"') (quoted '\''))]

def databaseUrl (platform : Platform) : Regex := sequence [wordBoundary platform,
  .group 1 (choice [
    sequence [ignoringCase "postgresql",
      optional (sequence [exactly "+", plus (.char platform.isWord)])],
    sequence [ignoringCase "mysql",
      optional (sequence [exactly "+", plus (.char platform.isWord)])],
    sequence [ignoringCase "mongodb", optional (sequence [exactly "+", ignoringCase "srv"])],
    ignoringCase "redis"]),
  exactly "://", plus (.char fun c => !isSpace c && c != '/' && c != '@' && c != ':'),
  exactly ":", plus (.char fun c => !isSpace c && c != '/' && c != '@'), .char (· == '@')]

def url : Regex := sequence [exactly "http", optional (exactly "s"), exactly "://",
  plus (.char fun c => !isSpace c && c != '<' && c != '>' && c != '"' && c != '\'')]

/-! ### Texts -/

def redactPem (text : List Char) : List Char := pemPrivateKey.sub (fun _ => redacted.toList) text

/-- A header, a bearer token: the first group stays. -/
def keepGroup (m : Match) : List Char := m.groupText 1 ++ redacted.toList

def redactHeader (text : List Char) : List Char := headerSecret.sub keepGroup text

def redactBearer (text : List Char) : List Char := bearer.sub keepGroup text

def redactJwt (platform : Platform) (text : List Char) : List Char :=
  (jwt platform).sub (fun _ => redacted.toList) text

def redactDatabaseUrl (platform : Platform) (text : List Char) : List Char :=
  (databaseUrl platform).sub (fun m => m.groupText 1 ++ "://".toList ++ redacted.toList ++
    ":".toList ++ redacted.toList ++ "@".toList) text

def redactKeyValue (platform : Platform) (text : List Char) : List Char :=
  (keyValueSecret platform).sub (fun m => m.groupText 1 ++ m.groupText 2 ++ redacted.toList) text

/-- The URL is `match.group(0)`. -/
def redactUrlQueries (platform : Platform) (text : List Char) : List Char :=
  (Regex.group 0 url).sub (fun m => platform.replaceUrl (m.groupText 0)) text

def redactChars (platform : Platform) (text : List Char) : List Char :=
  redactUrlQueries platform <| redactKeyValue platform <| redactDatabaseUrl platform <|
    redactJwt platform <| redactBearer <| redactHeader <| redactPem text

def redactText (platform : Platform) (value : String) : String :=
  .ofList (redactChars platform value.toList)

/-! ### Structures -/

def markers : List String :=
  ["password", "secret", "token", "cookie", "authorization", "private_key", "api_key"]

/-- `marker in normalized`. -/
def occursIn (marker text : List Char) : Bool := text.tails.any fun tail => marker.isPrefixOf tail

/-- `str(key).lower().replace("-", "_")`. -/
def normalized (platform : Platform) (key : String) : List Char :=
  (platform.lower key).toList.map fun c => if c = '-' then '_' else c

def sensitive (platform : Platform) (key : String) : Bool :=
  markers.any fun marker => occursIn marker.toList (normalized platform key)

mutual

/-- A dictionary is the list of its items. -/
def redactStructure (platform : Platform) : Json.Value → Json.Value
  | .string s => .string (redactText platform s)
  | .array items => .array (redactItems platform items)
  | .object members => .object (redactMembers platform members)
  | .null => .null
  | .bool b => .bool b
  | .number n => .number n

def redactItems (platform : Platform) : List Json.Value → List Json.Value
  | [] => []
  | item :: items => redactStructure platform item :: redactItems platform items

def redactMembers (platform : Platform) : List (String × Json.Value) → List (String × Json.Value)
  | [] => []
  | (key, item) :: members =>
      (key, if sensitive platform key then .string redacted else redactStructure platform item) ::
        redactMembers platform members

end

end VpsGuardian.Redaction
