import VpsGuardian.Lib.Dict
import VpsGuardian.Lib.Json

/-!
The data of the privileged port-traffic helper: requests, policies, the durable
state, and the checks a policy passes before it enters that state
(`agent/nethelper/types.go`).

Byte totals, quotas and generations are `int64` in the source and `Int64` here,
with Go's wrap-around.
-/

namespace VpsGuardian.NetHelper

open Lib

def maxPolicies : Nat := 64

inductive Operation where
  | snapshot
  | apply
  | remove
  | reset
  | purge
  deriving DecidableEq, Repr

inductive Protocol where
  | tcp
  | udp
  | both
  deriving DecidableEq, Repr

inductive Direction where
  | rx
  | tx
  | both
  deriving DecidableEq, Repr

inductive Mode where
  | monitorOnly
  | enforcing
  deriving DecidableEq, Repr

/-- The task of the Controller that a request carries out, as it was signed. -/
structure Authorization where
  id : String
  action : String
  parameters : Dict String
  nonce : String
  expiresAt : Int
  signature : String
  approvalID : String
  requesterID : String
  approverID : String
  targetHostID : String

structure Request where
  operation : Operation
  dryRun : Bool
  policy : Dict String
  authorization : Option Authorization

structure Policy where
  id : String
  protocol : Protocol
  direction : Direction
  portStart : Int
  portEnd : Int
  interfaceName : String
  mode : Mode
  quotaBytes : Int64
  egressRateBPS : Int
  generation : Int64
  lifetimeRX : Int64
  lifetimeTX : Int64
  lastKernelRX : Int64
  lastKernelTX : Int64
  periodStartRX : Int64
  periodStartTX : Int64
  periodStarted : Int
  lastResetAt : Int
  nextResetAt : String
  resetPolicy : String
  deriving DecidableEq

structure State where
  policies : List Policy
  completedNonce : Dict Int

/-- The state of a helper that has never written one. -/
def State.initial : State := ⟨[], .empty⟩

/-! ### Field checks -/

def Protocol.parse? : String → Option Protocol
  | "tcp" => some .tcp
  | "udp" => some .udp
  | "both" => some .both
  | _ => none

def Direction.parse? : String → Option Direction
  | "rx" => some .rx
  | "tx" => some .tx
  | "both" => some .both
  | _ => none

def Mode.parse? : String → Option Mode
  | "monitor_only" => some .monitorOnly
  | "enforcing" => some .enforcing
  | _ => none

/-- `strconv.ParseInt(value, 10, 64)`. -/
def strconvParseInt (value : String) : Option Int :=
  let (negative, digits) : Bool × List Char := match value.toList with
    | '-' :: rest => (true, rest)
    | '+' :: rest => (false, rest)
    | rest => (false, rest)
  if digits = [] ∨ digits.all Char.isDigit = false then none
  else
    let magnitude : Int := Nat.ofDigitChars 10 digits 0
    let parsed := if negative then -magnitude else magnitude
    if -2 ^ 63 ≤ parsed ∧ parsed < 2 ^ 63 then some parsed else none

def parseInt (value name : String) (minimum maximum : Int) : Except String Int :=
  match strconvParseInt value with
  | none => .error (name ++ " is outside the permitted range")
  | some parsed =>
      if parsed < minimum ∨ maximum < parsed then
        .error (name ++ " is outside the permitted range")
      else .ok parsed

def isHexDigit (c : Char) : Bool := c.isDigit || ('a' ≤ c && c ≤ 'f')

def isAlphanumeric (c : Char) : Bool :=
  c.isDigit || ('a' ≤ c && c ≤ 'z') || ('A' ≤ c && c ≤ 'Z')

/-- The character classes of `policyIDPattern`, position by position. -/
def policyIDPattern : List (Char → Bool) :=
  let hex (n : Nat) := List.replicate n isHexDigit
  let dash := [fun c => c == '-']
  hex 8 ++ dash ++ hex 4 ++ dash ++ [fun c => '1' ≤ c && c ≤ '5'] ++ hex 3 ++ dash ++
    [fun c => c == '8' || c == '9' || c == 'a' || c == 'b'] ++ hex 3 ++ dash ++ hex 12

def matchesPattern (pattern : List (Char → Bool)) (text : String) : Bool :=
  pattern.length == text.toList.length &&
    (pattern.zip text.toList).all fun p => p.1 p.2

/-- `interfacePattern`: a letter or digit, then up to thirty more of a larger class. -/
def matchesInterfacePattern (text : String) : Bool :=
  match text.toList with
  | [] => false
  | first :: rest =>
      isAlphanumeric first && rest.length ≤ 30 &&
        rest.all fun c => isAlphanumeric c || c == '_' || c == '.' || c == ':' || c == '-'

/-- Whether a number literal rounds to a finite `float64`. The two outer tests
keep the powers of ten small. -/
def numberFits (n : Json.Number) : Bool :=
  let limit := 2 ^ 1024 - 2 ^ 970
  if n.digits = 0 then true
  else if 400 < n.exponent then false
  else if 0 ≤ n.exponent then n.digits * 10 ^ n.exponent.toNat < limit
  else if n.digits.log2 < n.exponent.natAbs then true
  else n.digits < limit * 10 ^ n.exponent.natAbs

mutual

/-- Whether `json.Unmarshal` into an untyped value accepts every number. -/
def numbersFit : Json.Value → Bool
  | .number n => numberFits n
  | .array items => itemsFit items
  | .object members => membersFit members
  | _ => true

def itemsFit : List Json.Value → Bool
  | [] => true
  | item :: items => numbersFit item && itemsFit items

def membersFit : List (String × Json.Value) → Bool
  | [] => true
  | (_, value) :: members => numbersFit value && membersFit members

end

/-- Whether the text unmarshals into a `map[string]any` that is not nil. -/
def isJSONObject (text : String) : Bool :=
  match Json.parse text with
  | some (.object members) => membersFit members
  | _ => false

def isLeapYear (year : Nat) : Bool := year % 4 == 0 && (year % 100 != 0 || year % 400 == 0)

def daysIn (month year : Nat) : Nat :=
  if month = 2 then (if isLeapYear year then 29 else 28)
  else if month = 4 ∨ month = 6 ∨ month = 9 ∨ month = 11 then 30
  else 31

/-- A number of exactly `count` digits, and the text after it. -/
def fixedNumber (count : Nat) (text : List Char) : Option (Nat × List Char) :=
  let digits := text.take count
  if digits.length = count ∧ digits.all Char.isDigit then
    some (Nat.ofDigitChars 10 digits 0, text.drop count)
  else none

def literal (c : Char) : List Char → Option (List Char)
  | d :: rest => if d = c then some rest else none
  | [] => none

/-- The zone designator of `Z07:00`. -/
def isZone : List Char → Bool
  | ['Z'] => true
  | [sign, h1, h2, ':', m1, m2] =>
      (sign == '+' || sign == '-') && [h1, h2, m1, m2].all Char.isDigit &&
        Nat.ofDigitChars 10 [h1, h2] 0 ≤ 24 && Nat.ofDigitChars 10 [m1, m2] 0 ≤ 60
  | _ => false

/-- A fraction that the layout does not mention but `time.Parse` skips. -/
def skipFraction : List Char → List Char
  | point :: digit :: rest =>
      if (point = '.' ∨ point = ',') ∧ digit.isDigit then rest.dropWhile Char.isDigit
      else point :: digit :: rest
  | rest => rest

/-- Whether `time.Parse(time.RFC3339, text)` succeeds. The hour is the one field
that may have a single digit. -/
def isRFC3339 (text : String) : Bool :=
  let parsed : Option Bool := do
    let (year, rest) ← fixedNumber 4 text.toList
    let (month, rest) ← fixedNumber 2 (← literal '-' rest)
    let (day, rest) ← fixedNumber 2 (← literal '-' rest)
    let afterT ← literal 'T' rest
    let (hour, rest) ← fixedNumber 2 afterT <|> fixedNumber 1 afterT
    let (minute, rest) ← fixedNumber 2 (← literal ':' rest)
    let (second, rest) ← fixedNumber 2 (← literal ':' rest)
    some (1 ≤ month && month ≤ 12 && 1 ≤ day && day ≤ daysIn month year && hour < 24 &&
      minute < 60 && second < 60 && isZone (skipFraction rest))
  parsed.getD false

/-! ### Policies -/

def parseKind (values : Dict String) : Except String (String × Protocol × Direction × Mode) := do
  let id := values.get "id"
  if matchesPattern policyIDPattern id = false then throw "policy id is invalid"
  let some protocol := Protocol.parse? (values.get "protocol") | throw "protocol is invalid"
  let some direction := Direction.parse? (values.get "direction") | throw "direction is invalid"
  let some mode := Mode.parse? (values.get "mode") | throw "mode is invalid"
  return (id, protocol, direction, mode)

def parsePorts (values : Dict String) : Except String (Int × Int) := do
  let start ← parseInt (values.get "port_start") "port_start" 1 65535
  let .ok finish := parseInt (values.get "port_end") "port_end" start 65535
    | throw "port range is invalid"
  if 4096 < finish - start + 1 then throw "port range is invalid"
  return (start, finish)

/-- The quota, the rate and the generation a request asks for. -/
def parseAmounts (values : Dict String) : Except String (Int × Int × Int) := do
  let quota ← parseInt (values.get "quota_bytes") "quota_bytes" 0 (2 ^ 62)
  let .ok rate := parseInt (values.get "egress_rate_bps") "egress_rate_bps" 0 100000000000
    | throw "egress rate is invalid"
  if 0 < rate ∧ rate < 8000 then throw "egress rate is invalid"
  let generation ←
    parseInt (values.get "counter_generation") "counter_generation" 1 (2 ^ 31 - 1)
  return (quota, rate, generation)

def checkAmounts (mode : Mode) (direction : Direction) (quota rate : Int) :
    Except String Unit := do
  if mode = .enforcing ∧ quota = 0 then throw "enforcing mode requires a quota"
  if 0 < rate ∧ direction = .rx then throw "first-version shaping supports egress only"

def checkInterfaceName (interfaceExists : String → Bool) (checkInterface : Bool)
    (iface : String) : Except String Unit := do
  if iface ≠ "" then
    if matchesInterfacePattern iface = false then throw "interface name is invalid"
    if checkInterface ∧ interfaceExists iface = false then throw "interface does not exist"

def checkReset (reset nextReset : String) : Except String Unit := do
  if 1024 < reset.utf8ByteSize ∨ isJSONObject reset = false then
    throw "reset policy is invalid"
  if nextReset ≠ "" ∧ (40 < nextReset.utf8ByteSize ∨ isRFC3339 nextReset = false) then
    throw "next reset timestamp is invalid"

/-- The policy a request describes, checked field by field in this order.
`interfaceExists` stands for `net.InterfaceByName`, which is asked only when
`checkInterface` is set. -/
def parsePolicy (interfaceExists : String → Bool) (values : Dict String)
    (checkInterface : Bool) : Except String Policy := do
  if values.size = 0 ∨ 12 < values.size then
    throw "policy is missing or exceeds field limits"
  let (id, protocol, direction, mode) ← parseKind values
  let (start, finish) ← parsePorts values
  let (quota, rate, generation) ← parseAmounts values
  checkAmounts mode direction quota rate
  let iface := values.get "interface_name"
  checkInterfaceName interfaceExists checkInterface iface
  let reset := values.get "reset_policy"
  let nextReset := values.get "next_reset_at"
  checkReset reset nextReset
  return {
    id, protocol, direction, portStart := start, portEnd := finish, interfaceName := iface
    mode, quotaBytes := .ofInt quota, egressRateBPS := rate, generation := .ofInt generation
    lifetimeRX := 0, lifetimeTX := 0, lastKernelRX := 0, lastKernelTX := 0
    periodStartRX := 0, periodStartTX := 0, periodStarted := 0, lastResetAt := 0
    nextResetAt := nextReset, resetPolicy := reset }

def protocols : Protocol → List Protocol
  | .both => [.tcp, .udp]
  | p => [p]

def Protocol.name : Protocol → String
  | .tcp => "tcp"
  | .udp => "udp"
  | .both => "both"

/-- The name stem of a policy's counters. -/
def policyKey (id : String) : String := "vg_" ++ .ofList (id.toList.filter (· ≠ '-'))

/-! ### The two directions of a policy -/

/-- One of the two counted directions. -/
inductive Side where
  | rx
  | tx
  deriving DecidableEq, Repr

def Side.suffix : Side → String
  | .rx => "_rx"
  | .tx => "_tx"

/-- The kernel counter of a policy in one direction. -/
def counterName (side : Side) (id : String) : String := policyKey id ++ side.suffix

def Policy.lifetime (p : Policy) : Side → Int64
  | .rx => p.lifetimeRX
  | .tx => p.lifetimeTX

def Policy.lastKernel (p : Policy) : Side → Int64
  | .rx => p.lastKernelRX
  | .tx => p.lastKernelTX

/-- Whether the policy owns a counter in this direction. -/
def Policy.counts (p : Policy) : Side → Bool
  | .rx => p.direction ≠ .tx
  | .tx => p.direction ≠ .rx

end VpsGuardian.NetHelper
