import Mathlib
import VpsGuardian.Lib.Action
import VpsGuardian.NetHelper.Types

/-!
The commands the helper runs and what they do to the kernel
(`agent/nethelper/network.go`).

Counters grow before every command, any command may fail, and a failed command
changes nothing. An `nft -f` transaction that is accepted recreates the counters
it lists at zero, as the fake runner of the repository's tests does. The text of
a transaction is kept as the list of its statements; what `tc` does to the
queueing disciplines is left to the environment, which chooses what
`tc qdisc show` reports.
-/

namespace VpsGuardian.NetHelper

open Lib

def tcHandle : String := "7a11:"

inductive Chain where
  | ingress
  | egress
  deriving DecidableEq, Repr

/-- One line of an nft transaction, all of them about the owned table. -/
inductive Statement where
  | addTable
  | flushTable
  | deleteTable
  | addChain (chain : Chain)
  | addCounter (name : String)
  | addQuota (name : String) (bytes : Int64)
  | addRule (chain : Chain) (interface : String) (protocol : Protocol)
      (portStart portEnd : Int) (counter : String) (quota : Option String)
  deriving DecidableEq, Repr

/-- The owned table. The last two fields are not the kernel's: `grown` adds up
the bytes every counter gained, and `commits` counts accepted transactions. -/
structure Kernel where
  table : Bool
  counters : String → Option Nat
  grown : String → Nat
  commits : Nat

namespace Kernel

def empty : Kernel := ⟨false, fun _ => none, fun _ => 0, 0⟩

/-- The value of a counter, zero when it does not exist. -/
def count (k : Kernel) (name : String) : Nat := (k.counters name).getD 0

def grow (k : Kernel) (bytes : String → Nat) : Kernel :=
  { k with
    counters := fun name => (k.counters name).map (· + bytes name)
    grown := fun name => k.grown name + if (k.counters name).isSome then bytes name else 0 }

def commit (k : Kernel) (script : List Statement) : Kernel :=
  if .deleteTable ∈ script ∧ .addTable ∉ script then
    { k with table := false, counters := fun _ => none, commits := k.commits + 1 }
  else
    { k with
      table := true
      counters := fun name => if .addCounter name ∈ script then some 0 else none
      commits := k.commits + 1 }

end Kernel

/-- A queueing discipline as `tc -j qdisc show` lists it. -/
structure Qdisc where
  root : Bool
  handle : String
  kind : String
  deriving DecidableEq, Repr

/-- What the environment does around one command. `qdiscs` is what the command
reports when it is `tc qdisc show`, with `none` for output that is not JSON. -/
structure Tick where
  bytes : String → Nat
  fails : Bool
  qdiscs : Option (List Qdisc)

def Tick.quiet : Tick := ⟨fun _ => 0, false, some []⟩

/-- An order in which Go iterates over the keys of a map. -/
structure MapOrder where
  order : List String → List String
  perm : ∀ keys, (order keys).Perm keys

/-- What a call of the helper runs in: the kernel and the durable file, and what
the environment is going to do around commands, map iterations and writes of the
file. Past the end of a list it does nothing remarkable. -/
structure World where
  kernel : Kernel
  durable : State
  ticks : List Tick
  orders : List MapOrder
  writes : List Bool

inductive Command where
  | listTable
  | listRuleset
  | transaction (script : List Statement)
  | tc (arguments : List String)

inductive Reply where
  | text
  | ruleset (counters : String → Option Nat)
  | qdiscs (items : Option (List Qdisc))

def Command.program : Command → String
  | .tc _ => "tc"
  | _ => "nft"

def Command.failure (c : Command) : String := c.program ++ " failed"

def World.tick (w : World) : Tick := w.ticks.headD .quiet

/-- The world after the environment's part of the next command. -/
def World.advance (w : World) : World :=
  { w with kernel := w.kernel.grow w.tick.bytes, ticks := w.ticks.tail }

def World.commit (w : World) (script : List Statement) : World :=
  { w with kernel := w.kernel.commit script }

/-- `commands.run`. -/
def runCommand (c : Command) : Action World String Reply := fun w =>
  let w' := w.advance
  if w.tick.fails then (.error c.failure, w')
  else
    match c with
    | .listTable => (if w'.kernel.table then .ok .text else .error c.failure, w')
    | .listRuleset => (.ok (.ruleset w'.kernel.counters), w')
    | .transaction script => (.ok .text, w'.commit script)
    | .tc _ => (.ok (.qdiscs w.tick.qdiscs), w')

/-- The keys of a map in the order of this iteration. -/
def rangeKeys (keys : List String) : Action World String (List String) := fun w =>
  match w.orders with
  | [] => (.ok keys, w)
  | o :: orders => (.ok (o.order keys), { w with orders })

/-! ### nftables -/

def tableExists : Action World String Bool := do
  match ← (runCommand .listTable).attempt with
  | .ok _ => pure true
  | .error _ => pure false

/-- The statements that declare one policy. -/
def policyStatements (item : Policy) : List Statement :=
  let key := policyKey item.id
  let receives : Bool := item.direction = .rx ∨ item.direction = .both
  let transmits : Bool := item.direction = .tx ∨ item.direction = .both
  let used := (item.lifetimeRX - item.periodStartRX) + (item.lifetimeTX - item.periodStartTX)
  let remaining := if item.quotaBytes - used < 1 then 1 else item.quotaBytes - used
  let quotaName := key ++ "_quota"
  let enforce := if item.mode = .enforcing then some quotaName else none
  (if receives then [.addCounter (key ++ "_rx")] else []) ++
  (if transmits then [.addCounter (key ++ "_tx")] else []) ++
  (if item.mode = .enforcing then [.addQuota quotaName remaining] else []) ++
  (protocols item.protocol).flatMap fun protocol =>
    (if receives then
      [.addRule .ingress item.interfaceName protocol item.portStart item.portEnd
        (key ++ "_rx") enforce] else []) ++
    (if transmits then
      [.addRule .egress item.interfaceName protocol item.portStart item.portEnd
        (key ++ "_tx") enforce] else [])

def renderNFT (current : State) (existing : Bool) : List Statement :=
  if current.policies = [] then (if existing then [.deleteTable] else [])
  else
    let sorted := current.policies.insertionSort fun left right => left.id ≤ right.id
    [if existing then .flushTable else .addTable, .addChain .ingress, .addChain .egress] ++
      sorted.flatMap policyStatements

/-- A natural number rounded to the nearest `float64`, ties to even. -/
def float64 (n : Nat) : Nat :=
  let unit := 2 ^ (n.log2 - 52)
  let quotient := n / unit
  let rest := n % unit
  if 2 * rest < unit ∨ (2 * rest = unit ∧ quotient % 2 = 0) then quotient * unit
  else (quotient + 1) * unit

/-- A counter as `readCounters` returns it: the JSON number is decoded into a
`float64` and converted to `int64`, which on amd64 gives the least `int64` when
it does not fit. -/
def rawCounter (n : Nat) : Int64 :=
  if float64 n < 2 ^ 63 then .ofNat (float64 n) else .minValue

/-- The counters of one `nft -j list ruleset`, by name. -/
abbrev Reading : Type := String → Option Int64

def isOwnedName (name : String) : Bool := ("vg_".toList).isPrefixOf name.toList

/-- What is kept of a ruleset: the counters with a policy's name. -/
def reading (counters : String → Option Nat) : Reading := fun name =>
  if isOwnedName name then (counters name).map rawCounter else none

def readCounters : Action World String Reading := do
  match ← runCommand .listRuleset with
  | .ruleset counters => pure (reading counters)
  | _ => Action.throw "nft JSON is invalid"

/-- The totals with a reading of the counters added, for one policy. A missing
counter reads as zero. -/
def absorbPolicy (raw : Reading) (p : Policy) : Policy :=
  let key := policyKey p.id
  let rawRX := (raw (key ++ "_rx")).getD 0
  let rawTX := (raw (key ++ "_tx")).getD 0
  { p with
    lifetimeRX :=
      if p.lastKernelRX ≤ rawRX then p.lifetimeRX + (rawRX - p.lastKernelRX) else p.lifetimeRX
    lifetimeTX :=
      if p.lastKernelTX ≤ rawTX then p.lifetimeTX + (rawTX - p.lastKernelTX) else p.lifetimeTX
    lastKernelRX := 0
    lastKernelTX := 0 }

def absorbCounters (current : State) (raw : Reading) : State :=
  { current with policies := current.policies.map (absorbPolicy raw) }

/-! ### Traffic control -/

/-- Whether the Guardian's root discipline is there, and whether a foreign one is. -/
def qdiscStatus : Option (List Qdisc) → Bool × Bool
  | none => (false, true)
  | some qdiscs =>
      let roots := qdiscs.filter fun q => q.root && q.kind != "noqueue"
      let owned (q : Qdisc) : Bool := q.handle == tcHandle && q.kind == "htb"
      (roots.any owned, roots.any fun q => !owned q)

def ownedQdisc (output : Option (List Qdisc)) : Bool := !(qdiscStatus output).2

def shapingByInterface (current : State) (name : String) : List Policy :=
  current.policies.filter fun p => 0 < p.egressRateBPS ∧ p.interfaceName = name

/-- The interfaces on which one of the two states shapes. -/
def shapedInterfaces (before desired : State) : List String :=
  (((before.policies ++ desired.policies).filter fun p => 0 < p.egressRateBPS).map
    (·.interfaceName)).dedup

def showQdisc (name : String) : Action World String (Option (List Qdisc)) := do
  match ← runCommand (.tc ["-j", "qdisc", "show", "dev", name]) with
  | .qdiscs items => pure items
  | _ => pure none

/-- What `readShapingStates` finds on one interface. -/
def interfaceState (name : String) : Action World String (String × String) := do
  match ← (showQdisc name).attempt with
  | .ok output =>
      pure (name, if qdiscStatus output = (true, false) then "active" else "inconsistent")
  | .error _ => pure (name, "inconsistent")

def readShapingStates (current : State) : Action World String (List (String × String)) := do
  let names ← rangeKeys (shapedInterfaces current ⟨[], current.completedNonce⟩)
  let interfaceStates ← Action.collect interfaceState names
  -- the last policy of an id wins, as in the Go map
  pure (current.policies.map fun item =>
    (item.id, if item.egressRateBPS = 0 then "disabled"
      else (interfaceStates.lookup item.interfaceName).getD "")).reverse

/-- The check both `preflightTCOwnership` and `applyTC` start an interface with. -/
def refuseForeignQdisc (name : String) : Action World String Unit :=
  if name = "" then Action.throw "egress shaping requires an explicit interface"
  else do
    let output ← (showQdisc name).mapError
      fun _ => "refusing to replace a non-Guardian root qdisc"
    if ownedQdisc output then pure ()
    else Action.throw "refusing to replace a non-Guardian root qdisc"

def preflightTCOwnership (before desired : State) : Action World String Unit := do
  let interfaces ← rangeKeys (shapedInterfaces before desired)
  Action.forEach refuseForeignQdisc interfaces

def runTC (arguments : List String) : Action World String Unit := do
  let _ ← runCommand (.tc arguments)
  pure ()

/-- The `flower` filters of one shaped policy, in the order they are installed. -/
def filterArguments (name cls : String) (index : Nat) (item : Policy) : List (List String) :=
  let port := if item.portStart = item.portEnd then toString item.portStart
    else toString item.portStart ++ "-" ++ toString item.portEnd
  (protocols item.protocol).zipIdx.flatMap fun (protocol, protocolIndex) =>
    ["ip", "ipv6"].zipIdx.map fun (family, familyIndex) =>
      let priority := index * 4 + protocolIndex * 2 + familyIndex + 1
      ["filter", "replace", "dev", name, "protocol", family, "parent", tcHandle,
        "prio", toString priority, "flower", "ip_proto", protocol.name, "src_port", port,
        "classid", cls]

def shapePolicy (name : String) (entry : Policy × Nat) : Action World String Unit := do
  let cls := "7a11:" ++ toString (entry.2 + 1)
  let rate := toString entry.1.egressRateBPS ++ "bit"
  runTC ["class", "replace", "dev", name, "parent", tcHandle, "classid", cls,
    "htb", "rate", rate, "ceil", rate]
  Action.forEach runTC (filterArguments name cls entry.2 entry.1)

def shapeInterface (desired : State) (name : String) : Action World String Unit := do
  refuseForeignQdisc name
  let items := shapingByInterface desired name
  if items = [] then
    (runTC ["qdisc", "del", "dev", name, "root", "handle", tcHandle]).ignore
  else do
    runTC ["qdisc", "replace", "dev", name, "root", "handle", tcHandle, "htb", "default", "4095"]
    runTC ["class", "replace", "dev", name, "parent", tcHandle, "classid", "7a11:4095",
      "htb", "rate", "100gbit", "ceil", "100gbit"]
    Action.forEach (shapePolicy name) items.zipIdx

def applyTC (before desired : State) : Action World String Unit := do
  let interfaces ← rangeKeys (shapedInterfaces before desired)
  Action.forEach (shapeInterface desired) interfaces

/-! ### Applying a state -/

/-- Whether a reading has the counters a policy owns. -/
def verifyCounters (counters : Reading) (item : Policy) : Except String Unit :=
  let key := policyKey item.id
  if item.direction ≠ .tx ∧ counters (key ++ "_rx") = none then
    .error "owned RX counter is missing after apply"
  else if item.direction ≠ .rx ∧ counters (key ++ "_tx") = none then
    .error "owned TX counter is missing after apply"
  else .ok ()

def verifyTable (desired : State) : Action World String Unit := do
  let existing ← tableExists
  if desired.policies = [] then
    if existing then Action.throw "owned nftables table remained after removal" else pure ()
  else if existing then do
    let counters ← readCounters.mapError
      fun _ => "owned nftables counters could not be verified"
    match desired.policies.forM (verifyCounters counters) with
    | .ok _ => pure ()
    | .error e => Action.throw e
  else Action.throw "owned nftables table is missing after apply"

def verifyInterface (desired : State) (name : String) : Action World String Unit := do
  let output ← (showQdisc name).mapError fun _ => "egress qdisc could not be verified"
  let expectGuardian := shapingByInterface desired name ≠ []
  if qdiscStatus output = (decide expectGuardian, false) then pure ()
  else Action.throw "egress qdisc post-check failed"

def verifyNetwork (before desired : State) : Action World String Unit := do
  verifyTable desired
  let interfaces ← rangeKeys (shapedInterfaces before desired)
  Action.forEach (verifyInterface desired) interfaces

/-- Runs a transaction, if there is anything in it. -/
def runTransaction (script : List Statement) : Action World String Unit :=
  if script = [] then pure ()
  else do
    let _ ← runCommand (.transaction script)
    pure ()

/-- What both late failures of `applyNetwork` do before they return the error. -/
def rollback (before desired : State) : Action World String Unit := do
  (runTransaction (renderNFT before (desired.policies ≠ []))).ignore
  (applyTC desired before).ignore

def applyNetwork (before desired : State) : Action World String Unit := do
  preflightTCOwnership before desired
  let existing ← tableExists
  runTransaction (renderNFT desired existing)
  match ← (applyTC before desired).attempt with
  | .error e => do
      rollback before desired
      Action.throw e
  | .ok _ =>
      match ← (verifyNetwork before desired).attempt with
      | .error e => do
          rollback before desired
          Action.throw e
      | .ok _ => pure ()

end VpsGuardian.NetHelper
