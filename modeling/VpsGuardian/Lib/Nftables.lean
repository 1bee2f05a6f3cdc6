import Mathlib

/-!
The rules of an nftables transaction, as far as counting packets goes.

A transaction is read line by line and word by word. A rule is a list of
expressions, which are evaluated from the left until one does not match or drops
the packet, and the rules of a hook are evaluated until one drops it.
-/

namespace VpsGuardian.Lib.Nftables

inductive Hook where
  | input
  | output
  deriving DecidableEq, Repr

inductive Transport where
  | tcp
  | udp
  deriving DecidableEq, Repr

/-- A packet at a hook, with the interface it came in by or goes out by. -/
structure Packet where
  hook : Hook
  transport : Transport
  sourcePort : Nat
  destinationPort : Nat
  interface : String
  deriving DecidableEq, Repr

inductive Expression where
  | iifname (name : String)
  | oifname (name : String)
  | l4proto (transport : Transport)
  | sport (transport : Transport) (first last : Nat)
  | dport (transport : Transport) (first last : Nat)
  | counter (name : String)
  | quota (name : String)
  | drop
  deriving DecidableEq, Repr

/-- Whether the evaluation goes on after an expression. `usedUp` says which quotas are used up. -/
def Expression.accepts (usedUp : String → Bool) (packet : Packet) : Expression → Bool
  | .iifname name => packet.hook = .input ∧ packet.interface = name
  | .oifname name => packet.hook = .output ∧ packet.interface = name
  | .l4proto transport => packet.transport = transport
  | .sport transport first last =>
      packet.transport = transport ∧ first ≤ packet.sourcePort ∧ packet.sourcePort ≤ last
  | .dport transport first last =>
      packet.transport = transport ∧ first ≤ packet.destinationPort ∧
        packet.destinationPort ≤ last
  | .counter _ => true
  | .quota name => usedUp name
  | .drop => false

/-- What a rule does with a packet: the counters it increments, and whether it drops it. -/
structure Verdict where
  counted : List String
  dropped : Bool
  deriving DecidableEq, Repr

def runRule (usedUp : String → Bool) (packet : Packet) : List Expression → Verdict
  | [] => ⟨[], false⟩
  | .counter name :: rest =>
      let verdict := runRule usedUp packet rest
      ⟨name :: verdict.counted, verdict.dropped⟩
  | .drop :: _ => ⟨[], true⟩
  | expression :: rest =>
      if expression.accepts usedUp packet then runRule usedUp packet rest else ⟨[], false⟩

/-- The counters the rules of a hook increment for a packet. -/
def runRules (usedUp : String → Bool) (packet : Packet) : List (List Expression) → List String
  | [] => []
  | rule :: rules =>
      let verdict := runRule usedUp packet rule
      verdict.counted ++ if verdict.dropped then [] else runRules usedUp packet rules

inductive Line where
  | table
  | chain (name : String) (hook : Hook)
  | counter (name : String)
  | quota (name : String)
  | rule (chain : String) (expressions : List Expression)
  deriving DecidableEq, Repr

/-- The chains at a hook. -/
def chainsAt (hook : Hook) (lines : List Line) : List String :=
  lines.filterMap fun
    | .chain name other => if other = hook then some name else none
    | _ => none

/-- The rules of a chain. -/
def rulesOf (chain : String) (lines : List Line) : List (List Expression) :=
  lines.filterMap fun
    | .rule name expressions => if name = chain then some expressions else none
    | _ => none

/-- The counters that are incremented for a packet after a transaction that emptied the table
first. -/
def counted (usedUp : String → Bool) (lines : List Line) (packet : Packet) : List String :=
  runRules usedUp packet ((chainsAt packet.hook lines).flatMap fun chain => rulesOf chain lines)

@[simp] theorem chainsAt_append (hook : Hook) (lines lines' : List Line) :
    chainsAt hook (lines ++ lines') = chainsAt hook lines ++ chainsAt hook lines' :=
  List.filterMap_append

@[simp] theorem rulesOf_append (chain : String) (lines lines' : List Line) :
    rulesOf chain (lines ++ lines') = rulesOf chain lines ++ rulesOf chain lines' :=
  List.filterMap_append

theorem chainsAt_flatMap {α : Type} (hook : Hook) (items : List α) (f : α → List Line) :
    chainsAt hook (items.flatMap f) = items.flatMap fun item => chainsAt hook (f item) := by
  induction items with
  | nil => rfl
  | cons item items ih => rw [List.flatMap_cons, chainsAt_append, ih, List.flatMap_cons]

theorem rulesOf_flatMap {α : Type} (chain : String) (items : List α) (f : α → List Line) :
    rulesOf chain (items.flatMap f) = items.flatMap fun item => rulesOf chain (f item) := by
  induction items with
  | nil => rfl
  | cons item items ih => rw [List.flatMap_cons, rulesOf_append, ih, List.flatMap_cons]

/-! ### Running rules -/

/-- Rules that do not match are passed over. -/
theorem runRules_append_of_silent {usedUp : String → Bool} {packet : Packet}
    {rules rules' : List (List Expression)}
    (h : ∀ rule ∈ rules, runRule usedUp packet rule = ⟨[], false⟩) :
    runRules usedUp packet (rules ++ rules') = runRules usedUp packet rules' := by
  induction rules with
  | nil => rfl
  | cons rule rules ih =>
    rw [List.cons_append, runRules, h rule List.mem_cons_self,
      ih fun other hother => h other (List.mem_cons_of_mem rule hother)]
    rfl

theorem runRules_eq_nil {usedUp : String → Bool} {packet : Packet}
    {rules : List (List Expression)}
    (h : ∀ rule ∈ rules, runRule usedUp packet rule = ⟨[], false⟩) :
    runRules usedUp packet rules = [] := by
  rw [← List.append_nil rules, runRules_append_of_silent h]
  rfl

/-- A single rule that matches, with silent ones around it, decides what is counted. -/
theorem runRules_single {usedUp : String → Bool} {packet : Packet} {name : String}
    {rules rules' : List (List Expression)} {rule : List Expression}
    (h : ∀ rule ∈ rules, runRule usedUp packet rule = ⟨[], false⟩)
    (hrule : (runRule usedUp packet rule).counted = [name])
    (h' : ∀ rule ∈ rules', runRule usedUp packet rule = ⟨[], false⟩) :
    runRules usedUp packet (rules ++ rule :: rules') = [name] := by
  rw [runRules_append_of_silent h, runRules, runRules_eq_nil h', hrule, ite_self,
    List.append_nil]

/-! ### The text of a transaction -/

def readTransport : String → Option Transport
  | "tcp" => some .tcp
  | "udp" => some .udp
  | _ => none

def readHook : String → Option Hook
  | "input" => some .input
  | "output" => some .output
  | _ => none

def readNat (digits : List Char) : Option Nat :=
  if digits ≠ [] ∧ digits.all Char.isDigit then some (Nat.ofDigitChars 10 digits 0) else none

/-- A port, or two with a hyphen between them. -/
def readRange (word : String) : Option (Nat × Nat) :=
  match word.toList.splitOn '-' with
  | [port] => (readNat port).map fun n => (n, n)
  | [first, last] => do
      let first ← readNat first
      let last ← readNat last
      some (first, last)
  | _ => none

/-- The text between two quotation marks. -/
def readQuoted (word : String) : Option String :=
  match word.toList with
  | '"' :: rest => if rest.getLast? = some '"' then some (.ofList rest.dropLast) else none
  | _ => none

def readExpressions : List String → Option (List Expression)
  | [] => some []
  | "iifname" :: name :: rest => do
      let name ← readQuoted name
      let rest ← readExpressions rest
      some (.iifname name :: rest)
  | "oifname" :: name :: rest => do
      let name ← readQuoted name
      let rest ← readExpressions rest
      some (.oifname name :: rest)
  | "meta" :: "l4proto" :: transport :: rest => do
      let transport ← readTransport transport
      let rest ← readExpressions rest
      some (.l4proto transport :: rest)
  | "counter" :: "name" :: name :: rest => do
      let rest ← readExpressions rest
      some (.counter name :: rest)
  | "quota" :: "name" :: name :: rest => do
      let rest ← readExpressions rest
      some (.quota name :: rest)
  | "drop" :: rest => do
      let rest ← readExpressions rest
      some (.drop :: rest)
  | transport :: "sport" :: ports :: rest => do
      let transport ← readTransport transport
      let (first, last) ← readRange ports
      let rest ← readExpressions rest
      some (.sport transport first last :: rest)
  | transport :: "dport" :: ports :: rest => do
      let transport ← readTransport transport
      let (first, last) ← readRange ports
      let rest ← readExpressions rest
      some (.dport transport first last :: rest)
  | _ => none

/-- A line about a table of the family `inet`. The value of a quota is not read. -/
def readLine (table : String) : List String → Option Line
  | [command, "table", "inet", name] =>
      if command ∈ ["add", "flush", "delete"] ∧ name = table then some .table else none
  | ["add", "chain", "inet", name, chain, "\x7b", "type", "filter", "hook", hook, "priority", _,
      "policy", "accept;", "\x7d"] =>
      if name = table then (readHook hook).map (.chain chain) else none
  | ["add", "counter", "inet", name, counter] =>
      if name = table then some (.counter counter) else none
  | ["add", "quota", "inet", name, quota, "\x7b", "over", _, "bytes;", "\x7d"] =>
      if name = table then some (.quota quota) else none
  | "add" :: "rule" :: "inet" :: name :: chain :: expressions =>
      if name = table then (readExpressions expressions).map (.rule chain) else none
  | _ => none

def readLines (table : String) : List (List Char) → Option (List Line)
  | [] => some []
  | line :: lines => do
      let first ← readLine table ((line.splitOn ' ').map String.ofList)
      let rest ← readLines table lines
      some (first :: rest)

/-- The lines of a transaction, each of which ends in a newline. -/
def readTransaction (table : String) (text : List Char) : Option (List Line) :=
  readLines table (text.splitOn '\n').dropLast

/-! ### Reading what was written -/

/-- Words with single blanks between them. -/
def joined (words : List String) : List Char := [' '].intercalate (words.map String.toList)

/-- Lines of words. -/
def written (lines : List (List String)) : List Char := lines.flatMap fun words =>
  joined words ++ ['\n']

/-- A word has no blank and no newline in it. -/
def IsWord (word : String) : Prop := ' ' ∉ word.toList ∧ '\n' ∉ word.toList

instance (word : String) : Decidable (IsWord word) := inferInstanceAs (Decidable (_ ∧ _))

theorem splitOn_joined {words : List String} (hne : words ≠ []) (h : ∀ word ∈ words, IsWord word) :
    ((joined words).splitOn ' ').map String.ofList = words := by
  rw [joined, List.splitOn_intercalate ' ' ?_ (by simpa using hne), List.map_map]
  · refine List.map_id'' (fun word => ?_) words
    exact String.ofList_toList
  · intro text htext
    obtain ⟨word, hword, rfl⟩ := List.mem_map.mp htext
    exact (h word hword).1

theorem written_eq (lines : List (List String)) :
    written lines = ['\n'].intercalate (lines.map joined ++ [[]]) := by
  induction lines with
  | nil => rfl
  | cons words lines ih =>
    have hcons : ∀ (first : List Char) (rest : List (List Char)),
        rest ≠ [] → ['\n'].intercalate (first :: rest) =
          first ++ '\n' :: ['\n'].intercalate rest := by
      intro first rest hrest
      cases rest with
      | nil => exact absurd rfl hrest
      | cons next rest => simp [List.intercalate]
    rw [List.map_cons, List.cons_append, hcons _ _ (by simp), ← ih, written, List.flatMap_cons,
      List.append_assoc]
    rfl

theorem newline_not_mem_joined {words : List String} (h : ∀ word ∈ words, IsWord word) :
    '\n' ∉ joined words := by
  induction words with
  | nil => simp [joined, List.intercalate]
  | cons word words ih =>
    have hword := (h word List.mem_cons_self).2
    have hrest := ih fun other hother => h other (List.mem_cons_of_mem word hother)
    cases words with
    | nil => simpa [joined, List.intercalate] using hword
    | cons next words =>
      have hjoin : joined (word :: next :: words) =
          word.toList ++ ' ' :: joined (next :: words) := by
        simp [joined, List.intercalate]
      rw [hjoin, List.mem_append, List.mem_cons]
      exact fun hmem => hmem.elim hword (fun hmem => hmem.elim (by decide) hrest)

/-- Lines that are understood one by one are understood together. -/
theorem readTransaction_written {α : Type} {table : String} {statements : List α}
    {words : α → List String} {line : α → Line}
    (hwords : ∀ s ∈ statements, words s ≠ [] ∧ ∀ word ∈ words s, IsWord word)
    (h : ∀ s ∈ statements, readLine table (words s) = some (line s)) :
    readTransaction table (written (statements.map words)) = some (statements.map line) := by
  have hsplit : (written (statements.map words)).splitOn '\n' =
      (statements.map words).map joined ++ [[]] := by
    rw [written_eq, List.splitOn_intercalate '\n' ?_ (by simp)]
    intro text htext
    obtain htext | htext := List.mem_append.mp htext
    · obtain ⟨_, hmem, rfl⟩ := List.mem_map.mp htext
      obtain ⟨s, hs, rfl⟩ := List.mem_map.mp hmem
      exact newline_not_mem_joined (hwords s hs).2
    · obtain rfl := List.mem_singleton.mp htext
      exact List.not_mem_nil
  have hlines : readLines table ((statements.map words).map joined) =
      some (statements.map line) := by
    clear hsplit
    induction statements with
    | nil => rfl
    | cons s statements ih =>
      have hfirst := hwords s List.mem_cons_self
      have hrest := ih (fun other hother => hwords other (List.mem_cons_of_mem s hother))
        fun other hother => h other (List.mem_cons_of_mem s hother)
      rw [List.map_cons, List.map_cons, readLines, splitOn_joined hfirst.1 hfirst.2,
        h s List.mem_cons_self, hrest]
      rfl
  rw [readTransaction, hsplit, List.dropLast_concat, hlines]

end VpsGuardian.Lib.Nftables
