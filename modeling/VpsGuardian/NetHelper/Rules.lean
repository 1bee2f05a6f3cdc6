import VpsGuardian.Lib.Nftables
import VpsGuardian.NetHelper.Signed

/-!
What the text of an nft transaction counts (`renderNFT` in `agent/nethelper/network.go`).
-/

namespace VpsGuardian.NetHelper

open Lib

def tableName : String := "vps_guardian_port_traffic"

def Chain.name : Chain → String
  | .ingress => "ingress"
  | .egress => "egress"

/-- The hook a chain is attached to. -/
def Chain.hook : Chain → String
  | .ingress => "input"
  | .egress => "output"

/-- The keywords for the interface and the port that count in a chain. -/
def Chain.interfaceKeyword : Chain → String
  | .ingress => "iifname"
  | .egress => "oifname"

def Chain.portKeyword : Chain → String
  | .ingress => "dport"
  | .egress => "sport"

def portText (first last : Int) : String :=
  if first = last then toString first else toString first ++ "-" ++ toString last

/-- `%q` of an interface name; what `interfacePattern` lets through has nothing to escape. -/
def quoted (name : String) : String := "\"" ++ name ++ "\""

/-- The end of a rule of an enforcing policy. -/
def enforceWords : Option String → List String
  | some quota => ["quota", "name", quota, "drop"]
  | none => []

/-- The words of a statement, which are printed with single blanks between them. -/
def Statement.words : Statement → List String
  | .addTable => ["add", "table", "inet", tableName]
  | .flushTable => ["flush", "table", "inet", tableName]
  | .deleteTable => ["delete", "table", "inet", tableName]
  | .addChain chain => ["add", "chain", "inet", tableName, chain.name, "\x7b", "type", "filter",
      "hook", chain.hook, "priority", "-10;", "policy", "accept;", "\x7d"]
  | .addCounter name => ["add", "counter", "inet", tableName, name]
  | .addQuota name bytes => ["add", "quota", "inet", tableName, name, "\x7b", "over",
      toString bytes.toInt, "bytes;", "\x7d"]
  | .addRule chain interface protocol portStart portEnd counter quota =>
      ["add", "rule", "inet", tableName, chain.name] ++
        (if interface ≠ "" then [chain.interfaceKeyword, quoted interface] else []) ++
        ["meta", "l4proto", protocol.name, protocol.name, chain.portKeyword,
          portText portStart portEnd, "counter", "name", counter] ++ enforceWords quota

/-- The text of a transaction, one statement a line. -/
def nftText (script : List Statement) : List Char := Nftables.written (script.map Statement.words)

/-! ### Reading the text -/

def Chain.nftHook : Chain → Nftables.Hook
  | .ingress => .input
  | .egress => .output

def Protocol.transport : Protocol → Nftables.Transport
  | .udp => .udp
  | .tcp | .both => .tcp

def interfaceExpression (chain : Chain) (interface : String) : Nftables.Expression :=
  match chain with
  | .ingress => .iifname interface
  | .egress => .oifname interface

def portExpression (chain : Chain) (protocol : Protocol) (portStart portEnd : Int) :
    Nftables.Expression :=
  match chain with
  | .ingress => .dport protocol.transport portStart.toNat portEnd.toNat
  | .egress => .sport protocol.transport portStart.toNat portEnd.toNat

def enforceExpressions : Option String → List Nftables.Expression
  | some quota => [.quota quota, .drop]
  | none => []

def ruleExpressions (chain : Chain) (interface : String) (protocol : Protocol)
    (portStart portEnd : Int) (counter : String) (quota : Option String) :
    List Nftables.Expression :=
  (if interface ≠ "" then [interfaceExpression chain interface] else []) ++
    [.l4proto protocol.transport, portExpression chain protocol portStart portEnd,
      .counter counter] ++ enforceExpressions quota

/-- What a statement says to nft. -/
def Statement.line : Statement → Nftables.Line
  | .addTable | .flushTable | .deleteTable => .table
  | .addChain chain => .chain chain.name chain.nftHook
  | .addCounter name => .counter name
  | .addQuota name _ => .quota name
  | .addRule chain interface protocol portStart portEnd counter quota =>
      .rule chain.name (ruleExpressions chain interface protocol portStart portEnd counter quota)

/-- The parameters of a statement are words, and a rule is about ports of one protocol. -/
def Statement.Readable : Statement → Prop
  | .addCounter name => Nftables.IsWord name
  | .addQuota name _ => Nftables.IsWord name
  | .addRule _ interface protocol portStart portEnd counter quota =>
      (interface = "" ∨ matchesInterfacePattern interface = true) ∧ protocol ≠ .both ∧
        0 ≤ portStart ∧ 0 ≤ portEnd ∧ Nftables.IsWord counter ∧
          ∀ name ∈ quota, Nftables.IsWord name
  | _ => True

theorem readNat_toDigits (n : Nat) : Nftables.readNat (Nat.toDigits 10 n) = some n := by
  have hne : Nat.toDigits 10 n ≠ [] := Nat.toDigits_ne_nil
  have hdigits : (Nat.toDigits 10 n).all Char.isDigit = true :=
    List.all_eq_true.mpr (Json.toDigits_isDigit n)
  rw [Nftables.readNat, if_pos ⟨hne, hdigits⟩, Nat.ofDigitChars_ten_toDigits]

theorem hyphen_not_mem_toDigits (n : Nat) : '-' ∉ Nat.toDigits 10 n := fun h => by
  have hdigit := Json.toDigits_isDigit n '-' h
  revert hdigit
  decide

theorem toList_toString_natCast (n : Nat) : (toString (n : Int)).toList = Nat.toDigits 10 n := by
  have hrepr : toString (n : Int) = Nat.repr n := rfl
  rw [hrepr, Nat.toList_repr]

theorem readRange_portText {portStart portEnd : Int} (hstart : 0 ≤ portStart)
    (hend : 0 ≤ portEnd) :
    Nftables.readRange (portText portStart portEnd) = some (portStart.toNat, portEnd.toNat) := by
  obtain ⟨first, rfl⟩ := Int.eq_ofNat_of_zero_le hstart
  obtain ⟨last, rfl⟩ := Int.eq_ofNat_of_zero_le hend
  rw [portText]
  split
  · next heq =>
    obtain rfl : first = last := by exact_mod_cast heq
    have hsplit : (['-'].intercalate [Nat.toDigits 10 first]).splitOn '-' =
        [Nat.toDigits 10 first] :=
      List.splitOn_intercalate '-' (by simpa using hyphen_not_mem_toDigits first) (by simp)
    rw [List.intercalate_singleton] at hsplit
    rw [Nftables.readRange, toList_toString_natCast, hsplit]
    simp [readNat_toDigits]
  · have hsplit : (['-'].intercalate [Nat.toDigits 10 first, Nat.toDigits 10 last]).splitOn '-' =
        [Nat.toDigits 10 first, Nat.toDigits 10 last] :=
      List.splitOn_intercalate '-' (by simp [hyphen_not_mem_toDigits]) (by simp)
    have hjoin : ['-'].intercalate [Nat.toDigits 10 first, Nat.toDigits 10 last] =
        Nat.toDigits 10 first ++ '-' :: Nat.toDigits 10 last := by
      simp [List.intercalate]
    rw [hjoin] at hsplit
    have htext : (toString (first : Int) ++ "-" ++ toString (last : Int)).toList =
        Nat.toDigits 10 first ++ '-' :: Nat.toDigits 10 last := by
      rw [String.toList_append, String.toList_append, toList_toString_natCast,
        toList_toString_natCast, List.append_assoc]
      rfl
    rw [Nftables.readRange, htext, hsplit]
    simp [readNat_toDigits]

theorem readQuoted_quoted (name : String) : Nftables.readQuoted (quoted name) = some name := by
  have htext : (quoted name).toList = '"' :: (name.toList ++ ['"']) := by
    rw [quoted, String.toList_append, String.toList_append]
    rfl
  rw [Nftables.readQuoted, htext]
  simp [String.ofList_toList]

theorem readExpressions_rule (chain : Chain) (interface : String) {protocol : Protocol}
    {portStart portEnd : Int} (counter : String) (quota : Option String)
    (hprotocol : protocol ≠ .both) (hstart : 0 ≤ portStart) (hend : 0 ≤ portEnd) :
    Nftables.readExpressions
        ((if interface ≠ "" then [chain.interfaceKeyword, quoted interface] else []) ++
          ["meta", "l4proto", protocol.name, protocol.name, chain.portKeyword,
            portText portStart portEnd, "counter", "name", counter] ++ enforceWords quota) =
      some (ruleExpressions chain interface protocol portStart portEnd counter quota) := by
  have hports := readRange_portText hstart hend
  have htail : Nftables.readExpressions (enforceWords quota) = some (enforceExpressions quota) := by
    cases quota <;> rfl
  have hbody : Nftables.readExpressions (["meta", "l4proto", protocol.name, protocol.name,
        chain.portKeyword, portText portStart portEnd, "counter", "name", counter] ++
          enforceWords quota) =
      some ([.l4proto protocol.transport, portExpression chain protocol portStart portEnd,
        .counter counter] ++ enforceExpressions quota) := by
    cases protocol with
    | both => exact absurd rfl hprotocol
    | tcp | udp =>
      cases chain <;>
        simp [Nftables.readExpressions, Chain.portKeyword, Protocol.name, hports, htail,
          Nftables.readTransport, portExpression, Protocol.transport]
  rw [List.append_assoc, ruleExpressions, List.append_assoc]
  generalize ["meta", "l4proto", protocol.name, protocol.name, chain.portKeyword,
    portText portStart portEnd, "counter", "name", counter] ++ enforceWords quota = words at *
  generalize [.l4proto protocol.transport, portExpression chain protocol portStart portEnd,
    .counter counter] ++ enforceExpressions quota = expressions at *
  split
  · cases chain <;>
      simp [Nftables.readExpressions, Chain.interfaceKeyword, interfaceExpression, hbody,
        readQuoted_quoted]
  · exact hbody

theorem readLine_words {s : Statement} (h : s.Readable) :
    Nftables.readLine tableName s.words = some s.line := by
  cases s with
  | addRule chain interface protocol portStart portEnd counter quota =>
    obtain ⟨-, hprotocol, hstart, hend, -, -⟩ := h
    have hread := readExpressions_rule chain interface counter quota hprotocol hstart hend
    rw [Statement.words, Statement.line, List.append_assoc, List.append_assoc,
      ← List.append_assoc (if interface ≠ "" then _ else _)]
    simp only [List.cons_append, List.nil_append, Nftables.readLine, hread]
    rfl
  | addChain chain => cases chain <;> rfl
  | _ => rfl

/-! ### Every parameter is a word -/

theorem isWord_iff {word : String} :
    Nftables.IsWord word ↔ ∀ c ∈ word.toList, c ≠ ' ' ∧ c ≠ '\n' := by
  refine ⟨fun h c hc => ⟨?_, ?_⟩, fun h => ⟨fun hc => (h _ hc).1 rfl, fun hc => (h _ hc).2 rfl⟩⟩
  · rintro rfl
    exact h.1 hc
  · rintro rfl
    exact h.2 hc

theorem isWord_append {word word' : String} (h : Nftables.IsWord word)
    (h' : Nftables.IsWord word') : Nftables.IsWord (word ++ word') := by
  rw [isWord_iff] at *
  intro c hc
  rw [String.toList_append] at hc
  exact (List.mem_append.mp hc).elim (h c) (h' c)

theorem isWord_of_isDigit {word : String} (h : ∀ c ∈ word.toList, c.isDigit = true) :
    Nftables.IsWord word := by
  rw [isWord_iff]
  intro c hc
  have hdigit := h c hc
  constructor <;>
  · rintro rfl
    revert hdigit
    decide

theorem isWord_repr (n : Nat) : Nftables.IsWord n.repr := by
  refine isWord_of_isDigit fun c hc => ?_
  rw [Nat.toList_repr] at hc
  exact Json.toDigits_isDigit n c hc

theorem isWord_toString (n : Int) : Nftables.IsWord (toString n) := by
  cases n with
  | ofNat n => exact isWord_repr n
  | negSucc n => exact isWord_append (by decide : Nftables.IsWord "-") (isWord_repr (n + 1))

theorem isWord_portText (portStart portEnd : Int) :
    Nftables.IsWord (portText portStart portEnd) := by
  rw [portText]
  split
  · exact isWord_toString portStart
  · exact isWord_append (isWord_append (isWord_toString portStart) (by decide))
      (isWord_toString portEnd)

theorem isAlphanumeric_ne {c : Char} (h : isAlphanumeric c = true) : c ≠ ' ' ∧ c ≠ '\n' := by
  constructor <;>
  · rintro rfl
    revert h
    decide

theorem isWord_of_matchesInterfacePattern {name : String}
    (h : matchesInterfacePattern name = true) : Nftables.IsWord name := by
  rw [isWord_iff]
  rw [matchesInterfacePattern] at h
  split at h
  · cases h
  · next first rest heq =>
    simp only [Bool.and_eq_true, List.all_eq_true] at h
    rw [heq]
    intro c hc
    obtain rfl | hc := List.mem_cons.mp hc
    · exact isAlphanumeric_ne h.1.1
    · have hclass := h.2 c hc
      simp only [Bool.or_eq_true, beq_iff_eq] at hclass
      obtain (((hclass | rfl) | rfl) | rfl) | rfl := hclass
      · exact isAlphanumeric_ne hclass
      all_goals decide

theorem words_isWord {s : Statement} (h : s.Readable) :
    s.words ≠ [] ∧ ∀ word ∈ s.words, Nftables.IsWord word := by
  have htable : Nftables.IsWord tableName := by decide
  cases s with
  | addTable | flushTable | deleteTable => exact ⟨by simp [Statement.words], by decide⟩
  | addChain chain => cases chain <;> exact ⟨by simp [Statement.words], by decide⟩
  | addCounter name =>
    refine ⟨by simp [Statement.words], ?_⟩
    have hname : Nftables.IsWord name := h
    simp only [Statement.words, List.forall_mem_cons, htable, hname]
    decide
  | addQuota name bytes =>
    refine ⟨by simp [Statement.words], ?_⟩
    have hname : Nftables.IsWord name := h
    have hbytes := isWord_toString bytes.toInt
    simp only [Statement.words, List.forall_mem_cons, htable, hname, hbytes]
    decide
  | addRule chain interface protocol portStart portEnd counter quota =>
    obtain ⟨hinterface, -, -, -, hcounter, hquota⟩ := h
    refine ⟨by simp [Statement.words], ?_⟩
    have hports := isWord_portText portStart portEnd
    have hchain : Nftables.IsWord chain.name ∧ Nftables.IsWord chain.interfaceKeyword ∧
        Nftables.IsWord chain.portKeyword := by
      cases chain <;> decide
    have hprotocol : Nftables.IsWord protocol.name := by cases protocol <;> decide
    rw [Statement.words, List.forall_mem_append, List.forall_mem_append, List.forall_mem_append]
    refine ⟨⟨⟨?_, ?_⟩, ?_⟩, ?_⟩
    · simp only [List.forall_mem_cons, htable, hchain]
      decide
    · split
      · next hne =>
        have hname := isWord_of_matchesInterfacePattern (hinterface.resolve_left hne)
        have hquoted : Nftables.IsWord (quoted interface) :=
          isWord_append (isWord_append (by decide) hname) (by decide)
        simp [hchain, hquoted]
      · simp
    · simp only [List.forall_mem_cons, hprotocol, hchain, hports, hcounter]
      decide
    · cases quota with
      | none => simp [enforceWords]
      | some name =>
        have hname := hquota name rfl
        simp only [enforceWords, List.forall_mem_cons, hname]
        decide

/-! ### Policies -/

/-- What `parsePolicy` ensures of the fields the rules are made of. -/
structure Policy.Valid (p : Policy) : Prop where
  id : matchesPattern policyIDPattern p.id = true
  portStart : 1 ≤ p.portStart
  portEnd : p.portStart ≤ p.portEnd
  interfaceName : p.interfaceName = "" ∨ matchesInterfacePattern p.interfaceName = true

theorem le_of_parseInt {text field : String} {low high value : Int}
    (h : parseInt text field low high = .ok value) : low ≤ value := by
  rw [parseInt] at h
  split at h
  · cases h
  · split at h
    · cases h
    · next hbounds =>
      cases h
      omega

theorem parseKind_id {values : Dict String} {kind : String × Protocol × Direction × Mode}
    (h : parseKind values = .ok kind) : matchesPattern policyIDPattern kind.1 = true := by
  simp only [parseKind, bind, Except.bind, pure, Except.pure, throw, throwThe,
    MonadExceptOf.throw] at h
  split at h
  · cases h
  · next hid =>
    split at h <;> try cases h
    split at h <;> try cases h
    split at h <;> try cases h
    simpa using hid

theorem parsePorts_le {values : Dict String} {ports : Int × Int}
    (h : parsePorts values = .ok ports) : 1 ≤ ports.1 ∧ ports.1 ≤ ports.2 := by
  simp only [parsePorts, bind, Except.bind, pure, Except.pure, throw, throwThe,
    MonadExceptOf.throw] at h
  split at h
  · cases h
  · next start hstart =>
    split at h
    · next finish hfinish =>
      split at h
      · cases h
      · cases h
        exact ⟨le_of_parseInt hstart, le_of_parseInt hfinish⟩
    · cases h

/-- An accepted policy is valid. -/
theorem valid_of_parsePolicy {interfaceExists : String → Bool} {values : Dict String}
    {checkInterface : Bool} {p : Policy}
    (h : parsePolicy interfaceExists values checkInterface = .ok p) : p.Valid := by
  obtain ⟨quota, generation, hp⟩ := parsePolicy_ok h
  obtain ⟨hstart, hend⟩ := parsePorts_le hp.ports
  refine ⟨parseKind_id hp.kind, hstart, hend, ?_⟩
  have hname : p.interfaceName = values.get "interface_name" := by rw [hp.eq]
  rw [hname]
  by_contra hinvalid
  rw [not_or, Bool.not_eq_true] at hinvalid
  have hcheck : checkInterfaceName interfaceExists checkInterface (values.get "interface_name") =
      .error "interface name is invalid" := by
    rw [checkInterfaceName, if_pos hinvalid.1, if_pos hinvalid.2]
    rfl
  simp only [parsePolicy, bind, Except.bind, throw, throwThe, MonadExceptOf.throw, hcheck] at h
  split at h
  · cases h
  · repeat' split at h
    all_goals cases h

theorem exists_test_of_matchesPattern {pattern : List (Char → Bool)} {text : String}
    (h : matchesPattern pattern text = true) :
    ∀ c ∈ text.toList, ∃ test ∈ pattern, test c = true := by
  rw [matchesPattern, Bool.and_eq_true, beq_iff_eq, List.all_eq_true] at h
  obtain ⟨hlength, hall⟩ := h
  intro c hc
  obtain ⟨i, hi, rfl⟩ := List.getElem_of_mem hc
  have hi' : i < pattern.length := hlength ▸ hi
  refine ⟨pattern[i], List.getElem_mem hi', hall (pattern[i], text.toList[i]) ?_⟩
  rw [← List.getElem_zip (h := by simpa using ⟨hi', hi⟩)]
  exact List.getElem_mem _

theorem isWord_policyKey {id : String} (h : matchesPattern policyIDPattern id = true) :
    Nftables.IsWord (policyKey id) := by
  refine isWord_append (by decide) (isWord_iff.mpr fun c hc => ?_)
  rw [String.toList_ofList] at hc
  obtain ⟨test, htest, hpass⟩ := exists_test_of_matchesPattern h c (List.mem_filter.mp hc).1
  have hblank : ∀ test ∈ policyIDPattern, test ' ' = false ∧ test '\n' = false := by
    decide +kernel
  obtain ⟨hspace, hnewline⟩ := hblank test htest
  constructor <;> rintro rfl
  · exact absurd (hspace.symm.trans hpass) (by decide)
  · exact absurd (hnewline.symm.trans hpass) (by decide)

/-- Texts of one pattern that has its hyphens in fixed places differ elsewhere too. -/
theorem eq_of_filter_eq {pattern : List (Char → Bool)}
    (hpattern : ∀ test ∈ pattern, (∀ c, test c = true → c = '-') ∨ test '-' = false) :
    ∀ {text text' : List Char}, text.length = pattern.length → text'.length = pattern.length →
      (pattern.zip text).all (fun p => p.1 p.2) = true →
      (pattern.zip text').all (fun p => p.1 p.2) = true →
      text.filter (· ≠ '-') = text'.filter (· ≠ '-') → text = text' := by
  induction pattern with
  | nil =>
    intro text text' hlength hlength' _ _ _
    rw [List.length_eq_zero_iff.mp hlength, List.length_eq_zero_iff.mp hlength']
  | cons test pattern ih =>
    intro text text' hlength hlength' hall hall' hfilter
    obtain ⟨c, text, rfl⟩ := List.exists_cons_of_length_eq_add_one hlength
    obtain ⟨c', text', rfl⟩ := List.exists_cons_of_length_eq_add_one hlength'
    simp only [List.zip_cons_cons, List.all_cons, Bool.and_eq_true] at hall hall'
    have hrest := @ih (fun other hother => hpattern other (List.mem_cons_of_mem test hother))
      text text' (by simpa using hlength) (by simpa using hlength') hall.2 hall'.2
    obtain hhyphen | hother := hpattern test List.mem_cons_self
    · obtain rfl := hhyphen c hall.1
      obtain rfl := hhyphen c' hall'.1
      rw [List.filter_cons_of_neg (by simp), List.filter_cons_of_neg (by simp)] at hfilter
      rw [hrest hfilter]
    · have hc : c ≠ '-' := fun heq => by simp [heq, hother] at hall
      have hc' : c' ≠ '-' := fun heq => by simp [heq, hother] at hall'
      rw [List.filter_cons_of_pos (by simpa using hc), List.filter_cons_of_pos (by simpa using hc'),
        List.cons.injEq] at hfilter
      rw [hfilter.1, hrest hfilter.2]

/-- Distinct policies never share the name of a counter. -/
theorem policyKey_injective {id id' : String} (h : matchesPattern policyIDPattern id = true)
    (h' : matchesPattern policyIDPattern id' = true) (heq : policyKey id = policyKey id') :
    id = id' := by
  have hpattern : ∀ test ∈ policyIDPattern,
      (∀ c, test c = true → c = '-') ∨ test '-' = false := by
    intro test htest
    simp only [policyIDPattern, List.mem_append, List.mem_replicate, List.mem_singleton] at htest
    by_cases hhyphen : test = fun c => c == '-'
    · exact .inl fun c hc => eq_of_beq (by rwa [hhyphen] at hc)
    · simp only [hhyphen, or_false] at htest
      obtain (((((⟨-, rfl⟩ | ⟨-, rfl⟩) | rfl) | ⟨-, rfl⟩) | rfl) | ⟨-, rfl⟩) | ⟨-, rfl⟩ := htest
      all_goals exact .inr (by decide)
  rw [matchesPattern, Bool.and_eq_true, beq_iff_eq] at h h'
  have hfilter := String.ofList_injective ((String.append_right_inj "vg_").mp heq)
  exact String.toList_injective
    (eq_of_filter_eq hpattern h.1.symm h'.1.symm h.2 h'.2 hfilter)

/-! ### The statements of the policies -/

/-- The chain that counts a direction. -/
def Side.chain : Side → Chain
  | .rx => .ingress
  | .tx => .egress

def enforcedQuota (p : Policy) : Option String :=
  if p.mode = .enforcing then some (policyKey p.id ++ "_quota") else none

/-- The rules of a policy in one chain. -/
def policyRules (side : Side) (p : Policy) : List (List Nftables.Expression) :=
  if p.counts side then
    (protocols p.protocol).map fun protocol =>
      ruleExpressions side.chain p.interfaceName protocol p.portStart p.portEnd
        (counterName side p.id) (enforcedQuota p)
  else []

/-- The bytes a quota has left. -/
def remainingBytes (p : Policy) : Int64 :=
  let used := (p.lifetimeRX - p.periodStartRX) + (p.lifetimeTX - p.periodStartTX)
  if p.quotaBytes - used < 1 then 1 else p.quotaBytes - used

/-- The rule of a policy for one protocol in one chain. -/
def ruleStatement (p : Policy) (side : Side) (protocol : Protocol) : Statement :=
  .addRule side.chain p.interfaceName protocol p.portStart p.portEnd (counterName side p.id)
    (enforcedQuota p)

/-- A statement for each direction the policy counts. -/
def eachSide (p : Policy) (statement : Side → Statement) : List Statement :=
  ([.rx, .tx].filter p.counts).map statement

/-- A policy declares its counters and, if it enforces one, its quota, before its rules. -/
theorem policyStatements_eq (p : Policy) : policyStatements p =
    eachSide p (fun side => .addCounter (counterName side p.id)) ++
    (enforcedQuota p).toList.map (fun name => .addQuota name (remainingBytes p)) ++
    (protocols p.protocol).flatMap fun protocol =>
      eachSide p fun side => ruleStatement p side protocol := by
  rw [policyStatements, enforcedQuota, remainingBytes]
  cases hdirection : p.direction <;> cases hmode : p.mode <;>
    simp [eachSide, Policy.counts, hdirection, ruleStatement, counterName, Side.suffix,
      Side.chain, enforcedQuota, hmode]

/-- The statements that can come from a policy. -/
inductive FromPolicy (p : Policy) : Statement → Prop
  | counter (side : Side) : FromPolicy p (.addCounter (counterName side p.id))
  | quota (name : String) (h : enforcedQuota p = some name) :
      FromPolicy p (.addQuota name (remainingBytes p))
  | rule (side : Side) (hcounts : p.counts side = true) (protocol : Protocol)
      (hprotocol : protocol ∈ protocols p.protocol) : FromPolicy p (ruleStatement p side protocol)

theorem fromPolicy_of_mem {p : Policy} {s : Statement} (h : s ∈ policyStatements p) :
    FromPolicy p s := by
  rw [policyStatements_eq] at h
  simp only [List.mem_append, List.mem_flatMap, eachSide, List.mem_map] at h
  obtain (⟨side, -, rfl⟩ | ⟨name, hname, rfl⟩) | ⟨protocol, hprotocol, side, hside, rfl⟩ := h
  · exact .counter side
  · exact .quota name (Option.mem_toList.mp hname)
  · exact .rule side (List.mem_filter.mp hside).2 protocol hprotocol

theorem FromPolicy.readable {p : Policy} {s : Statement} (h : FromPolicy p s) (hp : p.Valid) :
    s.Readable := by
  have hkey := isWord_policyKey hp.id
  have hcounter : ∀ side : Side, Nftables.IsWord (counterName side p.id) := fun side =>
    isWord_append hkey (by cases side <;> decide)
  have hquota : ∀ name ∈ enforcedQuota p, Nftables.IsWord name := by
    intro name hname
    rw [enforcedQuota] at hname
    split at hname
    · obtain rfl := Option.some.inj hname
      exact isWord_append hkey (by decide)
    · cases hname
  cases h with
  | counter side => exact hcounter side
  | quota name h => exact hquota name h
  | rule side _ protocol hprotocol =>
    have hstart : 0 ≤ p.portStart := Int.le_trans (by decide) hp.portStart
    refine ⟨hp.interfaceName, ?_, hstart, hstart.trans hp.portEnd, hcounter side, hquota⟩
    rintro rfl
    cases hp : p.protocol <;> simp [hp, protocols] at hprotocol

theorem renderNFT_readable {current : State} (existing : Bool)
    (hvalid : ∀ p ∈ current.policies, p.Valid) :
    ∀ s ∈ renderNFT current existing, s.Readable := by
  intro s hs
  rw [renderNFT] at hs
  split at hs
  · cases existing with
    | true =>
      obtain rfl := List.mem_singleton.mp hs
      exact trivial
    | false => cases hs
  · obtain hs | hs := List.mem_append.mp hs
    · cases existing <;>
      · simp only [if_true, if_false, Bool.false_eq_true, List.mem_cons, List.not_mem_nil,
          or_false] at hs
        obtain rfl | rfl | rfl := hs <;> exact trivial
    · obtain ⟨p, hp, hs⟩ := List.mem_flatMap.mp hs
      have hmem := (List.perm_insertionSort _ current.policies).mem_iff.mp hp
      exact (fromPolicy_of_mem hs).readable (hvalid p hmem)

/-! ### The rules that nft reads -/

/-- What the statements of a policy say to nft. -/
def policyLines (p : Policy) : List Nftables.Line := (policyStatements p).map Statement.line

theorem chainsAt_policyLines (hook : Nftables.Hook) (p : Policy) :
    Nftables.chainsAt hook (policyLines p) = [] := by
  rw [Nftables.chainsAt, List.filterMap_eq_nil_iff]
  intro line hline
  obtain ⟨s, hs, rfl⟩ := List.mem_map.mp hline
  cases fromPolicy_of_mem hs <;> rfl

theorem rulesOf_declarations {chain : String} {statements : List Statement}
    (h : ∀ s ∈ statements, ∀ name expressions, s.line ≠ .rule name expressions) :
    Nftables.rulesOf chain (statements.map Statement.line) = [] := by
  rw [Nftables.rulesOf, List.filterMap_eq_nil_iff]
  intro line hline
  obtain ⟨s, hs, rfl⟩ := List.mem_map.mp hline
  split
  · next heq => exact absurd heq (h s hs _ _)
  · rfl

theorem rulesOf_policyLines (side : Side) (p : Policy) :
    Nftables.rulesOf side.chain.name (policyLines p) = policyRules side p := by
  have hrule : ∀ protocol, Nftables.rulesOf side.chain.name
      ((eachSide p fun side => ruleStatement p side protocol).map Statement.line) =
      if p.counts side then [ruleExpressions side.chain p.interfaceName protocol p.portStart
        p.portEnd (counterName side p.id) (enforcedQuota p)] else [] := by
    intro protocol
    rw [eachSide, List.filter_cons, List.filter_singleton]
    cases side <;> cases p.counts .rx <;> cases p.counts .tx <;> rfl
  rw [policyLines, policyStatements_eq, List.map_append, List.map_flatMap,
    Nftables.rulesOf_append, Nftables.rulesOf_flatMap, rulesOf_declarations ?_, List.nil_append,
    policyRules]
  · simp only [hrule]
    cases p.counts side with
    | true => exact List.map_eq_flatMap.symm
    | false => simp
  · intro s hs
    simp only [List.mem_append, eachSide, List.mem_map] at hs
    obtain ⟨side, -, rfl⟩ | ⟨name, -, rfl⟩ := hs <;> exact fun _ _ heq => by cases heq

/-! ### Packets -/

/-- The direction a packet counts in. -/
def packetSide (packet : Nftables.Packet) : Side :=
  match packet.hook with
  | .input => .rx
  | .output => .tx

/-- The port of this host. -/
def packetPort (packet : Nftables.Packet) : Nat :=
  match packet.hook with
  | .input => packet.destinationPort
  | .output => packet.sourcePort

/-- The packet falls in the protocol, the ports and the interface of a policy. -/
def Policy.covers (p : Policy) (packet : Nftables.Packet) : Prop :=
  (p.interfaceName = "" ∨ p.interfaceName = packet.interface) ∧
    (∃ protocol ∈ protocols p.protocol, protocol.transport = packet.transport) ∧
      p.portStart ≤ packetPort packet ∧ packetPort packet ≤ p.portEnd

instance (p : Policy) (packet : Nftables.Packet) : Decidable (p.covers packet) :=
  inferInstanceAs (Decidable (_ ∧ _ ∧ _ ∧ _))

/-- A rule does nothing to the packet. -/
def Silent (usedUp : String → Bool) (packet : Nftables.Packet)
    (rule : List Nftables.Expression) : Prop :=
  Nftables.runRule usedUp packet rule = ⟨[], false⟩

section Packet

variable {usedUp : String → Bool} {packet : Nftables.Packet} {p : Policy}

variable (usedUp packet) in
theorem runRule_enforce (quota : Option String) :
    (Nftables.runRule usedUp packet (enforceExpressions quota)).counted = [] := by
  cases quota with
  | none => rfl
  | some name =>
    rw [enforceExpressions, Nftables.runRule]
    split <;> rfl
    all_goals nofun

variable (usedUp packet) in
/-- The part of a rule that does not depend on the interface. -/
theorem runRule_ports (chain : Chain) (hchain : chain.nftHook = packet.hook) (protocol : Protocol)
    {portStart portEnd : Int} (hstart : 0 ≤ portStart) (hend : 0 ≤ portEnd) (counter : String)
    (quota : Option String) :
    let rule := [.l4proto protocol.transport, portExpression chain protocol portStart portEnd,
      .counter counter] ++ enforceExpressions quota
    if protocol.transport = packet.transport ∧ portStart ≤ packetPort packet ∧
        packetPort packet ≤ portEnd then
      (Nftables.runRule usedUp packet rule).counted = [counter]
    else Silent usedUp packet rule := by
  intro rule
  have hquota := runRule_enforce usedUp packet quota
  obtain ⟨hook, transport, sourcePort, destinationPort, interface⟩ := packet
  have hports : ∀ port : Nat, (portStart ≤ port ∧ port ≤ portEnd) ↔
      (portStart.toNat ≤ port ∧ port ≤ portEnd.toNat) := by
    intro port
    omega
  cases chain <;> cases hchain <;>
  · simp only [packetPort, hports]
    by_cases htransport : protocol.transport = transport
    · split
      · next hmatch =>
        simp [rule, Nftables.runRule, Nftables.Expression.accepts, portExpression, hmatch.2,
          htransport, hquota]
      · next hmatch =>
        have hout : ¬(_ ∧ _) := fun hrange => hmatch ⟨htransport, hrange⟩
        simp only [Silent, rule, Nftables.runRule, Nftables.Expression.accepts, portExpression,
          List.cons_append, htransport, true_and, hout, decide_true, decide_false, if_true,
          Bool.false_eq_true, if_false]
    · rw [if_neg fun h => htransport h.1]
      have hne : ¬transport = protocol.transport := fun h => htransport h.symm
      simp [Silent, rule, Nftables.runRule, Nftables.Expression.accepts, hne]

variable (usedUp packet) in
/-- What the rule of a policy for one protocol does. -/
theorem runRule_ruleExpressions (h : p.Valid) (protocol : Protocol) :
    let rule := ruleExpressions (packetSide packet).chain p.interfaceName protocol p.portStart
      p.portEnd (counterName (packetSide packet) p.id) (enforcedQuota p)
    if (p.interfaceName = "" ∨ p.interfaceName = packet.interface) ∧
        protocol.transport = packet.transport ∧ p.portStart ≤ packetPort packet ∧
          packetPort packet ≤ p.portEnd then
      (Nftables.runRule usedUp packet rule).counted = [counterName (packetSide packet) p.id]
    else Silent usedUp packet rule := by
  intro rule
  have hstart : 0 ≤ p.portStart := Int.le_trans (by decide) h.portStart
  have hchain : (packetSide packet).chain.nftHook = packet.hook := by
    obtain ⟨hook, -⟩ := packet
    cases hook <;> rfl
  have hports := runRule_ports usedUp packet (packetSide packet).chain hchain protocol hstart
    (hstart.trans h.portEnd) (counterName (packetSide packet) p.id) (enforcedQuota p)
  dsimp only at hports
  by_cases hany : p.interfaceName = ""
  · have hrule : rule = [.l4proto protocol.transport, portExpression (packetSide packet).chain
        protocol p.portStart p.portEnd, .counter (counterName (packetSide packet) p.id)] ++
          enforceExpressions (enforcedQuota p) := by
      simp [rule, ruleExpressions, hany]
    rw [hrule]
    simpa only [hany, true_or, true_and] using hports
  · have hrule : rule = interfaceExpression (packetSide packet).chain p.interfaceName ::
        ([.l4proto protocol.transport, portExpression (packetSide packet).chain protocol
          p.portStart p.portEnd, .counter (counterName (packetSide packet) p.id)] ++
          enforceExpressions (enforcedQuota p)) := by
      simp [rule, ruleExpressions, hany]
    have hstep : ∀ rest, Nftables.runRule usedUp packet
        (interfaceExpression (packetSide packet).chain p.interfaceName :: rest) =
        if p.interfaceName = packet.interface then Nftables.runRule usedUp packet rest
        else ⟨[], false⟩ := by
      intro rest
      obtain ⟨hook, transport, sourcePort, destinationPort, interface⟩ := packet
      cases hook <;> simp [packetSide, Side.chain, interfaceExpression, Nftables.runRule,
        Nftables.Expression.accepts, eq_comm]
    rw [hrule, Silent, hstep]
    by_cases hname : p.interfaceName = packet.interface
    · simpa only [Silent, hname, or_true, true_and, if_true] using hports
    · simp [hany, hname]

theorem policyRules_silent (h : p.Valid)
    (hout : ¬(p.counts (packetSide packet) = true ∧ p.covers packet)) :
    ∀ rule ∈ policyRules (packetSide packet) p, Silent usedUp packet rule := by
  intro rule hrule
  rw [policyRules] at hrule
  split at hrule
  · next hcounts =>
    obtain ⟨protocol, hprotocol, rfl⟩ := List.mem_map.mp hrule
    have hverdict := runRule_ruleExpressions usedUp packet h protocol
    dsimp only at hverdict
    rwa [if_neg] at hverdict
    rintro ⟨hinterface, htransport, hports⟩
    exact hout ⟨hcounts, hinterface, ⟨protocol, hprotocol, htransport⟩, hports⟩
  · cases hrule

variable (usedUp) in
/-- Of the rules of a policy that covers a packet exactly one matches. -/
theorem policyRules_split (h : p.Valid) (hcounts : p.counts (packetSide packet) = true)
    (hcovers : p.covers packet) :
    ∃ before rule after, policyRules (packetSide packet) p = before ++ rule :: after ∧
      (∀ rule ∈ before, Silent usedUp packet rule) ∧
      (Nftables.runRule usedUp packet rule).counted = [counterName (packetSide packet) p.id] ∧
      ∀ rule ∈ after, Silent usedUp packet rule := by
  obtain ⟨hinterface, ⟨protocol, hprotocol, htransport⟩, hports⟩ := hcovers
  have hverdict := fun protocol =>
    runRule_ruleExpressions usedUp packet h protocol
  dsimp only at hverdict
  have hmatch := hverdict protocol
  rw [if_pos ⟨hinterface, htransport, hports⟩] at hmatch
  have hother : ∀ other : Protocol, other.transport ≠ packet.transport →
      Silent usedUp packet (ruleExpressions (packetSide packet).chain p.interfaceName other
        p.portStart p.portEnd (counterName (packetSide packet) p.id) (enforcedQuota p)) := by
    intro other hne
    have hsilent := hverdict other
    rwa [if_neg fun h => hne h.2.1] at hsilent
  rw [policyRules, if_pos hcounts]
  cases hp : p.protocol with
  | tcp | udp =>
    rw [hp] at hprotocol
    obtain rfl := List.mem_singleton.mp hprotocol
    exact ⟨[], _, [], rfl, by simp, hmatch, by simp⟩
  | both =>
    rw [hp] at hprotocol
    simp only [protocols, List.mem_cons, List.not_mem_nil, or_false] at hprotocol
    obtain rfl | rfl := hprotocol
    · refine ⟨[], _, [_], rfl, by simp, hmatch, fun rule hrule => ?_⟩
      obtain rfl := List.mem_singleton.mp hrule
      exact hother .udp (by rw [← htransport]; decide)
    · refine ⟨[_], _, [], rfl, fun rule hrule => ?_, hmatch, by simp⟩
      obtain rfl := List.mem_singleton.mp hrule
      exact hother .tcp (by rw [← htransport]; decide)

/-- Policies that cover the same packet overlap. -/
theorem overlaps_of_covers {q : Policy} (h : p.covers packet) (hq : q.covers packet) :
    overlaps p q = true := by
  obtain ⟨-, ⟨protocol, hprotocol, htransport⟩, hstart, hend⟩ := h
  obtain ⟨-, ⟨protocol', hprotocol', htransport'⟩, hstart', hend'⟩ := hq
  have hsame : p.protocol = .both ∨ q.protocol = .both ∨ p.protocol = q.protocol := by
    have heq := htransport.trans htransport'.symm
    cases hp : p.protocol <;> cases hq : q.protocol <;> simp [hp, hq, protocols] at * <;>
      subst hprotocol hprotocol' <;> simp [Protocol.transport] at heq
  refine decide_eq_true ⟨hsame, hstart.trans hend', hstart'.trans hend⟩

/-- Of separate policies only the one that covers a packet counts it. -/
theorem runRules_of_covers {policies : List Policy} (hvalid : ∀ p ∈ policies, p.Valid)
    (hnodup : policies.Nodup)
    (hclear : ∀ p ∈ policies, ∀ q ∈ policies, p ≠ q → overlaps p q = false)
    (hp : p ∈ policies) (hcounts : p.counts (packetSide packet) = true)
    (hcovers : p.covers packet) :
    Nftables.runRules usedUp packet (policies.flatMap (policyRules (packetSide packet))) =
      [counterName (packetSide packet) p.id] := by
  obtain ⟨earlier, later, rfl⟩ := List.append_of_mem hp
  obtain ⟨before, rule, after, hrules, hbefore, hrule, hafter⟩ :=
    policyRules_split usedUp (hvalid p hp) hcounts hcovers
  have hothers : ∀ q ∈ earlier ++ p :: later, q ≠ p →
      ∀ rule ∈ policyRules (packetSide packet) q, Silent usedUp packet rule := by
    intro q hq hne
    refine policyRules_silent (hvalid q hq) fun hcovered => ?_
    have hoverlap := overlaps_of_covers hcovered.2 hcovers
    rw [hclear q hq p hp hne] at hoverlap
    cases hoverlap
  rw [List.nodup_append, List.nodup_cons] at hnodup
  have hearlier : ∀ rule ∈ earlier.flatMap (policyRules (packetSide packet)),
      Silent usedUp packet rule := by
    intro rule hrule
    obtain ⟨q, hq, hrule⟩ := List.mem_flatMap.mp hrule
    exact hothers q (List.mem_append_left _ hq)
      (fun heq => hnodup.2.2 q hq p List.mem_cons_self heq) rule hrule
  have hlater : ∀ rule ∈ later.flatMap (policyRules (packetSide packet)),
      Silent usedUp packet rule := by
    intro rule hrule
    obtain ⟨q, hq, hrule⟩ := List.mem_flatMap.mp hrule
    exact hothers q (List.mem_append_right _ (List.mem_cons_of_mem p hq))
      (fun heq => hnodup.2.1.1 (heq ▸ hq)) rule hrule
  rw [List.flatMap_append, List.flatMap_cons, hrules, List.append_assoc, List.cons_append,
    ← List.append_assoc]
  exact Nftables.runRules_single (List.forall_mem_append.mpr ⟨hearlier, hbefore⟩) hrule
    (List.forall_mem_append.mpr ⟨hafter, hlater⟩)

theorem runRules_of_none {policies : List Policy} (hvalid : ∀ p ∈ policies, p.Valid)
    (hnone : ∀ p ∈ policies, ¬(p.counts (packetSide packet) = true ∧ p.covers packet)) :
    Nftables.runRules usedUp packet (policies.flatMap (policyRules (packetSide packet))) = [] := by
  refine Nftables.runRules_eq_nil fun rule hrule => ?_
  obtain ⟨p, hp, hrule⟩ := List.mem_flatMap.mp hrule
  exact policyRules_silent (hvalid p hp) (hnone p hp) rule hrule

/-- The rules a packet meets are those of the policies for its direction. -/
theorem counted_renderNFT {current : State} (existing : Bool) (hne : current.policies ≠ []) :
    Nftables.counted usedUp ((renderNFT current existing).map Statement.line) packet =
      Nftables.runRules usedUp packet
        ((current.policies.insertionSort fun left right => left.id ≤ right.id).flatMap
          (policyRules (packetSide packet))) := by
  have hlines : (renderNFT current existing).map Statement.line =
      [.table, .chain "ingress" .input, .chain "egress" .output] ++
        (current.policies.insertionSort fun left right => left.id ≤ right.id).flatMap
          policyLines := by
    rw [renderNFT, if_neg hne, List.map_append, List.map_flatMap]
    cases existing <;> rfl
  have hnone : ∀ policies : List Policy,
      (policies.flatMap fun p => Nftables.chainsAt packet.hook (policyLines p)) = [] :=
    fun policies => List.flatMap_eq_nil_iff.mpr fun p _ => chainsAt_policyLines packet.hook p
  rw [hlines, Nftables.counted, Nftables.chainsAt_append, Nftables.chainsAt_flatMap, hnone,
    List.append_nil]
  obtain ⟨hook, transport, sourcePort, destinationPort, interface⟩ := packet
  have hchain : Nftables.chainsAt hook
      [.table, .chain "ingress" .input, .chain "egress" .output] =
        [(packetSide ⟨hook, transport, sourcePort, destinationPort, interface⟩).chain.name] := by
    cases hook <;> rfl
  rw [hchain, List.flatMap_singleton, Nftables.rulesOf_append, Nftables.rulesOf_flatMap]
  simp only [rulesOf_policyLines]
  rfl

end Packet

theorem mem_ruleExpressions {chain : Chain} {interface : String} {protocol : Protocol}
    {portStart portEnd : Int} {counter : String} {quota : Option String} (name : String) :
    (.counter name ∈ ruleExpressions chain interface protocol portStart portEnd counter quota →
      name = counter) ∧
    (.quota name ∈ ruleExpressions chain interface protocol portStart portEnd counter quota →
      quota = some name) := by
  by_cases hany : interface = "" <;> cases chain <;> cases quota <;>
    simp [ruleExpressions, hany, interfaceExpression, portExpression, enforceExpressions, eq_comm]

/-- The counters and quotas a rule names are declared. -/
theorem declared_of_rule {current : State} {existing : Bool} {chain : String}
    {expressions : List Nftables.Expression}
    (h : .rule chain expressions ∈ (renderNFT current existing).map Statement.line) :
    ∀ name,
      (.counter name ∈ expressions →
        .counter name ∈ (renderNFT current existing).map Statement.line) ∧
      (.quota name ∈ expressions →
        .quota name ∈ (renderNFT current existing).map Statement.line) := by
  by_cases hne : current.policies = []
  · rw [renderNFT, if_pos hne] at h
    cases existing <;> simp [Statement.line] at h
  have hrender : renderNFT current existing =
      [if existing then .flushTable else .addTable, .addChain .ingress, .addChain .egress] ++
        (current.policies.insertionSort fun left right => left.id ≤ right.id).flatMap
          policyStatements := if_neg hne
  have hdeclares : ∀ p ∈ current.policies.insertionSort fun left right => left.id ≤ right.id,
      ∀ s ∈ policyStatements p, s.line ∈ (renderNFT current existing).map Statement.line := by
    intro p hp s hs
    rw [hrender]
    exact List.mem_map_of_mem
      (List.mem_append_right _ (List.mem_flatMap.mpr ⟨p, hp, hs⟩))
  obtain ⟨s, hs, hline⟩ := List.mem_map.mp h
  rw [hrender] at hs
  obtain hs | hs := List.mem_append.mp hs
  · cases existing <;> simp at hs <;> obtain rfl | rfl | rfl := hs <;> cases hline
  obtain ⟨p, hp, hs⟩ := List.mem_flatMap.mp hs
  cases fromPolicy_of_mem hs with
  | counter side => cases hline
  | quota name h => cases hline
  | rule side hcounts protocol hprotocol =>
    obtain ⟨-, rfl⟩ := Nftables.Line.rule.inj hline
    have hcounter : Statement.addCounter (counterName side p.id) ∈ policyStatements p := by
      rw [policyStatements_eq]
      refine List.mem_append_left _ (List.mem_append_left _ (List.mem_map.mpr ⟨side, ?_, rfl⟩))
      exact List.mem_filter.mpr ⟨by cases side <;> decide, hcounts⟩
    have hquota : ∀ name, enforcedQuota p = some name →
        Statement.addQuota name (remainingBytes p) ∈ policyStatements p := by
      intro name hname
      rw [policyStatements_eq]
      refine List.mem_append_left _ (List.mem_append_right _ ?_)
      exact List.mem_map.mpr ⟨name, Option.mem_toList.mpr hname, rfl⟩
    refine fun name => ⟨fun hname => ?_, fun hname => ?_⟩
    · obtain rfl := (mem_ruleExpressions name).1 hname
      exact hdeclares p hp _ hcounter
    · exact hdeclares p hp _ (hquota name ((mem_ruleExpressions name).2 hname))

theorem counterName_inj {p q : Policy} {side side' : Side} (hp : p.Valid) (hq : q.Valid)
    (h : counterName side p.id = counterName side' q.id) : side = side' ∧ p.id = q.id := by
  have hlists := congrArg String.toList h
  rw [counterName, counterName, String.toList_append, String.toList_append] at hlists
  have hsuffix : side = side' := by
    have hlast := congrArg (fun text => (text.reverse.take 2)) hlists
    cases side <;> cases side' <;> simp [Side.suffix] at hlast ⊢
  subst hsuffix
  exact ⟨rfl, policyKey_injective hp.id hq.id
    (String.toList_injective (List.append_cancel_right hlists))⟩

/-- nft reads the text that is rendered for separate policies as rules that count exactly the
packets in the scope of each policy, in its direction, and count them once, whatever the quotas
have left; and every counter and quota a rule names is declared in the same transaction. -/
theorem rules_count_scope (current : State) (existing : Bool)
    (hvalid : ∀ p ∈ current.policies, p.Valid) (hids : (current.policies.map (·.id)).Nodup)
    (hclear : current.policies.Pairwise fun p q => overlaps p q = false) :
    ∃ lines,
      Nftables.readTransaction tableName (nftText (renderNFT current existing)) = some lines ∧
      (∀ usedUp packet, ∀ p ∈ current.policies, ∀ side,
        (Nftables.counted usedUp lines packet).count (counterName side p.id) =
          if p.counts side ∧ side = packetSide packet ∧ p.covers packet then 1 else 0) ∧
      ∀ chain expressions, .rule chain expressions ∈ lines → ∀ name,
        (.counter name ∈ expressions → .counter name ∈ lines) ∧
        (.quota name ∈ expressions → .quota name ∈ lines) := by
  refine ⟨(renderNFT current existing).map Statement.line, ?_, fun usedUp packet p hp side => ?_,
    fun chain expressions h => declared_of_rule h⟩
  · exact Nftables.readTransaction_written
      (fun s hs => words_isWord (renderNFT_readable existing hvalid s hs))
      fun s hs => readLine_words (renderNFT_readable existing hvalid s hs)
  · have hperm := List.perm_insertionSort (fun left right : Policy => left.id ≤ right.id)
      current.policies
    have hsorted : ∀ q ∈ current.policies.insertionSort fun left right => left.id ≤ right.id,
        q ∈ current.policies := fun q hq => hperm.mem_iff.mp hq
    have hsymm : Std.Symm fun p q : Policy => overlaps p q = false :=
      ⟨fun p q h => (overlaps_comm q p).trans h⟩
    have hseparate : ∀ p ∈ current.policies, ∀ q ∈ current.policies, p ≠ q →
        overlaps p q = false := fun p hp q hq hne => hclear.forall hp hq hne
    rw [counted_renderNFT existing (List.ne_nil_of_mem hp)]
    by_cases hsome : ∃ q ∈ current.policies, q.counts (packetSide packet) = true ∧ q.covers packet
    · obtain ⟨q, hq, hcounts, hcovers⟩ := hsome
      rw [runRules_of_covers (fun q hq => hvalid q (hsorted q hq))
        (hperm.nodup_iff.mpr hids.of_map)
        (fun p hp q hq => hseparate p (hsorted p hp) q (hsorted q hq)) (hperm.mem_iff.mpr hq)
        hcounts hcovers]
      by_cases heq : counterName side p.id = counterName (packetSide packet) q.id
      · obtain ⟨rfl, hid⟩ := counterName_inj (hvalid p hp) (hvalid q hq) heq
        obtain rfl : p = q := List.inj_on_of_nodup_map hids hp hq hid
        rw [if_pos ⟨hcounts, rfl, hcovers⟩, List.count_singleton_self]
      · rw [if_neg, List.count_singleton, beq_eq_false_iff_ne.mpr (Ne.symm heq)]
        · rfl
        · rintro ⟨-, rfl, hcovered⟩
          have hoverlap := overlaps_of_covers hcovered hcovers
          rw [hseparate p hp q hq fun h => heq (h ▸ rfl)] at hoverlap
          cases hoverlap
    · rw [runRules_of_none (fun q hq => hvalid q (hsorted q hq))
        (fun q hq hcovered => hsome ⟨q, hsorted q hq, hcovered⟩), List.count_nil, if_neg]
      rintro ⟨hcounts, rfl, hcovered⟩
      exact hsome ⟨p, hp, hcounts, hcovered⟩

/-- A policy of both protocols and directions on one port, and one of a range on an interface. -/
def webPolicies : State where
  policies := [
    { id := firstPolicyID, protocol := .both, direction := .both, portStart := 443, portEnd := 443
      interfaceName := "", mode := .monitorOnly, quotaBytes := 0, egressRateBPS := 0
      generation := 1, lifetimeRX := 0, lifetimeTX := 0, lastKernelRX := 0, lastKernelTX := 0
      periodStartRX := 0, periodStartTX := 0, periodStarted := 0, lastResetAt := 0
      nextResetAt := "", resetPolicy := "\x7b\x7d" },
    { id := secondPolicyID, protocol := .udp, direction := .rx, portStart := 1000, portEnd := 1002
      interfaceName := "eth0", mode := .enforcing, quotaBytes := 4096, egressRateBPS := 0
      generation := 1, lifetimeRX := 0, lifetimeTX := 0, lastKernelRX := 0, lastKernelTX := 0
      periodStartRX := 0, periodStartTX := 0, periodStarted := 0, lastResetAt := 0
      nextResetAt := "", resetPolicy := "\x7b\x7d" }]
  completedNonce := .empty

theorem rules_count_scope_web :
    ∃ lines, Nftables.readTransaction tableName (nftText (renderNFT webPolicies false)) =
        some lines ∧
      ∀ usedUp packet, ∀ p ∈ webPolicies.policies, ∀ side,
        (Nftables.counted usedUp lines packet).count (counterName side p.id) =
          if p.counts side ∧ side = packetSide packet ∧ p.covers packet then 1 else 0 := by
  obtain ⟨lines, hread, hcount, -⟩ := rules_count_scope webPolicies false
    (fun p hp => by
      simp only [webPolicies, List.mem_cons, List.not_mem_nil, or_false] at hp
      obtain rfl | rfl := hp
      · exact ⟨by decide +kernel, by decide, by decide, .inl rfl⟩
      · exact ⟨by decide +kernel, by decide, by decide, .inr (by decide +kernel)⟩)
    (by decide +kernel) (by decide +kernel)
  exact ⟨lines, hread, hcount⟩

end VpsGuardian.NetHelper
