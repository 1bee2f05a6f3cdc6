import VpsGuardian.Lib.Checks
import VpsGuardian.Probes.Http

/-!
When the two evaluations of an HTTP check come to the same verdict.

They agree on the text a response must contain and, for a definition that is
accepted, on the size limit. They differ on an empty list of statuses, on
statuses that are not numbers, on the JSON expectations, which the Agent does
not have, and on configurations that only the Controller rejects.
-/

namespace VpsGuardian.Probes

open Lib

/-! ### Numbers on the two sides -/

theorem float64_of_lt {n : Nat} (h : n < 2 ^ 53) : NetHelper.float64 n = n := by
  have hlog : n.log2 - 52 = 0 := by
    rcases Nat.eq_zero_or_pos n with rfl | hpos
    · rfl
    · have := (Nat.log2_lt hpos.ne').mpr h
      omega
  unfold NetHelper.float64
  simp [hlog, Nat.mod_one]

theorem le_float64 {n : Nat} (h : 2 ^ 53 ≤ n) : 2 ^ 52 ≤ NetHelper.float64 n := by
  have hunit : 2 ^ (n.log2 - 52) ≤ n := by
    refine (Nat.pow_le_pow_right (by decide) (Nat.sub_le _ _)).trans (Nat.log2_self_le ?_)
    omega
  have hsplit := Nat.div_add_mod' n (2 ^ (n.log2 - 52))
  have hrest := Nat.mod_lt n (Nat.two_pow_pos (n.log2 - 52))
  have hwhole : n < 2 * (n / 2 ^ (n.log2 - 52) * 2 ^ (n.log2 - 52)) + 1 := by
    have hquotient : 0 < n / 2 ^ (n.log2 - 52) := Nat.div_pos hunit (Nat.two_pow_pos _)
    have := Nat.le_mul_of_pos_left (2 ^ (n.log2 - 52)) hquotient
    omega
  unfold NetHelper.float64
  dsimp only
  split_ifs
  · omega
  · rw [Nat.succ_mul]
    omega

/-- A small number is decoded as itself, and no other number is decoded as it. -/
theorem floatInt_int {n m : Int} (hm : 0 ≤ m) (hlt : m < 2 ^ 52) :
    floatInt (.int n) = some m ↔ n = m := by
  rw [floatInt, Option.some_inj]
  rcases Nat.lt_or_ge n.natAbs (2 ^ 53) with hsmall | hlarge
  · rw [float64_of_lt hsmall, Int.sign_mul_natAbs, goInt, if_pos (by omega)]
  · have hfloat := le_float64 hlarge
    have hvalue : n.sign * NetHelper.float64 n.natAbs = NetHelper.float64 n.natAbs ∨
        n.sign * NetHelper.float64 n.natAbs = -NetHelper.float64 n.natAbs := by
      rcases lt_or_gt_of_ne (show n ≠ 0 by omega) with hneg | hpos
      · rw [Int.sign_eq_neg_one_of_neg hneg]
        simp
      · rw [Int.sign_eq_one_of_pos hpos]
        simp
    unfold goInt
    split_ifs <;> omega

theorem truncate_intCast (n : Int) : truncate n = n := by
  simp [truncate]

/-- A conversion gives a small number from that number only. -/
theorem goInt_eq {n m : Int} (hm : 0 ≤ m) (hlt : m < 2 ^ 52) : goInt n = m ↔ n = m := by
  unfold goInt
  split_ifs <;> omega

/-! ### Success, test by test -/

/-- The response has the text, or none is asked for. -/
def contentFound (expected : String) (response : Response) : Bool :=
  expected = "" ∨ occursIn expected response.body

/-- The body has the JSON values that are expected. -/
def JsonMatches (loads : String → Except String Value)
    (expected : Option (List (String × Value))) (body : String) : Prop :=
  expected.getD [] = [] ∨ ∃ document, loads body = .ok document ∧
    ∀ member ∈ expected.getD [], ∃ actual, lookupJson document member.1 = some actual ∧
      actual.equal member.2 = true

theorem forM_eq_ok {ε α : Type} {f : α → Except ε Unit} {items : List α} :
    items.forM f = .ok () ↔ ∀ item ∈ items, f item = .ok () := by
  induction items with
  | nil => simp [pure, Except.pure]
  | cons item items ih =>
    have hcons : (item :: items).forM f = f item >>= fun _ => items.forM f := rfl
    rw [hcons, bind_eq_ok, List.forall_mem_cons, ← ih]
    constructor
    · rintro ⟨_, hitem, hitems⟩
      exact ⟨hitem, hitems⟩
    · rintro ⟨hitem, hitems⟩
      exact ⟨(), hitem, hitems⟩

theorem checkJson_eq_ok {loads : String → Except String Value}
    {expected : Option (List (String × Value))} {body : String} :
    checkJson loads expected body = .ok () ↔ JsonMatches loads expected body := by
  unfold checkJson JsonMatches
  cases expected.getD [] with
  | nil => simp [pure, Except.pure]
  | cons member members =>
    rw [bind_eq_ok, or_iff_right (List.cons_ne_nil member members)]
    refine exists_congr fun document => and_congr_right fun _ => ?_
    rw [forM_eq_ok]
    refine forall₂_congr fun member _ => ?_
    cases hlookup : lookupJson document member.1 with
    | none => simp [hlookup, throw, throwThe, MonadExceptOf.throw]
    | some actual =>
      cases hequal : actual.equal member.2 <;>
        simp [hlookup, hequal, throw, throwThe, MonadExceptOf.throw, pure, Except.pure]

theorem isOk_iff {ε : Type} {m : Except ε Unit} : m.isOk = true ↔ m = .ok () := by
  cases m with
  | ok u => simp [Except.isOk, Except.toBool]
  | error e => simp [Except.isOk, Except.toBool]

theorem contentFound_iff {expected : String} {response : Response} :
    ¬(expected ≠ "" ∧ occursIn expected response.body = false) ↔
      contentFound expected response = true := by
  simp only [contentFound, decide_eq_true_eq, not_and_or, not_not, Bool.not_eq_false, ne_eq]

theorem httpProbe_isOk (loads : String → Except String Value) (definition : ProbeDefinition)
    (response : Response) :
    (httpProbe loads definition response).isOk = true ↔
      response.body.utf8ByteSize ≤ definition.maxResponseBytes ∧
        (response.statusCode : Int) ∈ definition.expectedStatuses ∧
          contentFound (definition.expectedContains.getD "") response = true ∧
            JsonMatches loads definition.expectedJson response.body := by
  rw [isOk_iff]
  unfold httpProbe
  simp only [bind, Except.bind, throw, throwThe, MonadExceptOf.throw]
  rw [ite_error_eq_ok, ite_error_eq_ok, ite_error_eq_ok, contentFound_iff, checkJson_eq_ok,
    not_lt, not_not]

theorem remoteHTTPCheck_isOk (configuration : Configuration) (response : Response) :
    (remoteHTTPCheck configuration response).isOk = true ↔
      (1024 ≤ remoteInt configuration "max_response_bytes" 65536 ∧
        remoteInt configuration "max_response_bytes" 65536 ≤ 1048576) ∧
      response.body.utf8ByteSize ≤ remoteInt configuration "max_response_bytes" 65536 ∧
        statusOK configuration response.statusCode = true ∧
          contentFound (remoteString configuration "expected_contains") response = true := by
  rw [isOk_iff]
  unfold remoteHTTPCheck
  simp only [bind, Except.bind, pure, Except.pure, throw, throwThe, MonadExceptOf.throw]
  rw [ite_error_eq_ok, ite_error_eq_ok, ite_error_eq_ok, ite_error_eq_ok, contentFound_iff,
    not_or, not_lt, not_lt, not_lt, Bool.not_eq_false, and_iff_left rfl]

/-! ### What the two read from one configuration -/

/-- The list names the code as a number. -/
def NamesStatus (items : List Value) (statusCode : Nat) : Prop :=
  .int statusCode ∈ items ∨ .float statusCode ∈ items

section

variable {pydantic : Pydantic} {intOfText : String → Option Int} {configuration : Configuration}
  {definition : ProbeDefinition}

/-- The Controller converted every status of the list. -/
theorem expectedStatuses_list {items : List Value} {statuses : List Int}
    (h : expectedStatuses pydantic (some (.list items)) = some statuses) :
    List.Forall₂ (fun item status => pydantic.int item = some status) items statuses := by
  change items.mapM pydantic.int = some statuses at h
  induction items generalizing statuses with
  | nil =>
    cases h
    exact .nil
  | cons item items ih =>
    rw [List.mapM_cons] at h
    obtain ⟨status, hstatus, h⟩ := Option.bind_eq_some_iff.mp h
    obtain ⟨rest, hrest, h⟩ := Option.bind_eq_some_iff.mp h
    cases h
    exact .cons hstatus (ih hrest)

/-- For a value the Controller converted, the Agent accepts only the status code as a number. -/
theorem floatInt_statusCode (hlax : pydantic.Lax) {item : Value} {n : Int}
    (hn : pydantic.int item = some n) {statusCode : Nat} (hdigits : statusCode < 1000) :
    floatInt item = some (statusCode : Int) ↔
      item = .int statusCode ∨ item = .float statusCode := by
  cases item with
  | int m =>
    rw [floatInt_int (by omega) (by omega)]
    simp
  | float x =>
    obtain rfl : x = n := hlax.float x n hn
    rw [floatInt, Option.some_inj, truncate_intCast, goInt_eq (by omega) (by omega)]
    simp only [reduceCtorEq, false_or, Value.float.injEq]
    exact_mod_cast Iff.rfl
  | null | bool _ | nan | infinity _ | str _ | list _ | dict _ => simp [floatInt]

/-- The Controller converts such a number to the status code. -/
theorem int_statusCode (hlax : pydantic.Lax) {item : Value} {n : Int}
    (hn : pydantic.int item = some n) {statusCode : Nat}
    (h : item = .int statusCode ∨ item = .float statusCode) : n = statusCode := by
  rcases h with rfl | rfl
  · exact Option.some_inj.mp (hn.symm.trans (hlax.int _))
  · have hx := hlax.float _ n hn
    exact_mod_cast hx.symm

theorem floatInt_any {items : List Value} {statuses : List Int} (hlax : pydantic.Lax)
    (hstatuses : List.Forall₂ (fun item status => pydantic.int item = some status) items statuses)
    {statusCode : Nat} (hdigits : statusCode < 1000) :
    (items.any fun item => floatInt item == some (statusCode : Int)) = true ↔
      NamesStatus items statusCode := by
  unfold NamesStatus
  induction hstatuses with
  | nil => simp
  | cons hn _ ih =>
    rw [List.any_cons, Bool.or_eq_true, beq_iff_eq, floatInt_statusCode hlax hn hdigits, ih,
      List.mem_cons, List.mem_cons, eq_comm, @eq_comm _ _ (Value.float _)]
    tauto

/-- A status that the list names as a number is among those the Controller expects. -/
theorem NamesStatus.mem {items : List Value} {statuses : List Int} {statusCode : Nat}
    (hlax : pydantic.Lax)
    (hstatuses : List.Forall₂ (fun item status => pydantic.int item = some status) items statuses)
    (h : NamesStatus items statusCode) : (statusCode : Int) ∈ statuses := by
  obtain ⟨item, hitem, hnumber⟩ : ∃ item ∈ items,
      item = .int statusCode ∨ item = .float statusCode := by
    rcases h with h | h
    · exact ⟨_, h, .inl rfl⟩
    · exact ⟨_, h, .inr rfl⟩
  clear h
  induction hstatuses with
  | nil => cases hitem
  | cons hn _ ih =>
    rcases List.mem_cons.mp hitem with rfl | hitem
    · exact List.mem_cons.mpr (.inl (int_statusCode hlax hn hnumber).symm)
    · exact List.mem_cons_of_mem _ (ih hitem)

/-- The parts of a definition, each read from its own key. -/
theorem probeDefinitionFromCheck_eq_some
    (h : probeDefinitionFromCheck pydantic intOfText configuration = some definition) :
    maxResponseBytes intOfText (configuration.get? "max_response_bytes") =
        some definition.maxResponseBytes ∧
      expectedStatuses pydantic (configuration.get? "expected_statuses") =
        some definition.expectedStatuses ∧
      expectedContains (configuration.get? "expected_contains") =
        some definition.expectedContains ∧
      expectedJson (configuration.get? "expected_json") = some definition.expectedJson := by
  obtain ⟨limit, hlimit, h⟩ := Option.bind_eq_some_iff.mp h
  obtain ⟨statuses, hstatuses, h⟩ := Option.bind_eq_some_iff.mp h
  obtain ⟨contains, hcontains, h⟩ := Option.bind_eq_some_iff.mp h
  obtain ⟨json, hjson, h⟩ := Option.bind_eq_some_iff.mp h
  split_ifs at h
  cases h
  exact ⟨hlimit, hstatuses, hcontains, hjson⟩

/-- The Agent never finds the limit of an accepted configuration invalid. -/
theorem remoteInt_maxResponseBytes {limit : Int}
    (h : maxResponseBytes intOfText (configuration.get? "max_response_bytes") = some limit) :
    1024 ≤ remoteInt configuration "max_response_bytes" 65536 ∧
      remoteInt configuration "max_response_bytes" 65536 ≤ 1048576 := by
  obtain ⟨n, hn, h⟩ := Option.bind_eq_some_iff.mp h
  split_ifs at h with hrange
  cases h
  unfold remoteInt
  cases hvalue : configuration.get? "max_response_bytes" with
  | none => simp
  | some value =>
    rw [hvalue, Option.getD_some] at hn
    rw [Option.bind_some]
    cases value with
    | int m =>
      cases hn
      rw [(floatInt_int (by omega) (by omega)).mpr rfl]
      exact hrange
    | float x =>
      cases hn
      rw [floatInt, (goInt_eq (by omega) (by omega)).mpr rfl]
      exact hrange
    | str s => simp [floatInt]
    | null | bool _ | nan | infinity _ | list _ | dict _ => simp [floatInt]

theorem remoteString_expectedContains {contains : Option String}
    (h : expectedContains (configuration.get? "expected_contains") = some contains) :
    remoteString configuration "expected_contains" = contains.getD "" := by
  unfold remoteString
  cases hvalue : configuration.get? "expected_contains" with
  | none =>
    rw [hvalue] at h
    cases h
    rfl
  | some value =>
    rw [hvalue] at h
    cases value with
    | null =>
      cases h
      rfl
    | str s =>
      rw [expectedContains] at h
      split_ifs at h
      cases h
      rfl
    | bool _ | int _ | float _ | nan | infinity _ | list _ | dict _ => cases h

end

/-! ### The verdicts -/

section

variable (pydantic : Pydantic) (intOfText : String → Option Int)
  (loads : String → Except String Value) (configuration : Configuration) (response : Response)

/-- A check without a definition does not succeed. -/
def controllerVerdict : Bool :=
  match probeDefinitionFromCheck pydantic intOfText configuration with
  | none => false
  | some definition => (httpProbe loads definition response).isOk

def agentVerdict : Bool := (remoteHTTPCheck configuration response).isOk

/-- The body is within the size limit of either side. -/
def WithinLimit : Prop :=
  (∀ definition, probeDefinitionFromCheck pydantic intOfText configuration = some definition →
    response.body.utf8ByteSize ≤ definition.maxResponseBytes) ∧
  response.body.utf8ByteSize ≤ remoteInt configuration "max_response_bytes" 65536

/-- The condition on the status and the JSON values where the Controller accepts the
configuration: the Agent asks for 200 if the list is empty, it looks only at the numbers of the
list, and it has no JSON expectations. -/
def SameTests (definition : ProbeDefinition) : Prop :=
  match configuration.get? "expected_statuses" with
  | some (.list []) => response.statusCode ≠ 200
  | some (.list items) =>
      (NamesStatus items response.statusCode ∧
          JsonMatches loads definition.expectedJson response.body) ∨
        (response.statusCode : Int) ∉ definition.expectedStatuses ∨
          ¬NamesStatus items response.statusCode ∧
            ¬JsonMatches loads definition.expectedJson response.body
  | _ => response.statusCode = 200 → JsonMatches loads definition.expectedJson response.body

/-- The text is missing, so that both fail; or the other tests come to the same; or the
Controller has rejected the configuration and the Agent fails as well. -/
def SameHttpVerdict : Prop :=
  contentFound (remoteString configuration "expected_contains") response = false ∨
    match probeDefinitionFromCheck pydantic intOfText configuration with
    | none =>
        remoteInt configuration "max_response_bytes" 65536 < 1024 ∨
          1048576 < remoteInt configuration "max_response_bytes" 65536 ∨
            statusOK configuration response.statusCode = false
    | some definition => SameTests loads configuration response definition

end

section

variable {pydantic : Pydantic} {intOfText : String → Option Int}
  {loads : String → Except String Value} {configuration : Configuration} {response : Response}
  {definition : ProbeDefinition}

/-- Behind the tests on which the two agree, the statuses and the JSON values are left. -/
theorem sameTests_iff (loads : String → Except String Value) (response : Response)
    (hlax : pydantic.Lax)
    (h : expectedStatuses pydantic (configuration.get? "expected_statuses") =
      some definition.expectedStatuses) :
    (((response.statusCode : Int) ∈ definition.expectedStatuses ∧
        JsonMatches loads definition.expectedJson response.body) ↔
      statusOK configuration response.statusCode = true) ↔
      SameTests loads configuration response definition := by
  unfold SameTests statusOK
  generalize definition.expectedStatuses = statuses at h ⊢
  cases hvalue : configuration.get? "expected_statuses" with
  | none =>
    rw [hvalue] at h
    cases h
    have hcode : (response.statusCode : Int) ∈ [200] ↔ response.statusCode = 200 := by
      rw [List.mem_singleton]
      exact_mod_cast Iff.rfl
    dsimp only
    rw [hcode, beq_iff_eq]
    tauto
  | some value =>
    rw [hvalue] at h
    cases value with
    | list items =>
      have hstatuses := expectedStatuses_list h
      have hany := floatInt_any hlax hstatuses response.threeDigits
      have hmem : NamesStatus items response.statusCode →
          (response.statusCode : Int) ∈ statuses := NamesStatus.mem hlax hstatuses
      cases items with
      | nil =>
        cases hstatuses
        simp
      | cons item items =>
        dsimp only
        rw [hany]
        by_cases hnames : NamesStatus (item :: items) response.statusCode
        · simp only [hnames, hmem hnames, true_and, iff_true, not_true, false_and, or_false]
        · simp only [hnames, iff_false, false_and, false_or, not_and_or, not_false_eq_true,
            true_and]
    | null | bool _ | int _ | float _ | nan | infinity _ | str _ | dict _ => cases h

/-- The two verdicts on a response within the size limit are the same exactly under the
condition. -/
theorem http_verdicts_agree_iff (hlax : pydantic.Lax)
    (hwithin : WithinLimit pydantic intOfText configuration response) :
    controllerVerdict pydantic intOfText loads configuration response =
        agentVerdict configuration response ↔
      SameHttpVerdict pydantic intOfText loads configuration response := by
  obtain ⟨hcontroller, hagent⟩ := hwithin
  unfold controllerVerdict agentVerdict SameHttpVerdict
  rw [Bool.eq_iff_iff, remoteHTTPCheck_isOk]
  cases hdefinition : probeDefinitionFromCheck pydantic intOfText configuration with
  | none =>
    dsimp only
    rw [← not_le, ← not_le, ← Bool.not_eq_true, ← Bool.not_eq_true]
    tauto
  | some definition =>
    obtain ⟨hlimit, hstatuses, hcontains, -⟩ := probeDefinitionFromCheck_eq_some hdefinition
    have htests := sameTests_iff loads response hlax hstatuses
    have hsize := hcontroller definition hdefinition
    have hrange := remoteInt_maxResponseBytes hlimit
    dsimp only
    rw [httpProbe_isOk, ← remoteString_expectedContains hcontains, ← htests,
      ← Bool.not_eq_true]
    tauto

end

/-! ### A check with an empty list of statuses -/

/-- The documented conversion of numbers. -/
def documentedInt : Value → Option Int
  | .bool b => some (if b then 1 else 0)
  | .int n => some n
  | .float x => if x.den = 1 then some x.num else none
  | _ => none

def documentedPydantic : Pydantic := ⟨documentedInt, fun _ => true⟩

theorem documentedPydantic_lax : documentedPydantic.Lax where
  int _ := rfl
  float x n h := by
    change (if x.den = 1 then some x.num else none) = some n at h
    split_ifs at h with hden
    cases h
    exact ((Rat.den_eq_one_iff x).mp hden).symm

def emptyStatuses : Configuration :=
  ⟨[("target", .str "https://example.com"), ("expected_statuses", .list [])], by decide⟩

def loadsNull (text : String) : Except String Value :=
  if text = "null" then .ok .null else .error "unexpected document"

theorem withinLimit_emptyStatuses :
    WithinLimit documentedPydantic String.toInt? emptyStatuses ⟨200, "null", by decide⟩ := by
  constructor
  · intro definition hdefinition
    have hlimit := (probeDefinitionFromCheck_eq_some hdefinition).1
    have hvalue : maxResponseBytes String.toInt? (emptyStatuses.get? "max_response_bytes") =
        some 65536 := by decide
    have heq : 65536 = definition.maxResponseBytes := Option.some_inj.mp (hvalue.symm.trans hlimit)
    rw [← heq]
    decide
  · decide

theorem http_verdicts_agree_emptyStatuses :
    controllerVerdict documentedPydantic String.toInt? loadsNull emptyStatuses
        ⟨200, "null", by decide⟩ = agentVerdict emptyStatuses ⟨200, "null", by decide⟩ ↔
      SameHttpVerdict documentedPydantic String.toInt? loadsNull emptyStatuses
        ⟨200, "null", by decide⟩ :=
  http_verdicts_agree_iff documentedPydantic_lax withinLimit_emptyStatuses

/-- The Controller accepts no status of an empty list, and the Agent accepts 200. -/
theorem http_verdicts_differ :
    documentedPydantic.Lax ∧
      WithinLimit documentedPydantic String.toInt? emptyStatuses ⟨200, "null", by decide⟩ ∧
      controllerVerdict documentedPydantic String.toInt? loadsNull emptyStatuses
        ⟨200, "null", by decide⟩ = false ∧
      agentVerdict emptyStatuses ⟨200, "null", by decide⟩ = true :=
  ⟨documentedPydantic_lax, withinLimit_emptyStatuses, by decide, by decide⟩

end VpsGuardian.Probes
