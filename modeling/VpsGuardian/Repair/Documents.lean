import VpsGuardian.Lib.Schema
import VpsGuardian.Repair.Runbooks

/-!
Runbook documents: their schema, and how they are loaded (`runbooks.py`).
-/

namespace VpsGuardian.Repair

open Lib Controller
open Regex (exactly sequence choice plus upTo textStart dollar)

def isLower (c : Char) : Bool := 'a' ≤ c && c ≤ 'z'

def isDigit (c : Char) : Bool := '0' ≤ c && c ≤ '9'

/-- `^[a-z][a-z0-9_]{2,79}$`. -/
def namePattern : Regex :=
  let letter : Regex := .char fun c => isLower c || isDigit c || c == '_'
  sequence [textStart, .char isLower, letter, letter, upTo 77 letter, dollar]

/-- `^[1-9][0-9]*(s|m|h)$`. -/
def cooldownPattern : Regex := sequence [textStart, .char fun c => isDigit c && c != '0',
  .star true (.char isDigit), .group 1 (choice [exactly "s", exactly "m", exactly "h"]), dollar]

/-- The variables of the schema. -/
def schemaVariables : List String := ["service", "container", "systemd_unit", "config_path",
  "health_url", "recovery_point", "restore_target", "cache_path", "backup_path"]

/-- A character, or a variable in braces after the sign. -/
def parameterPiece : Regex := .alt (.char (· != '$'))
  (sequence [exactly "$\x7b", choice (schemaVariables.map exactly), exactly "\x7d"])

def parameterPattern : Regex := sequence [textStart, plus parameterPiece, dollar]

def runbookActions : List String := registeredActions ++ approvalOnlyActions

def parametersSchema : Schema :=
  .object [] [] (.string none (some parameterPattern) (some 1024)) (some 16)

def actionSchema : Schema := .object ["type", "parameters"]
  [("type", .string (some runbookActions) none none), ("parameters", parametersSchema)] .never none

/-- `#/$defs/actions`. -/
def actionsSchema : Schema := .array 0 actionSchema

def conditionTypes : List String := ["agent_online", "changed_within", "fault_type",
  "service_level2_enabled", "verified_recovery_point"]

def conditionSchema : Schema := .object ["type"]
  [("type", .string (some conditionTypes) none none), ("value", .scalar)] .never none

def runbookSchema : Schema := .object
  ["name", "version", "risk_level", "conditions", "prechecks", "actions", "postchecks",
    "rollback_on_failure", "cooldown", "max_attempts"]
  [("name", .string none (some namePattern) none),
    ("version", .integer (some 1) none none),
    ("risk_level", .integer none none (some [1, 2, 3])),
    ("conditions", .array 1 conditionSchema),
    ("prechecks", actionsSchema),
    ("actions", actionsSchema),
    ("postchecks", actionsSchema),
    ("rollback_on_failure", .boolean),
    ("cooldown", .string none (some cooldownPattern) none),
    ("max_attempts", .integer (some 1) (some 3) none)]
  .never none

def sections : List String := ["prechecks", "actions", "postchecks"]

/-- `document[section]`. -/
def actionsIn (document : Yaml) (name : String) : List Yaml :=
  ((document.entry? name).map Yaml.items).getD []

/-- `action["type"]`. -/
def actionType (action : Yaml) : String :=
  match action.entry? "type" with
  | some (.string s) => s
  | _ => ""

/-- `action["parameters"]`. -/
def actionParameters (action : Yaml) : Dict String :=
  match action.entry? "parameters" with
  | some (.mapping entries) => .ofList <| entries.filterMap fun entry =>
      match entry.2 with
      | .string s => some (entry.1, s)
      | _ => none
  | _ => .empty

/-- The actions of all sections. -/
def plannedActions (document : Yaml) : List PlannedAction :=
  sections.flatMap fun name =>
    (actionsIn document name).map fun action => ⟨actionType action, actionParameters action⟩

def riskLevel (document : Yaml) : Int :=
  ((document.entry? "risk_level").bind Yaml.integer?).getD 0

/-- `load_runbook`, from the loaded document on. The texts of the validator's errors are its
own. -/
def loadRunbook (messages : Yaml → String) (document : Yaml) : Except String Yaml := do
  raiseIf (¬runbookSchema.accepts document) ("invalid runbook: " ++ messages document)
  raiseIf (riskLevel document < 3 ∧
    (plannedActions document).any fun action => approvalOnlyActions.contains action.type)
    "approval-only actions require risk level 3"
  return document

/-! ### What a loaded runbook looks like -/

theorem loadRunbook_eq_ok {messages : Yaml → String} {document runbook : Yaml} :
    loadRunbook messages document = .ok runbook ↔ runbookSchema.accepts document = true ∧
      ¬(riskLevel document < 3 ∧ (plannedActions document).any
        (fun action => approvalOnlyActions.contains action.type) = true) ∧
      document = runbook := by
  unfold loadRunbook
  rw [raiseIf_bind_eq_ok, raiseIf_bind_eq_ok, not_not]
  exact and_congr_right fun _ => and_congr_right fun _ =>
    ⟨fun h => Except.ok.inj h, fun h => congrArg Except.ok h⟩

theorem accepts_actionsIn {document : Yaml} (h : runbookSchema.accepts document = true)
    {name : String} (hname : name ∈ sections) {action : Yaml}
    (haction : action ∈ actionsIn document name) : actionSchema.accepts action = true := by
  have hkeys : ∀ name ∈ sections, runbookSchema.accepts document = true →
      ∃ item, document.entry? name = some item ∧ actionsSchema.accepts item = true := by
    intro name hname hdocument
    simp only [sections, List.mem_cons, List.not_mem_nil, or_false] at hname
    obtain rfl | rfl | rfl := hname
    · exact Schema.entry?_of_accepts hdocument (by decide) rfl
    · exact Schema.entry?_of_accepts hdocument (by decide) rfl
    · exact Schema.entry?_of_accepts hdocument (by decide) rfl
  obtain ⟨item, hitem, hactions⟩ := hkeys name hname h
  obtain ⟨values, rfl, hvalues⟩ := Schema.accepts_array hactions
  rw [actionsIn, hitem] at haction
  exact hvalues action haction

/-- A parameter of a loaded runbook is a text of the schema's pattern. -/
theorem search_of_mem_parameters {document : Yaml} (h : runbookSchema.accepts document = true)
    {planned : PlannedAction} (hplanned : planned ∈ plannedActions document) {key value : String}
    (hentry : (key, value) ∈ planned.parameters.entries) :
    parameterPattern.search value = true := by
  obtain ⟨name, hname, hmem⟩ := List.mem_flatMap.mp hplanned
  obtain ⟨action, haction, rfl⟩ := List.mem_map.mp hmem
  obtain ⟨item, hitem, hparameters⟩ := Schema.entry?_of_accepts
    (accepts_actionsIn h hname haction) (List.mem_cons_of_mem _ List.mem_cons_self) rfl
  obtain ⟨entries, rfl, -, hentries⟩ := Schema.accepts_object hparameters
  rw [actionParameters, hitem] at hentry
  obtain ⟨⟨k, v⟩, hmem, hfound⟩ := List.mem_filterMap.mp (Dict.mem_of_mem_entries_ofList hentry)
  obtain ⟨s, rfl, hpattern⟩ := Schema.accepts_string (hentries k v hmem)
  obtain ⟨rfl, rfl⟩ : k = key ∧ s = value := by simpa using hfound
  exact hpattern _ rfl

end VpsGuardian.Repair
