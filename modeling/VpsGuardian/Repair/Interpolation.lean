import VpsGuardian.Repair.Documents

/-!
Which parameters of a runbook are fully resolved.

The schema lets a parameter contain variables anywhere, nine of them; the
interpolation replaces a parameter that is one of eight variables and nothing
else. So a loaded runbook is resolved by every context exactly when each of its
parameters is of that form or has no variable at all.
-/

namespace VpsGuardian.Repair

open Lib
open Regex (Match Consumes matchAt exactly sequence choice)

/-- A variable as it stands in a parameter. -/
def placeholder (variableName : String) : String := "$\x7b" ++ variableName ++ "\x7d"

/-- The variables of the schema, wherever they stand. -/
def placeholderPattern : Regex :=
  sequence [exactly "$\x7b", .group 1 (choice (schemaVariables.map exactly)), exactly "\x7d"]

/-- Each variable replaced by its value in the context. -/
def substitute (context : Dict String) (value : List Char) : List Char :=
  placeholderPattern.sub (fun m => (context.get (.ofList (m.groupText 1))).toList) value

/-- A value for each variable of the schema, which is not empty and has no sign in it. -/
def Complete (context : Dict String) : Prop :=
  ∀ name ∈ schemaVariables, ∃ value, context.get? name = some value ∧ value ≠ "" ∧
    '$' ∉ value.toList

/-- The interpolation succeeds, every variable is replaced and none is left. -/
def Resolved (context parameters : Dict String) : Prop :=
  ∃ output, interpolateParameters parameters context = .ok output ∧
    ∀ key value, (key, value) ∈ parameters.entries → ∃ resolved,
      output.get? key = some resolved ∧ resolved.toList = substitute context value.toList ∧
        ∀ name ∈ schemaVariables, ¬(placeholder name).toList <:+: resolved.toList

/-- No sign of a variable, or one of the interpolation's variables and nothing else. -/
def Interpolable (value : String) : Prop :=
  '$' ∉ value.toList ∨ ∃ name ∈ contextVariables, value = placeholder name

/-! ### What the interpolation makes of the parameters -/

/-- What becomes of one parameter. -/
def interpolated (context : Dict String) (value : String) : String :=
  match contextVariable? value with
  | some name => context.get name
  | none => value

def interpolateEntry (context output : Dict String) (entry : String × String) :
    Except String (Dict String) := do
  raiseIf (interpolated context entry.2 == "")
    ("runbook parameter " ++ entry.1 ++ " resolved to an empty value")
  return output.insert entry.1 (interpolated context entry.2)

theorem interpolateParameters_eq (parameters context : Dict String) :
    interpolateParameters parameters context =
      parameters.entries.foldlM (interpolateEntry context) .empty :=
  rfl

theorem interpolateEntry_eq_ok {context output result : Dict String} {entry : String × String} :
    interpolateEntry context output entry = .ok result ↔ interpolated context entry.2 ≠ "" ∧
      result = output.insert entry.1 (interpolated context entry.2) := by
  unfold interpolateEntry
  rw [raiseIf_bind_eq_ok]
  constructor
  · rintro ⟨hne, h⟩
    exact ⟨by simpa using hne, (Except.ok.inj h).symm⟩
  · rintro ⟨hne, rfl⟩
    exact ⟨by simpa using hne, rfl⟩

theorem foldlM_interpolateEntry {context : Dict String} {entries : List (String × String)}
    {output result : Dict String} :
    entries.foldlM (interpolateEntry context) output = .ok result ↔
      (∀ entry ∈ entries, interpolated context entry.2 ≠ "") ∧
      result = (entries.map fun entry => (entry.1, interpolated context entry.2)).foldl
        (fun m entry => m.insert entry.1 entry.2) output := by
  induction entries generalizing output with
  | nil => exact ⟨fun h => ⟨nofun, (Except.ok.inj h).symm⟩, fun h => congrArg Except.ok h.2.symm⟩
  | cons entry entries ih =>
    rw [List.foldlM_cons, bind_eq_ok]
    constructor
    · rintro ⟨middle, hentry, hrest⟩
      obtain ⟨hne, rfl⟩ := interpolateEntry_eq_ok.mp hentry
      obtain ⟨hall, rfl⟩ := ih.mp hrest
      exact ⟨List.forall_mem_cons.mpr ⟨hne, hall⟩, rfl⟩
    · rintro ⟨hall, rfl⟩
      obtain ⟨hne, hall⟩ := List.forall_mem_cons.mp hall
      exact ⟨_, interpolateEntry_eq_ok.mpr ⟨hne, rfl⟩, ih.mpr ⟨hall, rfl⟩⟩

/-- The interpolation fails on an empty value only, and maps the values. -/
theorem interpolateParameters_eq_ok {parameters context output : Dict String} :
    interpolateParameters parameters context = .ok output ↔
      (∀ entry ∈ parameters.entries, interpolated context entry.2 ≠ "") ∧
      output = .ofList (parameters.entries.map fun entry =>
        (entry.1, interpolated context entry.2)) := by
  rw [interpolateParameters_eq]
  exact foldlM_interpolateEntry

theorem get?_interpolated {parameters context output : Dict String} {key value : String}
    (h : interpolateParameters parameters context = .ok output)
    (hentry : (key, value) ∈ parameters.entries) :
    output.get? key = some (interpolated context value) := by
  obtain ⟨-, rfl⟩ := interpolateParameters_eq_ok.mp h
  apply Dict.get?_ofList_of_mem
  · simpa [List.map_map, Function.comp_def] using parameters.nodup
  · exact List.mem_map.mpr ⟨_, hentry, rfl⟩

theorem contextVariable?_eq_some {value name : String} (h : contextVariable? value = some name) :
    name ∈ contextVariables ∧ value = placeholder name := by
  have hfind : contextVariables.find? (fun name => value == placeholder name) = some name := h
  exact ⟨List.mem_of_find?_eq_some hfind, by simpa using List.find?_some hfind⟩

theorem contextVariable?_placeholder :
    ∀ name ∈ contextVariables, contextVariable? (placeholder name) = some name := by
  decide

theorem contextVariables_subset : contextVariables ⊆ schemaVariables := by
  decide

/-! ### Variables in a parameter -/

theorem toList_placeholder (name : String) :
    (placeholder name).toList = '$' :: '\x7b' :: name.toList ++ ['\x7d'] := by
  simp [placeholder]

/-- A word of the variable patterns. -/
theorem consumes_braces {r : Regex} {w : List Char}
    (hr : ∀ u, Consumes r u → ∃ name ∈ schemaVariables, u = name.toList)
    (h : Consumes (sequence [exactly "$\x7b", r, exactly "\x7d"]) w) :
    ∃ name ∈ schemaVariables, w = (placeholder name).toList := by
  obtain ⟨sign, _, rfl, hsign, u, _, rfl, hu, close, _, rfl, hclose, rfl⟩ := h
  obtain rfl := Regex.consumes_exactly.mp hsign
  obtain rfl := Regex.consumes_exactly.mp hclose
  obtain ⟨name, hname, rfl⟩ := hr u hu
  exact ⟨name, hname, by rw [toList_placeholder]; simp⟩

theorem consumes_variable {u : List Char}
    (h : Consumes (choice (schemaVariables.map exactly)) u) :
    ∃ name ∈ schemaVariables, u = name.toList := by
  obtain ⟨r, hr, hru⟩ := Regex.consumes_choice h
  obtain ⟨name, hname, rfl⟩ := List.mem_map.mp hr
  exact ⟨name, hname, Regex.consumes_exactly.mp hru⟩

/-- What the schema allows in a parameter: with a sign there is a variable. -/
theorem exists_placeholder {value : String} (h : parameterPattern.search value = true)
    (hsign : '$' ∈ value.toList) :
    ∃ name ∈ schemaVariables, (placeholder name).toList <:+: value.toList := by
  obtain ⟨w, hw, hvalue⟩ := Regex.consumes_of_search h
  obtain ⟨words, rfl, hwords⟩ := Regex.consumes_plus hw
  have hinfix : words.flatten <:+: value.toList ∧ '$' ∈ words.flatten := by
    obtain heq | heq := hvalue
    · rw [heq] at hsign ⊢
      exact ⟨List.infix_refl _, hsign⟩
    · rw [heq] at hsign ⊢
      exact ⟨List.infix_append' [] _ _, by simpa using hsign⟩
  obtain ⟨word, hmem, hword⟩ := List.mem_flatten.mp hinfix.2
  obtain ⟨c, hc, rfl⟩ | hpiece := hwords word hmem
  · obtain rfl := List.mem_singleton.mp hword
    simp at hc
  · obtain ⟨name, hname, rfl⟩ := consumes_braces (fun _ => consumes_variable) hpiece
    exact ⟨name, hname, (List.infix_of_mem_flatten hmem).trans hinfix.1⟩

theorem not_infix_placeholder {name : String} {text : List Char} (h : '$' ∉ text) :
    ¬(placeholder name).toList <:+: text := by
  intro hinfix
  exact h (List.IsInfix.subset hinfix (by simp [toList_placeholder]))

theorem consumes_placeholderPattern {w : List Char} (h : Consumes placeholderPattern w) :
    ∃ name ∈ schemaVariables, w = (placeholder name).toList :=
  consumes_braces (r := .group 1 (choice (schemaVariables.map exactly)))
    (fun u hu => @consumes_variable u hu) h

theorem substitute_of_not_mem (context : Dict String) {value : List Char} (h : '$' ∉ value) :
    substitute context value = value := by
  apply Regex.subFrom_of_none
  intro start after hvalue
  cases hm : matchAt placeholderPattern (start.reverse ++ []) after with
  | none => rfl
  | some m =>
    obtain ⟨w, hw, rfl⟩ := Regex.matchAt_over hm
    obtain ⟨name, -, rfl⟩ := consumes_placeholderPattern hw
    exact absurd (by rw [hvalue, toList_placeholder]; simp) h

theorem matchAt_placeholder : ∀ name ∈ schemaVariables,
    matchAt placeholderPattern [] (placeholder name).toList =
      some ⟨(placeholder name).toList.reverse, [], [(1, name.toList)]⟩ := by
  decide

theorem substitute_placeholder (context : Dict String) {name : String}
    (h : name ∈ schemaVariables) :
    substitute context (placeholder name).toList = (context.get name).toList := by
  have hmatch := matchAt_placeholder name h
  have hnone (before : List Char) : matchAt placeholderPattern before [] = none := by
    cases hm : matchAt placeholderPattern before [] with
    | none => rfl
    | some m =>
      obtain ⟨w, hw, hword⟩ := Regex.matchAt_over hm
      obtain ⟨other, -, rfl⟩ := consumes_placeholderPattern hw
      simp [toList_placeholder] at hword
  obtain ⟨c, text, htext⟩ : ∃ c text, (placeholder name).toList = c :: text :=
    ⟨_, _, toList_placeholder name⟩
  rw [htext] at hmatch
  have hsub := @Regex.subFrom_of_some _
    (fun m => (context.get (.ofList (m.groupText 1))).toList) _ _ text [] _
    (by simpa using hmatch) rfl
  rw [List.append_nil] at hsub
  rw [substitute, Regex.sub, htext, hsub, Regex.subFrom, hnone, List.append_nil]
  simp [Match.groupText]

/-! ### Resolved parameters -/

theorem resolved_of_interpolable {context : Dict String} (hcontext : Complete context)
    {parameters : Dict String} (hnonempty : ∀ entry ∈ parameters.entries, entry.2 ≠ "")
    (h : ∀ entry ∈ parameters.entries, Interpolable entry.2) : Resolved context parameters := by
  have hvalue : ∀ entry ∈ parameters.entries, interpolated context entry.2 ≠ "" ∧
      (interpolated context entry.2).toList = substitute context entry.2.toList ∧
      '$' ∉ (interpolated context entry.2).toList := by
    intro entry hentry
    obtain hplain | ⟨name, hname, heq⟩ := h entry hentry
    · have hsame : interpolated context entry.2 = entry.2 := by
        unfold interpolated
        cases hv : contextVariable? entry.2 with
        | none => rfl
        | some name =>
          obtain ⟨-, heq⟩ := contextVariable?_eq_some hv
          exact absurd (by rw [heq, toList_placeholder]; simp) hplain
      rw [hsame, substitute_of_not_mem context hplain]
      exact ⟨hnonempty entry hentry, rfl, hplain⟩
    · have hmem := contextVariables_subset hname
      obtain ⟨value, hget, hne, hsign⟩ := hcontext name hmem
      have hsame : interpolated context entry.2 = value := by
        rw [interpolated, heq, contextVariable?_placeholder name hname]
        simp [Dict.get, hget]
      rw [hsame, heq, substitute_placeholder context hmem]
      exact ⟨hne, by simp [Dict.get, hget], hsign⟩
  have hok := interpolateParameters_eq_ok.mpr
    ⟨fun entry hentry => (hvalue entry hentry).1, rfl⟩
  refine ⟨_, hok, fun key value hentry => ⟨_, get?_interpolated hok hentry, ?_, ?_⟩⟩
  · exact (hvalue _ hentry).2.1
  · exact fun name _ => not_infix_placeholder (hvalue _ hentry).2.2

theorem interpolable_of_resolved {context parameters : Dict String}
    (hpattern : ∀ entry ∈ parameters.entries, parameterPattern.search entry.2 = true)
    (h : Resolved context parameters) : ∀ entry ∈ parameters.entries, Interpolable entry.2 := by
  obtain ⟨output, hok, hresolved⟩ := h
  rintro ⟨key, value⟩ hentry
  by_contra hnot
  obtain ⟨hsign, hvariable⟩ : '$' ∈ value.toList ∧
      ∀ name ∈ contextVariables, value ≠ placeholder name := by
    simpa [Interpolable] using hnot
  -- such a value is returned as it is, with the variable that the schema demands
  have hnone : contextVariable? value = none := by
    cases hv : contextVariable? value with
    | none => rfl
    | some name =>
      obtain ⟨hname, heq⟩ := contextVariable?_eq_some hv
      exact absurd heq (hvariable name hname)
  obtain ⟨resolved, hget, -, hleft⟩ := hresolved key value hentry
  obtain rfl : interpolated context value = resolved := by
    rw [get?_interpolated hok hentry] at hget
    exact Option.some.inj hget
  obtain ⟨name, hname, hinfix⟩ := exists_placeholder (hpattern _ hentry) hsign
  refine hleft name hname ?_
  rw [interpolated, hnone]
  exact hinfix

theorem ne_empty_of_search {value : String} (h : parameterPattern.search value = true) :
    value ≠ "" := by
  rintro rfl
  exact absurd h (by decide)

/-- A complete context resolves all parameters of a loaded runbook exactly when each of them has
no variable or is one that the interpolation knows. -/
theorem resolved_iff {messages : Yaml → String} {document runbook : Yaml}
    (hload : loadRunbook messages document = .ok runbook) {context : Dict String}
    (hcontext : Complete context) :
    (∀ action ∈ plannedActions runbook, Resolved context action.parameters) ↔
      ∀ action ∈ plannedActions runbook, ∀ entry ∈ action.parameters.entries,
        Interpolable entry.2 := by
  obtain ⟨haccepts, -, rfl⟩ := loadRunbook_eq_ok.mp hload
  have hpattern {action : PlannedAction} (haction : action ∈ plannedActions document) :
      ∀ entry ∈ action.parameters.entries, parameterPattern.search entry.2 = true :=
    fun entry hentry => search_of_mem_parameters haccepts haction hentry
  constructor
  · intro h action haction
    exact interpolable_of_resolved (hpattern haction) (h action haction)
  · intro h action haction
    refine resolved_of_interpolable hcontext ?_ (h action haction)
    exact fun entry hentry => ne_empty_of_search (hpattern haction entry hentry)

/-! ### A parameter with a path -/

/-- A document with one precheck, which has one parameter. -/
def oneParameter (action key value : String) : Yaml := .mapping [
  ("name", .string "backup_check"),
  ("version", .int 1),
  ("risk_level", .int 1),
  ("conditions", .sequence [.mapping [("type", .string "agent_online"), ("value", .bool true)]]),
  ("prechecks", .sequence [.mapping [("type", .string action),
    ("parameters", .mapping [(key, .string value)])]]),
  ("actions", .sequence []),
  ("postchecks", .sequence []),
  ("rollback_on_failure", .bool false),
  ("cooldown", .string "10m"),
  ("max_attempts", .int 1)]

def fullContext : Dict String := .ofList (schemaVariables.map fun name => (name, "/srv/" ++ name))

theorem complete_fullContext : Complete fullContext := by
  have hall : ∀ name ∈ schemaVariables, fullContext.get? name = some ("/srv/" ++ name) ∧
      "/srv/" ++ name ≠ "" ∧ '$' ∉ ("/srv/" ++ name).toList := by
    decide
  exact fun name hname => ⟨_, hall name hname⟩

def unitRunbook : Yaml := oneParameter "restart_systemd" "unit" (placeholder "systemd_unit")

theorem resolved_iff_unit : (∀ action ∈ plannedActions unitRunbook,
      Resolved fullContext action.parameters) ↔
    ∀ action ∈ plannedActions unitRunbook, ∀ entry ∈ action.parameters.entries,
      Interpolable entry.2 :=
  @resolved_iff (fun _ => "") _ _
    (loadRunbook_eq_ok.mpr ⟨by decide +kernel, by decide +kernel, rfl⟩) _ complete_fullContext

def pathRunbook : Yaml := oneParameter "restic_backup" "path" (placeholder "backup_path")

/-- A variable of the schema stays in the parameters. -/
theorem pathRunbook_not_resolved : loadRunbook (fun _ => "") pathRunbook = .ok pathRunbook ∧
    Complete fullContext ∧
    ¬∀ action ∈ plannedActions pathRunbook, Resolved fullContext action.parameters := by
  have hactions : plannedActions pathRunbook =
      [⟨"restic_backup", .ofList [("path", placeholder "backup_path")]⟩] := by rfl
  refine ⟨loadRunbook_eq_ok.mpr ⟨by decide +kernel, by decide +kernel, rfl⟩,
    complete_fullContext, fun h => ?_⟩
  rw [hactions] at h
  obtain hplain | ⟨name, hname, heq⟩ := interpolable_of_resolved
    (by decide +kernel) (h _ List.mem_cons_self) ("path", placeholder "backup_path") (by decide)
  · exact absurd hplain (by decide)
  · have hother : ∀ name ∈ contextVariables, placeholder "backup_path" ≠ placeholder name := by
      decide
    exact hother name hname heq

end VpsGuardian.Repair
