import VpsGuardian.Repair.Dispatch

/-!
How many repairs are attempted, and when.

The attempts of an incident with its runbook are read in the order of their
creation. Dry runs come first, at most the last attempt is open, and a new
attempt is made only when the last one is closed.
-/

namespace VpsGuardian.Repair

open Lib Controller

/-- The attempts of an incident with a runbook, in the order of their creation. -/
def ownAttempts (attempts : List RepairAttempt) (incidentID action : String) :
    List RepairAttempt :=
  attempts.filter fun attempt => attempt.incidentID == incidentID && attempt.action == action

/-- The attempts that are not dry runs. -/
def real (attempts : List RepairAttempt) : List RepairAttempt :=
  attempts.filter fun attempt => !attempt.dryRun

theorem mem_real {attempts : List RepairAttempt} {attempt : RepairAttempt} :
    attempt ∈ real attempts ↔ attempt ∈ attempts ∧ attempt.dryRun = false := by
  simp [real]

/-- The attempts of one incident with its runbook, at a time. -/
structure Sound (runbook : Runbook) (now : Time) (attempts : List RepairAttempt) : Prop where
  increasing : attempts.Pairwise fun a b => a.createdAt < b.createdAt
  past : ∀ attempt ∈ attempts, attempt.createdAt ≤ now
  /-- Only the last attempt can be open. -/
  closed : ∀ attempt ∈ attempts.dropLast, attempt.success ≠ none
  /-- No dry run comes after a real attempt. -/
  lastReal : real attempts ≠ [] → ∀ attempt ∈ attempts.getLast?, attempt.dryRun = false
  /-- At level 3 every attempt waits for an approval. -/
  level : real attempts ≠ [] → runbook.riskLevel ≠ 3
  rehearsed : real attempts ≠ [] →
    ∃ attempt ∈ attempts, attempt.dryRun = true ∧ attempt.success = some true
  spaced : (real attempts).Pairwise fun a b => a.createdAt + runbook.cooldown ≤ b.createdAt
  bounded : (real attempts).length ≤ runbook.maxAttempts

variable {runbook : Runbook} {now later : Time} {attempts : List RepairAttempt}

theorem Sound.nil (runbook : Runbook) (now : Time) : Sound runbook now [] where
  increasing := List.Pairwise.nil
  past := by simp
  closed := by simp
  lastReal := by simp
  level := fun h => absurd rfl h
  rehearsed := fun h => absurd rfl h
  spaced := List.Pairwise.nil
  bounded := Nat.zero_le _

theorem Sound.mono (h : Sound runbook now attempts) (hlater : now ≤ later) :
    Sound runbook later attempts :=
  { h with past := fun attempt hattempt => (h.past attempt hattempt).trans hlater }

/-- If the last attempt is closed, all are. -/
theorem Sound.all_closed (h : Sound runbook now attempts) {latest : RepairAttempt}
    (hlast : attempts.getLast? = some latest) (hclosed : latest.success ≠ none) :
    ∀ attempt ∈ attempts, attempt.success ≠ none := by
  obtain ⟨front, rfl⟩ := List.getLast?_eq_some_iff.mp hlast
  intro attempt hattempt
  obtain hfront | hattempt := List.mem_append.mp hattempt
  · refine h.closed attempt ?_
    rw [List.dropLast_concat]
    exact hfront
  · rw [List.mem_singleton.mp hattempt]
    exact hclosed

/-- A change of attempts that results can bring about. -/
structure Settles (f : RepairAttempt → RepairAttempt) : Prop where
  id : ∀ attempt, (f attempt).id = attempt.id
  incidentID : ∀ attempt, (f attempt).incidentID = attempt.incidentID
  action : ∀ attempt, (f attempt).action = attempt.action
  dryRun : ∀ attempt, (f attempt).dryRun = attempt.dryRun
  createdAt : ∀ attempt, (f attempt).createdAt = attempt.createdAt
  success : ∀ attempt, attempt.success ≠ none → (f attempt).success = attempt.success

theorem settles_settle (tasks : List TaskRow) : Settles (RepairAttempt.settle tasks) := by
  have hsettle (attempt : RepairAttempt) : attempt.settle tasks = attempt ∨
      attempt.success = none ∧ ∃ outcome, attempt.settle tasks = attempt.close outcome := by
    unfold RepairAttempt.settle
    cases attempt.success with
    | some success => exact .inl rfl
    | none =>
      cases outcome tasks attempt with
      | none => exact .inl rfl
      | some outcome => exact .inr ⟨rfl, outcome, rfl⟩
  constructor
  all_goals intro attempt
  all_goals obtain h | ⟨hopen, outcome, h⟩ := hsettle attempt
  all_goals rw [h]
  all_goals try rfl
  · exact fun _ => rfl
  · exact fun hclosed => absurd hopen hclosed

theorem real_map {f : RepairAttempt → RepairAttempt} (hf : Settles f)
    (attempts : List RepairAttempt) : real (attempts.map f) = (real attempts).map f := by
  rw [real, List.filter_map, real]
  refine congrArg (List.map f) (List.filter_congr fun attempt _ => ?_)
  rw [Function.comp_apply, hf.dryRun]

theorem Sound.map {f : RepairAttempt → RepairAttempt} (h : Sound runbook now attempts)
    (hf : Settles f) : Sound runbook now (attempts.map f) := by
  have hreal : real (attempts.map f) ≠ [] → real attempts ≠ [] := by
    intro hne hnil
    rw [real_map hf, hnil] at hne
    exact hne rfl
  constructor
  · simpa only [List.pairwise_map, hf.createdAt] using h.increasing
  · intro attempt hattempt
    obtain ⟨before, hbefore, rfl⟩ := List.mem_map.mp hattempt
    rw [hf.createdAt]
    exact h.past before hbefore
  · rw [← List.map_dropLast]
    intro attempt hattempt
    obtain ⟨before, hbefore, rfl⟩ := List.mem_map.mp hattempt
    rw [hf.success before (h.closed before hbefore)]
    exact h.closed before hbefore
  · intro hne attempt hattempt
    rw [List.getLast?_map, Option.mem_map] at hattempt
    obtain ⟨before, hbefore, rfl⟩ := hattempt
    rw [hf.dryRun]
    exact h.lastReal (hreal hne) before hbefore
  · exact fun hne => h.level (hreal hne)
  · intro hne
    obtain ⟨attempt, hattempt, hdryRun, hsuccess⟩ := h.rehearsed (hreal hne)
    refine ⟨f attempt, List.mem_map_of_mem hattempt, (hf.dryRun attempt).trans hdryRun, ?_⟩
    rw [hf.success attempt (by rw [hsuccess]; exact Option.some_ne_none true), hsuccess]
  · simpa only [real_map hf, List.pairwise_map, hf.createdAt] using h.spaced
  · rw [real_map hf, List.length_map]
    exact h.bounded

/-- A new attempt is made of attempts that are all closed, and a real one either
after a dry run that passed or after the cooldown of the real one before. -/
structure Extends (runbook : Runbook) (now : Time) (attempts : List RepairAttempt)
    (attempt : RepairAttempt) : Prop where
  createdAt : attempt.createdAt = now
  later : ∀ earlier ∈ attempts, earlier.createdAt < now
  closed : ∀ earlier ∈ attempts, earlier.success ≠ none
  real : attempt.dryRun = false → runbook.riskLevel ≠ 3 ∧
    (Repair.real attempts).length < runbook.maxAttempts ∧
    (∃ earlier ∈ attempts, earlier.dryRun = true ∧ earlier.success = some true) ∧
    ∀ earlier ∈ Repair.real attempts, earlier.createdAt + runbook.cooldown ≤ now
  dryRun : attempt.dryRun = true → Repair.real attempts = []

theorem Sound.append (h : Sound runbook now attempts) {attempt : RepairAttempt}
    (hattempt : Extends runbook now attempts attempt) :
    Sound runbook now (attempts ++ [attempt]) := by
  have hreal : real (attempts ++ [attempt]) =
      real attempts ++ if attempt.dryRun = false then [attempt] else [] := by
    rw [real, List.filter_append, real]
    cases hdryRun : attempt.dryRun <;> simp [hdryRun]
  have hincreasing : (attempts ++ [attempt]).Pairwise fun a b => a.createdAt < b.createdAt := by
    rw [List.pairwise_append]
    refine ⟨h.increasing, List.pairwise_singleton _ _, fun earlier hearlier last hlast => ?_⟩
    rw [List.mem_singleton.mp hlast, hattempt.createdAt]
    exact hattempt.later earlier hearlier
  have hpast : ∀ earlier ∈ attempts ++ [attempt], earlier.createdAt ≤ now := by
    simpa [or_imp, forall_and] using ⟨h.past, hattempt.createdAt.le⟩
  have hclosed : ∀ earlier ∈ (attempts ++ [attempt]).dropLast, earlier.success ≠ none := by
    simpa using hattempt.closed
  cases hdryRun : attempt.dryRun with
  | true =>
    have hnone : real (attempts ++ [attempt]) = [] := by
      rw [hreal, hattempt.dryRun hdryRun, hdryRun]
      rfl
    refine ⟨hincreasing, hpast, hclosed, fun hne => absurd hnone hne, fun hne => absurd hnone hne,
      fun hne => absurd hnone hne, ?_, ?_⟩
    · rw [hnone]
      exact List.Pairwise.nil
    · rw [hnone]
      exact Nat.zero_le _
  | false =>
    obtain ⟨hlevel, hbelow, ⟨dry, hdry, hdryDryRun, hpassed⟩, hcooldown⟩ := hattempt.real hdryRun
    rw [hdryRun, if_pos rfl] at hreal
    refine ⟨hincreasing, hpast, hclosed, by simp [hdryRun], fun _ => hlevel,
      fun _ => ⟨dry, List.mem_append_left _ hdry, hdryDryRun, hpassed⟩, ?_, ?_⟩
    · rw [hreal, List.pairwise_append]
      refine ⟨h.spaced, List.pairwise_singleton _ _, fun earlier hearlier last hlast => ?_⟩
      rw [List.mem_singleton.mp hlast, hattempt.createdAt]
      exact hcooldown earlier hearlier
    · rw [hreal, List.length_append]
      exact hbelow

/-! ### What a dispatch adds -/

variable {ρ : Type}

theorem attemptsOf_eq (attempts : List RepairAttempt) (incidentID action : String)
    (h : (ownAttempts attempts incidentID action).Pairwise fun a b => a.createdAt < b.createdAt) :
    attemptsOf attempts incidentID action = (ownAttempts attempts incidentID action).reverse :=
  Table.insertionSort_of_increasing h

/-- What stays of the tables when no attempt is made. -/
structure Unplanned (db after : Db ρ) : Prop where
  attempts : after.attempts = db.attempts
  tasks : after.tasks = db.tasks
  incidents : after.incidents.map (fun incident => (incident.id, incident.faultType)) =
    db.incidents.map fun incident => (incident.id, incident.faultType)

theorem Unplanned.refl (db : Db ρ) : Unplanned db db := ⟨rfl, rfl, rfl⟩

theorem Unplanned.trans {first second third : Db ρ} (h : Unplanned first second)
    (h' : Unplanned second third) : Unplanned first third :=
  ⟨h'.attempts.trans h.attempts, h'.tasks.trans h.tasks, h'.incidents.trans h.incidents⟩

theorem appendOnce_unplanned (now : Time) (incidentID marker message : String)
    (reason : Option String) (db : Db ρ) :
    Unplanned db (appendOnce now incidentID marker message reason db) := by
  refine ⟨rfl, rfl, ?_⟩
  unfold appendOnce
  dsimp only
  rw [List.map_map]
  refine List.map_congr_left fun incident _ => ?_
  rw [Function.comp_apply]
  split_ifs <;> rfl

theorem recordStops_unplanned (now : Time) (incidentID : String)
    (cooldownActive maximumReached : Bool) (db : Db ρ) :
    Unplanned db (recordStops now incidentID cooldownActive maximumReached db) := by
  unfold recordStops
  dsimp only
  split_ifs
  · exact (appendOnce_unplanned _ _ _ _ _ db).trans (appendOnce_unplanned _ _ _ _ _ _)
  · exact appendOnce_unplanned _ _ _ _ _ db
  · exact appendOnce_unplanned _ _ _ _ _ db
  · exact .refl db

/-- The heartbeat plans a further repair of the incident, and the plan needs an approval. -/
def ApprovalAgain (now : Time) (db : Db ρ) (request : PlanRequest) : Prop :=
  ∃ latest ∈ ((attemptsOf db.attempts request.incident.id request.runbook.name).filter
      fun attempt => !attempt.dryRun).head?,
    latest.success ≠ none ∧ latest.createdAt + request.runbook.cooldown ≤ now ∧
      ((attemptsOf db.attempts request.incident.id request.runbook.name).filter
        fun attempt => !attempt.dryRun).length < request.runbook.maxAttempts ∧
      conditionsMatch request.incident.faultType request.context request.level2Enabled
        request.runbook.conditions = .ok none ∧
      request.runbook.requiresApproval false request.level2Enabled = true

theorem real_reverse (attempts : List RepairAttempt) :
    attempts.reverse.filter (fun attempt => !attempt.dryRun) = (real attempts).reverse :=
  List.filter_reverse

/-- The new attempt of a plan, given what the branch of the dispatch has checked. -/
theorem Planned.extends {now past : Time} {db after : Db ρ} {request : PlanRequest}
    {dryRun : Bool} {attempt : RepairAttempt}
    (h : Planned now db request dryRun attempt after)
    (hsound : Sound request.runbook past
      (ownAttempts db.attempts request.incident.id request.runbook.name)) (hnow : past < now)
    (hclosed : ∀ earlier ∈ ownAttempts db.attempts request.incident.id request.runbook.name,
      earlier.success ≠ none)
    (hreal : attempt.dryRun = false →
      (∃ earlier ∈ ownAttempts db.attempts request.incident.id request.runbook.name,
        earlier.dryRun = true ∧ earlier.success = some true) ∧
      ∀ earlier ∈ real (ownAttempts db.attempts request.incident.id request.runbook.name),
        earlier.createdAt + request.runbook.cooldown ≤ now)
    (hdryRun : attempt.dryRun = true →
      real (ownAttempts db.attempts request.incident.id request.runbook.name) = []) :
    Extends request.runbook now
      (ownAttempts db.attempts request.incident.id request.runbook.name) attempt where
  createdAt := h.createdAt
  later := fun earlier hearlier => lt_of_le_of_lt (hsound.past earlier hearlier) hnow
  closed := hclosed
  real := by
    intro hattempt
    have hbelow := h.below
    rw [attemptsOf_eq _ _ _ hsound.increasing, real_reverse, List.length_reverse] at hbelow
    refine ⟨fun hlevel => ?_, hbelow, hreal hattempt⟩
    -- at level 3 only dry runs are planned
    have hplanned := h.isDryRun
    cases dryRun <;> simp [hattempt, Runbook.requiresApproval, hlevel] at hplanned
  dryRun := hdryRun

/-- A dispatch makes no attempt, or one that extends those before it. -/
theorem dispatch_cases {settings : Settings} {now past : Time} {db after : Db ρ}
    {request : PlanRequest} {draws : Draws} (h : dispatch settings now db request draws = .ok after)
    (hsound : Sound request.runbook past
      (ownAttempts db.attempts request.incident.id request.runbook.name)) (hnow : past < now)
    (hclear : ¬ApprovalAgain now db request) :
    Unplanned db after ∨ ∃ attempt, attempt.incidentID = request.incident.id ∧
      attempt.action = request.runbook.name ∧ after.attempts = db.attempts ++ [attempt] ∧
      after.incidents = db.incidents ∧ after.Keys ∧
      Extends request.runbook now
        (ownAttempts db.attempts request.incident.id request.runbook.name) attempt := by
  set own := ownAttempts db.attempts request.incident.id request.runbook.name with hown
  have hattempts : attemptsOf db.attempts request.incident.id request.runbook.name = own.reverse :=
    attemptsOf_eq _ _ _ hsound.increasing
  have hplan {dryRun : Bool} {planned : Db ρ × RepairPlan}
      (hplanned : plan settings now db request dryRun draws = .ok planned)
      (hextends : ∀ attempt, Planned now db request dryRun attempt planned.1 →
        Extends request.runbook now own attempt) :
      Unplanned db (recordPlanAudit request.incident.id planned) ∨ ∃ attempt,
        attempt.incidentID = request.incident.id ∧ attempt.action = request.runbook.name ∧
        (recordPlanAudit request.incident.id planned).attempts = db.attempts ++ [attempt] ∧
        (recordPlanAudit request.incident.id planned).incidents = db.incidents ∧
        (recordPlanAudit request.incident.id planned).Keys ∧
        Extends request.runbook now own attempt := by
    obtain ⟨planned, result⟩ := planned
    obtain rfl | ⟨attempt, hattempt⟩ := plan_cases hplanned
    · exact .inl ⟨rfl, rfl, rfl⟩
    · exact .inr ⟨attempt, hattempt.incidentID, hattempt.action, hattempt.attempts,
        hattempt.incidents, ⟨hattempt.keys.tasks, hattempt.keys.attempts⟩,
        hextends attempt hattempt⟩
  unfold dispatch at h
  dsimp only at h
  rw [hattempts, real_reverse] at h
  -- the newest attempt is the last one
  cases hnewest : (real own).reverse with
  | cons latest earlier =>
    have hlast : real own = earlier.reverse ++ [latest] := by
      rw [← List.reverse_reverse (real own), hnewest, List.reverse_cons]
    have hne : real own ≠ [] := by
      rw [hlast]
      simp
    have hownLast : own.getLast? = some latest := by
      cases hgetLast : own.getLast? with
      | none =>
        rw [List.getLast?_eq_none_iff] at hgetLast
        rw [hgetLast] at hne
        exact absurd rfl hne
      | some last =>
        have hreal := hsound.lastReal hne last hgetLast
        obtain ⟨front, hfront⟩ := List.getLast?_eq_some_iff.mp hgetLast
        have hfilter : real own = real front ++ [last] := by
          rw [hfront, real, List.filter_append, real]
          simp [hreal]
        rw [hlast] at hfilter
        exact congrArg some (List.append_inj_right' hfilter rfl |> List.singleton_inj.mp).symm
    simp only [hnewest] at h
    unfold repeatRepair at h
    split at h
    · cases h
      exact .inl (appendOnce_unplanned _ _ _ _ _ db)
    rename_i hclosed
    dsimp only at h
    split at h
    · cases h
      exact .inl (recordStops_unplanned _ _ _ _ db)
    rename_i hgo
    rw [Bool.or_eq_true, not_or, decide_eq_true_eq, decide_eq_true_eq, not_lt] at hgo
    obtain ⟨hcooldown, hbelow⟩ := hgo
    rw [decide_eq_false (not_lt.mpr hcooldown), decide_eq_false hbelow] at h
    obtain ⟨planned, hplanned, h⟩ := bind_eq_ok.mp h
    cases h
    refine hplan hplanned fun attempt hattempt => ?_
    have hmember : latest ∈ real own := by
      rw [hlast]
      simp
    have hbefore : ∀ earlier ∈ real own, earlier.createdAt ≤ latest.createdAt := by
      have hincreasing := hsound.increasing.sublist (List.filter_sublist (p := (!·.dryRun)))
      rw [← real, hlast, List.pairwise_append] at hincreasing
      intro earlier hearlier
      rw [hlast, List.mem_append, List.mem_singleton] at hearlier
      obtain hearlier | rfl := hearlier
      · exact (hincreasing.2.2 earlier hearlier latest (List.mem_singleton.mpr rfl)).le
      · exact le_refl _
    have hisReal : attempt.dryRun = false := by
      rw [hattempt.isDryRun, Bool.false_or]
      by_contra happroval
      rw [Bool.not_eq_false] at happroval
      refine hclear ⟨latest, ?_, hclosed, hcooldown, ?_, ?_, happroval⟩
      · rw [hattempts, real_reverse, hnewest]
        rfl
      · exact hattempt.below
      · rw [← Bool.or_false request.level2Enabled]
        exact hattempt.matched
    refine hattempt.extends hsound hnow (hsound.all_closed hownLast hclosed) ?_ ?_
    · exact fun _ => ⟨hsound.rehearsed hne, fun earlier hearlier =>
        (add_le_add_left (hbefore earlier hearlier) _).trans hcooldown⟩
    · intro hdryRun
      rw [hisReal] at hdryRun
      cases hdryRun
  | nil =>
    have hnone : real own = [] := List.reverse_eq_nil_iff.mp hnewest
    have hdry : own.reverse.filter (·.dryRun) = own.reverse := by
      rw [List.filter_eq_self]
      intro attempt hattempt
      by_contra hreal
      have hmem : attempt ∈ real own :=
        mem_real.mpr ⟨List.mem_reverse.mp hattempt, Bool.not_eq_true _ ▸ hreal⟩
      rw [hnone] at hmem
      cases hmem
    simp only [hnewest, hdry] at h
    cases hlatest : own.reverse with
    | nil =>
      have hempty : own = [] := List.reverse_eq_nil_iff.mp hlatest
      simp only [hlatest] at h
      obtain ⟨planned, hplanned, h⟩ := bind_eq_ok.mp h
      cases h
      refine hplan hplanned fun attempt hattempt => hattempt.extends hsound hnow ?_ ?_ ?_
      · rw [← hown, hempty]
        intro earlier hearlier
        cases hearlier
      · intro hreal
        rw [hattempt.isDryRun, Bool.true_or] at hreal
        cases hreal
      · exact fun _ => hnone
    | cons latest earlier =>
      have hlast : own.getLast? = some latest := by
        rw [← List.head?_reverse, hlatest, List.head?_cons]
      have hmember : latest ∈ own := by
        rw [← List.mem_reverse, hlatest]
        exact List.mem_cons_self
      simp only [hlatest] at h
      unfold firstRepair at h
      split at h
      · cases h
        exact .inl (appendOnce_unplanned _ _ _ _ _ db)
      · cases h
        exact .inl (appendOnce_unplanned _ _ _ _ _ db)
      rename_i hpassed
      split at h
      · cases h
        exact .inl (appendOnce_unplanned _ _ _ _ _ db)
      obtain ⟨planned, hplanned, h⟩ := bind_eq_ok.mp h
      cases h
      refine hplan hplanned fun attempt hattempt => hattempt.extends hsound hnow
        (hsound.all_closed hlast (by rw [hpassed]; exact Option.some_ne_none true)) ?_ ?_
      · refine fun _ => ⟨⟨latest, hmember, ?_, hpassed⟩, ?_⟩
        · by_contra hreal
          have hmem : latest ∈ real own := mem_real.mpr ⟨hmember, Bool.not_eq_true _ ▸ hreal⟩
          rw [hnone] at hmem
          cases hmem
        · rw [← hown, hnone]
          intro other hother
          cases hother
      · exact fun _ => hnone

/-! ### What a heartbeat does -/

/-- The incidents with their faults. -/
def kinds (db : Db ρ) : List (String × String) :=
  db.incidents.map fun incident => (incident.id, incident.faultType)

theorem recordResults_incidents (context : Context ρ) (agentID : String) (now : Time)
    (state : Db ρ × List String) (events : List Event) :
    (events.foldl (recordResult context agentID now) state).1.incidents = state.1.incidents := by
  induction events generalizing state with
  | nil => rfl
  | cons event events ih =>
    rw [List.foldl_cons, ih]
    cases event with
    | other => rfl
    | actionResult result =>
      unfold recordResult
      dsimp only
      split
      · rfl
      · split
        · rfl
        · split <;> rfl

theorem closeAttempts_kinds (now : Time) (db : Db ρ) (scanned : List RepairAttempt) :
    kinds (scanned.foldl (closeAttempt now) db) = kinds db := by
  induction scanned generalizing db with
  | nil => rfl
  | cons attempt scanned ih =>
    rw [List.foldl_cons, ih]
    unfold closeAttempt kinds
    split
    · rfl
    · rw [List.map_map]
      refine List.map_congr_left fun incident _ => ?_
      rw [Function.comp_apply]
      split_ifs <;> rfl

/-- The results of a heartbeat close attempts, and leave the rest. -/
theorem recordAgentResults_rows (context : Context ρ) (agentID : String) (now : Time) {db : Db ρ}
    (events : List Event) (hkeys : db.Keys) :
    let after := recordAgentResults context agentID now db events
    after.Keys ∧ kinds after = kinds db ∧
      ∃ f, Settles f ∧ after.attempts = db.attempts.map f := by
  obtain ⟨htasks, hattempts, -, -⟩ :=
    recordResults_spec context agentID now [] events hkeys.tasks
  have hincidents := recordResults_incidents context agentID now (db, []) events
  unfold recordAgentResults
  generalize events.foldl (recordResult context agentID now) (db, []) = state
    at htasks hattempts hincidents ⊢
  obtain ⟨received, changed⟩ := state
  dsimp only at htasks hattempts hincidents ⊢
  have hreceived : (received.tasks.map (·.id)).Nodup := by
    rw [ids_of_views htasks fun task => (task.receive_action agentID events).1]
    exact hkeys.tasks
  have hkinds : kinds received = kinds db := by
    rw [kinds, hincidents, kinds]
  split_ifs with hchanged
  · exact ⟨⟨hreceived, hattempts ▸ hkeys.attempts⟩, hkinds, id,
      ⟨fun _ => rfl, fun _ => rfl, fun _ => rfl, fun _ => rfl, fun _ => rfl, fun _ _ => rfl⟩,
      hattempts.trans (List.map_id db.attempts).symm⟩
  · have hreceivedKeys : (received.attempts.map (·.id)).Nodup := hattempts ▸ hkeys.attempts
    obtain ⟨hafterTasks, hafterAttempts, -⟩ := closeAttempts_spec now hreceivedKeys
      ((List.Nodup.of_map _ hreceivedKeys).filter fun attempt => attempt.success.isNone)
      (fun attempt hattempt => (List.mem_filter.mp hattempt).1)
      (fun attempt hattempt => by simpa using (List.mem_filter.mp hattempt).2)
    have hsettles : Settles fun attempt =>
        if attempt ∈ received.attempts.filter (fun attempt => attempt.success.isNone) then
          attempt.settle received.tasks else attempt := by
      have hsettle := settles_settle received.tasks
      constructor
      all_goals intro attempt
      all_goals split_ifs
      all_goals try rfl
      · exact hsettle.id attempt
      · exact hsettle.incidentID attempt
      · exact hsettle.action attempt
      · exact hsettle.dryRun attempt
      · exact hsettle.createdAt attempt
      · exact hsettle.success attempt
      · exact fun _ => rfl
    refine ⟨⟨?_, ?_⟩, (closeAttempts_kinds now received _).trans hkinds, _, hsettles, ?_⟩
    · rw [hafterTasks]
      exact hreceived
    · rw [hafterAttempts, List.map_map]
      refine (congrArg List.Nodup (List.map_congr_left fun attempt _ => ?_)).mpr hreceivedKeys
      exact hsettles.id attempt
    · rw [hafterAttempts, hattempts]

/-- The runbook for a fault, if there is one and it is valid. -/
def runbookFor (config : Config ρ) (faultType : String) : Option Runbook :=
  match repairDetails faultType with
  | some file => (config.loadRunbook file).toOption
  | none => none

/-- What holds of the tables between the heartbeats. -/
structure Consistent (config : Config ρ) (world : World ρ) : Prop where
  keys : world.db.Keys
  incidents : ((kinds world.db).map Prod.fst).Nodup
  owned : ∀ attempt ∈ world.db.attempts, attempt.incidentID ∈ (kinds world.db).map Prod.fst
  sound : ∀ kind ∈ kinds world.db, ∀ runbook ∈ runbookFor config kind.2,
    Sound runbook world.now (ownAttempts world.db.attempts kind.1 runbook.name)

theorem resolveAbsentIncidents_unplanned (now : Time) (db : Db ρ) (hostID : String)
    (current : Option Incident) : Unplanned db (resolveAbsentIncidents now db hostID current) := by
  refine ⟨rfl, rfl, ?_⟩
  unfold resolveAbsentIncidents
  dsimp only
  rw [List.map_map]
  refine List.map_congr_left fun incident _ => ?_
  rw [Function.comp_apply]
  split_ifs <;> rfl

/-- The incident of an observation is an active one, or a new one. -/
theorem openIncident_cases {now : Time} {db after : Db ρ} {heartbeat : Heartbeat}
    {observation : Observation} {incident : Incident}
    (h : openIncident now db heartbeat observation = .ok (after, incident)) :
    incident.faultType = observation.faultType ∧ after.attempts = db.attempts ∧
      after.tasks = db.tasks ∧
      ((activeIncident db heartbeat.hostID observation.service observation.faultType =
          some incident ∧ incident ∈ db.incidents ∧ after = db) ∨
        (incident.id ∉ (kinds db).map Prod.fst ∧
          kinds after = kinds db ++ [(incident.id, incident.faultType)])) := by
  unfold openIncident at h
  cases hactive : activeIncident db heartbeat.hostID observation.service observation.faultType with
  | some active =>
    rw [hactive] at h
    cases h
    have hfound := hactive
    unfold activeIncident at hfound
    have hkind := List.find?_some hfound
    simp only [Bool.and_eq_true, beq_iff_eq] at hkind
    have hmem := (List.mem_insertionSort _).mp (List.mem_of_find?_eq_some hfound)
    exact ⟨hkind.1.1, rfl, rfl, .inl ⟨rfl, (List.mem_filter.mp hmem).1, rfl⟩⟩
  | none =>
    rw [hactive] at h
    obtain ⟨hfresh, h⟩ := raiseIf_bind_eq_ok.mp h
    cases h
    refine ⟨rfl, rfl, rfl, .inr ⟨?_, ?_⟩⟩
    · rw [kinds, List.map_map]
      exact hfresh
    · rw [kinds, List.map_append]
      rfl

/-- The plan a heartbeat would make for an active incident needs an approval
although the incident has a real attempt already. -/
def Heartbeat.ApprovalAgain (config : Config ρ) (now : Time) (db : Db ρ)
    (heartbeat : Heartbeat) : Prop :=
  profile heartbeat.labels = true ∧ ∃ observation ∈ heartbeat.observation,
    ∃ incident ∈ activeIncident db heartbeat.hostID observation.service observation.faultType,
      ∃ runbook ∈ runbookFor config observation.faultType,
        Repair.ApprovalAgain now db ⟨runbook, incident, heartbeat.agentID, heartbeat.hostID,
          observation.context, heartbeat.level2Enabled⟩

/-- The attempts after a heartbeat: those before, and at most one that extends
the attempts of its incident. -/
structure Reconciled (config : Config ρ) (now : Time) (db after : Db ρ) : Prop where
  keys : after.Keys
  incidents : kinds after = kinds db ∨ ∃ kind, kind.1 ∉ (kinds db).map Prod.fst ∧
    kinds after = kinds db ++ [kind]
  attempts : after.attempts = db.attempts ∨ ∃ attempt, ∃ kind ∈ kinds after,
    ∃ runbook ∈ runbookFor config kind.2,
      attempt.incidentID = kind.1 ∧ attempt.action = runbook.name ∧
        after.attempts = db.attempts ++ [attempt] ∧
        Extends runbook now (ownAttempts db.attempts kind.1 runbook.name) attempt

theorem ownAttempts_of_fresh {attempts : List RepairAttempt} {incidentID : String}
    (h : ∀ attempt ∈ attempts, attempt.incidentID ≠ incidentID) (action : String) :
    ownAttempts attempts incidentID action = [] := by
  rw [ownAttempts, List.filter_eq_nil_iff]
  intro attempt hattempt
  simp [h attempt hattempt]

theorem Unplanned.keys {db after : Db ρ} (h : Unplanned db after) (hkeys : db.Keys) : after.Keys :=
  ⟨by rw [h.tasks]; exact hkeys.tasks, by rw [h.attempts]; exact hkeys.attempts⟩

/-- A plan with a further approval is a matter of the attempts, of the incident and of its fault. -/
theorem ApprovalAgain.congr {now : Time} {db db' : Db ρ} {request : PlanRequest}
    (hattempts : db'.attempts = db.attempts) (h : ApprovalAgain now db' request) :
    ApprovalAgain now db request := by
  unfold ApprovalAgain at h ⊢
  rw [hattempts] at h
  exact h

theorem reconcile_cases {config : Config ρ} {now past : Time} {db after : Db ρ}
    {heartbeat : Heartbeat} (h : reconcileStagingHeartbeat config now db heartbeat = .ok after)
    (hconsistent : Consistent config ⟨db, past⟩) (hnow : past < now)
    (hclear : ¬heartbeat.ApprovalAgain config now db) : Reconciled config now db after := by
  have hunplanned {after : Db ρ} (hafter : Unplanned db after) :
      Reconciled config now db after :=
    ⟨hafter.keys hconsistent.keys, .inl hafter.incidents, .inl hafter.attempts⟩
  unfold reconcileStagingHeartbeat at h
  split at h
  · cases h
    exact hunplanned (.refl db)
  rename_i hprofile
  split at h
  · cases h
    exact hunplanned (resolveAbsentIncidents_unplanned now db heartbeat.hostID none)
  rename_i observation hobservation
  obtain ⟨⟨opened, incident⟩, hopen, h⟩ := bind_eq_ok.mp h
  obtain ⟨hfault, hattempts, htasks, hincident⟩ := openIncident_cases hopen
  dsimp only at h
  have hresolved := resolveAbsentIncidents_unplanned now opened heartbeat.hostID (some incident)
  set resolved := resolveAbsentIncidents now opened heartbeat.hostID (some incident)
  have hresolvedAttempts : resolved.attempts = db.attempts := hresolved.attempts.trans hattempts
  have hresolvedKeys : resolved.Keys :=
    hresolved.keys ⟨by rw [htasks]; exact hconsistent.keys.tasks,
      by rw [hattempts]; exact hconsistent.keys.attempts⟩
  have hkinds : kinds resolved = kinds db ∨ ∃ kind, kind.1 ∉ (kinds db).map Prod.fst ∧
      kinds resolved = kinds db ++ [kind] := by
    obtain ⟨-, -, rfl⟩ | ⟨hfresh, hopened⟩ := hincident
    · exact .inl hresolved.incidents
    · exact .inr ⟨_, hfresh, hresolved.incidents.trans hopened⟩
  have hmem : (incident.id, incident.faultType) ∈ kinds resolved := by
    have hopenedMem : (incident.id, incident.faultType) ∈ kinds opened := by
      obtain ⟨-, hmem, rfl⟩ | ⟨-, hopened⟩ := hincident
      · exact List.mem_map.mpr ⟨incident, hmem, rfl⟩
      · rw [hopened]
        simp
    rw [show kinds resolved = kinds opened from hresolved.incidents]
    exact hopenedMem
  have hstay {after : Db ρ} (hafter : Unplanned resolved after) :
      Reconciled config now db after := by
    refine ⟨hafter.keys hresolvedKeys, ?_, .inl (hafter.attempts.trans hresolvedAttempts)⟩
    rw [show kinds after = kinds resolved from hafter.incidents]
    exact hkinds
  unfold maybeDispatch at h
  split at h
  · rw [← Except.ok.inj h]
    exact hstay (.refl resolved)
  rename_i file hfile
  obtain ⟨runbook, hload, h⟩ := bind_eq_ok.mp h
  have hrunbook : runbook ∈ runbookFor config incident.faultType := by
    rw [runbookFor, hfault, hfile]
    simp only [hload]
    rfl
  -- the attempts of a new incident are none
  have hown : Sound runbook past (ownAttempts resolved.attempts incident.id runbook.name) := by
    rw [hresolvedAttempts]
    obtain ⟨-, hmem, -⟩ | ⟨hfresh, -⟩ := hincident
    · exact hconsistent.sound _ (List.mem_map.mpr ⟨incident, hmem, rfl⟩) runbook hrunbook
    · rw [ownAttempts_of_fresh fun attempt hattempt (heq : attempt.incidentID = incident.id) =>
        hfresh (heq ▸ hconsistent.owned attempt hattempt)]
      exact .nil runbook past
  have hnotAgain : ¬ApprovalAgain now resolved ⟨runbook, incident, heartbeat.agentID,
      heartbeat.hostID, observation.context, heartbeat.level2Enabled⟩ := by
    intro hagain
    have hagain := hagain.congr hresolvedAttempts
    obtain ⟨hactive, -⟩ | ⟨hfresh, -⟩ := hincident
    · exact hclear ⟨Bool.not_eq_false _ ▸ hprofile, observation, hobservation, incident, hactive,
        runbook, hfault ▸ hrunbook, hagain⟩
    · obtain ⟨latest, hlatest, -⟩ := hagain
      obtain ⟨hlatest, hlatestID, -⟩ :=
        mem_attemptsOf.mp (List.mem_filter.mp (List.mem_of_mem_head? hlatest)).1
      exact hfresh (hlatestID ▸ hconsistent.owned latest hlatest)
  obtain hafter | ⟨attempt, hid, haction, hattempt, hincidents, hkeys, hextends⟩ :=
    dispatch_cases h hown hnow hnotAgain
  · exact hstay hafter
  · refine ⟨hkeys, ?_, .inr ⟨attempt, (incident.id, incident.faultType), ?_, runbook, hrunbook, hid,
      haction, ?_, ?_⟩⟩
    · rw [kinds, hincidents]
      exact hkinds
    · rw [kinds, hincidents]
      exact hmem
    · rw [hattempt, hresolvedAttempts]
    · rw [← hresolvedAttempts]
      exact hextends

/-- What is asked of a step for an incident with its runbook: how many real
attempts there are, how far they are apart, and what comes before a new attempt. -/
structure Bounded (runbook : Runbook) (before after : List RepairAttempt) : Prop where
  maximum : (real after).length ≤ runbook.maxAttempts
  cooldown : (real after).Pairwise fun a b => a.createdAt + runbook.cooldown ≤ b.createdAt
  created : ∀ earlier attempt others, after = earlier ++ attempt :: others →
    before.length ≤ earlier.length →
      (∀ other ∈ earlier, other.success ≠ none) ∧
      (attempt.dryRun = false →
        ∃ other ∈ earlier, other.dryRun = true ∧ other.success = some true)

theorem Sound.bounded_of_map {past : Time} {before : List RepairAttempt}
    {f : RepairAttempt → RepairAttempt} (h : Sound runbook past (before.map f)) :
    Bounded runbook before (before.map f) where
  maximum := h.bounded
  cooldown := h.spaced
  created := by
    intro earlier attempt others hsplit hlength
    have hlengths := congrArg List.length hsplit
    rw [List.length_map, List.length_append, List.length_cons] at hlengths
    omega

theorem Sound.bounded_of_append {past : Time} {before : List RepairAttempt}
    {f : RepairAttempt → RepairAttempt} {attempt : RepairAttempt}
    (h : Sound runbook past (before.map f ++ [attempt]))
    (hextends : Extends runbook past (before.map f) attempt) :
    Bounded runbook before (before.map f ++ [attempt]) where
  maximum := h.bounded
  cooldown := h.spaced
  created := by
    intro earlier created others hsplit hlength
    have hlengths := congrArg List.length hsplit
    simp only [List.length_append, List.length_map, List.length_cons, List.length_nil] at hlengths
    have hothers : others = [] := List.eq_nil_of_length_eq_zero (by omega)
    subst hothers
    obtain ⟨rfl, hcreated⟩ := List.append_inj' hsplit rfl
    obtain rfl := List.singleton_inj.mp hcreated
    exact ⟨hextends.closed, fun hreal => (hextends.real hreal).2.2.1⟩

theorem ownAttempts_map {f : RepairAttempt → RepairAttempt} (hf : Settles f)
    (attempts : List RepairAttempt) (incidentID action : String) :
    ownAttempts (attempts.map f) incidentID action =
      (ownAttempts attempts incidentID action).map f := by
  rw [ownAttempts, List.filter_map, ownAttempts]
  refine congrArg (List.map f) (List.filter_congr fun attempt _ => ?_)
  rw [Function.comp_apply, hf.incidentID, hf.action]

theorem Consistent.received {config : Config ρ} {db received : Db ρ} {past : Time}
    (h : Consistent config ⟨db, past⟩) (hkeys : received.Keys) (hkinds : kinds received = kinds db)
    {f : RepairAttempt → RepairAttempt} (hf : Settles f)
    (hattempts : received.attempts = db.attempts.map f) : Consistent config ⟨received, past⟩ where
  keys := hkeys
  incidents := by
    rw [hkinds]
    exact h.incidents
  owned := by
    dsimp only
    rw [hkinds, hattempts]
    intro attempt hattempt
    obtain ⟨before, hbefore, rfl⟩ := List.mem_map.mp hattempt
    rw [hf.incidentID]
    exact h.owned before hbefore
  sound := by
    dsimp only
    rw [hkinds, hattempts]
    intro kind hkind runbook hrunbook
    rw [ownAttempts_map hf]
    exact (h.sound kind hkind runbook hrunbook).map hf

/-- The property of a step, for every incident and its runbook. -/
def BoundedStep (config : Config ρ) (before after : Db ρ) : Prop :=
  ∀ incident ∈ after.incidents, ∀ runbook ∈ runbookFor config incident.faultType,
    Bounded runbook (ownAttempts before.attempts incident.id runbook.name)
      (ownAttempts after.attempts incident.id runbook.name)

/-- A heartbeat keeps the tables consistent, and its step is bounded. -/
theorem Reconciled.consistent {config : Config ρ} {db received after : Db ρ} {past now : Time}
    (h : Reconciled config now received after) (hreceived : Consistent config ⟨received, past⟩)
    (hnow : past < now) {f : RepairAttempt → RepairAttempt} (hf : Settles f)
    (hattempts : received.attempts = db.attempts.map f) :
    Consistent config ⟨after, now⟩ ∧ BoundedStep config db after := by
  have hkindsNodup : ((kinds after).map Prod.fst).Nodup := by
    obtain hkinds | ⟨kind, hfresh, hkinds⟩ := h.incidents
    · rw [hkinds]
      exact hreceived.incidents
    · rw [hkinds, List.map_append, List.map_singleton, List.nodup_append]
      refine ⟨hreceived.incidents, List.nodup_singleton _, fun id hid other hother heq => hfresh ?_⟩
      rw [← List.mem_singleton.mp hother, ← heq]
      exact hid
  have hsub : ∀ id ∈ (kinds received).map Prod.fst, id ∈ (kinds after).map Prod.fst := by
    obtain hkinds | ⟨kind, -, hkinds⟩ := h.incidents
    · rw [hkinds]
      exact fun _ => id
    · rw [hkinds, List.map_append]
      exact fun _ => List.mem_append_left _
  -- the attempts of an incident that there was not before are none
  have hsound : ∀ kind ∈ kinds after, ∀ runbook ∈ runbookFor config kind.2,
      Sound runbook now (ownAttempts received.attempts kind.1 runbook.name) := by
    intro kind hkind runbook hrunbook
    have hbefore (hmem : kind ∈ kinds received) :
        Sound runbook now (ownAttempts received.attempts kind.1 runbook.name) :=
      (hreceived.sound kind hmem runbook hrunbook).mono hnow.le
    obtain hkinds | ⟨new, hfresh, hkinds⟩ := h.incidents
    · rw [hkinds] at hkind
      exact hbefore hkind
    · rw [hkinds, List.mem_append, List.mem_singleton] at hkind
      obtain hkind | rfl := hkind
      · exact hbefore hkind
      · rw [ownAttempts_of_fresh fun attempt hattempt (heq : attempt.incidentID = kind.1) =>
          hfresh (heq ▸ hreceived.owned attempt hattempt)]
        exact .nil runbook now
  have hboth : ∀ kind ∈ kinds after, ∀ runbook ∈ runbookFor config kind.2,
      Sound runbook now (ownAttempts after.attempts kind.1 runbook.name) ∧
        Bounded runbook (ownAttempts db.attempts kind.1 runbook.name)
          (ownAttempts after.attempts kind.1 runbook.name) := by
    intro kind hkind runbook hrunbook
    have hown := hsound kind hkind runbook hrunbook
    have hownMap : ownAttempts received.attempts kind.1 runbook.name =
        (ownAttempts db.attempts kind.1 runbook.name).map f := by
      rw [hattempts, ownAttempts_map hf]
    rw [hownMap] at hown
    obtain hafter | ⟨attempt, own, hownMem, ownRunbook, hownRunbook, hid, haction, hafter,
      hextends⟩ := h.attempts
    · rw [hafter, hownMap]
      exact ⟨hown, hown.bounded_of_map⟩
    · by_cases hsame : attempt.incidentID = kind.1 ∧ attempt.action = runbook.name
      · -- the incident has one fault, and with it one runbook
        have hkindEq : own = kind :=
          List.inj_on_of_nodup_map hkindsNodup hownMem hkind (hid.symm.trans hsame.1)
        subst hkindEq
        obtain rfl : ownRunbook = runbook :=
          Option.some_inj.mp (hownRunbook.symm.trans hrunbook)
        have hownAfter : ownAttempts after.attempts own.1 ownRunbook.name =
            ownAttempts received.attempts own.1 ownRunbook.name ++ [attempt] := by
          rw [hafter, ownAttempts, List.filter_append, ownAttempts]
          simp [hid, haction]
        rw [hownMap] at hownAfter hextends
        have hafterSound := hown.append hextends
        rw [hownAfter]
        exact ⟨hafterSound, hafterSound.bounded_of_append hextends⟩
      · have hownAfter : ownAttempts after.attempts kind.1 runbook.name =
            ownAttempts received.attempts kind.1 runbook.name := by
          have hother :
              (attempt.incidentID == kind.1 && attempt.action == runbook.name) = false := by
            simpa using hsame
          rw [hafter, ownAttempts, List.filter_append, ownAttempts]
          simp [hother]
        rw [hownAfter, hownMap]
        exact ⟨hown, hown.bounded_of_map⟩
  refine ⟨⟨h.keys, hkindsNodup, ?_, fun kind hkind runbook hrunbook =>
    (hboth kind hkind runbook hrunbook).1⟩, fun incident hincident runbook hrunbook =>
    (hboth _ (List.mem_map.mpr ⟨incident, hincident, rfl⟩) runbook hrunbook).2⟩
  intro attempt hattempt
  obtain hafter | ⟨new, kind, hkind, _, _, hid, _, hafter, _⟩ := h.attempts
  · dsimp only at hattempt
    rw [hafter] at hattempt
    exact hsub _ (hreceived.owned attempt hattempt)
  · dsimp only at hattempt
    rw [hafter, List.mem_append, List.mem_singleton] at hattempt
    obtain hattempt | rfl := hattempt
    · exact hsub _ (hreceived.owned attempt hattempt)
    · rw [hid]
      exact List.mem_map_of_mem hkind

/-! ### Runs of heartbeats -/

/-- The tables when a heartbeat, whose results are recorded, is reconciled. -/
def receive (config : Config ρ) (world : World ρ) (input : Input) : Db ρ :=
  recordAgentResults config.results input.heartbeat.agentID (world.now + input.wait) world.db
    input.heartbeat.events

/-- The heartbeat does not plan a further repair that needs an approval. -/
def Clear (config : Config ρ) (world : World ρ) (input : Input) : Prop :=
  ¬input.heartbeat.ApprovalAgain config (world.now + input.wait) (receive config world input)

theorem step_consistent {config : Config ρ} {world : World ρ} {input : Input}
    (hclear : Clear config world input) (h : Consistent config world) :
    Consistent config (step config world input) ∧
      BoundedStep config world.db (step config world input).db := by
  obtain ⟨db, past⟩ := world
  have hnow : past < past + input.wait := lt_add_of_pos_right past input.later
  have hunchanged : Reconciled config (past + input.wait) db db :=
    ⟨h.keys, .inl rfl, .inl rfl⟩
  have hid : Settles (id : RepairAttempt → RepairAttempt) :=
    ⟨fun _ => rfl, fun _ => rfl, fun _ => rfl, fun _ => rfl, fun _ => rfl, fun _ _ => rfl⟩
  unfold step
  dsimp only
  cases hheartbeat : agentHeartbeat config (past + input.wait) db input.heartbeat with
  | error e =>
    exact hunchanged.consistent h hnow hid (List.map_id db.attempts).symm
  | ok after =>
    obtain ⟨reconciled, hreconciled, hafter⟩ := bind_eq_ok.mp hheartbeat
    obtain ⟨hkeys, hkinds, f, hf, hattempts⟩ := recordAgentResults_rows config.results
      input.heartbeat.agentID (past + input.wait) input.heartbeat.events h.keys
    have hreceived := h.received hkeys hkinds hf hattempts
    have hcases := reconcile_cases hreconciled hreceived hnow hclear
    cases hafter
    -- the delivery leaves the ids of the tasks and the other tables
    have hdelivered : Reconciled config (past + input.wait) (receive config ⟨db, past⟩ input)
        { reconciled with
          tasks := reconciled.tasks.map fun task =>
            if task.id ∈ (deliverable input.heartbeat.agentID (past + input.wait)
              reconciled.tasks).map (·.id) then { task with status := .delivered } else task } := by
      refine ⟨⟨?_, hcases.keys.attempts⟩, hcases.incidents, hcases.attempts⟩
      dsimp only
      rw [List.map_map]
      refine (congrArg List.Nodup (List.map_congr_left fun task _ => ?_)).mpr hcases.keys.tasks
      rw [Function.comp_apply]
      split_ifs <;> rfl
    exact hdelivered.consistent hreceived hnow hf hattempts

/-- In every run of heartbeats from tables without attempts in which no heartbeat
plans a further repair that needs an approval, for every incident with its
runbook: there are never more real attempts than the runbook allows, they are
the cooldown apart, none of them comes before a dry run that passed, and no
attempt is made while another one is open. -/
theorem repairs_bounded (config : Config ρ) (world : World ρ) (hkeys : world.db.Keys)
    (hincidents : (world.db.incidents.map (·.id)).Nodup) (hnone : world.db.attempts = [])
    (inputs : List Input) (h : Meets (step config) (Clear config) world inputs) :
    Meets (step config) (fun world input =>
      BoundedStep config world.db (step config world input).db) world inputs := by
  have hconsistent : Consistent config world := by
    refine ⟨hkeys, ?_, ?_, ?_⟩
    · rw [kinds, List.map_map]
      exact hincidents
    · rw [hnone]
      intro attempt hattempt
      cases hattempt
    · rw [hnone]
      exact fun kind _ runbook _ => .nil runbook world.now
  exact h.of_invariant (fun _ _ hclear => step_consistent hclear) hconsistent

/-- Runbooks of level 1 need no approvals. -/
theorem clear_of_level_one {config : Config ρ}
    (hlevel : ∀ file runbook, config.loadRunbook file = .ok runbook → runbook.riskLevel = 1)
    (world : World ρ) (input : Input) : Clear config world input := by
  rintro ⟨-, observation, -, incident, -, runbook, hrunbook, latest, -, -, -, -, -, happroval⟩
  unfold runbookFor at hrunbook
  split at hrunbook
  · rename_i file _
    cases hload : config.loadRunbook file with
    | error e =>
      rw [hload] at hrunbook
      cases hrunbook
    | ok loaded =>
      rw [hload] at hrunbook
      cases hrunbook
      simp [Runbook.requiresApproval, hlevel file runbook hload] at happroval
  · cases hrunbook

/-! ### A cache that fills up -/

section CachePressure

def cleanupCache (riskLevel : Int) (maxAttempts : Nat)
    (known : riskLevel = 1 ∨ riskLevel = 2 ∨ riskLevel = 3) (hpos : 1 ≤ maxAttempts) : Runbook where
  name := "cleanup_allowlisted_cache"
  riskLevel := riskLevel
  conditions := [⟨.faultType, some (.string "storage_pressure")⟩]
  actions := [⟨"cleanup_cache", .ofList [("target", "$\x7bcache_path\x7d")]⟩]
  postchecks := [⟨"local_health_check", .ofList [("target", "$\x7bhealth_url\x7d")]⟩]
  cooldown := minutes 10
  maxAttempts := maxAttempts
  known := known
  cooldown_pos := by decide
  maxAttempts_pos := hpos

def withRunbook (runbook : Runbook) : Config Unit where
  settings := ⟨echoKey, 60⟩
  results := keepAll
  loadRunbook := fun _ => .ok runbook

def noAttempts : World Unit := ⟨⟨[], [], [], [], [], ()⟩, 0⟩

def storagePressure : Observation where
  faultType := "storage_pressure"
  service := "fixture-cache"
  ruleID := "disk"
  context := .ofList [("agent_online", "true"), ("service", "fixture-cache"),
    ("cache_path", "/var/lib/vps-guardian-staging/fixtures/cache"),
    ("health_url", "http://127.0.0.1:18080/health")]

/-- A heartbeat of a staging host, with the results of some tasks. The numbers of
its tasks start at ten times its own. -/
def cacheHeartbeat (number : Nat) (level2 attemptID : String) (succeeded : List Nat) :
    Heartbeat where
  agentID := "agent-1"
  hostID := "host-1"
  labels := .ofList [("guardian_profile", "staging_acceptance"),
    ("guardian_stage_id", "aaaaaaaaaaaaaaaaaaaaaaaaaaaaaaaa"), ("guardian_level2_caddy", level2)]
  events := succeeded.map fun task => .actionResult (resultOf (uuid4 task) true)
  observation := some storagePressure
  draws := ⟨"incident-1", attemptID ++ "-approval", attemptID,
    fun index => Entropy.ofUUID (10 * number + index)⟩

def after (wait : Time) (later : 0 < wait) (heartbeat : Heartbeat) : Input :=
  ⟨wait, later, heartbeat⟩

/-- A dry run, the repair, and two heartbeats more once it has succeeded; the
Level 2 label is on at the second heartbeat only. -/
def fourHeartbeats : List Input := [
  after (minutes 1) (by decide) (cacheHeartbeat 1 "false" "attempt-1" []),
  after (minutes 1) (by decide) (cacheHeartbeat 2 "true" "attempt-2" [10]),
  after (minutes 20) (by decide) (cacheHeartbeat 3 "false" "attempt-3" [20, 21]),
  after (minutes 1) (by decide) (cacheHeartbeat 4 "false" "attempt-4" [])]

theorem repairs_bounded_cache :
    Meets (step (withRunbook (cleanupCache 1 2 (by decide) (by decide))))
      (fun world input => BoundedStep (withRunbook (cleanupCache 1 2 (by decide) (by decide)))
        world.db (step (withRunbook (cleanupCache 1 2 (by decide) (by decide))) world input).db)
      noAttempts fourHeartbeats :=
  repairs_bounded _ noAttempts ⟨List.nodup_nil, List.nodup_nil⟩ List.nodup_nil rfl fourHeartbeats
    (Meets.of_forall (clear_of_level_one fun _ _ h => by cases h; rfl) noAttempts fourHeartbeats)

/-- A new attempt while one before it is open. -/
theorem not_bounded_of_open {runbook : Runbook} {before after : List RepairAttempt}
    (hlength : after.length = before.length + 1)
    (hopen : ∃ attempt ∈ after.dropLast, attempt.success = none) :
    ¬ Bounded runbook before after := by
  intro h
  have hne : after ≠ [] := by
    rintro rfl
    cases hlength
  obtain ⟨attempt, hattempt, hsuccess⟩ := hopen
  refine (h.created after.dropLast (after.getLast hne) []
    (List.dropLast_append_getLast hne).symm ?_).1 attempt hattempt hsuccess
  rw [List.length_dropLast, hlength, Nat.add_sub_cancel]

/-- With a runbook of level 2 that may be tried twice, the third and the fourth
heartbeat both plan a repair that waits for an approval. -/
theorem approvals_pile_up :
    ¬ Meets (step (withRunbook (cleanupCache 2 2 (by decide) (by decide))))
      (fun world input => BoundedStep (withRunbook (cleanupCache 2 2 (by decide) (by decide)))
        world.db (step (withRunbook (cleanupCache 2 2 (by decide) (by decide))) world input).db)
      noAttempts fourHeartbeats := by
  intro h
  have hlast := h.2.2.2.1
  obtain ⟨incident, hincident, hid, hfault⟩ : ∃ incident ∈ (run (step (withRunbook
      (cleanupCache 2 2 (by decide) (by decide)))) noAttempts fourHeartbeats).db.incidents,
      incident.id = "incident-1" ∧ incident.faultType = "storage_pressure" := by
    decide +kernel
  have hbounded := hlast incident hincident (cleanupCache 2 2 (by decide) (by decide))
    (by rw [hfault]; rfl)
  rw [hid] at hbounded
  refine not_bounded_of_open ?_ ?_ hbounded
  · decide +kernel
  · decide +kernel

end CachePressure

end VpsGuardian.Repair
