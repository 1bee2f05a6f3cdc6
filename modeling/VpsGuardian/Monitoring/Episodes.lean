import Mathlib.Data.List.DropRight
import VpsGuardian.Monitoring.Recovery

/-!
The episode an alert's `fired_at` belongs to.

An episode begins when the alert leaves `ok`, `resolved` or `closed`. The
stability report (`build_stability_report` in `stability.py`) takes the time from
`fired_at` to `resolved_at` for the time the last episode took to recover, but no
episode begins by removing the `fired_at` of the one before.
-/

namespace VpsGuardian.Monitoring

open Lib
open Controller (HTTPException Time seconds minutes)

def AlertState.isInactive : AlertState → Bool
  | .ok | .resolved | .closed => true
  | .pending | .firing | .acknowledged | .silenced => false

namespace Alerting

/-- The state of the alert of the rule, which is `ok` before there is one. -/
def stateOf (db : Alerts) : AlertState := (db.alert.map (·.state)).getD .ok

def firedAtOf (db : Alerts) : Option Time := db.alert.bind (·.firedAt)

/-- The transitions since the alert was last in `ok`, `resolved` or `closed`. -/
def episode (transitions : List AlertTransition) : List AlertTransition :=
  transitions.rtakeWhile fun transition => !transition.currentState.isInactive

/-- When the alert first went into `firing` in an episode. -/
def firstFiring (episode : List AlertTransition) : Option Time :=
  (episode.find? (·.currentState = .firing)).map (·.observedAt)

/-- The entry of `recoveries` that `build_stability_report` makes of an alert. -/
def recoveryTime (alert : AlertInstance) : Option Time :=
  match alert.firedAt, alert.resolvedAt with
  | some firedAt, some resolvedAt =>
      if firedAt ≤ resolvedAt then some (resolvedAt - firedAt) else none
  | _, _ => none

/-- An observation that resolves the alert leaves the interval of the episode that ends. -/
def MeasuresEpisode (config : Config) (db : Alerts) (input : Input) : Prop :=
  ∀ alert ∈ (step config db input).alert, stateOf db ≠ .resolved → alert.state = .resolved →
    alert.firedAt = firstFiring (episode db.transitions) ∧ alert.resolvedAt = some input.now ∧
      recoveryTime alert = (firstFiring (episode db.transitions)).map (input.now - ·)

instance (config : Config) (db : Alerts) (input : Input) :
    Decidable (MeasuresEpisode config db input) :=
  inferInstanceAs (Decidable (∀ alert ∈ (step config db input).alert, _ → _ → _ ∧ _ ∧ _))

/-- The operation takes an inactive alert into a new episode, or resolves a closed one. -/
def Begins (rule : AlertRule) (alert : AlertInstance) (now : Time) : Operation → Prop
  | .observe false _ => True
  | .observe true _ =>
      alert.state = .closed ∧ rule.recoveryThreshold ≤ alert.consecutiveSuccesses + 1
  | .silence _ _ until_ => now < until_ ∧ until_ ≤ now + seconds (30 * 86400)
  | _ => False

instance (rule : AlertRule) (alert : AlertInstance) (now : Time) :
    ∀ operation, Decidable (Begins rule alert now operation)
  | .observe false _ => isTrue trivial
  | .observe true _ | .silence _ _ _ => inferInstanceAs (Decidable (_ ∧ _))
  | .acknowledge _ | .update _ _ _ | .addSilence _ | .addWindow _ => isFalse id

/-- An inactive alert that goes into an episode has never fired. -/
def StartsUnfired (config : Config) (db : Alerts) (input : Input) : Prop :=
  ∀ alert ∈ db.alert, alert.state.isInactive = true →
    Begins config.rule alert input.now input.operation → alert.firedAt = none

instance (config : Config) (db : Alerts) (input : Input) :
    Decidable (StartsUnfired config db input) :=
  inferInstanceAs (Decidable (∀ alert ∈ db.alert, _ → _ → _))

/-! ### What an operation does to the state -/

/-- Nothing, or a move from one state to another, which is recorded. -/
inductive Effect (now : Time) (db after : Alerts) : Prop
  | same (transitions : after.transitions = db.transitions) (state : stateOf after = stateOf db)
      (firedAt : firedAtOf after = firedAtOf db)
  | moved (reason : String)
      (transitions : after.transitions =
        db.transitions ++ [⟨stateOf db, stateOf after, reason, now⟩])
      (firedAt : firedAtOf after =
        if stateOf after = .firing then (firedAtOf db).or (some now) else firedAtOf db)

variable {config : Config}

theorem recordTransition_effect {db after : Alerts} (reason : String) {now : Time}
    (htransitions : after.transitions =
      db.transitions ++ recordTransition (stateOf db) (stateOf after) reason now)
    (hfiredAt : firedAtOf after = if stateOf after = .firing ∧ stateOf db ≠ .firing then
      (firedAtOf db).or (some now) else firedAtOf db) :
    Effect now db after := by
  by_cases hstate : stateOf db = stateOf after
  · refine .same ?_ hstate.symm ?_
    · rw [htransitions, recordTransition, if_pos hstate, List.append_nil]
    · rw [hfiredAt, if_neg fun h => h.2 (hstate.trans h.1)]
  · refine .moved (.ofList (reason.toList.take 255)) ?_ ?_
    · rw [htransitions, recordTransition, if_neg hstate]
    · rw [hfiredAt]
      by_cases hfiring : stateOf after = .firing
      · rw [if_pos hfiring, if_pos ⟨hfiring, fun h => hstate (h.trans hfiring.symm)⟩]
      · rw [if_neg hfiring, if_neg fun h => hfiring h.1]

theorem observed_state (alertID : String) (db : Alerts) (summary : String) (now : Time) :
    (observed alertID db summary now).state = stateOf db := by
  cases hdb : db.alert <;> simp [observed, newAlert, stateOf, hdb]

theorem observed_firedAt (alertID : String) (db : Alerts) (summary : String) (now : Time) :
    (observed alertID db summary now).firedAt = firedAtOf db := by
  cases hdb : db.alert <;> simp [observed, newAlert, firedAtOf, hdb]

/-- Only the transition into `firing` touches `fired_at`. -/
theorem judge_firedAt (rule : AlertRule) (alertID : String) (db : Alerts) (success : Bool)
    (summary : String) (now : Time) :
    (judge rule alertID db success summary now).alert.firedAt =
      if (judge rule alertID db success summary now).alert.state = .firing ∧
          stateOf db ≠ .firing then (firedAtOf db).or (some now)
      else firedAtOf db := by
  rw [← observed_state alertID db summary now, ← observed_firedAt alertID db summary now]
  unfold judge
  dsimp only
  generalize observed alertID db summary now = alert
  cases success with
  | true =>
    rw [if_pos rfl, observeSuccess]
    dsimp only
    split_ifs <;> simp_all
  | false =>
    rw [if_neg Bool.false_ne_true, observeFailure]
    dsimp only
    split_ifs <;> simp_all

/-- The row an observation leaves has the state and the times that were judged. -/
theorem observeAlert_row (config : Config) (db : Alerts) (success : Bool) (summary : String)
    (now : Time) :
    let judged := judge config.rule config.alertID db success summary now
    ∃ alert, (step config db ⟨now, .observe success summary⟩).alert = some alert ∧
      alert.state = judged.alert.state ∧ alert.firedAt = judged.alert.firedAt ∧
      alert.resolvedAt = judged.alert.resolvedAt := by
  intro judged
  obtain ⟨-, halert, -⟩ | ⟨event, -, halert, -⟩ :=
    observeAlert_cases config.channels config.rule config.alertID db success summary now
  · exact ⟨_, halert, rfl, rfl, rfl⟩
  · obtain ⟨lastNotifiedAt, notificationCount, hsent⟩ :=
      scheduleNotifications_alert config.channels config.rule judged.alert event now
    rw [hsent] at halert
    exact ⟨_, halert, rfl, rfl, rfl⟩

theorem observeAlert_effect (db : Alerts) (success : Bool) (summary : String) (now : Time) :
    Effect now db (step config db ⟨now, .observe success summary⟩) := by
  obtain ⟨alert, halert, hstate, hfiredAt, -⟩ :=
    observeAlert_row config db success summary now
  have hafter : stateOf (step config db ⟨now, .observe success summary⟩) =
      (judge config.rule config.alertID db success summary now).alert.state := by
    rw [stateOf, halert, ← hstate]
    rfl
  have hfired : firedAtOf (step config db ⟨now, .observe success summary⟩) =
      (judge config.rule config.alertID db success summary now).alert.firedAt := by
    rw [firedAtOf, halert, ← hfiredAt]
    rfl
  refine recordTransition_effect
    (judge config.rule config.alertID db success summary now).reason ?_ ?_
  · rw [hafter, ← observed_state config.alertID db summary now]
    rfl
  · rw [hafter, hfired, judge_firedAt]

/-- A request of an operator has an effect if what it makes of the alert has. -/
theorem withAlert_effect {db : Alerts} {now : Time}
    {change : AlertInstance → Except HTTPException Alerts}
    (h : ∀ alert, db.alert = some alert → ∀ after, change alert = .ok after →
      Effect now db after) :
    Effect now db ((withAlert db change).toOption.getD db) := by
  cases hresult : withAlert db change with
  | error e => exact .same rfl rfl rfl
  | ok after =>
    obtain ⟨alert, halert, hafter⟩ := orRaise_bind_eq_ok.mp hresult
    exact h alert halert after hafter

theorem acknowledgeAlert_effect (db : Alerts) (actor : String) (now : Time) :
    Effect now db ((acknowledgeAlert db actor now).toOption.getD db) := by
  refine withAlert_effect fun alert halert after h => ?_
  obtain ⟨-, h⟩ := raiseIf_bind_eq_ok.mp h
  cases h
  refine recordTransition_effect "acknowledged by operator" ?_ ?_ <;>
    simp [stateOf, firedAtOf, halert]

theorem silenceAlert_effect (db : Alerts) (actor reason : String) (until_ now : Time) :
    Effect now db ((silenceAlert db actor reason until_ now).toOption.getD db) := by
  refine withAlert_effect fun alert halert after h => ?_
  obtain ⟨-, h⟩ := raiseIf_bind_eq_ok.mp h
  cases h
  refine recordTransition_effect "silenced by operator" ?_ ?_ <;>
    simp [stateOf, firedAtOf, halert]

theorem updateAlert_effect (activeUsers : List String) (db : Alerts) (assignedTo : Option String)
    (close : Bool) (note : String) (now : Time) :
    Effect now db ((updateAlert activeUsers db assignedTo close note now).toOption.getD db) := by
  refine withAlert_effect fun alert halert after h => ?_
  obtain ⟨-, h⟩ := raiseIf_bind_eq_ok.mp h
  obtain ⟨-, h⟩ := raiseIf_bind_eq_ok.mp h
  cases close with
  | false =>
    cases h
    refine .same rfl ?_ ?_ <;> simp [stateOf, firedAtOf, halert]
  | true =>
    cases h
    refine .moved (if note = "" then "closed by operator" else note) ?_ ?_ <;>
      simp [stateOf, firedAtOf, halert]

theorem step_effect (config : Config) (db : Alerts) (input : Input) :
    Effect input.now db (step config db input) := by
  obtain ⟨now, operation⟩ := input
  cases operation with
  | observe success summary => exact observeAlert_effect db success summary now
  | acknowledge actor => exact acknowledgeAlert_effect db actor now
  | silence actor reason until_ => exact silenceAlert_effect db actor reason until_ now
  | update assignedTo close note =>
    exact updateAlert_effect config.activeUsers db assignedTo close note now
  | addSilence silence => exact .same rfl rfl rfl
  | addWindow window => exact .same rfl rfl rfl

/-! ### Where an episode begins and ends -/

/-- The moves an operator can make. -/
inductive OperatorMove (config : Config) (db : Alerts) (input : Input) (moved : AlertState) : Prop
  | acknowledged (active : (stateOf db).isInactive = false) (eq : moved = .acknowledged)
  | silenced (begins : ∀ alert, Begins config.rule alert input.now input.operation)
      (eq : moved = .silenced)
  | closed (eq : moved = .closed)

theorem stateOf_of_some {db : Alerts} {alert : AlertInstance} (h : db.alert = some alert) :
    stateOf db = alert.state := by
  rw [stateOf, h]
  rfl

theorem withAlert_move {db : Alerts} {input : Input}
    {change : AlertInstance → Except HTTPException Alerts}
    (h : ∀ alert, db.alert = some alert → ∀ after, change alert = .ok after →
      stateOf after = stateOf db ∨ OperatorMove config db input (stateOf after)) :
    stateOf ((withAlert db change).toOption.getD db) = stateOf db ∨
      OperatorMove config db input (stateOf ((withAlert db change).toOption.getD db)) := by
  cases hresult : withAlert db change with
  | error e => exact .inl rfl
  | ok after =>
    obtain ⟨alert, halert, hafter⟩ := orRaise_bind_eq_ok.mp hresult
    exact h alert halert after hafter

theorem operator_move (config : Config) (db : Alerts) (input : Input)
    (hoperator : ∀ success summary, input.operation ≠ .observe success summary) :
    stateOf (step config db input) = stateOf db ∨
      OperatorMove config db input (stateOf (step config db input)) := by
  obtain ⟨now, operation⟩ := input
  cases operation with
  | observe success summary => exact absurd rfl (hoperator success summary)
  | acknowledge actor =>
    refine withAlert_move fun alert halert after h => .inr ?_
    obtain ⟨hstate, h⟩ := raiseIf_bind_eq_ok.mp h
    cases h
    refine .acknowledged ?_ rfl
    rw [stateOf_of_some halert]
    cases hfound : alert.state <;> simp_all [AlertState.isInactive]
  | silence actor reason until_ =>
    refine withAlert_move fun alert halert after h => .inr ?_
    obtain ⟨huntil, h⟩ := raiseIf_bind_eq_ok.mp h
    cases h
    rw [not_or, not_le, not_lt] at huntil
    exact .silenced (fun _ => huntil) rfl
  | update assignedTo close note =>
    refine withAlert_move fun alert halert after h => ?_
    obtain ⟨-, h⟩ := raiseIf_bind_eq_ok.mp h
    obtain ⟨-, h⟩ := raiseIf_bind_eq_ok.mp h
    cases close with
    | true =>
      cases h
      exact .inr (.closed rfl)
    | false =>
      cases h
      exact .inl (stateOf_of_some halert).symm
  | addSilence silence => exact .inl rfl
  | addWindow window => exact .inl rfl

/-- A success leaves an inactive alert inactive, and resolves it only if it is closed. -/
theorem observeSuccess_inactive (rule : AlertRule) (alert : AlertInstance) (now : Time)
    (hinactive : alert.state.isInactive = true) :
    (observeSuccess rule alert now).alert.state.isInactive = true ∧
      (alert.state ≠ .resolved → (observeSuccess rule alert now).alert.state = .resolved →
        alert.state = .closed ∧ rule.recoveryThreshold ≤ alert.consecutiveSuccesses + 1) := by
  rw [observeSuccess]
  dsimp only
  by_cases hresolved : alert.state = .resolved
  · rw [if_pos hresolved]
    exact ⟨rfl, fun h => absurd hresolved h⟩
  rw [if_neg hresolved]
  split
  · next hthreshold =>
    refine ⟨rfl, fun _ _ => ⟨?_, by exact_mod_cast hthreshold.2⟩⟩
    cases hstate : alert.state <;> simp_all [AlertState.isInactive]
  · exact ⟨hinactive, fun hne h => absurd h hne⟩

/-- Only a success resolves an alert, at the time it is observed. -/
theorem judge_resolves {rule : AlertRule} {alertID : String} {db : Alerts} {success : Bool}
    {summary : String} {now : Time} (hne : stateOf db ≠ .resolved)
    (h : (judge rule alertID db success summary now).alert.state = .resolved) :
    success = true ∧
      (judge rule alertID db success summary now).alert.resolvedAt = some now := by
  rw [← observed_state alertID db summary now] at hne
  revert h
  unfold judge
  dsimp only
  generalize observed alertID db summary now = alert at hne
  cases success with
  | true =>
    rw [if_pos rfl, observeSuccess]
    dsimp only
    rw [if_neg hne]
    split
    · exact fun _ => ⟨rfl, rfl⟩
    · exact fun h => absurd h hne
  | false =>
    rw [if_neg Bool.false_ne_true, observeFailure]
    dsimp only
    split
    · nofun
    split
    · exact fun h => absurd h hne
    split <;> nofun

theorem resolvedAt_of_resolves {db : Alerts} {input : Input} {alert : AlertInstance}
    (halert : (step config db input).alert = some alert) (hne : stateOf db ≠ .resolved)
    (h : alert.state = .resolved) : alert.resolvedAt = some input.now := by
  have hafter : stateOf (step config db input) = .resolved := (stateOf_of_some halert).trans h
  by_cases hobserve : ∃ success summary, input.operation = .observe success summary
  · obtain ⟨success, summary, hoperation⟩ := hobserve
    obtain ⟨now, operation⟩ := input
    cases hoperation
    obtain ⟨row, hrow, hstate, -, hresolvedAt⟩ :=
      observeAlert_row config db success summary now
    obtain rfl : row = alert := Option.some.inj (hrow.symm.trans halert)
    rw [hresolvedAt]
    exact (judge_resolves hne (hstate.symm.trans h)).2
  · have hoperator : ∀ success summary, input.operation ≠ .observe success summary :=
      fun success summary heq => hobserve ⟨success, summary, heq⟩
    obtain hsame | ⟨-, hmoved⟩ | ⟨-, hmoved⟩ | hmoved :=
      operator_move config db input hoperator
    · exact absurd (hsame.symm.trans hafter) hne
    all_goals
      rw [hafter] at hmoved
      cases hmoved

/-- An alert that leaves its inactive states, or is resolved after it was closed, has not fired. -/
theorem unfired_of_begins {db : Alerts} {input : Input} (hstart : StartsUnfired config db input)
    (hinactive : (stateOf db).isInactive = true)
    (hleaves : (stateOf (step config db input)).isInactive = false ∨
      stateOf db ≠ .resolved ∧ stateOf (step config db input) = .resolved) :
    firedAtOf db = none := by
  cases hdb : db.alert with
  | none =>
    rw [firedAtOf, hdb]
    rfl
  | some row =>
    have hrow := stateOf_of_some hdb
    have hfired : firedAtOf db = row.firedAt := by
      rw [firedAtOf, hdb]
      rfl
    rw [hfired]
    refine hstart row hdb (hrow ▸ hinactive) ?_
    by_cases hobserve : ∃ success summary, input.operation = .observe success summary
    · obtain ⟨success, summary, hoperation⟩ := hobserve
      obtain ⟨now, operation⟩ := input
      cases hoperation
      cases success with
      | false => trivial
      | true =>
        obtain ⟨after, hafter, hstate, -⟩ :=
          observeAlert_row config db true summary now
        have hobserved := observed_state config.alertID db summary now
        obtain ⟨hstays, hcloses⟩ := observeSuccess_inactive config.rule
          (observed config.alertID db summary now) now (hobserved ▸ hinactive)
        rw [stateOf_of_some hafter, hstate] at hleaves
        obtain hactive | ⟨hne, hresolved⟩ := hleaves
        · exact absurd (hstays.symm.trans hactive) (by decide)
        · obtain ⟨hclosed, hthreshold⟩ := hcloses (hobserved ▸ hne) hresolved
          rw [observed, hdb] at hclosed hthreshold
          exact ⟨hclosed, hthreshold⟩
    · have hoperator : ∀ success summary, input.operation ≠ .observe success summary :=
        fun success summary heq => hobserve ⟨success, summary, heq⟩
      obtain hsame | ⟨hactive, -⟩ | ⟨hbegins, -⟩ | hmoved :=
        operator_move config db input hoperator
      · rw [hsame, hinactive] at hleaves
        exact absurd hleaves (by simp)
      · rw [hinactive] at hactive
        cases hactive
      · exact hbegins row
      · rw [hmoved] at hleaves
        exact absurd hleaves (by simp [AlertState.isInactive])

/-! ### Runs -/

/-- The alert's `fired_at` is that of the episode it is in. -/
structure Tracked (db : Alerts) : Prop where
  active : (stateOf db).isInactive = false →
    firedAtOf db = firstFiring (episode db.transitions)
  inactive : (stateOf db).isInactive = true → firstFiring (episode db.transitions) = none

theorem tracked_start (silences : List AlertSilence) (windows : List MaintenanceWindow) :
    Tracked (start silences windows) :=
  ⟨nofun, fun _ => rfl⟩

theorem firstFiring_append (transitions : List AlertTransition) (transition : AlertTransition) :
    firstFiring (episode (transitions ++ [transition])) =
      if transition.currentState.isInactive then none
      else (firstFiring (episode transitions)).or
        (if transition.currentState = .firing then some transition.observedAt else none) := by
  rw [episode, List.rtakeWhile_concat]
  cases hinactive : transition.currentState.isInactive with
  | true => rfl
  | false =>
    rw [if_pos (Bool.not_false ▸ rfl), firstFiring, List.find?_append,
      if_neg Bool.false_ne_true, firstFiring]
    cases hfound : (episode transitions).find? (·.currentState = .firing) with
    | some first =>
      rw [episode] at hfound
      rw [hfound]
      rfl
    | none =>
      rw [episode] at hfound
      rw [hfound]
      by_cases hfiring : transition.currentState = .firing <;> simp [hfiring]

theorem Tracked.step {db : Alerts} {input : Input} (h : Tracked db)
    (hstart : StartsUnfired config db input) : Tracked (Alerting.step config db input) := by
  cases step_effect config db input with
  | same htransitions hstate hfiredAt =>
    exact ⟨by rw [htransitions, hstate, hfiredAt]; exact h.active,
      by rw [htransitions, hstate]; exact h.inactive⟩
  | moved reason htransitions hfiredAt =>
    refine ⟨fun hactive => ?_, fun hinactive => ?_⟩
    · have hbefore : firedAtOf db = firstFiring (episode db.transitions) := by
        cases hinactive : (stateOf db).isInactive with
        | false => exact h.active hinactive
        | true => rw [unfired_of_begins hstart hinactive (.inl hactive), h.inactive hinactive]
      rw [htransitions, firstFiring_append, hactive, if_neg Bool.false_ne_true, hfiredAt, hbefore]
      by_cases hfiring : stateOf (Alerting.step config db input) = .firing <;> simp [hfiring]
    · rw [htransitions, firstFiring_append, hinactive, if_pos rfl]

theorem MeasuresEpisode.of_tracked {db : Alerts} {input : Input} (h : Tracked db)
    (hstart : StartsUnfired config db input)
    (hearlier : ∀ transition ∈ db.transitions, transition.observedAt < input.now) :
    MeasuresEpisode config db input := by
  intro alert halert hne hresolved
  have hafter : stateOf (Alerting.step config db input) = .resolved :=
    (stateOf_of_some halert).trans hresolved
  have hresolvedAt := resolvedAt_of_resolves halert hne hresolved
  have hfiredAt : alert.firedAt = firstFiring (episode db.transitions) := by
    have hbefore : firedAtOf db = firstFiring (episode db.transitions) := by
      cases hinactive : (stateOf db).isInactive with
      | false => exact h.active hinactive
      | true =>
        rw [unfired_of_begins hstart hinactive (.inr ⟨hne, hafter⟩), h.inactive hinactive]
    have hrow : alert.firedAt = firedAtOf (Alerting.step config db input) := by
      rw [firedAtOf, halert]
      rfl
    rw [hrow, ← hbefore]
    cases step_effect config db input with
    | same _ _ hfiredAt => exact hfiredAt
    | moved _ _ hfiredAt => rw [hfiredAt, hafter, if_neg (by decide)]
  refine ⟨hfiredAt, hresolvedAt, ?_⟩
  rw [recoveryTime, hfiredAt, hresolvedAt]
  cases hfirst : firstFiring (episode db.transitions) with
  | none => rfl
  | some first =>
    obtain ⟨transition, hfound, rfl⟩ := Option.map_eq_some_iff.mp hfirst
    have hmem : transition ∈ db.transitions :=
      (List.rtakeWhile_suffix _ _).subset (List.mem_of_find?_eq_some hfound)
    exact if_pos (hearlier transition hmem).le

/-- With times that increase, nothing is recorded ahead of time. -/
theorem transitions_earlier (config : Config) {db : Alerts} {inputs : List Input}
    (hordered : inputs.Pairwise (·.now < ·.now))
    (h : ∀ transition ∈ db.transitions, ∀ input ∈ inputs, transition.observedAt < input.now) :
    Meets (Alerting.step config)
      (fun db input => ∀ transition ∈ db.transitions, transition.observedAt < input.now)
      db inputs := by
  induction inputs generalizing db with
  | nil => trivial
  | cons input inputs ih =>
    obtain ⟨hfirst, hordered⟩ := List.pairwise_cons.mp hordered
    refine ⟨fun transition ht => h transition ht input List.mem_cons_self, ih hordered ?_⟩
    intro transition ht later hlater
    have hold := fun ht => h transition ht later (List.mem_cons_of_mem input hlater)
    cases step_effect config db input with
    | same htransitions _ _ => exact hold (htransitions ▸ ht)
    | moved reason htransitions _ =>
      rw [htransitions] at ht
      obtain ht | ht := List.mem_append.mp ht
      · exact hold ht
      · obtain rfl := List.mem_singleton.mp ht
        exact hfirst later hlater

/-- If no alert that has fired goes into another episode, every resolved alert shows the interval
of the episode that ended. -/
theorem resolved_measures_episode (config : Config) (silences : List AlertSilence)
    (windows : List MaintenanceWindow) (inputs : List Input)
    (hordered : inputs.Pairwise (·.now < ·.now))
    (h : Meets (step config) (StartsUnfired config) (start silences windows) inputs) :
    Meets (step config) (MeasuresEpisode config) (start silences windows) inputs := by
  have hearlier : Meets (step config) _ (start silences windows) inputs :=
    transitions_earlier config hordered nofun
  refine Meets.of_invariant (I := Tracked) (fun db input hinput htracked => ?_)
    (tracked_start silences windows) (h.and hearlier)
  exact ⟨htracked.step hinput.1, .of_tracked htracked hinput.1 hinput.2⟩

theorem resolved_measures_episode_once :
    Meets (step apiHealth) (MeasuresEpisode apiHealth) (start [] [])
      [timeout 0, timeout (seconds 30), healthy (minutes 2), healthy (minutes 3)] :=
  resolved_measures_episode apiHealth [] [] _ (by decide) (by decide)

/-- Two episodes: the second one lasts two minutes and is resolved with the `fired_at` of the
first, an hour before. -/
theorem second_episode_not_measured :
    ¬Meets (step apiHealth) (MeasuresEpisode apiHealth) (start [] [])
      [timeout 0, timeout (seconds 30), healthy (minutes 2), healthy (minutes 3),
        timeout (minutes 60), timeout (minutes 61), healthy (minutes 62),
        healthy (minutes 63)] := by
  decide +kernel

end Alerting

end VpsGuardian.Monitoring
