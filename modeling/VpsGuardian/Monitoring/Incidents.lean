import VpsGuardian.Monitoring.StateMachine

/-!
The incidents a monitor reports.
-/

namespace VpsGuardian.Monitoring

open Lib
open Controller (Time seconds)

inductive Incident
  | opened
  | recovered
  deriving DecidableEq, Repr

/-- The report of a transition. -/
def Transition.incident (transition : Transition) : Option Incident :=
  if transition.incidentOpened then some .opened
  else if transition.incidentRecovered then some .recovered
  else none

namespace MonitorStateMachine

variable {machine : MonitorStateMachine} {observation : Observation}

/-! ### What an observation does -/

/-- The states an observation leads to, each with the incident it reports. -/
inductive Moves (machine : MonitorStateMachine) (observation : Observation) :
    MonitorState → Option Incident → Prop
  | steady (hsuccess : observation.success = true)
      (hstate : machine.state = .unknown ∨ machine.state = .healthy) :
      Moves machine observation .healthy none
  | recovered (hsuccess : observation.success = true)
      (hstate : machine.state = .failing ∨ machine.state = .pendingRecovery)
      (hcount : machine.recoveryThreshold ≤ machine.consecutiveSuccesses + 1) :
      Moves machine observation .healthy (some .recovered)
  | averted (hsuccess : observation.success = true) (hstate : machine.state = .pendingFailure)
      (hcount : machine.recoveryThreshold ≤ machine.consecutiveSuccesses + 1) :
      Moves machine observation .healthy none
  | recovering (hsuccess : observation.success = true)
      (hstate : machine.state ≠ .unknown ∧ machine.state ≠ .healthy)
      (hcount : machine.consecutiveSuccesses + 1 < machine.recoveryThreshold) :
      Moves machine observation .pendingRecovery none
  | failing (hfailure : observation.success = false) (hstate : machine.state = .failing) :
      Moves machine observation .failing none
  | opened (hfailure : observation.success = false) (hstate : machine.state ≠ .failing)
      (hcount : machine.failureThreshold ≤ machine.consecutiveFailures + 1)
      (hcooled : machine.cooling observation.now = false) :
      Moves machine observation .failing (some .opened)
  | suppressed (hfailure : observation.success = false) (hstate : machine.state ≠ .failing)
      (hcount : machine.failureThreshold ≤ machine.consecutiveFailures + 1)
      (hcooling : machine.cooling observation.now = true) :
      Moves machine observation machine.state none
  | pending (hfailure : observation.success = false) (hstate : machine.state ≠ .failing)
      (hcount : machine.consecutiveFailures + 1 < machine.failureThreshold) :
      Moves machine observation .pendingFailure none

theorem settle_report (machine judged : MonitorStateMachine) (incidentRecovered : Bool)
    (now : Time) :
    (machine.settle judged false incidentRecovered now).1.state = judged.state ∧
      (machine.settle judged false incidentRecovered now).2.incident =
        if incidentRecovered then some .recovered else none := by
  unfold settle
  split
  · rw [if_neg (by simp)]
    exact ⟨rfl, rfl⟩
  · exact ⟨rfl, rfl⟩

theorem settle_opening {machine judged : MonitorStateMachine} {now : Time}
    (hmoved : machine.state ≠ judged.state) :
    (machine.settle judged true false now).1.state =
        (if machine.cooling now then machine.state else judged.state) ∧
      (machine.settle judged true false now).2.incident =
        if machine.cooling now then none else some .opened := by
  unfold settle
  rw [if_pos hmoved]
  cases hcooling : machine.cooling now with
  | true => exact ⟨rfl, rfl⟩
  | false => exact ⟨rfl, rfl⟩

theorem observe_moves (machine : MonitorStateMachine) (observation : Observation) :
    Moves machine observation (machine.observe observation).1.state
      (machine.observe observation).2.incident := by
  unfold observe
  cases hsuccess : observation.success with
  | true =>
    rw [if_pos rfl, (settle_report _ _ _ _).1, (settle_report _ _ _ _).2]
    unfold succeed
    split
    · rename_i hsteady
      exact .steady hsuccess hsteady
    · rename_i hsteady
      rw [not_or] at hsteady
      dsimp only
      split
      · rename_i hcount
        push_cast at hcount
        by_cases hstate : machine.state = .failing ∨ machine.state = .pendingRecovery
        · simpa [hstate] using Moves.recovered hsuccess hstate hcount
        · have hpending : machine.state = .pendingFailure := by
            cases hcase : machine.state <;> simp_all
          simpa [hstate] using Moves.averted hsuccess hpending hcount
      · rename_i hcount
        push_cast at hcount
        exact .recovering hsuccess hsteady (not_le.mp hcount)
  | false =>
    rw [if_neg (by simp)]
    unfold fail
    split
    · rename_i hfailing
      rw [(settle_report _ _ _ _).1, (settle_report _ _ _ _).2]
      simpa [hfailing] using Moves.failing hsuccess hfailing
    · rename_i hfailing
      dsimp only
      split
      · rename_i hcount
        push_cast at hcount
        rw [(settle_opening hfailing).1, (settle_opening hfailing).2]
        cases hcooling : machine.cooling observation.now with
        | true => exact .suppressed hsuccess hfailing hcount hcooling
        | false => exact .opened hsuccess hfailing hcount hcooling
      · rename_i hcount
        push_cast at hcount
        rw [(settle_report _ _ _ _).1, (settle_report _ _ _ _).2]
        exact .pending hsuccess hfailing (not_le.mp hcount)

theorem settle_counts (machine judged : MonitorStateMachine)
    (incidentOpened incidentRecovered : Bool) (now : Time) :
    (machine.settle judged incidentOpened incidentRecovered now).1 =
      { judged with
        state := (machine.settle judged incidentOpened incidentRecovered now).1.state
        lastTransitionAt :=
          (machine.settle judged incidentOpened incidentRecovered now).1.lastTransitionAt } := by
  unfold settle
  split
  · split
    · rfl
    · rfl
  · rfl

/-- The counters after an observation; the configuration stays. -/
theorem observe_counts (machine : MonitorStateMachine) (observation : Observation) :
    (machine.observe observation).1.consecutiveSuccesses =
        (if observation.success then machine.consecutiveSuccesses + 1 else 0) ∧
      (machine.observe observation).1.consecutiveFailures =
        (if observation.success then 0 else machine.consecutiveFailures + 1) ∧
      (machine.observe observation).1.failureThreshold = machine.failureThreshold ∧
      (machine.observe observation).1.recoveryThreshold = machine.recoveryThreshold ∧
      (machine.observe observation).1.cooldownSeconds = machine.cooldownSeconds := by
  unfold observe
  cases observation.success with
  | true =>
    rw [if_pos rfl, settle_counts]
    unfold succeed
    split
    · exact ⟨rfl, rfl, rfl, rfl, rfl⟩
    · dsimp only
      split
      · exact ⟨rfl, rfl, rfl, rfl, rfl⟩
      · exact ⟨rfl, rfl, rfl, rfl, rfl⟩
  | false =>
    rw [if_neg (by simp), settle_counts]
    unfold fail
    split
    · exact ⟨rfl, rfl, rfl, rfl, rfl⟩
    · dsimp only
      split
      · exact ⟨rfl, rfl, rfl, rfl, rfl⟩
      · exact ⟨rfl, rfl, rfl, rfl, rfl⟩

/-! ### Runs -/

/-- The machine after a list of observations. -/
def after (machine : MonitorStateMachine) (observations : List Observation) :
    MonitorStateMachine := run (next step) machine observations

/-- The incidents reported in a run. -/
def incidents (machine : MonitorStateMachine) (observations : List Observation) :
    List Incident := (trace step machine observations).filterMap Transition.incident

@[simp] theorem incidents_nil (machine : MonitorStateMachine) : machine.incidents [] = [] := rfl

@[simp] theorem incidents_cons (machine : MonitorStateMachine) (observation : Observation)
    (observations : List Observation) :
    machine.incidents (observation :: observations) =
      (machine.observe observation).2.incident.toList ++
        (machine.observe observation).1.incidents observations := by
  unfold incidents
  cases hincident : (machine.observe observation).2.incident with
  | none => simp [step, hincident]
  | some incident => simp [step, hincident]

/-- Openings and recoveries take turns, and an opening comes first. -/
def Alternating (reports : List Incident) : Prop :=
  List.IsChain (· ≠ ·) (.recovered :: reports)

instance (reports : List Incident) : Decidable (Alternating reports) :=
  inferInstanceAs (Decidable (List.IsChain _ _))

/-- No success short of the recovery threshold in `pending_failure`, and no failure in
`pending_recovery`: the machine does not come to share a pending state between a monitor with
an open incident and one without. -/
def Unambiguous (machine : MonitorStateMachine) (observation : Observation) : Prop :=
  if observation.success then
    machine.state = .pendingFailure → machine.recoveryThreshold ≤ machine.consecutiveSuccesses + 1
  else machine.state ≠ .pendingRecovery

instance (machine : MonitorStateMachine) (observation : Observation) :
    Decidable (machine.Unambiguous observation) := by
  unfold Unambiguous
  infer_instance

/-- The state says whether the latest report was an opening. -/
def Tracks (machine : MonitorStateMachine) (latest : Incident) : Prop :=
  latest = .opened ↔ machine.state = .failing ∨ machine.state = .pendingRecovery

theorem Tracks.observe {latest : Incident} (h : machine.Tracks latest)
    (hclear : machine.Unambiguous observation) :
    (∀ incident ∈ (machine.observe observation).2.incident, latest ≠ incident) ∧
      (machine.observe observation).1.Tracks
        ((machine.observe observation).2.incident.getD latest) := by
  unfold Tracks Unambiguous at *
  have hmoves := observe_moves machine observation
  generalize (machine.observe observation).1.state = state at hmoves ⊢
  generalize (machine.observe observation).2.incident = incident at hmoves ⊢
  cases hmoves with
  | steady hsuccess hstate =>
    rcases hstate with hstate | hstate <;> simp_all
  | recovered hsuccess hstate hcount => simp_all
  | averted hsuccess hstate hcount => simp_all
  | recovering hsuccess hstate hcount =>
    rw [if_pos hsuccess] at hclear
    have hpending : machine.state ≠ .pendingFailure := fun hpending => by
      have := hclear hpending
      omega
    have hopen : machine.state = .failing ∨ machine.state = .pendingRecovery := by
      cases hcase : machine.state <;> simp_all
    simp_all
  | failing hfailure hstate => simp_all
  | opened hfailure hstate hcount hcooled =>
    cases latest with
    | opened => simp_all
    | recovered => simp
  | suppressed hfailure hstate hcount hcooling => simpa using h
  | pending hfailure hstate hcount => simp_all

theorem Tracks.alternating {latest : Incident} {observations : List Observation}
    (h : machine.Tracks latest) (hclear : Meets (next step) Unambiguous machine observations) :
    List.IsChain (· ≠ ·) (latest :: machine.incidents observations) := by
  induction observations generalizing machine latest with
  | nil => simp
  | cons observation observations ih =>
    obtain ⟨hnew, htracks⟩ := h.observe hclear.1
    have hrest := ih htracks hclear.2
    rw [incidents_cons]
    cases hincident : (machine.observe observation).2.incident with
    | none =>
      rw [hincident] at hrest
      exact hrest
    | some incident =>
      rw [hincident] at hrest hnew
      exact .cons_cons (hnew incident rfl) hrest

/-! ### A recovery without an incident -/

/-- A recovery that has begun ends in a report after enough successes. -/
theorem incidents_recovering {n : Nat} (hstate : machine.state = .pendingRecovery)
    (hcount : machine.recoveryThreshold = machine.consecutiveSuccesses + n + 1) (now : Time) :
    machine.incidents (List.replicate (n + 1) ⟨true, now⟩) = [.recovered] := by
  induction n generalizing machine with
  | zero =>
    have hmoves := observe_moves machine ⟨true, now⟩
    simp only [List.replicate, incidents_cons, incidents_nil, List.append_nil]
    generalize (machine.observe ⟨true, now⟩).1.state = state at hmoves
    generalize (machine.observe ⟨true, now⟩).2.incident = incident at hmoves ⊢
    cases hmoves with
    | recovered => rfl
    | recovering hsuccess hstate' hcount' => omega
    | steady | averted => simp_all
    | failing hfailure | opened hfailure | suppressed hfailure | pending hfailure =>
      cases hfailure
  | succ n ih =>
    have hmoves := observe_moves machine ⟨true, now⟩
    obtain ⟨hsuccesses, -, -, hthreshold, -⟩ := observe_counts machine ⟨true, now⟩
    have hnext : (machine.observe ⟨true, now⟩).1.state = .pendingRecovery ∧
        (machine.observe ⟨true, now⟩).2.incident = none := by
      generalize (machine.observe ⟨true, now⟩).1.state = state at hmoves ⊢
      generalize (machine.observe ⟨true, now⟩).2.incident = incident at hmoves ⊢
      cases hmoves with
      | recovering => exact ⟨rfl, rfl⟩
      | recovered hsuccess hstate' hcount' => omega
      | steady | averted => simp_all
      | failing hfailure | opened hfailure | suppressed hfailure | pending hfailure =>
        cases hfailure
    rw [List.replicate_succ, incidents_cons, hnext.2]
    refine ih hnext.1 ?_
    rw [hthreshold, hsuccesses, hcount]
    push_cast
    simp only [if_true]
    omega

/-- Unless one success is enough to recover, some run does not alternate. -/
theorem exists_not_alternating {failureThreshold recoveryThreshold : Int} (cooldownSeconds : Int)
    (hfailure : 1 ≤ failureThreshold) (hrecovery : 2 ≤ recoveryThreshold) :
    ∃ observations, ¬Alternating
      ((new failureThreshold recoveryThreshold cooldownSeconds).incidents observations) := by
  by_cases hone : failureThreshold = 1
  · -- The incident is left open by a failure in `pending_recovery`, and opened again.
    subst hone
    refine ⟨[⟨false, 0⟩, ⟨true, 0⟩, ⟨false, max 0 (seconds cooldownSeconds)⟩], ?_⟩
    have hcooled : ¬ max 0 (seconds cooldownSeconds) < seconds cooldownSeconds :=
      not_lt.mpr (le_max_right _ _)
    have hreports : (new 1 recoveryThreshold cooldownSeconds).incidents
        [⟨false, 0⟩, ⟨true, 0⟩, ⟨false, max 0 (seconds cooldownSeconds)⟩] =
          [.opened, .opened] := by
      have hshort : ¬ recoveryThreshold ≤ 1 := by omega
      simp [observe, succeed, fail, settle, cooling, new, Transition.incident, hshort]
    rw [hreports]
    decide
  · -- A success in `pending_failure` begins a recovery from nothing.
    obtain ⟨n, hn⟩ := Int.eq_ofNat_of_zero_le (show 0 ≤ recoveryThreshold - 2 by omega)
    refine ⟨⟨false, 0⟩ :: ⟨true, 0⟩ :: List.replicate (n + 1) ⟨true, 0⟩, ?_⟩
    have hlong : ¬ failureThreshold ≤ 1 := by omega
    have hshort : ¬ recoveryThreshold ≤ 1 := by omega
    rw [incidents_cons, incidents_cons, incidents_recovering]
    · simp [observe, succeed, fail, settle, cooling, new, Transition.incident, hshort, hlong,
        Alternating]
    · simp [observe, succeed, fail, settle, new, hshort, hlong]
    · simp [observe, succeed, fail, settle, new, hshort, hlong]
      omega

/-- Incidents alternate in every run without an ambiguous observation, and in all runs of a
machine exactly when one success is enough to recover. -/
theorem incidents_alternate {failureThreshold recoveryThreshold : Int} (cooldownSeconds : Int)
    (hfailure : 1 ≤ failureThreshold) (hrecovery : 1 ≤ recoveryThreshold) :
    (∀ observations, Meets (next step) Unambiguous
        (new failureThreshold recoveryThreshold cooldownSeconds) observations →
      Alternating
        ((new failureThreshold recoveryThreshold cooldownSeconds).incidents observations)) ∧
      ((∀ observations, Alternating
          ((new failureThreshold recoveryThreshold cooldownSeconds).incidents observations)) ↔
        recoveryThreshold = 1) := by
  have hclear : ∀ observations, Meets (next step) Unambiguous
      (new failureThreshold recoveryThreshold cooldownSeconds) observations →
      Alternating
        ((new failureThreshold recoveryThreshold cooldownSeconds).incidents observations) := by
    intro observations hmeets
    refine Tracks.alternating ?_ hmeets
    simp [Tracks, new]
  refine ⟨hclear, fun hall => ?_, ?_⟩
  · by_contra hne
    obtain ⟨observations, hviolated⟩ :=
      exists_not_alternating cooldownSeconds hfailure (show 2 ≤ recoveryThreshold by omega)
    exact hviolated (hall observations)
  · rintro rfl observations
    refine hclear observations (Meets.of_invariant
      (I := fun machine => machine.recoveryThreshold = 1 ∧ machine.state ≠ .pendingRecovery)
      (fun machine observation _ hmachine => ?_) ⟨rfl, by simp [new]⟩
      (Meets.of_forall (P := fun _ _ => True) (fun _ _ => trivial) _ observations))
    obtain ⟨hone, hstate⟩ := hmachine
    obtain ⟨-, -, -, hthreshold, -⟩ := observe_counts machine observation
    refine ⟨⟨hthreshold.trans hone, ?_⟩, ?_⟩
    · have hmoves := observe_moves machine observation
      show (machine.observe observation).1.state ≠ .pendingRecovery
      generalize (machine.observe observation).1.state = state at hmoves ⊢
      generalize (machine.observe observation).2.incident = incident at hmoves
      cases hmoves with
      | recovering hsuccess hstate' hcount => omega
      | suppressed => exact hstate
      | steady | recovered | averted | failing | opened | pending => simp
    · unfold Unambiguous
      split
      · intro _
        omega
      · exact hstate

theorem incidents_alternate_outage :
    Alternating ((new 3 2 0).incidents [⟨true, 0⟩, ⟨false, seconds 60⟩, ⟨false, seconds 120⟩,
      ⟨false, seconds 180⟩, ⟨true, seconds 240⟩, ⟨true, seconds 300⟩]) :=
  (incidents_alternate 0 (by decide) (by decide)).1 _ (by decide)

/-- One failure and two successes report the recovery of an incident that never opened. -/
theorem recovery_without_incident :
    ¬ ∀ (failureThreshold recoveryThreshold cooldownSeconds : Int)
        (observations : List Observation),
      1 ≤ failureThreshold → 1 ≤ recoveryThreshold → Alternating
        ((new failureThreshold recoveryThreshold cooldownSeconds).incidents observations) := by
  intro h
  have hviolated := h 3 2 0 [⟨false, 0⟩, ⟨true, seconds 60⟩, ⟨true, seconds 120⟩]
    (by decide) (by decide)
  exact absurd hviolated (by decide)

/-! ### The first incident -/

/-- How many of the latest observations were failures in a row. -/
def failureStreak (observations : List Observation) : Nat :=
  (observations.reverse.takeWhile fun observation => !observation.success).length

theorem after_concat (machine : MonitorStateMachine) (before : List Observation)
    (observation : Observation) :
    machine.after (before ++ [observation]) =
      ((machine.after before).observe observation).1 := by
  rw [after, run_append]
  rfl

theorem consecutiveFailures_after (hmachine : machine.consecutiveFailures = 0)
    (observations : List Observation) :
    (machine.after observations).consecutiveFailures = failureStreak observations := by
  induction observations using List.reverseRecOn with
  | nil => exact hmachine
  | append_singleton before observation ih =>
    obtain ⟨-, hfailures, -⟩ := observe_counts (machine.after before) observation
    rw [after_concat, hfailures, ih]
    cases hsuccess : observation.success with
    | true => simp [failureStreak, hsuccess]
    | false => simp [failureStreak, hsuccess]

theorem failureThreshold_after (machine : MonitorStateMachine) (observations : List Observation) :
    (machine.after observations).failureThreshold = machine.failureThreshold := by
  refine run_invariant_of_step
    (I := fun later : MonitorStateMachine => later.failureThreshold = machine.failureThreshold)
    (fun later observation h => ?_) rfl observations
  obtain ⟨-, -, hthreshold, -⟩ := observe_counts later observation
  exact hthreshold.trans h

/-- A monitor that has reported nothing is not failing. -/
theorem not_failing_after {observations : List Observation} (hmachine : machine.state ≠ .failing)
    (hnone : machine.incidents observations = []) :
    (machine.after observations).state ≠ .failing := by
  induction observations generalizing machine with
  | nil => exact hmachine
  | cons observation observations ih =>
    rw [incidents_cons, List.append_eq_nil_iff, Option.toList_eq_nil_iff] at hnone
    refine ih ?_ hnone.2
    have hmoves := observe_moves machine observation
    rw [hnone.1] at hmoves
    show (machine.observe observation).1.state ≠ .failing
    generalize (machine.observe observation).1.state = state at hmoves ⊢
    cases hmoves with
    | failing hfailure hstate => exact absurd hstate hmachine
    | suppressed => exact hmachine
    | steady | averted | recovering | pending => simp

/-- The failure that reaches the threshold for the first time opens an incident, unless a change
of state is less than the cooldown ago: then it is suppressed and the state stays. -/
theorem first_incident {failureThreshold recoveryThreshold cooldownSeconds : Int}
    {before : List Observation} {observation : Observation}
    (hnone : (new failureThreshold recoveryThreshold cooldownSeconds).incidents before = [])
    (hfailure : observation.success = false)
    (hcount : (failureStreak before + 1 : Nat) = failureThreshold) :
    let machine := (new failureThreshold recoveryThreshold cooldownSeconds).after before
    let observed := machine.observe observation
    if ∃ last ∈ machine.lastTransitionAt, observation.now < last + seconds machine.cooldownSeconds
    then observed.2.suppressed = true ∧ observed.2.incidentOpened = false ∧
      observed.1.state = machine.state
    else observed.2.incidentOpened = true ∧ observed.1.state = .failing := by
  intro machine observed
  have hstate : machine.state ≠ .failing := not_failing_after (by simp [new]) hnone
  have hfailures : machine.consecutiveFailures = failureStreak before :=
    consecutiveFailures_after rfl before
  have hthreshold : machine.failureThreshold = failureThreshold := failureThreshold_after _ before
  have hreached : machine.failureThreshold ≤ ((machine.consecutiveFailures + 1 : Nat) : Int) := by
    rw [hthreshold, hfailures, hcount]
  have hfail : machine.fail.2 = true ∧ machine.fail.1.state = .failing := by
    unfold fail
    rw [if_neg hstate]
    dsimp only
    rw [if_pos hreached]
    exact ⟨rfl, rfl⟩
  have hcooling : machine.cooling observation.now = true ↔ ∃ last ∈ machine.lastTransitionAt,
      observation.now < last + seconds machine.cooldownSeconds := by
    simp [cooling, Option.any_eq_true]
  have hobserved : observed = machine.settle machine.fail.1 true false observation.now := by
    show machine.observe observation = _
    unfold observe
    rw [if_neg (by simp [hfailure]), hfail.1]
  have hmoved : machine.state ≠ machine.fail.1.state := by
    rw [hfail.2]
    exact hstate
  by_cases hsoon : ∃ last ∈ machine.lastTransitionAt,
      observation.now < last + seconds machine.cooldownSeconds
  · rw [if_pos hsoon, hobserved]
    unfold settle
    rw [if_pos hmoved, if_pos ⟨hcooling.mpr hsoon, rfl⟩]
    exact ⟨rfl, rfl, rfl⟩
  · rw [if_neg hsoon, hobserved]
    unfold settle
    rw [if_pos hmoved, if_neg fun h => hsoon (hcooling.mp h.1)]
    exact ⟨rfl, hfail.2⟩

theorem first_incident_cooled :
    ((new 3 2 300).after [⟨false, 0⟩, ⟨false, seconds 150⟩]).observe ⟨false, seconds 300⟩ =
        ⟨⟨3, 2, 300, .failing, 0, 3, some (seconds 300)⟩,
          ⟨.pendingFailure, .failing, true, true, false, false⟩⟩ ∧
      (((new 3 2 300).after [⟨false, 0⟩, ⟨false, seconds 150⟩]).observe
        ⟨false, seconds 300⟩).2.incidentOpened = true := by
  refine ⟨by decide, ?_⟩
  have hfirst := @first_incident 3 2 300 [⟨false, 0⟩, ⟨false, seconds 150⟩] ⟨false, seconds 300⟩
    (by decide) rfl (by decide)
  rw [if_neg (by decide)] at hfirst
  exact hfirst.1

/-- Three failures in two minutes: the step into `pending_failure` starts the cooldown that
suppresses the opening. -/
theorem first_incident_suppressed :
    ¬ ∀ (failureThreshold recoveryThreshold cooldownSeconds : Int) (before : List Observation)
        (observation : Observation), 1 ≤ failureThreshold → 1 ≤ recoveryThreshold →
      ((before ++ [observation]).map (·.now)).Pairwise (· ≤ ·) →
      (new failureThreshold recoveryThreshold cooldownSeconds).incidents before = [] →
      observation.success = false → (failureStreak before + 1 : Nat) = failureThreshold →
      let observed := ((new failureThreshold recoveryThreshold cooldownSeconds).after
        before).observe observation
      observed.2.incidentOpened = true ∧ observed.1.state = .failing := by
  intro h
  have hopened := h 3 2 300 [⟨false, 0⟩, ⟨false, seconds 60⟩] ⟨false, seconds 120⟩
    (by decide) (by decide) (by decide) (by decide) rfl (by decide)
  exact absurd hopened.1 (by decide)

end MonitorStateMachine

end VpsGuardian.Monitoring
