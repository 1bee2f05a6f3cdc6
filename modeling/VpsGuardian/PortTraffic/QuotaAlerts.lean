import VpsGuardian.Monitoring.Episodes

/-!
The quota alerts of a policy (`_observe_quota_alerts` in `guardian/port_traffic.py`).

Each threshold has a rule of its own, and each rule an alert. A rule recovers two
points below its threshold, which the loop finds out from the stored alert, and
only with the second success in a row. The alerts stay nested because a lower
alert never counts more successes than a higher one.
-/

namespace VpsGuardian.PortTraffic

open Lib
open Controller (Time)
open Monitoring
open Monitoring.Alerting (stateOf)

/-- A `float`, with the numbers exact. -/
inductive Percent where
  | number (value : ℚ)
  | infinity
  | negInfinity
  | nan
  deriving DecidableEq, Repr

/-- `percent < n`, which is false of `nan`. -/
def Percent.isBelow : Percent → ℤ → Bool
  | .number value, n => value < n
  | .infinity, _ => false
  | .negInfinity, _ => true
  | .nan, _ => false

def quotaThresholds : List ℤ := [70, 85, 95, 100]

/-- What the alerts read of a policy. -/
structure QuotaPolicy where
  id : String
  name : String
  deriving DecidableEq, Repr

def quotaAlertSourceID (policyID : String) (threshold : ℤ) : String :=
  .ofList (policyID.toList.filter (· ≠ '-') ++ ':' :: (toString threshold).toList)

def quotaAlertSourceIDs (policyID : String) : List String :=
  quotaThresholds.map (quotaAlertSourceID policyID)

/-- `rule.source_id.rsplit(":", 1)[1]` -/
def afterColon (sourceID : String) : List Char :=
  (sourceID.toList.reverse.takeWhile (· ≠ ':')).reverse

/-- `int` of digits, which the rules of a policy have there. -/
def readDigits (digits : List Char) : ℤ :=
  digits.foldl (fun value c => 10 * value + (c.toNat - '0'.toNat)) 0

def thresholdOf (rule : AlertRule) : ℤ := readDigits (afterColon rule.sourceID)

/-- A rule with its alert, and the id the first observation gives to the alert. -/
structure RuleRow where
  rule : AlertRule
  alertID : String
  alerts : Alerts

/-- A call of `_observe_quota_alerts`, and the rows it finds besides those of the rules. -/
structure QuotaCall where
  percent : Option Percent
  now : Time
  channels : List NotificationChannel
  silences : List AlertSilence
  windows : List MaintenanceWindow

/-- The rule is one of the quota rules of the policy. -/
def selects (policy : QuotaPolicy) (rule : AlertRule) : Bool :=
  rule.sourceType == "port_traffic_quota" && (quotaAlertSourceIDs policy.id).contains rule.sourceID

def RuleRow.isActive (row : RuleRow) : Bool := !(stateOf row.alerts).isInactive

/-- The verdict on a rule: whether the usage is below its threshold, or below the level at which
it recovers. -/
def quotaSuccess (row : RuleRow) : Option Percent → Bool
  | none => true
  | some percent =>
      let threshold := thresholdOf row.rule
      let recoveryLevel := max 0 (threshold - 2)
      percent.isBelow (if row.isActive then recoveryLevel else threshold)

/-- `format` writes a percentage with one digit after the point. -/
def quotaSummary (format : Percent → String) (policy : QuotaPolicy) : Option Percent → String
  | none => policy.name ++ " has no configured quota"
  | some percent => policy.name ++ " quota usage is " ++ format percent ++ "%"

/-- The body of the loop over the rules. -/
def observeQuotaAlert (format : Percent → String) (policy : QuotaPolicy) (row : RuleRow)
    (call : QuotaCall) : RuleRow :=
  { row with
    alerts := Alerting.observeAlert call.channels row.rule row.alertID
      { row.alerts with
        silences := call.silences
        windows := call.windows }
      (quotaSuccess row call.percent) (quotaSummary format policy call.percent) call.now }

def observeQuotaAlerts (format : Percent → String) (policy : QuotaPolicy) (rows : List RuleRow)
    (call : QuotaCall) : List RuleRow :=
  rows.map fun row =>
    if selects policy row.rule then observeQuotaAlert format policy row call else row

/-- A rule as `ensure_quota_alert_rules` makes it, with no alert so far. -/
structure IsNewQuotaRow (row : RuleRow) : Prop where
  failureThreshold : row.rule.failureThreshold = 1
  recoveryThreshold : row.rule.recoveryThreshold = 2
  alert : row.alerts.alert = none

/-- No quota, or a usage two points below the threshold. -/
def IsLow (threshold : ℤ) (call : QuotaCall) : Prop :=
  ∀ percent ∈ call.percent, percent.isBelow (threshold - 2) = true

instance (threshold : ℤ) (call : QuotaCall) : Decidable (IsLow threshold call) :=
  inferInstanceAs (Decidable (∀ percent ∈ call.percent, _))

/-! ### One rule -/

/-- The successes in a row. -/
def RuleRow.successes (row : RuleRow) : Nat :=
  (row.alerts.alert.map (·.consecutiveSuccesses)).getD 0

theorem Percent.isBelow_mono {percent : Percent} {n m : ℤ} (h : percent.isBelow n = true)
    (hle : n ≤ m) : percent.isBelow m = true := by
  cases percent with
  | number value =>
    have hlt : value < n := of_decide_eq_true h
    exact decide_eq_true (hlt.trans_le (by exact_mod_cast hle))
  | infinity => cases h
  | negInfinity => rfl
  | nan => cases h

/-- What a call makes of a rule, by the verdict: a failure activates it, and of successes the
second in a row deactivates it. -/
structure Observed (success : Bool) (row after : RuleRow) : Prop where
  rule : after.rule = row.rule
  activates : success = false → after.isActive = true ∧ after.successes = 0
  stays : success = true → (after.isActive = true ↔ row.isActive = true ∧ row.successes = 0)
  counts : success = true → after.successes = row.successes + 1

theorem observeSuccess_counts {rule : AlertRule} (alert : AlertInstance) (now : Time)
    (hthreshold : rule.recoveryThreshold = 2) :
    ((Alerting.observeSuccess rule alert now).alert.state.isInactive = false ↔
      alert.state.isInactive = false ∧ alert.consecutiveSuccesses = 0) ∧
    (Alerting.observeSuccess rule alert now).alert.consecutiveSuccesses =
      alert.consecutiveSuccesses + 1 := by
  rw [Alerting.observeSuccess, hthreshold]
  dsimp only
  split
  · next hresolved => simp [hresolved, AlertState.isInactive]
  split
  · next hrecovers =>
    refine ⟨⟨fun h => absurd h.symm Bool.false_ne_true, fun h => ?_⟩, rfl⟩
    have hcount := hrecovers.2
    rw [h.2] at hcount
    exact absurd hcount (by decide)
  · next hresolved hstays =>
    refine ⟨⟨fun h => ⟨h, ?_⟩, And.left⟩, rfl⟩
    have hok : alert.state ≠ .ok := by
      intro heq
      rw [heq] at h
      cases h
    have hcount : ¬(2 : ℤ) ≤ (alert.consecutiveSuccesses + 1 : ℕ) := fun hle => hstays ⟨hok, hle⟩
    omega

theorem observeFailure_activates {rule : AlertRule} (alert : AlertInstance) (suppressed : Bool)
    (now : Time) (hthreshold : rule.failureThreshold = 1) :
    (Alerting.observeFailure rule alert suppressed now).alert.state.isInactive = false ∧
      (Alerting.observeFailure rule alert suppressed now).alert.consecutiveSuccesses = 0 := by
  rw [Alerting.observeFailure, hthreshold]
  dsimp only
  split
  · exact ⟨rfl, rfl⟩
  split
  · next hstate =>
    refine ⟨?_, rfl⟩
    obtain heq | heq := hstate <;> simp [heq, AlertState.isInactive]
  split
  · exact ⟨rfl, rfl⟩
  · next hcount => exact absurd hcount (by omega)

variable {format : Percent → String} {policy : QuotaPolicy}

/-- The alert after an observation, as far as it counts here, is the judged one. -/
theorem observeAlert_judged (channels : List NotificationChannel) (rule : AlertRule)
    (alertID : String) (db : Alerts) (success : Bool) (summary : String) (now : Time) :
    let judged := Alerting.judge rule alertID db success summary now
    ∃ alert,
      (Alerting.observeAlert channels rule alertID db success summary now).alert = some alert ∧
        alert.state = judged.alert.state ∧
          alert.consecutiveSuccesses = judged.alert.consecutiveSuccesses := by
  intro judged
  obtain ⟨-, halert, -⟩ | ⟨event, -, halert, -⟩ :=
    Alerting.observeAlert_cases channels rule alertID db success summary now
  · exact ⟨_, halert, rfl, rfl⟩
  · obtain ⟨lastNotifiedAt, notificationCount, hsent⟩ :=
      Alerting.scheduleNotifications_alert channels rule judged.alert event now
    rw [hsent] at halert
    exact ⟨_, halert, rfl, rfl⟩

variable (format policy) in
theorem observeQuotaAlert_spec {row : RuleRow} (hfailure : row.rule.failureThreshold = 1)
    (hrecovery : row.rule.recoveryThreshold = 2) (call : QuotaCall) :
    Observed (quotaSuccess row call.percent) row (observeQuotaAlert format policy row call) := by
  let db : Alerts := { row.alerts with
    silences := call.silences
    windows := call.windows }
  let found := Alerting.observed row.alertID db (quotaSummary format policy call.percent) call.now
  obtain ⟨alert, halert, hstate, hsuccesses⟩ := observeAlert_judged call.channels row.rule
    row.alertID db (quotaSuccess row call.percent) (quotaSummary format policy call.percent)
    call.now
  have hfoundState : found.state = stateOf row.alerts := Alerting.observed_state _ db _ _
  have hfoundSuccesses : found.consecutiveSuccesses = row.successes := by
    cases hrow : row.alerts.alert <;>
      simp [found, db, Alerting.observed, Alerting.newAlert, RuleRow.successes, hrow]
  have hactive : (observeQuotaAlert format policy row call).isActive = !alert.state.isInactive := by
    rw [RuleRow.isActive, observeQuotaAlert, Alerting.stateOf_of_some halert]
  have hcount : (observeQuotaAlert format policy row call).successes =
      alert.consecutiveSuccesses := by
    rw [RuleRow.successes, observeQuotaAlert, halert]
    rfl
  cases hsuccess : quotaSuccess row call.percent with
  | true =>
    rw [hsuccess] at hstate hsuccesses
    obtain ⟨hstays, hcounted⟩ := observeSuccess_counts found call.now hrecovery
    refine ⟨rfl, fun h => absurd h.symm Bool.false_ne_true, fun _ => ?_, fun _ => ?_⟩
    · rw [hactive, hstate, RuleRow.isActive, Bool.not_eq_true', Bool.not_eq_true', ← hfoundState,
        ← hfoundSuccesses]
      exact hstays
    · rw [hcount, hsuccesses, ← hfoundSuccesses]
      exact hcounted
  | false =>
    rw [hsuccess] at hstate hsuccesses
    obtain ⟨hactivated, hnone⟩ := observeFailure_activates found
      (Alerting.isSuppressed db found row.rule call.now) call.now hfailure
    refine ⟨rfl, fun _ => ⟨?_, ?_⟩, fun h => absurd h Bool.false_ne_true,
      fun h => absurd h Bool.false_ne_true⟩
    · rw [hactive, hstate]
      exact congrArg Bool.not hactivated
    · rw [hcount, hsuccesses]
      exact hnone

/-! ### Two rules -/

/-- The lower of two alerts is active when the higher one is, and as far from recovery. -/
structure Nested (row higher : RuleRow) : Prop where
  active : higher.isActive = true → row.isActive = true
  successes : higher.isActive = true → row.successes ≤ higher.successes

/-- A usage that does not let the higher rule recover does not let the lower one. -/
theorem quotaSuccess_mono {row higher : RuleRow} {percent : Option Percent}
    (hgap : thresholdOf row.rule ≤ thresholdOf higher.rule - 2)
    (hpositive : 2 ≤ thresholdOf row.rule)
    (h : quotaSuccess row percent = true) : quotaSuccess higher percent = true := by
  cases percent with
  | none => rfl
  | some percent =>
    refine Percent.isBelow_mono h ?_
    split <;> split <;> omega

theorem Nested.step {row higher after afterHigher : RuleRow} {success successHigher : Bool}
    (h : Nested row higher) (hrow : Observed success row after)
    (hhigher : Observed successHigher higher afterHigher)
    (hmono : success = true → successHigher = true) : Nested after afterHigher := by
  cases success with
  | false =>
    obtain ⟨hactive, hnone⟩ := hrow.activates rfl
    exact ⟨fun _ => hactive, fun _ => hnone ▸ Nat.zero_le _⟩
  | true =>
    obtain rfl := hmono rfl
    refine ⟨fun hafter => ?_, fun hafter => ?_⟩ <;>
      obtain ⟨hactive, hnone⟩ := (hhigher.stays rfl).mp hafter <;>
      have hle := h.successes hactive
    · exact (hrow.stays rfl).mpr ⟨h.active hactive, by omega⟩
    · rw [hrow.counts rfl, hhigher.counts rfl]
      omega

/-! ### Runs -/

theorem afterColon_quotaAlertSourceID (policyID : String) {threshold : ℤ}
    (h : ':' ∉ (toString threshold).toList) :
    afterColon (quotaAlertSourceID policyID threshold) = (toString threshold).toList := by
  rw [afterColon, quotaAlertSourceID, String.toList_ofList, List.reverse_append,
    List.reverse_cons, List.append_assoc, List.singleton_append, List.takeWhile_append_of_pos]
  · rw [List.takeWhile_cons_of_neg (by simp), List.append_nil, List.reverse_reverse]
  · intro c hc
    refine decide_eq_true fun heq => h ?_
    rw [← heq]
    exact List.mem_reverse.mp hc

theorem thresholdOf_mem {rule : AlertRule} (h : selects policy rule = true) :
    thresholdOf rule ∈ quotaThresholds := by
  obtain ⟨-, hcontains⟩ := Bool.and_eq_true_iff.mp h
  obtain ⟨threshold, hthreshold, hsource⟩ := List.mem_map.mp (List.contains_iff_mem.mp hcontains)
  have hread : ∀ threshold ∈ quotaThresholds, ':' ∉ (toString threshold).toList ∧
      readDigits (toString threshold).toList = threshold := by
    decide +kernel
  obtain ⟨hcolon, hint⟩ := hread threshold hthreshold
  rw [thresholdOf, ← hsource, afterColon_quotaAlertSourceID policy.id hcolon, hint]
  exact hthreshold

/-- What holds of a rule's row between the calls. -/
structure QuotaRow (row : RuleRow) (calls : List QuotaCall) : Prop where
  failureThreshold : row.rule.failureThreshold = 1
  recoveryThreshold : row.rule.recoveryThreshold = 2
  /-- The first success came while the alert was active. -/
  low : row.isActive = true → row.successes ≠ 0 →
    ∃ last ∈ calls.getLast?, IsLow (thresholdOf row.rule) last

theorem isLow_of_quotaSuccess {row : RuleRow} {call : QuotaCall}
    (hpositive : 2 ≤ thresholdOf row.rule) (hactive : row.isActive = true)
    (h : quotaSuccess row call.percent = true) : IsLow (thresholdOf row.rule) call := by
  intro percent hpercent
  rw [Option.mem_def.mp hpercent, quotaSuccess, if_pos hactive, max_eq_right (by omega)] at h
  exact h

/-- What holds between the calls of two rules of the policy. -/
theorem quotaThresholds_gap : ∀ threshold ∈ quotaThresholds, 2 ≤ threshold ∧
    ∀ higher ∈ quotaThresholds, threshold < higher → threshold ≤ higher - 2 := by
  decide

section Calls

variable (format policy)

/-- The calls act on each row of its own. -/
theorem run_observeQuotaAlerts (rows : List RuleRow) (calls : List QuotaCall) :
    run (observeQuotaAlerts format policy) rows calls = rows.map fun row =>
      if selects policy row.rule then run (observeQuotaAlert format policy) row calls else row := by
  induction calls generalizing rows with
  | nil => simp
  | cons call calls ih =>
    rw [run_cons, ih, observeQuotaAlerts, List.map_map]
    refine List.map_congr_left fun row _ => ?_
    cases hselects : selects policy row.rule with
    | true =>
      have hafter : selects policy (observeQuotaAlert format policy row call).rule = true :=
        hselects
      simp only [Function.comp_apply, hselects, if_true, hafter, run_cons]
    | false => simp [hselects]

end Calls

theorem run_rule (row : RuleRow) (calls : List QuotaCall) :
    (run (observeQuotaAlert format policy) row calls).rule = row.rule := by
  induction calls generalizing row with
  | nil => rfl
  | cons call calls ih => exact ih (observeQuotaAlert format policy row call)

variable (format) in
theorem quotaRow_run {row : RuleRow} (h : IsNewQuotaRow row)
    (hselects : selects policy row.rule = true) (calls : List QuotaCall) :
    QuotaRow (run (observeQuotaAlert format policy) row calls) calls := by
  have hpositive := (quotaThresholds_gap _ (thresholdOf_mem hselects)).1
  induction calls using List.reverseRecOn with
  | nil =>
    refine ⟨h.failureThreshold, h.recoveryThreshold, fun hactive => ?_⟩
    rw [run_nil, RuleRow.isActive, stateOf, h.alert] at hactive
    cases hactive
  | append_singleton history call ih =>
    rw [run_append, run_cons, run_nil]
    have hspec := observeQuotaAlert_spec format policy ih.failureThreshold
      ih.recoveryThreshold call
    refine ⟨ih.failureThreshold, ih.recoveryThreshold, fun hactive hsuccesses => ?_⟩
    refine ⟨call, by simp, ?_⟩
    rw [hspec.rule]
    cases hsuccess : quotaSuccess (run (observeQuotaAlert format policy) row history)
      call.percent with
    | false => exact absurd (hspec.activates hsuccess).2 hsuccesses
    | true =>
      refine isLow_of_quotaSuccess ?_ ((hspec.stays hsuccess).mp hactive).1 hsuccess
      rw [run_rule]
      exact hpositive

theorem nested_run {row higher : RuleRow} (hrow : IsNewQuotaRow row)
    (hhigher : IsNewQuotaRow higher) (hselects : selects policy row.rule = true)
    (hselectsHigher : selects policy higher.rule = true)
    (hlt : thresholdOf row.rule < thresholdOf higher.rule) (calls : List QuotaCall) :
    Nested (run (observeQuotaAlert format policy) row calls)
      (run (observeQuotaAlert format policy) higher calls) := by
  obtain ⟨hpositive, hgap⟩ := quotaThresholds_gap _ (thresholdOf_mem hselects)
  have hgap := hgap _ (thresholdOf_mem hselectsHigher) hlt
  induction calls using List.reverseRecOn with
  | nil =>
    have hinactive : higher.isActive ≠ true := by
      rw [RuleRow.isActive, stateOf, hhigher.alert]
      decide
    exact ⟨fun h => absurd h hinactive, fun h => absurd h hinactive⟩
  | append_singleton history call ih =>
    rw [run_append, run_cons, run_nil, run_append, run_cons, run_nil]
    have hkept := quotaRow_run format hrow hselects history
    have hkeptHigher := quotaRow_run format hhigher hselectsHigher history
    refine ih.step
      (observeQuotaAlert_spec _ _ hkept.failureThreshold hkept.recoveryThreshold call)
      (observeQuotaAlert_spec _ _ hkeptHigher.failureThreshold hkeptHigher.recoveryThreshold call)
      (quotaSuccess_mono ?_ ?_)
    · rw [run_rule, run_rule]
      exact hgap
    · rw [run_rule]
      exact hpositive

/-- The row of a quota rule after some calls. -/
theorem quotaRow_of_mem {rows : List RuleRow} {calls : List QuotaCall} {after : RuleRow}
    (hmem : after ∈ run (observeQuotaAlerts format policy) rows calls)
    (hselects : selects policy after.rule = true) :
    ∃ row ∈ rows, row.rule = after.rule ∧
      after = run (observeQuotaAlert format policy) row calls := by
  rw [run_observeQuotaAlerts] at hmem
  obtain ⟨row, hrow, rfl⟩ := List.mem_map.mp hmem
  cases hrowSelects : selects policy row.rule with
  | true => exact ⟨row, hrow, by simp [run_rule], by simp⟩
  | false => simp [hrowSelects] at hselects

/-- After every call the active quota alerts of a policy are those of the lowest thresholds, and an
alert becomes inactive only with the second low usage in a row. -/
theorem quota_alerts_nested (format : Percent → String) (policy : QuotaPolicy)
    (rows : List RuleRow)
    (hrows : ∀ row ∈ rows, selects policy row.rule = true → IsNewQuotaRow row)
    (calls : List QuotaCall) :
    (∀ row ∈ run (observeQuotaAlerts format policy) rows calls,
      ∀ higher ∈ run (observeQuotaAlerts format policy) rows calls,
        selects policy row.rule = true → selects policy higher.rule = true →
          thresholdOf row.rule < thresholdOf higher.rule → higher.isActive = true →
            row.isActive = true) ∧
    ∀ (call : QuotaCall) (i : Nat) (row next : RuleRow),
      (run (observeQuotaAlerts format policy) rows calls)[i]? = some row →
        (observeQuotaAlerts format policy (run (observeQuotaAlerts format policy) rows calls)
          call)[i]? = some next →
        selects policy row.rule = true → row.isActive = true → next.isActive = false →
          IsLow (thresholdOf row.rule) call ∧
            ∃ last ∈ calls.getLast?, IsLow (thresholdOf row.rule) last := by
  refine ⟨fun row hrow higher hhigher hselects hselectsHigher hlt hactive => ?_,
    fun call i row next hrow hnext hselects hactive hinactive => ?_⟩
  · obtain ⟨first, hfirst, hrule, rfl⟩ := quotaRow_of_mem hrow hselects
    obtain ⟨second, hsecond, hruleHigher, rfl⟩ := quotaRow_of_mem hhigher hselectsHigher
    rw [← hrule] at hselects hlt
    rw [← hruleHigher] at hselectsHigher hlt
    exact (nested_run (hrows first hfirst hselects) (hrows second hsecond hselectsHigher) hselects
      hselectsHigher hlt calls).active hactive
  · obtain ⟨first, hfirst, hrule, hrun⟩ :=
      quotaRow_of_mem (List.mem_of_getElem? hrow) hselects
    have hkept : QuotaRow row calls := by
      rw [← hrule] at hselects
      rw [hrun]
      exact quotaRow_run format (hrows first hfirst hselects) hselects calls
    have hafter : next = observeQuotaAlert format policy row call := by
      rw [observeQuotaAlerts, List.getElem?_map, hrow, Option.map_some, hselects,
        if_pos rfl] at hnext
      exact (Option.some.inj hnext).symm
    have hspec := observeQuotaAlert_spec format policy hkept.failureThreshold
      hkept.recoveryThreshold call
    rw [← hafter] at hspec
    cases hsuccess : quotaSuccess row call.percent with
    | false =>
      rw [(hspec.activates hsuccess).1] at hinactive
      cases hinactive
    | true =>
      have hpositive := (quotaThresholds_gap _ (thresholdOf_mem hselects)).1
      refine ⟨isLow_of_quotaSuccess hpositive hactive hsuccess, hkept.low hactive fun hnone => ?_⟩
      rw [(hspec.stays hsuccess).mpr ⟨hactive, hnone⟩] at hinactive
      cases hinactive

/-! ### A policy with its four rules -/

def quotaRows : List RuleRow := quotaThresholds.map fun threshold =>
  { rule := ⟨"rule-" ++ toString threshold, "port_traffic_quota",
      quotaAlertSourceID "7c9e-4f1b" threshold, "warning", "host-1", 1, 2, 3600, true⟩
    alertID := "alert-" ++ toString threshold
    alerts := ⟨none, [], [], [], []⟩ }

def quotaCall (percent : Option ℚ) : QuotaCall := ⟨percent.map .number, 0, [], [], []⟩

/-- Usage over 95 percent, and twice below 93 but over 83. -/
theorem quota_alerts_nested_four :
    (run (observeQuotaAlerts (fun _ => "") ⟨"7c9e-4f1b", "web"⟩) quotaRows
        [quotaCall (some 97), quotaCall (some 90), quotaCall (some 90)]).map RuleRow.isActive =
      [true, true, false, false] ∧
    ∀ row ∈ run (observeQuotaAlerts (fun _ => "") ⟨"7c9e-4f1b", "web"⟩) quotaRows
        [quotaCall (some 97), quotaCall (some 90), quotaCall (some 90)],
      ∀ higher ∈ run (observeQuotaAlerts (fun _ => "") ⟨"7c9e-4f1b", "web"⟩) quotaRows
          [quotaCall (some 97), quotaCall (some 90), quotaCall (some 90)],
        selects ⟨"7c9e-4f1b", "web"⟩ row.rule = true →
          selects ⟨"7c9e-4f1b", "web"⟩ higher.rule = true →
            thresholdOf row.rule < thresholdOf higher.rule → higher.isActive = true →
              row.isActive = true :=
  ⟨by decide +kernel, (quota_alerts_nested _ _ quotaRows (fun row hrow _ => by
    obtain ⟨threshold, -, rfl⟩ := List.mem_map.mp hrow
    exact ⟨rfl, rfl, rfl⟩) _).1⟩

end VpsGuardian.PortTraffic
