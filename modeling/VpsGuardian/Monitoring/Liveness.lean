import VpsGuardian.Monitoring.Alerting

/-!
The sweep that watches the heartbeats of the Agents (`liveness.py`).

A host whose heartbeat gets old is first observed as stale, at every sweep, and
then as offline, at one sweep only: a host that is marked offline is not
observed again. The alert of the host counts these observations.
-/

namespace VpsGuardian.Monitoring.Liveness

open Lib Alerting
open Controller (Time seconds)

inductive HostStatus
  | unknown
  | healthy
  | degraded
  | offline
  deriving DecidableEq, Repr

inductive HostDataState
  | normal
  | noData
  | stale
  | offline
  | agentError
  deriving DecidableEq, Repr

structure Host where
  id : String
  name : String
  groupName : Option String
  enabled : Bool
  status : HostStatus
  dataState : HostDataState
  deriving DecidableEq, Repr

structure Agent where
  revokedAt : Option Time
  lastHeartbeatAt : Option Time
  deriving DecidableEq, Repr

/-- A host with its Agent, its liveness rule if there is one, and the rows that
concern the rule. -/
structure Watched where
  host : Host
  agent : Agent
  rule : Option AlertRule
  alerts : Alerts

structure AuditEntry where
  action : String
  resourceID : String
  detail : String × Int
  deriving DecidableEq, Repr

structure Fleet where
  hosts : List Watched
  auditLog : List AuditEntry

/-- What the sweeps do not change: the channels, the setting, and the ids that
new rules and alerts get. -/
structure Config where
  channels : List NotificationChannel
  offlineAfterSeconds : Int
  ruleID : String → String
  alertID : String → String

variable (config : Config)

/-- `max(30, offline_after_seconds // 2)` -/
def staleAfterSeconds : Int := max 30 (config.offlineAfterSeconds / 2)

/-- The pause of `monitor_agent_liveness` between two sweeps. -/
def sweepInterval : Int := max 10 (min 30 (config.offlineAfterSeconds / 3))

def livenessRule (watched : Watched) : AlertRule :=
  watched.rule.getD {
    id := config.ruleID watched.host.id
    sourceType := "host_liveness"
    sourceID := watched.host.id
    severity := "critical"
    groupKey := match watched.host.groupName with
      | some group => if group = "" then "hosts" else group
      | none => "hosts"
    failureThreshold := 3
    recoveryThreshold := 2
    repeatIntervalSeconds := 3600
    recoveryNotifications := true }

/-- `observe_alert` for the liveness rule of a host. -/
def Watched.observe (watched : Watched) (success : Bool) (what : String) (now : Time) : Watched :=
  let rule := livenessRule config watched
  { watched with
    rule := some rule
    alerts := observeAlert config.channels rule (config.alertID watched.host.id) watched.alerts
      success (watched.host.name ++ what) now }

/-- What one sweep makes of a host, what it adds to the audit log, and whether
it marks the host offline. -/
structure Swept where
  watched : Watched
  audit : List AuditEntry
  changed : Bool

/-- The body of the loop of `mark_stale_agents_offline`. -/
def sweepHost (now : Time) (watched : Watched) : Swept :=
  match watched.agent.revokedAt, watched.agent.lastHeartbeatAt with
  | none, some heartbeat =>
    if watched.host.enabled = false then ⟨watched, [], false⟩
    else if now - seconds (staleAfterSeconds config) ≤ heartbeat then
      ⟨watched.observe config true " heartbeat is current" now, [], false⟩
    else if now - seconds config.offlineAfterSeconds ≤ heartbeat then
      if watched.host.dataState = .stale then
        ⟨watched.observe config false " heartbeat is stale" now, [], false⟩
      else
        let host := { watched.host with dataState := .stale, status := .degraded }
        ⟨{ watched with host := host }.observe config false " heartbeat is stale" now,
          [⟨"host.stale", host.id, "stale_after_seconds", staleAfterSeconds config⟩], false⟩
    else if watched.host.status = .offline then ⟨watched, [], false⟩
    else
      let host := { watched.host with status := .offline, dataState := .offline }
      ⟨{ watched with host := host }.observe config false " is offline" now,
        [⟨"host.offline", host.id, "offline_after_seconds", config.offlineAfterSeconds⟩], true⟩
  | _, _ => ⟨watched, [], false⟩

/-- The fleet after a sweep, and the hosts that were marked offline. -/
def markStaleAgentsOffline (fleet : Fleet) (now : Time) : Fleet × List String :=
  let swept := fleet.hosts.map (sweepHost config now)
  (⟨swept.map (·.watched), fleet.auditLog ++ swept.flatMap (·.audit)⟩,
    (swept.filter (·.changed)).map (·.watched.host.id))

/-- The sweep as a step of the system. -/
def sweep (fleet : Fleet) (now : Time) : Fleet := (markStaleAgentsOffline config fleet now).1

/-! ### What an observation makes of the counters -/

/-- The state of an alert with its two counters; a rule without an alert stands
as its first observation finds it. -/
structure Standing where
  state : AlertState
  failures : Nat
  successes : Nat

def standing (alerts : Alerts) : Standing :=
  match alerts.alert with
  | some alert => ⟨alert.state, alert.consecutiveFailures, alert.consecutiveSuccesses⟩
  | none => ⟨.ok, 0, 0⟩

/-- A success, for an alert that recovers at the threshold. -/
def Standing.succeed (recoveryThreshold : Int) (standing : Standing) : Standing where
  state := if standing.state = .resolved then .ok
    else if standing.state ≠ .ok ∧ recoveryThreshold ≤ (standing.successes + 1 : Nat) then .resolved
    else standing.state
  failures := 0
  successes := standing.successes + 1

/-- A failure that nothing suppresses, for an alert that fires at the threshold. -/
def Standing.fail (failureThreshold : Int) (standing : Standing) : Standing where
  state := if standing.state = .acknowledged ∨ standing.state = .firing then standing.state
    else if failureThreshold ≤ (standing.failures + 1 : Nat) then .firing
    else .pending
  failures := standing.failures + 1
  successes := 0

/-- Neither at rest nor on the way there. -/
def Standing.Raised (standing : Standing) : Prop :=
  standing.state ≠ .ok ∧ standing.state ≠ .resolved

/-- The successes are too few for a raised alert to recover. -/
def Standing.Lasts (recoveryThreshold : Int) (standing : Standing) (successes : Nat) : Prop :=
  successes = 0 ∨ ((standing.successes + successes : Nat) : Int) < recoveryThreshold

instance (recoveryThreshold : Int) (standing : Standing) (successes : Nat) :
    Decidable (standing.Lasts recoveryThreshold successes) :=
  inferInstanceAs (Decidable (_ ∨ _))

theorem Standing.succeed_iterate (threshold : Int) (standing : Standing) (n : Nat) :
    let after := (Standing.succeed threshold)^[n] standing
    after.successes = standing.successes + n ∧
      after.failures = (if n = 0 then standing.failures else 0) ∧
      (standing.Raised → standing.Lasts threshold n → after.state = standing.state) ∧
      (¬(standing.Raised ∧ standing.Lasts threshold n) → ¬after.Raised) := by
  induction n with
  | zero => exact ⟨rfl, rfl, fun _ _ => rfl, fun h hraised => h ⟨hraised, .inl rfl⟩⟩
  | succ n ih =>
    intro after
    obtain ⟨hsuccesses, -, hkept, hrest⟩ := ih
    have hafter : after = ((Standing.succeed threshold)^[n] standing).succeed threshold :=
      Function.iterate_succ_apply' _ _ _
    generalize (Standing.succeed threshold)^[n] standing = before at *
    refine ⟨?_, ?_, ?_, ?_⟩
    · rw [hafter]
      show before.successes + 1 = standing.successes + (n + 1)
      rw [hsuccesses, Nat.add_assoc]
    · rw [hafter]
      rfl
    · intro hraised hlasts
      have hfew : ((standing.successes + (n + 1) : Nat) : Int) < threshold :=
        hlasts.resolve_left (Nat.succ_ne_zero n)
      have hstate := hkept hraised (.inr (by omega))
      rw [hafter, Standing.succeed, if_neg (by rw [hstate]; exact hraised.2), if_neg, hstate]
      rw [hsuccesses]
      omega
    · intro h hafterRaised
      rw [hafter] at hafterRaised
      -- an alert at rest stays there, so this one was raised until the last success
      have hbefore : before.Raised := by
        refine ⟨fun hok => hafterRaised.1 ?_, fun hresolved => hafterRaised.1 ?_⟩
        · simp [Standing.succeed, hok]
        · simp [Standing.succeed, hresolved]
      have hraised : standing.Raised ∧ standing.Lasts threshold n := by
        by_contra hno
        exact hrest hno hbefore
      refine h ⟨hraised.1, .inr ?_⟩
      by_contra hmany
      refine hafterRaised.2 ?_
      rw [Standing.succeed, if_neg hbefore.2, if_pos ⟨hbefore.1, by rw [hsuccesses]; omega⟩]

/-- A state other than the two at rest is left only by recovering. -/
theorem Standing.succeed_iterate_state (threshold : Int) (standing : Standing) (n : Nat)
    {state : AlertState} (hok : state ≠ .ok) (hresolved : state ≠ .resolved) :
    ((Standing.succeed threshold)^[n] standing).state = state ↔
      standing.state = state ∧ standing.Lasts threshold n := by
  obtain ⟨-, -, hkept, hrest⟩ := Standing.succeed_iterate threshold standing n
  constructor
  · rintro rfl
    have hlasts : standing.Raised ∧ standing.Lasts threshold n := by
      by_contra h
      exact hrest h ⟨hok, hresolved⟩
    exact ⟨(hkept hlasts.1 hlasts.2).symm, hlasts.2⟩
  · rintro ⟨rfl, hlasts⟩
    exact hkept ⟨hok, hresolved⟩ hlasts

theorem Standing.fail_iterate (threshold : Int) (standing : Standing) (n : Nat) :
    let after := (Standing.fail threshold)^[n] standing
    after.failures = standing.failures + n ∧
      (after.state = .acknowledged ↔ standing.state = .acknowledged) ∧
      (after.state = .firing ↔ standing.state = .firing ∨
        (standing.state ≠ .acknowledged ∧ 0 < n ∧
          threshold ≤ (standing.failures + n : Nat))) := by
  induction n with
  | zero => simp
  | succ n ih =>
    intro after
    obtain ⟨hfailures, hacknowledged, hfiring⟩ := ih
    have hafter : after = ((Standing.fail threshold)^[n] standing).fail threshold :=
      Function.iterate_succ_apply' _ _ _
    generalize (Standing.fail threshold)^[n] standing = before at *
    refine ⟨?_, ?_⟩
    · rw [hafter]
      show before.failures + 1 = standing.failures + (n + 1)
      rw [hfailures, Nat.add_assoc]
    rw [hafter, Standing.fail]
    dsimp only
    by_cases hstays : before.state = .acknowledged ∨ before.state = .firing
    · rw [if_pos hstays]
      obtain hstate | hstate := hstays
      · simp [hstate, hacknowledged.mp hstate]
      · have hcases := hfiring.mp hstate
        have hnot : standing.state ≠ .acknowledged := fun h => by
          rw [hacknowledged.mpr h] at hstate
          cases hstate
        simp only [hstate, reduceCtorEq, hnot, ne_eq, not_false_eq_true, true_and, true_iff]
        refine hcases.imp_right fun h => ⟨Nat.succ_pos n, ?_⟩
        have hmany := h.2.2
        omega
    · rw [if_neg hstays]
      obtain ⟨hnotAcknowledged, hnotFiring⟩ := not_or.mp hstays
      have hno : standing.state ≠ .acknowledged := fun h => hnotAcknowledged (hacknowledged.mpr h)
      have hno' : standing.state ≠ .firing := fun h => hnotFiring (hfiring.mpr (.inl h))
      rw [hfailures]
      by_cases hmany : threshold ≤ (standing.failures + n + 1 : Nat)
      · rw [if_pos hmany]
        simp only [reduceCtorEq, hno, hno', false_or, true_iff, ne_eq, not_false_eq_true, true_and]
        exact ⟨Nat.succ_pos n, hmany⟩
      · rw [if_neg hmany]
        simp only [reduceCtorEq, hno, hno', false_or, false_iff, ne_eq, not_false_eq_true, true_and]
        exact fun h => hmany h.2

/-! ### One sweep of one host -/

/-- The alert an observation of the host starts from. -/
def Watched.found (watched : Watched) (now : Time) : AlertInstance :=
  watched.alerts.alert.getD (newAlert (config.alertID watched.host.id) now)

/-- A silence or a maintenance window covers the alert of the host. -/
def Watched.Silenced (watched : Watched) (now : Time) : Prop :=
  isSuppressed watched.alerts (watched.found config now) (livenessRule config watched) now = true

instance (watched : Watched) (now : Time) : Decidable (watched.Silenced config now) :=
  inferInstanceAs (Decidable (_ = true))

/-- The host is swept, and its last heartbeat is the given one. -/
structure Watched.SilentSince (watched : Watched) (heartbeat : Time) : Prop where
  enabled : watched.host.enabled = true
  unrevoked : watched.agent.revokedAt = none
  heartbeat : watched.agent.lastHeartbeatAt = some heartbeat

/-- What a sweep leaves of a host. -/
structure Kept (before after : Watched) : Prop where
  id : after.host.id = before.host.id
  enabled : after.host.enabled = before.host.enabled
  agent : after.agent = before.agent
  rule : livenessRule config after = livenessRule config before
  silenced : ∀ now, after.Silenced config now ↔ before.Silenced config now

variable {config}

theorem Kept.refl (watched : Watched) : Kept config watched watched :=
  ⟨rfl, rfl, rfl, rfl, fun _ => Iff.rfl⟩

theorem Kept.trans {first second third : Watched} (h : Kept config first second)
    (h' : Kept config second third) : Kept config first third :=
  ⟨h'.id.trans h.id, h'.enabled.trans h.enabled, h'.agent.trans h.agent, h'.rule.trans h.rule,
    fun now => (h'.silenced now).trans (h.silenced now)⟩

theorem Watched.SilentSince.kept {before after : Watched} {heartbeat : Time}
    (h : before.SilentSince heartbeat) (hkept : Kept config before after) :
    after.SilentSince heartbeat :=
  ⟨hkept.enabled.trans h.enabled, by rw [hkept.agent, h.unrevoked],
    by rw [hkept.agent, h.heartbeat]⟩

/-- Only these fields of the alert decide whether it is suppressed. -/
theorem isSuppressed_congr {db db' : Alerts} {alert alert' : AlertInstance} {rule : AlertRule}
    {now : Time} (hsilences : db'.silences = db.silences) (hwindows : db'.windows = db.windows)
    (hid : alert'.id = alert.id) (huntil : alert'.silencedUntil = alert.silencedUntil) :
    isSuppressed db' alert' rule now = isSuppressed db alert rule now := by
  rw [isSuppressed, isSuppressed, hsilences, hwindows, hid, huntil]

theorem observeSuccess_standing (rule : AlertRule) (alert : AlertInstance) (now : Time) :
    let after := (observeSuccess rule alert now).alert
    after.id = alert.id ∧ after.silencedUntil = alert.silencedUntil ∧
      (⟨after.state, after.consecutiveFailures, after.consecutiveSuccesses⟩ : Standing) =
        Standing.succeed rule.recoveryThreshold
          ⟨alert.state, alert.consecutiveFailures, alert.consecutiveSuccesses⟩ := by
  unfold observeSuccess Standing.succeed
  dsimp only
  split
  · exact ⟨rfl, rfl, rfl⟩
  · split <;> exact ⟨rfl, rfl, rfl⟩

theorem observeFailure_standing (rule : AlertRule) (alert : AlertInstance) (now : Time) :
    let after := (observeFailure rule alert false now).alert
    after.id = alert.id ∧ after.silencedUntil = alert.silencedUntil ∧
      (⟨after.state, after.consecutiveFailures, after.consecutiveSuccesses⟩ : Standing) =
        Standing.fail rule.failureThreshold
          ⟨alert.state, alert.consecutiveFailures, alert.consecutiveSuccesses⟩ := by
  unfold observeFailure Standing.fail
  dsimp only
  rw [if_neg Bool.false_ne_true]
  split
  · exact ⟨rfl, rfl, rfl⟩
  · split <;> exact ⟨rfl, rfl, rfl⟩

variable (config) in
/-- An observation without an active silence moves the standing of the alert. -/
theorem Watched.observe_spec (watched : Watched) (success : Bool) (what : String) (now : Time)
    (hquiet : success = false → ¬watched.Silenced config now) :
    Kept config watched (watched.observe config success what now) ∧
      standing (watched.observe config success what now).alerts =
        (if success then (standing watched.alerts).succeed
            (livenessRule config watched).recoveryThreshold
          else (standing watched.alerts).fail (livenessRule config watched).failureThreshold) := by
  let rule := livenessRule config watched
  let alertID := config.alertID watched.host.id
  let summary := watched.host.name ++ what
  let alert := observed alertID watched.alerts summary now
  let judged := judge rule alertID watched.alerts success summary now
  have hstanding : standing watched.alerts =
      ⟨alert.state, alert.consecutiveFailures, alert.consecutiveSuccesses⟩ := by
    unfold standing
    cases hdb : watched.alerts.alert <;> simp [alert, observed, hdb, newAlert]
  have hjudged : judged.alert.id = alert.id ∧
      judged.alert.silencedUntil = alert.silencedUntil ∧
      (⟨judged.alert.state, judged.alert.consecutiveFailures,
          judged.alert.consecutiveSuccesses⟩ : Standing) =
        if success then (standing watched.alerts).succeed rule.recoveryThreshold
        else (standing watched.alerts).fail rule.failureThreshold := by
    rw [hstanding]
    cases success with
    | true => exact observeSuccess_standing rule alert now
    | false =>
      have hsuppressed : isSuppressed watched.alerts alert rule now = false := by
        rw [← Bool.not_eq_true]
        exact hquiet rfl
      have hfailed : judged = observeFailure rule alert false now :=
        congrArg (observeFailure rule alert · now) hsuppressed
      rw [hfailed]
      exact observeFailure_standing rule alert now
  -- the notifications leave what the standing and the suppression are about
  obtain ⟨after, hafter, hid, huntil, hmoved⟩ : ∃ after,
      (watched.observe config success what now).alerts.alert = some after ∧
      after.id = judged.alert.id ∧ after.silencedUntil = judged.alert.silencedUntil ∧
      (⟨after.state, after.consecutiveFailures, after.consecutiveSuccesses⟩ : Standing) =
        ⟨judged.alert.state, judged.alert.consecutiveFailures,
          judged.alert.consecutiveSuccesses⟩ := by
    obtain ⟨-, halert, -⟩ | ⟨event, -, halert, -⟩ :=
      observeAlert_cases config.channels rule alertID watched.alerts success summary now
    · exact ⟨judged.alert, halert, rfl, rfl, rfl⟩
    · refine ⟨_, halert, ?_⟩
      obtain ⟨lastNotifiedAt, notificationCount, hsent⟩ :=
        scheduleNotifications_alert config.channels rule judged.alert event now
      rw [hsent]
      exact ⟨rfl, rfl, rfl⟩
  refine ⟨⟨rfl, rfl, rfl, rfl, fun later => ?_⟩, ?_⟩
  · have hfound : (watched.observe config success what now).found config later = after := by
      rw [Watched.found, hafter, Option.getD_some]
    have hsame : alert.id = (watched.found config later).id ∧
        alert.silencedUntil = (watched.found config later).silencedUntil := by
      unfold alert observed Watched.found
      cases watched.alerts.alert <;> exact ⟨rfl, rfl⟩
    unfold Watched.Silenced
    rw [hfound]
    exact iff_of_eq (congrArg (· = true) (isSuppressed_congr rfl rfl
      (hid.trans (hjudged.1.trans hsame.1)) (huntil.trans (hjudged.2.1.trans hsame.2))))
  · rw [standing, hafter]
    exact hmoved.trans hjudged.2.2

section Host

variable {watched : Watched} {heartbeat now : Time}

variable (config) in
theorem sweepHost_current (h : watched.SilentSince heartbeat)
    (hage : now - heartbeat ≤ seconds (staleAfterSeconds config)) :
    let after := (sweepHost config now watched).watched
    Kept config watched after ∧ after.host = watched.host ∧
      standing after.alerts =
        (standing watched.alerts).succeed (livenessRule config watched).recoveryThreshold := by
  have hsweep : sweepHost config now watched =
      ⟨watched.observe config true " heartbeat is current" now, [], false⟩ := by
    unfold sweepHost
    rw [h.unrevoked, h.heartbeat]
    dsimp only
    rw [if_neg (by simp [h.enabled]), if_pos (by unfold Time at *; omega)]
  obtain ⟨hkept, hstanding⟩ := watched.observe_spec config true " heartbeat is current" now
    (fun hfailure => absurd hfailure (by decide))
  rw [hsweep]
  exact ⟨hkept, rfl, hstanding⟩

variable (config) in
theorem sweepHost_stale (h : watched.SilentSince heartbeat) (hquiet : ¬watched.Silenced config now)
    (hstale : seconds (staleAfterSeconds config) < now - heartbeat)
    (hage : now - heartbeat ≤ seconds config.offlineAfterSeconds) :
    let after := (sweepHost config now watched).watched
    Kept config watched after ∧ after.host.dataState = .stale ∧
      (after.host.status = .offline ↔
        watched.host.status = .offline ∧ watched.host.dataState = .stale) ∧
      standing after.alerts =
        (standing watched.alerts).fail (livenessRule config watched).failureThreshold := by
  have hcurrent : ¬now - seconds (staleAfterSeconds config) ≤ heartbeat := by
    unfold Time at *
    omega
  have honline : now - seconds config.offlineAfterSeconds ≤ heartbeat := by
    unfold Time at *
    omega
  unfold sweepHost
  rw [h.unrevoked, h.heartbeat]
  dsimp only
  rw [if_neg (by simp [h.enabled]), if_neg hcurrent, if_pos honline]
  by_cases hdata : watched.host.dataState = .stale
  · rw [if_pos hdata]
    obtain ⟨hkept, hstanding⟩ := watched.observe_spec config false " heartbeat is stale" now
      (fun _ => hquiet)
    exact ⟨hkept, hdata, ⟨fun hstatus => ⟨hstatus, hdata⟩, And.left⟩, hstanding⟩
  · rw [if_neg hdata]
    let marked : Watched := { watched with
      host := { watched.host with dataState := .stale, status := .degraded } }
    have hmarked : Kept config watched marked := ⟨rfl, rfl, rfl, rfl, fun _ => Iff.rfl⟩
    obtain ⟨hkept, hstanding⟩ := marked.observe_spec config false " heartbeat is stale" now
      (fun _ => hquiet)
    refine ⟨hmarked.trans hkept, rfl, ?_, hstanding⟩
    refine ⟨fun hstatus => ?_, fun hoffline => absurd hoffline.2 hdata⟩
    cases hstatus

variable (config now) in
theorem sweepHost_offline (h : watched.SilentSince heartbeat)
    (hquiet : ¬watched.Silenced config now) (hbound : 30 ≤ config.offlineAfterSeconds)
    (hage : seconds config.offlineAfterSeconds < now - heartbeat) :
    let after := (sweepHost config now watched).watched
    Kept config watched after ∧ after.host.status = .offline ∧
      standing after.alerts = if watched.host.status = .offline then standing watched.alerts
        else (standing watched.alerts).fail (livenessRule config watched).failureThreshold := by
  have hstale : ¬now - seconds (staleAfterSeconds config) ≤ heartbeat := by
    unfold Time seconds staleAfterSeconds at *
    omega
  have honline : ¬now - seconds config.offlineAfterSeconds ≤ heartbeat := by
    unfold Time at *
    omega
  unfold sweepHost
  rw [h.unrevoked, h.heartbeat]
  dsimp only
  rw [if_neg (by simp [h.enabled]), if_neg hstale, if_neg honline]
  by_cases hstatus : watched.host.status = .offline
  · rw [if_pos hstatus, if_pos hstatus]
    exact ⟨.refl watched, hstatus, rfl⟩
  · rw [if_neg hstatus, if_neg hstatus]
    let marked : Watched := { watched with
      host := { watched.host with status := .offline, dataState := .offline } }
    have hmarked : Kept config watched marked := ⟨rfl, rfl, rfl, rfl, fun _ => Iff.rfl⟩
    obtain ⟨hkept, hstanding⟩ := marked.observe_spec config false " is offline" now
      (fun _ => hquiet)
    exact ⟨hmarked.trans hkept, rfl, hstanding⟩

end Host

/-! ### A run of sweeps -/

variable (config) in
/-- What the sweeps of a run make of one host. -/
def sweepAll (times : List Time) (watched : Watched) : Watched :=
  run (fun watched now => (sweepHost config now watched).watched) watched times

theorem run_sweep_hosts (fleet : Fleet) (times : List Time) :
    (run (sweep config) fleet times).hosts = fleet.hosts.map (sweepAll config times) := by
  induction times generalizing fleet with
  | nil => exact (List.map_id fleet.hosts).symm
  | cons now times ih =>
    rw [run_cons, ih]
    show ((fleet.hosts.map (sweepHost config now)).map (·.watched)).map _ = _
    rw [List.map_map, List.map_map]
    rfl

variable (config) in
theorem sweepAll_current {watched : Watched} {heartbeat : Time} {times : List Time}
    (h : watched.SilentSince heartbeat)
    (hage : ∀ now ∈ times, now - heartbeat ≤ seconds (staleAfterSeconds config)) :
    let after := sweepAll config times watched
    Kept config watched after ∧ after.host = watched.host ∧
      standing after.alerts =
        (Standing.succeed (livenessRule config watched).recoveryThreshold)^[times.length]
          (standing watched.alerts) := by
  induction times generalizing watched with
  | nil => exact ⟨.refl watched, rfl, rfl⟩
  | cons now times ih =>
    obtain ⟨hkept, hhost, hstanding⟩ :=
      sweepHost_current config h (hage now List.mem_cons_self)
    obtain ⟨hkept', hhost', hstanding'⟩ :=
      ih (h.kept hkept) fun later hlater => hage later (List.mem_cons_of_mem now hlater)
    refine ⟨hkept.trans hkept', hhost'.trans hhost, hstanding'.trans ?_⟩
    rw [hstanding, hkept.rule, List.length_cons, Function.iterate_succ_apply]

variable (config) in
theorem sweepAll_stale {watched : Watched} {heartbeat : Time} {times : List Time}
    (h : watched.SilentSince heartbeat) (hquiet : ∀ now ∈ times, ¬watched.Silenced config now)
    (hstale : ∀ now ∈ times, seconds (staleAfterSeconds config) < now - heartbeat)
    (hage : ∀ now ∈ times, now - heartbeat ≤ seconds config.offlineAfterSeconds) :
    let after := sweepAll config times watched
    Kept config watched after ∧
      (after.host.status = .offline ↔ watched.host.status = .offline ∧
        (times.length = 0 ∨ watched.host.dataState = .stale)) ∧
      standing after.alerts =
        (Standing.fail (livenessRule config watched).failureThreshold)^[times.length]
          (standing watched.alerts) := by
  induction times generalizing watched with
  | nil => exact ⟨.refl watched, by simp [sweepAll], rfl⟩
  | cons now times ih =>
    obtain ⟨hkept, hdata, hstatus, hstanding⟩ :=
      sweepHost_stale config h (hquiet now List.mem_cons_self)
        (hstale now List.mem_cons_self) (hage now List.mem_cons_self)
    obtain ⟨hkept', hstatus', hstanding'⟩ := ih (h.kept hkept)
      (fun later hlater hsilenced =>
        hquiet later (List.mem_cons_of_mem now hlater) ((hkept.silenced later).mp hsilenced))
      (fun later hlater => hstale later (List.mem_cons_of_mem now hlater))
      (fun later hlater => hage later (List.mem_cons_of_mem now hlater))
    refine ⟨hkept.trans hkept', hstatus'.trans ?_, hstanding'.trans ?_⟩
    · rw [hstatus, hdata]
      simp
    · rw [hstanding, hkept.rule, List.length_cons, Function.iterate_succ_apply]

/-- Sweeps of a host that is marked offline find nothing to do. -/
theorem sweepAll_offline {watched : Watched} {heartbeat : Time} {times : List Time}
    (h : watched.SilentSince heartbeat) (hstatus : watched.host.status = .offline)
    (hquiet : ∀ now ∈ times, ¬watched.Silenced config now)
    (hbound : 30 ≤ config.offlineAfterSeconds)
    (hage : ∀ now ∈ times, seconds config.offlineAfterSeconds < now - heartbeat) :
    standing (sweepAll config times watched).alerts = standing watched.alerts := by
  induction times generalizing watched with
  | nil => rfl
  | cons now times ih =>
    obtain ⟨hkept, hoffline, hstanding⟩ := sweepHost_offline config now h
      (hquiet now List.mem_cons_self) hbound (hage now List.mem_cons_self)
    rw [if_pos hstatus] at hstanding
    refine (ih (h.kept hkept) hoffline ?_ ?_).trans hstanding
    · intro later hlater hsilenced
      exact hquiet later (List.mem_cons_of_mem now hlater) ((hkept.silenced later).mp hsilenced)
    · exact fun later hlater => hage later (List.mem_cons_of_mem now hlater)

/-! ### The alert of a host that stays silent -/

section Silent

/-- The sweeps at which the heartbeat is current. -/
def currentSweeps (config : Config) (heartbeat : Time) (times : List Time) : Nat :=
  times.countP fun now => decide (now - heartbeat ≤ seconds (staleAfterSeconds config))

/-- The sweeps at which the heartbeat is stale, but not yet older than the limit. -/
def staleSweeps (config : Config) (heartbeat : Time) (times : List Time) : Nat :=
  times.countP fun now => decide (seconds (staleAfterSeconds config) < now - heartbeat) &&
    decide (now - heartbeat ≤ seconds config.offlineAfterSeconds)

/-- The failures observed from the first stale sweep to the one that finds the
heartbeat older than the limit, which counts unless the host is marked offline already. -/
def failuresUntilOffline (config : Config) (watched : Watched) (heartbeat : Time)
    (before : List Time) : Nat :=
  staleSweeps config heartbeat before +
    if watched.host.status = .offline ∧
        (staleSweeps config heartbeat before = 0 ∨ watched.host.dataState = .stale) then 0 else 1

/-- The alert was firing and has not recovered, or there are enough failures in
a row: those before the run count as long as no sweep finds the heartbeat current. -/
def Detected (config : Config) (watched : Watched) (heartbeat : Time)
    (before : List Time) : Prop :=
  let earlier := standing watched.alerts
  let rule := livenessRule config watched
  let successes := currentSweeps config heartbeat before
  let failures := failuresUntilOffline config watched heartbeat before
  (earlier.state = .firing ∧ earlier.Lasts rule.recoveryThreshold successes) ∨
    (¬(earlier.state = .acknowledged ∧ earlier.Lasts rule.recoveryThreshold successes) ∧
      0 < failures ∧
      rule.failureThreshold ≤ ((if successes = 0 then earlier.failures else 0) + failures : Nat))

instance (watched : Watched) (heartbeat : Time) (before : List Time) :
    Decidable (Detected config watched heartbeat before) :=
  inferInstanceAs (Decidable (_ ∧ _ ∨ _ ∧ _ ∧ _))

def Fleet.host? (fleet : Fleet) (id : String) : Option Watched :=
  fleet.hosts.find? (·.host.id == id)

/-- The liveness alert of the host is firing. -/
def Firing (fleet : Fleet) (id : String) : Prop :=
  ∃ watched ∈ fleet.host? id, ∃ alert ∈ watched.alerts.alert, alert.state = .firing

instance (fleet : Fleet) (id : String) : Decidable (Firing fleet id) :=
  inferInstanceAs (Decidable (∃ watched ∈ fleet.host? id, ∃ alert ∈ watched.alerts.alert, _))

theorem firing_iff_standing (alerts : Alerts) :
    (∃ alert ∈ alerts.alert, alert.state = .firing) ↔ (standing alerts).state = .firing := by
  unfold standing
  cases alerts.alert <;> simp

theorem sweepHost_id (watched : Watched) (now : Time) :
    (sweepHost config now watched).watched.host.id = watched.host.id := by
  unfold sweepHost
  split
  · split_ifs <;> rfl
  · rfl

theorem sweepAll_id (watched : Watched) (times : List Time) :
    (sweepAll config times watched).host.id = watched.host.id := by
  induction times generalizing watched with
  | nil => rfl
  | cons now times ih => exact (ih _).trans (sweepHost_id watched now)

theorem run_sweep_host? (fleet : Fleet) (times : List Time) (id : String) :
    (run (sweep config) fleet times).host? id = (fleet.host? id).map (sweepAll config times) := by
  have hsame : (fun watched : Watched => watched.host.id == id) ∘ sweepAll config times =
      fun watched => watched.host.id == id := by
    funext watched
    rw [Function.comp_apply, sweepAll_id]
  rw [Fleet.host?, run_sweep_hosts, List.find?_map, hsame, Fleet.host?]

/-- The current sweeps of a run come before the stale ones. -/
theorem exists_phases {heartbeat : Time} {before : List Time}
    (hincreasing : before.Pairwise (· < ·))
    (hage : ∀ now ∈ before, now - heartbeat ≤ seconds config.offlineAfterSeconds) :
    ∃ current stale, before = current ++ stale ∧
      (∀ now ∈ current, now - heartbeat ≤ seconds (staleAfterSeconds config)) ∧
      (∀ now ∈ stale, seconds (staleAfterSeconds config) < now - heartbeat) ∧
      currentSweeps config heartbeat before = current.length ∧
      staleSweeps config heartbeat before = stale.length := by
  induction before with
  | nil => exact ⟨[], [], rfl, by simp, by simp, rfl, rfl⟩
  | cons now before ih =>
    obtain ⟨hlater, hincreasing⟩ := List.pairwise_cons.mp hincreasing
    obtain ⟨current, stale, rfl, hcurrent, hstale, hcurrentSweeps, hstaleSweeps⟩ :=
      ih hincreasing fun later hmem => hage later (List.mem_cons_of_mem now hmem)
    have hnow := hage now List.mem_cons_self
    unfold currentSweeps staleSweeps at *
    rw [List.countP_cons, List.countP_cons, hcurrentSweeps, hstaleSweeps]
    by_cases hphase : now - heartbeat ≤ seconds (staleAfterSeconds config)
    · refine ⟨now :: current, stale, rfl, List.forall_mem_cons.mpr ⟨hphase, hcurrent⟩, hstale, ?_⟩
      simp [hphase, not_lt.mpr hphase]
    · -- all later sweeps are stale too
      have hnil : current = [] := by
        rw [List.eq_nil_iff_forall_not_mem]
        intro later hmem
        have hlt := hlater later (List.mem_append_left stale hmem)
        have hcurrent := hcurrent later hmem
        unfold Time at *
        omega
      subst hnil
      refine ⟨[], now :: stale, rfl, by simp, List.forall_mem_cons.mpr ⟨not_le.mp hphase, hstale⟩,
        ?_⟩
      simp [hphase, not_le.mp hphase, hnow]

/-- A host that stays silent has a firing alert after the sweep that finds its
heartbeat older than the limit and two more exactly if enough of the sweeps
before it found the heartbeat stale. -/
theorem silent_host_alert_fires (hbound : 30 ≤ config.offlineAfterSeconds) (fleet : Fleet)
    (watched : Watched) (heartbeat : Time) (hwatched : fleet.host? watched.host.id = some watched)
    (hsilent : watched.SilentSince heartbeat) (before : List Time) (first second third : Time)
    (hincreasing : (before ++ [first, second, third]).Pairwise (· < ·))
    (hquiet : ∀ now ∈ before ++ [first, second, third], ¬watched.Silenced config now)
    (hbefore : ∀ now ∈ before, now - heartbeat ≤ seconds config.offlineAfterSeconds)
    (hfirst : seconds config.offlineAfterSeconds < first - heartbeat) :
    Firing (run (sweep config) fleet (before ++ [first, second, third])) watched.host.id ↔
      Detected config watched heartbeat before := by
  obtain ⟨hincreasing, hlast, -⟩ := List.pairwise_append.mp hincreasing
  obtain ⟨current, stale, rfl, hcurrent, hstale, hcurrentSweeps, hstaleSweeps⟩ :=
    exists_phases hincreasing hbefore
  set rule := livenessRule config watched with hrule
  -- the current sweeps, the stale ones, and the one that marks the host offline
  obtain ⟨hkept₁, hhost₁, hstanding₁⟩ := sweepAll_current config hsilent hcurrent
  set watched₁ := sweepAll config current watched
  obtain ⟨hkept₂, hstatus₂, hstanding₂⟩ := sweepAll_stale config
    (hsilent.kept hkept₁) (fun now hnow hsilenced => hquiet now (by simp [hnow])
      ((hkept₁.silenced now).mp hsilenced))
    hstale (fun now hnow => hbefore now (by simp [hnow]))
  set watched₂ := sweepAll config stale watched₁
  obtain ⟨hkept₃, hoffline, hstanding₃⟩ := sweepHost_offline config first
    ((hsilent.kept hkept₁).kept hkept₂) (fun hsilenced => hquiet first (by simp)
      (((hkept₁.trans hkept₂).silenced first).mp hsilenced)) hbound hfirst
  set watched₃ := (sweepHost config first watched₂).watched
  have hkept := (hkept₁.trans hkept₂).trans hkept₃
  have hrest : standing (sweepAll config [second, third] watched₃).alerts =
      standing watched₃.alerts := by
    refine sweepAll_offline (hsilent.kept hkept) hoffline ?_ hbound ?_
    · intro now hnow hsilenced
      exact hquiet now (List.mem_append_right _ (List.mem_cons_of_mem first hnow))
        ((hkept.silenced now).mp hsilenced)
    · intro now hnow
      have hafter := (List.pairwise_cons.mp hlast).1 now hnow
      unfold Time at *
      omega
  have hend : sweepAll config (current ++ stale ++ [first, second, third]) watched =
      sweepAll config [second, third] watched₃ := by
    rw [sweepAll, run_append, run_append]
    rfl
  -- the failures in a row that the alert has seen by then
  have hfailures : standing watched₃.alerts =
      (Standing.fail rule.failureThreshold)^[failuresUntilOffline config watched heartbeat
        (current ++ stale)] ((Standing.succeed rule.recoveryThreshold)^[current.length]
          (standing watched.alerts)) := by
    rw [hhost₁] at hstatus₂
    rw [failuresUntilOffline, hstaleSweeps, hstanding₃, hstanding₂, hstanding₁,
      (hkept₁.trans hkept₂).rule, hkept₁.rule]
    by_cases hmarked : watched₂.host.status = .offline
    · rw [if_pos hmarked, if_pos (hstatus₂.mp hmarked)]
      rfl
    · rw [if_neg hmarked, if_neg (fun h => hmarked (hstatus₂.mpr h)), Function.iterate_succ_apply']
  rw [Firing, run_sweep_host?, hwatched, Option.map_some, hend]
  simp only [Option.mem_some, exists_eq_left']
  rw [firing_iff_standing, hrest, hfailures]
  obtain ⟨-, hreset, -⟩ := Standing.succeed_iterate rule.recoveryThreshold
    (standing watched.alerts) current.length
  obtain ⟨-, -, hfires⟩ := Standing.fail_iterate rule.failureThreshold
    ((Standing.succeed rule.recoveryThreshold)^[current.length] (standing watched.alerts))
    (failuresUntilOffline config watched heartbeat (current ++ stale))
  rw [hfires, hreset, Standing.succeed_iterate_state _ _ _ (by decide) (by decide), ne_eq,
    Standing.succeed_iterate_state _ _ _ (by decide) (by decide), Detected]
  rw [hcurrentSweeps, ← hrule]

/-- From an alert at rest it takes two sweeps that find the heartbeat stale. -/
theorem detected_at_rest {config : Config} {watched : Watched} {heartbeat : Time}
    {before : List Time} (hrest : (standing watched.alerts).state = .ok)
    (hfailures : (standing watched.alerts).failures = 0)
    (hstatus : watched.host.status ≠ .offline)
    (hthreshold : (livenessRule config watched).failureThreshold = 3) :
    Detected config watched heartbeat before ↔ 2 ≤ staleSweeps config heartbeat before := by
  have hcount : failuresUntilOffline config watched heartbeat before =
      staleSweeps config heartbeat before + 1 := by
    rw [failuresUntilOffline, if_neg (fun h => hstatus h.1)]
  simp only [Detected, hrest, hfailures, hthreshold, hcount, reduceCtorEq, false_and, false_or,
    not_false_eq_true, true_and, ite_self]
  omega

end Silent

/-! ### One host and a limit of ninety seconds -/

def ninetySeconds : Config where
  channels := []
  offlineAfterSeconds := 90
  ruleID := id
  alertID := id

def healthyHost : Watched where
  host := ⟨"host-1", "aging-agent", none, true, .healthy, .normal⟩
  agent := ⟨none, some 0⟩
  rule := none
  alerts := ⟨none, [], [], [], []⟩

theorem silent_host_alert_fires_stale_twice :
    Firing (run (sweep ninetySeconds) ⟨[healthyHost], []⟩
      [seconds 50, seconds 80, seconds 100, seconds 130, seconds 160]) "host-1" :=
  (@silent_host_alert_fires ninetySeconds (by decide) ⟨[healthyHost], []⟩ healthyHost 0
    rfl ⟨rfl, rfl, rfl⟩ [seconds 50, seconds 80] (seconds 100) (seconds 130) (seconds 160)
    (by decide) (by decide) (by decide) (by decide)).mpr (by decide)

/-- Sweeps every thirty seconds find the heartbeat stale only once, and the alert
stays pending for good. -/
theorem silent_host_stays_pending :
    [seconds 15, seconds 45, seconds 75, seconds 105, seconds 135, seconds 165].IsChain
        (fun earlier later =>
          earlier < later ∧ later - earlier ≤ seconds (sweepInterval ninetySeconds)) ∧
      seconds 75 ≤ seconds 90 ∧ seconds 90 < seconds 105 ∧
      ¬ Firing (run (sweep ninetySeconds) ⟨[healthyHost], []⟩
        [seconds 15, seconds 45, seconds 75, seconds 105, seconds 135, seconds 165]) "host-1" := by
  decide

end VpsGuardian.Monitoring.Liveness
