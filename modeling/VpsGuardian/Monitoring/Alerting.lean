import VpsGuardian.Lib.Checks
import VpsGuardian.Lib.Trace
import VpsGuardian.Monitoring.Records

/-!
The persisted alert state machine (`alerting.py` and `update_alert_api`).

The fingerprint of a rule identifies its alert, so the rows of one rule are
modelled on their own. A transaction locks the alert's row while it observes.
-/

namespace VpsGuardian.Monitoring

open Lib
open Controller (HTTPException Time seconds)

/-- The rows that concern one rule, and the notifications scheduled so far. -/
structure Alerts where
  alert : Option AlertInstance
  silences : List AlertSilence
  windows : List MaintenanceWindow
  transitions : List AlertTransition
  notifications : List Notification

namespace Alerting

/-- The fields of a rule a matcher can name. -/
def supported (rule : AlertRule) : String → Option String
  | "rule_id" => some rule.id
  | "source_type" => some rule.sourceType
  | "source_id" => some rule.sourceID
  | "severity" => some rule.severity
  | "group_key" => some rule.groupKey
  | _ => none

/-- `supported.get(key) == value` -/
def fieldEquals : Option String → Json.Value → Bool
  | some field, .string s => field == s
  | none, .null => true
  | _, _ => false

def doesMatch (matchers : Matchers) (rule : AlertRule) : Bool :=
  matchers.all fun matcher => fieldEquals (supported rule matcher.1) matcher.2

def isSuppressed (db : Alerts) (alert : AlertInstance) (rule : AlertRule) (now : Time) : Bool :=
  alert.silencedUntil.any (now < ·) ||
    (db.silences.any fun silence => decide (silence.startsAt ≤ now) &&
      decide (now < silence.endsAt) &&
      (silence.alertID == some alert.id || doesMatch silence.matchers rule)) ||
    (db.windows.any fun window => decide (window.startsAt ≤ now) &&
      decide (now < window.endsAt) && doesMatch window.matchers rule)

def recordTransition (previous current : AlertState) (reason : String) (now : Time) :
    List AlertTransition :=
  if previous = current then []
  else [⟨previous, current, .ofList (reason.toList.take 255), now⟩]

/-- Whether a channel takes an event of a rule. -/
def channelTakes (channel : NotificationChannel) (rule : AlertRule)
    (event : NotificationEvent) : Bool :=
  channel.enabled && (channel.eventScope.isEmpty || channel.eventScope.contains event.name) &&
    (channel.severityFilter.isEmpty || channel.severityFilter.contains rule.severity)

/-- The alert and the notifications after an event was scheduled on all channels that take it. -/
def scheduleNotifications (channels : List NotificationChannel) (rule : AlertRule)
    (alert : AlertInstance) (event : NotificationEvent) (now : Time) :
    AlertInstance × List Notification :=
  let notifications := (channels.filter (channelTakes · rule event)).map fun channel =>
    ⟨channel.id, alert.id, event, now⟩
  if notifications = [] then (alert, [])
  else ({ alert with
    lastNotifiedAt := some now
    notificationCount := alert.notificationCount + 1 }, notifications)

/-- The row an observation starts from when the rule has no alert yet. -/
def newAlert (alertID : String) (now : Time) : AlertInstance where
  id := alertID
  state := .ok
  consecutiveFailures := 0
  consecutiveSuccesses := 0
  firstObservedAt := now
  lastObservedAt := now
  firedAt := none
  acknowledgedAt := none
  acknowledgedBy := none
  assignedTo := none
  silencedUntil := none
  resolvedAt := none
  closedAt := none
  lastNotifiedAt := none
  notificationCount := 0
  summary := ""

/-- What an observation makes of an alert: the row, the reason of a transition,
and the event to notify of. -/
structure Judgement where
  alert : AlertInstance
  reason : String
  event : Option NotificationEvent

def observeSuccess (rule : AlertRule) (alert : AlertInstance) (now : Time) : Judgement :=
  let observed := { alert with
    consecutiveSuccesses := alert.consecutiveSuccesses + 1
    consecutiveFailures := 0 }
  if alert.state = .resolved then
    ⟨{ observed with state := .ok }, "resolved alert returned to steady state", none⟩
  else if alert.state ≠ .ok ∧ rule.recoveryThreshold ≤ observed.consecutiveSuccesses then
    ⟨{ observed with state := .resolved, resolvedAt := some now }, "recovery threshold met",
      if rule.recoveryNotifications then some .resolved else none⟩
  else ⟨observed, "observation unchanged", none⟩

def observeFailure (rule : AlertRule) (alert : AlertInstance) (suppressed : Bool) (now : Time) :
    Judgement :=
  let observed := { alert with
    consecutiveFailures := alert.consecutiveFailures + 1
    consecutiveSuccesses := 0 }
  if suppressed then
    ⟨{ observed with state := .silenced }, "active silence or maintenance window", none⟩
  else if alert.state = .acknowledged ∨ alert.state = .firing then
    ⟨observed, "observation unchanged", none⟩
  else if rule.failureThreshold ≤ observed.consecutiveFailures then
    ⟨{ observed with
        state := .firing
        firedAt := alert.firedAt.or (some now)
        resolvedAt := none }, "failure threshold met", some .firing⟩
  else ⟨{ observed with state := .pending }, "failure threshold pending", none⟩

/-- The event a judged observation schedules: its own if the state has changed,
else a reminder if one is due. -/
def dueEvent (rule : AlertRule) (previous : AlertState) (success : Bool) (judged : Judgement)
    (now : Time) : Option NotificationEvent :=
  if judged.event.isSome ∧ previous ≠ judged.alert.state then judged.event
  else if success = false ∧ judged.alert.state = .firing ∧
      judged.alert.lastNotifiedAt.any
        (fun last => decide (seconds rule.repeatIntervalSeconds ≤ now - last)) then some .reminder
  else none

/-- `observe_alert`. The first observation creates the alert under the given id. -/
def observeAlert (channels : List NotificationChannel) (rule : AlertRule) (alertID : String)
    (db : Alerts) (success : Bool) (summary : String) (now : Time) : Alerts :=
  let found := db.alert.getD (newAlert alertID now)
  let alert := { found with lastObservedAt := now, summary := .ofList (summary.toList.take 512) }
  let judged := if success then observeSuccess rule alert now
    else observeFailure rule alert (isSuppressed db alert rule now) now
  let notified := match dueEvent rule found.state success judged now with
    | some event => scheduleNotifications channels rule judged.alert event now
    | none => (judged.alert, [])
  { db with
    alert := some notified.1
    transitions := db.transitions ++
      recordTransition found.state judged.alert.state judged.reason now
    notifications := db.notifications ++ notified.2 }

/-- The alert as an observation finds it. -/
def observed (alertID : String) (db : Alerts) (summary : String) (now : Time) : AlertInstance :=
  { db.alert.getD (newAlert alertID now) with
    lastObservedAt := now
    summary := .ofList (summary.toList.take 512) }

def judge (rule : AlertRule) (alertID : String) (db : Alerts) (success : Bool) (summary : String)
    (now : Time) : Judgement :=
  let alert := observed alertID db summary now
  if success then observeSuccess rule alert now
  else observeFailure rule alert (isSuppressed db alert rule now) now

/-- An observation keeps the row that was judged, and schedules the event that is due. -/
theorem observeAlert_cases (channels : List NotificationChannel) (rule : AlertRule)
    (alertID : String) (db : Alerts) (success : Bool) (summary : String) (now : Time) :
    let after := observeAlert channels rule alertID db success summary now
    let judged := judge rule alertID db success summary now
    let due := dueEvent rule (observed alertID db summary now).state success judged now
    (due = none ∧ after.alert = some judged.alert ∧ after.notifications = db.notifications) ∨
      ∃ event, due = some event ∧
        after.alert = some (scheduleNotifications channels rule judged.alert event now).1 ∧
        after.notifications = db.notifications ++
          (scheduleNotifications channels rule judged.alert event now).2 := by
  intro after judged due
  have hafter : after = { db with
      alert := some (match due with
        | some event => scheduleNotifications channels rule judged.alert event now
        | none => (judged.alert, [])).1
      transitions := after.transitions
      notifications := db.notifications ++ (match due with
        | some event => scheduleNotifications channels rule judged.alert event now
        | none => (judged.alert, [])).2 } := rfl
  cases hdue : due with
  | none =>
    rw [hdue] at hafter
    exact .inl ⟨rfl, congrArg Alerts.alert hafter,
      (congrArg Alerts.notifications hafter).trans (List.append_nil _)⟩
  | some event =>
    rw [hdue] at hafter
    exact .inr ⟨event, rfl, congrArg Alerts.alert hafter, congrArg Alerts.notifications hafter⟩

/-- Scheduling only counts what was scheduled. -/
theorem scheduleNotifications_alert (channels : List NotificationChannel) (rule : AlertRule)
    (alert : AlertInstance) (event : NotificationEvent) (now : Time) :
    ∃ lastNotifiedAt notificationCount,
      (scheduleNotifications channels rule alert event now).1 = { alert with
        lastNotifiedAt := lastNotifiedAt
        notificationCount := notificationCount } := by
  unfold scheduleNotifications
  dsimp only
  split
  · exact ⟨alert.lastNotifiedAt, alert.notificationCount, rfl⟩
  · exact ⟨_, _, rfl⟩

/-! ### Operators -/

/-- The alert of a request, and what the handler makes of it. -/
def withAlert (db : Alerts) (change : AlertInstance → Except HTTPException Alerts) :
    Except HTTPException Alerts := do
  let alert ← orRaise db.alert ⟨404, "alert not found"⟩
  change alert

def acknowledgeAlert (db : Alerts) (actor : String) (now : Time) : Except HTTPException Alerts :=
  withAlert db fun alert => do
    raiseIf (alert.state ≠ .firing ∧ alert.state ≠ .pending)
      ⟨409, "alert cannot be acknowledged in its current state"⟩
    return { db with
      alert := some { alert with
        state := .acknowledged
        acknowledgedAt := some now
        acknowledgedBy := some actor }
      transitions := db.transitions ++
        recordTransition alert.state .acknowledged "acknowledged by operator" now }

def silenceAlert (db : Alerts) (actor reason : String) (until_ now : Time) :
    Except HTTPException Alerts :=
  withAlert db fun alert => do
    raiseIf (until_ ≤ now ∨ now + seconds (30 * 86400) < until_)
      ⟨422, "silence expiry is outside the allowed range"⟩
    return { db with
      alert := some { alert with state := .silenced, silencedUntil := some until_ }
      silences := db.silences ++ [⟨some alert.id, [], .ofList (reason.toList.take 255), now,
        until_, actor⟩]
      transitions := db.transitions ++
        recordTransition alert.state .silenced "silenced by operator" now }

/-- `update_alert_api` -/
def updateAlert (activeUsers : List String) (db : Alerts) (assignedTo : Option String)
    (close : Bool) (note : String) (now : Time) : Except HTTPException Alerts :=
  withAlert db fun alert => do
    raiseIf (assignedTo.any fun user => user != "" && !activeUsers.contains user)
      ⟨422, "assignee is unavailable"⟩
    raiseIf (close = true ∧ alert.state ≠ .acknowledged ∧ alert.state ≠ .resolved)
      ⟨409, "only acknowledged or recovered alerts can be closed"⟩
    let assigned := { alert with assignedTo := assignedTo }
    return if close then { db with
      alert := some { assigned with state := .closed, closedAt := some now }
      transitions := db.transitions ++ [⟨alert.state, .closed,
        if note = "" then "closed by operator" else note, now⟩] }
    else { db with alert := some assigned }

/-- What can happen to the alert of a rule, with the rows that suppress it. -/
inductive Operation
  | observe (success : Bool) (summary : String)
  | acknowledge (actor : String)
  | silence (actor reason : String) (until_ : Time)
  | update (assignedTo : Option String) (close : Bool) (note : String)
  | addSilence (silence : AlertSilence)
  | addWindow (window : MaintenanceWindow)

/-- What no operation changes. -/
structure Config where
  channels : List NotificationChannel
  rule : AlertRule
  alertID : String
  activeUsers : List String

structure Input where
  now : Time
  operation : Operation

/-- One transaction; a refused request is rolled back. -/
def step (config : Config) (db : Alerts) (input : Input) : Alerts :=
  match input.operation with
  | .observe success summary =>
      observeAlert config.channels config.rule config.alertID db success summary input.now
  | .acknowledge actor => (acknowledgeAlert db actor input.now).toOption.getD db
  | .silence actor reason until_ => (silenceAlert db actor reason until_ input.now).toOption.getD db
  | .update assignedTo close note =>
      (updateAlert config.activeUsers db assignedTo close note input.now).toOption.getD db
  | .addSilence silence => { db with silences := db.silences ++ [silence] }
  | .addWindow window => { db with windows := db.windows ++ [window] }

end Alerting

end VpsGuardian.Monitoring
