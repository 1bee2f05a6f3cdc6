import VpsGuardian.Monitoring.Alerting

/-!
Recovery notifications and the firing notifications they belong to.

Whether an alert has fired since its last recovery can be read off its row:
`fired_at` is set by the first firing and never removed, and `resolved_at` is
set by a recovery and removed by a firing.
-/

namespace VpsGuardian.Monitoring.Alerting

open Lib
open Controller (HTTPException Time seconds minutes)

/-- Every `resolved` comes after a `firing` that no other `resolved` follows.
The flag says whether such a `firing` came before the list. -/
def Paired : Bool → List NotificationEvent → Prop
  | _, [] => True
  | _, .firing :: events => Paired true events
  | fired, .resolved :: events => fired = true ∧ Paired false events
  | fired, .reminder :: events => Paired fired events

instance decidablePaired : ∀ fired events, Decidable (Paired fired events)
  | _, [] => isTrue trivial
  | _, .firing :: events => decidablePaired true events
  | fired, .resolved :: events =>
      have := decidablePaired false events
      inferInstanceAs (Decidable (fired = true ∧ Paired false events))
  | fired, .reminder :: events => decidablePaired fired events

/-- Whether a `firing` came after the last `resolved`. -/
def firedSince : Bool → List NotificationEvent → Bool
  | fired, [] => fired
  | _, .firing :: events => firedSince true events
  | _, .resolved :: events => firedSince false events
  | fired, .reminder :: events => firedSince fired events

theorem paired_append (fired : Bool) (earlier later : List NotificationEvent) :
    Paired fired (earlier ++ later) ↔
      Paired fired earlier ∧ Paired (firedSince fired earlier) later := by
  induction earlier generalizing fired with
  | nil => simp [Paired, firedSince]
  | cons event earlier ih => cases event <;> simp [Paired, firedSince, ih, and_assoc]

/-- The events scheduled on a channel, in their order. -/
def eventsOn (channelID : String) (db : Alerts) : List NotificationEvent :=
  (db.notifications.filter fun notification => notification.channelID == channelID).map (·.event)

/-- The alert has fired, and has not recovered since. -/
def FiredSinceRecovery (alert : AlertInstance) : Prop :=
  alert.firedAt.isSome = true ∧ alert.resolvedAt = none

instance (alert : AlertInstance) : Decidable (FiredSinceRecovery alert) :=
  inferInstanceAs (Decidable (_ ∧ _))

/-- An observation of a success that makes an alert recover. -/
def Recovers (rule : AlertRule) (alert : AlertInstance) : Operation → Prop
  | .observe true _ => alert.state ≠ .ok ∧ alert.state ≠ .resolved ∧
      rule.recoveryThreshold ≤ alert.consecutiveSuccesses + 1
  | _ => False

instance (rule : AlertRule) (alert : AlertInstance) :
    ∀ operation, Decidable (Recovers rule alert operation)
  | .observe true _ => inferInstanceAs (Decidable (_ ∧ _ ∧ _))
  | .observe false _ | .acknowledge _ | .silence _ _ _ | .update _ _ _ | .addSilence _
  | .addWindow _ => isFalse id

/-- An alert that recovers has fired since its last recovery. -/
def Founded (config : Config) (db : Alerts) (input : Input) : Prop :=
  ∀ alert ∈ db.alert, Recovers config.rule alert input.operation → FiredSinceRecovery alert

instance (config : Config) (db : Alerts) (input : Input) : Decidable (Founded config db input) :=
  inferInstanceAs (Decidable (∀ alert ∈ db.alert, _ → _))

def hasFired (db : Alerts) : Bool :=
  db.alert.any fun alert => alert.firedAt.isSome && alert.resolvedAt.isNone

/-- A channel that is told of every event. -/
structure Listens (config : Config) (channel : NotificationChannel) : Prop where
  mem : channel ∈ config.channels
  unique : (config.channels.map (·.id)).Nodup
  takes : ∀ event, channelTakes channel config.rule event = true

variable {config : Config} {channel : NotificationChannel}

/-- Exactly one notification of an event is for the channel. -/
theorem scheduleNotifications_on (h : Listens config channel) (alert : AlertInstance)
    (event : NotificationEvent) (now : Time) :
    ((scheduleNotifications config.channels config.rule alert event now).2.filter
      fun notification => notification.channelID == channel.id).map (·.event) = [event] := by
  have hnodup : ((config.channels.filter (channelTakes · config.rule event)).map (·.id)).Nodup :=
    h.unique.sublist (List.filter_sublist.map _)
  have hmem : channel ∈ config.channels.filter (channelTakes · config.rule event) :=
    List.mem_filter.mpr ⟨h.mem, h.takes event⟩
  have hne : ((config.channels.filter (channelTakes · config.rule event)).map fun channel =>
      (⟨channel.id, alert.id, event, now⟩ : Notification)) ≠ [] := by
    intro hnil
    rw [List.map_eq_nil_iff] at hnil
    rw [hnil] at hmem
    cases hmem
  rw [scheduleNotifications, if_neg hne]
  generalize config.channels.filter (channelTakes · config.rule event) = taking at hnodup hmem
  induction taking with
  | nil => cases hmem
  | cons first taking ih =>
    rw [List.map_cons, List.nodup_cons] at hnodup
    obtain rfl | hmem := List.mem_cons.mp hmem
    · have hrest : taking.filter (fun other => other.id == channel.id) = [] := by
        rw [List.filter_eq_nil_iff]
        intro other hother
        have hother : other.id ≠ channel.id := fun heq =>
          hnodup.1 (heq ▸ List.mem_map_of_mem hother)
        simpa using hother
      simp [List.filter_map, Function.comp_def, hrest]
    · have hfirst : first.id ≠ channel.id := fun heq =>
        hnodup.1 (heq ▸ List.mem_map_of_mem hmem)
      simpa [List.filter_cons, hfirst] using ih hnodup.2 hmem

/-- An observation schedules the event that is due, and nothing else. -/
theorem observeAlert_events (h : Listens config channel) (db : Alerts) (success : Bool)
    (summary : String) (now : Time) :
    let alert := observed config.alertID db summary now
    let judged := judge config.rule config.alertID db success summary now
    let after := observeAlert config.channels config.rule config.alertID db success summary now
    eventsOn channel.id after = eventsOn channel.id db ++
        (dueEvent config.rule alert.state success judged now).toList ∧
      hasFired after = (judged.alert.firedAt.isSome && judged.alert.resolvedAt.isNone) := by
  intro alert judged after
  obtain ⟨hdue, halert, hnotifications⟩ | ⟨event, hdue, halert, hnotifications⟩ :=
    observeAlert_cases config.channels config.rule config.alertID db success summary now
  · rw [hdue, eventsOn, hasFired, hnotifications, halert]
    exact ⟨(List.append_nil _).symm, rfl⟩
  · rw [hdue, eventsOn, hasFired, hnotifications, halert, List.filter_append, List.map_append,
      scheduleNotifications_on h]
    obtain ⟨lastNotifiedAt, notificationCount, hsent⟩ :=
      scheduleNotifications_alert config.channels config.rule judged.alert event now
    rw [hsent]
    exact ⟨rfl, rfl⟩

/-- The flag is read off the alert an observation finds. -/
theorem hasFired_observed (alertID : String) (db : Alerts) (summary : String) (now : Time) :
    hasFired db = ((observed alertID db summary now).firedAt.isSome &&
      (observed alertID db summary now).resolvedAt.isNone) := by
  cases hdb : db.alert with
  | none => simp [hasFired, observed, newAlert, hdb]
  | some row => simp [hasFired, observed, hdb]

/-- A success schedules `resolved` exactly if it makes the alert recover. -/
theorem observeSuccess_events (rule : AlertRule) (hrecovery : rule.recoveryNotifications = true)
    (alert : AlertInstance) (now : Time) (summary : String) :
    let judged := observeSuccess rule alert now
    (Recovers rule alert (.observe true summary) ∧
        (dueEvent rule alert.state true judged now).toList = [.resolved] ∧
        judged.alert.resolvedAt = some now) ∨
      (¬Recovers rule alert (.observe true summary) ∧
        (dueEvent rule alert.state true judged now).toList = [] ∧
        judged.alert.firedAt = alert.firedAt ∧ judged.alert.resolvedAt = alert.resolvedAt) := by
  intro judged
  have hjudged : judged = observeSuccess rule alert now := rfl
  unfold observeSuccess at hjudged
  dsimp only at hjudged
  by_cases hresolved : alert.state = .resolved
  · rw [if_pos hresolved] at hjudged
    refine .inr ⟨fun h => h.2.1 hresolved, ?_⟩
    rw [hjudged]
    simp [dueEvent]
  rw [if_neg hresolved] at hjudged
  by_cases hrecovers : alert.state ≠ .ok ∧ rule.recoveryThreshold ≤ alert.consecutiveSuccesses + 1
  · rw [if_pos (by exact_mod_cast hrecovers), if_pos hrecovery] at hjudged
    refine .inl ⟨⟨hrecovers.1, hresolved, hrecovers.2⟩, ?_⟩
    rw [hjudged]
    simp [dueEvent, hresolved]
  · rw [if_neg (by exact_mod_cast hrecovers)] at hjudged
    refine .inr ⟨fun h => hrecovers ⟨h.1, h.2.2⟩, ?_⟩
    rw [hjudged]
    simp [dueEvent]

/-- A failure schedules `firing` exactly if it makes the alert fire. -/
theorem observeFailure_events (rule : AlertRule) (alert : AlertInstance) (suppressed : Bool)
    (now : Time) :
    let judged := observeFailure rule alert suppressed now
    ((dueEvent rule alert.state false judged now).toList = [.firing] ∧
        judged.alert.firedAt.isSome = true ∧ judged.alert.resolvedAt = none) ∨
      (((dueEvent rule alert.state false judged now).toList = [] ∨
          (dueEvent rule alert.state false judged now).toList = [.reminder]) ∧
        judged.alert.firedAt = alert.firedAt ∧ judged.alert.resolvedAt = alert.resolvedAt) := by
  intro judged
  have hremind : judged.event = none →
      (dueEvent rule alert.state false judged now).toList = [] ∨
        (dueEvent rule alert.state false judged now).toList = [.reminder] := by
    intro hevent
    unfold dueEvent
    rw [if_neg (by simp [hevent])]
    split <;> simp
  have hjudged : judged = observeFailure rule alert suppressed now := rfl
  unfold observeFailure at hjudged
  dsimp only at hjudged
  split at hjudged
  · exact .inr ⟨hremind (by rw [hjudged]), by rw [hjudged], by rw [hjudged]⟩
  split at hjudged
  · exact .inr ⟨hremind (by rw [hjudged]), by rw [hjudged], by rw [hjudged]⟩
  rename_i hstate
  split at hjudged
  · refine .inl ⟨?_, ?_, by rw [hjudged]⟩
    · have hne : alert.state ≠ .firing := fun h => hstate (.inr h)
      rw [hjudged]
      simp [dueEvent, hne]
    · rw [hjudged]
      cases alert.firedAt <;> rfl
  · exact .inr ⟨hremind (by rw [hjudged]), by rw [hjudged], by rw [hjudged]⟩

/-- What an operator's request leaves of the alert and the notifications. -/
structure Silent (db after : Alerts) : Prop where
  notifications : after.notifications = db.notifications
  fired : hasFired after = hasFired db

theorem Silent.refl (db : Alerts) : Silent db db := ⟨rfl, rfl⟩

theorem withAlert_silent {db : Alerts} {change : AlertInstance → Except HTTPException Alerts}
    (h : ∀ alert ∈ db.alert, ∀ after, change alert = .ok after → Silent db after) :
    Silent db ((withAlert db change).toOption.getD db) := by
  cases hresult : withAlert db change with
  | error e => exact .refl db
  | ok after =>
    obtain ⟨alert, halert, hafter⟩ := orRaise_bind_eq_ok.mp hresult
    exact h alert halert after hafter

theorem acknowledgeAlert_silent (db : Alerts) (actor : String) (now : Time) :
    Silent db ((acknowledgeAlert db actor now).toOption.getD db) := by
  refine withAlert_silent fun alert halert after h => ?_
  obtain ⟨-, h⟩ := raiseIf_bind_eq_ok.mp h
  cases h
  exact ⟨rfl, by simp [hasFired, Option.mem_def.mp halert]⟩

theorem silenceAlert_silent (db : Alerts) (actor reason : String) (until_ now : Time) :
    Silent db ((silenceAlert db actor reason until_ now).toOption.getD db) := by
  refine withAlert_silent fun alert halert after h => ?_
  obtain ⟨-, h⟩ := raiseIf_bind_eq_ok.mp h
  cases h
  exact ⟨rfl, by simp [hasFired, Option.mem_def.mp halert]⟩

theorem updateAlert_silent (activeUsers : List String) (db : Alerts) (assignedTo : Option String)
    (close : Bool) (note : String) (now : Time) :
    Silent db ((updateAlert activeUsers db assignedTo close note now).toOption.getD db) := by
  refine withAlert_silent fun alert halert after h => ?_
  obtain ⟨-, h⟩ := raiseIf_bind_eq_ok.mp h
  obtain ⟨-, h⟩ := raiseIf_bind_eq_ok.mp h
  cases close <;> cases h <;> exact ⟨rfl, by simp [hasFired, Option.mem_def.mp halert]⟩

/-- What one operation adds to the events of a channel. -/
theorem step_events (h : Listens config channel)
    (hrecovery : config.rule.recoveryNotifications = true) (db : Alerts) (input : Input) :
    ∃ events, eventsOn channel.id (step config db input) = eventsOn channel.id db ++ events ∧
      hasFired (step config db input) = firedSince (hasFired db) events ∧
      (Paired (hasFired db) events ↔ Founded config db input) := by
  have hquiet : ∀ after, Silent db after → ¬(∃ summary, input.operation = .observe true summary) →
      ∃ events, eventsOn channel.id after = eventsOn channel.id db ++ events ∧
        hasFired after = firedSince (hasFired db) events ∧
        (Paired (hasFired db) events ↔ Founded config db input) := by
    intro after hafter hoperation
    refine ⟨[], by rw [eventsOn, hafter.notifications, eventsOn, List.append_nil], hafter.fired,
      fun _ alert _ hrecovers => ?_, fun _ => trivial⟩
    cases heq : input.operation with
    | observe success summary =>
      cases success with
      | true => exact absurd ⟨summary, heq⟩ hoperation
      | false => rw [heq] at hrecovers; exact hrecovers.elim
    | _ => rw [heq] at hrecovers; exact hrecovers.elim
  obtain ⟨now, operation⟩ := input
  cases operation with
  | acknowledge actor => exact hquiet _ (acknowledgeAlert_silent db actor now) (by simp)
  | silence actor reason until_ =>
    exact hquiet _ (silenceAlert_silent db actor reason until_ now) (by simp)
  | update assignedTo close note =>
    exact hquiet _ (updateAlert_silent config.activeUsers db assignedTo close note now) (by simp)
  | addSilence silence => exact hquiet _ ⟨rfl, rfl⟩ (by simp)
  | addWindow window => exact hquiet _ ⟨rfl, rfl⟩ (by simp)
  | observe success summary =>
    obtain ⟨hevents, hfired⟩ := observeAlert_events h db success summary now
    have hflag := hasFired_observed config.alertID db summary now
    refine ⟨_, hevents, hfired.trans ?_, ?_⟩
    · rw [hflag]
      cases success with
      | true =>
        obtain ⟨-, hdue, hresolvedAt⟩ | ⟨-, hdue, hfiredAt, hresolvedAt⟩ :=
          observeSuccess_events config.rule hrecovery
            (observed config.alertID db summary now) now summary
        · simp only [judge, if_true, hdue, hresolvedAt, firedSince, Option.isNone_some,
            Bool.and_false]
        · simp only [judge, if_true, hdue, hfiredAt, hresolvedAt, firedSince]
      | false =>
        obtain ⟨hdue, hfiredAt, hresolvedAt⟩ | ⟨hdue | hdue, hfiredAt, hresolvedAt⟩ :=
          observeFailure_events config.rule (observed config.alertID db summary now)
            (isSuppressed db (observed config.alertID db summary now) config.rule now) now
        all_goals simp [judge, hdue, hfiredAt, hresolvedAt, firedSince]
    · cases success with
      | true =>
        have hfound : ∀ row ∈ db.alert, observed config.alertID db summary now =
            { row with
              lastObservedAt := now
              summary := .ofList (summary.toList.take 512) } := by
          intro row hrow
          rw [observed, Option.mem_def.mp hrow, Option.getD_some]
        obtain ⟨hyes, hdue, -⟩ | ⟨hno, hdue, -⟩ :=
          observeSuccess_events config.rule hrecovery
            (observed config.alertID db summary now) now summary
        · simp only [judge, if_true, hdue, Paired, and_true]
          cases hdb : db.alert with
          | none => exact absurd (by rw [observed, hdb]; rfl) hyes.1
          | some row =>
            rw [hfound row hdb] at hyes
            have hfounded : FiredSinceRecovery row ↔ hasFired db = true := by
              simp [FiredSinceRecovery, hasFired, hdb]
            refine ⟨fun hpaired other hother _ => ?_, fun hall => ?_⟩
            · rw [hdb, Option.mem_some] at hother
              exact hother ▸ hfounded.mpr hpaired
            · exact hfounded.mp (hall row hdb hyes)
        · simp only [judge, if_true, hdue, Paired, true_iff]
          intro row hrow hrecovers
          rw [hfound row hrow] at hno
          exact absurd hrecovers hno
      | false =>
        have hfounded : Founded config db ⟨now, .observe false summary⟩ :=
          fun _ _ hrecovers => hrecovers.elim
        obtain ⟨hdue, -⟩ | ⟨hdue | hdue, -⟩ :=
          observeFailure_events config.rule (observed config.alertID db summary now)
            (isSuppressed db (observed config.alertID db summary now) config.rule now) now
        all_goals simp [judge, hdue, Paired, hfounded]

/-- A rule without an alert. -/
def start (silences : List AlertSilence) (windows : List MaintenanceWindow) : Alerts :=
  ⟨none, silences, windows, [], []⟩

theorem run_events (h : Listens config channel)
    (hrecovery : config.rule.recoveryNotifications = true) (db : Alerts) (inputs : List Input) :
    ∃ events, eventsOn channel.id (run (step config) db inputs) =
        eventsOn channel.id db ++ events ∧
      (Paired (hasFired db) events ↔ Meets (step config) (Founded config) db inputs) := by
  induction inputs generalizing db with
  | nil => exact ⟨[], by rw [run_nil, List.append_nil], Iff.rfl⟩
  | cons input inputs ih =>
    obtain ⟨events, hevents, hflag, hpaired⟩ := step_events h hrecovery db input
    obtain ⟨later, hlater, hlaterPaired⟩ := ih (step config db input)
    refine ⟨events ++ later, ?_, ?_⟩
    · rw [run_cons, hlater, hevents, List.append_assoc]
    · rw [paired_append, hpaired, ← hflag, hlaterPaired]
      exact Iff.rfl

def webhook : NotificationChannel := ⟨"webhook", true, [], [], ⟨none, none⟩, 30⟩

def apiHealth : Config where
  channels := [webhook]
  rule := ⟨"rule-1", "service_check", "check-1", "critical", "hosts", 2, 2, 3600, true⟩
  alertID := "alert-1"
  activeUsers := []

theorem listens_webhook : Listens apiHealth webhook where
  mem := List.mem_singleton.mpr rfl
  unique := List.nodup_singleton _
  takes := fun _ => rfl

def timeout (now : Time) : Input := ⟨now, .observe false "timeout"⟩

def healthy (now : Time) : Input := ⟨now, .observe true "healthy"⟩

end VpsGuardian.Monitoring.Alerting
