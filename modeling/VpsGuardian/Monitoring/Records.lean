import VpsGuardian.Controller.Records
import VpsGuardian.Lib.Json

/-!
The rows of alerts and notifications.
-/

namespace VpsGuardian.Monitoring

open Lib
open Controller (Time seconds minutes)

inductive AlertState
  | ok
  | pending
  | firing
  | acknowledged
  | silenced
  | resolved
  | closed
  deriving DecidableEq, Repr

inductive NotificationEvent
  | firing
  | resolved
  | reminder
  deriving DecidableEq, Repr

def NotificationEvent.name : NotificationEvent → String
  | .firing => "firing"
  | .resolved => "resolved"
  | .reminder => "reminder"

structure AlertRule where
  id : String
  sourceType : String
  sourceID : String
  severity : String
  groupKey : String
  failureThreshold : Int
  recoveryThreshold : Int
  repeatIntervalSeconds : Int
  recoveryNotifications : Bool
  deriving DecidableEq, Repr

structure AlertInstance where
  id : String
  state : AlertState
  consecutiveFailures : Nat
  consecutiveSuccesses : Nat
  firstObservedAt : Time
  lastObservedAt : Time
  firedAt : Option Time
  acknowledgedAt : Option Time
  acknowledgedBy : Option String
  assignedTo : Option String
  silencedUntil : Option Time
  resolvedAt : Option Time
  closedAt : Option Time
  lastNotifiedAt : Option Time
  notificationCount : Nat
  summary : String
  deriving DecidableEq, Repr

/-- Conditions on a rule, by the name of a field. -/
abbrev Matchers := List (String × Json.Value)

structure AlertSilence where
  alertID : Option String
  matchers : Matchers
  reason : String
  startsAt : Time
  endsAt : Time
  createdBy : String

structure MaintenanceWindow where
  matchers : Matchers
  startsAt : Time
  endsAt : Time

structure AlertTransition where
  previousState : AlertState
  currentState : AlertState
  reason : String
  observedAt : Time
  deriving DecidableEq, Repr

/-- The entries of `retry_policy` the delivery reads. -/
structure RetryPolicy where
  maxAttempts : Option Json.Value
  baseDelaySeconds : Option Json.Value

structure NotificationChannel where
  id : String
  enabled : Bool
  eventScope : List String
  severityFilter : List String
  retryPolicy : RetryPolicy
  rateLimitPerMinute : Int

/-- A notification as `_schedule_notifications` adds it. -/
structure Notification where
  channelID : String
  alertID : String
  event : NotificationEvent
  createdAt : Time
  deriving DecidableEq, Repr

end VpsGuardian.Monitoring
