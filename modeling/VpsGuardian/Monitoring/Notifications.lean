import VpsGuardian.Lib.Trace
import VpsGuardian.Monitoring.Records

/-!
Delivering notifications (`notifications.py`) in the passes of the monitoring
loop (`monitor_service_checks`).

A pass commits once, at its end. A message that was handed to an endpoint stays
handed over when a later step of the pass raises and the rows are rolled back.
-/

namespace VpsGuardian.Monitoring.Notifications

open Lib
open Controller (Time seconds minutes)

inductive DeliveryStatus
  | pending
  | retrying
  | delivered
  | deadLetter
  | cancelled
  deriving DecidableEq, Repr

structure NotificationDelivery where
  id : String
  channelID : String
  alertID : String
  event : NotificationEvent
  status : DeliveryStatus
  attemptCount : Nat
  nextAttemptAt : Time
  deliveredAt : Option Time
  responseCode : Option Nat
  errorSummary : Option String
  createdAt : Time
  deriving DecidableEq

/-- A JSON value for which `isinstance(value, int)` holds; a bool is one. -/
def pythonInt? : Json.Value → Option Int
  | .number n => n.toInt?
  | .bool b => some (if b then 1 else 0)
  | _ => none

def clampedMaxAttempts (policy : RetryPolicy) : Int :=
  match (policy.maxAttempts.getD (.int 5)) |> pythonInt? with
  | some raw => max 1 (min 10 raw)
  | none => 5

def clampedBaseDelay (policy : RetryPolicy) : Int :=
  match (policy.baseDelaySeconds.getD (.int 30)) |> pythonInt? with
  | some raw => max 5 (min 3600 raw)
  | none => 30

/-- What `_send` does with a message. -/
inductive SendOutcome
  /-- It raises before it reaches the endpoint. -/
  | unsent (error : String)
  /-- The endpoint does not accept the message, or the connection breaks first. -/
  | refused (error : String)
  | accepted (responseCode : Nat)
  /-- It raises after the endpoint has accepted the message, as the `quit` of a
  mail session can. -/
  | acceptedThenRaised (error : String)

/-- A message in the hands of an endpoint. -/
structure Handover where
  deliveryID : String
  channelID : String
  accepted : Bool
  deriving DecidableEq, Repr

def handovers (delivery : NotificationDelivery) : SendOutcome → List Handover
  | .unsent _ => []
  | .refused _ => [⟨delivery.id, delivery.channelID, false⟩]
  | .accepted _ | .acceptedThenRaised _ => [⟨delivery.id, delivery.channelID, true⟩]

structure Db where
  channels : List NotificationChannel
  /-- The ids of the alerts. -/
  alerts : List String
  deliveries : List NotificationDelivery

def Db.put (db : Db) (delivery : NotificationDelivery) : Db :=
  { db with deliveries := Table.put (·.id) delivery db.deliveries }

def Db.channel? (db : Db) (id : String) : Option NotificationChannel :=
  Table.lookup (·.id) id db.channels

/-- A failed attempt. -/
def recordFailure (policy : RetryPolicy) (now : Time) (error : String)
    (delivery : NotificationDelivery) : NotificationDelivery :=
  if clampedMaxAttempts policy ≤ delivery.attemptCount then
    { delivery with errorSummary := some error, status := .deadLetter }
  else
    let delay := min 3600 (2 ^ (delivery.attemptCount - 1) * clampedBaseDelay policy)
    { delivery with
      errorSummary := some error
      status := .retrying
      nextAttemptAt := now + seconds delay }

def recordAttempt (policy : RetryPolicy) (now : Time) (outcome : SendOutcome)
    (delivery : NotificationDelivery) : NotificationDelivery :=
  let attempted := { delivery with attemptCount := delivery.attemptCount + 1 }
  match outcome with
  | .accepted responseCode =>
      { attempted with
        status := .delivered
        responseCode := some responseCode
        deliveredAt := some now
        errorSummary := none }
  | .unsent error | .refused error | .acceptedThenRaised error =>
      recordFailure policy now error attempted

/-- The deliveries of a channel in the last minute. -/
def sentLastMinute (db : Db) (channelID : String) (now : Time) : Nat :=
  (db.deliveries.filter fun delivery => delivery.channelID == channelID &&
    delivery.status == .delivered && delivery.deliveredAt.any (now - minutes 1 ≤ ·)).length

/-- The body of the loop of `deliver_pending_notifications`. -/
def deliverOne (now : Time) (send : NotificationDelivery → SendOutcome) (db : Db)
    (delivery : NotificationDelivery) : Db × List Handover :=
  match db.channel? delivery.channelID with
  | none => (db.put { delivery with status := .cancelled }, [])
  | some channel =>
      if delivery.alertID ∉ db.alerts ∨ channel.enabled = false then
        (db.put { delivery with status := .cancelled }, [])
      else if channel.rateLimitPerMinute ≤ sentLastMinute db channel.id now then
        (db.put { delivery with nextAttemptAt := now + minutes 1, status := .retrying }, [])
      else
        (db.put (recordAttempt channel.retryPolicy now (send delivery) delivery),
          handovers delivery (send delivery))

def NotificationDelivery.isOpen (delivery : NotificationDelivery) : Bool :=
  delivery.status = .pending ∨ delivery.status = .retrying

/-- The rows the query selects, oldest first. -/
def dueDeliveries (db : Db) (now : Time) : List NotificationDelivery :=
  ((db.deliveries.filter fun delivery => delivery.isOpen && decide (delivery.nextAttemptAt ≤ now))
    |>.insertionSort fun a b => a.createdAt ≤ b.createdAt).take 100

def deliverPendingNotifications (now : Time) (send : NotificationDelivery → SendOutcome)
    (db : Db) : Db × List Handover :=
  let due := dueDeliveries db now
  (run (next (deliverOne now send)) db due, trace (deliverOne now send) db due)

/-- A notification with the primary key of its row. -/
structure NewDelivery extends Notification where
  id : String

/-- The insertion of a delivery under a new primary key. -/
def Db.schedule (db : Db) (new : NewDelivery) : Db :=
  if new.id ∈ db.deliveries.map (·.id) then db
  else
    { db with
      deliveries := db.deliveries ++ [{
        id := new.id
        channelID := new.channelID
        alertID := new.alertID
        event := new.event
        status := .pending
        attemptCount := 0
        nextAttemptAt := new.createdAt
        deliveredAt := none
        responseCode := none
        errorSummary := none
        createdAt := new.createdAt }] }

/-- One pass: what other transactions have scheduled before it, what its own
checks schedule, the answers of the endpoints, and whether a later step raises. -/
structure Pass where
  now : Time
  scheduled : List NewDelivery
  checked : List NewDelivery
  send : NotificationDelivery → SendOutcome
  raises : Bool

/-- The rows of the database, and what endpoints were handed so far. -/
structure World where
  db : Db
  sent : List Handover

/-- What a pass does before its commit. -/
def attemptPass (db : Db) (pass : Pass) : Db × List Handover :=
  deliverPendingNotifications pass.now pass.send (pass.checked.foldl Db.schedule db)

/-- A pass of `monitor_service_checks`. -/
def monitor (world : World) (pass : Pass) : World :=
  let db := pass.scheduled.foldl Db.schedule world.db
  let attempt := attemptPass db pass
  { db := if pass.raises then db else attempt.1
    sent := world.sent ++ attempt.2 }

/-- The messages of one delivery among those handed over. -/
def messagesOf (id : String) (sent : List Handover) : List Handover :=
  sent.filter fun handover => handover.deliveryID == id

/-- What the monitoring loop owes the recipient of a delivery: through a channel
its message is handed over no more often than the channel's retry policy allows,
and never again once an endpoint has accepted it. -/
structure Bounded (world : World) (id : String) : Prop where
  count : ∀ channelID channel, world.db.channel? channelID = some channel →
    (((messagesOf id world.sent).filter fun handover => handover.channelID == channelID).length
      : Int) ≤ clampedMaxAttempts channel.retryPolicy
  once : (messagesOf id world.sent).Pairwise fun earlier _ => earlier.accepted = false

/-- The code of the endpoint and of `_send` agree on whether the message was accepted. -/
def SendOutcome.isTold : SendOutcome → Bool
  | .acceptedThenRaised _ => false
  | _ => true

/-- A pass that hands over the message of a delivery commits, and learns whether
the endpoint has accepted the message. -/
def Settled (id : String) (world : World) (pass : Pass) : Prop :=
  let db := pass.scheduled.foldl Db.schedule world.db
  (∃ handover ∈ (attemptPass db pass).2, handover.deliveryID = id) →
    pass.raises = false ∧
      ∀ delivery ∈ dueDeliveries (pass.checked.foldl Db.schedule db) pass.now,
        delivery.id = id → (pass.send delivery).isTold = true

instance (id : String) (world : World) (pass : Pass) : Decidable (Settled id world pass) :=
  inferInstanceAs (Decidable (_ → _))

/-! ### One row -/

/-- The row of a delivery counts the messages handed over for it. -/
structure Accounts (channels : List NotificationChannel) (messages : List Handover)
    (delivery : NotificationDelivery) : Prop where
  channel : ∀ message ∈ messages, message.channelID = delivery.channelID
  attempts : messages.length ≤ delivery.attemptCount
  refused : delivery.isOpen = true → ∀ message ∈ messages, message.accepted = false
  once : messages.Pairwise fun earlier _ => earlier.accepted = false
  bounded : ∀ channel, Table.lookup (·.id) delivery.channelID channels = some channel →
    (delivery.attemptCount : Int) ≤ clampedMaxAttempts channel.retryPolicy ∧
      (delivery.isOpen = true →
        (delivery.attemptCount : Int) < clampedMaxAttempts channel.retryPolicy)

theorem one_le_clampedMaxAttempts (policy : RetryPolicy) : 1 ≤ clampedMaxAttempts policy := by
  unfold clampedMaxAttempts
  split
  · exact le_max_left _ _
  · decide

variable {channels : List NotificationChannel} {messages : List Handover}
  {delivery : NotificationDelivery}

/-- A row that is closed or put off counts the same messages. -/
theorem Accounts.of_eq (h : Accounts channels messages delivery) {other : NotificationDelivery}
    (hchannel : other.channelID = delivery.channelID)
    (hattempts : other.attemptCount = delivery.attemptCount)
    (hopen : other.isOpen = true → delivery.isOpen = true) :
    Accounts channels messages other where
  channel := by rw [hchannel]; exact h.channel
  attempts := by rw [hattempts]; exact h.attempts
  refused hother := h.refused (hopen hother)
  once := h.once
  bounded channel hlookup := by
    rw [hchannel] at hlookup
    rw [hattempts]
    exact ⟨(h.bounded channel hlookup).1,
      fun hother => (h.bounded channel hlookup).2 (hopen hother)⟩

/-- After a failed attempt every message so far was refused, and the attempts are
not used up unless the row is closed. -/
theorem accounts_recordFailure {attempted : NotificationDelivery} {channel : NotificationChannel}
    (hlookup : Table.lookup (·.id) attempted.channelID channels = some channel)
    (hroom : (attempted.attemptCount : Int) ≤ clampedMaxAttempts channel.retryPolicy)
    (hchannel : ∀ message ∈ messages, message.channelID = attempted.channelID)
    (hattempts : messages.length ≤ attempted.attemptCount)
    (hrefused : ∀ message ∈ messages, message.accepted = false) (now : Time) (error : String) :
    Accounts channels messages (recordFailure channel.retryPolicy now error attempted) := by
  have honce : messages.Pairwise fun earlier _ => earlier.accepted = false :=
    List.pairwise_of_forall_mem_list fun m hm _ _ => hrefused m hm
  have hunique {other : NotificationChannel}
      (hother : Table.lookup (·.id) attempted.channelID channels = some other) :
      other = channel := by
    rw [hlookup, Option.some.injEq] at hother
    exact hother.symm
  unfold recordFailure
  split
  next =>
    refine ⟨hchannel, hattempts, fun _ => hrefused, honce, fun other hother => ?_⟩
    obtain rfl := hunique hother
    refine ⟨hroom, fun hdead => ?_⟩
    simp [NotificationDelivery.isOpen] at hdead
  next hleft =>
    refine ⟨hchannel, hattempts, fun _ => hrefused, honce, fun other hother => ?_⟩
    obtain rfl := hunique hother
    exact ⟨hroom, fun _ => not_le.mp hleft⟩

/-- An attempt whose outcome the code learns is counted. -/
theorem Accounts.recordAttempt (h : Accounts channels messages delivery)
    (hopen : delivery.isOpen = true) {channel : NotificationChannel}
    (hchannel : Table.lookup (·.id) delivery.channelID channels = some channel) (now : Time)
    {outcome : SendOutcome} (htold : outcome.isTold = true) :
    Accounts channels (messages ++ handovers delivery outcome)
      (recordAttempt channel.retryPolicy now outcome delivery) := by
  have hroom := (h.bounded channel hchannel).2 hopen
  have hrefused := h.refused hopen
  have hattempts := h.attempts
  have honce {message : Handover} :
      (messages ++ [message]).Pairwise fun earlier _ => earlier.accepted = false :=
    List.pairwise_append.mpr ⟨h.once, List.pairwise_singleton _ _, fun m hm _ _ => hrefused m hm⟩
  have hunique {other : NotificationChannel}
      (hother : Table.lookup (·.id) delivery.channelID channels = some other) :
      other = channel := by
    rw [hchannel, Option.some.injEq] at hother
    exact hother.symm
  have hattempted : Table.lookup (·.id)
      { delivery with attemptCount := delivery.attemptCount + 1 }.channelID channels =
        some channel := hchannel
  cases outcome with
  | accepted responseCode =>
    refine ⟨?_, ?_, ?_, honce, ?_⟩
    · intro m hm
      obtain hm | hm := List.mem_append.mp hm
      · exact h.channel m hm
      · rw [List.mem_singleton.mp hm]
        rfl
    · simpa [Notifications.recordAttempt, handovers] using hattempts
    · intro hdelivered
      simp [Notifications.recordAttempt, NotificationDelivery.isOpen] at hdelivered
    · intro other hother
      obtain rfl := hunique hother
      refine ⟨?_, fun hdelivered => ?_⟩
      · simp only [Notifications.recordAttempt, Nat.cast_add, Nat.cast_one]
        omega
      · simp [Notifications.recordAttempt, NotificationDelivery.isOpen] at hdelivered
  | acceptedThenRaised error => simp [SendOutcome.isTold] at htold
  | unsent error =>
    rw [handovers, List.append_nil]
    refine accounts_recordFailure hattempted ?_ h.channel ?_ hrefused now error
    · simp only [Nat.cast_add, Nat.cast_one]
      omega
    · exact Nat.le_succ_of_le hattempts
  | refused error =>
    refine accounts_recordFailure hattempted ?_ ?_ ?_ ?_ now error
    · simp only [Nat.cast_add, Nat.cast_one]
      omega
    · intro m hm
      obtain hm | hm := List.mem_append.mp hm
      · exact h.channel m hm
      · rw [List.mem_singleton.mp hm]
    · simpa [handovers] using hattempts
    · intro m hm
      obtain hm | hm := List.mem_append.mp hm
      · exact hrefused m hm
      · rw [List.mem_singleton.mp hm]

/-! ### One pass -/

/-- What the body of the loop does with a row: it closes it or puts it off, or
it makes an attempt. -/
theorem deliverOne_cases (now : Time) (send : NotificationDelivery → SendOutcome) (db : Db)
    (delivery : NotificationDelivery) :
    (∃ other, deliverOne now send db delivery = (db.put other, []) ∧ other.id = delivery.id ∧
      other.channelID = delivery.channelID ∧ other.attemptCount = delivery.attemptCount) ∨
    ∃ channel, db.channel? delivery.channelID = some channel ∧
      deliverOne now send db delivery =
        (db.put (recordAttempt channel.retryPolicy now (send delivery) delivery),
          handovers delivery (send delivery)) := by
  unfold deliverOne
  cases hchannel : db.channel? delivery.channelID with
  | none => exact Or.inl ⟨_, rfl, rfl, rfl, rfl⟩
  | some channel =>
    dsimp only
    split
    next => exact Or.inl ⟨_, rfl, rfl, rfl, rfl⟩
    next =>
      split
      next => exact Or.inl ⟨_, rfl, rfl, rfl, rfl⟩
      next => exact Or.inr ⟨channel, rfl, rfl⟩

theorem recordAttempt_id (policy : RetryPolicy) (now : Time) (outcome : SendOutcome)
    (delivery : NotificationDelivery) :
    (recordAttempt policy now outcome delivery).id = delivery.id := by
  cases outcome with
  | accepted => rfl
  | unsent | refused | acceptedThenRaised =>
    simp only [recordAttempt, recordFailure]
    split <;> rfl

/-- The body of the loop replaces the one row, and hands over messages of it only. -/
theorem deliverOne_put (now : Time) (send : NotificationDelivery → SendOutcome) (db : Db)
    (delivery : NotificationDelivery) :
    (∃ other, (deliverOne now send db delivery).1 = db.put other ∧ other.id = delivery.id) ∧
      ∀ message ∈ (deliverOne now send db delivery).2, message.deliveryID = delivery.id := by
  obtain ⟨other, heq, hid, -⟩ | ⟨channel, -, heq⟩ := deliverOne_cases now send db delivery
  · rw [heq]
    exact ⟨⟨other, rfl, hid⟩, by simp⟩
  · rw [heq]
    refine ⟨⟨_, rfl, recordAttempt_id _ _ _ _⟩, ?_⟩
    cases send delivery <;> simp [handovers]

/-- The table counts the messages of one delivery. -/
structure Counted (id : String) (db : Db) (messages : List Handover) : Prop where
  nodup : (db.deliveries.map (·.id)).Nodup
  row : ∀ delivery ∈ db.deliveries, delivery.id = id → Accounts db.channels messages delivery
  absent : id ∉ db.deliveries.map (·.id) → messages = []

variable {id : String} {db : Db} {now : Time} {send : NotificationDelivery → SendOutcome}

theorem Counted.put_of_ne (h : Counted id db messages) {other : NotificationDelivery}
    (hne : other.id ≠ id) : Counted id (db.put other) messages where
  nodup := by simpa [Db.put] using h.nodup
  row delivery hdelivery hid := by
    obtain ⟨rfl, -⟩ | ⟨hmem, -⟩ := Table.mem_put.mp hdelivery
    · exact absurd hid hne
    · exact h.row delivery hmem hid
  absent hid := h.absent (by simpa [Db.put] using hid)

theorem Counted.put (h : Counted id db messages) {messages' : List Handover}
    {other : NotificationDelivery} (hother : other.id = id)
    (hmem : id ∈ db.deliveries.map (·.id)) (haccounts : Accounts db.channels messages' other) :
    Counted id (db.put other) messages' where
  nodup := by simpa [Db.put] using h.nodup
  row delivery hdelivery hid := by
    obtain ⟨rfl, -⟩ | ⟨-, hne⟩ := Table.mem_put.mp hdelivery
    · exact haccounts
    · exact absurd (hid.trans hother.symm) hne
  absent hid := absurd (by simpa [Db.put] using hmem) hid

theorem messagesOf_eq_nil {sent : List Handover} (h : ∀ message ∈ sent, message.deliveryID ≠ id) :
    messagesOf id sent = [] := by
  rw [messagesOf, List.filter_eq_nil_iff]
  intro message hmessage
  simpa using h message hmessage

theorem messagesOf_eq_self {sent : List Handover} (h : ∀ message ∈ sent, message.deliveryID = id) :
    messagesOf id sent = sent := by
  rw [messagesOf, List.filter_eq_self]
  intro message hmessage
  simpa using h message hmessage

theorem messagesOf_append (sent sent' : List Handover) :
    messagesOf id (sent ++ sent') = messagesOf id sent ++ messagesOf id sent' :=
  List.filter_append ..

theorem Counted.deliverOne (h : Counted id db messages) {delivery : NotificationDelivery}
    (hmem : delivery ∈ db.deliveries) (hopen : delivery.isOpen = true)
    (htold : delivery.id = id →
      (∃ message ∈ (deliverOne now send db delivery).2, message.deliveryID = id) →
        (send delivery).isTold = true) :
    Counted id (Notifications.deliverOne now send db delivery).1
      (messages ++ messagesOf id (Notifications.deliverOne now send db delivery).2) := by
  by_cases hid : delivery.id = id
  · have haccounts := h.row delivery hmem hid
    have hkey : id ∈ db.deliveries.map (·.id) := hid ▸ List.mem_map_of_mem hmem
    obtain ⟨other, heq, hother, hchannel, hattempts⟩ | ⟨channel, hchannel, heq⟩ :=
      deliverOne_cases now send db delivery
    · rw [heq, messagesOf, List.filter_nil, List.append_nil]
      exact h.put (hother.trans hid) hkey (haccounts.of_eq hchannel hattempts fun _ => hopen)
    · rw [heq] at htold ⊢
      have hmessages : messagesOf id (handovers delivery (send delivery)) =
          handovers delivery (send delivery) := by
        apply messagesOf_eq_self
        cases send delivery <;> simp [handovers, hid]
      have htold : (send delivery).isTold = true := by
        cases hsend : send delivery with
        | acceptedThenRaised error =>
          have := htold hid (by simp [hsend, handovers, hid])
          rwa [hsend] at this
        | unsent | refused | accepted => rfl
      rw [hmessages]
      exact h.put ((recordAttempt_id _ _ _ _).trans hid) hkey
        (haccounts.recordAttempt hopen hchannel now htold)
  · obtain ⟨⟨other, heq, hother⟩, hmessages⟩ := deliverOne_put now send db delivery
    have hnone : messagesOf id (Notifications.deliverOne now send db delivery).2 = [] :=
      messagesOf_eq_nil fun message hmessage heq =>
        hid ((hmessages message hmessage).symm.trans heq)
    rw [hnone, heq, List.append_nil]
    exact h.put_of_ne (hother ▸ hid)

/-- Over the rows of one pass, each taken as the query has returned it. -/
theorem Counted.deliverAll (due : List NotificationDelivery) (hnodup : (due.map (·.id)).Nodup)
    (hopen : ∀ delivery ∈ due, delivery.isOpen = true)
    (h : Counted id db messages) (hmem : ∀ delivery ∈ due, delivery ∈ db.deliveries)
    (htold : (∃ message ∈ trace (Notifications.deliverOne now send) db due,
      message.deliveryID = id) → ∀ delivery ∈ due, delivery.id = id →
        (send delivery).isTold = true) :
    Counted id (run (next (Notifications.deliverOne now send)) db due)
      (messages ++ messagesOf id (trace (Notifications.deliverOne now send) db due)) := by
  induction due generalizing db messages with
  | nil => simpa [messagesOf] using h
  | cons delivery due ih =>
    rw [List.map_cons, List.nodup_cons] at hnodup
    rw [List.forall_mem_cons] at hopen hmem
    have hone : Counted id (Notifications.deliverOne now send db delivery).1 _ :=
      h.deliverOne hmem.1 hopen.1 ?_
    · rw [run_cons, trace_cons, messagesOf_append, ← List.append_assoc]
      refine ih hnodup.2 hopen.2 hone ?_ ?_
      · intro other hother
        obtain ⟨⟨row, heq, hrow⟩, -⟩ := deliverOne_put now send db delivery
        rw [next, heq]
        refine Table.mem_put_of_ne (hmem.2 other hother) fun hsame => hnodup.1 ?_
        exact (hsame.trans hrow) ▸ List.mem_map_of_mem hother
      · rintro ⟨message, hmessage, hid⟩ other hother
        exact htold ⟨message, List.mem_append_right _ hmessage, hid⟩ other
          (List.mem_cons_of_mem _ hother)
    · rintro hid ⟨message, hmessage, hmessageID⟩
      exact htold ⟨message, List.mem_append_left _ hmessage, hmessageID⟩ delivery
        List.mem_cons_self hid

theorem Counted.schedule (h : Counted id db messages) (new : NewDelivery) :
    Counted id (db.schedule new) messages := by
  unfold Db.schedule
  split
  next => exact h
  next hfresh =>
    constructor
    · rw [List.map_append, List.nodup_append]
      refine ⟨h.nodup, List.nodup_singleton _, ?_⟩
      intro key hkey key' hkey' heq
      obtain rfl := List.mem_singleton.mp hkey'
      have heq : key = new.id := heq
      exact hfresh (heq ▸ hkey)
    · intro delivery hdelivery hid
      obtain hmem | hmem := List.mem_append.mp hdelivery
      · exact h.row delivery hmem hid
      · obtain rfl := List.mem_singleton.mp hmem
        have hnone : messages = [] := h.absent (hid ▸ hfresh)
        subst hnone
        refine ⟨by simp, le_refl _, by simp, List.Pairwise.nil, fun channel _ => ?_⟩
        have hone := one_le_clampedMaxAttempts channel.retryPolicy
        refine ⟨?_, fun _ => ?_⟩
        · simp only [Nat.cast_zero]
          omega
        · simp only [Nat.cast_zero]
          omega
    · intro habsent
      apply h.absent
      rw [List.map_append, List.mem_append, not_or] at habsent
      exact habsent.1

theorem Counted.scheduleAll (h : Counted id db messages) (new : List NewDelivery) :
    Counted id (new.foldl Db.schedule db) messages := by
  induction new generalizing db with
  | nil => exact h
  | cons delivery new ih => exact ih (h.schedule delivery)

theorem mem_dueDeliveries {delivery : NotificationDelivery}
    (h : delivery ∈ dueDeliveries db now) :
    delivery ∈ db.deliveries ∧ delivery.isOpen = true := by
  rw [dueDeliveries] at h
  have h := (List.mem_insertionSort _).mp (List.mem_of_mem_take h)
  rw [List.mem_filter, Bool.and_eq_true] at h
  exact ⟨h.1, h.2.1⟩

theorem nodup_dueDeliveries (h : (db.deliveries.map (·.id)).Nodup) :
    ((dueDeliveries db now).map (·.id)).Nodup := by
  have hfilter := h.sublist (List.filter_sublist (p := fun delivery =>
    delivery.isOpen && decide (delivery.nextAttemptAt ≤ now)).map NotificationDelivery.id)
  have hsorted := ((List.perm_insertionSort (fun a b => a.createdAt ≤ b.createdAt) _).map
    NotificationDelivery.id).nodup_iff.mpr hfilter
  exact hsorted.sublist ((List.take_sublist 100 _).map _)

/-! ### Runs of passes -/

/-- The rows of the database count the messages of a delivery that were handed over. -/
def Invariant (id : String) (world : World) : Prop :=
  Counted id world.db (messagesOf id world.sent)

theorem Invariant.monitor {world : World} (h : Invariant id world) {pass : Pass}
    (hsettled : Settled id world pass) : Invariant id (monitor world pass) := by
  have hscheduled := Counted.scheduleAll h pass.scheduled
  have hchecked := hscheduled.scheduleAll pass.checked
  unfold Invariant Notifications.monitor
  dsimp only
  rw [messagesOf_append]
  by_cases hhanded : ∃ handover ∈ (attemptPass (pass.scheduled.foldl Db.schedule world.db) pass).2,
      handover.deliveryID = id
  · obtain ⟨hcommits, htold⟩ := hsettled hhanded
    rw [if_neg (by simp [hcommits])]
    refine Counted.deliverAll _ (nodup_dueDeliveries hchecked.nodup)
      (fun delivery hdelivery => (mem_dueDeliveries hdelivery).2) hchecked
      (fun delivery hdelivery => (mem_dueDeliveries hdelivery).1) fun _ => htold
  · have hnone : messagesOf id
        (attemptPass (pass.scheduled.foldl Db.schedule world.db) pass).2 = [] :=
      messagesOf_eq_nil fun message hmessage heq => hhanded ⟨message, hmessage, heq⟩
    split
    next =>
      rw [hnone, List.append_nil]
      exact hscheduled
    next =>
      refine Counted.deliverAll _ (nodup_dueDeliveries hchecked.nodup)
        (fun delivery hdelivery => (mem_dueDeliveries hdelivery).2) hchecked
        (fun delivery hdelivery => (mem_dueDeliveries hdelivery).1) ?_
      exact fun hhanded' => absurd hhanded' hhanded

theorem Invariant.bounded {world : World} (h : Invariant id world) : Bounded world id := by
  by_cases hid : id ∈ world.db.deliveries.map (·.id)
  · obtain ⟨delivery, hdelivery, hkey⟩ := List.mem_map.mp hid
    have haccounts := h.row delivery hdelivery hkey
    refine ⟨fun channelID channel hchannel => ?_, haccounts.once⟩
    by_cases hsame : channelID = delivery.channelID
    · subst hsame
      have hattempts := haccounts.attempts
      have hbound := (haccounts.bounded channel hchannel).1
      have hlength := List.length_filter_le
        (fun handover : Handover => handover.channelID == delivery.channelID)
        (messagesOf id world.sent)
      omega
    · have hnone : (messagesOf id world.sent).filter
          (fun handover => handover.channelID == channelID) = [] := by
        rw [List.filter_eq_nil_iff]
        intro message hmessage
        rw [haccounts.channel message hmessage]
        simpa using Ne.symm hsame
      have hone := one_le_clampedMaxAttempts channel.retryPolicy
      rw [hnone]
      simp only [List.length_nil, Nat.cast_zero]
      omega
  · have hnone := h.absent hid
    refine ⟨fun channelID channel _ => ?_, ?_⟩
    · have hone := one_le_clampedMaxAttempts channel.retryPolicy
      rw [hnone]
      simp only [List.filter_nil, List.length_nil, Nat.cast_zero]
      omega
    · rw [hnone]
      exact List.Pairwise.nil

/-- A database without deliveries. -/
def start (channels : List NotificationChannel) (alerts : List String) : World :=
  ⟨⟨channels, alerts, []⟩, []⟩

/-- In every run of passes in which each pass that hands over the message of a
delivery commits and learns the outcome, that message is handed over at most as
often as the retry policy says, and not again once it was accepted. -/
theorem attempts_bounded (channels : List NotificationChannel) (alerts : List String)
    (passes : List Pass) (id : String)
    (h : Meets monitor (Settled id) (start channels alerts) passes) :
    Bounded (run monitor (start channels alerts) passes) id := by
  have hstart : Invariant id (start channels alerts) := by
    constructor
    · exact List.nodup_nil
    · intro delivery hdelivery
      cases hdelivery
    · exact fun _ => rfl
  exact (run_invariant (I := Invariant id) (fun _ _ hsettled hworld => hworld.monitor hsettled)
    hstart h).bounded

/-! ### One webhook and one message -/

def webhook : NotificationChannel := ⟨"webhook", true, [], [], ⟨some (.int 2), none⟩, 30⟩

def firing : NewDelivery := ⟨⟨"webhook", "alert-1", .firing, 0⟩, "delivery-1"⟩

/-- A pass at which the endpoint accepts what it is handed. -/
def acceptedPass (now : Time) (raises : Bool) : Pass :=
  ⟨now, [firing], [], fun _ => .accepted 204, raises⟩

/-- A pass at which the endpoint refuses what it is handed. -/
def refusedPass (now : Time) : Pass := ⟨now, [firing], [], fun _ => .refused "RuntimeError", false⟩

theorem attempts_bounded_webhook :
    (run monitor (start [webhook] ["alert-1"])
        [refusedPass 0, acceptedPass (seconds 60) false, acceptedPass (seconds 70) true]).sent =
          [⟨"delivery-1", "webhook", false⟩, ⟨"delivery-1", "webhook", true⟩] ∧
      Bounded (run monitor (start [webhook] ["alert-1"])
        [refusedPass 0, acceptedPass (seconds 60) false, acceptedPass (seconds 70) true])
        "delivery-1" :=
  ⟨by decide +kernel, attempts_bounded [webhook] ["alert-1"] _ "delivery-1" (by decide +kernel)⟩

/-- Three passes that fail after the delivery hand an accepted message over three times. -/
theorem failing_passes_repeat_message :
    ¬ Bounded (run monitor (start [webhook] ["alert-1"])
      [acceptedPass 0 true, acceptedPass (seconds 10) true, acceptedPass (seconds 20) true])
      "delivery-1" := by
  intro h
  have hsent : (run monitor (start [webhook] ["alert-1"])
      [acceptedPass 0 true, acceptedPass (seconds 10) true, acceptedPass (seconds 20) true]).sent =
        List.replicate 3 ⟨"delivery-1", "webhook", true⟩ := by decide +kernel
  have honce := h.once
  rw [hsent] at honce
  revert honce
  decide

end VpsGuardian.Monitoring.Notifications
