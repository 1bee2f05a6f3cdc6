import VpsGuardian.Lib.BoundedQueue
import VpsGuardian.Lib.JsonRoundTrip
import VpsGuardian.Lib.Run

/-!
The queue of the Agent on disk (`agent/queue.go`) and the loop that uses it (`run` of
`agent/main.go`).

The file holds the records as one JSON array. A record is the value it encodes: all of
them are written by `json.Marshal`, which reads its own texts back (`parse_render`). A
nil slice and an empty one are the same list of records.
-/

namespace VpsGuardian.Queue

open Lib
open BoundedQueue (Account evict evicted)

/-- The bytes of `json.Marshal(records)`. -/
def marshal (records : List Json.Value) : List Char := Json.render Json.goEscape (.array records)

/-- `len(data)` -/
def encodedSize (records : List Json.Value) : Int := (String.ofList (marshal records)).utf8ByteSize

namespace DiskQueue

/-- The records of a queue file; none where it cannot be read. -/
def read : Option (List Char) → Option (List Json.Value)
  | none => some []
  | some [] => some []
  | some data =>
      match Json.parse (String.ofList data) with
      | some (.array records) => some records
      | some .null => some []
      | _ => none

variable (maxBytes : Int)

def tooLarge (records : List Json.Value) : Bool := maxBytes < encodedSize records

/-- What a `write` stores, and how many records its loop cuts off. -/
structure Written where
  data : List Char
  evicted : Nat
  deriving DecidableEq, Repr

def write (records : List Json.Value) : Written where
  data := marshal (evict (tooLarge maxBytes) records)
  evicted := evicted (tooLarge maxBytes) records

/-- `Enqueue` -/
def enqueue (file : Option (List Char)) (value : Json.Value) : Option Written := do
  let records ← read file
  return write maxBytes (records ++ [value])

/-- `Snapshot` -/
def snapshot (file : Option (List Char)) (limit : Nat) : Option (List Json.Value) := do
  let records ← read file
  return if limit < records.length then records.take limit else records

/-- `Ack` -/
def ack (file : Option (List Char)) (count : Nat) : Option Written := do
  let records ← read file
  let count := if records.length < count then records.length else count
  return write maxBytes (records.drop count)

end DiskQueue

/-! ### Runs -/

/-- A call of the queue. A call that `fails` is one whose system calls report an error; the file is
replaced by a rename only, so it stays as it was. -/
inductive Operation where
  | enqueue (value : Json.Value) (fails : Bool)
  | snapshot (limit : Nat) (fails : Bool)
  | ack (count : Nat) (fails : Bool)

/-- The file, the events of the latest `Snapshot` unless something was enqueued or acknowledged
since, and what became of the records: those enqueued so far, and the numbers of those that were
acknowledged and dropped. -/
structure State where
  file : Option (List Char)
  latest : Option (List Json.Value)
  enqueued : List Json.Value
  account : Account

def initial : State := ⟨none, none, [], .empty⟩

variable (maxBytes : Int)

def step (s : State) : Operation → State
  | .enqueue value fails =>
      match if fails then none else DiskQueue.enqueue maxBytes s.file value with
      | some written =>
          { file := some written.data, latest := none, enqueued := s.enqueued ++ [value]
            account := s.account.drop written.evicted }
      | none => { s with latest := none }
  | .snapshot limit fails =>
      { s with latest := if fails then none else DiskQueue.snapshot s.file limit }
  | .ack count fails =>
      match if fails then none else DiskQueue.ack maxBytes s.file count with
      | some written =>
          let queued := (DiskQueue.read s.file).getD []
          { s with
            file := some written.data, latest := none
            account := (s.account.acknowledge (min count queued.length)).drop written.evicted }
      | none => { s with latest := none }

/-- `Ack` is called for the events of the latest `Snapshot` only. -/
def Allowed (s : State) : Operation → Prop
  | .ack count _ => ∃ events, s.latest = some events ∧ count = events.length
  | _ => True

/-! ### What holds between the calls -/

/-- The records the file holds are those the account has as queued, they fit or are a single one,
and the latest events are the oldest of them. -/
structure State.Consistent (s : State) (queued : List Json.Value) : Prop where
  read : DiskQueue.read s.file = some queued
  tracks : s.account.Tracks s.enqueued queued
  bounded : encodedSize queued ≤ maxBytes ∨ queued.length ≤ 1
  latest : ∀ events ∈ s.latest, events <+: queued

/-- A call drops a record only where the queue from it on is too large, and keeps a newer one. -/
def DropsOldest (s s' : State) : Prop :=
  ∀ i ∈ s'.account.dropped, i ∉ s.account.dropped →
    maxBytes < encodedSize (s'.enqueued.drop i) ∧ i < s'.account.first ∧
      s'.account.first < s'.enqueued.length

/-- A call acknowledges nothing but the latest events, each as the record it is. -/
def AcknowledgesLatest (s s' : State) : Prop :=
  ∀ i ∈ s'.account.acknowledged, i ∉ s.account.acknowledged →
    ∃ events ∈ s.latest, ∃ k < events.length, i = s.account.first + k ∧
      events[k]? = s.enqueued[i]?

variable {maxBytes}

theorem read_marshal (records : List Json.Value) :
    DiskQueue.read (some (marshal records)) = some records := by
  have hparse : Json.parse (String.ofList (marshal records)) = some (.array records) :=
    Json.parse_render Json.unescapes_go _
  obtain ⟨c, rest, hcons⟩ : ∃ c rest, marshal records = c :: rest := by
    cases records <;> exact ⟨_, _, rfl⟩
  rw [hcons] at hparse ⊢
  rw [DiskQueue.read, hparse]
  rintro ⟨⟩

/-- What `write` stores is read back, and what its loop cuts off is dropped. -/
theorem consistent_write {account : Account} {enqueued offered : List Json.Value}
    (h : account.Tracks enqueued offered) :
    State.Consistent maxBytes
      { file := some (DiskQueue.write maxBytes offered).data, latest := none, enqueued
        account := account.drop (DiskQueue.write maxBytes offered).evicted }
      (evict (DiskQueue.tooLarge maxBytes) offered) where
  read := read_marshal _
  tracks := by
    rw [← BoundedQueue.drop_evicted]
    exact h.drop (BoundedQueue.evicted_le (DiskQueue.tooLarge maxBytes) offered)
  bounded := by
    refine (BoundedQueue.evict_fits offered).imp_left fun hfits => ?_
    rw [DiskQueue.tooLarge, decide_eq_false_iff_not, not_lt] at hfits
    exact hfits
  latest := nofun

/-- The loop of `write` drops no more than it has to. -/
theorem drops_write {account : Account} {enqueued offered : List Json.Value}
    (h : account.Tracks enqueued offered) {i : Nat}
    (hi : i ∈ (account.drop (DiskQueue.write maxBytes offered).evicted).dropped)
    (hnew : i ∉ account.dropped) :
    maxBytes < encodedSize (enqueued.drop i) ∧
      i < (account.drop (DiskQueue.write maxBytes offered).evicted).first ∧
      (account.drop (DiskQueue.write maxBytes offered).evicted).first < enqueued.length := by
  have hrange : i ∈ List.range' account.first (DiskQueue.write maxBytes offered).evicted :=
    (List.mem_append.mp hi).resolve_left hnew
  obtain ⟨hfirst, hlt⟩ := List.mem_range'_1.mp hrange
  obtain ⟨j, rfl⟩ := Nat.exists_eq_add_of_le hfirst
  have hj : j < evicted (DiskQueue.tooLarge maxBytes) offered := Nat.lt_of_add_lt_add_left hlt
  have hlarge := BoundedQueue.tooLarge_of_lt_evicted hj
  rw [← h.queued, List.drop_drop] at hlarge
  have hoffered : offered ≠ [] := by
    rintro rfl
    exact absurd hj (Nat.not_lt_zero j)
  have hkept := List.length_pos_of_ne_nil
    (BoundedQueue.evict_ne_nil (DiskQueue.tooLarge maxBytes) hoffered)
  have htracks := h.drop (BoundedQueue.evicted_le (DiskQueue.tooLarge maxBytes) offered)
  rw [BoundedQueue.drop_evicted] at htracks
  have hlength := htracks.length_queued
  refine ⟨of_decide_eq_true hlarge, ?_, ?_⟩
  · rw [Account.first_drop]
    exact hlt
  · change (account.drop (evicted (DiskQueue.tooLarge maxBytes) offered)).first < _
    omega

/-- A call that fails changes nothing but what the caller knows. -/
theorem consistent_forget {s : State} {queued : List Json.Value}
    (h : s.Consistent maxBytes queued) :
    State.Consistent maxBytes { s with latest := none } queued :=
  { h with latest := nofun }

theorem consistent_initial : initial.Consistent maxBytes [] where
  read := rfl
  tracks := Account.tracks_empty
  bounded := .inr (Nat.zero_le 1)
  latest := nofun

section Step

variable {s : State} {queued : List Json.Value} (h : s.Consistent maxBytes queued)

include h

theorem step_enqueue (value : Json.Value) :
    step maxBytes s (.enqueue value false) =
      { file := some (DiskQueue.write maxBytes (queued ++ [value])).data, latest := none
        enqueued := s.enqueued ++ [value]
        account := s.account.drop (DiskQueue.write maxBytes (queued ++ [value])).evicted } := by
  simp only [step, DiskQueue.enqueue, h.read, Bool.false_eq_true, if_false, Option.bind_eq_bind,
    Option.bind_some, Option.pure_def]

theorem snapshot_eq (limit : Nat) :
    DiskQueue.snapshot s.file limit = some (queued.take limit) := by
  simp only [DiskQueue.snapshot, h.read, Option.bind_eq_bind, Option.bind_some, Option.pure_def,
    Option.some.injEq]
  split_ifs with hlimit
  · rfl
  · rw [List.take_of_length_le (by omega)]

theorem step_ack (count : Nat) :
    step maxBytes s (.ack count false) =
      { s with
        file := some (DiskQueue.write maxBytes (queued.drop (min count queued.length))).data
        latest := none
        account := (s.account.acknowledge (min count queued.length)).drop
          (DiskQueue.write maxBytes (queued.drop (min count queued.length))).evicted } := by
  have hcount : (if queued.length < count then queued.length else count) =
      min count queued.length := by
    split_ifs <;> omega
  simp only [step, DiskQueue.ack, h.read, Bool.false_eq_true, if_false, Option.bind_eq_bind,
    Option.bind_some, Option.pure_def, Option.getD_some, hcount]

/-- Every call keeps the records accounted for. -/
theorem consistent_step (operation : Operation) :
    ∃ queued', (step maxBytes s operation).Consistent maxBytes queued' := by
  cases operation with
  | enqueue value fails =>
    cases fails with
    | false =>
      rw [step_enqueue h]
      exact ⟨_, consistent_write (h.tracks.enqueue value)⟩
    | true => exact ⟨queued, consistent_forget h⟩
  | snapshot limit fails =>
    refine ⟨queued, { h with latest := fun events hevents => ?_ }⟩
    cases fails with
    | false =>
      rw [step, if_neg Bool.false_ne_true, snapshot_eq h] at hevents
      obtain rfl := Option.some.inj hevents
      exact List.take_prefix limit queued
    | true => cases hevents
  | ack count fails =>
    cases fails with
    | false =>
      rw [step_ack h]
      exact ⟨_, consistent_write (h.tracks.acknowledge (Nat.min_le_right _ _))⟩
    | true => exact ⟨queued, consistent_forget h⟩

theorem dropsOldest_step (operation : Operation) :
    DropsOldest maxBytes s (step maxBytes s operation) := by
  intro i hi hnew
  cases operation with
  | enqueue value fails =>
    cases fails with
    | false =>
      rw [step_enqueue h] at hi ⊢
      exact drops_write (h.tracks.enqueue value) hi hnew
    | true => exact absurd hi hnew
  | snapshot limit fails => exact absurd hi hnew
  | ack count fails =>
    cases fails with
    | false =>
      rw [step_ack h] at hi ⊢
      exact drops_write (h.tracks.acknowledge (Nat.min_le_right _ _)) hi hnew
    | true => exact absurd hi hnew

/-- An allowed call acknowledges what was delivered. -/
theorem acknowledgesLatest_step {operation : Operation} (hallowed : Allowed s operation) :
    AcknowledgesLatest s (step maxBytes s operation) := by
  intro i hi hnew
  cases operation with
  | enqueue value fails =>
    cases fails with
    | false =>
      rw [step_enqueue h] at hi
      exact absurd hi hnew
    | true => exact absurd hi hnew
  | snapshot limit fails => exact absurd hi hnew
  | ack count fails =>
    cases fails with
    | true => exact absurd hi hnew
    | false =>
      obtain ⟨events, hlatest, rfl⟩ := hallowed
      have hevents : events <+: queued := h.latest events hlatest
      rw [step_ack h] at hi
      have hrange := (List.mem_append.mp hi).resolve_left hnew
      obtain ⟨hfirst, hlt⟩ := List.mem_range'_1.mp hrange
      obtain ⟨k, rfl⟩ := Nat.exists_eq_add_of_le hfirst
      have hk : k < events.length := by omega
      refine ⟨events, hlatest, k, hk, rfl, ?_⟩
      obtain ⟨rest, hrest⟩ := hevents
      rw [← List.getElem?_drop, h.tracks.queued, ← hrest, List.getElem?_append_left hk]

end Step

/-- A run keeps the records accounted for, and each of its calls acknowledges what was delivered and
drops the oldest. -/
theorem consistent_run {s : State} {queued : List Json.Value} (h : s.Consistent maxBytes queued)
    {operations : List Operation} (hallowed : Meets (step maxBytes) Allowed s operations) :
    (∃ queued', (run (step maxBytes) s operations).Consistent maxBytes queued') ∧
      Meets (step maxBytes) (fun s operation => AcknowledgesLatest s (step maxBytes s operation) ∧
        DropsOldest maxBytes s (step maxBytes s operation)) s operations := by
  induction operations generalizing s queued with
  | nil => exact ⟨⟨queued, h⟩, trivial⟩
  | cons operation operations ih =>
    obtain ⟨hfirst, hrest⟩ := hallowed
    obtain ⟨queued', hstep⟩ := consistent_step h operation
    obtain ⟨hrun, hmeets⟩ := ih hstep hrest
    exact ⟨hrun, ⟨acknowledgesLatest_step h hfirst, dropsOldest_step h operation⟩, hmeets⟩

/-! ### The loop of the Agent -/

/-- One turn of the loop: the snapshot is not collected, the Controller is not reached, it does not
accept the heartbeat, or it does and some tasks are executed. -/
inductive Turn where
  | notCollected (fails : Bool)
  | unreachable (record : Json.Value) (fails : Bool)
  | unaccepted
  | accepted (ackFails : Bool) (results : List (Json.Value × Bool))

/-- The calls of a turn whose snapshot has some events. -/
def Turn.operations (events : List Json.Value) : Turn → List Operation
  | .notCollected fails => [.snapshot 100 fails]
  | .unreachable record fails => [.snapshot 100 false, .enqueue record fails]
  | .unaccepted => [.snapshot 100 false]
  | .accepted ackFails results =>
      .snapshot 100 false :: .ack events.length ackFails ::
        results.map fun result => .enqueue result.1 result.2

variable (maxBytes) in
/-- The calls of some turns. -/
def loopOperations : State → List Turn → List Operation
  | _, [] => []
  | s, turn :: turns =>
      let operations := turn.operations ((DiskQueue.snapshot s.file 100).getD [])
      operations ++ loopOperations (run (step maxBytes) s operations) turns

theorem turn_allowed {s : State} {queued : List Json.Value} (h : s.Consistent maxBytes queued)
    (turn : Turn) : Meets (step maxBytes) Allowed s
      (turn.operations ((DiskQueue.snapshot s.file 100).getD [])) := by
  cases turn with
  | notCollected fails => exact ⟨trivial, trivial⟩
  | unreachable record fails => exact ⟨trivial, trivial, trivial⟩
  | unaccepted => exact ⟨trivial, trivial⟩
  | accepted ackFails results =>
    have henqueues : ∀ (results : List (Json.Value × Bool)) (s : State),
        Meets (step maxBytes) Allowed s
          (results.map fun result => .enqueue result.1 result.2) := by
      intro results
      induction results with
      | nil => exact fun _ => trivial
      | cons result results ih => exact fun s => ⟨trivial, ih _⟩
    refine ⟨trivial, ⟨queued.take 100, ?_, ?_⟩, henqueues results _⟩
    · rw [step, if_neg Bool.false_ne_true, snapshot_eq h]
    · rw [snapshot_eq h, Option.getD_some]

/-- The loop acknowledges the events of its latest snapshot only. -/
theorem loop_allowed {s : State} {queued : List Json.Value} (h : s.Consistent maxBytes queued)
    (turns : List Turn) : Meets (step maxBytes) Allowed s (loopOperations maxBytes s turns) := by
  induction turns generalizing s queued with
  | nil => trivial
  | cons turn turns ih =>
    have hturn := turn_allowed h turn
    obtain ⟨⟨queued', hrun⟩, -⟩ := consistent_run h hturn
    exact Meets.append.mpr ⟨hturn, ih hrun⟩

/-! ### Delivery -/

/-- Every record is acknowledged, dropped or queued, in the order of arrival; what is acknowledged
was delivered by the latest snapshot, and a record is dropped only where the queue would be too
large with it and a newer one is kept. -/
theorem delivers_in_order (maxBytes : Int) {operations : List Operation}
    (hallowed : Meets (step maxBytes) Allowed initial operations) :
    let s := run (step maxBytes) initial operations
    (∃ queued, DiskQueue.read s.file = some queued ∧
      s.enqueued.drop s.account.first = queued ∧
      (s.account.acknowledged ++ s.account.dropped ++
        List.range' s.account.first queued.length).Perm (List.range s.enqueued.length)) ∧
    s.account.acknowledged.Pairwise (· < ·) ∧
    Meets (step maxBytes) (fun s operation => AcknowledgesLatest s (step maxBytes s operation) ∧
      DropsOldest maxBytes s (step maxBytes s operation)) initial operations := by
  obtain ⟨⟨queued, hqueued⟩, hmeets⟩ := consistent_run consistent_initial hallowed
  exact ⟨⟨queued, hqueued.read, hqueued.tracks.queued, hqueued.tracks.perm⟩,
    hqueued.tracks.acknowledged, hmeets⟩

/-- Three failed heartbeats of which the queue has room for two, and then an accepted one. -/
def sampleTurns : List Turn :=
  [.unreachable (.string "first") false, .unreachable (.string "second") false,
    .unreachable (.string "third") false, .accepted false [(.string "done", false)]]

theorem delivers_in_order_sample :
    (run (step 20) initial (loopOperations 20 initial sampleTurns)).account = ⟨[1, 2], [0]⟩ ∧
      Meets (step 20) (fun s operation => AcknowledgesLatest s (step 20 s operation) ∧
        DropsOldest 20 s (step 20 s operation)) initial
        (loopOperations 20 initial sampleTurns) :=
  ⟨by decide +kernel, (delivers_in_order 20 (loop_allowed consistent_initial sampleTurns)).2.2⟩

end VpsGuardian.Queue
