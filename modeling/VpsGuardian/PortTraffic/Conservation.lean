import VpsGuardian.PortTraffic.Ingest

/-!
What the rollups of a policy contain, in terms of its stored samples.

Every stored sample posts one interval to the hour and to the day it was
collected in. The books balance if, whatever buckets are looked at, the rows of a
policy sum up to what its samples posted there (`Balanced`).
-/

namespace VpsGuardian.PortTraffic

open Lib
open Controller (Time seconds)

/-- The samples of a policy in the order they were stored. -/
def samplesOf (samples : List Sample) (policyID : String) : List Sample :=
  samples.filter (·.policyID = policyID)

/-- The bytes between two samples are known: the same counters, neither of which went back. -/
def Accounted (older newer : Sample) : Prop :=
  newer.counterGeneration = older.counterGeneration ∧
    older.rxBytesTotal ≤ newer.rxBytesTotal ∧ older.txBytesTotal ≤ newer.txBytesTotal

instance (older newer : Sample) : Decidable (Accounted older newer) :=
  inferInstanceAs (Decidable (_ ∧ _))

/-- The consecutive pairs of a list, each with the older sample first. -/
def intervals (samples : List Sample) : List (Sample × Sample) := samples.zip samples.tail

/-- The bytes between consecutive samples, where they are known. -/
def accountedBytes (total : Sample → Nat) (samples : List Sample) : Nat :=
  ((intervals samples).map fun (older, newer) =>
    if Accounted older newer then total newer - total older else 0).sum

/-! ### What a stored sample posts -/

/-- The interval that ends in a sample, as the stored samples have it. -/
def intervalOf (previous : Option Sample) (sample : Sample) : Interval :=
  let discontinuity := sample.discontinuityReason.isSome
  match previous with
  | none => ⟨0, 0, 0, discontinuity, false⟩
  | some older =>
    let missing := missingIntervals older.collectedAt sample.collectedAt
    if Accounted older sample then
      ⟨sample.rxBytesTotal - older.rxBytesTotal, sample.txBytesTotal - older.txBytesTotal, missing,
        discontinuity, !discontinuity⟩
    else ⟨0, 0, missing, discontinuity, !discontinuity⟩

namespace Interval

def amount (interval : Interval) : Rollup.Column → Nat
  | .rxBytes => interval.deltaRx
  | .txBytes => interval.deltaTx
  | .sampleCount => interval.validInterval.toNat
  | .missingIntervals => interval.missing
  | .discontinuityCount => interval.discontinuity.toNat

end Interval

/-- What `judge` stores and posts. A sample without a reason has a known interval before it. -/
theorem judge_spec {previous : Option Sample} {hostID : String} {collectedAt : Time}
    {observation : Observation} {sample : Sample} {interval : Interval}
    (h : judge previous hostID collectedAt observation = (sample, interval)) :
    interval = intervalOf previous sample ∧ sample.policyID = observation.policyID ∧
      sample.collectedAt = collectedAt ∧
      ∀ older ∈ previous, sample.discontinuityReason = none → Accounted older sample := by
  cases previous with
  | none =>
    obtain ⟨rfl, rfl⟩ := Prod.mk.inj h
    exact ⟨rfl, rfl, rfl, fun older holder => nomatch holder⟩
  | some older =>
    simp only [judge] at h
    split_ifs at h with hgeneration htotals
    · -- The generation changed: there is always a reason.
      obtain ⟨rfl, rfl⟩ := Prod.mk.inj h
      refine ⟨?_, rfl, rfl, ?_⟩
      · simp [intervalOf, Accounted, hgeneration]
      · intro _ _ hreason
        cases hobservation : observation.discontinuityReason <;> simp [hobservation] at hreason
    · -- A total went back: there is always a reason.
      obtain ⟨rfl, rfl⟩ := Prod.mk.inj h
      have hnot : ¬(older.rxBytesTotal ≤ observation.rxBytesTotal ∧
          older.txBytesTotal ≤ observation.txBytesTotal) := by omega
      refine ⟨?_, rfl, rfl, ?_⟩
      · simp [intervalOf, Accounted, hnot]
      · intro _ _ hreason
        cases hobservation : observation.discontinuityReason <;> simp [hobservation] at hreason
    · obtain ⟨rfl, rfl⟩ := Prod.mk.inj h
      have haccounted : observation.counterGeneration = older.counterGeneration ∧
          older.rxBytesTotal ≤ observation.rxBytesTotal ∧
          older.txBytesTotal ≤ observation.txBytesTotal := by
        refine ⟨not_not.mp hgeneration, ?_, ?_⟩ <;> omega
      refine ⟨?_, rfl, rfl, ?_⟩
      · simp [intervalOf, Accounted, haccounted]
      · rintro _ ⟨⟩ _
        exact haccounted

/-- What a list of samples posts, each to the time it was collected at. -/
def postings : Option Sample → List Sample → List (Time × Interval)
  | _, [] => []
  | previous, sample :: samples =>
      (sample.collectedAt, intervalOf previous sample) :: postings (some sample) samples

theorem postings_append (previous : Option Sample) (samples : List Sample) (sample : Sample) :
    postings previous (samples ++ [sample]) = postings previous samples ++
      [(sample.collectedAt, intervalOf (samples.getLast? <|> previous) sample)] := by
  induction samples generalizing previous with
  | nil => simp [postings]
  | cons first samples ih =>
    rw [List.cons_append, postings, ih, postings, List.cons_append]
    cases samples with
    | nil => simp
    | cons second samples =>
      obtain ⟨last, hlast⟩ : ∃ last, (second :: samples).getLast? = some last :=
        ⟨_, List.getLast?_eq_some_getLast (List.cons_ne_nil second samples)⟩
      rw [List.getLast?_cons_cons, hlast]
      rfl

/-! ### The books of a policy -/

/-- The rows of a policy in some of the buckets sum up to what its samples posted there. -/
def Balanced (resolution : Resolution) (policyID : String) (rows : List Rollup)
    (samples : List Sample) : Prop :=
  ∀ (inside : Time → Bool) (column : Rollup.Column),
    (rows.map fun row =>
      if row.policyID = policyID ∧ inside row.bucketStart = true then
        row.amount column else 0).sum =
    ((postings none samples).map fun posting =>
      if inside (bucket posting.1 resolution) then posting.2.amount column else 0).sum

section Posting

@[simp] theorem key_addInterval (interval : Interval) (row : Rollup) :
    (addInterval interval row).key = row.key := rfl

@[simp] theorem amount_addInterval (interval : Interval) (row : Rollup) (column : Rollup.Column) :
    (addInterval interval row).amount column = row.amount column + interval.amount column := by
  cases column <;> rfl

variable {policy : Policy} {interval : Interval} {rows : List Rollup} {resolution : Resolution}

theorem nodup_updateRollup (hnodup : (rows.map Rollup.key).Nodup) (bucketStart : Time) :
    ((updateRollup policy bucketStart interval rows).map Rollup.key).Nodup :=
  Ledger.nodup_post (key_addInterval interval) hnodup

/-- An update of a rollup adds the interval to the bucket of the policy. -/
theorem sum_updateRollup (hnodup : (rows.map Rollup.key).Nodup) (bucketStart : Time)
    (policyID : String) (inside : Time → Bool) (column : Rollup.Column) :
    ((updateRollup policy bucketStart interval rows).map fun row =>
      if row.policyID = policyID ∧ inside row.bucketStart = true then
        row.amount column else 0).sum =
    (rows.map fun row =>
      if row.policyID = policyID ∧ inside row.bucketStart = true then
        row.amount column else 0).sum +
      if policy.id = policyID ∧ inside bucketStart = true then interval.amount column else 0 := by
  refine Ledger.sum_post _ hnodup (key_addInterval interval) ?_ ?_
  · cases column <;> simp [Rollup.amount]
  · intro row hkey
    have hpolicy : row.policyID = policy.id := congrArg Prod.fst hkey
    have hbucket : row.bucketStart = bucketStart := congrArg Prod.snd hkey
    show (if row.policyID = policyID ∧ inside row.bucketStart = true then
      (addInterval interval row).amount column else 0) = _
    rw [hpolicy, hbucket, amount_addInterval]
    split_ifs <;> rfl

/-- A posting keeps the books of the policy it is for. -/
theorem Balanced.post {samples : List Sample} {sample : Sample}
    (h : Balanced resolution policy.id rows samples) (hnodup : (rows.map Rollup.key).Nodup)
    (hinterval : interval = intervalOf samples.getLast? sample) :
    Balanced resolution policy.id
      (updateRollup policy (bucket sample.collectedAt resolution) interval rows)
      (samples ++ [sample]) := by
  intro inside column
  rw [sum_updateRollup hnodup, h inside column, postings_append, List.map_append, List.sum_append,
    hinterval]
  simp

/-- A posting keeps the books of every other policy. -/
theorem Balanced.post_of_ne {samples : List Sample} {policyID : String}
    (h : Balanced resolution policyID rows samples) (hnodup : (rows.map Rollup.key).Nodup)
    (hne : policy.id ≠ policyID) (bucketStart : Time) :
    Balanced resolution policyID (updateRollup policy bucketStart interval rows) samples := by
  intro inside column
  rw [sum_updateRollup hnodup, h inside column, if_neg fun hpolicy => hne hpolicy.1, add_zero]

end Posting

/-- The books of a database. -/
structure Books {ρ : Type} (db : Db ρ) : Prop where
  increasing : ∀ policyID, (samplesOf db.samples policyID).Pairwise
    fun older newer => older.collectedAt < newer.collectedAt
  /-- A sample without a reason has a known interval before it. -/
  marked : ∀ policyID, (samplesOf db.samples policyID).IsChain
    fun older newer => newer.discontinuityReason = none → Accounted older newer
  hourlyKeys : (db.hourly.map Rollup.key).Nodup
  dailyKeys : (db.daily.map Rollup.key).Nodup
  hourly : ∀ policyID, Balanced .hour policyID db.hourly (samplesOf db.samples policyID)
  daily : ∀ policyID, Balanced .day policyID db.daily (samplesOf db.samples policyID)

section Steps

variable {ρ : Type} {alerts : Alerts ρ}

theorem Books.empty (rest : ρ) : Books (Db.empty rest) where
  increasing _ := .nil
  marked _ := .nil
  hourlyKeys := List.nodup_nil
  dailyKeys := List.nodup_nil
  hourly _ _ _ := rfl
  daily _ _ _ := rfl

theorem samplesOf_append (samples : List Sample) (sample : Sample) (policyID : String) :
    samplesOf (samples ++ [sample]) policyID =
      if sample.policyID = policyID then samplesOf samples policyID ++ [sample]
      else samplesOf samples policyID := by
  rw [samplesOf, List.filter_append, samplesOf]
  split_ifs with h <;> simp [h]

/-- Of samples that increase, the last is the latest. -/
theorem exists_last {samples : List Sample}
    (h : samples.Pairwise fun older newer => older.collectedAt < newer.collectedAt)
    {sample : Sample} (hsample : sample ∈ samples) :
    ∃ last, samples.getLast? = some last ∧ sample.collectedAt ≤ last.collectedAt := by
  obtain ⟨last, hlast⟩ : ∃ last, samples.getLast? = some last :=
    ⟨_, List.getLast?_eq_some_getLast (List.ne_nil_of_mem hsample)⟩
  refine ⟨last, hlast, ?_⟩
  obtain ⟨rest, rfl⟩ := List.getLast?_eq_some_iff.mp hlast
  rcases List.mem_append.mp hsample with hmem | hmem
  · exact le_of_lt ((List.pairwise_append.mp h).2.2 sample hmem last List.mem_cons_self)
  · rw [List.mem_singleton.mp hmem]

/-- Of samples that increase, the first of the latest ones is the last. -/
theorem head?_recentSamples {samples : List Sample} {policyID : String}
    (h : (samplesOf samples policyID).Pairwise fun older newer =>
      older.collectedAt < newer.collectedAt) (limit : Nat) :
    (recentSamples samples policyID (limit + 1)).head? =
      (samplesOf samples policyID).getLast? := by
  rw [recentSamples, ← samplesOf, Table.insertionSort_of_increasing h, List.head?_take,
    if_neg (Nat.succ_ne_zero limit), List.head?_reverse]

/-- Storing an observation that is later than every sample of its policy keeps the books. -/
theorem Books.store {db : Db ρ} (h : Books db) {policy : Policy} {call : Call}
    {observation : Observation} (hpolicy : observation.policyID = policy.id)
    (hlater : ∀ previous ∈ (recentSamples db.samples policy.id 11).head?,
      previous.collectedAt < call.collectedAt) :
    Books (store alerts policy call observation (recentSamples db.samples policy.id 11) db) := by
  obtain ⟨⟨sample, interval⟩, hjudge⟩ : ∃ judged,
      judge (recentSamples db.samples policy.id 11).head?
    call.hostID call.collectedAt observation = judged := ⟨_, rfl⟩
  obtain ⟨hinterval, hid, hat, hmarked⟩ := judge_spec hjudge
  have hlast := head?_recentSamples (h.increasing policy.id) 10
  rw [hlast] at hinterval hlater hmarked
  have hsample : sample.policyID = policy.id := hid.trans hpolicy
  have hsamples : ∀ policyID, samplesOf (db.samples ++ [sample]) policyID =
      if policy.id = policyID then samplesOf db.samples policyID ++ [sample]
      else samplesOf db.samples policyID := fun policyID =>
    hsample ▸ samplesOf_append db.samples sample policyID
  unfold PortTraffic.store
  rw [hjudge]
  refine ⟨?_, ?_, nodup_updateRollup h.hourlyKeys _, nodup_updateRollup h.dailyKeys _, ?_, ?_⟩
  · intro policyID
    show (samplesOf (db.samples ++ [sample]) policyID).Pairwise _
    rw [hsamples]
    split_ifs with heq
    · subst heq
      refine List.pairwise_append.mpr ⟨h.increasing _, List.pairwise_singleton _ _, ?_⟩
      intro older holder newer hnewer
      obtain ⟨last, hlastEq, hle⟩ := exists_last (h.increasing policy.id) holder
      rw [List.mem_singleton.mp hnewer, hat]
      exact hle.trans_lt (hlater last hlastEq)
    · exact h.increasing policyID
  · intro policyID
    show (samplesOf (db.samples ++ [sample]) policyID).IsChain _
    rw [hsamples]
    split_ifs with heq
    · subst heq
      refine (h.marked _).append (.singleton _) ?_
      rintro older holder newer ⟨⟩
      exact hmarked older holder
    · exact h.marked policyID
  · intro policyID
    show Balanced _ _ _ (samplesOf (db.samples ++ [sample]) policyID)
    rw [hsamples, ← hat]
    split_ifs with heq
    · subst heq
      exact (h.hourly policy.id).post h.hourlyKeys hinterval
    · exact (h.hourly policyID).post_of_ne h.hourlyKeys heq _
  · intro policyID
    show Balanced _ _ _ (samplesOf (db.samples ++ [sample]) policyID)
    rw [hsamples, ← hat]
    split_ifs with heq
    · subst heq
      exact (h.daily policy.id).post h.dailyKeys hinterval
    · exact (h.daily policyID).post_of_ne h.dailyKeys heq _

/-! ### A call -/

/-- The tables of samples and rollups. -/
def Db.traffic (db : Db ρ) : List Sample × List Rollup × List Rollup :=
  (db.samples, db.hourly, db.daily)

/-- The books are about these tables only. -/
theorem Books.of_traffic {db db' : Db ρ} (h : Books db) (htraffic : db'.traffic = db.traffic) :
    Books db' := by
  obtain ⟨samples, hourly, daily, runtimes, rest⟩ := db
  obtain ⟨samples', hourly', daily', runtimes', rest'⟩ := db'
  cases htraffic
  exact ⟨h.increasing, h.marked, h.hourlyKeys, h.dailyKeys, h.hourly, h.daily⟩

/-- What a round of the loop does: nothing to the tables, or it stores the observation, which is
later than every sample of its policy. -/
theorem ingestObservation_cases (call : Call) (state : Db ρ × List String)
    (observation : Observation) :
    (ingestObservation alerts call state observation).1 = state.1 ∨
      ∃ policy, call.policyOf observation.policyID = some policy ∧
        (∀ previous ∈ (recentSamples state.1.samples policy.id 11).head?,
          previous.collectedAt < call.collectedAt) ∧
        (ingestObservation alerts call state observation).1 = store alerts policy call observation
          (recentSamples state.1.samples policy.id 11) state.1 := by
  obtain ⟨db, observed⟩ := state
  unfold ingestObservation
  dsimp only
  cases hpolicy : call.policyOf observation.policyID with
  | none => exact .inl rfl
  | some policy =>
    dsimp only
    cases hprevious : (recentSamples db.samples policy.id 11).head? with
    | none =>
      refine .inr ⟨policy, rfl, ?_, rfl⟩
      intro previous hmem
      rw [hprevious] at hmem
      exact nomatch hmem
    | some previous =>
      dsimp only
      split_ifs with hequal hless
      · exact .inl rfl
      · exact .inl rfl
      · refine .inr ⟨policy, rfl, ?_, rfl⟩
        intro previous' hmem
        rw [hprevious] at hmem
        obtain rfl := Option.some.inj hmem
        exact lt_of_le_of_ne (not_lt.mp hless) (Ne.symm hequal)

theorem policyOf_id {call : Call} {policyID : String} {policy : Policy}
    (h : call.policyOf policyID = some policy) : policyID = policy.id := by
  simpa [eq_comm] using List.find?_some h

theorem ingestObservation_books {call : Call} {state : Db ρ × List String}
    (observation : Observation) (h : Books state.1) :
    Books (ingestObservation alerts call state observation).1 := by
  rcases ingestObservation_cases call state observation with heq | ⟨policy, hpolicy, hlater, heq⟩
  · exact heq ▸ h
  · rw [heq]
    exact h.store (policyOf_id hpolicy) hlater

theorem foldl_ingestObservation_books {call : Call} (observations : List Observation)
    {state : Db ρ × List String} (h : Books state.1) :
    Books (observations.foldl (ingestObservation alerts call) state).1 := by
  induction observations generalizing state with
  | nil => exact h
  | cons observation observations ih => exact ih (ingestObservation_books observation h)

/-- The alerts of the missing observations are in other tables. -/
theorem foldl_observeGap_traffic (call : Call) (observed : List String) (policies : List Policy)
    (db : Db ρ) : (policies.foldl (observeGap alerts call observed) db).traffic = db.traffic := by
  induction policies generalizing db with
  | nil => rfl
  | cons policy policies ih =>
    rw [List.foldl_cons, ih]
    unfold observeGap
    dsimp only
    split_ifs <;> rfl

theorem ingestObservations_traffic (db : Db ρ) (call : Call) :
    (ingestObservations alerts db call).traffic =
      (call.observations.foldl (ingestObservation alerts call) (db, [])).1.traffic :=
  foldl_observeGap_traffic call _ _ _

theorem ingestObservations_books {db : Db ρ} (call : Call) (h : Books db) :
    Books (ingestObservations alerts db call) :=
  (foldl_ingestObservation_books call.observations h).of_traffic
    (ingestObservations_traffic db call)

theorem run_books (rest : ρ) (calls : List Call) :
    Books (run (ingestObservations alerts) (Db.empty rest) calls) :=
  run_invariant_of_step (fun _ call => ingestObservations_books call) (.empty rest) calls

/-! ### Late observations -/

/-- The observation is of a policy that has a sample of the time of the call or later. -/
def Late (db : Db ρ) (call : Call) (observation : Observation) : Prop :=
  ∃ sample ∈ db.samples, sample.policyID = observation.policyID ∧
    call.collectedAt ≤ sample.collectedAt

/-- A late observation is not stored. -/
theorem ingestObservation_late {call : Call} {state : Db ρ × List String}
    {observation : Observation} (h : Books state.1) (hlate : Late state.1 call observation) :
    (ingestObservation alerts call state observation).1 = state.1 := by
  rcases ingestObservation_cases call state observation with heq | ⟨policy, hpolicy, hlater, -⟩
  · exact heq
  · obtain ⟨sample, hmem, hid, hle⟩ := hlate
    rw [policyOf_id hpolicy] at hid
    have hincreasing := h.increasing policy.id
    obtain ⟨last, hlast, hlastLe⟩ := exists_last hincreasing
      (List.mem_filter.mpr ⟨hmem, decide_eq_true hid⟩)
    have hhead := (head?_recentSamples hincreasing 10).trans hlast
    exact absurd (hle.trans hlastLe) (not_le.mpr (hlater last hhead))

theorem foldl_ingestObservation_late {call : Call} {observations : List Observation}
    {state : Db ρ × List String} (h : Books state.1)
    (hlate : ∀ observation ∈ observations,
      Late state.1 call observation ∨ call.policyOf observation.policyID = none) :
    (observations.foldl (ingestObservation alerts call) state).1 = state.1 := by
  induction observations generalizing state with
  | nil => rfl
  | cons observation observations ih =>
    have hround : (ingestObservation alerts call state observation).1 = state.1 := by
      rcases hlate observation List.mem_cons_self with hlate | hnone
      · exact ingestObservation_late h hlate
      · obtain ⟨db, observed⟩ := state
        simp only [ingestObservation, hnone]
    rw [List.foldl_cons, ih (hround ▸ h) ?_, hround]
    intro other hother
    rw [hround]
    exact hlate other (List.mem_cons_of_mem _ hother)

end Steps

/-! ### The sums -/

/-- A sum over what the samples post is one over their intervals if the first sample, which ends
none, counts nothing. -/
theorem sum_postings {count : Time × Interval → Nat}
    (hnone : ∀ sample, count (sample.collectedAt, intervalOf none sample) = 0)
    (samples : List Sample) :
    ((postings none samples).map count).sum = ((intervals samples).map fun (older, newer) =>
      count (newer.collectedAt, intervalOf (some older) newer)).sum := by
  have hrest : ∀ older samples, postings (some older) samples =
      (intervals (older :: samples)).map fun (older, newer) =>
        (newer.collectedAt, intervalOf (some older) newer) := by
    intro older samples
    induction samples generalizing older with
    | nil => rfl
    | cons newer samples ih =>
      rw [postings, ih newer]
      rfl
  cases samples with
  | nil => rfl
  | cons first samples =>
    rw [postings, List.map_cons, List.sum_cons, hnone, zero_add, hrest, List.map_map]
    rfl

theorem amount_rxBytes (older newer : Sample) : (intervalOf (some older) newer).amount .rxBytes =
    if Accounted older newer then newer.rxBytesTotal - older.rxBytesTotal else 0 := by
  simp only [intervalOf]
  split_ifs <;> rfl

theorem amount_txBytes (older newer : Sample) : (intervalOf (some older) newer).amount .txBytes =
    if Accounted older newer then newer.txBytesTotal - older.txBytesTotal else 0 := by
  simp only [intervalOf]
  split_ifs <;> rfl

/-- A column, summed over the rows of a policy. -/
def sumOf (rows : List Rollup) (policyID : String) (column : Rollup.Column) : Nat :=
  ((rows.filter (·.policyID = policyID)).map fun row => row.amount column).sum

theorem Balanced.sumOf_eq {resolution : Resolution} {policyID : String} {rows : List Rollup}
    {samples : List Sample} (h : Balanced resolution policyID rows samples)
    (column : Rollup.Column) :
    sumOf rows policyID column =
      ((postings none samples).map fun posting => posting.2.amount column).sum := by
  have hall := h (fun _ => true) column
  simp only [and_true, if_true] at hall
  rw [sumOf, Ledger.sum_filter, hall]

/-- What a column of the row of a policy and a bucket counts, nothing if there is no such row. -/
def countAt (rows : List Rollup) (policyID : String) (bucketStart : Time)
    (column : Rollup.Column) : Nat :=
  Ledger.amountAt Rollup.key (fun row => row.amount column) (policyID, bucketStart) rows

/-- A row counts what was posted to its bucket. -/
theorem Balanced.countAt_eq {resolution : Resolution} {policyID : String} {rows : List Rollup}
    {samples : List Sample} (h : Balanced resolution policyID rows samples)
    (hnodup : (rows.map Rollup.key).Nodup) (bucketStart : Time) (column : Rollup.Column) :
    countAt rows policyID bucketStart column = ((postings none samples).map fun posting =>
      if bucket posting.1 resolution = bucketStart then posting.2.amount column else 0).sum := by
  have hbucket := h (fun start => decide (start = bucketStart)) column
  simp only [decide_eq_true_eq] at hbucket
  rw [countAt, ← Ledger.sum_eq_amountAt _ hnodup, ← hbucket]
  simp only [Rollup.key, Prod.mk.injEq]

/-- The hour of a day in which a time is. -/
theorem bucket_hour_eq_iff {day : Time} (hday : bucket day .day = day) (value : Time) {hour : Nat}
    (hhour : hour < 24) : bucket value .hour = day + hour * Resolution.hour.length ↔
      bucket value .day = day ∧ hour = ((value - day) / Resolution.hour.length).toNat := by
  simp only [bucket, Resolution.length, seconds] at hday ⊢
  unfold Time at *
  omega

theorem hour_lt {day value : Time} (h : bucket value .day = day) :
    ((value - day) / Resolution.hour.length).toNat < 24 := by
  simp only [bucket, Resolution.length, seconds] at h ⊢
  unfold Time at *
  omega

/-- A time is in one hour of its day and in no hour of another. -/
theorem sum_hours {day : Time} (hday : bucket day .day = day) (value : Time) (amount : Nat) :
    ∑ hour ∈ Finset.range 24,
        (if bucket value .hour = day + hour * Resolution.hour.length then amount else 0) =
      if bucket value .day = day then amount else 0 := by
  by_cases h : bucket value .day = day
  · rw [if_pos h, Finset.sum_eq_single_of_mem _ (Finset.mem_range.mpr (hour_lt h))]
    · exact if_pos ((bucket_hour_eq_iff hday value (hour_lt h)).mpr ⟨h, rfl⟩)
    · intro hour hhour hne
      refine if_neg fun heq => hne ?_
      exact ((bucket_hour_eq_iff hday value (Finset.mem_range.mp hhour)).mp heq).2
  · rw [if_neg h]
    refine Finset.sum_eq_zero fun hour hhour => if_neg fun heq => h ?_
    exact ((bucket_hour_eq_iff hday value (Finset.mem_range.mp hhour)).mp heq).1

/-- What is posted to a day is posted to its hours. -/
theorem sum_postings_day {day : Time} (hday : bucket day .day = day)
    (posted : List (Time × Interval)) (column : Rollup.Column) :
    (posted.map fun posting =>
      if bucket posting.1 .day = day then posting.2.amount column else 0).sum =
    ∑ hour ∈ Finset.range 24, (posted.map fun posting =>
      if bucket posting.1 .hour = day + hour * Resolution.hour.length then
        posting.2.amount column else 0).sum := by
  induction posted with
  | nil => simp
  | cons posting posted ih =>
    simp only [List.map_cons, List.sum_cons]
    rw [Finset.sum_add_distrib, sum_hours hday, ih]

/-! ### Conservation -/

/-- No byte of a policy is lost or counted twice. -/
structure Conserved {ρ : Type} (db : Db ρ) (policyID : String) : Prop where
  increasing : (samplesOf db.samples policyID).Pairwise
    fun older newer => older.collectedAt < newer.collectedAt
  hourlyKeys : (db.hourly.map Rollup.key).Nodup
  dailyKeys : (db.daily.map Rollup.key).Nodup
  rxBytes : sumOf db.hourly policyID .rxBytes = sumOf db.daily policyID .rxBytes ∧
    sumOf db.daily policyID .rxBytes =
      accountedBytes Sample.rxBytesTotal (samplesOf db.samples policyID)
  txBytes : sumOf db.hourly policyID .txBytes = sumOf db.daily policyID .txBytes ∧
    sumOf db.daily policyID .txBytes =
      accountedBytes Sample.txBytesTotal (samplesOf db.samples policyID)
  /-- A day counts what its hours count, in every column. -/
  days : ∀ day, bucket day .day = day → ∀ column,
    countAt db.daily policyID day column = ∑ hour ∈ Finset.range 24,
      countAt db.hourly policyID (day + hour * Resolution.hour.length) column

theorem Books.conserved {ρ : Type} {db : Db ρ} (h : Books db) (policyID : String) :
    Conserved db policyID where
  increasing := h.increasing policyID
  hourlyKeys := h.hourlyKeys
  dailyKeys := h.dailyKeys
  rxBytes := by
    rw [(h.hourly policyID).sumOf_eq, (h.daily policyID).sumOf_eq]
    refine ⟨rfl, ?_⟩
    rw [sum_postings fun _ => rfl, accountedBytes]
    simp only [amount_rxBytes]
  txBytes := by
    rw [(h.hourly policyID).sumOf_eq, (h.daily policyID).sumOf_eq]
    refine ⟨rfl, ?_⟩
    rw [sum_postings fun _ => rfl, accountedBytes]
    simp only [amount_txBytes]
  days := by
    intro day hday column
    rw [(h.daily policyID).countAt_eq h.dailyKeys, sum_postings_day hday]
    refine Finset.sum_congr rfl fun hour _ => ?_
    rw [(h.hourly policyID).countAt_eq h.hourlyKeys]

/-- Any calls conserve the bytes of every policy, and a late observation in any further call
changes no sample and no rollup: neither in its round of the loop, whatever the call holds besides,
nor does a call that holds only such observations. -/
theorem ingestion_conserves_bytes {ρ : Type} (alerts : Alerts ρ) (rest : ρ) (calls : List Call) :
    let db := run (ingestObservations alerts) (Db.empty rest) calls
    (∀ policyID, Conserved db policyID) ∧
    ∀ call : Call,
      (∀ first observation second, call.observations = first ++ observation :: second →
        Late (first.foldl (ingestObservation alerts call) (db, [])).1 call observation →
        ((first ++ [observation]).foldl (ingestObservation alerts call) (db, [])).1 =
          (first.foldl (ingestObservation alerts call) (db, [])).1) ∧
      ((∀ observation ∈ call.observations,
        Late db call observation ∨ call.policyOf observation.policyID = none) →
        (ingestObservations alerts db call).traffic = db.traffic) := by
  intro db
  have hbooks : Books db := run_books rest calls
  refine ⟨hbooks.conserved, fun call => ⟨?_, ?_⟩⟩
  · intro first observation second _ hlate
    have hfirst : Books (first.foldl (ingestObservation alerts call) (db, [])).1 :=
      foldl_ingestObservation_books first hbooks
    rw [List.foldl_append, List.foldl_cons, List.foldl_nil]
    exact ingestObservation_late hfirst hlate
  · intro hlate
    have hround : (call.observations.foldl (ingestObservation alerts call) (db, [])).1 = db :=
      foldl_ingestObservation_late hbooks hlate
    rw [ingestObservations_traffic, hround]

end VpsGuardian.PortTraffic
