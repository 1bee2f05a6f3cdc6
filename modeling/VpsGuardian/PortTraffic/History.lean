import VpsGuardian.Lib.Checks
import VpsGuardian.PortTraffic.Conservation

/-!
The traffic history of a policy (`query_history`), and when its resolutions agree.

The raw history knows the bytes of an interval from the two samples. A rollup
point knows them only if some sample of the bucket has no discontinuity reason,
also when the bytes of others were added to the row.
-/

namespace VpsGuardian.PortTraffic

open Lib
open Controller (Time seconds)

/-! ### The model -/

structure PortTrafficError where
  message : String
  deriving DecidableEq, Repr

structure HistoryPoint where
  at_ : Time
  rxBytes : Option Nat
  txBytes : Option Nat
  combinedBytes : Option Nat
  missingIntervals : Nat
  discontinuityCount : Nat
  discontinuityReason : Option Discontinuity
  deriving DecidableEq

def maxHistoryDays : Int := 400

def days (n : Int) : Time := seconds (86400 * n)

def historyResolution (startsAt endsAt : Time) : Resolution :=
  if endsAt - startsAt ≤ days 1 then .raw
  else if endsAt - startsAt ≤ days 90 then .hour
  else .day

/-- The point of a sample that has one before it. -/
def rawPoint (previous row : Sample) : HistoryPoint :=
  let known := Accounted previous row
  let rx := if known then some (row.rxBytesTotal - previous.rxBytesTotal) else none
  let tx := if known then some (row.txBytesTotal - previous.txBytesTotal) else none
  { at_ := row.collectedAt
    rxBytes := rx
    txBytes := tx
    combinedBytes := rx.bind fun rx => tx.map fun tx => rx + tx
    missingIntervals := missingIntervals previous.collectedAt row.collectedAt
    discontinuityCount := row.discontinuityReason.isSome.toNat
    discontinuityReason := row.discontinuityReason }

/-- The loop over the samples. The first one is a baseline and no point. -/
def rawPoints : Option Sample → List Sample → List HistoryPoint
  | _, [] => []
  | none, row :: rows => rawPoints (some row) rows
  | some previous, row :: rows => rawPoint previous row :: rawPoints (some row) rows

def rollupPoint (row : Rollup) : HistoryPoint where
  at_ := row.bucketStart
  rxBytes := if row.sampleCount ≠ 0 then some row.rxBytes else none
  txBytes := if row.sampleCount ≠ 0 then some row.txBytes else none
  combinedBytes := if row.sampleCount ≠ 0 then some (row.rxBytes + row.txBytes) else none
  missingIntervals := row.missingIntervals
  discontinuityCount := row.discontinuityCount
  discontinuityReason := none

/-- The rows of a policy between two times. -/
def rollupsBetween (rows : List Rollup) (policyID : String) (startsAt endsAt : Time) :
    List Rollup :=
  rows.filter fun row =>
    row.policyID = policyID ∧ startsAt ≤ row.bucketStart ∧ row.bucketStart ≤ endsAt

def rollupPoints (rows : List Rollup) (policyID : String) (startsAt endsAt : Time) (limit : Nat) :
    List HistoryPoint :=
  (((rollupsBetween rows policyID startsAt endsAt).insertionSort
    fun a b => a.bucketStart ≤ b.bucketStart).take limit).map rollupPoint

/-- The samples of a policy in the order of their time. -/
def orderedSamples (samples : List Sample) (policyID : String) : List Sample :=
  (samplesOf samples policyID).insertionSort fun a b => a.collectedAt ≤ b.collectedAt

section Query

variable {ρ : Type}

/-- The table a resolution other than `raw` reads. -/
def Db.rollups (db : Db ρ) : Resolution → List Rollup
  | .hour => db.hourly
  | _ => db.daily

def queryHistory (db : Db ρ) (policyID : String) (startsAt endsAt : Time) (limit : Nat) :
    Except PortTrafficError (Resolution × List HistoryPoint) := do
  raiseIf (endsAt ≤ startsAt) ⟨"history end must be after start"⟩
  raiseIf (days maxHistoryDays < endsAt - startsAt) ⟨"history range exceeds 400 days"⟩
  match historyResolution startsAt endsAt with
  | .raw =>
    let rows := ((orderedSamples db.samples policyID).filter fun row =>
      startsAt ≤ row.collectedAt ∧ row.collectedAt ≤ endsAt).take limit
    .ok (.raw, rawPoints none rows)
  | resolution =>
    .ok (resolution, rollupPoints (db.rollups resolution) policyID startsAt endsAt limit)

end Query

/-! ### The points -/

theorem rawPoints_none (samples : List Sample) :
    rawPoints none samples =
      (intervals samples).map fun (older, newer) => rawPoint older newer := by
  have hsome : ∀ previous samples, rawPoints (some previous) samples =
      (intervals (previous :: samples)).map fun (older, newer) => rawPoint older newer := by
    intro previous samples
    induction samples generalizing previous with
    | nil => rfl
    | cons row samples ih =>
      rw [rawPoints, ih row]
      rfl
  cases samples with
  | nil => rfl
  | cons first samples => exact hsome first samples

theorem orderedSamples_eq {samples : List Sample} {policyID : String}
    (h : (samplesOf samples policyID).Pairwise fun older newer =>
      older.collectedAt < newer.collectedAt) :
    orderedSamples samples policyID = samplesOf samples policyID :=
  (h.imp fun hlt => le_of_lt hlt).insertionSort_eq

/-- The point of a bucket is that of its row. -/
theorem find?_rollupPoints {rows : List Rollup} (hnodup : (rows.map Rollup.key).Nodup)
    {policyID : String} {startsAt endsAt : Time} {limit : Nat}
    (hlimit : (rollupsBetween rows policyID startsAt endsAt).length ≤ limit) {bucketStart : Time}
    (hstart : startsAt ≤ bucketStart) (hend : bucketStart ≤ endsAt) :
    (rollupPoints rows policyID startsAt endsAt limit).find? (·.at_ = bucketStart) =
      (Table.lookup Rollup.key (policyID, bucketStart) rows).map rollupPoint := by
  have hsorted := List.perm_insertionSort (fun a b : Rollup => a.bucketStart ≤ b.bucketStart)
    (rollupsBetween rows policyID startsAt endsAt)
  rw [rollupPoints, List.take_of_length_le (hsorted.length_eq.trans_le hlimit), List.find?_map]
  congr 1
  generalize List.insertionSort (fun a b : Rollup => a.bucketStart ≤ b.bucketStart)
    (rollupsBetween rows policyID startsAt endsAt) = sorted at hsorted ⊢
  have hmem : ∀ row, row ∈ sorted ↔ row ∈ rows ∧ row.policyID = policyID ∧
      startsAt ≤ row.bucketStart ∧ row.bucketStart ≤ endsAt := by
    intro row
    rw [hsorted.mem_iff, rollupsBetween, List.mem_filter, decide_eq_true_eq]
  cases hfound : sorted.find? ((fun point : HistoryPoint => decide (point.at_ = bucketStart)) ∘
      rollupPoint) with
  | none =>
    symm
    rw [Table.lookup_eq_none]
    intro row hrow hkey
    obtain ⟨hpolicy, hbucket⟩ := Prod.mk.inj hkey
    subst hpolicy hbucket
    have hnone := List.find?_eq_none.mp hfound row
      ((hmem row).mpr ⟨hrow, rfl, hstart, hend⟩)
    simp [rollupPoint] at hnone
  | some row =>
    have hrow := ((hmem row).mp (List.mem_of_find?_eq_some hfound))
    have hbucket : row.bucketStart = bucketStart := by
      simpa [rollupPoint] using List.find?_some hfound
    have hkey : row.key = (policyID, bucketStart) := by
      rw [Rollup.key, hrow.2.1, hbucket]
    rw [← hkey, Table.lookup_of_mem hnodup hrow.1]

/-! ### Agreement -/

/-- What the raw history of all samples of a policy reports in a bucket. -/
def rawIn (samples : List Sample) (policyID : String) (resolution : Resolution)
    (bucketStart : Time) : List HistoryPoint :=
  (rawPoints none (orderedSamples samples policyID)).filter fun point =>
    bucket point.at_ resolution = bucketStart

/-- The point of a bucket, if there is one, reports the bytes of the raw points, and no bytes at
all only if no raw point does. -/
structure AgreesAt (raw : List HistoryPoint) (reported : Option HistoryPoint) : Prop where
  rxBytes : (reported.bind (·.rxBytes)).getD 0 =
    (raw.map fun point => point.rxBytes.getD 0).sum
  txBytes : (reported.bind (·.txBytes)).getD 0 =
    (raw.map fun point => point.txBytes.getD 0).sum
  known : reported.bind (·.rxBytes) = none ∨ reported.bind (·.txBytes) = none →
    ∀ point ∈ raw, point.rxBytes = none ∧ point.txBytes = none

/-- A bucket with a known interval has one whose sample has no discontinuity reason. -/
def Explained (samples : List Sample) (resolution : Resolution) (bucketStart : Time) : Prop :=
  (∃ pair ∈ intervals samples, bucket pair.2.collectedAt resolution = bucketStart ∧
    Accounted pair.1 pair.2) →
  ∃ pair ∈ intervals samples, bucket pair.2.collectedAt resolution = bucketStart ∧
    Accounted pair.1 pair.2 ∧ pair.2.discontinuityReason = none

/-- The points of a query agree with the raw history in every bucket of its window. -/
def AgreesBetween (samples : List Sample) (policyID : String) (resolution : Resolution)
    (startsAt endsAt : Time) (points : List HistoryPoint) : Prop :=
  ∀ bucketStart, startsAt ≤ bucketStart → bucketStart ≤ endsAt →
    AgreesAt (rawIn samples policyID resolution bucketStart)
      (points.find? (·.at_ = bucketStart))

def ExplainedBetween (samples : List Sample) (resolution : Resolution) (startsAt endsAt : Time) :
    Prop :=
  ∀ bucketStart, startsAt ≤ bucketStart → bucketStart ≤ endsAt →
    Explained samples resolution bucketStart

theorem mem_intervals_of_isChain {R : Sample → Sample → Prop} {samples : List Sample}
    (h : samples.IsChain R) {older newer : Sample} (hmem : (older, newer) ∈ intervals samples) :
    R older newer := by
  induction samples with
  | nil => exact nomatch hmem
  | cons first samples ih =>
    cases samples with
    | nil => exact nomatch hmem
    | cons second samples =>
      obtain ⟨hfirst, hrest⟩ := List.isChain_cons_cons.mp h
      rcases List.mem_cons.mp hmem with heq | hmem
      · cases heq
        exact hfirst
      · exact ih hrest hmem

section Bucket

variable {samples : List Sample} {policyID : String} {rows : List Rollup} {resolution : Resolution}
  {bucketStart : Time}

/-- What the raw points of a bucket report, summed over the intervals. -/
theorem sum_rawIn (field : HistoryPoint → Option Nat)
    (h : (samplesOf samples policyID).Pairwise fun older newer =>
      older.collectedAt < newer.collectedAt) :
    ((rawIn samples policyID resolution bucketStart).map fun point => (field point).getD 0).sum =
      ((intervals (samplesOf samples policyID)).map fun (older, newer) =>
        if bucket newer.collectedAt resolution = bucketStart then
          (field (rawPoint older newer)).getD 0 else 0).sum := by
  rw [rawIn, orderedSamples_eq h, rawPoints_none, Ledger.sum_filter, List.map_map]
  rfl

theorem mem_rawIn (h : (samplesOf samples policyID).Pairwise fun older newer =>
      older.collectedAt < newer.collectedAt) {point : HistoryPoint} :
    point ∈ rawIn samples policyID resolution bucketStart ↔
      ∃ pair ∈ intervals (samplesOf samples policyID), rawPoint pair.1 pair.2 = point ∧
        bucket pair.2.collectedAt resolution = bucketStart := by
  rw [rawIn, orderedSamples_eq h, rawPoints_none, List.mem_filter, List.mem_map,
    decide_eq_true_eq]
  constructor
  · rintro ⟨⟨pair, hpair, rfl⟩, hbucket⟩
    exact ⟨pair, hpair, rfl, hbucket⟩
  · rintro ⟨pair, hpair, rfl, hbucket⟩
    exact ⟨⟨pair, hpair, rfl⟩, hbucket⟩

theorem rawPoint_rxBytes (older newer : Sample) :
    (rawPoint older newer).rxBytes.getD 0 = (intervalOf (some older) newer).amount .rxBytes := by
  rw [amount_rxBytes, rawPoint]
  by_cases h : Accounted older newer <;> simp [h]

theorem rawPoint_txBytes (older newer : Sample) :
    (rawPoint older newer).txBytes.getD 0 = (intervalOf (some older) newer).amount .txBytes := by
  rw [amount_txBytes, rawPoint]
  by_cases h : Accounted older newer <;> simp [h]

theorem rawPoint_eq_none {older newer : Sample} (h : ¬Accounted older newer) :
    (rawPoint older newer).rxBytes = none ∧ (rawPoint older newer).txBytes = none := by
  simp [rawPoint, h]

theorem Balanced.rawIn {column : Rollup.Column} {field : HistoryPoint → Option Nat}
    (h : Balanced resolution policyID rows (samplesOf samples policyID))
    (hnodup : (rows.map Rollup.key).Nodup)
    (hincreasing : (samplesOf samples policyID).Pairwise fun older newer =>
      older.collectedAt < newer.collectedAt)
    (hnone : ∀ sample, (intervalOf none sample).amount column = 0)
    (hfield : ∀ older newer, (field (rawPoint older newer)).getD 0 =
      (intervalOf (some older) newer).amount column) :
    countAt rows policyID bucketStart column =
      ((rawIn samples policyID resolution bucketStart).map fun point =>
        (field point).getD 0).sum := by
  rw [h.countAt_eq hnodup, sum_rawIn field hincreasing, sum_postings]
  · simp only [hfield]
  · intro sample
    simp only [hnone, ite_self]

/-- A row counts no sample if every sample of its intervals has a discontinuity reason. -/
theorem Balanced.sampleCount_eq_zero
    (h : Balanced resolution policyID rows (samplesOf samples policyID))
    (hnodup : (rows.map Rollup.key).Nodup) :
    countAt rows policyID bucketStart .sampleCount = 0 ↔
      ∀ pair ∈ intervals (samplesOf samples policyID),
        bucket pair.2.collectedAt resolution = bucketStart →
          pair.2.discontinuityReason ≠ none := by
  have hvalid : ∀ older newer : Sample, (intervalOf (some older) newer).amount .sampleCount =
      (!newer.discontinuityReason.isSome).toNat := by
    intro older newer
    simp only [intervalOf]
    split_ifs <;> rfl
  rw [h.countAt_eq hnodup, sum_postings, List.sum_eq_zero_iff]
  · simp only [List.mem_map, hvalid]
    constructor
    · intro hzero pair hpair hbucket hreason
      have := hzero _ ⟨pair, hpair, rfl⟩
      simp [hbucket, hreason] at this
    · rintro hreason _ ⟨pair, hpair, rfl⟩
      split_ifs with hbucket
      · have := Option.isSome_iff_ne_none.mpr (hreason pair hpair hbucket)
        simp [this]
      · rfl
  · intro sample
    exact ite_self 0

theorem point_rxBytes : ((Table.lookup Rollup.key (policyID, bucketStart) rows).map
    rollupPoint).bind (·.rxBytes) =
      if countAt rows policyID bucketStart .sampleCount ≠ 0 then
        some (countAt rows policyID bucketStart .rxBytes) else none := by
  unfold countAt Ledger.amountAt
  cases Table.lookup Rollup.key (policyID, bucketStart) rows <;> rfl

theorem point_txBytes : ((Table.lookup Rollup.key (policyID, bucketStart) rows).map
    rollupPoint).bind (·.txBytes) =
      if countAt rows policyID bucketStart .sampleCount ≠ 0 then
        some (countAt rows policyID bucketStart .txBytes) else none := by
  unfold countAt Ledger.amountAt
  cases Table.lookup Rollup.key (policyID, bucketStart) rows <;> rfl

/-- The point of a bucket agrees with the raw points of its samples if and only if a known interval
of it, if there is one, has no discontinuity reason. -/
theorem agreesAt_iff (h : Balanced resolution policyID rows (samplesOf samples policyID))
    (hnodup : (rows.map Rollup.key).Nodup)
    (hincreasing : (samplesOf samples policyID).Pairwise fun older newer =>
      older.collectedAt < newer.collectedAt)
    (hmarked : (samplesOf samples policyID).IsChain fun older newer =>
      newer.discontinuityReason = none → Accounted older newer) :
    AgreesAt (rawIn samples policyID resolution bucketStart)
        ((Table.lookup Rollup.key (policyID, bucketStart) rows).map rollupPoint) ↔
      Explained (samplesOf samples policyID) resolution bucketStart := by
  have hrx : countAt rows policyID bucketStart .rxBytes = _ :=
    h.rawIn hnodup hincreasing (fun _ => rfl) rawPoint_rxBytes
  have htx : countAt rows policyID bucketStart .txBytes = _ :=
    h.rawIn hnodup hincreasing (fun _ => rfl) rawPoint_txBytes
  have hcount : countAt rows policyID bucketStart .sampleCount = 0 ↔ _ :=
    h.sampleCount_eq_zero hnodup
  by_cases hzero : countAt rows policyID bucketStart .sampleCount = 0
  · -- No point, or one without bytes: no interval may be known.
    have hreason := hcount.mp hzero
    constructor
    · rintro hagrees ⟨pair, hpair, hbucket, haccounted⟩
      have hnone := (hagrees.known (.inl (by rw [point_rxBytes, if_neg (not_not.mpr hzero)])) _
        ((mem_rawIn hincreasing).mpr ⟨pair, hpair, rfl, hbucket⟩)).1
      simp [rawPoint, haccounted] at hnone
    · intro hexplained
      have hnone : ∀ point ∈ rawIn samples policyID resolution bucketStart,
          point.rxBytes = none ∧ point.txBytes = none := by
        intro point hpoint
        obtain ⟨pair, hpair, rfl, hbucket⟩ := (mem_rawIn hincreasing).mp hpoint
        refine rawPoint_eq_none fun haccounted => ?_
        obtain ⟨other, hother, hotherBucket, -, hotherReason⟩ :=
          hexplained ⟨pair, hpair, hbucket, haccounted⟩
        exact hreason other hother hotherBucket hotherReason
      refine ⟨?_, ?_, fun _ => hnone⟩
      · rw [point_rxBytes, if_neg (not_not.mpr hzero), Option.getD_none, eq_comm,
          List.sum_eq_zero_iff]
        simp only [List.mem_map]
        rintro _ ⟨point, hpoint, rfl⟩
        rw [(hnone point hpoint).1, Option.getD_none]
      · rw [point_txBytes, if_neg (not_not.mpr hzero), Option.getD_none, eq_comm,
          List.sum_eq_zero_iff]
        simp only [List.mem_map]
        rintro _ ⟨point, hpoint, rfl⟩
        rw [(hnone point hpoint).2, Option.getD_none]
  · -- A point with bytes: some interval has no reason, and it is known.
    have hagrees : AgreesAt (rawIn samples policyID resolution bucketStart)
        ((Table.lookup Rollup.key (policyID, bucketStart) rows).map rollupPoint) := by
      refine ⟨?_, ?_, ?_⟩
      · rw [point_rxBytes, if_pos hzero, Option.getD_some, hrx]
      · rw [point_txBytes, if_pos hzero, Option.getD_some, htx]
      · rw [point_rxBytes, point_txBytes, if_pos hzero, if_pos hzero]
        rintro (hnone | hnone)
        · exact nomatch hnone
        · exact nomatch hnone
    refine ⟨fun _ _ => ?_, fun _ => hagrees⟩
    have hreason := mt hcount.mpr hzero
    simp only [not_forall, not_not] at hreason
    obtain ⟨pair, hpair, hbucket, hnone⟩ := hreason
    exact ⟨pair, hpair, hbucket, mem_intervals_of_isChain hmarked hpair hnone, hnone⟩

end Bucket

/-- After any calls, a query that is not answered from the samples and not cut off agrees with the
raw history in every bucket of its window if and only if each of them that has a known interval has
one whose sample has no discontinuity reason. -/
theorem resolutions_agree_iff {ρ : Type} (alerts : Alerts ρ) (rest : ρ) (calls : List Call)
    {db : Db ρ} (hdb : db = run (ingestObservations alerts) (Db.empty rest) calls)
    {policyID : String} {startsAt endsAt : Time} {limit : Nat} {resolution : Resolution}
    {points : List HistoryPoint}
    (hquery : queryHistory db policyID startsAt endsAt limit = .ok (resolution, points))
    (hresolution : resolution ≠ .raw)
    (hlimit : (rollupsBetween (db.rollups resolution) policyID startsAt endsAt).length ≤ limit) :
    AgreesBetween db.samples policyID resolution startsAt endsAt points ↔
      ExplainedBetween (samplesOf db.samples policyID) resolution startsAt endsAt := by
  have hbooks : Books db := hdb ▸ run_books rest calls
  obtain ⟨hnodup, hbalanced⟩ : ((db.rollups resolution).map Rollup.key).Nodup ∧
      Balanced resolution policyID (db.rollups resolution) (samplesOf db.samples policyID) := by
    cases resolution with
    | raw => exact absurd rfl hresolution
    | hour => exact ⟨hbooks.hourlyKeys, hbooks.hourly policyID⟩
    | day => exact ⟨hbooks.dailyKeys, hbooks.daily policyID⟩
  have hpoints : points = rollupPoints (db.rollups resolution) policyID startsAt endsAt limit := by
    rw [queryHistory, raiseIf_bind_eq_ok, raiseIf_bind_eq_ok] at hquery
    cases hhistory : historyResolution startsAt endsAt <;>
      simp only [hhistory, Except.ok.injEq, Prod.mk.injEq] at hquery
    · exact absurd hquery.2.2.1.symm hresolution
    · rw [← hquery.2.2.1, hquery.2.2.2]
    · rw [← hquery.2.2.1, hquery.2.2.2]
  refine forall_congr' fun bucketStart => forall_congr' fun hstart => forall_congr' fun hend => ?_
  rw [hpoints, find?_rollupPoints hnodup hlimit hstart hend]
  exact agreesAt_iff hbalanced hnodup (hbooks.increasing policyID) (hbooks.marked policyID)

/-! ### An hour with one interval -/

def webPolicy : Policy := ⟨"web", "host", true, .monitorOnly, none, none, 0⟩

def quiet : Alerts Unit := ⟨fun _ _ _ _ rest => rest, fun _ _ _ _ rest => rest⟩

/-- One report of the counters of the policy. -/
def report (collectedAt : Time) (total : Nat) (reason : Option Discontinuity) : Call where
  policies := [webPolicy]
  hostID := "host"
  collectedAt
  observations := [{
    policyID := "web"
    rxBytesTotal := total
    txBytesTotal := total
    currentPeriodRx := total
    currentPeriodTx := total
    quotaBytes := none
    counterGeneration := 1
    runtimeRuleState := .active
    shapingState := .disabled
    currentEgressRateBps := none
    discontinuityReason := reason }]

/-- A hundred bytes within a minute. -/
def minuteOfTraffic (reason : Option Discontinuity) : Db Unit :=
  run (ingestObservations quiet) (Db.empty ()) [report 0 0 none, report (seconds 60) 100 reason]

theorem resolutions_agree_in_minute :
    AgreesBetween (minuteOfTraffic none).samples "web" .hour 0 (days 2)
      [⟨0, some 100, some 100, some 200, 0, 0, none⟩] := by
  have hquery : queryHistory (minuteOfTraffic none) "web" 0 (days 2) 5000 =
      .ok (.hour, [⟨0, some 100, some 100, some 200, 0, 0, none⟩]) := by
    decide +kernel
  have hreason : ∀ pair ∈ intervals (samplesOf (minuteOfTraffic none).samples "web"),
      pair.2.discontinuityReason = none := by
    decide +kernel
  refine (resolutions_agree_iff quiet () _ rfl hquery (by decide) (by decide +kernel)).mpr ?_
  rintro bucketStart - - ⟨pair, hpair, hbucket, haccounted⟩
  exact ⟨pair, hpair, hbucket, haccounted, hreason pair hpair⟩

/-- The Agent names a reason, but its counters went on: the hour reports no bytes. -/
theorem hour_hides_bytes :
    queryHistory (minuteOfTraffic (some .agentRestart)) "web" 0 (days 2) 5000 =
      .ok (.hour, [⟨0, none, none, none, 0, 1, none⟩]) ∧
    (rawIn (minuteOfTraffic (some .agentRestart)).samples "web" .hour 0).map (·.rxBytes) =
      [some 100] ∧
    ¬AgreesAt (rawIn (minuteOfTraffic (some .agentRestart)).samples "web" .hour 0)
      ([⟨0, none, none, none, 0, 1, none⟩].find? (·.at_ = 0)) := by
  have hraw : (rawIn (minuteOfTraffic (some .agentRestart)).samples "web" .hour 0).map
      (·.rxBytes) = [some 100] := by
    decide +kernel
  refine ⟨by decide +kernel, hraw, fun hagrees => ?_⟩
  obtain ⟨point, hpoint, hbytes⟩ := List.mem_map.mp (hraw ▸ List.mem_singleton_self (some 100))
  have hnone := (hagrees.known (.inl rfl) point hpoint).1
  rw [hbytes] at hnone
  exact nomatch hnone

end VpsGuardian.PortTraffic
