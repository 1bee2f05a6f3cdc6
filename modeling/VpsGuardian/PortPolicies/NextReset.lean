import VpsGuardian.PortPolicies.Calendar

/-!
The next reset of a schedule (`next_reset_at`).

A recurrence stands for a set of local dates. The search for the next one goes through
months, years or days, and always ends at the least date of the set after a given one.
-/

namespace VpsGuardian.PortPolicies

open Lib
open Controller (Time)
open NetHelper (daysIn)

/-- The day of a month, or its last one. -/
def Date.Clamped (day : Nat) (date : Date) : Prop :=
  date.day = min day (daysIn date.month date.year)

/-- The dates of a recurrence. -/
def Recurrence.dates : Recurrence → Set Date
  | .manual => ∅
  | .monthly day => {date | date.Clamped day.value}
  | .yearly day month => {date | date.Clamped day.value ∧ date.month = month.value}
  | .fixedDate fixed => {fixed}
  | .intervalDays every anchor =>
      {date | ∃ k : Nat, date.ordinal = anchor.ordinal + k * every.value}
  | .intervalMonths day every anchor =>
      {date | date = anchor ∨ ∃ k : Nat, 1 ≤ k ∧ date.Clamped day.value ∧
        date.monthIndex = anchor.monthIndex + k * every.value}

/-- The dates of a recurrence after a given one. -/
def Recurrence.later (recurrence : Recurrence) (today : Date) : Set Date :=
  {date | date ∈ recurrence.dates ∧ today < date}

/-- `next_reset_at` of a dictionary, which is validated first. -/
def nextResetOf (zoneInfo : ZoneInfo) (value : Dict Field) (after : Time) :
    Except ScheduleError (Option Time) := do
  let normalized ← validateResetPolicy zoneInfo value
  if normalized.recurrence = .manual then return none
  nextResetAt zoneInfo normalized after

/-! ### Dates of a month -/

namespace Date

theorem monthIndex_le_of_lt {a b : Date} (h : a < b) : a.monthIndex ≤ b.monthIndex := by
  have hda := day_le a
  have hdb := day_le b
  have hma := a.valid.2.1
  have hmb := b.valid.2.1
  rw [lt_iff_rank] at h
  unfold rank at h
  unfold monthIndex
  omega

theorem lt_of_monthIndex_lt {a b : Date} (h : a.monthIndex < b.monthIndex) : a < b := by
  have hda := day_le a
  have hma := a.valid.2.1
  have hmb := b.valid.2.1
  rw [lt_iff_rank]
  unfold monthIndex at h
  unfold rank
  omega

theorem monthIndex_lt (date : Date) : date.monthIndex < 120000 := by
  have hyear := date.valid.1
  have hmonth := date.valid.2.1
  unfold monthIndex
  omega

/-- Two dates of one month that have the same day, or the last one, are one. -/
theorem Clamped.eq {day : Nat} {a b : Date} (ha : a.Clamped day) (hb : b.Clamped day)
    (h : a.monthIndex = b.monthIndex) : a = b := by
  have hma := a.valid.2.1
  have hmb := b.valid.2.1
  unfold monthIndex at h
  have hyear : a.year = b.year := by omega
  have hmonth : a.month = b.month := by omega
  refine ext_fields hyear hmonth ?_
  rw [ha, hb, hyear, hmonth]

end Date

/-- `_clamp` gives the day of the month, or its last one. -/
theorem clamp_eq_some {year month day : Nat} {date : Date} (h : clamp year month day = some date) :
    date.year = year ∧ date.month = month ∧ date.Clamped day := by
  obtain ⟨rfl, rfl, hday⟩ := Date.of?_eq_some.mp h
  exact ⟨rfl, rfl, hday⟩

/-- `_clamp` raises only outside the calendar. -/
theorem clamp_isSome {year month day : Nat} (hyear : 1 ≤ year ∧ year ≤ 9999)
    (hmonth : 1 ≤ month ∧ month ≤ 12) (hday : 1 ≤ day) :
    ∃ date, clamp year month day = some date := by
  have hlength : 1 ≤ daysIn month year := by
    unfold daysIn
    split_ifs <;> decide
  have hvalid : (1 ≤ year ∧ year ≤ 9999) ∧ (1 ≤ month ∧ month ≤ 12) ∧
      1 ≤ min day (daysIn month year) ∧ min day (daysIn month year) ≤ daysIn month year :=
    ⟨hyear, hmonth, Nat.le_min.mpr ⟨hday, hlength⟩, Nat.min_le_right _ _⟩
  exact ⟨⟨_, _, _, hvalid⟩, dif_pos hvalid⟩

theorem addMonths_eq_some {date next : Date} {months day : Nat}
    (h : addMonths date months day = some next) :
    next.monthIndex = date.monthIndex + months ∧ next.Clamped day :=
  ⟨(monthIndex_addMonths h).1, (clamp_eq_some h).2.2⟩

/-- `_add_months` raises only where the month is not in the calendar. -/
theorem addMonths_eq_none {date : Date} {months day : Nat} (hday : 1 ≤ day)
    (h : addMonths date months day = none) : 120000 ≤ date.monthIndex + months := by
  by_contra hlt
  have hyear := date.valid.1
  have hmonth := date.valid.2.1
  have hindex : 12 ≤ date.monthIndex := by
    unfold Date.monthIndex
    omega
  obtain ⟨next, hnext⟩ := @clamp_isSome ((date.monthIndex + months) / 12)
    ((date.monthIndex + months) % 12 + 1) day (by omega) (by omega) hday
  have hsome : addMonths date months day = some next := hnext
  rw [h] at hsome
  cases hsome

/-- The first month in which a set has a date has its least one, where it has no two in a month. -/
theorem isLeast_of_monthIndex {dates : Set Date} {date : Date} (hdate : date ∈ dates)
    (hunique : ∀ other ∈ dates, other.monthIndex = date.monthIndex → other = date)
    (hfirst : ∀ other ∈ dates, date.monthIndex ≤ other.monthIndex) : IsLeast dates date := by
  refine ⟨hdate, fun other hother => ?_⟩
  rcases (hfirst other hother).lt_or_eq with hlt | heq
  · exact (Date.lt_of_monthIndex_lt hlt).le
  · exact (hunique other hother heq.symm).ge

/-! ### The search -/

/-- A search ends at the least date of a set, or raises where there is none. -/
def Finds (dates : Set Date) (result : Except ScheduleError (Option Date)) : Prop :=
  (∃ date, result = .ok (some date) ∧ IsLeast dates date) ∨
    (result = .error .unexpected ∧ dates = ∅)

theorem finds_candidate {dates : Set Date} {candidate : Option Date}
    (hsome : ∀ date, candidate = some date → IsLeast dates date)
    (hnone : candidate = none → dates = ∅) :
    Finds dates ((orRaise candidate .unexpected).map some) := by
  cases candidate with
  | none => exact .inr ⟨rfl, hnone rfl⟩
  | some date => exact .inl ⟨date, rfl, hsome date rfl⟩

theorem nextDate_monthly (day : Count 31) (today : Date) :
    Finds ((Recurrence.monthly day).later today) (nextDate (.monthly day) today) := by
  obtain ⟨candidate, hcandidate⟩ := clamp_isSome today.valid.1 today.valid.2.1 day.bounds.1
  obtain ⟨hyear, hmonth, hclamped⟩ := clamp_eq_some hcandidate
  have hindex : candidate.monthIndex = today.monthIndex := by
    rw [Date.monthIndex, Date.monthIndex, hyear, hmonth]
  simp only [nextDate, hcandidate]
  by_cases hbefore : today.before candidate = true
  · rw [if_pos hbefore]
    refine .inl ⟨candidate, rfl, isLeast_of_monthIndex ⟨hclamped, Date.before_iff.mp hbefore⟩
      (fun other hother heq => hother.1.eq hclamped heq) fun other hother => ?_⟩
    exact hindex.trans_le (Date.monthIndex_le_of_lt hother.2)
  · rw [if_neg hbefore]
    -- the date of this month is over, so the later ones are in later months
    have hlater : ∀ other ∈ (Recurrence.monthly day).later today,
        candidate.monthIndex + 1 ≤ other.monthIndex := by
      intro other hother
      have hle := hindex.trans_le (Date.monthIndex_le_of_lt hother.2)
      have hne : candidate.monthIndex ≠ other.monthIndex := by
        intro heq
        have hsame : other = candidate := hother.1.eq hclamped heq.symm
        exact hbefore (Date.before_iff.mpr (hsame ▸ hother.2))
      omega
    refine finds_candidate (fun next hnext => ?_) fun hnone => ?_
    · obtain ⟨hnextIndex, hnextClamped⟩ := addMonths_eq_some hnext
      have hlt : today < next := Date.lt_of_monthIndex_lt (by omega)
      refine isLeast_of_monthIndex ⟨hnextClamped, hlt⟩
        (fun other hother heq => hother.1.eq hnextClamped heq) fun other hother => ?_
      rw [hnextIndex]
      exact hlater other hother
    · have hlast := addMonths_eq_none day.bounds.1 hnone
      refine Set.eq_empty_of_forall_notMem fun other hother => ?_
      have hle := hlater other hother
      have hlt := other.monthIndex_lt
      omega

theorem nextDate_yearly (day : Count 31) (month : Count 12) (today : Date) :
    Finds ((Recurrence.yearly day month).later today) (nextDate (.yearly day month) today) := by
  obtain ⟨candidate, hcandidate⟩ := clamp_isSome today.valid.1 month.bounds day.bounds.1
  obtain ⟨hyear, hmonth, hclamped⟩ := clamp_eq_some hcandidate
  have hmonths := month.bounds
  have hunique : ∀ date : Date, date.Clamped day.value →
      ∀ other ∈ (Recurrence.yearly day month).later today,
        other.monthIndex = date.monthIndex → other = date :=
    fun date hdate other hother heq => hother.1.1.eq hdate heq
  have hyears : ∀ other ∈ (Recurrence.yearly day month).later today,
      today.year ≤ other.year := by
    intro other hother
    have hle := Date.monthIndex_le_of_lt hother.2
    have htoday := today.valid.2.1
    have hother' := other.valid.2.1
    unfold Date.monthIndex at hle
    omega
  simp only [nextDate, hcandidate]
  by_cases hbefore : today.before candidate = true
  · rw [if_pos hbefore]
    refine .inl ⟨candidate, rfl, isLeast_of_monthIndex
      ⟨⟨hclamped, hmonth⟩, Date.before_iff.mp hbefore⟩ (hunique candidate hclamped)
        fun other hother => ?_⟩
    have hle := hyears other hother
    rw [Date.monthIndex, Date.monthIndex, hmonth, hother.1.2, hyear]
    omega
  · rw [if_neg hbefore]
    have hlater : ∀ other ∈ (Recurrence.yearly day month).later today,
        today.year + 1 ≤ other.year := by
      intro other hother
      have hle := hyears other hother
      have hne : today.year ≠ other.year := by
        intro heq
        have hsame : other = candidate := by
          refine hunique candidate hclamped other hother ?_
          rw [Date.monthIndex, Date.monthIndex, hmonth, hother.1.2, hyear, heq]
        exact hbefore (Date.before_iff.mpr (hsame ▸ hother.2))
      omega
    refine finds_candidate (fun next hnext => ?_) fun hnone => ?_
    · obtain ⟨hnextYear, hnextMonth, hnextClamped⟩ := clamp_eq_some hnext
      have hlt : today < next := by
        have htoday := today.valid.2.1
        refine Date.lt_of_monthIndex_lt ?_
        rw [Date.monthIndex, Date.monthIndex, hnextYear, hnextMonth]
        omega
      refine isLeast_of_monthIndex ⟨⟨hnextClamped, hnextMonth⟩, hlt⟩
        (hunique next hnextClamped) fun other hother => ?_
      have hle := hlater other hother
      rw [Date.monthIndex, Date.monthIndex, hnextMonth, hother.1.2, hnextYear]
      omega
    · refine Set.eq_empty_of_forall_notMem fun other hother => ?_
      have hle := hlater other hother
      have hlast := other.valid.1.2
      obtain ⟨next, hnext⟩ := @clamp_isSome (today.year + 1) month.value day.value
        (by omega) hmonths day.bounds.1
      rw [hnone] at hnext
      cases hnext

theorem nextDate_intervalDays (every : Count 366) (anchor today : Date) :
    Finds ((Recurrence.intervalDays every anchor).later today)
      (nextDate (.intervalDays every anchor) today) := by
  have hevery := every.bounds.1
  simp only [nextDate]
  by_cases hbefore : today.before anchor = true
  · rw [if_pos hbefore]
    refine .inl ⟨anchor, rfl, ⟨⟨0, by rw [Nat.zero_mul, Nat.add_zero]⟩,
      Date.before_iff.mp hbefore⟩, fun other hother => ?_⟩
    obtain ⟨⟨k, hk⟩, -⟩ := hother
    rw [← Date.not_lt, ← Date.ordinal_lt_iff, hk]
    omega
  · rw [if_neg hbefore]
    have hanchor : ¬today.ordinal < anchor.ordinal := fun hlt =>
      hbefore (Date.before_iff.mpr (Date.ordinal_lt_iff.mp hlt))
    -- so many days are the whole intervals from the anchor until after today
    obtain ⟨elapsed, helapsed⟩ := Nat.exists_eq_add_of_le (Nat.not_lt.mp hanchor)
    have hdays : (((today.ordinal : Int) - anchor.ordinal) / every.value + 1) * every.value =
        ((elapsed / every.value + 1) * every.value : Nat) := by
      rw [helapsed]
      push_cast
      congr 3
      omega
    have hdiv := Nat.div_add_mod elapsed every.value
    have hmod := Nat.mod_lt elapsed hevery
    have hproduct : (elapsed / every.value + 1) * every.value =
        every.value * (elapsed / every.value) + every.value := by ring
    have hlater : ∀ other ∈ (Recurrence.intervalDays every anchor).later today,
        anchor.ordinal + (elapsed / every.value + 1) * every.value ≤ other.ordinal := by
      rintro other ⟨⟨k, hk⟩, hlt⟩
      rw [← Date.ordinal_lt_iff] at hlt
      have hk' : elapsed / every.value < k := by
        refine (Nat.div_lt_iff_lt_mul hevery).mpr ?_
        omega
      have hmul := Nat.mul_le_mul_right every.value (Nat.succ_le_of_lt hk')
      rw [hk]
      exact Nat.add_le_add_left hmul _
    rw [hdays]
    refine finds_candidate (fun next hnext => ?_) fun hnone => ?_
    · have hordinal := Date.fromOrdinal_eq_some.mp hnext
      have hnextOrdinal : next.ordinal =
          anchor.ordinal + (elapsed / every.value + 1) * every.value := by omega
      refine ⟨⟨⟨_, hnextOrdinal⟩, ?_⟩, fun other hother => ?_⟩
      · rw [← Date.ordinal_lt_iff]
        omega
      · rw [← Date.not_lt, ← Date.ordinal_lt_iff, hnextOrdinal]
        exact Nat.not_lt.mpr (hlater other hother)
    · have hlow := anchor.ordinal_range.1
      have hlast := Date.fromOrdinal_eq_none (by omega) hnone
      refine Set.eq_empty_of_forall_notMem fun other hother => ?_
      have hle := hlater other hother
      have hhigh := other.ordinal_range.2
      omega

/-- The search through the months, from the date `k` intervals behind the anchor on. -/
theorem laterMonth_isLeast (day : Count 31) (every : Count 120) (anchor today candidate : Date)
    {k : Nat} (hindex : candidate.monthIndex = anchor.monthIndex + k * every.value)
    (hcandidate : k = 0 ∧ candidate = anchor ∨ 1 ≤ k ∧ candidate.Clamped day.value)
    (hfirst : ∀ other ∈ (Recurrence.intervalMonths day every anchor).later today,
      candidate.monthIndex ≤ other.monthIndex) :
    Finds ((Recurrence.intervalMonths day every anchor).later today)
      ((orRaise (laterMonth every day.value today candidate) .unexpected).map some) := by
  have hevery := every.bounds.1
  have hmem : candidate ∈ (Recurrence.intervalMonths day every anchor).dates := by
    rcases hcandidate with ⟨-, hanchor⟩ | ⟨hk, hclamped⟩
    · exact .inl hanchor
    · exact .inr ⟨k, hk, hclamped, hindex⟩
  have hunique : ∀ other ∈ (Recurrence.intervalMonths day every anchor).later today,
      other.monthIndex = candidate.monthIndex → other = candidate := by
    rintro other ⟨hother | ⟨j, hj, hother, hotherIndex⟩, -⟩ heq
    · rcases hcandidate with ⟨-, hanchor⟩ | ⟨hk, -⟩
      · exact hother.trans hanchor.symm
      · have hmul := Nat.mul_le_mul hk hevery
        rw [hother] at heq
        omega
    · rcases hcandidate with ⟨rfl, -⟩ | ⟨-, hclamped⟩
      · have hmul := Nat.mul_le_mul hj hevery
        omega
      · exact hother.eq hclamped heq
  rw [laterMonth]
  by_cases hbefore : today.before candidate = true
  · rw [if_pos hbefore]
    exact .inl ⟨candidate, rfl,
      isLeast_of_monthIndex ⟨hmem, Date.before_iff.mp hbefore⟩ hunique hfirst⟩
  · rw [if_neg hbefore]
    have hlater : ∀ other ∈ (Recurrence.intervalMonths day every anchor).later today,
        candidate.monthIndex + every.value ≤ other.monthIndex := by
      intro other hother
      have hle := hfirst other hother
      have hne : other.monthIndex ≠ candidate.monthIndex := by
        intro heq
        exact hbefore (Date.before_iff.mpr (hunique other hother heq ▸ hother.2))
      obtain ⟨rfl | ⟨j, -, -, hotherIndex⟩, -⟩ := hother
      · omega
      · have hj : k < j := by
          refine Nat.lt_of_mul_lt_mul_right (a := every.value) ?_
          omega
        have hmul := Nat.mul_le_mul_right every.value (Nat.succ_le_of_lt hj)
        rw [Nat.succ_mul] at hmul
        omega
    split
    · next hnone =>
      refine .inr ⟨rfl, Set.eq_empty_of_forall_notMem fun other hother => ?_⟩
      have hlast := addMonths_eq_none day.bounds.1 hnone
      have hle := hlater other hother
      have hlt := other.monthIndex_lt
      omega
    · next next hnext =>
      obtain ⟨hnextIndex, hnextClamped⟩ := addMonths_eq_some hnext
      have hlt := next.monthIndex_lt
      refine laterMonth_isLeast day every anchor today next (k := k + 1) ?_
        (.inr ⟨Nat.le_add_left 1 k, hnextClamped⟩) fun other hother => ?_
      · rw [hnextIndex, hindex, Nat.succ_mul, Nat.add_assoc]
      · rw [hnextIndex]
        exact hlater other hother
termination_by 120000 - candidate.monthIndex
decreasing_by omega

theorem nextDate_intervalMonths (day : Count 31) (every : Count 120) (anchor today : Date) :
    Finds ((Recurrence.intervalMonths day every anchor).later today)
      (nextDate (.intervalMonths day every anchor) today) := by
  refine laterMonth_isLeast day every anchor today anchor (k := 0)
    (by rw [Nat.zero_mul, Nat.add_zero]) (.inl ⟨rfl, rfl⟩) ?_
  rintro other ⟨rfl | ⟨k, -, -, hindex⟩, -⟩
  · exact le_rfl
  · rw [hindex]
    exact Nat.le_add_right _ _

/-- A recurrence that is due once or never. -/
theorem nextDate_none_iff (recurrence : Recurrence) (today : Date) :
    nextDate recurrence today = .ok none ↔
      recurrence = .manual ∨ ∃ fixed, recurrence = .fixedDate fixed ∧ ¬today < fixed := by
  have hfinds : ∀ dates result, Finds dates result → result ≠ .ok none := by
    rintro dates result (⟨date, rfl, -⟩ | ⟨rfl, -⟩) <;> nofun
  cases recurrence with
  | manual => simp [nextDate]
  | fixedDate fixed =>
    simp only [nextDate, reduceCtorEq, false_or, Recurrence.fixedDate.injEq, exists_eq_left',
      ← Date.before_iff]
    split_ifs with hbefore <;> simp [hbefore]
  | monthly day =>
    have hne := hfinds _ _ (nextDate_monthly day today)
    simp [hne]
  | yearly day month =>
    have hne := hfinds _ _ (nextDate_yearly day month today)
    simp [hne]
  | intervalDays every anchor =>
    have hne := hfinds _ _ (nextDate_intervalDays every anchor today)
    simp [hne]
  | intervalMonths day every anchor =>
    have hne := hfinds _ _ (nextDate_intervalMonths day every anchor today)
    simp [hne]

/-- Where a later date is in the calendar, the search ends at the least one. -/
theorem nextDate_isLeast {recurrence : Recurrence} {today : Date}
    (hlater : (recurrence.later today).Nonempty) :
    ∃ date, nextDate recurrence today = .ok (some date) ∧
      IsLeast (recurrence.later today) date := by
  have hfinds : Finds (recurrence.later today) (nextDate recurrence today) := by
    cases recurrence with
    | manual =>
      obtain ⟨date, hdate, -⟩ := hlater
      exact absurd hdate (Set.notMem_empty date)
    | fixedDate fixed =>
      obtain ⟨date, rfl, hlt⟩ := hlater
      refine .inl ⟨date, ?_, ⟨rfl, hlt⟩, fun other hother => hother.1.ge⟩
      rw [nextDate, if_pos (Date.before_iff.mpr hlt)]
    | monthly day => exact nextDate_monthly day today
    | yearly day month => exact nextDate_yearly day month today
    | intervalDays every anchor => exact nextDate_intervalDays every anchor today
    | intervalMonths day every anchor => exact nextDate_intervalMonths day every anchor today
  obtain ⟨date, hresult, hleast⟩ | ⟨-, hempty⟩ := hfinds
  · exact ⟨date, hresult, hleast⟩
  · exact absurd hempty hlater.ne_empty

/-! ### The reset of an accepted policy -/

theorem found_of_zoneOf {zoneInfo : ZoneInfo} {name : String} {zone : Zone}
    (h : zoneOf zoneInfo name = .ok zone) : zoneInfo name = .found zone := by
  unfold zoneOf at h
  split at h
  next hfound =>
    obtain rfl := Except.ok.inj h
    exact hfound
  · cases h
  · cases h

/-- The zone of an accepted policy was found, unless it says nothing at all. -/
theorem found_of_validateResetPolicy {zoneInfo : ZoneInfo} {value : Dict Field}
    {policy : ResetPolicy} (h : validateResetPolicy zoneInfo value = .ok policy)
    (hrecurrence : policy.recurrence ≠ .manual) :
    ∃ zone, zoneInfo policy.timezone = .found zone := by
  unfold validateResetPolicy at h
  split at h
  · obtain rfl := Except.ok.inj h
    exact absurd rfl hrecurrence
  · obtain ⟨-, h⟩ := raiseIf_bind_eq_ok.mp h
    obtain ⟨-, h⟩ := raiseIf_bind_eq_ok.mp h
    obtain ⟨-, h⟩ := raiseIf_bind_eq_ok.mp h
    obtain ⟨timezone, htimezone, h⟩ := bind_eq_ok.mp h
    obtain ⟨recurrence, -, h⟩ := bind_eq_ok.mp h
    obtain rfl := Except.ok.inj h
    unfold timezoneField at htimezone
    obtain ⟨name, -, htimezone⟩ := bind_eq_ok.mp htimezone
    obtain ⟨-, htimezone⟩ := raiseIf_bind_eq_ok.mp htimezone
    obtain ⟨zone, hzone, htimezone⟩ := bind_eq_ok.mp htimezone
    obtain rfl := Except.ok.inj htimezone
    exact ⟨zone, found_of_zoneOf hzone⟩

/-- The next reset of an accepted policy: never for a manual one or a fixed date that is over, and
otherwise the local midnight of the least later date. -/
theorem next_reset_is_least (zoneInfo : ZoneInfo) {value : Dict Field} {policy : ResetPolicy}
    (hvalid : validateResetPolicy zoneInfo value = .ok policy) (after : Time) :
    (policy.recurrence = .manual → nextResetOf zoneInfo value after = .ok none) ∧
    (policy.recurrence ≠ .manual → ∃ zone, zoneInfo policy.timezone = .found zone ∧
      ∀ today, zone.localDate after = some today →
        (nextResetOf zoneInfo value after = .ok none ↔
          ∃ fixed, policy.recurrence = .fixedDate fixed ∧ ¬today < fixed) ∧
        ((policy.recurrence.later today).Nonempty →
          ∃ date, IsLeast (policy.recurrence.later today) date ∧
            nextResetOf zoneInfo value after =
              (orRaise (zone.midnight date) .unexpected).map some)) := by
  constructor
  · intro hmanual
    rw [nextResetOf, hvalid]
    exact if_pos hmanual
  · intro hmanual
    obtain ⟨zone, hzone⟩ := found_of_validateResetPolicy hvalid hmanual
    refine ⟨zone, hzone, fun today htoday => ?_⟩
    have hresult : nextResetOf zoneInfo value after =
        (nextDate policy.recurrence today).bind fun date =>
          date.elim (.ok none) fun date => (orRaise (zone.midnight date) .unexpected).map some := by
      have hfound : zoneOf zoneInfo policy.timezone = .ok zone := by rw [zoneOf, hzone]
      rw [nextResetOf, hvalid]
      refine (if_neg hmanual).trans ?_
      rw [nextResetAt, hfound]
      refine (if_neg hmanual).trans ?_
      rw [htoday]
      change Except.bind (nextDate policy.recurrence today) _ = _
      rcases nextDate policy.recurrence today with e | _ | date
      · rfl
      · rfl
      · change Except.bind (orRaise (zone.midnight date) ScheduleError.unexpected) _ =
          Except.map _ _
        cases orRaise (zone.midnight date) ScheduleError.unexpected <;> rfl
    constructor
    · have hnone := nextDate_none_iff policy.recurrence today
      simp only [hmanual, false_or] at hnone
      rw [hresult, ← hnone]
      rcases nextDate policy.recurrence today with e | _ | date
      · simp [Except.bind]
      · simp [Except.bind]
      · simp only [Except.bind, Option.elim_some, Except.ok.injEq, reduceCtorEq, iff_false]
        cases orRaise (zone.midnight date) ScheduleError.unexpected <;> simp [Except.map]
    · intro hlater
      obtain ⟨date, hdate, hleast⟩ := nextDate_isLeast hlater
      refine ⟨date, hleast, ?_⟩
      rw [hresult, hdate]
      rfl

/-- The last day of every month. -/
def monthEnds : Dict Field := .ofList [("type", .string "monthly"), ("day", .int 31)]

def endOfMonth : ResetPolicy :=
  ⟨"UTC", .monthly ⟨31, false, ⟨Nat.le_add_left 1 30, le_rfl⟩,
    fun h => absurd h Bool.false_ne_true⟩⟩

theorem next_reset_is_least_monthEnds :
    ∃ zone, utcOnly "UTC" = .found zone ∧ ∀ today, zone.localDate 0 = some today →
      (endOfMonth.recurrence.later today).Nonempty →
        ∃ date, IsLeast (endOfMonth.recurrence.later today) date ∧
          nextResetOf utcOnly monthEnds 0 =
            (orRaise (zone.midnight date) .unexpected).map some := by
  obtain ⟨zone, hzone, hresult⟩ :=
    (@next_reset_is_least utcOnly monthEnds endOfMonth (by decide +kernel) 0).2 nofun
  exact ⟨zone, hzone, fun today htoday hlater => (hresult today htoday).2 hlater⟩

end VpsGuardian.PortPolicies
