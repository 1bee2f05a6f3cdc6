import VpsGuardian.PortPolicies.Texts

/-!
The order of dates.

Dates are ordered by year, month and day, which is the order of their ordinals, and an
ordinal from 1 to 3652059 is that of one date.
-/

namespace VpsGuardian.PortPolicies

open NetHelper (isLeapYear daysIn)

namespace Date

/-! ### Dates in order -/

/-- The place of a date in months of 32 days. -/
def rank (date : Date) : Nat := (date.year * 12 + date.month) * 32 + date.day

theorem day_le (date : Date) : date.day ≤ 31 := by
  refine date.valid.2.2.2.trans ?_
  unfold daysIn
  split_ifs <;> decide

theorem ext_fields {a b : Date} (hyear : a.year = b.year) (hmonth : a.month = b.month)
    (hday : a.day = b.day) : a = b := by
  cases a
  cases b
  subst hyear hmonth hday
  rfl

theorem rank_injective : Function.Injective rank := by
  intro a b h
  have hda := day_le a
  have hdb := day_le b
  have hma := a.valid.2.1
  have hmb := b.valid.2.1
  unfold rank at h
  exact ext_fields (by omega) (by omega) (by omega)

instance : PartialOrder Date := PartialOrder.lift rank rank_injective

theorem lt_iff_rank {a b : Date} : a < b ↔ a.rank < b.rank := Iff.rfl

theorem le_iff_rank {a b : Date} : a ≤ b ↔ a.rank ≤ b.rank := Iff.rfl

theorem not_lt {a b : Date} : ¬a < b ↔ b ≤ a := by
  rw [lt_iff_rank, le_iff_rank, Nat.not_lt]

/-- Dates compare as their ranks. -/
theorem before_iff {a b : Date} : a.before b = true ↔ a < b := by
  have hda := day_le a
  have hdb := day_le b
  have hma := a.valid.2.1
  have hmb := b.valid.2.1
  rw [before, decide_eq_true_eq, lt_iff_rank]
  unfold rank
  omega

/-! ### Ordinals -/

theorem daysBeforeMonth_succ {month : Nat} (h : 1 ≤ month) (year : Nat) :
    daysBeforeMonth (month + 1) year = daysBeforeMonth month year + daysIn month year := by
  obtain ⟨earlier, rfl⟩ := Nat.exists_eq_add_of_le' h
  simp only [daysBeforeMonth, Nat.add_sub_cancel, List.range_succ, List.map_append, List.map_cons,
    List.map_nil, List.sum_append, List.sum_cons, List.sum_nil, Nat.add_zero]

theorem daysBeforeMonth_mono {year m n : Nat} (hm : 1 ≤ m) (h : m ≤ n) :
    daysBeforeMonth m year ≤ daysBeforeMonth n year := by
  induction n, h using Nat.le_induction with
  | base => exact le_rfl
  | succ n hmn ih =>
    rw [daysBeforeMonth_succ (hm.trans hmn)]
    exact ih.trans (Nat.le_add_right _ _)

def yearLength (year : Nat) : Nat := if isLeapYear year then 366 else 365

theorem daysBeforeMonth_last (year : Nat) : daysBeforeMonth 13 year = yearLength year := by
  rw [yearLength, ← sum_daysIn, daysBeforeMonth, List.range'_eq_map_range, List.map_map]
  congr 1

theorem daysBeforeYear_succ {year : Nat} (h : 1 ≤ year) :
    daysBeforeYear (year + 1) = daysBeforeYear year + yearLength year := by
  obtain ⟨earlier, rfl⟩ := Nat.exists_eq_add_of_le' h
  have h100 : earlier / 100 ≤ earlier / 4 := Nat.div_le_div_left (by decide) (by decide)
  have hleap : yearLength (earlier + 1) =
      365 + (if (earlier + 1) % 4 = 0 then 1 else 0) + (if (earlier + 1) % 400 = 0 then 1 else 0) -
        (if (earlier + 1) % 100 = 0 then 1 else 0) := by
    simp only [yearLength, isLeapYear, Bool.and_eq_true, Bool.or_eq_true, beq_iff_eq, bne_iff_ne]
    split_ifs <;> omega
  have hdiv : ∀ k, (earlier + 1) / k = earlier / k + if (earlier + 1) % k = 0 then 1 else 0 := by
    intro k
    rw [Nat.succ_div]
    simp only [Nat.dvd_iff_mod_eq_zero]
  have hmultiple : (earlier + 1) % 100 = 0 → (earlier + 1) % 4 = 0 := by omega
  rw [hleap]
  unfold daysBeforeYear
  rw [Nat.add_sub_cancel, Nat.add_sub_cancel, hdiv 4, hdiv 100, hdiv 400]
  split_ifs <;> omega

theorem daysBeforeYear_mono {m n : Nat} (h : m ≤ n) : daysBeforeYear m ≤ daysBeforeYear n := by
  induction n, h using Nat.le_induction with
  | base => exact le_rfl
  | succ n hmn ih =>
    refine ih.trans ?_
    rcases Nat.eq_zero_or_pos n with rfl | hpos
    · exact Nat.zero_le _
    · rw [daysBeforeYear_succ hpos]
      exact Nat.le_add_right _ _

/-- The number of a date in its year. -/
theorem dayOfYear_le (date : Date) :
    daysBeforeMonth date.month date.year + date.day ≤ yearLength date.year := by
  obtain ⟨hmonth, hlast⟩ := date.valid.2.1
  have hday := date.valid.2.2.2
  have hsucc := daysBeforeMonth_succ hmonth date.year
  have hmono : daysBeforeMonth (date.month + 1) date.year ≤ daysBeforeMonth 13 date.year :=
    daysBeforeMonth_mono (by omega) (by omega)
  rw [daysBeforeMonth_last] at hmono
  omega

theorem ordinal_lt_of_lt {a b : Date} (h : a < b) : a.ordinal < b.ordinal := by
  rw [← before_iff, before, decide_eq_true_eq] at h
  obtain ⟨hya, hma, hda, hda'⟩ := a.valid
  obtain ⟨hyb, hmb, hdb, -⟩ := b.valid
  unfold ordinal
  rcases h with hyear | ⟨hyear, hmonth | ⟨hmonth, hday⟩⟩
  · have hsucc := daysBeforeYear_succ hya.1
    have hmono : daysBeforeYear (a.year + 1) ≤ daysBeforeYear b.year := daysBeforeYear_mono hyear
    have hle := dayOfYear_le a
    omega
  · have hsucc := daysBeforeMonth_succ hma.1 a.year
    have hmono : daysBeforeMonth (a.month + 1) a.year ≤ daysBeforeMonth b.month a.year :=
      daysBeforeMonth_mono (by omega) hmonth
    rw [hyear] at hsucc hmono hda' ⊢
    omega
  · rw [hyear, hmonth]
    omega

theorem ordinal_lt_iff {a b : Date} : a.ordinal < b.ordinal ↔ a < b := by
  refine ⟨fun h => ?_, ordinal_lt_of_lt⟩
  by_contra hnot
  rcases (not_lt.mp hnot).lt_or_eq with hlt | rfl
  · exact absurd (ordinal_lt_of_lt hlt) (Nat.not_lt.mpr h.le)
  · exact lt_irrefl _ h

theorem ordinal_injective : Function.Injective ordinal := by
  intro a b h
  have hab : ¬a < b := fun hlt => (ordinal_lt_of_lt hlt).ne h
  have hba : ¬b < a := fun hlt => (ordinal_lt_of_lt hlt).ne h.symm
  exact le_antisymm (not_lt.mp hba) (not_lt.mp hab)

theorem ordinal_range (date : Date) : 1 ≤ date.ordinal ∧ date.ordinal ≤ 3652059 := by
  have hle := dayOfYear_le date
  have hsucc := daysBeforeYear_succ date.valid.1.1
  have hmono : daysBeforeYear (date.year + 1) ≤ daysBeforeYear 10000 :=
    daysBeforeYear_mono (by have hyear := date.valid.1.2; omega)
  have hlast : daysBeforeYear 10000 = 3652059 := rfl
  have hday := date.valid.2.2.1
  unfold ordinal
  omega

/-- Splitting the days of a year into months keeps their number. -/
theorem daysBeforeMonth_splitMonth (year : Nat) : ∀ later month passed : Nat, 1 ≤ month →
    daysBeforeMonth (splitMonth year later month passed).1 year +
        (splitMonth year later month passed).2 =
      daysBeforeMonth month year + passed + 1
  | 0, month, passed, _ => rfl
  | later + 1, month, passed, hmonth => by
    unfold splitMonth
    split
    · rfl
    · next hout =>
      rw [daysBeforeMonth_splitMonth year later (month + 1) _ (by omega),
        daysBeforeMonth_succ hmonth]
      omega

/-- The days before a year, by the cycles of the calendar. -/
theorem daysBeforeYear_cycles {q c d f : Nat} (hc : c ≤ 3) (hd : d ≤ 24) (hf : f ≤ 3) :
    daysBeforeYear (400 * q + 100 * c + 4 * d + f + 1) =
      146097 * q + 36524 * c + 1461 * d + 365 * f := by
  have h4 : (400 * q + 100 * c + 4 * d + f) / 4 = 100 * q + 25 * c + d := by omega
  have h100 : (400 * q + 100 * c + 4 * d + f) / 100 = 4 * q + c := by omega
  have h400 : (400 * q + 100 * c + 4 * d + f) / 400 = q := by omega
  rw [daysBeforeYear, Nat.add_sub_cancel, h4, h100, h400]
  omega

/-- The triple of an ordinal has that ordinal. -/
theorem ordinal_ymd {n : Nat} (h : 1 ≤ n) :
    daysBeforeYear (ymd n).1 + daysBeforeMonth (ymd n).2.1 (ymd n).1 + (ymd n).2.2 = n := by
  unfold ymd
  extract_lets passed century inCentury inCycle yearOfCycle year
  have hsplit := daysBeforeMonth_splitMonth year 11 1 (inCycle - 365 * yearOfCycle) le_rfl
  have hfirst : daysBeforeMonth 1 year = 0 := rfl
  have hcycles : daysBeforeYear year = 146097 * ((n - 1) / 146097) + 36524 * century +
      1461 * (inCentury / 1461) + 365 * yearOfCycle :=
    daysBeforeYear_cycles (Nat.min_le_right _ _) (by omega) (Nat.min_le_right _ _)
  dsimp only
  rw [hcycles]
  generalize daysBeforeMonth (splitMonth year 11 1 (inCycle - 365 * yearOfCycle)).1 year = before
    at *
  generalize (splitMonth year 11 1 (inCycle - 365 * yearOfCycle)).2 = day at *
  omega

/-- `date.fromordinal` gives the date with that ordinal. -/
theorem fromOrdinal_eq_some {n : Int} {date : Date} :
    fromOrdinal n = some date ↔ (date.ordinal : Int) = n := by
  constructor
  · intro h
    unfold fromOrdinal at h
    split_ifs at h with hlow
    have hordinal := ordinal_ymd (n := n.toNat) (by omega)
    obtain ⟨year, month, day, hymd⟩ : ∃ year month day, ymd n.toNat = (year, month, day) :=
      ⟨_, _, _, rfl⟩
    rw [hymd] at h hordinal
    obtain ⟨rfl, rfl, rfl⟩ := of?_eq_some.mp h
    have hnat : date.ordinal = n.toNat := hordinal
    omega
  · rintro rfl
    obtain ⟨hlow, hhigh⟩ := date.ordinal_range
    have hvalid := ymd_valid ⟨hlow, hhigh⟩
    have hordinal := ordinal_ymd hlow
    have heq : date = ⟨_, _, _, hvalid⟩ := ordinal_injective hordinal.symm
    have hpositive : ¬(date.ordinal : Int) < 1 := by omega
    unfold fromOrdinal
    rw [if_neg hpositive, Int.toNat_natCast]
    exact of?_eq_some.mpr
      ⟨congrArg Date.year heq, congrArg Date.month heq, congrArg Date.day heq⟩

theorem fromOrdinal_eq_none {n : Int} (h : 1 ≤ n) (hnone : fromOrdinal n = none) : 3652059 < n := by
  by_contra hle
  have hvalid := @ymd_valid n.toNat (by omega)
  have hordinal : ordinal ⟨_, _, _, hvalid⟩ = n.toNat := ordinal_ymd (n := n.toNat) (by omega)
  have hsome : fromOrdinal n = some ⟨_, _, _, hvalid⟩ := fromOrdinal_eq_some.mpr (by omega)
  rw [hnone] at hsome
  cases hsome

end Date

end VpsGuardian.PortPolicies
