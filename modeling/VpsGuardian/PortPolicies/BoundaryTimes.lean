import VpsGuardian.PortPolicies.NextReset

/-!
Boundaries as times: each is later than the time it is computed from, and is read
back from its text.
-/

namespace VpsGuardian.PortPolicies

open Lib
open Controller (Time seconds)

/-! ### Later boundaries -/

/-- A date that is found is later than today. -/
theorem nextDate_later {recurrence : Recurrence} {today date : Date}
    (h : nextDate recurrence today = .ok (some date)) : today < date := by
  have hfinds {dates : Set Date} (hdates : ∀ other ∈ dates, today < other)
      (hsearch : Finds dates (nextDate recurrence today)) : today < date := by
    obtain ⟨found, hfound, hleast⟩ | ⟨herror, -⟩ := hsearch
    · rw [h] at hfound
      cases hfound
      exact hdates _ hleast.1
    · rw [h] at herror
      cases herror
  cases recurrence with
  | manual => cases h
  | fixedDate fixed =>
    rw [nextDate] at h
    split_ifs at h with hbefore
    · cases h
      exact Date.before_iff.mp hbefore
    · cases h
  | monthly day => exact hfinds (fun _ hother => hother.2) (nextDate_monthly day today)
  | yearly day month => exact hfinds (fun _ hother => hother.2) (nextDate_yearly day month today)
  | intervalDays every anchor =>
    exact hfinds (fun _ hother => hother.2) (nextDate_intervalDays every anchor today)
  | intervalMonths day every anchor =>
    exact hfinds (fun _ hother => hother.2) (nextDate_intervalMonths day every anchor today)

/-- A local date starts after every time of an earlier local date. -/
def Zone.Ordered (zone : Zone) : Prop :=
  ∀ value today date start, zone.localDate value = some today → today < date →
    zone.midnight date = some start → value < start

/-- The zones of a database are ordered. -/
def ZoneInfo.Ordered (zoneInfo : ZoneInfo) : Prop :=
  ∀ name zone, zoneInfo name = .found zone → zone.Ordered

theorem nextResetAt_later {zoneInfo : ZoneInfo} (hordered : zoneInfo.Ordered)
    {policy : ResetPolicy} {after time : Time}
    (h : nextResetAt zoneInfo policy after = .ok (some time)) : after < time := by
  unfold nextResetAt at h
  obtain ⟨zone, hzone, h⟩ := bind_eq_ok.mp h
  split_ifs at h
  · cases h
  · obtain ⟨today, htoday, h⟩ := orRaise_bind_eq_ok.mp h
    obtain ⟨next, hnext, h⟩ := bind_eq_ok.mp h
    split at h
    · cases h
    next date =>
      obtain ⟨start, hstart, h⟩ := orRaise_bind_eq_ok.mp h
      cases h
      exact hordered _ zone (found_of_zoneOf hzone) after today date time htoday
        (nextDate_later hnext) hstart

/-! ### Texts -/

theorem number?_pad (width n : Nat) : Date.number? (pad width n) = some n := by
  rw [Date.number?, if_pos (pad_isDigit width n), ofDigitChars_pad]

theorem pad_two {n : Nat} (h : n < 100) : ∃ a b, pad 2 n = [a, b] :=
  List.length_eq_two.mp (length_pad (by decide) h)

theorem pad_four {n : Nat} (h : n < 10000) : ∃ a b c d, pad 4 n = [a, b, c, d] := by
  have hlength : (pad 4 n).length = 4 := length_pad (by decide) h
  generalize pad 4 n = digits at hlength
  match digits, hlength with
  | [a, b, c, d], _ => exact ⟨a, b, c, d, rfl⟩

theorem pad_six {n : Nat} (h : n < 1000000) : ∃ a b c d e f, pad 6 n = [a, b, c, d, e, f] := by
  have hlength : (pad 6 n).length = 6 := length_pad (by decide) h
  generalize pad 6 n = digits at hlength
  match digits, hlength with
  | [a, b, c, d, e, f], _ => exact ⟨a, b, c, d, e, f, rfl⟩

/-- The date that `isoformat` writes is read back. -/
theorem fromISOFormat_pad {year month day : Nat} (hyear : year < 10000) (hmonth : month < 100)
    (hday : day < 100) :
    Date.fromISOFormat (.ofList (pad 4 year ++ '-' :: pad 2 month ++ '-' :: pad 2 day)) =
      Date.of? year month day := by
  have hy := number?_pad 4 year
  have hm := number?_pad 2 month
  have hd := number?_pad 2 day
  have hdigit := pad_isDigit 2 month
  obtain ⟨y₁, y₂, y₃, y₄, heq⟩ := pad_four hyear
  obtain ⟨m₁, m₂, heq'⟩ := pad_two hmonth
  obtain ⟨d₁, d₂, heq''⟩ := pad_two hday
  rw [heq] at hy
  rw [heq'] at hm hdigit
  rw [heq''] at hd
  rw [heq, heq', heq'']
  have hW : m₁ ≠ 'W' := by
    rintro rfl
    exact absurd hdigit (by simp)
  simp only [Date.fromISOFormat, String.toList_ofList, List.cons_append, List.nil_append]
  split
  case h_7 hcalendar _ => exact (hcalendar _ _ _ _ _ _ _ _ rfl).elim
  all_goals simp_all

/-- The time that `isoformat` writes is read back. -/
theorem datetimeFromISOFormat_isoformat {value : Time} (h : Representable value) :
    datetimeFromISOFormat (isoformat value) = some value := by
  have hordinal := ordinal_of_representable h
  have hofDay := ofDay_lt value
  have hvalid := ymd_valid hordinal
  have hdate : Date.of? _ _ _ = some ⟨_, _, _, hvalid⟩ := dif_pos hvalid
  have hsame : Date.ordinal ⟨_, _, _, hvalid⟩ =
    (value / seconds 86400 + epochOrdinal).toNat := Date.ordinal_ymd hordinal.1
  have hvalue : seconds (86400 * (((value / seconds 86400 + epochOrdinal).toNat : Int) -
      epochOrdinal)) + ((value % seconds 86400).toNat : Int) = value := by
    unfold seconds epochOrdinal
    unfold Representable seconds at h
    unfold Time at *
    omega
  rw [← hsame] at hvalue
  generalize hdate' : (⟨_, _, _, hvalid⟩ : Date) = date at *
  have hyear : (Date.ymd (value / seconds 86400 + epochOrdinal).toNat).1 < 10000 := by omega
  have hmonth : (Date.ymd (value / seconds 86400 + epochOrdinal).toNat).2.1 < 100 := by omega
  have hday : (Date.ymd (value / seconds 86400 + epochOrdinal).toNat).2.2 < 100 :=
    lt_of_le_of_lt hvalid.2.2.2 (daysIn_lt _ _)
  unfold isoformat datetimeFromISOFormat
  generalize Date.ymd (value / seconds 86400 + epochOrdinal).toNat = ymd at *
  obtain ⟨year, month, day⟩ := ymd
  generalize (value % seconds 86400).toNat = ofDay at *
  dsimp only at *
  have htext := fromISOFormat_pad hyear hmonth hday
  rw [hdate] at htext
  have hhour := number?_pad 2 (ofDay / 1000000 / 3600)
  have hminute := number?_pad 2 (ofDay / 1000000 / 60 % 60)
  have hsecond := number?_pad 2 (ofDay / 1000000 % 60)
  have hmicros := number?_pad 6 (ofDay % 1000000)
  obtain ⟨y₁, y₂, y₃, y₄, heq⟩ := pad_four hyear
  obtain ⟨mo₁, mo₂, heqMonth⟩ := pad_two hmonth
  obtain ⟨d₁, d₂, heqDay⟩ := pad_two hday
  obtain ⟨h₁, h₂, heqHour⟩ := @pad_two (ofDay / 1000000 / 3600) (by omega)
  obtain ⟨m₁, m₂, heqMinute⟩ := @pad_two (ofDay / 1000000 / 60 % 60) (by omega)
  obtain ⟨s₁, s₂, heqSecond⟩ := @pad_two (ofDay / 1000000 % 60) (by omega)
  obtain ⟨f₁, f₂, f₃, f₄, f₅, f₆, heqMicros⟩ := @pad_six (ofDay % 1000000) (by omega)
  rw [heq, heqMonth, heqDay] at htext
  rw [heqHour] at hhour
  rw [heqMinute] at hminute
  rw [heqSecond] at hsecond
  rw [heqMicros] at hmicros
  rw [heq, heqMonth, heqDay, heqHour, heqMinute, heqSecond, heqMicros]
  simp only [String.toList_ofList, List.cons_append, List.nil_append, List.take_succ_cons,
    List.take_zero, List.drop_succ_cons, List.drop_zero]
  simp only [List.cons_append, List.nil_append] at htext
  rw [htext]
  simp only [Option.bind_eq_bind, Option.bind_some]
  by_cases hfraction : ofDay % 1000000 = 0
  · rw [if_pos hfraction]
    simp only [hhour, hminute, hsecond, Option.map_some, Option.bind_some, List.nil_append,
      Option.some.injEq]
    unfold seconds at *
    unfold Time at *
    omega
  · rw [if_neg hfraction]
    simp only [hhour, hminute, hsecond, hmicros, Option.map_some, Option.bind_some,
      List.cons_append, List.nil_append, Option.some.injEq]
    unfold seconds at *
    unfold Time at *
    omega

end VpsGuardian.PortPolicies
