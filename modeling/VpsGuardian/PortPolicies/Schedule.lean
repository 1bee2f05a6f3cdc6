import VpsGuardian.Controller.Tasking
import VpsGuardian.NetHelper.Types

/-!
Reset schedules of port traffic policies (`validate_reset_policy`, `next_reset_at`).

A schedule names a time zone and a recurrence of local dates; a reset is due at
the start of such a date. The time zone database is a parameter.
-/

namespace VpsGuardian.PortPolicies

open Lib
open Controller (Time seconds)
open NetHelper (isLeapYear daysIn)

/-! ### Dates -/

structure Date where
  year : Nat
  month : Nat
  day : Nat
  valid : (1 ≤ year ∧ year ≤ 9999) ∧ (1 ≤ month ∧ month ≤ 12) ∧ 1 ≤ day ∧ day ≤ daysIn month year
  deriving DecidableEq

namespace Date

/-- `date(year, month, day)`, unless it raises. -/
def of? (year month day : Nat) : Option Date :=
  if h : (1 ≤ year ∧ year ≤ 9999) ∧ (1 ≤ month ∧ month ≤ 12) ∧ 1 ≤ day ∧ day ≤ daysIn month year
  then some ⟨year, month, day, h⟩ else none

def daysBeforeYear (year : Nat) : Nat :=
  (year - 1) * 365 + (year - 1) / 4 - (year - 1) / 100 + (year - 1) / 400

def daysBeforeMonth (month year : Nat) : Nat :=
  ((List.range (month - 1)).map fun earlier => daysIn (earlier + 1) year).sum

/-- `date.toordinal()` -/
def ordinal (date : Date) : Nat :=
  daysBeforeYear date.year + daysBeforeMonth date.month date.year + date.day

/-- The month and the day of a month in which so many days of the year have
passed, from a month on with so many months after it. -/
def splitMonth (year : Nat) : Nat → Nat → Nat → Nat × Nat
  | 0, month, passed => (month, passed + 1)
  | later + 1, month, passed =>
      if passed < daysIn month year then (month, passed + 1)
      else splitMonth year later (month + 1) (passed - daysIn month year)

/-- The year, the month and the day of an ordinal. -/
def ymd (ordinal : Nat) : Nat × Nat × Nat :=
  let passed := (ordinal - 1) % 146097
  let century := min (passed / 36524) 3
  let inCentury := passed - 36524 * century
  let inCycle := inCentury % 1461
  let yearOfCycle := min (inCycle / 365) 3
  let year := 400 * ((ordinal - 1) / 146097) + 100 * century + 4 * (inCentury / 1461) +
    yearOfCycle + 1
  (year, splitMonth year 11 1 (inCycle - 365 * yearOfCycle))

/-- `date.fromordinal(ordinal)`, unless it raises. -/
def fromOrdinal (ordinal : Int) : Option Date :=
  if ordinal < 1 then none
  else
    let (year, month, day) := ymd ordinal.toNat
    of? year month day

/-- `date + timedelta(days=days)`, unless it raises. -/
def addDays (date : Date) (days : Int) : Option Date := fromOrdinal (date.ordinal + days)

/-- Lexicographic, as dates compare. -/
def before (a b : Date) : Bool :=
  a.year < b.year ∨ (a.year = b.year ∧ (a.month < b.month ∨ (a.month = b.month ∧ a.day < b.day)))

/-- The Monday of the first week of an ISO year. -/
def isoWeek1Monday (year : Nat) : Int :=
  let firstDay : Int := daysBeforeYear year + 1
  let firstWeekday := (firstDay + 6) % 7
  let monday := firstDay - firstWeekday
  if 3 < firstWeekday then monday + 7 else monday

def fromISOCalendar (year week day : Nat) : Option Date :=
  let firstWeekday := (daysBeforeYear year + 1) % 7
  let weeks := if firstWeekday = 4 ∨ (firstWeekday = 3 ∧ isLeapYear year) then 53 else 52
  if (1 ≤ year ∧ year ≤ 9999) ∧ (1 ≤ week ∧ week ≤ weeks) ∧ 1 ≤ day ∧ day ≤ 7 then
    fromOrdinal (isoWeek1Monday year + (week - 1) * 7 + (day - 1))
  else none

def number? (digits : List Char) : Option Nat :=
  if digits.all Char.isDigit then some (Nat.ofDigitChars 10 digits 0) else none

/-- `date.fromisoformat(text)`, unless it raises: a calendar date or a week date,
in the extended or in the basic format. -/
def fromISOFormat (text : String) : Option Date :=
  let calendar (y m d : List Char) := do of? (← number? y) (← number? m) (← number? d)
  let week (y w d : List Char) := do fromISOCalendar (← number? y) (← number? w) (← number? d)
  match text.toList with
  | [y₁, y₂, y₃, y₄, '-', 'W', w₁, w₂, '-', d] => week [y₁, y₂, y₃, y₄] [w₁, w₂] [d]
  | [y₁, y₂, y₃, y₄, '-', 'W', w₁, w₂] => week [y₁, y₂, y₃, y₄] [w₁, w₂] ['1']
  | [y₁, y₂, y₃, y₄, 'W', w₁, w₂, d] => week [y₁, y₂, y₃, y₄] [w₁, w₂] [d]
  | [y₁, y₂, y₃, y₄, 'W', w₁, w₂] => week [y₁, y₂, y₃, y₄] [w₁, w₂] ['1']
  | [y₁, y₂, y₃, y₄, '-', m₁, m₂, '-', d₁, d₂] => calendar [y₁, y₂, y₃, y₄] [m₁, m₂] [d₁, d₂]
  | [y₁, y₂, y₃, y₄, m₁, m₂, d₁, d₂] => calendar [y₁, y₂, y₃, y₄] [m₁, m₂] [d₁, d₂]
  | _ => none

end Date

/-- A number as decimal digits, at least so many. -/
def pad (width n : Nat) : List Char :=
  let digits := Nat.toDigits 10 n
  List.replicate (width - digits.length) '0' ++ digits

def Date.isoformat (date : Date) : String :=
  .ofList (pad 4 date.year ++ '-' :: pad 2 date.month ++ '-' :: pad 2 date.day)

/-- The days between the first of January of the year one, which is the day 1, and the epoch. -/
def epochOrdinal : Int := 719163

/-- `datetime.isoformat()` of a time in UTC. -/
def isoformat (value : Time) : String :=
  let (year, month, day) := Date.ymd (value / seconds 86400 + epochOrdinal).toNat
  let ofDay := (value % seconds 86400).toNat
  let second := ofDay / 1000000
  let fraction := if ofDay % 1000000 = 0 then [] else '.' :: pad 6 (ofDay % 1000000)
  .ofList (pad 4 year ++ '-' :: pad 2 month ++ '-' :: pad 2 day ++
    'T' :: pad 2 (second / 3600) ++ ':' :: pad 2 (second / 60 % 60) ++ ':' :: pad 2 (second % 60) ++
    fraction ++ ['+', '0', '0', ':', '0', '0'])

/-! ### Time zones -/

/-- The offsets of a zone from UTC. -/
structure Zone where
  atInstant : Time → Time
  /-- at the start of a local date, the earlier one if it is repeated -/
  atMidnight : Date → Time

inductive ZoneLookup
  | found (zone : Zone)
  /-- `ZoneInfoNotFoundError` -/
  | notFound
  /-- Another error, for a name that is no key. -/
  | malformed

/-- `ZoneInfo`; a key of the database has no characters beyond ASCII. -/
abbrev ZoneInfo := String → ZoneLookup

/-- `value.astimezone(zone).date()`, unless it raises. -/
def Zone.localDate (zone : Zone) (value : Time) : Option Date :=
  Date.fromOrdinal ((value + zone.atInstant value) / seconds 86400 + epochOrdinal)

/-- `datetime.combine(date, time.min, zone).astimezone(UTC)`, unless it raises. -/
def Zone.midnight (zone : Zone) (date : Date) : Option Time :=
  let value := (date.ordinal - epochOrdinal) * seconds 86400 - zone.atMidnight date
  if seconds (-62135596800) ≤ value ∧ value < seconds 253402300800 then some value else none

/-! ### Reset policies -/

/-- An integer from 1 to a bound; `true` is an integer too. -/
structure Count (maximum : Nat) where
  value : Nat
  bool : Bool
  bounds : 1 ≤ value ∧ value ≤ maximum
  one : bool = true → value = 1
  deriving DecidableEq

inductive Recurrence
  | manual
  | monthly (day : Count 31)
  | intervalDays (every : Count 366) (anchorDate : Date)
  | intervalMonths (day : Count 31) (every : Count 120) (anchorDate : Date)
  | yearly (day : Count 31) (month : Count 12)
  | fixedDate (date : Date)
  deriving DecidableEq

/-- A dictionary that `validate_reset_policy` returns. -/
structure ResetPolicy where
  timezone : String
  recurrence : Recurrence
  deriving DecidableEq

def Count.json {maximum : Nat} (count : Count maximum) : Json.Value :=
  if count.bool then .bool true else .int count.value

/-- The members of the dictionary in the order of their names. -/
def ResetPolicy.members (policy : ResetPolicy) : List (String × Json.Value) :=
  let zone := ("timezone", Json.Value.string policy.timezone)
  match policy.recurrence with
  | .manual => [zone, ("type", .string "manual")]
  | .monthly day => [("day", day.json), zone, ("type", .string "monthly")]
  | .intervalDays every anchorDate =>
      [("anchor_date", .string anchorDate.isoformat), ("every", every.json), zone,
        ("type", .string "interval_days")]
  | .intervalMonths day every anchorDate =>
      [("anchor_date", .string anchorDate.isoformat), ("day", day.json), ("every", every.json),
        zone, ("type", .string "interval_months")]
  | .yearly day month =>
      [("day", day.json), ("month", month.json), zone, ("type", .string "yearly")]
  | .fixedDate date => [("date", .string date.isoformat), zone, ("type", .string "fixed_date")]

/-- `json.dumps(policy, separators=(",", ":"), sort_keys=True)` -/
def ResetPolicy.dumps (policy : ResetPolicy) : String :=
  .ofList (Json.render Json.pythonEscape (.object policy.members))

/-- What dictionaries are compared by: `true` equals 1. -/
def Recurrence.values : Recurrence → List Nat × List Date × String
  | .manual => ([], [], "manual")
  | .monthly day => ([day.value], [], "monthly")
  | .intervalDays every anchorDate => ([every.value], [anchorDate], "interval_days")
  | .intervalMonths day every anchorDate =>
      ([day.value, every.value], [anchorDate], "interval_months")
  | .yearly day month => ([day.value, month.value], [], "yearly")
  | .fixedDate date => ([], [date], "fixed_date")

def ResetPolicy.equals (a b : ResetPolicy) : Bool :=
  a.timezone = b.timezone ∧ a.recurrence.values = b.recurrence.values

/-- A value in a dictionary of a request, as far as the checks tell values apart. -/
inductive Field
  | string (s : String)
  | int (n : Int)
  | bool (b : Bool)
  /-- A float or `None`. -/
  | other
  /-- A list or a dictionary, which cannot be looked up in a set. -/
  | unhashable
  deriving DecidableEq

/-- A `PortTrafficError`, or an exception that is none. -/
inductive ScheduleError
  | portTraffic (detail : String)
  | unexpected
  deriving DecidableEq

def allowedFields : List String :=
  ["type", "timezone", "day", "month", "every", "anchor_date", "date"]

/-- An integer field between 1 and a bound. -/
def countField (value : Dict Field) (key : String) (maximum : Nat) (detail : String) :
    Except ScheduleError (Count maximum) :=
  match value.get? key with
  | some (.int n) =>
      if h : 1 ≤ n.toNat ∧ n.toNat ≤ maximum then
        .ok ⟨n.toNat, false, h, fun hbool => absurd hbool Bool.false_ne_true⟩
      else .error (.portTraffic detail)
  | some (.bool true) =>
      if h : 1 ≤ 1 ∧ 1 ≤ maximum then .ok ⟨1, true, h, fun _ => rfl⟩
      else .error (.portTraffic detail)
  | _ => .error (.portTraffic detail)

/-- `_valid_date` -/
def dateField (value : Dict Field) (key : String) : Except ScheduleError Date :=
  match value.get? key with
  | some (.string text) =>
      orRaise (Date.fromISOFormat text) (.portTraffic (key ++ " must be an ISO date"))
  | _ => .error (.portTraffic (key ++ " must be an ISO date"))

/-- The zone of a name, as validation and `next_reset_at` look it up. -/
def zoneOf (zoneInfo : ZoneInfo) (name : String) : Except ScheduleError Zone :=
  match zoneInfo name with
  | .found zone => .ok zone
  | .notFound => .error (.portTraffic "reset timezone is unknown")
  | .malformed => .error .unexpected

def timezoneName (value : Dict Field) : Except ScheduleError String :=
  match value.get? "timezone" with
  | none => .ok "UTC"
  | some (.string name) => .ok name
  | some _ => .error (.portTraffic "reset timezone is invalid")

/-- The zone a schedule names. -/
def timezoneField (zoneInfo : ZoneInfo) (value : Dict Field) : Except ScheduleError String := do
  let name ← timezoneName value
  raiseIf (64 < name.length) (.portTraffic "reset timezone is invalid")
  let _ ← zoneOf zoneInfo name
  return name

def dayField (value : Dict Field) : Except ScheduleError (Count 31) :=
  countField value "day" 31 "reset day must be between 1 and 31"

def everyField (value : Dict Field) (maximum : Nat) : Except ScheduleError (Count maximum) :=
  countField value "every" maximum "reset interval is outside the supported range"

def recurrenceField (value : Dict Field) : String → Except ScheduleError Recurrence
  | "monthly" => return .monthly (← dayField value)
  | "interval_days" =>
      return .intervalDays (← everyField value 366) (← dateField value "anchor_date")
  | "interval_months" =>
      return .intervalMonths (← dayField value) (← everyField value 120)
        (← dateField value "anchor_date")
  | "yearly" =>
      return .yearly (← dayField value)
        (← countField value "month" 12 "reset month must be between 1 and 12")
  | "fixed_date" => return .fixedDate (← dateField value "date")
  | _ => .ok .manual

def policyTypes : List String :=
  ["manual", "monthly", "interval_days", "interval_months", "yearly", "fixed_date"]

def validateResetPolicy (zoneInfo : ZoneInfo) (value : Dict Field) :
    Except ScheduleError ResetPolicy := do
  if value.size = 0 then return ⟨"UTC", .manual⟩
  raiseIf (¬ value.keys.all (· ∈ allowedFields))
    (.portTraffic "reset policy contains unsupported fields")
  raiseIf (value.get? "type" = some .unhashable) .unexpected
  let policyType := match value.get? "type" with
    | none => "manual"
    | some (.string name) => name
    | some _ => ""
  raiseIf (policyType ∉ policyTypes) (.portTraffic "reset policy type is unsupported")
  let timezone ← timezoneField zoneInfo value
  return ⟨timezone, ← recurrenceField value policyType⟩

/-! ### The next reset -/

/-- `_clamp`, unless it raises. -/
def clamp (year month day : Nat) : Option Date := Date.of? year month (min day (daysIn month year))

/-- The months since the year zero. -/
def Date.monthIndex (date : Date) : Nat := date.year * 12 + date.month - 1

/-- `_add_months`, unless it raises. -/
def addMonths (date : Date) (months day : Nat) : Option Date :=
  let index := date.monthIndex + months
  clamp (index / 12) (index % 12 + 1) day

theorem Date.of?_eq_some {year month day : Nat} {date : Date} :
    Date.of? year month day = some date ↔
      date.year = year ∧ date.month = month ∧ date.day = day := by
  unfold Date.of?
  constructor
  · intro h
    split at h
    · cases h
      exact ⟨rfl, rfl, rfl⟩
    · cases h
  · rintro ⟨rfl, rfl, rfl⟩
    rw [dif_pos date.valid]

theorem monthIndex_addMonths {date next : Date} {months day : Nat}
    (h : addMonths date months day = some next) :
    next.monthIndex = date.monthIndex + months ∧ next.year ≤ 9999 := by
  obtain ⟨hyear, hmonth, -⟩ := Date.of?_eq_some.mp h
  refine ⟨?_, next.valid.1.2⟩
  unfold Date.monthIndex at *
  omega

/-- Adds months to a date until it is later than another one. -/
def laterMonth (every : Count 120) (day : Nat) (today candidate : Date) : Option Date :=
  if today.before candidate then some candidate
  else
    match _h : addMonths candidate every.value day with
    | none => none
    | some next => laterMonth every day today next
termination_by 120000 - candidate.monthIndex
decreasing_by
  obtain ⟨hindex, hyear⟩ := monthIndex_addMonths _h
  have hevery := every.bounds.1
  have hmonth := next.valid.2.1.2
  have : next.monthIndex < 120000 := by
    unfold Date.monthIndex
    omega
  omega

/-- The next date of a recurrence after a given one; an error is an exception. -/
def nextDate (recurrence : Recurrence) (today : Date) : Except ScheduleError (Option Date) :=
  let raising (candidate : Option Date) := (orRaise candidate .unexpected).map some
  match recurrence with
  | .manual => .ok none
  | .monthly day =>
      match clamp today.year today.month day.value with
      | some candidate =>
          if today.before candidate then .ok (some candidate)
          else raising (addMonths candidate 1 day.value)
      | none => .error .unexpected
  | .yearly day month =>
      match clamp today.year month.value day.value with
      | some candidate =>
          if today.before candidate then .ok (some candidate)
          else raising (clamp (today.year + 1) month.value day.value)
      | none => .error .unexpected
  | .fixedDate date => .ok (if today.before date then some date else none)
  | .intervalDays every anchorDate =>
      if today.before anchorDate then .ok (some anchorDate)
      else
        let elapsed : Int := today.ordinal - anchorDate.ordinal
        raising (anchorDate.addDays ((elapsed / every.value + 1) * every.value))
  | .intervalMonths day every anchorDate => raising (laterMonth every day.value today anchorDate)

def nextResetAt (zoneInfo : ZoneInfo) (policy : ResetPolicy) (after : Time) :
    Except ScheduleError (Option Time) := do
  let zone ← zoneOf zoneInfo policy.timezone
  if policy.recurrence = .manual then return none
  let today ← orRaise (zone.localDate after) .unexpected
  match ← nextDate policy.recurrence today with
  | none => return none
  | some date => return some (← orRaise (zone.midnight date) .unexpected)

end VpsGuardian.PortPolicies
