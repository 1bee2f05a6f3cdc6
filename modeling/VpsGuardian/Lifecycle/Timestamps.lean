import VpsGuardian.Lib.Text

/-!
Timestamps of the lifecycle journal: `datetime` values in UTC and the one text
form the journal accepts for them.
-/

namespace VpsGuardian.Lifecycle

open Lib

def isLeap (year : Nat) : Bool := year % 4 == 0 && (year % 100 != 0 || year % 400 == 0)

def daysInMonth (year month : Nat) : Nat :=
  if month = 2 then if isLeap year then 29 else 28
  else if month = 4 ∨ month = 6 ∨ month = 9 ∨ month = 11 then 30
  else 31

/-- The fields that `datetime` accepts. -/
def IsDateTime (year month day hour minute second microsecond : Nat) : Prop :=
  (1 ≤ year ∧ year ≤ 9999) ∧ (1 ≤ month ∧ month ≤ 12) ∧ (1 ≤ day ∧ day ≤ daysInMonth year month) ∧
    hour < 24 ∧ minute < 60 ∧ second < 60 ∧ microsecond < 1000000

instance (year month day hour minute second microsecond : Nat) :
    Decidable (IsDateTime year month day hour minute second microsecond) :=
  inferInstanceAs (Decidable ((1 ≤ year ∧ year ≤ 9999) ∧ (1 ≤ month ∧ month ≤ 12) ∧
    (1 ≤ day ∧ day ≤ daysInMonth year month) ∧ hour < 24 ∧ minute < 60 ∧ second < 60 ∧
    microsecond < 1000000))

/-- A `datetime` in UTC. -/
structure DateTime where
  year : Nat
  month : Nat
  day : Nat
  hour : Nat
  minute : Nat
  second : Nat
  microsecond : Nat
  valid : IsDateTime year month day hour minute second microsecond
  deriving DecidableEq, Repr

namespace DateTime

def make? (year month day hour minute second microsecond : Nat) : Option DateTime :=
  if h : IsDateTime year month day hour minute second microsecond then
    some ⟨year, month, day, hour, minute, second, microsecond, h⟩
  else none

/-- Microseconds since midnight. -/
def time (t : DateTime) : Nat :=
  ((t.hour * 60 + t.minute) * 60 + t.second) * 1000000 + t.microsecond

/-- Two times of one zone are compared field by field, from the year down. -/
def rank (t : DateTime) : Nat :=
  ((t.year * 13 + t.month) * 32 + t.day) * 86400000000 + t.time

instance : LE DateTime := ⟨fun a b => a.rank ≤ b.rank⟩

instance : LT DateTime := ⟨fun a b => a.rank < b.rank⟩

instance (a b : DateTime) : Decidable (a ≤ b) := inferInstanceAs (Decidable (a.rank ≤ b.rank))

instance (a b : DateTime) : Decidable (a < b) := inferInstanceAs (Decidable (a.rank < b.rank))

/-- Year, month and day of the following day. -/
def nextDay (year month day : Nat) : Nat × Nat × Nat :=
  if day < daysInMonth year month then (year, month, day + 1)
  else if month < 12 then (year, month + 1, 1)
  else (year + 1, 1, 1)

/-- `t + timedelta(microseconds=1)`; there is nothing after the year 9999. -/
def addMicrosecond (t : DateTime) : Option DateTime :=
  let total := t.time + 1
  let date := if total < 86400000000 then (t.year, t.month, t.day)
    else nextDay t.year t.month t.day
  make? date.1 date.2.1 date.2.2 (total / 3600000000 % 24) (total / 60000000 % 60)
    (total / 1000000 % 60) (total % 1000000)

end DateTime

/-! ### Texts -/

def digit (d : Nat) : CodePoint := Fin.ofNat 0x110000 (48 + d % 10)

/-- The last `width` decimal digits of a number. -/
def digits : Nat → Nat → Text
  | 0, _ => []
  | width + 1, n => digit (n / 10 ^ width) :: digits width n

/-- `isoformat(timespec="microseconds")`, with `Z` for the offset. -/
def isoformat (t : DateTime) : Text :=
  digits 4 t.year ++ Text.ofChar '-' :: (digits 2 t.month ++ Text.ofChar '-' ::
    (digits 2 t.day ++ Text.ofChar 'T' :: (digits 2 t.hour ++ Text.ofChar ':' ::
      (digits 2 t.minute ++ Text.ofChar ':' :: (digits 2 t.second ++ Text.ofChar '.' ::
        (digits 6 t.microsecond ++ [Text.ofChar 'Z']))))))

/-- The number that some digits make behind those already read, and the text after them. -/
def takeDigits : Nat → Nat → Text → Option (Nat × Text)
  | 0, value, text => some (value, text)
  | _ + 1, _, [] => none
  | width + 1, value, c :: text =>
      if 48 ≤ c.val ∧ c.val ≤ 57 then takeDigits width (value * 10 + (c.val - 48)) text else none

def takeChar (c : Char) : Text → Option Text
  | [] => none
  | d :: text => if d = Text.ofChar c then some text else none

/-- `TIMESTAMP_PATTERN` and `datetime.fromisoformat` -/
def scanTimestamp (text : Text) : Option DateTime := do
  let (year, text) ← takeDigits 4 0 text
  let text ← takeChar '-' text
  let (month, text) ← takeDigits 2 0 text
  let text ← takeChar '-' text
  let (day, text) ← takeDigits 2 0 text
  let text ← takeChar 'T' text
  let (hour, text) ← takeDigits 2 0 text
  let text ← takeChar ':' text
  let (minute, text) ← takeDigits 2 0 text
  let text ← takeChar ':' text
  let (second, text) ← takeDigits 2 0 text
  let text ← takeChar '.' text
  let (microsecond, text) ← takeDigits 6 0 text
  let text ← takeChar 'Z' text
  if text = [] then DateTime.make? year month day hour minute second microsecond else none

/-! ### The next instant -/

namespace DateTime

theorem make?_eq_some {year month day hour minute second microsecond : Nat} {t : DateTime}
    (h : make? year month day hour minute second microsecond = some t) :
    t.year = year ∧ t.month = month ∧ t.day = day ∧ t.hour = hour ∧ t.minute = minute ∧
      t.second = second ∧ t.microsecond = microsecond := by
  unfold make? at h
  split_ifs at h with hvalid
  obtain rfl := Option.some.inj h
  exact ⟨rfl, rfl, rfl, rfl, rfl, rfl, rfl⟩

theorem make?_fields (t : DateTime) :
    make? t.year t.month t.day t.hour t.minute t.second t.microsecond = some t :=
  dif_pos t.valid

theorem daysInMonth_le (year month : Nat) : daysInMonth year month ≤ 31 := by
  unfold daysInMonth
  split_ifs <;> omega

theorem time_lt (t : DateTime) : t.time < 86400000000 := by
  obtain ⟨-, -, -, hhour, hminute, hsecond, hmicrosecond⟩ := t.valid
  unfold time
  omega

theorem nextDay_gt (year month day : Nat) (hmonth : month ≤ 12) (hday : day ≤ 31) :
    (year * 13 + month) * 32 + day <
      ((nextDay year month day).1 * 13 + (nextDay year month day).2.1) * 32 +
        (nextDay year month day).2.2 := by
  unfold nextDay
  split_ifs
  · show _ < (year * 13 + month) * 32 + (day + 1)
    omega
  · show _ < (year * 13 + (month + 1)) * 32 + 1
    omega
  · show _ < ((year + 1) * 13 + 1) * 32 + 1
    omega

theorem lt_addMicrosecond {t u : DateTime} (h : t.addMicrosecond = some u) : t < u := by
  have htime := t.time_lt
  obtain ⟨-, ⟨-, hmonth⟩, ⟨-, hday⟩, -⟩ := t.valid
  have hday' := hday.trans (daysInMonth_le t.year t.month)
  obtain ⟨hyear, hmonth', hday'', hhour, hminute, hsecond, hmicrosecond⟩ := make?_eq_some h
  show t.rank < u.rank
  by_cases hsame : t.time + 1 < 86400000000
  · -- the date stays, and the time of day is one microsecond later
    have hu : u.time = t.time + 1 := by
      unfold time at hsame ⊢
      rw [hhour, hminute, hsecond, hmicrosecond]
      unfold time
      omega
    rw [if_pos hsame] at hyear hmonth' hday''
    rw [rank, rank, hyear, hmonth', hday'', hu]
    dsimp only
    omega
  · have hnext := nextDay_gt t.year t.month t.day hmonth hday'
    rw [if_neg hsame] at hyear hmonth' hday''
    rw [rank, rank, hyear, hmonth', hday'']
    omega

end DateTime

/-! ### Reading back what was written -/

theorem takeDigits_digits (width value n : Nat) (rest : Text) :
    takeDigits width value (digits width n ++ rest) =
      some (value * 10 ^ width + n % 10 ^ width, rest) := by
  induction width generalizing value with
  | zero => simp [takeDigits, digits, Nat.mod_one]
  | succ width ih =>
    have hdigit : (digit (n / 10 ^ width)).val = 48 + n / 10 ^ width % 10 := by
      have hlt : n / 10 ^ width % 10 < 10 := Nat.mod_lt _ (by decide)
      exact Nat.mod_eq_of_lt (by omega)
    have hlt : n / 10 ^ width % 10 < 10 := Nat.mod_lt _ (by decide)
    rw [digits, List.cons_append, takeDigits, if_pos (by omega), ih, hdigit, Nat.mod_pow_succ,
      Nat.pow_succ]
    congr 2
    rw [Nat.add_sub_cancel_left]
    ring

theorem takeDigits_of_lt {width n : Nat} (h : n < 10 ^ width) (rest : Text) :
    takeDigits width 0 (digits width n ++ rest) = some (n, rest) := by
  rw [takeDigits_digits, Nat.zero_mul, Nat.zero_add, Nat.mod_eq_of_lt h]

theorem takeChar_ofChar (c : Char) (rest : Text) :
    takeChar c (Text.ofChar c :: rest) = some rest := if_pos rfl

theorem scanTimestamp_isoformat (t : DateTime) : scanTimestamp (isoformat t) = some t := by
  obtain ⟨⟨-, hyear⟩, ⟨-, hmonth⟩, ⟨-, hday⟩, hhour, hminute, hsecond, hmicrosecond⟩ := t.valid
  have hday' := hday.trans (DateTime.daysInMonth_le t.year t.month)
  have hfields := t.make?_fields
  simp only [scanTimestamp, isoformat, takeDigits_of_lt (show t.year < 10 ^ 4 by omega),
    takeDigits_of_lt (show t.month < 10 ^ 2 by omega),
    takeDigits_of_lt (show t.day < 10 ^ 2 by omega),
    takeDigits_of_lt (show t.hour < 10 ^ 2 by omega),
    takeDigits_of_lt (show t.minute < 10 ^ 2 by omega),
    takeDigits_of_lt (show t.second < 10 ^ 2 by omega),
    takeDigits_of_lt (show t.microsecond < 10 ^ 6 by omega), takeChar_ofChar,
    Option.bind_eq_bind, Option.bind_some, if_true, hfields]

end VpsGuardian.Lifecycle
