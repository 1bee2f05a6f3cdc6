import VpsGuardian.Lib.JsonRoundTrip
import VpsGuardian.PortPolicies.Reconciliation

/-!
The texts of task parameters, as the helper reads them.

Numbers and times are read back, and a schedule is a JSON object of bounded size.
-/

namespace VpsGuardian.PortPolicies

open Lib
open Controller (Time seconds hexDigits128 uuid4)
open NetHelper (isLeapYear daysIn fixedNumber isHexDigit matchesPattern policyIDPattern)

/-! ### Numbers -/

theorem toList_toString (n : Nat) : (toString n).toList = Nat.toDigits 10 n := by
  simp

/-- A decimal text starts with a digit and has no other characters. -/
theorem toDigits_cases (n : Nat) : ∃ d digits, Nat.toDigits 10 n = d :: digits ∧ d ≠ '-' ∧
    d ≠ '+' ∧ (d :: digits).all Char.isDigit = true := by
  obtain ⟨d, digits, hdigits, hd⟩ := Json.toDigits_eq_cons n
  refine ⟨d, digits, hdigits, ?_, ?_, ?_⟩
  · rintro rfl
    revert hd
    decide
  · rintro rfl
    revert hd
    decide
  · rw [← hdigits, List.all_eq_true]
    exact Json.toDigits_isDigit n

theorem strconvParseInt_toString {n : Nat} (h : n < 2 ^ 63) :
    NetHelper.strconvParseInt (toString n) = some (n : Int) := by
  obtain ⟨d, digits, hdigits, hminus, hplus, hall⟩ := toDigits_cases n
  have hvalue : Nat.ofDigitChars 10 (d :: digits) 0 = n := by
    rw [← hdigits]
    exact Nat.ofDigitChars_ten_toDigits
  have hrange : n < 9223372036854775808 := h
  unfold NetHelper.strconvParseInt
  rw [toList_toString, hdigits]
  simp [hminus, hplus, hall, hvalue, hrange]

theorem parseInt_toString {n : Nat} (h : n < 2 ^ 63) (name : String) (minimum maximum : Int) :
    NetHelper.parseInt (toString n) name minimum maximum =
      if (n : Int) < minimum ∨ maximum < n then
        .error (name ++ " is outside the permitted range")
      else .ok (n : Int) := by
  rw [NetHelper.parseInt, strconvParseInt_toString h]

theorem pythonInt?_toString (n : Nat) : pythonInt? (toString n) = some (n : Int) := by
  obtain ⟨d, digits, hdigits, hminus, -, hall⟩ := toDigits_cases n
  have hvalue : Nat.ofDigitChars 10 (d :: digits) 0 = n := by
    rw [← hdigits]
    exact Nat.ofDigitChars_ten_toDigits
  unfold pythonInt?
  rw [toList_toString, hdigits]
  simp [hminus, hall, hvalue]

/-! ### Dates -/

theorem splitMonth_valid (year : Nat) : ∀ (later month passed : Nat), 1 ≤ month →
    month + later = 12 →
    passed < ((List.range' month (later + 1)).map fun m => daysIn m year).sum →
    1 ≤ (Date.splitMonth year later month passed).1 ∧
      (Date.splitMonth year later month passed).1 ≤ 12 ∧
      1 ≤ (Date.splitMonth year later month passed).2 ∧
      (Date.splitMonth year later month passed).2 ≤
        daysIn (Date.splitMonth year later month passed).1 year
  | 0, month, passed, hmonth, hlater, hpassed => by
      simp only [Date.splitMonth]
      simp only [List.range'_one, zero_add, List.map_cons, List.map_nil, List.sum_cons,
        List.sum_nil] at hpassed
      omega
  | later + 1, month, passed, hmonth, hlater, hpassed => by
      unfold Date.splitMonth
      split
      next hin => exact ⟨hmonth, by omega, by omega, by simpa using hin⟩
      next hout =>
        refine splitMonth_valid year later (month + 1) _ (by omega) (by omega) ?_
        rw [List.range'_succ, List.map_cons, List.sum_cons] at hpassed
        omega

theorem sum_daysIn (year : Nat) :
    ((List.range' 1 12).map fun m => daysIn m year).sum = if isLeapYear year then 366 else 365 := by
  simp only [daysIn, List.range'_eq_map_range, List.range_succ]
  cases isLeapYear year <;> rfl

/-- The triple of an ordinal is a date. -/
theorem ymd_valid {ordinal : Nat} (h : 1 ≤ ordinal ∧ ordinal ≤ 3652059) :
    (1 ≤ (Date.ymd ordinal).1 ∧ (Date.ymd ordinal).1 ≤ 9999) ∧
      (1 ≤ (Date.ymd ordinal).2.1 ∧ (Date.ymd ordinal).2.1 ≤ 12) ∧
      1 ≤ (Date.ymd ordinal).2.2 ∧
      (Date.ymd ordinal).2.2 ≤ daysIn (Date.ymd ordinal).2.1 (Date.ymd ordinal).1 := by
  unfold Date.ymd
  extract_lets passed century inCentury inCycle yearOfCycle year
  have hyear : 1 ≤ year ∧ year ≤ 9999 := by omega
  have hpassed : inCycle - 365 * yearOfCycle <
      ((List.range' 1 12).map fun m => daysIn m year).sum := by
    rw [sum_daysIn]
    by_cases hleap : isLeapYear year = true
    · rw [if_pos hleap]
      omega
    · rw [if_neg hleap]
      simp only [isLeapYear, Bool.and_eq_true, Bool.or_eq_true, beq_iff_eq, bne_iff_ne,
        not_and, not_or] at hleap
      omega
  obtain ⟨h₁, h₂, h₃, h₄⟩ := splitMonth_valid year 11 1 _ le_rfl rfl hpassed
  exact ⟨hyear, ⟨h₁, h₂⟩, h₃, h₄⟩

/-! ### Times -/

theorem length_pad {width n : Nat} (hwidth : 0 < width) (h : n < 10 ^ width) :
    (pad width n).length = width := by
  have hle : (Nat.toDigits 10 n).length ≤ width :=
    (Nat.length_toDigits_le_iff (by decide) hwidth).mpr h
  rw [pad, List.length_append, List.length_replicate]
  omega

theorem pad_isDigit (width n : Nat) : (pad width n).all Char.isDigit = true := by
  rw [pad, List.all_append, List.all_replicate, List.all_eq_true.mpr (Json.toDigits_isDigit n)]
  simp

theorem ofDigitChars_pad (width n : Nat) : Nat.ofDigitChars 10 (pad width n) 0 = n := by
  rw [pad, Nat.ofDigitChars_append, Nat.ofDigitChars_replicate_zero, Nat.mul_zero]
  exact Nat.ofDigitChars_ten_toDigits

/-- A padded number is read back with so many digits. -/
theorem fixedNumber_pad {width n : Nat} (hwidth : 0 < width) (h : n < 10 ^ width)
    (rest : List Char) : fixedNumber width (pad width n ++ rest) = some (n, rest) := by
  have hlength := length_pad hwidth h
  rw [fixedNumber, List.take_left' hlength, List.drop_left' hlength, if_pos
    ⟨hlength, pad_isDigit width n⟩, ofDigitChars_pad]

/-- A fraction and the offset of UTC are a zone after a skipped fraction. -/
theorem isZone_fraction (micros : Nat) : NetHelper.isZone (NetHelper.skipFraction
    ((if micros = 0 then [] else '.' :: pad 6 micros) ++
      ['+', '0', '0', ':', '0', '0'])) = true := by
  split
  · decide
  · have hdigits := pad_isDigit 6 micros
    cases hpad : pad 6 micros with
    | nil =>
      have hlength := congrArg List.length hpad
      rw [pad, List.length_append, List.length_replicate, List.length_nil] at hlength
      omega
    | cons d digits =>
      rw [hpad, List.all_cons, Bool.and_eq_true] at hdigits
      have hdrop : ((digits ++ ['+', '0', '0', ':', '0', '0']).dropWhile Char.isDigit) =
          ['+', '0', '0', ':', '0', '0'] :=
        (Json.takeWhile_digits (List.all_eq_true.mp hdigits.2) (by simp)).2
      simp only [List.cons_append, NetHelper.skipFraction, hdigits.1, true_or, and_self, if_true,
        hdrop]
      decide

/-- A time that `datetime` can represent. -/
def Representable (value : Time) : Prop :=
  seconds (-62135596800) ≤ value ∧ value < seconds 253402300800

theorem ordinal_of_representable {value : Time} (h : Representable value) :
    1 ≤ (value / seconds 86400 + epochOrdinal).toNat ∧
      (value / seconds 86400 + epochOrdinal).toNat ≤ 3652059 := by
  unfold Representable seconds at h
  unfold seconds epochOrdinal
  unfold Time at *
  omega

theorem ofDay_lt (value : Time) : (value % seconds 86400).toNat < 86400000000 := by
  unfold seconds
  unfold Time at *
  omega

theorem daysIn_lt (month year : Nat) : daysIn month year < 100 := by
  unfold daysIn
  split_ifs <;> decide

theorem isRFC3339_isoformat {value : Time} (h : Representable value) :
    NetHelper.isRFC3339 (isoformat value) = true := by
  have hofDay := ofDay_lt value
  obtain ⟨⟨hy₁, hy₂⟩, ⟨hm₁, hm₂⟩, hd₁, hd₂⟩ := ymd_valid (ordinal_of_representable h)
  unfold isoformat
  generalize Date.ymd (value / seconds 86400 + epochOrdinal).toNat = date at *
  obtain ⟨year, month, day⟩ := date
  generalize (value % seconds 86400).toNat = ofDay at *
  dsimp only at *
  have hday : day < 100 := lt_of_le_of_lt hd₂ (daysIn_lt month year)
  have hzone := isZone_fraction (ofDay % 1000000)
  unfold NetHelper.isRFC3339
  simp only [String.toList_ofList, List.append_assoc, List.cons_append]
  have hyear (rest : List Char) : fixedNumber 4 (pad 4 year ++ rest) = some (year, rest) :=
    fixedNumber_pad (by decide) (by omega) rest
  have htwo {n : Nat} (hn : n < 100) (rest : List Char) :
      fixedNumber 2 (pad 2 n ++ rest) = some (n, rest) :=
    fixedNumber_pad (by decide) hn rest
  have hfirst (hour : Nat × List Char) (other : Option (Nat × List Char)) :
      (some hour <|> other) = some hour := rfl
  have hmonth := htwo (n := month) (by omega)
  have hday' := htwo hday
  have hhour := htwo (n := ofDay / 1000000 / 3600) (by omega)
  have hminute := htwo (n := ofDay / 1000000 / 60 % 60) (by omega)
  have hsecond := htwo (n := ofDay / 1000000 % 60) (by omega)
  simp only [Option.bind_eq_bind, Option.bind_some, NetHelper.literal, if_true, hyear, hmonth,
    hday', hhour, hfirst, hminute, hsecond, hzone, Option.getD_some, Bool.and_eq_true,
    decide_eq_true_eq, and_true]
  omega

/-! ### Sizes in bytes -/

def bytes (cs : List Char) : Nat := (cs.map Char.utf8Size).sum

@[simp] theorem bytes_nil : bytes [] = 0 := rfl

@[simp] theorem bytes_cons (c : Char) (cs : List Char) : bytes (c :: cs) = c.utf8Size + bytes cs :=
  rfl

@[simp] theorem bytes_append (cs cs' : List Char) : bytes (cs ++ cs') = bytes cs + bytes cs' := by
  simp [bytes]

theorem utf8ByteSize_ofList (cs : List Char) : (String.ofList cs).utf8ByteSize = bytes cs := by
  induction cs with
  | nil => rfl
  | cons c cs ih =>
    rw [show c :: cs = [c] ++ cs from rfl, String.ofList_append, String.utf8ByteSize_append, ih,
      bytes_append]
    simp

theorem utf8Size_of_isDigit {c : Char} (h : c.isDigit = true) : c.utf8Size = 1 := by
  simp only [Char.isDigit, Bool.and_eq_true, decide_eq_true_eq] at h
  have hle : c.val ≤ 127 := UInt32.le_trans h.2 (by decide)
  simp [Char.utf8Size, hle]

theorem bytes_of_isDigit {cs : List Char} (h : cs.all Char.isDigit = true) :
    bytes cs = cs.length := by
  induction cs with
  | nil => rfl
  | cons c cs ih =>
    rw [List.all_cons, Bool.and_eq_true] at h
    rw [bytes_cons, utf8Size_of_isDigit h.1, ih h.2, List.length_cons, Nat.add_comm]

theorem bytes_pad {width n : Nat} (hwidth : 0 < width) (h : n < 10 ^ width) :
    bytes (pad width n) = width := by
  rw [bytes_of_isDigit (pad_isDigit width n), length_pad hwidth h]

theorem isoformat_size {value : Time} (h : Representable value) :
    (isoformat value).utf8ByteSize ≤ 40 := by
  obtain ⟨⟨-, hyear⟩, ⟨-, hmonth⟩, -, hday⟩ := ymd_valid (ordinal_of_representable h)
  have hfraction (micros : Nat) (hmicros : micros < 1000000) :
      bytes (if micros = 0 then [] else '.' :: pad 6 micros) ≤ 7 := by
    split
    · decide
    · rw [bytes_cons, bytes_pad (by decide) hmicros]
      decide
  unfold isoformat
  generalize Date.ymd (value / seconds 86400 + epochOrdinal).toNat = date at *
  obtain ⟨year, month, day⟩ := date
  have hofDay := ofDay_lt value
  generalize (value % seconds 86400).toNat = ofDay at *
  dsimp only at *
  have hday' : day < 100 := lt_of_le_of_lt hday (daysIn_lt month year)
  have hlast := hfraction (ofDay % 1000000) (Nat.mod_lt _ (by decide))
  rw [utf8ByteSize_ofList]
  simp only [bytes_append, bytes_cons, bytes_nil]
  rw [@bytes_pad 4 _ (by decide) (by omega), bytes_pad (n := month) (by decide) (by omega),
    bytes_pad (n := day) (by decide) hday', bytes_pad (n := ofDay / 1000000 / 3600) (by decide)
    (by omega), bytes_pad (n := ofDay / 1000000 / 60 % 60) (by decide) (by omega),
    bytes_pad (n := ofDay / 1000000 % 60) (by decide) (by omega)]
  have hsizes : '-'.utf8Size = 1 ∧ 'T'.utf8Size = 1 ∧ ':'.utf8Size = 1 ∧ '+'.utf8Size = 1 ∧
      '0'.utf8Size = 1 := by decide
  omega

/-! ### Schedules -/

theorem utf8Size_digitChar (n : Nat) : (n % 16).digitChar.utf8Size = 1 := by
  have hall : ∀ d < 16, (Nat.digitChar d).utf8Size = 1 := by decide
  exact hall _ (Nat.mod_lt _ (by decide))

theorem bytes_escapeUnicode (u : Nat) : bytes (Json.escapeUnicode u) = 6 := by
  have hfixed : '\\'.utf8Size = 1 ∧ 'u'.utf8Size = 1 := by decide
  simp only [Json.escapeUnicode, bytes_cons, bytes_nil, utf8Size_digitChar, hfixed]

theorem bytes_pythonEscape_le (c : Char) : bytes (Json.pythonEscape c) ≤ 6 := by
  have hsize := c.utf8Size_le_four
  have hslash : '\\'.utf8Size = 1 := by decide
  have hshort (d : Char) : bytes ['\\', d] ≤ 6 := by
    have hd := d.utf8Size_le_four
    rw [bytes_cons, bytes_cons, bytes_nil, hslash]
    omega
  unfold Json.pythonEscape Json.escapeMandatory
  split_ifs
  · exact hshort _
  · exact hshort _
  · exact hshort _
  · exact hshort _
  · exact hshort _
  · exact hshort _
  · exact hshort _
  · exact (bytes_escapeUnicode c.toNat).le
  · rw [bytes_cons, bytes_nil]
    omega

theorem bytes_quote_le (s : String) :
    bytes (Json.quote Json.pythonEscape s) ≤ 2 + 6 * s.length := by
  have hflat (cs : List Char) : bytes (cs.flatMap Json.pythonEscape) ≤ 6 * cs.length := by
    induction cs with
    | nil => simp
    | cons c cs ih =>
      have hc := bytes_pythonEscape_le c
      rw [List.flatMap_cons, bytes_append, List.length_cons]
      omega
  have hquote : '"'.utf8Size = 1 := by decide
  have hs := hflat s.toList
  rw [String.length_toList] at hs
  rw [Json.quote, bytes_append, bytes_cons, bytes_cons, bytes_nil, hquote]
  omega

theorem bytes_count_le {maximum : Nat} (count : Count maximum) (h : maximum < 1000) :
    bytes (Json.render Json.pythonEscape count.json) ≤ 4 := by
  unfold Count.json
  split
  · decide
  · have hvalue : count.value < 1000 := lt_of_le_of_lt count.bounds.2 h
    have hlength : (Nat.toDigits 10 count.value).length ≤ 3 :=
      (Nat.length_toDigits_le_iff (by decide) (by decide)).mpr hvalue
    have hdigits : (Nat.toDigits 10 count.value).all Char.isDigit = true :=
      List.all_eq_true.mpr (Json.toDigits_isDigit count.value)
    simp only [Json.Value.int, Json.Number.ofInt, Json.render, Json.renderNumber,
      Json.renderSigned, Int.natAbs_natCast, if_true, List.append_nil]
    have hsign : decide ((count.value : Int) < 0) = false := by simp
    rw [hsign, bytes_append, bytes_of_isDigit hdigits]
    simp
    omega

theorem length_isoformat_date (date : Date) : date.isoformat.length = 10 := by
  obtain ⟨⟨-, hyear⟩, ⟨-, hmonth⟩, -, hday⟩ := date.valid
  have hday' : date.day < 100 := lt_of_le_of_lt hday (daysIn_lt date.month date.year)
  unfold Date.isoformat
  rw [String.length_ofList]
  simp only [List.length_append, List.length_cons]
  rw [@length_pad 4 _ (by decide) (by omega),
    length_pad (n := date.month) (by decide) (by omega),
    length_pad (n := date.day) (by decide) hday']

/-- The text of a schedule fits into the helper's limit. -/
theorem dumps_size {policy : ResetPolicy} (h : policy.timezone.length ≤ 64) :
    policy.dumps.utf8ByteSize ≤ 1024 := by
  have hzone := bytes_quote_le policy.timezone
  have hkeys : bytes (Json.quote Json.pythonEscape "timezone") = 10 ∧
      bytes (Json.quote Json.pythonEscape "type") = 6 ∧
      bytes (Json.quote Json.pythonEscape "day") = 5 ∧
      bytes (Json.quote Json.pythonEscape "month") = 7 ∧
      bytes (Json.quote Json.pythonEscape "every") = 7 ∧
      bytes (Json.quote Json.pythonEscape "date") = 6 ∧
      bytes (Json.quote Json.pythonEscape "anchor_date") = 13 := by decide
  have hnames : bytes (Json.quote Json.pythonEscape "manual") = 8 ∧
      bytes (Json.quote Json.pythonEscape "monthly") = 9 ∧
      bytes (Json.quote Json.pythonEscape "interval_days") = 15 ∧
      bytes (Json.quote Json.pythonEscape "interval_months") = 17 ∧
      bytes (Json.quote Json.pythonEscape "yearly") = 8 ∧
      bytes (Json.quote Json.pythonEscape "fixed_date") = 12 := by decide
  have hmarks : '\x7b'.utf8Size = 1 ∧ '\x7d'.utf8Size = 1 ∧ ','.utf8Size = 1 ∧
      ':'.utf8Size = 1 := by decide
  have hdate (date : Date) : bytes (Json.quote Json.pythonEscape date.isoformat) ≤ 62 := by
    have hquote := bytes_quote_le date.isoformat
    rw [length_isoformat_date] at hquote
    omega
  unfold ResetPolicy.dumps
  rw [utf8ByteSize_ofList]
  unfold ResetPolicy.members
  cases policy.recurrence with
  | manual =>
    simp only [Json.render, Json.renderMembers, bytes_append, bytes_cons, bytes_nil]
    omega
  | monthly day =>
    have hday := bytes_count_le day (by decide)
    simp only [Json.render, Json.renderMembers, bytes_append, bytes_cons, bytes_nil]
    omega
  | intervalDays every anchorDate =>
    have hevery := bytes_count_le every (by decide)
    have hanchor := hdate anchorDate
    simp only [Json.render, Json.renderMembers, bytes_append, bytes_cons, bytes_nil]
    omega
  | intervalMonths day every anchorDate =>
    have hday := bytes_count_le day (by decide)
    have hevery := bytes_count_le every (by decide)
    have hanchor := hdate anchorDate
    simp only [Json.render, Json.renderMembers, bytes_append, bytes_cons, bytes_nil]
    omega
  | yearly day month =>
    have hday := bytes_count_le day (by decide)
    have hmonth := bytes_count_le month (by decide)
    simp only [Json.render, Json.renderMembers, bytes_append, bytes_cons, bytes_nil]
    omega
  | fixedDate date =>
    have hfixed := hdate date
    simp only [Json.render, Json.renderMembers, bytes_append, bytes_cons, bytes_nil]
    omega

theorem numbersFit_count {maximum : Nat} (count : Count maximum) (h : maximum < 1000) :
    NetHelper.numbersFit count.json = true := by
  have hvalue : count.value < 1000 := lt_of_le_of_lt count.bounds.2 h
  have hlimit : count.value * 10 ^ (0 : Int).toNat < 2 ^ 1024 - 2 ^ 970 := by
    rw [Int.toNat_zero, Nat.pow_zero, Nat.mul_one]
    exact lt_of_lt_of_le hvalue (by decide +kernel)
  unfold Count.json
  split
  · rfl
  · rw [Json.Value.int, NetHelper.numbersFit, Json.Number.ofInt, NetHelper.numberFits]
    dsimp only
    rw [Int.natAbs_natCast]
    by_cases hzero : count.value = 0
    · rw [if_pos hzero]
    · rw [if_neg hzero, if_neg (by decide), if_pos le_rfl]
      exact decide_eq_true hlimit

/-- The text of a schedule is a JSON object. -/
theorem isJSONObject_dumps (policy : ResetPolicy) :
    NetHelper.isJSONObject policy.dumps = true := by
  have hparse : Json.parse policy.dumps = some (.object policy.members) :=
    Json.parse_render Json.unescapes_python _
  rw [NetHelper.isJSONObject, hparse]
  show NetHelper.membersFit policy.members = true
  unfold ResetPolicy.members
  cases policy.recurrence with
  | manual => rfl
  | monthly day =>
    simp [NetHelper.membersFit, NetHelper.numbersFit, numbersFit_count day (by decide)]
  | intervalDays every anchorDate =>
    simp [NetHelper.membersFit, NetHelper.numbersFit, numbersFit_count every (by decide)]
  | intervalMonths day every anchorDate =>
    simp [NetHelper.membersFit, NetHelper.numbersFit, numbersFit_count day (by decide),
      numbersFit_count every (by decide)]
  | yearly day month =>
    simp [NetHelper.membersFit, NetHelper.numbersFit, numbersFit_count day (by decide),
      numbersFit_count month (by decide)]
  | fixedDate date => rfl

/-- A stored schedule is read back with its time zone. -/
theorem loads_dumps_timezone {policy policy' : ResetPolicy}
    (h : ResetPolicy.loads policy.dumps = some policy') : policy'.timezone = policy.timezone := by
  have hparse : Json.parse policy.dumps = some (.object policy.members) :=
    Json.parse_render Json.unescapes_python _
  have hnodup : ((policy.members.map fun member => (member.1, jsonField member.2)).map
      Prod.fst).Nodup := by
    unfold ResetPolicy.members
    cases policy.recurrence <;> simp
  have hmem : ("timezone", Field.string policy.timezone) ∈
      policy.members.map fun member => (member.1, jsonField member.2) := by
    unfold ResetPolicy.members
    cases policy.recurrence <;> simp [jsonField]
  have hzone := Dict.get?_ofList_of_mem hnodup hmem
  unfold ResetPolicy.loads at h
  rw [hparse] at h
  dsimp only at h
  rw [hzone] at h
  split at h
  next timezone policyType htimezone _ =>
    cases htimezone
    obtain ⟨recurrence, -, rfl⟩ := Option.map_eq_some_iff.mp h
    rfl
  next => cases h

/-! ### Identifiers -/

/-- The random number of an identifier with its variant and version. -/
def stamped (random : BitVec 128) : BitVec 128 :=
  let variant := (random &&& ~~~(0xc000#128 <<< 48)) ||| (0x8000#128 <<< 48)
  (variant &&& ~~~(0xf000#128 <<< 64)) ||| (4#128 <<< 76)

theorem hexDigit_eq (v : BitVec 128) (k : Nat) :
    v.toNat / 16 ^ k % 16 = (v.extractLsb' (4 * k) 4).toNat := by
  rw [BitVec.extractLsb'_toNat, Nat.shiftRight_eq_div_pow, pow_mul]
  rfl

theorem version_digit (random : BitVec 128) : (stamped random).toNat / 16 ^ 19 % 16 = 4 := by
  have hbits : (stamped random).extractLsb' (4 * 19) 4 = 4#4 := by
    ext i hi
    rw [BitVec.getElem_extractLsb']
    unfold stamped
    interval_cases i <;> simp
  rw [hexDigit_eq, hbits]
  rfl

theorem variant_digit (random : BitVec 128) :
    8 ≤ (stamped random).toNat / 16 ^ 15 % 16 ∧ (stamped random).toNat / 16 ^ 15 % 16 < 12 := by
  have hbits : ((stamped random).extractLsb' (4 * 15) 4).extractLsb' 2 2 = 2#2 := by
    ext i hi
    rw [BitVec.getElem_extractLsb', BitVec.getLsbD_extractLsb']
    unfold stamped
    interval_cases i <;> simp
  have hvalue := congrArg BitVec.toNat hbits
  rw [BitVec.extractLsb'_toNat, Nat.shiftRight_eq_div_pow] at hvalue
  rw [hexDigit_eq]
  have hlt := ((stamped random).extractLsb' (4 * 15) 4).isLt
  simp only [BitVec.toNat_ofNat] at hvalue
  omega

theorem isHexDigit_digitChar (n : Nat) : isHexDigit (n % 16).digitChar = true := by
  have h : ∀ m < 16, isHexDigit m.digitChar = true := by decide
  exact h _ (Nat.mod_lt _ (by decide))

/-- The identifiers of policies are those that the helper accepts. -/
theorem uuid4_matches (random : BitVec 128) :
    matchesPattern policyIDPattern (uuid4 random) = true := by
  have hversion := version_digit random
  have hvariant := variant_digit random
  have htext : (uuid4 random).toList =
      let hex := hexDigits128 (stamped random)
      hex.take 8 ++ '-' :: (hex.drop 8).take 4 ++ '-' :: (hex.drop 12).take 4 ++
        '-' :: (hex.drop 16).take 4 ++ '-' :: hex.drop 20 := by
    rw [uuid4, String.toList_ofList]
    rfl
  unfold matchesPattern
  rw [htext]
  generalize stamped random = stamp at *
  simp only [Nat.reducePow] at hversion hvariant
  simp [hexDigits128, List.range_succ, policyIDPattern, isHexDigit_digitChar, hversion]
  exact ⟨by decide, by omega⟩

end VpsGuardian.PortPolicies
