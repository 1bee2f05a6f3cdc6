import VpsGuardian.Lib.Json

/-!
Reading back what a compact JSON writer wrote.

The writer is any one whose escapes the reader undoes (`Unescapes`); both the
Python and the Go escapes qualify, so a document survives the transport between
the two whichever side wrote it.
-/

namespace VpsGuardian.Lib.Json

/-! ### Strings -/

/-- The reader undoes the escape of every character. -/
def Unescapes (escape : Char → List Char) : Prop :=
  ∀ c rest, parseUnits (escape c ++ rest) = consUnit c.toNat (parseUnits rest)

theorem parseUnits_escaped {escape : Char → List Char} (h : Unescapes escape)
    (cs rest : List Char) :
    parseUnits (cs.flatMap escape ++ '"' :: rest) = some (cs.map Char.toNat, rest) := by
  induction cs with
  | nil => simp [parseUnits]
  | cons c cs ih =>
      rw [List.flatMap_cons, List.append_assoc, h, ih]
      rfl

theorem loneUnit_toNat (c : Char) : loneUnit c.toNat = c := by
  have hscalar : ¬(isHighSurrogate c.toNat || isLowSurrogate c.toNat) = true := by
    have hvalid : c.toNat < 0xD800 ∨ 0xDFFF < c.toNat ∧ c.toNat < 0x110000 := c.valid
    simp only [isHighSurrogate, isLowSurrogate, Bool.or_eq_true, Bool.and_eq_true,
      decide_eq_true_eq]
    omega
  rw [loneUnit, if_neg hscalar, Char.ofNat_toNat]

/-- Characters are never surrogates, so none of them are joined. -/
theorem joinSurrogates_map_toNat (cs : List Char) : joinSurrogates (cs.map Char.toNat) = cs := by
  induction cs with
  | nil => rfl
  | cons c cs ih =>
      cases cs with
      | nil => simp [joinSurrogates, loneUnit_toNat]
      | cons d cs =>
          have hd : isLowSurrogate d.toNat = false := by
            have hvalid : d.toNat < 0xD800 ∨ 0xDFFF < d.toNat ∧ d.toNat < 0x110000 := d.valid
            simp only [isLowSurrogate, Bool.and_eq_false_iff, decide_eq_false_iff_not]
            omega
          simp only [List.map_cons] at ih ⊢
          rw [joinSurrogates, hd, Bool.and_false, if_neg Bool.false_ne_true, ih, loneUnit_toNat]

theorem parseString_quote {escape : Char → List Char} (h : Unescapes escape)
    (s : String) (rest : List Char) :
    parseString (s.toList.flatMap escape ++ '"' :: rest) = some (s, rest) := by
  rw [parseString, parseUnits_escaped h]
  simp [joinSurrogates_map_toNat]

theorem hexValue_digitChar : ∀ {d : Nat}, d < 16 → hexValue d.digitChar = some d := by
  decide

theorem hex4_digitChar {u : Nat} (h : u < 0x10000) :
    hex4 (u / 4096 % 16).digitChar (u / 256 % 16).digitChar (u / 16 % 16).digitChar
      (u % 16).digitChar = some u := by
  have hlt (n : Nat) : n % 16 < 16 := Nat.mod_lt _ (by decide)
  simp only [hex4, hexValue_digitChar (hlt _), Option.bind_eq_bind, Option.bind_some,
    Option.some.injEq]
  omega

theorem parseUnits_escapeUnicode {u : Nat} (h : u < 0x10000) (rest : List Char) :
    parseUnits (escapeUnicode u ++ rest) = consUnit u (parseUnits rest) := by
  simp only [escapeUnicode, List.cons_append, List.nil_append]
  rw [parseUnits, hex4_digitChar h]

theorem parseUnits_short {c d : Char} (hc : c ≠ 'u') (h : unescape c = some d)
    (rest : List Char) :
    parseUnits ('\\' :: c :: rest) = consUnit d.toNat (parseUnits rest) := by
  rw [parseUnits, h]
  intro _ _ _ _ _ heq
  exact absurd heq hc

/-- A character that needs no escape is one code unit. -/
theorem parseUnits_plain {c : Char} (hquote : c ≠ '"') (hslash : c ≠ '\\')
    (hcontrol : ¬c.toNat < 0x20) (rest : List Char) :
    parseUnits (c :: rest) = consUnit c.toNat (parseUnits rest) := by
  rw [parseUnits, if_neg hcontrol]
  · exact hquote
  · intro _ _ _ _ _ heq
    exact absurd heq hslash
  · intro _ _ heq
    exact absurd heq hslash

theorem unescapes_mandatory : Unescapes escapeMandatory := by
  intro c rest
  unfold escapeMandatory
  split_ifs with h1 h2 h3 h4 h5 h6 h7 h8
  · subst h1; exact parseUnits_short (by decide) rfl rest
  · subst h2; exact parseUnits_short (by decide) rfl rest
  · subst h3; exact parseUnits_short (by decide) rfl rest
  · subst h4; exact parseUnits_short (by decide) rfl rest
  · subst h5; exact parseUnits_short (by decide) rfl rest
  · subst h6; exact parseUnits_short (by decide) rfl rest
  · subst h7; exact parseUnits_short (by decide) rfl rest
  · exact parseUnits_escapeUnicode (by omega) rest
  · exact parseUnits_plain h1 h2 h8 rest

theorem unescapes_python : Unescapes pythonEscape := unescapes_mandatory

theorem unescapes_go : Unescapes goEscape := by
  intro c rest
  unfold goEscape
  split_ifs with h
  · refine parseUnits_escapeUnicode ?_ rest
    simp only [isHTMLSensitive, Bool.or_eq_true, beq_iff_eq] at h
    rcases h with (((rfl | rfl) | rfl) | rfl) | rfl <;> decide
  · exact unescapes_mandatory c rest

/-! ### Numbers -/

/-- A text that does not continue a number literal. -/
def EndsNumber (rest : List Char) : Prop :=
  ∀ c ∈ rest.head?, c.isDigit = false ∧ c ≠ '.' ∧ c ≠ 'e' ∧ c ≠ 'E'

theorem takeWhile_digits {digits rest : List Char} (hdigits : ∀ c ∈ digits, c.isDigit = true)
    (hrest : ∀ c ∈ rest.head?, c.isDigit = false) :
    (digits ++ rest).takeWhile Char.isDigit = digits ∧
      (digits ++ rest).dropWhile Char.isDigit = rest := by
  induction digits with
  | nil =>
      cases rest with
      | nil => simp
      | cons c rest => simp [hrest c rfl]
  | cons d digits ih =>
      have hd := hdigits d (by simp)
      have htail := ih fun c hc => hdigits c (by simp [hc])
      simp [hd, htail]

theorem toDigits_isDigit (n : Nat) : ∀ c ∈ Nat.toDigits 10 n, c.isDigit = true := fun _ hc =>
  Nat.isDigit_of_mem_toDigits (by decide) (by decide) hc

/-- A decimal literal has no leading zero, unless it is `0`. -/
theorem toDigits_head (n : Nat) :
    ¬((Nat.toDigits 10 n).head? = some '0' ∧ 1 < (Nat.toDigits 10 n).length) := by
  induction n using Nat.strongRecOn with
  | ind n ih =>
      rw [Nat.toDigits_eq_if (by decide)]
      split_ifs with h
      · simp
      · rintro ⟨hhead, -⟩
        have hne := Nat.toDigits_ne_nil (n := n / 10) (b := 10)
        rw [List.head?_append_of_ne_nil _ hne] at hhead
        by_cases hlen : 1 < (Nat.toDigits 10 (n / 10)).length
        · exact ih (n / 10) (by omega) ⟨hhead, hlen⟩
        · have hlt : n / 10 < 10 := by
            have hle := (Nat.length_toDigits_le_iff (n := n / 10) (b := 10) (k := 1)
              (by decide) (by decide)).mp (by omega)
            simpa using hle
          rw [Nat.toDigits_of_lt_base hlt] at hhead
          have hpos : 0 < n / 10 := by omega
          revert hhead hpos
          generalize n / 10 = m at hlt ⊢
          revert m
          decide

theorem toDigits_eq_cons (n : Nat) :
    ∃ d digits, Nat.toDigits 10 n = d :: digits ∧ d.isDigit = true := by
  cases h : Nat.toDigits 10 n with
  | nil => exact absurd h Nat.toDigits_ne_nil
  | cons d digits => exact ⟨d, digits, rfl, toDigits_isDigit n d (by simp [h])⟩

theorem parseMinus_renderSigned (negative : Bool) (n : Nat) (rest : List Char) :
    parseMinus (renderSigned negative n ++ rest) = (negative, Nat.toDigits 10 n ++ rest) := by
  obtain ⟨d, digits, hdigits, hd⟩ := toDigits_eq_cons n
  cases negative with
  | true => simp [renderSigned, parseMinus]
  | false =>
      have hne : d ≠ '-' := by rintro rfl; revert hd; decide
      simp [renderSigned, hdigits, parseMinus, hne]

theorem parseSign_renderSigned (negative : Bool) (n : Nat) (rest : List Char) :
    parseSign (renderSigned negative n ++ rest) = (negative, Nat.toDigits 10 n ++ rest) := by
  rw [← parseMinus_renderSigned]
  obtain ⟨d, digits, hdigits, hd⟩ := toDigits_eq_cons n
  cases negative with
  | true => simp [renderSigned, parseSign]
  | false =>
      have hne : d ≠ '+' := by rintro rfl; revert hd; decide
      simp [renderSigned, hdigits, parseSign, hne]

theorem parseFraction_none {rest : List Char} (h : rest.head? ≠ some '.') :
    parseFraction rest = some ([], rest) := by
  cases rest with
  | nil => rfl
  | cons c rest =>
      have hc : c ≠ '.' := by simpa using h
      simp [parseFraction, hc]

theorem parseExponent_none {rest : List Char} (he : rest.head? ≠ some 'e')
    (hE : rest.head? ≠ some 'E') : parseExponent rest = some (0, rest) := by
  cases rest with
  | nil => rfl
  | cons c rest =>
      have hc : c ≠ 'e' := by simpa using he
      have hC : c ≠ 'E' := by simpa using hE
      simp [parseExponent, hc, hC]

theorem parseExponent_renderSigned (negative : Bool) (n : Nat) {rest : List Char}
    (hrest : EndsNumber rest) :
    parseExponent ('e' :: renderSigned negative n ++ rest) =
      some (if negative then -(n : Int) else n, rest) := by
  obtain ⟨htake, hdrop⟩ := takeWhile_digits (toDigits_isDigit n) fun c hc => (hrest c hc).1
  simp [parseExponent, parseSign_renderSigned, htake, hdrop, Nat.toDigits_ne_nil]

/-- A literal with its exponent: the digits, and what the exponent part denotes. -/
theorem parseNumber_renderSigned (negative : Bool) (digits : Nat) {tail rest : List Char}
    {exponent : Int} (hexponent : parseExponent tail = some (exponent, rest))
    (htail : ∀ c ∈ tail.head?, c.isDigit = false ∧ c ≠ '.') :
    parseNumber (renderSigned negative digits ++ tail) =
      some (⟨negative, digits, exponent⟩, rest) := by
  have hpoint : tail.head? ≠ some '.' := fun heq => (htail _ heq).2 rfl
  obtain ⟨htake, hdrop⟩ :=
    takeWhile_digits (toDigits_isDigit digits) fun c hc => (htail c hc).1
  simp only [parseNumber, parseMinus_renderSigned, htake, hdrop, parseFraction_none hpoint,
    hexponent]
  rw [if_neg (by simpa [Nat.toDigits_ne_nil] using toDigits_head digits)]
  simp

/-- The sign and the absolute value of an integer give it back. -/
theorem int_of_sign (i : Int) :
    (if decide (i < 0) = true then -(i.natAbs : Int) else i.natAbs) = i := by
  split_ifs with h <;> rw [decide_eq_true_eq] at h <;> omega

theorem parseExponent_of_endsNumber {rest : List Char} (h : EndsNumber rest) :
    parseExponent rest = some (0, rest) :=
  parseExponent_none (fun heq => (h _ heq).2.2.1 rfl) (fun heq => (h _ heq).2.2.2 rfl)

theorem parseNumber_render (n : Number) {rest : List Char} (hrest : EndsNumber rest) :
    parseNumber (renderNumber n ++ rest) = some (n, rest) := by
  obtain ⟨negative, digits, exponent⟩ := n
  rw [renderNumber, List.append_assoc]
  by_cases h : exponent = 0
  · rw [if_pos h, List.nil_append, h]
    exact parseNumber_renderSigned negative digits (parseExponent_of_endsNumber hrest)
      fun c hc => ⟨(hrest c hc).1, (hrest c hc).2.1⟩
  · have hexponent := parseExponent_renderSigned (decide (exponent < 0)) exponent.natAbs hrest
    rw [int_of_sign] at hexponent
    rw [if_neg h]
    exact parseNumber_renderSigned negative digits hexponent (by simp)

/-! ### Values -/

mutual

/-- Fuel that suffices to read a value. -/
def size : Value → Nat
  | .array items => 1 + sizeItems items
  | .object members => 1 + sizeMembers members
  | _ => 1

def sizeItems : List Value → Nat
  | [] => 0
  | item :: items => 1 + size item + sizeItems items

def sizeMembers : List (String × Value) → Nat
  | [] => 0
  | (_, value) :: members => 1 + size value + sizeMembers members

end

theorem skipSpace_cons {c : Char} (h : isSpace c = false) (rest : List Char) :
    skipSpace (c :: rest) = c :: rest := by
  simp [skipSpace, h]

/-- No compact text starts with a blank or closes a bracket. -/
theorem render_eq_cons (escape : Char → List Char) (v : Value) :
    ∃ c rest, render escape v = c :: rest ∧ isSpace c = false ∧ c ≠ ']' ∧ c ≠ '}' := by
  have hdigit {c : Char} (h : c.isDigit = true) : isSpace c = false ∧ c ≠ ']' ∧ c ≠ '}' := by
    refine ⟨?_, ?_, ?_⟩
    · simp only [isSpace, Bool.or_eq_false_iff, beq_eq_false_iff_ne]
      refine ⟨⟨⟨?_, ?_⟩, ?_⟩, ?_⟩ <;> (rintro rfl; revert h; decide)
    all_goals rintro rfl; revert h; decide
  cases v with
  | null => exact ⟨_, _, rfl, rfl, by decide, by decide⟩
  | bool b => cases b <;> exact ⟨_, _, rfl, rfl, by decide, by decide⟩
  | number n =>
      obtain ⟨d, digits, hdigits, hd⟩ := toDigits_eq_cons n.digits
      cases hneg : n.negative with
      | true =>
          exact ⟨'-', _, by simp [render, renderNumber, renderSigned, hneg]; rfl, rfl,
            by decide, by decide⟩
      | false =>
          exact ⟨d, _, by simp [render, renderNumber, renderSigned, hneg, hdigits]; rfl,
            hdigit hd⟩
  | string s => exact ⟨_, _, rfl, rfl, by decide, by decide⟩
  | array items => cases items <;> exact ⟨_, _, rfl, rfl, by decide, by decide⟩
  | object members =>
      rcases members with _ | ⟨⟨key, value⟩, members⟩ <;>
        exact ⟨_, _, rfl, rfl, by decide, by decide⟩

theorem endsNumber_cons {c : Char} (h : c = ',' ∨ c = ']' ∨ c = '}') (rest : List Char) :
    EndsNumber (c :: rest) := by
  intro d hd
  obtain rfl : c = d := by simpa using hd
  rcases h with rfl | rfl | rfl <;> decide

theorem renderItems_endsNumber (escape : Char → List Char) (items : List Value)
    (rest : List Char) : EndsNumber (renderItems escape items ++ rest) := by
  cases items <;> exact endsNumber_cons (by decide) _

theorem renderMembers_endsNumber (escape : Char → List Char) (members : List (String × Value))
    (rest : List Char) : EndsNumber (renderMembers escape members ++ rest) := by
  rcases members with _ | ⟨⟨key, value⟩, members⟩ <;> exact endsNumber_cons (by decide) _

/-- Opening an array whose first item is written next leads to its items. -/
theorem parseValue_openArray (fuel : Nat) (escape : Char → List Char) (item : Value)
    (rest : List Char) :
    parseValue (fuel + 1) ('[' :: (render escape item ++ rest)) =
      (parseItems fuel (render escape item ++ rest)).map fun p => (.array p.1, p.2) := by
  obtain ⟨c, tail, htext, hspace, hclose, -⟩ := render_eq_cons escape item
  simp only [htext, List.cons_append, parseValue]
  rw [skipSpace_cons (by decide)]
  simp only [skipSpace_cons hspace]
  split
  · next heq => exact absurd (List.cons.inj heq).1 hclose
  · rfl

theorem parseValue_openObject (fuel : Nat) (rest : List Char) :
    parseValue (fuel + 1) ('{' :: '"' :: rest) =
      (parseMembers fuel ('"' :: rest)).map fun p => (.object p.1, p.2) := by
  simp only [parseValue]
  rw [skipSpace_cons (by decide)]
  simp only [skipSpace_cons (show isSpace '"' = false by decide)]
  rfl

theorem parseValue_number (fuel : Nat) (n : Number) {rest : List Char}
    (hrest : EndsNumber rest) :
    parseValue (fuel + 1) (renderNumber n ++ rest) = some (.number n, rest) := by
  have hparse := parseNumber_render n hrest
  obtain ⟨c, tail, htext, hspace, -⟩ := render_eq_cons pythonEscape (.number n)
  simp only [render] at htext
  have hc : c = '-' ∨ c.isDigit = true := by
    obtain ⟨d, digits, hdigits, hd⟩ := toDigits_eq_cons n.digits
    cases hneg : n.negative with
    | true =>
        left
        simpa [renderNumber, renderSigned, hneg, eq_comm] using congrArg List.head? htext
    | false =>
        right
        have : d = c := by
          simpa [renderNumber, renderSigned, hneg, hdigits] using congrArg List.head? htext
        exact this ▸ hd
  rw [htext, List.cons_append] at hparse ⊢
  simp only [parseValue]
  rw [skipSpace_cons hspace]
  split
  case h_7 => rw [hparse]; rfl
  all_goals
    next heq =>
      obtain ⟨rfl, -⟩ := List.cons.inj heq
      exact absurd hc (by decide)

mutual

theorem parseValue_render {escape : Char → List Char} (hescape : Unescapes escape) :
    ∀ (v : Value) (fuel : Nat), size v ≤ fuel →
    ∀ {rest : List Char}, EndsNumber rest →
      parseValue fuel (render escape v ++ rest) = some (v, rest)
  | v, 0, hfuel, _, _ => by cases v <;> simp [size] at hfuel
  | .null, fuel + 1, _, rest, _ => by
      simp [render, parseValue, skipSpace_cons (show isSpace 'n' = false by decide)]
  | .bool true, fuel + 1, _, rest, _ => by
      simp [render, parseValue, skipSpace_cons (show isSpace 't' = false by decide)]
  | .bool false, fuel + 1, _, rest, _ => by
      simp [render, parseValue, skipSpace_cons (show isSpace 'f' = false by decide)]
  | .number n, fuel + 1, _, rest, hrest => by
      simpa only [render] using parseValue_number fuel n hrest
  | .string s, fuel + 1, _, rest, _ => by
      have hstring := parseString_quote hescape s rest
      simp only [render, quote, List.cons_append, List.append_assoc, List.nil_append, parseValue,
        skipSpace_cons (show isSpace '"' = false by decide), hstring, Option.map_some]
  | .array [], fuel + 1, _, rest, _ => by
      simp [render, parseValue, skipSpace_cons (show isSpace '[' = false by decide),
        skipSpace_cons (show isSpace ']' = false by decide)]
  | .array (item :: items), fuel + 1, hfuel, rest, _ => by
      have hitems := parseItems_render hescape items item
        fuel (by simp only [size, sizeItems] at hfuel; omega) rest
      simp only [render, List.cons_append, List.append_assoc]
      rw [parseValue_openArray, hitems]
      rfl
  | .object [], fuel + 1, _, rest, _ => by
      simp [render, parseValue, skipSpace_cons (show isSpace '{' = false by decide),
        skipSpace_cons (show isSpace '}' = false by decide)]
  | .object ((key, value) :: members), fuel + 1, hfuel, rest, _ => by
      have hmembers := parseMembers_render hescape members key value
        fuel (by simp only [size, sizeMembers] at hfuel; omega) rest
      simp only [render, quote, List.cons_append, List.append_assoc, List.nil_append] at hmembers ⊢
      rw [parseValue_openObject, hmembers]
      rfl

theorem parseItems_render {escape : Char → List Char} (hescape : Unescapes escape) :
    ∀ (items : List Value) (item : Value) (fuel : Nat),
    1 + size item + sizeItems items ≤ fuel → ∀ rest : List Char,
      parseItems fuel (render escape item ++ (renderItems escape items ++ rest)) =
        some (item :: items, rest)
  | _, _, 0, hfuel, _ => by omega
  | [], item, fuel + 1, hfuel, rest => by
      have hitem := parseValue_render hescape item fuel (by simp only [sizeItems] at hfuel; omega)
        (renderItems_endsNumber escape [] rest)
      rw [parseItems, hitem]
      simp [renderItems, skipSpace_cons (show isSpace ']' = false by decide)]
  | next :: items, item, fuel + 1, hfuel, rest => by
      simp only [sizeItems] at hfuel
      have hitem := parseValue_render hescape item fuel (by omega)
        (renderItems_endsNumber escape (next :: items) rest)
      have hitems := parseItems_render hescape items next fuel (by omega) rest
      rw [parseItems, hitem]
      simp only [renderItems, List.cons_append, List.append_assoc,
        skipSpace_cons (show isSpace ',' = false by decide), hitems, Option.map_some]

theorem parseMembers_render {escape : Char → List Char} (hescape : Unescapes escape) :
    ∀ (members : List (String × Value)) (key : String) (value : Value)
    (fuel : Nat), 1 + size value + sizeMembers members ≤ fuel → ∀ rest : List Char,
      parseMembers fuel
          (quote escape key ++ (':' :: render escape value ++
            (renderMembers escape members ++ rest))) =
        some ((key, value) :: members, rest)
  | _, _, _, 0, hfuel, _ => by omega
  | [], key, value, fuel + 1, hfuel, rest => by
      have hvalue := parseValue_render hescape value fuel
        (by simp only [sizeMembers] at hfuel; omega) (renderMembers_endsNumber escape [] rest)
      have hkey := parseString_quote hescape key
        (':' :: render escape value ++ (renderMembers escape [] ++ rest))
      simp only [quote, List.cons_append, List.append_assoc, List.nil_append] at hkey ⊢
      simp only [parseMembers, skipSpace_cons (show isSpace '"' = false by decide), hkey,
        skipSpace_cons (show isSpace ':' = false by decide), hvalue]
      simp [renderMembers, skipSpace_cons (show isSpace '}' = false by decide)]
  | (key', value') :: members, key, value, fuel + 1, hfuel, rest => by
      simp only [sizeMembers] at hfuel
      have hvalue := parseValue_render hescape value fuel (by omega)
        (renderMembers_endsNumber escape ((key', value') :: members) rest)
      have hmembers := parseMembers_render hescape members key' value' fuel (by omega) rest
      have hkey := parseString_quote hescape key
        (':' :: render escape value ++ (renderMembers escape ((key', value') :: members) ++ rest))
      simp only [quote, List.cons_append, List.append_assoc, List.nil_append] at hkey hmembers ⊢
      simp only [parseMembers, skipSpace_cons (show isSpace '"' = false by decide), hkey,
        skipSpace_cons (show isSpace ':' = false by decide), hvalue]
      simp only [renderMembers, quote, List.cons_append, List.append_assoc, List.nil_append,
        skipSpace_cons (show isSpace ',' = false by decide), hmembers, Option.map_some]

end

/-! ### Whole documents -/

mutual

theorem size_le_length (escape : Char → List Char) : ∀ v : Value,
    size v ≤ (render escape v).length
  | .null => by simp [size, render]
  | .bool true => by simp [size, render]
  | .bool false => by simp [size, render]
  | .number n => by
      obtain ⟨c, rest, htext, -⟩ := render_eq_cons escape (.number n)
      simp [size, htext]
  | .string s => by simp [size, render, quote]
  | .array [] => by simp [size, sizeItems, render]
  | .array (item :: items) => by
      have hitem := size_le_length escape item
      have hitems := sizeItems_lt_length escape items
      simp only [size, sizeItems, render, List.length_cons, List.length_append]
      omega
  | .object [] => by simp [size, sizeMembers, render]
  | .object ((key, value) :: members) => by
      have hvalue := size_le_length escape value
      have hmembers := sizeMembers_lt_length escape members
      simp only [size, sizeMembers, render, quote, List.length_cons, List.length_append]
      omega

theorem sizeItems_lt_length (escape : Char → List Char) : ∀ items : List Value,
    sizeItems items < (renderItems escape items).length
  | [] => by simp [sizeItems, renderItems]
  | item :: items => by
      have hitem := size_le_length escape item
      have hitems := sizeItems_lt_length escape items
      simp only [sizeItems, renderItems, List.length_cons, List.length_append]
      omega

theorem sizeMembers_lt_length (escape : Char → List Char) : ∀ members : List (String × Value),
    sizeMembers members < (renderMembers escape members).length
  | [] => by simp [sizeMembers, renderMembers]
  | (key, value) :: members => by
      have hvalue := size_le_length escape value
      have hmembers := sizeMembers_lt_length escape members
      simp only [sizeMembers, renderMembers, List.length_cons, List.length_append]
      omega

end

/-- A document written by either side reads back as the value that was written. -/
theorem parse_render {escape : Char → List Char} (hescape : Unescapes escape) (v : Value) :
    parse (.ofList (render escape v)) = some v := by
  have hends : EndsNumber [] := by simp [EndsNumber]
  have hfuel : size v ≤ (render escape v).length + 1 :=
    Nat.le_succ_of_le (size_le_length escape v)
  have hvalue := parseValue_render hescape v _ hfuel hends
  rw [List.append_nil] at hvalue
  simp [parse, hvalue, skipSpace]

end VpsGuardian.Lib.Json
