import VpsGuardian.Redaction.Text

/-!
Quoted values after a secret key, as `redact_text` leaves them.

The value pattern tries an unquoted value first, so the first blank, comma or
semicolon ends the match, in a quoted value too. What stands after it is still
there at the end, because no other substitution reaches it. A header line is the
exception: the header rule takes the rest of the line.
-/

namespace VpsGuardian.Redaction

open Lib
open Regex (Match Consumes Ends matchAt first results exactly sequence choice plus literal
  optional)

/-- A line up to the opening quote of the value. -/
structure Lead where
  start : List Char
  key : List Char
  before : Nat
  separator : Char
  after : Nat
  quote : Char
  start_line : '\n' ∉ start
  key_secret : Consumes secretKey key
  separator_mem : separator ∈ [':', '=']
  quote_mem : quote ∈ ['"', '\'']

def Lead.text (lead : Lead) : List Char :=
  lead.start ++ lead.key ++ List.replicate lead.before ' ' ++ [lead.separator] ++
    List.replicate lead.after ' '

/-- The whole line, with a value between the quotes. -/
def Lead.line (lead : Lead) (content : List Char) : List Char :=
  lead.text ++ lead.quote :: content ++ [lead.quote]

/-- The characters `str.splitlines` breaks a text at. -/
def isLineBreak (c : Char) : Bool :=
  let n := c.toNat
  (10 ≤ n && n ≤ 13) || (28 ≤ n && n ≤ 30) || n == 0x85 || n == 0x2028 || n == 0x2029

/-- What may stand between the quotes. -/
structure Content (lead : Lead) (content : List Char) : Prop where
  ne_nil : content ≠ []
  quote : lead.quote ∉ content
  line : ∀ c ∈ content, isLineBreak c = false

/-- The value is removed whole: the output does not depend on it. -/
def RemovesValue (platform : Platform) (lead : Lead) : Prop :=
  ∀ content other, Content lead content → Content lead other →
    redactChars platform (lead.line content) = redactChars platform (lead.line other)

/-- A text that begins with the name of a secret header and a colon. -/
def HeaderLine (text : List Char) : Prop :=
  ∃ name ∈ headerNames, ∃ spelled blanks rest, text = spelled ++ blanks ++ ':' :: rest ∧
    spelled.map foldCase = name.toList ∧ ∀ c ∈ blanks, isSpace c = true

/-! ### Words of the patterns -/

theorem spells_ignoringCase {text : String} {w : List Char} :
    List.Forall₂ (fun c d => (foldCase d == c) = true) text.toList w ↔
      w.map foldCase = text.toList := by
  have hmap : List.Forall₂ Eq text.toList (w.map foldCase) ↔
      List.Forall₂ (fun c d => c = foldCase d) text.toList w := List.forall₂_map_right_iff
  rw [List.forall₂_eq_eq_eq] at hmap
  simp only [beq_iff_eq]
  rw [eq_comm, hmap]
  simp only [eq_comm]

theorem consumes_ignoringCase {text : String} {w : List Char} :
    Consumes (ignoringCase text) w ↔ w.map foldCase = text.toList :=
  Regex.consumes_literal.trans spells_ignoringCase

theorem ends_pemPrivateKey : Ends pemPrivateKey (· = '-') := by
  have hlast : Ends (exactly "PRIVATE KEY-----") (· = '-') := by
    intro w hw
    obtain rfl := Regex.consumes_exactly.mp hw
    exact ⟨'-', rfl, rfl⟩
  exact hlast.last.seq_right.seq_right.seq_right.seq_right.seq_right.seq_right

theorem ends_bearer : Ends bearer fun c => isBearerChar c = true ∨ c = '=' := by
  refine Ends.seq_right (Ends.seq_left ((Ends.atLeast 7).mono fun c hc => .inl hc) ?_)
  rintro w ⟨u, v, rfl, hu, rfl⟩ c hc
  exact .inr (by simpa using Regex.consumes_star_char hu c (by simpa using hc))

theorem ends_jwt (platform : Platform) : Ends (jwt platform) (isTokenChar · = true) := by
  refine Ends.seq_right (Ends.seq_right (Ends.seq_right (Ends.seq_right (Ends.seq_right
    (Ends.seq_right (Ends.seq_left (Ends.atLeast 7) ?_))))))
  rintro w ⟨u, v, rfl, rfl, rfl⟩ c hc
  cases hc

theorem ends_databaseUrl (platform : Platform) : Ends (databaseUrl platform) (· = '@') := by
  have hlast : Ends (.char (· == '@')) (· = '@') := Ends.char.mono fun c hc => by simpa using hc
  exact hlast.last.seq_right.seq_right.seq_right.seq_right.seq_right.seq_right

/-! ### The characters of a key -/

def isKeyChar (c : Char) : Bool := (foldCase c).isAlpha || c == '_' || c == '-'

/-- Every word is a nonempty text of such characters. -/
def Made (r : Regex) (p : Char → Bool) : Prop :=
  ∀ w, Consumes r w → w ≠ [] ∧ ∀ c ∈ w, p c = true

theorem made_ignoringCase {text : String} (hne : text.toList ≠ [])
    (hall : text.toList.all Char.isAlpha = true) : Made (ignoringCase text) isKeyChar := by
  intro w hw
  have hspelled := consumes_ignoringCase.mp hw
  refine ⟨?_, ?_⟩
  · rintro rfl
    exact hne hspelled.symm
  · intro c hc
    have hmem : foldCase c ∈ text.toList := hspelled ▸ List.mem_map_of_mem hc
    simp [isKeyChar, List.all_eq_true.mp hall _ hmem]

theorem made_joined {first last : Regex} (hfirst : Made first isKeyChar)
    (hlast : Made last isKeyChar) : Made (sequence [first, joiner, last]) isKeyChar := by
  rintro w ⟨u, v, rfl, hu, x, y, rfl, hx, z, e, rfl, hz, rfl⟩
  obtain ⟨hne, hall⟩ := hfirst u hu
  have hjoin : ∀ c ∈ x, isKeyChar c = true := by
    obtain ⟨c, hc, rfl⟩ | rfl := hx
    · intro d hd
      obtain rfl := List.mem_singleton.mp hd
      simp only [isKeyChar, Bool.or_assoc, Bool.or_eq_true] at hc ⊢
      exact .inr (by simpa using hc)
    · nofun
  refine ⟨by simp [hne], ?_⟩
  simp only [List.append_nil, List.mem_append]
  rintro c (hc | hc | hc)
  · exact hall c hc
  · exact hjoin c hc
  · exact (hlast z hz).2 c hc

theorem made_secretKey : Made secretKey isKeyChar := by
  intro w hw
  obtain ⟨r, hr, hrw⟩ := Regex.consumes_choice hw
  have hplain : ∀ text ∈ ["password", "passwd", "pwd", "secret", "token", "api", "key", "access",
      "private", "jwt"], Made (ignoringCase text) isKeyChar := by
    have hletters : ∀ text ∈ ["password", "passwd", "pwd", "secret", "token", "api", "key",
        "access", "private", "jwt"],
        text.toList ≠ [] ∧ text.toList.all Char.isAlpha = true := by decide
    exact fun text htext => made_ignoringCase (hletters text htext).1 (hletters text htext).2
  have hkey := hplain "key" (by simp)
  simp only [List.mem_cons, List.not_mem_nil, or_false] at hr
  obtain rfl | rfl | rfl | rfl | rfl | rfl | rfl | rfl | rfl := hr
  · exact hplain _ (by simp) w hrw
  · exact hplain _ (by simp) w hrw
  · exact hplain _ (by simp) w hrw
  · exact hplain _ (by simp) w hrw
  · exact hplain _ (by simp) w hrw
  · exact made_joined (hplain _ (by simp)) hkey w hrw
  · exact made_joined (hplain _ (by simp)) hkey w hrw
  · exact made_joined (hplain _ (by simp)) hkey w hrw
  · exact hplain _ (by simp) w hrw

/-! ### The value pattern -/

/-- The pattern without its quoted alternatives. -/
def plainKeyValue (platform : Platform) : Regex := sequence [wordBoundary platform,
  .group 1 secretKey, .group 2 separator, plus (.char isValueChar)]

theorem first_plus_none {p : Char → Bool} {m : Match} (h : first (plus (.char p)) m = none) :
    ∀ c rest, m.after = c :: rest → p c = false := by
  intro c rest hafter
  obtain ⟨before, after, groups⟩ := m
  obtain rfl : after = c :: rest := hafter
  cases hp : p c with
  | false => rfl
  | true =>
    have hsome := Regex.first_seq (Regex.first_char hp before rest groups)
      (Regex.first_star_char p ⟨c :: before, rest, groups⟩)
    rw [plus, hsome] at h
    cases h

theorem first_quoted_none {quote : Char} {m : Match}
    (h : ∀ c rest, m.after = c :: rest → c ≠ quote) : first (quoted quote) m = none := by
  have hnone : results (.char (· == quote)) m = [] := by
    unfold results
    split
    · rfl
    next c rest hafter => simp [h c rest hafter]
  have hall : results (quoted quote) m = [] := by
    change (results (.char (· == quote)) m).flatMap _ = []
    rw [hnone]
    rfl
  rw [first, hall]
  rfl

/-- Where an unquoted value cannot begin, a quoted one cannot. -/
theorem first_keyValueSecret (platform : Platform) (m : Match) :
    first (keyValueSecret platform) m = first (plainKeyValue platform) m := by
  refine Regex.first_seq_congr (fun m => ?_) m
  refine Regex.first_seq_congr (fun m => ?_) m
  refine Regex.first_seq_congr (fun m => ?_) m
  refine (Regex.first_seq_empty _ m).trans (Eq.trans ?_ (Regex.first_seq_empty _ m).symm)
  apply Regex.first_alt_of_fails
  intro hnone
  have hvalue := first_plus_none hnone
  rw [Regex.first_alt_of_fails]
  · exact first_quoted_none fun c rest hafter heq =>
      absurd (hvalue c rest hafter) (by rw [heq]; decide)
  · intro _
    exact first_quoted_none fun c rest hafter heq =>
      absurd (hvalue c rest hafter) (by rw [heq]; decide)

/-- The words of the pattern: a key, then a separator between blanks, then a value. -/
theorem consumes_plainKeyValue {platform : Platform} {w : List Char}
    (h : Consumes (plainKeyValue platform) w) : ∃ key sep value, w = key ++ sep ++ value ∧
      (key ≠ [] ∧ ∀ c ∈ key, isKeyChar c = true) ∧
      (∀ c ∈ sep, isSpace c = true ∨ c = ':' ∨ c = '=') ∧
      ∀ c ∈ value, isValueChar c = true := by
  obtain ⟨_, _, rfl, rfl, key, _, rfl, hkey, sep, _, rfl, hsep, value, _, rfl, hvalue, rfl⟩ := h
  refine ⟨key, sep, value, by simp, made_secretKey key hkey, ?_,
    (Regex.consumes_plus_char hvalue).2⟩
  obtain ⟨left, _, rfl, hleft, _, _, rfl, ⟨c, hc, rfl⟩, right, _, rfl, hright, rfl⟩ := hsep
  intro d hd
  simp only [List.append_nil, List.mem_append, List.mem_singleton] at hd
  obtain hd | rfl | hd := hd
  · exact .inl (Regex.consumes_star_char hleft d hd)
  · exact .inr (by simpa using hc)
  · exact .inl (Regex.consumes_star_char hright d hd)

/-- The mark stands in no key and no separator, and a blank in no value. -/
theorem no_blank_after_mark {platform : Platform} {w : List Char}
    (h : Consumes (plainKeyValue platform) w) {start rest : List Char} :
    w ≠ start ++ '!' :: ' ' :: rest := by
  obtain ⟨key, sep, value, rfl, ⟨-, hkey⟩, hsep, hvalue⟩ := consumes_plainKeyValue h
  intro heq
  have hmark : '!' ∉ key ++ sep := by
    intro hmem
    obtain hmem | hmem := List.mem_append.mp hmem
    · exact absurd (hkey '!' hmem) (by decide)
    · exact absurd (hsep '!' hmem) (by decide)
  have hblank : ' ' ∉ value := fun hmem => absurd (hvalue ' ' hmem) (by decide)
  obtain ⟨t, -, rfl⟩ | ⟨t, ht, hrest⟩ := List.append_eq_append_iff.mp heq
  · exact hblank (by simp)
  · cases t with
    | nil => exact hblank (by rw [← List.nil_append value, ← hrest]; simp)
    | cons c t =>
      obtain ⟨rfl, -⟩ := List.cons.inj hrest
      exact hmark (by rw [ht]; simp)

/-! ### What no substitution reaches -/

/-- Characters with which no match begins or ends. -/
def blunt : List Char := ['!', '?', ' ', '"', '\'']

theorem blunt_outside : ∀ c ∈ blunt, c ≠ '-' ∧ c ≠ '=' ∧ c ≠ '@' ∧ c ≠ 'h' ∧
    isBearerChar c = false ∧ isTokenChar c = false ∧ isKeyChar c = false := by
  simp only [blunt, List.forall_mem_cons, List.not_mem_nil, IsEmpty.forall_iff, implies_true,
    and_true]
  decide

theorem suffix_redactPem {tail text : List Char} (htail : tail <:+ text) (hblunt : tail ⊆ blunt) :
    tail <:+ redactPem text :=
  Regex.suffix_subFrom_of_last htail (ends_pemPrivateKey.mono fun _ hc hmem =>
    (blunt_outside _ (hblunt hmem)).1 hc) []

theorem suffix_redactBearer {tail text : List Char} (htail : tail <:+ text)
    (hblunt : tail ⊆ blunt) : tail <:+ redactBearer text := by
  refine Regex.suffix_subFrom_of_last htail (ends_bearer.mono fun c hc hmem => ?_) []
  obtain ⟨-, heq, -, -, hbearer, -⟩ := blunt_outside c (hblunt hmem)
  obtain hc | hc := hc
  · rw [hbearer] at hc
    cases hc
  · exact heq hc

theorem suffix_redactJwt (platform : Platform) {tail text : List Char} (htail : tail <:+ text)
    (hblunt : tail ⊆ blunt) : tail <:+ redactJwt platform text := by
  refine Regex.suffix_subFrom_of_last htail ((ends_jwt platform).mono fun c hc hmem => ?_) []
  rw [(blunt_outside c (hblunt hmem)).2.2.2.2.2.1] at hc
  cases hc

theorem suffix_redactDatabaseUrl (platform : Platform) {tail text : List Char}
    (htail : tail <:+ text) (hblunt : tail ⊆ blunt) : tail <:+ redactDatabaseUrl platform text :=
  Regex.suffix_subFrom_of_last htail ((ends_databaseUrl platform).mono fun _ hc hmem =>
    (blunt_outside _ (hblunt hmem)).2.2.1 hc) []

/-- Of two ends of a text, what one has more than the other. -/
theorem suffix_or_of_suffix {a b text : List Char} (ha : a <:+ text) (hb : b <:+ text) :
    a <:+ b ∨ ∃ c rest, a = c :: rest ++ b := by
  obtain h | ⟨extra, rfl⟩ := List.suffix_or_suffix_of_suffix ha hb
  · exact .inl h
  · cases extra with
    | nil => exact .inl (List.suffix_refl _)
    | cons c rest => exact .inr ⟨c, rest, rfl⟩

/-- A value ends at a blank, so what follows a blank inside the quotes stays. -/
theorem suffix_redactKeyValue (platform : Platform) {tail text : List Char}
    (htail : '!' :: ' ' :: tail <:+ text) (hblunt : tail ⊆ blunt) :
    ' ' :: tail <:+ redactKeyValue platform text := by
  have hafter : ' ' :: tail <:+ text := (List.suffix_cons _ _).trans htail
  have hword {before after : List Char} {m : Match}
      (hm : matchAt (keyValueSecret platform) before after = some m) :
      ∃ w, Consumes (plainKeyValue platform) w ∧ after = w ++ m.after := by
    rw [matchAt, first_keyValueSecret] at hm
    exact Regex.matchAt_over hm
  have hblunt' : ' ' :: tail ⊆ blunt := by
    intro c hc
    obtain rfl | hc := List.mem_cons.mp hc
    · simp [blunt]
    · exact hblunt hc
  -- no word begins in the tail
  have hstart {w rest : List Char} (hw : Consumes (plainKeyValue platform) w)
      (hin : w ++ rest <:+ ' ' :: tail) : False := by
    obtain ⟨key, sep, value, rfl, ⟨hne, hkey⟩, -, -⟩ := consumes_plainKeyValue hw
    obtain ⟨c, key, rfl⟩ := List.exists_cons_of_ne_nil hne
    have hmem : c ∈ blunt := hblunt' (hin.subset (by simp))
    have hchar := hkey c List.mem_cons_self
    rw [(blunt_outside c hmem).2.2.2.2.2.2] at hchar
    cases hchar
  refine Regex.suffix_subFrom hafter ?_ ?_ []
  · intro before after m hin htailin hm
    obtain ⟨w, hw, rfl⟩ := hword hm
    obtain h | ⟨c, rest, heq⟩ := suffix_or_of_suffix htailin (List.suffix_append w m.after)
    · exact h
    exfalso
    obtain ⟨rfl, htaileq⟩ : c = ' ' ∧ tail = rest ++ m.after := by
      rw [List.cons_append, List.cons.injEq] at heq
      exact ⟨heq.1.symm, heq.2⟩
    subst htaileq
    obtain ⟨x, hx⟩ := htailin
    have hsplit : w = x ++ ' ' :: rest := by
      apply (List.append_left_inj m.after).mp
      simpa using hx.symm
    -- before the blank stands the mark, unless the word begins with the blank
    obtain rfl | ⟨x, d, rfl⟩ := List.eq_nil_or_concat x
    · exact @hstart w m.after hw (by rw [hsplit]; simp)
    obtain rfl : d = '!' := by
      obtain h | ⟨e, more, h⟩ := suffix_or_of_suffix htail hin
      · obtain ⟨y, hy⟩ := h
        have hboth : y ++ ['!'] ++ (' ' :: rest ++ m.after) =
            x ++ [d] ++ (' ' :: rest ++ m.after) := by
          rw [hsplit] at hy
          simpa using hy
        have hends := List.append_cancel_right hboth
        have hlast := congrArg List.getLast? hends
        simpa using hlast.symm
      · exfalso
        have hlength := congrArg List.length h
        rw [hsplit] at hlength
        simp at hlength
        omega
    exact no_blank_after_mark hw (by simpa using hsplit)
  · intro before after hin
    cases hm : matchAt (keyValueSecret platform) before after with
    | none => rfl
    | some m =>
      obtain ⟨w, hw, rfl⟩ := hword hm
      exact (hstart hw hin).elim

/-- A URL begins with a letter and has no blank. -/
theorem consumes_url {w : List Char} (h : Consumes url w) : ∃ rest, w = 'h' :: rest ∧ ' ' ∉ w := by
  obtain ⟨http, _, rfl, hhttp, s, _, rfl, hs, colon, _, rfl, hcolon, rest, _, rfl, hrest, rfl⟩ := h
  obtain rfl := Regex.consumes_exactly.mp hhttp
  obtain rfl := Regex.consumes_exactly.mp hcolon
  refine ⟨_, rfl, ?_⟩
  have htail : ' ' ∉ rest := fun hmem =>
    absurd ((Regex.consumes_plus_char hrest).2 ' ' hmem) (by decide)
  obtain hs | rfl := hs
  · obtain rfl := Regex.consumes_exactly.mp hs
    simpa using htail
  · simpa using htail

theorem suffix_redactUrlQueries (platform : Platform) {tail text : List Char}
    (htail : ' ' :: tail <:+ text) (hblunt : tail ⊆ blunt) :
    ' ' :: tail <:+ redactUrlQueries platform text := by
  have hh : 'h' ∉ ' ' :: tail := by
    intro hmem
    obtain h | hmem := List.mem_cons.mp hmem
    · exact absurd h (by decide)
    · exact (blunt_outside _ (hblunt hmem)).2.2.2.1 rfl
  refine Regex.suffix_subFrom htail ?_ ?_ []
  · intro before after m hin htailin hm
    obtain ⟨w, hw, rfl⟩ := Regex.matchAt_over hm
    obtain h | ⟨c, rest, heq⟩ := suffix_or_of_suffix htailin (List.suffix_append w m.after)
    · exact h
    exfalso
    obtain ⟨start, -, hblank⟩ := consumes_url hw
    obtain ⟨x, hx⟩ := htailin
    obtain rfl : ' ' = c := (List.cons.inj heq).1
    rw [heq, ← List.append_assoc] at hx
    have hsplit := List.append_cancel_right hx
    exact hblank (by rw [← hsplit]; simp)
  · intro before after hin
    cases hm : matchAt (.group 0 url) before after with
    | none => rfl
    | some m =>
      obtain ⟨w, hw, rfl⟩ := Regex.matchAt_over hm
      obtain ⟨rest, rfl, -⟩ := consumes_url hw
      exact absurd (hin.subset (by simp)) hh

/-! ### Header lines -/

/-- Characters that are spelled in no header name. -/
theorem spelled_outside : ∀ name ∈ headerNames, '"' ∉ name.toList ∧ '\'' ∉ name.toList ∧
    '[' ∉ name.toList := by
  decide

/-- How a word of the header rule begins. -/
theorem consumes_headerSecret {w : List Char} (h : Consumes headerSecret w) :
    ∃ name ∈ headerNames, ∃ spelled blanks rest, w = spelled ++ blanks ++ ':' :: rest ∧
      spelled.map foldCase = name.toList ∧ ∀ c ∈ blanks, isSpace c = true := by
  obtain ⟨_, _, rfl, rfl, lead, value, rfl, hlead, -⟩ := h
  obtain ⟨spelled, _, rfl, hspelled, blanks, _, rfl, hblanks, _, right, rfl, ⟨c, hc, rfl⟩, -⟩ :=
    hlead
  obtain ⟨r, hr, hrw⟩ := Regex.consumes_choice hspelled
  obtain ⟨name, hname, rfl⟩ := List.mem_map.mp hr
  obtain rfl : c = ':' := by simpa using hc
  exact ⟨name, hname, spelled, blanks, right ++ value, by simp, consumes_ignoringCase.mp hrw,
    Regex.consumes_star_char hblanks⟩

/-- Where a quote ends what might be a header, the header is before the quote. -/
theorem headerLine_of_append {text rest : List Char} {quote : Char}
    (hquote : quote ∈ ['"', '\'']) (h : HeaderLine (text ++ quote :: rest)) : HeaderLine text := by
  obtain ⟨name, hname, spelled, blanks, more, heq, hspelled, hblanks⟩ := h
  obtain ⟨hdouble, hsingle, -⟩ := spelled_outside name hname
  have hout : quote ∉ spelled ++ blanks ++ [':'] := by
    have hfold : foldCase quote = quote ∧ isSpace quote = false ∧ quote ≠ ':' ∧
        quote ∉ name.toList := by
      obtain rfl | rfl := List.mem_pair.mp hquote
      · exact ⟨by decide, by decide, by decide, hdouble⟩
      · exact ⟨by decide, by decide, by decide, hsingle⟩
    obtain ⟨hsame, hspace, hcolon, hname⟩ := hfold
    simp only [List.mem_append, List.mem_singleton, not_or]
    refine ⟨⟨?_, ?_⟩, hcolon⟩
    · intro hmem
      exact hname (by rw [← hspelled, ← hsame]; exact List.mem_map_of_mem hmem)
    · intro hmem
      rw [hblanks quote hmem] at hspace
      cases hspace
  have hprefix : spelled ++ blanks ++ [':'] ++ more = text ++ quote :: rest := by
    rw [heq]
    simp
  obtain ⟨t, ht, -⟩ | ⟨t, ht, hmore⟩ := List.append_eq_append_iff.mp hprefix
  · exact ⟨name, hname, spelled, blanks, t, by rw [ht]; simp, hspelled, hblanks⟩
  · cases t with
    | nil => exact ⟨name, hname, spelled, blanks, [], by simpa using ht.symm, hspelled, hblanks⟩
    | cons c t =>
      obtain rfl : quote = c := (List.cons.inj hmore).1
      exact absurd (by rw [ht]; simp) hout

/-- A redacted text is a header line only if the text is. -/
theorem headerLine_of_redactPem {text : List Char} (h : HeaderLine (redactPem text)) :
    HeaderLine text := by
  obtain ⟨name, hname, spelled, blanks, rest, heq, hspelled, hblanks⟩ := h
  have hout : '[' ∉ spelled ++ blanks ++ [':'] := by
    simp only [List.mem_append, List.mem_singleton, not_or]
    refine ⟨⟨?_, ?_⟩, by decide⟩
    · intro hmem
      have hfold : foldCase '[' ∈ name.toList := hspelled ▸ List.mem_map_of_mem hmem
      exact (spelled_outside name hname).2.2 hfold
    · intro hmem
      exact absurd (hblanks '[' hmem) (by decide)
  have hprefix : spelled ++ blanks ++ [':'] <+: redactPem text := ⟨rest, by rw [heq]; simp⟩
  obtain ⟨more, rfl⟩ := Regex.prefix_of_prefix_subFrom (fun _ => rfl) hout hprefix
  exact ⟨name, hname, spelled, blanks, more, by simp, hspelled, hblanks⟩

/-- The header rule leaves a line that is not a header line. -/
theorem redactHeader_of_not_headerLine {text : List Char} (hline : '\n' ∉ text)
    (h : ¬ HeaderLine text) : redactHeader text = text := by
  apply Regex.subFrom_of_none
  intro start after htext
  cases hm : matchAt headerSecret (start.reverse ++ []) after with
  | none => rfl
  | some m =>
    exfalso
    obtain ⟨w, hw, rfl⟩ := Regex.matchAt_over hm
    obtain rfl | ⟨start, c, rfl⟩ := List.eq_nil_or_concat start
    · obtain ⟨name, hname, spelled, blanks, rest, rfl, hspelled, hblanks⟩ :=
        consumes_headerSecret hw
      refine h ⟨name, hname, spelled, blanks, rest ++ m.after, ?_, hspelled, hblanks⟩
      rw [htext]
      simp
    · -- inside a line the anchor fails
      rw [List.concat_eq_append] at htext hm
      have hc : c ≠ '\n' := by
        rintro rfl
        exact hline (by rw [htext]; simp)
      have hnone : results headerSecret ⟨(start ++ [c]).reverse ++ [], w ++ m.after, []⟩ = [] := by
        change (results lineStart _).flatMap _ = []
        simp [lineStart, results, hc]
      rw [matchAt, first, hnone] at hm
      cases hm

/-! ### Lines that are no header lines -/

theorem newline_not_mem_redactPem {text : List Char} (h : '\n' ∉ text) : '\n' ∉ redactPem text := by
  intro hmem
  obtain hmem | ⟨-, hmem⟩ := Regex.mem_subFrom 0 hmem
  · exact h hmem
  · exact absurd hmem (by decide)

theorem newline_not_mem_text (lead : Lead) : '\n' ∉ lead.text := by
  have hkey : '\n' ∉ lead.key := fun hmem =>
    absurd ((made_secretKey lead.key lead.key_secret).2 _ hmem) (by decide)
  have hseparator : '\n' ≠ lead.separator := by
    intro h
    exact absurd (h ▸ lead.separator_mem) (by decide)
  simp only [Lead.text, List.mem_append, List.mem_singleton, List.mem_replicate, not_or]
  exact ⟨⟨⟨⟨lead.start_line, hkey⟩, fun h => absurd h.2 (by decide)⟩, hseparator⟩,
    fun h => absurd h.2 (by decide)⟩

/-- What follows a blank between the quotes is there at the end. -/
theorem suffix_redactChars (platform : Platform) {text tail : List Char} (hline : '\n' ∉ text)
    (hheader : ¬ HeaderLine text) (htail : '!' :: ' ' :: tail <:+ text) (hblunt : tail ⊆ blunt) :
    ' ' :: tail <:+ redactChars platform text := by
  have hblunt' : '!' :: ' ' :: tail ⊆ blunt := by
    simp only [List.cons_subset]
    exact ⟨by simp [blunt], by simp [blunt], hblunt⟩
  have hpem := suffix_redactPem htail hblunt'
  have hquiet : redactHeader (redactPem text) = redactPem text :=
    redactHeader_of_not_headerLine (newline_not_mem_redactPem hline)
      fun h => hheader (headerLine_of_redactPem h)
  have hbearer := suffix_redactBearer hpem hblunt'
  have hjwt := suffix_redactJwt platform hbearer hblunt'
  have hdatabase := suffix_redactDatabaseUrl platform hjwt hblunt'
  have hkey := suffix_redactKeyValue platform hdatabase hblunt
  have hurl := suffix_redactUrlQueries platform hkey hblunt
  rw [redactChars, hquiet]
  exact hurl

theorem quote_outside (lead : Lead) : lead.quote ≠ '!' ∧ lead.quote ≠ '?' ∧ lead.quote ≠ ' ' ∧
    lead.quote ≠ '\n' ∧ lead.quote ∈ blunt := by
  obtain h | h := List.mem_pair.mp lead.quote_mem
  · rw [h]
    exact ⟨by decide, by decide, by decide, by decide, by simp [blunt]⟩
  · rw [h]
    exact ⟨by decide, by decide, by decide, by decide, by simp [blunt]⟩

/-- A value with a blank in it. -/
theorem content_blank (lead : Lead) {c : Char} (hc : c = '!' ∨ c = '?') :
    Content lead ['!', ' ', c] := by
  obtain ⟨hmark, hquestion, hblank, -, -⟩ := quote_outside lead
  refine ⟨List.cons_ne_nil _ _, ?_, ?_⟩
  · obtain rfl | rfl := hc
    · simp [hmark, hblank]
    · simp [hmark, hquestion, hblank]
  · simp only [List.forall_mem_cons, List.not_mem_nil, IsEmpty.forall_iff, implies_true, and_true]
    obtain rfl | rfl := hc
    · decide
    · decide

/-- Outside header lines a value with a blank in it leaves what follows the blank. -/
theorem suffix_redactChars_blank (platform : Platform) {lead : Lead}
    (hheader : ¬ HeaderLine lead.text) {c : Char} (hc : c = '!' ∨ c = '?') :
    [' ', c, lead.quote] <:+ redactChars platform (lead.line ['!', ' ', c]) := by
  obtain ⟨-, -, -, hnewline, hquote⟩ := quote_outside lead
  have hblunt : c ∈ blunt ∧ '\n' ≠ c := by
    obtain rfl | rfl := hc
    · exact ⟨by simp [blunt], by decide⟩
    · exact ⟨by simp [blunt], by decide⟩
  refine suffix_redactChars platform ?_ ?_ ⟨lead.text ++ [lead.quote], by simp [Lead.line]⟩ ?_
  · simp [Lead.line, newline_not_mem_text lead, Ne.symm hnewline, hblunt.2]
  · intro hline
    have hline' : HeaderLine (lead.text ++ lead.quote :: ['!', ' ', c, lead.quote]) := by
      simpa [Lead.line] using hline
    exact hheader (headerLine_of_append lead.quote_mem hline')
  · simp [hblunt.1, hquote]

theorem headerLine_of_removesValue {platform : Platform} {lead : Lead}
    (h : RemovesValue platform lead) : HeaderLine lead.text := by
  by_contra hheader
  obtain ⟨x, hx⟩ := suffix_redactChars_blank platform hheader (.inl rfl)
  obtain ⟨y, hy⟩ := suffix_redactChars_blank platform hheader (.inr rfl)
  have hboth := h _ _ (content_blank lead (.inl rfl)) (content_blank lead (.inr rfl))
  rw [← hx, ← hy] at hboth
  have hlast := (List.append_inj' hboth rfl).2
  simp at hlast

/-! ### Header lines are redacted whole -/

theorem headerNames_apart : ∀ name ∈ headerNames, ∀ other ∈ headerNames,
    name.toList <+: other.toList → name = other := by
  decide

theorem headerNames_single_dash : ∀ name ∈ headerNames, ¬ ['-', '-'] <:+: name.toList := by
  decide

/-- The name and the colon of a header, with the blanks around the colon. -/
structure Heading (heading : List Char) where
  name : String
  spelled : List Char
  left : List Char
  right : List Char
  name_mem : name ∈ headerNames
  spelled_eq : spelled.map foldCase = name.toList
  left_blank : ∀ c ∈ left, isSpace c = true
  right_blank : ∀ c ∈ right, isSpace c = true
  eq : heading = spelled ++ (left ++ ':' :: right)

namespace Heading

variable {heading : List Char} (h : Heading heading)

include h

/-- In a heading no dash stands before a dash, or at the end. -/
theorem after_dash {rest : List Char} (hdash : '-' :: rest <:+ heading) :
    ∃ c more, rest = c :: more ∧ c ≠ '-' := by
  have hblank : '-' ∉ h.left ++ ':' :: h.right := by
    simp only [List.mem_append, List.mem_cons, not_or]
    refine ⟨?_, by decide, ?_⟩
    · exact fun hmem => absurd (h.left_blank _ hmem) (by decide)
    · exact fun hmem => absurd (h.right_blank _ hmem) (by decide)
  obtain ⟨d, tail, htail⟩ : ∃ d tail, h.left ++ ':' :: h.right = d :: tail := by
    cases hl : h.left ++ ':' :: h.right with
    | nil => simp at hl
    | cons d tail => exact ⟨d, tail, rfl⟩
  have hsuffix : h.left ++ ':' :: h.right <:+ heading := ⟨h.spelled, h.eq.symm⟩
  obtain hin | ⟨c, more, hmore⟩ := suffix_or_of_suffix hdash hsuffix
  · exact absurd (hin.subset List.mem_cons_self) hblank
  obtain ⟨rfl, rfl⟩ : '-' = c ∧ rest = more ++ (h.left ++ ':' :: h.right) := by
    simpa using hmore
  cases more with
  | nil =>
    refine ⟨d, tail, htail, ?_⟩
    rintro rfl
    exact hblank (by rw [htail]; exact List.mem_cons_self)
  | cons c more =>
    refine ⟨c, _, rfl, ?_⟩
    rintro rfl
    apply headerNames_single_dash h.name h.name_mem
    rw [← h.spelled_eq]
    obtain ⟨start, hstart⟩ := hdash
    have hspelled : start ++ '-' :: '-' :: more = h.spelled := by
      apply (List.append_left_inj (h.left ++ ':' :: h.right)).mp
      simpa using hstart.trans h.eq
    exact ⟨start.map foldCase, more.map foldCase, by simp [← hspelled, foldCase]⟩

end Heading

/-- A private key begins with two dashes. -/
theorem consumes_pemPrivateKey {w : List Char} (h : Consumes pemPrivateKey w) :
    ∃ rest, w = '-' :: '-' :: rest := by
  obtain ⟨u, v, rfl, hu, -⟩ := h
  obtain rfl := Regex.consumes_exactly.mp hu
  exact ⟨_, rfl⟩

theorem redactPem_heading {heading : List Char} (h : Heading heading) (text : List Char) :
    redactPem (heading ++ text) = heading ++
      pemPrivateKey.subFrom (fun _ => redacted.toList) 0 (heading.reverse ++ []) text := by
  refine Regex.subFrom_append ?_ []
  intro before after hne hafter
  cases hm : matchAt pemPrivateKey before (after ++ text) with
  | none => rfl
  | some m =>
    exfalso
    obtain ⟨w, hw, hword⟩ := Regex.matchAt_over hm
    obtain ⟨rest, rfl⟩ := consumes_pemPrivateKey hw
    obtain ⟨c, after, rfl⟩ := List.exists_cons_of_ne_nil hne
    obtain ⟨rfl, hrest⟩ : c = '-' ∧ after ++ text = '-' :: rest ++ m.after := by simpa using hword
    obtain ⟨d, more, rfl, hd⟩ := h.after_dash hafter
    exact hd (List.cons.inj hrest).1

/-- What the header rule finds: the heading, and the rest of the line. -/
def wholeLine (heading rest : List Char) : Match :=
  ⟨(heading ++ rest).reverse, [], [(1, heading)]⟩

/-- Only the name itself is found where a name stands. -/
theorem first_headerName {heading : List Char} (h : Heading heading) (rest : List Char) :
    first (choice (headerNames.map ignoringCase)) ⟨[], heading ++ rest, []⟩ =
      some ⟨h.spelled.reverse, h.left ++ ':' :: h.right ++ rest, []⟩ := by
  have hafter : heading ++ rest = h.spelled ++ (h.left ++ ':' :: h.right ++ rest) :=
    (congrArg (· ++ rest) h.eq).trans (by simp)
  have hname : first (ignoringCase h.name) ⟨[], heading ++ rest, []⟩ =
      some ⟨h.spelled.reverse, h.left ++ ':' :: h.right ++ rest, []⟩ := by
    have hliteral := Regex.first_literal (spells_ignoringCase.mpr h.spelled_eq) []
      (h.left ++ ':' :: h.right ++ rest) []
    rw [List.append_nil] at hliteral
    rw [hafter]
    exact hliteral
  refine Regex.first_choice ?_ ⟨_, List.mem_map_of_mem h.name_mem, hname⟩
  intro r hr
  obtain ⟨other, hother, rfl⟩ := List.mem_map.mp hr
  cases hm : first (ignoringCase other) ⟨[], heading ++ rest, []⟩ with
  | none => exact .inl rfl
  | some m =>
    refine .inr ?_
    obtain ⟨w, hw, hword⟩ := Regex.matchAt_over hm
    have hspelled := consumes_ignoringCase.mp hw
    -- of two names at one place the shorter one begins the longer one
    have hsame : h.name = other := by
      have hw' : w <+: heading ++ rest := ⟨_, hword.symm⟩
      have hs' : h.spelled <+: heading ++ rest := ⟨_, hafter.symm⟩
      obtain hle | hle := List.prefix_or_prefix_of_prefix hs' hw'
      · have hfold := hle.map foldCase
        rw [hspelled, h.spelled_eq] at hfold
        exact headerNames_apart _ h.name_mem _ hother hfold
      · have hfold := hle.map foldCase
        rw [hspelled, h.spelled_eq] at hfold
        exact (headerNames_apart _ hother _ h.name_mem hfold).symm
    rw [← hm, ← hsame]
    exact hname

/-- The header rule takes the whole line. -/
theorem matchAt_headerSecret {heading rest : List Char} {c : Char} (h : Heading heading)
    (hspace : isSpace c = false) (hline : '\n' ∉ c :: rest) :
    matchAt headerSecret [] (heading ++ c :: rest) = some (wholeLine heading (c :: rest)) := by
  have hcolon : isSpace ':' = false := by decide
  have hleft : first spaces ⟨h.spelled.reverse, h.left ++ ':' :: h.right ++ c :: rest, []⟩ =
      some ⟨h.left.reverse ++ h.spelled.reverse, ':' :: (h.right ++ c :: rest), []⟩ := by
    rw [List.append_assoc]
    exact Regex.first_star_append h.left_blank (by simpa using hcolon) _ _
  have hright : first spaces
      ⟨':' :: (h.left.reverse ++ h.spelled.reverse), h.right ++ c :: rest, []⟩ =
      some ⟨heading.reverse, c :: rest, []⟩ := by
    have hfirst := @Regex.first_star_append _ _ (c :: rest) h.right_blank
      (by simpa using hspace) (':' :: (h.left.reverse ++ h.spelled.reverse)) []
    have hreverse : heading.reverse =
        h.right.reverse ++ ':' :: (h.left.reverse ++ h.spelled.reverse) :=
      (congrArg List.reverse h.eq).trans (by simp)
    rw [hreverse]
    exact hfirst
  have hheading := Regex.first_seq (first_headerName h (c :: rest)) <| Regex.first_seq hleft <|
    Regex.first_seq (Regex.first_char (p := (· == ':')) (by decide) _ _ _) <|
    Regex.first_seq hright (s := .empty) rfl
  have hgroup := Regex.first_group 1 hheading
  have hbetween : Match.between ⟨[], heading ++ c :: rest, []⟩ ⟨heading.reverse, c :: rest, []⟩ =
      heading := by
    simp [Match.between]
  rw [hbetween] at hgroup
  have hnewline : ∀ d ∈ rest, (d != '\n') = true := by
    intro d hd
    have hne : d ≠ '\n' := fun heq => hline (heq ▸ List.mem_cons_of_mem _ hd)
    simpa using hne
  have hrest : first (plus (.char (· != '\n'))) ⟨heading.reverse, c :: rest, [(1, heading)]⟩ =
      some (wholeLine heading (c :: rest)) := by
    have hc : (c != '\n') = true := by simpa using Ne.symm (List.ne_of_not_mem_cons hline)
    have hstar := @Regex.first_star_append _ _ [] hnewline (by simp) (c :: heading.reverse)
      [(1, heading)]
    rw [List.append_nil] at hstar
    have hfirst := @Regex.first_char (· != '\n') c hc heading.reverse rest [(1, heading)]
    refine (Regex.first_seq hfirst hstar).trans ?_
    simp [wholeLine]
  have hend : first lineEnd (wholeLine heading (c :: rest)) =
      some (wholeLine heading (c :: rest)) := rfl
  exact Regex.first_seq (r := lineStart) rfl <| Regex.first_seq hgroup <|
    Regex.first_seq hrest <| Regex.first_seq hend (s := .empty) rfl

theorem redactHeader_heading {heading rest : List Char} {c : Char} (h : Heading heading)
    (hspace : isSpace c = false) (hline : '\n' ∉ c :: rest) :
    redactHeader (heading ++ c :: rest) = heading ++ redacted.toList := by
  have hm := matchAt_headerSecret h hspace hline
  obtain ⟨d, text, htext⟩ : ∃ d text, heading ++ c :: rest = d :: text := by
    cases ht : heading ++ c :: rest with
    | nil => simp at ht
    | cons d text => exact ⟨d, text, rfl⟩
  have hnone : matchAt headerSecret (text.reverse ++ [d]) [] = none := by
    cases hm : matchAt headerSecret (text.reverse ++ [d]) [] with
    | none => rfl
    | some m =>
      obtain ⟨w, hw, hword⟩ := Regex.matchAt_over hm
      obtain ⟨name, -, spelled, blanks, more, rfl, -⟩ := consumes_headerSecret hw
      simp at hword
  rw [htext] at hm ⊢
  have hsub := @Regex.subFrom_of_some _ keepGroup _ _ text [] _ (by simpa using hm) rfl
  rw [List.append_nil] at hsub
  have hkeep : keepGroup (wholeLine heading (c :: rest)) = heading ++ redacted.toList := rfl
  rw [redactHeader, Regex.sub, hsub, hkeep, Regex.subFrom, hnone, List.append_nil]

/-- The first character of a text is still there, or a mark is. -/
theorem redactPem_rest {heading rest : List Char} {c : Char} (h : Heading heading)
    (hspace : isSpace c = false) (hline : '\n' ∉ c :: rest) :
    ∃ d rest', redactPem (heading ++ c :: rest) = heading ++ d :: rest' ∧ isSpace d = false ∧
      '\n' ∉ d :: rest' := by
  rw [redactPem_heading h]
  generalize heading.reverse ++ [] = before
  have hnewline : '\n' ∉ pemPrivateKey.subFrom (fun _ => redacted.toList) 0 before (c :: rest) := by
    intro hmem
    obtain hmem | ⟨-, hmem⟩ := Regex.mem_subFrom 0 hmem
    · exact hline hmem
    · exact absurd hmem (by decide)
  unfold Regex.subFrom at hnewline ⊢
  split at hnewline
  next hm =>
    exact ⟨c, _, rfl, hspace, hnewline⟩
  next m hm =>
    split at hnewline
    · exact ⟨'[', _, rfl, by decide, hnewline⟩
    · exact ⟨'[', _, rfl, by decide, hnewline⟩

/-- What the quotes enclose, and what stands before them after the blanks of the heading. -/
theorem heading_of_headerLine {text : List Char} (h : HeaderLine text) {quote : Char}
    (hquote : isSpace quote = false) :
    ∃ heading, Nonempty (Heading heading) ∧ ∀ rest, ∃ c more,
      text ++ quote :: rest = heading ++ c :: more ∧ isSpace c = false := by
  obtain ⟨name, hname, spelled, blanks, rest, rfl, hspelled, hblanks⟩ := h
  have htake : ∀ c ∈ rest.takeWhile isSpace, isSpace c = true := fun _ => List.mem_takeWhile_imp
  refine ⟨spelled ++ (blanks ++ ':' :: rest.takeWhile isSpace),
    ⟨⟨name, spelled, blanks, _, hname, hspelled, hblanks, htake, rfl⟩⟩, fun more => ?_⟩
  have hsplit : rest = rest.takeWhile isSpace ++ rest.dropWhile isSpace :=
    (List.takeWhile_append_dropWhile).symm
  cases hdrop : rest.dropWhile isSpace with
  | nil =>
    rw [hdrop, List.append_nil] at hsplit
    exact ⟨quote, more, by rw [← hsplit]; simp, hquote⟩
  | cons c tail =>
    refine ⟨c, tail ++ quote :: more, ?_, ?_⟩
    · conv_lhs => rw [hsplit, hdrop]
      simp
    · have hhead := List.head?_dropWhile_not isSpace rest
      rw [hdrop] at hhead
      simpa using hhead

/-- On a header line the header rule removes the value. -/
theorem removesValue_of_headerLine (platform : Platform) {lead : Lead}
    (h : HeaderLine lead.text) : RemovesValue platform lead := by
  have hquote : isSpace lead.quote = false := by
    obtain h | h := List.mem_pair.mp lead.quote_mem
    · rw [h]
      decide
    · rw [h]
      decide
  obtain ⟨heading, ⟨hheading⟩, hrest⟩ := heading_of_headerLine h hquote
  have hheader {content : List Char} (hcontent : Content lead content) :
      redactHeader (redactPem (lead.line content)) = heading ++ redacted.toList := by
    obtain ⟨c, more, heq, hc⟩ := hrest (content ++ [lead.quote])
    have hnewline : '\n' ∉ lead.line content := by
      obtain ⟨-, -, -, hne, -⟩ := quote_outside lead
      have hmem : '\n' ∉ content := fun hmem => absurd (hcontent.line _ hmem) (by decide)
      simp [Lead.line, newline_not_mem_text lead, Ne.symm hne, hmem]
    have hline : lead.line content = heading ++ c :: more := by
      rw [← heq]
      simp [Lead.line]
    rw [hline] at hnewline ⊢
    obtain ⟨d, rest, hpem, hd, hout⟩ := redactPem_rest hheading hc
      fun hmem => hnewline (List.mem_append_right _ hmem)
    rw [hpem]
    exact redactHeader_heading hheading hd hout
  intro content other hcontent hother
  rw [redactChars, redactChars, hheader hcontent, hheader hother]

/-- A quoted value after a secret key is removed whole on header lines, and on no other line. -/
theorem removesValue_iff (platform : Platform) (lead : Lead) :
    RemovesValue platform lead ↔ HeaderLine lead.text :=
  ⟨headerLine_of_removesValue, removesValue_of_headerLine platform⟩

/-! ### A password with a blank in it -/

theorem consumes_password : Consumes secretKey "password".toList :=
  .inl (consumes_ignoringCase.mpr (by decide))

/-- `password="…"`. -/
def passwordLead : Lead where
  start := []
  key := "password".toList
  before := 0
  separator := '='
  after := 0
  quote := '"'
  start_line := List.not_mem_nil
  key_secret := consumes_password
  separator_mem := List.mem_cons_of_mem _ List.mem_cons_self
  quote_mem := List.mem_cons_self

theorem content_of_all {lead : Lead} {content : List Char} (hne : content ≠ [])
    (hquote : lead.quote ∉ content) (hline : (content.all fun c => !isLineBreak c) = true) :
    Content lead content :=
  ⟨hne, hquote, fun c hc => by simpa using List.all_eq_true.mp hline c hc⟩

theorem passwordLead_leaks : ¬ RemovesValue asciiPlatform passwordLead := by
  intro h
  have hsame := h "my secret".toList "my wallet".toList
    (content_of_all (by decide) (by decide) (by decide))
    (content_of_all (by decide) (by decide) (by decide))
  have hsecret : redactChars asciiPlatform (passwordLead.line "my secret".toList) =
      "password=[REDACTED] secret\"".toList := by decide +kernel
  have hwallet : redactChars asciiPlatform (passwordLead.line "my wallet".toList) =
      "password=[REDACTED] wallet\"".toList := by decide +kernel
  rw [hsecret, hwallet] at hsame
  exact absurd hsame (by decide)

end VpsGuardian.Redaction
