import Mathlib

/-!
Regular expressions with the order of preference of a backtracking matcher.

`results` lists the matches at a position in the order in which backtracking
tries them, so a match is the first result, and an expression that follows sees
the others only after the first has failed. `Consumes` is the language of an
expression without regard to preference and to what stands around the match;
every result consumes a word of it.
-/

namespace VpsGuardian.Lib

inductive Regex where
  | empty
  | char (p : Char → Bool)
  | seq (r s : Regex)
  | alt (r s : Regex)
  | star (greedy : Bool) (r : Regex)
  /-- A condition on the characters on either side. -/
  | look (p : Option Char → Option Char → Bool)
  | group (number : Nat) (r : Regex)

namespace Regex

/-- A position in a text, with what stands before it backwards, and the groups so far. -/
structure Match where
  before : List Char
  after : List Char
  groups : List (Nat × List Char)
  deriving DecidableEq, Repr

/-- The text between two positions. -/
def Match.between (start stop : Match) : List Char :=
  start.after.take (start.after.length - stop.after.length)

/-- The text of a group; empty where it took no part. -/
def Match.groupText (m : Match) (number : Nat) : List Char := (m.groups.lookup number).getD []

/-- Repetitions of a step that makes progress. -/
def repeats (greedy : Bool) (f : Match → List Match) : Nat → Match → List Match
  | 0, m => [m]
  | fuel + 1, m =>
      let more := ((f m).filter fun next => next.after.length < m.after.length).flatMap
        (repeats greedy f fuel)
      if greedy then more ++ [m] else m :: more

/-- The matches from a position on, the preferred one first. -/
def results : Regex → Match → List Match
  | .empty, m => [m]
  | .char p, m =>
      match m.after with
      | [] => []
      | c :: after => if p c then [{ m with before := c :: m.before, after := after }] else []
  | .seq r s, m => (results r m).flatMap (results s)
  | .alt r s, m => results r m ++ results s m
  | .star greedy r, m => repeats greedy (results r) m.after.length m
  | .look p, m => if p m.before.head? m.after.head? then [m] else []
  | .group number r, m => (results r m).map fun next =>
      { next with groups := (number, m.between next) :: next.groups }

/-- The match at a position. -/
def first (r : Regex) (m : Match) : Option Match := (results r m).head?

def matchAt (r : Regex) (before after : List Char) : Option Match := first r ⟨before, after, []⟩

/-- `sub`: every match is replaced, from left to right. The first argument counts the
characters that belong to a match already replaced. -/
def subFrom (r : Regex) (replace : Match → List Char) : Nat → List Char → List Char → List Char
  | 0, before, [] =>
      match matchAt r before [] with
      | some m => replace m
      | none => []
  | _ + 1, _, [] => []
  | skip + 1, before, c :: after => subFrom r replace skip (c :: before) after
  | 0, before, c :: after =>
      match matchAt r before (c :: after) with
      | none => c :: subFrom r replace 0 (c :: before) after
      | some m =>
          match (c :: after).length - m.after.length with
          | 0 => replace m ++ c :: subFrom r replace 0 (c :: before) after
          | taken + 1 => replace m ++ subFrom r replace taken (c :: before) after

def sub (r : Regex) (replace : Match → List Char) (text : List Char) : List Char :=
  subFrom r replace 0 [] text

/-! ### Abbreviations -/

def sequence (rs : List Regex) : Regex := rs.foldr .seq .empty

/-- The first of some alternatives, in their order. -/
def choice : List Regex → Regex
  | [] => .char fun _ => false
  | [r] => r
  | r :: rs => .alt r (choice rs)

def optional (r : Regex) : Regex := .alt r .empty

def plus (r : Regex) : Regex := .seq r (.star true r)

def atLeast (count : Nat) (r : Regex) : Regex :=
  .seq (sequence (List.replicate count r)) (.star true r)

/-- The characters of a text, one after the other, up to a notion of sameness. -/
def literal (same : Char → Char → Bool) (text : String) : Regex :=
  sequence (text.toList.map fun c => .char (same c))

def exactly (text : String) : Regex := literal (fun c d => c == d) text

/-- Repetitions up to a number of times. -/
def upTo : Nat → Regex → Regex
  | 0, _ => .empty
  | count + 1, r => optional (.seq r (upTo count r))

/-- The start and the end of a text, without regard to lines. -/
def textStart : Regex := .look fun before _ => before == none

def textEnd : Regex := .look fun _ after => after == none

/-- `$`, as the last thing in a pattern: a newline may end the text. -/
def dollar : Regex := .alt textEnd (sequence [.char (· == '\n'), textEnd])

/-- `search`: there is a match somewhere. -/
def searchFrom (r : Regex) : List Char → List Char → Bool
  | before, [] => (matchAt r before []).isSome
  | before, c :: after => (matchAt r before (c :: after)).isSome || searchFrom r (c :: before) after

def search (r : Regex) (text : String) : Bool := searchFrom r [] text.toList

/-! ### The language -/

/-- The words an expression can consume. -/
def Consumes : Regex → List Char → Prop
  | .empty, w => w = []
  | .char p, w => ∃ c, p c = true ∧ w = [c]
  | .seq r s, w => ∃ u v, w = u ++ v ∧ Consumes r u ∧ Consumes s v
  | .alt r s, w => Consumes r w ∨ Consumes s w
  | .star _ r, w => ∃ words : List (List Char), w = words.flatten ∧ ∀ u ∈ words, Consumes r u
  | .look _, w => w = []
  | .group _ r, w => Consumes r w

/-- One position is reached from another over a word. -/
structure Over (w : List Char) (m next : Match) : Prop where
  after : m.after = w ++ next.after
  before : next.before = w.reverse ++ m.before

theorem Over.nil (m : Match) : Over [] m m := ⟨rfl, rfl⟩

theorem Over.append {u v : List Char} {a b c : Match} (hab : Over u a b) (hbc : Over v b c) :
    Over (u ++ v) a c where
  after := by rw [hab.after, hbc.after, List.append_assoc]
  before := by rw [hbc.before, hab.before, List.reverse_append, List.append_assoc]

theorem repeats_over {f : Match → List Match} {P : List Char → Prop} (greedy : Bool)
    (hf : ∀ m, ∀ next ∈ f m, ∃ w, P w ∧ Over w m next) (fuel : Nat) {m next : Match}
    (h : next ∈ repeats greedy f fuel m) :
    ∃ words : List (List Char), (∀ u ∈ words, P u) ∧ Over words.flatten m next := by
  induction fuel generalizing m with
  | zero =>
    obtain rfl := List.mem_singleton.mp h
    exact ⟨[], by simp, Over.nil _⟩
  | succ fuel ih =>
    have hcases : next = m ∨ ∃ middle ∈ f m, next ∈ repeats greedy f fuel middle := by
      cases greedy with
      | true =>
        obtain h | h := List.mem_append.mp h
        · obtain ⟨middle, hmiddle, hnext⟩ := List.mem_flatMap.mp h
          exact .inr ⟨middle, (List.mem_filter.mp hmiddle).1, hnext⟩
        · exact .inl (List.mem_singleton.mp h)
      | false =>
        obtain h | h := List.mem_cons.mp h
        · exact .inl h
        · obtain ⟨middle, hmiddle, hnext⟩ := List.mem_flatMap.mp h
          exact .inr ⟨middle, (List.mem_filter.mp hmiddle).1, hnext⟩
    obtain rfl | ⟨middle, hmiddle, hnext⟩ := hcases
    · exact ⟨[], by simp, Over.nil _⟩
    · obtain ⟨w, hw, hover⟩ := hf m middle hmiddle
      obtain ⟨words, hwords, hrest⟩ := ih hnext
      refine ⟨w :: words, ?_, ?_⟩
      · simpa [or_imp, forall_and] using ⟨hw, hwords⟩
      · simpa using hover.append hrest

/-- Every result consumes a word of the language. -/
theorem results_over (r : Regex) {m next : Match} (h : next ∈ results r m) :
    ∃ w, Consumes r w ∧ Over w m next := by
  induction r generalizing m next with
  | empty =>
    obtain rfl := List.mem_singleton.mp h
    exact ⟨[], rfl, Over.nil _⟩
  | char p =>
    unfold results at h
    split at h
    · cases h
    next c after hafter =>
      split at h
      next hp =>
        obtain rfl := List.mem_singleton.mp h
        exact ⟨[c], ⟨c, hp, rfl⟩, ⟨hafter, rfl⟩⟩
      · cases h
  | seq r s ihr ihs =>
    obtain ⟨middle, hmiddle, hnext⟩ := List.mem_flatMap.mp h
    obtain ⟨u, hu, hfirst⟩ := ihr hmiddle
    obtain ⟨v, hv, hsecond⟩ := ihs hnext
    exact ⟨u ++ v, ⟨u, v, rfl, hu, hv⟩, hfirst.append hsecond⟩
  | alt r s ihr ihs =>
    obtain h | h := List.mem_append.mp h
    · obtain ⟨w, hw, hover⟩ := ihr h
      exact ⟨w, .inl hw, hover⟩
    · obtain ⟨w, hw, hover⟩ := ihs h
      exact ⟨w, .inr hw, hover⟩
  | star greedy r ih =>
    obtain ⟨words, hwords, hover⟩ := repeats_over greedy (fun m next => ih) _ h
    exact ⟨words.flatten, ⟨words, rfl, hwords⟩, hover⟩
  | look p =>
    unfold results at h
    split at h
    · obtain rfl := List.mem_singleton.mp h
      exact ⟨[], rfl, Over.nil _⟩
    · cases h
  | group number r ih =>
    obtain ⟨inner, hinner, rfl⟩ := List.mem_map.mp h
    obtain ⟨w, hw, hover⟩ := ih hinner
    exact ⟨w, hw, ⟨hover.after, hover.before⟩⟩

theorem matchAt_over {r : Regex} {before after : List Char} {m : Match}
    (h : matchAt r before after = some m) : ∃ w, Consumes r w ∧ after = w ++ m.after := by
  obtain ⟨w, hw, hover⟩ := results_over r (List.mem_of_mem_head? h)
  exact ⟨w, hw, hover.after⟩

/-! ### Words -/

theorem consumes_star_char {greedy : Bool} {p : Char → Bool} {w : List Char}
    (h : Consumes (.star greedy (.char p)) w) : ∀ c ∈ w, p c = true := by
  obtain ⟨words, rfl, hwords⟩ := h
  intro c hc
  obtain ⟨word, hword, hmem⟩ := List.mem_flatten.mp hc
  obtain ⟨d, hd, rfl⟩ := hwords word hword
  rwa [List.mem_singleton.mp hmem]

theorem consumes_plus {r : Regex} {w : List Char} (h : Consumes (plus r) w) :
    ∃ words : List (List Char), w = words.flatten ∧ ∀ u ∈ words, Consumes r u := by
  obtain ⟨u, _, rfl, hu, words, rfl, hwords⟩ := h
  exact ⟨u :: words, rfl, List.forall_mem_cons.mpr ⟨hu, hwords⟩⟩

theorem consumes_plus_char {p : Char → Bool} {w : List Char} (h : Consumes (plus (.char p)) w) :
    w ≠ [] ∧ ∀ c ∈ w, p c = true := by
  obtain ⟨u, v, rfl, ⟨c, hc, rfl⟩, hv⟩ := h
  refine ⟨by simp, ?_⟩
  simpa [hc] using consumes_star_char hv

theorem consumes_literal {same : Char → Char → Bool} {text w : List Char} :
    Consumes (sequence (text.map fun c => .char (same c))) w ↔
      List.Forall₂ (fun c d => same c d = true) text w := by
  constructor
  · intro h
    induction text generalizing w with
    | nil =>
      obtain rfl : w = [] := h
      exact .nil
    | cons c text ih =>
      obtain ⟨u, v, rfl, ⟨d, hd, rfl⟩, hv⟩ := h
      exact .cons hd (ih hv)
  · intro h
    induction h with
    | nil => rfl
    | cons hd _ ih => exact ⟨[_], _, rfl, ⟨_, hd, rfl⟩, ih⟩

theorem consumes_exactly {text : String} {w : List Char} :
    Consumes (exactly text) w ↔ w = text.toList := by
  refine consumes_literal.trans ?_
  simp only [beq_iff_eq]
  rw [List.forall₂_eq_eq_eq, eq_comm]

theorem consumes_choice {rs : List Regex} {w : List Char} (h : Consumes (choice rs) w) :
    ∃ r ∈ rs, Consumes r w := by
  induction rs with
  | nil =>
    obtain ⟨c, hc, -⟩ := h
    cases hc
  | cons r rs ih =>
    cases rs with
    | nil => exact ⟨r, by simp, h⟩
    | cons s rs =>
      obtain h | h := h
      · exact ⟨r, by simp, h⟩
      · obtain ⟨t, ht, hw⟩ := ih h
        exact ⟨t, List.mem_cons_of_mem _ ht, hw⟩

/-- Every word ends with a character of a kind. -/
def Ends (r : Regex) (P : Char → Prop) : Prop :=
  ∀ w, Consumes r w → ∃ c, w.getLast? = some c ∧ P c

theorem Ends.seq_right {r s : Regex} {P : Char → Prop} (h : Ends s P) : Ends (.seq r s) P := by
  rintro w ⟨u, v, rfl, -, hv⟩
  obtain ⟨c, hc, hP⟩ := h v hv
  exact ⟨c, by rw [List.getLast?_append, hc]; rfl, hP⟩

/-- What follows may be empty, and else consists of such characters. -/
theorem Ends.seq_left {r s : Regex} {P : Char → Prop} (h : Ends r P)
    (hs : ∀ w, Consumes s w → ∀ c ∈ w, P c) : Ends (.seq r s) P := by
  rintro w ⟨u, v, rfl, hu, hv⟩
  obtain ⟨c, hc, hP⟩ := h u hu
  cases hlast : v.getLast? with
  | none => exact ⟨c, by rw [List.getLast?_append, hlast]; exact hc, hP⟩
  | some d =>
    exact ⟨d, by rw [List.getLast?_append, hlast]; rfl, hs v hv d (List.mem_of_getLast? hlast)⟩

theorem Ends.char {p : Char → Bool} : Ends (.char p) (p · = true) := by
  rintro w ⟨c, hc, rfl⟩
  exact ⟨c, rfl, hc⟩

theorem Ends.last {r : Regex} {P : Char → Prop} (h : Ends r P) : Ends (.seq r .empty) P :=
  h.seq_left fun w hw => by
    obtain rfl : w = [] := hw
    nofun

theorem Ends.group {number : Nat} {r : Regex} {P : Char → Prop} (h : Ends r P) :
    Ends (.group number r) P := h

theorem Ends.mono {r : Regex} {P Q : Char → Prop} (h : Ends r P) (hPQ : ∀ c, P c → Q c) :
    Ends r Q := fun w hw => (h w hw).imp fun c hc => ⟨hc.1, hPQ c hc.2⟩

theorem Ends.plus {p : Char → Bool} : Ends (plus (.char p)) (p · = true) :=
  Ends.char.seq_left fun _ hw => consumes_star_char hw

theorem Ends.atLeast {p : Char → Bool} (count : Nat) :
    Ends (atLeast (count + 1) (.char p)) (p · = true) := by
  refine Ends.seq_left ?_ fun _ hw => consumes_star_char hw
  induction count with
  | zero => exact Ends.char.last
  | succ count ih => exact ih.seq_right

/-! ### Searching -/

theorem mem_results_seq {r s : Regex} {m next : Match} :
    next ∈ results (.seq r s) m ↔ ∃ middle ∈ results r m, next ∈ results s middle :=
  List.mem_flatMap

theorem mem_results_look {p : Option Char → Option Char → Bool} {m next : Match} :
    next ∈ results (.look p) m ↔ p m.before.head? m.after.head? = true ∧ next = m := by
  rw [results]
  split <;> simp_all

theorem results_of_searchFrom {r : Regex} {before text : List Char}
    (h : searchFrom r before text = true) : ∃ start after next, text = start ++ after ∧
      next ∈ results r ⟨start.reverse ++ before, after, []⟩ := by
  have hfound {before after : List Char} (h : (matchAt r before after).isSome = true) :
      ∃ next, next ∈ results r ⟨before, after, []⟩ := by
    obtain ⟨next, hnext⟩ := Option.isSome_iff_exists.mp h
    exact ⟨next, List.mem_of_mem_head? hnext⟩
  induction text generalizing before with
  | nil =>
    obtain ⟨next, hnext⟩ := hfound h
    exact ⟨[], [], next, rfl, hnext⟩
  | cons c text ih =>
    rw [searchFrom, Bool.or_eq_true] at h
    obtain h | h := h
    · obtain ⟨next, hnext⟩ := hfound h
      exact ⟨[], c :: text, next, rfl, hnext⟩
    · obtain ⟨start, after, next, rfl, hnext⟩ := ih h
      exact ⟨c :: start, after, next, rfl, by simpa using hnext⟩

/-- A pattern between the two anchors. The final newline is not part of the word. -/
theorem consumes_of_search {r : Regex} {text : String}
    (h : search (sequence [textStart, r, dollar]) text = true) :
    ∃ w, Consumes r w ∧ (text.toList = w ∨ text.toList = w ++ ['\n']) := by
  obtain ⟨start, after, next, htext, hnext⟩ := results_of_searchFrom h
  obtain ⟨m, hm, hnext⟩ := mem_results_seq.mp hnext
  obtain ⟨hstart, rfl⟩ := mem_results_look.mp hm
  obtain ⟨stop, hstop, hnext⟩ := mem_results_seq.mp hnext
  obtain ⟨w, hw, hover⟩ := results_over r hstop
  obtain ⟨last, hlast, -⟩ := mem_results_seq.mp hnext
  obtain rfl : start = [] := by simpa using hstart
  obtain rfl : after = text.toList := htext.symm
  refine ⟨w, hw, ?_⟩
  have hafter : text.toList = w ++ stop.after := hover.after
  obtain hend | hend := List.mem_append.mp hlast
  · obtain ⟨hnil, -⟩ := mem_results_look.mp hend
    have hempty : stop.after = [] := by simpa using hnil
    exact .inl (by rw [hafter, hempty, List.append_nil])
  · obtain ⟨newline, hnewline, hend⟩ := mem_results_seq.mp hend
    obtain ⟨u, ⟨c, hc, rfl⟩, hchar⟩ := results_over _ hnewline
    obtain ⟨final, hfinal, -⟩ := mem_results_seq.mp hend
    obtain ⟨hnil, -⟩ := mem_results_look.mp hfinal
    have hempty : newline.after = [] := by simpa using hnil
    obtain rfl : c = '\n' := by simpa using hc
    exact .inr (by rw [hafter, hchar.after, hempty, List.append_nil])

/-! ### Replacing -/

/-- A text in which an expression matches nowhere is left as it is. -/
theorem subFrom_of_none {r : Regex} {replace : Match → List Char} {before text : List Char}
    (h : ∀ start after, text = start ++ after → matchAt r (start.reverse ++ before) after = none) :
    subFrom r replace 0 before text = text := by
  induction text generalizing before with
  | nil =>
    have hnone := h [] [] rfl
    simp only [List.reverse_nil, List.nil_append] at hnone
    simp [subFrom, hnone]
  | cons c text ih =>
    have hnone := h [] (c :: text) rfl
    simp only [List.reverse_nil, List.nil_append] at hnone
    rw [subFrom, hnone]
    refine congrArg (c :: ·) (ih ?_)
    rintro start after rfl
    simpa using h (c :: start) after rfl

/-- Skipping the rest of a match that has been replaced. -/
theorem subFrom_skip (r : Regex) (replace : Match → List Char) (word before after : List Char) :
    subFrom r replace word.length before (word ++ after) =
      subFrom r replace 0 (word.reverse ++ before) after := by
  induction word generalizing before with
  | nil => rfl
  | cons c word ih =>
    rw [List.length_cons, List.cons_append, subFrom, ih, List.reverse_cons, List.append_assoc,
      List.singleton_append]

/-- The replacement at a position where there is a match that is not empty. -/
theorem subFrom_of_some {r : Regex} {replace : Match → List Char} {before : List Char} {c : Char}
    {word after : List Char} {m : Match} (h : matchAt r before (c :: word ++ after) = some m)
    (hafter : m.after = after) :
    subFrom r replace 0 before (c :: word ++ after) =
      replace m ++ subFrom r replace 0 (word.reverse ++ c :: before) after := by
  have htaken : (c :: (word ++ after)).length - m.after.length = word.length + 1 := by
    rw [hafter, List.length_cons, List.length_append]
    omega
  rw [List.cons_append] at h ⊢
  rw [subFrom, h]
  simp only [htaken]
  rw [subFrom_skip]

/-- What stands at the end of a text and is reached by no match stands there afterwards. -/
theorem suffix_subFrom {r : Regex} {replace : Match → List Char} {tail text : List Char}
    (htail : tail <:+ text)
    (hpass : ∀ before after m, after <:+ text → tail <:+ after → matchAt r before after = some m →
      tail <:+ m.after)
    (hnone : ∀ before after, after <:+ tail → matchAt r before after = none)
    (before : List Char) : tail <:+ subFrom r replace 0 before text := by
  generalize hlength : text.length = length
  induction length using Nat.strongRecOn generalizing before text with
  | ind length ih =>
    by_cases heq : text = tail
    · subst heq
      rw [subFrom_of_none fun start after h => hnone _ after ⟨start, h.symm⟩]
    cases text with
    | nil => exact absurd (List.suffix_nil.mp htail).symm heq
    | cons c text =>
      have hrest : tail <:+ text := (List.suffix_cons_iff.mp htail).resolve_left (Ne.symm heq)
      have hpass' {rest : List Char} (hrest : rest <:+ text) : ∀ before after m, after <:+ rest →
          tail <:+ after → matchAt r before after = some m → tail <:+ m.after :=
        fun before after m hafter =>
          hpass before after m (hafter.trans (hrest.trans (List.suffix_cons c text)))
      rw [subFrom]
      cases hm : matchAt r before (c :: text) with
      | none =>
        have hnext := ih text.length (by simp [← hlength]) hrest (hpass' (List.suffix_refl _))
          (c :: before) rfl
        exact hnext.trans (List.suffix_cons _ _)
      | some m =>
        obtain ⟨word, -, hword⟩ := matchAt_over hm
        have hafter := hpass before _ m (List.suffix_refl _) htail hm
        cases word with
        | nil =>
          have hzero : (c :: text).length - m.after.length = 0 := by simp [hword]
          simp only [hzero]
          have hnext := ih text.length (by simp [← hlength]) hrest (hpass' (List.suffix_refl _))
            (c :: before) rfl
          exact hnext.trans ((List.suffix_cons _ _).trans (List.suffix_append _ _))
        | cons d word =>
          obtain ⟨rfl, rfl⟩ : c = d ∧ text = word ++ m.after := by simpa using hword
          have htaken : (c :: (word ++ m.after)).length - m.after.length = word.length + 1 := by
            rw [List.length_cons, List.length_append]
            omega
          simp only [htaken]
          rw [subFrom_skip]
          have hnext := ih m.after.length (by simp [← hlength]) hafter
            (hpass' (List.suffix_append _ _)) (word.reverse ++ c :: before) rfl
          exact hnext.trans (List.suffix_append _ _)

/-- The same where no word of the language ends with a character of the tail. -/
theorem suffix_subFrom_of_last {r : Regex} {replace : Match → List Char} {tail text : List Char}
    (htail : tail <:+ text) (hlast : Ends r (· ∉ tail)) (before : List Char) :
    tail <:+ subFrom r replace 0 before text := by
  have hword {before after : List Char} {m : Match} (hm : matchAt r before after = some m) :
      ∃ u c, c ∉ tail ∧ after = u ++ [c] ++ m.after := by
    obtain ⟨w, hw, hafter⟩ := matchAt_over hm
    obtain ⟨c, hc, hout⟩ := hlast w hw
    obtain ⟨u, rfl⟩ := List.getLast?_eq_some_iff.mp hc
    exact ⟨u, c, hout, hafter⟩
  refine suffix_subFrom htail ?_ ?_ before
  · intro before after m _ hin hm
    obtain ⟨u, c, hout, rfl⟩ := hword hm
    -- of the tail and what follows the word, the longer one ends with the other
    obtain hle | hle := List.suffix_or_suffix_of_suffix hin (List.suffix_append _ _)
    · exact hle
    · obtain ⟨v, rfl⟩ := hle
      obtain rfl | ⟨v, d, rfl⟩ := List.eq_nil_or_concat v
      · exact List.suffix_refl _
      · obtain ⟨x, hx⟩ := hin
        have hsame : x ++ v ++ [d] = u ++ [c] := by
          apply (List.append_left_inj m.after).mp
          simpa [List.append_assoc] using hx
        obtain rfl := (List.append_inj' hsame rfl).2 |> List.singleton_injective
        exact absurd (by simp) hout
  · intro before after hin
    cases hm : matchAt r before after with
    | none => rfl
    | some m =>
      obtain ⟨u, c, hout, rfl⟩ := hword hm
      exact absurd (hin.subset (by simp)) hout

/-- A text is unchanged up to where matches may begin. -/
theorem subFrom_append {r : Regex} {replace : Match → List Char} {start text : List Char}
    (h : ∀ before after, after ≠ [] → after <:+ start →
      matchAt r before (after ++ text) = none) (before : List Char) :
    subFrom r replace 0 before (start ++ text) =
      start ++ subFrom r replace 0 (start.reverse ++ before) text := by
  induction start generalizing before with
  | nil => rfl
  | cons c start ih =>
    have hnone := h before (c :: start) (List.cons_ne_nil _ _) (List.suffix_refl _)
    rw [List.cons_append] at hnone
    rw [List.cons_append, subFrom, hnone]
    dsimp only
    rw [ih fun before after hne hafter => h before after hne (hafter.trans (List.suffix_cons _ _))]
    simp

/-- Characters come from the text or from a replacement. -/
theorem mem_subFrom {r : Regex} {replace : Match → List Char} {text : List Char} {c : Char}
    (skip : Nat) {before : List Char} (h : c ∈ subFrom r replace skip before text) :
    c ∈ text ∨ ∃ m, c ∈ replace m := by
  induction text generalizing skip before with
  | nil =>
    cases skip with
    | zero =>
      unfold subFrom at h
      split at h
      next m _ => exact .inr ⟨m, h⟩
      · cases h
    | succ skip => cases h
  | cons d text ih =>
    have hrest {skip : Nat} {before : List Char} (h : c ∈ subFrom r replace skip before text) :
        c ∈ d :: text ∨ ∃ m, c ∈ replace m := (ih skip h).imp_left (List.mem_cons_of_mem _)
    cases skip with
    | succ skip => exact hrest h
    | zero =>
      unfold subFrom at h
      split at h
      · obtain rfl | h := List.mem_cons.mp h
        · exact .inl List.mem_cons_self
        · exact hrest h
      next m _ =>
        split at h
        · obtain h | h := List.mem_append.mp h
          · exact .inr ⟨m, h⟩
          · obtain rfl | h := List.mem_cons.mp h
            · exact .inl List.mem_cons_self
            · exact hrest h
        · obtain h | h := List.mem_append.mp h
          · exact .inr ⟨m, h⟩
          · exact hrest h

/-- How a result begins, up to the first replacement, the text begins. -/
theorem prefix_of_prefix_subFrom {r : Regex} {replace : Match → List Char} {mark : Char}
    (hmark : ∀ m, (replace m).head? = some mark) {start text before : List Char}
    (hstart : mark ∉ start) (h : start <+: subFrom r replace 0 before text) : start <+: text := by
  induction start generalizing text before with
  | nil => exact List.nil_prefix
  | cons c start ih =>
    have hne : mark ≠ c := List.ne_of_not_mem_cons hstart
    have hreplaced {m : Match} {rest : List Char} : ¬ c :: start <+: replace m ++ rest := by
      intro hprefix
      obtain ⟨word, hword⟩ : ∃ word, replace m = mark :: word := by
        have hm := hmark m
        cases hr : replace m with
        | nil => simp [hr] at hm
        | cons d word => exact ⟨word, by simpa [hr] using hm⟩
      rw [hword, List.cons_append, List.cons_prefix_cons] at hprefix
      exact hne hprefix.1.symm
    cases text with
    | nil =>
      unfold subFrom at h
      split at h
      next m _ => exact absurd (by simpa using h) (@hreplaced m [])
      · exact absurd h (by simp)
    | cons d text =>
      unfold subFrom at h
      split at h
      · obtain ⟨rfl, hrest⟩ := List.cons_prefix_cons.mp h
        exact List.cons_prefix_cons.mpr ⟨rfl, ih (List.not_mem_of_not_mem_cons hstart) hrest⟩
      next m _ =>
        split at h
        · exact absurd h hreplaced
        · exact absurd h hreplaced

/-! ### Preference -/

theorem head?_flatMap_of_head? {α β : Type} {items : List α} {f : α → List β} {a : α} {b : β}
    (ha : items.head? = some a) (hb : (f a).head? = some b) :
    (items.flatMap f).head? = some b := by
  cases items with
  | nil => cases ha
  | cons item items =>
    obtain rfl := Option.some.inj ha
    rw [List.flatMap_cons, List.head?_append, hb]
    rfl

theorem first_seq {r s : Regex} {m middle next : Match} (hr : first r m = some middle)
    (hs : first s middle = some next) : first (.seq r s) m = some next :=
  head?_flatMap_of_head? hr hs

theorem first_alt_left {r s : Regex} {m next : Match} (h : first r m = some next) :
    first (.alt r s) m = some next := by
  rw [first, results, List.head?_append]
  rw [first] at h
  rw [h]
  rfl

theorem first_alt_right {r s : Regex} {m : Match} (h : first r m = none) :
    first (.alt r s) m = first s m := by
  rw [first, List.head?_eq_none_iff] at h
  rw [first, results, h]
  rfl

theorem first_char {p : Char → Bool} {c : Char} (h : p c = true) (before rest : List Char)
    (groups : List (Nat × List Char)) :
    first (.char p) ⟨before, c :: rest, groups⟩ = some ⟨c :: before, rest, groups⟩ := by
  simp [first, results, h]

theorem first_group {r : Regex} {m next : Match} (number : Nat) (h : first r m = some next) :
    first (.group number r) m =
      some { next with groups := (number, m.between next) :: next.groups } := by
  rw [first] at h
  rw [first, results, List.head?_map, h]
  rfl

theorem first_literal {same : Char → Char → Bool} {text word : List Char}
    (h : List.Forall₂ (fun c d => same c d = true) text word) (before rest : List Char)
    (groups : List (Nat × List Char)) :
    first (sequence (text.map fun c => .char (same c))) ⟨before, word ++ rest, groups⟩ =
      some ⟨word.reverse ++ before, rest, groups⟩ := by
  induction h generalizing before with
  | nil => rfl
  | cons hsame _ ih =>
    refine (first_seq (first_char hsame _ _ _) (ih _)).trans ?_
    simp

/-- Alternatives that either fail or agree. -/
theorem first_choice {rs : List Regex} {m next : Match}
    (hall : ∀ r ∈ rs, first r m = none ∨ first r m = some next)
    (hsome : ∃ r ∈ rs, first r m = some next) : first (choice rs) m = some next := by
  induction rs with
  | nil =>
    obtain ⟨r, hr, -⟩ := hsome
    cases hr
  | cons r rs ih =>
    cases rs with
    | nil =>
      obtain ⟨s, hs, hnext⟩ := hsome
      obtain rfl := List.mem_singleton.mp hs
      exact hnext
    | cons s rs =>
      obtain hr | hr := hall r List.mem_cons_self
      · refine (first_alt_right hr).trans (ih (fun t ht => hall t (List.mem_cons_of_mem _ ht)) ?_)
        obtain ⟨t, ht, hnext⟩ := hsome
        obtain rfl | ht := List.mem_cons.mp ht
        · rw [hr] at hnext
          cases hnext
        · exact ⟨t, ht, hnext⟩
      · exact first_alt_left hr

/-- The position after the longest run of characters of a class. -/
def Match.skip (p : Char → Bool) (m : Match) : Match :=
  { m with
    before := (m.after.takeWhile p).reverse ++ m.before
    after := m.after.dropWhile p }

/-- A greedy repetition of one class prefers the longest run. -/
theorem first_star_char (p : Char → Bool) (m : Match) :
    first (.star true (.char p)) m = some (m.skip p) := by
  obtain ⟨before, after, groups⟩ := m
  rw [first, results]
  induction after generalizing before with
  | nil => rfl
  | cons c after ih =>
    by_cases hc : p c = true
    · have hstep : results (.char p) ⟨before, c :: after, groups⟩ =
          [⟨c :: before, after, groups⟩] := by
        simp [results, hc]
      have hrest := ih (c :: before)
      rw [List.length_cons, repeats, hstep]
      simp only [List.length_cons, Nat.lt_succ_self, decide_true, List.filter_cons_of_pos,
        List.filter_nil, List.flatMap_cons, List.flatMap_nil, List.append_nil, if_true]
      rw [List.head?_append]
      dsimp only at hrest
      rw [hrest]
      simp [Match.skip, hc]
    · have hstep : results (.char p) ⟨before, c :: after, groups⟩ = [] := by simp [results, hc]
      rw [List.length_cons, repeats, hstep]
      simp [Match.skip, hc]

theorem first_star_append {p : Char → Bool} {word rest : List Char}
    (hword : ∀ c ∈ word, p c = true) (hrest : ∀ c ∈ rest.head?, p c = false)
    (before : List Char) (groups : List (Nat × List Char)) :
    first (.star true (.char p)) ⟨before, word ++ rest, groups⟩ =
      some ⟨word.reverse ++ before, rest, groups⟩ := by
  have hstop : rest.takeWhile p = [] ∧ rest.dropWhile p = rest := by
    cases rest with
    | nil => exact ⟨rfl, rfl⟩
    | cons c rest =>
      have hc : p c = false := hrest c rfl
      simp [hc]
  rw [first_star_char]
  simp [Match.skip, List.takeWhile_append_of_pos hword, List.dropWhile_append_of_pos hword, hstop]

/-- A second alternative that fails where the first one does plays no part. -/
theorem first_alt_of_fails {r s : Regex} {m : Match} (h : first r m = none → first s m = none) :
    first (.alt r s) m = first r m := by
  cases hr : first r m with
  | some next => exact first_alt_left hr
  | none => exact (first_alt_right hr).trans (h hr)

/-- What follows counts only by what it prefers. -/
theorem first_seq_congr {r s t : Regex} (h : ∀ m, first s m = first t m) (m : Match) :
    first (.seq r s) m = first (.seq r t) m := by
  rw [first, first, results, results]
  induction results r m with
  | nil => rfl
  | cons next rest ih =>
    rw [List.flatMap_cons, List.flatMap_cons, List.head?_append, List.head?_append, ih]
    exact congrArg (fun x => Option.or x (rest.flatMap (results t)).head?) (h next)

theorem first_seq_empty (r : Regex) (m : Match) : first (.seq r .empty) m = first r m := by
  simp [first, results]

end Regex

end VpsGuardian.Lib
