import Mathlib.Data.List.DropRight

/-!
The lines of a text and the blanks around it: `str.splitlines` and `str.strip`.
-/

namespace VpsGuardian.Lib.Lines

/-- The characters `str.splitlines` splits at. -/
def isLineBreak (c : Char) : Bool :=
  c.toNat ∈ [0x0A, 0x0B, 0x0C, 0x0D, 0x1C, 0x1D, 0x1E, 0x85, 0x2028, 0x2029]

/-- The lines of a text behind the beginning of a line. -/
def splitlinesFrom (line : List Char) : List Char → List (List Char)
  | [] => if line = [] then [] else [line]
  | '\r' :: '\n' :: rest => line :: splitlinesFrom [] rest
  | c :: rest =>
      if isLineBreak c then line :: splitlinesFrom [] rest else splitlinesFrom (line ++ [c]) rest

/-- `text.splitlines()` -/
def splitlines (text : List Char) : List (List Char) := splitlinesFrom [] text

def OneLine (line : List Char) : Prop := ∀ c ∈ line, isLineBreak c = false

/-- Lines joined by newlines. -/
def joined (lines : List (List Char)) : List Char := ['\n'].intercalate lines

/-- The characters of a line are read into it. -/
theorem splitlinesFrom_append {line : List Char} (h : OneLine line) (start rest : List Char) :
    splitlinesFrom start (line ++ rest) = splitlinesFrom (start ++ line) rest := by
  induction line generalizing start with
  | nil => simp
  | cons c line ih =>
    have hc : isLineBreak c = false := h c List.mem_cons_self
    have hreturn : c ≠ '\r' := by
      rintro rfl
      exact absurd hc (by decide)
    have hstep : splitlinesFrom start (c :: (line ++ rest)) =
        splitlinesFrom (start ++ [c]) (line ++ rest) := by
      rw [splitlinesFrom, hc, if_neg Bool.false_ne_true]
      rintro rest' rfl
      exact absurd rfl hreturn
    rw [List.cons_append, hstep, ih fun d hd => h d (List.mem_cons_of_mem c hd),
      List.append_assoc, List.singleton_append]

theorem splitlinesFrom_newline (line rest : List Char) :
    splitlinesFrom line ('\n' :: rest) = line :: splitlinesFrom [] rest := by
  rw [splitlinesFrom, if_pos (by decide)]
  rintro rest' ⟨⟩

/-- The lines of joined lines are these lines. -/
theorem splitlines_joined {lines : List (List Char)} (h : ∀ line ∈ lines, OneLine line)
    (hlast : lines.getLast? ≠ some []) : splitlines (joined lines) = lines := by
  induction lines with
  | nil => rfl
  | cons line lines ih =>
    have hline : OneLine line := h line List.mem_cons_self
    cases lines with
    | nil =>
      have hne : line ≠ [] := fun heq => hlast (by rw [heq]; rfl)
      have hread := splitlinesFrom_append hline [] []
      rw [List.append_nil, List.nil_append] at hread
      rw [joined, List.intercalate_singleton, splitlines, hread, splitlinesFrom, if_neg hne]
    | cons next lines =>
      have hrest := ih (fun l hl => h l (List.mem_cons_of_mem line hl))
        (by rwa [List.getLast?_cons_cons] at hlast)
      rw [splitlines] at hrest
      rw [joined, List.intercalate_cons_cons, splitlines, List.append_assoc,
        splitlinesFrom_append hline, List.nil_append, List.singleton_append,
        splitlinesFrom_newline]
      exact congrArg (line :: ·) hrest

variable {α : Type} (p : α → Bool)

/-- A text without what satisfies `p` at its ends. -/
def strip (text : List α) : List α := (text.dropWhile p).rdropWhile p

theorem strip_append {before core after : List α} (hbefore : ∀ a ∈ before, p a = true)
    (hafter : ∀ a ∈ after, p a = true) {first last : α} (hfirst : core.head? = some first)
    (hfirst' : p first = false) (hlast : core.getLast? = some last) (hlast' : p last = false) :
    strip p (before ++ (core ++ after)) = core := by
  have hdrop : (before ++ (core ++ after)).dropWhile p = core ++ after := by
    rw [List.dropWhile_append_of_pos hbefore]
    obtain ⟨rest, rfl⟩ := List.head?_eq_some_iff.mp hfirst
    rw [List.cons_append, List.dropWhile_cons_of_neg (by simp [hfirst'])]
  have hreverse : (core ++ after).reverse.dropWhile p = core.reverse := by
    rw [List.reverse_append, List.dropWhile_append_of_pos (by simpa using hafter)]
    have hhead : core.reverse.head? = some last := by rw [List.head?_reverse, hlast]
    obtain ⟨rest, hrest⟩ := List.head?_eq_some_iff.mp hhead
    rw [hrest, List.dropWhile_cons_of_neg (by simp [hlast'])]
  rw [strip, hdrop, List.rdropWhile, hreverse, List.reverse_reverse]

theorem strip_eq_self {text : List α} {first last : α} (hfirst : text.head? = some first)
    (hfirst' : p first = false) (hlast : text.getLast? = some last) (hlast' : p last = false) :
    strip p text = text := by
  have hblank : ∀ a ∈ ([] : List α), p a = true := by simp
  simpa using strip_append p hblank hblank hfirst hfirst' hlast hlast'

theorem head?_joined {line : List Char} (hne : line ≠ []) (lines : List (List Char)) :
    (joined (line :: lines)).head? = line.head? := by
  obtain ⟨c, rest, rfl⟩ := List.exists_cons_of_ne_nil hne
  cases lines with
  | nil => rw [joined, List.intercalate_singleton]
  | cons next lines => rw [joined, List.intercalate_cons_cons]; rfl

theorem getLast?_joined (lines : List (List Char)) {last : List Char} (hne : last ≠ []) :
    (joined (lines ++ [last])).getLast? = last.getLast? := by
  induction lines with
  | nil => rw [joined, List.nil_append, List.intercalate_singleton]
  | cons line lines ih =>
    obtain ⟨next, rest, hrest⟩ : ∃ next rest, lines ++ [last] = next :: rest :=
      List.exists_cons_of_ne_nil (by simp)
    have hjoined : joined (next :: rest) ≠ [] := by
      intro hnil
      rw [hrest, hnil] at ih
      exact hne (List.getLast?_eq_none_iff.mp ih.symm)
    rw [List.cons_append, hrest, joined, List.intercalate_cons_cons, List.getLast?_append,
      ← joined, ← hrest, ih]
    obtain ⟨c, hc⟩ := List.getLast?_isSome.mpr hne |> Option.isSome_iff_exists.mp
    rw [hc]
    rfl

end VpsGuardian.Lib.Lines
