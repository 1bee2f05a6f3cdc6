import VpsGuardian.Lib.Text

/-!
Python's `PurePosixPath`: its root and its parts.

Empty parts and single dots are dropped when a text is read; two dots stay.
-/

namespace VpsGuardian.Lib

structure PosixPath where
  /-- The number of slashes the path begins with: none, one or two. -/
  root : Nat
  parts : List Text
  deriving DecidableEq, Repr

namespace PosixPath

def slash : CodePoint := Text.ofChar '/'

def dot : CodePoint := Text.ofChar '.'

/-- Three slashes and more at the start count as one. -/
def leadingSlashes (text : Text) : Nat :=
  let slashes := (text.takeWhile (· == slash)).length
  if slashes = 2 then 2 else min slashes 1

def parse (text : Text) : PosixPath where
  root := leadingSlashes text
  parts := (text.splitOn slash).filter fun part => part != [] && part != [dot]

def isAbsolute (path : PosixPath) : Bool := path.root != 0

def anchor (path : PosixPath) : Text := List.replicate path.root slash

/-- `str(path)` -/
def text (path : PosixPath) : Text :=
  let text := path.anchor ++ [slash].intercalate path.parts
  if text = [] then [dot] else text

/-- `path.parts`, which begins with the root. -/
def components (path : PosixPath) : List Text :=
  (if path.isAbsolute then [path.anchor] else []) ++ path.parts

def name (path : PosixPath) : Text := path.parts.getLast?.getD []

/-! ### Parts without slashes -/

theorem leadingSlashes_of_head? {text : Text} (h : text.head? ≠ some slash) :
    leadingSlashes text = 0 := by
  cases text with
  | nil => rfl
  | cons c rest =>
    have hc : (c == slash) = false := by simpa using h
    simp [leadingSlashes, hc]

/-- What begins with no slash joins up to a text that begins with none. -/
theorem head?_intercalate_ne {parts : List Text} (hempty : [] ∉ parts)
    (hslash : ∀ part ∈ parts, slash ∉ part) :
    ([slash].intercalate parts).head? ≠ some slash := by
  cases parts with
  | nil => simp
  | cons part parts =>
    cases part with
    | nil => exact absurd List.mem_cons_self hempty
    | cons c part =>
      have hc : c ≠ slash := fun h => hslash _ List.mem_cons_self (h ▸ List.mem_cons_self)
      cases parts <;> simpa [List.intercalate, List.intersperse] using hc

/-- A relative path is read from the text of its parts. -/
theorem parse_intercalate {parts : List Text} (hne : parts ≠ [])
    (hslash : ∀ part ∈ parts, slash ∉ part) (hempty : [] ∉ parts) (hdot : [dot] ∉ parts) :
    parse ([slash].intercalate parts) = ⟨0, parts⟩ := by
  have hfilter : (parts.filter fun part => part != [] && part != [dot]) = parts := by
    rw [List.filter_eq_self]
    intro part hpart
    have hnil : part ≠ [] := fun h => hempty (h ▸ hpart)
    have hsingle : part ≠ [dot] := fun h => hdot (h ▸ hpart)
    simp [hnil, hsingle]
  rw [parse, leadingSlashes_of_head? (head?_intercalate_ne hempty hslash),
    List.splitOn_intercalate slash hslash hne, hfilter]

theorem intercalate_ne_nil {parts : List Text} (hne : parts ≠ []) (hempty : [] ∉ parts) :
    [slash].intercalate parts ≠ [] := by
  cases parts with
  | nil => exact absurd rfl hne
  | cons part parts =>
    have hpart : part ≠ [] := fun h => hempty (h ▸ List.mem_cons_self)
    cases parts <;> simp [List.intercalate, List.intersperse, hpart]

theorem intercalate_cons_cons (part next : Text) (rest : List Text) :
    [slash].intercalate (part :: next :: rest) =
      part ++ slash :: [slash].intercalate (next :: rest) := by
  simp [List.intercalate]

theorem eq_or_mem_of_mem_intercalate {parts : List Text} {c : CodePoint}
    (h : c ∈ [slash].intercalate parts) : c = slash ∨ ∃ part ∈ parts, c ∈ part := by
  induction parts with
  | nil => simp [List.intercalate] at h
  | cons part parts ih =>
    cases parts with
    | nil => exact .inr ⟨part, List.mem_cons_self, by simpa [List.intercalate] using h⟩
    | cons next rest =>
      rw [intercalate_cons_cons, List.mem_append, List.mem_cons] at h
      obtain h | h | h := h
      · exact .inr ⟨part, List.mem_cons_self, h⟩
      · exact .inl h
      · obtain h | ⟨found, hmem, h⟩ := ih h
        · exact .inl h
        · exact .inr ⟨found, List.mem_cons_of_mem part hmem, h⟩

theorem mem_intercalate {parts : List Text} {part : Text} {c : CodePoint} (hpart : part ∈ parts)
    (hc : c ∈ part) : c ∈ [slash].intercalate parts := by
  induction parts with
  | nil => exact absurd hpart List.not_mem_nil
  | cons first parts ih =>
    cases parts with
    | nil =>
      obtain rfl := List.mem_singleton.mp hpart
      simpa [List.intercalate] using hc
    | cons next rest =>
      rw [intercalate_cons_cons, List.mem_append, List.mem_cons]
      obtain rfl | hpart := List.mem_cons.mp hpart
      · exact .inl hc
      · exact .inr (.inr (ih hpart))

/-- The text of a path has the characters of the text that it was read from. -/
theorem mem_text_parse {s : Text} {c : CodePoint} (h : c ∈ (parse s).text) :
    c = slash ∨ c = dot ∨ c ∈ s := by
  rw [text] at h
  split at h
  · exact .inr (.inl (List.mem_singleton.mp h))
  · obtain h | h := List.mem_append.mp h
    · exact .inl (List.eq_of_mem_replicate h)
    · obtain h | ⟨part, hpart, hc⟩ := eq_or_mem_of_mem_intercalate h
      · exact .inl h
      · have hjoin : [slash].intercalate (s.splitOn slash) = s := List.intercalate_splitOn slash
        exact .inr (.inr (hjoin ▸ mem_intercalate (List.mem_of_mem_filter hpart) hc))

end PosixPath

end VpsGuardian.Lib
