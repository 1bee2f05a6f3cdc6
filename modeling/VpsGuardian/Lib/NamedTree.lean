import Mathlib

/-!
Trees whose branches name their children.

A tree is two things at once: a partial function that takes a path of names to
what is there, and a list of everything with its path, each branch before what
is below it and its children in the order of their names. The list and the
function determine each other.
-/

namespace VpsGuardian.Lib

inductive NamedTree (ν α β : Type) where
  | leaf (item : α)
  | branch (label : β) (children : List (ν × NamedTree ν α β))

namespace NamedTree

variable {ν α β : Type}

mutual

/-- What holds of every leaf, and of a branch once it holds of its children, holds of a tree. -/
@[elab_as_elim, induction_eliminator]
theorem induct {motive : NamedTree ν α β → Prop} (leaf : ∀ item, motive (.leaf item))
    (branch : ∀ label children, (∀ child ∈ children, motive child.2) →
      motive (.branch label children)) : ∀ tree, motive tree
  | .leaf item => leaf item
  | .branch label children => branch label children (inductChildren leaf branch children)

theorem inductChildren {motive : NamedTree ν α β → Prop} (leaf : ∀ item, motive (.leaf item))
    (branch : ∀ label children, (∀ child ∈ children, motive child.2) →
      motive (.branch label children)) :
    ∀ children : List (ν × NamedTree ν α β), ∀ child ∈ children, motive child.2
  | [] => fun _ hmem => absurd hmem List.not_mem_nil
  | (_, child) :: children => List.forall_mem_cons.mpr
      ⟨induct leaf branch child, inductChildren leaf branch children⟩

end

/-- What is at the root. -/
def item : NamedTree ν α β → α ⊕ β
  | leaf item => .inl item
  | branch label _ => .inr label

def children : NamedTree ν α β → List (ν × NamedTree ν α β)
  | leaf _ => []
  | branch _ children => children

section Order

variable [LinearOrder ν]

mutual

/-- No branch has two children of one name. -/
def distinct : NamedTree ν α β → Bool
  | leaf _ => true
  | branch _ children => distinctChildren children

def distinctChildren : List (ν × NamedTree ν α β) → Bool
  | [] => true
  | (name, child) :: children =>
      !(children.map Prod.fst).contains name && child.distinct && distinctChildren children

end

/-- What is at a path from the root. -/
def item? : List ν → NamedTree ν α β → Option (α ⊕ β)
  | [], tree => some tree.item
  | name :: path, tree => (tree.children.lookup name).bind (item? path)

def sortByName {γ : Type} (children : List (ν × γ)) : List (ν × γ) :=
  children.insertionSort fun a b => a.1 ≤ b.1

/-- Everything in a child, with the name of the child before its path. -/
def beneath {γ : Type} (child : ν × List (List ν × γ)) : List (List ν × γ) :=
  child.2.map fun entry => (child.1 :: entry.1, entry.2)

mutual

def listing : NamedTree ν α β → List (List ν × (α ⊕ β))
  | leaf item => [([], .inl item)]
  | branch label children => ([], .inr label) :: (sortByName (listings children)).flatMap beneath

def listings : List (ν × NamedTree ν α β) → List (ν × List (List ν × (α ⊕ β)))
  | [] => []
  | (name, child) :: children => (name, child.listing) :: listings children

end

/-! ### Children -/

theorem distinctChildren_iff {children : List (ν × NamedTree ν α β)} :
    distinctChildren children = true ↔
      (children.map Prod.fst).Nodup ∧ ∀ child ∈ children, child.2.distinct = true := by
  induction children with
  | nil => simp [distinctChildren]
  | cons child children ih =>
    simp only [distinctChildren, Bool.and_eq_true, ih, Bool.not_eq_true', List.map_cons,
      List.nodup_cons, List.forall_mem_cons, List.contains_eq_mem, decide_eq_false_iff_not]
    tauto

theorem distinct_children {tree : NamedTree ν α β} (h : tree.distinct = true) :
    distinctChildren tree.children = true := by
  cases tree with
  | leaf item => rfl
  | branch label children => exact h

theorem lookup_children {tree : NamedTree ν α β} (h : tree.distinct = true) {name : ν}
    {child : NamedTree ν α β} :
    tree.children.lookup name = some child ↔ (name, child) ∈ tree.children := by
  have hnodup := (distinctChildren_iff.mp (distinct_children h)).1
  rw [List.lookup_eq_some_iff]
  constructor
  · rintro ⟨before, after, heq, -⟩
    rw [heq]
    exact List.mem_append_right before List.mem_cons_self
  · intro hmem
    obtain ⟨before, after, heq⟩ := List.append_of_mem hmem
    refine ⟨before, after, heq, fun other hother => ?_⟩
    rw [heq, List.map_append, List.map_cons, List.nodup_middle, List.nodup_cons] at hnodup
    rw [bne_iff_ne]
    intro hname
    have hfst : other.1 ∈ before.map Prod.fst := List.mem_map_of_mem hother
    exact hnodup.1 (List.mem_append_left _ (hname ▸ hfst))

theorem listings_eq_map (children : List (ν × NamedTree ν α β)) :
    listings children = children.map fun child => (child.1, child.2.listing) := by
  induction children with
  | nil => rfl
  | cons child children ih => rw [listings, ih, List.map_cons]

theorem listing_eq (tree : NamedTree ν α β) :
    tree.listing = ([], tree.item) :: (sortByName (listings tree.children)).flatMap beneath := by
  cases tree <;> rfl

theorem perm_sortByName {γ : Type} (children : List (ν × γ)) :
    (sortByName children).Perm children :=
  List.perm_insertionSort _ _

/-- What is done to each child does not change their order. -/
theorem sortByName_map {γ δ : Type} (f : ν × γ → δ) (children : List (ν × γ)) :
    (sortByName (children.map fun child => (child.1, f child))) =
      (sortByName children).map fun child => (child.1, f child) :=
  (List.map_insertionSort (fun a b : ν × γ => a.1 ≤ b.1) (fun a b : ν × δ => a.1 ≤ b.1)
    (fun child => (child.1, f child)) children fun _ _ _ _ => Iff.rfl).symm

theorem sortByName_pairwise {γ : Type} {children : List (ν × γ)}
    (hnodup : (children.map Prod.fst).Nodup) :
    (sortByName children).Pairwise fun a b => a.1 < b.1 := by
  have hsorted : (sortByName children).Pairwise fun a b => a.1 ≤ b.1 :=
    List.pairwise_insertionSort _ _
  have hdistinct : (sortByName children).Pairwise fun a b => a.1 ≠ b.1 := by
    rw [← List.pairwise_map]
    exact ((perm_sortByName children).map Prod.fst).nodup_iff.mpr hnodup
  exact hsorted.imp₂ (fun _ _ hle hne => lt_of_le_of_ne hle hne) hdistinct

omit [LinearOrder ν] in
theorem mem_beneath {γ : Type} {child : ν × List (List ν × γ)} {path : List ν} {item : γ} :
    (path, item) ∈ beneath child ↔ ∃ rest, path = child.1 :: rest ∧ (rest, item) ∈ child.2 := by
  rw [beneath, List.mem_map]
  constructor
  · rintro ⟨⟨rest, item'⟩, hmem, heq⟩
    obtain ⟨rfl, rfl⟩ := Prod.mk.inj heq
    exact ⟨rest, rfl, hmem⟩
  · rintro ⟨rest, rfl, hmem⟩
    exact ⟨(rest, item), hmem, rfl⟩

/-- The listing of a branch, child by child. -/
theorem listing_branch (label : β) (children : List (ν × NamedTree ν α β)) :
    (branch label children).listing = ([], .inr label) :: (sortByName children).flatMap
      fun child => child.2.listing.map fun entry => (child.1 :: entry.1, entry.2) := by
  rw [listing, listings_eq_map, sortByName_map, List.flatMap_map]
  rfl

/-! ### The listing -/

/-- The listing has what the function returns. -/
theorem mem_listing {path : List ν} {found : α ⊕ β} {tree : NamedTree ν α β}
    (h : tree.distinct = true) : (path, found) ∈ tree.listing ↔ tree.item? path = some found := by
  induction path generalizing tree with
  | nil =>
    rw [listing_eq, List.mem_cons, item?, Option.some.injEq, Prod.mk.injEq, eq_comm (a := found)]
    refine or_iff_left (fun hmem => ?_) |>.trans (and_iff_right rfl)
    obtain ⟨child, -, hbeneath⟩ := List.mem_flatMap.mp hmem
    obtain ⟨rest, hpath, -⟩ := mem_beneath.mp hbeneath
    cases hpath
  | cons name path ih =>
    have hchildren := distinctChildren_iff.mp (distinct_children h)
    rw [listing_eq, List.mem_cons, item?, Option.bind_eq_some_iff]
    refine or_iff_right (fun heq => by cases heq) |>.trans ?_
    rw [List.mem_flatMap]
    constructor
    · rintro ⟨child, hmem, hbeneath⟩
      rw [(perm_sortByName _).mem_iff, listings_eq_map, List.mem_map] at hmem
      obtain ⟨⟨name', child'⟩, hchild, rfl⟩ := hmem
      obtain ⟨rest, hpath, hlisting⟩ := mem_beneath.mp hbeneath
      obtain ⟨rfl, rfl⟩ := List.cons.inj hpath
      exact ⟨child', (lookup_children h).mpr hchild, (ih (hchildren.2 _ hchild)).mp hlisting⟩
    · rintro ⟨child, hlookup, hitem⟩
      have hchild := (lookup_children h).mp hlookup
      refine ⟨(name, child.listing), ?_, mem_beneath.mpr ⟨path, rfl, ?_⟩⟩
      · rw [(perm_sortByName _).mem_iff, listings_eq_map]
        exact List.mem_map_of_mem hchild
      · exact (ih (hchildren.2 _ hchild)).mpr hitem

theorem beneath_sorted {γ : Type} {child : ν × List (List ν × γ)}
    (h : child.2.Pairwise fun a b => a.1 < b.1) :
    (beneath child).Pairwise fun a b => a.1 < b.1 := by
  rw [beneath, List.pairwise_map]
  exact h.imp fun hlt => List.cons_lt_cons_iff.mpr (.inr ⟨rfl, hlt⟩)

/-- Each path in the listing comes before the later ones in the order of texts. -/
theorem listing_sorted {tree : NamedTree ν α β} (h : tree.distinct = true) :
    tree.listing.Pairwise fun a b => a.1 < b.1 := by
  induction tree with
  | leaf item => exact List.pairwise_singleton _ _
  | branch label children ih =>
    obtain ⟨hnodup, hdistinct⟩ := distinctChildren_iff.mp h
    have hnames : ((listings children).map Prod.fst).Nodup := by
      rw [listings_eq_map, List.map_map]
      exact hnodup
    rw [listing, List.pairwise_cons, List.pairwise_flatMap]
    refine ⟨fun entry hentry => ?_, fun child hchild => ?_, ?_⟩
    · obtain ⟨child, -, hbeneath⟩ := List.mem_flatMap.mp hentry
      obtain ⟨rest, hpath, -⟩ := mem_beneath.mp hbeneath
      rw [hpath]
      exact List.nil_lt_cons _ _
    · rw [(perm_sortByName _).mem_iff, listings_eq_map, List.mem_map] at hchild
      obtain ⟨child, hmem, rfl⟩ := hchild
      exact beneath_sorted (ih child hmem (hdistinct child hmem))
    · -- the paths in two children differ in their first names
      refine (sortByName_pairwise hnames).imp fun hlt entry hentry entry' hentry' => ?_
      obtain ⟨rest, hpath, -⟩ := mem_beneath.mp hentry
      obtain ⟨rest', hpath', -⟩ := mem_beneath.mp hentry'
      rw [hpath, hpath']
      exact List.cons_lt_cons_iff.mpr (.inl hlt)

/-- Trees of one listing have the same things at the same paths, and the other way round. -/
theorem listing_inj {tree tree' : NamedTree ν α β} (h : tree.distinct = true)
    (h' : tree'.distinct = true) :
    tree.listing = tree'.listing ↔ ∀ path, tree.item? path = tree'.item? path := by
  constructor
  · intro heq path
    ext found
    rw [← mem_listing h, ← mem_listing h', heq]
  · intro hsame
    have hnodup {t : NamedTree ν α β} (ht : t.distinct = true) : t.listing.Nodup :=
      (listing_sorted ht).imp fun hlt heq => absurd (heq ▸ hlt) (List.lt_irrefl _)
    have hperm : tree.listing.Perm tree'.listing := by
      refine (List.perm_ext_iff_of_nodup (hnodup h) (hnodup h')).mpr fun entry => ?_
      rw [mem_listing h, mem_listing h', hsame]
    exact hperm.eq_of_pairwise (fun _ _ _ _ hlt hgt => absurd hgt (List.lt_asymm hlt))
      (listing_sorted h) (listing_sorted h')

end Order

end NamedTree

end VpsGuardian.Lib
