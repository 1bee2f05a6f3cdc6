import VpsGuardian.Lib.Run

/-!
The lock of the helper (`acquireLock` of `agent/nethelper/store.go`), taken by
any number of processes at once.

The lock is a file. A process gets it by creating the file and releases it by
removing the path. A file that is older than two minutes counts as left behind
and is removed by whoever finds it so. Every call into the file system is a step
of its own, with any steps of other processes and any time in between.
-/

namespace VpsGuardian.NetHelper.Locking

open Lib

/-- Nanoseconds. -/
abbrev Time : Type := Nat

/-- `2*time.Minute`. -/
def staleAfter : Time := 120 * 10 ^ 9

/-- `25*time.Millisecond`. -/
def pause : Time := 25 * 10 ^ 6

def attempts : Nat := 20

/-- A file as `os.Stat` describes it. No two files have the same number. -/
structure LockFile where
  number : Nat
  modTime : Time
  deriving DecidableEq, Repr

/-- Where a process is in `acquireLock`, or after it. -/
inductive Place where
  | opening (attempt : Nat)
  | examining (attempt : Nat)
  /-- The file was found, and its age is computed next. -/
  | judging (attempt : Nat) (info : LockFile)
  | removing (attempt : Nat) (info : LockFile)
  | sleeping (attempt : Nat) (wakes : Time)
  | holding (file : LockFile)
  | released
  | failed
  deriving DecidableEq, Repr

structure State where
  now : Time
  path : Option LockFile
  created : Nat
  process : Nat → Place

/-- Time passes, or a process takes its next step. A call into the file system may fail. -/
inductive Input where
  | pass (duration : Time)
  | step (process : Nat) (fails : Bool)
  deriving DecidableEq, Repr

namespace State

def move (s : State) (i : Nat) (place : Place) : State :=
  { s with process := Function.update s.process i place }

/-- The head of the loop. -/
def retry (s : State) (i attempt : Nat) : State :=
  s.move i (if attempt + 1 < attempts then .opening (attempt + 1) else .failed)

def create (s : State) (i : Nat) : State :=
  let file : LockFile := ⟨s.created, s.now⟩
  { s with path := some file, created := s.created + 1 }.move i (.holding file)

/-- `os.Remove(path)`, whose error nobody looks at. -/
def remove (s : State) (fails : Bool) : State := { s with path := if fails then s.path else none }

/-- The next step of one process. -/
def advance (s : State) (i : Nat) (fails : Bool) : State :=
  match s.process i with
  | .opening attempt =>
      if fails then s.move i .failed
      else if s.path = none then s.create i
      else s.move i (.examining attempt)
  | .examining attempt =>
      match s.path with
      | some info =>
          if fails then s.move i (.sleeping attempt (s.now + pause))
          else s.move i (.judging attempt info)
      | none => s.move i (.sleeping attempt (s.now + pause))
  | .judging attempt info =>
      if info.modTime + staleAfter < s.now then s.move i (.removing attempt info)
      else s.move i (.sleeping attempt (s.now + pause))
  | .removing attempt _ => (s.remove fails).retry i attempt
  | .sleeping attempt wakes => if wakes ≤ s.now then s.retry i attempt else s
  | .holding _ => (s.remove fails).move i .released
  | .released | .failed => s

end State

def step (s : State) : Input → State
  | .pass duration => { s with now := s.now + duration }
  | .step i fails => s.advance i fails

/-- No process has started. The lock is absent, or a crashed process has left it. -/
def initial (now : Time) (leftover : Option Time) : State :=
  ⟨now, leftover.map fun modTime => ⟨0, modTime⟩, 1, fun _ => .opening 0⟩

def MutuallyExclusive (s : State) : Prop :=
  ∀ i j file file', s.process i = .holding file → s.process j = .holding file' → i = j

/-- No process holds the lock for two minutes. -/
def HoldsBriefly (s : State) : Input → Prop
  | .pass duration => ∀ i file, s.process i = .holding file →
      s.now + duration < file.modTime + staleAfter
  | .step _ _ => True

/-- A process that removes a file it found stale finds no other file at the path. -/
def RemovesWhatItFound (s : State) : Input → Prop
  | .pass _ => True
  | .step i _ =>
      match s.process i with
      | .removing _ info => s.path = none ∨ s.path = some info
      | _ => True

instance (s : State) (input : Input) : Decidable (RemovesWhatItFound s input) := by
  unfold RemovesWhatItFound
  split
  · exact isTrue trivial
  · split
    · exact inferInstanceAs (Decidable (_ ∨ _))
    · exact isTrue trivial

/-! ### The invariant -/

/-- The file of the process that holds the lock is at the path and is young; what is about to be
removed is old. -/
structure Guarded (s : State) : Prop where
  own : ∀ i file, s.process i = .holding file → s.path = some file
  young : ∀ i file, s.process i = .holding file → s.now < file.modTime + staleAfter
  exclusive : MutuallyExclusive s
  old : ∀ i attempt info, s.process i = .removing attempt info → info.modTime + staleAfter < s.now

theorem guarded_initial {now : Time} {leftover : Option Time} : Guarded (initial now leftover) where
  own _ _ h := by cases h
  young _ _ h := by cases h
  exclusive _ _ _ _ h := by cases h
  old _ _ _ h := by cases h

namespace Guarded

variable {s : State} {i : Nat}

theorem pass (h : Guarded s) {duration : Time} (hbrief : HoldsBriefly s (.pass duration)) :
    Guarded { s with now := s.now + duration } where
  own := h.own
  young := hbrief
  exclusive := h.exclusive
  old j attempt info hj := Nat.lt_add_right duration (h.old j attempt info hj)

/-- A process may go where it does not hold the lock, to a removal only of an old file. -/
theorem move (h : Guarded s) {place : Place} (hholding : ∀ file, place ≠ .holding file)
    (hremoving : ∀ attempt info, place = .removing attempt info →
      info.modTime + staleAfter < s.now) : Guarded (s.move i place) := by
  have hothers {j : Nat} {file : LockFile} (hj : (s.move i place).process j = .holding file) :
      s.process j = .holding file := by
    by_cases heq : j = i
    · subst heq
      exact absurd ((Function.update_self _ _ _).symm.trans hj) (hholding file)
    · exact (Function.update_of_ne heq _ _).symm.trans hj
  refine ⟨fun j file hj => h.own j file (hothers hj), fun j file hj => h.young j file (hothers hj),
    fun j k file file' hj hk => h.exclusive j k file file' (hothers hj) (hothers hk), ?_⟩
  intro j attempt info hj
  by_cases heq : j = i
  · subst heq
    exact hremoving attempt info ((Function.update_self _ _ _).symm.trans hj)
  · exact h.old j attempt info ((Function.update_of_ne heq _ _).symm.trans hj)

theorem retry (h : Guarded s) (attempt : Nat) : Guarded (s.retry i attempt) := by
  unfold State.retry
  split
  · exact h.move (by simp) (by simp)
  · exact h.move (by simp) (by simp)

/-- The path may be removed while nobody holds the lock. -/
theorem remove (h : Guarded s) (hfree : ∀ j file, s.process j ≠ .holding file) (fails : Bool) :
    Guarded (s.remove fails) where
  own j file hj := absurd hj (hfree j file)
  young := h.young
  exclusive := h.exclusive
  old := h.old

/-- Only a process that finds no file creates one, and then nobody holds the lock. -/
theorem create (h : Guarded s) (hpath : s.path = none) : Guarded (s.create i) := by
  have hfree (j : Nat) (file : LockFile) : s.process j ≠ .holding file := by
    intro hj
    have hsome := h.own j file hj
    rw [hpath] at hsome
    cases hsome
  have howner {j : Nat} {file : LockFile} (hj : (s.create i).process j = .holding file) :
      j = i ∧ (⟨s.created, s.now⟩ : LockFile) = file := by
    by_cases heq : j = i
    · subst heq
      exact ⟨rfl, Place.holding.inj ((Function.update_self _ _ _).symm.trans hj)⟩
    · exact absurd ((Function.update_of_ne heq _ _).symm.trans hj) (hfree j file)
  constructor
  · intro j file hj
    rw [← (howner hj).2]
    rfl
  · intro j file hj
    rw [← (howner hj).2]
    exact Nat.lt_add_of_pos_right (by decide)
  · intro j k file file' hj hk
    rw [(howner hj).1, (howner hk).1]
  · intro j attempt info hj
    by_cases heq : j = i
    · subst heq
      have hplace := (Function.update_self _ _ _).symm.trans hj
      cases hplace
    · exact h.old j attempt info ((Function.update_of_ne heq _ _).symm.trans hj)

/-- A removal that hits the file it was decided on hits no file of a holder: that file is old. -/
theorem removes (h : Guarded s) {attempt : Nat} {info : LockFile} {fails : Bool}
    (hi : s.process i = .removing attempt info)
    (hfound : RemovesWhatItFound s (.step i fails)) : Guarded (s.remove fails) := by
  refine h.remove (fun j file hj => ?_) fails
  have hold := h.old i attempt info hi
  have hyoung := h.young j file hj
  have hpath := h.own j file hj
  unfold RemovesWhatItFound at hfound
  simp only [hi, hpath, reduceCtorEq, false_or, Option.some.injEq] at hfound
  rw [hfound] at hyoung
  exact lt_asymm hold hyoung

theorem release (h : Guarded s) {file : LockFile} (hi : s.process i = .holding file)
    (fails : Bool) : Guarded ((s.remove fails).move i .released) := by
  have hmoved : Guarded (s.move i .released) := h.move (by simp) (by simp)
  refine hmoved.remove (fun j file' hj => ?_) fails
  by_cases heq : j = i
  · subst heq
    have hplace := (Function.update_self _ _ _).symm.trans hj
    cases hplace
  · have hj' := (Function.update_of_ne heq _ _).symm.trans hj
    exact heq (h.exclusive j i file' file hj' hi)

end Guarded

/-- Every step under the two conditions keeps the lock guarded. -/
theorem guarded_step {s : State} {input : Input} (h : Guarded s) (hbrief : HoldsBriefly s input)
    (hfound : RemovesWhatItFound s input) : Guarded (step s input) := by
  cases input with
  | pass duration => exact h.pass hbrief
  | step i fails =>
    change Guarded (s.advance i fails)
    unfold State.advance
    cases hi : s.process i with
    | opening attempt =>
      dsimp only
      split
      · exact h.move (by simp) (by simp)
      · split
        · exact h.create ‹_›
        · exact h.move (by simp) (by simp)
    | examining attempt =>
      dsimp only
      split
      · split <;> exact h.move (by simp) (by simp)
      · exact h.move (by simp) (by simp)
    | judging attempt info =>
      dsimp only
      split
      · refine h.move (by simp) fun _ _ heq => ?_
        cases heq
        assumption
      · exact h.move (by simp) (by simp)
    | removing attempt info => exact (h.removes hi hfound).retry attempt
    | sleeping attempt wakes =>
      dsimp only
      split
      · exact h.retry attempt
      · exact h
    | holding file => exact h.release hi fails
    | released => exact h
    | failed => exact h

/-- While processes hold the lock briefly and remove only the files they found stale, no two of
them hold it at once. -/
theorem mutually_exclusive {now : Time} {leftover : Option Time} {inputs : List Input}
    (hbrief : Meets step HoldsBriefly (initial now leftover) inputs)
    (hfound : Meets step RemovesWhatItFound (initial now leftover) inputs) :
    MutuallyExclusive (run step (initial now leftover) inputs) := by
  have hboth : Meets step (fun s input => HoldsBriefly s input ∧ RemovesWhatItFound s input)
      (initial now leftover) inputs := hbrief.and hfound
  have hguarded : Guarded (run step (initial now leftover) inputs) :=
    run_invariant (fun s input h hs => guarded_step hs h.1 h.2) guarded_initial hboth
  exact hguarded.exclusive

/-! ### Two processes and a file left behind -/

/-- A file left five minutes ago. -/
def abandoned : State := initial (300 * 10 ^ 9) (some 0)

/-- Both processes find the file stale. The first removes it and gets the lock, the second
removes the new file and gets the lock as well. -/
def bothRemove : List Input :=
  [.step 0 false, .step 0 false, .step 0 false, .step 1 false, .step 1 false, .step 1 false,
    .step 0 false, .step 0 false, .step 1 false, .step 1 false]

theorem not_mutually_exclusive :
    ¬ ∀ (now : Time) (leftover : Option Time) (inputs : List Input),
      (∀ modTime, leftover = some modTime → modTime + staleAfter < now) →
      Meets step HoldsBriefly (initial now leftover) inputs →
        MutuallyExclusive (run step (initial now leftover) inputs) := by
  intro hall
  have hbrief : Meets step HoldsBriefly abandoned bothRemove :=
    ⟨trivial, trivial, trivial, trivial, trivial, trivial, trivial, trivial, trivial, trivial,
      trivial⟩
  have hexclusive := hall (300 * 10 ^ 9) (some 0) bothRemove (by simp [staleAfter]) hbrief
  have hzero : (run step abandoned bothRemove).process 0 = .holding ⟨1, 300 * 10 ^ 9⟩ := by decide
  have hone : (run step abandoned bothRemove).process 1 = .holding ⟨2, 300 * 10 ^ 9⟩ := by decide
  exact absurd (hexclusive 0 1 _ _ hzero hone) (by decide)

/-- A process alone removes what it found, and gets the lock. -/
theorem mutually_exclusive_alone :
    MutuallyExclusive (run step abandoned [.step 0 false, .step 0 false, .step 0 false,
      .step 0 false, .step 0 false]) := by
  refine mutually_exclusive ?_ ?_
  · exact ⟨trivial, trivial, trivial, trivial, trivial, trivial⟩
  · decide

end VpsGuardian.NetHelper.Locking
