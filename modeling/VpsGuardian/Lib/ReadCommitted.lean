import VpsGuardian.Lib.Run

/-!
Concurrent transactions of a relational database under READ COMMITTED.

A session goes through the stages of a program; each stage issues one statement,
and its outcome decides the next stage. A query sees the rows committed when it
runs, and the session's own changes. A statement that changes or locks rows
first finds the rows that match and then takes them one by one: a row that
another session has locked is waited for, and looked at again when it is free.
What a session has changed becomes visible with its commit.

`FOR UPDATE` is a change that leaves the rows as they are.
-/

namespace VpsGuardian.Lib.ReadCommitted

/-- Rows are found under keys of type `κ`; the stages of a session are of type `γ`. -/
inductive Statement (κ ρ γ : Type) where
  | select (condition : κ → ρ → Bool) (next : List (κ × ρ) → γ)
  /-- The rows are taken in the given order; `none` deletes. The next stage is told which rows
  there were. -/
  | alter (order : List κ → List κ) (condition : κ → ρ → Bool) (change : ρ → Option ρ)
      (next : List (κ × ρ) → γ)
  /-- The next stage is told whether the key was free. -/
  | insert (key : κ) (row : ρ) (next : Bool → γ)
  | commit (next : γ)
  | rollback (next : γ)
  | done

/-- The programs of the sessions, and the stage of a session that has lost its connection. -/
structure Code (ι κ ρ γ : Type) where
  statement : ι → γ → Statement κ ρ γ
  lost : γ

/-- The rows that a statement has yet to take, and those it has taken. -/
structure Progress (κ ρ : Type) where
  remaining : List κ
  taken : List (κ × ρ)

structure Session (κ ρ γ : Type) where
  stage : γ
  progress : Option (Progress κ ρ)
  /-- The rows that the transaction has changed or locked, as it sees them. -/
  written : κ → Option (Option ρ)

structure System (ι κ ρ γ : Type) where
  keys : List κ
  /-- The committed rows. -/
  rows : κ → Option ρ
  locks : κ → Option ι
  sessions : ι → Session κ ρ γ

/-- A session runs on, or loses its connection. -/
inductive Input (ι : Type) where
  | step (session : ι)
  | abort (session : ι)
  deriving DecidableEq, Repr

variable {ι κ ρ γ : Type}

def Session.start (stage : γ) : Session κ ρ γ := ⟨stage, none, fun _ => none⟩

/-- The session in another stage of the same transaction. -/
def Session.to (x : Session κ ρ γ) (stage : γ) : Session κ ρ γ :=
  { x with stage, progress := none }

section

variable [DecidableEq ι] [DecidableEq κ]

namespace System

/-- A row as a session sees it. -/
def view (s : System ι κ ρ γ) (i : ι) (k : κ) : Option ρ :=
  ((s.sessions i).written k).getD (s.rows k)

def set (s : System ι κ ρ γ) (i : ι) (x : Session κ ρ γ) : System ι κ ρ γ :=
  { s with sessions := Function.update s.sessions i x }

def matching (s : System ι κ ρ γ) (i : ι) (condition : κ → ρ → Bool) : List (κ × ρ) :=
  s.keys.filterMap fun k => ((s.view i k).filter (condition k)).map fun row => (k, row)

/-- Whether another session has locked the row. -/
def isLocked (s : System ι κ ρ γ) (i : ι) (k : κ) : Bool :=
  match s.locks k with
  | none => false
  | some j => j ≠ i

/-- The session writes a row, which it thereby locks. -/
def write (s : System ι κ ρ γ) (i : ι) (k : κ) (row : Option ρ) : System ι κ ρ γ :=
  { s with locks := Function.update s.locks k (some i) }.set i
    { s.sessions i with written := Function.update (s.sessions i).written k (some row) }

/-- The end of a transaction, with the rows it leaves. -/
def finish (s : System ι κ ρ γ) (i : ι) (rows : κ → Option ρ) (stage : γ) : System ι κ ρ γ :=
  { s with
    rows
    locks := fun k => if s.locks k = some i then none else s.locks k }.set i (.start stage)

/-- The statement takes the next of the rows that it found. -/
def take (s : System ι κ ρ γ) (i : ι) (condition : κ → ρ → Bool) (change : ρ → Option ρ)
    (next : List (κ × ρ) → γ) (p : Progress κ ρ) : System ι κ ρ γ :=
  match p.remaining with
  | [] => s.set i ((s.sessions i).to (next p.taken))
  | k :: remaining =>
      if s.isLocked i k then s
      else
        match (s.view i k).filter (condition k) with
        | none => s.set i { s.sessions i with progress := some ⟨remaining, p.taken⟩ }
        | some row =>
            (s.write i k (change row)).set i { (s.write i k (change row)).sessions i with
              progress := some ⟨remaining, p.taken ++ [(k, row)]⟩ }

def advance (code : Code ι κ ρ γ) (s : System ι κ ρ γ) (i : ι) : System ι κ ρ γ :=
  let x := s.sessions i
  match code.statement i x.stage with
  | .select condition next => s.set i (x.to (next (s.matching i condition)))
  | .alter order condition change next =>
      match x.progress with
      | none =>
          let found := order ((s.matching i condition).map Prod.fst)
          s.set i { x with progress := some ⟨found, []⟩ }
      | some p => s.take i condition change next p
  | .insert k row next =>
      if s.isLocked i k then s
      else if (s.view i k).isSome then s.set i (x.to (next false))
      else
        let written := { s.write i k (some row) with
          keys := if k ∈ s.keys then s.keys else s.keys ++ [k] }
        written.set i ((written.sessions i).to (next true))
  | .commit stage => s.finish i (s.view i) stage
  | .rollback stage => s.finish i s.rows stage
  | .done => s

end System

def step (code : Code ι κ ρ γ) (s : System ι κ ρ γ) : Input ι → System ι κ ρ γ
  | .step i => s.advance code i
  | .abort i =>
      match code.statement i (s.sessions i).stage with
      | .done => s
      | _ => s.finish i s.rows code.lost

end

/-! ### The parts of a state -/

@[simp] theorem Session.to_stage (x : Session κ ρ γ) (stage : γ) : (x.to stage).stage = stage := rfl

@[simp] theorem Session.to_progress (x : Session κ ρ γ) (stage : γ) :
    (x.to stage).progress = none := rfl

@[simp] theorem Session.to_written (x : Session κ ρ γ) (stage : γ) :
    (x.to stage).written = x.written := rfl

section

variable [DecidableEq ι]

namespace System

variable (s : System ι κ ρ γ) (i : ι)

@[simp] theorem set_rows (x : Session κ ρ γ) : (s.set i x).rows = s.rows := rfl

@[simp] theorem set_locks (x : Session κ ρ γ) : (s.set i x).locks = s.locks := rfl

@[simp] theorem set_self (x : Session κ ρ γ) : (s.set i x).sessions i = x :=
  Function.update_self _ _ _

theorem set_of_ne (x : Session κ ρ γ) {i j : ι} (h : j ≠ i) :
    (s.set i x).sessions j = s.sessions j := Function.update_of_ne h _ _

@[simp] theorem finish_rows (rows : κ → Option ρ) (stage : γ) :
    (s.finish i rows stage).rows = rows := rfl

@[simp] theorem finish_locks (rows : κ → Option ρ) (stage : γ) :
    (s.finish i rows stage).locks = fun k => if s.locks k = some i then none else s.locks k := rfl

@[simp] theorem finish_self (rows : κ → Option ρ) (stage : γ) :
    (s.finish i rows stage).sessions i = .start stage := set_self _ _ _

theorem finish_of_ne (rows : κ → Option ρ) (stage : γ) {i j : ι} (h : j ≠ i) :
    (s.finish i rows stage).sessions j = s.sessions j := set_of_ne _ _ h

variable [DecidableEq κ] (k : κ) (row : Option ρ)

@[simp] theorem write_rows : (s.write i k row).rows = s.rows := rfl

@[simp] theorem write_locks :
    (s.write i k row).locks = Function.update s.locks k (some i) := rfl

@[simp] theorem write_self : (s.write i k row).sessions i =
    { s.sessions i with written := Function.update (s.sessions i).written k (some row) } :=
  set_self _ _ _

theorem write_of_ne {i j : ι} (h : j ≠ i) : (s.write i k row).sessions j = s.sessions j :=
  set_of_ne _ _ h

end System

end

section

variable [DecidableEq ι] [DecidableEq κ]

/-- What one step of a session does. -/
inductive Effect (code : Code ι κ ρ γ) (s : System ι κ ρ γ) (i : ι) : System ι κ ρ γ → Prop
  | waited : Effect code s i s
  | selected {condition next}
      (hstatement : code.statement i (s.sessions i).stage = .select condition next) :
      Effect code s i (s.set i ((s.sessions i).to (next (s.matching i condition))))
  | found {order condition change next}
      (hstatement : code.statement i (s.sessions i).stage = .alter order condition change next)
      (hprogress : (s.sessions i).progress = none) :
      Effect code s i (s.set i { s.sessions i with
        progress := some ⟨order ((s.matching i condition).map Prod.fst), []⟩ })
  /-- The next row no longer matches. -/
  | passed {order condition change next k remaining taken}
      (hstatement : code.statement i (s.sessions i).stage = .alter order condition change next)
      (hprogress : (s.sessions i).progress = some ⟨k :: remaining, taken⟩)
      (hunmatched : ∀ row, s.view i k = some row → condition k row = false) :
      Effect code s i (s.set i { s.sessions i with progress := some ⟨remaining, taken⟩ })
  | took {order condition change next k remaining taken row}
      (hstatement : code.statement i (s.sessions i).stage = .alter order condition change next)
      (hprogress : (s.sessions i).progress = some ⟨k :: remaining, taken⟩)
      (hfree : s.isLocked i k = false) (hrow : s.view i k = some row)
      (hmatches : condition k row = true) :
      Effect code s i ((s.write i k (change row)).set i
        { (s.write i k (change row)).sessions i with
          progress := some ⟨remaining, taken ++ [(k, row)]⟩ })
  | altered {order condition change next taken}
      (hstatement : code.statement i (s.sessions i).stage = .alter order condition change next)
      (hprogress : (s.sessions i).progress = some ⟨[], taken⟩) :
      Effect code s i (s.set i ((s.sessions i).to (next taken)))
  | refused {k row next}
      (hstatement : code.statement i (s.sessions i).stage = .insert k row next) :
      Effect code s i (s.set i ((s.sessions i).to (next false)))
  | inserted {k row next keys}
      (hstatement : code.statement i (s.sessions i).stage = .insert k row next)
      (hfree : s.isLocked i k = false) (hnew : s.view i k = none)
      (hkeys : ∀ l, l ∈ keys ↔ l ∈ s.keys ∨ l = k) :
      Effect code s i ({ s.write i k (some row) with keys }.set i
        (((s.write i k (some row)).sessions i).to (next true)))
  | committed {stage} (hstatement : code.statement i (s.sessions i).stage = .commit stage) :
      Effect code s i (s.finish i (s.view i) stage)
  | rolledBack {stage} (hstatement : code.statement i (s.sessions i).stage = .rollback stage) :
      Effect code s i (s.finish i s.rows stage)

theorem advance_effect (code : Code ι κ ρ γ) (s : System ι κ ρ γ) (i : ι) :
    Effect code s i (s.advance code i) := by
  unfold System.advance
  dsimp only
  cases hstatement : code.statement i (s.sessions i).stage with
  | select condition next => exact .selected hstatement
  | alter order condition change next =>
    dsimp only
    cases hprogress : (s.sessions i).progress with
    | none => exact .found hstatement hprogress
    | some p =>
      obtain ⟨remaining, taken⟩ := p
      unfold System.take
      cases remaining with
      | nil => exact .altered hstatement hprogress
      | cons k remaining =>
        dsimp only
        cases hlocked : s.isLocked i k with
        | true => exact .waited
        | false =>
          cases hfound : (s.view i k).filter (condition k) with
          | none =>
            refine .passed hstatement hprogress fun row hrow => ?_
            rw [hrow] at hfound
            simpa using hfound
          | some row =>
            obtain ⟨hrow, hmatches⟩ := Option.filter_eq_some_iff.mp hfound
            exact .took hstatement hprogress hlocked hrow hmatches
  | insert k row next =>
    dsimp only
    cases hlocked : s.isLocked i k with
    | true => exact .waited
    | false =>
      cases hview : s.view i k with
      | some other => exact .refused hstatement
      | none =>
        refine .inserted hstatement hlocked hview fun l => ?_
        by_cases hk : k ∈ s.keys
        · rw [if_pos hk]
          exact ⟨.inl, fun h => h.elim id fun hl => hl ▸ hk⟩
        · simp [hk]
  | commit stage => exact .committed hstatement
  | rollback stage => exact .rolledBack hstatement
  | done => exact .waited

theorem step_abort (code : Code ι κ ρ γ) (s : System ι κ ρ γ) (i : ι) :
    step code s (.abort i) = s ∨ step code s (.abort i) = s.finish i s.rows code.lost := by
  unfold step
  dsimp only
  split
  · exact .inl rfl
  · exact .inr rfl

end

/-! ### Locks -/

/-- A session has locked the rows that it has written, and no others. -/
def WellLocked (s : System ι κ ρ γ) : Prop :=
  ∀ i k, ((s.sessions i).written k).isSome ↔ s.locks k = some i

namespace WellLocked

variable {s : System ι κ ρ γ} {i : ι}

/-- A row that one session has written is not locked by it for another one. -/
theorem not_written (h : WellLocked s) {j : ι} (hj : j ≠ i) {k : κ}
    (hk : ((s.sessions j).written k).isSome) : (s.sessions i).written k = none := by
  by_contra hsome
  have hi := (h i k).mp (Option.isSome_iff_ne_none.mpr hsome)
  have hlocked := (h j k).mp hk
  rw [hi, Option.some_inj] at hlocked
  exact hj hlocked.symm

variable [DecidableEq ι]

theorem set (h : WellLocked s) {x : Session κ ρ γ} (hx : x.written = (s.sessions i).written) :
    WellLocked (s.set i x) := by
  intro j k
  by_cases hj : j = i
  · subst hj
    rw [System.set_self, hx]
    exact h j k
  · rw [s.set_of_ne x hj]
    exact h j k

theorem finish (h : WellLocked s) (rows : κ → Option ρ) (stage : γ) :
    WellLocked (s.finish i rows stage) := by
  intro j k
  rw [System.finish_locks]
  by_cases hj : j = i
  · subst hj
    rw [System.finish_self]
    by_cases hk : s.locks k = some j <;> simp [Session.start, hk]
  · rw [s.finish_of_ne rows stage hj, h j k]
    by_cases hk : s.locks k = some i
    · simp [hk, Ne.symm hj]
    · simp [hk]

variable [DecidableEq κ]

theorem write (h : WellLocked s) {k : κ} (hfree : s.isLocked i k = false) (row : Option ρ) :
    WellLocked (s.write i k row) := by
  intro j l
  rw [System.write_locks]
  by_cases hj : j = i
  · subst hj
    rw [System.write_self]
    by_cases hl : l = k
    · subst hl
      simp
    · simpa [hl] using h j l
  · rw [s.write_of_ne k row hj, h j l]
    by_cases hl : l = k
    · subst hl
      rw [Function.update_self, Option.some_inj]
      constructor
      · intro hlock
        rw [System.isLocked, hlock] at hfree
        simp [hj] at hfree
      · rintro rfl
        exact absurd rfl hj
    · rw [Function.update_of_ne hl]

theorem step {code : Code ι κ ρ γ} (h : WellLocked s) (input : Input ι) :
    WellLocked (step code s input) := by
  cases input with
  | abort i =>
    rcases step_abort code s i with heq | heq <;> rw [heq]
    · exact h
    · exact h.finish _ _
  | step i =>
    have heffect := advance_effect code s i
    change WellLocked (s.advance code i)
    generalize s.advance code i = s' at heffect ⊢
    cases heffect with
    | waited => exact h
    | selected _ | found _ _ | passed _ _ _ | altered _ _ | refused _ => exact h.set rfl
    | took _ _ hfree => exact (h.write hfree _).set rfl
    | inserted _ hfree => exact WellLocked.set (h.write hfree _) rfl
    | committed _ | rolledBack _ => exact h.finish _ _

end WellLocked

/-! ### Keys -/

theorem mem_matching {s : System ι κ ρ γ} {i : ι} {condition : κ → ρ → Bool} {k : κ} {row : ρ} :
    (k, row) ∈ s.matching i condition ↔
      k ∈ s.keys ∧ s.view i k = some row ∧ condition k row = true := by
  unfold System.matching
  rw [List.mem_filterMap]
  constructor
  · rintro ⟨l, hl, hfound⟩
    obtain ⟨row', hrow', heq⟩ := Option.map_eq_some_iff.mp hfound
    cases heq
    exact ⟨hl, Option.filter_eq_some_iff.mp hrow'⟩
  · rintro ⟨hk, hfound⟩
    exact ⟨k, hk, by rw [Option.filter_eq_some_iff.mpr hfound]; rfl⟩

/-- Every row, committed or not, has its key in the list. -/
structure Listed (s : System ι κ ρ γ) : Prop where
  rows : ∀ k, s.rows k ≠ none → k ∈ s.keys
  written : ∀ i k, (s.sessions i).written k ≠ none → k ∈ s.keys

namespace Listed

variable {s : System ι κ ρ γ} {i : ι}

theorem view (h : Listed s) {k : κ} (hview : s.view i k ≠ none) : k ∈ s.keys := by
  by_cases hwritten : (s.sessions i).written k = none
  · rw [System.view, hwritten] at hview
    exact h.rows k hview
  · exact h.written i k hwritten

theorem more (h : Listed s) {keys : List κ} (hkeys : ∀ k ∈ s.keys, k ∈ keys) :
    Listed { s with keys } where
  rows k hk := hkeys k (h.rows k hk)
  written i k hk := hkeys k (h.written i k hk)

variable [DecidableEq ι]

theorem set (h : Listed s) {x : Session κ ρ γ}
    (hx : ∀ k, x.written k ≠ none → k ∈ s.keys) : Listed (s.set i x) where
  rows := h.rows
  written j k hk := by
    by_cases hj : j = i
    · subst hj
      rw [System.set_self] at hk
      exact hx k hk
    · rw [s.set_of_ne x hj] at hk
      exact h.written j k hk

theorem finish (h : Listed s) {rows : κ → Option ρ} (hrows : ∀ k, rows k ≠ none → k ∈ s.keys)
    (stage : γ) : Listed (s.finish i rows stage) where
  rows := hrows
  written j k hk := by
    by_cases hj : j = i
    · subst hj
      rw [System.finish_self] at hk
      exact absurd rfl hk
    · rw [s.finish_of_ne rows stage hj] at hk
      exact h.written j k hk

variable [DecidableEq κ]

theorem write (h : Listed s) {k : κ} (hk : k ∈ s.keys) (row : Option ρ) :
    Listed (s.write i k row) where
  rows := h.rows
  written j l hl := by
    change l ∈ s.keys
    by_cases hj : j = i
    · subst hj
      rw [System.write_self] at hl
      by_cases heq : l = k
      · exact heq ▸ hk
      · refine h.written j l fun hnone => hl ?_
        exact (Function.update_of_ne heq _ _).trans hnone
    · rw [s.write_of_ne k row hj] at hl
      exact h.written j l hl

theorem step {code : Code ι κ ρ γ} (h : Listed s) (input : Input ι) :
    Listed (step code s input) := by
  cases input with
  | abort i =>
    rcases step_abort code s i with heq | heq <;> rw [heq]
    · exact h
    · exact h.finish h.rows _
  | step i =>
    have heffect := advance_effect code s i
    change Listed (s.advance code i)
    generalize s.advance code i = s' at heffect ⊢
    cases heffect with
    | waited => exact h
    | selected _ | found _ _ | passed _ _ _ | altered _ _ | refused _ => exact h.set (h.written i)
    | took _ _ _ hrow _ =>
      have hk := h.view (hrow ▸ Option.some_ne_none _)
      exact (h.write hk _).set ((h.write hk _).written i)
    | @inserted k row next keys _ _ _ hkeys =>
      have hmore : Listed { s with keys } := h.more fun l hl => (hkeys l).mpr (.inl hl)
      have hwrite := hmore.write (i := i) ((hkeys k).mpr (.inr rfl)) (some row)
      exact hwrite.set (hwrite.written i)
    | committed _ => exact h.finish (fun k hk => h.view hk) _
    | rolledBack _ => exact h.finish h.rows _

theorem run {code : Code ι κ ρ γ} (h : Listed s) (inputs : List (Input ι)) :
    Listed (run (ReadCommitted.step code) s inputs) :=
  run_invariant_of_step (I := Listed) (fun _ input hs => hs.step input) h inputs

end Listed

/-! ### Proof outlines -/

/-- What is claimed of the committed rows, of a session beside them, and of two sessions. -/
structure Outline (ι κ ρ γ : Type) where
  committed : (κ → Option ρ) → Prop
  session : ι → Session κ ρ γ → (κ → Option ρ) → Prop
  pair : ι → ι → Session κ ρ γ → Session κ ρ γ → Prop

namespace Outline

structure Holds (o : Outline ι κ ρ γ) (s : System ι κ ρ γ) : Prop where
  locks : WellLocked s
  listed : Listed s
  committed : o.committed s.rows
  sessions : ∀ i, o.session i (s.sessions i) s.rows
  pairs : ∀ i j, i ≠ j → o.pair i j (s.sessions i) (s.sessions j)

variable [DecidableEq ι] [DecidableEq κ]

/-- Every session keeps its own part, and what it commits is as claimed and leaves the others
theirs. -/
structure Valid (o : Outline ι κ ρ γ) (code : Code ι κ ρ γ)
    (C : System ι κ ρ γ → Input ι → Prop) : Prop where
  own : ∀ s i s', o.Holds s → C s (.step i) → Effect code s i s' →
    o.session i (s'.sessions i) s'.rows ∧ ∀ j, j ≠ i → o.pair i j (s'.sessions i) (s.sessions j)
  symm : ∀ i j x y, o.pair i j x y → o.pair j i y x
  commit : ∀ s i stage, o.Holds s → C s (.step i) →
    code.statement i (s.sessions i).stage = .commit stage → o.committed (s.view i)
  frame : ∀ s i j stage, o.Holds s → C s (.step i) →
    code.statement i (s.sessions i).stage = .commit stage → j ≠ i →
      (∀ k, ((s.sessions j).written k).isSome → s.view i k = s.rows k) →
        o.session j (s.sessions j) (s.view i)
  lost : ∀ i rows, o.committed rows → o.session i (.start code.lost) rows ∧
    ∀ j y, o.pair i j (.start code.lost) y

variable {o : Outline ι κ ρ γ} {code : Code ι κ ρ γ} {C : System ι κ ρ γ → Input ι → Prop}
  {s : System ι κ ρ γ}

theorem rows_effect {i : ι} {s' : System ι κ ρ γ} (h : Effect code s i s') :
    s'.rows = s.rows ∨
      (∃ stage, code.statement i (s.sessions i).stage = .commit stage) ∧ s'.rows = s.view i := by
  cases h with
  | committed hstatement => exact .inr ⟨⟨_, hstatement⟩, rfl⟩
  | waited | selected _ | found _ _ | passed _ _ _ | took _ _ _ _ _ | altered _ _ | refused _
    | inserted _ _ _ _ | rolledBack _ => exact .inl rfl

theorem sessions_effect {i j : ι} (hj : j ≠ i) {s' : System ι κ ρ γ} (h : Effect code s i s') :
    s'.sessions j = s.sessions j := by
  cases h with
  | waited => rfl
  | selected _ | found _ _ | passed _ _ _ | altered _ _ | refused _ => exact s.set_of_ne _ hj
  | took _ _ _ _ _ => rw [System.set_of_ne _ _ hj, System.write_of_ne _ _ _ hj]
  | inserted _ _ _ _ =>
    rw [System.set_of_ne _ _ hj]
    exact s.write_of_ne _ _ hj
  | committed _ | rolledBack _ => exact s.finish_of_ne _ _ hj

/-- A session changes with its own inputs only. -/
theorem step_of_ne {i : ι} {input : Input ι} (hstep : input ≠ .step i) (habort : input ≠ .abort i) :
    (ReadCommitted.step code s input).sessions i = s.sessions i := by
  cases input with
  | step j =>
    have hj : i ≠ j := fun heq => hstep (congrArg Input.step heq.symm)
    exact sessions_effect hj (advance_effect code s j)
  | abort j =>
    have hj : i ≠ j := fun heq => habort (congrArg Input.abort heq.symm)
    rcases step_abort code s j with heq | heq <;> rw [heq]
    exact s.finish_of_ne _ _ hj

/-- The pairs after one session has become another. -/
theorem Valid.pairs (hvalid : o.Valid code C) (h : o.Holds s) {i : ι} {s' : System ι κ ρ γ}
    (hself : ∀ j, j ≠ i → o.pair i j (s'.sessions i) (s.sessions j))
    (hothers : ∀ j, j ≠ i → s'.sessions j = s.sessions j) (j k : ι) (hne : j ≠ k) :
    o.pair j k (s'.sessions j) (s'.sessions k) := by
  by_cases hj : j = i
  · subst hj
    rw [hothers k hne.symm]
    exact hself k hne.symm
  · by_cases hk : k = i
    · subst hk
      rw [hothers j hj]
      exact hvalid.symm _ _ _ _ (hself j hj)
    · rw [hothers j hj, hothers k hk]
      exact h.pairs j k hne

theorem Valid.abort (hvalid : o.Valid code C) (h : o.Holds s) (i : ι) :
    o.Holds (ReadCommitted.step code s (.abort i)) := by
  have hlocks : WellLocked (ReadCommitted.step code s (.abort i)) := h.locks.step (.abort i)
  have hlisted : Listed (ReadCommitted.step code s (.abort i)) := h.listed.step (.abort i)
  rcases step_abort code s i with heq | heq
  · rw [heq]
    exact h
  · rw [heq] at hlocks hlisted ⊢
    obtain ⟨hsession, hpair⟩ := hvalid.lost i s.rows h.committed
    refine ⟨hlocks, hlisted, h.committed, fun j => ?_, fun j k hne => ?_⟩
    · by_cases hj : j = i
      · subst hj
        rw [System.finish_self]
        exact hsession
      · rw [s.finish_of_ne _ _ hj]
        exact h.sessions j
    · refine hvalid.pairs h (fun l _ => ?_) (fun l hl => s.finish_of_ne _ _ hl) j k hne
      rw [System.finish_self]
      exact hpair l _

theorem Valid.advance (hvalid : o.Valid code C) (h : o.Holds s) {i : ι} (hC : C s (.step i)) :
    o.Holds (ReadCommitted.step code s (.step i)) := by
  have hlocks : WellLocked (ReadCommitted.step code s (.step i)) := h.locks.step (.step i)
  have hlisted : Listed (ReadCommitted.step code s (.step i)) := h.listed.step (.step i)
  have heffect := advance_effect code s i
  change o.Holds (s.advance code i)
  change WellLocked (s.advance code i) at hlocks
  change Listed (s.advance code i) at hlisted
  generalize s.advance code i = s' at *
  obtain ⟨hsession, hpair⟩ := hvalid.own s i s' h hC heffect
  have hothers (j : ι) (hj : j ≠ i) := sessions_effect hj heffect
  refine ⟨hlocks, hlisted, ?_, fun j => ?_, hvalid.pairs h hpair hothers⟩
  · rcases rows_effect heffect with hrows | ⟨⟨stage, hstatement⟩, hrows⟩
    · exact hrows.symm ▸ h.committed
    · exact hrows.symm ▸ hvalid.commit s i stage h hC hstatement
  · by_cases hj : j = i
    · exact hj ▸ hsession
    · rw [hothers j hj]
      rcases rows_effect heffect with hrows | ⟨⟨stage, hstatement⟩, hrows⟩
      · exact hrows.symm ▸ h.sessions j
      · rw [hrows]
        refine hvalid.frame s i j stage h hC hstatement hj fun k hk => ?_
        rw [System.view, h.locks.not_written hj hk, Option.getD_none]

theorem Valid.step (hvalid : o.Valid code C) (h : o.Holds s) {input : Input ι} (hC : C s input) :
    o.Holds (ReadCommitted.step code s input) := by
  cases input with
  | abort i => exact hvalid.abort h i
  | step i => exact hvalid.advance h hC

theorem Valid.run (hvalid : o.Valid code C) (h : o.Holds s) {inputs : List (Input ι)}
    (hC : Meets (ReadCommitted.step code) C s inputs) :
    o.Holds (run (ReadCommitted.step code) s inputs) :=
  run_invariant (I := o.Holds) (fun _ _ hinput hs => hvalid.step hs hinput) h hC

end Outline

/-- Nobody has a connection yet. -/
def System.initial (keys : List κ) (rows : κ → Option ρ) (stage : ι → γ) : System ι κ ρ γ :=
  ⟨keys, rows, fun _ => none, fun i => .start (stage i)⟩

theorem listed_initial {keys : List κ} {rows : κ → Option ρ} (h : ∀ k, rows k ≠ none → k ∈ keys)
    (stage : ι → γ) : Listed (System.initial keys rows stage) where
  rows := h
  written _ _ hk := absurd rfl hk

theorem wellLocked_initial (keys : List κ) (rows : κ → Option ρ) (stage : ι → γ) :
    WellLocked (System.initial keys rows stage) := by
  intro i k
  simp [System.initial, Session.start]

end VpsGuardian.Lib.ReadCommitted
