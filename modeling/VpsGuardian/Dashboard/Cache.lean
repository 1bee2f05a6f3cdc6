import VpsGuardian.Controller.Records
import VpsGuardian.Lib.Dict
import VpsGuardian.Lib.Run

/-!
The cache in front of the dashboard (`dashboard.py`), used by any number of
requests at once.

A reader looks the cache up, and where it finds nothing builds the payload from
the committed state and stores it. A writer commits, clears the cache and
responds (`invalidate_dashboard_after_mutation` of `main.py`). The lock covers
the look-up, the storing and the clearing one by one, so each of them is a step
of its own, with any steps of other requests in between.
-/

namespace VpsGuardian.Dashboard

open Lib
open Controller (Time seconds)

/-- `BOOTSTRAP_CACHE_SECONDS`. -/
def bootstrapCacheSeconds : Time := seconds 10

/-- An entry, with the number of commits in the state its payload was built from. -/
structure DashboardCacheEntry (π : Type) where
  payload : π
  etag : String
  expiresAt : Time
  builtAfter : Nat
  deriving DecidableEq, Repr

/-- Where a request is. A reader computes its payload from the database with its own view
of it; a writer knows which commit was its own. -/
inductive Request (γ π : Type) where
  | lookingUp (key : String) (view : γ → π) (now : Time)
  | building (key : String) (view : γ → π) (now : Time)
  | storing (key : String) (entry : DashboardCacheEntry π)
  | answered (entry : DashboardCacheEntry π)
  | committed (commit : Nat)
  | invalidated (commit : Nat)
  | responded (commit : Nat)

structure State (γ π : Type) where
  database : γ
  commits : Nat
  now : Time
  cache : Dict (DashboardCacheEntry π)
  requests : List (Request γ π)

/-- Time passes, a request begins, or the request with a number takes its next step. -/
inductive Input (γ π : Type) where
  | pass (duration : Nat)
  | bootstrap (key : String) (view : γ → π)
  | mutate (update : γ → γ)
  | proceed (number : Nat)

variable {γ π : Type} (etagOf : π → String)

/-- `invalidate_dashboard_cache`. -/
def State.invalidateDashboardCache (s : State γ π) : State γ π := { s with cache := .empty }

/-- The next step of one request: `dashboard_bootstrap`, or a mutation after its commit. -/
def State.advance (s : State γ π) : Request γ π → State γ π × Request γ π
  | .lookingUp key view now =>
      match s.cache.get? key with
      | some cached =>
          if now < cached.expiresAt then (s, .answered cached) else (s, .building key view now)
      | none => (s, .building key view now)
  | .building key view now =>
      let payload := view s.database
      (s, .storing key ⟨payload, etagOf payload, now + bootstrapCacheSeconds, s.commits⟩)
  | .storing key entry => ({ s with cache := s.cache.insert key entry }, .answered entry)
  | .committed commit => (s.invalidateDashboardCache, .invalidated commit)
  | .invalidated commit => (s, .responded commit)
  | .answered entry => (s, .answered entry)
  | .responded commit => (s, .responded commit)

def step (s : State γ π) : Input γ π → State γ π
  | .pass duration => { s with now := s.now + duration }
  | .bootstrap key view => { s with requests := s.requests ++ [.lookingUp key view s.now] }
  | .mutate update => { s with
      database := update s.database
      commits := s.commits + 1
      requests := s.requests ++ [.committed (s.commits + 1)] }
  | .proceed number =>
      match s.requests[number]? with
      | none => s
      | some request =>
          let advanced := s.advance etagOf request
          { advanced.1 with requests := s.requests.set number advanced.2 }

/-- The Controller as it starts. -/
def initial (database : γ) (now : Time) : State γ π := ⟨database, 0, now, .empty, []⟩

/-- The commit of a writer that has cleared the cache. -/
def Request.cleared? : Request γ π → Option Nat
  | .invalidated commit | .responded commit => some commit
  | _ => none

/-- No entry is stored that was built before a commit for which the cache has been cleared
already. -/
def StoresCurrent (s : State γ π) : Input γ π → Prop
  | .proceed number =>
      match s.requests[number]? with
      | some (.storing _ entry) =>
          ∀ writer ∈ s.requests, ∀ commit ∈ writer.cleared?, commit ≤ entry.builtAfter
      | _ => True
  | _ => True

/-- Every reader that begins after a writer has responded is answered with a payload built
from a state that has the writer's commit in it. -/
def SeesEarlierWrites (s : State γ π) (inputs : List (Input γ π)) : Prop :=
  ∀ before key view after, inputs = before ++ .bootstrap key view :: after →
    ∀ commit, .responded commit ∈ (run (step etagOf) s before).requests →
    ∀ entry, (run (step etagOf) s inputs).requests[(run (step etagOf) s before).requests.length]? =
        some (.answered entry) →
      commit ≤ entry.builtAfter

/-! ### Steps -/

variable {etagOf}

/-- A commit stays below the number of commits, and a writer that has cleared the cache finds
nothing in it that was built before its commit. -/
structure Coherent (s : State γ π) : Prop where
  cleared_le : ∀ writer ∈ s.requests, ∀ commit ∈ writer.cleared?, commit ≤ s.commits
  committed_le : ∀ commit, .committed commit ∈ s.requests → commit ≤ s.commits
  cached : ∀ writer ∈ s.requests, ∀ commit ∈ writer.cleared?, ∀ item ∈ s.cache.entries,
    commit ≤ item.2.builtAfter

theorem coherent_initial (database : γ) (now : Time) :
    Coherent (initial database now : State γ π) where
  cleared_le := by simp [initial]
  committed_le := by simp [initial]
  cached := by simp [initial]

/-- A request takes a step that leaves the database alone. -/
theorem Coherent.proceed {s : State γ π} (h : Coherent s)
    {cache : Dict (DashboardCacheEntry π)} {request : Request γ π} (number : Nat)
    (hcached : ∀ writer ∈ s.requests, ∀ commit ∈ writer.cleared?, ∀ item ∈ cache.entries,
      commit ≤ item.2.builtAfter)
    (hcleared : ∀ commit ∈ request.cleared?, commit ≤ s.commits ∧
      ∀ item ∈ cache.entries, commit ≤ item.2.builtAfter)
    (hcommitted : ∀ commit, request ≠ .committed commit) :
    Coherent { s with cache := cache, requests := s.requests.set number request } where
  cleared_le writer hwriter commit hcommit := by
    obtain hwriter | rfl := List.mem_or_eq_of_mem_set hwriter
    · exact h.cleared_le writer hwriter commit hcommit
    · exact (hcleared commit hcommit).1
  committed_le commit hcommit := by
    obtain hcommit | heq := List.mem_or_eq_of_mem_set hcommit
    · exact h.committed_le commit hcommit
    · exact absurd heq.symm (hcommitted commit)
  cached writer hwriter commit hcommit := by
    obtain hwriter | rfl := List.mem_or_eq_of_mem_set hwriter
    · exact hcached writer hwriter commit hcommit
    · exact (hcleared commit hcommit).2

theorem Coherent.read {s : State γ π} (h : Coherent s) {request : Request γ π} (number : Nat)
    (hcleared : request.cleared? = none) (hcommitted : ∀ commit, request ≠ .committed commit) :
    Coherent { s with requests := s.requests.set number request } :=
  h.proceed number h.cached (by simp [hcleared]) hcommitted

/-- A request begins, after a commit of its own or without one. -/
theorem Coherent.begin {s : State γ π} (h : Coherent s) {request : Request γ π} (database : γ)
    {commits : Nat} (hcommits : s.commits ≤ commits) (hcleared : request.cleared? = none)
    (hcommitted : ∀ commit, request = .committed commit → commit ≤ commits) :
    Coherent { s with
      database := database
      commits := commits
      requests := s.requests ++ [request] } where
  cleared_le writer hwriter commit hcommit := by
    obtain hwriter | hwriter := List.mem_append.mp hwriter
    · exact (h.cleared_le writer hwriter commit hcommit).trans hcommits
    · obtain rfl := List.mem_singleton.mp hwriter
      simp [hcleared] at hcommit
  committed_le commit hcommit := by
    obtain hcommit | hcommit := List.mem_append.mp hcommit
    · exact (h.committed_le commit hcommit).trans hcommits
    · exact hcommitted commit (List.mem_singleton.mp hcommit).symm
  cached writer hwriter commit hcommit := by
    obtain hwriter | hwriter := List.mem_append.mp hwriter
    · exact h.cached writer hwriter commit hcommit
    · obtain rfl := List.mem_singleton.mp hwriter
      simp [hcleared] at hcommit

theorem Coherent.step {s : State γ π} (h : Coherent s) {input : Input γ π}
    (hinput : StoresCurrent s input) : Coherent (step etagOf s input) := by
  cases input with
  | pass duration => exact ⟨h.cleared_le, h.committed_le, h.cached⟩
  | bootstrap key view => exact h.begin s.database le_rfl rfl nofun
  | mutate update =>
    refine h.begin (update s.database) (Nat.le_succ _) rfl ?_
    rintro commit heq
    cases heq
    exact le_rfl
  | proceed number =>
    simp only [Dashboard.step]
    cases hrequest : s.requests[number]? with
    | none => exact h
    | some request =>
      have hmem : request ∈ s.requests := List.mem_of_getElem? hrequest
      cases request with
      | lookingUp key view now =>
        -- found or not, the look-up changes nothing but the reader itself
        simp only [State.advance]
        split
        · split
          · exact h.read number rfl nofun
          · exact h.read number rfl nofun
        · exact h.read number rfl nofun
      | building key view now => exact h.read number rfl nofun
      | storing key entry =>
        -- the one step that could bring an old payload back
        have hentry : ∀ writer ∈ s.requests, ∀ commit ∈ writer.cleared?,
            commit ≤ entry.builtAfter := by simpa [StoresCurrent, hrequest] using hinput
        refine h.proceed number ?_ nofun nofun
        intro writer hwriter commit hcommit item hitem
        obtain hitem | hitem := List.mem_append.mp hitem
        · exact h.cached writer hwriter commit hcommit item (List.mem_filter.mp hitem).1
        · obtain rfl := List.mem_singleton.mp hitem
          exact hentry writer hwriter commit hcommit
      | answered entry => exact h.read number rfl nofun
      | committed commit =>
        refine h.proceed number (fun _ _ _ _ _ => nofun) ?_ nofun
        intro commit' hcommit
        obtain rfl : commit = commit' := Option.some.inj hcommit
        exact ⟨h.committed_le commit hmem, nofun⟩
      | invalidated commit =>
        refine h.proceed number h.cached ?_ nofun
        intro commit' hcommit
        exact ⟨h.cleared_le _ hmem commit' hcommit, h.cached _ hmem commit' hcommit⟩
      | responded commit =>
        refine h.proceed number h.cached ?_ nofun
        intro commit' hcommit
        exact ⟨h.cleared_le _ hmem commit' hcommit, h.cached _ hmem commit' hcommit⟩

/-! ### One reader -/

/-- What the reader holds already was built after a commit. -/
def Request.Since (commit : Nat) : Request γ π → Prop
  | .storing _ entry | .answered entry => commit ≤ entry.builtAfter
  | _ => True

/-- A writer has responded, and the request with a number holds nothing older. -/
structure Follows (commit number : Nat) (s : State γ π) : Prop where
  coherent : Coherent s
  responded : .responded commit ∈ s.requests
  since : ∃ request, s.requests[number]? = some request ∧ request.Since commit

/-- A writer that has responded stays so. -/
theorem responded_step {s : State γ π} {commit : Nat} (h : .responded commit ∈ s.requests)
    (input : Input γ π) : .responded commit ∈ (step etagOf s input).requests := by
  cases input with
  | pass duration => exact h
  | bootstrap key view => exact List.mem_append_left _ h
  | mutate update => exact List.mem_append_left _ h
  | proceed number =>
    simp only [Dashboard.step]
    cases hrequest : s.requests[number]? with
    | none => exact h
    | some request =>
      obtain ⟨place, hplace⟩ := List.mem_iff_getElem?.mp h
      apply List.mem_iff_getElem?.mpr
      refine ⟨place, ?_⟩
      by_cases hsame : number = place
      · obtain rfl : request = .responded commit := by
          rw [hsame, hplace] at hrequest
          exact (Option.some.inj hrequest).symm
        subst hsame
        rw [List.getElem?_set_self (List.getElem?_eq_some_iff.mp hplace).1]
        rfl
      · rw [List.getElem?_set_ne hsame]
        exact hplace

/-- The next step of a request that holds nothing older than a commit for which the cache
has been cleared. -/
theorem Coherent.advance_since {s : State γ π} (h : Coherent s) {commit : Nat}
    (hresponded : .responded commit ∈ s.requests) {request : Request γ π}
    (hrequest : request.Since commit) : (s.advance etagOf request).2.Since commit := by
  cases request with
  | lookingUp key view now =>
    simp only [State.advance]
    cases hcached : s.cache.get? key with
    | none => trivial
    | some cached =>
      dsimp only
      split
      · exact h.cached _ hresponded commit rfl _ (Dict.mem_entries_of_get? hcached)
      · trivial
  | building key view now => exact h.cleared_le _ hresponded commit rfl
  | storing key entry => exact hrequest
  | answered entry => exact hrequest
  | committed commit' => trivial
  | invalidated commit' => trivial
  | responded commit' => trivial

theorem Follows.step {s : State γ π} {commit number : Nat} (h : Follows commit number s)
    {input : Input γ π} (hinput : StoresCurrent s input) :
    Follows commit number (step etagOf s input) := by
  obtain ⟨request, hrequest, hsince⟩ := h.since
  have hlt : number < s.requests.length := (List.getElem?_eq_some_iff.mp hrequest).1
  refine ⟨h.coherent.step hinput, responded_step h.responded input, ?_⟩
  cases input with
  | pass duration => exact ⟨request, hrequest, hsince⟩
  | bootstrap key view =>
    exact ⟨request, (List.getElem?_append_left hlt).trans hrequest, hsince⟩
  | mutate update =>
    exact ⟨request, (List.getElem?_append_left hlt).trans hrequest, hsince⟩
  | proceed other =>
    simp only [Dashboard.step]
    by_cases hsame : other = number
    · subst hsame
      rw [hrequest]
      exact ⟨_, List.getElem?_set_self hlt, h.coherent.advance_since h.responded hsince⟩
    · cases s.requests[other]? with
      | none => exact ⟨request, hrequest, hsince⟩
      | some moved => exact ⟨request, by rw [List.getElem?_set_ne hsame, hrequest], hsince⟩

/-! ### Runs -/

/-- As long as every entry that is stored has all commits in it for which the cache has been
cleared, readers see every write that was responded to before they began. -/
theorem readers_see_earlier_writes {database : γ} {now : Time} {inputs : List (Input γ π)}
    (h : Meets (step etagOf) StoresCurrent (initial database now) inputs) :
    SeesEarlierWrites etagOf (initial database now) inputs := by
  rintro before key view after rfl commit hresponded entry hentry
  obtain ⟨hbefore, -, hafter⟩ := Meets.append.mp h
  have hcoherent : Coherent (run (step etagOf) (initial database now) before) :=
    run_invariant (I := Coherent) (fun _ _ hinput hs => Coherent.step hs hinput)
      (coherent_initial database now) hbefore
  -- the reader that begins now holds nothing yet
  have hbegin : Follows commit (run (step etagOf) (initial database now) before).requests.length
      (step etagOf (run (step etagOf) (initial database now) before) (.bootstrap key view)) := by
    refine ⟨hcoherent.step trivial, responded_step hresponded _, ?_⟩
    exact ⟨_, List.getElem?_concat_length, trivial⟩
  have hend := run_invariant (I := Follows commit _) (fun _ _ hinput hs => Follows.step hs hinput)
    hbegin hafter
  obtain ⟨request, hrequest, hsince⟩ := hend.since
  rw [run_append, run_cons, hrequest] at hentry
  obtain rfl := Option.some.inj hentry
  exact hsince

/-- A writer responds, a reader builds and stores, and a second reader is answered from the
cache. -/
theorem readers_see_earlier_writes_in_turn :
    SeesEarlierWrites (fun _ => "etag") (initial 0 0 : State Nat Nat)
      [.mutate (· + 1), .proceed 0, .proceed 0, .bootstrap "user-1" id, .proceed 1, .proceed 1,
        .proceed 1, .bootstrap "user-1" id, .proceed 2] := by
  apply readers_see_earlier_writes
  refine ⟨trivial, trivial, trivial, trivial, trivial, trivial, ?_, trivial, trivial, trivial⟩
  intro writer hwriter commit hcommit
  replace hwriter : writer ∈ [.responded 1, .storing "user-1" ⟨1, "etag", 10000000, 1⟩] := hwriter
  obtain rfl | rfl := List.mem_pair.mp hwriter
  · obtain rfl : 1 = commit := Option.some.inj hcommit
    exact le_rfl
  · cases hcommit

/-- The cache is cleared between a reader's building and its storing, and the next reader is
answered with what was built before the write. -/
theorem stale_payload_stored_after_clearing :
    ¬ SeesEarlierWrites (fun _ => "etag") (initial 0 0 : State Nat Nat)
      [.bootstrap "user-1" id, .proceed 0, .proceed 0, .mutate (· + 1), .proceed 1, .proceed 1,
        .proceed 0, .bootstrap "user-1" id, .proceed 2] := by
  intro h
  have hstale := h
    [.bootstrap "user-1" id, .proceed 0, .proceed 0, .mutate (· + 1), .proceed 1, .proceed 1,
      .proceed 0] "user-1" id [.proceed 2] rfl 1 (List.mem_of_getElem? (i := 1) rfl)
    ⟨0, "etag", 10000000, 0⟩ rfl
  exact absurd hstale (by decide)

end VpsGuardian.Dashboard
