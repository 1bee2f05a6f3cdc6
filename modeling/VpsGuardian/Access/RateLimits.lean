import VpsGuardian.Lib.Action
import VpsGuardian.Lib.Run
import VpsGuardian.Lib.SlidingWindow
import VpsGuardian.Controller.Records

/-!
The rate limiters of logins and of enrollment (`LoginRateLimiter` in `guardian/security.py`,
`EnrollmentRateLimiter` in `guardian/enrollment.py`).

Both keep the times of the accepted attempts of every key and drop them lazily. A call holds the
limiter's lock, so calls are taken one after the other. Times of `time.monotonic` are exact.
-/

namespace VpsGuardian.Access.RateLimits

open Lib
open Controller (HTTPException)

/-- `_attempts`: a key that is missing has an empty deque. -/
abbrev Attempts := String → List ℚ

/-- `check`, which is the same in both limiters up to what it raises. -/
def check {ε : Type} (rejection : ε) (key : String) (limit window : ℤ) (now : ℚ) :
    Action Attempts ε Unit := fun attempts =>
  let pruned := SlidingWindow.prune (window : ℚ) now (attempts key)
  if limit ≤ pruned.length then
    (.error rejection, Function.update attempts key pruned)
  else
    (.ok (), Function.update attempts key (pruned ++ [now]))

/-- `reset`, which is the same in both limiters. -/
def reset (key : String) (attempts : Attempts) : Attempts := Function.update attempts key []

def LoginRateLimiter.check (key : String) (limit window : ℤ) (now : ℚ) :
    Action Attempts HTTPException Unit :=
  RateLimits.check ⟨429, "login rate limit exceeded"⟩ key limit window now

structure EnrollmentRateLimitError where
  message : String
  deriving DecidableEq, Repr

def EnrollmentRateLimiter.check (key : String) (limit window : ℤ) (now : ℚ) :
    Action Attempts EnrollmentRateLimitError Unit :=
  RateLimits.check ⟨"enrollment rate limit exceeded"⟩ key limit window now

def EnrollmentRateLimiter.clear (_ : Attempts) : Attempts := fun _ => []

/-! ### Runs -/

/-- A call of a limiter; only the limiter of enrollment is ever cleared. -/
inductive Call where
  | check (key : String) (now : ℚ)
  | reset (key : String)
  | clear
  deriving DecidableEq, Repr

def Call.time? : Call → Option ℚ
  | .check _ now => some now
  | .reset _ => none
  | .clear => none

/-- No check comes before one that was called earlier. -/
def Ordered (calls : List Call) : Prop := (calls.filterMap Call.time?).Pairwise (· ≤ ·)

instance (calls : List Call) : Decidable (Ordered calls) :=
  inferInstanceAs (Decidable ((calls.filterMap Call.time?).Pairwise (· ≤ ·)))

/-- A limiter, and the times of the accepted checks of every key since its last reset. -/
structure Observed where
  attempts : Attempts
  accepted : String → List ℚ

def Observed.initial : Observed := ⟨fun _ => [], fun _ => []⟩

/-- How a check is called: by key, limit, window and time. -/
abbrev Check (ε : Type) := String → ℤ → ℤ → ℚ → Action Attempts ε Unit

section Calls

variable {ε : Type} (check : Check ε) (limit window : ℤ)

def step (s : Observed) : Call → Observed
  | .check key now =>
      match check key limit window now s.attempts with
      | (.ok (), attempts) =>
          ⟨attempts, Function.update s.accepted key (s.accepted key ++ [now])⟩
      | (.error _, attempts) => ⟨attempts, s.accepted⟩
  | .reset key => ⟨reset key s.attempts, Function.update s.accepted key []⟩
  | .clear => ⟨EnrollmentRateLimiter.clear s.attempts, fun _ => []⟩

/-- The limiter after some calls enforces a sliding window, exactly. -/
structure Slides (calls : List Call) (s : Observed) : Prop where
  /-- No half-open interval as long as the window has more accepted checks than the limit. -/
  closedOpen : ∀ key (start : ℚ),
    ((s.accepted key).filter fun t => start ≤ t ∧ t < start + window).length ≤ limit.toNat
  openClosed : ∀ key (start : ℚ),
    ((s.accepted key).filter fun t => start < t ∧ t ≤ start + window).length ≤ limit.toNat
  /-- A rejected check prunes the key and does nothing else. -/
  pruned : ∀ key now e attempts, check key limit window now s.attempts = (.error e, attempts) →
    attempts = Function.update s.attempts key
      (SlidingWindow.prune (window : ℚ) now (s.attempts key))
  /-- The next check is rejected only with the limit used up in the window before it. -/
  usedUp : ∀ key now e attempts, (∀ t ∈ calls.filterMap Call.time?, t ≤ now) →
    check key limit window now s.attempts = (.error e, attempts) →
    limit ≤ ((s.accepted key).filter fun t => now - window < t ∧ t ≤ now).length

end Calls

/-! ### What the limiters keep -/

/-- The limiter holds what can still count, and no window of what was accepted is overfull. -/
structure Kept (limit window : ℤ) (now : ℚ) (s : Observed) : Prop where
  holds : ∀ key, SlidingWindow.Holds (window : ℚ) now (s.accepted key) (s.attempts key)
  bounded : ∀ key, SlidingWindow.Bounded limit.toNat (window : ℚ) (s.accepted key)

variable {ε : Type} {rejection : ε} {limit window : ℤ} {key : String} {now now' : ℚ}
  {s : Observed} {attempts attempts' : Attempts}

theorem check_ok (h : check rejection key limit window now attempts = (.ok (), attempts')) :
    (SlidingWindow.prune (window : ℚ) now (attempts key)).length < limit ∧
      attempts' = Function.update attempts key
        (SlidingWindow.prune (window : ℚ) now (attempts key) ++ [now]) := by
  rw [check] at h
  split at h
  · cases h
  · exact ⟨not_le.mp ‹_›, (congrArg Prod.snd h).symm⟩

theorem check_error {e : ε}
    (h : check rejection key limit window now attempts = (.error e, attempts')) :
    limit ≤ (SlidingWindow.prune (window : ℚ) now (attempts key)).length ∧
      attempts' = Function.update attempts key
        (SlidingWindow.prune (window : ℚ) now (attempts key)) := by
  rw [check] at h
  split at h
  · exact ⟨‹_›, (congrArg Prod.snd h).symm⟩
  · cases h

theorem Kept.initial : Kept limit window now .initial :=
  ⟨fun _ => .nil _ _, fun _ t ht => by cases ht⟩

theorem Kept.later (h : Kept limit window now s) (hle : now ≤ now') : Kept limit window now' s :=
  ⟨fun key => (h.holds key).later hle, h.bounded⟩

/-- Forgetting a key, or what is too old for it, keeps the rest. -/
theorem Kept.update (h : Kept limit window now s) {recorded held : List ℚ}
    (hholds : SlidingWindow.Holds (window : ℚ) now recorded held)
    (hbounded : SlidingWindow.Bounded limit.toNat (window : ℚ) recorded) :
    Kept limit window now
      ⟨Function.update s.attempts key held, Function.update s.accepted key recorded⟩ := by
  refine ⟨fun other => ?_, fun other => ?_⟩
  · by_cases heq : other = key
    · subst heq
      simpa only [Function.update_self] using hholds
    · simpa only [Function.update_of_ne heq] using h.holds other
  · by_cases heq : other = key
    · subst heq
      simpa only [Function.update_self] using hbounded
    · simpa only [Function.update_of_ne heq] using h.bounded other

theorem Kept.check (h : Kept limit window now s) :
    Kept limit window now (step (check rejection) limit window s (.check key now)) := by
  have hheld : SlidingWindow.prune (window : ℚ) now (s.attempts key) =
      SlidingWindow.recent (window : ℚ) now (s.accepted key) := (h.holds key).prune_eq
  rw [step]
  split
  · next hok =>
    obtain ⟨hlt, rfl⟩ := check_ok hok
    refine h.update (h.holds key).prune.record ((h.bounded key).record (h.holds key).le_now ?_)
    rw [← hheld]
    omega
  · next herror =>
    obtain ⟨-, rfl⟩ := check_error herror
    have hupdate : Kept limit window now ⟨Function.update s.attempts key _,
        Function.update s.accepted key (s.accepted key)⟩ :=
      h.update (h.holds key).prune (h.bounded key)
    rwa [Function.update_eq_self] at hupdate

theorem Kept.reset (h : Kept limit window now s) :
    Kept limit window now (step (RateLimits.check rejection) limit window s (.reset key)) :=
  h.update (.nil _ _) fun _ ht => by cases ht

theorem Kept.clear :
    Kept limit window now (step (RateLimits.check rejection) limit window s .clear) :=
  ⟨fun _ => .nil _ _, fun _ _ ht => by cases ht⟩

theorem Ordered.of_append {history : List Call} {call : Call}
    (h : Ordered (history ++ [call])) : Ordered history ∧
      ∀ now ∈ call.time?, ∀ t ∈ history.filterMap Call.time?, t ≤ now := by
  rw [Ordered, List.filterMap_append, List.pairwise_append] at h
  refine ⟨h.1, fun now hnow t ht => h.2.2 t ht now ?_⟩
  exact List.mem_filterMap.mpr ⟨call, List.mem_singleton_self call, hnow⟩

/-- Once the calls are in order, the limiter is kept at every time after them. -/
theorem kept_run {calls : List Call} (hordered : Ordered calls)
    (hnow : ∀ t ∈ calls.filterMap Call.time?, t ≤ now) :
    Kept limit window now
      (run (step (RateLimits.check rejection) limit window) .initial calls) := by
  induction calls using List.reverseRecOn generalizing now with
  | nil => exact .initial
  | append_singleton history call ih =>
    obtain ⟨hhistory, hcall⟩ := hordered.of_append
    rw [List.filterMap_append] at hnow
    rw [run_append, run_cons, run_nil]
    have hearlier := fun t ht => hnow t (List.mem_append_left _ ht)
    cases call with
    | check key t =>
      -- the check is made at its own time, which is not later than the end of the run
      refine (ih hhistory (hcall t rfl)).check.later (hnow t ?_)
      exact List.mem_append_right _ (List.mem_singleton_self t)
    | reset key => exact (ih hhistory hearlier).reset
    | clear => exact .clear

/-- There is a time that comes after all calls. -/
theorem exists_after (calls : List Call) : ∃ now, ∀ t ∈ calls.filterMap Call.time?, t ≤ now := by
  obtain ⟨now, hnow⟩ := (calls.filterMap Call.time?).toFinset.bddAbove
  exact ⟨now, fun t ht => hnow (List.mem_toFinset.mpr ht)⟩

theorem slides_run {calls : List Call} (hordered : Ordered calls) :
    Slides (RateLimits.check rejection) limit window calls
      (run (step (RateLimits.check rejection) limit window) .initial calls) := by
  have hkept : ∀ now, (∀ t ∈ calls.filterMap Call.time?, t ≤ now) → Kept limit window now
      (run (step (RateLimits.check rejection) limit window) .initial calls) :=
    fun now hnow => kept_run hordered hnow
  obtain ⟨last, hlast⟩ := exists_after calls
  have hbounded := (hkept last hlast).bounded
  refine ⟨fun key start => (hbounded key).length_filter_le _ fun t u ht hu => ?_,
    fun key start => (hbounded key).length_filter_le _ fun t u ht hu => ?_,
    fun key now e attempts herror => (check_error herror).2,
    fun key now e attempts hnow herror => ?_⟩
  · have ht' := of_decide_eq_true ht
    have hu' := of_decide_eq_true hu
    linarith [ht'.1, hu'.2]
  · have ht' := of_decide_eq_true ht
    have hu' := of_decide_eq_true hu
    linarith [ht'.1, hu'.2]
  · have hle := (check_error herror).1
    rwa [((hkept now hnow).holds key).prune_eq] at hle

/-- Both rate limiters enforce a sliding window, exactly, after any calls. -/
theorem limiters_slide (limit window : ℤ) (calls : List Call) (hordered : Ordered calls) :
    Slides LoginRateLimiter.check limit window calls
      (run (step LoginRateLimiter.check limit window) .initial calls) ∧
    Slides EnrollmentRateLimiter.check limit window calls
      (run (step EnrollmentRateLimiter.check limit window) .initial calls) :=
  ⟨slides_run hordered, slides_run hordered⟩

theorem limiters_slide_at_edge :
    Ordered [.check "a" 0, .check "a" 0, .reset "b", .check "a" 600] ∧
    Slides LoginRateLimiter.check 1 600 [.check "a" 0, .check "a" 0, .reset "b", .check "a" 600]
      (run (step LoginRateLimiter.check 1 600) .initial
        [.check "a" 0, .check "a" 0, .reset "b", .check "a" 600]) := by
  have hordered : Ordered [.check "a" 0, .check "a" 0, .reset "b", .check "a" 600] := by decide
  exact ⟨hordered, (limiters_slide 1 600 _ hordered).1⟩

end VpsGuardian.Access.RateLimits
