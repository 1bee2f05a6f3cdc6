import Mathlib

/-!
Sliding windows over an ordered time line.

The times that were recorded are in order, oldest first. Those that are too old
are dropped from the front when the window moves on, so what is left is exactly
what lies in the window, and the length of the list is all a limit needs.
-/

namespace VpsGuardian.Lib.SlidingWindow

variable {T : Type} [AddCommGroup T] [LinearOrder T]

/-- Drops what is as old as the window or older. -/
def prune (window now : T) (times : List T) : List T := times.dropWhile (· ≤ now - window)

/-- The times that lie in the window that ends at a time. -/
def recent (window now : T) (times : List T) : List T :=
  times.filter fun t => now - window < t ∧ t ≤ now

/-- A list holds what is still in the window of the recorded times, none of which is later
than `now`. -/
structure Holds (window now : T) (recorded held : List T) : Prop where
  sorted : recorded.Pairwise (· ≤ ·)
  le_now : ∀ t ∈ recorded, t ≤ now
  suffix : ∃ dropped, recorded = dropped ++ held ∧ ∀ t ∈ dropped, t ≤ now - window

/-- Every window of the recorded times is within the limit. -/
def Bounded (limit : Nat) (window : T) (recorded : List T) : Prop :=
  ∀ t ∈ recorded, (recent window t recorded).length ≤ limit

variable {window now now' : T} {recorded held : List T}

theorem Holds.nil (window now : T) : Holds window now [] [] :=
  ⟨.nil, by simp, [], rfl, by simp⟩

theorem Holds.later [IsOrderedAddMonoid T] (h : Holds window now recorded held) (hle : now ≤ now') :
    Holds window now' recorded held := by
  obtain ⟨dropped, heq, hdropped⟩ := h.suffix
  exact ⟨h.sorted, fun t ht => (h.le_now t ht).trans hle, dropped, heq,
    fun t ht => (hdropped t ht).trans (sub_le_sub_right hle window)⟩

theorem Holds.prune (h : Holds window now recorded held) :
    Holds window now recorded (prune window now held) := by
  obtain ⟨dropped, heq, hdropped⟩ := h.suffix
  refine ⟨h.sorted, h.le_now, dropped ++ held.takeWhile (· ≤ now - window), ?_, ?_⟩
  · rw [List.append_assoc, SlidingWindow.prune, List.takeWhile_append_dropWhile, heq]
  · intro t ht
    obtain ht | ht := List.mem_append.mp ht
    · exact hdropped t ht
    · exact of_decide_eq_true (List.mem_takeWhile_imp (p := fun s => decide (s ≤ now - window)) ht)

/-- What is left after pruning is what lies in the window. -/
theorem Holds.prune_eq (h : Holds window now recorded held) :
    SlidingWindow.prune window now held = recent window now recorded := by
  obtain ⟨dropped, heq, hdropped⟩ := h.prune.suffix
  have hnone : dropped.filter (fun t => now - window < t ∧ t ≤ now) = [] := by
    rw [List.filter_eq_nil_iff]
    intro t ht hin
    exact absurd (of_decide_eq_true hin).1 (not_lt.mpr (hdropped t ht))
  have hall : (SlidingWindow.prune window now held).filter (fun t => now - window < t ∧ t ≤ now) =
      SlidingWindow.prune window now held := by
    rw [List.filter_eq_self]
    intro t ht
    have hnow : t ≤ now := h.le_now t (heq ▸ List.mem_append_right dropped ht)
    refine decide_eq_true ⟨?_, hnow⟩
    -- the first one left is young enough, and the others are not older
    have hsorted : (SlidingWindow.prune window now held).Pairwise (· ≤ ·) :=
      (List.pairwise_append.mp (heq ▸ h.sorted)).2.1
    cases hleft : SlidingWindow.prune window now held with
    | nil =>
      rw [hleft] at ht
      cases ht
    | cons first rest =>
      have hfirst : now - window < first := by
        have hhead := List.head?_dropWhile_not (fun t => decide (t ≤ now - window)) held
        rw [SlidingWindow.prune] at hleft
        rw [hleft] at hhead
        simpa using hhead
      rw [hleft] at ht hsorted
      obtain rfl | ht := List.mem_cons.mp ht
      · exact hfirst
      · exact hfirst.trans_le (List.rel_of_pairwise_cons hsorted ht)
  conv_rhs => rw [recent, heq, List.filter_append, hnone, List.nil_append, hall]

theorem Holds.record (h : Holds window now recorded held) :
    Holds window now (recorded ++ [now]) (held ++ [now]) := by
  obtain ⟨dropped, heq, hdropped⟩ := h.suffix
  refine ⟨?_, ?_, dropped, by rw [heq, List.append_assoc], hdropped⟩
  · refine List.pairwise_append.mpr ⟨h.sorted, List.pairwise_singleton _ _, fun t ht s hs => ?_⟩
    obtain rfl := List.mem_singleton.mp hs
    exact h.le_now t ht
  · intro t ht
    obtain ht | ht := List.mem_append.mp ht
    · exact h.le_now t ht
    · obtain rfl := List.mem_singleton.mp ht
      exact le_rfl

theorem length_recent_append (t : T) :
    (recent window t (recorded ++ [now])).length ≤ (recent window t recorded).length + 1 := by
  rw [recent, List.filter_append, List.length_append]
  exact Nat.add_le_add_left ((List.length_filter_le _ _).trans_eq rfl) _

/-- One more time stays within the limit if its window was below it. -/
theorem Bounded.record {limit : Nat} (hbounded : Bounded limit window recorded)
    (hle : ∀ t ∈ recorded, t ≤ now) (hlimit : (recent window now recorded).length < limit) :
    Bounded limit window (recorded ++ [now]) := by
  have hnow : (recent window now (recorded ++ [now])).length ≤ limit :=
    (length_recent_append now).trans hlimit
  intro t ht
  obtain ht | ht := List.mem_append.mp ht
  · obtain rfl | hlt := (hle t ht).eq_or_lt
    · exact hnow
    · have hout : recent window t (recorded ++ [now]) = recent window t recorded := by
        have hnone : [now].filter (fun s => t - window < s ∧ s ≤ t) = [] := by
          simp [not_le.mpr hlt]
        rw [recent, List.filter_append, hnone, List.append_nil]
        rfl
      rw [hout]
      exact hbounded t ht
  · obtain rfl := List.mem_singleton.mp ht
    exact hnow

/-- Times that are less than the window apart are within the limit. -/
theorem Bounded.length_filter_le {limit : Nat} (hbounded : Bounded limit window recorded)
    (p : T → Bool) (hp : ∀ s t, p s = true → p t = true → t - window < s) :
    (recorded.filter p).length ≤ limit := by
  by_cases hnone : recorded.filter p = []
  · rw [hnone]
    exact Nat.zero_le limit
  · -- all of them lie in the window that ends at the latest of them
    have hpos : 0 < (recorded.filter p).length := List.length_pos_iff.mpr hnone
    have hlast := List.maximum_of_length_pos_mem hpos
    obtain ⟨hrecorded, hlastp⟩ := List.mem_filter.mp hlast
    refine le_trans ?_ (hbounded _ hrecorded)
    rw [recent, ← List.countP_eq_length_filter, ← List.countP_eq_length_filter]
    refine List.countP_mono_left fun t ht htp => decide_eq_true ⟨hp t _ htp hlastp, ?_⟩
    exact List.le_maximum_of_length_pos_of_mem (List.mem_filter.mpr ⟨ht, htp⟩) hpos

end VpsGuardian.Lib.SlidingWindow
