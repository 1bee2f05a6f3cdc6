import VpsGuardian.NetHelper.Network

/-!
What the network commands can do to the kernel, whichever of them are run and
whichever of them fail.

Either no transaction was accepted, and every counter gained exactly the bytes
that were counted; or one was, and no counter has more bytes than were counted
since. The durable file is not touched.
-/

namespace VpsGuardian.NetHelper

open Lib

namespace Kernel

/-- A later kernel, related to an earlier one. -/
structure Evolves (k k' : Kernel) : Prop where
  grown : ∀ name, k.grown name ≤ k'.grown name
  commits : k.commits ≤ k'.commits
  kept : k'.commits = k.commits → ∀ name,
    k'.counters name = (k.counters name).map (· + (k'.grown name - k.grown name))
  idle : k'.commits = k.commits → ∀ name, k.counters name = none → k'.grown name = k.grown name
  renewed : k.commits < k'.commits → ∀ name, k'.count name + k.grown name ≤ k'.grown name

theorem Evolves.refl (k : Kernel) : k.Evolves k := by
  refine ⟨fun _ => le_rfl, le_rfl, fun _ name => ?_, fun _ _ _ => rfl,
    fun h => absurd h (lt_irrefl _)⟩
  cases h : k.counters name <;> simp

/-- Without an accepted transaction a counter gains what was counted. -/
theorem Evolves.count_eq {k k' : Kernel} (h : k.Evolves k') (hcommits : k'.commits = k.commits)
    (name : String) : k'.count name + k.grown name = k.count name + k'.grown name := by
  have hgrown := h.grown name
  cases hn : k.counters name with
  | none => simp [count, h.kept hcommits name, hn, h.idle hcommits name hn]
  | some n =>
      simp only [count, h.kept hcommits name, hn, Option.map_some, Option.getD_some]
      omega

/-- A counter never gains more than was counted. -/
theorem Evolves.count_le {k k' : Kernel} (h : k.Evolves k') (name : String) :
    k'.count name + k.grown name ≤ k.count name + k'.grown name := by
  have hgrown := h.grown name
  rcases h.commits.eq_or_lt with heq | hlt
  · exact (h.count_eq heq.symm name).le
  · have hrenewed := h.renewed hlt name
    omega

theorem Evolves.trans {k k' k'' : Kernel} (h : k.Evolves k') (h' : k'.Evolves k'') :
    k.Evolves k'' := by
  refine ⟨fun name => (h.grown name).trans (h'.grown name), h.commits.trans h'.commits, ?_, ?_, ?_⟩
  · intro hcommits name
    have heq : k'.commits = k.commits := by
      have := h.commits
      have := h'.commits
      omega
    have hgrown := h.grown name
    have hgrown' := h'.grown name
    rw [h'.kept (by omega) name, h.kept heq name, Option.map_map]
    congr 1
    funext n
    simp only [Function.comp_apply]
    omega
  · intro hcommits name hname
    have heq : k'.commits = k.commits := by
      have := h.commits
      have := h'.commits
      omega
    have hname' : k'.counters name = none := by rw [h.kept heq name, hname]; rfl
    exact (h'.idle (by omega) name hname').trans (h.idle heq name hname)
  · intro hcommits name
    have hgrown := h.grown name
    have hle := h'.count_le name
    rcases h'.commits.eq_or_lt with heq | hlt
    · have hrenewed := h.renewed (by omega) name
      omega
    · have hrenewed := h'.renewed hlt name
      omega

theorem evolves_grow (k : Kernel) (bytes : String → Nat) : k.Evolves (k.grow bytes) := by
  refine ⟨fun name => by simp [grow], le_rfl, fun _ name => ?_, fun _ name h => by simp [grow, h],
    fun h => absurd h (lt_irrefl _)⟩
  cases h : k.counters name <;> simp [grow, h]

theorem count_commit (k : Kernel) (script : List Statement) (name : String) :
    (k.commit script).count name = 0 := by
  unfold commit count
  split
  · rfl
  · dsimp only
    split <;> rfl

@[simp] theorem grown_commit (k : Kernel) (script : List Statement) :
    (k.commit script).grown = k.grown := by
  unfold commit
  split <;> rfl

@[simp] theorem commits_commit (k : Kernel) (script : List Statement) :
    (k.commit script).commits = k.commits + 1 := by
  unfold commit
  split <;> rfl

theorem evolves_commit (k : Kernel) (script : List Statement) : k.Evolves (k.commit script) := by
  refine ⟨fun name => by simp, by simp, fun h => by simp at h, fun h => by simp at h,
    fun _ name => ?_⟩
  simp [count_commit]

end Kernel

namespace World

/-- A later world of the same call: the kernel evolved, the file is the same. -/
structure Evolves (w w' : World) : Prop where
  kernel : w.kernel.Evolves w'.kernel
  durable : w'.durable = w.durable

theorem Evolves.refl (w : World) : w.Evolves w := ⟨.refl _, rfl⟩

theorem Evolves.trans (w w' w'' : World) (h : w.Evolves w') (h' : w'.Evolves w'') :
    w.Evolves w'' := ⟨h.kernel.trans h'.kernel, h'.durable.trans h.durable⟩

theorem evolves_advance (w : World) : w.Evolves w.advance :=
  ⟨Kernel.evolves_grow _ _, rfl⟩

theorem evolves_commit (w : World) (script : List Statement) : w.Evolves (w.commit script) :=
  ⟨Kernel.evolves_commit _ _, rfl⟩

end World

/-- A program that does nothing but run network commands. -/
def OnlyEvolves {ε α : Type} (m : Action World ε α) : Prop :=
  Action.Ensures World.Evolves (fun _ => True) m

namespace OnlyEvolves

variable {ε ε' α β : Type}

theorem pure (a : α) : OnlyEvolves (Pure.pure a : Action World ε α) :=
  Action.Ensures.pure World.Evolves.refl trivial

theorem throw (e : ε) : OnlyEvolves (Action.throw e : Action World ε α) :=
  Action.Ensures.throw World.Evolves.refl e

theorem bind {m : Action World ε α} {f : α → Action World ε β} (hm : OnlyEvolves m)
    (hf : ∀ a, OnlyEvolves (f a)) : OnlyEvolves (m >>= f) :=
  Action.Ensures.bind World.Evolves.trans hm fun a _ => hf a

theorem attempt {m : Action World ε α} (hm : OnlyEvolves m) :
    OnlyEvolves (m.attempt : Action World ε' _) :=
  Action.Ensures.mono (fun _ _ => trivial) (Action.Ensures.attempt hm)

theorem ignore {m : Action World ε α} (hm : OnlyEvolves m) :
    OnlyEvolves (m.ignore : Action World ε' _) := Action.Ensures.ignore hm

theorem mapError (f : ε → ε') {m : Action World ε α} (hm : OnlyEvolves m) :
    OnlyEvolves (m.mapError f) := Action.Ensures.mapError f hm

theorem forEach {f : β → Action World ε Unit} (hf : ∀ b, OnlyEvolves (f b)) (items : List β) :
    OnlyEvolves (Action.forEach f items) :=
  Action.Ensures.forEach World.Evolves.refl World.Evolves.trans hf items

theorem collect {f : β → Action World ε α} (hf : ∀ b, OnlyEvolves (f b)) (items : List β) :
    OnlyEvolves (Action.collect f items) :=
  Action.Ensures.mono (fun _ _ => trivial)
    (Action.Ensures.collect World.Evolves.refl World.Evolves.trans hf items)

end OnlyEvolves

/-! ### The commands and the programs built from them -/

theorem runCommand_evolves (c : Command) : OnlyEvolves (runCommand c) := by
  intro w
  refine ⟨?_, fun _ _ => trivial⟩
  have hadvance := w.evolves_advance
  unfold runCommand
  dsimp only
  split
  · exact hadvance
  · cases c with
    | transaction script => exact hadvance.trans _ _ _ (w.advance.evolves_commit script)
    | listTable | listRuleset | tc => exact hadvance

theorem rangeKeys_evolves (keys : List String) : OnlyEvolves (rangeKeys keys) := by
  intro w
  refine ⟨?_, fun _ _ => trivial⟩
  unfold rangeKeys
  split <;> exact ⟨.refl _, rfl⟩

theorem tableExists_evolves : OnlyEvolves tableExists := by
  refine .bind (runCommand_evolves _).attempt fun r => ?_
  cases r <;> exact .pure _

theorem readCounters_evolves : OnlyEvolves readCounters := by
  refine .bind (runCommand_evolves _) fun r => ?_
  cases r with
  | ruleset => exact .pure _
  | text | qdiscs => exact .throw _

theorem showQdisc_evolves (name : String) : OnlyEvolves (showQdisc name) := by
  refine .bind (runCommand_evolves _) fun r => ?_
  cases r <;> exact .pure _

theorem readShapingStates_evolves (current : State) : OnlyEvolves (readShapingStates current) := by
  refine .bind (rangeKeys_evolves _) fun names => ?_
  refine .bind (.collect (fun name => ?_) names) fun _ => .pure _
  refine .bind (showQdisc_evolves name).attempt fun r => ?_
  cases r <;> exact .pure _

theorem refuseForeignQdisc_evolves (name : String) : OnlyEvolves (refuseForeignQdisc name) := by
  unfold refuseForeignQdisc
  split
  · exact .throw _
  · refine .bind ((showQdisc_evolves name).mapError _) fun output => ?_
    split
    · exact .pure _
    · exact .throw _

theorem preflightTCOwnership_evolves (before desired : State) :
    OnlyEvolves (preflightTCOwnership before desired) :=
  .bind (rangeKeys_evolves _) fun names => .forEach refuseForeignQdisc_evolves names

theorem runTC_evolves (arguments : List String) : OnlyEvolves (runTC arguments) :=
  .bind (runCommand_evolves _) fun _ => .pure _

theorem shapePolicy_evolves (name : String) (entry : Policy × Nat) :
    OnlyEvolves (shapePolicy name entry) :=
  .bind (runTC_evolves _) fun _ => .forEach runTC_evolves _

theorem shapeInterface_evolves (desired : State) (name : String) :
    OnlyEvolves (shapeInterface desired name) := by
  refine .bind (refuseForeignQdisc_evolves name) fun _ => ?_
  dsimp only
  split
  · exact (runTC_evolves _).ignore
  · refine .bind (runTC_evolves _) fun _ => .bind (runTC_evolves _) fun _ => ?_
    exact .forEach (shapePolicy_evolves name) _

theorem applyTC_evolves (before desired : State) : OnlyEvolves (applyTC before desired) :=
  .bind (rangeKeys_evolves _) fun names => .forEach (shapeInterface_evolves desired) names

theorem verifyTable_evolves (desired : State) : OnlyEvolves (verifyTable desired) := by
  refine .bind tableExists_evolves fun existing => ?_
  split
  · split
    · exact .throw _
    · exact .pure _
  · split
    · refine .bind (readCounters_evolves.mapError _) fun counters => ?_
      split
      · exact .pure _
      · exact .throw _
    · exact .throw _

theorem verifyInterface_evolves (desired : State) (name : String) :
    OnlyEvolves (verifyInterface desired name) := by
  refine .bind ((showQdisc_evolves name).mapError _) fun output => ?_
  dsimp only
  split
  · exact .pure _
  · exact .throw _

theorem verifyNetwork_evolves (before desired : State) :
    OnlyEvolves (verifyNetwork before desired) := by
  refine .bind (verifyTable_evolves desired) fun _ => ?_
  exact .bind (rangeKeys_evolves _) fun names => .forEach (verifyInterface_evolves desired) names

theorem runTransaction_evolves (script : List Statement) : OnlyEvolves (runTransaction script) := by
  unfold runTransaction
  split
  · exact .pure _
  · exact .bind (runCommand_evolves _) fun _ => .pure _

theorem rollback_evolves (before desired : State) : OnlyEvolves (rollback before desired) :=
  .bind (runTransaction_evolves _).ignore fun _ => (applyTC_evolves _ _).ignore

/-- Whatever fails on the way, applying a state only evolves the kernel. -/
theorem applyNetwork_evolves (before desired : State) :
    OnlyEvolves (applyNetwork before desired) := by
  refine .bind (preflightTCOwnership_evolves _ _) fun _ => ?_
  refine .bind tableExists_evolves fun existing => ?_
  refine .bind (runTransaction_evolves _) fun _ => ?_
  refine .bind (applyTC_evolves _ _).attempt fun r => ?_
  cases r with
  | error e => exact .bind (rollback_evolves _ _) fun _ => .throw _
  | ok _ =>
      refine .bind (verifyNetwork_evolves _ _).attempt fun r => ?_
      cases r with
      | error e => exact .bind (rollback_evolves _ _) fun _ => .throw _
      | ok _ => exact .pure _

end VpsGuardian.NetHelper
