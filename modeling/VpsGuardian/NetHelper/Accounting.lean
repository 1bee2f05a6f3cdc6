import VpsGuardian.Lib.Run
import VpsGuardian.NetHelper.Snapshot

/-!
Snapshots count a kernel byte at most once, as long as a snapshot that finds the
rules broken also gets them restored.

The measure is what is due for a policy: its recorded total, and what its kernel
counter has beyond the value last recorded. Growth of the counter raises it by
the growth. A checkpoint moves bytes from the second part to the first, and so
does absorbing a reading when the counter starts again at zero. When it does
not, because the restoring transaction was refused, the bytes are due again.
-/

namespace VpsGuardian.NetHelper

open Lib

/-- What is recorded for a policy together with what has not been recorded yet. -/
def due (k : Kernel) (p : Policy) (side : Side) : Int :=
  (p.lifetime side).toInt + max 0 ((k.bytes side p : Int) - (p.lastKernel side).toInt)

/-- The bytes the counter of a policy has gained since the model started. -/
def Kernel.gained (k : Kernel) (side : Side) (p : Policy) : Nat :=
  k.grown (counterName side p.id)

theorem due_evolves {k k' : Kernel} (h : k.Evolves k') (p : Policy) (side : Side) :
    due k' p side + k.gained side p ≤ due k p side + k'.gained side p := by
  have hle := h.count_le (counterName side p.id)
  have hgrown := h.grown (counterName side p.id)
  simp only [due, Kernel.bytes, Kernel.gained]
  omega

/-- The conversion of a counter through `float64` does not round it up. -/
def readsBelow (n : Nat) : Bool := (rawCounter n).toInt ≤ n

/-- No counter of a policy is rounded up. -/
def notRoundedUp (k : Kernel) (p : Policy) : Bool :=
  [Side.rx, Side.tx].all fun side => readsBelow (k.bytes side p)

theorem notRoundedUp_absorb (k : Kernel) (raw : Reading) (p : Policy) :
    notRoundedUp k (absorbPolicy raw p) = notRoundedUp k p := by
  simp only [notRoundedUp, bytes_absorb]

theorem value_le {k : Kernel} {p : Policy} (h : notRoundedUp k p = true) (side : Side) :
    (Reading.value (reading k.counters) side p).toInt ≤ k.bytes side p := by
  have hside : side ∈ [Side.rx, Side.tx] := by cases side <;> decide
  rw [Reading.value_eq]
  exact of_decide_eq_true (List.all_eq_true.mp h side hside)

/-- A checkpoint only moves bytes into the recorded total. -/
theorem due_checkpoint {k : Kernel} {p : Policy} (h : notRoundedUp k p = true) (side : Side) :
    due k (checkpointPolicy (reading k.counters) p) side ≤ due k p side := by
  have hle := value_le h side
  simp only [due, lifetime_checkpoint, lastKernel_checkpoint, Kernel.bytes,
    checkpointPolicy_id] at hle ⊢
  split_ifs with hcounts
  · have hadvance := toInt_advance_le (p.lifetime side) hcounts.2
    have hlast := Int64.le_iff_toInt_le.mp hcounts.2
    omega
  · exact le_rfl

/-- What absorbing a reading records is no more than what was due. -/
theorem lifetime_absorb_le {k : Kernel} {p : Policy} (h : notRoundedUp k p = true) (side : Side) :
    ((absorbPolicy (reading k.counters) p).lifetime side).toInt ≤ due k p side := by
  have hle := value_le h side
  simp only [due, lifetime_absorb]
  split_ifs with hcounts
  · have hadvance := toInt_advance_le (p.lifetime side) hcounts
    omega
  · omega

theorem due_absorb (k k' : Kernel) (p : Policy) (side : Side) :
    due k' (absorbPolicy (reading k.counters) p) side =
      ((absorbPolicy (reading k.counters) p).lifetime side).toInt + k'.bytes side p := by
  simp [due, Kernel.bytes]

/-- Absorbed bytes are not due again if the counter starts again at zero. -/
theorem due_absorb_renewed {k k₁ k₂ : Kernel} {p : Policy} (h : notRoundedUp k p = true)
    (hevolves : k.Evolves k₁) (hrenewed : k₁.Evolves k₂) (hcommits : k₁.commits < k₂.commits)
    (side : Side) :
    due k₂ (absorbPolicy (reading k.counters) p) side + k.gained side p ≤
      due k p side + k₂.gained side p := by
  have hlifetime := lifetime_absorb_le h side
  have hcount := hrenewed.renewed hcommits (counterName side p.id)
  have hgrown := hevolves.grown (counterName side p.id)
  rw [due_absorb]
  simp only [Kernel.bytes, Kernel.gained] at hcount hgrown ⊢
  omega

/-- Nor if there was nothing to absorb. -/
theorem due_absorb_zero {k : Kernel} {p : Policy} (h : notRoundedUp k p = true) {side : Side}
    (hzero : k.bytes side p = 0) :
    due k (absorbPolicy (reading k.counters) p) side ≤ due k p side := by
  have hlifetime := lifetime_absorb_le h side
  rw [due_absorb, hzero]
  simpa using hlifetime

/-! ### Lists of policies -/

/-- For every policy, what is due rose by no more than its counters gained. -/
def Accounted (k : Kernel) (policies : List Policy) (k' : Kernel) (policies' : List Policy) :
    Prop :=
  ∀ (i : Nat) (p : Policy), policies[i]? = some p →
    ∃ p', policies'[i]? = some p' ∧ p'.id = p.id ∧
      ∀ side, due k' p' side + k.gained side p ≤ due k p side + k'.gained side p

namespace Accounted

theorem trans {k k' k'' : Kernel} {policies policies' policies'' : List Policy}
    (h : Accounted k policies k' policies') (h' : Accounted k' policies' k'' policies'') :
    Accounted k policies k'' policies'' := by
  intro i p hp
  obtain ⟨p', hp', hid, hdue⟩ := h i p hp
  obtain ⟨p'', hp'', hid', hdue'⟩ := h' i p' hp'
  refine ⟨p'', hp'', hid'.trans hid, fun side => ?_⟩
  have hfirst := hdue side
  have hsecond := hdue' side
  simp only [Kernel.gained, hid] at hfirst hsecond ⊢
  omega

theorem map {k k' : Kernel} {policies : List Policy} {f : Policy → Policy}
    (hid : ∀ p, (f p).id = p.id)
    (hdue : ∀ p ∈ policies, ∀ side,
      due k' (f p) side + k.gained side p ≤ due k p side + k'.gained side p) :
    Accounted k policies k' (policies.map f) := by
  intro i p hp
  exact ⟨f p, by simp [hp], hid p, hdue p (List.mem_of_getElem? hp)⟩

theorem of_evolves {k k' : Kernel} (h : k.Evolves k') (policies : List Policy) :
    Accounted k policies k' policies :=
  fun _ p hp => ⟨p, hp, rfl, due_evolves h p⟩

variable {k : Kernel} {policies : List Policy} (hround : ∀ p ∈ policies, notRoundedUp k p = true)
include hround

theorem checkpoint :
    Accounted k policies k (policies.map (checkpointPolicy (reading k.counters))) := by
  refine map (checkpointPolicy_id _) fun p hp side => ?_
  have hle := due_checkpoint (hround p hp) side
  omega

theorem absorb_renewed {k₁ k₂ : Kernel} (hevolves : k.Evolves k₁) (hrenewed : k₁.Evolves k₂)
    (hcommits : k₁.commits < k₂.commits) :
    Accounted k policies k₂ (policies.map (absorbPolicy (reading k.counters))) :=
  map (absorbPolicy_id _) fun p hp => due_absorb_renewed (hround p hp) hevolves hrenewed hcommits

theorem absorb_zero (hzero : ∀ p ∈ policies, ∀ side, k.bytes side p = 0) :
    Accounted k policies k (policies.map (absorbPolicy (reading k.counters))) := by
  refine map (absorbPolicy_id _) fun p hp side => ?_
  have hle := due_absorb_zero (hround p hp) (hzero p hp side)
  omega

end Accounted

/-! ### One snapshot -/

/-- No policy has a byte in its counters. -/
def noBytes (k : Kernel) (policies : List Policy) : Bool :=
  policies.all fun p => [Side.rx, Side.tx].all fun side => k.bytes side p = 0

theorem bytes_of_noBytes {k : Kernel} {policies : List Policy} (h : noBytes k policies = true) :
    ∀ p ∈ policies, ∀ side, k.bytes side p = 0 := by
  intro p hp side
  have hside : side ∈ [Side.rx, Side.tx] := by cases side <;> decide
  simpa using List.all_eq_true.mp (List.all_eq_true.mp h p hp) side hside

/-- The condition on a snapshot: no counter it reads is rounded up, and if the
rules do not verify, then the kernel accepts the restoring transaction, or the
counters that were absorbed had no bytes. -/
def restoresBroken (current : State) (w : World) : Bool :=
  match readCounters w with
  | (.error _, _) => true
  | (.ok raw, w₁) =>
      current.policies.all (notRoundedUp w₁.kernel) &&
        match verifyNetwork current current w₁ with
        | (.ok _, _) => true
        | (.error _, w₂) =>
            let absorbed := absorbCounters current raw
            let w₃ := (applyNetwork absorbed absorbed w₂).2
            (decide (w₂.kernel.commits < w₃.kernel.commits) ||
                noBytes w₁.kernel current.policies) &&
              current.policies.all (notRoundedUp (readCounters w₃).2.kernel)

theorem snapshot_accounted {current checkpoint : State} {response : Response} {w w' : World}
    (h : snapshot current w = (.ok (response, checkpoint), w'))
    (hsound : restoresBroken current w = true) :
    Accounted w.kernel current.policies w'.kernel checkpoint.policies := by
  obtain ⟨settled, raw, restored, w₃, hsettle, hshaping, hpolicies, -⟩ := snapshot_cases h
  obtain ⟨raw₁, w₁, hread, hcases⟩ := settle_cases hsettle
  have hw₁ := (readCounters_evolves w).1.kernel
  have hraw₁ := (readCounters_ok hread).2
  unfold restoresBroken at hsound
  rw [hread] at hw₁ hsound
  simp only [Bool.and_eq_true, List.all_eq_true] at hsound
  obtain ⟨hround, hsound⟩ := hsound
  rw [hpolicies]
  rcases hcases with ⟨w₂, hverify, rfl, rfl, rfl⟩ | ⟨e, w₂, hverify, hsettled, hread'⟩
  · -- the first reading is checkpointed
    have hw₃ := (verifyNetwork_evolves settled settled w₁).1.kernel
    rw [hverify] at hw₃
    rw [hraw₁]
    exact (Accounted.of_evolves hw₁ _).trans
      ((Accounted.checkpoint hround).trans (.of_evolves (hw₃.trans hshaping.kernel) _))
  · -- the first reading is absorbed, and a second one checkpointed
    have hw₂ := (verifyNetwork_evolves current current w₁).1.kernel
    have happlied := (applyNetwork_evolves settled settled w₂).1.kernel
    have hw₃ := (readCounters_evolves (applyNetwork settled settled w₂).2).1.kernel
    have hraw := (readCounters_ok hread').2
    rw [hverify] at hw₂
    rw [hread'] at hw₃
    simp only [hverify, ← hsettled, Bool.and_eq_true, Bool.or_eq_true, decide_eq_true_eq,
      hread', List.all_eq_true] at hsound
    obtain ⟨hrestored, hround'⟩ := hsound
    have hpolicies₁ : settled.policies =
        current.policies.map (absorbPolicy (reading w₁.kernel.counters)) := by
      rw [hsettled, hraw₁]
      rfl
    have habsorbed : Accounted w₁.kernel current.policies
        (applyNetwork settled settled w₂).2.kernel settled.policies := by
      rw [hpolicies₁]
      rcases hrestored with hcommits | hzero
      · exact .absorb_renewed hround hw₂ happlied hcommits
      · exact (Accounted.absorb_zero hround (bytes_of_noBytes hzero)).trans
          (.of_evolves (hw₂.trans happlied) _)
    have hround₃ : ∀ p ∈ settled.policies, notRoundedUp w₃.kernel p = true := by
      intro p hp
      rw [hpolicies₁] at hp
      obtain ⟨q, hq, rfl⟩ := List.mem_map.mp hp
      rw [notRoundedUp_absorb]
      exact hround' q hq
    rw [hraw]
    exact (Accounted.of_evolves hw₁ _).trans (habsorbed.trans ((Accounted.of_evolves hw₃ _).trans
      ((Accounted.checkpoint hround₃).trans (.of_evolves hshaping.kernel _))))

/-! ### Runs -/

/-- A snapshot request that meets the condition in the state it finds. -/
def RestoringSnapshot (h : Helper) (call : Call) : Prop :=
  call.request.operation = .snapshot ∧ restoresBroken h.durable (h.world call) = true

instance (h : Helper) (call : Call) : Decidable (RestoringSnapshot h call) :=
  inferInstanceAs (Decidable (_ ∧ _))

/-- The accounting between two states of the helper. -/
def Helper.Accounted (h h' : Helper) : Prop :=
  NetHelper.Accounted h.kernel h.durable.policies h'.kernel h'.durable.policies

theorem Helper.Accounted.refl (h : Helper) : h.Accounted h :=
  NetHelper.Accounted.of_evolves (Kernel.Evolves.refl h.kernel) h.durable.policies

theorem Helper.Accounted.trans (h h' h'' : Helper) (h₁ : h.Accounted h')
    (h₂ : h'.Accounted h'') : h.Accounted h'' := NetHelper.Accounted.trans h₁ h₂

theorem step_accounted {h : Helper} {call : Call} (hcall : RestoringSnapshot h call) :
    h.Accounted (h.step call) := by
  obtain ⟨hoperation, hsound⟩ := hcall
  unfold Helper.Accounted Helper.step
  rcases serve_snapshot_cases h call hoperation with
    ⟨hdurable, hkernel, -⟩ | ⟨response, checkpoint, w', hsnapshot, hserve⟩
  · have haccounted := NetHelper.Accounted.of_evolves hkernel h.durable.policies
    rw [hdurable]
    exact haccounted
  · have haccounted := snapshot_accounted hsnapshot hsound
    rw [hserve]
    exact haccounted

/-- Between two states of the helper, the total of a policy rose by no more than
its kernel counter grew since the value recorded in the first of them. -/
def GrowthBounded (h h' : Helper) : Prop :=
  ∀ (i : Nat) (p : Policy), h.durable.policies[i]? = some p →
    ∃ p', h'.durable.policies[i]? = some p' ∧ p'.id = p.id ∧
      ∀ side, (p'.lifetime side).toInt - (p.lifetime side).toInt ≤
        max 0 ((h.kernel.bytes side p : Int) - (p.lastKernel side).toInt) +
          (h'.kernel.gained side p - h.kernel.gained side p)

/-- Over every sequence of snapshots that meet the condition, no kernel byte is
counted twice. -/
theorem snapshots_count_once (h : Helper) (calls : List Call)
    (hcalls : Meets Helper.step RestoringSnapshot h calls) :
    GrowthBounded h (run Helper.step h calls) := by
  have hrelated : h.Accounted (run Helper.step h calls) :=
    run_related Helper.Accounted.refl Helper.Accounted.trans (fun _ _ => step_accounted) hcalls
  intro i p hp
  obtain ⟨p', hp', hid, hdue⟩ := hrelated i p hp
  refine ⟨p', hp', hid, fun side => ?_⟩
  have hle := hdue side
  simp only [due] at hle
  omega

/-- A shaped policy whose counters hold a hundred received bytes, none recorded. -/
def shapedHelper : Helper where
  kernel := {
    table := true
    counters := fun name =>
      if name = "vg_2d3880fe23f04bd3bca21eea349b2e2c_rx" then some 100
      else if name = "vg_2d3880fe23f04bd3bca21eea349b2e2c_tx" then some 0
      else none
    grown := fun _ => 0
    commits := 0 }
  durable := ⟨[{
    id := "2d3880fe-23f0-4bd3-bca2-1eea349b2e2c", protocol := .tcp, direction := .both
    portStart := 443, portEnd := 443, interfaceName := "eth0", mode := .monitorOnly
    quotaBytes := 0, egressRateBPS := 8000, generation := 1
    lifetimeRX := 0, lifetimeTX := 0, lastKernelRX := 0, lastKernelTX := 0
    periodStartRX := 0, periodStartTX := 0, periodStarted := 0, lastResetAt := 0
    nextResetAt := "", resetPolicy := "\x7b\x7d" }], .empty⟩

/-- A snapshot around whose commands the environment does what `ticks` says. -/
def snapshotCall (ticks : List Tick) : Call where
  setting := ⟨false, none, fun _ => true, 0, 0⟩
  request := ⟨.snapshot, false, .empty, none⟩
  ticks
  orders := []
  writes := []

/-- The interface has a root discipline that is not the Guardian's. -/
def foreignTick : Tick := ⟨fun _ => 0, false, some [⟨true, "8001:", "fq"⟩]⟩

/-- Verification finds the foreign discipline and so does the preflight of the
restoring apply, which gives up; the surviving bytes are counted twice. -/
theorem refused_restore_counts_twice :
    ¬GrowthBounded shapedHelper (run Helper.step shapedHelper
      [snapshotCall [.quiet, .quiet, .quiet, foreignTick, foreignTick, .quiet, foreignTick]]) := by
  intro hbounded
  obtain ⟨p, hp, -, hle⟩ := hbounded 0 _ rfl
  have htotal : (run Helper.step shapedHelper [snapshotCall [.quiet, .quiet, .quiet, foreignTick,
      foreignTick, .quiet, foreignTick]]).durable.policies[0]?.map (·.lifetimeRX) = some 200 := by
    decide +kernel
  rw [hp] at htotal
  obtain hlifetime : p.lifetimeRX = 200 := by simpa using htotal
  have hrx := hle .rx
  rw [Policy.lifetime, hlifetime] at hrx
  revert hrx
  decide +kernel

/-- Without the foreign discipline the rules are restored. -/
theorem snapshots_count_once_restored :
    GrowthBounded shapedHelper (run Helper.step shapedHelper [snapshotCall []]) :=
  snapshots_count_once _ _ (by decide +kernel)

end VpsGuardian.NetHelper
