import VpsGuardian.NetHelper.Lockstep
import VpsGuardian.NetHelper.Replay

/-!
What a dry run does to later snapshots.

A dry run writes the baseline a change would start from: the counters added to
the totals, and no counter value recorded. But it recreates no counter, so the
next snapshot adds the same bytes again. It leaves the accounting alone only
where there was nothing to add and nothing recorded.
-/

namespace VpsGuardian.NetHelper

open Lib

/-! ### What a dry run stores -/

/-- The reading that a change starts from, in the world it starts in. -/
def baselineReading (w : World) : Reading :=
  if w.tick.fails = false ∧ w.advance.kernel.table = true then
    reading w.advance.advance.kernel.counters
  else fun _ => none

theorem tableExists_eq (w : World) :
    tableExists w = (.ok (!w.tick.fails && w.advance.kernel.table), w.advance) := by
  unfold tableExists
  rw [Action.bind_apply, Action.attempt_apply]
  unfold runCommand
  cases w.tick.fails with
  | true => rfl
  | false =>
    dsimp only
    cases w.advance.kernel.table <;> rfl

theorem readBaseline_ok {current baseline : State} {w w' : World}
    (h : readBaseline current w = (.ok baseline, w')) :
    baseline = absorbCounters current (baselineReading w) := by
  unfold readBaseline at h
  rw [Action.bind_of_ok (tableExists_eq w)] at h
  unfold baselineReading
  cases hfails : w.tick.fails with
  | true =>
    rw [hfails] at h
    cases h
    rfl
  | false =>
    cases htable : w.advance.kernel.table with
    | false =>
      rw [hfails, htable] at h
      cases h
      rfl
    | true =>
      simp only [hfails, htable, Bool.not_false, Bool.and_true, if_true] at h
      rcases hread : readCounters w.advance with ⟨e | raw, w₁⟩
      · rw [Action.bind_of_error hread] at h
        cases h
      · rw [Action.bind_of_ok hread] at h
        obtain ⟨rfl, rfl⟩ := readCounters_ok hread
        cases h
        rfl

/-- A dry run that fails leaves the file; one that succeeds stores the baseline with its nonce. -/
theorem serveAuthorized_dryRun (setting : Setting) {request : Request} (auth : Authorization)
    (parsed : Policy) (w : World) (hdry : request.dryRun = true) :
    (serveAuthorized setting request auth parsed w.durable w).1.isOk = false ∧
        (serveAuthorized setting request auth parsed w.durable w).2.durable = w.durable ∨
      (serveAuthorized setting request auth parsed w.durable w).1.isOk = true ∧
        (serveAuthorized setting request auth parsed w.durable w).2.durable =
          ⟨w.durable.policies.map (absorbPolicy (baselineReading w)),
            consumeNonce w.durable.completedNonce auth.nonce auth.expiresAt setting.now⟩ := by
  have hevolves := (readBaseline_evolves w.durable w).1.durable
  unfold serveAuthorized
  rw [Action.bind_apply, Action.mapError_apply]
  rcases hread : readBaseline w.durable w with ⟨e | baseline, w₁⟩
  · rw [hread] at hevolves
    exact .inl ⟨rfl, hevolves⟩
  · obtain rfl := readBaseline_ok hread
    rw [hread] at hevolves
    simp only [Except.mapError]
    cases hdesired : desiredState (absorbCounters w.durable (baselineReading w)) request.operation
        parsed setting.clock with
    | error e => exact .inl ⟨rfl, hevolves⟩
    | ok result =>
      simp only [hdry, if_true, Action.bind_apply, Action.mapError_apply, writeState]
      cases w₁.writes.headD true with
      | true => exact .inr ⟨rfl, rfl⟩
      | false => exact .inl ⟨rfl, hevolves⟩

theorem serveLoaded_dryRun (setting : Setting) {request : Request}
    (hop : request.operation ∈ [.apply, .remove, .reset]) (hdry : request.dryRun = true)
    (w : World) :
    (serveLoaded setting request w.durable w).1.isOk = false ∧
        (serveLoaded setting request w.durable w).2.durable = w.durable ∨
      (serveLoaded setting request w.durable w).1.isOk = true ∧
        ∃ trust auth, setting.trust = some trust ∧
          verifyAuthorization request trust w.durable.completedNonce setting.now = .ok auth ∧
          (serveLoaded setting request w.durable w).2.durable =
            ⟨w.durable.policies.map (absorbPolicy (baselineReading w)),
              consumeNonce w.durable.completedNonce auth.nonce auth.expiresAt setting.now⟩ := by
  unfold serveLoaded
  cases hrequest : request.operation with
  | snapshot | purge => simp [hrequest] at hop
  | apply | remove | reset =>
    dsimp only
    cases htrust : setting.trust with
    | none => exact .inl ⟨rfl, rfl⟩
    | some trust =>
      dsimp only
      cases hverify : verifyAuthorization request trust w.durable.completedNonce setting.now with
      | error e => exact .inl ⟨rfl, rfl⟩
      | ok auth =>
        dsimp only
        cases hparsed : parsePolicy setting.interfaceExists request.policy (!request.dryRun) with
        | error e => exact .inl ⟨rfl, rfl⟩
        | ok parsed =>
          rcases serveAuthorized_dryRun setting auth parsed w hdry with hfailed | ⟨hok, hstored⟩
          · exact .inl hfailed
          · exact .inr ⟨hok, trust, auth, rfl, hverify, hstored⟩

/-- The request is a dry run of a change. -/
def Call.IsDryRun (call : Call) : Prop :=
  call.request.operation ∈ [.apply, .remove, .reset] ∧ call.request.dryRun = true

instance (call : Call) : Decidable call.IsDryRun := inferInstanceAs (Decidable (_ ∧ _))

theorem fits_of_loadState {w : World} (h : loadState w = (.ok w.durable, w)) :
    w.durable.policies.length ≤ maxPolicies ∧ w.durable.completedNonce.size ≤ 4096 := by
  unfold loadState at h
  split at h
  · cases h
  · split at h
    · cases h
    · exact ⟨not_lt.mp ‹_›, not_lt.mp ‹_›⟩

theorem loadState_of_fits {w : World} (hpolicies : w.durable.policies.length ≤ maxPolicies)
    (hnonces : w.durable.completedNonce.size ≤ 4096) : loadState w = (.ok w.durable, w) := by
  unfold loadState
  rw [if_neg (not_lt.mpr hpolicies), if_neg (not_lt.mpr hnonces)]

/-- Whatever is served, the file loads. -/
theorem fits_of_serve {h : Helper} {call : Call} (hok : (h.serve call).1.isOk = true) :
    h.durable.policies.length ≤ maxPolicies ∧ h.durable.completedNonce.size ≤ 4096 := by
  change (executeRequest call.setting call.request (h.world call)).1.isOk = true at hok
  unfold executeRequest at hok
  split at hok
  · cases hok
  · rcases loadState_eq (h.world call) with hload | ⟨e, hload⟩
    · exact fits_of_loadState hload
    · rw [Action.bind_of_error (Action.mapError_of_error Failure.load hload)] at hok
      cases hok

/-- A dry run that fails leaves the file. One that succeeds found a file that loads and an
authorization that it accepts, and stores the baseline with the nonce. -/
theorem serve_dryRun {h : Helper} {call : Call} (hdry : call.IsDryRun) :
    (h.serve call).1.isOk = false ∧ (h.step call).durable = h.durable ∨
      (h.serve call).1.isOk = true ∧ h.durable.policies.length ≤ maxPolicies ∧
        h.durable.completedNonce.size ≤ 4096 ∧ ∃ auth, Accepts h call auth ∧
          (h.step call).durable =
            ⟨h.durable.policies.map (absorbPolicy (baselineReading (h.world call))),
              consumeNonce h.durable.completedNonce auth.nonce auth.expiresAt
                call.setting.now⟩ := by
  have hserve : h.serve call = ((executeRequest call.setting call.request (h.world call)).1,
      ⟨(executeRequest call.setting call.request (h.world call)).2.kernel,
        (executeRequest call.setting call.request (h.world call)).2.durable⟩) := rfl
  rw [executeRequest] at hserve
  rw [Helper.step]
  split at hserve
  · rw [hserve]
    exact .inl ⟨rfl, rfl⟩
  rcases loadState_eq (h.world call) with hload | ⟨e, hload⟩
  · obtain ⟨hpolicies, hnonces⟩ := fits_of_loadState hload
    rw [Action.bind_of_ok (Action.mapError_of_ok Failure.load hload)] at hserve
    rw [hserve]
    rcases serveLoaded_dryRun call.setting hdry.1 hdry.2 (h.world call) with
      hfailed | ⟨hok, trust, auth, htrust, hverify, hstored⟩
    · exact .inl hfailed
    · exact .inr ⟨hok, hpolicies, hnonces, auth, ⟨trust, htrust, hverify⟩, hstored⟩
  · rw [Action.bind_of_error (Action.mapError_of_error Failure.load hload)] at hserve
    rw [hserve]
    exact .inl ⟨rfl, rfl⟩

/-- No transaction was accepted between the two worlds. -/
def SameCommits (w w' : World) : Prop := w'.kernel.commits = w.kernel.commits

theorem SameCommits.refl (w : World) : SameCommits w w := rfl

theorem SameCommits.trans (w w' w'' : World) (h : SameCommits w w') (h' : SameCommits w' w'') :
    SameCommits w w'' := Eq.trans h' h

/-- A program in which no transaction is accepted. -/
def CommitsNothing {ε α : Type} (m : Action World ε α) : Prop :=
  Action.Ensures SameCommits (fun _ => True) m

theorem CommitsNothing.bind {ε α β : Type} {m : Action World ε α} {f : α → Action World ε β}
    (hm : CommitsNothing m) (hf : ∀ a, CommitsNothing (f a)) : CommitsNothing (m >>= f) :=
  Action.Ensures.bind SameCommits.trans hm fun a _ => hf a

theorem CommitsNothing.pure {ε α : Type} (a : α) :
    CommitsNothing (Pure.pure a : Action World ε α) :=
  Action.Ensures.pure SameCommits.refl trivial

theorem CommitsNothing.throw {ε α : Type} (e : ε) :
    CommitsNothing (Action.throw e : Action World ε α) :=
  Action.Ensures.throw SameCommits.refl e

theorem readBaseline_commitsNothing (current : State) : CommitsNothing (readBaseline current) := by
  refine .bind (fun w => ?_) fun existing => ?_
  · rw [tableExists_eq]
    exact ⟨rfl, fun _ _ => trivial⟩
  · split
    · refine .bind (fun w => ?_) fun raw => .pure _
      rw [readCounters_eq]
      exact ⟨rfl, fun _ _ => trivial⟩
    · exact .pure _

theorem writeState_commitsNothing (s : State) : CommitsNothing (writeState s) := by
  intro w
  unfold writeState
  split <;> exact ⟨rfl, fun _ _ => trivial⟩

/-- A dry run leaves the rules: no transaction is accepted in it. -/
theorem dry_run_commits_nothing {h : Helper} {call : Call} (hdry : call.IsDryRun) :
    (h.step call).kernel.commits = h.kernel.commits := by
  obtain ⟨hop, hdry⟩ := hdry
  have hexecute : CommitsNothing (executeRequest call.setting call.request) := by
    unfold executeRequest
    split
    · exact .throw _
    refine .bind (.mapError _ fun w => ?_) fun current => ?_
    · rcases loadState_eq w with hload | ⟨e, hload⟩ <;> rw [hload] <;>
        exact ⟨rfl, fun _ _ => trivial⟩
    unfold serveLoaded
    cases hrequest : call.request.operation with
    | snapshot | purge => simp [hrequest] at hop
    | apply | remove | reset =>
      dsimp only
      split
      · exact .throw _
      · split
        · exact .throw _
        · split
          · exact .throw _
          · refine .bind (.mapError _ (readBaseline_commitsNothing _)) fun baseline => ?_
            split
            · exact .throw _
            · dsimp only
              rw [if_pos hdry]
              exact .bind (.mapError _ (writeState_commitsNothing _)) fun _ => .pure _
  exact (hexecute (h.world call)).1

/-! ### Runs with and without it -/

/-- The helper after the time of a call that was never made. -/
def Helper.without (h : Helper) (call : Call) : Helper := ⟨(h.step call).kernel, h.durable⟩

/-- What a request reports, if it reports anything, and the policies it leaves. -/
def report (h : Helper) (call : Call) :
    Helper × List (Option (List Observation) × List Policy) :=
  (h.step call,
    [((h.serve call).1.toOption.map (·.observations), (h.step call).durable.policies)])

/-- Every later sequence of snapshots reports the same, and leaves the same policies, as if the
call had not been made. -/
def Unnoticed (h : Helper) (call : Call) : Prop :=
  ∀ later : List Call, (∀ c ∈ later, c.request.operation = .snapshot) →
    trace report (h.step call) later = trace report (h.without call) later

/-- Every policy has no counter value recorded, and nothing to add to its totals. -/
def NothingToAdd (h : Helper) (call : Call) : Prop :=
  ∀ p ∈ h.durable.policies, ∀ side, p.lastKernel side = 0 ∧
    (baselineReading (h.world call)).value side p ≤ 0

/-- With the nonce of the call the file still loads. -/
def NonceFits (h : Helper) (call : Call) : Prop :=
  ∀ auth, Accepts h call auth → (consumeNonce h.durable.completedNonce auth.nonce auth.expiresAt
    call.setting.now).size ≤ 4096

theorem absorbPolicy_eq_self {raw : Reading} {p : Policy} :
    absorbPolicy raw p = p ↔ ∀ side, p.lastKernel side = 0 ∧ raw.value side p ≤ 0 := by
  constructor
  · intro heq side
    have hlast : p.lastKernel side = 0 := by rw [← heq, lastKernel_absorb]
    have hlifetime := congrArg (Policy.lifetime · side) heq
    simp only [lifetime_absorb, hlast] at hlifetime
    refine ⟨hlast, ?_⟩
    split_ifs at hlifetime with hle
    · have hzero : raw.value side p = 0 := by simpa using hlifetime
      rw [hzero]
      exact Int64.le_refl 0
    · exact Int64.le_of_lt (Int64.not_le.mp hle)
  · intro h
    have hlifetime (side : Side) : (absorbPolicy raw p).lifetime side = p.lifetime side := by
      rw [lifetime_absorb, (h side).1]
      split_ifs with hle
      · rw [Int64.le_antisymm (h side).2 hle]
        simp
      · rfl
    have hrx : (absorbPolicy raw p).lifetimeRX = p.lifetimeRX := hlifetime .rx
    have htx : (absorbPolicy raw p).lifetimeTX = p.lifetimeTX := hlifetime .tx
    have hlastRX : (absorbPolicy raw p).lastKernelRX = p.lastKernelRX := (h .rx).1.symm
    have hlastTX : (absorbPolicy raw p).lastKernelTX = p.lastKernelTX := (h .tx).1.symm
    calc absorbPolicy raw p
        = { p with
            lifetimeRX := (absorbPolicy raw p).lifetimeRX
            lifetimeTX := (absorbPolicy raw p).lifetimeTX
            lastKernelRX := (absorbPolicy raw p).lastKernelRX
            lastKernelTX := (absorbPolicy raw p).lastKernelTX } := rfl
      _ = p := by rw [hrx, htx, hlastRX, hlastTX]

theorem trace_report_alike {h h' : Helper} (halike : h.Alike h') {later : List Call}
    (hlater : ∀ call ∈ later, call.request.operation = .snapshot) :
    trace report h later = trace report h' later := by
  induction later generalizing h h' with
  | nil => rfl
  | cons call later ih =>
    rw [List.forall_mem_cons] at hlater
    obtain ⟨hresult, hnext⟩ := halike.serve hlater.1
    have hrest := ih hnext hlater.2
    rw [trace_cons, trace_cons]
    change [_] ++ trace report (h.step call) later = [_] ++ trace report (h'.step call) later
    rw [hrest, hresult, hnext.2.policies]

/-! ### A snapshot that nothing disturbs -/

/-- The same world, and its environment does nothing. -/
def Idle (w w' : World) : Prop := w' = w ∧ w.ticks = [] ∧ w.writes = []

theorem idle_inseparable : Inseparable Idle where
  commands c := by
    rintro ⟨kernel, durable, ticks, orders, writes⟩ _ ⟨rfl, hticks, hwrites⟩
    obtain rfl : ticks = [] := hticks
    refine ⟨.refl _, rfl, ?_⟩
    cases c <;> exact ⟨rfl, hwrites⟩
  orders keys := by
    rintro ⟨kernel, durable, ticks, orders, writes⟩ _ ⟨rfl, hidle⟩
    refine ⟨.refl _, rfl, ?_⟩
    cases orders <;> exact hidle

theorem readCounters_idle {w : World} (h : Idle w w) :
    ∃ raw w', readCounters w = (.ok raw, w') ∧ Idle w' w' := by
  have hidle := (readCounters_respects idle_inseparable w w h).2
  have hticks : w.tick.fails = false := by
    unfold World.tick
    rw [h.2.1]
    rfl
  rw [readCounters_eq, hticks] at hidle ⊢
  exact ⟨_, _, rfl, hidle⟩

theorem readShapingStates_total (current : State) : Action.Total (readShapingStates current) := by
  refine .bind (fun w => ?_) fun names => .bind (.collect (fun name => ?_) names) fun _ => .pure _
  · unfold rangeKeys
    split <;> exact ⟨_, _, rfl⟩
  · refine .bind (.attempt _) fun r => ?_
    cases r <;> exact .pure _

theorem snapshot_idle (current : State) {w : World} (h : Idle w w) :
    ∃ r w', snapshot current w = (.ok r, w') ∧ w'.writes = [] := by
  have hsettle : ∃ r w', settle current w = (.ok r, w') ∧ Idle w' w' := by
    obtain ⟨raw, w₁, hread, hidle₁⟩ := readCounters_idle h
    have hidle₂ := (verifyNetwork_respects idle_inseparable current current w₁ w₁ hidle₁).2
    unfold settle
    rw [Action.bind_of_ok hread, Action.bind_apply, Action.attempt_apply]
    dsimp only
    rcases hverify : verifyNetwork current current w₁ with ⟨e | u, w₂⟩
    · rw [hverify] at hidle₂
      have hidle₃ := (applyNetwork_respects idle_inseparable (absorbCounters current raw)
        (absorbCounters current raw) w₂ w₂ hidle₂).2
      obtain ⟨raw', w₄, hread', hidle₄⟩ := readCounters_idle hidle₃
      dsimp only
      rw [Action.bind_apply, Action.attempt_apply]
      dsimp only
      rw [Action.bind_of_ok hread']
      exact ⟨_, _, rfl, hidle₄⟩
    · rw [hverify] at hidle₂
      exact ⟨_, _, rfl, hidle₂⟩
  obtain ⟨⟨settled, raw, restored⟩, w', hsettled, hidle⟩ := hsettle
  obtain ⟨states, w'', hstates⟩ := readShapingStates_total settled w'
  have hidle' := (readShapingStates_respects idle_inseparable settled w' w' hidle).2
  rw [hstates] at hidle'
  unfold snapshot
  rw [Action.bind_of_ok hsettled]
  dsimp only
  rw [Action.bind_of_ok hstates]
  exact ⟨_, _, rfl, hidle'.2.2⟩

/-- A snapshot of a file that loads is served if the environment does nothing. -/
theorem serve_idle {h : Helper} (hpolicies : h.durable.policies.length ≤ maxPolicies)
    (hnonces : h.durable.completedNonce.size ≤ 4096) :
    (h.serve (snapshotCall [])).1.isOk = true := by
  have hload : loadState (h.world (snapshotCall [])) = (.ok h.durable, h.world (snapshotCall [])) :=
    loadState_of_fits hpolicies hnonces
  obtain ⟨⟨response, checkpoint⟩, w', hsnapshot, hwrites⟩ :=
    snapshot_idle h.durable (w := h.world (snapshotCall [])) ⟨rfl, rfl, rfl⟩
  show ((loadState.mapError Failure.load >>= serveLoaded _ _) (h.world (snapshotCall []))).1.isOk =
    true
  rw [Action.bind_of_ok (Action.mapError_of_ok Failure.load hload)]
  show (serveSnapshot h.durable (h.world (snapshotCall []))).1.isOk = true
  unfold serveSnapshot
  rw [Action.bind_of_ok (Action.mapError_of_ok Failure.counters hsnapshot)]
  dsimp only
  rw [Action.bind_apply, Action.mapError_apply, writeState, hwrites]
  rfl

/-! ### When it goes unnoticed -/

/-- A request that finds the lock held. -/
def refusedSnapshot : Call :=
  { snapshotCall [] with setting := { (snapshotCall []).setting with locked := true } }

theorem map_eq_self {α : Type} {f : α → α} {items : List α} (h : items.map f = items) :
    ∀ a ∈ items, f a = a :=
  fun _ ha => List.map_inj_left.mp (h.trans (List.map_id items).symm) _ ha

theorem Accepts.unique {h : Helper} {call : Call} {auth auth' : Authorization}
    (haccepts : Accepts h call auth) (haccepts' : Accepts h call auth') : auth = auth' :=
  Option.some.inj (haccepts.signed.1.symm.trans haccepts'.signed.1)

/-- A dry run of a change goes unnoticed exactly if it is not carried out, or its nonce fits and
there is nothing it adds to a total. -/
theorem dry_run_unnoticed (h : Helper) (call : Call) (hdry : call.IsDryRun) :
    Unnoticed h call ↔
      ((h.serve call).1.isOk = true → NonceFits h call ∧ NothingToAdd h call) := by
  rcases serve_dryRun hdry with ⟨hfailed, hfile⟩ |
    ⟨hok, hpolicies, hnonces, auth, haccepts, hstored⟩
  · -- the file is as it was
    have hsame : h.step call = h.without call := by
      unfold Helper.without
      rw [← hfile]
    simp [hfailed, Unnoticed, hsame]
  · rw [imp_iff_right hok]
    constructor
    · intro hunnoticed
      refine ⟨fun auth' haccepts' => ?_, fun p hp => absorbPolicy_eq_self.mp ?_⟩
      · -- without the dry run an undisturbed snapshot is served
        have hreport := hunnoticed [snapshotCall []] (by simp [snapshotCall])
        have hwithout : ((h.without call).serve (snapshotCall [])).1.isOk = true :=
          serve_idle hpolicies hnonces
        have hserved : ((h.step call).serve (snapshotCall [])).1.isOk = true := by
          change [(((h.step call).serve (snapshotCall [])).1.toOption.map _, _)] =
            [(((h.without call).serve (snapshotCall [])).1.toOption.map _, _)] at hreport
          have hresult := congrArg Option.isSome (congrArg Prod.fst (List.singleton_inj.mp hreport))
          cases hleft : ((h.step call).serve (snapshotCall [])).1 with
          | ok response => rfl
          | error e =>
            cases hright : ((h.without call).serve (snapshotCall [])).1 with
            | ok response =>
              rw [hleft, hright] at hresult
              cases hresult
            | error e =>
              rw [hright] at hwithout
              cases hwithout
        obtain rfl : auth' = auth := haccepts'.unique haccepts
        have hfits := (fits_of_serve hserved).2
        rwa [hstored] at hfits
      · -- a refused snapshot leaves the policies for all to see
        have hreport := hunnoticed [refusedSnapshot] (by simp [refusedSnapshot, snapshotCall])
        change [(none, (h.step call).durable.policies)] = [(none, h.durable.policies)] at hreport
        have hkept : h.durable.policies.map (absorbPolicy (baselineReading (h.world call))) =
            h.durable.policies := by
          have heq := congrArg Prod.snd (List.singleton_inj.mp hreport)
          rwa [hstored] at heq
        exact map_eq_self hkept p hp
    · rintro ⟨hfits, hzero⟩ later hlater
      have halike : (h.step call).Alike (h.without call) := by
        refine ⟨rfl, ?_, ?_, hnonces⟩
        · rw [hstored]
          have hsame (p : Policy) (hp : p ∈ h.durable.policies) :=
            absorbPolicy_eq_self.mpr (hzero p hp)
          exact (List.map_congr_left hsame).trans (List.map_id _)
        · rw [hstored]
          exact hfits auth haccepts
      exact trace_report_alike halike hlater

/-- The helper after a policy was applied and sixty of a hundred bytes were recorded, and a dry
run of the same request. The next snapshot counts the hundred bytes a second time. -/
theorem dry_run_counts_again :
    (quietCall (rehearsal 0)).IsDryRun ∧
      ((run Helper.step Helper.initial recordedHistory).serve
        (quietCall (rehearsal 0))).1.isOk = true ∧
      ¬Unnoticed (run Helper.step Helper.initial recordedHistory) (quietCall (rehearsal 0)) := by
  refine ⟨by decide, by decide +kernel, fun hunnoticed => ?_⟩
  have hreport := hunnoticed [snapshotCall []] (by simp [snapshotCall])
  have htotals := congrArg (List.map fun r => r.1.map (List.map (·.total .rx))) hreport
  revert htotals
  decide +kernel

/-- There is room for one more nonce while fewer than the limit are stored. -/
theorem nonceFits_of_size_lt {h : Helper} (hsize : h.durable.completedNonce.size < 4096)
    (call : Call) : NonceFits h call := by
  intro auth _
  have hlive := List.length_filter_le (fun entry : String × Int => call.setting.now ≤ entry.2)
    h.durable.completedNonce.entries
  unfold consumeNonce
  dsimp only
  rw [if_neg]
  · have hkept := List.length_filter_le (fun entry : String × Int => entry.1 != auth.nonce)
      (h.durable.completedNonce.filter fun entry => call.setting.now ≤ entry.2).entries
    simp only [Dict.size, Dict.insert, Dict.erase, Dict.filter, List.length_append,
      List.length_singleton] at hsize hkept ⊢
    omega
  · rintro ⟨hfull, -⟩
    simp only [Dict.size, Dict.filter] at hsize hfull
    omega

instance (h : Helper) (call : Call) : Decidable (NothingToAdd h call) :=
  decidable_of_iff
    (∀ p ∈ h.durable.policies,
      (p.lastKernel .rx = 0 ∧ (baselineReading (h.world call)).value .rx p ≤ 0) ∧
        p.lastKernel .tx = 0 ∧ (baselineReading (h.world call)).value .tx p ≤ 0) <| by
    refine forall₂_congr fun p _ => ⟨fun hsides side => ?_, fun hsides => ⟨hsides .rx, hsides .tx⟩⟩
    cases side
    · exact hsides.1
    · exact hsides.2

/-- A dry run before the first byte. -/
theorem dry_run_unnoticed_early :
    Unnoticed (run Helper.step Helper.initial
      [quietCall (portRequest .apply firstPolicyID "443" "task-1")]) (quietCall (rehearsal 0)) :=
  (dry_run_unnoticed _ _ (by decide)).mpr fun _ =>
    ⟨nonceFits_of_size_lt (by decide +kernel) _, by decide +kernel⟩

end VpsGuardian.NetHelper
