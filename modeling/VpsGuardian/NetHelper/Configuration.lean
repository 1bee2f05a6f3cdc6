import VpsGuardian.NetHelper.DryRun

/-!
What the helper is asked to enforce, beside the accounting.

The configuration of a policy is what a task asks for. Only a request for that
very policy changes it, and one that succeeds leaves what it asked for.
-/

namespace VpsGuardian.NetHelper

open Lib

structure Configuration where
  protocol : Protocol
  direction : Direction
  portStart : Int
  portEnd : Int
  interfaceName : String
  mode : Mode
  quotaBytes : Int64
  egressRateBPS : Int
  deriving DecidableEq

def Policy.configuration (p : Policy) : Configuration :=
  ⟨p.protocol, p.direction, p.portStart, p.portEnd, p.interfaceName, p.mode, p.quotaBytes,
    p.egressRateBPS⟩

/-- The owned policies without the accounting. -/
def configurations (policies : List Policy) : List (String × Configuration) :=
  policies.map fun p => (p.id, p.configuration)

/-- The configuration of an owned policy, none where no policy has the id. -/
def configured (policies : List Policy) (id : String) : Option Configuration :=
  (configurations policies).lookup id

/-- The ids of the owned policies are distinct. -/
def IDsDistinct (policies : List Policy) : Prop := ((configurations policies).map Prod.fst).Nodup

/-! ### Accounting -/

theorem configurations_absorb (raw : Reading) (policies : List Policy) :
    configurations (policies.map (absorbPolicy raw)) = configurations policies := by
  rw [configurations, List.map_map]
  rfl

theorem configurations_checkpoint (raw : Reading) (policies : List Policy) :
    configurations (policies.map (checkpointPolicy raw)) = configurations policies := by
  rw [configurations, List.map_map]
  rfl

/-! ### Changes -/

theorem lookup_eq_none_of_not_mem {entries : List (String × Configuration)} {id : String}
    (h : id ∉ entries.map Prod.fst) : entries.lookup id = none := by
  rw [List.lookup_eq_none_iff]
  intro entry hentry
  refine bne_iff_ne.mpr ?_
  rintro rfl
  exact h (List.mem_map_of_mem hentry)

theorem lookup_append_cons_of_ne {before after : List (String × Configuration)}
    {entry : String × Configuration} {id : String} (h : id ≠ entry.1) :
    (before ++ entry :: after).lookup id = (before ++ after).lookup id := by
  have hne : (id == entry.1) = false := beq_eq_false_iff_ne.mpr h
  rw [List.lookup_append, List.lookup_append, List.lookup_cons, hne]

/-- What a change of the policies does to their configurations. -/
structure Changed (policies : List Policy) (operation : Operation) (parsed : Policy)
    (policies' : List Policy) : Prop where
  distinct : IDsDistinct policies'
  others : ∀ id, id ≠ parsed.id → configured policies' id = configured policies id
  applied : operation = .apply → configured policies' parsed.id = some parsed.configuration
  removed : operation = .remove → configured policies' parsed.id = none
  kept : operation ≠ .apply → operation ≠ .remove →
    configurations policies' = configurations policies

theorem changed_refl {policies : List Policy} {operation : Operation} {parsed : Policy}
    (hids : IDsDistinct policies) (happly : operation ≠ .apply) (hremove : operation ≠ .remove) :
    Changed policies operation parsed policies where
  distinct := hids
  others _ _ := rfl
  applied hop := absurd hop happly
  removed hop := absurd hop hremove
  kept _ _ := rfl

/-- A policy in the place of one with its id. -/
theorem changed_replace {before after : List Policy} {p p' parsed : Policy}
    {operation : Operation} (hids : IDsDistinct (before ++ p :: after)) (hp : p.id = parsed.id)
    (hp' : p'.id = parsed.id)
    (happlied : operation = .apply → p'.configuration = parsed.configuration)
    (hremoved : operation ≠ .remove)
    (hkept : operation ≠ .apply → p'.configuration = p.configuration) :
    Changed (before ++ p :: after) operation parsed (before ++ p' :: after) := by
  have hkeys : (configurations (before ++ p' :: after)).map Prod.fst =
      (configurations (before ++ p :: after)).map Prod.fst := by
    simp [configurations, hp, hp']
  have hsplit (q : Policy) : configurations (before ++ q :: after) =
      configurations before ++ (q.id, q.configuration) :: configurations after := by
    simp [configurations]
  have hfirst : parsed.id ∉ (configurations before).map Prod.fst := by
    have hnodup := hids
    rw [IDsDistinct, hsplit, List.map_append, List.nodup_append] at hnodup
    intro hmem
    exact hnodup.2.2 _ hmem parsed.id (by simp [hp]) rfl
  refine ⟨?_, ?_, ?_, fun h => absurd h hremoved, ?_⟩
  · rw [IDsDistinct, hkeys]
    exact hids
  · intro id hid
    rw [configured, configured, hsplit, hsplit, lookup_append_cons_of_ne (hp' ▸ hid),
      lookup_append_cons_of_ne (hp ▸ hid)]
  · intro hop
    rw [configured, hsplit, List.lookup_append, lookup_eq_none_of_not_mem hfirst, Option.none_or,
      List.lookup_cons, hp', beq_self_eq_true, happlied hop]
  · intro hop _
    rw [hsplit, hsplit, hkept hop, hp, hp']

theorem desiredPolicies_changed {policies policies' : List Policy} {operation : Operation}
    {parsed : Policy} {clock : Int} (hids : IDsDistinct policies)
    (h : desiredPolicies policies operation parsed clock = .ok policies') :
    Changed policies operation parsed policies' := by
  cases hfind : findPolicy policies parsed.id with
  | none =>
    have hnew : parsed.id ∉ (configurations policies).map Prod.fst := by
      have hall : ∀ q ∈ policies, q.id ≠ parsed.id := by
        simpa [findPolicy, List.findIdx?_eq_none_iff] using hfind
      simpa [configurations] using hall
    cases operation with
    | apply =>
      simp only [desiredPolicies, hfind] at h
      split_ifs at h
      cases h
      have happend : configurations (policies ++ [{ parsed with periodStarted := clock }]) =
          configurations policies ++ [(parsed.id, parsed.configuration)] := by
        simp [configurations, Policy.configuration]
      refine ⟨?_, ?_, ?_, fun hop => absurd hop (by decide), fun hop => absurd rfl hop⟩
      · rw [IDsDistinct, happend, List.map_append, List.nodup_append]
        refine ⟨hids, List.nodup_singleton _, ?_⟩
        rintro id hid _ hlast rfl
        rw [List.map_singleton, List.mem_singleton] at hlast
        change id = parsed.id at hlast
        exact hnew (hlast ▸ hid)
      · intro id hid
        have hne := beq_eq_false_iff_ne.mpr hid
        rw [configured, happend, List.lookup_append, List.lookup_cons, hne, List.lookup_nil,
          Option.or_none, configured]
      · intro _
        rw [configured, happend, List.lookup_append, lookup_eq_none_of_not_mem hnew,
          Option.none_or, List.lookup_cons, beq_self_eq_true]
    | remove =>
      simp only [desiredPolicies, hfind, Except.ok.injEq] at h
      subst h
      exact ⟨hids, fun _ _ => rfl, fun hop => absurd hop (by decide),
        fun _ => lookup_eq_none_of_not_mem hnew, fun _ _ => rfl⟩
    | reset => simp [desiredPolicies, hfind] at h
    | snapshot | purge =>
      simp only [desiredPolicies, Except.ok.injEq] at h
      subst h
      exact changed_refl hids (by decide) (by decide)
  | some index =>
    obtain ⟨before, p, after, rfl, rfl, hp⟩ := findPolicy_split hfind
    cases operation with
    | apply =>
      simp only [desiredPolicies, hfind, modify_split, Except.ok.injEq] at h
      subst h
      exact changed_replace hids hp rfl (fun _ => rfl) (by decide) fun hop => absurd rfl hop
    | remove =>
      simp only [desiredPolicies, hfind, Except.ok.injEq] at h
      rw [List.eraseIdx_append_of_length_le le_rfl, Nat.sub_self, List.eraseIdx_cons_zero] at h
      subst h
      have hsplit : configurations (before ++ p :: after) =
          configurations before ++ (p.id, p.configuration) :: configurations after := by
        simp [configurations]
      have hrest : configurations (before ++ after) =
          configurations before ++ configurations after := by
        simp [configurations]
      have hnodup := hids
      rw [IDsDistinct, hsplit, List.map_append, List.map_cons, List.nodup_middle,
        List.nodup_cons, ← List.map_append] at hnodup
      refine ⟨?_, ?_, fun hop => absurd hop (by decide), ?_, fun _ hop => absurd rfl hop⟩
      · rw [IDsDistinct, hrest]
        exact hnodup.2
      · intro id hid
        rw [configured, configured, hsplit, hrest, lookup_append_cons_of_ne (hp ▸ hid)]
      · intro _
        rw [configured, hrest, ← hp]
        exact lookup_eq_none_of_not_mem hnodup.1
    | reset =>
      simp only [desiredPolicies, hfind, modify_split, Except.ok.injEq] at h
      subst h
      exact changed_replace hids hp hp (fun hop => absurd hop (by decide)) (by decide) fun _ => rfl
    | snapshot | purge =>
      simp only [desiredPolicies, Except.ok.injEq] at h
      subst h
      exact changed_refl hids (by decide) (by decide)

/-! ### Calls -/

/-- A change is stored, or else what was stored before it, with counters absorbed or not. -/
theorem commitChange_cases (baseline desired : State) (w : World) :
    (commitChange baseline desired w).1.isOk = true ∧
        (commitChange baseline desired w).2.durable = desired ∨
      (commitChange baseline desired w).1.isOk = false ∧
        ((commitChange baseline desired w).2.durable = w.durable ∨
          (commitChange baseline desired w).2.durable = baseline) := by
  have hevolves := (applyNetwork_evolves baseline desired w).1
  unfold commitChange
  rw [Action.bind_apply, Action.mapError_apply]
  rcases happly : applyNetwork baseline desired w with ⟨e | _, w₁⟩
  · rw [happly] at hevolves
    exact .inr ⟨rfl, .inl hevolves.durable⟩
  · rw [happly] at hevolves
    simp only [Except.mapError, Action.bind_apply, Action.attempt_apply, writeState]
    cases hwrite : w₁.writes.headD true with
    | true => exact .inl ⟨rfl, rfl⟩
    | false =>
      have hback := (applyNetwork_evolves desired baseline { w₁ with writes := w₁.writes.tail }).1
      simp only [Bool.false_eq_true, if_false, Action.bind_apply, Action.ignore, writeState]
      refine .inr ⟨rfl, ?_⟩
      split
      · exact .inr rfl
      · exact .inl (hback.durable.trans hevolves.durable)

/-- What serving a request for a change does to the configurations. -/
structure ServedChange (setting : Setting) (request : Request) (policies : List Policy)
    (served : Except Failure Response × World) : Prop where
  unchanged : served.1.isOk = false ∨ request.dryRun = true →
    configurations served.2.durable.policies = configurations policies
  changed : served.1.isOk = true → request.dryRun = false → ∃ parsed,
    parsePolicy setting.interfaceExists request.policy (!request.dryRun) = .ok parsed ∧
      Changed policies request.operation parsed served.2.durable.policies

/-- A request that fails before it stores anything. -/
theorem ServedChange.failed {setting : Setting} {request : Request} {policies : List Policy}
    {served : Except Failure Response × World} (hfailed : served.1.isOk = false)
    (hstored : configurations served.2.durable.policies = configurations policies) :
    ServedChange setting request policies served where
  unchanged _ := hstored
  changed hok := by
    rw [hfailed] at hok
    cases hok

theorem Changed.of_absorbed {policies policies' : List Policy} {raw : Reading}
    {operation : Operation} {parsed : Policy}
    (h : Changed (policies.map (absorbPolicy raw)) operation parsed policies') :
    Changed policies operation parsed policies' := by
  have hsame := configurations_absorb raw policies
  refine ⟨h.distinct, fun id hid => ?_, h.applied, h.removed, fun happly hremove => ?_⟩
  · have hothers := h.others id hid
    rw [configured, configured, hsame] at hothers
    exact hothers
  · exact (h.kept happly hremove).trans hsame

theorem serveAuthorized_change {setting : Setting} {request : Request} (auth : Authorization)
    {parsed : Policy} {w : World} (hids : IDsDistinct w.durable.policies)
    (hparsed : parsePolicy setting.interfaceExists request.policy (!request.dryRun) = .ok parsed) :
    ServedChange setting request w.durable.policies
      (serveAuthorized setting request auth parsed w.durable w) := by
  have hevolves := (readBaseline_evolves w.durable w).1.durable
  unfold serveAuthorized
  rw [Action.bind_apply, Action.mapError_apply]
  rcases hread : readBaseline w.durable w with ⟨e | baseline, w₁⟩
  · rw [hread] at hevolves
    exact .failed rfl (congrArg (fun s : State => configurations s.policies) hevolves)
  · obtain rfl := readBaseline_ok hread
    rw [hread] at hevolves
    have hkept := congrArg (fun s : State => configurations s.policies) hevolves
    simp only [Except.mapError]
    have habsorbed := configurations_absorb (baselineReading w) w.durable.policies
    cases hdesired : desiredState (absorbCounters w.durable (baselineReading w)) request.operation
        parsed setting.clock with
    | error e => exact .failed rfl hkept
    | ok result =>
      obtain ⟨desired, generation⟩ := result
      have hchanged : Changed w.durable.policies request.operation parsed desired.policies := by
        have hdistinct :
            IDsDistinct (w.durable.policies.map (absorbPolicy (baselineReading w))) := by
          rw [IDsDistinct, habsorbed]
          exact hids
        unfold desiredState at hdesired
        split at hdesired
        · cases hdesired
        next policies hpolicies =>
          cases hdesired
          exact (desiredPolicies_changed hdistinct hpolicies).of_absorbed
      dsimp only
      cases hdry : request.dryRun with
      | true =>
        simp only [if_true, Action.bind_apply, Action.mapError_apply, writeState]
        cases hwrite : w₁.writes.headD true with
        | true => exact ⟨fun _ => habsorbed, fun _ hfalse => by rw [hdry] at hfalse; cases hfalse⟩
        | false => exact .failed rfl hkept
      | false =>
        simp only [Bool.false_eq_true, if_false]
        rw [Action.bind_apply]
        have hcommit := commitChange_cases
          { absorbCounters w.durable (baselineReading w) with
            completedNonce := consumeNonce w.durable.completedNonce auth.nonce auth.expiresAt
              setting.now }
          { desired with
            completedNonce := consumeNonce w.durable.completedNonce auth.nonce auth.expiresAt
              setting.now } w₁
        rcases hserved : commitChange _ _ w₁ with ⟨e | _, w₂⟩
        · rw [hserved] at hcommit
          rcases hcommit with ⟨hok, -⟩ | ⟨-, hstored | hstored⟩
          · cases hok
          · exact .failed rfl
              ((congrArg (fun s : State => configurations s.policies) hstored).trans hkept)
          · exact .failed rfl
              ((congrArg (fun s : State => configurations s.policies) hstored).trans habsorbed)
        · rw [hserved] at hcommit
          rcases hcommit with ⟨-, hstored⟩ | ⟨hfailed, -⟩
          · refine ⟨fun h => ?_, fun _ _ => ⟨parsed, hparsed, ?_⟩⟩
            · rcases h with h | h
              · cases h
              · rw [hdry] at h
                cases h
            · change w₂.durable = _ at hstored
              change Changed _ _ _ w₂.durable.policies
              rw [hstored]
              exact hchanged
          · cases hfailed

theorem serveLoaded_change (setting : Setting) {request : Request}
    (hop : request.operation ∈ [.apply, .remove, .reset]) {w : World}
    (hids : IDsDistinct w.durable.policies) :
    ServedChange setting request w.durable.policies (serveLoaded setting request w.durable w) := by
  unfold serveLoaded
  cases hrequest : request.operation with
  | snapshot | purge => simp [hrequest] at hop
  | apply | remove | reset =>
    dsimp only
    cases htrust : setting.trust with
    | none => exact .failed rfl rfl
    | some trust =>
      dsimp only
      cases hverify : verifyAuthorization request trust w.durable.completedNonce setting.now with
      | error e => exact .failed rfl rfl
      | ok auth =>
        dsimp only
        cases hparsed : parsePolicy setting.interfaceExists request.policy (!request.dryRun) with
        | error e => exact .failed rfl rfl
        | ok parsed => exact serveAuthorized_change auth hids hparsed

/-- A request for a change that fails, or is a dry run, leaves every configuration; one that
succeeds changes those of its policy. -/
theorem serve_change {h : Helper} {call : Call}
    (hop : call.request.operation ∈ [.apply, .remove, .reset])
    (hids : IDsDistinct h.durable.policies) :
    ((h.serve call).1.isOk = false ∨ call.request.dryRun = true →
      configurations (h.step call).durable.policies = configurations h.durable.policies) ∧
    ((h.serve call).1.isOk = true → call.request.dryRun = false → ∃ parsed,
      parsePolicy call.setting.interfaceExists call.request.policy true = .ok parsed ∧
        Changed h.durable.policies call.request.operation parsed
          (h.step call).durable.policies) := by
  change ((executeRequest call.setting call.request (h.world call)).1.isOk = false ∨ _ →
      configurations (executeRequest call.setting call.request (h.world call)).2.durable.policies =
        _) ∧ ((executeRequest call.setting call.request (h.world call)).1.isOk = true → _ →
      ∃ parsed, _ ∧ Changed _ _ parsed
        (executeRequest call.setting call.request (h.world call)).2.durable.policies)
  unfold executeRequest
  split
  · exact ⟨fun _ => rfl, nofun⟩
  rcases loadState_eq (h.world call) with hload | ⟨e, hload⟩
  · rw [Action.bind_of_ok (Action.mapError_of_ok Failure.load hload)]
    obtain ⟨hunchanged, hchanged⟩ := serveLoaded_change call.setting hop (w := h.world call) hids
    refine ⟨hunchanged, fun hok hdry => ?_⟩
    obtain ⟨parsed, hparsed, hpolicies⟩ := hchanged hok hdry
    rw [hdry] at hparsed
    exact ⟨parsed, hparsed, hpolicies⟩
  · rw [Action.bind_of_error (Action.mapError_of_error Failure.load hload)]
    exact ⟨fun _ => rfl, nofun⟩

/-- A snapshot leaves every configuration. -/
theorem serve_snapshot_configurations {h : Helper} {call : Call}
    (hop : call.request.operation = .snapshot) :
    configurations (h.step call).durable.policies = configurations h.durable.policies := by
  rw [Helper.step]
  rcases serve_snapshot_cases h call hop with
    ⟨hdurable, -⟩ | ⟨response, checkpoint, w', hsnapshot, hserve⟩
  · rw [hdurable]
  · obtain ⟨settled, raw, restored, w₁, hsettle, -, hpolicies, -⟩ := snapshot_cases hsnapshot
    rw [hserve]
    change configurations checkpoint.policies = _
    rw [hpolicies, configurations_checkpoint]
    obtain ⟨raw₁, -, -, ⟨-, -, rfl, -⟩ | ⟨-, -, -, rfl, -⟩⟩ := settle_cases hsettle
    · rfl
    · exact configurations_absorb raw₁ h.durable.policies

end VpsGuardian.NetHelper
