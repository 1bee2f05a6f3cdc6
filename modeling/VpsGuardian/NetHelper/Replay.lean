import VpsGuardian.Lib.Checks
import VpsGuardian.Lib.Trace
import VpsGuardian.NetHelper.Rejection

/-!
Replay of signed authorizations (`verifyAuthorization` and `consumeNonce`).

The nonce of an accepted authorization is stored until it expires, and after
that the expiry check refuses it. So it is accepted once, unless the map was full
of live nonces and its own was dropped to make room.
-/

namespace VpsGuardian.NetHelper

open Lib

/-! ### What a call does to the stored nonces -/

/-- The change stored the nonces, or it stored nothing and failed. -/
def Stores (nonces : Dict Int) {α : Type} (w : World) (served : Except Failure α × World) : Prop :=
  served.2.durable.completedNonce = nonces ∨
    served.2.durable = w.durable ∧ served.1.isOk = false

theorem commitChange_stores (baseline desired : State) (nonces : Dict Int) (w : World) :
    Stores nonces w (commitChange { baseline with completedNonce := nonces }
      { desired with completedNonce := nonces } w) := by
  generalize hbaseline : { baseline with completedNonce := nonces } = before
  generalize hdesired : { desired with completedNonce := nonces } = after
  have hevolves := (applyNetwork_evolves before after w).1
  unfold commitChange
  rw [Action.bind_apply, Action.mapError_apply]
  rcases happly : applyNetwork before after w with ⟨e | _, w₁⟩
  · rw [happly] at hevolves
    exact .inr ⟨hevolves.durable, rfl⟩
  · rw [happly] at hevolves
    simp only [Except.mapError, Action.bind_apply, Action.attempt_apply, writeState]
    cases hwrite : w₁.writes.headD true with
    | true => exact .inl (hdesired ▸ rfl)
    | false =>
        -- The rollback may write the baseline, which has the nonces too.
        have hback := (applyNetwork_evolves after before { w₁ with writes := w₁.writes.tail }).1
        simp only [Bool.false_eq_true, if_false, Action.bind_apply, Action.ignore, writeState]
        split
        · exact .inl (hbaseline ▸ rfl)
        · exact .inr ⟨hback.durable.trans hevolves.durable, rfl⟩

theorem serveAuthorized_stores (setting : Setting) (request : Request) (auth : Authorization)
    (parsed : Policy) (w : World) :
    Stores (consumeNonce w.durable.completedNonce auth.nonce auth.expiresAt setting.now) w
      (serveAuthorized setting request auth parsed w.durable w) := by
  obtain ⟨hevolves, hbaseline⟩ := readBaseline_eq w.durable w
  unfold serveAuthorized
  rw [Action.bind_apply, Action.mapError_apply]
  rcases hread : readBaseline w.durable w with ⟨e | baseline, w₁⟩
  · rw [hread] at hevolves
    exact .inr ⟨hevolves.durable, rfl⟩
  · rw [hread] at hevolves
    simp only [Except.mapError]
    cases hdesired : desiredState baseline request.operation parsed setting.clock with
    | error e => exact .inr ⟨hevolves.durable, rfl⟩
    | ok result =>
        obtain ⟨desired, generation⟩ := result
        dsimp only
        split
        · simp only [Action.bind_apply, Action.mapError_apply, writeState]
          cases hwrite : w₁.writes.headD true with
          | true => exact .inl rfl
          | false => exact .inr ⟨hevolves.durable, rfl⟩
        · rw [Action.bind_apply]
          have hcommit := commitChange_stores baseline desired
            (consumeNonce w.durable.completedNonce auth.nonce auth.expiresAt setting.now) w₁
          rcases hserved : commitChange _ _ w₁ with ⟨e | _, w₂⟩
          · rw [hserved] at hcommit
            exact hcommit.imp id fun hfailed => ⟨hfailed.1.trans hevolves.durable, rfl⟩
          · rw [hserved] at hcommit
            rcases hcommit with hstored | ⟨-, hfailed⟩
            · exact .inl hstored
            · cases hfailed

theorem snapshot_nonces (current : State) :
    Action.Ensures World.Evolves (fun r => r.2.completedNonce = current.completedNonce)
      (snapshot current) := by
  have hsettle : Action.Ensures World.Evolves
      (fun r : State × Reading × Bool => r.1.completedNonce = current.completedNonce)
      (settle current) := by
    refine Action.Ensures.bind World.Evolves.trans readCounters_evolves fun raw _ => ?_
    refine Action.Ensures.bind World.Evolves.trans (verifyNetwork_evolves _ _).attempt fun r _ => ?_
    cases r with
    | ok _ => exact Action.Ensures.pure World.Evolves.refl rfl
    | error _ =>
        refine Action.Ensures.bind World.Evolves.trans (applyNetwork_evolves _ _).attempt
          fun restored _ => ?_
        refine Action.Ensures.bind World.Evolves.trans readCounters_evolves fun raw' _ => ?_
        exact Action.Ensures.pure World.Evolves.refl rfl
  refine Action.Ensures.bind World.Evolves.trans hsettle ?_
  rintro ⟨settled, raw, restored⟩ hsettled
  refine Action.Ensures.bind World.Evolves.trans (readShapingStates_evolves settled)
    fun shapingStates _ => ?_
  exact Action.Ensures.pure World.Evolves.refl hsettled

/-- The nonce that takes effect in a call, if one does. -/
def usedNonce (h : Helper) (call : Call) : List String :=
  if call.request.operation ∈ [.apply, .remove, .reset] ∧ (h.serve call).1.isOk then
    (call.request.authorization.map (·.nonce)).toList
  else []

/-- A call and the nonce that takes effect in it. -/
def serveNonce (h : Helper) (call : Call) : Helper × List String :=
  (h.step call, usedNonce h call)

/-- The authorization of a call is accepted. -/
def Accepts (h : Helper) (call : Call) (auth : Authorization) : Prop :=
  ∃ trust, call.setting.trust = some trust ∧
    verifyAuthorization call.request trust h.durable.completedNonce call.setting.now = .ok auth

/-- What an accepted authorization has passed. -/
theorem verifyAuthorization_ok {request : Request} {trust : Trust} {completed : Dict Int}
    {now : Int} {auth : Authorization}
    (h : verifyAuthorization request trust completed now = .ok auth) :
    request.authorization = some auth ∧ now ≤ auth.expiresAt ∧
      completed.contains auth.nonce = false ∧
      trust.verifies (Json.render Json.goEscape (signedAuthorization auth)) auth.signature =
        true := by
  simp only [verifyAuthorization, bind, Except.bind, pure, Except.pure, throw, throwThe,
    MonadExceptOf.throw] at h
  cases hauth : request.authorization with
  | none =>
      rw [hauth] at h
      cases h
  | some found =>
      simp only [hauth, ite_error_eq_ok] at h
      obtain ⟨-, -, -, hexpiry, hused, -, -, -, hsignature, hfound⟩ := h
      obtain rfl : found = auth := Except.ok.inj hfound
      refine ⟨rfl, ?_, eq_false_of_ne_true hused, eq_true_of_ne_false hsignature⟩
      exact not_lt.mp fun hlt => hexpiry (.inl hlt)

/-- A request for a change fails and leaves the file, or its authorization is accepted and its
nonce stored. -/
theorem serveLoaded_stores (setting : Setting) (request : Request)
    (hsnapshot : request.operation ≠ .snapshot) (hpurge : request.operation ≠ .purge) (w : World) :
    (serveLoaded setting request w.durable w).2.durable = w.durable ∧
        (serveLoaded setting request w.durable w).1.isOk = false ∨
      ∃ trust auth, setting.trust = some trust ∧
        verifyAuthorization request trust w.durable.completedNonce setting.now = .ok auth ∧
        (serveLoaded setting request w.durable w).2.durable.completedNonce =
          consumeNonce w.durable.completedNonce auth.nonce auth.expiresAt setting.now := by
  unfold serveLoaded
  cases hop : request.operation with
  | snapshot => exact absurd hop hsnapshot
  | purge => exact absurd hop hpurge
  | apply | remove | reset =>
    dsimp only
    cases htrust : setting.trust with
    | none => exact .inl ⟨rfl, rfl⟩
    | some trust =>
      dsimp only
      cases hverify : verifyAuthorization request trust w.durable.completedNonce setting.now with
      | error e => exact .inl ⟨rfl, rfl⟩
      | ok auth =>
        dsimp only
        cases hparsed : parsePolicy setting.interfaceExists request.policy (!request.dryRun) with
        | error e => exact .inl ⟨rfl, rfl⟩
        | ok parsed =>
          rcases serveAuthorized_stores setting request auth parsed w with hstored | hfailed
          · exact .inr ⟨trust, auth, rfl, hverify, hstored⟩
          · exact .inl hfailed

theorem serveLoaded_of_accepted {setting : Setting} {request : Request} {current : State}
    {trust : Trust} {auth : Authorization} {parsed : Policy}
    (hsnapshot : request.operation ≠ .snapshot) (hpurge : request.operation ≠ .purge)
    (htrust : setting.trust = some trust)
    (hverify : verifyAuthorization request trust current.completedNonce setting.now = .ok auth)
    (hparsed : parsePolicy setting.interfaceExists request.policy (!request.dryRun) = .ok parsed) :
    serveLoaded setting request current =
      serveAuthorized setting request auth parsed current := by
  unfold serveLoaded
  cases hop : request.operation with
  | snapshot => exact absurd hop hsnapshot
  | purge => exact absurd hop hpurge
  | apply | remove | reset => simp only [htrust, hverify, hparsed]

/-- Either no nonce takes effect and the stored ones stay, or an authorization is accepted and its
nonce stored. -/
theorem serveNonce_cases (h : Helper) (call : Call) (hpurge : call.request.operation ≠ .purge) :
    usedNonce h call = [] ∧
        (h.step call).durable.completedNonce = h.durable.completedNonce ∨
      ∃ auth, Accepts h call auth ∧ usedNonce h call ⊆ [auth.nonce] ∧
        (h.step call).durable.completedNonce = consumeNonce h.durable.completedNonce auth.nonce
          auth.expiresAt call.setting.now := by
  have hfailed (hresult : (h.serve call).1.isOk = false)
      (hdurable : (h.step call).durable = h.durable) : usedNonce h call = [] ∧
        (h.step call).durable.completedNonce = h.durable.completedNonce := by
    refine ⟨if_neg fun hused => ?_, by rw [hdurable]⟩
    rw [hresult] at hused
    exact nomatch hused.2
  by_cases hop : call.request.operation = .snapshot
  · refine .inl ⟨if_neg fun hused => ?_, ?_⟩
    · rw [hop] at hused
      exact nomatch hused.1
    · rcases serve_snapshot_cases h call hop with
        ⟨hdurable, -⟩ | ⟨response, checkpoint, w', hsnapshot, hserve⟩
      · rw [Helper.step, hdurable]
      · have hnonces := (snapshot_nonces h.durable (h.world call)).2 (response, checkpoint)
          (by rw [hsnapshot])
        rw [Helper.step, hserve]
        exact hnonces
  have hserve : h.serve call = ((executeRequest call.setting call.request (h.world call)).1,
      ⟨(executeRequest call.setting call.request (h.world call)).2.kernel,
        (executeRequest call.setting call.request (h.world call)).2.durable⟩) := rfl
  unfold executeRequest at hserve
  split at hserve
  · exact .inl (hfailed (by rw [hserve]; rfl) (by rw [Helper.step, hserve]; rfl))
  rcases loadState_eq (h.world call) with hload | ⟨e, hload⟩
  · rw [Action.bind_of_ok (Action.mapError_of_ok Failure.load hload)] at hserve
    rcases serveLoaded_stores call.setting call.request hop hpurge (h.world call) with
      ⟨hdurable, hresult⟩ | ⟨trust, auth, htrust, hverify, hstored⟩
    · exact .inl (hfailed (by rw [hserve]; exact hresult)
        (by rw [Helper.step, hserve]; exact hdurable))
    · refine .inr ⟨auth, ⟨trust, htrust, hverify⟩, ?_, ?_⟩
      · rw [usedNonce, (verifyAuthorization_ok hverify).1]
        split_ifs <;> simp
      · rw [Helper.step, hserve]
        exact hstored
  · rw [Action.bind_of_error (Action.mapError_of_error Failure.load hload)] at hserve
    exact .inl (hfailed (by rw [hserve]; rfl) (by rw [Helper.step, hserve]; rfl))

/-! ### Spent nonces -/

/-- The nonces of the file that have not expired. -/
def Helper.liveNonces (h : Helper) (now : Int) : Dict Int :=
  h.durable.completedNonce.filter fun entry => now ≤ entry.2

/-- An authorization is accepted only while there is room for one more live nonce. -/
def HasRoom (h : Helper) (call : Call) : Prop :=
  (∃ auth, Accepts h call auth) → (h.liveNonces call.setting.now).size < 4096

/-- The call carries an authorization with a valid signature. -/
def Call.Signed (call : Call) (auth : Authorization) : Prop :=
  call.request.authorization = some auth ∧ ∃ trust, call.setting.trust = some trust ∧
    trust.verifies (Json.render Json.goEscape (signedAuthorization auth)) auth.signature = true

/-- The Controller signs a nonce with one expiry. -/
def OneExpiry (calls : List Call) : Prop :=
  ∀ call ∈ calls, ∀ call' ∈ calls, ∀ auth auth', call.Signed auth → call'.Signed auth' →
    auth.nonce = auth'.nonce → auth.expiresAt = auth'.expiresAt

theorem Accepts.signed {h : Helper} {call : Call} {auth : Authorization}
    (haccepts : Accepts h call auth) : call.Signed auth := by
  obtain ⟨trust, htrust, hverify⟩ := haccepts
  obtain ⟨hauth, -, -, hsignature⟩ := verifyAuthorization_ok hverify
  exact ⟨hauth, trust, htrust, hsignature⟩

theorem Accepts.live {h : Helper} {call : Call} {auth : Authorization}
    (haccepts : Accepts h call auth) : call.setting.now ≤ auth.expiresAt := by
  obtain ⟨trust, -, hverify⟩ := haccepts
  exact (verifyAuthorization_ok hverify).2.1

theorem Accepts.not_mem {h : Helper} {call : Call} {auth : Authorization}
    (haccepts : Accepts h call auth) (expiresAt : Int) :
    (auth.nonce, expiresAt) ∉ h.durable.completedNonce.entries := by
  obtain ⟨trust, -, hverify⟩ := haccepts
  have hused := (verifyAuthorization_ok hverify).2.2.1
  intro hmem
  have hnone : h.durable.completedNonce.entries.lookup auth.nonce = none := by
    simpa [Dict.contains, Dict.get?] using hused
  have hne := List.lookup_eq_none_iff.mp hnone _ hmem
  simp at hne

/-- With room for one more, the live nonces are kept beside the new one. -/
theorem mem_consumeNonce {completed : Dict Int} {nonce other : String}
    {expiresAt otherExpiresAt now : Int}
    (hroom : (completed.filter fun entry => now ≤ entry.2).size < 4096) :
    (other, otherExpiresAt) ∈ (consumeNonce completed nonce expiresAt now).entries ↔
      (other, otherExpiresAt) = (nonce, expiresAt) ∨
        other ≠ nonce ∧ now ≤ otherExpiresAt ∧ (other, otherExpiresAt) ∈ completed.entries := by
  unfold consumeNonce
  dsimp only
  rw [if_neg fun hfull => absurd hfull.1 (not_le.mpr hroom)]
  simp only [Dict.insert, Dict.erase, Dict.filter, List.mem_append, List.mem_filter,
    List.mem_singleton, bne_iff_ne, decide_eq_true_eq]
  tauto

/-- The nonce is stored with its expiry, or has expired. -/
def Spent (nonce : String) (expiresAt : Int) (h : Helper) (now : Int) : Prop :=
  (nonce, expiresAt) ∈ h.durable.completedNonce.entries ∨ expiresAt < now

section Spent

variable {h : Helper} {call : Call} {nonce : String} {expiresAt now : Int}

/-- A call keeps a nonce spent, and does not use it again. -/
theorem Spent.step (hspent : Spent nonce expiresAt h now)
    (hpurge : call.request.operation ≠ .purge) (hclock : now ≤ call.setting.now)
    (hroom : HasRoom h call)
    (hexpiry : ∀ auth, call.Signed auth → auth.nonce = nonce → auth.expiresAt = expiresAt) :
    Spent nonce expiresAt (h.step call) call.setting.now ∧ nonce ∉ usedNonce h call := by
  rcases serveNonce_cases h call hpurge with ⟨hused, hkept⟩ | ⟨auth, haccepts, hused, hstored⟩
  · rw [Spent, hkept, hused]
    exact ⟨hspent.imp id fun hexpired => hexpired.trans_le hclock, List.not_mem_nil⟩
  · have hother : nonce ≠ auth.nonce := by
      rintro rfl
      rcases hspent with hmem | hexpired
      · exact haccepts.not_mem _ hmem
      · have heq := hexpiry auth haccepts.signed rfl
        have hlive := haccepts.live
        omega
    refine ⟨?_, fun hmem => hother (List.mem_singleton.mp (hused hmem))⟩
    rw [Spent, hstored, mem_consumeNonce (hroom ⟨auth, haccepts⟩)]
    rcases hspent with hmem | hexpired
    · rcases le_or_gt call.setting.now expiresAt with hlive | hdead
      · exact .inl (.inr ⟨hother, hlive, hmem⟩)
      · exact .inr hdead
    · exact .inr (hexpired.trans_le hclock)

/-- The nonce a call uses is spent after it. -/
theorem spent_of_mem_usedNonce (hpurge : call.request.operation ≠ .purge) (hroom : HasRoom h call)
    (hused : nonce ∈ usedNonce h call) :
    ∃ auth, call.Signed auth ∧ auth.nonce = nonce ∧
      Spent nonce auth.expiresAt (h.step call) call.setting.now := by
  rcases serveNonce_cases h call hpurge with ⟨hnone, -⟩ | ⟨auth, haccepts, hsubset, hstored⟩
  · rw [hnone] at hused
    exact absurd hused List.not_mem_nil
  · obtain rfl := List.mem_singleton.mp (hsubset hused)
    refine ⟨auth, haccepts.signed, rfl, .inl ?_⟩
    rw [hstored, mem_consumeNonce (hroom ⟨auth, haccepts⟩)]
    exact .inl rfl

end Spent

/-- The nonces that take effect in a run, one after the other. -/
def usedNonces (h : Helper) (calls : List Call) : List String := trace serveNonce h calls

/-- Once it is spent, no later call uses a nonce. -/
theorem Spent.not_mem_usedNonces {h : Helper} {nonce : String} {expiresAt now : Int}
    (hspent : Spent nonce expiresAt h now) {calls : List Call}
    (hpurge : ∀ call ∈ calls, call.request.operation ≠ .purge)
    (hsince : ∀ call ∈ calls, now ≤ call.setting.now)
    (hclock : calls.Pairwise fun earlier later => earlier.setting.now ≤ later.setting.now)
    (hroom : Meets Helper.step HasRoom h calls)
    (hexpiry : ∀ call ∈ calls, ∀ auth, call.Signed auth → auth.nonce = nonce →
      auth.expiresAt = expiresAt) : nonce ∉ usedNonces h calls := by
  induction calls generalizing h now with
  | nil => exact List.not_mem_nil
  | cons call calls ih =>
    rw [List.forall_mem_cons] at hpurge hsince hexpiry
    obtain ⟨hcall, hrest⟩ := List.pairwise_cons.mp hclock
    obtain ⟨hnext, hunused⟩ := hspent.step hpurge.1 hsince.1 hroom.1 hexpiry.1
    rw [usedNonces, trace_cons, List.mem_append, not_or]
    exact ⟨hunused, ih hnext hpurge.2 hcall hrest hroom.2 hexpiry.2⟩

/-- In every run with a clock that does not go back and in which an accepted authorization always
finds room for its nonce, no nonce takes effect twice. -/
theorem authorization_used_once (h : Helper) (calls : List Call)
    (hpurge : ∀ call ∈ calls, call.request.operation ≠ .purge)
    (hclock : calls.Pairwise fun earlier later => earlier.setting.now ≤ later.setting.now)
    (hexpiry : OneExpiry calls) (hroom : Meets Helper.step HasRoom h calls) :
    (usedNonces h calls).Nodup := by
  induction calls generalizing h with
  | nil => exact List.nodup_nil
  | cons call calls ih =>
    rw [List.forall_mem_cons] at hpurge
    obtain ⟨hcall, hrest⟩ := List.pairwise_cons.mp hclock
    have hexpiry' : OneExpiry calls := fun first hfirst second hsecond =>
      hexpiry first (List.mem_cons_of_mem _ hfirst) second (List.mem_cons_of_mem _ hsecond)
    rw [usedNonces, trace_cons, List.nodup_append]
    refine ⟨?_, ih (h.step call) hpurge.2 hrest hexpiry' hroom.2, ?_⟩
    · show (usedNonce h call).Nodup
      unfold usedNonce
      split_ifs
      · cases call.request.authorization <;> simp
      · exact List.nodup_nil
    · rintro nonce hused _ hlater rfl
      obtain ⟨auth, hsigned, rfl, hspent⟩ := spent_of_mem_usedNonce hpurge.1 hroom.1 hused
      refine hspent.not_mem_usedNonces hpurge.2 hcall hrest hroom.2 ?_ hlater
      intro other hother auth' hsigned' heq
      exact hexpiry other (List.mem_cons_of_mem _ hother)
        call List.mem_cons_self auth' auth hsigned'
        hsigned heq

/-! ### A full map -/

def nonceHead : String := "task-nonce-number-"

/-- Sixteen binary digits. -/
def binaryDigits (i : Nat) : String :=
  .ofList ((List.range 16).map fun bit => if i.testBit bit then '1' else '0')

def numberedNonce (i : Nat) : String := nonceHead ++ binaryDigits i

theorem numberedNonce_inj {i j : Nat} (hi : i < 2 ^ 16) (hj : j < 2 ^ 16)
    (h : numberedNonce i = numberedNonce j) : i = j := by
  have hdigits := List.map_inj_left.mp
    (String.ofList_injective ((String.append_right_inj nonceHead).mp h))
  refine Nat.eq_of_testBit_eq fun bit => ?_
  rcases Nat.lt_or_ge bit 16 with hlt | hge
  · have hdigit := hdigits bit (List.mem_range.mpr hlt)
    cases hbit : i.testBit bit <;> cases hbit' : j.testBit bit <;> simp [hbit, hbit'] at hdigit <;>
      rfl
  · have hpow : 2 ^ 16 ≤ 2 ^ bit := Nat.pow_le_pow_right (by decide) hge
    rw [Nat.testBit_lt_two_pow (hi.trans_le hpow), Nat.testBit_lt_two_pow (hj.trans_le hpow)]

/-- Of the numbered nonces, the first one expires a second before the others. -/
def numberedExpiry (i : Nat) : Int := if i = 0 then 1000 else 1001

/-- A dry run with a numbered nonce. -/
def rehearsal (i : Nat) : Request :=
  let request := portRequest .apply firstPolicyID "443" "task"
  { request with
    dryRun := true
    authorization := request.authorization.map fun auth =>
      { auth with
        parameters := auth.parameters.insert "dry_run" "true"
        nonce := numberedNonce i
        expiresAt := numberedExpiry i } }

def rehearsalParameters : Dict String :=
  (Dict.ofList [("policy_id", firstPolicyID), ("protocol", "tcp"), ("direction", "both"),
    ("port_start", "443"), ("port_end", "443"), ("interface_name", ""), ("mode", "monitor_only"),
    ("quota_bytes", "0"), ("egress_rate_bps", "0"), ("counter_generation", "1"),
    ("reset_policy", "\x7b\x7d"), ("next_reset_at", ""), ("dry_run", "false")]).insert
      "dry_run" "true"

/-- The authorization of a numbered dry run. -/
def rehearsalAuthorization (i : Nat) : Authorization where
  id := "task"
  action := "port_traffic_apply"
  parameters := rehearsalParameters
  nonce := numberedNonce i
  expiresAt := numberedExpiry i
  signature := "signature"
  approvalID := "approval"
  requesterID := "requester"
  approverID := "approver"
  targetHostID := "host"

theorem rehearsal_authorization (i : Nat) :
    (rehearsal i).authorization = some (rehearsalAuthorization i) := rfl

theorem oneExpiry_rehearsals {numbers : List Nat} (hbound : ∀ i ∈ numbers, i < 2 ^ 16) :
    OneExpiry (numbers.map fun i => quietCall (rehearsal i)) := by
  intro call hcall call' hcall' auth auth' hsigned hsigned' hnonce
  obtain ⟨i, hi, rfl⟩ := List.mem_map.mp hcall
  obtain ⟨j, hj, rfl⟩ := List.mem_map.mp hcall'
  obtain rfl : rehearsalAuthorization i = auth := Option.some.inj hsigned.1
  obtain rfl : rehearsalAuthorization j = auth' := Option.some.inj hsigned'.1
  rw [numberedNonce_inj (hbound i hi) (hbound j hj) hnonce]

theorem verify_rehearsal {i : Nat} {completed : Dict Int}
    (hunused : completed.contains (numberedNonce i) = false) :
    verifyAuthorization (rehearsal i) ⟨"host", fun _ _ => true⟩ completed 900 =
      .ok (rehearsalAuthorization i) := by
  have hsize : ¬(numberedNonce i).utf8ByteSize < 16 := by
    have hhead : nonceHead.utf8ByteSize = 18 := by decide +kernel
    rw [numberedNonce, String.utf8ByteSize_append, hhead]
    omega
  have hexpiry : ¬(numberedExpiry i < 900 ∨ 900 + 15 * 60 < numberedExpiry i) := by
    unfold numberedExpiry
    split_ifs <;> decide
  have hparameters : (boundParameters.all fun p => decide (rehearsalParameters.get p.1 =
      (portRequest .apply firstPolicyID "443" "task").policy.get p.2)) = true := by
    decide +kernel
  have hdryRun : rehearsalParameters.get "dry_run" = "true" := by
    decide +kernel
  simp only [verifyAuthorization, bind, Except.bind, pure, Except.pure, throw, throwThe,
    MonadExceptOf.throw, rehearsal_authorization, ite_error_eq_ok]
  refine ⟨fun h => h rfl, ?_, fun h => h rfl, hexpiry, ?_, ?_, ?_, ?_, ?_⟩
  · rintro (h | h | h)
    · exact absurd (show "task" = "" from h) (by decide)
    · exact hsize h
    · exact absurd (show "host" = "" from h) (by decide)
  · exact ne_true_of_eq_false hunused
  · exact ne_false_of_eq_true hparameters
  · exact fun h => h hdryRun
  · rintro ⟨-, h | h | h | h⟩
    · exact absurd (show "approval" = "" from h) (by decide)
    · exact absurd (show "requester" = "" from h) (by decide)
    · exact absurd (show "approver" = "" from h) (by decide)
    · exact absurd (show "requester" = "approver" from h) (by decide)
  · exact ⟨Bool.true_eq_false_eq_False, trivial⟩

/-- Without policies there is nothing to absorb. -/
theorem readBaseline_quiet {current : State} (hpolicies : current.policies = []) {w : World}
    (hticks : w.ticks = []) :
    ∃ w', readBaseline current w = (.ok current, w') ∧ w'.durable = w.durable ∧
      w'.writes = w.writes := by
  obtain ⟨raw, w', hread, hkept⟩ : ∃ raw w', readBaseline current w =
      (.ok (absorbCounters current raw), w') ∧ w'.durable = w.durable ∧ w'.writes = w.writes := by
    obtain ⟨⟨table, counters, grown, commits⟩, durable, ticks, orders, writes⟩ := w
    obtain rfl : ticks = [] := hticks
    cases table with
    | true => exact ⟨_, _, rfl, rfl, rfl⟩
    | false => exact ⟨_, _, rfl, rfl, rfl⟩
  have habsorb : absorbCounters current raw = current := by
    obtain ⟨policies, completedNonce⟩ := current
    obtain rfl : policies = [] := hpolicies
    rfl
  exact ⟨w', by rw [hread, habsorb], hkept⟩

/-- The stored nonces after a numbered dry run. -/
def addNumbered (completed : Dict Int) (i : Nat) : Dict Int :=
  consumeNonce completed (numberedNonce i) (numberedExpiry i) 900

/-- A numbered dry run succeeds on a helper without policies, and stores its nonce. -/
theorem step_rehearsal {h : Helper} {i : Nat} (hpolicies : h.durable.policies = [])
    (hsize : h.durable.completedNonce.size ≤ 4096)
    (hunused : h.durable.completedNonce.contains (numberedNonce i) = false) :
    (h.step (quietCall (rehearsal i))).durable = ⟨[], addNumbered h.durable.completedNonce i⟩ ∧
      usedNonce h (quietCall (rehearsal i)) = [numberedNonce i] := by
  have hload : loadState (h.world (quietCall (rehearsal i))) =
      (.ok h.durable, h.world (quietCall (rehearsal i))) := by
    unfold loadState
    rw [if_neg, if_neg]
    · rfl
    · exact not_lt.mpr hsize
    · rw [show (h.world (quietCall (rehearsal i))).durable = h.durable from rfl, hpolicies]
      exact Nat.not_lt_zero _
  obtain ⟨parsed, hparsed⟩ : ∃ parsed, parsePolicy (fun _ => true) (rehearsal i).policy false =
      .ok parsed := by
    have hok : (parsePolicy (fun _ => true)
        (portRequest .apply firstPolicyID "443" "task").policy false).isOk = true := by
      decide +kernel
    cases hparsed : parsePolicy (fun _ => true)
        (portRequest .apply firstPolicyID "443" "task").policy false with
    | error e =>
        rw [hparsed] at hok
        exact nomatch hok
    | ok parsed => exact ⟨parsed, hparsed⟩
  obtain ⟨w', hbaseline, hdurable, hwrites⟩ :=
    readBaseline_quiet hpolicies (w := h.world (quietCall (rehearsal i))) rfl
  obtain ⟨desired, generation, hdesired⟩ : ∃ desired generation,
      desiredState h.durable .apply parsed 900 = .ok (desired, generation) := by
    unfold desiredState
    rw [hpolicies]
    exact ⟨_, _, rfl⟩
  have hserved : serveLoaded (quietCall (rehearsal i)).setting (rehearsal i) h.durable =
      serveAuthorized (quietCall (rehearsal i)).setting (rehearsal i) (rehearsalAuthorization i)
        parsed h.durable :=
    serveLoaded_of_accepted nofun nofun rfl (verify_rehearsal hunused) hparsed
  have hserve : ∃ kernel, h.serve (quietCall (rehearsal i)) =
      (.ok ⟨generation, []⟩, ⟨kernel, ⟨[], addNumbered h.durable.completedNonce i⟩⟩) := by
    refine ⟨w'.kernel, ?_⟩
    have hexecute : executeRequest (quietCall (rehearsal i)).setting (rehearsal i)
        (h.world (quietCall (rehearsal i))) = (.ok ⟨generation, []⟩, { w' with
          durable := ⟨[], addNumbered h.durable.completedNonce i⟩
          writes := w'.writes.tail }) := by
      show (loadState.mapError .load >>= serveLoaded _ _) _ = _
      rw [Action.bind_of_ok (Action.mapError_of_ok Failure.load hload), hserved]
      unfold serveAuthorized
      rw [Action.bind_of_ok (Action.mapError_of_ok Failure.counters hbaseline)]
      have hdesired' : desiredState h.durable (rehearsal i).operation parsed
          (quietCall (rehearsal i)).setting.clock = .ok (desired, generation) := hdesired
      simp only [hdesired']
      have hwrite : writeState
          { h.durable with completedNonce := addNumbered h.durable.completedNonce i } w' =
          (.ok (), { w' with
            durable := ⟨[], addNumbered h.durable.completedNonce i⟩
            writes := w'.writes.tail }) := by
        unfold writeState
        rw [hwrites]
        dsimp only
        rw [hpolicies]
        rfl
      exact Action.bind_of_ok (Action.mapError_of_ok _ hwrite)
    unfold Helper.serve
    rw [show (quietCall (rehearsal i)).request = rehearsal i from rfl, hexecute]
  obtain ⟨kernel, hserve⟩ := hserve
  refine ⟨by rw [Helper.step, hserve], ?_⟩
  rw [usedNonce, hserve, if_pos ⟨List.mem_cons_self, rfl⟩]
  rfl

/-- The first numbered nonces with their expiries. -/
def numberedEntries (count : Nat) : List (String × Int) :=
  (List.range count).map fun i => (numberedNonce i, numberedExpiry i)

theorem not_mem_keys {completed : Dict Int} {count i : Nat} (hcount : count ≤ i) (hi : i < 2 ^ 16)
    (hentries : completed.entries = numberedEntries count) :
    numberedNonce i ∉ completed.keys := by
  rw [Dict.keys, hentries, numberedEntries, List.map_map, List.mem_map]
  rintro ⟨j, hj, heq⟩
  rw [List.mem_range] at hj
  have := numberedNonce_inj (by omega) hi heq
  omega

theorem contains_eq_false {completed : Dict Int} {nonce : String} (h : nonce ∉ completed.keys) :
    completed.contains nonce = false := by
  rw [Dict.contains, Dict.get?, Option.isSome_eq_false_iff, Option.isNone_iff_eq_none,
    List.lookup_eq_none_iff]
  intro entry hentry
  simpa using fun heq : nonce = entry.1 => h (heq ▸ List.mem_map_of_mem hentry)

/-- None of the numbered nonces has expired. -/
theorem live_numbered {completed : Dict Int} {count : Nat}
    (hentries : completed.entries = numberedEntries count) :
    (completed.filter fun entry => 900 ≤ entry.2).entries = numberedEntries count := by
  show completed.entries.filter _ = _
  rw [hentries, List.filter_eq_self]
  intro entry hentry
  obtain ⟨i, -, rfl⟩ := List.mem_map.mp hentry
  unfold numberedExpiry
  dsimp only
  split_ifs <;> decide

/-- With room in the map, a numbered nonce is added at the end. -/
theorem entries_addNumbered {completed : Dict Int} {count : Nat} (hcount : count < 4096)
    (hentries : completed.entries = numberedEntries count) :
    (addNumbered completed count).entries = numberedEntries (count + 1) := by
  have hlive := live_numbered hentries
  unfold addNumbered consumeNonce
  dsimp only
  rw [if_neg]
  · rw [Dict.entries_insert_of_not_mem (not_mem_keys le_rfl (by omega) hlive), hlive,
      numberedEntries, numberedEntries, List.range_succ, List.map_append]
    rfl
  · rintro ⟨hfull, -⟩
    rw [Dict.size, hlive, numberedEntries, List.length_map, List.length_range] at hfull
    omega

/-- After `count` numbered dry runs their nonces are stored. -/
theorem run_rehearsals {count : Nat} (hcount : count ≤ 4096) :
    (run Helper.step Helper.initial ((List.range count).map fun i =>
        quietCall (rehearsal i))).durable.policies = [] ∧
      (run Helper.step Helper.initial ((List.range count).map fun i =>
        quietCall (rehearsal i))).durable.completedNonce.entries = numberedEntries count := by
  induction count with
  | zero => exact ⟨rfl, rfl⟩
  | succ count ih =>
    obtain ⟨hpolicies, hentries⟩ := ih (by omega)
    rw [List.range_succ, List.map_append, run_append]
    generalize run Helper.step Helper.initial ((List.range count).map fun i =>
      quietCall (rehearsal i)) = h at hpolicies hentries ⊢
    have hsize : h.durable.completedNonce.size ≤ 4096 := by
      rw [Dict.size, hentries, numberedEntries, List.length_map, List.length_range]
      omega
    have hstep := (step_rehearsal hpolicies hsize
      (contains_eq_false (not_mem_keys le_rfl (by omega) hentries))).1
    show (h.step (quietCall (rehearsal count))).durable.policies = [] ∧ _
    rw [List.map_singleton, run_cons, run_nil, hstep]
    exact ⟨rfl, entries_addNumbered (by omega) hentries⟩

/-- The least expiry stays the least. -/
theorem foldl_oldest {oldest : String × Int} {entries : List (String × Int)}
    (h : ∀ entry ∈ entries, oldest.2 ≤ entry.2) :
    entries.foldl (fun oldest entry => if entry.2 < oldest.2 then entry else oldest) oldest =
      oldest := by
  induction entries with
  | nil => rfl
  | cons entry entries ih =>
    rw [List.forall_mem_cons] at h
    rw [List.foldl_cons, if_neg (not_lt.mpr h.1), ih h.2]

theorem oldestNonce_numbered {completed : Dict Int} {count : Nat} (hcount : 0 < count)
    (hentries : completed.entries = numberedEntries count) :
    oldestNonce completed = numberedNonce 0 := by
  obtain ⟨count, rfl⟩ := Nat.exists_eq_succ_of_ne_zero hcount.ne'
  have hcons : numberedEntries (count + 1) = (numberedNonce 0, 1000) ::
      (List.range count).map fun i => (numberedNonce (i + 1), 1001) := by
    rw [numberedEntries, List.range_succ_eq_map, List.map_cons, List.map_map]
    rfl
  rw [oldestNonce, hentries, hcons, List.foldl_cons, if_pos (by decide), foldl_oldest]
  intro entry hentry
  obtain ⟨i, -, rfl⟩ := List.mem_map.mp hentry
  show (1000 : Int) ≤ 1001
  decide

/-- The nonce for which there is no room takes the place of the first one. -/
theorem addNumbered_full {completed : Dict Int} {count : Nat} (hcount : count = 4096)
    (hentries : completed.entries = numberedEntries count) :
    (addNumbered completed count).contains (numberedNonce 0) = false ∧
      (addNumbered completed count).size ≤ 4096 := by
  have hlive := live_numbered hentries
  have hnonempty : numberedNonce 0 ≠ "" := by decide +kernel
  have hadded : addNumbered completed count = ((completed.filter fun entry =>
      900 ≤ entry.2).erase (numberedNonce 0)).insert (numberedNonce count)
        (numberedExpiry count) := by
    unfold addNumbered consumeNonce
    dsimp only
    have hfull : 4096 ≤ (completed.filter fun entry => 900 ≤ entry.2).size := by
      rw [Dict.size, hlive, numberedEntries, List.length_map, List.length_range, hcount]
    rw [oldestNonce_numbered (by omega) hlive, if_pos ⟨hfull, hnonempty⟩]
  rw [hadded]
  generalize (completed.filter fun entry => 900 ≤ entry.2) = live at hlive
  constructor
  · refine contains_eq_false fun hmem => ?_
    simp only [Dict.keys, Dict.insert, Dict.erase, Dict.filter, List.map_append, List.mem_append,
      List.map_cons, List.map_nil, List.mem_singleton, List.mem_map, List.mem_filter,
      bne_iff_ne] at hmem
    rcases hmem with ⟨entry, hentry, heq⟩ | heq
    · exact hentry.1.2 heq
    · have := numberedNonce_inj (by decide) (by omega) heq
      omega
  · have hless : (live.entries.filter fun entry => entry.1 != numberedNonce 0).length <
        live.entries.length := by
      rw [List.length_filter_lt_length_iff_exists]
      refine ⟨(numberedNonce 0, 1000), ?_, by simp⟩
      rw [hlive]
      exact List.mem_map.mpr ⟨0, List.mem_range.mpr (by omega), rfl⟩
    have hlength : live.entries.length = 4096 := by
      rw [hlive, numberedEntries, List.length_map, List.length_range, hcount]
    have hkept := List.length_filter_le (fun entry => entry.1 != numberedNonce count)
      (live.entries.filter fun entry => entry.1 != numberedNonce 0)
    simp only [Dict.size, Dict.insert, Dict.erase, Dict.filter, List.length_append,
      List.length_singleton]
    omega

/-- After one dry run more than there is room for, the first one is accepted again. -/
theorem usedNonce_after_crowd {count : Nat} (hcount : count = 4096) :
    usedNonce (run Helper.step Helper.initial ((List.range (count + 1)).map fun i =>
      quietCall (rehearsal i))) (quietCall (rehearsal 0)) = [numberedNonce 0] := by
  obtain ⟨hpolicies, hentries⟩ := run_rehearsals hcount.le
  rw [List.range_succ, List.map_append, run_append, List.map_singleton, run_cons, run_nil]
  generalize run Helper.step Helper.initial ((List.range count).map fun i =>
    quietCall (rehearsal i)) = h at hpolicies hentries ⊢
  have hsize : h.durable.completedNonce.size ≤ 4096 := by
    rw [Dict.size, hentries, numberedEntries, List.length_map, List.length_range, hcount]
  have hstep := (step_rehearsal hpolicies hsize
    (contains_eq_false (not_mem_keys le_rfl (by omega) hentries))).1
  obtain ⟨hdropped, hroom⟩ := addNumbered_full hcount hentries
  refine (step_rehearsal ?_ ?_ ?_).2
  · rw [hstep]
  · rw [hstep]
    exact hroom
  · rw [hstep]
    exact hdropped

/-- Dry runs with the numbers up to `count`, and a replay of the first. -/
def crowdedCalls (count : Nat) : List Call :=
  (List.range (count + 1) ++ [0]).map fun i => quietCall (rehearsal i)

theorem crowdedCalls_used_twice {count : Nat} (hcount : count = 4096) :
    (∀ call ∈ crowdedCalls count, call.request.operation ≠ .purge) ∧
      (crowdedCalls count).Pairwise
        (fun earlier later => earlier.setting.now ≤ later.setting.now) ∧
      OneExpiry (crowdedCalls count) ∧ ¬(usedNonces Helper.initial (crowdedCalls count)).Nodup := by
  refine ⟨?_, ?_, ?_, ?_⟩
  · intro call hcall
    obtain ⟨i, -, rfl⟩ := List.mem_map.mp hcall
    exact fun hop => nomatch hop
  · exact List.pairwise_map.mpr (List.pairwise_of_forall fun _ _ => le_rfl)
  · refine oneExpiry_rehearsals fun i hi => ?_
    rcases List.mem_append.mp hi with hmem | hmem
    · rw [List.mem_range] at hmem
      omega
    · rw [List.mem_singleton.mp hmem]
      decide
  · intro hnodup
    rw [usedNonces, crowdedCalls, List.map_append, trace_append, List.nodup_append] at hnodup
    refine hnodup.2.2 (numberedNonce 0) ?_ (numberedNonce 0) ?_ rfl
    · -- The first dry run of the run.
      have hfirst : usedNonce Helper.initial (quietCall (rehearsal 0)) = [numberedNonce 0] :=
        (step_rehearsal rfl (Nat.zero_le _) rfl).2
      rw [List.range_succ_eq_map, List.map_cons, trace_cons, List.mem_append]
      left
      show numberedNonce 0 ∈ usedNonce Helper.initial (quietCall (rehearsal 0))
      rw [hfirst]
      exact List.mem_singleton_self _
    · -- Its replay, after its nonce was dropped.
      rw [List.map_singleton, trace_cons, List.mem_append]
      left
      have hreplay := usedNonce_after_crowd hcount
      show numberedNonce 0 ∈ usedNonce (run Helper.step Helper.initial _) _
      rw [hreplay]
      exact List.mem_singleton_self _

/-- With 4097 valid nonces, the first authorization is accepted again while it is valid. -/
theorem crowded_nonce_used_twice :
    (∀ call ∈ crowdedCalls 4096, call.request.operation ≠ .purge) ∧
      (crowdedCalls 4096).Pairwise
        (fun earlier later => earlier.setting.now ≤ later.setting.now) ∧
      OneExpiry (crowdedCalls 4096) ∧ ¬(usedNonces Helper.initial (crowdedCalls 4096)).Nodup :=
  crowdedCalls_used_twice rfl

/-- A policy is applied and removed, and the first request is replayed. -/
def replayedCalls : List Call :=
  [quietCall (portRequest .apply firstPolicyID "443" "task-1"),
   quietCall (portRequest .remove firstPolicyID "443" "task-2"),
   quietCall (portRequest .apply firstPolicyID "443" "task-1")]

theorem authorization_used_once_replayed :
    (usedNonces Helper.initial replayedCalls).Nodup := by
  have hexpiry : ∀ call ∈ replayedCalls,
      call.request.authorization.map (·.expiresAt) = some 1000 := by
    decide +kernel
  have hroom : Meets Helper.step (fun h call => (h.liveNonces call.setting.now).size < 4096)
      Helper.initial replayedCalls := by
    decide +kernel
  refine authorization_used_once _ _ (by decide +kernel) (by decide +kernel) ?_
    (hroom.mono (Q := HasRoom) fun _ _ hsize _ => hsize)
  intro call hcall call' hcall' auth auth' hsigned hsigned' _
  have hfirst := hexpiry call hcall
  have hsecond := hexpiry call' hcall'
  rw [hsigned.1] at hfirst
  rw [hsigned'.1] at hsecond
  exact (Option.some.inj hfirst).trans (Option.some.inj hsecond).symm

end VpsGuardian.NetHelper
