import VpsGuardian.Monitoring.ServiceChecks

/-!
The interval between the results of a check.

A pass tests the interval before it probes. A heartbeat records whatever the
Agent reports, and an Agent runs all its checks before each heartbeat, so the
interval is kept exactly as long as the heartbeats keep it.
-/

namespace VpsGuardian.Monitoring.ServiceChecks

open Lib
open Controller (Time seconds)
open Redaction (Platform asciiPlatform)

variable (platform : Platform) (configurationError : Json.Value → Option String)

/-- No pass is under way, and no Agent has been told anything yet. -/
structure Initial (s : State) : Prop where
  ids : (s.checks.map (·.id)).Nodup
  pass : s.pass = none
  pending : ∀ agentID, s.pending agentID = []

/-- The check is there, enabled and with its interval. -/
def Stays (c : String) (i : Nat) (s : State) : Prop :=
  ∃ check ∈ s.checks, check.id = c ∧ check.enabled = true ∧ check.intervalSeconds = i

/-- Whenever a heartbeat records a result, the test of the pass holds for the row. -/
def Timely (s : State) : Input → Prop
  | .heartbeat agentID now services outcomes _ =>
      ∀ result ∈ (recordAgentCheckResults platform s.checks agentID
        (s.services agentID services outcomes) now).2,
        ∀ check ∈ s.checks, check.id = result.checkID → check.due now = true
  | _ => True

/-- Two results of the check are an interval apart. -/
def Spaced (c : String) (i : Nat) (first second : ServiceCheckResult) : Prop :=
  first.checkID = c → second.checkID = c → first.checkedAt + seconds i ≤ second.checkedAt

/-! ### Writing results to the rows -/

/-- A row after some results. -/
def ServiceCheck.after (check : ServiceCheck) (results : List ServiceCheckResult) : ServiceCheck :=
  results.foldl (fun check result => if check.id = result.checkID
    then { check with lastCheckedAt := some result.checkedAt } else check) check

theorem foldl_persist (checks : List ServiceCheck) (results : List ServiceCheckResult) :
    results.foldl persist checks = checks.map (·.after results) := by
  induction results generalizing checks with
  | nil => simp [ServiceCheck.after]
  | cons result results ih =>
    rw [List.foldl_cons, ih, persist, List.map_map]
    rfl

namespace ServiceCheck

variable (check : ServiceCheck) (results : List ServiceCheckResult)

theorem after_same : (check.after results).id = check.id ∧
    (check.after results).runnerAgentID = check.runnerAgentID := by
  induction results generalizing check with
  | nil => exact ⟨rfl, rfl⟩
  | cons result results ih =>
    rw [after, List.foldl_cons]
    split
    · exact ih _
    · exact ih _

@[simp] theorem after_id : (check.after results).id = check.id := (check.after_same results).1

@[simp] theorem after_runnerAgentID :
    (check.after results).runnerAgentID = check.runnerAgentID := (check.after_same results).2

variable {check results}

theorem after_of_not_mem (h : check.id ∉ results.map (·.checkID)) :
    check.after results = check := by
  induction results with
  | nil => rfl
  | cons result results ih =>
    rw [List.map_cons, List.mem_cons, not_or] at h
    rw [after, List.foldl_cons, if_neg h.1]
    exact ih h.2

theorem lastCheckedAt_after (hdistinct : (results.map (·.checkID)).Nodup)
    {result : ServiceCheckResult} (hmem : result ∈ results) (hid : check.id = result.checkID) :
    (check.after results).lastCheckedAt = some result.checkedAt := by
  induction results generalizing check with
  | nil => cases hmem
  | cons first results ih =>
    rw [List.map_cons, List.nodup_cons] at hdistinct
    rw [after, List.foldl_cons]
    obtain rfl | hmem := List.mem_cons.mp hmem
    · rw [if_pos hid]
      have hsame : ({ check with lastCheckedAt := some result.checkedAt } : ServiceCheck).after
          results = { check with lastCheckedAt := some result.checkedAt } :=
        after_of_not_mem (by simpa [hid] using hdistinct.1)
      exact congrArg lastCheckedAt hsame
    · have hne : check.id ≠ first.checkID := by
        intro heq
        exact hdistinct.1 (heq ▸ hid ▸ List.mem_map_of_mem hmem)
      rw [if_neg hne]
      exact ih hdistinct.2 hmem hid

end ServiceCheck

/-! ### What a heartbeat records -/

section

variable {platform} {checks : List ServiceCheck} {agentID : String} {now : Time}

theorem itemResult_eq_some {item : ServiceItem} {result : ServiceCheckResult}
    (h : itemResult platform checks agentID now item = some result) :
    item.kind = "guardian_check_result" ∧ result.checkID = item.checkID ∧ result.checkedAt = now ∧
      ∃ check ∈ checks, check.id = result.checkID ∧ check.runnerAgentID = some agentID := by
  unfold itemResult at h
  split at h
  · cases h
  next hkind =>
    obtain ⟨check, hfind, rfl⟩ := Option.map_eq_some_iff.mp h
    have hcheck := List.find?_some hfind
    simp only [Bool.and_eq_true, beq_iff_eq] at hcheck
    obtain ⟨⟨hid, hrunner⟩, -⟩ := hcheck
    exact ⟨not_not.mp hkind, hid, rfl, check, List.mem_of_find?_eq_some hfind, rfl, hrunner⟩

/-- A result changes nothing that decides about the other items. -/
theorem itemResult_persist (result : ServiceCheckResult) (item : ServiceItem) :
    itemResult platform (persist checks result) agentID now item =
      itemResult platform checks agentID now item := by
  unfold itemResult
  split
  · rfl
  · rw [persist, List.find?_map, Option.map_map]
    have hsame : (fun check : ServiceCheck => check.id == item.checkID &&
        check.runnerAgentID == some agentID && check.enabled) ∘ (fun check =>
          if check.id = result.checkID then { check with lastCheckedAt := some result.checkedAt }
          else check) = fun check => check.id == item.checkID &&
            check.runnerAgentID == some agentID && check.enabled := by
      funext check
      dsimp only [Function.comp_apply]
      split <;> rfl
    rw [hsame]
    apply Option.map_congr
    intro check _
    dsimp only [Function.comp_apply]
    split <;> rfl

theorem recordAgentCheckResults_eq (services : List ServiceItem) :
    recordAgentCheckResults platform checks agentID services now =
      let results := (services.take 500).filterMap (itemResult platform checks agentID now)
      (checks.map (·.after results), results) := by
  have hfold : recordAgentCheckResults platform checks agentID services now =
      (services.take 500).foldl (fun acc item => (itemResult platform acc.1 agentID now item).elim
        acc fun result => (persist acc.1 result, acc.2 ++ [result])) (checks, []) := by
    unfold recordAgentCheckResults
    congr 1
    funext acc item
    cases itemResult platform acc.1 agentID now item <;> rfl
  dsimp only
  rw [hfold, ← foldl_persist]
  generalize services.take 500 = items
  suffices hall : ∀ results : List ServiceCheckResult,
      items.foldl (fun acc item => (itemResult platform acc.1 agentID now item).elim acc
          fun result => (persist acc.1 result, acc.2 ++ [result]))
          (results.foldl persist checks, results) =
        ((results ++ items.filterMap (itemResult platform checks agentID now)).foldl persist checks,
          results ++ items.filterMap (itemResult platform checks agentID now)) by
    exact hall []
  induction items with
  | nil => simp
  | cons item items ih =>
    intro results
    have hitem : itemResult platform (results.foldl persist checks) agentID now item =
        itemResult platform checks agentID now item := by
      induction results using List.reverseRecOn with
      | nil => rfl
      | append_singleton results result ih =>
        rw [List.foldl_append, List.foldl_cons, List.foldl_nil, itemResult_persist, ih]
    rw [List.foldl_cons]
    dsimp only
    rw [hitem, List.filterMap_cons]
    cases itemResult platform checks agentID now item with
    | none => exact ih results
    | some result =>
      have hnext := ih (results ++ [result])
      rw [List.foldl_append] at hnext
      simpa using hnext

theorem sublist_results (items : List ServiceItem) :
    List.Sublist ((items.filterMap (itemResult platform checks agentID now)).map (·.checkID))
      (items.map (·.checkID)) := by
  induction items with
  | nil => exact List.Sublist.slnil
  | cons item items ih =>
    rw [List.filterMap_cons]
    cases hitem : itemResult platform checks agentID now item with
    | none => exact ih.cons _
    | some result =>
      rw [List.map_cons, List.map_cons, (itemResult_eq_some hitem).2.1]
      exact ih.cons_cons _

@[simp] theorem checkID_runRemoteCheck (outcomes : RemoteCheck → Outcome) (check : RemoteCheck) :
    (runRemoteCheck outcomes check).checkID = check.id := by
  unfold runRemoteCheck
  split <;> rfl

/-- An Agent reports each check once. -/
theorem distinct_results {s : State} {agentID : String} {now : Time}
    (hpending : ((s.pending agentID).map (·.id)).Nodup) (services : List LocalService)
    (outcomes : RemoteCheck → Outcome) :
    ((recordAgentCheckResults platform s.checks agentID (s.services agentID services outcomes)
      now).2.map (·.checkID)).Nodup := by
  rw [recordAgentCheckResults_eq]
  dsimp only
  have hlocal : (services.map (·.item)).filterMap (itemResult platform s.checks agentID now) =
      [] := by
    rw [List.filterMap_eq_nil_iff]
    intro item hitem
    obtain ⟨service, -, rfl⟩ := List.mem_map.mp hitem
    cases hresult : itemResult platform s.checks agentID now service.item with
    | none => rfl
    | some result => exact absurd (itemResult_eq_some hresult).1 service.kind_ne
  have hall : (s.services agentID services outcomes).filterMap
      (itemResult platform s.checks agentID now) =
      (runRemoteChecks outcomes (s.pending agentID)).filterMap
        (itemResult platform s.checks agentID now) := by
    rw [State.services, List.filterMap_append, hlocal, List.nil_append]
  have hremote : (runRemoteChecks outcomes (s.pending agentID)).map (·.checkID) =
      ((s.pending agentID).take 100).map (·.id) := by
    simp [runRemoteChecks, Function.comp_def]
  have htake := ((List.take_sublist 500 (s.services agentID services outcomes)).filterMap
    (itemResult platform s.checks agentID now)).map (·.checkID)
  rw [hall] at htake
  have hsub := htake.trans (sublist_results _)
  rw [hremote] at hsub
  exact (hpending.sublist ((List.take_sublist 100 _).map _)).sublist hsub

end

/-! ### What every state has -/

/-- What a pass has read is still so, and its results are an interval after the last ones. -/
structure Loaded (c : String) (i : Nat) (checks : List ServiceCheck) (pass : Pass) : Prop where
  ids : pass.ids.Nodup
  waiting : ∀ copy ∈ pass.waiting, ∀ check ∈ checks, check.id = copy.id →
    check.runnerAgentID = none ∧ check.lastCheckedAt = copy.lastCheckedAt
  interval : ∀ copy ∈ pass.waiting, copy.id = c → copy.intervalSeconds = i
  records : ∀ result ∈ pass.records, ∀ check ∈ checks, check.id = result.checkID →
    check.runnerAgentID = none ∧
      (check.id = c → ∀ last ∈ check.lastCheckedAt, last + seconds i ≤ result.checkedAt)

structure Consistent (c : String) (i : Nat) (s : State) : Prop where
  ids : (s.checks.map (·.id)).Nodup
  pending : ∀ agentID, ((s.pending agentID).map (·.id)).Nodup
  pass : ∀ pass ∈ s.pass, Loaded c i s.checks pass

/-- Rows that are new, or that keep what a pass relies on. -/
theorem Loaded.mono {c : String} {i : Nat} {checks checks' : List ServiceCheck} {pass : Pass}
    (h : Loaded c i checks pass)
    (hrows : ∀ check ∈ checks', check.id ∉ pass.ids ∨ ∃ old ∈ checks, old.id = check.id ∧
      (old.runnerAgentID = none →
        check.runnerAgentID = none ∧ check.lastCheckedAt = old.lastCheckedAt)) :
    Loaded c i checks' pass where
  ids := h.ids
  interval := h.interval
  waiting := by
    intro copy hcopy check hcheck hid
    obtain hnew | ⟨old, hold, holdid, hkept⟩ := hrows check hcheck
    · exact absurd (List.mem_append_left _ (List.mem_map.mpr ⟨copy, hcopy, hid.symm⟩)) hnew
    · obtain ⟨hrunner, hlast⟩ := h.waiting copy hcopy old hold (holdid.trans hid)
      exact ⟨(hkept hrunner).1, (hkept hrunner).2.trans hlast⟩
  records := by
    intro result hresult check hcheck hid
    obtain hnew | ⟨old, hold, holdid, hkept⟩ := hrows check hcheck
    · exact absurd (List.mem_append_right _ (List.mem_map.mpr ⟨result, hresult, hid.symm⟩)) hnew
    · obtain ⟨hrunner, hspaced⟩ := h.records result hresult old hold (holdid.trans hid)
      rw [holdid] at hspaced
      rw [(hkept hrunner).2]
      exact ⟨(hkept hrunner).1, hspaced⟩

/-- The row of an id is one. -/
theorem eq_of_id {checks : List ServiceCheck} (h : (checks.map (·.id)).Nodup)
    {check other : ServiceCheck} (hcheck : check ∈ checks) (hother : other ∈ checks)
    (hid : check.id = other.id) : check = other :=
  List.inj_on_of_nodup_map h hcheck hother hid

theorem nodup_assignedAgentChecks {checks : List ServiceCheck} (h : (checks.map (·.id)).Nodup)
    (agentID : String) : ((assignedAgentChecks checks agentID).map (·.id)).Nodup := by
  unfold assignedAgentChecks
  rw [List.map_map]
  exact h.sublist (List.filter_sublist.map ServiceCheck.id)

section

variable {platform configurationError} {c : String} {i : Nat} {s : State}

theorem Initial.consistent (h : Initial s) : Consistent c i s where
  ids := h.ids
  pending := fun agentID => by simp [h.pending agentID]
  pass := by simp [h.pass]

theorem consistent_beginPass (h : Consistent c i s) (hstays : Stays c i s) (now : Time) :
    Consistent c i (s.beginPass now) := by
  unfold State.beginPass
  split
  · exact h
  refine ⟨h.ids, h.pending, ?_⟩
  intro pass hpass
  obtain rfl := Option.some.inj hpass
  have hrow {copy : ServiceCheck} (hcopy : copy ∈ s.checks.filter fun check =>
      check.enabled && check.runnerAgentID == none) :
      copy ∈ s.checks ∧ copy.runnerAgentID = none := by
    obtain ⟨hmem, hcopy⟩ := List.mem_filter.mp hcopy
    simp only [Bool.and_eq_true, beq_iff_eq] at hcopy
    exact ⟨hmem, hcopy.2⟩
  refine ⟨?_, ?_, ?_, nofun⟩
  · simpa [Pass.ids] using h.ids.sublist (List.filter_sublist.map ServiceCheck.id)
  · intro copy hcopy check hcheck hid
    obtain rfl := eq_of_id h.ids hcheck (hrow hcopy).1 hid
    exact ⟨(hrow hcopy).2, rfl⟩
  · intro copy hcopy hid
    obtain ⟨check, hcheck, hc, -, hinterval⟩ := hstays
    obtain rfl := eq_of_id h.ids hcheck (hrow hcopy).1 (hc.trans hid.symm)
    exact hinterval

theorem le_checkedAt_probe (now : Time) (check : ServiceCheck) (elapsed : Nat)
    (probed : ProbeResult) : now ≤ (probe configurationError now check
      { probed with checkedAt := now + elapsed }).checkedAt := by
  unfold probe
  split
  · exact le_refl now
  · exact le_add_of_nonneg_right (Int.natCast_nonneg elapsed)

theorem consistent_probeNext (h : Consistent c i s) (elapsed : Nat) (probed : ProbeResult) :
    Consistent c i (s.probeNext platform configurationError elapsed probed) := by
  unfold State.probeNext
  split
  · exact h
  · exact h
  next now check waiting records hpass =>
    have hloaded := h.pass _ hpass
    have hids : (check.id :: (waiting.map (·.id) ++ records.map (·.checkID))).Nodup := hloaded.ids
    split
    · refine ⟨h.ids, h.pending, fun pass hnew => ?_⟩
      obtain rfl := Option.some.inj hnew
      exact ⟨hids.of_cons, fun copy hcopy => hloaded.waiting copy (List.mem_cons_of_mem _ hcopy),
        fun copy hcopy => hloaded.interval copy (List.mem_cons_of_mem _ hcopy), hloaded.records⟩
    next hdue =>
      split
      · exact ⟨h.ids, h.pending, nofun⟩
      · refine ⟨h.ids, h.pending, fun pass hnew => ?_⟩
        obtain rfl := Option.some.inj hnew
        refine ⟨?_, fun copy hcopy => hloaded.waiting copy (List.mem_cons_of_mem _ hcopy),
          fun copy hcopy => hloaded.interval copy (List.mem_cons_of_mem _ hcopy), ?_⟩
        · have hperm := (List.perm_append_singleton check.id
            (waiting.map (·.id) ++ records.map (·.checkID))).symm
          simpa [Pass.ids, checkResult] using hperm.nodup_iff.mp hids
        · intro result hresult row hrow hid
          obtain hresult | hresult := List.mem_append.mp hresult
          · exact hloaded.records result hresult row hrow hid
          obtain rfl := List.mem_singleton.mp hresult
          obtain ⟨hrunner, hlast⟩ := hloaded.waiting check List.mem_cons_self row hrow hid
          refine ⟨hrunner, fun hc last hmem => ?_⟩
          have hinterval := hloaded.interval check List.mem_cons_self (hid.symm.trans hc)
          have hpassed : last + seconds i ≤ now := by
            rw [hlast] at hmem
            simpa [ServiceCheck.due, Option.mem_def.mp hmem, hinterval] using hdue
          exact hpassed.trans (le_checkedAt_probe now check elapsed probed)

/-- The rows that a heartbeat writes have an Agent, so no pass has read them. -/
theorem consistent_heartbeat (h : Consistent c i s) (agentID : String) (now : Time)
    (services : List LocalService) (outcomes : RemoteCheck → Outcome) (answered : Bool) :
    Consistent c i (s.heartbeat platform agentID now services outcomes answered).1 := by
  unfold State.heartbeat
  rw [recordAgentCheckResults_eq]
  generalize hresults : ((s.services agentID services outcomes).take 500).filterMap
    (itemResult platform s.checks agentID now) = results
  dsimp only
  have hids : ((s.checks.map (·.after results)).map (·.id)).Nodup := by
    simpa [Function.comp_def] using h.ids
  have hrunner {check : ServiceCheck} (hcheck : check ∈ s.checks)
      (hmem : check.id ∈ results.map (·.checkID)) : check.runnerAgentID = some agentID := by
    obtain ⟨result, hresult, hid⟩ := List.mem_map.mp hmem
    rw [← hresults] at hresult
    obtain ⟨item, -, hitem⟩ := List.mem_filterMap.mp hresult
    obtain ⟨-, -, -, row, hrow, hrowid, hrunner⟩ := itemResult_eq_some hitem
    rwa [eq_of_id h.ids hcheck hrow (hid.symm.trans hrowid.symm)]
  refine ⟨hids, ?_, ?_⟩
  · intro other
    cases answered with
    | false => exact h.pending other
    | true =>
      by_cases hother : other = agentID
      · subst hother
        simpa using nodup_assignedAgentChecks hids other
      · simpa [Function.update_of_ne hother] using h.pending other
  · intro pass hpass
    refine (h.pass pass hpass).mono fun check hcheck => .inr ?_
    obtain ⟨old, hold, rfl⟩ := List.mem_map.mp hcheck
    refine ⟨old, hold, by simp, fun hnone => ?_⟩
    rw [ServiceCheck.after_of_not_mem]
    · exact ⟨hnone, rfl⟩
    · intro hmem
      rw [hrunner hold hmem] at hnone
      cases hnone

theorem consistent_commitPass (h : Consistent c i s) : Consistent c i s.commitPass.1 := by
  unfold State.commitPass
  split
  next now records hpass =>
    dsimp only
    rw [foldl_persist]
    exact ⟨by simpa [Function.comp_def] using h.ids, h.pending, nofun⟩
  · exact h

/-- Changes of rows that leave their ids, their results and a runner that is null. -/
theorem consistent_map (h : Consistent c i s) {f : ServiceCheck → ServiceCheck}
    (hf : ∀ check, (f check).id = check.id ∧ (check.runnerAgentID = none →
      (f check).runnerAgentID = none ∧ (f check).lastCheckedAt = check.lastCheckedAt)) :
    Consistent c i { s with checks := s.checks.map f } where
  ids := by
    have hsame : (s.checks.map f).map (·.id) = s.checks.map (·.id) := by
      rw [List.map_map]
      exact List.map_congr_left fun check _ => (hf check).1
    rw [hsame]
    exact h.ids
  pending := h.pending
  pass := by
    intro pass hpass
    refine (h.pass pass hpass).mono fun check hcheck => .inr ?_
    obtain ⟨old, hold, rfl⟩ := List.mem_map.mp hcheck
    exact ⟨old, hold, (hf old).1.symm, (hf old).2⟩

theorem consistent_createServiceCheck (h : Consistent c i s) (check : ServiceCheck) :
    Consistent c i (s.createServiceCheck check) := by
  unfold State.createServiceCheck
  split
  · exact h
  next hnew =>
    rw [List.mem_append, not_or] at hnew
    refine ⟨?_, h.pending, fun pass hpass => (h.pass pass hpass).mono fun row hrow => ?_⟩
    · rw [List.map_append, List.nodup_append]
      refine ⟨h.ids, List.nodup_singleton _, ?_⟩
      rintro id hid other hother rfl
      obtain rfl := List.mem_singleton.mp hother
      exact hnew.1 hid
    · obtain hrow | hrow := List.mem_append.mp hrow
      · exact .inr ⟨row, hrow, rfl, fun hrunner => ⟨hrunner, rfl⟩⟩
      · obtain rfl := List.mem_singleton.mp hrow
        have hout := hnew.2
        rw [Option.mem_def.mp hpass] at hout
        exact .inl hout

theorem consistent_deleteServiceCheck (h : Consistent c i s) (id : String) :
    Consistent c i (s.deleteServiceCheck id) := by
  unfold State.deleteServiceCheck
  split
  · exact h
  · refine ⟨h.ids.sublist (List.filter_sublist.map ServiceCheck.id), h.pending, ?_⟩
    exact fun pass hpass => (h.pass pass hpass).mono fun row hrow =>
      .inr ⟨row, (List.mem_filter.mp hrow).1, rfl, fun hrunner => ⟨hrunner, rfl⟩⟩

/-- Every step keeps what every state has, as long as the check stays. -/
theorem consistent_step (h : Consistent c i s) (hstays : Stays c i s) (input : Input) :
    Consistent c i (step platform configurationError s input).1 := by
  cases input with
  | beginPass now => exact consistent_beginPass h hstays now
  | probeNext elapsed probed => exact consistent_probeNext h elapsed probed
  | commitPass => exact consistent_commitPass h
  | abortPass => exact ⟨h.ids, h.pending, nofun⟩
  | heartbeat agentID now services outcomes answered =>
    exact consistent_heartbeat h agentID now services outcomes answered
  | restartAgent agentID =>
    refine ⟨h.ids, fun other => ?_, h.pass⟩
    by_cases hother : other = agentID
    · subst hother
      simp [step]
    · simpa [step, Function.update_of_ne hother] using h.pending other
  | deleteAgent agentID =>
    refine consistent_map h fun check => ?_
    split
    next hrunner => exact ⟨rfl, fun hnone => absurd (hrunner.symm.trans hnone) (by simp)⟩
    · exact ⟨rfl, fun hnone => ⟨hnone, rfl⟩⟩
  | createServiceCheck check => exact consistent_createServiceCheck h check
  | updateServiceCheck id enabled intervalSeconds =>
    simp only [step, State.updateServiceCheck]
    split
    · exact h
    · refine consistent_map h fun check => ?_
      split
      · exact ⟨rfl, fun hnone => ⟨hnone, rfl⟩⟩
      · exact ⟨rfl, fun hnone => ⟨hnone, rfl⟩⟩
  | deleteServiceCheck id => exact consistent_deleteServiceCheck h id

end

/-! ### What a step does to the last result of a check -/

/-- The results of a step are of different checks, those of the check at hand are an interval
after the last one, and each of them becomes the last one. -/
structure Records (c : String) (i : Nat) (s : State) (results : List ServiceCheckResult)
    (s' : State) : Prop where
  distinct : (results.map (·.checkID)).Nodup
  spaced : ∀ result ∈ results, result.checkID = c → ∀ check ∈ s.checks, check.id = c →
    ∀ last ∈ check.lastCheckedAt, last + seconds i ≤ result.checkedAt
  rows : ∀ check ∈ s'.checks, check.id = c → ∃ old ∈ s.checks, old.id = c ∧
    (c ∉ results.map (·.checkID) → check.lastCheckedAt = old.lastCheckedAt) ∧
    ∀ result ∈ results, result.checkID = c → check.lastCheckedAt = some result.checkedAt

/-- A step that records nothing and keeps the last results. -/
theorem Records.nothing {c : String} {i : Nat} {s s' : State}
    (h : ∀ check ∈ s'.checks, check.id = c → ∃ old ∈ s.checks, old.id = c ∧
      check.lastCheckedAt = old.lastCheckedAt) : Records c i s [] s' where
  distinct := List.nodup_nil
  spaced := nofun
  rows := by
    intro check hcheck hid
    obtain ⟨old, hold, holdid, hlast⟩ := h check hcheck hid
    exact ⟨old, hold, holdid, fun _ => hlast, nofun⟩

theorem records_after {c : String} {i : Nat} {s s' : State} {results : List ServiceCheckResult}
    (hdistinct : (results.map (·.checkID)).Nodup)
    (hspaced : ∀ result ∈ results, result.checkID = c → ∀ check ∈ s.checks, check.id = c →
      ∀ last ∈ check.lastCheckedAt, last + seconds i ≤ result.checkedAt)
    (hchecks : s'.checks = s.checks.map (·.after results)) : Records c i s results s' where
  distinct := hdistinct
  spaced := hspaced
  rows := by
    intro check hcheck hid
    rw [hchecks] at hcheck
    obtain ⟨old, hold, rfl⟩ := List.mem_map.mp hcheck
    rw [ServiceCheck.after_id] at hid
    refine ⟨old, hold, hid, fun hout => ?_, fun result hresult hc => ?_⟩
    · rw [ServiceCheck.after_of_not_mem (hid ▸ hout)]
    · exact ServiceCheck.lastCheckedAt_after hdistinct hresult (hid.trans hc.symm)

section

variable {platform configurationError} {c : String} {i : Nat} {s : State}

theorem records_commitPass (h : Consistent c i s) :
    Records c i s s.commitPass.2 s.commitPass.1 := by
  unfold State.commitPass
  split
  next now records hpass =>
    have hloaded := h.pass _ hpass
    refine records_after hloaded.ids ?_ (foldl_persist _ _)
    intro result hresult hc check hcheck hid last hlast
    exact (hloaded.records result hresult check hcheck (hid.trans hc.symm)).2 hid last hlast
  · exact Records.nothing fun check hcheck hid => ⟨check, hcheck, hid, rfl⟩

theorem records_heartbeat (h : Consistent c i s) (hstays : Stays c i s) {agentID : String}
    {now : Time} {services : List LocalService} {outcomes : RemoteCheck → Outcome}
    {answered : Bool}
    (htimely : Timely platform s (.heartbeat agentID now services outcomes answered)) :
    Records c i s (s.heartbeat platform agentID now services outcomes answered).2
      (s.heartbeat platform agentID now services outcomes answered).1 := by
  refine records_after (distinct_results (h.pending agentID) services outcomes) ?_ ?_
  · intro result hresult hc check hcheck hid last hlast
    have hdue := htimely result hresult check hcheck (hid.trans hc.symm)
    obtain ⟨row, hrow, hrowid, -, hinterval⟩ := hstays
    obtain rfl := eq_of_id h.ids hcheck hrow (hid.trans hrowid.symm)
    have hchecked : result.checkedAt = now := by
      unfold State.heartbeat at hresult
      rw [recordAgentCheckResults_eq] at hresult
      obtain ⟨item, -, hitem⟩ := List.mem_filterMap.mp hresult
      exact (itemResult_eq_some hitem).2.2.1
    rw [hchecked]
    simpa [ServiceCheck.due, Option.mem_def.mp hlast, hinterval] using hdue
  · unfold State.heartbeat
    rw [recordAgentCheckResults_eq]

theorem records_map {f : ServiceCheck → ServiceCheck}
    (hf : ∀ check, (f check).id = check.id ∧ (f check).lastCheckedAt = check.lastCheckedAt) :
    Records c i s [] { s with checks := s.checks.map f } := by
  refine Records.nothing fun check hcheck hid => ?_
  obtain ⟨old, hold, rfl⟩ := List.mem_map.mp hcheck
  exact ⟨old, hold, (hf old).1.symm.trans hid, (hf old).2⟩

theorem records_step (h : Consistent c i s) (hstays : Stays c i s) {input : Input}
    (htimely : Timely platform s input) :
    Records c i s (step platform configurationError s input).2
      (step platform configurationError s input).1 := by
  have hsame {s' : State} (hchecks : s'.checks = s.checks) : Records c i s [] s' :=
    Records.nothing fun check hcheck hid => ⟨check, hchecks ▸ hcheck, hid, rfl⟩
  cases input with
  | beginPass now =>
    apply hsame
    simp only [step, State.beginPass]
    split <;> rfl
  | probeNext elapsed probed =>
    apply hsame
    simp only [step, State.probeNext]
    repeat' split
    all_goals rfl
  | commitPass => exact records_commitPass h
  | abortPass => exact hsame rfl
  | heartbeat agentID now services outcomes answered => exact records_heartbeat h hstays htimely
  | restartAgent agentID => exact hsame rfl
  | deleteAgent agentID =>
    refine records_map fun check => ?_
    split <;> exact ⟨rfl, rfl⟩
  | createServiceCheck check =>
    simp only [step, State.createServiceCheck]
    split
    · exact hsame rfl
    next hnew =>
      -- the check at hand is there already, so the new one is another
      refine Records.nothing fun row hrow hid => ?_
      obtain hrow | hrow := List.mem_append.mp hrow
      · exact ⟨row, hrow, hid, rfl⟩
      · obtain rfl := List.mem_singleton.mp hrow
        obtain ⟨old, hold, hc, -⟩ := hstays
        exact absurd (List.mem_append_left _ (List.mem_map.mpr ⟨old, hold, hc.trans hid.symm⟩)) hnew
  | updateServiceCheck id enabled intervalSeconds =>
    simp only [step, State.updateServiceCheck]
    split
    · exact hsame rfl
    · refine records_map fun check => ?_
      split <;> exact ⟨rfl, rfl⟩
  | deleteServiceCheck id =>
    simp only [step, State.deleteServiceCheck]
    split
    · exact hsame rfl
    · exact Records.nothing fun row hrow hid => ⟨row, (List.mem_filter.mp hrow).1, hid, rfl⟩

end

/-! ### Runs -/

/-- The last result of the check is not before a recorded one. -/
def Kept (c : String) (result : ServiceCheckResult) (s : State) : Prop :=
  result.checkID = c → ∀ check ∈ s.checks, check.id = c →
    ∃ last ∈ check.lastCheckedAt, result.checkedAt ≤ last

/-- In every run in which the check stays enabled with its interval, and every heartbeat that
records a result of a check comes an interval after its last result, the results of the check,
the Controller's and the Agents', are an interval apart. -/
theorem results_spaced {c : String} {i : Nat} {s : State} (hs : Initial s) {inputs : List Input}
    (h : Meets (next (step platform configurationError))
      (fun s input => Stays c i s ∧ Timely platform s input) s inputs) :
    (trace (step platform configurationError) s inputs).Pairwise (Spaced c i) := by
  have hrecords := Meets.of_invariant (I := Consistent c i)
    (Q := fun s input => Records c i s (step platform configurationError s input).2
      (step platform configurationError s input).1 ∧ Stays c i s)
    (fun s input hinput hI => ⟨consistent_step hI hinput.1 input,
      records_step hI hinput.1 hinput.2, hinput.1⟩) hs.consistent h
  refine Meets.trace_pairwise (K := Kept c) ?_ ?_ ?_ ?_ hrecords
  · -- two results of one step are of two checks
    rintro s input ⟨hstep, -⟩
    exact (List.pairwise_map.mp hstep.distinct).imp fun hne hfirst hsecond =>
      absurd (hfirst.trans hsecond.symm) hne
  · rintro s input ⟨hstep, -⟩ result hresult hc check hcheck hid
    obtain ⟨-, -, -, -, hmade⟩ := hstep.rows check hcheck hid
    exact ⟨_, hmade result hresult hc, le_refl _⟩
  · rintro s input result ⟨hstep, -⟩ hkept hc check hcheck hid
    obtain ⟨old, hold, holdid, hsame, hmade⟩ := hstep.rows check hcheck hid
    obtain ⟨last, hlast, hle⟩ := hkept hc old hold holdid
    by_cases hmem : c ∈ (step platform configurationError s input).2.map (·.checkID)
    · obtain ⟨new, hnew, hnewid⟩ := List.mem_map.mp hmem
      refine ⟨_, hmade new hnew hnewid, hle.trans ?_⟩
      have hspaced := hstep.spaced new hnew hnewid old hold holdid last hlast
      have hnonneg : 0 ≤ seconds i := Int.mul_nonneg (by decide) (Int.natCast_nonneg i)
      exact (le_add_of_nonneg_right hnonneg).trans hspaced
    · exact ⟨last, by rw [hsame hmem]; exact hlast, hle⟩
  · rintro s input result ⟨hstep, check, hcheck, hid, -⟩ hkept new hnew hc hnewid
    obtain ⟨last, hlast, hle⟩ := hkept hc check hcheck hid
    have hspaced := hstep.spaced new hnew hnewid check hcheck hid last hlast
    exact (Int.add_le_add_right hle _).trans hspaced

/-! ### An Agent that reports every half minute -/

instance decidableStays (c : String) (i : Nat) (s : State) : Decidable (Stays c i s) :=
  inferInstanceAs (Decidable (∃ check ∈ s.checks, _))

instance decidableSpaced (c : String) (i : Nat) (first second : ServiceCheckResult) :
    Decidable (Spaced c i first second) :=
  inferInstanceAs (Decidable (_ → _ → _))

instance decidableTimely (s : State) : ∀ input, Decidable (Timely platform s input)
  | .heartbeat agentID now services outcomes _ => inferInstanceAs (Decidable
      (∀ result ∈ (recordAgentCheckResults platform s.checks agentID
        (s.services agentID services outcomes) now).2, ∀ check ∈ s.checks, _ → _))
  | .beginPass _ | .probeNext _ _ | .commitPass | .abortPass | .restartAgent _ | .deleteAgent _
  | .createServiceCheck _ | .updateServiceCheck _ _ _ | .deleteServiceCheck _ => isTrue trivial

/-- A check that an Agent is to run every minute. -/
def start : State where
  checks := [⟨"c1", "tcp", true, some "a1", .object [], 60, 5, none⟩]
  pass := none
  pending := fun _ => []

theorem initial_start : Initial start := ⟨by decide, rfl, fun _ => rfl⟩

def reachable : RemoteCheck → Outcome := fun _ => ⟨none, none, zero⟩

/-- Heartbeats of the Agent, the first of which tells it about the check. -/
def heartbeats (times : List Int) : List Input :=
  times.map fun t => .heartbeat "a1" (seconds t) [] reachable true

theorem results_spaced_minute : (trace (step asciiPlatform fun _ => none) start
    (heartbeats [0, 60, 120])).Pairwise (Spaced "c1" 60) :=
  results_spaced asciiPlatform _ initial_start (by decide +kernel)

/-- The results of the second and the third heartbeat are half a minute apart. -/
theorem results_not_spaced : Initial start ∧
    Meets (next (step asciiPlatform fun _ => none)) (fun s _ => Stays "c1" 60 s) start
      (heartbeats [0, 30, 60]) ∧
    ¬(trace (step asciiPlatform fun _ => none) start (heartbeats [0, 30, 60])).Pairwise
      (Spaced "c1" 60) :=
  ⟨initial_start, by decide +kernel, by decide +kernel⟩

end VpsGuardian.Monitoring.ServiceChecks
