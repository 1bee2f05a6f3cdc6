import VpsGuardian.Recovery.Approved

/-!
A recovery restores what was approved, and ends with the files of the approved plan.

The plan of the moment is made from a manifest that restic hands out, and the restored directory
holds a manifest of its own. Their digest is the same, so they say the same about the files.
-/

namespace VpsGuardian.Recovery

open Lib PythonJson
open Lib.Action (Logs Appends)

variable {env : Environment} {fs : FileSystem}

/-! ### Manifests in their scope -/

theorem lookup_withMetadata {categories : Categories} {members manifest : List (Text × Value)}
    (h : withMetadata categories members = .ok manifest) {name : String}
    (hname : name ≠ "recovery_metadata") : field manifest name = field members name := by
  unfold withMetadata at h
  split at h
  · cases h
    rfl
  · cases h
    rfl
  · obtain ⟨metadata, -, h⟩ := bind_eq_ok.mp h
    cases h
    rw [field, lookup_set, if_neg fun heq => hname (Text.ofString_injective heq)]
    rfl
  · cases h

/-- A manifest that is read for a host and a service is one of that host and that service. -/
theorem parseManifestPayload_scope {categories : Categories} {payload : Value}
    {host service : Text} {manifest : List (Text × Value)} {artifacts : List (Text × Int × Text)}
    (h : parseManifestPayload categories payload (some host) (some service) =
      .ok (manifest, artifacts)) :
    field manifest "host" = some (.string host) ∧
      field manifest "service" = some (.string service) ∧
      parseManifestPayload categories payload none none = .ok (manifest, artifacts) := by
  cases payload with
  | dict members =>
    simp only [parseManifestPayload, validateName, raiseIf_bind_eq_ok, orRaise_bind_eq_ok] at h
    obtain ⟨hversion, host', hhost, service', hservice, hvalidHost, hvalidService, hsameHost,
      hsameService, items, hitems, hnonempty, h⟩ := h
    obtain rfl : host = host' := by simpa using hsameHost
    obtain rfl : service = service' := by simpa using hsameService
    obtain ⟨normalized, hnormalized, h⟩ := bind_eq_ok.mp h
    obtain ⟨manifest', hmanifest, h⟩ := bind_eq_ok.mp h
    cases h
    have htext {name : String} {s : Text} (hne : name ≠ "recovery_metadata")
        (h : asText (field members name) = some s) : field manifest name = some (.string s) := by
      rw [lookup_withMetadata hmanifest hne]
      cases hfield : field members name with
      | none =>
        rw [hfield] at h
        cases h
      | some value =>
        rw [hfield] at h
        cases value with
        | string t =>
          cases h
          rfl
        | null | bool | int | float | nonFinite | list | dict => cases h
    refine ⟨htext (by decide) hhost, htext (by decide) hservice, ?_⟩
    simp only [parseManifestPayload, validateName, raiseIf_bind_eq_ok, orRaise_bind_eq_ok]
    refine ⟨hversion, host, hhost, service, hservice, hvalidHost, hvalidService,
      Bool.false_ne_true, Bool.false_ne_true, items, hitems, hnonempty, ?_⟩
    exact bind_eq_ok.mpr ⟨_, hnormalized, bind_eq_ok.mpr ⟨_, hmanifest, rfl⟩⟩
  | null | bool | int | float | nonFinite | string | list => cases h

/-! ### Plans -/

/-- What a plan says of the manifest that restic has handed out. -/
structure RecoveryPlan.Describes (env : Environment) (plan : RecoveryPlan) (stdout : String)
    (artifacts : List (Text × Int × Text)) : Prop where
  checksum : (env.sha256 stdout.toUTF8).text = plan.manifestChecksum
  parses : ∃ payload manifest, loads stdout.toList = some payload ∧
    parseManifestPayload env.categories payload (some plan.host) (some plan.service) =
      .ok (manifest, artifacts)
  count : plan.artifactCount = artifacts.length
  bytes : plan.totalBytes = Recovery.totalBytes artifacts
  paths : plan.paths = sortTexts (artifacts.map Prod.fst)

/-- The texts of a plan are such that its digest tells them apart. -/
structure RecoveryPlan.Sound (plan : RecoveryPlan) : Prop where
  snapshotID : isHex 64 64 plan.snapshotID = true
  manifestChecksum : isHex 64 64 plan.manifestChecksum = true
  host : isSafeName plan.host = true
  service : isSafeName plan.service = true
  scope : plan.scope ∈ scopes
  target : ∀ c ∈ plan.target, Text.isHigh c = false

/-- The command that hands out the manifest of a snapshot. -/
def dumpCommand (id : Text) : List Text := [Text.ofString "dump", id, manifestName.text]

theorem isHex_lower {least most : Nat} {s : Text} (h : isHex least most s = true) :
    isHex least most (lower s) = true := by
  simp only [isHex, Bool.and_eq_true, decide_eq_true_eq, List.all_eq_true] at h ⊢
  obtain ⟨⟨hleast, hmost⟩, hall⟩ := h
  refine ⟨⟨by rwa [lower, List.length_map], by rwa [lower, List.length_map]⟩, fun c hc => ?_⟩
  obtain ⟨d, hd, rfl⟩ := List.mem_map.mp hc
  exact (isHexDigit_lowerCodePoint (hall d hd)).1

theorem snapshotScope_eq_ok {snapshot : SnapshotInfo} {scope : SnapshotScope}
    (h : snapshotScope snapshot = .ok scope) :
    isSafeName scope.host = true ∧ isSafeName scope.service = true := by
  unfold snapshotScope at h
  split at h
  · simp only [validateName, raiseIf_bind_eq_ok] at h
    obtain ⟨-, hhost, hservice, h⟩ := h
    cases h
    exact ⟨Bool.eq_true_of_not_eq_false hhost, Bool.eq_true_of_not_eq_false hservice⟩
  · cases h

theorem dump_eq_ok {id : Text} {s t : Backend} {stdout : String}
    (h : dump id s = (.ok stdout, t)) :
    t.issued = s.issued ++ [(dumpCommand id, .printed stdout)] := by
  obtain ⟨_, -, h⟩ := Action.ofExcept_bind_eq_ok.mp h
  exact runRestic_eq_ok h

theorem runs_snapshots (conversion : Conversion) {P : List Text → Prop}
    (h : P [Text.ofString "snapshots"]) : Runs P (snapshots conversion) :=
  Logs.bind (runs_runRestic h) fun _ =>
    Logs.bind (Logs.ofExcept _) fun _ => Logs.bind (Logs.ofExcept _) fun _ => Logs.pure _

/-- The commands only read. -/
def IsReading (arguments : List Text) : Prop :=
  arguments.head? ∈ [some (Text.ofString "snapshots"), some (Text.ofString "dump"),
    some (Text.ofString "ls")]

theorem runs_dump (id : Text) : Runs IsReading (dump id) :=
  Logs.bind (Logs.ofExcept _) fun _ => runs_runRestic (by simp [IsReading])

theorem runs_snapshotManifest (id : Text) : Runs IsReading (snapshotManifest env id) := by
  refine Logs.bind (Logs.ofExcept _) fun _ => ?_
  refine Logs.bind (runs_snapshots _ (by simp [IsReading])) fun found => ?_
  refine Logs.bind (Logs.ofExcept _) fun snapshot => Logs.bind (Logs.ofExcept _) fun _ => ?_
  refine Logs.bind (Logs.ofExcept _) fun scope => Logs.bind (runs_dump _) fun stdout => ?_
  refine Logs.bind (Logs.ofExcept _) fun _ => Logs.bind (Logs.ofExcept _) fun _ => ?_
  exact Logs.bind (Logs.ofExcept _) fun _ => Logs.pure _

theorem runs_impact (id : Text) : Runs IsReading (impact env id) :=
  Logs.bind (runs_snapshotManifest id) fun _ =>
    Logs.bind (Logs.ofExcept _) fun _ => Logs.bind (Logs.ofExcept _) fun _ => Logs.pure _

theorem runs_plan (env : Environment) (fs : FileSystem) (id : Text) (target : PosixPath)
    (scope : Text) : Runs IsReading (plan env fs id target scope) := by
  refine Logs.bind (Logs.ofExcept _) fun _ => Logs.bind (Logs.ofExcept _) fun _ => ?_
  refine Logs.bind (runs_impact id) fun _ => Logs.bind (Logs.ofExcept _) fun _ => ?_
  exact Logs.bind (Logs.ofExcept _) fun _ => Logs.bind (Logs.ofExcept _) fun _ => Logs.pure _

/-- The last command between two states hands out the manifest of a snapshot. -/
def HandsOut (id : Text) (stdout : String) (s t : Backend) : Prop :=
  ∃ commands, t.issued = s.issued ++ (commands ++ [(dumpCommand id, .printed stdout)])

/-- The snapshot found is in the repository, and its manifest is what restic handed out last. -/
theorem snapshotManifest_eq_ok {id : Text} {s t : Backend} {found : SnapshotManifest}
    (h : snapshotManifest env id s = (.ok found, t)) :
    isHex 64 64 found.snapshot.snapshotID = true ∧ ∃ host service stdout payload,
      isSafeName host = true ∧ isSafeName service = true ∧
      HandsOut found.snapshot.snapshotID stdout s t ∧
      env.sha256 stdout.toUTF8 = found.checksum ∧ loads stdout.toList = some payload ∧
      parseManifestPayload env.categories payload (some host) (some service) =
        .ok (found.manifest, found.artifacts) := by
  obtain ⟨_, -, h⟩ := Action.ofExcept_bind_eq_ok.mp h
  obtain ⟨listed, s', hlisted, h⟩ := Action.bind_eq_ok.mp h
  have hissues : Issues (fun _ => True) s s' := by
    have hsnapshots := (runs_snapshots env.conversion (P := fun _ => True) trivial s).1
    rwa [hlisted] at hsnapshots
  obtain ⟨snapshot, -, h⟩ := Action.ofExcept_bind_eq_ok.mp h
  obtain ⟨_, hhex, h⟩ := Action.ofExcept_bind_eq_ok.mp h
  obtain ⟨scope, hscope, h⟩ := Action.ofExcept_bind_eq_ok.mp h
  obtain ⟨stdout, _, hdump, h⟩ := Action.bind_eq_ok.mp h
  obtain ⟨_, hdigest, h⟩ := Action.ofExcept_bind_eq_ok.mp h
  obtain ⟨payload, hpayload, h⟩ := Action.ofExcept_bind_eq_ok.mp h
  obtain ⟨parsed, hparse, h⟩ := Action.ofExcept_bind_eq_ok.mp h
  cases h
  obtain ⟨hhost, hservice⟩ := snapshotScope_eq_ok hscope
  refine ⟨by simpa using raiseIf_eq_ok.mp hhex, scope.host, scope.service, stdout, payload, hhost,
    hservice, ?_, rfl, orRaise_eq_ok.mp hpayload, hparse⟩
  obtain ⟨commands, hcommands, -⟩ := hissues
  exact ⟨commands, by rw [dump_eq_ok hdump, hcommands, List.append_assoc]⟩

theorem validateRestoreTarget_eq_ok {target : PosixPath} {dryRun : Bool} {u : Unit}
    (h : validateRestoreTarget fs target dryRun = .ok u) :
    ∃ expanded, expandUser fs target = .ok expanded ∧ expanded.isAbsolute = true ∧
      fs.resolve expanded = some expanded := by
  obtain ⟨expanded, hexpanded, h⟩ := bind_eq_ok.mp h
  obtain ⟨habsolute, h⟩ := raiseIf_bind_eq_ok.mp h
  obtain ⟨_, -, h⟩ := bind_eq_ok.mp h
  obtain ⟨resolved, hresolved, h⟩ := orRaise_bind_eq_ok.mp h
  obtain ⟨hcanonical, -⟩ := raiseIf_bind_eq_ok.mp h
  obtain rfl : resolved = expanded := not_not.mp hcanonical
  exact ⟨resolved, hexpanded, by simpa using habsolute, hresolved⟩

/-- What holds of every plan that is made, and of the answer it is made from. -/
theorem plan_eq_ok {id scope : Text} {target : PosixPath} {s t : Backend} {p : RecoveryPlan}
    (h : plan env fs id target scope s = (.ok p, t)) :
    p.Sound ∧ p.scope = scope ∧
      (∃ expanded, expandUser fs target = .ok expanded ∧ p.target = expanded.text) ∧
      ∃ full stdout artifacts, lower full = p.snapshotID ∧
        HandsOut full stdout s t ∧ p.Describes env stdout artifacts := by
  obtain ⟨_, hscope, h⟩ := Action.ofExcept_bind_eq_ok.mp h
  obtain ⟨_, htarget, h⟩ := Action.ofExcept_bind_eq_ok.mp h
  obtain ⟨found, t', himpact, h⟩ := Action.bind_eq_ok.mp h
  obtain ⟨_, -, h⟩ := Action.ofExcept_bind_eq_ok.mp h
  obtain ⟨expanded, hexpanded, h⟩ := Action.ofExcept_bind_eq_ok.mp h
  obtain ⟨resolved, hresolved, h⟩ := Action.ofExcept_bind_eq_ok.mp h
  cases h
  obtain ⟨expanded', hexpanded', -, hcanonical⟩ := validateRestoreTarget_eq_ok htarget
  obtain rfl : expanded' = expanded := Except.ok.inj (hexpanded'.symm.trans hexpanded)
  obtain rfl : expanded' = resolved :=
    Option.some.inj (hcanonical.symm.trans (orRaise_eq_ok.mp hresolved))
  obtain ⟨manifest, t'', hmanifest, himpact⟩ := Action.bind_eq_ok.mp himpact
  obtain ⟨hostValue, hhostValue, himpact⟩ := Action.ofExcept_bind_eq_ok.mp himpact
  obtain ⟨serviceValue, hserviceValue, himpact⟩ := Action.ofExcept_bind_eq_ok.mp himpact
  cases himpact
  obtain ⟨hhex, host, service, stdout, payload, hhost, hservice, hlast, hchecksum, hpayload,
    hparse⟩ := snapshotManifest_eq_ok hmanifest
  obtain ⟨hfieldHost, hfieldService, -⟩ := parseManifestPayload_scope hparse
  have hstrHost : env.conversion.str hostValue = host := by
    rw [hfieldHost] at hhostValue
    cases hhostValue
    exact env.conversion.string host
  have hstrService : env.conversion.str serviceValue = service := by
    rw [hfieldService] at hserviceValue
    cases hserviceValue
    exact env.conversion.string service
  refine ⟨⟨isHex_lower hhex, manifest.checksum.isHex_text, ?_, ?_, ?_, ?_⟩, rfl,
    ⟨expanded', hexpanded, rfl⟩, _, stdout, manifest.artifacts, rfl, hlast,
    ⟨congrArg Digest.text hchecksum, ⟨payload, manifest.manifest, hpayload, ?_⟩, rfl, rfl, rfl⟩⟩
  · rwa [hstrHost]
  · rwa [hstrService]
  · exact not_not.mp (raiseIf_eq_ok.mp hscope)
  · exact fs.encodable _ _ hcanonical
  · rw [hstrHost, hstrService]
    exact hparse

/-! ### Digests -/

theorem nodup_recoveryMembers (plan : RecoveryPlan) : (plan.members.map Prod.fst).Nodup := by
  simp [RecoveryPlan.members]

/-- Two plans say the same. Paths are compared as they are written into the text of a plan. -/
structure RecoveryPlan.Agrees (plan plan' : RecoveryPlan) : Prop where
  snapshotID : plan.snapshotID = plan'.snapshotID
  manifestChecksum : plan.manifestChecksum = plan'.manifestChecksum
  host : plan.host = plan'.host
  service : plan.service = plan'.service
  scope : plan.scope = plan'.scope
  target : plan.target = plan'.target
  artifactCount : plan.artifactCount = plan'.artifactCount
  totalBytes : plan.totalBytes = plan'.totalBytes
  paths : plan.paths.map Text.joined = plan'.paths.map Text.joined

theorem not_hasPair_scope {scope : Text} (h : scope ∈ scopes) : Text.hasPair scope = false := by
  simp only [scopes, List.mem_cons, List.not_mem_nil, or_false] at h
  obtain rfl | rfl | rfl := h <;> exact Text.not_hasPair_ofString _

theorem map_joined_eq_of_readBack_eq {texts texts' : List Text}
    (h : (some (textsValue texts)).map readBack = (some (textsValue texts')).map readBack) :
    texts.map Text.joined = texts'.map Text.joined := by
  have hback (texts : List Text) :
      readBack (textsValue texts) = .list ((texts.map Text.joined).map .string) := by
    rw [textsValue, readBack, readBackItems_eq_map, List.map_map, List.map_map]
    rfl
  rw [Option.map_some, Option.map_some, hback, hback] at h
  exact List.map_injective_iff.mpr (fun _ _ => Value.string.inj)
    (Value.list.inj (Option.some.inj h))

/-- Two plans of one digest agree in everything that they say. -/
theorem RecoveryPlan.agrees_of_digest_eq {plan plan' : RecoveryPlan} (hsound : plan.Sound)
    (hsound' : plan'.Sound) (hunforged : Unforged env.sha256 (canonicalText plan.members))
    (h : plan'.digest env = plan.digest env) : plan'.Agrees plan := by
  have htext := readBack_eq_of_canonicalText_eq (hunforged _ h)
  have hfield := lookup_eq_of_readBack_eq (nodup_recoveryMembers _) (nodup_recoveryMembers _) htext
  have hint {i j : Int} (h : (some (Value.int i)).map readBack = (some (.int j)).map readBack) :
      i = j := Value.int.inj (Option.some.inj h)
  constructor
  · exact string_eq_of_readBack_eq (not_hasPair_of_isHex hsound'.snapshotID)
      (not_hasPair_of_isHex hsound.snapshotID) (hfield "snapshot_id")
  · exact string_eq_of_readBack_eq (not_hasPair_of_isHex hsound'.manifestChecksum)
      (not_hasPair_of_isHex hsound.manifestChecksum) (hfield "manifest_checksum")
  · exact string_eq_of_readBack_eq (not_hasPair_of_isSafeName hsound'.host)
      (not_hasPair_of_isSafeName hsound.host) (hfield "host")
  · exact string_eq_of_readBack_eq (not_hasPair_of_isSafeName hsound'.service)
      (not_hasPair_of_isSafeName hsound.service) (hfield "service")
  · exact string_eq_of_readBack_eq (not_hasPair_scope hsound'.scope)
      (not_hasPair_scope hsound.scope) (hfield "scope")
  · exact string_eq_of_readBack_eq (Text.not_hasPair_of_forall hsound'.target)
      (Text.not_hasPair_of_forall hsound.target) (hfield "target")
  · exact Int.ofNat_inj.mp (hint (hfield "artifact_count"))
  · exact hint (hfield "total_bytes")
  · exact map_joined_eq_of_readBack_eq (hfield "paths")

/-! ### Executions -/

/-- What a plan must be for a call to carry it out. -/
structure RestoreCall.Approves (env : Environment) (fs : FileSystem) (call : RestoreCall)
    (plan : RecoveryPlan) : Prop where
  sound : plan.Sound
  execute : call.execute = true
  approvalID : call.approvalID.any isSafeName = true
  digest : call.planDigest.map lower = some (plan.digest env).text
  confirmation : call.confirmation = some (plan.confirmation env)
  scope : plan.scope = call.scope
  target : ∃ expanded, expandUser fs call.target = .ok expanded ∧ plan.target = expanded.text

theorem approve_eq_ok {call : RestoreCall} {plan : RecoveryPlan} {u : Unit}
    (h : approve env call plan = .ok u) :
    call.approvalID.any isSafeName = true ∧
      call.planDigest.map lower = some (plan.digest env).text ∧
      call.confirmation = some (plan.confirmation env) := by
  simp only [approve, raiseIf_bind_eq_ok, raiseIf_eq_ok, not_or, not_not] at h
  obtain ⟨-, hid, hdigest, hconfirmation⟩ := h
  refine ⟨?_, ?_, hconfirmation⟩
  · cases hcall : call.approvalID with
    | none => simp [hcall] at hid
    | some id => simpa [hcall] using hid
  · cases hcall : call.planDigest with
    | none => simp [hcall] at hdigest
    | some digest =>
      simp only [hcall, Option.all_some, Bool.or_eq_true, Bool.not_eq_true', bne_iff_ne,
        not_or, not_not] at hdigest
      rw [Option.map_some, hdigest.2]

/-- An absolute target is what it is. -/
theorem expandUser_of_isAbsolute {target : PosixPath} (h : target.isAbsolute = true) :
    expandUser fs target = .ok target := by
  unfold expandUser
  split
  · rw [if_neg fun hrelative => Bool.false_ne_true (hrelative.1.symm.trans h)]
  · rfl

def restoreCommand (id target : Text) : List Text :=
  [Text.ofString "restore", id, Text.ofString "--target", target]

theorem runRestic_issued (arguments : List Text) (s : Backend) :
    (runRestic arguments s).2.issued = s.issued ∨
      ∃ answer, (runRestic arguments s).2.issued = s.issued ++ [(arguments, answer)] := by
  unfold runRestic
  cases s.answers.headD (.failed (.of "Restic operation failed with exit code 1")) with
  | refused failure => exact .inl rfl
  | failed failure => exact .inr ⟨_, rfl⟩
  | printed stdout => exact .inr ⟨_, rfl⟩

theorem runRestic_printed (arguments : List Text) (stdout : String) (answers : List Answer)
    (issued : List (List Text × Answer)) :
    runRestic arguments ⟨.printed stdout :: answers, issued⟩ =
      (.ok stdout, ⟨answers, issued ++ [(arguments, .printed stdout)]⟩) := rfl

theorem runs_restore_dryRun (id : Text) (target : PosixPath) :
    Runs IsReading (restore fs id target true) :=
  Logs.bind (Logs.ofExcept _) fun _ => Logs.bind (Logs.ofExcept _) fun _ =>
    runs_runRestic (by simp [IsReading])

/-- A restore writes to its target with one command, if at all. -/
theorem restore_issued (fs : FileSystem) (id : Text) (target : PosixPath) (s : Backend) :
    (restore fs id target false s).2.issued = s.issued ∨ ∃ answer,
      (restore fs id target false s).2.issued =
        s.issued ++ [(restoreCommand id target.text, answer)] := by
  rw [restore, Action.ofExcept_bind]
  split
  · rw [Action.ofExcept_bind]
    split
    · exact runRestic_issued _ s
    · exact .inl rfl
  · exact .inl rfl

/-- A call only reads, or it makes a plan that it approves of, from what restic has handed out
last, and carries this plan out. -/
theorem recover_cases (env : Environment) (fs : FileSystem) (restored : Root)
    (call : RestoreCall) (s : Backend) :
    Issues IsReading s (recover env fs restored call s).2 ∨
      ∃ p t answer full stdout artifacts,
        plan env fs call.snapshotID call.target call.scope s = (.ok p, t) ∧
        call.Approves env fs p ∧ lower full = p.snapshotID ∧
        HandsOut full stdout s t ∧ p.Describes env stdout artifacts ∧
        (recover env fs restored call s).2.issued =
          t.issued ++ [(restoreCommand p.snapshotID call.target.text, answer)] := by
  have hreading := (runs_plan env fs call.snapshotID call.target call.scope s).1
  rcases hplan : plan env fs call.snapshotID call.target call.scope s with ⟨failure | p, t⟩
  · left
    rw [recover, Action.bind_of_error hplan]
    rwa [hplan] at hreading
  rw [hplan] at hreading
  rw [recover, Action.bind_of_ok hplan]
  cases hexecute : call.execute with
  | false =>
    left
    rw [if_neg Bool.false_ne_true]
    exact Appends.trans _ _ _ hreading (runs_restore_dryRun _ _ t).1
  | true =>
    rw [if_pos rfl, Action.ofExcept_bind]
    cases happrove : approve env call p with
    | error failure => exact .inl hreading
    | ok u =>
      obtain ⟨hid, hdigest, hconfirmation⟩ := approve_eq_ok happrove
      obtain ⟨hsound, hscope, htarget, full, stdout, artifacts, hfull, hlast, hdescribes⟩ :=
        plan_eq_ok hplan
      rw [Action.bind_snd fun result s' => Action.bind_snd (fun _ _ => rfl) s']
      obtain hnone | ⟨answer, hissued⟩ := restore_issued fs p.snapshotID call.target t
      · left
        obtain ⟨commands, hcommands, hall⟩ := hreading
        exact ⟨commands, hnone.trans hcommands, hall⟩
      · right
        exact ⟨p, t, answer, full, stdout, artifacts, rfl,
          ⟨hsound, hexecute, hid, hdigest, hconfirmation, hscope, htarget⟩, hfull, hlast,
          hdescribes, hissued⟩

/-- A plan that was made at some time, from a manifest that restic handed out for it. -/
def RecoveryPlan.PlannedFrom (env : Environment) (plan : RecoveryPlan) (stdout : String) : Prop :=
  ∃ fs id target scope s t full, Recovery.plan env fs id target scope s = (.ok plan, t) ∧
    HandsOut full stdout s t

theorem HandsOut.stdout_unique {id id' : Text} {stdout stdout' : String} {s t : Backend}
    (h : HandsOut id stdout s t) (h' : HandsOut id' stdout' s t) : stdout = stdout' := by
  obtain ⟨commands, ht⟩ := h
  obtain ⟨commands', ht'⟩ := h'
  have hlast := congrArg List.getLast? (ht.symm.trans ht')
  simp only [← List.append_assoc, List.getLast?_append, List.getLast?_singleton,
    Option.some_or, Option.some.injEq, Prod.mk.injEq, Answer.printed.injEq] at hlast
  exact hlast.2

theorem RecoveryPlan.PlannedFrom.sound {plan : RecoveryPlan} {stdout : String}
    (h : plan.PlannedFrom env stdout) :
    plan.Sound ∧ ∃ artifacts, plan.Describes env stdout artifacts := by
  obtain ⟨fs, id, target, scope, s, t, full, hplan, hlast⟩ := h
  obtain ⟨hsound, -, -, full', stdout', artifacts, -, hlast', hdescribes⟩ := plan_eq_ok hplan
  obtain rfl := hlast.stdout_unique hlast'
  exact ⟨hsound, artifacts, hdescribes⟩

/-- A call approves of every plan with the digest it names, and all of these agree. -/
theorem RestoreCall.Approves.agrees {call : RestoreCall} {plan approved : RecoveryPlan}
    (h : call.Approves env fs plan) (hsound : approved.Sound)
    (hunforged : Unforged env.sha256 (canonicalText approved.members))
    (hdigest : call.planDigest.map lower = some (approved.digest env).text) :
    plan.Agrees approved :=
  RecoveryPlan.agrees_of_digest_eq hsound h.sound hunforged
    (Digest.text_injective (Option.some.inj (h.digest.symm.trans hdigest)))

/-- A verification for a host and a service is one without them. -/
theorem accepts_of_scoped {root : Root} {checksum host service : Text}
    {manifest : List (Text × Value)}
    (h : loadAndVerifyManifest env.sha256 env.categories root (some checksum) (some host)
      (some service) = .ok manifest) :
    loadAndVerifyManifest env.sha256 env.categories root (some checksum) none none =
      .ok manifest := by
  simp only [loadAndVerifyManifest, bind_eq_ok] at h ⊢
  obtain ⟨_, hhex, entries, hentries, files, hfiles, _, hpaths, content, hcontent, _, hsame, text,
    htext, payload, hpayload, ⟨parsed, artifacts⟩, hparse, h⟩ := h
  exact ⟨_, hhex, entries, hentries, files, hfiles, _, hpaths, content, hcontent, _, hsame, text,
    htext, payload, hpayload, _, (parseManifestPayload_scope hparse).2.2, h⟩

theorem recover_eq_ok {root : Root} {call : RestoreCall} {s t : Backend} {out : String}
    (hexecute : call.execute = true)
    (h : recover env fs root call s = (.ok out, t)) :
    ∃ p manifest, call.Approves env fs p ∧
      loadAndVerifyManifest env.sha256 env.categories root (some p.manifestChecksum) none none =
        .ok manifest := by
  obtain ⟨p, s', hplan, h⟩ := Action.bind_eq_ok.mp h
  rw [hexecute, if_pos rfl] at h
  obtain ⟨_, happrove, h⟩ := Action.ofExcept_bind_eq_ok.mp h
  obtain ⟨_, s'', -, h⟩ := Action.bind_eq_ok.mp h
  obtain ⟨manifest, hmanifest, h⟩ := Action.ofExcept_bind_eq_ok.mp h
  obtain ⟨hid, hdigest, hconfirmation⟩ := approve_eq_ok happrove
  obtain ⟨hsound, hscope, htarget, -⟩ := plan_eq_ok hplan
  exact ⟨p, manifest, ⟨hsound, hexecute, hid, hdigest, hconfirmation, hscope, htarget⟩,
    accepts_of_scoped hmanifest⟩

theorem parseArtifact_eq_ok {seen : List Text} {artifact : Value} {entry : Text × Int × Text}
    (h : parseArtifact seen artifact = .ok entry) :
    entry.1 ≠ manifestName.text ∧ entry.1 ∉ seen := by
  unfold parseArtifact at h
  split at h
  · split at h
    · simp only [raiseIf_bind_eq_ok] at h
      obtain ⟨-, -, hnew, h⟩ := h
      cases h
      exact not_or.mp hnew
    · cases h
  · cases h

/-- The artifacts of a manifest have different paths, and none is the manifest itself. -/
theorem nodup_parseArtifacts {normalized result : List (Text × Int × Text)} {items : List Value}
    (hnodup : (manifestName.text :: normalized.map Prod.fst).Nodup)
    (h : parseArtifacts normalized items = .ok result) :
    (manifestName.text :: result.map Prod.fst).Nodup := by
  induction items generalizing normalized with
  | nil =>
    cases h
    exact hnodup
  | cons item items ih =>
    obtain ⟨entry, hentry, h⟩ := bind_eq_ok.mp h
    obtain ⟨hmanifest, hnew⟩ := parseArtifact_eq_ok hentry
    refine ih ?_ h
    rw [List.nodup_cons] at hnodup ⊢
    rw [List.map_append, List.map_singleton]
    refine ⟨?_, List.nodup_append.mpr ⟨hnodup.2, List.nodup_singleton _, ?_⟩⟩
    · simpa [hnodup.1] using hmanifest.symm
    · rintro path hpath _ hmem rfl
      exact hnew (List.mem_singleton.mp hmem ▸ hpath)

theorem nodup_of_parseManifestPayload {categories : Categories} {payload : Value}
    {host service : Option Text} {manifest : List (Text × Value)}
    {artifacts : List (Text × Int × Text)}
    (h : parseManifestPayload categories payload host service = .ok (manifest, artifacts)) :
    (manifestName.text :: artifacts.map Prod.fst).Nodup := by
  cases payload with
  | dict members =>
    simp only [parseManifestPayload, validateName, raiseIf_bind_eq_ok, orRaise_bind_eq_ok] at h
    obtain ⟨-, host', -, service', -, -, -, -, -, items, -, -, h⟩ := h
    obtain ⟨normalized, hnormalized, h⟩ := bind_eq_ok.mp h
    obtain ⟨manifest', -, h⟩ := bind_eq_ok.mp h
    cases h
    exact nodup_parseArtifacts (List.nodup_singleton _) hnormalized
  | null | bool | int | float | nonFinite | string | list => cases h

/-- The sizes of the files of a verified tree add up to those in its manifest. -/
theorem sum_sizes_of_verified {tree : Tree} {checksum : Text} {content : ByteArray}
    {artifacts : List (Text × Int × Text)}
    (h : Verified env.sha256 env.categories tree checksum content artifacts)
    (hnodup : (manifestName.text :: artifacts.map Prod.fst).Nodup) :
    tree.files.length = artifacts.length + 1 ∧
      (tree.files.map fun file => (file.2.size : Int)).sum =
        totalBytes artifacts + content.size := by
  have hperm : ((fileTexts tree).map Prod.fst).Perm (manifestName.text :: artifacts.map Prod.fst) :=
    (List.perm_ext_iff_of_nodup nodup_fileTexts hnodup).mpr h.sameSet
  constructor
  · simpa [fileTexts] using hperm.length_eq
  let sizeOf (path : Text) : Int := (((fileTexts tree).lookup path).map ByteArray.size).getD 0
  have hfiles : ((fileTexts tree).map Prod.fst).map sizeOf =
      tree.files.map fun file => (file.2.size : Int) := by
    rw [fileTexts, List.map_map, List.map_map]
    refine List.map_congr_left fun file hfile => ?_
    have hlookup : (fileTexts tree).lookup (pathText file.1) = some file.2 :=
      (lookup_fileTexts (ne_nil_of_mem_files hfile)).mpr hfile
    simp only [Function.comp_apply, sizeOf, hlookup]
    rfl
  have hartifacts : (artifacts.map Prod.fst).map sizeOf = artifacts.map fun a => a.2.1 := by
    rw [List.map_map]
    refine List.map_congr_left fun artifact hartifact => ?_
    obtain ⟨found, hlookup, hsize, -⟩ := h.artifacts artifact hartifact
    simp only [Function.comp_apply, sizeOf, hlookup]
    exact hsize
  have hmanifest : sizeOf manifestName.text = content.size := by
    have hlookup : (fileTexts tree).lookup (pathText [manifestName]) = some content :=
      (lookup_fileTexts (List.cons_ne_nil _ _)).mpr h.manifest
    rw [pathText_singleton] at hlookup
    simp only [sizeOf, hlookup]
    rfl
  calc (tree.files.map fun file => (file.2.size : Int)).sum
      = (((fileTexts tree).map Prod.fst).map sizeOf).sum := by rw [hfiles]
    _ = ((manifestName.text :: artifacts.map Prod.fst).map sizeOf).sum := (hperm.map _).sum_eq
    _ = totalBytes artifacts + content.size := by
        rw [List.map_cons, List.sum_cons, hartifacts, hmanifest, add_comm]
        rfl

theorem encodable_resolve (path resolved : PosixPath)
    (h : (if path.text.all (fun c => !Text.isHigh c) then some path else none) = some resolved) :
    ∀ c ∈ resolved.text, Text.isHigh c = false := by
  split_ifs at h with hall
  obtain rfl := Option.some.inj h
  simpa using hall

/-- No path is a symbolic link, and every target is new. -/
def plainFileSystem : FileSystem where
  expanduser path := path
  isSymlink _ := some false
  resolve path := if path.text.all (fun c => !Text.isHigh c) then some path else none
  occupied _ := false
  encodable := encodable_resolve

/-- The manifest of a backup with the one file of the service. -/
def describedMembers : List (Text × Value) :=
  manifestMembers (Text.ofString "node-1") (Text.ofString "api")
    (Text.ofString "2026-01-01T00:00:00+00:00")
    [⟨Text.ofString "files/app/service.conf", 13, configText⟩] none

def describedManifest : String := String.ofList (manifestPayload describedMembers)

def approvedPlan : RecoveryPlan where
  snapshotID := Text.ofString oldSnapshot
  manifestChecksum := manifestText
  host := Text.ofString "node-1"
  service := Text.ofString "api"
  scope := Text.ofString "service"
  target := Text.ofString "/restore"
  artifactCount := 1
  totalBytes := 13
  paths := [Text.ofString "files/app/service.conf"]

def planText : Text :=
  Text.ofString "7a7714316525d812af3362fb16f0890464de866b0cd698b351e011bdfcf1fff7"

theorem valid_planText : (planText.length == 64 && planText.all isLowerHexDigit) = true := by
  decide

/-- The digests of the plan, of the manifest and of the one file. -/
def planSha256 (content : ByteArray) : Digest :=
  if content = configContent then ⟨configText, valid_configText⟩
  else if content = describedManifest.toUTF8 then ⟨manifestText, valid_manifestText⟩
  else if content = canonicalText approvedPlan.members then ⟨planText, valid_planText⟩
  else ⟨configText, valid_configText⟩

def planEnvironment : Environment := ⟨planSha256, sampleCategories, sampleConversion⟩

def snapshotValue : Value :=
  .list [.dict (named [("id", .string (Text.ofString oldSnapshot)),
    ("hostname", .string (Text.ofString "node-1")),
    ("tags", textsValue (requiredTags (Text.ofString "node-1") (Text.ofString "api") ++
      [manifestPrefix ++ manifestText]))])]

def snapshotList : String := String.ofList (dumps .compact 0 snapshotValue)

def planAnswers : Backend := ⟨[.printed snapshotList, .printed describedManifest, .printed ""], []⟩

/-- The commands of the plan have run. -/
def plannedState : Backend where
  answers := [.printed ""]
  issued := [([Text.ofString "snapshots"], .printed snapshotList),
    (dumpCommand (Text.ofString oldSnapshot), .printed describedManifest)]

def restoreCall : RestoreCall where
  snapshotID := Text.ofString oldSnapshot
  target := ⟨1, [Text.ofString "restore"]⟩
  execute := true
  approvalID := some (Text.ofString "approval-1")
  planDigest := some planText
  confirmation := some (Text.ofString "RESTORE SERVICE api " ++ planText)
  scope := Text.ofString "service"

def restoredEntries : List (FileName × Node) :=
  [(filesName, .directory [(appName, .directory [(configName, .file configContent)])]),
    (manifestName, .file (encode (manifestPayload describedMembers)))]

theorem distinct_restored : distinctEntries restoredEntries = true := by decide

def restoredTree : Tree := ⟨restoredEntries, distinct_restored⟩

theorem lineFeed_not_mem_plan : '\n' ∉ dumps .compact 0 (.dict (named approvedPlan.members)) :=
  fun h => absurd (@printable_dumps .compact rfl _ 0 _ h) (by decide)

/-- The text of a plan has no line feed, and the two files have one. -/
theorem approvedPlan_ne {text : List Char} (h : '\n' ∈ text) :
    canonicalText approvedPlan.members ≠ encode text :=
  encode_injective.ne fun heq => lineFeed_not_mem_plan (heq ▸ h)

theorem configContent_eq : configContent = encode "healthy=true\n".toList := by
  rw [encode, String.ofList_toList]
  rfl

theorem approvedPlan_ne_config : canonicalText approvedPlan.members ≠ configContent := by
  rw [configContent_eq]
  exact approvedPlan_ne (by decide)

theorem approvedPlan_ne_manifest :
    canonicalText approvedPlan.members ≠ describedManifest.toUTF8 :=
  approvedPlan_ne (List.mem_append_right _ (List.mem_singleton_self _))

theorem describedManifest_ne : describedManifest.toUTF8 ≠ configContent := by
  have htext : manifestPayload describedMembers ≠ "healthy=true\n".toList := by
    intro h
    have hhead : (manifestPayload describedMembers).head? = some '\x7b' := rfl
    rw [h] at hhead
    exact absurd hhead (by decide)
  rw [configContent_eq]
  exact encode_injective.ne htext

theorem planSha256_approvedPlan :
    planSha256 (canonicalText approvedPlan.members) = ⟨planText, valid_planText⟩ := by
  rw [planSha256, if_neg approvedPlan_ne_config, if_neg approvedPlan_ne_manifest, if_pos rfl]

theorem planSha256_describedManifest :
    planSha256 describedManifest.toUTF8 = ⟨manifestText, valid_manifestText⟩ := by
  rw [planSha256, if_neg describedManifest_ne, if_pos rfl]

theorem unforged_approvedPlan : Unforged planSha256 (canonicalText approvedPlan.members) := by
  intro other h
  have hdigest : planSha256 other = ⟨planText, valid_planText⟩ := h.trans planSha256_approvedPlan
  unfold planSha256 at hdigest
  split_ifs at hdigest with hconfig hmanifest hplan
  · exact absurd (congrArg Digest.text hdigest) (by decide)
  · exact absurd (congrArg Digest.text hdigest) (by decide)
  · exact hplan
  · exact absurd (congrArg Digest.text hdigest) (by decide)

theorem unforged_describedManifest : Unforged planSha256 describedManifest.toUTF8 := by
  intro other h
  have hdigest := h.trans planSha256_describedManifest
  unfold planSha256 at hdigest
  split_ifs at hdigest with hconfig hmanifest hplan
  · exact absurd (congrArg Digest.text hdigest) (by decide)
  · exact hmanifest
  · exact absurd (congrArg Digest.text hdigest) (by decide)
  · exact absurd (congrArg Digest.text hdigest) (by decide)

theorem loads_snapshotList : loads snapshotList.toList = some (readBack snapshotValue) := by
  rw [snapshotList, String.toList_ofList]
  simpa using loads_dumps .compact 0 snapshotValue (blank_replicate 0)

theorem loads_describedManifest :
    loads describedManifest.toList = some (readBack (.dict describedMembers)) := by
  rw [describedManifest, String.toList_ofList, loads_manifestPayload]

def foundSnapshot : SnapshotInfo where
  snapshotID := Text.ofString oldSnapshot
  host := Text.ofString "node-1"
  tags := requiredTags (Text.ofString "node-1") (Text.ofString "api") ++
    [manifestPrefix ++ manifestText]

theorem snapshots_sample : snapshots planEnvironment.conversion planAnswers =
    (.ok [foundSnapshot], ⟨planAnswers.answers.tail,
      [([Text.ofString "snapshots"], .printed snapshotList)]⟩) := by
  have hne : snapshotList ≠ "" := by
    intro hempty
    have hchars : snapshotList.toList = [] := by rw [hempty]; rfl
    rw [snapshotList, String.toList_ofList] at hchars
    exact absurd hchars (by decide)
  rw [snapshots, planAnswers, Action.bind_of_ok (runRestic_printed _ _ _ _), loadsOutput,
    if_neg hne, loads_snapshotList]
  have hfound : (asList (some (readBack snapshotValue))).map
      (List.filterMap (snapshotInfo planEnvironment.conversion)) = some [foundSnapshot] := by
    decide +kernel
  obtain ⟨items, hitems, hinfo⟩ := Option.map_eq_some_iff.mp hfound
  simp only [orRaise, Action.ofExcept_bind, hitems, hinfo]
  rfl

theorem eq_ok_of_toOption {ε α : Type} {m : Except ε α} {a : α} (h : m.toOption = some a) :
    m = .ok a := by
  cases m with
  | error e => cases h
  | ok b => exact congrArg Except.ok (Option.some.inj h)

theorem parses_describedManifest : ∃ manifest, parseManifestPayload sampleCategories
    (readBack (.dict describedMembers)) (some (Text.ofString "node-1"))
      (some (Text.ofString "api")) =
    .ok (manifest, [(Text.ofString "files/app/service.conf", 13, configText)]) := by
  have hsome : (parseManifestPayload sampleCategories (readBack (.dict describedMembers))
      (some (Text.ofString "node-1")) (some (Text.ofString "api"))).toOption.map Prod.snd =
      some [(Text.ofString "files/app/service.conf", 13, configText)] := by
    decide +kernel
  cases hparse : parseManifestPayload sampleCategories (readBack (.dict describedMembers))
      (some (Text.ofString "node-1")) (some (Text.ofString "api")) with
  | error failure =>
    rw [hparse] at hsome
    cases hsome
  | ok result =>
    rw [hparse] at hsome
    exact ⟨result.1, congrArg Except.ok (Prod.ext rfl (Option.some.inj hsome))⟩

theorem snapshotManifest_sample : ∃ manifest,
    field manifest "host" = some (.string (Text.ofString "node-1")) ∧
    field manifest "service" = some (.string (Text.ofString "api")) ∧
    snapshotManifest planEnvironment restoreCall.snapshotID planAnswers =
      (.ok ⟨foundSnapshot, manifest, [(Text.ofString "files/app/service.conf", 13, configText)],
        ⟨manifestText, valid_manifestText⟩⟩, plannedState) := by
  obtain ⟨manifest, hparse⟩ := parses_describedManifest
  obtain ⟨hhost, hservice, -⟩ := parseManifestPayload_scope hparse
  refine ⟨manifest, hhost, hservice, ?_⟩
  have hmatching : onlyOne ([foundSnapshot].filter fun snapshot =>
      (lower restoreCall.snapshotID).isPrefixOf (lower snapshot.snapshotID)) =
        some foundSnapshot := by
    decide
  have hscope : (snapshotScope foundSnapshot).toOption =
      some ⟨Text.ofString "node-1", Text.ofString "api", manifestText⟩ := by
    decide +kernel
  have hdump : dump foundSnapshot.snapshotID ⟨planAnswers.answers.tail,
      [([Text.ofString "snapshots"], .printed snapshotList)]⟩ =
      (.ok describedManifest, plannedState) := by
    rw [dump, Action.ofExcept_bind, raiseIf, if_neg (by decide)]
    exact runRestic_printed _ _ _ _
  rw [snapshotManifest]
  refine Action.ofExcept_bind_eq_ok.mpr ⟨(), raiseIf_eq_ok.mpr (by decide), ?_⟩
  refine Action.bind_eq_ok.mpr ⟨_, _, snapshots_sample, ?_⟩
  refine Action.ofExcept_bind_eq_ok.mpr ⟨_, orRaise_eq_ok.mpr hmatching, ?_⟩
  refine Action.ofExcept_bind_eq_ok.mpr ⟨(), raiseIf_eq_ok.mpr (by decide), ?_⟩
  refine Action.ofExcept_bind_eq_ok.mpr ⟨_, eq_ok_of_toOption hscope, ?_⟩
  refine Action.bind_eq_ok.mpr ⟨_, _, hdump, ?_⟩
  rw [show planEnvironment.sha256 = planSha256 from rfl, planSha256_describedManifest]
  refine Action.ofExcept_bind_eq_ok.mpr ⟨(), raiseIf_eq_ok.mpr (by decide), ?_⟩
  rw [loads_describedManifest]
  refine Action.ofExcept_bind_eq_ok.mpr ⟨_, orRaise_eq_ok.mpr rfl, ?_⟩
  exact Action.ofExcept_bind_eq_ok.mpr ⟨_, hparse, rfl⟩

theorem impact_sample : ∃ metadata, impact planEnvironment restoreCall.snapshotID planAnswers =
    (.ok { snapshotID := Text.ofString oldSnapshot
           host := Text.ofString "node-1"
           service := Text.ofString "api"
           manifestChecksum := manifestText
           artifactCount := 1
           totalBytes := 13
           paths := [Text.ofString "files/app/service.conf"]
           recoveryMetadata := metadata }, plannedState) := by
  obtain ⟨manifest, hhost, hservice, hmanifest⟩ := snapshotManifest_sample
  have hid : lower foundSnapshot.snapshotID = Text.ofString oldSnapshot := by decide
  have hpaths : sortTexts [Text.ofString "files/app/service.conf"] =
      [Text.ofString "files/app/service.conf"] := by
    decide
  have hstring (s : Text) : planEnvironment.conversion.str (.string s) = s := rfl
  have hbytes : totalBytes [(Text.ofString "files/app/service.conf", 13, configText)] = 13 := rfl
  rw [impact, Action.bind_of_ok hmanifest]
  simp only [hhost, hservice, orRaise, Action.ofExcept_bind, hid, List.map_cons, List.map_nil,
    hpaths, hstring, hbytes, List.length_singleton]
  exact ⟨_, rfl⟩

theorem plan_sample : plan planEnvironment plainFileSystem restoreCall.snapshotID
    restoreCall.target restoreCall.scope planAnswers = (.ok approvedPlan, plannedState) := by
  obtain ⟨metadata, himpact⟩ := impact_sample
  have htarget : (validateRestoreTarget plainFileSystem restoreCall.target true).toOption =
      some () := by
    decide
  have hexpanded : (expandUser plainFileSystem restoreCall.target).toOption =
      some restoreCall.target := by
    decide
  have hresolved : plainFileSystem.resolve restoreCall.target = some restoreCall.target := by
    decide
  have htext : restoreCall.target.text = Text.ofString "/restore" := by decide
  rw [plan]
  refine Action.ofExcept_bind_eq_ok.mpr ⟨(), raiseIf_eq_ok.mpr (by decide), ?_⟩
  refine Action.ofExcept_bind_eq_ok.mpr ⟨_, eq_ok_of_toOption htarget, ?_⟩
  refine Action.bind_eq_ok.mpr ⟨_, _, himpact, ?_⟩
  refine Action.ofExcept_bind_eq_ok.mpr ⟨(), raiseIf_eq_ok.mpr fun h => ?_, ?_⟩
  · exact absurd h.1 (by decide)
  refine Action.ofExcept_bind_eq_ok.mpr ⟨_, eq_ok_of_toOption hexpanded, ?_⟩
  rw [hresolved]
  refine Action.ofExcept_bind_eq_ok.mpr ⟨_, orRaise_eq_ok.mpr rfl, ?_⟩
  rw [htext]
  rfl

theorem approve_sample : approve planEnvironment restoreCall approvedPlan = .ok () := by
  have hdigest : (approvedPlan.digest planEnvironment).text = planText :=
    congrArg Digest.text planSha256_approvedPlan
  have hconfirmation : approvedPlan.confirmation planEnvironment =
      Text.ofString "RESTORE SERVICE api " ++ planText := by
    rw [RecoveryPlan.confirmation, hdigest]
    decide
  rw [approve, hdigest, hconfirmation]
  decide +kernel

def restoreIssued : List Text × Answer :=
  (restoreCommand approvedPlan.snapshotID restoreCall.target.text, .printed "")

def restoredState : Backend := ⟨[], plannedState.issued ++ [restoreIssued]⟩

theorem restore_sample : restore plainFileSystem approvedPlan.snapshotID restoreCall.target false
    plannedState = (.ok "", restoredState) := by
  have htarget : (validateRestoreTarget plainFileSystem restoreCall.target false).toOption =
      some () := by
    decide
  rw [restore]
  refine Action.ofExcept_bind_eq_ok.mpr ⟨(), raiseIf_eq_ok.mpr (by decide), ?_⟩
  exact Action.ofExcept_bind_eq_ok.mpr ⟨(), eq_ok_of_toOption htarget, runRestic_printed _ _ _ _⟩

theorem restoredRegularFiles_sample : restoredRegularFiles restoredEntries =
    .ok [(Text.ofString "files/app/service.conf", configContent),
      (manifestName.text, encode (manifestPayload describedMembers))] := by
  have hfiles : filesBelow restoredEntries = [([filesName, appName, configName], configContent),
      ([manifestName], encode (manifestPayload describedMembers))] := by
    simp [filesBelow, belowEntries, restoredEntries, Node.descendants, Node.content?]
  have hpath : pathText [filesName, appName, configName] =
      Text.ofString "files/app/service.conf" := by
    decide
  refine raiseIf_bind_eq_ok.mpr ⟨by decide, ?_⟩
  simp only [hfiles, List.map_cons, List.map_nil, hpath, pathText_singleton]
  rfl

theorem verify_sample : ∃ manifest, loadAndVerifyManifest planEnvironment.sha256
    planEnvironment.categories (root restoredTree) (some approvedPlan.manifestChecksum)
      (some approvedPlan.host) (some approvedPlan.service) = .ok manifest := by
  obtain ⟨manifest, hparse⟩ := parses_describedManifest
  have hdigest : (planSha256 (encode (manifestPayload describedMembers))).text = manifestText :=
    congrArg Digest.text planSha256_describedManifest
  have hconfig : (planSha256 configContent).text = configText := by
    rw [planSha256, if_pos rfl]
  have hlookup : ([(Text.ofString "files/app/service.conf", configContent),
      (manifestName.text, encode (manifestPayload describedMembers))]).lookup manifestName.text =
        some (encode (manifestPayload describedMembers)) := by
    rw [lookup_cons, if_neg (by decide), lookup_cons, if_pos rfl]
  refine ⟨manifest, ?_⟩
  rw [show planEnvironment.sha256 = planSha256 from rfl,
    show planEnvironment.categories = sampleCategories from rfl, loadAndVerifyManifest]
  refine raiseIf_bind_eq_ok.mpr ⟨by decide, bind_eq_ok.mpr ⟨restoredEntries, rfl, ?_⟩⟩
  refine bind_eq_ok.mpr ⟨_, restoredRegularFiles_sample, ?_⟩
  refine raiseIf_bind_eq_ok.mpr ⟨by decide, orRaise_bind_eq_ok.mpr ⟨_, hlookup, ?_⟩⟩
  refine raiseIf_bind_eq_ok.mpr ⟨?_, orRaise_bind_eq_ok.mpr ⟨_, readText_encode _, ?_⟩⟩
  · rw [Option.any_some, hdigest]
    decide
  refine orRaise_bind_eq_ok.mpr ⟨_, loads_manifestPayload _, bind_eq_ok.mpr ⟨_, hparse, ?_⟩⟩
  refine raiseIf_bind_eq_ok.mpr ⟨by decide, ?_⟩
  refine bind_eq_ok.mpr ⟨(), verifyArtifacts_eq_ok.mpr ?_, rfl⟩
  rw [List.forall_mem_singleton]
  exact ⟨configContent, by rw [lookup_cons, if_pos rfl], by decide, hconfig⟩

theorem recover_sample : recover planEnvironment plainFileSystem (root restoredTree) restoreCall
    planAnswers = (.ok "", restoredState) := by
  obtain ⟨manifest, hverify⟩ := verify_sample
  have hexecute : restoreCall.execute = true := rfl
  rw [recover, Action.bind_of_ok plan_sample, if_pos hexecute]
  refine Action.ofExcept_bind_eq_ok.mpr ⟨(), approve_sample, ?_⟩
  refine Action.bind_eq_ok.mpr ⟨_, _, restore_sample, ?_⟩
  exact Action.ofExcept_bind_eq_ok.mpr ⟨_, hverify, rfl⟩

theorem approvedPlan_plannedFrom : approvedPlan.PlannedFrom planEnvironment describedManifest :=
  ⟨_, _, _, _, _, _, Text.ofString oldSnapshot, plan_sample,
    [([Text.ofString "snapshots"], .printed snapshotList)], rfl⟩

theorem described_no_return : '\r' ∉ describedManifest.toList := by
  intro h
  rw [describedManifest, String.toList_ofList] at h
  obtain h | h := List.mem_append.mp h
  · exact absurd (@printable_dumps .compact rfl (.dict describedMembers) 0 _ h) (by decide)
  · exact absurd (List.mem_singleton.mp h) (by decide)

end VpsGuardian.Recovery
