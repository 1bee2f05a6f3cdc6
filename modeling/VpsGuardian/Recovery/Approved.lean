import VpsGuardian.Lib.Hoare
import VpsGuardian.Recovery.Plans
import VpsGuardian.Recovery.Verification

/-!
Nothing is removed and nothing is restored that was not approved.

An approval names a plan by the digest of its text. The plan is made again when it is carried
out, from what restic says then, and the digest tells whether it is the same plan.
-/

namespace VpsGuardian.Recovery

open Lib PythonJson
open Lib.Action (Logs Appends)

/-! ### The commands of a program -/

/-- All commands that run between two states satisfy a condition. -/
abbrev Issues (P : List Text → Prop) (s t : Backend) : Prop :=
  Appends Backend.issued (fun command => P command.1) s t

/-- Whatever the program does, its commands satisfy a condition. -/
abbrev Runs {α : Type} (P : List Text → Prop) (m : Restic α) : Prop :=
  Logs Backend.issued (fun command => P command.1) m

theorem runs_runRestic {P : List Text → Prop} {arguments : List Text} (h : P arguments) :
    Runs P (runRestic arguments) := by
  intro s
  refine ⟨?_, fun _ _ => trivial⟩
  have hone (answer : Answer) : ∀ command ∈ [(arguments, answer)], P command.1 := by
    simpa using h
  unfold runRestic
  cases s.answers.headD (.failed (.of "Restic operation failed with exit code 1")) with
  | refused failure => exact .of_eq rfl
  | failed failure => exact ⟨_, rfl, hone _⟩
  | printed stdout => exact ⟨_, rfl, hone _⟩

theorem runRestic_eq_ok {arguments : List Text} {s t : Backend} {stdout : String}
    (h : runRestic arguments s = (.ok stdout, t)) :
    t.issued = s.issued ++ [(arguments, .printed stdout)] := by
  unfold runRestic at h
  cases hanswer : s.answers.headD (.failed (.of "Restic operation failed with exit code 1")) with
  | refused failure | failed failure => rw [hanswer] at h; cases h
  | printed text =>
    rw [hanswer] at h
    cases h
    rfl

/-! ### Digests -/

/-- What a digest is computed from. -/
def canonicalText (members : List (String × Value)) : ByteArray :=
  encode (dumps .compact 0 (.dict (named members)))

/-- No other content has the digest of this one. -/
def Unforged (sha256 : ByteArray → Digest) (content : ByteArray) : Prop :=
  ∀ other, sha256 other = sha256 content → other = content

theorem encode_injective : Function.Injective encode := by
  intro text text' h
  have hstring : some (String.ofList text) = some (String.ofList text') := by
    rw [← fromUTF8?_toUTF8, ← fromUTF8?_toUTF8]
    exact congrArg String.fromUTF8? h
  exact String.ofList_injective (Option.some.inj hstring)

theorem readBack_eq_of_canonicalText_eq {members members' : List (String × Value)}
    (h : canonicalText members = canonicalText members') :
    readBack (.dict (named members)) = readBack (.dict (named members')) := by
  have hread (members : List (String × Value)) :
      loads (dumps .compact 0 (.dict (named members))) =
        some (readBack (.dict (named members))) := by
    simpa using loads_dumps .compact 0 (.dict (named members)) (blank_replicate 0)
  have htext := encode_injective h
  exact Option.some.inj ((hread members).symm.trans ((congrArg loads htext).trans (hread members')))

/-- Dictionaries that are read back the same have, under every name, values that are. -/
theorem lookup_eq_of_readBack_eq {members members' : List (String × Value)}
    (hnodup : (members.map Prod.fst).Nodup) (hnodup' : (members'.map Prod.fst).Nodup)
    (h : readBack (.dict (named members)) = readBack (.dict (named members'))) (name : String) :
    (members.lookup name).map readBack = (members'.lookup name).map readBack := by
  obtain ⟨back, hback, hcomes⟩ := exists_comesBack hnodup
  obtain ⟨back', hback', hcomes'⟩ := exists_comesBack hnodup'
  have hsame : back = back' := Value.dict.inj (hback.symm.trans (h.trans hback'))
  rw [← hcomes.field, ← hcomes'.field, hsame]

theorem string_eq_of_readBack_eq {s t : Text} (hs : Text.hasPair s = false)
    (ht : Text.hasPair t = false)
    (h : (some (.string s)).map readBack = (some (.string t)).map readBack) : s = t := by
  rw [Option.map_some, Option.map_some, readBack_string hs, readBack_string ht] at h
  exact Value.string.inj (Option.some.inj h)

theorem texts_eq_of_readBack_eq {texts texts' : List Text}
    (htexts : ∀ s ∈ texts, Text.hasPair s = false)
    (htexts' : ∀ s ∈ texts', Text.hasPair s = false)
    (h : (some (textsValue texts)).map readBack = (some (textsValue texts')).map readBack) :
    texts = texts' := by
  have hback {texts : List Text} (htexts : ∀ s ∈ texts, Text.hasPair s = false) :
      readBack (textsValue texts) = textsValue texts := by
    rw [textsValue, readBack, readBackItems_eq_map, List.map_map]
    congr 1
    exact List.map_congr_left fun s hs => readBack_string (htexts s hs)
  rw [Option.map_some, Option.map_some, hback htexts, hback htexts'] at h
  have hlists := Value.list.inj (Option.some.inj h)
  exact List.map_injective_iff.mpr (fun _ _ => Value.string.inj) hlists

/-! ### Retention -/

variable {env : Environment}

/-- A snapshot of a host and a service, under an id, as restic lists it. -/
structure SnapshotOf (host service id : Text) (members : List (Text × Value)) : Prop where
  hasID : ∃ full, field members "id" = some (.string full) ∧ isHex 64 64 full = true ∧
    lower full = id
  hasHost : field members "hostname" = some (.string host)
  hasTags : ∃ tags, field members "tags" = some (.list tags) ∧
    ∀ tag ∈ requiredTags host service, .string tag ∈ tags

/-- The groups of a plan remove a snapshot. -/
def Removes (groups : List Value) (members : List (Text × Value)) : Prop :=
  ∃ group remove, .dict group ∈ groups ∧ field group "remove" = some (.list remove) ∧
    .dict members ∈ remove

theorem head?_requiredTags {host service tag : Text} (h : tag ∈ requiredTags host service) :
    tag.head? = some (Text.ofChar 'g') := by
  simp only [requiredTags, List.mem_cons, List.not_mem_nil, or_false] at h
  obtain rfl | rfl | rfl := h <;> rfl

theorem removedID_eq_ok {host service id : Text} {snapshot : Value}
    (h : removedID env.conversion host service snapshot = .ok id) :
    ∃ members, snapshot = .dict members ∧ SnapshotOf host service id members := by
  unfold removedID at h
  split at h
  · split at h
    · rename_i members _ _ _ full hostname tags hid hhost htags
      obtain ⟨hchecks, h⟩ := raiseIf_bind_eq_ok.mp h
      cases h
      push Not at hchecks
      obtain ⟨hhex, rfl, hrequired⟩ := hchecks
      refine ⟨members, rfl, ⟨full, hid, Bool.eq_true_of_not_eq_false hhex, rfl⟩, hhost, tags, htags,
        fun tag hmem => ?_⟩
      obtain ⟨value, hvalue, hstr⟩ := List.mem_map.mp (hrequired tag hmem)
      have hstring : ∃ s, value = .string s := by
        by_contra hnone
        refine env.conversion.other value (not_exists.mp hnone) ?_
        rw [hstr]
        exact head?_requiredTags hmem
      obtain ⟨s, rfl⟩ := hstring
      rw [env.conversion.string] at hstr
      exact hstr ▸ hvalue
    · cases h
  · cases h

theorem mapM_removedID_eq_ok {host service : Text} {snapshots : List Value} {ids : List Text}
    (h : snapshots.mapM (removedID env.conversion host service) = .ok ids) :
    ∀ id ∈ ids, ∃ snapshot ∈ snapshots,
      removedID env.conversion host service snapshot = .ok id := by
  induction snapshots generalizing ids with
  | nil =>
    cases h
    simp
  | cons snapshot snapshots ih =>
    rw [List.mapM_cons] at h
    obtain ⟨first, hfirst, h⟩ := bind_eq_ok.mp h
    obtain ⟨rest, hrest, h⟩ := bind_eq_ok.mp h
    cases h
    refine List.forall_mem_cons.mpr ⟨⟨snapshot, List.mem_cons_self, hfirst⟩, fun id hid => ?_⟩
    obtain ⟨found, hmem, hfound⟩ := ih hrest id hid
    exact ⟨found, List.mem_cons_of_mem _ hmem, hfound⟩

theorem groupSnapshots_eq_ok {group : Value} {snapshots : List Value}
    (h : groupSnapshots group = .ok snapshots) :
    ∃ members, group = .dict members ∧
      (field members "remove" = some (.list snapshots) ∨ snapshots = []) := by
  unfold groupSnapshots at h
  split at h
  · rename_i members
    simp only [orRaise_bind_eq_ok] at h
    obtain ⟨remove, hremove, _, -, h⟩ := h
    cases h
    refine ⟨members, rfl, ?_⟩
    cases hfield : field members "remove" with
    | none =>
      rw [hfield] at hremove
      cases hremove
      exact .inr rfl
    | some value =>
      rw [hfield] at hremove
      cases value with
      | list items =>
        cases hremove
        exact .inl rfl
      | null | bool | int | float | nonFinite | string | dict => cases hremove
  · cases h

/-- Every id that a plan removes is that of a snapshot of the host and the service. -/
theorem removedIDs_eq_ok {host service : Text} {groups : List Value} {ids : List Text}
    (h : removedIDs env.conversion host service groups = .ok ids) :
    ∀ id ∈ ids, ∃ members, Removes groups members ∧ SnapshotOf host service id members := by
  induction groups generalizing ids with
  | nil =>
    cases h
    simp
  | cons group groups ih =>
    simp only [removedIDs, bind_eq_ok] at h
    obtain ⟨snapshots, hsnapshots, first, hfirst, rest, hrest, h⟩ := h
    cases h
    intro id hid
    obtain hid | hid := List.mem_append.mp hid
    · obtain ⟨snapshot, hmem, hsnapshot⟩ := mapM_removedID_eq_ok hfirst id hid
      obtain ⟨members, rfl, hof⟩ := removedID_eq_ok hsnapshot
      obtain ⟨dictionary, rfl, hremove | rfl⟩ := groupSnapshots_eq_ok hsnapshots
      · exact ⟨members, ⟨dictionary, snapshots, List.mem_cons_self, hremove, hmem⟩, hof⟩
      · cases hmem
    · obtain ⟨members, ⟨dictionary, remove, hgroup, hremove, hmem⟩, hof⟩ := ih hrest id hid
      exact ⟨members, ⟨dictionary, remove, List.mem_cons_of_mem _ hgroup, hremove, hmem⟩, hof⟩

/-- What holds of every plan that is made. -/
structure RetentionContent.Sound (content : RetentionContent) : Prop where
  host : isSafeName content.host = true
  service : isSafeName content.service = true
  nodup : content.removeSnapshotIDs.Nodup
  removed : ∀ id ∈ content.removeSnapshotIDs, ∃ members, Removes content.groups members ∧
    SnapshotOf content.host content.service id members

theorem mem_sortTexts {texts : List Text} {s : Text} : s ∈ sortTexts texts ↔ s ∈ texts :=
  (List.perm_insertionSort _ _).mem_iff

theorem retentionArguments_eq_ok {policy : RetentionPolicy} {host service : Text}
    {arguments : List Text} (h : retentionArguments policy host service = .ok arguments) :
    isSafeName host = true ∧ isSafeName service = true ∧
      ∃ rest, arguments = Text.ofString "forget" :: Text.ofString "--dry-run" :: rest := by
  simp only [retentionArguments, validateName, raiseIf_bind_eq_ok] at h
  obtain ⟨hhost, hservice, h⟩ := h
  cases h
  exact ⟨Bool.eq_true_of_not_eq_false hhost, Bool.eq_true_of_not_eq_false hservice, _, rfl⟩

theorem retentionPlan_eq_ok {policy : RetentionPolicy} {host service : Text} {s t : Backend}
    {content : RetentionContent}
    (h : retentionPlan env policy host service s = (.ok content, t)) :
    content.host = host ∧ content.service = service ∧ content.policy = policy ∧
      content.Sound := by
  obtain ⟨arguments, harguments, h⟩ := Action.ofExcept_bind_eq_ok.mp h
  obtain ⟨hhost, hservice, -⟩ := retentionArguments_eq_ok harguments
  obtain ⟨stdout, _, -, h⟩ := Action.bind_eq_ok.mp h
  obtain ⟨payload, -, h⟩ := Action.ofExcept_bind_eq_ok.mp h
  obtain ⟨groups, -, h⟩ := Action.ofExcept_bind_eq_ok.mp h
  obtain ⟨ids, hids, h⟩ := Action.ofExcept_bind_eq_ok.mp h
  obtain ⟨_, hnodup, h⟩ := Action.ofExcept_bind_eq_ok.mp h
  cases h
  refine ⟨rfl, rfl, rfl, hhost, hservice, ?_, fun id hid => ?_⟩
  · exact ((List.perm_insertionSort _ _).nodup_iff).mpr (not_not.mp (raiseIf_eq_ok.mp hnodup))
  · exact removedIDs_eq_ok hids id (mem_sortTexts.mp hid)

theorem nodup_policyMembers (policy : RetentionPolicy) :
    (policy.members.map Prod.fst).Nodup := by
  simp [RetentionPolicy.members]

theorem nodup_retentionMembers (content : RetentionContent) :
    (content.members.map Prod.fst).Nodup := by
  simp [RetentionContent.members]

theorem policy_eq_of_readBack_eq {policy policy' : RetentionPolicy}
    (h : readBack (.dict (named policy.members)) = readBack (.dict (named policy'.members))) :
    policy = policy' := by
  have hfield := lookup_eq_of_readBack_eq (nodup_policyMembers _) (nodup_policyMembers _) h
  have hint {i j : Nat} (h : (some (Value.int i)).map readBack = (some (.int j)).map readBack) :
      i = j := Int.ofNat_inj.mp (Value.int.inj (Option.some.inj h))
  have hhourly := hint (hfield "keep_hourly")
  have hdaily := hint (hfield "keep_daily")
  have hweekly := hint (hfield "keep_weekly")
  have hmonthly := hint (hfield "keep_monthly")
  cases policy
  cases policy'
  congr

theorem SnapshotOf.not_hasPair {host service id : Text} {members : List (Text × Value)}
    (h : SnapshotOf host service id members) : Text.hasPair id = false := by
  obtain ⟨full, -, hhex, rfl⟩ := h.hasID
  rw [isHex, Bool.and_eq_true, List.all_eq_true] at hhex
  apply Text.not_hasPair_of_forall
  intro c hc
  obtain ⟨d, hd, rfl⟩ := List.mem_map.mp hc
  exact not_isHigh_of_isHexDigit (isHexDigit_lowerCodePoint (hhex.2 d hd)).1

/-- Two plans of one digest remove the same snapshots of the same host and service. -/
theorem RetentionContent.eq_of_digest_eq {content content' : RetentionContent}
    (hsound : content.Sound) (hsound' : content'.Sound)
    (hunforged : Unforged env.sha256 (canonicalText content.members))
    (h : content'.digest env = content.digest env) :
    content'.host = content.host ∧ content'.service = content.service ∧
      content'.policy = content.policy ∧
      content'.removeSnapshotIDs = content.removeSnapshotIDs := by
  have htext := readBack_eq_of_canonicalText_eq (hunforged _ h)
  have hfield := lookup_eq_of_readBack_eq (nodup_retentionMembers _) (nodup_retentionMembers _)
    htext
  have hids {content : RetentionContent} (hsound : content.Sound) :
      ∀ id ∈ content.removeSnapshotIDs, Text.hasPair id = false := fun id hid =>
    let ⟨_, _, hof⟩ := hsound.removed id hid
    hof.not_hasPair
  refine ⟨?_, ?_, ?_, ?_⟩
  · exact string_eq_of_readBack_eq (not_hasPair_of_isSafeName hsound'.host)
      (not_hasPair_of_isSafeName hsound.host) (hfield "host")
  · exact string_eq_of_readBack_eq (not_hasPair_of_isSafeName hsound'.service)
      (not_hasPair_of_isSafeName hsound.service) (hfield "service")
  · exact policy_eq_of_readBack_eq (Option.some.inj (hfield "policy"))
  · exact texts_eq_of_readBack_eq (hids hsound') (hids hsound) (hfield "remove_snapshot_ids")

/-- The command only lists what it would remove. -/
def IsDryRun (arguments : List Text) : Prop :=
  ∃ rest, arguments = Text.ofString "forget" :: Text.ofString "--dry-run" :: rest

/-- What a plan must be for a call to carry it out. -/
structure ApprovedBy (env : Environment) (call : RetentionCall) (content : RetentionContent) :
    Prop where
  host : content.host = call.host
  service : content.service = call.service
  policy : content.policy = call.policy
  digest : (content.digest env).text = lower call.planDigest
  sound : content.Sound

theorem runs_retentionPlan (policy : RetentionPolicy) (host service : Text) :
    Runs IsDryRun (retentionPlan env policy host service) := by
  unfold retentionPlan
  refine Action.Ensures.bind Appends.trans (P := IsDryRun) ?_ fun arguments hdry => ?_
  · intro s
    refine ⟨Appends.refl s, fun arguments h => ?_⟩
    obtain ⟨-, -, hrest⟩ := retentionArguments_eq_ok h
    exact hrest
  · refine Logs.bind (runs_runRestic hdry) fun stdout => ?_
    refine Logs.bind (Logs.ofExcept _) fun payload => Logs.bind (Logs.ofExcept _) fun groups => ?_
    exact Logs.bind (Logs.ofExcept _) fun ids => Logs.bind (Logs.ofExcept _) fun _ => Logs.pure _

/-- Every command is a dry run or removes what the plan of the moment says, which is approved. -/
theorem runs_applyRetention (call : RetentionCall) :
    Runs (fun arguments => IsDryRun arguments ∨ ∃ content, ApprovedBy env call content ∧
      arguments = Text.ofString "forget" :: content.removeSnapshotIDs)
      (applyRetention env call) := by
  unfold applyRetention
  refine Logs.bind (Logs.ofExcept _) fun _ => Logs.bind (Logs.ofExcept _) fun _ => ?_
  have hplan : Action.Ensures (Issues fun arguments => IsDryRun arguments ∨ ∃ content,
      ApprovedBy env call content ∧
        arguments = Text.ofString "forget" :: content.removeSnapshotIDs)
      (fun content => content.host = call.host ∧ content.service = call.service ∧
        content.policy = call.policy ∧ content.Sound)
      (retentionPlan env call.policy call.host call.service) := by
    intro s
    constructor
    · obtain ⟨commands, hissued, hdry⟩ :=
        (runs_retentionPlan call.policy call.host call.service s).1
      exact ⟨commands, hissued, fun command hmem => .inl (hdry command hmem)⟩
    · exact fun content h => retentionPlan_eq_ok (Prod.ext h rfl)
  refine Action.Ensures.bind Appends.trans hplan fun content hcontent => ?_
  obtain ⟨hhost, hservice, hpolicy, hsound⟩ := hcontent
  refine Action.Ensures.bind Appends.trans
    (P := fun _ => (content.digest env).text = lower call.planDigest) ?_ fun _ hdigest => ?_
  · refine fun s => ⟨Appends.refl s, fun _ h => ?_⟩
    have hchecks := raiseIf_eq_ok.mp h
    rw [not_or, not_not] at hchecks
    exact hchecks.1
  · split
    · refine Logs.bind ?_ fun _ => Logs.pure _
      refine runs_runRestic (P := fun arguments => IsDryRun arguments ∨ ∃ content,
        ApprovedBy env call content ∧
          arguments = Text.ofString "forget" :: content.removeSnapshotIDs)
        (.inr ⟨content, ?_, rfl⟩)
      exact ⟨hhost, hservice, hpolicy, hdigest, hsound⟩
    · exact Logs.pure _

/-- A plan that the Controller has made at some time. -/
def RetentionContent.Planned (env : Environment) (content : RetentionContent) : Prop :=
  ∃ policy host service s,
    (retentionPlan env policy host service s).1 = .ok content

def retentionText : Text :=
  Text.ofString "2444f14c238a441bda7fa7239b38deb664a640abef4778c71dc0f97f844b2319"

theorem valid_retentionText :
    (retentionText.length == 64 && retentionText.all isLowerHexDigit) = true := by
  decide

/-- Strings are themselves. No other value is made into a text here. -/
def stringOf : Value → Text
  | .string s => s
  | _ => []

theorem stringOf_other (value : Value) (h : ∀ s, value ≠ .string s) :
    (stringOf value).head? ≠ some (Text.ofChar 'g') := by
  cases value with
  | string s => exact absurd rfl (h s)
  | null | bool | int | float | nonFinite | list | dict => exact Option.some_ne_none _ ∘ Eq.symm

theorem stringOf_string (s : Text) : stringOf (.string s) = s := rfl

def sampleConversion : Conversion := ⟨stringOf, stringOf_string, stringOf_other⟩

/-- The digest is that of the one plan made here. -/
def retentionEnvironment : Environment :=
  ⟨fun _ => ⟨retentionText, valid_retentionText⟩, sampleCategories, sampleConversion⟩

theorem weekPolicy_bounds : 0 ≤ 1000 ∧ 7 ≤ 1000 ∧ 0 ≤ 1000 ∧ 0 ≤ 1000 := by decide

theorem weekPolicy_keeps : ¬(0 = 0 ∧ 7 = 0 ∧ 0 = 0 ∧ 0 = 0) := by decide

def weekPolicy : RetentionPolicy := ⟨0, 7, 0, 0, weekPolicy_bounds, weekPolicy_keeps⟩

def retentionCall : RetentionCall where
  policy := weekPolicy
  host := Text.ofString "node-1"
  service := Text.ofString "api"
  planDigest := retentionText
  approvalID := Text.ofString "approval-1"
  confirmation := Text.ofString "APPLY RETENTION " ++ retentionText

def oldSnapshot : String := "0123456789abcdef0123456789abcdef0123456789abcdef0123456789abcdef"

def retentionAnswers : Backend where
  answers := [.printed ("[\x7b\"remove\":[\x7b\"id\":\"" ++ oldSnapshot ++ "\"," ++
      "\"hostname\":\"node-1\",\"tags\":[\"guardian\",\"guardian-host:node-1\"," ++
      "\"guardian-service:api\"]\x7d]\x7d]"),
    .printed ""]
  issued := []

def forgetCommand : List Text × Answer :=
  ([Text.ofString "forget", Text.ofString oldSnapshot], .printed "")

theorem forgetCommand_mem : forgetCommand ∈
    (applyRetention retentionEnvironment retentionCall retentionAnswers).2.issued.drop
      retentionAnswers.issued.length := by
  decide +kernel

theorem not_isDryRun_forgetCommand : ¬IsDryRun forgetCommand.1 := by
  rintro ⟨rest, h⟩
  exact absurd (List.cons.inj (List.cons.inj h).2).1 (by decide)

end VpsGuardian.Recovery
