import VpsGuardian.Lib.Directory

/-!
Activating a renewed identity (`agent/identity.go`), and what a crash in the
middle of it leaves to the Agent.

Nothing is synced, so the switch of the `current` link can be durable when the
files it leads to are not.
-/

namespace VpsGuardian.Agent

open Lib
open Directory (Operation Root File Node resolve crash)

/-- The paths of a configuration, as lists of their components. -/
structure IdentityPaths where
  privateKeyFile : List String
  certificateFile : List String
  signingKeyFile : List String
  deriving DecidableEq, Repr

/-- The texts of one generation. None is empty: the first two are a key pair that
`validateRenewedIdentity` has parsed, the third an encoded block. -/
structure Identity where
  privateKey : String
  certificate : String
  signingKey : String
  privateKey_ne : privateKey ≠ ""
  certificate_ne : certificate ≠ ""
  signingKey_ne : signingKey ≠ ""

def Identity.files (identity : Identity) : List (String × String) :=
  [("agent.key", identity.privateKey), ("agent.crt", identity.certificate),
    ("signing-ed25519.pem", identity.signingKey)]

/-- The calls that may fail. -/
inductive Call where
  | mkdirTemp
  | chmod
  | openFile (name : String)
  | writeFile (name : String)
  | rename
  | symlink
  | switch
  deriving DecidableEq, Repr

/-- What the system answers: the name it makes up, the two readings of the clock, and the
error of a call that fails. -/
structure Environment where
  random : String
  unix : Int
  unixNano : Int
  error : Call → Option String

/-- `os.MkdirTemp(identityRoot, ".renewing-")`. -/
def Environment.temporary (env : Environment) : String := ".renewing-" ++ env.random

def Environment.finalName (env : Environment) (generation : Nat) : String :=
  "generation-" ++ toString generation ++ "-" ++ toString env.unix

def Environment.nextLink (env : Environment) : String := ".current-" ++ toString env.unixNano

/-- `os.WriteFile` for each file: the operations made, and the error that ended them. -/
def writeFiles (env : Environment) (directory : String) :
    List (String × String) → List Operation × Option String
  | [] => ([], none)
  | (name, data) :: files =>
      match env.error (.openFile name), env.error (.writeFile name) with
      | some err, _ => ([], some err)
      | none, some err => ([.create directory name], some err)
      | none, none =>
          let rest := writeFiles env directory files
          (.create directory name :: .write directory name data :: rest.1, rest.2)

/-- `os.RemoveAll(temporary)`. -/
def removeAll (directory : String) (files : List (String × String)) : List Operation :=
  files.map (fun file => .removeFile directory file.1) ++ [.remove directory]

/-- The operations of `atomicActivateIdentity` in their order, and its error. -/
def atomicActivateIdentity (paths : IdentityPaths) (env : Environment) (generation : Nat)
    (identity : Identity) (root : Root) : List Operation × Option String :=
  let currentDirectory := paths.certificateFile.dropLast
  if currentDirectory.getLast? ≠ some "current" ∨
      paths.privateKeyFile.dropLast ≠ currentDirectory ∨
      paths.signingKeyFile.dropLast ≠ currentDirectory then
    ([], some "automatic renewal requires the generation-based identity layout")
  else
    match root "current" with
    | some (.link _) =>
        let temporary := env.temporary
        let finalName := env.finalName generation
        let nextLink := env.nextLink
        let undo := removeAll temporary identity.files
        let written := writeFiles env temporary identity.files
        let staged := .mkdir temporary :: written.1
        let published := staged ++ [.rename temporary finalName]
        match env.error .mkdirTemp, env.error .chmod, written.2 with
        | some err, _, _ => ([], some err)
        | none, some err, _ => (.mkdir temporary :: undo, some err)
        | none, none, some err => (staged ++ undo, some err)
        | none, none, none =>
            -- a directory does not replace anything that is there already
            match env.error .rename, (root finalName).isSome with
            | some err, _ => (staged ++ undo, some err)
            | none, true => (staged ++ undo, some "file exists")
            | none, false =>
                match env.error .symlink, (root nextLink).isSome, env.error .switch with
                | some err, _, _ => (published, some err)
                | none, true, _ => (published, some "file exists")
                | none, false, some err =>
                    (published ++ [.symlink finalName nextLink, .remove nextLink], some err)
                | none, false, none =>
                    (published ++ [.symlink finalName nextLink, .rename nextLink "current"], none)
    | _ => ([], some "current Agent identity is not an atomic generation link")

def identityNames : List String := ["agent.key", "agent.crt", "signing-ed25519.pem"]

/-- A directory has the whole of a generation. -/
structure Whole (files : String → Option File) (identity : Identity) : Prop where
  privateKey : (files "agent.key").map File.data = some identity.privateKey
  certificate : (files "agent.crt").map File.data = some identity.certificate
  signingKey : (files "signing-ed25519.pem").map File.data = some identity.signingKey

/-- `current` leads to a directory that has the whole of a generation. -/
def Serves (root : Root) (identity : Identity) : Prop :=
  ∃ files, resolve root "current" = some files ∧ Whole files identity

/-- The crash loses none of the three files of a directory. -/
def Kept (lost : String → String → Bool) (directory : String) (files : String → Option File) :
    Prop :=
  ∀ name ∈ identityNames, ∀ file ∈ files name, lost directory name = true → file.synced = true

/-! ### A directory in a crash -/

theorem crash_of_kept {lost : Bool} {file : File} (h : lost = true → file.synced = true) :
    file.crash lost = file := by
  unfold File.crash
  cases lost with
  | false => rfl
  | true => simp [h rfl]

/-- A text that is not empty is in a file after a crash exactly if the file keeps it. -/
theorem synced_of_data_crash {lost : Bool} {file : File} {data : String} (hdata : data ≠ "")
    (h : (file.crash lost).data = data) : lost = true → file.synced = true := by
  rintro rfl
  by_contra hsynced
  have hempty : (file.crash true).data = "" := by
    simp [File.crash, Bool.eq_false_of_not_eq_true hsynced]
  exact hdata (h.symm.trans hempty)

theorem map_data_crash {lost : Bool} {content : Option File} {data : String}
    (h : content.map File.data = some data)
    (hkept : ∀ file ∈ content, lost = true → file.synced = true) :
    (content.map (File.crash lost)).map File.data = some data := by
  cases content with
  | none => exact h
  | some file => rwa [Option.map_some, crash_of_kept (hkept file rfl)]

theorem kept_of_map_data_crash {lost : Bool} {content : Option File} {data : String}
    (hdata : data ≠ "") (h : (content.map (File.crash lost)).map File.data = some data) :
    ∀ file ∈ content, lost = true → file.synced = true := by
  rintro file rfl
  exact synced_of_data_crash hdata (Option.some.inj h)

theorem Whole.crash {files : String → Option File} {identity : Identity}
    (h : Whole files identity) {lost : String → String → Bool} {directory : String}
    (hkept : Kept lost directory files) :
    Whole (fun name => (files name).map (File.crash (lost directory name))) identity where
  privateKey := map_data_crash h.privateKey (hkept _ (by simp [identityNames]))
  certificate := map_data_crash h.certificate (hkept _ (by simp [identityNames]))
  signingKey := map_data_crash h.signingKey (hkept _ (by simp [identityNames]))

theorem Whole.kept {files : String → Option File} {identity : Identity}
    {lost : String → String → Bool} {directory : String}
    (h : Whole (fun name => (files name).map (File.crash (lost directory name))) identity) :
    Kept lost directory files := by
  intro name hname
  simp only [identityNames, List.mem_cons, List.not_mem_nil, or_false] at hname
  obtain rfl | rfl | rfl := hname
  · exact kept_of_map_data_crash identity.privateKey_ne h.privateKey
  · exact kept_of_map_data_crash identity.certificate_ne h.certificate
  · exact kept_of_map_data_crash identity.signingKey_ne h.signingKey

/-- Where `current` leads to the whole of one generation, a crash leaves it leading to the whole
of that or of another one exactly if it loses none of the files. -/
theorem serves_crash_iff {root : Root} {target : String} {files : String → Option File}
    (hlink : root "current" = some (.link target))
    (htarget : root target = some (.directory files)) {identity : Identity}
    (hwhole : Whole files identity) (other : Identity) (lost : String → String → Bool) :
    (Serves (crash lost root) identity ∨ Serves (crash lost root) other) ↔
      Kept lost target files := by
  have hresolve := Directory.resolve_crash lost hlink htarget
  constructor
  · rintro (⟨found, hfound, hfiles⟩ | ⟨found, hfound, hfiles⟩)
    · obtain rfl := Option.some.inj (hresolve.symm.trans hfound)
      exact hfiles.kept
    · obtain rfl := Option.some.inj (hresolve.symm.trans hfound)
      exact hfiles.kept
  · intro hkept
    exact .inl ⟨_, hresolve, hwhole.crash hkept⟩

/-! ### The operations -/

theorem mem_writeFiles {env : Environment} {directory : String} {files : List (String × String)}
    {operation : Operation} (h : operation ∈ (writeFiles env directory files).1) :
    operation.touches = [directory] := by
  induction files with
  | nil => cases h
  | cons file files ih =>
    obtain ⟨name, data⟩ := file
    unfold writeFiles at h
    split at h
    · cases h
    · obtain rfl := List.mem_singleton.mp h
      rfl
    · obtain _ | ⟨_, _ | ⟨_, h⟩⟩ := h
      · rfl
      · rfl
      · exact ih h

theorem mem_removeAll {directory : String} {files : List (String × String)}
    {operation : Operation} (h : operation ∈ removeAll directory files) :
    operation.touches = [directory] := by
  obtain h | h := List.mem_append.mp h
  · obtain ⟨file, -, rfl⟩ := List.mem_map.mp h
    rfl
  · obtain rfl := List.mem_singleton.mp h
    rfl

/-- The switch of the link, the last operation of an activation that succeeds. -/
def Environment.switch (env : Environment) : Operation := .rename env.nextLink "current"

/-- The operations of an activation before the switch. -/
def Environment.staging (env : Environment) (generation : Nat) (identity : Identity) :
    List Operation :=
  .mkdir env.temporary :: (writeFiles env env.temporary identity.files).1 ++
    [.rename env.temporary (env.finalName generation),
      .symlink (env.finalName generation) env.nextLink]

/-- An operation that touches only entries that were not there before. -/
def Fresh (root : Root) (operation : Operation) : Prop :=
  ∀ name ∈ operation.touches, root name = none

/-- Either no operation touches an entry that was there before, or the activation goes through
to the switch. -/
theorem atomicActivateIdentity_cases (paths : IdentityPaths) (env : Environment)
    (generation : Nat) (identity : Identity) {root : Root} (hfresh : root env.temporary = none) :
    (∀ operation ∈ (atomicActivateIdentity paths env generation identity root).1,
      Fresh root operation) ∨
    (root (env.finalName generation) = none ∧ root env.nextLink = none ∧
      (writeFiles env env.temporary identity.files).2 = none ∧
      (atomicActivateIdentity paths env generation identity root).1 =
        env.staging generation identity ++ [env.switch]) := by
  have hmade : Fresh root (.mkdir env.temporary) := by simpa [Fresh, Operation.touches] using hfresh
  have hwritten : ∀ operation ∈ (writeFiles env env.temporary identity.files).1,
      Fresh root operation := by
    intro operation hmem name hname
    rw [mem_writeFiles hmem, List.mem_singleton] at hname
    rwa [hname]
  have hundone : ∀ operation ∈ removeAll env.temporary identity.files, Fresh root operation := by
    intro operation hmem name hname
    rw [mem_removeAll hmem, List.mem_singleton] at hname
    rwa [hname]
  unfold atomicActivateIdentity
  dsimp only
  split
  · exact .inl fun _ hmem => absurd hmem List.not_mem_nil
  split
  · split
    · exact .inl fun _ hmem => absurd hmem List.not_mem_nil
    · left
      simpa [hmade] using hundone
    · left
      simpa [hmade, or_imp, forall_and] using ⟨hwritten, hundone⟩
    next hwrote =>
      split
      · left
        simpa [hmade, or_imp, forall_and] using ⟨hwritten, hundone⟩
      · left
        simpa [hmade, or_imp, forall_and] using ⟨hwritten, hundone⟩
      next hfinal =>
        replace hfinal : root (env.finalName generation) = none := by simpa using hfinal
        have hpublished : Fresh root (.rename env.temporary (env.finalName generation)) := by
          simpa [Fresh, Operation.touches] using ⟨hfresh, hfinal⟩
        split
        · left
          simpa [hmade, hpublished, or_imp, forall_and] using hwritten
        · left
          simpa [hmade, hpublished, or_imp, forall_and] using hwritten
        next hnext _ =>
          replace hnext : root env.nextLink = none := by simpa using hnext
          left
          have hlinked : Fresh root (.symlink (env.finalName generation) env.nextLink) := by
            simpa [Fresh, Operation.touches] using hnext
          have hremoved : Fresh root (.remove env.nextLink) := by
            simpa [Fresh, Operation.touches] using hnext
          simpa [hmade, hpublished, hlinked, hremoved, or_imp, forall_and] using hwritten
        next hnext _ =>
          right
          refine ⟨hfinal, by simpa using hnext, hwrote, ?_⟩
          simp [Environment.staging, Environment.switch]
  · exact .inl fun _ hmem => absurd hmem List.not_mem_nil

theorem fresh_staging {env : Environment} {generation : Nat} {identity : Identity} {root : Root}
    (hfresh : root env.temporary = none) (hfinal : root (env.finalName generation) = none)
    (hnext : root env.nextLink = none) :
    ∀ operation ∈ env.staging generation identity, Fresh root operation := by
  intro operation hmem name hname
  simp only [Environment.staging, List.cons_append, List.mem_cons, List.mem_append,
    List.not_mem_nil, or_false] at hmem
  obtain rfl | hmem | rfl | rfl := hmem
  · obtain rfl := List.mem_singleton.mp hname
    exact hfresh
  · rw [mem_writeFiles hmem, List.mem_singleton] at hname
    rwa [hname]
  · obtain rfl | rfl := List.mem_pair.mp hname
    · exact hfresh
    · exact hfinal
  · obtain rfl := List.mem_singleton.mp hname
    exact hnext

/-- Fresh operations leave `current` leading where it led. -/
theorem run_fresh {root : Root} {operations : List Operation}
    (h : ∀ operation ∈ operations, Fresh root operation) {name : String} {node : Node}
    (hnode : root name = some node) : run Directory.apply root operations name = some node := by
  rw [Directory.run_of_not_touched, hnode]
  intro operation hmem htouched
  rw [h operation hmem name htouched] at hnode
  cases hnode

/-! ### The switch -/

/-- The names an activation makes up are told apart by how they begin. -/
theorem names_distinct (env : Environment) (generation : Nat) :
    [env.temporary, env.finalName generation, env.nextLink, "current"].Nodup := by
  have hhead : ([env.temporary, env.finalName generation, env.nextLink, "current"].map
      fun name => name.toList.take 2).Nodup := by
    simp [Environment.temporary, Environment.finalName, Environment.nextLink]
  exact hhead.of_map _

theorem writeFiles_operations {env : Environment} {directory : String}
    {files : List (String × String)} (h : (writeFiles env directory files).2 = none) :
    (writeFiles env directory files).1 =
      files.flatMap fun file => [.create directory file.1, .write directory file.1 file.2] := by
  induction files with
  | nil => rfl
  | cons file files ih =>
    obtain ⟨name, data⟩ := file
    unfold writeFiles at h ⊢
    split at h
    · cases h
    · cases h
    · simpa using ih h

/-- The files of a directory into which an identity has been written. -/
def writtenFiles (identity : Identity) : String → Option File := fun name =>
  (identity.files.lookup name).map fun data => ⟨data, false⟩

theorem whole_writtenFiles (identity : Identity) : Whole (writtenFiles identity) identity :=
  ⟨rfl, rfl, rfl⟩

theorem exists_writtenFiles (identity : Identity) {name : String} (h : name ∈ identityNames) :
    ∃ data, writtenFiles identity name = some ⟨data, false⟩ := by
  simp only [identityNames, List.mem_cons, List.not_mem_nil, or_false] at h
  obtain rfl | rfl | rfl := h
  · exact ⟨_, rfl⟩
  · exact ⟨_, rfl⟩
  · exact ⟨_, rfl⟩

/-- None of the new files is synced, so a crash that can lose one must not. -/
theorem kept_writtenFiles {identity : Identity} {lost : String → String → Bool}
    {directory : String} : Kept lost directory (writtenFiles identity) ↔
      ∀ name ∈ identityNames, lost directory name = false := by
  constructor
  · intro h name hname
    obtain ⟨data, hdata⟩ := exists_writtenFiles identity hname
    apply Bool.eq_false_of_not_eq_true
    intro hlost
    exact Bool.false_ne_true (h name hname _ hdata hlost)
  · intro h name hname file _ hlost
    rw [h name hname] at hlost
    cases hlost

/-- After the switch `current` leads to the new directory. -/
theorem run_switched {env : Environment} {generation : Nat} {identity : Identity} {root : Root}
    (hwrote : (writeFiles env env.temporary identity.files).2 = none) :
    run Directory.apply root (env.staging generation identity ++ [env.switch]) "current" =
        some (.link (env.finalName generation)) ∧
      run Directory.apply root (env.staging generation identity ++ [env.switch])
        (env.finalName generation) = some (.directory (writtenFiles identity)) := by
  have hdistinct := names_distinct env generation
  simp only [List.nodup_cons, List.mem_cons, List.not_mem_nil, or_false, not_or] at hdistinct
  obtain ⟨⟨htf, htn, htc⟩, ⟨hfn, hfc⟩, hnc, -⟩ := hdistinct
  have hfiles : Function.update (Function.update (Function.update (fun _ => none)
      "agent.key" (some ⟨identity.privateKey, false⟩))
      "agent.crt" (some ⟨identity.certificate, false⟩))
      "signing-ed25519.pem" (some ⟨identity.signingKey, false⟩) = writtenFiles identity := by
    funext name
    simp only [Function.update_apply, writtenFiles, Identity.files, List.lookup_cons]
    grind
  rw [Environment.staging, writeFiles_operations hwrote]
  simp only [Identity.files, Environment.switch]
  simp [Directory.apply, Directory.setFile, Ne.symm hnc, Ne.symm htf, *]

/-! ### Crashes -/

/-- The activation has got to the switch of the link by the time of the crash. -/
def Switched (env : Environment) (done : List Operation) : Prop := env.switch ∈ done

instance (env : Environment) (done : List Operation) : Decidable (Switched env done) :=
  inferInstanceAs (Decidable (env.switch ∈ done))

theorem eq_of_mem_take {α : Type} {items : List α} {last : α} {count : Nat}
    (h : last ∈ (items ++ [last]).take count) (hlast : last ∉ items) :
    (items ++ [last]).take count = items ++ [last] := by
  obtain hlt | hle := Nat.lt_or_ge items.length count
  · exact List.take_of_length_le (by simpa using hlt)
  · rw [List.take_append_of_le_length hle] at h
    exact absurd (List.mem_of_mem_take h) hlast

/-- Let `current` lead to a directory with the whole of a generation, and let the system make up
a name that is not taken. After a crash at any point of an activation, `current` leads to the
whole of the old or of the new generation exactly if the crash loses none of the files that
`current` leads to by then: those of the old one before the switch, those just written, of
which none is synced, after it. -/
theorem activation_survives_iff (paths : IdentityPaths) (env : Environment) (generation : Nat)
    (new : Identity) {root : Root} {target : String} {files : String → Option File}
    {old : Identity} (hlink : root "current" = some (.link target))
    (htarget : root target = some (.directory files)) (hold : Whole files old)
    (hfresh : root env.temporary = none) (count : Nat) (lost : String → String → Bool) :
    let done := (atomicActivateIdentity paths env generation new root).1.take count
    let left := crash lost (run Directory.apply root done)
    (Serves left old ∨ Serves left new) ↔
      if Switched env done then ∀ name ∈ identityNames, lost (env.finalName generation) name = false
      else Kept lost target files := by
  intro done left
  have hcurrent : ¬ Fresh root env.switch := by
    intro h
    rw [h "current" (by simp [Environment.switch, Directory.Operation.touches])] at hlink
    cases hlink
  -- before the switch
  have hbefore (h : ∀ operation ∈ done, Fresh root operation) :
      (Serves left old ∨ Serves left new) ↔ Kept lost target files :=
    serves_crash_iff (run_fresh h hlink) (run_fresh h htarget) hold new lost
  obtain hall | ⟨hfinal, hnext, hwrote, hdone⟩ :=
    atomicActivateIdentity_cases paths env generation new hfresh
  · have hfreshDone : ∀ operation ∈ done, Fresh root operation :=
      fun operation hmem => hall operation (List.mem_of_mem_take hmem)
    rw [if_neg (show ¬ Switched env done from fun h => hcurrent (hfreshDone _ h))]
    exact hbefore hfreshDone
  · have hstaging : ∀ operation ∈ env.staging generation new, Fresh root operation :=
      fresh_staging hfresh hfinal hnext
    split
    next hswitched =>
      have hcomplete : done = env.staging generation new ++ [env.switch] := by
        have hmem : env.switch ∈ (env.staging generation new ++ [env.switch]).take count := by
          rw [← hdone]
          exact hswitched
        exact (congrArg (List.take count) hdone).trans
          (eq_of_mem_take hmem fun h => hcurrent (hstaging _ h))
      obtain ⟨hrelinked, hwritten⟩ := @run_switched env generation new root hwrote
      rw [← hcomplete] at hrelinked hwritten
      rw [or_comm, ← @kept_writtenFiles new]
      exact serves_crash_iff hrelinked hwritten (whole_writtenFiles new) old lost
    next hswitched =>
      apply hbefore
      intro operation hmem
      have hin : operation ∈ env.staging generation new ++ [env.switch] := by
        rw [← hdone]
        exact List.mem_of_mem_take hmem
      obtain hin | hin := List.mem_append.mp hin
      · exact hstaging operation hin
      · obtain rfl := List.mem_singleton.mp hin
        exact absurd hmem hswitched

def standardPaths : IdentityPaths where
  privateKeyFile := ["etc", "identities", "current", "agent.key"]
  certificateFile := ["etc", "identities", "current", "agent.crt"]
  signingKeyFile := ["etc", "identities", "current", "signing-ed25519.pem"]

def quietEnvironment : Environment where
  random := "1"
  unix := 1700000000
  unixNano := 1700000000000000000
  error := fun _ => none

theorem firstIdentity_ne : "key 1" ≠ "" ∧ "certificate 1" ≠ "" ∧ "signing key 1" ≠ "" := by decide

theorem secondIdentity_ne : "key 2" ≠ "" ∧ "certificate 2" ≠ "" ∧ "signing key 2" ≠ "" := by decide

def firstIdentity : Identity where
  privateKey := "key 1"
  certificate := "certificate 1"
  signingKey := "signing key 1"
  privateKey_ne := firstIdentity_ne.1
  certificate_ne := firstIdentity_ne.2.1
  signingKey_ne := firstIdentity_ne.2.2

def secondIdentity : Identity where
  privateKey := "key 2"
  certificate := "certificate 2"
  signingKey := "signing key 2"
  privateKey_ne := secondIdentity_ne.1
  certificate_ne := secondIdentity_ne.2.1
  signingKey_ne := secondIdentity_ne.2.2

/-- One generation, synced. -/
def firstRoot : Root
  | "current" => some (.link "generation-1")
  | "generation-1" => some (.directory fun name =>
      (firstIdentity.files.lookup name).map fun data => ⟨data, true⟩)
  | _ => none

/-- A crash in the middle of the activation, with every unsynced content lost. -/
theorem activation_survives_half_way :
    Serves (crash (fun _ _ => true) (run Directory.apply firstRoot
        ((atomicActivateIdentity standardPaths quietEnvironment 2 secondIdentity firstRoot).1.take
          5))) firstIdentity ∨
      Serves (crash (fun _ _ => true) (run Directory.apply firstRoot
        ((atomicActivateIdentity standardPaths quietEnvironment 2 secondIdentity firstRoot).1.take
          5))) secondIdentity := by
  apply (@activation_survives_iff standardPaths quietEnvironment 2 secondIdentity firstRoot
    "generation-1" _ _ rfl rfl ⟨rfl, rfl, rfl⟩ rfl 5 _).mpr
  rw [if_neg (by decide)]
  intro name hname file hfile _
  obtain ⟨data, -, rfl⟩ := Option.map_eq_some_iff.mp hfile
  rfl

/-- A crash after the switch that loses the new key: the link is new, the file is empty. -/
theorem switched_to_lost_key :
    ¬ (Serves (crash (fun _ name => name == "agent.key") (run Directory.apply firstRoot
        (atomicActivateIdentity standardPaths quietEnvironment 2 secondIdentity firstRoot).1))
        firstIdentity ∨
      Serves (crash (fun _ name => name == "agent.key") (run Directory.apply firstRoot
        (atomicActivateIdentity standardPaths quietEnvironment 2 secondIdentity firstRoot).1))
        secondIdentity) := by
  rintro (⟨files, hfiles, hwhole⟩ | ⟨files, hfiles, hwhole⟩)
  · obtain rfl := Option.some.inj hfiles
    exact absurd hwhole.privateKey (by decide)
  · obtain rfl := Option.some.inj hfiles
    exact absurd hwhole.privateKey (by decide)

end VpsGuardian.Agent
