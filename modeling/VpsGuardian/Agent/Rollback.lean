import VpsGuardian.Agent.Actions
import VpsGuardian.Lib.Hoare

/-!
Putting an earlier Caddy configuration back (`rollbackCaddyConfig` of `agent/actions.go`), and
what the host is left with wherever it fails or stops.
-/

namespace VpsGuardian.Agent

open Lib
open Filepath (isAbs dir base join rel)
open Monitoring.ServiceChecks (isIdentifier)

variable (config : Config) (env : Surroundings)

/-! ### The action -/

/-- A call that ends the action where it fails. -/
def call (effect : Effect) : Step Unit := do
  let answer ← perform effect
  check answer.error

def close : Step Unit := do
  let answer ← ask
  check answer.error

/-- `os.Lstat` of what has to be a regular file. -/
def lstatRegular (path message : String) : Step File := do
  let info ← ask
  let files ← getFiles
  .ofExcept (orRaise (if info.error = none then files.regular? path else none) message)

/-- `os.ReadFile` -/
def readFile (path : String) : Step ByteArray := do
  let answer ← ask
  check answer.error
  let files ← getFiles
  let file ← .ofExcept (orRaise (files.regular? path) "no such file")
  return file.content

/-- `os.CreateTemp`, with a random text after the pattern. -/
def createTemp (directory pattern : String) : Step String := do
  let random ← ask
  check random.error
  let path := join [directory, pattern ++ random.text]
  call (.create path 0o600)
  return path

def copyFileExclusive (source destination : String) (mode : Nat) : Step Unit := do
  let content ← readFile source
  call (.create destination mode)
  call (.write destination content)
  close

/-- `snapshotHashPattern` -/
def isSnapshotHash (text : List Char) : Bool :=
  text.length = 64 && text.all fun c => c.isDigit || ('a' ≤ c && c ≤ 'f')

/-- The path leads out of the directory it is relative to. -/
def escapes (relative : Option String) : Bool :=
  match relative with
  | some relative => relative = ".." ∨ isAbs relative ∨ relative.toList.take 3 = ['.', '.', '/']
  | none => true

def readVerifiedSnapshot (root snapshot target : String) : Step ByteArray := do
  let candidate := join [root, snapshot, base target]
  let _ ← lstatRegular candidate "snapshot is not a regular file"
  let resolved ← ask
  .ofExcept (raiseIf (resolved.error ≠ none) "snapshot file is unavailable")
  .ofExcept (raiseIf (escapes (rel root resolved.text) = true)
    "snapshot escaped the configured directory")
  let manifest := candidate ++ ".sha256"
  let _ ← lstatRegular manifest "snapshot hash manifest is unavailable"
  let expectedData ← (readFile manifest).mapError fun _ => "snapshot hash manifest is unavailable"
  let expectedHash ← .ofExcept (orRaise (trimSpace expectedData)
    "snapshot hash manifest is invalid")
  .ofExcept (raiseIf (isSnapshotHash expectedHash = false) "snapshot hash manifest is invalid")
  let candidateData ← readFile resolved.text
  .ofExcept (raiseIf ((env.sha256String candidateData).toList ≠ expectedHash)
    "snapshot hash mismatch")
  return candidateData

def notCreated : String := "Caddy reload failed and rollback file could not be created"

def notRestored : String := "Caddy reload failed and automatic rollback failed"

/-- What follows a reload that failed. -/
def restorePrevious (target : String) (current : File) : Step Unit := do
  let restore ← (createTemp (dir target) ".guardian-caddy-restore-").mapError fun _ => notCreated
  (do
    call (.write restore current.content)
    call (.chmod restore current.mode)
    close
    call (.rename restore target)).mapError fun _ => notRestored
  (performCaddyReload config).ignore
  .throw "Caddy reload failed; previous configuration was restored"

def backupPath (target : String) : String :=
  join [config.actionBackupDirectory, base target ++ "." ++ env.stamp]

/-- What is done with the temporary file before the configuration is replaced. -/
def stageCandidate (temporary : String) (current : File) (data : ByteArray) : Step Unit := do
  call (.chmod temporary current.mode)
  call (.write temporary data)
  close
  let validation ← validateCaddyPath config temporary
  check validation.2

def backupCurrent (target : String) : Step Unit := do
  call (.mkdirAll config.actionBackupDirectory)
  (copyFileExclusive target (backupPath config env target) 0o600).mapError
    ("backup current configuration: " ++ ·)
  setBefore "backup_path" (backupPath config env target)

def reloadOrRestore (target : String) (current : File) : Step Unit := do
  let reload ← (performCaddyReload config).attempt
  match reload with
  | .ok () => pure ()
  | .error _ => restorePrevious config target current

def replaceConfig (target temporary : String) (current : File) (data : ByteArray) (dryRun : Bool) :
    Step Unit := do
  stageCandidate config temporary current data
  if dryRun then setMessage "snapshot is valid; would atomically restore and reload Caddy"
  else do
    backupCurrent config env target
    (call (.rename temporary target)).mapError ("replace configuration: " ++ ·)
    reloadOrRestore config target current

def rollbackCaddyConfig (target snapshot : String) (dryRun : Bool) : Step Unit := do
  .ofExcept (raiseIf (isAbs target = false ∨ target ∉ config.configAllowlist)
    "configuration path is not allowlisted")
  .ofExcept (raiseIf (isIdentifier snapshot = false ∨ isAbs config.snapshotDirectory = false ∨
    isAbs config.actionBackupDirectory = false) "snapshot configuration is invalid")
  let root ← ask
  .ofExcept (raiseIf (root.error ≠ none) "snapshot directory is unavailable")
  let candidateData ← readVerifiedSnapshot env root.text snapshot target
  let current ← lstatRegular target "current configuration is not a regular file"
  let currentData ← readFile target
  setBefore "config_sha256" (env.sha256String currentData)
  setAfter "config_sha256" (env.sha256String candidateData)
  let temporary ← createTemp (dir target) ".guardian-caddy-candidate-"
  let result ← (replaceConfig config env target temporary ⟨currentData, current.mode⟩
    candidateData dryRun).attempt
  -- the deferred removal of the temporary file
  let _ ← perform (.remove temporary)
  .ofExcept result

/-! ### What is seen of a host -/

/-- The files, and the calls so far. -/
structure View where
  files : Files
  effects : List (Effect × Answer)

def Host.view (s : Host) : View := ⟨s.files, s.effects⟩

/-- The view after a call that has reached the host. -/
def View.after (v : View) (effect : Effect) (answer : Answer) : View :=
  ⟨effect.apply v.files answer, v.effects ++ [(effect, answer)]⟩

/-- The calls that have succeeded between two views, in their order. -/
def View.done (u v : View) : List Effect :=
  ((v.effects.drop u.effects.length).filter fun entry => entry.2.error = none).map Prod.fst

/-- A triple about what is seen. -/
def Spec {α : Type} (P : View → Prop) (m : Step α) (Q : α → View → Prop)
    (E : String → View → Prop) : Prop :=
  Action.Triple (fun s => P s.view) m (fun a s => Q a s.view) fun e s => E e s.view

section Rules

variable {α β : Type} {P P' : View → Prop} {Q Q' : α → View → Prop} {R : β → View → Prop}
  {E E' : String → View → Prop}

theorem Spec.mono {m : Step α} (h : Spec P m Q E) (hP : ∀ v, P' v → P v)
    (hQ : ∀ a v, Q a v → Q' a v) (hE : ∀ e v, E e v → E' e v) : Spec P' m Q' E' :=
  Action.Triple.mono h (fun s => hP s.view) (fun a s => hQ a s.view) fun e s => hE e s.view

theorem Spec.pure {a : α} (h : ∀ v, P v → Q a v) : Spec P (Pure.pure a) Q E :=
  Action.Triple.pure fun s => h s.view

theorem Spec.throw {e : String} (h : ∀ v, P v → E e v) : Spec P (.throw e) Q E :=
  Action.Triple.throw fun s => h s.view

theorem Spec.ofExcept {result : Except String α} (hok : ∀ a v, result = .ok a → P v → Q a v)
    (herror : ∀ e v, result = .error e → P v → E e v) : Spec P (.ofExcept result) Q E :=
  Action.Triple.ofExcept (fun a s => hok a s.view) fun e s => herror e s.view

theorem Spec.bind {m : Step β} {f : β → Step α} (hm : Spec P m R E)
    (hf : ∀ b, Spec (R b) (f b) Q E) : Spec P (m >>= f) Q E :=
  Action.Triple.bind hm hf

theorem Spec.attempt {m : Step α} {R : Except String α → View → Prop}
    (h : Spec P m (fun a => R (.ok a)) fun e => R (.error e)) : Spec P m.attempt R E :=
  Action.Triple.attempt h

theorem Spec.ignore {m : Step α} {R : View → Prop} (h : Spec P m (fun _ => R) fun _ => R) :
    Spec P m.ignore (fun _ => R) E :=
  Action.Triple.ignore h

theorem Spec.mapError {f : String → String} {m : Step α} (h : Spec P m Q fun e => E (f e)) :
    Spec P (m.mapError f) Q E :=
  Action.Triple.mapError h

/-- A program may be looked at from each view that it can start from. -/
theorem Spec.of_start {m : Step α} (h : ∀ v, P v → Spec (· = v) m Q E) : Spec P m Q E :=
  fun s t hs => h s.view hs s t rfl

theorem spec_ask : Spec P ask (fun _ => P) E := by
  rintro s t hs
  refine ⟨fun answer h => ?_, nofun⟩
  cases h
  exact hs

theorem spec_getFiles : Spec P getFiles (fun files v => P v ∧ files = v.files) E := by
  rintro s t hs
  refine ⟨fun files h => ?_, nofun⟩
  cases h
  exact ⟨hs, rfl⟩

theorem spec_setBefore (key value : String) : Spec P (setBefore key value) (fun _ => P) E := by
  rintro s t hs
  refine ⟨fun files h => ?_, nofun⟩
  cases h
  exact hs

theorem spec_setAfter (key value : String) : Spec P (setAfter key value) (fun _ => P) E := by
  rintro s t hs
  refine ⟨fun files h => ?_, nofun⟩
  cases h
  exact hs

theorem spec_setMessage (message : String) : Spec P (setMessage message) (fun _ => P) E := by
  rintro s t hs
  refine ⟨fun files h => ?_, nofun⟩
  cases h
  exact hs

theorem spec_check (error : Option String) :
    Spec P (check error) (fun _ v => P v ∧ error = none) fun _ => P := by
  cases error with
  | none => exact .pure fun s hs => ⟨hs, rfl⟩
  | some error => exact .throw fun s hs => hs

theorem spec_raiseIf {c : Prop} [Decidable c] (message : String) :
    Spec P (.ofExcept (raiseIf c message)) (fun _ v => P v ∧ ¬c) fun _ => P :=
  .ofExcept (fun _ _ hok hv => ⟨hv, raiseIf_eq_ok.mp hok⟩) fun _ _ _ hv => hv

/-- A call that reaches the host, and one that does not because the process has stopped. -/
theorem spec_perform {effect : Effect} {Q : Answer → View → Prop}
    (hdone : ∀ v answer, P v → (answer.error = none → effect.refused v.files = false) →
      Q answer (v.after effect answer))
    (hskip : ∀ v answer, P v → answer.error ≠ none → Q answer v) :
    Spec P (perform effect) Q E := by
  intro s t hs
  refine ⟨fun answer h => ?_, nofun⟩
  cases hrunning : s.running with
  | false =>
    simp only [perform, hrunning, Bool.false_eq_true, if_false] at h
    cases h
    exact hskip _ _ hs (by simp [stopped])
  | true =>
    simp only [perform, hrunning, if_true] at h
    cases h
    refine hdone s.view _ hs fun hnone => ?_
    dsimp only at hnone
    split_ifs at hnone with hstops hrefused
    exact Bool.eq_false_of_not_eq_true hrefused

theorem spec_call {effect : Effect} {Q : Unit → View → Prop}
    (hdone : ∀ v answer, P v → answer.error = none → effect.refused v.files = false →
      Q () (v.after effect answer))
    (hfail : ∀ v answer e, P v → answer.error = some e → E e (v.after effect answer))
    (hskip : ∀ v e, P v → E e v) : Spec P (call effect) Q E := by
  refine Spec.bind (R := fun answer v => (answer.error = none → Q () v) ∧
    ∀ e, answer.error = some e → E e v) (spec_perform ?_ ?_) fun answer => ?_
  · exact fun v answer hv hrefused =>
      ⟨fun h => hdone v answer hv h (hrefused h), fun e h => hfail v answer e hv h⟩
  · exact fun v answer hv herror => ⟨fun h => absurd h herror, fun e _ => hskip v e hv⟩
  · cases herror : answer.error with
    | none => exact .pure fun s hs => hs.1 rfl
    | some e => exact .throw fun s hs => hs.2 e rfl

end Rules

/-! ### What stays -/

/-- The paths that a call may change. -/
def Effect.touches : Effect → List String
  | .create path _ | .chmod path _ | .write path _ | .remove path | .mkdirAll path => [path]
  | .rename source destination => [source, destination]
  | .command _ _ _ | .get _ | .helper _ => []

@[simp] theorem set_same (files : Files) (path : String) (entry : Option Entry) :
    files.set path entry path = entry := if_pos rfl

theorem set_of_ne {files : Files} {path path' : String} (entry : Option Entry) (h : path' ≠ path) :
    files.set path entry path' = files path' := if_neg h

theorem apply_of_not_touched {files : Files} {answer : Answer} {effect : Effect} {path : String}
    (h : path ∉ effect.touches) : effect.apply files answer path = files path := by
  cases effect with
  | command | get | helper => rfl
  | create | remove | mkdirAll =>
    rw [Effect.touches, List.mem_singleton] at h
    simp only [Effect.apply]
    split
    · exact set_of_ne _ h
    · rfl
  | chmod path' mode =>
    rw [Effect.touches, List.mem_singleton] at h
    cases hfile : files.regular? path' with
    | none => simp only [Effect.apply, hfile]
    | some file =>
      simp only [Effect.apply, hfile]
      split
      · exact set_of_ne _ h
      · rfl
  | write path' data =>
    rw [Effect.touches, List.mem_singleton] at h
    cases hfile : files.regular? path' with
    | none => simp only [Effect.apply, hfile]
    | some file =>
      simp only [Effect.apply, hfile]
      exact set_of_ne _ h
  | rename source destination =>
    simp only [Effect.touches, List.mem_cons, List.not_mem_nil, or_false, not_or] at h
    simp only [Effect.apply]
    split
    · rw [set_of_ne _ h.1, set_of_ne _ h.2]
    · rfl

theorem after_of_not_touched {v : View} {answer : Answer} {effect : Effect} {path : String}
    (h : path ∉ effect.touches) : (v.after effect answer).files path = v.files path :=
  apply_of_not_touched h

/-! ### What has been done -/

theorem drop_of_prefix {α : Type} {before after : List α} (h : before <+: after) :
    ∃ more, after = before ++ more ∧ after.drop before.length = more := by
  obtain ⟨more, rfl⟩ := h
  exact ⟨more, rfl, List.drop_left⟩

theorem done_trans {u v w : View} (h : u.effects <+: v.effects) (h' : v.effects <+: w.effects) :
    u.done w = u.done v ++ v.done w := by
  obtain ⟨first, hfirst, hdrop⟩ := drop_of_prefix h
  obtain ⟨second, hsecond, hdrop'⟩ := drop_of_prefix h'
  have hall : w.effects.drop u.effects.length = first ++ second := by
    rw [hsecond, hfirst, List.append_assoc, List.drop_left]
  rw [View.done, View.done, View.done, hdrop, hdrop', hall, List.filter_append, List.map_append]

theorem done_after (v : View) (effect : Effect) {answer : Answer} (h : answer.error = none) :
    v.done (v.after effect answer) = [effect] := by
  simp [View.done, View.after, h]

/-! ### How two views are related -/

/-- Everything that was there is as it was. -/
structure Since (u v : View) : Prop where
  log : u.effects <+: v.effects
  kept : ∀ path, u.files path ≠ none → v.files path = u.files path

/-- A new file, its content so far, and calls that have been made on the way. -/
structure Staged (u : View) (path : String) (file : File) (effects : List Effect) (v : View) : Prop
    extends Since u v where
  fresh : u.files path = none
  staged : v.files path = some (.regular file)
  done : effects.Sublist (u.done v)

/-- Everything that was there is as it was but for one file, which is now another one. -/
structure Replaced (u : View) (target : String) (file : File) (effects : List Effect) (v : View) :
    Prop where
  log : u.effects <+: v.effects
  replaced : v.files target = some (.regular file)
  others : ∀ path, path ≠ target → u.files path ≠ none → v.files path = u.files path
  done : effects.Sublist (u.done v)

variable {u v w : View} {path target temporary : String} {file file' : File}
  {effects more : List Effect}

theorem Since.refl (u : View) : Since u u := ⟨List.prefix_refl _, fun _ _ => rfl⟩

theorem Since.trans (h : Since u v) (h' : Since v w) : Since u w where
  log := h.log.trans h'.log
  kept := fun path hpath => by
    rw [h'.kept path (h.kept path hpath ▸ hpath), h.kept path hpath]

/-- What is not there now was not there before. -/
theorem Since.fresh (h : Since u v) (hpath : v.files path = none) : u.files path = none := by
  by_contra hne
  exact hne ((h.kept path hne).symm.trans hpath)

theorem Since.regular (h : Since u v) (hfile : u.files path = some (.regular file)) :
    v.files path = some (.regular file) :=
  (h.kept path (by simp [hfile])).trans hfile

/-- A call that changes nothing that was there. -/
theorem Since.after (h : Since u v) {effect : Effect} {answer : Answer}
    (htouches : ∀ path ∈ effect.touches, u.files path = none) :
    Since u (v.after effect answer) where
  log := h.log.trans (List.prefix_append _ _)
  kept := fun path hpath => by
    have hnot : path ∉ effect.touches := fun hmem => hpath (htouches path hmem)
    exact (after_of_not_touched hnot).trans (h.kept path hpath)

/-- A call that has failed without a trace. -/
theorem Since.after_of_same (h : Since u v) {effect : Effect} {answer : Answer}
    (hsame : effect.apply v.files answer = v.files) : Since u (v.after effect answer) where
  log := h.log.trans (List.prefix_append _ _)
  kept := fun path hpath => by
    rw [View.after, hsame]
    exact h.kept path hpath

theorem Since.mkdirAll (h : Since u v) (path : String) (answer : Answer) :
    Since u (v.after (.mkdirAll path) answer) := by
  by_cases hnone : v.files path = none
  · apply h.after
    simpa [Effect.touches] using h.fresh hnone
  · apply h.after_of_same
    rw [Effect.apply, if_neg fun hboth => hnone hboth.2]

theorem sublist_done (h : u.effects <+: v.effects) (h' : v.effects <+: w.effects)
    (hdone : effects.Sublist (u.done v)) (hmore : more.Sublist (v.done w)) :
    (effects ++ more).Sublist (u.done w) := by
  rw [done_trans h h']
  exact hdone.append hmore

theorem Staged.append (h : Staged u path file effects v) (h' : Since v w)
    (hmore : more.Sublist (v.done w)) : Staged u path file (effects ++ more) w where
  toSince := h.toSince.trans h'
  fresh := h.fresh
  staged := h'.regular h.staged
  done := sublist_done h.log h'.log h.done hmore

theorem Staged.trans (h : Staged u path file effects v) (h' : Since v w) :
    Staged u path file effects w := by
  simpa using h.append h' (List.nil_sublist _)

theorem Replaced.append (h : Replaced u target file effects v) (h' : Since v w)
    (hmore : more.Sublist (v.done w)) : Replaced u target file (effects ++ more) w where
  log := h.log.trans h'.log
  replaced := h'.regular h.replaced
  others := fun path hne hpath => by
    rw [h'.kept path (h.others path hne hpath ▸ hpath), h.others path hne hpath]
  done := sublist_done h.log h'.log h.done hmore

theorem Replaced.trans (h : Replaced u target file effects v) (h' : Since v w) :
    Replaced u target file effects w := by
  simpa using h.append h' (List.nil_sublist _)

/-- What was replaced twice, the second time with what was there first, is as it was. -/
theorem Replaced.undone (h : Replaced u target file effects v)
    (h' : Replaced v target file' more w) (hfile : u.files target = some (.regular file')) :
    Since u w where
  log := h.log.trans h'.log
  kept := fun path hpath => by
    by_cases hne : path = target
    · rw [hne, h'.replaced, hfile]
    · rw [h'.others path hne (h.others path hne hpath ▸ hpath), h.others path hne hpath]

/-- The call that moves a new file over one that was there. -/
theorem Staged.rename (h : Staged u temporary file effects v) (htarget : u.files target ≠ none)
    {answer : Answer} (hok : answer.error = none) :
    Replaced u target file (effects ++ [.rename temporary target])
      (v.after (.rename temporary target) answer) := by
  have hne : target ≠ temporary := fun heq => htarget (heq ▸ h.fresh)
  have hfiles : (v.after (.rename temporary target) answer).files =
      (v.files.set target (v.files temporary)).set temporary none := by
    rw [View.after, Effect.apply, if_pos ⟨hok, hne.symm⟩]
  constructor
  · exact h.log.trans (List.prefix_append _ _)
  · rw [hfiles, set_of_ne _ hne, set_same, h.staged]
  · intro path hpath hthere
    have hother : path ≠ temporary := fun heq => hthere (heq ▸ h.fresh)
    rw [hfiles, set_of_ne _ hother, set_of_ne _ hpath, h.kept path hthere]
  · exact sublist_done h.log (List.prefix_append _ _) h.done (by rw [done_after v _ hok])

/-! ### The phases of the action -/

theorem regular?_eq_some {files : Files} : files.regular? path = some file ↔
    files path = some (.regular file) := by
  cases hfile : files path with
  | none => simp [Files.regular?, hfile]
  | some entry => cases entry <;> simp [Files.regular?, hfile]

theorem spec_create (path : String) (mode : Nat) : Spec (Since u) (call (.create path mode))
    (fun _ => Staged u path ⟨.empty, mode⟩ []) fun _ => Since u := by
  apply spec_call
  · intro v answer hv hok hrefused
    have hnone : v.files path = none := by simpa [Effect.refused] using hrefused
    refine ⟨hv.after ?_, hv.fresh hnone, ?_, List.nil_sublist _⟩
    · simpa [Effect.touches] using hv.fresh hnone
    · simp [View.after, Effect.apply, hok]
  · intro v answer e hv herror
    exact hv.after_of_same (by simp [Effect.apply, herror])
  · exact fun v _ hv => hv

/-- A call for the new file only. -/
theorem spec_stage {effect : Effect} (htouches : effect.touches = [path])
    (happly : ∀ files answer, files path = some (.regular file) → answer.error = none →
      effect.apply files answer path = some (.regular file')) :
    Spec (Staged u path file effects) (call effect)
      (fun _ => Staged u path file' (effects ++ [effect])) fun _ => Since u := by
  have hfresh {v : View} (hv : Staged u path file effects v) :
      ∀ touched ∈ effect.touches, u.files touched = none := by
    simpa [htouches] using hv.fresh
  apply spec_call
  · intro v answer hv hok _
    refine ⟨hv.toSince.after (hfresh hv), hv.fresh, happly _ _ hv.staged hok, ?_⟩
    exact sublist_done hv.log (List.prefix_append _ _) hv.done (by rw [done_after v _ hok])
  · exact fun v answer e hv _ => hv.toSince.after (hfresh hv)
  · exact fun v _ hv => hv.toSince

theorem spec_chmod (mode : Nat) : Spec (Staged u path file effects) (call (.chmod path mode))
    (fun _ => Staged u path { file with mode := mode } (effects ++ [.chmod path mode]))
    fun _ => Since u := by
  apply spec_stage rfl
  intro files answer hfile hok
  simp [Effect.apply, regular?_eq_some.mpr hfile, hok]

theorem spec_write (data : ByteArray) : Spec (Staged u path file effects) (call (.write path data))
    (fun _ => Staged u path { file with content := file.content ++ data }
      (effects ++ [.write path data])) fun _ => Since u := by
  apply spec_stage rfl
  intro files answer hfile hok
  simp [Effect.apply, regular?_eq_some.mpr hfile, hok]

theorem spec_close {P : View → Prop} : Spec P close (fun _ => P) fun _ => P :=
  .bind spec_ask fun answer =>
    (spec_check answer.error).mono (fun _ h => h) (fun _ _ h => h.1) fun _ _ h => h

theorem spec_createTemp (directory pattern : String) :
    Spec (Since u) (createTemp directory pattern)
      (fun path => Staged u path ⟨.empty, 0o600⟩ []) fun _ => Since u := by
  refine .bind spec_ask fun random => .bind (spec_check random.error) fun _ => ?_
  refine .bind ((spec_create _ _).mono (fun _ h => h.1) (fun _ _ h => h) fun _ _ h => h) fun _ => ?_
  exact .pure fun s hs => hs

/-- A command, which touches no file. -/
theorem spec_command {effect : Effect} (htouches : effect.touches = []) :
    Spec (Since u) (perform effect) (fun answer v => Since u v ∧ (answer.error = none →
      [effect].Sublist (u.done v))) fun _ => Since u := by
  apply spec_perform
  · intro v answer hv _
    refine ⟨hv.after (by simp [htouches]), fun hok => ?_⟩
    rw [done_trans hv.log (List.prefix_append _ _), done_after v _ hok]
    exact List.sublist_append_right _ _
  · exact fun v answer hv herror => ⟨hv, fun hok => absurd hok herror⟩

theorem touches_validateCommand (path : String) : (validateCommand config path).touches = [] := by
  unfold validateCommand
  split <;> rfl

theorem touches_reloadCommand : (reloadCommand config).touches = [] := by
  unfold reloadCommand
  split <;> rfl

theorem commandError_eq_none {answer : Answer} :
    commandError answer = none ↔ answer.error = none := by
  simp [commandError]

/-- The program goes on from where it is, and says what it has done. -/
theorem spec_validate (path : String) : Spec (· = u)
    (validateCaddyPath config path >>= fun validation => check validation.2)
    (fun _ v => Since u v ∧ [validateCommand config path].Sublist (u.done v)) fun _ => Since u := by
  have hcommand := spec_command (u := u) (touches_validateCommand config path)
  refine .bind (R := fun validation v => Since u v ∧ (validation.2 = none →
    [validateCommand config path].Sublist (u.done v))) (.bind (hcommand.mono ?_ (fun _ _ h => h)
      fun _ _ h => h) fun answer => ?_) fun validation => ?_
  · rintro v rfl
    exact Since.refl v
  · exact .pure fun v hv => ⟨hv.1, fun hnone => hv.2 (commandError_eq_none.mp hnone)⟩
  · exact (spec_check validation.2).mono (fun _ h => h) (fun _ _ h => ⟨h.1.1, h.1.2 h.2⟩)
      fun _ _ h => h.1

theorem spec_reload : Spec (· = u) (performCaddyReload config)
    (fun _ v => Since u v ∧ [reloadCommand config].Sublist (u.done v)) fun _ => Since u := by
  have hcommand := spec_command (u := u) (touches_reloadCommand config)
  refine .bind (hcommand.mono ?_ (fun _ _ h => h) fun _ _ h => h) fun answer => ?_
  · rintro v rfl
    exact Since.refl v
  · refine (spec_check (commandError answer)).mono (fun _ h => h) (fun _ _ h => ?_) fun _ _ h => h.1
    exact ⟨h.1.1, h.1.2 (commandError_eq_none.mp h.2)⟩

theorem spec_readFile (path : String) : Spec (· = u) (readFile path)
    (fun content v => v = u ∧ (u.files.regular? path).map File.content = some content)
    fun _ => (· = u) := by
  refine .bind spec_ask fun answer => .bind (spec_check answer.error) fun _ => ?_
  refine .bind (spec_getFiles.mono (fun _ h => h.1) (fun _ _ h => h) fun _ _ h => h) fun files =>
    .bind (R := fun file v => v = u ∧ u.files.regular? path = some file) ?_ fun file => ?_
  · refine .ofExcept (fun file s hok hs => ?_) fun e s _ hs => hs.1
    obtain ⟨rfl, rfl⟩ := hs
    exact ⟨rfl, orRaise_eq_ok.mp hok⟩
  · exact .pure fun s hs => ⟨hs.1, by rw [hs.2, Option.map_some]⟩

theorem spec_lstatRegular (path message : String) : Spec (· = u) (lstatRegular path message)
    (fun file v => v = u ∧ u.files.regular? path = some file) fun _ => (· = u) := by
  refine .bind spec_ask fun info => .bind spec_getFiles fun files => ?_
  refine .ofExcept (fun file s hok hs => ?_) fun e s _ hs => hs.1
  obtain ⟨rfl, rfl⟩ := hs
  rw [orRaise_eq_ok] at hok
  split_ifs at hok
  exact ⟨rfl, hok⟩

/-! ### Before the configuration is replaced -/

theorem spec_stageCandidate (temporary : String) (current : File) (data : ByteArray) :
    Spec (Staged u temporary ⟨.empty, 0o600⟩ []) (stageCandidate config temporary current data)
      (fun _ => Staged u temporary ⟨data, current.mode⟩ [.chmod temporary current.mode,
        .write temporary data, validateCommand config temporary]) fun _ => Since u := by
  refine .bind (spec_chmod current.mode) fun _ => .bind (spec_write data) fun _ => ?_
  refine .bind (spec_close.mono (fun _ h => h) (fun _ _ h => h) fun _ _ h => h.toSince) fun _ => ?_
  refine Spec.of_start fun v hv => ?_
  refine (spec_validate config temporary).mono (fun _ h => h) (fun _ w h => ?_) fun _ w h =>
    hv.toSince.trans h
  simpa using hv.append h.1 h.2

theorem spec_copyFileExclusive {source destination : String} {current : File} {mode : Nat}
    (hsource : u.files source = some (.regular current)) :
    Spec (Since u) (copyFileExclusive source destination mode)
      (fun _ => Staged u destination ⟨current.content, mode⟩ [.write destination current.content])
      fun _ => Since u := by
  refine Spec.of_start fun v hv => .bind
    (R := fun content v => Since u v ∧ content = current.content)
    ((spec_readFile source).mono (fun _ h => h) (fun content v h => ?_) fun _ v h => h ▸ hv)
    fun content => ?_
  · refine ⟨h.1 ▸ hv, ?_⟩
    have hcontent := h.2
    rw [regular?_eq_some.mpr (hv.regular hsource), Option.map_some] at hcontent
    exact (Option.some.inj hcontent).symm
  · refine Spec.of_start fun w hw => ?_
    obtain ⟨hsince, rfl⟩ := hw
    refine .bind ((spec_create destination mode).mono (fun _ h => h ▸ hsince) (fun _ _ h => h)
      fun _ _ h => h) fun _ => .bind (spec_write _) fun _ => ?_
    refine spec_close.mono (fun _ h => ?_) (fun _ _ h => h) fun _ _ h => h.toSince
    simpa using h

theorem spec_backupCurrent {current : File} (htarget : u.files target = some (.regular current)) :
    Spec (· = u) (backupCurrent config env target)
      (fun _ => Staged u (backupPath config env target) ⟨current.content, 0o600⟩
        [.write (backupPath config env target) current.content]) fun _ => Since u := by
  refine .bind (R := fun _ => Since u) ?_ fun _ => .bind (R := fun _ => Staged u
    (backupPath config env target) ⟨current.content, 0o600⟩
    [.write (backupPath config env target) current.content]) ?_ fun _ => spec_setBefore _ _
  · apply spec_call
    · rintro v answer rfl _ _
      exact (Since.refl v).mkdirAll _ _
    · rintro v answer e rfl _
      exact (Since.refl v).mkdirAll _ _
    · rintro v e rfl
      exact Since.refl v
  · exact .mapError (spec_copyFileExclusive htarget)

/-! ### After the configuration is replaced -/

/-- The configuration that was there is there again, or nothing has changed since the reload
failed. -/
def Undone (u : View) (target : String) (current : File) (e : String) (v : View) : Prop :=
  Since u v ∧ (e = notCreated ∨ e = notRestored) ∨
    Replaced u target ⟨current.content, current.mode⟩ [] v

theorem spec_rename {restore : String} (htarget : u.files target ≠ none) :
    Spec (Staged u restore file effects) (call (.rename restore target))
      (fun _ => Replaced u target file (effects ++ [.rename restore target])) fun _ => Since u := by
  apply spec_call
  · exact fun v answer hv hok _ => hv.rename htarget hok
  · intro v answer e hv herror
    exact hv.toSince.after_of_same (by simp [Effect.apply, herror])
  · exact fun v _ hv => hv.toSince

theorem spec_restorePrevious (current : File) (htarget : u.files target ≠ none) :
    Spec (Since u) (restorePrevious config target current) (fun _ _ => False)
      (Undone u target current) := by
  refine .bind (R := fun restore => Staged u restore ⟨.empty, 0o600⟩ []) ?_ fun restore =>
    .bind (R := fun _ => Replaced u target ⟨current.content, current.mode⟩ []) ?_ fun _ =>
      .bind (R := fun _ => Replaced u target ⟨current.content, current.mode⟩ []) ?_ fun _ => ?_
  · exact .mapError ((spec_createTemp _ _).mono (fun _ h => h) (fun _ _ h => h)
      fun _ _ h => .inl ⟨h, .inl rfl⟩)
  · have hfailed : ∀ (e : String) (v : View), Since u v → Undone u target current notRestored v :=
      fun _ _ h => .inl ⟨h, .inr rfl⟩
    refine .mapError (.bind ((spec_write _).mono (fun _ h => h) (fun _ _ h => h) hfailed) fun _ =>
      .bind ((spec_chmod _).mono (fun _ h => h) (fun _ _ h => h) hfailed) fun _ =>
      .bind (spec_close.mono (fun _ h => h) (fun _ _ h => h) fun e v h => hfailed e v h.toSince)
      fun _ => (spec_rename htarget).mono (fun _ h => h) (fun _ v h => ?_) hfailed)
    exact ⟨h.log, by simpa using h.replaced, h.others, List.nil_sublist _⟩
  · refine .ignore (.of_start fun v hv => (spec_reload config).mono (fun _ h => h)
      (fun _ _ h => hv.trans h.1) fun _ _ h => hv.trans h)
  · exact .throw fun v hv => .inr hv

theorem spec_reloadOrRestore (current : File) (htarget : u.files target ≠ none) :
    Spec (· = u) (reloadOrRestore config target current)
      (fun _ v => Since u v ∧ [reloadCommand config].Sublist (u.done v))
      (Undone u target current) := by
  refine .bind (R := fun result v => Since u v ∧
    (result = .ok () → [reloadCommand config].Sublist (u.done v))) (.attempt ?_) fun result => ?_
  · exact (spec_reload config).mono (fun _ h => h) (fun _ _ h => ⟨h.1, fun _ => h.2⟩)
      fun _ _ h => ⟨h, nofun⟩
  · cases result with
    | ok => exact .pure fun v hv => ⟨hv.1, hv.2 rfl⟩
    | error =>
      exact (spec_restorePrevious config current htarget).mono (fun _ h => h.1)
        (fun _ _ h => h.elim) fun _ _ h => h

/-! ### The whole action -/

/-- A snapshot of a configuration with the hash that its manifest has. -/
def Verified (files : Files) (snapshot target : String) (data : ByteArray) : Prop :=
  ∃ root resolved manifest hash,
    (files.regular? (join [root, snapshot, base target])).isSome ∧
    escapes (rel root resolved) = false ∧
    (files.regular? resolved).map File.content = some data ∧
    files.regular? (join [root, snapshot, base target] ++ ".sha256") = some manifest ∧
    trimSpace manifest.content = some hash ∧ isSnapshotHash hash = true ∧
    (env.sha256String data).toList = hash

/-- The calls that put a snapshot into place, in their order. -/
def installSteps (target temporary : String) (current : File) (data : ByteArray) : List Effect :=
  [.chmod temporary current.mode, .write temporary data, validateCommand config temporary,
    .write (backupPath config env target) current.content, .rename temporary target]

/-- The configuration is the snapshot, and there is a copy of what it was. -/
structure Installed (u : View) (target temporary : String) (current : File) (data : ByteArray)
    (more : List Effect) (v : View) : Prop extends
    Replaced u target ⟨data, current.mode⟩
      (installSteps config env target temporary current data ++ more) v where
  backedUp : v.files (backupPath config env target) = some (.regular ⟨current.content, 0o600⟩)
  fresh : u.files temporary = none
  apart : temporary ≠ backupPath config env target

/-- How the action can end: what was there is as it was, or the configuration is the snapshot. The
latter is the result of a success; of a failure only where the reload has failed and what was
there could not be put back. -/
def Outcome (u : View) (target temporary : String) (current : File) (data : ByteArray)
    (dryRun : Bool) : Except String Unit → View → Prop
  | .ok _, v =>
      if dryRun then Since u v
      else Installed config env u target temporary current data [reloadCommand config] v
  | .error e, v =>
      Since u v ∨ dryRun = false ∧ (e = notCreated ∨ e = notRestored) ∧
        Installed config env u target temporary current data [] v

variable {config env}

theorem Installed.append {current : File} {data : ByteArray}
    (h : Installed config env u target temporary current data [] v) (h' : Since v w)
    (hmore : more.Sublist (v.done w)) :
    Installed config env u target temporary current data more w where
  toReplaced := by simpa using h.toReplaced.append h' hmore
  backedUp := h'.regular h.backedUp
  fresh := h.fresh
  apart := h.apart

theorem after_remove {answer : Answer} (h : path ≠ temporary) :
    (v.after (.remove temporary) answer).files path = v.files path := by
  apply after_of_not_touched
  rw [Effect.touches, List.mem_singleton]
  exact h

/-- The deferred removal does not reach what the action leaves. -/
theorem Installed.remove {current : File} {data : ByteArray} (htarget : u.files target ≠ none)
    (h : Installed config env u target temporary current data more v) (answer : Answer) :
    Installed config env u target temporary current data more
      (v.after (.remove temporary) answer) where
  log := h.log.trans (List.prefix_append _ _)
  replaced := by
    have hne : target ≠ temporary := fun heq => htarget (heq ▸ h.fresh)
    exact (after_remove hne).trans h.replaced
  others := fun path hne hpath => by
    have hne' : path ≠ temporary := fun heq => hpath (heq ▸ h.fresh)
    exact (after_remove hne').trans (h.others path hne hpath)
  done := by
    rw [done_trans h.log (List.prefix_append _ _)]
    exact h.done.trans (List.sublist_append_left _ _)
  backedUp := (after_remove h.apart.symm).trans h.backedUp
  fresh := h.fresh
  apart := h.apart

theorem Outcome.remove {current : File} {data : ByteArray} {dryRun : Bool}
    {result : Except String Unit} (htarget : u.files target ≠ none)
    (hfresh : u.files temporary = none) (answer : Answer)
    (h : Outcome config env u target temporary current data dryRun result v) :
    Outcome config env u target temporary current data dryRun result
      (v.after (.remove temporary) answer) := by
  have hsince (h : Since u v) : Since u (v.after (.remove temporary) answer) :=
    h.after (by simpa [Effect.touches] using hfresh)
  cases result with
  | ok =>
    cases dryRun with
    | true => exact hsince h
    | false => exact Installed.remove htarget h answer
  | error e =>
    obtain h | ⟨hdry, hmessage, hinstalled⟩ := h
    · exact .inl (hsince h)
    · exact .inr ⟨hdry, hmessage, hinstalled.remove htarget answer⟩

variable (config env)

theorem spec_replaceConfig {current : File} (data : ByteArray) (dryRun : Bool)
    (htarget : u.files target = some (.regular current)) :
    Spec (Staged u temporary ⟨.empty, 0o600⟩ [])
      (replaceConfig config env target temporary current data dryRun)
      (fun a => Outcome config env u target temporary current data dryRun (.ok a))
      fun e => Outcome config env u target temporary current data dryRun (.error e) := by
  refine .bind ((spec_stageCandidate config temporary current data).mono (fun _ h => h)
    (fun _ _ h => h) fun _ _ h => .inl h) fun _ => ?_
  cases dryRun with
  | true => exact (spec_setMessage _).mono (fun _ h => h.toSince) (fun _ _ h => h) fun _ _ h => h
  | false =>
    refine .of_start fun v hv => .bind ((spec_backupCurrent config env
      (hv.regular htarget)).mono (fun _ h => h) (fun _ _ h => h)
      fun _ _ h => .inl (hv.toSince.trans h)) fun _ => .of_start fun w hw => ?_
    have hstaged := hv.append hw.toSince hw.done
    have hthere : u.files target ≠ none := by simp [htarget]
    have hbackup : backupPath config env target ≠ temporary ∧
        backupPath config env target ≠ target := by
      constructor
      · exact fun heq => by simpa [heq, hv.staged] using hw.fresh
      · exact fun heq => by simpa [heq, hv.regular htarget] using hw.fresh
    refine .bind (R := fun _ => Installed config env u target temporary current data []) ?_
      fun _ => .of_start fun x hx => ?_
    · apply Spec.mapError
      apply spec_call
      · rintro x answer rfl hok _
        refine ⟨by simpa [installSteps] using hstaged.rename hthere hok, ?_, hv.fresh,
          hbackup.1.symm⟩
        refine (after_of_not_touched ?_).trans hw.staged
        simpa [Effect.touches] using hbackup
      · rintro x answer e rfl herror
        exact .inl (hstaged.toSince.after_of_same (by simp [Effect.apply, herror]))
      · rintro x e rfl
        exact .inl hstaged.toSince
    · refine (spec_reloadOrRestore config current (by simp [hx.replaced])).mono (fun _ h => h)
        (fun _ y hy => hx.append hy.1 hy.2) fun e y hy => ?_
      obtain ⟨hsince, hmessage⟩ | hundone := hy
      · exact .inr ⟨rfl, hmessage, hx.append hsince (List.nil_sublist _)⟩
      · exact .inl (hx.toReplaced.undone hundone htarget)

theorem spec_readVerifiedSnapshot (root snapshot target : String) :
    Spec (· = u) (readVerifiedSnapshot env root snapshot target)
      (fun data v => v = u ∧ Verified env u.files snapshot target data) fun _ => (· = u) := by
  refine .bind (spec_lstatRegular _ _) fun candidate => .of_start fun v hv => ?_
  obtain ⟨rfl, hcandidate⟩ := hv
  refine .bind spec_ask fun resolved => .bind ((spec_raiseIf _).mono (fun _ h => h)
    (fun _ _ h => h.1) fun _ _ h => h) fun _ => .bind (spec_raiseIf _) fun _ => .of_start
    fun w hw => ?_
  obtain ⟨rfl, hescapes⟩ := hw
  refine .bind (spec_lstatRegular _ _) fun manifest => .of_start fun v hv => ?_
  obtain ⟨rfl, hmanifest⟩ := hv
  refine .bind (.mapError (spec_readFile _)) fun expectedData => .of_start fun v hv => ?_
  obtain ⟨rfl, hexpected⟩ := hv
  rw [hmanifest, Option.map_some, Option.some_inj] at hexpected
  refine .bind (R := fun hash w => w = v ∧ trimSpace expectedData = some hash)
    (.ofExcept (fun _ _ hok hw => ⟨hw, orRaise_eq_ok.mp hok⟩) fun _ _ _ hw => hw)
    fun hash => .bind ((spec_raiseIf _).mono (fun _ h => h) (fun _ _ h => h) fun _ _ h => h.1)
    fun _ => .of_start fun w hw => ?_
  obtain ⟨⟨rfl, hhash⟩, hpattern⟩ := hw
  refine .bind (spec_readFile _) fun data => .bind ((spec_raiseIf _).mono (fun _ h => h)
    (fun _ _ h => h) fun _ _ h => h.1) fun _ => .pure fun x hx => ?_
  obtain ⟨⟨rfl, hdata⟩, hsame⟩ := hx
  refine ⟨rfl, root, resolved.text, manifest, hash, by simp [hcandidate], by simpa using hescapes,
    hdata, hmanifest, hexpected ▸ hhash, by simpa using hpattern, by simpa using hsame⟩

/-- The part of the action from the temporary file on, with its removal. -/
theorem spec_installed {current : File} (data : ByteArray) (dryRun : Bool)
    (htarget : u.files target = some (.regular current)) (hfresh : u.files temporary = none) :
    Spec (Staged u temporary ⟨.empty, 0o600⟩ []) (do
        let result ← (replaceConfig config env target temporary current data dryRun).attempt
        let _ ← perform (.remove temporary)
        .ofExcept result)
      (fun a => Outcome config env u target temporary current data dryRun (.ok a))
      fun e => Outcome config env u target temporary current data dryRun (.error e) := by
  refine .bind (.attempt (R := Outcome config env u target temporary current data dryRun)
    (spec_replaceConfig config env data dryRun htarget)) fun result => .bind
    (R := fun _ => Outcome config env u target temporary current data dryRun result)
    (spec_perform (fun v answer hv _ => ?_) fun v answer hv _ => hv) fun _ => ?_
  · exact hv.remove (by simp [htarget]) hfresh answer
  · exact .ofExcept (fun a v hok hv => hok ▸ hv) fun e v herror hv => herror ▸ hv

theorem spec_rollbackCaddyConfig (target snapshot : String) (dryRun : Bool) :
    Spec (· = u) (rollbackCaddyConfig config env target snapshot dryRun)
      (fun a v => ∃ temporary current data, u.files target = some (.regular current) ∧
        Verified env u.files snapshot target data ∧
        Outcome config env u target temporary current data dryRun (.ok a) v)
      fun e v => Since u v ∨ ∃ temporary current data, u.files target = some (.regular current) ∧
        Verified env u.files snapshot target data ∧
        Outcome config env u target temporary current data dryRun (.error e) v := by
  have hsame : ∀ (e : String) (v : View), v = u → Since u v ∨ ∃ temporary current data,
      u.files target = some (.regular current) ∧ Verified env u.files snapshot target data ∧
        Outcome config env u target temporary current data dryRun (.error e) v :=
    fun _ v h => .inl (h ▸ Since.refl v)
  refine .bind ((spec_raiseIf _).mono (fun _ h => h) (fun _ _ h => h.1) hsame) fun _ =>
    .bind ((spec_raiseIf _).mono (fun _ h => h) (fun _ _ h => h.1) hsame) fun _ =>
    .bind spec_ask fun root => .bind ((spec_raiseIf _).mono (fun _ h => h) (fun _ _ h => h.1) hsame)
    fun _ => .bind ((spec_readVerifiedSnapshot env _ _ _).mono (fun _ h => h) (fun _ _ h => h)
      hsame) fun data => .of_start fun v hv => ?_
  obtain ⟨rfl, hverified⟩ := hv
  refine .bind ((spec_lstatRegular _ _).mono (fun _ h => h) (fun _ _ h => h) hsame)
    fun current => .of_start fun w hw => ?_
  obtain ⟨rfl, hcurrent⟩ := hw
  refine .bind ((spec_readFile _).mono (fun _ h => h) (fun _ _ h => h) hsame)
    fun currentData => .of_start fun x hx => ?_
  obtain ⟨rfl, hcontent⟩ := hx
  rw [hcurrent, Option.map_some, Option.some_inj] at hcontent
  rw [regular?_eq_some] at hcurrent
  subst hcontent
  refine .bind (spec_setBefore _ _) fun _ => .bind (spec_setAfter _ _) fun _ =>
    .bind ((spec_createTemp _ _).mono (fun y hy => hy ▸ Since.refl y) (fun _ _ h => h)
      fun _ _ h => .inl h) fun temporary => .of_start fun y hy => ?_
  exact (spec_installed config env data dryRun hcurrent hy.fresh).mono (fun _ h => h ▸ hy)
    (fun _ _ h => ⟨temporary, current, data, hcurrent, hverified, h⟩)
    fun _ _ h => .inr ⟨temporary, current, data, hcurrent, hverified, h⟩

/-- Wherever the action fails or the process stops, the configuration is whole: it is as it was,
or it is the verified snapshot, which has been validated before it was put into place, with a copy
of what it replaces. The latter is what a success leaves, and otherwise only what is left where
Caddy has not taken the snapshot and what was there could not be put back. Nothing else that was
on the host is changed. -/
theorem rollback_is_atomic (target snapshot : String) (dryRun : Bool) (s : Host) :
    Since s.view (rollbackCaddyConfig config env target snapshot dryRun s).2.view ∧
        (rollbackCaddyConfig config env target snapshot dryRun s).1 ≠ .ok () ∨
      ∃ temporary current data, s.files target = some (.regular current) ∧
        Verified env s.files snapshot target data ∧
        Outcome config env s.view target temporary current data dryRun
          (rollbackCaddyConfig config env target snapshot dryRun s).1
          (rollbackCaddyConfig config env target snapshot dryRun s).2.view := by
  obtain ⟨a, hresult, h⟩ | ⟨e, hresult, h⟩ :=
    (spec_rollbackCaddyConfig config env target snapshot dryRun).result (s := s) rfl
  · rw [hresult]
    exact .inr h
  · rw [hresult]
    obtain h | h := h
    · exact .inl ⟨h, nofun⟩
    · exact .inr h

end VpsGuardian.Agent
