import VpsGuardian.Agent.Rollback

/-!
The registry of actions (`ActionRegistry` of `agent/actions.go`), and what a task can order.
-/

namespace VpsGuardian.Agent

open Lib
open Lib.Action (Logs Appends)
open Controller (Time seconds minutes)
open Filepath (isAbs clean dir base join)

/-! ### The registry -/

structure ActionResult where
  taskID : String
  action : String
  success : Bool
  dryRun : Bool
  before : Dict String
  after : Dict String
  message : String
  finishedAt : String
  exitCode : Int
  durationMS : Json.Number
  deriving DecidableEq

/-- `actionState`, with times in seconds. -/
structure ActionState where
  completed : Dict Int
  lastRun : Dict Int
  startCount : Int
  deriving DecidableEq

def Task.target (task : Task) : String := task.parameters.get "target"

def Task.dryRun (task : Task) : Bool := task.parameters.get "dry_run" ≠ "false"

variable (config : Config) (env : Surroundings)

def restrictedCleanup (task : Task) : Step Unit := do
  .ofExcept (raiseIf (task.dryRun ∨ task.parameters.get "second_confirmation" ≠ "confirmed")
    "restricted cleanup requires a second confirmation")
  cleanupCache config env task.target false

/-- The switch of `Execute`. -/
def runAction (task : Task) : Step Unit :=
  let target := task.target
  let dryRun := task.dryRun
  match task.action with
  | "restart_container" => restartContainer config target dryRun
  | "restart_systemd" => restartSystemd config target dryRun
  | "validate_caddy" => validateCaddy config target
  | "reload_caddy" => reloadCaddy config target dryRun
  | "local_health_check" => localHealthCheck config env target
  | "cleanup_cache" => cleanupCache config env target dryRun
  | "collect_diagnostics" => collectDiagnostics config env
  | "disk_cleanup_preview" => cleanupCache config env target true
  | "restricted_cleanup" => restrictedCleanup config env task
  | "restic_backup" => resticBackup config env target dryRun
  | "restic_check" => resticCheck config env dryRun
  | "rollback_caddy_config" =>
      rollbackCaddyConfig config env target (task.parameters.get "snapshot") dryRun
  | "port_traffic_apply" | "port_traffic_remove" | "port_traffic_reset" => portTraffic config task
  | _ => .throw "action is not registered"

def isPortTrafficAction (action : String) : Bool := "port_traffic_".toList.isPrefixOf action.toList

def cooldownKey (task : Task) : String := task.action ++ ":" ++ task.target

/-- An action other than those of port traffic has succeeded less than ten minutes ago. -/
def coolingDown (state : ActionState) (task : Task) : Bool :=
  let last := (state.lastRun.get? (cooldownKey task)).getD 0
  !isPortTrafficAction task.action && 0 < last && env.now - seconds last < minutes 10

/-- The result before the action has run. -/
def pendingResult (task : Task) : ActionResult where
  taskID := task.id
  action := task.action
  success := false
  dryRun := task.dryRun
  before := .empty
  after := .empty
  message := ""
  finishedAt := env.finishedAt
  exitCode := 0
  durationMS := .ofInt 0

def finishedResult (task : Task) (outcome : Except String Unit) (host : Host) : ActionResult :=
  match outcome with
  | .ok () => { pendingResult env task with
      success := true, before := host.before, after := host.after, durationMS := env.elapsed
      message := if host.message = "" then "action completed" else host.message }
  | .error e => { pendingResult env task with
      before := host.before, after := host.after, durationMS := env.elapsed
      message := e, exitCode := 1 }

def finishedState (state : ActionState) (task : Task) (outcome : Except String Unit) :
    ActionState where
  completed := state.completed.insert task.id (unix env.finished)
  lastRun :=
    if isPortTrafficAction task.action = false ∧ task.dryRun = false ∧ outcome = .ok () then
      state.lastRun.insert (cooldownKey task) (unix env.finished)
    else state.lastRun
  startCount := state.startCount

/-- How `Execute` ends: the two early returns leave the state and the host alone, and only the
third end saves the state. -/
inductive Execution where
  | duplicate (result : ActionResult)
  | refused (result : ActionResult)
  | ran (outcome : Except String Unit) (result : ActionResult) (state : ActionState) (host : Host)

def execute (state : ActionState) (task : Task) (host : Host) : Execution :=
  if state.completed.contains task.id then
    .duplicate { pendingResult env task with
      success := true, message := "task was already completed" }
  else if coolingDown env state task then
    .refused { pendingResult env task with message := "action cooldown is active" }
  else
    let run := runAction config env task
      { host with before := .empty, after := .empty, message := "" }
    .ran run.1 (finishedResult env task run.1 run.2) (finishedState env state task run.1) run.2

/-! ### What a task can order -/

/-- What reaches the host and changes nothing on it. -/
inductive Looks : Effect → Prop
  | container {target : String} (h : target ∈ config.containerAllowlist) :
      Looks (.command none "docker"
        ["inspect", "--format", "\x7b\x7b.State.Status\x7d\x7d", target])
  | unit {target : String} (h : target ∈ config.systemdAllowlist) :
      Looks (.command none "systemctl" ["is-active", target])
  | validate (path : String) : Looks (validateCommand config path)
  | health {url : String} (h : url ∈ config.localHealthURLs)
      (hlocal : isLocalHTTP (env.parseURL url) = true) : Looks (.get url)
  | backup {environment : List String} {target : String}
      (h : target ∈ config.resticPathsAllowlist) :
      Looks (.command (some environment) "restic" ["backup", "--no-scan", target, "--dry-run"])
  | helper {task : Task} {request : NetHelper.Request} (h : portTrafficRequest task = .ok request)
      (hdry : request.dryRun = true) : Looks (.helper (marshalRequest task request))

/-- A path for a temporary file beside a configuration. -/
def Beside (target path : String) : Prop :=
  ∃ pattern ∈ [".guardian-caddy-candidate-", ".guardian-caddy-restore-"], ∃ random,
    path = join [dir target, pattern ++ random]

/-- The visit of an old file below a directory. -/
def Visit.IsOld (root : String) (cutoff : Time) (path : String) (visit : Visit) : Prop :=
  visit.path = path ∧ path ≠ root ∧ visit.regular = true ∧
    ∃ modTime, visit.modTime = .ok modTime ∧ modTime < cutoff

/-- An old file of the cache. -/
def Expired (root path : String) : Prop :=
  ∃ visit ∈ env.walk root, visit.IsOld root (env.now - config.cacheRetention) path

/-- What a task can do to the host that is no dry run. -/
inductive Acts (task : Task) : Effect → Prop
  | restartContainer (haction : task.action = "restart_container")
      (h : task.target ∈ config.containerAllowlist) :
      Acts task (.command none "docker" ["restart", "--time", "10", task.target])
  | restartSystemd (haction : task.action = "restart_systemd")
      (h : task.target ∈ config.systemdAllowlist) :
      Acts task (.command none "systemctl" ["restart", task.target])
  | reload (haction : task.action = "reload_caddy" ∨ task.action = "rollback_caddy_config")
      (h : task.target ∈ config.configAllowlist) : Acts task (reloadCommand config)
  | backup (haction : task.action = "restic_backup") {environment : List String}
      (h : task.target ∈ config.resticPathsAllowlist) :
      Acts task (.command (some environment) "restic" ["backup", "--no-scan", task.target])
  | check (haction : task.action = "restic_check") {environment : List String} :
      Acts task (.command (some environment) "restic" ["check", "--read-data-subset=1/20"])
  | cleanup (haction : task.action = "cleanup_cache" ∨ task.action = "restricted_cleanup" ∧
        task.parameters.get "second_confirmation" = "confirmed")
      (h : task.target ∈ config.cacheAllowlist) {path : String}
      (hpath : Expired config env (clean task.target) path) : Acts task (.remove path)
  | keep (haction : task.action = "rollback_caddy_config")
      (h : task.target ∈ config.configAllowlist) {effect : Effect}
      (htouches : effect.touches = [config.actionBackupDirectory] ∨
        effect.touches = [backupPath config env task.target]) : Acts task effect
  | replace (haction : task.action = "rollback_caddy_config")
      (h : task.target ∈ config.configAllowlist) {path : String}
      (hpath : Beside task.target path) : Acts task (.rename path task.target)
  | helper (henabled : config.portTrafficEnabled = true) {request : NetHelper.Request}
      (h : portTrafficRequest task = .ok request) :
      Acts task (.helper (marshalRequest task request))

/-- What a task can order: to look, to act unless it is a dry run, and to put a temporary file
beside a configuration. -/
inductive Ordered (task : Task) : Effect → Prop
  | looks {effect : Effect} (h : Looks config env effect) : Ordered task effect
  | acts {effect : Effect} (hlive : task.dryRun = false) (h : Acts config env task effect) :
      Ordered task effect
  | stages (haction : task.action = "rollback_caddy_config")
      (h : task.target ∈ config.configAllowlist) {effect : Effect} {path : String}
      (hpath : Beside task.target path) (htouches : effect.touches = [path]) : Ordered task effect

/-- Between two states only effects of a kind have reached the host, and a file that none of them
touches is as it was. -/
def Does (P : Effect → Prop) (s t : Host) : Prop :=
  Appends Host.effects (fun entry => P entry.1) s t ∧
    ∀ path, (∀ effect, P effect → path ∉ effect.touches) → t.files path = s.files path

abbrev Orders {α : Type} (P : Effect → Prop) (Q : α → Prop) (m : Step α) : Prop :=
  Action.Ensures (Does P) Q m

section Orders

variable {α β : Type} {P : Effect → Prop} {Q : α → Prop} {R : β → Prop}

theorem Does.of_eq {s t : Host} (heffects : t.effects = s.effects) (hfiles : t.files = s.files) :
    Does P s t :=
  ⟨.of_eq heffects, fun _ _ => by rw [hfiles]⟩

theorem Does.refl (s : Host) : Does P s s := .of_eq rfl rfl

theorem Does.trans (s t u : Host) (hst : Does P s t) (htu : Does P t u) : Does P s u :=
  ⟨Appends.trans s t u hst.1 htu.1, fun path h => (htu.2 path h).trans (hst.2 path h)⟩

theorem orders_pure {a : α} (h : Q a) : Orders P Q (pure a) := Action.Ensures.pure Does.refl h

theorem orders_throw (e : String) : Orders P Q (.throw e) := Action.Ensures.throw Does.refl e

theorem orders_bind {m : Step β} {f : β → Step α} (hm : Orders P R m)
    (hf : ∀ b, R b → Orders P Q (f b)) : Orders P Q (m >>= f) :=
  Action.Ensures.bind Does.trans hm hf

theorem orders_ofExcept (result : Except String α) :
    Orders P (fun a => result = .ok a) (.ofExcept result) :=
  fun s => ⟨Does.refl s, fun _ h => h⟩

theorem orders_raiseIf {c : Prop} [Decidable c] (message : String) :
    Orders P (fun _ => ¬c) (.ofExcept (raiseIf c message)) :=
  (orders_ofExcept _).mono fun _ h => raiseIf_eq_ok.mp h

/-- A program that only reads, or writes into the result. -/
theorem orders_of_eq {m : Step α} (h : ∀ s, (m s).2.effects = s.effects ∧ (m s).2.files = s.files) :
    Orders P (fun _ => True) m :=
  fun s => ⟨.of_eq (h s).1 (h s).2, fun _ _ => trivial⟩

theorem orders_ask : Orders P (fun _ => True) ask := orders_of_eq fun _ => ⟨rfl, rfl⟩

theorem orders_getFiles : Orders P (fun _ => True) getFiles := orders_of_eq fun _ => ⟨rfl, rfl⟩

theorem orders_setBefore (key value : String) : Orders P (fun _ => True) (setBefore key value) :=
  orders_of_eq fun _ => ⟨rfl, rfl⟩

theorem orders_setAfter (key value : String) : Orders P (fun _ => True) (setAfter key value) :=
  orders_of_eq fun _ => ⟨rfl, rfl⟩

theorem orders_setMessage (message : String) : Orders P (fun _ => True) (setMessage message) :=
  orders_of_eq fun _ => ⟨rfl, rfl⟩

theorem orders_check (error : Option String) : Orders P (fun _ => True) (check error) := by
  cases error with
  | none => exact orders_pure trivial
  | some e => exact orders_throw e

theorem orders_perform {effect : Effect} (h : P effect) :
    Orders P (fun _ => True) (perform effect) := by
  intro s
  refine ⟨?_, fun _ _ => trivial⟩
  cases hrunning : s.running with
  | false => exact .of_eq (by simp [perform, hrunning]) (by simp [perform, hrunning])
  | true =>
    simp only [perform, hrunning, if_true]
    refine ⟨⟨_, rfl, by simpa using h⟩, fun path hpath => ?_⟩
    exact apply_of_not_touched (hpath effect h)

theorem orders_call {effect : Effect} (h : P effect) : Orders P (fun _ => True) (call effect) :=
  orders_bind (orders_perform h) fun _ _ => orders_check _

theorem orders_runCommand {name : String} {arguments : List String}
    (h : P (.command none name arguments)) : Orders P (fun _ => True) (runCommand name arguments) :=
  orders_bind (orders_perform h) fun _ _ => orders_pure trivial

end Orders

/-! ### The actions -/

section Actions

variable {config env} {P : Effect → Prop} {target : String} {dryRun : Bool}

theorem orders_restart {allowlist : List String} {name : String} {look act : List String}
    {message : String}
    (hlook : target ∈ allowlist → P (.command none name (look ++ [target])))
    (hact : target ∈ allowlist → dryRun = false → P (.command none name (act ++ [target]))) :
    Orders P (fun _ => True) (restart allowlist name look act message target dryRun) := by
  refine orders_bind (orders_raiseIf _) fun _ hchecks => ?_
  rw [not_or, not_not] at hchecks
  refine orders_bind (orders_runCommand (hlook hchecks.2)) fun state _ =>
    orders_bind (orders_setBefore _ _) fun _ _ => ?_
  cases dryRun with
  | true => exact orders_setMessage _
  | false =>
    refine orders_bind (orders_runCommand (hact hchecks.2 rfl)) fun result _ =>
      orders_bind (orders_check _) fun _ _ => ?_
    exact orders_bind (orders_runCommand (hlook hchecks.2)) fun after _ =>
      orders_bind (orders_setAfter _ _) fun _ _ => orders_check _

theorem orders_validateCaddyPath {path : String} (h : P (validateCommand config path)) :
    Orders P (fun _ => True) (validateCaddyPath config path) :=
  orders_bind (orders_perform h) fun _ _ => orders_pure trivial

theorem orders_validateCaddy (h : P (validateCommand config target)) :
    Orders P (fun _ => target ∈ config.configAllowlist) (validateCaddy config target) := by
  refine orders_bind (orders_raiseIf _) fun _ hchecks => ?_
  rw [not_or, not_not] at hchecks
  refine orders_bind (orders_validateCaddyPath h) fun output _ => orders_bind (orders_setAfter _ _)
    fun _ _ => (orders_check _).mono fun _ _ => hchecks.2

theorem orders_performCaddyReload (h : P (reloadCommand config)) :
    Orders P (fun _ => True) (performCaddyReload config) :=
  orders_bind (orders_perform h) fun _ _ => orders_check _

theorem orders_reloadCaddy (hlook : P (validateCommand config target))
    (hact : target ∈ config.configAllowlist → dryRun = false → P (reloadCommand config)) :
    Orders P (fun _ => True) (reloadCaddy config target dryRun) := by
  refine orders_bind (orders_validateCaddy hlook) fun _ htarget => ?_
  cases dryRun with
  | true => exact orders_setMessage _
  | false => exact orders_performCaddyReload (hact htarget rfl)

theorem orders_setStatus (answer : Answer) : Orders P (fun _ => True) (setStatus answer) := by
  unfold setStatus
  split
  · exact orders_setAfter _ _
  · exact orders_pure trivial

theorem orders_healthAttempts (h : P (.get target)) (retries attempt : Nat) :
    Orders P (fun _ => True) (healthAttempts target retries attempt) := by
  induction retries generalizing attempt with
  | zero =>
    refine orders_bind (orders_perform h) fun answer _ => orders_bind (orders_setStatus _)
      fun _ _ => ?_
    split
    · exact orders_setAfter _ _
    · exact orders_bind (orders_setAfter _ _) fun _ _ => orders_throw _
  | succ retries ih =>
    refine orders_bind (orders_perform h) fun answer _ => orders_bind (orders_setStatus _)
      fun _ _ => ?_
    split
    · exact orders_setAfter _ _
    · exact ih _

theorem orders_localHealthCheck (h : target ∈ config.localHealthURLs →
      isLocalHTTP (env.parseURL target) = true → P (.get target)) :
    Orders P (fun _ => True) (localHealthCheck config env target) := by
  refine orders_bind (orders_raiseIf _) fun _ htarget => orders_bind (orders_raiseIf _)
    fun _ hlocal => ?_
  exact orders_healthAttempts (h (not_not.mp htarget) (by simpa using hlocal)) _ _

theorem orders_collectDiagnostics : Orders P (fun _ => True) (collectDiagnostics config env) :=
  orders_bind (orders_setAfter _ _) fun _ _ => orders_bind (orders_setAfter _ _) fun _ _ =>
    orders_bind (orders_setAfter _ _) fun _ _ => orders_bind (orders_setAfter _ _) fun _ _ =>
      orders_bind (orders_setAfter _ _) fun _ _ => orders_setMessage _

/-- Only old files are eligible. -/
theorem mem_eligibleFiles {root path : String} {cutoff : Time} {visits : List Visit}
    {eligible result : List String} (h : eligibleFiles root cutoff eligible visits = .ok result)
    (hmem : path ∈ result) : path ∈ eligible ∨ ∃ visit ∈ visits, visit.IsOld root cutoff path := by
  induction visits generalizing eligible with
  | nil =>
    cases h
    exact .inl hmem
  | cons visit visits ih =>
    have hlater : (∃ visit' ∈ visits, visit'.IsOld root cutoff path) →
        ∃ visit' ∈ visit :: visits, visit'.IsOld root cutoff path :=
      fun ⟨visit', hvisit, hold⟩ => ⟨visit', List.mem_cons_of_mem _ hvisit, hold⟩
    rw [eligibleFiles, bind_eq_ok] at h
    obtain ⟨_, -, h⟩ := h
    split_ifs at h with hskip
    · exact (ih h).imp_right hlater
    · rw [not_or] at hskip
      obtain ⟨modTime, hmodTime, h⟩ := bind_eq_ok.mp h
      split_ifs at h with hold
      · rw [raiseIf_bind_eq_ok] at h
        obtain hmem | hold' := ih h.2
        · obtain hmem | heq := List.mem_append.mp hmem
          · exact .inl hmem
          · obtain rfl := List.mem_singleton.mp heq
            exact .inr ⟨visit, List.mem_cons_self, rfl, hskip.1,
              Bool.eq_true_of_not_eq_false hskip.2, modTime, hmodTime, hold⟩
        · exact .inr (hlater hold')
      · exact (ih h).imp_right hlater

theorem orders_removeFiles {paths : List String} (h : ∀ path ∈ paths, P (.remove path))
    (removed : Nat) : Orders P (fun _ => True) (removeFiles paths removed) := by
  induction paths generalizing removed with
  | nil => exact orders_pure trivial
  | cons path paths ih =>
    have hrest := ih fun path' hpath => h path' (List.mem_cons_of_mem _ hpath)
    refine orders_bind orders_ask fun info _ => orders_bind orders_getFiles fun files _ => ?_
    split
    · exact hrest removed
    · exact orders_bind (orders_perform (h path List.mem_cons_self)) fun answer _ =>
        orders_bind (orders_check _) fun _ _ => hrest _

theorem orders_cleanupCache (h : target ∈ config.cacheAllowlist → dryRun = false →
      ∀ path, Expired config env (clean target) path → P (.remove path)) :
    Orders P (fun _ => True) (cleanupCache config env target dryRun) := by
  refine orders_bind (orders_raiseIf _) fun _ hchecks => orders_bind orders_ask fun resolved _ =>
    orders_bind (orders_raiseIf _) fun _ hresolved => orders_bind (orders_ofExcept _)
      fun eligible heligible => orders_bind (orders_setBefore _ _) fun _ _ => ?_
  rw [not_or, not_not] at hchecks hresolved
  cases dryRun with
  | true => exact orders_setMessage _
  | false =>
    refine orders_bind (orders_removeFiles (fun path hpath => h hchecks.2 rfl path ?_) _)
      fun removed _ => orders_setAfter _ _
    rw [not_not.mp hresolved.2] at heligible
    exact (mem_eligibleFiles heligible hpath).resolve_left (List.not_mem_nil)

theorem orders_readProtectedActionSecret (path : String) :
    Orders P (fun _ => True) (readProtectedActionSecret env path) := by
  refine orders_bind orders_ask fun info _ => orders_bind orders_getFiles fun files _ =>
    orders_bind (orders_ofExcept _) fun file _ => orders_bind (orders_raiseIf _) fun _ _ => ?_
  exact orders_bind orders_ask fun data _ => orders_bind (orders_raiseIf _) fun _ _ =>
    orders_bind (orders_ofExcept _) fun value _ => orders_bind (orders_raiseIf _) fun _ _ =>
      orders_pure trivial

theorem orders_resticEnvironment : Orders P (fun _ => True) (resticEnvironment config env) :=
  orders_bind (orders_raiseIf _) fun _ _ => orders_bind (orders_readProtectedActionSecret _)
    fun _ _ => orders_bind (orders_readProtectedActionSecret _) fun _ _ => orders_pure trivial

theorem orders_runCommandWithEnvironment {environment : List String} {name : String}
    {arguments : List String} (h : P (.command (some environment) name arguments)) :
    Orders P (fun _ => True) (runCommandWithEnvironment environment name arguments) :=
  orders_bind (orders_perform h) fun _ _ => orders_check _

theorem orders_resticBackup (h : target ∈ config.resticPathsAllowlist → ∀ environment,
      P (.command (some environment) "restic"
        (["backup", "--no-scan", target] ++ if dryRun then ["--dry-run"] else []))) :
    Orders P (fun _ => True) (resticBackup config env target dryRun) := by
  refine orders_bind (orders_raiseIf _) fun _ hchecks => ?_
  rw [not_or, not_not] at hchecks
  exact orders_bind orders_resticEnvironment fun environment _ =>
    orders_bind (orders_runCommandWithEnvironment (h hchecks.2 environment)) fun _ _ =>
      orders_setAfter _ _

theorem orders_resticCheck (h : dryRun = false → ∀ environment,
      P (.command (some environment) "restic" ["check", "--read-data-subset=1/20"])) :
    Orders P (fun _ => True) (resticCheck config env dryRun) := by
  cases dryRun with
  | true => exact orders_setMessage _
  | false =>
    exact orders_bind orders_resticEnvironment fun environment _ =>
      orders_bind (orders_runCommandWithEnvironment (h rfl environment)) fun _ _ =>
        orders_setAfter _ _

theorem orders_callNetHelper {socketPath : String} {request : Json.Value}
    (h : P (.helper request)) :
    Orders P (fun _ => True) (callNetHelper socketPath request) := by
  refine orders_bind (orders_raiseIf _) fun _ _ => orders_bind orders_ask fun connection _ =>
    orders_bind (orders_raiseIf _) fun _ _ => orders_bind (orders_raiseIf _) fun _ _ => ?_
  exact orders_bind (orders_perform h) fun response _ => orders_bind (orders_raiseIf _)
    fun _ _ => orders_pure trivial

theorem orders_portTraffic {task : Task} (h : config.portTrafficEnabled = true →
      ∀ request, portTrafficRequest task = .ok request →
        P (.helper (marshalRequest task request))) :
    Orders P (fun _ => True) (portTraffic config task) := by
  refine orders_bind (orders_raiseIf _) fun _ hchecks => orders_bind (orders_ofExcept _)
    fun request hrequest => ?_
  rw [not_or] at hchecks
  have hhelper := h (Bool.eq_true_of_not_eq_false hchecks.1) request hrequest
  refine orders_bind (Action.Ensures.mapError _ (orders_callNetHelper hhelper)) fun output _ =>
    orders_bind (orders_raiseIf _) fun _ _ => orders_bind (orders_ofExcept _) fun response _ => ?_
  exact orders_bind (orders_raiseIf _) fun _ _ => orders_bind (orders_setAfter _ _) fun _ _ =>
    orders_bind (orders_setAfter _ _) fun _ _ => orders_setMessage _

theorem orders_readFile (path : String) : Orders P (fun _ => True) (readFile path) :=
  orders_bind orders_ask fun _ _ => orders_bind (orders_check _) fun _ _ =>
    orders_bind orders_getFiles fun _ _ => orders_bind (orders_ofExcept _) fun _ _ =>
      orders_pure trivial

theorem orders_lstatRegular (path message : String) :
    Orders P (fun _ => True) (lstatRegular path message) :=
  orders_bind orders_ask fun _ _ => orders_bind orders_getFiles fun _ _ =>
    (orders_ofExcept _).mono fun _ _ => trivial

theorem orders_close : Orders P (fun _ => True) close :=
  orders_bind orders_ask fun _ _ => orders_check _

theorem orders_createTemp {directory pattern : String}
    (h : ∀ random, P (.create (join [directory, pattern ++ random]) 0o600)) :
    Orders P (fun path => ∃ random, path = join [directory, pattern ++ random])
      (createTemp directory pattern) :=
  orders_bind orders_ask fun random _ => orders_bind (orders_check _) fun _ _ =>
    orders_bind (orders_call (h random.text)) fun _ _ => orders_pure ⟨random.text, rfl⟩

theorem orders_copyFileExclusive {source destination : String} {mode : Nat}
    (h : ∀ effect : Effect, effect.touches = [destination] → P effect) :
    Orders P (fun _ => True) (copyFileExclusive source destination mode) :=
  orders_bind (orders_readFile _) fun _ _ => orders_bind (orders_call (h _ rfl)) fun _ _ =>
    orders_bind (orders_call (h _ rfl)) fun _ _ => orders_close

theorem orders_readVerifiedSnapshot (root snapshot : String) :
    Orders P (fun _ => True) (readVerifiedSnapshot env root snapshot target) := by
  refine orders_bind (orders_lstatRegular _ _) fun _ _ => orders_bind orders_ask fun _ _ =>
    orders_bind (orders_raiseIf _) fun _ _ => orders_bind (orders_raiseIf _) fun _ _ =>
      orders_bind (orders_lstatRegular _ _) fun _ _ => ?_
  exact orders_bind (Action.Ensures.mapError _ (orders_readFile _)) fun _ _ =>
    orders_bind (orders_ofExcept _) fun _ _ => orders_bind (orders_raiseIf _) fun _ _ =>
      orders_bind (orders_readFile _) fun _ _ => orders_bind (orders_raiseIf _) fun _ _ =>
        orders_pure trivial

end Actions

section Rollback

variable {config env} {task : Task} (haction : task.action = "rollback_caddy_config")
  (htarget : task.target ∈ config.configAllowlist)
include haction htarget

theorem orders_stageCandidate {temporary : String} (hpath : Beside task.target temporary)
    (current : File) (data : ByteArray) :
    Orders (Ordered config env task) (fun _ => True)
      (stageCandidate config temporary current data) :=
  orders_bind (orders_call (.stages haction htarget hpath rfl)) fun _ _ =>
    orders_bind (orders_call (.stages haction htarget hpath rfl)) fun _ _ =>
      orders_bind orders_close fun _ _ =>
        orders_bind (orders_validateCaddyPath (.looks (.validate _))) fun _ _ => orders_check _

theorem orders_restorePrevious (hlive : task.dryRun = false) (current : File) :
    Orders (Ordered config env task) (fun _ => True)
      (restorePrevious config task.target current) := by
  have hbeside (random : String) :
      Beside task.target (join [dir task.target, ".guardian-caddy-restore-" ++ random]) :=
    ⟨_, by simp, random, rfl⟩
  refine orders_bind (Action.Ensures.mapError _ (orders_createTemp fun random =>
    .stages haction htarget (hbeside random) rfl)) fun restore hrestore => ?_
  have hpath : Beside task.target restore := ⟨_, by simp, hrestore⟩
  refine orders_bind (Action.Ensures.mapError _ (orders_bind (orders_call
    (.stages haction htarget hpath rfl)) fun _ _ => orders_bind (orders_call
    (.stages haction htarget hpath rfl)) fun _ _ => orders_bind orders_close fun _ _ =>
    orders_call (.acts hlive (.replace haction htarget hpath)))) fun _ _ => ?_
  exact orders_bind (Action.Ensures.ignore (orders_performCaddyReload
    (.acts hlive (.reload (.inr haction) htarget)))) fun _ _ => orders_throw _

theorem orders_replaceConfig {temporary : String} (hpath : Beside task.target temporary)
    (current : File) (data : ByteArray) :
    Orders (Ordered config env task) (fun _ => True)
      (replaceConfig config env task.target temporary current data task.dryRun) := by
  refine orders_bind (orders_stageCandidate haction htarget hpath _ _) fun _ _ => ?_
  cases hlive : task.dryRun with
  | true => exact orders_setMessage _
  | false =>
    have hkeep {effect : Effect} (h : effect.touches = [config.actionBackupDirectory] ∨
        effect.touches = [backupPath config env task.target]) : Ordered config env task effect :=
      .acts hlive (.keep haction htarget h)
    refine orders_bind (orders_bind (orders_call (hkeep (.inl rfl))) fun _ _ =>
      orders_bind (Action.Ensures.mapError _ (orders_copyFileExclusive fun effect h =>
        hkeep (.inr h))) fun _ _ => orders_setBefore _ _) fun _ _ => ?_
    refine orders_bind (Action.Ensures.mapError _ (orders_call
      (.acts hlive (.replace haction htarget hpath)))) fun _ _ => ?_
    refine orders_bind (Action.Ensures.attempt (orders_performCaddyReload
      (.acts hlive (.reload (.inr haction) htarget)))) fun reload _ => ?_
    cases reload with
    | ok => exact orders_pure trivial
    | error => exact orders_restorePrevious haction htarget hlive _

omit htarget in
theorem orders_rollbackCaddyConfig (snapshot : String) :
    Orders (Ordered config env task) (fun _ => True)
      (rollbackCaddyConfig config env task.target snapshot task.dryRun) := by
  refine orders_bind (orders_raiseIf _) fun _ hchecks => orders_bind (orders_raiseIf _) fun _ _ =>
    orders_bind orders_ask fun _ _ => orders_bind (orders_raiseIf _) fun _ _ =>
      orders_bind (orders_readVerifiedSnapshot _ _) fun _ _ =>
        orders_bind (orders_lstatRegular _ _) fun current _ => ?_
  rw [not_or, not_not] at hchecks
  have hbeside (random : String) :
      Beside task.target (join [dir task.target, ".guardian-caddy-candidate-" ++ random]) :=
    ⟨_, by simp, random, rfl⟩
  refine orders_bind (orders_readFile _) fun _ _ => orders_bind (orders_setBefore _ _) fun _ _ =>
    orders_bind (orders_setAfter _ _) fun _ _ => orders_bind (orders_createTemp fun random =>
      .stages haction hchecks.2 (hbeside random) rfl) fun temporary htemporary => ?_
  have hpath : Beside task.target temporary := ⟨_, by simp, htemporary⟩
  refine orders_bind (Action.Ensures.attempt (orders_replaceConfig haction hchecks.2 hpath _ _))
    fun _ _ => orders_bind (orders_perform (.stages haction hchecks.2 hpath rfl)) fun _ _ => ?_
  exact (orders_ofExcept _).mono fun _ _ => trivial

end Rollback

/-! ### The whole registry -/

theorem dryRun_of_portTrafficRequest {task : Task} {request : NetHelper.Request}
    (h : portTrafficRequest task = .ok request) : request.dryRun = task.dryRun := by
  rw [portTrafficRequest, raiseIf_bind_eq_ok, raiseIf_bind_eq_ok, bind_eq_ok] at h
  obtain ⟨-, -, operation, -, h⟩ := h
  cases h
  rfl

theorem orders_runAction (task : Task) :
    Orders (Ordered config env task) (fun _ => True) (runAction config env task) := by
  unfold runAction
  split
  case h_1 haction =>
    exact orders_restart (fun h => .looks (.container h)) fun h hlive =>
      .acts hlive (.restartContainer haction h)
  case h_2 haction =>
    exact orders_restart (fun h => .looks (.unit h)) fun h hlive =>
      .acts hlive (.restartSystemd haction h)
  case h_3 haction => exact (orders_validateCaddy (.looks (.validate _))).mono fun _ _ => trivial
  case h_4 haction =>
    exact orders_reloadCaddy (.looks (.validate _)) fun h hlive =>
      .acts hlive (.reload (.inl haction) h)
  case h_5 haction => exact orders_localHealthCheck fun h hlocal => .looks (.health h hlocal)
  case h_6 haction =>
    exact orders_cleanupCache fun h hlive path hpath =>
      .acts hlive (.cleanup (.inl haction) h hpath)
  case h_7 haction => exact orders_collectDiagnostics
  case h_8 haction => exact orders_cleanupCache fun _ hlive => by cases hlive
  case h_9 haction =>
    refine orders_bind (orders_raiseIf _) fun _ hchecks => ?_
    rw [not_or, not_not] at hchecks
    exact orders_cleanupCache fun h _ path hpath => .acts (by simpa using hchecks.1)
      (.cleanup (.inr ⟨haction, hchecks.2⟩) h hpath)
  case h_10 haction =>
    refine orders_resticBackup fun h environment => ?_
    cases hlive : task.dryRun with
    | true => exact .looks (.backup h)
    | false => exact .acts hlive (.backup haction h)
  case h_11 haction =>
    exact orders_resticCheck fun hlive environment => .acts hlive (.check haction)
  case h_12 haction => exact orders_rollbackCaddyConfig haction _
  case h_13 | h_14 | h_15 =>
    refine orders_portTraffic fun henabled request hrequest => ?_
    cases hlive : task.dryRun with
    | true => exact .looks (.helper hrequest ((dryRun_of_portTrafficRequest hrequest).trans hlive))
    | false => exact .acts hlive (.helper henabled hrequest)
  case h_16 => exact orders_throw _

/-- The host after an execution. -/
def Execution.host (s : Host) : Execution → Host
  | .duplicate _ | .refused _ => s
  | .ran _ _ _ t => t

theorem touches_looks {effect : Effect} (h : Looks config env effect) : effect.touches = [] := by
  cases h with
  | validate path => exact touches_validateCommand config path
  | container | unit | health | backup | helper => rfl

/-- What a dry run orders touches no file, the temporary files of a rollback apart. -/
theorem touches_dryRun {task : Task} {effect : Effect} (hdry : task.dryRun = true)
    (haction : task.action ≠ "rollback_caddy_config") (h : Ordered config env task effect) :
    effect.touches = [] := by
  cases h with
  | looks hlooks => exact touches_looks config env hlooks
  | acts hlive => simp [hdry] at hlive
  | stages hrollback => exact absurd hrollback haction

theorem since_runAction {task : Task} (hdry : task.dryRun = true) (s : Host) :
    Since s.view (runAction config env task s).2.view := by
  by_cases haction : task.action = "rollback_caddy_config"
  · have hrun : runAction config env task = rollbackCaddyConfig config env task.target
        (task.parameters.get "snapshot") true := by
      simp [runAction, haction, hdry]
    rw [hrun]
    obtain ⟨h, -⟩ | ⟨temporary, current, data, -, -, h⟩ := rollback_is_atomic config env
      task.target (task.parameters.get "snapshot") true s
    · exact h
    · cases hresult : (rollbackCaddyConfig config env task.target
          (task.parameters.get "snapshot") true s).1 with
      | ok a =>
        rw [hresult] at h
        exact h
      | error e =>
        rw [hresult] at h
        obtain h | ⟨hlive, -⟩ := h
        · exact h
        · cases hlive
  · obtain ⟨⟨entries, heffects, -⟩, hfiles⟩ := (orders_runAction config env task s).1
    refine ⟨⟨entries, heffects.symm⟩, fun path _ => hfiles path fun effect heffect => ?_⟩
    rw [touches_dryRun config env hdry haction heffect]
    exact List.not_mem_nil

end VpsGuardian.Agent
