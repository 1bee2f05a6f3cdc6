import VpsGuardian.Agent.Host
import VpsGuardian.Agent.PortTraffic
import VpsGuardian.Monitoring.ServiceChecks

/-!
The registered actions of the Agent (`agent/actions.go`).
-/

namespace VpsGuardian.Agent

open Lib
open Controller (Time minutes)
open Filepath (isAbs clean dir base join rel)
open Monitoring.ServiceChecks (isIdentifier)

structure Config where
  systemdAllowlist : List String
  containerAllowlist : List String
  configAllowlist : List String
  cacheAllowlist : List String
  cacheRetention : Time
  caddyContainer : String
  caddyContainerConfig : String
  snapshotDirectory : String
  actionBackupDirectory : String
  localHealthURLs : List String
  resticRepositoryFile : String
  resticPasswordFile : String
  resticPathsAllowlist : List String
  portTrafficEnabled : Bool
  netHelperSocket : String

/-- What an action reads that is on no disk. -/
structure Surroundings where
  now : Time
  /-- The time when the action is over. -/
  finished : Time
  elapsed : Json.Number
  finishedAt : String
  /-- The time in the name of a backup. -/
  stamp : String
  goos : String
  goarch : String
  path : String
  sha256String : ByteArray → String
  /-- The scheme and the host name of a URL that `url.Parse` accepts. -/
  parseURL : String → Option (String × String)
  /-- How often a health check is tried again before its time is up. -/
  retries : Nat
  /-- What `WalkDir` visits from a path on, in its order. -/
  walk : String → List Visit

variable (config : Config) (env : Surroundings)

/-! ### Commands -/

def commandError (answer : Answer) : Option String :=
  answer.error.map ("registered command failed: " ++ ·)

def runCommand (name : String) (arguments : List String) : Step (String × Option String) := do
  let answer ← perform (.command none name arguments)
  return (answer.text, commandError answer)

def runCommandWithEnvironment (environment : List String) (name : String)
    (arguments : List String) : Step Unit := do
  let answer ← perform (.command (some environment) name arguments)
  check (commandError answer)

def validateIdentifier (value : String) (allowlist : List String) : Except String Unit :=
  raiseIf (isIdentifier value = false ∨ value ∉ allowlist) "target is not allowlisted"

/-- What the two restarts have in common. -/
def restart (allowlist : List String) (name : String) (look act : List String) (message : String)
    (target : String) (dryRun : Bool) : Step Unit := do
  .ofExcept (validateIdentifier target allowlist)
  let state ← runCommand name (look ++ [target])
  setBefore "state" state.1
  if dryRun then setMessage message
  else do
    let result ← runCommand name (act ++ [target])
    check result.2
    let after ← runCommand name (look ++ [target])
    setAfter "state" after.1
    check after.2

def restartContainer (target : String) (dryRun : Bool) : Step Unit :=
  restart config.containerAllowlist "docker"
    ["inspect", "--format", "\x7b\x7b.State.Status\x7d\x7d"] ["restart", "--time", "10"]
    "would run registered docker restart action" target dryRun

def restartSystemd (target : String) (dryRun : Bool) : Step Unit :=
  restart config.systemdAllowlist "systemctl" ["is-active"] ["restart"]
    "would run registered systemd restart action" target dryRun

/-! ### Caddy -/

/-- The command that validates a configuration. -/
def validateCommand (hostPath : String) : Effect :=
  if config.caddyContainer = "" then .command none "caddy" ["validate", "--config", hostPath]
  else
    let containerPath :=
      if base hostPath ≠ base config.caddyContainerConfig then
        join [dir config.caddyContainerConfig, base hostPath]
      else config.caddyContainerConfig
    .command none "docker" ["exec", config.caddyContainer, "caddy", "validate", "--config",
      containerPath, "--adapter", "caddyfile"]

def validateCaddyPath (hostPath : String) : Step (String × Option String) := do
  let answer ← perform (validateCommand config hostPath)
  return (answer.text, commandError answer)

def validateCaddy (target : String) : Step Unit := do
  .ofExcept (raiseIf (isAbs target = false ∨ target ∉ config.configAllowlist)
    "configuration path is not allowlisted")
  let output ← validateCaddyPath config target
  setAfter "validation" output.1
  check output.2

/-- The command of a reload. -/
def reloadCommand : Effect :=
  if config.caddyContainer = "" then .command none "systemctl" ["reload", "caddy"]
  else .command none "docker" ["exec", config.caddyContainer, "caddy", "reload", "--config",
    config.caddyContainerConfig, "--adapter", "caddyfile"]

def performCaddyReload : Step Unit := do
  let answer ← perform (reloadCommand config)
  check (commandError answer)

def reloadCaddy (target : String) (dryRun : Bool) : Step Unit := do
  validateCaddy config target
  if dryRun then setMessage "configuration is valid; would reload Caddy"
  else performCaddyReload config

/-! ### Health checks and diagnostics -/

def setStatus (answer : Answer) : Step Unit :=
  if answer.error = none then setAfter "http_status" answer.text else pure ()

def healthAttempts (target : String) : Nat → Nat → Step Unit
  | retries, attempt => do
      let answer ← perform (.get target)
      setStatus answer
      if answer.error = none ∧ 200 ≤ answer.number ∧ answer.number < 400 then
        setAfter "attempts" (toString attempt)
      else
        match retries with
        | 0 => do
            setAfter "attempts" (toString attempt)
            .throw (answer.error.getD ("local health check returned " ++ toString answer.number))
        | retries + 1 => healthAttempts target retries (attempt + 1)

def isLocalHTTP (url : Option (String × String)) : Bool :=
  match url with
  | some (scheme, hostname) => scheme = "http" ∧ (hostname = "127.0.0.1" ∨ hostname = "localhost")
  | none => false

def localHealthCheck (target : String) : Step Unit := do
  .ofExcept (raiseIf (target ∉ config.localHealthURLs) "health URL is not allowlisted")
  .ofExcept (raiseIf (isLocalHTTP (env.parseURL target) = false)
    "health URL must use local plain HTTP")
  healthAttempts target env.retries 1

def collectDiagnostics : Step Unit := do
  setAfter "operating_system" env.goos
  setAfter "architecture" env.goarch
  setAfter "registered_systemd_services" (toString config.systemdAllowlist.length)
  setAfter "registered_containers" (toString config.containerAllowlist.length)
  setAfter "registered_backup_paths" (toString config.resticPathsAllowlist.length)
  setMessage "bounded diagnostics collected"

/-! ### The cache -/

/-- The paths of the files that are old enough, at most a thousand of them. -/
def eligibleFiles (root : String) (cutoff : Time) : List String → List Visit →
    Except String (List String)
  | eligible, [] => .ok eligible
  | eligible, visit :: visits => do
      raiseSome visit.error
      if visit.path = root ∨ visit.regular = false then eligibleFiles root cutoff eligible visits
      else do
        let modTime ← visit.modTime
        if modTime < cutoff then do
          raiseIf (1000 ≤ eligible.length) "cache cleanup candidate limit exceeded"
          eligibleFiles root cutoff (eligible ++ [visit.path]) visits
        else eligibleFiles root cutoff eligible visits
where
  raiseSome : Option String → Except String Unit
    | none => .ok ()
    | some error => .error error

def removeFiles : List String → Nat → Step Nat
  | [], removed => pure removed
  | path :: paths, removed => do
      let info ← ask
      let files ← getFiles
      if info.error ≠ none ∨ files.regular? path = none then removeFiles paths removed
      else do
        let answer ← perform (.remove path)
        check (answer.error.map ("registered cache cleanup failed: " ++ ·))
        removeFiles paths (removed + 1)

def cleanupCache (target : String) (dryRun : Bool) : Step Unit := do
  .ofExcept (raiseIf (isAbs target = false ∨ target ∉ config.cacheAllowlist)
    "cache path is not allowlisted")
  let resolved ← ask
  .ofExcept (raiseIf (resolved.error ≠ none ∨ resolved.text ≠ clean target)
    "cache path is missing or resolves through a symbolic link")
  let eligible ← .ofExcept (eligibleFiles resolved.text (env.now - config.cacheRetention) []
    (env.walk resolved.text))
  setBefore "eligible_files" (toString eligible.length)
  if dryRun then setMessage "would remove allowlisted expired cache files"
  else do
    let removed ← removeFiles eligible 0
    setAfter "removed_files" (toString removed)

/-! ### Restic -/

/-- `unicode.IsSpace` -/
def isSpace (c : Char) : Bool :=
  c.val = 0x20 || (0x09 ≤ c.val && c.val ≤ 0x0D) || c.val = 0x85 || c.val = 0xA0 ||
    c.val = 0x1680 || (0x2000 ≤ c.val && c.val ≤ 0x200A) || c.val = 0x2028 || c.val = 0x2029 ||
    c.val = 0x202F || c.val = 0x205F || c.val = 0x3000

/-- `strings.TrimSpace` of what a file holds; nothing where that is no text. -/
def trimSpace (content : ByteArray) : Option (List Char) :=
  (String.fromUTF8? content).map fun text =>
    ((text.toList.dropWhile isSpace).reverse.dropWhile isSpace).reverse

def readProtectedActionSecret (path : String) : Step String := do
  let info ← ask
  let files ← getFiles
  let file ← .ofExcept (orRaise (if info.error = none then files.regular? path else none)
    "action secret file is unavailable")
  .ofExcept (raiseIf (env.goos ≠ "windows" ∧ file.mode &&& 0o077 ≠ 0)
    "action secret file permissions are too broad")
  let data ← ask
  .ofExcept (raiseIf (data.error ≠ none ∨ file.content.size = 0 ∨ 4096 < file.content.size)
    "action secret file is invalid")
  let value ← .ofExcept (orRaise (trimSpace file.content) "action secret file is invalid")
  .ofExcept (raiseIf (value = [] ∨ value.any fun c => c.val = 0 || c = '\r' || c = '\n')
    "action secret file is invalid")
  return .ofList value

def resticEnvironment : Step (List String) := do
  .ofExcept (raiseIf (config.resticRepositoryFile = "" ∨ config.resticPasswordFile = "")
    "Restic is not configured")
  let repository ← readProtectedActionSecret env config.resticRepositoryFile
  let password ← readProtectedActionSecret env config.resticPasswordFile
  return ["PATH=" ++ env.path, "RESTIC_REPOSITORY=" ++ repository, "RESTIC_PASSWORD=" ++ password]

def resticBackup (target : String) (dryRun : Bool) : Step Unit := do
  .ofExcept (raiseIf (isAbs target = false ∨ target ∉ config.resticPathsAllowlist)
    "backup path is not allowlisted")
  let environment ← resticEnvironment config env
  runCommandWithEnvironment environment "restic"
    (["backup", "--no-scan", target] ++ if dryRun then ["--dry-run"] else [])
  setAfter "backup" "completed"

def resticCheck (dryRun : Bool) : Step Unit :=
  if dryRun then setMessage "would execute bounded Restic repository check"
  else do
    let environment ← resticEnvironment config env
    runCommandWithEnvironment environment "restic" ["check", "--read-data-subset=1/20"]
    setAfter "check" "completed"

/-! ### Port traffic -/

def operationName : NetHelper.Operation → String
  | .snapshot => "snapshot"
  | .apply => "apply"
  | .remove => "remove"
  | .reset => "reset"
  | .purge => "purge"

/-- The request as `json.Marshal` writes it, in the order of its keys. -/
def marshalRequest (task : Task) (request : NetHelper.Request) : Json.Value :=
  .object [
    ("authorization", marshalTask task),
    ("dry_run", .bool request.dryRun),
    ("operation", .string (operationName request.operation)),
    ("policy", Json.goObject request.policy)]

def callNetHelper (socketPath : String) (request : Json.Value) : Step String := do
  .ofExcept (raiseIf (socketPath ≠ "/run/vps-guardian-net-helper/helper.sock")
    "port traffic helper socket is not approved")
  let connection ← ask
  .ofExcept (raiseIf (connection.error ≠ none) "port traffic helper is unavailable")
  .ofExcept (raiseIf ((goBytes request).size = 0 ∨ 16 * 1024 < (goBytes request).size)
    "port traffic helper request exceeds limit")
  let response ← perform (.helper request)
  .ofExcept (raiseIf (response.error ≠ none ∨ 256 * 1024 < response.text.utf8ByteSize)
    "port traffic helper response failed")
  return response.text

/-- The status and the generation of the helper's response. -/
def decodeResponse (output : String) : Option (String × Int) := do
  let value ← Json.parse output
  let status ← stringField value "status"
  let generation ← int64Field value "generation"
  return (status, generation)

def portTraffic (task : Task) : Step Unit := do
  .ofExcept (raiseIf (config.portTrafficEnabled = false ∨ config.netHelperSocket = "")
    "port traffic helper is disabled")
  let request ← .ofExcept (portTrafficRequest task)
  let output ← (callNetHelper config.netHelperSocket (marshalRequest task request)).mapError
    ("port traffic helper rejected the request: " ++ ·)
  .ofExcept (raiseIf (16 * 1024 < output.utf8ByteSize)
    "port traffic helper response exceeds limit")
  let response ← .ofExcept (orRaise (decodeResponse output)
    "port traffic helper returned an invalid response")
  .ofExcept (raiseIf (response.1 ≠ "ok") "port traffic helper returned an invalid response")
  setAfter "helper_status" response.1
  setAfter "counter_generation" (toString response.2)
  setMessage "bounded port traffic operation completed"

end VpsGuardian.Agent
