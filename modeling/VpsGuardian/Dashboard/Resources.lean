import Mathlib.Data.Rat.Floor
import VpsGuardian.Lib.Dict

/-!
The share of memory and disk in use, from the Agent (`collectHostMetrics` of
`agent/metrics_linux.go`) to the dashboard (`_snapshot_values` of `dashboard.py`).

The Agent looks for the memory totals in its map before it has read them from
`/proc/meminfo`, and the dashboard looks for names the Agent never writes.
Floating-point numbers are the rationals they stand for.
-/

namespace VpsGuardian.Dashboard

open Lib

/-! ### What the Agent reads -/

/-- An entry of `collectMounts`. -/
structure Mount where
  path : String
  filesystem : String
  totalBytes : UInt64
  freeBytes : UInt64
  inodeTotal : UInt64
  inodeFree : UInt64
  usedPercent : Option ℚ
  inodeUsedPercent : Option ℚ
  deriving DecidableEq, Repr

/-- `syscall.Statfs_t` -/
structure Statfs where
  blocks : UInt64
  bavail : UInt64
  bsize : UInt64
  files : UInt64
  ffree : UInt64
  deriving DecidableEq, Repr

def Statfs.total (disk : Statfs) : UInt64 := disk.blocks * disk.bsize

def Statfs.free (disk : Statfs) : UInt64 := disk.bavail * disk.bsize

/-- What `collectHostMetrics` finds on its host: the results of its helpers, the first lines and
the files it reads itself, and how `strconv` and `time` read and write what they are given. -/
structure Host where
  numCPU : Nat
  architecture : String
  osRelease : Dict String
  kernelVersion : String
  firstCPUTimes : Option (UInt64 × UInt64)
  secondCPUTimes : Option (UInt64 × UInt64)
  loadavg : String
  uptime : String
  parseFloat : String → ℚ
  bootTime : ℚ → String
  meminfo : Option String
  statfs : Option Statfs
  mounts : List Mount
  networkBytes : UInt64 × UInt64
  selfRSS : UInt64
  cpuSeconds : Option ℚ

/-! ### Reading `/proc/meminfo` -/

/-- `unicode.IsSpace` -/
def isSpace (c : Char) : Bool :=
  c.toNat ∈ [0x09, 0x0A, 0x0B, 0x0C, 0x0D, 0x20, 0x85, 0xA0, 0x1680, 0x2028, 0x2029, 0x202F,
    0x205F, 0x3000] || (0x2000 ≤ c.toNat && c.toNat ≤ 0x200A)

/-- `strings.Fields` -/
def fields (text : List Char) : List (List Char) :=
  (text.splitOnP isSpace).filter (· ≠ [])

/-- `dropCR` of `bufio.ScanLines` -/
def dropCR (line : List Char) : List Char :=
  if line.getLast? = some '\r' then line.dropLast else line

/-- The lines a `bufio.Scanner` delivers. It stops at the first that fills its buffer. -/
def scannedLines (text : List Char) : List (List Char) :=
  let lines := text.splitOn '\n'
  let lines := if lines.getLast? = some [] then lines.dropLast else lines
  (lines.takeWhile fun line => (String.ofList line).utf8ByteSize < 65536).map dropCR

/-- `strconv.ParseUint(text, 10, 64)` behind the digits read so far, its error dropped. -/
def parseUint (value : Nat) : List Char → UInt64
  | [] => .ofNat value
  | c :: rest =>
      if c.isDigit then
        let next := value * 10 + (c.toNat - '0'.toNat)
        if 2 ^ 64 ≤ next then .ofNat (2 ^ 64 - 1) else parseUint next rest
      else 0

/-- `strings.TrimSuffix(name, ":")` -/
def trimColon (name : List Char) : String :=
  .ofList (if name.getLast? = some ':' then name.dropLast else name)

/-- The name and the number of a line. -/
def meminfoEntry (line : List Char) : Option (String × UInt64) :=
  match fields line with
  | name :: value :: _ => some (trimColon name, parseUint 0 value)
  | _ => none

def meminfoEntries (text : String) : List (String × UInt64) :=
  (scannedLines text.toList).filterMap meminfoEntry

/-! ### The metrics of a host -/

/-- The values of the map: Go's `any`. -/
inductive Metric where
  | int (n : Int)
  | uint64 (n : UInt64)
  | float64 (x : ℚ)
  | string (s : String)
  | strings (m : Dict String)
  | mounts (entries : List Mount)
  deriving DecidableEq

/-- `float64(total-free) * 100 / float64(total)` -/
def usedShare (total free : UInt64) : ℚ := (total - free).toNat * 100 / total.toNat

/-- `if total > 0 && free <= total { metrics[key] = … }` -/
def setUsedPercent (key : String) (total free : UInt64) (metrics : Dict Metric) : Dict Metric :=
  if 0 < total ∧ free ≤ total then metrics.insert key (.float64 (usedShare total free)) else metrics

/-- The same where the two numbers are looked up in the map. -/
def setUsedPercentOf (key totalKey freeKey : String) (metrics : Dict Metric) : Dict Metric :=
  match metrics.get? totalKey, metrics.get? freeKey with
  | some (.uint64 total), some (.uint64 free) => setUsedPercent key total free metrics
  | _, _ => metrics

def setCPUPercent (host : Host) (metrics : Dict Metric) : Dict Metric :=
  match host.firstCPUTimes, host.secondCPUTimes with
  | some (firstTotal, firstIdle), some (secondTotal, secondIdle) =>
      if firstTotal < secondTotal ∧ firstIdle ≤ secondIdle then
        let totalDelta := secondTotal - firstTotal
        let idleDelta := secondIdle - firstIdle
        if idleDelta ≤ totalDelta then
          metrics.insert "cpu_percent" (.float64 (usedShare totalDelta idleDelta))
        else metrics
      else metrics
  | _, _ => metrics

def setLoad (host : Host) (metrics : Dict Metric) : Dict Metric :=
  match (fields host.loadavg.toList).map String.ofList with
  | one :: five :: fifteen :: _ =>
      ((metrics.insert "load_1" (.float64 (host.parseFloat one))).insert
        "load_5" (.float64 (host.parseFloat five))).insert
        "load_15" (.float64 (host.parseFloat fifteen))
  | _ => metrics

def setUptime (host : Host) (metrics : Dict Metric) : Dict Metric :=
  match (fields host.uptime.toList).map String.ofList with
  | uptime :: _ =>
      let uptimeSeconds := host.parseFloat uptime
      (metrics.insert "uptime_seconds" (.float64 uptimeSeconds)).insert
        "boot_time" (.string (host.bootTime uptimeSeconds))
  | [] => metrics

/-- The `switch` over the name of a line. -/
def meminfoKey : String → Option String
  | "MemTotal" => some "memory_total_bytes"
  | "MemAvailable" => some "memory_available_bytes"
  | "SwapTotal" => some "swap_total_bytes"
  | "SwapFree" => some "swap_free_bytes"
  | _ => none

def setMeminfoEntry (metrics : Dict Metric) (entry : String × UInt64) : Dict Metric :=
  match meminfoKey entry.1 with
  | some key => metrics.insert key (.uint64 (entry.2 * 1024))
  | none => metrics

def setMeminfo (host : Host) (metrics : Dict Metric) : Dict Metric :=
  match host.meminfo with
  | some text => (meminfoEntries text).foldl setMeminfoEntry metrics
  | none => metrics

def setDisk (host : Host) (metrics : Dict Metric) : Dict Metric :=
  match host.statfs with
  | some disk =>
      setUsedPercent "disk_percent" disk.total disk.free
        ((((metrics.insert "disk_total_bytes" (.uint64 disk.total)).insert
          "disk_free_bytes" (.uint64 disk.free)).insert
          "inode_total" (.uint64 disk.files)).insert
          "inode_free" (.uint64 disk.ffree))
  | none => metrics

def setCPUSeconds (host : Host) (metrics : Dict Metric) : Dict Metric :=
  match host.cpuSeconds with
  | some x => metrics.insert "agent_cpu_seconds" (.float64 x)
  | none => metrics

/-- The part of the map that is filled before the shares of memory and swap are computed. -/
def systemMetrics (host : Host) : Dict Metric :=
  let metrics := (((Dict.empty.insert "cpu_count" (.int host.numCPU)).insert
    "architecture" (.string host.architecture)).insert
    "operating_system" (.strings host.osRelease)).insert
    "kernel_version" (.string host.kernelVersion)
  setUptime host (setLoad host (setCPUPercent host metrics))

def collectHostMetrics (host : Host) : Dict Metric :=
  let metrics := systemMetrics host
  let metrics := setUsedPercentOf "memory_percent" "memory_total_bytes" "memory_available_bytes"
    metrics
  let metrics := setUsedPercentOf "swap_percent" "swap_total_bytes" "swap_free_bytes" metrics
  let metrics := setDisk host (setMeminfo host metrics)
  let metrics := (((metrics.insert "mounts" (.mounts host.mounts)).insert
    "network_rx_bytes" (.uint64 host.networkBytes.1)).insert
    "network_tx_bytes" (.uint64 host.networkBytes.2)).insert
    "agent_rss_bytes" (.uint64 host.selfRSS)
  setCPUSeconds host metrics

/-! ### What the dashboard derives -/

/-- A value of a stored payload. -/
inductive PayloadValue where
  | null
  | bool (b : Bool)
  | number (x : ℚ)
  | string (s : String)
  | strings (m : Dict String)
  | mounts (entries : List Mount)
  deriving DecidableEq

/-- A metric behind its way through JSON, which does not tell the kinds of numbers apart. -/
def Metric.transported : Metric → PayloadValue
  | .int n => .number n
  | .uint64 n => .number n.toNat
  | .float64 x => .number x
  | .string s => .string s
  | .strings m => .strings m
  | .mounts entries => .mounts entries

abbrev Payload := String → Option PayloadValue

def transported (metrics : Dict Metric) : Payload := fun key =>
  (metrics.get? key).map Metric.transported

/-- `_number` of `payload.get(key)` -/
def number : Option PayloadValue → Option ℚ
  | some (.number x) => some x
  | _ => none

/-- `round`: to the nearest integer, and to the even one of two that are equally near. -/
def roundHalfEven (x : ℚ) : Int :=
  let below := ⌊x⌋
  if x - below < 1 / 2 then below
  else if 1 / 2 < x - below then below + 1
  else if below % 2 = 0 then below
  else below + 1

/-- `round(x, 2)` -/
def round2 (x : ℚ) : ℚ := roundHalfEven (x * 100) / 100

/-- `max(0.0, min(100.0, x))` -/
def clamp (x : ℚ) : ℚ := max 0 (min 100 x)

/-- `_percentage` -/
def percentage (total free : Option PayloadValue) : Option ℚ :=
  match number total, number free with
  | some total, some free =>
      if total ≤ 0 then none else some (round2 (clamp ((total - free) * 100 / total)))
  | _, _ => none

structure SnapshotValues where
  cpuPercent : Option ℚ
  memoryPercent : Option ℚ
  diskPercent : Option ℚ
  networkTotal : Option ℚ
  deriving DecidableEq, Repr

/-- `_snapshot_values` -/
def snapshotValues (payload : Payload) : SnapshotValues :=
  let cpu := number (payload "cpu_percent") <|>
    match number (payload "load_1"), number (payload "cpu_count") with
    | some load, some count => if 0 < count then some (load * 100 / count) else none
    | _, _ => none
  { cpuPercent := cpu.map fun cpu => round2 (clamp cpu)
    memoryPercent := percentage (payload "memory_total")
      (payload "memory_available" <|> payload "memory_free")
    diskPercent := percentage (payload "disk_total") (payload "disk_free")
    networkTotal :=
      match number (payload "network_rx_bytes"), number (payload "network_tx_bytes") with
      | some receive, some transmit => some (receive + transmit)
      | _, _ => none }

/-- `_resource_percent`, for which a truth value is a number. -/
def resourcePercent (payload : Payload) (key : String) : Option ℚ :=
  match payload key with
  | some (.bool b) => some (if b then 1 else 0)
  | some (.number x) => some x
  | _ => none

/-- `_host_resource_summary` of a payload. -/
def hostResourceSummary (payload : Payload) : Option (List (String × ℚ)) :=
  let values := ["cpu_percent", "memory_percent", "disk_percent"].filterMap fun key =>
    (resourcePercent payload key).map fun value => (key, value)
  if values = [] then none else some values

/-! ### The names in the map -/

/-- A map has no other names than these. -/
def Within (keys : List String) (metrics : Dict Metric) : Prop :=
  ∀ key, metrics.get? key ≠ none → key ∈ keys

namespace Within

variable {keys keys' : List String} {metrics : Dict Metric}

theorem empty : Within keys Dict.empty := fun _ h => absurd rfl h

theorem insert (h : Within keys metrics) {key : String} (hkey : key ∈ keys) (value : Metric) :
    Within keys (metrics.insert key value) := by
  intro k hk
  rw [Dict.get?_insert] at hk
  split_ifs at hk with heq
  · rwa [heq]
  · exact h k hk

theorem mono (h : Within keys metrics) (hsub : keys ⊆ keys') : Within keys' metrics :=
  fun key hkey => hsub (h key hkey)

theorem get?_eq_none (h : Within keys metrics) {key : String} (hkey : key ∉ keys) :
    metrics.get? key = none := by
  by_contra hne
  exact hkey (h key hne)

theorem setUsedPercent (h : Within keys metrics) {key : String} (hkey : key ∈ keys)
    (total free : UInt64) : Within keys (setUsedPercent key total free metrics) := by
  unfold Dashboard.setUsedPercent
  split_ifs
  · exact h.insert hkey _
  · exact h

end Within

/-- The names of `systemMetrics`. -/
def systemKeys : List String :=
  ["cpu_count", "architecture", "operating_system", "kernel_version", "cpu_percent", "load_1",
    "load_5", "load_15", "uptime_seconds", "boot_time"]

/-- The names of the whole map. -/
def metricKeys : List String :=
  systemKeys ++
    ["memory_total_bytes", "memory_available_bytes", "swap_total_bytes", "swap_free_bytes",
      "disk_total_bytes", "disk_free_bytes", "inode_total", "inode_free", "disk_percent", "mounts",
      "network_rx_bytes", "network_tx_bytes", "agent_rss_bytes", "agent_cpu_seconds"]

theorem within_systemMetrics (host : Host) : Within systemKeys (systemMetrics host) := by
  have hstart : Within systemKeys ((((Dict.empty.insert "cpu_count" (.int host.numCPU)).insert
      "architecture" (.string host.architecture)).insert
      "operating_system" (.strings host.osRelease)).insert
      "kernel_version" (.string host.kernelVersion)) :=
    (((Within.empty.insert (by decide) _).insert (by decide) _).insert (by decide) _).insert
      (by decide) _
  have hcpu : ∀ metrics, Within systemKeys metrics →
      Within systemKeys (setCPUPercent host metrics) := by
    intro metrics h
    unfold setCPUPercent
    split
    · dsimp only
      split_ifs
      · exact h.insert (by decide) _
      · exact h
      · exact h
    · exact h
  have hload : ∀ metrics, Within systemKeys metrics → Within systemKeys (setLoad host metrics) := by
    intro metrics h
    unfold setLoad
    split
    · exact ((h.insert (by decide) _).insert (by decide) _).insert (by decide) _
    · exact h
  have huptime : ∀ metrics, Within systemKeys metrics →
      Within systemKeys (setUptime host metrics) := by
    intro metrics h
    unfold setUptime
    split
    · exact (h.insert (by decide) _).insert (by decide) _
    · exact h
  exact huptime _ (hload _ (hcpu _ hstart))

/-- Where a total is not in the map its share is not computed. -/
theorem setUsedPercentOf_eq_self {key totalKey freeKey : String} {metrics : Dict Metric}
    (h : metrics.get? totalKey = none) :
    setUsedPercentOf key totalKey freeKey metrics = metrics := by
  rw [setUsedPercentOf, h]

theorem meminfoKey_mem {name key : String} (h : meminfoKey name = some key) :
    key ∈ metricKeys := by
  unfold meminfoKey at h
  split at h <;> cases h <;> decide

theorem Within.setMeminfo (host : Host) {metrics : Dict Metric} (h : Within metricKeys metrics) :
    Within metricKeys (setMeminfo host metrics) := by
  unfold Dashboard.setMeminfo
  split
  · next text _ =>
    generalize meminfoEntries text = entries
    induction entries generalizing metrics with
    | nil => exact h
    | cons entry entries ih =>
      refine ih ?_
      unfold setMeminfoEntry
      split
      · next hkey => exact h.insert (meminfoKey_mem hkey) _
      · exact h
  · exact h

theorem Within.setDisk (host : Host) {metrics : Dict Metric} (h : Within metricKeys metrics) :
    Within metricKeys (setDisk host metrics) := by
  unfold Dashboard.setDisk
  split
  · refine Within.setUsedPercent ?_ (by decide) _ _
    exact (((h.insert (by decide) _).insert (by decide) _).insert (by decide) _).insert
      (by decide) _
  · exact h

/-- When the shares of memory and swap are computed the totals are not in the map yet. -/
theorem collectHostMetrics_eq (host : Host) :
    collectHostMetrics host = setCPUSeconds host
      (((((setDisk host (setMeminfo host (systemMetrics host))).insert
        "mounts" (.mounts host.mounts)).insert
        "network_rx_bytes" (.uint64 host.networkBytes.1)).insert
        "network_tx_bytes" (.uint64 host.networkBytes.2)).insert
        "agent_rss_bytes" (.uint64 host.selfRSS)) := by
  have hmemory : setUsedPercentOf "memory_percent" "memory_total_bytes" "memory_available_bytes"
      (systemMetrics host) = systemMetrics host :=
    setUsedPercentOf_eq_self ((within_systemMetrics host).get?_eq_none (by decide))
  have hswap : setUsedPercentOf "swap_percent" "swap_total_bytes" "swap_free_bytes"
      (systemMetrics host) = systemMetrics host :=
    setUsedPercentOf_eq_self ((within_systemMetrics host).get?_eq_none (by decide))
  rw [collectHostMetrics, hmemory, hswap]

/-- The map has only these names, whatever the Agent reads. -/
theorem within_collectHostMetrics (host : Host) : Within metricKeys (collectHostMetrics host) := by
  have hsystem : Within metricKeys (systemMetrics host) :=
    (within_systemMetrics host).mono (List.subset_append_left _ _)
  have hdisk := (hsystem.setMeminfo host).setDisk host
  have hcpu : ∀ metrics, Within metricKeys metrics →
      Within metricKeys (setCPUSeconds host metrics) := by
    intro metrics h
    unfold setCPUSeconds
    split
    · exact h.insert (by decide) _
    · exact h
  rw [collectHostMetrics_eq]
  exact hcpu _ ((((hdisk.insert (by decide) _).insert (by decide) _).insert (by decide) _).insert
    (by decide) _)

/-! ### The shares -/

/-- The last number the lines give for a name. -/
def meminfoNumber (text name : String) : Option UInt64 :=
  (meminfoEntries text).reverse.lookup name

/-- The Agent reads how much memory there is, in the unit of `/proc/meminfo`, and the disk. -/
structure Readable (host : Host) (total available : UInt64) (disk : Statfs) : Prop where
  meminfo : ∃ text, host.meminfo = some text ∧ meminfoNumber text "MemTotal" = some total ∧
    meminfoNumber text "MemAvailable" = some available
  total_pos : 0 < total
  available_le : available ≤ total
  statfs : host.statfs = some disk
  disk_total_pos : 0 < disk.total
  disk_free_le : disk.free ≤ disk.total

/-- The Agent and the dashboard say how much of the memory and the disk is in use. -/
structure SharesAgree (host : Host) (total available : UInt64) (disk : Statfs) : Prop where
  mapMemory : (collectHostMetrics host).get? "memory_percent" =
    some (.float64 (usedShare total available))
  mapDisk : (collectHostMetrics host).get? "disk_percent" =
    some (.float64 (usedShare disk.total disk.free))
  dashboardMemory : (snapshotValues (transported (collectHostMetrics host))).memoryPercent =
    some (round2 (usedShare total available))
  dashboardDisk : (snapshotValues (transported (collectHostMetrics host))).diskPercent =
    some (round2 (usedShare disk.total disk.free))

/-- The share of memory is not in the map. -/
theorem memory_percent_missing (host : Host) :
    (collectHostMetrics host).get? "memory_percent" = none :=
  (within_collectHostMetrics host).get?_eq_none (by decide)

/-- The share of the disk is. -/
theorem disk_percent_emitted {host : Host} {disk : Statfs} (hdisk : host.statfs = some disk)
    (htotal : 0 < disk.total) (hfree : disk.free ≤ disk.total) :
    (collectHostMetrics host).get? "disk_percent" =
      some (.float64 (usedShare disk.total disk.free)) := by
  have hcpu : ∀ metrics, (setCPUSeconds host metrics).get? "disk_percent" =
      metrics.get? "disk_percent" := by
    intro metrics
    unfold setCPUSeconds
    split
    · rw [Dict.get?_insert, if_neg (by decide)]
    · rfl
  rw [collectHostMetrics_eq, hcpu, Dict.get?_insert, if_neg (by decide), Dict.get?_insert,
    if_neg (by decide), Dict.get?_insert, if_neg (by decide), Dict.get?_insert,
    if_neg (by decide)]
  simp only [setDisk, hdisk, setUsedPercent, htotal, hfree, and_self, if_true, Dict.get?_insert]

theorem transported_eq_none {host : Host} {key : String} (h : key ∉ metricKeys) :
    transported (collectHostMetrics host) key = none := by
  rw [transported, (within_collectHostMetrics host).get?_eq_none h, Option.map_none]

/-- The dashboard finds neither of the totals. -/
theorem snapshotValues_missing (host : Host) :
    (snapshotValues (transported (collectHostMetrics host))).memoryPercent = none ∧
      (snapshotValues (transported (collectHostMetrics host))).diskPercent = none := by
  have hmissing : ∀ key, key ∉ metricKeys → ∀ free,
      percentage (transported (collectHostMetrics host) key) free = none := by
    intro key hkey free
    rw [percentage, transported_eq_none hkey, number]
    rintro _ ⟨⟩
  exact ⟨hmissing "memory_total" (by decide) _, hmissing "disk_total" (by decide) _⟩

/-- The summary of a host has its disk but not its memory. -/
theorem hostResourceSummary_disk {host : Host} {disk : Statfs} (hdisk : host.statfs = some disk)
    (htotal : 0 < disk.total) (hfree : disk.free ≤ disk.total) :
    ∃ values, hostResourceSummary (transported (collectHostMetrics host)) = some values ∧
      ("disk_percent", usedShare disk.total disk.free) ∈ values ∧
      ∀ x, ("memory_percent", x) ∉ values := by
  have hshare : resourcePercent (transported (collectHostMetrics host)) "disk_percent" =
      some (usedShare disk.total disk.free) := by
    rw [resourcePercent, transported, disk_percent_emitted hdisk htotal hfree]
    rfl
  have hmemory : resourcePercent (transported (collectHostMetrics host)) "memory_percent" =
      none := by
    rw [resourcePercent, transported_eq_none (by decide)]
  simp only [hostResourceSummary]
  rw [if_neg]
  · refine ⟨_, rfl, ?_, fun x hx => ?_⟩
    · exact List.mem_filterMap.mpr ⟨"disk_percent", by decide, by rw [hshare]; rfl⟩
    · obtain ⟨key, -, hkey⟩ := List.mem_filterMap.mp hx
      obtain ⟨value, hvalue, heq⟩ := Option.map_eq_some_iff.mp hkey
      obtain ⟨rfl, rfl⟩ := Prod.mk.inj heq
      rw [hmemory] at hvalue
      cases hvalue
  · intro hnil
    have hmem : ("disk_percent", usedShare disk.total disk.free) ∈
        (["cpu_percent", "memory_percent", "disk_percent"].filterMap fun key =>
          (resourcePercent (transported (collectHostMetrics host)) key).map
            fun value => (key, value)) :=
      List.mem_filterMap.mpr ⟨"disk_percent", by decide, by rw [hshare]; rfl⟩
    rw [hnil] at hmem
    cases hmem

/-- A host with the usual first lines of `/proc/meminfo`. -/
def sampleHost : Host where
  numCPU := 2
  architecture := "amd64"
  osRelease := .empty
  kernelVersion := "6.1.0"
  firstCPUTimes := some (1000, 900)
  secondCPUTimes := some (1020, 910)
  loadavg := "0.10 0.20 0.30 1/100 4242"
  uptime := "3600.50 7000.00"
  parseFloat := fun text => if text.startsWith "0" then 1 / 10 else 3600
  bootTime := fun _ => "2026-07-21T07:00:00Z"
  meminfo := some "MemTotal:        1000 kB\nMemFree:          100 kB\nMemAvailable:     250 kB\n"
  statfs := some ⟨100, 40, 4096, 1000, 900⟩
  mounts := []
  networkBytes := (1000, 2000)
  selfRSS := 4096
  cpuSeconds := some (1 / 2)

theorem readable_sampleHost : Readable sampleHost 1000 250 ⟨100, 40, 4096, 1000, 900⟩ where
  meminfo := ⟨_, rfl, by decide +kernel, by decide +kernel⟩
  total_pos := by decide
  available_le := by decide
  statfs := rfl
  disk_total_pos := by decide
  disk_free_le := by decide

/-- A host that uses 75 of 100 parts of its memory and 60 of its disk. -/
theorem shares_disagree :
    Readable sampleHost 1000 250 ⟨100, 40, 4096, 1000, 900⟩ ∧
      usedShare 1000 250 = 75 ∧ usedShare (100 * 4096) (40 * 4096) = 60 ∧
      ¬SharesAgree sampleHost 1000 250 ⟨100, 40, 4096, 1000, 900⟩ := by
  refine ⟨readable_sampleHost, by decide +kernel, by decide +kernel, fun h => ?_⟩
  have hmemory := h.mapMemory
  rw [memory_percent_missing] at hmemory
  cases hmemory

/-- Whatever the Agent reads, the Agent and the dashboard do not agree: only the share of the disk
is in the map, and the dashboard derives neither. -/
theorem shares_never_agree {host : Host} {total available : UInt64} {disk : Statfs}
    (h : Readable host total available disk) :
    ¬SharesAgree host total available disk ∧
      (collectHostMetrics host).get? "memory_percent" = none ∧
      (collectHostMetrics host).get? "disk_percent" =
        some (.float64 (usedShare disk.total disk.free)) ∧
      (snapshotValues (transported (collectHostMetrics host))).memoryPercent = none ∧
      (snapshotValues (transported (collectHostMetrics host))).diskPercent = none := by
  refine ⟨fun hagree => ?_, memory_percent_missing host,
    disk_percent_emitted h.statfs h.disk_total_pos h.disk_free_le, snapshotValues_missing host⟩
  have hmemory := hagree.mapMemory
  rw [memory_percent_missing] at hmemory
  cases hmemory

theorem shares_never_agree_sample :
    ¬SharesAgree sampleHost 1000 250 ⟨100, 40, 4096, 1000, 900⟩ :=
  (shares_never_agree readable_sampleHost).1

end VpsGuardian.Dashboard
