import VpsGuardian.Lib.Lines
import VpsGuardian.Lib.PythonJsonRoundTrip
import VpsGuardian.Redaction.Text

/-!
The classification of what the Agent saw of its services (`service_semantics.py`).

A text that contains an execution-failure marker anywhere counts as a command that
failed, and every line of `systemctl` that is no header counts as a failed unit. The
listing of Docker is therefore classified by its objects exactly if no marker occurs in
it, and the listing of `systemctl` never is.
-/

namespace VpsGuardian.Monitoring.ServiceObservations

open Lib
open Lines (OneLine joined splitlines strip)
open Redaction (isSpace)

/-- `lower()` of an ASCII character. -/
def lowerAscii (c : CodePoint) : CodePoint :=
  if 0x41 ≤ c.val ∧ c.val ≤ 0x5A then c + 0x20 else c

/-- What the code takes from the interpreter: `str.lower`, `str` of a value that is no string, and
the characters `\w` stands for. -/
structure Interpreter where
  lower : Text → Text
  str : PythonJson.Value → Text
  isWord : CodePoint → Bool
  lower_ascii : ∀ s : Text, (∀ c ∈ s, c.val < 128) → lower s = s.map lowerAscii

/-- `EXECUTION_FAILURE_MARKERS` -/
def executionFailureMarkers : List String :=
  ["command not found", "permission denied", "operation not permitted", "timed out", "timeout",
    "failed to execute"]

inductive Status where
  | noData
  | executionFailed
  | healthy
  | critical
  | parseFailed
  | unsupported
  deriving DecidableEq, Repr

structure Classification where
  status : Status
  reason : String
  counts : List (String × Nat)
  parsed : Bool
  deriving DecidableEq, Repr

variable (interpreter : Interpreter)

def lowered (text : List Char) : Text := interpreter.lower (text.map Text.ofChar)

/-- `any(marker in lowered for marker in EXECUTION_FAILURE_MARKERS)` -/
def mentionsFailure (text : Text) : Bool :=
  executionFailureMarkers.any fun marker => decide (Text.ofString marker <:+: text)

/-! ### Units of systemd -/

def isBlank (c : CodePoint) : Bool := isSpace (Char.ofNat c.val)

/-- The rest of `\b0\s+loaded units listed\b` behind its first boundary. -/
def zeroUnitsAt : Text → Bool
  | zero :: rest =>
      let blanks := rest.takeWhile isBlank
      let phrase := Text.ofString "loaded units listed"
      let rest := rest.dropWhile isBlank
      decide (zero = Text.ofChar '0') && decide (blanks ≠ []) && phrase.isPrefixOf rest &&
        !(rest.drop phrase.length).head?.any interpreter.isWord
  | [] => false

/-- `re.search(r"\b0\s+loaded units listed\b", text)` behind a character. -/
def zeroUnits (before : Option CodePoint) : Text → Bool
  | [] => false
  | c :: rest =>
      (!before.any interpreter.isWord && zeroUnitsAt interpreter (c :: rest)) ||
        zeroUnits (some c) rest

/-- `line.strip() and not line.lstrip().startswith(("UNIT ", "●", "LOAD "))` -/
def isUnitLine (line : List Char) : Bool :=
  let line := line.dropWhile isSpace
  decide (line ≠ []) && !("UNIT ".toList.isPrefixOf line) && !("●".toList.isPrefixOf line) &&
    !("LOAD ".toList.isPrefixOf line)

def classifyUnits (content : List Char) : Classification :=
  if zeroUnits interpreter none (lowered interpreter content) then
    { status := .healthy, reason := "no failed systemd units found", counts := [("failed", 0)]
      parsed := true }
  else
    let unitLines := (splitlines content).filter isUnitLine
    { status := if unitLines ≠ [] then .critical else .parseFailed
      reason :=
        if unitLines ≠ [] then toString unitLines.length ++ " failed systemd unit(s) found"
        else "the systemd observation could not be parsed"
      counts := [("failed", unitLines.length)]
      parsed := unitLines ≠ [] }

/-! ### Containers of Docker -/

abbrev Record := List (Text × PythonJson.Value)

/-- `json.loads(line)` where it is a dictionary. -/
def readRecord (line : List Char) : Option Record :=
  match PythonJson.loads line with
  | some (.dict members) => some members
  | _ => none

/-- `str(record.get(field, default)).lower()` -/
def word (field default : String) (record : Record) : Text :=
  interpreter.lower (match record.lookup (Text.ofString field) with
    | some (.string s) => s
    | some value => interpreter.str value
    | none => Text.ofString default)

/-- `Counter(…)[value]` -/
def countWord (field default value : String) (records : List Record) : Nat :=
  records.countP fun record => word interpreter field default record = Text.ofString value

def classifyContainers (content : List Char) : Classification :=
  let records := ((splitlines content).take 500).filterMap readRecord
  let states := fun value => countWord interpreter "State" "unknown" value records
  let health := fun value => countWord interpreter "Health" "" value records
  let unhealthy := states "exited" + states "restarting" + health "unhealthy"
  if records = [] then
    { status := .parseFailed, reason := "the Docker observation could not be parsed", counts := []
      parsed := false }
  else
    { status := if unhealthy ≠ 0 then .critical else .healthy
      reason :=
        if unhealthy ≠ 0 then toString unhealthy ++ " unhealthy Docker container(s)"
        else toString (states "running") ++ " Docker container(s) running"
      counts := [("running", states "running"), ("exited", states "exited"),
        ("restarting", states "restarting"), ("healthy", health "healthy"),
        ("unhealthy", health "unhealthy")]
      parsed := true }

/-- `classify_service_observation` -/
def classifyServiceObservation (kind : String) (summary : List Char) : Classification :=
  let normalizedKind := lowered interpreter (strip isSpace kind.toList)
  let content := strip isSpace summary
  if content = [] then
    { status := .noData, reason := "the observation contains no data", counts := []
      parsed := false }
  else if mentionsFailure (lowered interpreter content) then
    { status := .executionFailed, reason := "the observation command could not complete"
      counts := [], parsed := false }
  else if normalizedKind = Text.ofString "systemd_failed" then classifyUnits interpreter content
  else if normalizedKind = Text.ofString "docker" then classifyContainers interpreter content
  else if normalizedKind ∈ ["compose", "listening_ports", "journal_errors",
      "container_logs"].map Text.ofString then
    { status := .healthy, reason := "observation collected", counts := [], parsed := true }
  else
    { status := .unsupported, reason := "observation type is not supported", counts := []
      parsed := false }

/-! ### What the Agent lists -/

/-- An object on a line of its own, all of whose fields are strings. -/
structure DockerObject where
  line : List Char
  fields : List (Text × Text)
  state : Text
  health : Text
  reads : PythonJson.loads line = some (.dict (fields.map fun field => (field.1, .string field.2)))
  oneLine : OneLine line
  opens : line.head? = some '\x7b'
  closes : line.getLast? = some '\x7d'
  hasState : fields.lookup (Text.ofString "State") = some state
  hasHealth : fields.lookup (Text.ofString "Health") = some health

structure DockerListing where
  objects : List DockerObject
  nonempty : objects ≠ []
  bounded : objects.length ≤ 500

def DockerListing.text (listing : DockerListing) : List Char :=
  joined (listing.objects.map DockerObject.line)

/-- The characters of a unit name. -/
def isUnitNameChar (c : Char) : Bool := c.isAlphanum || c ∈ [':', '-', '_', '.', '\\', '@']

/-- A line `UNIT LOAD ACTIVE SUB DESCRIPTION` of a unit. -/
structure UnitLine where
  indent : List Char
  name : List Char
  load : List Char
  active : List Char
  sub : List Char
  description : List Char
  indented : ∀ c ∈ indent, c = ' '
  named : ∀ c ∈ name, isUnitNameChar c = true
  /-- The type of the unit stands behind a dot. -/
  typed : '.' ∈ name
  oneLine : OneLine (load ++ active ++ sub ++ description)

def UnitLine.text (line : UnitLine) : List Char :=
  line.indent ++ (line.name ++ ' ' :: (line.load ++ ' ' :: (line.active ++ ' ' ::
    (line.sub ++ ' ' :: line.description))))

/-- A line `WORD = explanation` below the units. -/
structure LegendLine where
  blanks : Nat
  explanation : List Char
  oneLine : OneLine explanation

def LegendLine.text (word : String) (line : LegendLine) : List Char :=
  word.toList ++ (List.replicate line.blanks ' ' ++ '=' :: line.explanation)

/-- The output of `systemctl list-units` with at least one unit. -/
structure UnitListing where
  indent : List Char
  header : List Char
  units : List UnitLine
  load : LegendLine
  active : LegendLine
  sub : LegendLine
  ending : List Char
  indented : ∀ c ∈ indent, c = ' '
  oneLine : OneLine header
  nonempty : units ≠ []
  ended : ∀ c ∈ ending, isSpace c = true

namespace UnitListing

variable (listing : UnitListing)

def footer : List Char := (toString listing.units.length ++ " loaded units listed.").toList

/-- The lines below the header. -/
def rest : List (List Char) :=
  listing.units.map UnitLine.text ++
    [[], listing.load.text "LOAD", listing.active.text "ACTIVE", listing.sub.text "SUB",
      listing.footer]

def text : List Char :=
  listing.indent ++ (joined (("UNIT ".toList ++ listing.header) :: listing.rest) ++ listing.ending)

end UnitListing

inductive Listing where
  | docker (listing : DockerListing)
  | systemd (listing : UnitListing)

def Listing.kind : Listing → String
  | .docker _ => "docker"
  | .systemd _ => "systemd_failed"

def Listing.text : Listing → List Char
  | .docker listing => listing.text
  | .systemd listing => listing.text

/-- The objects with a word in their state. -/
def stateCount (listing : DockerListing) (value : String) : Nat :=
  listing.objects.countP fun object => interpreter.lower object.state = Text.ofString value

def healthCount (listing : DockerListing) (value : String) : Nat :=
  listing.objects.countP fun object => interpreter.lower object.health = Text.ofString value

/-- A listing is classified by the objects in it. -/
def ByObjects (c : Classification) : Listing → Prop
  | .docker listing =>
      c.parsed = true ∧
        (∀ value ∈ ["running", "exited", "restarting"],
          c.counts.lookup value = some (stateCount interpreter listing value)) ∧
        (∀ value ∈ ["healthy", "unhealthy"],
          c.counts.lookup value = some (healthCount interpreter listing value)) ∧
        (c.status = .critical ↔ ∃ object ∈ listing.objects,
          interpreter.lower object.state = Text.ofString "exited" ∨
            interpreter.lower object.state = Text.ofString "restarting" ∨
              interpreter.lower object.health = Text.ofString "unhealthy")
  | .systemd listing =>
      c.status = .critical ∧ c.counts.lookup "failed" = some listing.units.length

/-! ### The listing of Docker -/

/-- A kind in small letters is compared as it is. -/
theorem lowered_strip {kind : List Char} (hstrip : strip isSpace kind = kind)
    (hascii : ∀ c ∈ kind, c.toNat < 128)
    (hlower : (kind.map Text.ofChar).map lowerAscii = kind.map Text.ofChar) :
    lowered interpreter (strip isSpace kind) = kind.map Text.ofChar := by
  have hvalues : ∀ c ∈ kind.map Text.ofChar, c.val < 128 := by
    intro c hc
    obtain ⟨d, hd, rfl⟩ := List.mem_map.mp hc
    exact hascii d hd
  rw [lowered, hstrip, interpreter.lower_ascii _ hvalues, hlower]

theorem lowered_kind_docker :
    lowered interpreter (strip isSpace "docker".toList) = Text.ofString "docker" :=
  lowered_strip interpreter (by decide) (by simp) rfl

theorem lowered_kind_systemd :
    lowered interpreter (strip isSpace "systemd_failed".toList) =
      Text.ofString "systemd_failed" :=
  lowered_strip interpreter (by decide) (by simp) rfl

def DockerObject.record (object : DockerObject) : Record :=
  object.fields.map fun field => (field.1, .string field.2)

theorem DockerObject.readRecord_line (object : DockerObject) :
    readRecord object.line = some object.record := by
  rw [readRecord, object.reads]
  rfl

theorem DockerObject.line_ne_nil (object : DockerObject) : object.line ≠ [] := by
  intro hnil
  have hopens := object.opens
  rw [hnil] at hopens
  cases hopens

theorem word_state (object : DockerObject) :
    word interpreter "State" "unknown" object.record = interpreter.lower object.state := by
  rw [word, DockerObject.record, PythonJson.lookup_map_snd, object.hasState]
  rfl

theorem word_health (object : DockerObject) :
    word interpreter "Health" "" object.record = interpreter.lower object.health := by
  rw [word, DockerObject.record, PythonJson.lookup_map_snd, object.hasHealth]
  rfl

namespace DockerListing

variable (listing : DockerListing)

/-- The text of a listing begins and ends with a brace. -/
theorem strip_text : strip isSpace listing.text = listing.text := by
  obtain ⟨object, objects, hobjects⟩ := List.exists_cons_of_ne_nil listing.nonempty
  obtain ⟨earlier, last, hlast⟩ := (List.eq_nil_or_concat listing.objects).resolve_left
    listing.nonempty
  have hhead : listing.text.head? = some '\x7b' := by
    rw [text, hobjects, List.map_cons, Lines.head?_joined object.line_ne_nil, object.opens]
  have hend : listing.text.getLast? = some '\x7d' := by
    rw [text, hlast, List.concat_eq_append, List.map_append, List.map_singleton,
      Lines.getLast?_joined _ last.line_ne_nil, last.closes]
  exact Lines.strip_eq_self isSpace hhead (by decide) hend (by decide)

theorem text_ne_nil : listing.text ≠ [] := by
  obtain ⟨object, objects, hobjects⟩ := List.exists_cons_of_ne_nil listing.nonempty
  intro hnil
  have hhead : listing.text.head? = some '\x7b' := by
    rw [text, hobjects, List.map_cons, Lines.head?_joined object.line_ne_nil, object.opens]
  rw [hnil] at hhead
  cases hhead

theorem splitlines_text : splitlines listing.text = listing.objects.map DockerObject.line := by
  refine Lines.splitlines_joined (fun line hline => ?_) fun hlast => ?_
  · obtain ⟨object, -, rfl⟩ := List.mem_map.mp hline
    exact object.oneLine
  · obtain ⟨object, -, hnil⟩ := List.mem_map.mp (List.mem_of_getLast? hlast)
    exact object.line_ne_nil hnil

/-- Every line is read as its object. -/
theorem records_text :
    ((splitlines listing.text).take 500).filterMap readRecord =
      listing.objects.map DockerObject.record := by
  rw [splitlines_text, List.take_of_length_le (by simpa using listing.bounded),
    List.filterMap_map, ← List.filterMap_eq_map]
  exact List.filterMap_congr fun object _ => object.readRecord_line

theorem countWord_state (value : String) :
    countWord interpreter "State" "unknown" value (listing.objects.map DockerObject.record) =
      stateCount interpreter listing value := by
  rw [countWord, List.countP_map, stateCount]
  exact List.countP_congr fun object _ => by simp [word_state]

theorem countWord_health (value : String) :
    countWord interpreter "Health" "" value (listing.objects.map DockerObject.record) =
      healthCount interpreter listing value := by
  rw [countWord, List.countP_map, healthCount]
  exact List.countP_congr fun object _ => by simp [word_health]

theorem stateCount_ne_zero {value : String} : stateCount interpreter listing value ≠ 0 ↔
    ∃ object ∈ listing.objects, interpreter.lower object.state = Text.ofString value := by
  rw [stateCount, ← Nat.pos_iff_ne_zero, List.countP_pos_iff]
  simp

theorem healthCount_ne_zero {value : String} : healthCount interpreter listing value ≠ 0 ↔
    ∃ object ∈ listing.objects, interpreter.lower object.health = Text.ofString value := by
  rw [healthCount, ← Nat.pos_iff_ne_zero, List.countP_pos_iff]
  simp

theorem byObjects_classifyContainers :
    ByObjects interpreter (classifyContainers interpreter listing.text) (.docker listing) := by
  simp only [classifyContainers, records_text, countWord_state, countWord_health]
  rw [if_neg (by simpa using listing.nonempty)]
  refine ⟨rfl, ?_, ?_, ?_⟩
  · simp [List.lookup]
  · simp [List.lookup]
  · have hsum : ∀ m n k : Nat, m + n + k ≠ 0 ↔ m ≠ 0 ∨ n ≠ 0 ∨ k ≠ 0 := by omega
    have hcritical : (if stateCount interpreter listing "exited" +
        stateCount interpreter listing "restarting" +
          healthCount interpreter listing "unhealthy" ≠ 0 then Status.critical else .healthy) =
        .critical ↔ stateCount interpreter listing "exited" +
          stateCount interpreter listing "restarting" +
            healthCount interpreter listing "unhealthy" ≠ 0 := by
      split_ifs with h
      · exact ⟨fun _ => h, fun _ => rfl⟩
      · exact ⟨nofun, fun hne => absurd hne h⟩
    refine hcritical.trans ?_
    rw [hsum, stateCount_ne_zero, stateCount_ne_zero, healthCount_ne_zero]
    simp only [and_or_left, exists_or]

end DockerListing

/-! ### The listing of systemctl -/

theorem oneLine_append {a b : List Char} (ha : OneLine a) (hb : OneLine b) : OneLine (a ++ b) :=
  fun c hc => (List.mem_append.mp hc).elim (ha c) (hb c)

theorem forall_of_all {α : Type} {p : α → Prop} [DecidablePred p] {l : List α}
    (h : l.all (fun a => decide (p a)) = true) : ∀ a ∈ l, p a := by
  simpa using h

theorem oneLine_of_all {line : List Char}
    (h : line.all (fun c => !Lines.isLineBreak c) = true) : OneLine line :=
  fun c hc => by simpa using List.all_eq_true.mp h c hc

theorem not_isLineBreak_of_lt {c : Char} (h : 0x20 ≤ c.toNat) (h' : c.toNat < 0x80) :
    Lines.isLineBreak c = false := by
  simp only [Lines.isLineBreak, List.mem_cons, List.not_mem_nil, or_false, decide_eq_false_iff_not]
  omega

theorem isUnitNameChar_range {c : Char} (h : isUnitNameChar c = true) :
    0x21 ≤ c.toNat ∧ c.toNat < 0x80 := by
  simp only [isUnitNameChar, Char.isAlphanum, Char.isAlpha, Char.isUpper, Char.isLower,
    Char.isDigit, Bool.or_eq_true, Bool.and_eq_true, decide_eq_true_eq, List.mem_cons,
    List.not_mem_nil, or_false, UInt32.le_iff_toNat_le] at h
  rcases h with h | h
  · have hrange : (65 ≤ c.toNat ∧ c.toNat ≤ 90 ∨ 97 ≤ c.toNat ∧ c.toNat ≤ 122) ∨
        48 ≤ c.toNat ∧ c.toNat ≤ 57 := by simpa using h
    omega
  · rcases h with rfl | rfl | rfl | rfl | rfl | rfl <;> decide

namespace UnitLine

variable (line : UnitLine)

theorem oneLine_text : OneLine line.text := by
  have hspace : OneLine [' '] := by
    intro c hc
    obtain rfl := List.mem_singleton.mp hc
    decide
  have hindent : OneLine line.indent := by
    intro c hc
    rw [line.indented c hc]
    decide
  have hname : OneLine line.name := fun c hc =>
    have hrange := isUnitNameChar_range (line.named c hc)
    not_isLineBreak_of_lt (by omega) hrange.2
  have hfields : ∀ part ∈ [line.load, line.active, line.sub, line.description], OneLine part := by
    intro part hpart c hc
    refine line.oneLine c ?_
    simp only [List.mem_cons, List.not_mem_nil, or_false] at hpart
    obtain rfl | rfl | rfl | rfl := hpart <;> simp [hc]
  refine oneLine_append hindent (oneLine_append hname (oneLine_append hspace (oneLine_append
    (hfields _ (by simp)) (oneLine_append hspace (oneLine_append (hfields _ (by simp))
      (oneLine_append hspace (oneLine_append (hfields _ (by simp)) (oneLine_append hspace
        (hfields _ (by simp))))))))))

/-- A word in front of the first blank is the name. -/
theorem eq_name {word rest : List Char} (hword : ' ' ∉ word)
    (h : word ++ [' '] <+: line.name ++ ' ' :: rest) : word = line.name := by
  have hname : ' ' ∉ line.name := by
    intro hmem
    exact absurd (line.named ' ' hmem) (by decide)
  have htake : ∀ w tail : List Char, ' ' ∉ w →
      (w ++ ' ' :: tail).takeWhile (fun c => decide (c ≠ ' ')) = w := by
    intro w tail hw
    rw [List.takeWhile_append_of_pos, List.takeWhile_cons_of_neg (by simp), List.append_nil]
    intro c hc
    exact decide_eq_true fun heq => hw (heq ▸ hc)
  obtain ⟨tail, htail⟩ := h
  rw [List.append_assoc, List.singleton_append] at htail
  rw [← htake word tail hword, htail, htake line.name rest hname]

theorem isUnitLine_text : isUnitLine line.text = true := by
  obtain ⟨first, others, hfirst⟩ := List.exists_cons_of_ne_nil (List.ne_nil_of_mem line.typed)
  have hrange := isUnitNameChar_range (line.named first (by rw [hfirst]; exact List.mem_cons_self))
  have hspace : isSpace first = false := by
    simp only [isSpace, Bool.or_eq_false_iff, Bool.and_eq_false_iff, decide_eq_false_iff_not,
      beq_eq_false_iff_ne]
    omega
  have hdrop : line.text.dropWhile isSpace = line.name ++ ' ' :: (line.load ++ ' ' ::
      (line.active ++ ' ' :: (line.sub ++ ' ' :: line.description))) := by
    rw [text, List.dropWhile_append_of_pos (fun c hc => by rw [line.indented c hc]; decide), hfirst,
      List.cons_append, List.dropWhile_cons_of_neg (by simp [hspace])]
  have hword : ∀ word : List Char, ' ' ∉ word → '.' ∉ word → ∀ rest,
      (word ++ [' ']).isPrefixOf (line.name ++ ' ' :: rest) = false := by
    intro word hblank hdot rest
    apply Bool.eq_false_of_not_eq_true
    intro hprefix
    rw [List.isPrefixOf_iff_prefix] at hprefix
    exact hdot (line.eq_name hblank hprefix ▸ line.typed)
  have hbullet : ∀ rest, ['●'].isPrefixOf (line.name ++ rest) = false := by
    intro rest
    have hne : '●' ≠ first := by
      rintro rfl
      exact absurd hrange (by decide)
    rw [hfirst, List.cons_append, List.isPrefixOf, beq_eq_false_iff_ne.mpr hne, Bool.false_and]
  have hunit := hword ['U', 'N', 'I', 'T'] (by decide) (by decide)
  have hload := hword ['L', 'O', 'A', 'D'] (by decide) (by decide)
  rw [isUnitLine, hdrop]
  have hne : ∀ rest, line.name ++ ' ' :: rest ≠ [] := by simp
  simp only [hne, ne_eq, not_false_eq_true, decide_true, Bool.true_and, Bool.and_eq_true,
    Bool.not_eq_eq_eq_not, Bool.not_true]
  exact ⟨⟨hunit _, hbullet _⟩, hload _⟩

end UnitLine

theorem LegendLine.oneLine_text (line : LegendLine) {word : String} (hword : OneLine word.toList) :
    OneLine (line.text word) := by
  have hblanks : OneLine (List.replicate line.blanks ' ') := by
    intro c hc
    rw [List.eq_of_mem_replicate hc]
    decide
  have hequals : OneLine ['='] := by
    intro c hc
    obtain rfl := List.mem_singleton.mp hc
    decide
  exact oneLine_append hword (oneLine_append hblanks (oneLine_append hequals line.oneLine))

namespace UnitListing

variable (listing : UnitListing)

theorem oneLine_footer : OneLine listing.footer := by
  rw [footer, String.toList_append]
  refine oneLine_append (fun c hc => ?_) (oneLine_of_all (by decide))
  have hdigit : c.isDigit = true :=
    Json.toDigits_isDigit listing.units.length c (by simpa using hc)
  have hrange : 48 ≤ c.toNat ∧ c.toNat ≤ 57 := by
    simpa [Char.isDigit, UInt32.le_iff_toNat_le] using hdigit
  exact not_isLineBreak_of_lt (by omega) (by omega)

theorem getLast?_footer : listing.footer.getLast? = some '.' := by
  rw [footer, String.toList_append, List.getLast?_append]
  rfl

theorem footer_ne_nil : listing.footer ≠ [] := by
  intro hnil
  have hlast := listing.getLast?_footer
  rw [hnil] at hlast
  cases hlast

theorem oneLine_rest : ∀ line ∈ listing.rest, OneLine line := by
  intro line hline
  simp only [rest, List.mem_append, List.mem_map, List.mem_cons, List.not_mem_nil, or_false]
    at hline
  obtain ⟨unit, -, rfl⟩ | rfl | rfl | rfl | rfl | rfl := hline
  · exact unit.oneLine_text
  · exact fun c hc => absurd hc List.not_mem_nil
  · exact listing.load.oneLine_text (oneLine_of_all (by decide))
  · exact listing.active.oneLine_text (oneLine_of_all (by decide))
  · exact listing.sub.oneLine_text (oneLine_of_all (by decide))
  · exact listing.oneLine_footer

/-- The text without the blanks around it. -/
def content : List Char := joined (("UNIT ".toList ++ listing.header) :: listing.rest)

theorem strip_text : strip isSpace listing.text = listing.content := by
  have hindent : ∀ c ∈ listing.indent, isSpace c = true := by
    intro c hc
    rw [listing.indented c hc]
    decide
  have hhead : listing.content.head? = some 'U' := by
    rw [content, Lines.head?_joined (by simp)]
    rfl
  have hlast : listing.content.getLast? = some '.' := by
    have hsplit : ("UNIT ".toList ++ listing.header) :: listing.rest =
        (("UNIT ".toList ++ listing.header) :: (listing.units.map UnitLine.text ++
          [[], listing.load.text "LOAD", listing.active.text "ACTIVE", listing.sub.text "SUB"])) ++
          [listing.footer] := by
      simp [rest]
    rw [content, hsplit, Lines.getLast?_joined _ listing.footer_ne_nil, getLast?_footer]
  exact Lines.strip_append isSpace hindent listing.ended hhead (by decide) hlast (by decide)

theorem splitlines_content :
    splitlines listing.content = ("UNIT ".toList ++ listing.header) :: listing.rest := by
  refine Lines.splitlines_joined (fun line hline => ?_) fun hlast => ?_
  · obtain rfl | hline := List.mem_cons.mp hline
    · exact oneLine_append (oneLine_of_all (by decide)) listing.oneLine
    · exact listing.oneLine_rest line hline
  · have hfooter : (("UNIT ".toList ++ listing.header) :: listing.rest).getLast? =
        some listing.footer := by
      rw [rest, List.getLast?_cons, List.getLast?_append]
      rfl
    rw [hfooter] at hlast
    exact listing.footer_ne_nil (Option.some.inj hlast)

/-- The lines of the legend count as units. -/
theorem length_lt_unitLines :
    listing.units.length < ((splitlines listing.content).filter isUnitLine).length := by
  have hunits : (listing.units.map UnitLine.text).countP isUnitLine = listing.units.length := by
    rw [List.countP_map]
    exact List.countP_eq_length.mpr fun unit _ => unit.isUnitLine_text
  have hlegend : 0 < [[], listing.load.text "LOAD", listing.active.text "ACTIVE",
      listing.sub.text "SUB", listing.footer].countP isUnitLine :=
    List.countP_pos_iff.mpr ⟨listing.active.text "ACTIVE", by simp, rfl⟩
  rw [splitlines_content, ← List.countP_eq_length_filter, List.countP_cons, rest,
    List.countP_append, hunits]
  omega

/-- The number of units is never reported. -/
theorem not_byObjects :
    ¬ByObjects interpreter
      (classifyServiceObservation interpreter "systemd_failed" listing.text)
      (.systemd listing) := by
  rintro ⟨-, hcount⟩
  have hpos : listing.units.length ≠ 0 := fun h =>
    listing.nonempty (List.eq_nil_of_length_eq_zero h)
  simp only [classifyServiceObservation, lowered_kind_systemd, strip_text, if_true] at hcount
  split_ifs at hcount
  · cases hcount
  · cases hcount
  · have hmore := listing.length_lt_unitLines
    simp only [classifyUnits] at hcount
    split_ifs at hcount
    · have hzero : 0 = listing.units.length := Option.some.inj hcount
      omega
    · have hlines := Option.some.inj hcount
      omega
    · have hlines := Option.some.inj hcount
      omega

end UnitListing

/-! ### Both listings -/

namespace DockerListing

variable (listing : DockerListing)

theorem classify_of_mentionsFailure
    (h : mentionsFailure (lowered interpreter listing.text) = true) :
    (classifyServiceObservation interpreter "docker" listing.text).parsed = false := by
  simp only [classifyServiceObservation, listing.strip_text, listing.text_ne_nil, h, if_true,
    if_false]

theorem classify_of_not_mentionsFailure
    (h : mentionsFailure (lowered interpreter listing.text) = false) :
    classifyServiceObservation interpreter "docker" listing.text =
      classifyContainers interpreter listing.text := by
  have hkind : Text.ofString "docker" ≠ Text.ofString "systemd_failed" :=
    Text.ofString_injective.ne (by decide)
  simp only [classifyServiceObservation, listing.strip_text, listing.text_ne_nil, h,
    lowered_kind_docker, hkind, Bool.false_eq_true, if_true, if_false]

end DockerListing

/-- `lower()` and `\w` of ASCII texts. -/
def asciiInterpreter : Interpreter where
  lower := List.map lowerAscii
  str := fun _ => []
  isWord := fun c => (Char.ofNat c.val).isAlphanum || c = Text.ofChar '_'
  lower_ascii := fun _ _ => rfl

/-- A running container whose command sets a time limit. -/
def limitedFields : List (Text × Text) :=
  PythonJson.named [("Command", Text.ofString "timeout 5 sh"), ("Health", []),
    ("State", Text.ofString "running")]

def limitedLine : List Char :=
  "\x7b\"Command\":\"timeout 5 sh\",\"Health\":\"\",\"State\":\"running\"\x7d".toList

theorem loads_limitedLine : PythonJson.loads limitedLine =
    some (.dict (limitedFields.map fun field => (field.1, .string field.2))) := by
  have hline : limitedLine = PythonJson.dumps .compact 0
      (.dict (limitedFields.map fun field => (field.1, .string field.2))) := by decide +kernel
  rw [hline]
  exact PythonJson.loads_dumps_fields (by decide +kernel) (by decide +kernel)

theorem oneLine_limitedLine : OneLine limitedLine :=
  oneLine_of_all (by decide +kernel)

def limitedContainer : DockerObject where
  line := limitedLine
  fields := limitedFields
  state := Text.ofString "running"
  health := []
  reads := loads_limitedLine
  oneLine := oneLine_limitedLine
  opens := rfl
  closes := rfl
  hasState := PythonJson.lookup_named _ "State"
  hasHealth := PythonJson.lookup_named _ "Health"

def limitedListing : DockerListing where
  objects := [limitedContainer]
  nonempty := List.cons_ne_nil _ _
  bounded := Nat.le_add_left 1 499
/-- One failed unit, as `systemctl` lists it. -/
def webUnit : UnitLine where
  indent := [' ', ' ']
  name := "web.service".toList
  load := "loaded".toList
  active := "failed".toList
  sub := "failed".toList
  description := "Web server".toList
  indented := forall_of_all rfl
  named := forall_of_all rfl
  typed := List.elem_iff.mp rfl
  oneLine := oneLine_of_all rfl

def failedListing : UnitListing where
  indent := [' ', ' ']
  header := "LOAD ACTIVE SUB DESCRIPTION".toList
  units := [webUnit]
  load := ⟨3, " Reflects whether the unit definition was properly loaded.".toList,
    oneLine_of_all rfl⟩
  active := ⟨1, " The high-level unit activation state.".toList, oneLine_of_all rfl⟩
  sub := ⟨4, " The low-level unit activation state.".toList, oneLine_of_all rfl⟩
  ending := ['\n']
  indented := forall_of_all rfl
  oneLine := oneLine_of_all rfl
  nonempty := List.cons_ne_nil _ _
  ended := forall_of_all rfl

theorem mentionsFailure_limitedListing :
    mentionsFailure (lowered asciiInterpreter limitedListing.text) = true := by
  have hmarker : Text.ofString "timeout" <:+: lowered asciiInterpreter limitedListing.text :=
    ⟨(lowered asciiInterpreter limitedListing.text).take 12,
      (lowered asciiInterpreter limitedListing.text).drop 19, by decide +kernel⟩
  exact List.any_eq_true.mpr ⟨"timeout", by decide, decide_eq_true hmarker⟩

/-- A container that runs counts as a command that failed, and one failed unit as four. -/
theorem listings_misclassified :
    (¬ByObjects asciiInterpreter
      (classifyServiceObservation asciiInterpreter "docker" limitedListing.text)
      (.docker limitedListing)) ∧
    (¬ByObjects asciiInterpreter
      (classifyServiceObservation asciiInterpreter "systemd_failed" failedListing.text)
      (.systemd failedListing)) ∧
    classifyServiceObservation asciiInterpreter "systemd_failed" failedListing.text =
      { status := .critical, reason := "4 failed systemd unit(s) found", counts := [("failed", 4)]
        parsed := true } := by
  refine ⟨fun h => ?_, failedListing.not_byObjects asciiInterpreter, by decide +kernel⟩
  have hparsed : (classifyServiceObservation asciiInterpreter "docker"
      limitedListing.text).parsed = true := h.1
  rw [limitedListing.classify_of_mentionsFailure asciiInterpreter
    mentionsFailure_limitedListing] at hparsed
  cases hparsed

/-- A listing is classified by its objects exactly if it is one of Docker in which no
execution-failure marker occurs. -/
theorem byObjects_iff (listing : Listing) :
    ByObjects interpreter
        (classifyServiceObservation interpreter listing.kind listing.text) listing ↔
      listing.kind = "docker" ∧ mentionsFailure (lowered interpreter listing.text) = false := by
  cases listing with
  | docker listing =>
    constructor
    · intro h
      refine ⟨rfl, Bool.eq_false_of_not_eq_true fun hfailure => ?_⟩
      have hparsed : (classifyServiceObservation interpreter "docker" listing.text).parsed =
          true := h.1
      rw [listing.classify_of_mentionsFailure interpreter hfailure] at hparsed
      cases hparsed
    · rintro ⟨-, hfailure⟩
      have hclassify : classifyServiceObservation interpreter "docker" listing.text =
          classifyContainers interpreter listing.text :=
        listing.classify_of_not_mentionsFailure interpreter hfailure
      rw [Listing.kind, Listing.text, hclassify]
      exact listing.byObjects_classifyContainers interpreter
  | systemd listing =>
    constructor
    · exact fun h => absurd h (listing.not_byObjects interpreter)
    · rintro ⟨hkind, -⟩
      simp [Listing.kind] at hkind

end VpsGuardian.Monitoring.ServiceObservations
