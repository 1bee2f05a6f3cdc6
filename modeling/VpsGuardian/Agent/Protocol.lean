import VpsGuardian.Controller.Records
import VpsGuardian.Lib.Base64
import VpsGuardian.Lib.JsonMap
import VpsGuardian.NetHelper.Authorization

/-!
The tasks an Agent receives (`agent/protocol.go`), and the authorization it
passes on to its network helper.
-/

namespace VpsGuardian.Agent

open Lib
open Controller (Time minutes)

structure Task where
  id : String
  action : String
  parameters : Dict String
  nonce : String
  expiresAt : Int
  signature : String
  approvalID : String
  requesterID : String
  approverID : String
  targetHostID : String
  deriving DecidableEq

/-! ### Decoding -/

/-- A field of type `string`: empty when it is absent or null. -/
def stringField (value : Json.Value) (name : String) : Option String :=
  match value.member? name with
  | none | some .null => some ""
  | some (.string s) => some s
  | some _ => none

/-- A field of type `int64`: zero when it is absent or null. -/
def int64Field (value : Json.Value) (name : String) : Option Int :=
  match value.member? name with
  | none | some .null => some 0
  | some (.number n) =>
      n.toInt?.bind fun i => if -2 ^ 63 ≤ i ∧ i < 2 ^ 63 then some i else none
  | some _ => none

def stringEntry : String × Json.Value → Option (String × String)
  | (key, .string s) => some (key, s)
  | (key, .null) => some (key, "")
  | _ => none

/-- A field of type `map[string]string`. The Controller and the Agent always send
an object; the nil map an absent field would give is left out. -/
def mapField (value : Json.Value) (name : String) : Option (Dict String) :=
  match value.member? name with
  | some (.object members) => (members.mapM stringEntry).map Dict.ofList
  | _ => none

/-- `json.Unmarshal` of one task. -/
def decodeTask (value : Json.Value) : Option Task := do
  let id ← stringField value "id"
  let action ← stringField value "action"
  let parameters ← mapField value "parameters"
  let nonce ← stringField value "nonce"
  let expiresAt ← int64Field value "expires_at"
  let signature ← stringField value "signature"
  let approvalID ← stringField value "approval_id"
  let requesterID ← stringField value "requester_id"
  let approverID ← stringField value "approver_id"
  let targetHostID ← stringField value "target_host_id"
  some ⟨id, action, parameters, nonce, expiresAt, signature, approvalID, requesterID, approverID,
    targetHostID⟩

/-- `json.Unmarshal` of an `authorization`, whose fields are those of a task. -/
def decodeAuthorization (value : Json.Value) : Option NetHelper.Authorization :=
  (decodeTask value).map fun task => {
    id := task.id
    action := task.action
    parameters := task.parameters
    nonce := task.nonce
    expiresAt := task.expiresAt
    signature := task.signature
    approvalID := task.approvalID
    requesterID := task.requesterID
    approverID := task.approverID
    targetHostID := task.targetHostID }

/-! ### Encoding -/

/-- `json.Marshal` -/
def goBytes (value : Json.Value) : ByteArray :=
  (String.ofList (Json.render Json.goEscape value)).toUTF8

/-- A task as `json.Marshal` writes it, in the order of the struct's fields. -/
def marshalTask (task : Task) : Json.Value :=
  .object [
    ("id", .string task.id),
    ("action", .string task.action),
    ("parameters", Json.goObject task.parameters),
    ("nonce", .string task.nonce),
    ("expires_at", .int task.expiresAt),
    ("signature", .string task.signature),
    ("approval_id", .string task.approvalID),
    ("requester_id", .string task.requesterID),
    ("approver_id", .string task.approverID),
    ("target_host_id", .string task.targetHostID)]

/-- `signedTask`, in the order of the struct's fields. -/
def signedTask (task : Task) : Json.Value :=
  .object [
    ("id", .string task.id),
    ("action", .string task.action),
    ("parameters", Json.goObject task.parameters),
    ("nonce", .string task.nonce),
    ("expires_at", .int task.expiresAt),
    ("approval_id", .string task.approvalID),
    ("requester_id", .string task.requesterID),
    ("approver_id", .string task.approverID),
    ("target_host_id", .string task.targetHostID)]

def taskPayload (task : Task) : ByteArray := goBytes (signedTask task)

/-- `base64.StdEncoding.DecodeString`, which skips line ends. -/
def decodeString (text : String) : Option (List UInt8) :=
  Base64.decode Base64.standard (text.toList.filter fun c => c != '\r' && c != '\n')

/-- `now.Unix()` -/
def unix (now : Time) : Int := now / 1000000

def verifyTask (task : Task) (verify : ByteArray → List UInt8 → Bool) (now : Time) :
    Except String Unit := do
  raiseIf (task.id = "" ∨ task.nonce.utf8ByteSize < 16) "task identity is invalid"
  raiseIf (task.expiresAt < unix now ∨ unix (now + minutes 15) < task.expiresAt)
    "task expiry is invalid"
  let signature ← orRaise (decodeString task.signature) "task signature is invalid"
  raiseIf (verify (taskPayload task) signature = false) "task signature is invalid"

/-! ### Lemmas -/

theorem mapM_stringEntry (entries : List (String × String)) :
    (entries.map fun entry => (entry.1, Json.Value.string entry.2)).mapM stringEntry =
      some entries := by
  induction entries with
  | nil => rfl
  | cons entry entries ih =>
    rw [List.map_cons, List.mapM_cons, ih]
    rfl

/-- An object with string members decodes to the map it was made from. -/
theorem mapField_stringMembers {value : Json.Value} {name : String} {m : Dict String}
    {entries : List (String × String)}
    (h : value.member? name = some (Json.stringMembers entries))
    (hentries : Dict.ofList entries = m) : mapField value name = some m := by
  rw [mapField, h, Json.stringMembers]
  simp only [mapM_stringEntry, Option.map_some, hentries]

theorem int64Field_int {value : Json.Value} {name : String} {i : Int}
    (h : value.member? name = some (.int i)) (hrange : -2 ^ 63 ≤ i ∧ i < 2 ^ 63) :
    int64Field value name = some i := by
  have hint : (Json.Number.ofInt i).toInt? = some i := by
    simp only [Json.Number.ofInt, Json.Number.toInt?, if_true, Option.some.injEq]
    by_cases hneg : i < 0
    · simp only [hneg, decide_true, if_true]
      omega
    · simp only [hneg, decide_false, Bool.false_eq_true, if_false]
      omega
  rw [int64Field, h, Json.Value.int]
  simp only [hint, Option.bind_some, if_pos hrange]

theorem length_le_utf8ByteSize (s : String) : s.length ≤ s.utf8ByteSize := by
  rw [← String.ofList_toList (s := s)]
  generalize s.toList = cs
  induction cs with
  | nil => simp
  | cons c cs ih =>
    have hpos := c.utf8Size_pos
    have hsize : (String.ofList (c :: cs)).utf8ByteSize =
        c.utf8Size + (String.ofList cs).utf8ByteSize := by
      rw [show c :: cs = [c] ++ cs from rfl, String.ofList_append, String.utf8ByteSize_append]
      simp
    rw [hsize]
    simp only [String.length_ofList, List.length_cons] at ih ⊢
    omega

theorem standard_not_lineEnd (c : Char) (h : c ∈ Base64.standard) :
    (c != '\r' && c != '\n') = true := by
  have hall : (Base64.standard.all fun c => c != '\r' && c != '\n') = true := by decide
  exact List.all_eq_true.mp hall c h

/-- The text `b64encode` makes of a signature decodes to the signature. -/
theorem decodeString_encode (signature : List UInt8) :
    decodeString (.ofList (Base64.encode Base64.standard signature)) = some signature := by
  have hfilter : (Base64.encode Base64.standard signature).filter
      (fun c => c != '\r' && c != '\n') = Base64.encode Base64.standard signature := by
    rw [List.filter_eq_self]
    intro c hc
    obtain hc | rfl := Base64.mem_encode Base64.isAlphabet_standard signature c hc
    · exact standard_not_lineEnd c hc
    · rfl
  rw [decodeString, String.toList_ofList, hfilter]
  exact Base64.decode_encode Base64.isAlphabet_standard signature

end VpsGuardian.Agent
