import VpsGuardian.Controller.Records

/-!
Authentication of Agent requests (`agent_security.py`).
-/

namespace VpsGuardian.Controller

open Lib

/-- The configuration, and what the handlers use of the cryptographic and
networking libraries. -/
structure Settings where
  production : Bool
  /-- `nonce_ttl_seconds` -/
  nonceTTL : Int
  /-- `agent_pending_identity_ttl_minutes` -/
  pendingIdentityTTL : Int
  oneCommandInstallEnabled : Bool
  sha256Hex : String → String
  /-- Whether a signature by a public key is valid for a message. -/
  verifySignature : String → String → String → Bool
  /-- Why a CSR with a signing key and its proof of possession is refused. -/
  csrError : String → String → String → Option String
  validNetwork : String → Bool
  /-- Whether an address lies in a network. -/
  inNetwork : String → String → Bool

/-- The headers and the body of a request by an Agent. -/
structure AgentRequest where
  /-- Fingerprint and serial of the certificate the mTLS gateway vouches for. -/
  gatewayCertificate : Option (String × String)
  fingerprintHeader : String
  timestamp : String
  nonce : String
  signature : String
  body : String
  deriving DecidableEq, Repr

/-- Serializes identity authentication and lifecycle changes for one Agent. -/
def lockActiveAgent (db : Db) (agentID : String) : Except HTTPException AgentRecord := do
  let record ← orRaise (db.record? agentID) ⟨404, "active agent not found"⟩
  raiseIf record.revoked ⟨404, "active agent not found"⟩
  return record

def hexDigits : List Char := "0123456789ABCDEF".toList

def normalizeCertificateFingerprint (value : String) : Option String :=
  let normalized := (value.toList.filter fun c => c != ':' && c != ' ').map Char.toUpper
  if normalized.length = 64 ∧ normalized.all hexDigits.contains then
    some (String.ofList normalized)
  else none

/-- Whitespace of `str.strip` among the characters of a header. -/
def isPythonSpace (c : Char) : Bool :=
  let n := c.toNat
  (9 ≤ n ∧ n ≤ 13) ∨ (28 ≤ n ∧ n ≤ 32) ∨ n = 133 ∨ n = 160

def strip (characters : List Char) : List Char :=
  ((characters.dropWhile isPythonSpace).reverse.dropWhile isPythonSpace).reverse

/-- `removeprefix("0X").lstrip("0")` -/
def stripSerial : List Char → List Char
  | '0' :: 'X' :: rest => rest.dropWhile (· == '0')
  | characters => characters.dropWhile (· == '0')

def normalizeCertificateSerial (value : String) : Option String :=
  let stripped := stripSerial ((strip value.toList).map Char.toUpper)
  let normalized := if stripped = [] then ['0'] else stripped
  if normalized.length ≤ 128 ∧ normalized.all hexDigits.contains then
    some (String.ofList normalized)
  else none

/-- The SHA-256 fingerprint and serial asserted by the trusted mTLS gateway. -/
def trustedClientCertificateIdentity (request : AgentRequest) :
    Except HTTPException (String × String) :=
  orRaise request.gatewayCertificate ⟨401, "invalid forwarded client certificate"⟩

/-- The digits of an `int(...)` literal, with single underscores between them. -/
def digitsOf : List Char → Option (List Char)
  | [] => none
  | [c] => if c.isDigit then some [c] else none
  | c :: '_' :: rest => if c.isDigit then (digitsOf rest).map (c :: ·) else none
  | c :: rest => if c.isDigit then (digitsOf rest).map (c :: ·) else none

def natOfDigits (digits : List Char) : Nat :=
  digits.foldl (fun n c => 10 * n + (c.toNat - '0'.toNat)) 0

/-- `int(value)` for ASCII text. -/
def pythonInt (value : String) : Option Int :=
  match strip value.toList with
  | '-' :: digits => (digitsOf digits).map fun digits => -(natOfDigits digits : Int)
  | '+' :: digits => (digitsOf digits).map fun digits => (natOfDigits digits : Int)
  | digits => (digitsOf digits).map fun digits => (natOfDigits digits : Int)

/-- `datetime.fromtimestamp(int(timestamp), UTC)`, defined for the years 1 to 9999. -/
def fromTimestamp (timestamp : String) : Option Time := do
  let value ← pythonInt timestamp
  if -62135596800 ≤ value ∧ value ≤ 253402300799 then some (seconds value) else none

def buildAgentSigningMessage (settings : Settings) (agentID timestamp nonce payload : String) :
    String :=
  agentID ++ "\n" ++ timestamp ++ "\n" ++ nonce ++ "\n" ++ settings.sha256Hex payload

/-- The identity states a request is accepted from at a time. -/
def AgentIdentity.accepted (identity : AgentIdentity) (now : Time) : Bool :=
  match identity.state with
  | .active | .retiring => true
  | .pending => identity.expiresAt.any (now < ·)
  | .revoked | .retired => false

/-- The query of `verify_agent_request`. -/
def acceptedIdentity (record : AgentRecord) (fingerprint : String)
    (certificateSerial : Option String) (now : Time) : Option AgentIdentity :=
  record.identities.find? fun identity =>
    identity.certificateFingerprint == fingerprint && identity.accepted now &&
      certificateSerial.all (identity.certificateSerial == some ·)

/-- The certificate of a request, whose serial is known only behind the gateway. -/
def clientCertificate (settings : Settings) (request : AgentRequest) :
    Except HTTPException (String × Option String) :=
  if settings.production then do
    let (fingerprint, certificateSerial) ← trustedClientCertificateIdentity request
    return (fingerprint, some certificateSerial)
  else do
    let fingerprint ← orRaise (normalizeCertificateFingerprint request.fingerprintHeader)
      ⟨401, "invalid mTLS fingerprint"⟩
    return (fingerprint, none)

/-- Verifies a request while the caller holds the Agent row lock through commit. -/
def verifyAgentRequest (settings : Settings) (db : Db) (record : AgentRecord)
    (request : AgentRequest) : Except HTTPException (AgentIdentity × Db) := do
  let (fingerprint, certificateSerial) ← clientCertificate settings request
  raiseIf (request.timestamp = "" ∨ request.nonce.length < 16 ∨ 128 < request.nonce.length ∨
    request.signature = "") ⟨401, "missing agent signature headers"⟩
  let now := db.clock
  let identity ← orRaise (acceptedIdentity record fingerprint certificateSerial now)
    ⟨401, "agent identity not accepted"⟩
  let signedAt ← orRaise (fromTimestamp request.timestamp) ⟨401, "invalid agent timestamp"⟩
  raiseIf (seconds settings.nonceTTL < |now - signedAt|) ⟨401, "expired agent request"⟩
  let nonces := db.nonces.filter fun nonce => decide (now ≤ nonce.expiresAt)
  raiseIf (nonces.any (·.value == request.nonce)) ⟨409, "replayed agent request"⟩
  raiseIf (!settings.verifySignature identity.signingPublicKey
    (buildAgentSigningMessage settings record.id request.timestamp request.nonce request.body)
    request.signature) ⟨401, "invalid agent signature"⟩
  let nonce := ⟨request.nonce, max now signedAt + seconds settings.nonceTTL⟩
  return (identity, { db with nonces := nonces ++ [nonce] })

/-! ### What a success says -/

theorem lockActiveAgent_eq_ok {db : Db} {agentID : String} {record : AgentRecord} :
    lockActiveAgent db agentID = .ok record ↔
      db.record? agentID = some record ∧ record.revoked = false := by
  rw [lockActiveAgent, orRaise_bind_eq_ok]
  simp only [raiseIf_bind_eq_ok, Bool.not_eq_true]
  constructor
  · rintro ⟨found, hfound, hrevoked, heq⟩
    cases heq
    exact ⟨hfound, hrevoked⟩
  · rintro ⟨hfound, hrevoked⟩
    exact ⟨record, hfound, hrevoked, rfl⟩

/-- Only an identity of the Agent in an accepted state passes, and only the nonces change. -/
theorem verifyAgentRequest_ok {settings : Settings} {db db' : Db} {record : AgentRecord}
    {request : AgentRequest} {identity : AgentIdentity}
    (h : verifyAgentRequest settings db record request = .ok (identity, db')) :
    identity ∈ record.identities ∧ identity.accepted db.clock = true ∧
      ∃ nonces, db' = { db with nonces := nonces } := by
  unfold verifyAgentRequest at h
  obtain ⟨⟨fingerprint, certificateSerial⟩, -, h⟩ := bind_eq_ok.mp h
  obtain ⟨-, h⟩ := raiseIf_bind_eq_ok.mp h
  obtain ⟨found, hfound, h⟩ := orRaise_bind_eq_ok.mp h
  obtain ⟨signedAt, -, h⟩ := orRaise_bind_eq_ok.mp h
  obtain ⟨-, h⟩ := raiseIf_bind_eq_ok.mp h
  obtain ⟨-, h⟩ := raiseIf_bind_eq_ok.mp h
  obtain ⟨-, h⟩ := raiseIf_bind_eq_ok.mp h
  cases h
  have hquery := List.find?_some hfound
  simp only [Bool.and_eq_true] at hquery
  exact ⟨List.mem_of_find?_eq_some hfound, hquery.1.2, _, rfl⟩

/-- The identity that passes is the one of the request's certificate. -/
theorem verifyAgentRequest_certificate {settings : Settings} {db db' : Db} {record : AgentRecord}
    {request : AgentRequest} {identity : AgentIdentity}
    (h : verifyAgentRequest settings db record request = .ok (identity, db')) :
    ∃ certificateSerial, clientCertificate settings request =
      .ok (identity.certificateFingerprint, certificateSerial) := by
  unfold verifyAgentRequest at h
  obtain ⟨⟨fingerprint, certificateSerial⟩, hcertificate, h⟩ := bind_eq_ok.mp h
  obtain ⟨-, h⟩ := raiseIf_bind_eq_ok.mp h
  obtain ⟨found, hfound, h⟩ := orRaise_bind_eq_ok.mp h
  obtain ⟨signedAt, -, h⟩ := orRaise_bind_eq_ok.mp h
  simp only [raiseIf_bind_eq_ok] at h
  obtain ⟨-, -, -, h⟩ := h
  cases h
  have hquery := List.find?_some hfound
  simp only [Bool.and_eq_true, beq_iff_eq] at hquery
  exact ⟨certificateSerial, hquery.1.1 ▸ hcertificate⟩

end VpsGuardian.Controller
