import VpsGuardian.Controller.AgentSecurity
import VpsGuardian.Lib.Bytes

/-!
The revocation list of the Agent CA: its generation (`agent_crl.py`) and its
validation (`trust_material.py`).

Names, public and private keys are any types, and what the x509 library does
with them is a parameter.
-/

namespace VpsGuardian.TrustMaterial

open Lib Controller

structure KeyUsage where
  keyCertSign : Bool
  crlSign : Bool
  deriving DecidableEq, Repr

/-- A certificate. Its times are whole seconds; an authority key identifier need not have a
key id. -/
structure Certificate (ν π : Type) where
  subject : ν
  issuer : ν
  publicKey : π
  notValidBefore : Int
  notValidAfter : Int
  basicConstraints : Option Bool
  keyUsage : Option KeyUsage
  subjectKeyIdentifier : Option Bytes
  authorityKeyIdentifier : Option (Option Bytes)

structure RevokedCertificate where
  serialNumber : Int
  revocationDate : Int
  extensions : List (String × Bytes)
  deriving DecidableEq

/-- What a list says, as it is given to the builder. -/
structure RevocationList (ν : Type) where
  issuer : ν
  lastUpdate : Int
  nextUpdate : Option Int
  crlNumber : Option Int
  authorityKeyIdentifier : Option (Option Bytes)
  revoked : List RevokedCertificate
  deriving DecidableEq

/-- A signed list. -/
structure CRL (ν : Type) extends RevocationList ν where
  signature : Bytes
  deriving DecidableEq

/-- The library. `sign` fails where it refuses what the builder was given. -/
structure X509 (ν π κ : Type) where
  loadPemCrl : Bytes → Option (CRL ν)
  pem : CRL ν → Bytes
  sign : κ → RevocationList ν → Option (CRL ν)
  isSignatureValid : CRL ν → π → Bool
  isDirectlyIssuedBy : Certificate ν π → Certificate ν π → Bool
  allowedKey : κ → Bool
  publicKey : κ → π
  keyIdentifier : π → Bytes
  cessationOfOperation : String × Bytes
  sha256 : Bytes → String

def pemBegin (block : String) : Bytes := .ascii ("-----BEGIN " ++ block ++ "-----")

def pemEnd (block : String) : Bytes := .ascii ("-----END " ++ block ++ "-----")

def crlBlock : String := "X509 CRL"

/-- What is documented of the library: it parses what it serialises, signs what it was given,
its signatures verify, a PEM block is its two lines around lines without dashes, and the
identifier of a key is a hash value. -/
structure X509.Lawful {ν π κ : Type} (x : X509 ν π κ) : Prop where
  parses : ∀ {key list crl}, x.sign key list = some crl → x.loadPemCrl (x.pem crl) = some crl
  signs : ∀ {key list crl}, x.sign key list = some crl → crl.toRevocationList = list
  verifies : ∀ {key list crl}, x.sign key list = some crl →
    x.isSignatureValid crl (x.publicKey key) = true
  armours : ∀ {key list crl}, x.sign key list = some crl → ∃ body : Bytes, (45 : UInt8) ∉ body ∧
    x.pem crl = pemBegin crlBlock ++ 10 :: (body ++ 10 :: (pemEnd crlBlock ++ [10]))
  identifies : ∀ key, x.keyIdentifier key ≠ []

/-! ### Validation -/

def maxCertificateBytes : Nat := 1048576

/-- The content of a file that is there and regular. -/
def readRegularFile (data : Bytes) (label : String) (maximumBytes : Nat) :
    Except String Bytes := do
  raiseIf (data.length = 0 ∨ maximumBytes < data.length) (label ++ " has an invalid size")
  return data

def requireSinglePemBlock (data : Bytes) (label block : String) : Except String Unit := do
  raiseIf (Bytes.count (pemBegin block) data ≠ 1 ∨ Bytes.count (pemEnd block) data ≠ 1)
    (label ++ " must contain exactly one PEM object")
  let beginAt := (Bytes.find? (pemBegin block) data).getD 0
  let endAt := beginAt + (Bytes.find? (pemEnd block) (data.drop beginAt)).getD 0 +
    (pemEnd block).length
  raiseIf (Bytes.strip (data.take beginAt) ≠ [] ∨ Bytes.strip (data.drop endAt) ≠ [])
    (label ++ " contains data outside its PEM object")

section

variable {ν π κ : Type}

def subjectKeyIdentifier (certificate : Certificate ν π) (label : String) :
    Except String Bytes := do
  let identifier ← orRaise certificate.subjectKeyIdentifier
    (label ++ " has no subject key identifier")
  raiseIf (identifier = []) (label ++ " has an empty subject key identifier")
  return identifier

def authorityKeyIdentifier (extension : Option (Option Bytes)) (label : String) :
    Except String Bytes := do
  let identifier ← orRaise extension (label ++ " has no authority key identifier")
  raiseIf (identifier.getD [] = []) (label ++ " has no authority key identifier key ID")
  return identifier.getD []

def requireCa (certificate : Certificate ν π) (label : String) : Except String Unit := do
  let ca ← orRaise certificate.basicConstraints (label ++ " has no basic constraints")
  raiseIf (ca = false) (label ++ " is not a CA certificate")
  let usage ← orRaise certificate.keyUsage (label ++ " has no key usage")
  raiseIf (usage.keyCertSign = false ∨ usage.crlSign = false)
    (label ++ " key usage cannot issue certificates and CRLs")

def requireCurrentInterval (notBefore notAfter : Int) (now : Time) (label : String) :
    Except String Unit := do
  raiseIf (notAfter ≤ notBefore) (label ++ " validity interval is invalid")
  raiseIf (now < seconds notBefore) (label ++ " is not yet valid")
  raiseIf (seconds notAfter ≤ now) (label ++ " is expired")

def verifyDirectIssuer [DecidableEq ν] (x : X509 ν π κ) (certificate issuer : Certificate ν π)
    (label : String) :
    Except String Unit := do
  raiseIf (certificate.issuer ≠ issuer.subject)
    (label ++ " issuer does not match its issuer certificate")
  raiseIf (x.isDirectlyIssuedBy certificate issuer = false)
    (label ++ " signature is not valid for its issuer certificate")

/-- The checks of the Agent CA in `build_trust_material_manifest`, and its key identifier. -/
def checkAgentCa [DecidableEq ν] (x : X509 ν π κ) (agentCa : Certificate ν π) (now : Time) :
    Except String Bytes := do
  let label := "Agent CA certificate"
  requireCa agentCa label
  raiseIf (agentCa.subject ≠ agentCa.issuer) "Agent CA certificate is not self-issued"
  verifyDirectIssuer x agentCa agentCa label
  requireCurrentInterval agentCa.notValidBefore agentCa.notValidAfter now label
  let ski ← subjectKeyIdentifier agentCa label
  let aki ← authorityKeyIdentifier agentCa.authorityKeyIdentifier label
  raiseIf (aki ≠ ski) "Agent CA authority and subject key identifiers differ"
  return ski

structure LoadedCRL (ν : Type) where
  data : Bytes
  value : CRL ν
  number : Int
  revokedSerials : Finset Int
  deriving DecidableEq

/-- `_load_crl`, for the content of the file. -/
def loadCrl [DecidableEq ν] (x : X509 ν π κ) (file : Bytes) (agentCa : Certificate ν π)
    (agentCaSki : Bytes)
    (label : String) (now : Time) (requireCurrent : Bool) : Except String (LoadedCRL ν) := do
  let data ← readRegularFile file label maxCertificateBytes
  requireSinglePemBlock data label crlBlock
  let crl ← orRaise (x.loadPemCrl data) (label ++ " is not a supported X.509 CRL")
  raiseIf (crl.issuer ≠ agentCa.subject) (label ++ " issuer does not match the Agent CA")
  let aki ← authorityKeyIdentifier crl.authorityKeyIdentifier label
  raiseIf (aki ≠ agentCaSki)
    (label ++ " authority key identifier does not match the Agent CA")
  raiseIf (x.isSignatureValid crl agentCa.publicKey = false)
    (label ++ " signature is not valid for the Agent CA")
  let number ← orRaise crl.crlNumber (label ++ " has no CRL number")
  raiseIf (number < 0) (label ++ " has an invalid CRL number")
  raiseIf (40 < (toString number).length) (label ++ " CRL number is too large")
  let nextUpdate ← orRaise crl.nextUpdate (label ++ " has no nextUpdate")
  raiseIf (nextUpdate ≤ crl.lastUpdate) (label ++ " update interval is invalid")
  raiseIf (crl.lastUpdate < agentCa.notValidBefore ∨ agentCa.notValidAfter < nextUpdate)
    (label ++ " validity exceeds the Agent CA validity")
  if requireCurrent then
    requireCurrentInterval crl.lastUpdate nextUpdate now label
    raiseIf (seconds nextUpdate ≤ now + minutes 5)
      (label ++ " expires within the five-minute safety margin")
  let serials := crl.revoked.map (·.serialNumber)
  raiseIf (¬serials.Nodup) (label ++ " contains a duplicate revoked certificate serial")
  return ⟨data, crl, number, serials.toFinset⟩

def verifyCrlAdvance (current previous : LoadedCRL ν) : Except String Unit := do
  raiseIf (current.number < previous.number) "Agent CRL number rolls back the previous CRL"
  raiseIf (current.number = previous.number ∧ current.data ≠ previous.data)
    "Agent CRL content changed without advancing the CRL number"
  raiseIf (previous.number < current.number ∧ current.value.lastUpdate < previous.value.lastUpdate)
    "Agent CRL thisUpdate rolls back the previous CRL"
  raiseIf (previous.number < current.number ∧ ¬previous.revokedSerials ⊆ current.revokedSerials)
    "Agent CRL omits a previously revoked certificate"

/-! ### Generation -/

structure GeneratedAgentCRL where
  pem : Bytes
  number : Int
  sha256 : String
  revokedSerial : String
  deriving DecidableEq

/-- `_load_ca`, for files that hold the certificate and the key. -/
def loadCa [DecidableEq π] (x : X509 ν π κ) (certificate : Certificate ν π) (privateKey : κ) :
    Except String Unit := do
  raiseIf (x.allowedKey privateKey = false) "Agent CA private key algorithm is not allowed"
  raiseIf (certificate.publicKey ≠ x.publicKey privateKey)
    "Agent CA certificate and private key do not match"
  let usage ← orRaise certificate.keyUsage "Agent CA key usage is missing"
  raiseIf (usage.crlSign = false) "Agent CA is not allowed to sign CRLs"

/-- `int(normalized, 16)` for upper-case digits. -/
def hexNumber (normalized : String) : Int :=
  normalized.toList.foldl
    (fun n c => 16 * n + (if c.isDigit then c.toNat - '0'.toNat else c.toNat - 'A'.toNat + 10)) 0

/-- The list that follows another one, with one certificate more. -/
def nextList (x : X509 ν π κ) (certificate : Certificate ν π) (privateKey : κ)
    (current : CRL ν) (number serial : Int) (issuedAt : Int) : RevocationList ν where
  issuer := certificate.subject
  lastUpdate := issuedAt
  nextUpdate := some (min (issuedAt + 7 * 86400) certificate.notValidAfter)
  crlNumber := some (number + 1)
  authorityKeyIdentifier := some (some (x.keyIdentifier (x.publicKey privateKey)))
  revoked := current.revoked ++ [⟨serial, issuedAt, [x.cessationOfOperation]⟩]

def generateAgentCrl [DecidableEq ν] [DecidableEq π] (x : X509 ν π κ)
    (certificate : Certificate ν π) (privateKey : κ)
    (currentCrlPem : Bytes) (revokedSerial : String) (now : Time) :
    Except String GeneratedAgentCRL := do
  loadCa x certificate privateKey
  let current ← orRaise (x.loadPemCrl currentCrlPem) "current Agent CRL is invalid"
  raiseIf (current.issuer ≠ certificate.subject ∨
      x.isSignatureValid current (x.publicKey privateKey) = false)
    "current Agent CRL signature or issuer is invalid"
  let number ← orRaise current.crlNumber "current Agent CRL has no CRL number"
  let normalized ← orRaise (normalizeCertificateSerial revokedSerial) "invalid certificate serial"
  let serial := hexNumber normalized
  raiseIf (current.revoked.any (·.serialNumber == serial))
    "certificate serial is already present in the Agent CRL"
  -- the microseconds are dropped
  let issuedAt := now / 1000000
  let generated ← orRaise
    (x.sign privateKey (nextList x certificate privateKey current number serial issuedAt))
    "the list is refused"
  let pem := x.pem generated
  return ⟨pem, number + 1, x.sha256 pem, normalized⟩

end

end VpsGuardian.TrustMaterial
