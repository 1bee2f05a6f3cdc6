import VpsGuardian.TrustMaterial.Crl

/-!
Chains of generated lists against the validation.

The generator names the issuing key by its hash, the validation wants the
identifier that the CA certificate carries, and it limits the size of the file.
Everything else that the validation asks for, the generator keeps along a chain
of any length.
-/

namespace VpsGuardian.TrustMaterial

open Lib Controller

variable {ν π κ : Type}

/-! ### PEM blocks -/

theorem pemBegin_facts : pemBegin crlBlock ≠ [] ∧ (10 : UInt8) ∉ pemBegin crlBlock ∧
    (45 : UInt8) ∈ pemBegin crlBlock ∧ ¬pemBegin crlBlock <:+: pemEnd crlBlock := by
  decide

theorem pemEnd_facts : pemEnd crlBlock ≠ [] ∧ (10 : UInt8) ∉ pemEnd crlBlock ∧
    (45 : UInt8) ∈ pemEnd crlBlock ∧ ¬pemEnd crlBlock <:+: pemBegin crlBlock := by
  decide

theorem requireSinglePemBlock_armoured {body : Bytes} (hbody : (45 : UInt8) ∉ body)
    (label : String) : requireSinglePemBlock
      (pemBegin crlBlock ++ 10 :: (body ++ 10 :: (pemEnd crlBlock ++ [10]))) label crlBlock =
        .ok () := by
  obtain ⟨hbegin, hbeginLine, hbeginDash, hbeginEnd⟩ := pemBegin_facts
  obtain ⟨hend, hendLine, hendDash, hendBegin⟩ := pemEnd_facts
  have hnil {pattern : Bytes} (hne : pattern ≠ []) : ¬pattern <:+: [] :=
    fun h => hne (List.infix_nil.mp h)
  have hinBody {pattern : Bytes} (hdash : (45 : UInt8) ∈ pattern) : ¬pattern <:+: body :=
    fun h => hbody (h.subset hdash)
  have hcountBegin : Bytes.count (pemBegin crlBlock)
      (pemBegin crlBlock ++ 10 :: (body ++ 10 :: (pemEnd crlBlock ++ [10]))) = 1 := by
    rw [Bytes.count_append_self hbegin, ← List.nil_append (10 :: (body ++ _)),
      Bytes.count_append_cons (hnil hbegin) hbeginLine,
      Bytes.count_append_cons (hinBody hbeginDash) hbeginLine,
      Bytes.count_append_cons hbeginEnd hbeginLine]
    rfl
  have hcountEnd : Bytes.count (pemEnd crlBlock)
      (pemBegin crlBlock ++ 10 :: (body ++ 10 :: (pemEnd crlBlock ++ [10]))) = 1 := by
    rw [Bytes.count_append_cons hendBegin hendLine,
      Bytes.count_append_cons (hinBody hendDash) hendLine, Bytes.count_append_self hend,
      ← List.nil_append [10], Bytes.count_append_cons (hnil hend) hendLine]
    rfl
  have hfindBegin := Bytes.find?_append_self (pemBegin crlBlock)
    (10 :: (body ++ 10 :: (pemEnd crlBlock ++ [10])))
  have hfindEnd : Bytes.find? (pemEnd crlBlock)
      (pemBegin crlBlock ++ 10 :: (body ++ 10 :: (pemEnd crlBlock ++ [10]))) =
        some (body.length + 1 + ((pemBegin crlBlock).length + 1)) := by
    rw [Bytes.find?_append_cons hendBegin hendLine,
      Bytes.find?_append_cons (hinBody hendDash) hendLine, Bytes.find?_append_self]
    simp
  have hrest : (pemBegin crlBlock ++ 10 :: (body ++ 10 :: (pemEnd crlBlock ++ [10]))).drop
      (body.length + 1 + ((pemBegin crlBlock).length + 1) + (pemEnd crlBlock).length) = [10] := by
    have hsplit : pemBegin crlBlock ++ 10 :: (body ++ 10 :: (pemEnd crlBlock ++ [10])) =
        (pemBegin crlBlock ++ 10 :: (body ++ 10 :: pemEnd crlBlock)) ++ [10] := by simp
    rw [hsplit, List.drop_left']
    simp
    omega
  unfold requireSinglePemBlock
  rw [raiseIf_bind_eq_ok]
  refine ⟨by simp [hcountBegin, hcountEnd], ?_⟩
  rw [raiseIf_eq_ok]
  simp only [hfindBegin, Option.getD_some, List.drop_zero, hfindEnd, Nat.zero_add, hrest,
    List.take_zero]
  decide

/-! ### What the validation accepts -/

/-- A list in its validity, with more than five minutes left. -/
structure Current (lastUpdate nextUpdate : Int) (now : Time) : Prop where
  begun : seconds lastUpdate ≤ now
  left : now + minutes 5 < seconds nextUpdate

/-- What `_load_crl` asks for. -/
structure Acceptable (x : X509 ν π κ) (agentCa : Certificate ν π) (ski : Bytes) (now : Time)
    (requireCurrent : Bool) (loaded : LoadedCRL ν) : Prop where
  nonempty : loaded.data.length ≠ 0
  size : loaded.data.length ≤ maxCertificateBytes
  block : requireSinglePemBlock loaded.data "" crlBlock = .ok ()
  parsed : x.loadPemCrl loaded.data = some loaded.value
  issuer : loaded.value.issuer = agentCa.subject
  identifier : loaded.value.authorityKeyIdentifier = some (some ski) ∧ ski ≠ []
  signature : x.isSignatureValid loaded.value agentCa.publicKey = true
  number : loaded.value.crlNumber = some loaded.number
  nonneg : 0 ≤ loaded.number
  digits : (toString loaded.number).length ≤ 40
  interval : ∃ nextUpdate, loaded.value.nextUpdate = some nextUpdate ∧
    loaded.value.lastUpdate < nextUpdate ∧ agentCa.notValidBefore ≤ loaded.value.lastUpdate ∧
    nextUpdate ≤ agentCa.notValidAfter ∧
    (requireCurrent = true → Current loaded.value.lastUpdate nextUpdate now)
  distinct : (loaded.value.revoked.map (·.serialNumber)).Nodup
  serials : loaded.revokedSerials = (loaded.value.revoked.map (·.serialNumber)).toFinset

theorem requireCurrentInterval_eq_ok {notBefore notAfter : Int} {now : Time} {label : String} :
    requireCurrentInterval notBefore notAfter now label = .ok () ↔
      notBefore < notAfter ∧ seconds notBefore ≤ now ∧ now < seconds notAfter := by
  unfold requireCurrentInterval
  rw [raiseIf_bind_eq_ok, raiseIf_bind_eq_ok, raiseIf_eq_ok, not_le, not_lt, not_le]

theorem authorityKeyIdentifier_eq_ok {extension : Option (Option Bytes)} {label : String}
    {identifier : Bytes} : authorityKeyIdentifier extension label = .ok identifier ↔
      extension = some (some identifier) ∧ identifier ≠ [] := by
  unfold authorityKeyIdentifier
  rw [orRaise_bind_eq_ok]
  constructor
  · rintro ⟨value, rfl, h⟩
    obtain ⟨hne, h⟩ := raiseIf_bind_eq_ok.mp h
    obtain rfl := Except.ok.inj h
    cases value with
    | none => exact absurd rfl hne
    | some identifier => exact ⟨rfl, hne⟩
  · rintro ⟨rfl, hne⟩
    exact ⟨_, rfl, raiseIf_bind_eq_ok.mpr ⟨hne, rfl⟩⟩

theorem readRegularFile_eq_ok {file data : Bytes} {label : String} {maximumBytes : Nat} :
    readRegularFile file label maximumBytes = .ok data ↔
      data = file ∧ file.length ≠ 0 ∧ file.length ≤ maximumBytes := by
  unfold readRegularFile
  rw [raiseIf_bind_eq_ok, not_or, not_lt]
  constructor
  · rintro ⟨hsize, h⟩
    exact ⟨(Except.ok.inj h).symm, hsize⟩
  · rintro ⟨rfl, hsize⟩
    exact ⟨hsize, rfl⟩

/-- The label is only part of the messages. -/
theorem requireSinglePemBlock_label {data : Bytes} {label block : String} (other : String) :
    requireSinglePemBlock data label block = .ok () ↔
      requireSinglePemBlock data other block = .ok () := by
  unfold requireSinglePemBlock
  rw [raiseIf_bind_eq_ok, raiseIf_bind_eq_ok, raiseIf_eq_ok, raiseIf_eq_ok]

/-- The checks that are made only if the list is to be current. -/
theorem current_checks {lastUpdate nextUpdate : Int} {now : Time} {label : String}
    {requireCurrent : Bool} {β : Type} {rest : Except String β} {b : β}
    (h : lastUpdate < nextUpdate) :
    (if requireCurrent = true then do
        requireCurrentInterval lastUpdate nextUpdate now label
        raiseIf (seconds nextUpdate ≤ now + minutes 5)
          (label ++ " expires within the five-minute safety margin")
        rest
      else rest) = .ok b ↔
    (requireCurrent = true → Current lastUpdate nextUpdate now) ∧ rest = .ok b := by
  cases requireCurrent with
  | false => simp
  | true =>
    rw [if_pos rfl, bind_eq_ok]
    constructor
    · rintro ⟨_, hcurrent, hrest⟩
      obtain ⟨-, hbegun, -⟩ := requireCurrentInterval_eq_ok.mp hcurrent
      obtain ⟨hleft, hrest⟩ := raiseIf_bind_eq_ok.mp hrest
      exact ⟨fun _ => ⟨hbegun, not_le.mp hleft⟩, hrest⟩
    · rintro ⟨hcurrent, hrest⟩
      obtain ⟨hbegun, hleft⟩ := hcurrent rfl
      have hpositive : 0 ≤ minutes 5 := by decide
      have hnow : now < seconds nextUpdate := (le_add_of_nonneg_right hpositive).trans_lt hleft
      exact ⟨(), requireCurrentInterval_eq_ok.mpr ⟨h, hbegun, hnow⟩,
        raiseIf_bind_eq_ok.mpr ⟨not_le.mpr hleft, hrest⟩⟩

theorem loadCrl_eq_ok [DecidableEq ν] {x : X509 ν π κ} {file : Bytes} {agentCa : Certificate ν π}
    {ski : Bytes}
    {label : String} {now : Time} {requireCurrent : Bool} {loaded : LoadedCRL ν} :
    loadCrl x file agentCa ski label now requireCurrent = .ok loaded ↔
      loaded.data = file ∧ Acceptable x agentCa ski now requireCurrent loaded := by
  unfold loadCrl
  simp only [bind_eq_ok, readRegularFile_eq_ok, orRaise_eq_ok, authorityKeyIdentifier_eq_ok,
    raiseIf_eq_ok]
  constructor
  · rintro ⟨data, ⟨rfl, hne, hsize⟩, _, hblock, crl, hparsed, _, hissuer, aki, ⟨haki, hakine⟩, _,
      hski, _, hsignature, number, hnumber, _, hnonneg, _, hdigits, nextUpdate, hnext, _,
      hinterval, _, hwithin, htail⟩
    obtain ⟨hcurrent, htail⟩ := (current_checks (not_le.mp hinterval)).mp htail
    obtain ⟨hdistinct, htail⟩ := raiseIf_bind_eq_ok.mp htail
    obtain rfl := Except.ok.inj htail
    obtain rfl := not_not.mp hski
    rw [not_or, not_lt, not_lt] at hwithin
    refine ⟨rfl, hne, hsize, (requireSinglePemBlock_label "").mp hblock, hparsed,
      not_not.mp hissuer, ⟨haki, hakine⟩, by simpa using hsignature, hnumber, not_lt.mp hnonneg,
      not_lt.mp hdigits, ?_, not_not.mp hdistinct, rfl⟩
    exact ⟨nextUpdate, hnext, not_le.mp hinterval, hwithin.1, hwithin.2, hcurrent⟩
  · rintro ⟨rfl, h⟩
    obtain ⟨nextUpdate, hnext, hinterval, hbefore, hafter, hcurrent⟩ := h.interval
    refine ⟨_, ⟨rfl, h.nonempty, h.size⟩, (), (requireSinglePemBlock_label "").mpr h.block, _,
      h.parsed, (), not_not.mpr h.issuer, _, h.identifier, (), not_not.mpr rfl, (),
      by simp [h.signature], _, h.number, (), not_lt.mpr h.nonneg, (), not_lt.mpr h.digits, _,
      hnext, (), not_le.mpr hinterval, (), ?_, ?_⟩
    · rw [not_or, not_lt, not_lt]
      exact ⟨hbefore, hafter⟩
    · refine (current_checks hinterval).mpr ⟨hcurrent, ?_⟩
      refine raiseIf_bind_eq_ok.mpr ⟨not_not.mpr h.distinct, ?_⟩
      rw [← h.serials]
      rfl

/-! ### What the generator returns -/

variable {x : X509 ν π κ} {ca : Certificate ν π} {key : κ}

/-- The list that a call has signed, and the serial it has added. -/
structure Generates (x : X509 ν π κ) (ca : Certificate ν π) (key : κ) (currentPem : Bytes)
    (now : Time) (generated : GeneratedAgentCRL) (current crl : CRL ν) (serial : Int) : Prop where
  parsed : x.loadPemCrl currentPem = some current
  number : current.crlNumber = some (generated.number - 1)
  fresh : ∀ entry ∈ current.revoked, entry.serialNumber ≠ serial
  signed : x.sign key (nextList x ca key current (generated.number - 1) serial (now / 1000000)) =
    some crl
  pem : generated.pem = x.pem crl
  serial_eq : serial = hexNumber generated.revokedSerial

theorem generates_of_generateAgentCrl [DecidableEq ν] [DecidableEq π] {currentPem : Bytes}
    {revokedSerial : String} {now : Time}
    {generated : GeneratedAgentCRL}
    (h : generateAgentCrl x ca key currentPem revokedSerial now = .ok generated) :
    ∃ current crl serial, Generates x ca key currentPem now generated current crl serial := by
  unfold generateAgentCrl at h
  simp only [bind_eq_ok, orRaise_eq_ok, raiseIf_eq_ok] at h
  obtain ⟨_, -, current, hparsed, _, -, number, hnumber, normalized, -, _, hfresh, crl, hsigned,
    hpure⟩ := h
  obtain rfl := Except.ok.inj hpure
  have hsame : number + 1 - 1 = number := by omega
  refine ⟨current, crl, _, hparsed, by rw [hsame]; exact hnumber, ?_, by rw [hsame]; exact hsigned,
    rfl, rfl⟩
  intro entry hentry heq
  exact hfresh (List.any_eq_true.mpr ⟨entry, hentry, by simpa using heq⟩)

/-! ### Whole seconds -/

theorem seconds_issuedAt_le (now : Int) : 1000000 * (now / 1000000) ≤ now := by omega

theorem le_issuedAt {before now : Int} (h : 1000000 * before ≤ now) : before ≤ now / 1000000 := by
  omega

/-- A week, or up to the end of the CA, is more than five minutes. -/
theorem left_of_nextUpdate {now notAfter : Int} (h : now + 300000000 < 1000000 * notAfter) :
    now + 300000000 < 1000000 * min (now / 1000000 + 7 * 86400) notAfter := by
  omega

theorem issuedAt_lt_nextUpdate {now notAfter : Int} (h : now + 300000000 < 1000000 * notAfter) :
    now / 1000000 < min (now / 1000000 + 7 * 86400) notAfter := by
  omega

/-! ### One call -/

/-- What the next call takes from the list before it. -/
structure Ready (x : X509 ν π κ) (previous : LoadedCRL ν) (now : Time) : Prop where
  parsed : x.loadPemCrl previous.data = some previous.value
  number : previous.value.crlNumber = some previous.number
  nonneg : 0 ≤ previous.number
  begun : seconds previous.value.lastUpdate ≤ now
  distinct : (previous.value.revoked.map (·.serialNumber)).Nodup
  serials : previous.revokedSerials = (previous.value.revoked.map (·.serialNumber)).toFinset

theorem Acceptable.ready {ski : Bytes} {now : Time} {loaded : LoadedCRL ν}
    (h : Acceptable x ca ski now true loaded) : Ready x loaded now := by
  obtain ⟨nextUpdate, -, -, -, -, hcurrent⟩ := h.interval
  exact ⟨h.parsed, h.number, h.nonneg, (hcurrent rfl).begun, h.distinct, h.serials⟩

/-- A list as `_load_crl` returns it for the file of a call. -/
def loadedOf (generated : GeneratedAgentCRL) (crl : CRL ν) : LoadedCRL ν :=
  ⟨generated.pem, crl, generated.number, (crl.revoked.map (·.serialNumber)).toFinset⟩

section

variable {ski : Bytes} {previous : LoadedCRL ν} {now : Time} {generated : GeneratedAgentCRL}
  {current crl : CRL ν} {serial : Int}

theorem number_of_generates (hready : Ready x previous now)
    (h : Generates x ca key previous.data now generated current crl serial) :
    current = previous.value ∧ generated.number = previous.number + 1 := by
  obtain rfl : previous.value = current := by
    have hparsed := h.parsed
    rw [hready.parsed] at hparsed
    exact Option.some.inj hparsed
  have hnumber := h.number
  rw [hready.number] at hnumber
  have hsame : previous.number = generated.number - 1 := Option.some.inj hnumber
  exact ⟨rfl, by omega⟩

theorem serials_of_generates (hx : x.Lawful) (hready : Ready x previous now)
    (h : Generates x ca key previous.data now generated current crl serial) :
    (crl.revoked.map (·.serialNumber)).Nodup ∧ serial ∉ previous.revokedSerials ∧
      (crl.revoked.map (·.serialNumber)).toFinset = insert serial previous.revokedSerials := by
  obtain ⟨rfl, -⟩ := number_of_generates hready h
  have hrevoked : crl.revoked.map (·.serialNumber) =
      previous.value.revoked.map (·.serialNumber) ++ [serial] := by
    have hlist := congrArg RevocationList.revoked (hx.signs h.signed)
    rw [hlist]
    simp [nextList]
  have hout : serial ∉ previous.value.revoked.map (·.serialNumber) := by
    intro hmem
    obtain ⟨entry, hentry, heq⟩ := List.mem_map.mp hmem
    exact h.fresh entry hentry heq
  rw [hrevoked, hready.serials]
  refine ⟨?_, by simpa using hout, ?_⟩
  · rw [List.nodup_append]
    refine ⟨hready.distinct, List.nodup_singleton _, ?_⟩
    rintro a ha b hb rfl
    obtain rfl := List.mem_singleton.mp hb
    exact hout ha
  · ext n
    simp

/-- The file of a call is accepted exactly if its size is and the CA names its key by the hash. -/
theorem acceptable_generated (hx : x.Lawful) (hkey : ca.publicKey = x.publicKey key)
    (hready : Ready x previous now)
    (h : Generates x ca key previous.data now generated current crl serial)
    (hbefore : seconds ca.notValidBefore ≤ now)
    (hleft : now + minutes 5 < seconds ca.notValidAfter)
    (hdigits : (toString generated.number).length ≤ 40) (requireCurrent : Bool) :
    Acceptable x ca ski now requireCurrent (loadedOf generated crl) ↔
      ski = x.keyIdentifier ca.publicKey ∧ generated.pem.length ≤ maxCertificateBytes := by
  have hlist := hx.signs h.signed
  have hidentifier : crl.authorityKeyIdentifier = some (some (x.keyIdentifier ca.publicKey)) := by
    rw [hlist, hkey]
    rfl
  constructor
  · intro hacceptable
    refine ⟨?_, hacceptable.size⟩
    have hski : crl.authorityKeyIdentifier = some (some ski) := hacceptable.identifier.1
    rw [hidentifier] at hski
    exact (Option.some.inj (Option.some.inj hski)).symm
  · rintro ⟨rfl, hsize⟩
    obtain ⟨body, hbody, hpem⟩ := hx.armours h.signed
    obtain ⟨-, hnumber⟩ := number_of_generates hready h
    refine ⟨?_, hsize, ?_, ?_, ?_, ⟨hidentifier, hx.identifies _⟩, ?_, ?_, ?_, hdigits, ?_,
      (serials_of_generates hx hready h).1, rfl⟩
    · simp [loadedOf, h.pem, hpem]
    · change requireSinglePemBlock generated.pem "" crlBlock = .ok ()
      rw [h.pem, hpem]
      exact requireSinglePemBlock_armoured hbody ""
    · change x.loadPemCrl generated.pem = some crl
      rw [h.pem]
      exact hx.parses h.signed
    · exact congrArg RevocationList.issuer hlist
    · change x.isSignatureValid crl ca.publicKey = true
      rw [hkey]
      exact hx.verifies h.signed
    · have hcrl := congrArg RevocationList.crlNumber hlist
      simpa [loadedOf, nextList] using hcrl
    · change 0 ≤ generated.number
      have hnonneg := hready.nonneg
      omega
    · have hlast : crl.lastUpdate = now / 1000000 := congrArg RevocationList.lastUpdate hlist
      have hnext : crl.nextUpdate = some (min (now / 1000000 + 7 * 86400) ca.notValidAfter) :=
        congrArg RevocationList.nextUpdate hlist
      refine ⟨_, hnext, ?_⟩
      change crl.lastUpdate < _ ∧ _ ≤ crl.lastUpdate ∧ _ ∧ (_ → Current crl.lastUpdate _ now)
      rw [hlast]
      exact ⟨issuedAt_lt_nextUpdate hleft, le_issuedAt hbefore, min_le_right _ _,
        fun _ => ⟨seconds_issuedAt_le now, left_of_nextUpdate hleft⟩⟩

end

theorem verifyCrlAdvance_eq_ok {loaded previous : LoadedCRL ν}
    (hnumber : loaded.number = previous.number + 1)
    (hupdate : previous.value.lastUpdate ≤ loaded.value.lastUpdate)
    (hserials : previous.revokedSerials ⊆ loaded.revokedSerials) :
    verifyCrlAdvance loaded previous = .ok () := by
  unfold verifyCrlAdvance
  rw [raiseIf_bind_eq_ok, raiseIf_bind_eq_ok, raiseIf_bind_eq_ok, raiseIf_eq_ok]
  refine ⟨by omega, fun h => absurd h.1 (by omega), fun h => ?_, fun h => h.2 hserials⟩
  exact absurd h.2 (not_lt.mpr hupdate)

/-! ### Chains -/

/-- Calls one after the other, each on the list of the one before. -/
def generateChain [DecidableEq ν] [DecidableEq π] (x : X509 ν π κ) (ca : Certificate ν π)
    (key : κ) :
    Bytes → List (String × Time) → Except String (List GeneratedAgentCRL)
  | _, [] => .ok []
  | currentPem, (revokedSerial, now) :: calls => do
      let generated ← generateAgentCrl x ca key currentPem revokedSerial now
      let rest ← generateChain x ca key generated.pem calls
      return generated :: rest

/-- Each list is accepted at the time of its call, as the current one and as a previous one,
advances the one before it, has the next number and one serial more. -/
def Agrees [DecidableEq ν] (x : X509 ν π κ) (ca : Certificate ν π) (ski : Bytes) (label : String) :
    LoadedCRL ν → List (GeneratedAgentCRL × Time) → Prop
  | _, [] => True
  | previous, (generated, now) :: rest => ∃ loaded,
      (∀ requireCurrent, loadCrl x generated.pem ca ski label now requireCurrent = .ok loaded) ∧
      verifyCrlAdvance loaded previous = .ok () ∧
      generated.number = previous.number + 1 ∧ loaded.number = generated.number ∧
      hexNumber generated.revokedSerial ∉ previous.revokedSerials ∧
      loaded.revokedSerials =
        insert (hexNumber generated.revokedSerial) previous.revokedSerials ∧
      Agrees x ca ski label loaded rest

/-- The CA carries the hash of its key as identifier, and the files are within the limit. -/
def Agreeable (x : X509 ν π κ) (ca : Certificate ν π) (generated : List GeneratedAgentCRL) :
    Prop :=
  (generated ≠ [] → ca.subjectKeyIdentifier = some (x.keyIdentifier ca.publicKey)) ∧
    ∀ list ∈ generated, list.pem.length ≤ maxCertificateBytes

theorem loadCa_publicKey [DecidableEq π] (h : loadCa x ca key = .ok ()) :
    ca.publicKey = x.publicKey key := by
  unfold loadCa at h
  obtain ⟨-, h⟩ := raiseIf_bind_eq_ok.mp h
  obtain ⟨hkey, -⟩ := raiseIf_bind_eq_ok.mp h
  exact not_not.mp hkey

theorem checkAgentCa_subjectKeyIdentifier [DecidableEq ν] {ski : Bytes} {now : Time}
    (h : checkAgentCa x ca now = .ok ski) : ca.subjectKeyIdentifier = some ski := by
  unfold checkAgentCa subjectKeyIdentifier at h
  simp only [bind_eq_ok, orRaise_eq_ok] at h
  obtain ⟨_, -, _, -, _, -, _, -, _, ⟨identifier, hidentifier, _, -, hpure⟩, _, -, _, -, h⟩ := h
  obtain rfl := Except.ok.inj hpure
  obtain rfl := Except.ok.inj h
  exact hidentifier

/-- The file of a call is loaded as what the call has signed. -/
theorem eq_loadedOf [DecidableEq ν] (hx : x.Lawful) {previous loaded : LoadedCRL ν} {now : Time}
    {generated : GeneratedAgentCRL} {current crl : CRL ν} {serial : Int} {ski : Bytes}
    {label : String} {requireCurrent : Bool}
    (h : Generates x ca key previous.data now generated current crl serial)
    (hload : loadCrl x generated.pem ca ski label now requireCurrent = .ok loaded) :
    loaded = loadedOf generated crl := by
  obtain ⟨hdata, hacceptable⟩ := loadCrl_eq_ok.mp hload
  obtain ⟨data, value, number, serials⟩ := loaded
  obtain rfl : data = generated.pem := hdata
  obtain rfl : crl = value := by
    have hparsed := hacceptable.parsed
    rw [h.pem, hx.parses h.signed] at hparsed
    exact Option.some.inj hparsed
  obtain rfl : number = generated.number := by
    have hlist := congrArg RevocationList.crlNumber (hx.signs h.signed)
    have hnumber : crl.crlNumber = some number := hacceptable.number
    rw [hlist] at hnumber
    simpa [nextList, eq_comm] using hnumber
  have hserials : serials = (crl.revoked.map (·.serialNumber)).toFinset := hacceptable.serials
  rw [hserials, loadedOf]

variable [DecidableEq ν] [DecidableEq π]

theorem agrees_iff_of_ready (hx : x.Lawful) (hkey : ca.publicKey = x.publicKey key) {ski : Bytes}
    (hski : ca.subjectKeyIdentifier = some ski) {label : String} {calls : List (String × Time)}
    {previous : LoadedCRL ν} {start : Time}
    (hready : Ready x previous start) (htimes : (start :: calls.map Prod.snd).IsChain (· ≤ ·))
    (hwithin : ∀ call ∈ calls, seconds ca.notValidBefore ≤ call.2 ∧
      call.2 + minutes 5 < seconds ca.notValidAfter)
    {generated : List GeneratedAgentCRL}
    (hgenerated : generateChain x ca key previous.data calls = .ok generated)
    (hdigits : ∀ list ∈ generated, (toString list.number).length ≤ 40) :
    Agrees x ca ski label previous (generated.zip (calls.map Prod.snd)) ↔
      Agreeable x ca generated := by
  induction calls generalizing previous start generated with
  | nil =>
    obtain rfl := Except.ok.inj hgenerated
    simp [Agrees, Agreeable]
  | cons call calls ih =>
    obtain ⟨revokedSerial, now⟩ := call
    simp only [generateChain, bind_eq_ok] at hgenerated
    obtain ⟨first, hfirst, rest, hrest, hpure⟩ := hgenerated
    obtain rfl := Except.ok.inj hpure
    obtain ⟨hle, htimes⟩ := List.isChain_cons_cons.mp htimes
    obtain ⟨current, crl, serial, hcall⟩ := generates_of_generateAgentCrl hfirst
    have hready : Ready x previous now := { hready with begun := hready.begun.trans hle }
    obtain ⟨hbefore, hleft⟩ := hwithin _ List.mem_cons_self
    have haccepts (requireCurrent : Bool) :
        Acceptable x ca ski now requireCurrent (loadedOf first crl) ↔
          ski = x.keyIdentifier ca.publicKey ∧ first.pem.length ≤ maxCertificateBytes :=
      acceptable_generated hx hkey hready hcall hbefore hleft (hdigits _ List.mem_cons_self)
        requireCurrent
    obtain ⟨-, hnumber⟩ := number_of_generates hready hcall
    obtain ⟨-, hfresh, hserials⟩ := serials_of_generates hx hready hcall
    have hnext (hacceptable : Acceptable x ca ski now true (loadedOf first crl)) :
        Agrees x ca ski label (loadedOf first crl) (rest.zip (calls.map Prod.snd)) ↔
          Agreeable x ca rest :=
      ih hacceptable.ready htimes (fun call hmem => hwithin call (List.mem_cons_of_mem _ hmem))
        hrest fun list hmem => hdigits list (List.mem_cons_of_mem _ hmem)
    rw [List.map_cons, List.zip_cons_cons, Agrees]
    constructor
    · rintro ⟨loaded, hload, -, -, -, -, -, hagrees⟩
      obtain rfl := eq_loadedOf hx hcall (hload true)
      have hacceptable := (loadCrl_eq_ok.mp (hload true)).2
      obtain ⟨hidentifier, hsize⟩ := (haccepts true).mp hacceptable
      obtain ⟨-, hsizes⟩ := (hnext hacceptable).mp hagrees
      refine ⟨fun _ => hidentifier ▸ hski, ?_⟩
      intro list hlist
      obtain rfl | hlist := List.mem_cons.mp hlist
      · exact hsize
      · exact hsizes list hlist
    · rintro ⟨hhash, hsizes⟩
      have hidentifier : ski = x.keyIdentifier ca.publicKey := by
        have hsame := hhash (List.cons_ne_nil _ _)
        rw [hski] at hsame
        exact Option.some.inj hsame
      have hacceptable (requireCurrent : Bool) := (haccepts requireCurrent).mpr
        ⟨hidentifier, hsizes _ List.mem_cons_self⟩
      have hupdate : previous.value.lastUpdate ≤ crl.lastUpdate := by
        have hlast : crl.lastUpdate = now / 1000000 :=
          congrArg RevocationList.lastUpdate (hx.signs hcall.signed)
        rw [hlast]
        exact le_issuedAt hready.begun
      refine ⟨loadedOf first crl, fun _ => loadCrl_eq_ok.mpr ⟨rfl, hacceptable _⟩,
        verifyCrlAdvance_eq_ok hnumber hupdate ?_, hnumber, rfl, ?_, ?_, ?_⟩
      · rw [loadedOf, hserials]
        exact Finset.subset_insert _ _
      · exact hcall.serial_eq ▸ hfresh
      · exact hcall.serial_eq ▸ hserials
      · exact (hnext (hacceptable true)).mpr
          ⟨fun _ => hhash (List.cons_ne_nil _ _),
            fun list hmem => hsizes list (List.mem_cons_of_mem _ hmem)⟩

/-- For every CA that both modules accept, every accepted list to start from and every chain of
successful calls, the validation agrees with the generation exactly if the CA carries the hash of
its key as identifier and no file is over the limit. -/
theorem agrees_iff (hx : x.Lawful) (hload : loadCa x ca key = .ok ()) {start : Time} {ski : Bytes}
    (hca : checkAgentCa x ca start = .ok ski) {file : Bytes} {label : String}
    {first : LoadedCRL ν} (hfirst : loadCrl x file ca ski label start true = .ok first)
    {calls : List (String × Time)} (htimes : (start :: calls.map Prod.snd).IsChain (· ≤ ·))
    (hwithin : ∀ call ∈ calls, seconds ca.notValidBefore ≤ call.2 ∧
      call.2 + minutes 5 < seconds ca.notValidAfter)
    {generated : List GeneratedAgentCRL}
    (hgenerated : generateChain x ca key file calls = .ok generated)
    (hdigits : ∀ list ∈ generated, (toString list.number).length ≤ 40) :
    Agrees x ca ski label first (generated.zip (calls.map Prod.snd)) ↔
      Agreeable x ca generated := by
  obtain ⟨rfl, hacceptable⟩ := loadCrl_eq_ok.mp hfirst
  exact agrees_iff_of_ready hx (loadCa_publicKey hload) (checkAgentCa_subjectKeyIdentifier hca)
    hacceptable.ready htimes hwithin hgenerated hdigits

/-! ### A CA with an Ed25519 key -/

def agentKey : String := "069e66308fa2c9afd9cc8722f7e85be0bbf593ab4a0ba666858ccc2b418d0521"

def agentKeyHash : Bytes := [0x49, 0x27, 0x9a, 0x7d, 0xc4, 0x6c, 0x2b, 0xb8, 0x40, 0x18,
  0x56, 0xd0, 0x5e, 0x7e, 0x25, 0xe1, 0xaa, 0x6b, 0x4e, 0xee]

/-- A certificate of the key with an identifier. -/
def agentCa (ski : Bytes) : Certificate String String where
  subject := "CN=Agent CA"
  issuer := "CN=Agent CA"
  publicKey := agentKey
  notValidBefore := 1795095084
  notValidAfter := 2110455084
  basicConstraints := some true
  keyUsage := some ⟨true, true⟩
  subjectKeyIdentifier := some ski
  authorityKeyIdentifier := some (some ski)

/-- The body of a PEM block, between the newlines. -/
def joinLines : List String → Bytes
  | [] => []
  | [line] => .ascii line
  | line :: lines => .ascii line ++ 10 :: joinLines lines

def armoured (lines : List String) : Bytes :=
  pemBegin crlBlock ++ 10 :: (joinLines lines ++ 10 :: (pemEnd crlBlock ++ [10]))

/-- An empty list that names the key by its hash. -/
def emptyCrl : CRL String where
  issuer := "CN=Agent CA"
  lastUpdate := 1795132800
  nextUpdate := some 1795737600
  crlNumber := some 1
  authorityKeyIdentifier := some (some agentKeyHash)
  revoked := []
  signature := [0x1d, 0x3a, 0xa0, 0x55, 0x87, 0x31, 0xa4, 0x4a, 0xb4, 0x85, 0x08, 0x0b, 0xde, 0xd7,
    0xa9, 0x39, 0x52, 0xa8, 0xa0, 0xfa, 0x0e, 0x73, 0x17, 0xf8, 0x9b, 0xb5, 0xb0, 0xbf, 0x95, 0x49,
    0x3c, 0x8a, 0xc8, 0x46, 0x50, 0x83, 0x95, 0x05, 0x67, 0xdf, 0x5e, 0x42, 0x99, 0xbf, 0x5a, 0x4e,
    0x4c, 0x2f, 0xf4, 0x4b, 0x37, 0x1a, 0x25, 0x4d, 0xf8, 0x66, 0x0f, 0xe8, 0xb2, 0x41, 0x34, 0xfb,
    0x19, 0x00]

def emptyCrlLines : List String := [
  "MIG6MG4CAQEwBQYDK2VwMBMxETAPBgNVBAMMCEFnZW50IENBFw0yNjExMjAwMDAw",
  "MDBaFw0yNjExMjcwMDAwMDBaoC8wLTAKBgNVHRQEAwIBATAfBgNVHSMEGDAWgBRJ",
  "J5p9xGwruEAYVtBefiXhqmtO7jAFBgMrZXADQQAdOqBVhzGkSrSFCAve16k5Uqig",
  "+g5zF/ibtbC/lUk8ishGUIOVBWffXkKZv1pOTC/0SzcaJU34Zg/oskE0+xkA"]

/-- An empty list that names the key by another identifier. -/
def namedCrl : CRL String where
  issuer := "CN=Agent CA"
  lastUpdate := 1795132800
  nextUpdate := some 1795737600
  crlNumber := some 1
  authorityKeyIdentifier := some (some [1, 2, 3, 4])
  revoked := []
  signature := [0x20, 0x2f, 0x6f, 0x58, 0x93, 0xcd, 0xb0, 0x6f, 0x65, 0x54, 0xb8, 0xda, 0x1e, 0x91,
    0xf0, 0x8c, 0x46, 0x55, 0x49, 0xae, 0xd4, 0x00, 0x75, 0x6b, 0x66, 0x06, 0x36, 0x77, 0x4e, 0xfc,
    0xab, 0xe1, 0xa2, 0xac, 0xc2, 0xe8, 0x8e, 0x4e, 0x5e, 0xb7, 0xa8, 0xc2, 0x26, 0xbb, 0xba, 0x89,
    0x57, 0xf6, 0x19, 0xe2, 0xef, 0xab, 0x11, 0x56, 0x23, 0x7d, 0xb8, 0xcc, 0xe6, 0x25, 0x30, 0xf0,
    0x83, 0x0c]

def namedCrlLines : List String := [
  "MIGqMF4CAQEwBQYDK2VwMBMxETAPBgNVBAMMCEFnZW50IENBFw0yNjExMjAwMDAw",
  "MDBaFw0yNjExMjcwMDAwMDBaoB8wHTAKBgNVHRQEAwIBATAPBgNVHSMECDAGgAQB",
  "AgMEMAUGAytlcANBACAvb1iTzbBvZVS42h6R8IxGVUmu1AB1a2YGNndO/KvhoqzC",
  "6I5OXreowia7uolX9hni76sRViN9uMzmJTDwgww="]

/-- The list with one certificate, generated from either. -/
def revokedCrl : CRL String where
  issuer := "CN=Agent CA"
  lastUpdate := 1795219200
  nextUpdate := some 1795824000
  crlNumber := some 2
  authorityKeyIdentifier := some (some agentKeyHash)
  revoked := [⟨0xa001, 1795219200, [("2.5.29.21", [10, 1, 5])]⟩]
  signature := [0x83, 0x1b, 0x82, 0x0d, 0x92, 0x09, 0x82, 0x45, 0x17, 0x16, 0xae, 0xf9, 0x6c, 0x23,
    0x90, 0xaa, 0xa6, 0x1d, 0x4e, 0x53, 0x7f, 0x96, 0x29, 0xbe, 0x43, 0x75, 0xf1, 0xc0, 0x10, 0xc9,
    0x46, 0x92, 0x2d, 0xae, 0x1f, 0xaa, 0x05, 0xf9, 0xbc, 0xd8, 0x62, 0x9f, 0xe5, 0x3b, 0x91, 0x9f,
    0x12, 0x5a, 0xfd, 0x7d, 0x15, 0x26, 0xf1, 0x48, 0xaa, 0x44, 0x83, 0x56, 0x21, 0xb9, 0xe9, 0x1e,
    0x0e, 0x04]

def revokedCrlLines : List String := [
  "MIHhMIGUAgEBMAUGAytlcDATMREwDwYDVQQDDAhBZ2VudCBDQRcNMjYxMTIxMDAw",
  "MDAwWhcNMjYxMTI4MDAwMDAwWjAkMCICAwCgARcNMjYxMTIxMDAwMDAwWjAMMAoG",
  "A1UdFQQDCgEFoC8wLTAKBgNVHRQEAwIBAjAfBgNVHSMEGDAWgBRJJ5p9xGwruEAY",
  "VtBefiXhqmtO7jAFBgMrZXADQQCDG4INkgmCRRcWrvlsI5Cqph1OU3+WKb5DdfHA",
  "EMlGki2uH6oF+bzYYp/lO5GfElr9fRUm8UiqRINWIbnpHg4E"]

/-- The library on these lists. -/
def agentX509 : X509 String String String where
  loadPemCrl := fun data =>
    if data = armoured emptyCrlLines then some emptyCrl
    else if data = armoured namedCrlLines then some namedCrl
    else if data = armoured revokedCrlLines then some revokedCrl
    else none
  pem := fun crl =>
    if crl = emptyCrl then armoured emptyCrlLines
    else if crl = namedCrl then armoured namedCrlLines
    else armoured revokedCrlLines
  sign := fun key list =>
    if key = "agent-ca.key" ∧ list = revokedCrl.toRevocationList then some revokedCrl else none
  isSignatureValid := fun crl key => key == agentKey &&
    [emptyCrl, namedCrl, revokedCrl].contains crl
  isDirectlyIssuedBy := fun certificate issuer => certificate.publicKey == issuer.publicKey
  allowedKey := fun key => key == "agent-ca.key"
  publicKey := fun _ => agentKey
  keyIdentifier := fun _ => agentKeyHash
  cessationOfOperation := ("2.5.29.21", [10, 1, 5])
  sha256 := fun _ => "c26174a134a86fa58e304e8890a01ca8f940222ae7827125db9333431be75260"

theorem lawful_agentX509 : agentX509.Lawful := by
  have hsign {key : String} {list : RevocationList String} {crl : CRL String}
      (h : agentX509.sign key list = some crl) :
      key = "agent-ca.key" ∧ list = revokedCrl.toRevocationList ∧ crl = revokedCrl := by
    simp only [agentX509] at h
    split at h
    next hkey => exact ⟨hkey.1, hkey.2, (Option.some.inj h).symm⟩
    · cases h
  refine ⟨?_, ?_, ?_, ?_, fun _ => List.cons_ne_nil _ _⟩
  · rintro key list crl h
    obtain ⟨-, -, rfl⟩ := hsign h
    decide +kernel
  · rintro key list crl h
    obtain ⟨-, rfl, rfl⟩ := hsign h
    rfl
  · rintro key list crl h
    obtain ⟨-, -, rfl⟩ := hsign h
    change agentX509.isSignatureValid revokedCrl agentKey = true
    decide +kernel
  · rintro key list crl h
    obtain ⟨-, -, rfl⟩ := hsign h
    exact ⟨joinLines revokedCrlLines, by decide +kernel, by decide +kernel⟩

/-- A call half a second after the second the list is dated to. -/
def callTime : Time := 1795219200500000

def generatedCrl : GeneratedAgentCRL where
  pem := armoured revokedCrlLines
  number := 2
  sha256 := "c26174a134a86fa58e304e8890a01ca8f940222ae7827125db9333431be75260"
  revokedSerial := "A001"

theorem agrees_iff_once : Agrees agentX509 (agentCa agentKeyHash) agentKeyHash "Agent CRL"
      ⟨armoured emptyCrlLines, emptyCrl, 1, ∅⟩ [(generatedCrl, callTime)] ↔
    Agreeable agentX509 (agentCa agentKeyHash) [generatedCrl] := by
  have hload : loadCa agentX509 (agentCa agentKeyHash) "agent-ca.key" = .ok () := by
    decide +kernel
  have hca : checkAgentCa agentX509 (agentCa agentKeyHash) (seconds 1795132800) =
      .ok agentKeyHash := by
    decide +kernel
  have hfirst : loadCrl agentX509 (armoured emptyCrlLines) (agentCa agentKeyHash) agentKeyHash
      "Agent CRL" (seconds 1795132800) true =
        .ok ⟨armoured emptyCrlLines, emptyCrl, 1, ∅⟩ := by
    decide +kernel
  have hgenerated : generateChain agentX509 (agentCa agentKeyHash) "agent-ca.key"
      (armoured emptyCrlLines) [("a001", callTime)] = .ok [generatedCrl] := by
    decide +kernel
  exact agrees_iff lawful_agentX509 hload hca hfirst (by decide +kernel) (by decide +kernel)
    hgenerated (by decide +kernel)

/-- Where the CA has another identifier, the list that is generated is refused. -/
theorem not_agrees_named :
    loadCa agentX509 (agentCa [1, 2, 3, 4]) "agent-ca.key" = .ok () ∧
    checkAgentCa agentX509 (agentCa [1, 2, 3, 4]) (seconds 1795132800) = .ok [1, 2, 3, 4] ∧
    loadCrl agentX509 (armoured namedCrlLines) (agentCa [1, 2, 3, 4]) [1, 2, 3, 4]
      "Agent CRL" (seconds 1795132800) true = .ok ⟨armoured namedCrlLines, namedCrl, 1, ∅⟩ ∧
    generateChain agentX509 (agentCa [1, 2, 3, 4]) "agent-ca.key" (armoured namedCrlLines)
      [("a001", callTime)] = .ok [generatedCrl] ∧
    ¬Agrees agentX509 (agentCa [1, 2, 3, 4]) [1, 2, 3, 4] "Agent CRL"
      ⟨armoured namedCrlLines, namedCrl, 1, ∅⟩ [(generatedCrl, callTime)] := by
  refine ⟨by decide +kernel, by decide +kernel, by decide +kernel, by decide +kernel, ?_⟩
  rintro ⟨loaded, hload, -⟩
  have hrefused : loadCrl agentX509 generatedCrl.pem (agentCa [1, 2, 3, 4]) [1, 2, 3, 4]
      "Agent CRL" callTime true =
        .error "Agent CRL authority key identifier does not match the Agent CA" := by
    decide +kernel
  rw [hload true] at hrefused
  cases hrefused

end VpsGuardian.TrustMaterial
