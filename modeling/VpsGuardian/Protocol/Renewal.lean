import VpsGuardian.Controller.Representation

/-!
An Agent and the Controller renewing a certificate over a connection that loses
answers (`identity.go`, `main.go`).

The Controller retires the caller's identity before it answers. The Agent
installs the new one when it has the answer, and until then goes on with the old
one. The two agree for as long as no answer to a committed renewal is lost.
-/

namespace VpsGuardian.Protocol.Renewal

open Lib Controller

/-- What the Agent has installed: its signing key, and a certificate with the
fingerprint it computes from it. -/
structure Credentials where
  signingKey : String
  certificateFingerprint : String
  certificateSerial : String
  normalized : normalizeCertificateFingerprint certificateFingerprint =
    some certificateFingerprint

/-- The body of a request, and what is drawn for its headers. -/
structure Envelope where
  timestamp : String
  nonce : String
  body : String

/-- `signHeartbeat`, over the connection that presents the installed certificate. -/
def signHeartbeat (settings : Settings) (sign : String → String → String) (agentID : String)
    (credentials : Credentials) (envelope : Envelope) : AgentRequest where
  gatewayCertificate :=
    some (credentials.certificateFingerprint, credentials.certificateSerial)
  fingerprintHeader := credentials.certificateFingerprint
  timestamp := envelope.timestamp
  nonce := envelope.nonce
  signature := sign credentials.signingKey
    (buildAgentSigningMessage settings agentID envelope.timestamp envelope.nonce envelope.body)
  body := envelope.body

/-- `buildRenewalRequest`: the request, and the key pair it proves possession of. -/
structure RenewalRequest where
  payload : AgentRenewRequest
  signingKey : String

inductive Sent
  | heartbeat
  | renewal (request : RenewalRequest)

/-- A request the Controller has served and the answer on its way back. -/
structure Exchange where
  sent : Sent
  answer : Except HTTPException Reply

/-- The identity a renewal was answered with. -/
def Exchange.committed : Exchange → Option AgentIdentity
  | ⟨.renewal _, .ok (.identity identity)⟩ => some identity
  | _ => none

structure System where
  db : Db
  installed : Credentials
  /-- The identity version of the latest accepted heartbeat. -/
  identityVersion : Option Nat
  inFlight : Option Exchange

/-- The rest of `RenewCertificate` once the answer is there: the credentials to activate. -/
def renewCertificate (request : RenewalRequest) (answer : Except HTTPException Reply) :
    Option Credentials :=
  match answer with
  | .ok (.identity identity) =>
      if identity.generation ≠ request.payload.expectedVersion + 1 then none
      else if h : normalizeCertificateFingerprint identity.certificateFingerprint =
          some identity.certificateFingerprint then
        some ⟨request.signingKey, identity.certificateFingerprint,
          identity.certificateSerial.getD "", h⟩
      else none
  | _ => none

/-- The Agent takes an answer; `activates` says whether it could switch its files. -/
def System.receive (s : System) (exchange : Exchange) (activates : Bool) : System :=
  let s := { s with inFlight := none }
  match exchange.sent, exchange.answer with
  | .heartbeat, .ok (.heartbeat true _ version) => { s with identityVersion := some version }
  | .renewal request, answer =>
      match renewCertificate request answer with
      | some credentials => if activates then { s with installed := credentials } else s
      | none => s
  | _, _ => s

inductive Event
  | heartbeat (elapsed : Nat) (envelope : Envelope)
  | renew (elapsed : Nat) (envelope : Envelope) (request : RenewalRequest)
  | deliver (activates : Bool)
  | lose

section Step

variable (settings : Settings) (sign : String → String → String) (agentID : String)

/-- The Controller serves a request. -/
def System.exchange (s : System) (sent : Sent) (input : Input) : System :=
  let (answer, db) := serve settings s.db input
  { s with db := db, inFlight := some ⟨sent, answer⟩ }

/-- The Agent sends one request at a time, and renews with the version it was
told by its latest accepted heartbeat. -/
def step (s : System) : Event → System
  | .heartbeat elapsed envelope =>
      if s.inFlight.isSome then s
      else s.exchange settings .heartbeat ⟨elapsed, .agentHeartbeat agentID
        (signHeartbeat settings sign agentID s.installed envelope)⟩
  | .renew elapsed envelope request =>
      if s.inFlight.isSome ∨ s.identityVersion ≠ some request.payload.expectedVersion then s
      else s.exchange settings (.renewal request) ⟨elapsed, .renewAgentCertificate agentID
        request.payload (signHeartbeat settings sign agentID s.installed envelope)⟩
  | .deliver activates =>
      match s.inFlight with
      | some exchange => s.receive exchange activates
      | none => s
  | .lose => { s with inFlight := none }

end Step

/-- Whether an event lets the Agent install the identity of an answer under way:
it arrives with a certificate's fingerprint, and the files can be switched. -/
def Event.installs (event : Event) (identity : AgentIdentity) : Bool :=
  match event with
  | .lose => false
  | .deliver activates => activates &&
      normalizeCertificateFingerprint identity.certificateFingerprint ==
        some identity.certificateFingerprint
  | .heartbeat _ _ | .renew _ _ _ => true

/-- The answer to a committed renewal is neither lost nor left unused. -/
def RenewalsInstalled (s : System) (event : Event) : Prop :=
  ∀ identity ∈ s.inFlight.bind Exchange.committed, event.installs identity = true

instance (s : System) (event : Event) : Decidable (RenewalsInstalled s event) :=
  inferInstanceAs (Decidable (∀ identity ∈ s.inFlight.bind Exchange.committed, _))

/-- The Agent has an active identity with the certificate. -/
def HasActive (db : Db) (agentID fingerprint : String) : Prop :=
  ∃ record ∈ db.records, record.id = agentID ∧ ∃ identity ∈ record.identities,
    identity.state = .active ∧ identity.certificateFingerprint = fingerprint

instance (db : Db) (agentID fingerprint : String) : Decidable (HasActive db agentID fingerprint) :=
  inferInstanceAs (Decidable (∃ record ∈ db.records, _))

/-! ### What the Controller refuses a renewal for -/

theorem lockActiveAgent_error {db : Db} {agentID : String} {e : HTTPException}
    (h : lockActiveAgent db agentID = .error e) : e.statusCode = 404 := by
  unfold lockActiveAgent at h
  rcases orRaise_bind_eq_error.mp h with ⟨-, rfl⟩ | ⟨record, -, h⟩
  · rfl
  · rcases raiseIf_bind_eq_error.mp h with ⟨-, rfl⟩ | ⟨-, h⟩
    · rfl
    · cases h

theorem clientCertificate_error {settings : Settings} {request : AgentRequest} {e : HTTPException}
    (h : clientCertificate settings request = .error e) : e.statusCode = 401 := by
  unfold clientCertificate at h
  split at h
  · rcases orRaise_bind_eq_error.mp h with ⟨-, rfl⟩ | ⟨certificate, -, h⟩
    · rfl
    · cases h
  · rcases orRaise_bind_eq_error.mp h with ⟨-, rfl⟩ | ⟨fingerprint, -, h⟩
    · rfl
    · cases h

theorem verifyAgentRequest_error {settings : Settings} {db : Db} {record : AgentRecord}
    {request : AgentRequest} {e : HTTPException}
    (h : verifyAgentRequest settings db record request = .error e) :
    e ≠ onlyTheActiveIdentityCanRenew := by
  unfold verifyAgentRequest at h
  rcases bind_eq_error.mp h with h | ⟨⟨fingerprint, certificateSerial⟩, -, h⟩
  · rintro rfl
    exact absurd (clientCertificate_error h) (by decide)
  · simp only [raiseIf_bind_eq_error, orRaise_bind_eq_error] at h
    obtain ⟨-, rfl⟩ | ⟨-, ⟨-, rfl⟩ | ⟨identity, -, ⟨-, rfl⟩ | ⟨signedAt, -, ⟨-, rfl⟩ |
      ⟨-, ⟨-, rfl⟩ | ⟨-, ⟨-, rfl⟩ | ⟨-, h⟩⟩⟩⟩⟩⟩ := h
    iterate 6 decide
    cases h

/-- The refusal in question is of a request authenticated under an identity that
is not active. -/
theorem renewAgentCertificate_refused {settings : Settings} {db : Db} {agentID : String}
    {payload : AgentRenewRequest} {request : AgentRequest}
    (h : renewAgentCertificate settings db agentID payload request =
      .error onlyTheActiveIdentityCanRenew) :
    ∃ record identity db', lockActiveAgent db agentID = .ok record ∧
      verifyAgentRequest settings db record request = .ok (identity, db') ∧
      identity.state ≠ .active := by
  unfold renewAgentCertificate at h
  rcases bind_eq_error.mp h with h | ⟨record, hlock, h⟩
  · exact absurd (lockActiveAgent_error h) (by decide)
  · rcases bind_eq_error.mp h with h | ⟨⟨identity, db'⟩, hverify, h⟩
    · exact absurd rfl (verifyAgentRequest_error h)
    · rcases raiseIf_bind_eq_error.mp h with ⟨hinactive, -⟩ | ⟨-, h⟩
      · exact ⟨record, identity, db', hlock, hverify, hinactive⟩
      · -- Every later refusal has another text.
        exfalso
        split at h
        · have hcode := congrArg HTTPException.statusCode (Except.error.inj h)
          exact absurd hcode (by simp [onlyTheActiveIdentityCanRenew])
        · simp only [raiseIf_bind_eq_error, orRaise_bind_eq_error] at h
          obtain ⟨-, he⟩ | ⟨-, ⟨-, he⟩ | ⟨issued, -, ⟨-, he⟩ | ⟨-, h⟩⟩⟩ := h
          iterate 3 exact absurd he (by decide)
          rcases bind_eq_error.mp h with h | ⟨claimed, -, h⟩
          · rcases raiseIf_bind_eq_error.mp h with ⟨-, he⟩ | ⟨-, h⟩
            · exact absurd he (by decide)
            · cases h
          · unfold commit at h
            split at h
            · cases h
            · exact absurd (Except.error.inj h) (by decide)

/-! ### What the two know of each other -/

/-- The certificate the Agent has installed, or will have once it takes the
answer to a committed renewal. -/
def System.nextFingerprint (s : System) : String :=
  match s.inFlight.bind Exchange.committed with
  | some identity => identity.certificateFingerprint
  | none => s.installed.certificateFingerprint

/-- An answer with an identity is of the generation the Agent expects. -/
def Exchange.Expected (exchange : Exchange) : Prop :=
  ∀ request identity, exchange.sent = .renewal request →
    exchange.answer = .ok (.identity identity) →
    identity.generation = request.payload.expectedVersion + 1

/-- The certificate the Agent has, or is about to have, is the active one. -/
structure InStep (agentID : String) (s : System) : Prop where
  sound : Sound s.db
  active : HasActive s.db agentID s.nextFingerprint
  expected : ∀ exchange ∈ s.inFlight, exchange.Expected

section Serve

variable {settings : Settings} {db : Db} {agentID fingerprint : String} {elapsed : Nat}
  {request : AgentRequest}

/-- Once a record is replaced, its Agent has the active identities of the new one. -/
theorem hasActive_of_put {db' : Db} {record record' : AgentRecord} {identity : AgentIdentity}
    (hrecord : db.record? agentID = some record)
    (hrecords : db'.records = Table.put AgentRecord.id record' db.records)
    (hid : record'.id = record.id) (hidentity : identity ∈ record'.identities)
    (hactive : identity.state = .active) :
    HasActive db' agentID identity.certificateFingerprint := by
  have hagent := Table.key_of_lookup hrecord
  have hmem : record' ∈ db'.records := by
    rw [hrecords]
    exact Table.mem_put_self
      (List.mem_map.mpr ⟨record, Table.mem_of_lookup hrecord, hid.symm⟩)
  exact ⟨record', hmem, hid.trans hagent, identity, hidentity, hactive, rfl⟩

/-- A heartbeat leaves the active identity active. -/
theorem hasActive_heartbeat (hdb : Sound db) (h : HasActive db agentID fingerprint) :
    HasActive (serve settings db ⟨elapsed, .agentHeartbeat agentID request⟩).2 agentID
      fingerprint := by
  have hsound := hdb.arrive ⟨elapsed, .agentHeartbeat agentID request⟩
  unfold serve
  split
  · rename_i reply db' hserved
    obtain ⟨record, record', nonces, hrecord, hrevoked, hconstraints, rfl, hwritten⟩ :=
      agentHeartbeat_ok hserved
    obtain ⟨owner, howner, hid, identity, hidentity, hactive, rfl⟩ := h
    obtain rfl : owner = record := Table.eq_of_mem hsound.constraints.agentIDs howner
      (Table.mem_of_lookup hrecord) (hid.trans (Table.key_of_lookup hrecord).symm)
    rcases hwritten with rfl | ⟨pending, hpending, hstate, verifiedAt, beats, rfl⟩
    · exact hasActive_of_put hrecord rfl rfl hidentity hactive
    · refine hasActive_of_put hrecord rfl rfl ?_ hactive
      exact active_put (hsound.constraints.identityIDs_nodup howner) hidentity hactive hpending
        (by simp [hstate]) rfl
  · exact h

variable (settings db agentID elapsed request) in
/-- A renewal either is answered with the identity that is active from then on,
of the generation after the expected one, or changes nothing. -/
theorem hasActive_renewal (payload : AgentRenewRequest) :
    let served := serve settings db ⟨elapsed, .renewAgentCertificate agentID payload request⟩
    (∃ identity, served.1 = .ok (.identity identity) ∧
      identity.generation = payload.expectedVersion + 1 ∧
      HasActive served.2 agentID identity.certificateFingerprint) ∨
    (∃ e, served.1 = .error e) ∧ served.2.records = db.records := by
  unfold serve
  split
  · rename_i reply db' hserved
    obtain ⟨record, authenticated, issued, nonces, hrecord, hrevoked, hmem, hactive, hversion,
      hconstraints, rfl, rfl⟩ := renewAgentCertificate_ok hserved
    refine .inl ⟨_, rfl, congrArg (· + 1) hversion, ?_⟩
    exact hasActive_of_put hrecord rfl rfl
      (List.mem_append_right _ (List.mem_singleton_self _)) rfl
  · rename_i e _
    exact .inr ⟨⟨e, rfl⟩, rfl⟩

end Serve

/-! ### Taking an answer -/

theorem receive_db (s : System) (exchange : Exchange) (activates : Bool) :
    (s.receive exchange activates).db = s.db ∧ (s.receive exchange activates).inFlight = none := by
  obtain ⟨sent, answer⟩ := exchange
  unfold System.receive
  constructor <;> split <;> first | rfl | (split <;> first | rfl | (split <;> rfl))

/-- An answer that is no committed renewal leaves the installed credentials alone. -/
theorem receive_installed (s : System) {exchange : Exchange} (activates : Bool)
    (h : exchange.committed = none) : (s.receive exchange activates).installed = s.installed := by
  obtain ⟨sent, answer⟩ := exchange
  cases sent with
  | heartbeat =>
      unfold System.receive
      split
      · rfl
      · rename_i hsent
        cases hsent
      · rfl
  | renewal request =>
      have hnone : renewCertificate request answer = none := by
        unfold renewCertificate
        split
        · cases h
        · rfl
      simp [System.receive, hnone]

/-- The certificate of a committed renewal is installed, if it can be activated. -/
theorem receive_committed (s : System) {exchange : Exchange} {identity : AgentIdentity}
    (h : exchange.committed = some identity) (hexpected : exchange.Expected)
    (hnormalized : normalizeCertificateFingerprint identity.certificateFingerprint =
      some identity.certificateFingerprint) :
    (s.receive exchange true).installed.certificateFingerprint =
      identity.certificateFingerprint := by
  obtain ⟨sent, answer⟩ := exchange
  unfold Exchange.committed at h
  split at h
  · rename_i request found hexchange
    cases hexchange
    obtain rfl : found = identity := Option.some.inj h
    have hgeneration := hexpected request found rfl rfl
    have hrenewed : renewCertificate request (.ok (.identity found)) =
        some ⟨request.signingKey, found.certificateFingerprint,
          found.certificateSerial.getD "", hnormalized⟩ := by
      simp [renewCertificate, hgeneration, hnormalized]
    simp [System.receive, hrenewed]
  · cases h

/-! ### Runs -/

section Runs

variable {settings : Settings} {sign : String → String → String} {agentID : String}

theorem inStep_exchange {s : System} (h : InStep agentID s)
    {sent : Sent} {input : Input}
    (hactive : HasActive (serve settings s.db input).2 agentID
      (match Exchange.committed ⟨sent, (serve settings s.db input).1⟩ with
        | some identity => identity.certificateFingerprint
        | none => s.installed.certificateFingerprint))
    (hexpected : Exchange.Expected ⟨sent, (serve settings s.db input).1⟩) :
    InStep agentID (s.exchange settings sent input) where
  sound := sound_step h.sound
  active := hactive
  expected := by
    intro exchange hexchange
    obtain rfl := Option.some.inj hexchange
    exact hexpected

theorem nextFingerprint_idle {s : System} (hidle : s.inFlight = none) :
    s.nextFingerprint = s.installed.certificateFingerprint := by
  rw [System.nextFingerprint, hidle]
  rfl

theorem inStep_step {s : System} {event : Event} (h : InStep agentID s)
    (hinstalled : RenewalsInstalled s event) :
    InStep agentID (step settings sign agentID s event) := by
  cases event with
  | heartbeat elapsed envelope =>
      unfold step
      dsimp only
      split
      · exact h
      · rename_i hbusy
        have hidle : s.inFlight = none := by simpa using hbusy
        have hactive := h.active
        rw [nextFingerprint_idle hidle] at hactive
        refine inStep_exchange h (hasActive_heartbeat h.sound hactive) ?_
        intro request identity hsent
        cases hsent
  | renew elapsed envelope request =>
      unfold step
      dsimp only
      split
      · exact h
      · rename_i hbusy
        have hidle : s.inFlight = none := by simpa using (not_or.mp hbusy).1
        have hactive := h.active
        rw [nextFingerprint_idle hidle] at hactive
        rcases hasActive_renewal settings s.db agentID elapsed
          (signHeartbeat settings sign agentID s.installed envelope) request.payload with
          ⟨identity, hanswer, hgeneration, hnext⟩ | ⟨⟨e, hanswer⟩, hrecords⟩
        · refine inStep_exchange h ?_ ?_
          · rw [hanswer]
            exact hnext
          · intro request' identity' hsent hanswer'
            cases hsent
            cases hanswer.symm.trans hanswer'
            exact hgeneration
        · refine inStep_exchange h ?_ ?_
          · rw [hanswer]
            obtain ⟨record, hrecord, hrest⟩ := hactive
            exact ⟨record, hrecords ▸ hrecord, hrest⟩
          · intro request' identity' hsent hanswer'
            cases hanswer.symm.trans hanswer'
  | deliver activates =>
      unfold step
      dsimp only
      cases hflight : s.inFlight with
      | none => exact h
      | some exchange =>
          obtain ⟨hdb, hidle⟩ := receive_db s exchange activates
          have hactive := h.active
          rw [System.nextFingerprint, hflight] at hactive
          refine ⟨hdb ▸ h.sound, ?_, by simp [hidle]⟩
          rw [nextFingerprint_idle hidle, hdb]
          cases hcommitted : exchange.committed with
          | none =>
              rw [receive_installed s activates hcommitted]
              simpa [hcommitted] using hactive
          | some identity =>
              have hinstalls := hinstalled identity (by simp [hflight, hcommitted])
              obtain ⟨rfl, hnormalized⟩ := by simpa [Event.installs] using hinstalls
              rw [receive_committed s hcommitted (h.expected exchange hflight) hnormalized]
              simpa [hcommitted] using hactive
  | lose =>
      have hactive := h.active
      cases hcommitted : s.inFlight.bind Exchange.committed with
      | none =>
          rw [System.nextFingerprint, hcommitted] at hactive
          exact ⟨h.sound, hactive, by simp [step]⟩
      | some identity => exact absurd (hinstalled identity hcommitted) (by simp [Event.installs])

/-- A request under the installed certificate is not refused as not active. -/
theorem InStep.renewal_not_refused {s : System} (h : InStep agentID s) (hidle : s.inFlight = none)
    (elapsed : Nat) (envelope : Envelope) (payload : AgentRenewRequest) :
    (serve settings s.db ⟨elapsed, .renewAgentCertificate agentID payload
      (signHeartbeat settings sign agentID s.installed envelope)⟩).1 ≠
      .error onlyTheActiveIdentityCanRenew := by
  intro hrefused
  obtain ⟨owner, howner, hid, active, hactive, hstate, hfingerprint⟩ := h.active
  rw [nextFingerprint_idle hidle] at hfingerprint
  have hconstraints := h.sound.constraints
  unfold serve at hrefused
  split at hrefused
  · rename_i reply db' hserved
    obtain ⟨record, authenticated, issued, nonces, -, -, -, -, -, -, rfl, -⟩ :=
      renewAgentCertificate_ok hserved
    cases hrefused
  · rename_i e hserved
    cases hrefused
    obtain ⟨record, identity, db', hlock, hverify, hinactive⟩ :=
      renewAgentCertificate_refused hserved
    obtain ⟨hlookup, -⟩ := lockActiveAgent_eq_ok.mp hlock
    obtain ⟨hidentity, -, -⟩ := verifyAgentRequest_ok hverify
    obtain ⟨certificateSerial, hcertificate⟩ := verifyAgentRequest_certificate hverify
    -- The identity found is the one with the installed fingerprint, and there is one such row.
    have hsame : identity.certificateFingerprint = s.installed.certificateFingerprint := by
      unfold clientCertificate at hcertificate
      split at hcertificate
      · have hpresented : (.ok (s.installed.certificateFingerprint,
            some s.installed.certificateSerial) : Except HTTPException _) =
            .ok (identity.certificateFingerprint, certificateSerial) := hcertificate
        exact (Prod.mk.inj (Except.ok.inj hpresented)).1.symm
      · obtain ⟨fingerprint, hnormal, heq⟩ := orRaise_bind_eq_ok.mp hcertificate
        cases heq
        exact Option.some.inj (hnormal.symm.trans s.installed.normalized)
    have hmem : identity ∈ s.db.identities :=
      List.mem_flatMap.mpr ⟨record, Table.mem_of_lookup hlookup, hidentity⟩
    have hmem' : active ∈ s.db.identities := List.mem_flatMap.mpr ⟨owner, howner, hactive⟩
    obtain rfl : identity = active := Table.eq_of_mem hconstraints.identityFingerprints hmem hmem'
      (hsame.trans hfingerprint.symm)
    exact hinactive hstate

/-- From a state in which the Agent's certificate is the active one: in every run
in which no answer to a committed renewal is lost or left unused, whenever the
Agent waits for no answer, a renewal it sends under its installed certificate is
not refused for not being the active identity's. -/
theorem renewal_never_locked_out (settings : Settings) (sign : String → String → String)
    (agentID : String) (history : List Input) (credentials : Credentials)
    (henrolled : HasActive (run (Controller.step settings) Db.empty history) agentID
      credentials.certificateFingerprint) (events : List Event)
    (hinstalled : Meets (step settings sign agentID) RenewalsInstalled
      ⟨run (Controller.step settings) Db.empty history, credentials, none, none⟩ events)
    (hidle : (run (step settings sign agentID)
      ⟨run (Controller.step settings) Db.empty history, credentials, none, none⟩ events).inFlight =
        none)
    (elapsed : Nat) (envelope : Envelope) (payload : AgentRenewRequest) :
    let s := run (step settings sign agentID)
      ⟨run (Controller.step settings) Db.empty history, credentials, none, none⟩ events
    (serve settings s.db ⟨elapsed, .renewAgentCertificate agentID payload
      (signHeartbeat settings sign agentID s.installed envelope)⟩).1 ≠
      .error onlyTheActiveIdentityCanRenew := by
  have hstart : InStep agentID
      ⟨run (Controller.step settings) Db.empty history, credentials, none, none⟩ :=
    ⟨sound_run settings history, henrolled, by simp⟩
  have hinvariant := run_invariant (I := InStep agentID)
    (fun _ _ hinstalled h => inStep_step h hinstalled) hstart hinstalled
  exact hinvariant.renewal_not_refused hidle elapsed envelope payload

end Runs

/-! ### A renewal whose answer arrives, and one whose answer is lost -/

/-- The credentials of the enrolled Agent. -/
def firstCredentials : Credentials :=
  ⟨"key-1", fingerprintOf '1', "A1", by decide +kernel⟩

/-- In the ideal scheme a key signs by itself. -/
def idealSign (signingKey message : String) : String := signingKey ++ ":" ++ message

def heartbeatOf (nonce : String) : Event := .heartbeat 0 ⟨"0", nonce, "heartbeat"⟩

/-- A heartbeat that is answered, and a renewal. -/
def attemptedRenewal : List Event :=
  [heartbeatOf "nonce-0000000001", .deliver true,
    .renew 0 ⟨"0", "nonce-0000000002", "renewal"⟩
      ⟨⟨"rotation-1", 1, "csr", "key-2", "proof", some ⟨fingerprintOf '2', "A2", seconds 86400⟩,
        "identity-2"⟩, "key-2"⟩]

/-- The next renewal, with the version a heartbeat after the first renewal is answered with. -/
def nextRenewal : AgentRenewRequest :=
  ⟨"rotation-2", 2, "csr", "key-3", "proof", some ⟨fingerprintOf '3', "A3", seconds 86400⟩,
    "identity-3"⟩

theorem renewal_never_locked_out_installed :
    let s := run (step idealSettings idealSign "agent-1")
      ⟨run (Controller.step idealSettings) Db.empty enrolledAgent, firstCredentials, none, none⟩
      (attemptedRenewal ++ [.deliver true])
    (serve idealSettings s.db ⟨0, .renewAgentCertificate "agent-1" nextRenewal
      (signHeartbeat idealSettings idealSign "agent-1" s.installed
        ⟨"0", "nonce-0000000003", "renewal"⟩)⟩).1 ≠ .error onlyTheActiveIdentityCanRenew :=
  renewal_never_locked_out idealSettings idealSign "agent-1" enrolledAgent firstCredentials
    (by decide +kernel) (attemptedRenewal ++ [.deliver true]) (by decide +kernel)
    (by decide +kernel) 0 ⟨"0", "nonce-0000000003", "renewal"⟩ nextRenewal

/-- Once the answer to a renewal is lost, the Agent's heartbeats are accepted and
its renewals are not. -/
theorem lost_answer_locks_out :
    ¬ ∀ (events : List Event) (elapsed : Nat) (envelope : Envelope) (payload : AgentRenewRequest),
      let s := run (step idealSettings idealSign "agent-1")
        ⟨run (Controller.step idealSettings) Db.empty enrolledAgent, firstCredentials, none, none⟩
        events
      s.inFlight = none → s.identityVersion = some payload.expectedVersion →
      (serve idealSettings s.db ⟨elapsed, .renewAgentCertificate "agent-1" payload
        (signHeartbeat idealSettings idealSign "agent-1" s.installed envelope)⟩).1 ≠
        .error onlyTheActiveIdentityCanRenew := by
  intro h
  refine h (attemptedRenewal ++ [.lose, heartbeatOf "nonce-0000000003", .deliver true]) 0
    ⟨"0", "nonce-0000000004", "renewal"⟩ nextRenewal ?_ ?_ ?_
  · decide +kernel
  · decide +kernel
  · decide +kernel

end VpsGuardian.Protocol.Renewal
