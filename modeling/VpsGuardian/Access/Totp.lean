import VpsGuardian.Controller.Records
import VpsGuardian.Lib.Trace

/-!
Second factors by time (`security.py`, `_authenticate_login` and `create_step_up_window`).

A code is looked up twice, first to verify it and then to store its counter, each
time around the step the clock is in. When the clock has moved on in between, the
second search can come out empty and clear `last_totp_counter`. No code is
accepted twice even then: a search that no longer finds a counter comes too late
for it, and so do all later ones.
-/

namespace VpsGuardian.Access.Totp

open Lib
open Controller (Time HTTPException)

structure User where
  isActive : Bool
  totpEnabled : Bool
  /-- `totp_secret_encrypted` as `decrypt_sensitive` reads it. -/
  totpSecret : Option String
  lastTotpCounter : Option Int
  deriving DecidableEq, Repr

/-- `int(checked_at.timestamp()) // totp.interval` -/
def currentCounter (now : Time) : Int := now.tdiv 1000000 / 30

/-- `range(current_counter - 1, current_counter + 2)` -/
def window (now : Time) : List Int :=
  [currentCounter now - 1, currentCounter now, currentCounter now + 1]

/-- Whether an optional text is given and not empty. -/
def given (text : Option String) : Bool := text.any (· ≠ "")

section Codes

-- `pyotp.TOTP(secret).generate_otp`
variable (generateOtp : String → Int → String)

def totpCounterForCode (secret : String) (code : Option String) (now : Time) : Option Int :=
  if given code then (window now).find? fun counter => code = some (generateOtp secret counter)
  else none

/-- The counter a code is accepted for. -/
def acceptedCounter (user : User) (code : Option String) (now : Time) : Option Int :=
  user.totpSecret.bind fun secret =>
    (totpCounterForCode generateOtp secret code now).filter fun counter =>
      user.lastTotpCounter.all (· < counter)

def verifyTotp (user : User) (code : Option String) (now : Time) : Bool :=
  !user.totpEnabled || (acceptedCounter generateOtp user code now).isSome

/-- What a login presents. Whether the limiter lets it through, its password is the user's
and its recovery code is a valid one are taken from their checks. -/
structure Login where
  limited : Bool
  passwordValid : Bool
  totpCode : Option String
  recoveryCode : Option String
  recovered : Bool
  deriving DecidableEq, Repr

structure StepUp where
  browser : Bool
  passwordValid : Bool
  totpCode : Option String
  deriving DecidableEq, Repr

/-- The user after the counter of an accepted code is stored. -/
def User.storeCounter (user : User) (code : Option String) (now : Time) : User :=
  { user with lastTotpCounter := user.totpSecret.bind fun secret =>
      totpCounterForCode generateOtp secret code now }

/-- The user after a login that succeeds; the clock reads `verified` when the code is verified,
and `stored` when its counter is. -/
def authenticateLogin (user : User) (payload : Login) (verified stored : Time) :
    Except HTTPException User :=
  if payload.limited then .error ⟨429, "login rate limit exceeded"⟩
  else if !user.isActive ∨ !payload.passwordValid then .error ⟨401, "AUTH_INVALID_CREDENTIALS"⟩
  else if given payload.totpCode ∧ given payload.recoveryCode then
    .error ⟨401, "AUTH_INVALID_CREDENTIALS"⟩
  else if given payload.recoveryCode then
    if payload.recovered then .ok user else .error ⟨401, "AUTH_INVALID_CREDENTIALS"⟩
  else if user.totpEnabled then
    if verifyTotp generateOtp user payload.totpCode verified then
      .ok (user.storeCounter generateOtp payload.totpCode stored)
    else .error ⟨401, "AUTH_INVALID_CREDENTIALS"⟩
  else if given payload.totpCode then .error ⟨401, "AUTH_INVALID_CREDENTIALS"⟩
  else .ok user

def createStepUpWindow (user : User) (payload : StepUp) (verified stored : Time) :
    Except HTTPException User :=
  if !payload.browser then .error ⟨403, "STEP_UP_REQUIRED"⟩
  else if !payload.passwordValid then .error ⟨401, "PASSWORD_INVALID"⟩
  else if user.totpEnabled then
    if verifyTotp generateOtp user payload.totpCode verified then
      .ok (user.storeCounter generateOtp payload.totpCode stored)
    else .error ⟨401, "TOTP_INVALID"⟩
  else .ok user

/-! ### Attempts one after another -/

inductive Request
  | login (payload : Login)
  | stepUp (payload : StepUp)
  deriving DecidableEq, Repr

/-- A request, the time since the clock was last read, and the time between its two reads. -/
structure Attempt where
  elapsed : Nat
  pause : Nat
  request : Request
  deriving DecidableEq, Repr

/-- A user and the time the clock was last read. -/
structure Account where
  user : User
  clock : Time
  deriving DecidableEq, Repr

/-- The code a request presents to `verify_totp`. -/
def Request.totpCode : Request → Option String
  | .login payload => if given payload.recoveryCode then none else payload.totpCode
  | .stepUp payload => payload.totpCode

def Account.serve (account : Account) (attempt : Attempt) : Except HTTPException User :=
  let verified := account.clock + attempt.elapsed
  let stored := verified + attempt.pause
  match attempt.request with
  | .login payload => authenticateLogin generateOtp account.user payload verified stored
  | .stepUp payload => createStepUpWindow generateOtp account.user payload verified stored

/-- The account after an attempt, and the counter that is accepted if it succeeds. -/
def Account.step (account : Account) (attempt : Attempt) : Account × List Int :=
  let verified := account.clock + attempt.elapsed
  let stored := verified + attempt.pause
  match account.serve generateOtp attempt with
  | .error _ => (⟨account.user, stored⟩, [])
  | .ok user =>
      (⟨user, stored⟩,
        if account.user.totpEnabled then
          (acceptedCounter generateOtp account.user attempt.request.totpCode verified).toList
        else [])

/-! ### No counter twice -/

theorem currentCounter_mono {now later : Time} (h : now ≤ later) :
    currentCounter now ≤ currentCounter later := by
  have hseconds : now.tdiv 1000000 ≤ later.tdiv 1000000 := Int.tdiv_le_tdiv (by decide) h
  unfold currentCounter
  omega

/-- A counter no later attempt is accepted for: it is not above the stored one, or the clock
has left it behind. -/
def Spent (counter : Int) (account : Account) : Prop :=
  (∃ last ∈ account.user.lastTotpCounter, counter ≤ last) ∨
    counter < currentCounter account.clock - 1

/-- The counters of the window of the second search have distinct codes. -/
def Distinct (account : Account) (attempt : Attempt) : Prop :=
  ∀ secret ∈ account.user.totpSecret,
    ((window (account.clock + attempt.elapsed + attempt.pause)).map (generateOtp secret)).Nodup

instance (account : Account) (attempt : Attempt) :
    Decidable (Distinct generateOtp account attempt) :=
  inferInstanceAs (Decidable (∀ secret ∈ account.user.totpSecret, _))

variable {generateOtp} {account : Account} {attempt : Attempt}

theorem mem_window {counter : Int} {now : Time} :
    counter ∈ window now ↔ currentCounter now - 1 ≤ counter ∧ counter ≤ currentCounter now + 1 := by
  simp only [window, List.mem_cons, List.not_mem_nil, or_false]
  omega

theorem totpCounterForCode_eq_some {secret : String} {code : Option String} {now : Time}
    {counter : Int} (h : totpCounterForCode generateOtp secret code now = some counter) :
    given code = true ∧ code = some (generateOtp secret counter) ∧ counter ∈ window now := by
  unfold totpCounterForCode at h
  split at h
  · exact ⟨‹_›, by simpa using List.find?_some h, List.mem_of_find?_eq_some h⟩
  · cases h

/-- A search for the code of a counter of the window finds that counter. -/
theorem totpCounterForCode_of_mem {secret : String} {code : Option String} {now : Time}
    {counter : Int} (hgiven : given code = true) (hcode : code = some (generateOtp secret counter))
    (hmem : counter ∈ window now)
    (hdistinct : ((window now).map (generateOtp secret)).Nodup) :
    totpCounterForCode generateOtp secret code now = some counter := by
  unfold totpCounterForCode
  rw [if_pos hgiven]
  cases hfind : (window now).find? fun counter => code = some (generateOtp secret counter) with
  | none =>
    rw [List.find?_eq_none] at hfind
    exact absurd hcode (by simpa using hfind counter hmem)
  | some found =>
    have hfound : code = some (generateOtp secret found) := by simpa using List.find?_some hfind
    rw [hcode, Option.some_inj] at hfound
    rw [List.inj_on_of_nodup_map hdistinct hmem (List.mem_of_find?_eq_some hfind) hfound]

theorem serve_ok {user : User} (h : account.serve generateOtp attempt = .ok user) :
    (user = account.user ∧
        (account.user.totpEnabled = true → given attempt.request.totpCode = false)) ∨
      (account.user.totpEnabled = true ∧
        verifyTotp generateOtp account.user attempt.request.totpCode
          (account.clock + attempt.elapsed) = true ∧
        user = account.user.storeCounter generateOtp attempt.request.totpCode
          (account.clock + attempt.elapsed + attempt.pause)) := by
  unfold Account.serve at h
  cases hrequest : attempt.request with
  | login payload =>
    simp only [hrequest, authenticateLogin] at h
    split at h
    · cases h
    split at h
    · cases h
    split at h
    · cases h
    by_cases hrecovery : given payload.recoveryCode = true
    · rw [if_pos hrecovery] at h
      split at h
      · cases h
        refine .inl ⟨rfl, fun _ => ?_⟩
        rw [Request.totpCode, if_pos hrecovery]
        rfl
      · cases h
    · rw [if_neg hrecovery] at h
      rw [Request.totpCode, if_neg hrecovery]
      by_cases henabled : account.user.totpEnabled = true
      · rw [if_pos henabled] at h
        split at h
        · cases h
          exact .inr ⟨henabled, ‹_›, rfl⟩
        · cases h
      · rw [if_neg henabled] at h
        split at h
        · cases h
        · cases h
          exact .inl ⟨rfl, fun henabled' => absurd henabled' henabled⟩
  | stepUp payload =>
    simp only [hrequest, createStepUpWindow] at h
    split at h
    · cases h
    split at h
    · cases h
    by_cases henabled : account.user.totpEnabled = true
    · rw [if_pos henabled] at h
      split at h
      · cases h
        exact .inr ⟨henabled, ‹_›, rfl⟩
      · cases h
    · rw [if_neg henabled] at h
      cases h
      exact .inl ⟨rfl, fun henabled' => absurd henabled' henabled⟩

/-- An attempt leaves the user as it is and uses no counter, or its code is accepted for a
counter above the stored one and looked up once more. -/
theorem step_cases (generateOtp : String → Int → String) (account : Account)
    (attempt : Attempt) :
    (account.step generateOtp attempt).1.clock =
        account.clock + attempt.elapsed + attempt.pause ∧
      (((account.step generateOtp attempt).1.user = account.user ∧
          (account.step generateOtp attempt).2 = []) ∨
        ∃ secret counter, account.user.totpSecret = some secret ∧
          totpCounterForCode generateOtp secret attempt.request.totpCode
            (account.clock + attempt.elapsed) = some counter ∧
          (∀ last ∈ account.user.lastTotpCounter, last < counter) ∧
          (account.step generateOtp attempt).1.user.lastTotpCounter =
            totpCounterForCode generateOtp secret attempt.request.totpCode
              (account.clock + attempt.elapsed + attempt.pause) ∧
          (account.step generateOtp attempt).2 = [counter]) := by
  unfold Account.step
  dsimp only
  cases hserve : account.serve generateOtp attempt with
  | error e => exact ⟨rfl, .inl ⟨rfl, rfl⟩⟩
  | ok user =>
    refine ⟨rfl, ?_⟩
    rcases serve_ok hserve with ⟨rfl, hnone⟩ | ⟨henabled, hverify, rfl⟩
    · refine .inl ⟨rfl, ?_⟩
      dsimp only
      split
      · rename_i henabled
        have hcode := hnone henabled
        cases hsecret : account.user.totpSecret with
        | none => simp [acceptedCounter, hsecret]
        | some secret => simp [acceptedCounter, totpCounterForCode, hsecret, hcode]
      · rfl
    · have haccepted : (acceptedCounter generateOtp account.user attempt.request.totpCode
          (account.clock + attempt.elapsed)).isSome = true := by
        simpa [verifyTotp, henabled] using hverify
      obtain ⟨counter, hcounter⟩ := Option.isSome_iff_exists.mp haccepted
      have hfound := hcounter
      unfold acceptedCounter at hfound
      obtain ⟨secret, hsecret, hfound⟩ := Option.bind_eq_some_iff.mp hfound
      obtain ⟨hfound, habove⟩ := Option.filter_eq_some_iff.mp hfound
      refine .inr ⟨secret, counter, hsecret, hfound, ?_, ?_, ?_⟩
      · simpa [Option.all_eq_true] using habove
      · simp [User.storeCounter, hsecret]
      · simp [henabled, hcounter]

theorem Spent.of_le {counter counter' : Int} (h : Spent counter account)
    (hle : counter' ≤ counter) :
    Spent counter' account := by
  rcases h with ⟨last, hlast, hcounter⟩ | hpast
  · exact .inl ⟨last, hlast, hle.trans hcounter⟩
  · exact .inr (lt_of_le_of_lt hle hpast)

/-- The counter of an accepted code is spent after the second search, whatever that finds. -/
theorem spent_of_accepted {secret : String} {code : Option String} {verified : Time} {counter : Int}
    (hfound : totpCounterForCode generateOtp secret code verified = some counter)
    (hverified : verified ≤ account.clock)
    (hlast : account.user.lastTotpCounter =
      totpCounterForCode generateOtp secret code account.clock)
    (hdistinct : ((window account.clock).map (generateOtp secret)).Nodup) :
    Spent counter account := by
  obtain ⟨hgiven, hcode, hmem⟩ := totpCounterForCode_eq_some hfound
  by_cases hstill : counter ∈ window account.clock
  · have hagain := totpCounterForCode_of_mem hgiven hcode hstill hdistinct
    exact .inl ⟨counter, hlast.trans hagain, le_rfl⟩
  · -- The window has moved past the counter, not before it.
    have hmono := currentCounter_mono hverified
    rw [mem_window] at hmem hstill
    exact .inr (by omega)

theorem spent_step {counter : Int} (hdistinct : Distinct generateOtp account attempt)
    (h : Spent counter account) : Spent counter (account.step generateOtp attempt).1 := by
  have helapsed : account.clock ≤ account.clock + attempt.elapsed + attempt.pause := by
    unfold Time at *
    omega
  obtain ⟨hclock, ⟨huser, -⟩ | ⟨secret, accepted, hsecret, hfound, habove, hlast, -⟩⟩ :=
    step_cases generateOtp account attempt
  · rcases h with hle | hpast
    · exact .inl (huser ▸ hle)
    · refine .inr (lt_of_lt_of_le hpast ?_)
      rw [hclock]
      have hmono := currentCounter_mono helapsed
      omega
  · rcases h with ⟨last, hmem, hle⟩ | hpast
    · have hspent : Spent accepted (account.step generateOtp attempt).1 := by
        refine spent_of_accepted hfound ?_ (hclock ▸ hlast) (hclock ▸ hdistinct secret hsecret)
        rw [hclock]
        exact le_add_of_nonneg_right (Int.natCast_nonneg _)
      exact hspent.of_le (hle.trans (habove last hmem).le)
    · refine .inr (lt_of_lt_of_le hpast ?_)
      rw [hclock]
      have hmono := currentCounter_mono helapsed
      omega

/-- No counter is accepted in two successful attempts. -/
theorem no_counter_twice (generateOtp : String → Int → String) {account : Account}
    {attempts : List Attempt}
    (hdistinct : Meets (next (Account.step generateOtp)) (Distinct generateOtp) account attempts) :
    (trace (Account.step generateOtp) account attempts).Nodup := by
  refine Meets.trace_pairwise (K := Spent) ?_ ?_ ?_ ?_ hdistinct
  · intro account attempt _
    obtain ⟨-, ⟨-, hnone⟩ | ⟨_, _, -, -, -, -, hone⟩⟩ :=
      step_cases generateOtp account attempt
    · simp [hnone]
    · simp [hone]
  · intro account attempt hdistinct counter hcounter
    obtain ⟨hclock, ⟨-, hnone⟩ | ⟨secret, accepted, hsecret, hfound, -, hlast, hone⟩⟩ :=
      step_cases generateOtp account attempt
    · simp [hnone] at hcounter
    · rw [hone, List.mem_singleton] at hcounter
      subst hcounter
      refine spent_of_accepted hfound ?_ (hclock ▸ hlast) (hclock ▸ hdistinct secret hsecret)
      rw [hclock]
      exact le_add_of_nonneg_right (Int.natCast_nonneg _)
  · intro account attempt counter hdistinct h
    exact spent_step hdistinct h
  · intro account attempt counter _ h counter' hcounter'
    obtain ⟨hclock, ⟨-, hnone⟩ | ⟨secret, accepted, -, hfound, habove, -, hone⟩⟩ :=
      step_cases generateOtp account attempt
    · simp [hnone] at hcounter'
    · rw [hone, List.mem_singleton] at hcounter'
      subst hcounter'
      obtain ⟨-, -, hmem⟩ := totpCounterForCode_eq_some hfound
      rcases h with ⟨last, hlast, hle⟩ | hpast
      · exact (lt_of_le_of_lt hle (habove last hlast)).ne
      · have hmono := currentCounter_mono
          (show account.clock ≤ account.clock + (attempt.elapsed : Int) from
            le_add_of_nonneg_right (Int.natCast_nonneg _))
        rw [mem_window] at hmem
        omega

end Codes

/-- The codes of the counters 0 to 9 for the secret of `testAccount`. -/
def testCodes : List String :=
  ["755224", "287082", "359152", "969429", "338314", "254676", "287922", "162583", "399871",
    "520489"]

def testOtp (_ : String) (counter : Int) : String := testCodes.getD counter.toNat ""

/-- An account 65 seconds into the epoch. -/
def testAccount : Account :=
  ⟨⟨true, true, some "GEZDGNBVGY3TQOJQGEZDGNBVGY3TQOJQ", none⟩, 65000000⟩

/-- The code of step 2 at second 95, stored at second 125, when step 2 is out of the window;
the same code again, and then the code of step 3. -/
def slowLogin : List Attempt :=
  [⟨30000000, 30000000, .login ⟨false, true, some "359152", none, false⟩⟩,
    ⟨0, 0, .stepUp ⟨true, true, some "359152"⟩⟩, ⟨0, 0, .stepUp ⟨true, true, some "969429"⟩⟩]

theorem no_counter_twice_slow :
    trace (Account.step testOtp) testAccount slowLogin = [2, 3] ∧
      (trace (Account.step testOtp) testAccount slowLogin).Nodup :=
  ⟨by decide, no_counter_twice testOtp (by decide)⟩

end VpsGuardian.Access.Totp
