import VpsGuardian.Lib.ReadCommitted
import VpsGuardian.Access.Totp

/-!
Recovery codes of one user, used and replaced at the same time (`consume_recovery_code` and
`generate_recovery_code_batch` in `guardian/identity.py`; `_authenticate_login`, `enable_totp`,
`regenerate_recovery_codes` and `disable_totp` in `guardian/api.py`).

Every request is a session of the database. The session that authenticates the caller, the
limiter of the logins and the records of sign-ins and audit are left out: a request they refuse
is a session that is aborted.
-/

namespace VpsGuardian.Access.RecoveryCodes

open Lib Lib.ReadCommitted
open Controller (Time)

/-- The row of the user in `users`. -/
structure Account extends Totp.User where
  totpPendingSecret : Option String
  totpPendingCreatedAt : Option Time
  recoveryCodesConfirmedAt : Option Time
  sessionVersion : Nat
  deriving DecidableEq, Repr

/-- A row of `recovery_codes`, found under the hash of its code. -/
structure RecoveryCode where
  batchID : String
  createdAt : Time
  usedAt : Option Time
  revokedAt : Option Time
  deriving DecidableEq, Repr

def RecoveryCode.isActive (code : RecoveryCode) : Bool :=
  code.usedAt.isNone && code.revokedAt.isNone

def RecoveryCode.isUsed (code : RecoveryCode) : Bool := code.usedAt.isSome

/-- `(user_id, code_hash)` is unique. -/
inductive Key where
  | user
  | code (hash : String)
  deriving DecidableEq, Repr

inductive Row where
  | user (user : Account)
  | code (code : RecoveryCode)
  deriving DecidableEq, Repr

def recoveryCodeCount : Nat := 10

/-- What a call of `generate_recovery_code_batch` draws: the id of the batch, and the codes,
of which the hashes are stored. -/
structure Batch where
  id : String
  codes : List String
  codes_length : codes.length = recoveryCodeCount

structure Login where
  passwordValid : Bool
  totpCode : Option String
  /-- The hash of the code that is presented. -/
  recoveryCode : String
  now : Time

inductive Kind where
  | enableTotp (batch : Batch)
  | regenerateRecoveryCodes (batch : Batch)
  | disableTotp

structure Change where
  kind : Kind
  browser : Bool
  stepUp : Bool
  passwordValid : Bool
  totpCode : String
  now : Time
  /-- When the time code is looked up again, to store its counter. -/
  later : Time
  /-- The order in which an `UPDATE` comes upon its rows. -/
  scan : List Key → List Key
  scan_perm : ∀ keys, (scan keys).Perm keys

inductive Request where
  | login (login : Login)
  | change (change : Change)

def Kind.batch : Kind → Option Batch
  | .enableTotp batch => some batch
  | .regenerateRecoveryCodes batch => some batch
  | .disableTotp => none

/-! ### The handlers -/

inductive Outcome where
  | failed
  | rejected
  /-- A login with the code of this hash, and the number of codes that remain. -/
  | accepted (hash : String) (remaining : Nat)
  | issued (batchID : String)
  | disabled
  deriving DecidableEq, Repr

inductive Continuation where
  | revoke (change : Change)
  | commit (outcome : Outcome)

inductive Stage where
  | waiting (request : Request)
  /-- `consume_recovery_code` -/
  | consuming (login : Login)
  | marking (login : Login)
  | counting (login : Login) (used : Bool)
  /-- The columns of the user that have changed since the row was read are written. -/
  | updating (read user : Account) (next : Continuation)
  /-- `generate_recovery_code_batch` -/
  | revoking (change : Change) (user : Account)
  | inserting (now : Time) (batchID hash : String) (rest : List String) (user : Account)
  | committing (outcome : Outcome)
  | rollingBack
  | answered (outcome : Outcome)

def Continuation.stage (user : Account) : Continuation → Stage
  | .revoke change => .revoking change user
  | .commit outcome => .committing outcome

/-- There is an `UPDATE` only if a column has changed. -/
def update (read user : Account) (next : Continuation) : Stage :=
  if user = read then next.stage user else .updating read user next

def isUser (k : Key) (_ : Row) : Bool := k = .user

def isActiveCode (_ : Key) : Row → Bool
  | .user _ => false
  | .code code => code.isActive

def Login.isConsumable (login : Login) (k : Key) (row : Row) : Bool :=
  k = .code login.recoveryCode && isActiveCode k row

/-- `row.used_at = datetime.now(UTC)` -/
def Row.use (now : Time) : Row → Row
  | .code c => .code { c with usedAt := some now }
  | row => row

def Row.revoke (now : Time) : Row → Row
  | .code c => .code { c with revokedAt := some now }
  | row => row

def Row.flush (read user : Account) : Row → Row
  | .user row =>
      let column {α : Type} [DecidableEq α] (f : Account → α) : α :=
        if f user = f read then f row else f user
      .user {
        isActive := column (·.isActive)
        totpEnabled := column (·.totpEnabled)
        totpSecret := column (·.totpSecret)
        lastTotpCounter := column (·.lastTotpCounter)
        totpPendingSecret := column (·.totpPendingSecret)
        totpPendingCreatedAt := column (·.totpPendingCreatedAt)
        recoveryCodesConfirmedAt := column (·.recoveryCodesConfirmedAt)
        sessionVersion := column (·.sessionVersion) }
  | row => row

/-- `_authenticate_login`, with the row of the user locked. -/
def Login.check (login : Login) : List (Key × Row) → Stage
  | (_, .user user) :: _ =>
      if !user.isActive ∨ !login.passwordValid then .committing .rejected
      else if Totp.given login.totpCode then .committing .rejected
      else .consuming login
  | _ => .committing .rejected

def Login.consume (login : Login) (found : List (Key × Row)) : Stage :=
  if found.isEmpty then .counting login false else .marking login

section

-- `pyotp.TOTP(secret).generate_otp`
variable (generateOtp : String → Int → String)

/-- Up to the batch. -/
def Change.enableTotp (change : Change) (user : Account) : Stage :=
  match user.totpPendingSecret, user.totpPendingCreatedAt with
  | some secret, some pendingAt =>
      if pendingAt < change.now - 10 * 60 * 1000000 then
        update user { user with totpPendingSecret := none, totpPendingCreatedAt := none }
          (.commit .rejected)
      else
        match Totp.totpCounterForCode generateOtp secret (some change.totpCode) change.now with
        | none => .committing .rejected
        | some counter =>
            let enabled := { user with
              totpSecret := some secret
              totpPendingSecret := none
              totpPendingCreatedAt := none
              totpEnabled := true
              lastTotpCounter := some counter
              recoveryCodesConfirmedAt := none }
            update user enabled (.revoke change)
  | _, _ => .committing .rejected

def Change.verifiesTotp (change : Change) (user : Account) : Bool :=
  change.browser || Totp.verifyTotp generateOtp user.toUser (some change.totpCode) change.now

def Change.regenerateRecoveryCodes (change : Change) (user : Account) : Stage :=
  if !change.verifiesTotp generateOtp user then .committing .rejected
  else if change.browser then .revoking change user
  else
    match user.totpSecret with
    -- there is nothing to decrypt
    | none => .rollingBack
    | some secret =>
        let counter :=
          Totp.totpCounterForCode generateOtp secret (some change.totpCode) change.later
        update user { user with lastTotpCounter := counter } (.revoke change)

def Change.disableTotp (change : Change) (user : Account) : Stage :=
  if !user.totpEnabled ∨ !change.verifiesTotp generateOtp user then .committing .rejected
  else
    let disabled := { user with
      totpEnabled := false
      totpSecret := none
      lastTotpCounter := none
      recoveryCodesConfirmedAt := none }
    update user disabled (.revoke change)

/-- `get_current_user` and `_require_reauthentication_audited`, and the rest of the handler. -/
def Change.authorize (change : Change) : List (Key × Row) → Stage
  | (_, .user user) :: _ =>
      if !user.isActive then .rollingBack
      else if change.browser ∧ !change.stepUp then .rollingBack
      else if !change.browser ∧ !change.passwordValid then .committing .rejected
      else
        match change.kind with
        | .enableTotp _ => change.enableTotp generateOtp user
        | .regenerateRecoveryCodes _ => change.regenerateRecoveryCodes generateOtp user
        | .disableTotp => change.disableTotp generateOtp user
  | _ => .rollingBack

/-- The codes that are still to be inserted; then `recovery_codes_confirmed_at` is cleared. -/
def issue (now : Time) (batchID : String) (user : Account) : List String → Stage
  | [] => update user { user with recoveryCodesConfirmedAt := none } (.commit (.issued batchID))
  | hash :: rest => .inserting now batchID hash rest user

def Change.afterRevoke (change : Change) (user : Account) : Stage :=
  match change.kind.batch with
  | some batch => issue change.now batch.id user batch.codes
  | none =>
      update user { user with sessionVersion := user.sessionVersion + 1 } (.commit .disabled)

def statement : Stage → Statement Key Row Stage
  | .waiting (.login login) => .alter id isUser some login.check
  | .waiting (.change change) => .select isUser (change.authorize generateOtp)
  | .consuming login => .alter id login.isConsumable some login.consume
  | .marking login =>
      .alter id (fun k _ => k = .code login.recoveryCode) (fun row => some (row.use login.now))
        fun found => if found.isEmpty then .rollingBack else .counting login true
  | .counting login used =>
      .select isActiveCode fun found =>
        .committing (if used then .accepted login.recoveryCode found.length else .rejected)
  | .updating read user next =>
      .alter id isUser (fun row => some (row.flush read user))
        fun found => if found.isEmpty then .rollingBack else next.stage user
  | .revoking change user =>
      .alter change.scan isActiveCode (fun row => some (row.revoke change.now))
        fun _ => change.afterRevoke user
  | .inserting now batchID hash rest user =>
      .insert (.code hash) (.code ⟨batchID, now, none, none⟩)
        fun free => if free then issue now batchID user rest else .rollingBack
  | .committing outcome => .commit (.answered outcome)
  | .rollingBack => .rollback (.answered .failed)
  | .answered _ => .done

def code (ι : Type) : Code ι Key Row Stage := ⟨fun _ => statement generateOtp, .answered .failed⟩

end

/-! ### The stages of a change -/

/-- The batch that the session is inserting or has inserted. -/
def Stage.issuing : Stage → Option String
  | .inserting _ batchID _ _ _ => some batchID
  | .updating _ _ (.commit (.issued batchID)) => some batchID
  | .committing (.issued batchID) => some batchID
  | _ => none

/-- Where a change goes on once its caller is known. -/
inductive Admitted (change : Change) : Stage → Prop
  | refused : Admitted change .rollingBack
  | rejected : Admitted change (.committing .rejected)
  | expired (read user) : Admitted change (.updating read user (.commit .rejected))
  | updating (read user) : Admitted change (.updating read user (.revoke change))
  | revoking (user) : Admitted change (.revoking change user)

theorem admitted_update_revoke (change : Change) (read user : Account) :
    Admitted change (update read user (.revoke change)) := by
  unfold update
  split
  · exact .revoking user
  · exact .updating read user

theorem admitted_update_rejected (change : Change) (read user : Account) :
    Admitted change (update read user (.commit .rejected)) := by
  unfold update
  split
  · exact .rejected
  · exact .expired read user

section Change

variable {generateOtp : String → Int → String} (change : Change) (user : Account)

theorem admitted_enableTotp : Admitted change (change.enableTotp generateOtp user) := by
  unfold Change.enableTotp
  split
  · split
    · exact admitted_update_rejected _ _ _
    · split
      · exact .rejected
      · exact admitted_update_revoke _ _ _
  · exact .rejected

theorem admitted_regenerateRecoveryCodes :
    Admitted change (change.regenerateRecoveryCodes generateOtp user) := by
  unfold Change.regenerateRecoveryCodes
  split
  · exact .rejected
  · split
    · exact .revoking user
    · split
      · exact .refused
      · exact admitted_update_revoke _ _ _

theorem admitted_disableTotp : Admitted change (change.disableTotp generateOtp user) := by
  unfold Change.disableTotp
  split
  · exact .rejected
  · exact admitted_update_revoke _ _ _

theorem admitted_authorize (found : List (Key × Row)) :
    Admitted change (change.authorize generateOtp found) := by
  unfold Change.authorize
  split
  · split_ifs
    · exact .refused
    · exact .refused
    · exact .rejected
    · cases change.kind with
      | enableTotp batch => exact admitted_enableTotp _ _
      | regenerateRecoveryCodes batch => exact admitted_regenerateRecoveryCodes _ _
      | disableTotp => exact admitted_disableTotp _ _
  · exact .refused

@[simp] theorem issue_issuing (now : Time) (batchID : String) (codes : List String) :
    (issue now batchID user codes).issuing = some batchID := by
  cases codes with
  | nil =>
    unfold issue update
    dsimp only
    split <;> rfl
  | cons hash rest => rfl

theorem afterRevoke_issuing :
    (change.afterRevoke user).issuing = change.kind.batch.map Batch.id := by
  unfold Change.afterRevoke
  cases change.kind.batch with
  | some batch => exact issue_issuing _ _ _ _
  | none =>
    unfold update
    dsimp only
    split <;> rfl

theorem update_ne_answered (read : Account) (next : Continuation) (outcome : Outcome) :
    update read user next ≠ .answered outcome := by
  unfold update
  split
  · cases next <;> exact Stage.noConfusion
  · exact Stage.noConfusion

theorem issue_ne_answered (now : Time) (batchID : String) (codes : List String)
    (outcome : Outcome) : issue now batchID user codes ≠ .answered outcome := by
  intro h
  have hissuing := issue_issuing user now batchID codes
  rw [h] at hissuing
  cases hissuing

theorem afterRevoke_ne_answered (outcome : Outcome) :
    change.afterRevoke user ≠ .answered outcome := by
  unfold Change.afterRevoke
  split
  · exact issue_ne_answered _ _ _ _ _
  · exact update_ne_answered _ _ _ _
end Change

section Answers

variable {generateOtp : String → Int → String} {stage : Stage}

/-! A request is answered after its commit or rollback only. -/

theorem select_ne_answered {condition : Key → Row → Bool} {next : List (Key × Row) → Stage}
    (h : statement generateOtp stage = .select condition next) (found : List (Key × Row))
    (outcome : Outcome) : next found ≠ .answered outcome := by
  cases stage with
  | waiting request =>
    cases request with
    | login login => cases h
    | change change =>
      cases h
      intro heq
      have hadmitted : Admitted change (change.authorize generateOtp found) :=
        admitted_authorize change found
      rw [heq] at hadmitted
      cases hadmitted
  | counting login used =>
    cases h
    exact Stage.noConfusion
  | consuming login | marking login | updating read user next | revoking change user
    | inserting now batchID hash rest user | committing outcome | rollingBack
    | answered outcome => cases h

theorem alter_ne_answered {order : List Key → List Key} {condition : Key → Row → Bool}
    {change : Row → Option Row} {next : List (Key × Row) → Stage}
    (h : statement generateOtp stage = .alter order condition change next)
    (found : List (Key × Row)) (outcome : Outcome) : next found ≠ .answered outcome := by
  cases stage with
  | waiting request =>
    cases request with
    | login login =>
      cases h
      unfold Login.check
      split
      · split_ifs <;> exact Stage.noConfusion
      · exact Stage.noConfusion
    | change change => cases h
  | consuming login =>
    cases h
    unfold Login.consume
    split <;> exact Stage.noConfusion
  | marking login =>
    cases h
    dsimp only
    split <;> exact Stage.noConfusion
  | updating read user next =>
    cases h
    dsimp only
    split
    · exact Stage.noConfusion
    · cases next <;> exact Stage.noConfusion
  | revoking change user =>
    cases h
    exact afterRevoke_ne_answered _ _ _
  | counting login used | inserting now batchID hash rest user | committing outcome | rollingBack
    | answered outcome => cases h

/-- Rows are inserted for a batch. -/
theorem statement_insert {k : Key} {row : Row} {next : Bool → Stage}
    (h : statement generateOtp stage = .insert k row next) :
    ∃ now batchID hash rest user, stage = .inserting now batchID hash rest user ∧
      k = .code hash ∧ row = .code ⟨batchID, now, none, none⟩ ∧
        next true = issue now batchID user rest ∧ next false = .rollingBack := by
  cases stage with
  | inserting now batchID hash rest user =>
    cases h
    exact ⟨now, batchID, hash, rest, user, rfl, rfl, rfl, rfl, rfl⟩
  | waiting request => cases request <;> cases h
  | consuming login | marking login | counting login used | updating read user next
    | revoking change user | committing outcome | rollingBack | answered outcome => cases h

theorem statement_commit {stage' : Stage} (h : statement generateOtp stage = .commit stage') :
    ∃ outcome, stage = .committing outcome ∧ stage' = .answered outcome := by
  cases stage with
  | committing outcome =>
    cases h
    exact ⟨outcome, rfl, rfl⟩
  | waiting request => cases request <;> cases h
  | consuming login | marking login | counting login used | updating read user next
    | revoking change user | inserting now batchID hash rest user | rollingBack
    | answered outcome => cases h

theorem statement_rollback {stage' : Stage} (h : statement generateOtp stage = .rollback stage') :
    stage' = .answered .failed := by
  cases stage with
  | rollingBack =>
    cases h
    rfl
  | waiting request => cases request <;> cases h
  | consuming login | marking login | counting login used | updating read user next
    | revoking change user | inserting now batchID hash rest user | committing outcome
    | answered outcome => cases h

end Answers

end VpsGuardian.Access.RecoveryCodes
