import VpsGuardian.Controller.Records
import VpsGuardian.Lib.Run

/-!
Sessions of users (`sessions.py`, `identity.py` and the handlers that write session rows).

A handler is one transaction, which begins by reading the user and the session it is called
under. Touching is taken apart from that read: it computes the idle deadline from a row read
at some earlier moment, and the database compares the columns again.
-/

namespace VpsGuardian.Access.Sessions

open Lib
open Controller (Time HTTPException seconds minutes)

def hours (n : Int) : Time := minutes (60 * n)

def days (n : Int) : Time := hours (24 * n)

/-- The lifetimes of the configuration. -/
structure Settings where
  jwtTTLMinutes : Int
  sessionDefaultIdleHours : Int
  sessionDefaultAbsoluteDays : Int
  sessionRememberIdleDays : Int
  sessionRememberAbsoluteDays : Int
  sessionActivityTouchIntervalSeconds : Int
  sessionStepUpMinutes : Int
  deriving DecidableEq, Repr

structure User where
  id : String
  isActive : Bool
  sessionVersion : Nat
  deriving DecidableEq, Repr

structure UserSession where
  id : String
  userID : String
  issuedAt : Time
  expiresAt : Time
  lastSeenAt : Time
  idleExpiresAt : Time
  absoluteExpiresAt : Time
  rememberMe : Bool
  stepUpUntil : Option Time
  revokedAt : Option Time
  revokedBy : Option String
  revokeReason : Option String
  createdVia : String
  lastActivityType : String
  deviceName : Option String
  rotatedFromSessionID : Option String
  sessionVersion : Nat
  deriving DecidableEq, Repr

/-- The tables, and the session rows as transactions in progress have read them. -/
structure Db where
  clock : Time
  users : List User
  sessions : List UserSession
  reads : List UserSession
  deriving DecidableEq, Repr

namespace Db

/-- Users who have not signed in. -/
def initial (clock : Time) (users : List User) : Db := ⟨clock, users, [], []⟩

def user? (db : Db) (userID : String) : Option User := Table.lookup (·.id) userID db.users

def session? (db : Db) (sessionID : String) : Option UserSession :=
  Table.lookup (·.id) sessionID db.sessions

/-- Adds a row under a new id. -/
def addSession (db : Db) (row : UserSession) : Except HTTPException Db :=
  if (db.session? row.id).isSome then .error Controller.internalServerError
  else .ok { db with sessions := db.sessions ++ [row] }

/-- Overwrites the columns of one session. -/
def updateSession (db : Db) (sessionID : String) (f : UserSession → UserSession) : Db :=
  { db with sessions := db.sessions.map fun row => if row.id = sessionID then f row else row }

def raiseVersion (db : Db) (userID : String) (increment : Nat) : Db :=
  { db with users := db.users.map fun user =>
      if user.id = userID then { user with sessionVersion := user.sessionVersion + increment }
      else user }

end Db

def idleDelta (settings : Settings) (rememberMe : Bool) : Time :=
  if rememberMe then days settings.sessionRememberIdleDays
  else hours settings.sessionDefaultIdleHours

def absoluteDelta (settings : Settings) (rememberMe : Bool) : Time :=
  if rememberMe then days settings.sessionRememberAbsoluteDays
  else days settings.sessionDefaultAbsoluteDays

/-- The row `create_browser_session` adds. -/
def newBrowserSession (settings : Settings) (now : Time) (user : User) (id : String)
    (rememberMe : Bool) (createdVia : String) (deviceName rotatedFromSessionID : Option String) :
    UserSession where
  id := id
  userID := user.id
  issuedAt := now
  expiresAt := now + absoluteDelta settings rememberMe
  lastSeenAt := now
  idleExpiresAt := min (now + idleDelta settings rememberMe)
    (now + absoluteDelta settings rememberMe)
  absoluteExpiresAt := now + absoluteDelta settings rememberMe
  rememberMe := rememberMe
  stepUpUntil := none
  revokedAt := none
  revokedBy := none
  revokeReason := none
  createdVia := createdVia
  lastActivityType := "sign_in"
  deviceName := deviceName
  rotatedFromSessionID := rotatedFromSessionID
  sessionVersion := user.sessionVersion

/-- The row `create_user_session` adds. -/
def newUserSession (settings : Settings) (now : Time) (user : User) (id : String) :
    UserSession where
  id := id
  userID := user.id
  issuedAt := now
  expiresAt := now + minutes settings.jwtTTLMinutes
  lastSeenAt := now
  idleExpiresAt := now + minutes settings.jwtTTLMinutes
  absoluteExpiresAt := now + minutes settings.jwtTTLMinutes
  rememberMe := false
  stepUpUntil := none
  revokedAt := none
  revokedBy := none
  revokeReason := none
  createdVia := "api_token"
  lastActivityType := "api_sign_in"
  deviceName := none
  rotatedFromSessionID := none
  sessionVersion := user.sessionVersion

inductive SessionError
  | revoked
  | versionMismatch
  | absoluteExpired
  | idleExpired
  deriving DecidableEq, Repr

def SessionError.code : SessionError → String
  | .revoked => "SESSION_REVOKED"
  | .versionMismatch => "SESSION_VERSION_MISMATCH"
  | .absoluteExpired => "SESSION_ABSOLUTE_EXPIRED"
  | .idleExpired => "SESSION_IDLE_EXPIRED"

def browserSessionError (row : UserSession) (user : User) (now : Time) : Option SessionError :=
  if row.revokedAt.isSome then some .revoked
  else if row.sessionVersion ≠ user.sessionVersion then some .versionMismatch
  else if row.absoluteExpiresAt ≤ now then some .absoluteExpired
  else if row.idleExpiresAt ≤ now then some .idleExpired
  else none

/-- The row after `touch_browser_session`, which sets the columns only if they still qualify. -/
def touched (settings : Settings) (now : Time) (read : UserSession) (activityType : String)
    (row : UserSession) : UserSession :=
  if row.id = read.id ∧ row.revokedAt = none ∧
      row.lastSeenAt ≤ now - seconds settings.sessionActivityTouchIntervalSeconds ∧
      now < row.idleExpiresAt ∧ now < row.absoluteExpiresAt then
    { row with
      lastSeenAt := now
      idleExpiresAt := min (now + idleDelta settings read.rememberMe) read.absoluteExpiresAt
      lastActivityType := .ofList (activityType.toList.take 64) }
  else row

def touchBrowserSession (settings : Settings) (db : Db) (read : UserSession)
    (activityType : String) : Db :=
  if db.clock - read.lastSeenAt < seconds settings.sessionActivityTouchIntervalSeconds then db
  else { db with sessions := db.sessions.map (touched settings db.clock read activityType) }

/-- A row revoked at a time. -/
def UserSession.revoke (row : UserSession) (now : Time) (revokedBy : Option String)
    (reason : String) : UserSession :=
  { row with
    revokedAt := some now
    revokedBy := revokedBy
    revokeReason := some (.ofList (reason.toList.take 160)) }

def revokeSessions (db : Db) (userID : String) (actorID : Option String) (reason : String)
    (exceptSessionID : Option String) : Db :=
  { db with sessions := db.sessions.map fun row =>
      if row.userID = userID ∧ row.revokedAt = none ∧ exceptSessionID ≠ some row.id then
        row.revoke db.clock actorID reason
      else row }

/-- `row` and `user` are as the transaction holds them. -/
def rotateBrowserSession (settings : Settings) (db : Db) (row : UserSession) (user : User)
    (newID reason : String) : Except HTTPException Db :=
  (db.updateSession row.id (·.revoke db.clock (some user.id) reason)).addSession
    (newBrowserSession settings db.clock user newID row.rememberMe row.createdVia row.deviceName
      (some row.id))

/-! ### Requests -/

/-- A bearer token names its user, session and session version; a cookie is the secret of a
browser session. -/
inductive Credential
  | bearer (userID sessionID : String) (sessionVersion : Nat)
  | cookie (sessionID : String)
  deriving DecidableEq, Repr

def Credential.browser : Credential → Bool
  | .bearer .. => false
  | .cookie _ => true

/-- `get_current_user`, up to the session it finds. -/
def getCurrentUser (db : Db) : Credential → Except HTTPException (User × UserSession)
  | .bearer userID sessionID sessionVersion => do
      let user ← orRaise (db.user? userID) ⟨401, "SESSION_REVOKED"⟩
      raiseIf (!user.isActive) ⟨401, "SESSION_REVOKED"⟩
      raiseIf (sessionVersion ≠ user.sessionVersion) ⟨401, "SESSION_VERSION_MISMATCH"⟩
      let row ← orRaise ((db.session? sessionID).filter fun row =>
        row.userID = user.id ∧ row.createdVia = "api_token") ⟨401, "SESSION_INVALID"⟩
      raiseIf row.revokedAt.isSome ⟨401, "SESSION_REVOKED"⟩
      raiseIf (row.sessionVersion ≠ user.sessionVersion) ⟨401, "SESSION_VERSION_MISMATCH"⟩
      raiseIf (row.expiresAt ≤ db.clock) ⟨401, "SESSION_ABSOLUTE_EXPIRED"⟩
      return (user, row)
  | .cookie sessionID => do
      let row ← orRaise ((db.session? sessionID).filter fun row => row.createdVia ≠ "api_token")
        ⟨401, "SESSION_INVALID"⟩
      let user ← orRaise (db.user? row.userID) ⟨401, "SESSION_REVOKED"⟩
      raiseIf (!user.isActive) ⟨401, "SESSION_REVOKED"⟩
      match browserSessionError row user db.clock with
      | some e => throw ⟨401, e.code⟩
      | none => return (user, row)

def logout (db : Db) (credential : Credential) : Except HTTPException Db := do
  let (user, row) ← getCurrentUser db credential
  return db.updateSession row.id (·.revoke db.clock (some user.id) "logout")

/-- The window of a step-up whose factors are valid. -/
def createStepUpWindow (settings : Settings) (db : Db) (credential : Credential) :
    Except HTTPException Db := do
  let (_, row) ← getCurrentUser db credential
  raiseIf (!credential.browser) ⟨403, "STEP_UP_REQUIRED"⟩
  return db.updateSession row.id fun row => { row with
    stepUpUntil := some (min (db.clock + minutes settings.sessionStepUpMinutes)
      row.absoluteExpiresAt) }

def requireStepUp (row : UserSession) (credential : Credential) (now : Time) :
    Except HTTPException Unit :=
  if credential.browser then do
    let expiresAt ← orRaise row.stepUpUntil ⟨403, "STEP_UP_REQUIRED"⟩
    raiseIf (expiresAt ≤ now) ⟨403, "STEP_UP_EXPIRED"⟩
  else .ok ()

/-- Whether the two passwords of a password change are accepted, and the id drawn for a
rotated session. -/
structure PasswordChange where
  currentValid : Bool
  reused : Bool
  newSessionID : String
  deriving DecidableEq, Repr

def changePassword (settings : Settings) (db : Db) (credential : Credential)
    (payload : PasswordChange) : Except HTTPException Db := do
  let (user, current) ← getCurrentUser db credential
  requireStepUp current credential db.clock
  raiseIf (!payload.currentValid) ⟨401, "current password is invalid"⟩
  raiseIf payload.reused ⟨409, "new password must be different"⟩
  let user := { user with sessionVersion := user.sessionVersion + 1 }
  let revoked := revokeSessions (db.raiseVersion user.id 1) user.id (some user.id)
    "password_changed" (some current.id)
  let retained := revoked.updateSession current.id fun row =>
    { row with sessionVersion := user.sessionVersion }
  if credential.browser then
    rotateBrowserSession settings retained current user payload.newSessionID
      "password_changed_rotated"
  else return retained

def signIn (settings : Settings) (db : Db) (userID id : String) (rememberMe : Bool)
    (createdVia : String) (deviceName : Option String) : Except HTTPException Db := do
  let user ← orRaise (db.user? userID) ⟨401, "AUTH_INVALID_CREDENTIALS"⟩
  db.addSession
    (newBrowserSession settings db.clock user id rememberMe createdVia deviceName none)

def apiSignIn (settings : Settings) (db : Db) (userID id : String) : Except HTTPException Db := do
  let user ← orRaise (db.user? userID) ⟨401, "AUTH_INVALID_CREDENTIALS"⟩
  db.addSession (newUserSession settings db.clock user id)

inductive Operation
  | signIn (userID id : String) (rememberMe : Bool) (createdVia : String)
      (deviceName : Option String)
  | apiSignIn (userID id : String)
  | read (sessionID : String)
  | touch (read : UserSession) (activityType : String)
  | rotate (sessionID newID reason : String)
  | revokeSessions (userID : String) (actorID : Option String) (reason : String)
      (exceptSessionID : Option String)
  | raiseVersion (userID : String) (increment : Nat)
  | logout (credential : Credential)
  | stepUp (credential : Credential)
  | changePassword (credential : Credential) (payload : PasswordChange)
  deriving DecidableEq, Repr

def transaction (settings : Settings) (db : Db) : Operation → Except HTTPException Db
  | .signIn userID id rememberMe createdVia deviceName =>
      signIn settings db userID id rememberMe createdVia deviceName
  | .apiSignIn userID id => apiSignIn settings db userID id
  | .read sessionID =>
      .ok { db with reads := db.reads ++ (db.session? sessionID).toList }
  | .touch read activityType =>
      if read ∈ db.reads then .ok (touchBrowserSession settings db read activityType) else .ok db
  | .rotate sessionID newID reason => do
      let row ← orRaise (db.session? sessionID) Controller.internalServerError
      let user ← orRaise (db.user? row.userID) Controller.internalServerError
      rotateBrowserSession settings db row user newID reason
  | .revokeSessions userID actorID reason exceptSessionID =>
      .ok (revokeSessions db userID actorID reason exceptSessionID)
  | .raiseVersion userID increment => .ok (db.raiseVersion userID increment)
  | .logout credential => logout db credential
  | .stepUp credential => createStepUpWindow settings db credential
  | .changePassword credential payload => changePassword settings db credential payload

/-- An operation, the time since the one before, and the configuration it runs under. -/
structure Input where
  elapsed : Nat
  settings : Settings
  operation : Operation
  deriving DecidableEq, Repr

def Db.arrive (db : Db) (input : Input) : Db := { db with clock := db.clock + input.elapsed }

def step (db : Db) (input : Input) : Db :=
  match transaction input.settings (db.arrive input) input.operation with
  | .ok db' => db'
  | .error _ => db.arrive input

end VpsGuardian.Access.Sessions
