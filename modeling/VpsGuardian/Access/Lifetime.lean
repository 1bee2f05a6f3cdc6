import VpsGuardian.Access.Sessions
import VpsGuardian.Lib.Checks

/-!
A session that has ended stays ended.

The columns that end a session move one way: `revoked_at` is never cleared, the absolute deadline
is never written, the idle deadline is moved only before it has passed, and a session falls behind
its user's version for good, because a password change carries only a session over whose version
it has just compared.
-/

namespace VpsGuardian.Access.Sessions

open Lib
open Controller (Time HTTPException seconds minutes)

theorem browserSessionError_eq_none {row : UserSession} {user : User} {now : Time} :
    browserSessionError row user now = none ↔ row.revokedAt = none ∧
      row.sessionVersion = user.sessionVersion ∧ now < row.absoluteExpiresAt ∧
      now < row.idleExpiresAt := by
  unfold browserSessionError
  cases hrevoked : row.revokedAt with
  | some revokedAt => simp
  | none =>
    by_cases hversion : row.sessionVersion = user.sessionVersion
    · by_cases habsolute : row.absoluteExpiresAt ≤ now
      · simp [hversion, habsolute, not_lt.mpr habsolute]
      · by_cases hidle : row.idleExpiresAt ≤ now
        · simp [hversion, habsolute, hidle, not_lt.mpr hidle]
        · simp [hversion, habsolute, hidle, not_le.mp habsolute, not_le.mp hidle]
    · simp [hversion]

theorem browserSessionError_mono {row : UserSession} {user : User} {now later : Time}
    (hle : now ≤ later) (h : browserSessionError row user now ≠ none) :
    browserSessionError row user later ≠ none := by
  rw [Ne, browserSessionError_eq_none] at h ⊢
  rintro ⟨hrevoked, hversion, habsolute, hidle⟩
  exact h ⟨hrevoked, hversion, lt_of_le_of_lt hle habsolute, lt_of_le_of_lt hle hidle⟩

/-! ### What a transaction does to a session -/

/-- The columns of a session, the version apart, before and after a transaction. -/
structure Later (now : Time) (row row' : UserSession) : Prop where
  id : row'.id = row.id
  userID : row'.userID = row.userID
  absolute : row'.absoluteExpiresAt = row.absoluteExpiresAt
  bounded : row.idleExpiresAt ≤ row.absoluteExpiresAt → row'.idleExpiresAt ≤ row'.absoluteExpiresAt
  idle : row.idleExpiresAt ≤ now → row'.idleExpiresAt ≤ now
  revoked : row.revokedAt ≠ none → row'.revokedAt ≠ none

/-- A session does not get ahead of its user's version, and if it is behind it stays behind. -/
def KeepsBehind (db db' : Db) (row row' : UserSession) : Prop :=
  ∀ user ∈ db.user? row.userID, ∀ user' ∈ db'.user? row.userID,
    row.sessionVersion ≤ user.sessionVersion → row'.sessionVersion ≤ user'.sessionVersion ∧
      (row.sessionVersion ≠ user.sessionVersion → row'.sessionVersion ≠ user'.sessionVersion)

/-- A row that a transaction adds. -/
structure New (db' : Db) (row : UserSession) : Prop where
  bounded : row.idleExpiresAt ≤ row.absoluteExpiresAt
  owner : ∃ user, db'.user? row.userID = some user ∧ row.sessionVersion ≤ user.sessionVersion

/-- What a transaction leaves behind. -/
structure Effect (db db' : Db) : Prop where
  clock : db'.clock = db.clock
  users : ∀ userID, ∀ user ∈ db.user? userID, ∃ user' ∈ db'.user? userID,
    user.sessionVersion ≤ user'.sessionVersion
  reads : db'.reads = db.reads
  ids : (db.sessions.map (·.id)).Nodup → (db'.sessions.map (·.id)).Nodup
  kept : ∀ row ∈ db.sessions, ∃ row' ∈ db'.sessions,
    Later db.clock row row' ∧ KeepsBehind db db' row row'
  rows : ∀ row' ∈ db'.sessions, New db' row' ∨
    ∃ row ∈ db.sessions, Later db.clock row row' ∧ KeepsBehind db db' row row'

theorem Later.refl (now : Time) (row : UserSession) : Later now row row :=
  ⟨rfl, rfl, rfl, fun h => h, fun h => h, fun h => h⟩

theorem Later.trans {now : Time} {row row' row'' : UserSession} (h : Later now row row')
    (h' : Later now row' row'') : Later now row row'' where
  id := h'.id.trans h.id
  userID := h'.userID.trans h.userID
  absolute := h'.absolute.trans h.absolute
  bounded := fun hbounded => h'.bounded (h.bounded hbounded)
  idle := fun hidle => h'.idle (h.idle hidle)
  revoked := fun hrevoked => h'.revoked (h.revoked hrevoked)

namespace Effect

variable {db db' db'' : Db}

theorem keepsBehind_trans (h : Effect db db') {row row' row'' : UserSession}
    (hlater : Later db.clock row row') (hkept : KeepsBehind db db' row row')
    (hkept' : KeepsBehind db' db'' row' row'') : KeepsBehind db db'' row row'' := by
  intro user huser user'' huser'' hle
  obtain ⟨user', huser', -⟩ := h.users row.userID user huser
  obtain ⟨hle', hbehind⟩ := hkept user huser user' huser' hle
  rw [← hlater.userID] at huser' huser''
  obtain ⟨hle'', hbehind'⟩ := hkept' user' huser' user'' huser'' hle'
  exact ⟨hle'', fun hne => hbehind' (hbehind hne)⟩

theorem trans (h : Effect db db') (h' : Effect db' db'') : Effect db db'' where
  clock := h'.clock.trans h.clock
  users := by
    intro userID user huser
    obtain ⟨user', huser', hle⟩ := h.users userID user huser
    obtain ⟨user'', huser'', hle'⟩ := h'.users userID user' huser'
    exact ⟨user'', huser'', hle.trans hle'⟩
  reads := h'.reads.trans h.reads
  ids := fun hids => h'.ids (h.ids hids)
  kept := by
    intro row hrow
    obtain ⟨row', hrow', hlater, hkept⟩ := h.kept row hrow
    obtain ⟨row'', hrow'', hlater', hkept'⟩ := h'.kept row' hrow'
    rw [h.clock] at hlater'
    exact ⟨row'', hrow'', hlater.trans hlater', h.keepsBehind_trans hlater hkept hkept'⟩
  rows := by
    intro row'' hrow''
    rcases h'.rows row'' hrow'' with hnew | ⟨row', hrow', hlater', hkept'⟩
    · exact .inl hnew
    rcases h.rows row' hrow' with hnew | ⟨row, hrow, hlater, hkept⟩
    · -- The row was added by the first part and changed by the second.
      obtain ⟨user', huser', hle⟩ := hnew.owner
      obtain ⟨user'', huser'', -⟩ := h'.users row'.userID user' huser'
      refine .inl ⟨hlater'.bounded hnew.bounded, user'', ?_, ?_⟩
      · rw [hlater'.userID]
        exact huser''
      · exact (hkept' user' huser' user'' huser'' hle).1
    · rw [h.clock] at hlater'
      exact .inr ⟨row, hrow, hlater.trans hlater', h.keepsBehind_trans hlater hkept hkept'⟩

/-- A transaction that changes each session on its own. -/
theorem of_map {f : UserSession → UserSession} (hclock : db'.clock = db.clock)
    (husers : ∀ userID, ∀ user ∈ db.user? userID, ∃ user' ∈ db'.user? userID,
      user.sessionVersion ≤ user'.sessionVersion)
    (hreads : db'.reads = db.reads) (hsessions : db'.sessions = db.sessions.map f)
    (hf : ∀ row ∈ db.sessions, Later db.clock row (f row) ∧ KeepsBehind db db' row (f row)) :
    Effect db db' where
  clock := hclock
  users := husers
  reads := hreads
  ids := by
    intro hids
    have hsame : (db.sessions.map f).map (·.id) = db.sessions.map (·.id) := by
      rw [List.map_map]
      exact List.map_congr_left fun row hrow => (hf row hrow).1.id
    rw [hsessions, hsame]
    exact hids
  kept := by
    intro row hrow
    refine ⟨f row, ?_, hf row hrow⟩
    rw [hsessions]
    exact List.mem_map_of_mem hrow
  rows := by
    intro row' hrow'
    rw [hsessions] at hrow'
    obtain ⟨row, hrow, rfl⟩ := List.mem_map.mp hrow'
    exact .inr ⟨row, hrow, hf row hrow⟩

end Effect

/-- A session whose version stays does not catch up with a version that does not fall. -/
theorem KeepsBehind.of_version {db db' : Db} {row row' : UserSession}
    (husers : ∀ userID, ∀ user ∈ db.user? userID, ∃ user' ∈ db'.user? userID,
      user.sessionVersion ≤ user'.sessionVersion)
    (hversion : row'.sessionVersion = row.sessionVersion) : KeepsBehind db db' row row' := by
  intro user huser user' huser' hle
  obtain ⟨found, hfound, hraised⟩ := husers row.userID user huser
  obtain rfl : found = user' := Option.some_inj.mp (hfound.symm.trans huser')
  rw [hversion]
  exact ⟨hle.trans hraised, fun hne => by omega⟩

/-! ### The single writes -/

section Writes

variable {db : Db}

theorem users_same (userID : String) (user : User) (huser : user ∈ db.user? userID) :
    ∃ user' ∈ db.user? userID, user.sessionVersion ≤ user'.sessionVersion :=
  ⟨user, huser, le_rfl⟩

/-- Changes of rows that keep their versions, with the users untouched. -/
theorem Effect.of_rows {f : UserSession → UserSession}
    (hf : ∀ row ∈ db.sessions, Later db.clock row (f row) ∧
      (f row).sessionVersion = row.sessionVersion) :
    Effect db { db with sessions := db.sessions.map f } :=
  .of_map rfl users_same rfl rfl fun row hrow =>
    ⟨(hf row hrow).1, .of_version users_same (hf row hrow).2⟩

theorem Effect.refl (db : Db) : Effect db db := by
  have heffect : Effect db { db with sessions := db.sessions.map id } :=
    .of_rows fun row _ => ⟨Later.refl _ _, rfl⟩
  rwa [List.map_id] at heffect

theorem Later.revoke (row : UserSession) (now : Time) (revokedBy : Option String)
    (reason : String) : Later now row (row.revoke now revokedBy reason) :=
  ⟨rfl, rfl, rfl, fun h => h, fun h => h, fun _ => nofun⟩

theorem revokeSessions_effect (userID : String) (actorID : Option String) (reason : String)
    (exceptSessionID : Option String) :
    Effect db (revokeSessions db userID actorID reason exceptSessionID) := by
  refine .of_rows fun row _ => ?_
  split
  · exact ⟨Later.revoke row _ _ _, rfl⟩
  · exact ⟨Later.refl _ _, rfl⟩

theorem updateSession_effect (sessionID : String) {f : UserSession → UserSession}
    (hf : ∀ row, Later db.clock row (f row) ∧ (f row).sessionVersion = row.sessionVersion) :
    Effect db (db.updateSession sessionID f) := by
  refine .of_rows fun row _ => ?_
  split
  · exact hf row
  · exact ⟨Later.refl _ _, rfl⟩

/-- Touching moves an idle deadline that has not passed, and never beyond the absolute one. -/
theorem touch_effect (settings : Settings) {read : UserSession} (activityType : String)
    (hread : ∀ row ∈ db.sessions, row.id = read.id →
      row.absoluteExpiresAt = read.absoluteExpiresAt) :
    Effect db (touchBrowserSession settings db read activityType) := by
  unfold touchBrowserSession
  split
  · exact .refl db
  · refine .of_rows fun row hrow => ?_
    unfold touched
    split
    · rename_i hqualifies
      obtain ⟨hid, hrevoked, -, hidle, -⟩ := hqualifies
      refine ⟨⟨rfl, rfl, rfl, fun _ => ?_, fun hpast => ?_, fun h => absurd hrevoked h⟩, rfl⟩
      · rw [hread row hrow hid]
        exact min_le_right _ _
      · exact absurd hidle (not_lt.mpr hpast)
    · exact ⟨Later.refl _ _, rfl⟩

theorem user?_raiseVersion (userID : String) (increment : Nat) (id : String) :
    (db.raiseVersion userID increment).user? id = (db.user? id).map fun user =>
      if user.id = userID then { user with sessionVersion := user.sessionVersion + increment }
      else user := by
  refine Table.lookup_map (fun user => ?_) id db.users
  split <;> rfl

theorem user?_id {id : String} {user : User} (h : db.user? id = some user) : user.id = id :=
  Table.key_of_lookup h

theorem raiseVersion_users (userID : String) (increment : Nat) (id : String) (user : User)
    (huser : user ∈ db.user? id) : ∃ user' ∈ (db.raiseVersion userID increment).user? id,
      user.sessionVersion ≤ user'.sessionVersion := by
  rw [user?_raiseVersion, show db.user? id = some user from huser]
  refine ⟨_, rfl, ?_⟩
  dsimp only
  split
  · exact Nat.le_add_right _ _
  · exact le_rfl

theorem raiseVersion_effect (userID : String) (increment : Nat) :
    Effect db (db.raiseVersion userID increment) :=
  .of_map (f := id) rfl (raiseVersion_users userID increment) rfl (List.map_id _).symm
    fun _ _ => ⟨Later.refl _ _, .of_version (raiseVersion_users userID increment) rfl⟩

theorem addSession_effect {db' : Db} {row : UserSession}
    (hbounded : row.idleExpiresAt ≤ row.absoluteExpiresAt)
    (howner : ∃ user, db.user? row.userID = some user ∧ row.sessionVersion ≤ user.sessionVersion)
    (h : db.addSession row = .ok db') : Effect db db' := by
  unfold Db.addSession at h
  split at h
  · cases h
  · rename_i hfree
    cases h
    refine ⟨rfl, users_same, rfl, fun hids => ?_, fun old hold => ?_, fun new hnew => ?_⟩
    · rw [List.map_append, List.nodup_append]
      refine ⟨hids, by simp, ?_⟩
      intro id hid id' hid' heq
      obtain ⟨old, hold, rfl⟩ := List.mem_map.mp hid
      simp only [List.map_cons, List.map_nil, List.mem_singleton] at hid'
      rw [Bool.not_eq_true, Option.isSome_eq_false_iff, Option.isNone_iff_eq_none] at hfree
      exact Table.lookup_eq_none.mp hfree old hold (heq.trans hid')
    · exact ⟨old, List.mem_append_left _ hold, Later.refl _ _, .of_version users_same rfl⟩
    · rcases List.mem_append.mp hnew with hold | hadded
      · exact .inr ⟨new, hold, Later.refl _ _, .of_version users_same rfl⟩
      · rw [List.mem_singleton] at hadded
        subst hadded
        exact .inl ⟨hbounded, howner⟩

end Writes

/-! ### Transactions -/

/-- Requests are served under a session that is not revoked and has its user's version. -/
theorem getCurrentUser_ok {db : Db} {credential : Credential} {user : User} {row : UserSession}
    (h : getCurrentUser db credential = .ok (user, row)) :
    row ∈ db.sessions ∧ db.user? row.userID = some user ∧
      row.sessionVersion = user.sessionVersion := by
  cases credential with
  | bearer userID sessionID sessionVersion =>
    obtain ⟨found, hfound, h⟩ := orRaise_bind_eq_ok.mp h
    obtain ⟨-, h⟩ := raiseIf_bind_eq_ok.mp h
    obtain ⟨-, h⟩ := raiseIf_bind_eq_ok.mp h
    obtain ⟨session, hsession, h⟩ := orRaise_bind_eq_ok.mp h
    obtain ⟨-, h⟩ := raiseIf_bind_eq_ok.mp h
    obtain ⟨hversion, h⟩ := raiseIf_bind_eq_ok.mp h
    obtain ⟨-, h⟩ := raiseIf_bind_eq_ok.mp h
    cases h
    obtain ⟨hsession, howner⟩ := Option.filter_eq_some_iff.mp hsession
    rw [decide_eq_true_eq] at howner
    have hid : user.id = userID := Table.key_of_lookup hfound
    refine ⟨Table.mem_of_lookup hsession, ?_, not_not.mp hversion⟩
    rw [howner.1, hid]
    exact hfound
  | cookie sessionID =>
    obtain ⟨session, hsession, h⟩ := orRaise_bind_eq_ok.mp h
    obtain ⟨found, hfound, h⟩ := orRaise_bind_eq_ok.mp h
    obtain ⟨-, h⟩ := raiseIf_bind_eq_ok.mp h
    cases herror : browserSessionError session found db.clock with
    | some e =>
      rw [herror] at h
      cases h
    | none =>
      rw [herror] at h
      cases h
      obtain ⟨hsession, -⟩ := Option.filter_eq_some_iff.mp hsession
      obtain ⟨-, hversion, -⟩ := browserSessionError_eq_none.mp herror
      exact ⟨Table.mem_of_lookup hsession, hfound, hversion⟩

/-- The tables keep what the deadlines and versions rest on. -/
structure Valid (db : Db) : Prop where
  ids : (db.sessions.map (·.id)).Nodup
  bounded : ∀ row ∈ db.sessions, row.idleExpiresAt ≤ row.absoluteExpiresAt
  owner : ∀ row ∈ db.sessions, ∃ user, db.user? row.userID = some user ∧
    row.sessionVersion ≤ user.sessionVersion
  reads : ∀ read ∈ db.reads, ∃ row ∈ db.sessions, row.id = read.id ∧
    row.absoluteExpiresAt = read.absoluteExpiresAt

theorem Valid.initial (clock : Time) (users : List User) : Valid (Db.initial clock users) where
  ids := List.nodup_nil
  bounded := fun _ hrow => absurd hrow List.not_mem_nil
  owner := fun _ hrow => absurd hrow List.not_mem_nil
  reads := fun _ hread => absurd hread List.not_mem_nil

theorem Valid.of_effect {db db' : Db} (hdb : Valid db) (h : Effect db db') : Valid db' where
  ids := h.ids hdb.ids
  bounded := by
    intro row' hrow'
    rcases h.rows row' hrow' with hnew | ⟨row, hrow, hlater, -⟩
    · exact hnew.bounded
    · exact hlater.bounded (hdb.bounded row hrow)
  owner := by
    intro row' hrow'
    rcases h.rows row' hrow' with hnew | ⟨row, hrow, hlater, hkept⟩
    · exact hnew.owner
    · obtain ⟨user, huser, hle⟩ := hdb.owner row hrow
      obtain ⟨user', huser', -⟩ := h.users row.userID user huser
      refine ⟨user', ?_, (hkept user huser user' huser' hle).1⟩
      rw [hlater.userID]
      exact huser'
  reads := by
    intro read hread
    rw [h.reads] at hread
    obtain ⟨row, hrow, hid, habsolute⟩ := hdb.reads read hread
    obtain ⟨row', hrow', hlater, -⟩ := h.kept row hrow
    exact ⟨row', hrow', hlater.id.trans hid, hlater.absolute.trans habsolute⟩

/-- A password change raises the version of the user and, of the sessions that are not revoked,
takes only the current one along, which had the version before. -/
theorem retain_effect {db : Db} (hdb : Valid db) {user : User} {current : UserSession}
    (hcurrent : current ∈ db.sessions) (huser : db.user? current.userID = some user)
    (hversion : current.sessionVersion = user.sessionVersion) (reason : String) :
    Effect db ((revokeSessions (db.raiseVersion user.id 1) user.id (some user.id) reason
      (some current.id)).updateSession current.id fun row =>
        { row with sessionVersion := user.sessionVersion + 1 }) := by
  refine .of_map rfl (raiseVersion_users user.id 1) rfl List.map_map fun row hrow => ?_
  by_cases hid : row.id = current.id
  · obtain rfl : row = current := Table.eq_of_mem hdb.ids hrow hcurrent hid
    simp only [Function.comp_apply]
    rw [if_neg (show ¬(row.userID = user.id ∧ row.revokedAt = none ∧ some row.id ≠ some row.id)
      from fun h => h.2.2 rfl), if_pos rfl]
    refine ⟨⟨rfl, rfl, rfl, fun h => h, fun h => h, fun h => h⟩, ?_⟩
    intro user₁ huser₁ user₂ huser₂ hle
    obtain rfl : user₁ = user := Option.some_inj.mp (huser₁.symm.trans huser)
    have hraised : (db.raiseVersion user₁.id 1).user? row.userID =
        some { user₁ with sessionVersion := user₁.sessionVersion + 1 } := by
      rw [user?_raiseVersion, huser]
      simp
    obtain rfl := Option.some_inj.mp (huser₂.symm.trans hraised)
    exact ⟨le_rfl, fun hne => absurd hversion hne⟩
  · simp only [Function.comp_apply]
    by_cases hrevoke : row.userID = user.id ∧ row.revokedAt = none ∧ some current.id ≠ some row.id
    · rw [if_pos hrevoke, if_neg (show ¬(row.revoke _ _ _).id = current.id from hid)]
      exact ⟨Later.revoke _ _ _ _, .of_version (raiseVersion_users user.id 1) rfl⟩
    · rw [if_neg hrevoke, if_neg hid]
      exact ⟨Later.refl _ _, .of_version (raiseVersion_users user.id 1) rfl⟩

theorem rotate_effect {settings : Settings} {db db' : Db} {row : UserSession} {user : User}
    {newID reason : String} (huser : ∃ found, db.user? user.id = some found ∧
      user.sessionVersion ≤ found.sessionVersion)
    (h : rotateBrowserSession settings db row user newID reason = .ok db') : Effect db db' := by
  have hrevoked := updateSession_effect row.id
    fun row => ⟨Later.revoke row db.clock (some user.id) reason, rfl⟩
  refine hrevoked.trans (addSession_effect ?_ ?_ h)
  · exact min_le_right _ _
  · exact huser

theorem changePassword_effect {settings : Settings} {db db' : Db} (hdb : Valid db)
    {credential : Credential} {payload : PasswordChange}
    (h : changePassword settings db credential payload = .ok db') : Effect db db' := by
  obtain ⟨⟨user, current⟩, hauth, h⟩ := bind_eq_ok.mp h
  obtain ⟨-, -, h⟩ := bind_eq_ok.mp h
  obtain ⟨-, h⟩ := raiseIf_bind_eq_ok.mp h
  obtain ⟨-, h⟩ := raiseIf_bind_eq_ok.mp h
  obtain ⟨hcurrent, huser, hversion⟩ := getCurrentUser_ok hauth
  have hretained := retain_effect hdb hcurrent huser hversion "password_changed"
  dsimp only at h
  split at h
  · refine hretained.trans (rotate_effect ⟨_, ?_, le_rfl⟩ h)
    show (db.raiseVersion user.id 1).user? user.id = _
    rw [user?_raiseVersion, user?_id huser, huser, Option.map_some, if_pos (user?_id huser),
      ← user?_id huser]
  · cases h
    exact hretained

theorem signIn_effect {settings : Settings} {db db' : Db} {userID id : String} {rememberMe : Bool}
    {createdVia : String} {deviceName : Option String}
    (h : signIn settings db userID id rememberMe createdVia deviceName = .ok db') :
    Effect db db' := by
  obtain ⟨user, huser, h⟩ := orRaise_bind_eq_ok.mp h
  refine addSession_effect (min_le_right _ _) ⟨user, ?_, le_rfl⟩ h
  rw [← user?_id huser] at huser
  exact huser

theorem apiSignIn_effect {settings : Settings} {db db' : Db} {userID id : String}
    (h : apiSignIn settings db userID id = .ok db') : Effect db db' := by
  obtain ⟨user, huser, h⟩ := orRaise_bind_eq_ok.mp h
  refine addSession_effect le_rfl ⟨user, ?_, le_rfl⟩ h
  rw [← user?_id huser] at huser
  exact huser

theorem logout_effect {db db' : Db} {credential : Credential} (h : logout db credential = .ok db') :
    Effect db db' := by
  obtain ⟨⟨user, row⟩, -, h⟩ := bind_eq_ok.mp h
  cases h
  exact updateSession_effect row.id fun row => ⟨Later.revoke row _ _ _, rfl⟩

theorem createStepUpWindow_effect {settings : Settings} {db db' : Db} {credential : Credential}
    (h : createStepUpWindow settings db credential = .ok db') : Effect db db' := by
  obtain ⟨⟨user, row⟩, -, h⟩ := bind_eq_ok.mp h
  obtain ⟨-, h⟩ := raiseIf_bind_eq_ok.mp h
  cases h
  exact updateSession_effect row.id fun row =>
    ⟨⟨rfl, rfl, rfl, fun h => h, fun h => h, fun h => h⟩, rfl⟩

theorem rotation_effect {settings : Settings} {db db' : Db} {sessionID newID reason : String}
    (h : transaction settings db (.rotate sessionID newID reason) = .ok db') : Effect db db' := by
  obtain ⟨row, -, h⟩ := orRaise_bind_eq_ok.mp h
  obtain ⟨user, huser, h⟩ := orRaise_bind_eq_ok.mp h
  refine rotate_effect ⟨user, ?_, le_rfl⟩ h
  rw [user?_id huser]
  exact huser

/-- A transaction has an effect on the tables, or it only reads a session. -/
theorem transaction_cases {settings : Settings} {db db' : Db} (hdb : Valid db)
    {operation : Operation} (h : transaction settings db operation = .ok db') :
    Effect db db' ∨ ∃ sessionID, db' = { db with reads := db.reads ++
      (db.session? sessionID).toList } := by
  cases operation with
  | signIn => exact .inl (signIn_effect h)
  | apiSignIn => exact .inl (apiSignIn_effect h)
  | read sessionID =>
    cases h
    exact .inr ⟨sessionID, rfl⟩
  | touch read activityType =>
    replace h : (if read ∈ db.reads then
        (.ok (touchBrowserSession settings db read activityType) : Except HTTPException Db)
      else .ok db) = .ok db' := h
    split at h
    · rename_i hread
      cases h
      obtain ⟨row, hrow, hid, habsolute⟩ := hdb.reads read hread
      refine .inl (touch_effect settings activityType fun other hother hid' => ?_)
      obtain rfl : other = row := Table.eq_of_mem hdb.ids hother hrow (hid'.trans hid.symm)
      exact habsolute
    · cases h
      exact .inl (.refl _)
  | rotate => exact .inl (rotation_effect h)
  | revokeSessions userID actorID reason exceptSessionID =>
    cases h
    exact .inl (revokeSessions_effect userID actorID reason exceptSessionID)
  | raiseVersion userID increment =>
    cases h
    exact .inl (raiseVersion_effect userID increment)
  | logout => exact .inl (logout_effect h)
  | stepUp => exact .inl (createStepUpWindow_effect h)
  | changePassword => exact .inl (changePassword_effect hdb h)

/-! ### Runs -/

/-- What becomes of the sessions of a database. -/
structure Outlived (db db' : Db) : Prop where
  clock : db.clock ≤ db'.clock
  users : ∀ userID, ∀ user ∈ db.user? userID, ∃ user', db'.user? userID = some user'
  sessions : ∀ row ∈ db.sessions, ∃ row' ∈ db'.sessions, row'.id = row.id ∧
    row'.userID = row.userID ∧ row'.absoluteExpiresAt = row.absoluteExpiresAt ∧
    ∀ user ∈ db.user? row.userID, ∀ user' ∈ db'.user? row.userID,
      browserSessionError row user db.clock ≠ none →
        browserSessionError row' user' db'.clock ≠ none

theorem Outlived.trans {db db' db'' : Db} (h : Outlived db db') (h' : Outlived db' db'') :
    Outlived db db'' where
  clock := h.clock.trans h'.clock
  users := by
    intro userID user huser
    obtain ⟨user', huser'⟩ := h.users userID user huser
    exact h'.users userID user' huser'
  sessions := by
    intro row hrow
    obtain ⟨row', hrow', hid, howner, habsolute, hdead⟩ := h.sessions row hrow
    obtain ⟨row'', hrow'', hid', howner', habsolute', hdead'⟩ := h'.sessions row' hrow'
    refine ⟨row'', hrow'', hid'.trans hid, howner'.trans howner, habsolute'.trans habsolute, ?_⟩
    intro user huser user'' huser'' herror
    obtain ⟨user', huser'⟩ := h.users row.userID user huser
    rw [howner] at hdead'
    exact hdead' user' huser' user'' huser'' (hdead user huser user' huser' herror)

/-- Time passes and sessions are read. -/
theorem Outlived.of_later {db : Db} {clock : Time} (hclock : db.clock ≤ clock)
    (reads : List UserSession) : Outlived db ⟨clock, db.users, db.sessions, reads⟩ where
  clock := hclock
  users := fun _ user huser => ⟨user, huser⟩
  sessions := by
    intro row hrow
    refine ⟨row, hrow, rfl, rfl, rfl, fun user huser user' huser' h => ?_⟩
    obtain rfl : user = user' := Option.some_inj.mp (huser.symm.trans huser')
    exact browserSessionError_mono hclock h

theorem Outlived.refl (db : Db) : Outlived db db := .of_later le_rfl db.reads

theorem Outlived.arrive (db : Db) (input : Input) : Outlived db (db.arrive input) :=
  .of_later (le_add_of_nonneg_right (Int.natCast_nonneg _)) db.reads

/-- No transaction revives a session. -/
theorem Effect.outlived {db db' : Db} (hdb : Valid db) (h : Effect db db') : Outlived db db' where
  clock := h.clock.ge
  users := by
    intro userID user huser
    obtain ⟨user', huser', -⟩ := h.users userID user huser
    exact ⟨user', huser'⟩
  sessions := by
    intro row hrow
    obtain ⟨row', hrow', hlater, hkept⟩ := h.kept row hrow
    refine ⟨row', hrow', hlater.id, hlater.userID, hlater.absolute, ?_⟩
    intro user huser user' huser' herror
    obtain ⟨found, hfound, hle⟩ := hdb.owner row hrow
    obtain rfl : found = user := Option.some_inj.mp (hfound.symm.trans huser)
    obtain ⟨-, hbehind⟩ := hkept found huser user' huser' hle
    rw [Ne, browserSessionError_eq_none, h.clock]
    rintro ⟨hrevoked, hversion, habsolute, hidle⟩
    refine herror (browserSessionError_eq_none.mpr ⟨?_, ?_, ?_, ?_⟩)
    · by_contra hne
      exact hlater.revoked hne hrevoked
    · by_contra hne
      exact hbehind hne hversion
    · rw [← hlater.absolute]
      exact habsolute
    · by_contra hpast
      exact absurd hidle (not_lt.mpr (hlater.idle (not_lt.mp hpast)))

theorem Valid.arrive {db : Db} (h : Valid db) (input : Input) : Valid (db.arrive input) :=
  ⟨h.ids, h.bounded, h.owner, h.reads⟩

/-- A transaction has only read a row. -/
theorem Valid.read {db : Db} (h : Valid db) (sessionID : String) :
    Valid { db with reads := db.reads ++ (db.session? sessionID).toList } where
  ids := h.ids
  bounded := h.bounded
  owner := h.owner
  reads := by
    intro read hread
    rcases List.mem_append.mp hread with hold | hnew
    · exact h.reads read hold
    · exact ⟨read, Table.mem_of_lookup (Option.mem_toList.mp hnew), rfl, rfl⟩

theorem step_outlived {db : Db} (hdb : Valid db) (input : Input) :
    Valid (step db input) ∧ Outlived db (step db input) := by
  have harrived := hdb.arrive input
  have houtlived := Outlived.arrive db input
  unfold step
  generalize db.arrive input = arrived at harrived houtlived ⊢
  cases htransaction : transaction input.settings arrived input.operation with
  | error e => exact ⟨harrived, houtlived⟩
  | ok db' =>
    dsimp only
    rcases transaction_cases harrived htransaction with heffect | ⟨sessionID, rfl⟩
    · exact ⟨harrived.of_effect heffect, houtlived.trans (heffect.outlived harrived)⟩
    · exact ⟨harrived.read sessionID, houtlived.trans (.of_later le_rfl _)⟩

theorem run_outlived {db : Db} (hdb : Valid db) (inputs : List Input) :
    Valid (run step db inputs) ∧ Outlived db (run step db inputs) := by
  induction inputs generalizing db with
  | nil => exact ⟨hdb, .refl db⟩
  | cons input inputs ih =>
    obtain ⟨hvalid, houtlived⟩ := step_outlived hdb input
    obtain ⟨hvalid', houtlived'⟩ := ih hvalid
    exact ⟨hvalid', houtlived.trans houtlived'⟩

/-- In every run the idle deadlines stay within the absolute ones, no session loses its absolute
deadline, and a session with an error has one at every later time. -/
theorem sessions_stay_ended (clock : Time) (users : List User) (history later : List Input) :
    let db := run step (Db.initial clock users) history
    let db' := run step (Db.initial clock users) (history ++ later)
    (∀ row ∈ db.sessions, row.idleExpiresAt ≤ row.absoluteExpiresAt) ∧
      ∀ row ∈ db.sessions, ∃ row', db'.session? row.id = some row' ∧
        row'.absoluteExpiresAt = row.absoluteExpiresAt ∧
        ∃ user user', db.user? row.userID = some user ∧ db'.user? row.userID = some user' ∧
          (browserSessionError row user db.clock ≠ none →
            ∀ time, db'.clock ≤ time → browserSessionError row' user' time ≠ none) := by
  intro db db'
  have hinitial : Valid (Db.initial clock users) := .initial clock users
  have hdb : Valid db := (run_outlived hinitial history).1
  have hrun : db' = run step db later := run_append step _ history later
  obtain ⟨hdb', houtlived⟩ := run_outlived hdb later
  rw [← hrun] at hdb' houtlived
  refine ⟨hdb.bounded, fun row hrow => ?_⟩
  obtain ⟨row', hrow', hid, -, habsolute, hdead⟩ := houtlived.sessions row hrow
  obtain ⟨user, huser, -⟩ := hdb.owner row hrow
  obtain ⟨user', huser'⟩ := houtlived.users row.userID user huser
  refine ⟨row', ?_, habsolute, user, user', huser, huser', fun herror time htime => ?_⟩
  · rw [← hid]
    exact Table.lookup_of_mem hdb'.ids hrow'
  · exact browserSessionError_mono htime (hdead user huser user' huser' herror)

end VpsGuardian.Access.Sessions
