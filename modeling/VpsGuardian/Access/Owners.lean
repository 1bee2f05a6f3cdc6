import VpsGuardian.Lib.ReadCommitted

/-!
Owners that create, change and delete users at the same time (`create_user`, `update_user` and
`delete_user` in `guardian/api.py`).

Every request is a session of the database. That a second user with the same email address is
not inserted, and that a deletion may be refused because of other rows, are cases of a session
that is aborted.
-/

namespace VpsGuardian.Access.Owners

open Lib Lib.ReadCommitted

inductive Role where
  | viewer
  | auditor
  | operator
  | admin
  | owner
  deriving DecidableEq, Repr

/-- A row of `users`, found under its id. -/
structure User where
  email : String
  role : Role
  isActive : Bool
  scopes : List String
  sessionVersion : Nat
  disabledBy : Option String
  deriving DecidableEq, Repr

def User.isActiveOwner (user : User) : Bool := user.role = .owner && user.isActive

/-- There is a row, and it is that of an active Owner. -/
def IsOwner (row : Option User) : Prop := ∃ user, row = some user ∧ user.isActiveOwner = true

instance : ∀ row, Decidable (IsOwner row)
  | none => isFalse fun ⟨_, h, _⟩ => nomatch h
  | some user => decidable_of_iff (user.isActiveOwner = true) (by simp [IsOwner])

/-- What is found out about the caller besides the row. -/
structure Actor where
  id : String
  browser : Bool
  stepUp : Bool
  passwordValid : Bool
  deriving DecidableEq, Repr

structure UserUpdate where
  role : Option Role
  isActive : Option Bool
  scopes : Option (List String)
  deriving DecidableEq, Repr

inductive Operation where
  | createUser (id email : String) (role : Role) (scopes : List String)
  | updateUser (target : String) (payload : UserUpdate)
  | deleteUser (target : String)
  deriving DecidableEq, Repr

structure Request where
  actor : Actor
  operation : Operation
  deriving DecidableEq, Repr

/-! ### The handlers -/

inductive Stage where
  | waiting
  /-- The caller's row was read. -/
  | authenticated (actor : User)
  | inserting
  /-- The target was read, and the Owners are to be locked. -/
  | locking (target : User)
  /-- With the Owners that were locked. -/
  | writing (target : User) (owners : List (String × User))
  | committing
  | rollingBack
  | answered
  deriving DecidableEq, Repr

/-- `removing_owner` of `update_user`. -/
def UserUpdate.removesOwner (payload : UserUpdate) (target : User) : Bool :=
  target.role = .owner &&
    ((payload.role ≠ none && payload.role ≠ some .owner) || payload.isActive = some false)

/-- Whether the Owners are locked, for a target as it was read. -/
def Operation.locksOwners (operation : Operation) (target : User) : Bool :=
  match operation with
  | .createUser .. => false
  | .updateUser _ payload => payload.removesOwner target
  | .deleteUser _ => target.isActiveOwner

def UserUpdate.changesRole (payload : UserUpdate) (target : User) : Bool :=
  payload.role.any fun role => role ≠ target.role

def UserUpdate.changesScopes (payload : UserUpdate) (target : User) : Bool :=
  payload.scopes.any fun scopes => scopes ≠ target.scopes

def UserUpdate.changesActivity (payload : UserUpdate) (target : User) : Bool :=
  payload.isActive.any fun isActive => isActive ≠ target.isActive

def UserUpdate.changesAny (payload : UserUpdate) (target : User) : Bool :=
  payload.changesRole target || payload.changesScopes target || payload.changesActivity target

/-- The columns that differ from the target as it was read are written. -/
def UserUpdate.apply (payload : UserUpdate) (actorID : String) (target row : User) : User :=
  { row with
    role := if payload.changesRole target then payload.role.getD row.role else row.role
    scopes := if payload.changesScopes target then payload.scopes.getD row.scopes else row.scopes
    isActive :=
      if payload.changesActivity target then payload.isActive.getD row.isActive else row.isActive
    disabledBy :=
      if payload.changesActivity target then
        if payload.isActive = some true then none else some actorID
      else row.disabledBy
    sessionVersion := target.sessionVersion + 1 }

def Operation.target : Operation → String
  | .createUser id _ _ _ => id
  | .updateUser target _ => target
  | .deleteUser target => target

/-- What a request makes of the row of its target. -/
def Request.change (request : Request) (target row : User) : Option User :=
  match request.operation with
  | .updateUser _ payload => some (payload.apply request.actor.id target row)
  | _ => none

/-- The checks between reading the target and locking the Owners. -/
def Request.admit (request : Request) : Option User → Stage
  | none => .rollingBack
  | some target =>
      match request.operation with
      | .updateUser _ _ =>
          -- the rejection is written to the audit log
          if request.actor.passwordValid = false then .committing
          else if request.operation.locksOwners target then .locking target
          else .writing target []
      | _ =>
          if request.actor.browser then
            if request.actor.stepUp = false then .rollingBack
            else if request.operation.locksOwners target then .locking target
            else .writing target []
          else if request.actor.passwordValid = false then .committing
          else if request.operation.locksOwners target then .locking target
          else .writing target []

/-- The check on the Owners that were locked. -/
def Request.afterLock (request : Request) (target : User) (owners : List (String × User)) : Stage :=
  let others : Bool := owners.any fun owner => owner.1 ≠ request.operation.target
  match request.operation with
  | .deleteUser _ => if owners ≠ [] ∧ others = false then .committing else .writing target owners
  | _ => if others = false then .committing else .writing target owners

/-- `delete_user` asks for the step-up after it has read its target. -/
def Operation.stepsUpFirst : Operation → Bool
  | .deleteUser _ => false
  | _ => true

/-- Whether the caller may go on; a step-up is asked for only in a browser session. -/
def Request.authorize (request : Request) : List (String × User) → Stage
  | [] => .rollingBack
  | (_, actor) :: _ =>
      if actor.isActiveOwner = false then .rollingBack
      else if request.operation.stepsUpFirst ∧ request.actor.browser ∧
        request.actor.stepUp = false then .rollingBack
      else .authenticated actor

def Request.statement (request : Request) : Stage → Statement String User Stage
  | .waiting => .select (fun id _ => id == request.actor.id) request.authorize
  | .authenticated actor =>
      match request.operation with
      | .createUser _ email _ _ =>
          .select (fun _ row => row.email == email) fun found =>
            if found = [] then .inserting else .committing
      | operation =>
          .select (fun id _ => id == operation.target) fun found =>
            -- the caller's own row is not read a second time
            if operation.target = request.actor.id then request.admit (some actor)
            else request.admit (found.head?.map Prod.snd)
  | .inserting =>
      match request.operation with
      | .createUser id email role scopes =>
          .insert id ⟨email, role, true, scopes, 1, none⟩ fun free =>
            if free then .committing else .rollingBack
      | _ => .done
  | .locking target =>
      .alter (·.insertionSort (· ≤ ·)) (fun _ row => row.isActiveOwner) some
        (request.afterLock target)
  | .writing target _ =>
      let write := .alter id (fun id _ => id == request.operation.target) (request.change target)
        fun rows => if rows = [] then .rollingBack else .committing
      match request.operation with
      | .updateUser _ payload =>
          -- nothing is written where nothing changes
          if payload.changesAny target then write else .commit .answered
      | _ => write
  | .committing => .commit .answered
  | .rollingBack => .rollback .answered
  | .answered => .done

section

variable {ι : Type} (requests : ι → Request)

def code : Code ι String User Stage := ⟨fun i => (requests i).statement, .answered⟩

/-- Some user is an active Owner. -/
def HasActiveOwner (rows : String → Option User) : Prop := ∃ id, IsOwner (rows id)

/-- The session is about to write the row of an active Owner, who will be none any more, and it
has locked no Owner: as it read its target it saw no reason to, or it found none. -/
def Overtakes (s : System ι String User Stage) (i : ι) : Prop :=
  match (s.sessions i).stage with
  | .writing target [] =>
      IsOwner (s.view i (requests i).operation.target) ∧
        ¬IsOwner ((s.view i (requests i).operation.target).bind ((requests i).change target))
  | _ => False

instance (s : System ι String User Stage) (i : ι) : Decidable (Overtakes requests s i) := by
  unfold Overtakes
  split
  · exact inferInstanceAs (Decidable (_ ∧ _))
  · exact isFalse id

def NeverOvertakes (s : System ι String User Stage) : Input ι → Prop
  | .step i => ¬Overtakes requests s i
  | .abort _ => True

instance (s : System ι String User Stage) :
    ∀ input, Decidable (NeverOvertakes requests s input)
  | .step i => inferInstanceAs (Decidable (¬Overtakes requests s i))
  | .abort _ => isTrue trivial

/-! ### The outline -/

/-- No active Owner's row is written so that he is none, or some written row is that of an active
Owner. -/
def Secured (written : String → Option (Option User)) (rows : String → Option User) : Prop :=
  (∀ id row, written id = some row → IsOwner (rows id) → IsOwner row) ∨
    ∃ id row, written id = some row ∧ IsOwner row

/-- The rows that the statement has locked so far are those of active Owners. -/
def HoldsOwners (x : Session String User Stage) : Prop :=
  ∀ target p, x.stage = .locking target → x.progress = some p → ∀ owner ∈ p.taken,
    x.written owner.1 = some (some owner.2) ∧ owner.2.isActiveOwner = true

/-- A request that locked Owners has locked another one than its target. -/
def HoldsAnother (request : Request) (x : Session String User Stage) : Prop :=
  ∀ target owners, x.stage = .writing target owners → owners ≠ [] →
    ∃ id row, id ≠ request.operation.target ∧ x.written id = some row ∧ IsOwner row

structure Careful (request : Request) (x : Session String User Stage)
    (rows : String → Option User) : Prop where
  secured : Secured x.written rows
  holdsOwners : HoldsOwners x
  holdsAnother : HoldsAnother request x

def outline : Outline ι String User Stage where
  committed := HasActiveOwner
  session i := Careful (requests i)
  pair _ _ _ _ := True

end

section Secured

variable {written : String → Option (Option User)} {rows rows' : String → Option User}

theorem Secured.frame (h : Secured written rows)
    (hrows : ∀ id, (written id).isSome → rows' id = rows id) : Secured written rows' := by
  refine h.imp_left fun h id row hrow howner => h id row hrow ?_
  rw [← hrows id (by rw [hrow]; rfl)]
  exact howner

/-- What a secured session commits has an active Owner. -/
theorem Secured.commit (h : Secured written rows) (hrows : HasActiveOwner rows) :
    HasActiveOwner fun id => (written id).getD (rows id) := by
  rcases h with h | ⟨id, row, hrow, howner⟩
  · obtain ⟨id, howner⟩ := hrows
    refine ⟨id, ?_⟩
    dsimp only
    cases hwritten : written id with
    | none => exact howner
    | some row => exact h id row hwritten howner
  · refine ⟨id, ?_⟩
    dsimp only
    rw [hrow]
    exact howner

/-- A write that leaves an active Owner one. -/
theorem Secured.write (h : Secured written rows) {id : String} {row : Option User}
    (hrow : IsOwner ((written id).getD (rows id)) → IsOwner row) :
    Secured (Function.update written id (some row)) rows := by
  rcases h with h | ⟨other, row', hother, howner⟩
  · refine .inl fun other row' hrow' howner => ?_
    by_cases heq : other = id
    · subst heq
      rw [Function.update_self, Option.some_inj] at hrow'
      subst hrow'
      refine hrow ?_
      cases hwritten : written other with
      | none => exact howner
      | some row' => exact h other row' hwritten howner
    · rw [Function.update_of_ne heq] at hrow'
      exact h other row' hrow' howner
  · right
    by_cases heq : other = id
    · subst heq
      refine ⟨other, row, Function.update_self _ _ _, hrow ?_⟩
      rw [hother]
      exact howner
    · exact ⟨other, row', (Function.update_of_ne heq _ _).trans hother, howner⟩

/-- With an active Owner among the written rows, every other row may be written. -/
theorem secured_of_other {id other : String} (hne : other ≠ id) {row row' : Option User}
    (hother : written other = some row') (howner : IsOwner row') :
    Secured (Function.update written id (some row)) rows :=
  .inr ⟨other, row', (Function.update_of_ne hne _ _).trans hother, howner⟩

end Secured

/-! ### The statements of a request -/

section Request

variable (request : Request)

/-- Only a request that has locked Owners writes with Owners. -/
def NoOwners (stage : Stage) : Prop := ∀ target owners, stage = .writing target owners → owners = []

theorem noOwners_admit (target : Option User) : NoOwners ( request.admit target) := by
  intro target' owners h
  unfold Request.admit at h
  cases target with
  | none => cases h
  | some target =>
    dsimp only at h
    split at h
    · split_ifs at h
      cases h
      rfl
    · split_ifs at h <;> cases h <;> rfl

theorem noOwners_authorize (found : List (String × User)) : NoOwners (request.authorize found) := by
  intro target owners h
  unfold Request.authorize at h
  split at h
  · cases h
  · split_ifs at h

theorem noOwners_select {stage : Stage} {condition : String → User → Bool}
    {next : List (String × User) → Stage} (h : request.statement stage = .select condition next)
    (found : List (String × User)) : NoOwners (next found) := by
  cases stage with
  | waiting =>
    cases h
    exact noOwners_authorize request found
  | authenticated actor =>
    unfold Request.statement at h
    dsimp only at h
    split at h
    · cases h
      intro target owners hstage
      dsimp only at hstage
      split_ifs at hstage
    · cases h
      dsimp only
      split
      · exact noOwners_admit request _
      · exact noOwners_admit request _
  | inserting =>
    unfold Request.statement at h
    dsimp only at h
    split at h <;> cases h
  | locking target => cases h
  | writing target owners =>
    unfold Request.statement at h
    dsimp only at h
    split at h
    · split at h <;> cases h
    · cases h
  | committing => cases h
  | rollingBack => cases h
  | answered => cases h

/-- A statement that alters rows locks the Owners or writes the target. -/
theorem statement_alter {stage : Stage} {order : List String → List String}
    {condition : String → User → Bool} {change : User → Option User}
    {next : List (String × User) → Stage}
    (h : request.statement stage = .alter order condition change next) :
    (∃ target, stage = .locking target ∧ condition = (fun _ row => row.isActiveOwner) ∧
      change = some ∧ next = request.afterLock target) ∨
    ∃ target owners, stage = .writing target owners ∧
      condition = (fun id _ => id == request.operation.target) ∧
        change = request.change target ∧ ∀ found, NoOwners (next found) := by
  cases stage with
  | waiting => cases h
  | authenticated actor =>
    unfold Request.statement at h
    dsimp only at h
    split at h <;> cases h
  | inserting =>
    unfold Request.statement at h
    dsimp only at h
    split at h <;> cases h
  | locking target =>
    cases h
    exact .inl ⟨target, rfl, rfl, rfl, rfl⟩
  | writing target owners =>
    have hend (found : List (String × User)) :
        NoOwners (if found = [] then .rollingBack else .committing) := by
      intro target owners hstage
      split_ifs at hstage
    unfold Request.statement at h
    dsimp only at h
    split at h
    · split at h
      · cases h
        exact .inr ⟨target, owners, rfl, rfl, rfl, hend⟩
      · cases h
    · cases h
      exact .inr ⟨target, owners, rfl, rfl, rfl, hend⟩
  | committing => cases h
  | rollingBack => cases h
  | answered => cases h

/-- A request that locked Owners and goes on has locked another one than its target. -/
theorem afterLock_writing {target target' : User} {owners owners' : List (String × User)}
    (h : request.afterLock target owners = .writing target' owners') :
    owners' = owners ∧ (owners ≠ [] → ∃ owner ∈ owners, owner.1 ≠ request.operation.target) := by
  have hothers (hany : (owners.any fun owner => owner.1 ≠ request.operation.target) = true) :
      ∃ owner ∈ owners, owner.1 ≠ request.operation.target := by
    simpa using hany
  unfold Request.afterLock at h
  dsimp only at h
  split at h
  · split_ifs at h with hcheck
    cases h
    refine ⟨rfl, fun hne => hothers ?_⟩
    rw [← Bool.not_eq_false]
    exact fun hfalse => hcheck ⟨hne, hfalse⟩
  · split_ifs at h with hcheck
    cases h
    exact ⟨rfl, fun _ => hothers (Bool.not_eq_false _ ▸ hcheck)⟩

theorem noOwners_insert {stage : Stage} {id : String} {row : User} {next : Bool → Stage}
    (h : request.statement stage = .insert id row next) (free : Bool) : NoOwners (next free) := by
  cases stage with
  | waiting => cases h
  | inserting =>
    unfold Request.statement at h
    dsimp only at h
    split at h
    · cases h
      intro target owners hstage
      dsimp only at hstage
      split_ifs at hstage
    · cases h
  | authenticated actor =>
    unfold Request.statement at h
    dsimp only at h
    split at h <;> cases h
  | locking target => cases h
  | writing target owners =>
    unfold Request.statement at h
    dsimp only at h
    split at h
    · split at h <;> cases h
    · cases h
  | committing => cases h
  | rollingBack => cases h
  | answered => cases h

theorem stage_end {stage stage' : Stage} (h : request.statement stage = .commit stage' ∨
    request.statement stage = .rollback stage') : stage' = .answered := by
  cases stage with
  | waiting => rcases h with h | h <;> cases h
  | authenticated actor =>
    unfold Request.statement at h
    dsimp only at h
    split at h <;> rcases h with h | h <;> cases h
  | inserting =>
    unfold Request.statement at h
    dsimp only at h
    split at h <;> rcases h with h | h <;> cases h
  | locking target => rcases h with h | h <;> cases h
  | writing target owners =>
    unfold Request.statement at h
    dsimp only at h
    split at h
    · split at h
      · rcases h with h | h <;> cases h
      · rcases h with h | h <;> cases h
        rfl
    · rcases h with h | h <;> cases h
  | committing =>
    rcases h with h | h <;> cases h
    rfl
  | rollingBack =>
    rcases h with h | h <;> cases h
    rfl
  | answered => rcases h with h | h <;> cases h

/-- Between statements, only what is written matters. -/
theorem Careful.between {x : Session String User Stage} {rows : String → Option User}
    (h : Secured x.written rows) (hprogress : x.progress = none) (hstage : NoOwners x.stage) :
    Careful request x rows where
  secured := h
  holdsOwners _ p _ hp := by rw [hprogress] at hp; cases hp
  holdsAnother target owners hwriting hne := absurd (hstage target owners hwriting) hne

end Request

variable {ι : Type} {requests : ι → Request}

/-- What the session holds once it has taken one more row. -/
theorem Careful.took {s : System ι String User Stage} {i : ι} {order : List String → List String}
    {condition : String → User → Bool} {change : User → Option User}
    {next : List (String × User) → Stage} {k : String} {remaining : List String}
    {taken : List (String × User)} {row : User}
    (h : Careful (requests i) (s.sessions i) s.rows)
    (hstatement : (requests i).statement (s.sessions i).stage =
      .alter order condition change next)
    (hprogress : (s.sessions i).progress = some ⟨k :: remaining, taken⟩)
    (hrow : s.view i k = some row) (hmatches : condition k row = true)
    (hovertakes : ¬Overtakes requests s i) :
    Careful (requests i)
      { s.sessions i with
        written := Function.update (s.sessions i).written k (some (change row))
        progress := some ⟨remaining, taken ++ [(k, row)]⟩ } s.rows := by
  rcases statement_alter _ hstatement with
    ⟨target, hstage, rfl, rfl, -⟩ | ⟨target, owners, hstage, rfl, rfl, -⟩
  · refine ⟨h.secured.write fun _ => ⟨row, rfl, hmatches⟩, ?_, ?_⟩
    · rintro target' p - hp owner howner
      cases hp
      rcases List.mem_append.mp howner with hold | hnew
      · obtain ⟨hwritten, hactive⟩ := h.holdsOwners target _ hstage hprogress owner hold
        refine ⟨?_, hactive⟩
        by_cases heq : owner.1 = k
        · subst heq
          -- the row was taken before, and is seen as it was then
          rw [System.view, hwritten, Option.getD_some] at hrow
          rw [hrow]
          exact Function.update_self _ _ _
        · exact (Function.update_of_ne heq _ _).trans hwritten
      · rw [List.mem_singleton] at hnew
        subst hnew
        exact ⟨Function.update_self _ _ _, hmatches⟩
    · intro target' owners hwriting
      cases hstage.symm.trans hwriting
  · obtain rfl : k = (requests i).operation.target := beq_iff_eq.mp hmatches
    have hanother := h.holdsAnother target owners hstage
    refine ⟨?_, ?_, ?_⟩
    · cases owners with
      | nil =>
        refine h.secured.write fun howner => ?_
        by_contra hlost
        refine hovertakes ?_
        unfold Overtakes
        rw [hstage]
        refine ⟨howner, ?_⟩
        rw [hrow]
        exact hlost
      | cons owner owners =>
        obtain ⟨other, row', hne, hother, howner⟩ := hanother (List.cons_ne_nil _ _)
        exact secured_of_other hne hother howner
    · intro target' p hlocking
      cases hstage.symm.trans hlocking
    · intro target' owners' hwriting hne
      cases hstage.symm.trans hwriting
      obtain ⟨other, row', hother, hwritten, howner⟩ := hanother hne
      exact ⟨other, row', hother, (Function.update_of_ne hother _ _).trans hwritten, howner⟩

/-- After the lock, or after the write. -/
theorem Careful.altered {x : Session String User Stage} {rows : String → Option User} {i : ι}
    {order : List String → List String} {condition : String → User → Bool}
    {change : User → Option User} {next : List (String × User) → Stage}
    {taken : List (String × User)} (h : Careful (requests i) x rows)
    (hstatement : (requests i).statement x.stage = .alter order condition change next)
    (hprogress : x.progress = some ⟨[], taken⟩) :
    Careful (requests i) (x.to (next taken)) rows := by
  rcases statement_alter _ hstatement with
    ⟨target, hstage, -, -, rfl⟩ | ⟨target, owners, hstage, -, -, hnext⟩
  · refine ⟨h.secured, ?_, ?_⟩
    · intro target' p _ hp
      cases hp
    · intro target' owners' hwriting hne
      obtain ⟨rfl, hothers⟩ := afterLock_writing _ hwriting
      obtain ⟨owner, howner, hother⟩ := hothers hne
      obtain ⟨hwritten, hactive⟩ := h.holdsOwners target _ hstage hprogress owner howner
      exact ⟨owner.1, some owner.2, hother, hwritten, owner.2, rfl, hactive⟩
  · exact .between _ h.secured rfl (hnext taken)

/-- A transaction that has written nothing. -/
theorem Careful.start (request : Request) (rows : String → Option User) {stage : Stage}
    (hstage : NoOwners stage) : Careful request (.start stage) rows :=
  .between _ (.inl fun _ _ hnone => by cases hnone) rfl hstage

theorem Careful.ended (request : Request) (rows : String → Option User) {stage stage' : Stage}
    (h : request.statement stage = .commit stage' ∨ request.statement stage = .rollback stage') :
    Careful request (.start stage') rows := by
  rw [stage_end _ h]
  exact .start _ _ (by rintro _ _ ⟨⟩)

variable [DecidableEq ι]

theorem outline_valid (requests : ι → Request) :
    (outline requests).Valid (code requests) (NeverOvertakes requests) where
  own s i s' h hC heffect := by
    refine ⟨?_, fun _ _ => trivial⟩
    have hi : Careful (requests i) (s.sessions i) s.rows := h.sessions i
    change Careful (requests i) (s'.sessions i) s'.rows
    cases heffect with
    | waited => exact hi
    | selected hstatement =>
      rw [System.set_self]
      exact .between _ hi.secured rfl (noOwners_select _ hstatement _)
    | found hstatement hprogress =>
      rw [System.set_self]
      refine ⟨hi.secured, fun target p _ hp owner howner => ?_, hi.holdsAnother⟩
      cases hp
      cases howner
    | passed hstatement hprogress _ =>
      rw [System.set_self]
      refine ⟨hi.secured, fun target p hstage hp => ?_, hi.holdsAnother⟩
      cases hp
      have hheld := hi.holdsOwners target _ hstage hprogress
      exact hheld
    | took hstatement hprogress hfree hrow hmatches =>
      rw [System.set_self, System.write_self]
      exact hi.took hstatement hprogress hrow hmatches hC
    | altered hstatement hprogress =>
      rw [System.set_self]
      exact hi.altered hstatement hprogress
    | refused hstatement =>
      rw [System.set_self]
      exact .between _ hi.secured rfl (noOwners_insert _ hstatement _)
    | inserted hstatement hfree hnew hkeys =>
      rw [System.set_self, System.write_self]
      refine .between _ (hi.secured.write fun howner => ?_) rfl (noOwners_insert _ hstatement _)
      change IsOwner (s.view i _) at howner
      rw [hnew] at howner
      obtain ⟨user, huser, -⟩ := howner
      cases huser
    | committed hstatement =>
      rw [System.finish_self]
      exact .ended _ _ (.inl hstatement)
    | rolledBack hstatement =>
      rw [System.finish_self]
      exact .ended _ _ (.inr hstatement)
  symm _ _ _ _ _ := trivial
  commit s i stage h _ _ := Secured.commit (h.sessions i).secured h.committed
  frame s i j stage h _ _ _ hrows :=
    have hj : Careful (requests j) (s.sessions j) s.rows := h.sessions j
    ⟨hj.secured.frame hrows, hj.holdsOwners, hj.holdsAnother⟩
  lost i rows _ := ⟨.start _ _ (by rintro _ _ ⟨⟩), fun _ _ => trivial⟩

/-- Unless a request overtakes a promotion, some active Owner remains in every committed state. -/
theorem owner_remains (requests : ι → Request) {keys : List String} {rows : String → Option User}
    (hkeys : ∀ id, rows id ≠ none → id ∈ keys) (hrows : HasActiveOwner rows)
    {inputs : List (Input ι)}
    (hnever : Meets (step (code requests)) (NeverOvertakes requests)
      (.initial keys rows fun _ => .waiting) inputs) :
    HasActiveOwner
      (run (step (code requests)) (.initial keys rows fun _ => .waiting) inputs).rows := by
  have hinitial : (outline requests).Holds (.initial keys rows fun _ => .waiting) :=
    ⟨wellLocked_initial _ _ _, listed_initial hkeys _, hrows,
      fun _ => .start _ _ (by rintro _ _ ⟨⟩), fun _ _ _ => trivial⟩
  exact ((outline_valid requests).run hinitial hnever).committed

/-! ### A promotion overtaken -/

def ownerCalls (id : String) : Actor := ⟨id, false, true, true⟩

/-- Y deactivates X, an admin; Y makes X an Owner; and X makes Y an admin. -/
def overtaking : Nat → Request
  | 0 => ⟨ownerCalls "y", .updateUser "x" ⟨none, some false, none⟩⟩
  | 1 => ⟨ownerCalls "y", .updateUser "x" ⟨some .owner, none, none⟩⟩
  | _ => ⟨ownerCalls "x", .updateUser "y" ⟨some .admin, none, none⟩⟩

def twoUsers (id : String) : Option User :=
  if id = "x" then some ⟨"x@example.test", .admin, true, [], 1, none⟩
  else if id = "y" then some ⟨"y@example.test", .owner, true, [], 1, none⟩
  else none

theorem twoUsers_listed (id : String) (h : twoUsers id ≠ none) : id ∈ ["x", "y"] := by
  unfold twoUsers at h
  split_ifs at h with hx hy
  · exact List.mem_cons.mpr (.inl hx)
  · exact List.mem_cons.mpr (.inr (List.mem_singleton.mpr hy))
  · exact absurd rfl h

/-- The first request reads X before the promotion and deactivates him at the end. -/
def overtakingRun : List (Input Nat) :=
  [.step 0, .step 0, .step 1, .step 1, .step 1, .step 1, .step 1, .step 1,
    .step 2, .step 2, .step 2, .step 2, .step 2, .step 2, .step 2, .step 2, .step 2, .step 2,
    .step 0, .step 0, .step 0, .step 0]

theorem no_owner_remains :
    ¬ ∀ (requests : Nat → Request) (keys : List String) (rows : String → Option User)
      (inputs : List (Input Nat)), (∀ id, rows id ≠ none → id ∈ keys) → HasActiveOwner rows →
        HasActiveOwner
          (run (step (code requests)) (.initial keys rows fun _ => .waiting) inputs).rows := by
  intro hall
  obtain ⟨id, howner⟩ :=
    hall overtaking ["x", "y"] twoUsers overtakingRun twoUsers_listed ⟨"y", by decide⟩
  have hlisted : Listed (System.initial ["x", "y"] twoUsers fun _ : Nat => Stage.waiting) :=
    listed_initial twoUsers_listed _
  have hid : id ∈ (run (step (code overtaking)) (.initial ["x", "y"] twoUsers
      fun _ => .waiting) overtakingRun).keys := by
    refine (hlisted.run overtakingRun).rows id fun hnone => ?_
    rw [hnone] at howner
    obtain ⟨user, huser, -⟩ := howner
    cases huser
  have hnone : ∀ id ∈ (run (step (code overtaking)) (.initial ["x", "y"] twoUsers
      fun _ => .waiting) overtakingRun).keys, ¬IsOwner ((run (step (code overtaking))
        (.initial ["x", "y"] twoUsers fun _ => .waiting) overtakingRun).rows id) := by
    decide +kernel
  exact hnone id hid howner

theorem owner_remains_alone :
    HasActiveOwner (run (step (code overtaking)) (.initial ["x", "y"] twoUsers
      fun _ => .waiting) [.step 0, .step 0, .step 0, .step 0, .step 0, .step 0]).rows := by
  exact owner_remains overtaking twoUsers_listed ⟨"y", by decide⟩ (by decide +kernel)

end VpsGuardian.Access.Owners
