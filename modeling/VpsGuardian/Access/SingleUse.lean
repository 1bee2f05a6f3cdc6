import VpsGuardian.Access.RecoveryCodes

/-!
No recovery code is accepted by two logins.

A login takes the row of its code while it is unused and marks it before it ends, and no
request makes a used code unused.
-/

namespace VpsGuardian.Access.RecoveryCodes

open Lib Lib.ReadCommitted

def IsUsed (row : Option Row) : Prop := ∃ c, row = some (.code c) ∧ c.isUsed = true

def IsUnused (row : Option Row) : Prop := ∃ c, row = some (.code c) ∧ c.isUsed = false

theorem IsUnused.not_used {row : Option Row} (h : IsUnused row) : ¬IsUsed row := by
  rintro ⟨c, rfl, hused⟩
  obtain ⟨c', heq, hunused⟩ := h
  cases heq
  rw [hused] at hunused
  cases hunused

section Used

variable (written : Key → Option (Option Row)) (rows : Key → Option Row)

/-- A used code stays used. -/
def KeepsUsed : Prop :=
  ∀ hash row, IsUsed (rows (.code hash)) → written (.code hash) = some row → IsUsed row

/-- The session has locked rows, and changed none. -/
def Untouched : Prop := ∀ k row, written k = some row → row = rows k

/-- The session has locked the row of an unused code. -/
def Locked (hash : String) : Prop :=
  IsUnused (rows (.code hash)) ∧ ∃ c, written (.code hash) = some (some (.code c))

/-- The session has used a code. -/
def Marked (hash : String) : Prop :=
  IsUnused (rows (.code hash)) ∧ ∃ row, written (.code hash) = some row ∧ IsUsed row

/-- What a login has done at the stages it passes. -/
def Reached (progress : Option (Progress Key Row)) : Stage → Prop
  | .waiting (.login _) => Untouched written rows
  | .consuming login =>
      Untouched written rows ∧ ∀ p ∈ progress, p.taken ≠ [] → Locked written rows login.recoveryCode
  | .marking login =>
      Locked written rows login.recoveryCode ∧
        ∀ p ∈ progress, p.taken ≠ [] → Marked written rows login.recoveryCode
  | .counting login true => Marked written rows login.recoveryCode
  | .updating _ _ (.commit (.accepted _ _)) => False
  | .committing (.accepted hash _) => Marked written rows hash
  | .answered (.accepted hash _) => IsUsed (rows (.code hash))
  | _ => True

end Used

/-- The login has succeeded with the code of this hash. -/
def Accepts (x : Session Key Row Stage) (hash : String) : Prop :=
  ∃ remaining, x.stage = .answered (.accepted hash remaining)

structure Uses (x : Session Key Row Stage) (rows : Key → Option Row) : Prop where
  keepsUsed : KeepsUsed x.written rows
  reached : Reached x.written rows x.progress x.stage

def usage (ι : Type) : Outline ι Key Row Stage where
  committed _ := True
  session _ := Uses
  pair _ _ x y := ∀ hash, Accepts x hash → ¬Accepts y hash
section Change

variable (change : Change) (user : Account)

/-- A change never comes to the stages of a login. -/
theorem reached_change {stage : Stage} {written : Key → Option (Option Row)}
    {rows : Key → Option Row} {progress : Option (Progress Key Row)}
    (h : Admitted change stage ∨ stage.issuing ≠ none) : Reached written rows progress stage := by
  rcases h with h | h
  · cases h <;> trivial
  · unfold Stage.issuing at h
    split at h
    · trivial
    · trivial
    · trivial
    · exact absurd rfl h

theorem reached_afterRevoke {written : Key → Option (Option Row)} {rows : Key → Option Row}
    {progress : Option (Progress Key Row)} :
    Reached written rows progress (change.afterRevoke user) := by
  cases hbatch : change.kind.batch with
  | some batch =>
    refine reached_change change (.inr ?_)
    rw [afterRevoke_issuing, hbatch]
    exact Option.some_ne_none _
  | none =>
    unfold Change.afterRevoke
    rw [hbatch]
    unfold update
    dsimp only
    split <;> trivial

end Change

/-! ### Each code is used once -/

section Used

variable {generateOtp : String → Int → String} {written : Key → Option (Option Row)}
  {rows rows' : Key → Option Row}

theorem Untouched.seen (h : Untouched written rows) (k : Key) :
    (written k).getD (rows k) = rows k := by
  cases hwritten : written k with
  | none => rfl
  | some row => exact h k row hwritten

theorem Untouched.write (h : Untouched written rows) {k : Key} {row : Option Row}
    (hrow : row = rows k) : Untouched (Function.update written k (some row)) rows := by
  intro l row' hl
  by_cases heq : l = k
  · subst heq
    rw [Function.update_self, Option.some_inj] at hl
    exact hl ▸ hrow
  · rw [Function.update_of_ne heq] at hl
    exact h l row' hl

theorem KeepsUsed.seen (h : KeepsUsed written rows) {hash : String}
    (hused : IsUsed (rows (.code hash))) :
    IsUsed ((written (.code hash)).getD (rows (.code hash))) := by
  cases hwritten : written (.code hash) with
  | none => exact hused
  | some row => exact h hash row hused hwritten

theorem KeepsUsed.write (h : KeepsUsed written rows) {k : Key} {row : Option Row}
    (hrow : IsUsed ((written k).getD (rows k)) → IsUsed row) :
    KeepsUsed (Function.update written k (some row)) rows := by
  intro hash row' hused hwritten
  by_cases heq : .code hash = k
  · subst heq
    rw [Function.update_self, Option.some_inj] at hwritten
    exact hwritten ▸ hrow (h.seen hused)
  · rw [Function.update_of_ne heq] at hwritten
    exact h hash row' hused hwritten

/-- No statement makes a used code unused. -/
theorem change_isUsed {stage : Stage} {order : List Key → List Key} {condition : Key → Row → Bool}
    {change : Row → Option Row} {next : List (Key × Row) → Stage}
    (h : statement generateOtp stage = .alter order condition change next) {row : Row}
    (hused : IsUsed (some row)) : IsUsed (change row) := by
  obtain ⟨c, heq, hc⟩ := hused
  cases heq
  cases stage with
  | waiting request =>
    cases request with
    | login login =>
      cases h
      exact ⟨c, rfl, hc⟩
    | change change => cases h
  | consuming login | updating read user next =>
    cases h
    exact ⟨c, rfl, hc⟩
  | marking login =>
    cases h
    exact ⟨_, rfl, rfl⟩
  | revoking change user =>
    cases h
    exact ⟨_, rfl, hc⟩
  | counting login used | inserting now batchID hash rest user | committing outcome | rollingBack
    | answered outcome => cases h

/-- Where a login has come once it has taken one more row. -/
theorem Reached.took {stage : Stage} {order : List Key → List Key} {condition : Key → Row → Bool}
    {change : Row → Option Row} {next : List (Key × Row) → Stage} {k : Key}
    {remaining : List Key} {taken : List (Key × Row)} {row : Row}
    (h : Reached written rows (some ⟨k :: remaining, taken⟩) stage)
    (hstatement : statement generateOtp stage = .alter order condition change next)
    (hrow : (written k).getD (rows k) = some row) (hmatches : condition k row = true) :
    Reached (Function.update written k (some (change row))) rows
      (some ⟨remaining, taken ++ [(k, row)]⟩) stage := by
  cases stage with
  | waiting request =>
    cases request with
    | login login =>
      cases hstatement
      exact Untouched.write h (hrow.symm.trans (Untouched.seen h k))
    | change change => trivial
  | consuming login =>
    cases hstatement
    obtain ⟨huntouched, -⟩ := h
    have hcommitted : some row = rows k := hrow.symm.trans (huntouched.seen k)
    refine ⟨huntouched.write hcommitted, fun _ _ _ => ?_⟩
    obtain ⟨hk, hactive⟩ := Bool.and_eq_true_iff.mp hmatches
    obtain rfl : k = .code login.recoveryCode := of_decide_eq_true hk
    cases row with
    | user user => cases hactive
    | code c =>
      have hunused : c.isUsed = false := by
        unfold isActiveCode RecoveryCode.isActive at hactive
        unfold RecoveryCode.isUsed
        cases husedAt : c.usedAt with
        | none => rfl
        | some usedAt => simp [husedAt] at hactive
      exact ⟨⟨c, hcommitted.symm, hunused⟩, c, Function.update_self _ _ _⟩
  | marking login =>
    cases hstatement
    obtain ⟨⟨hunused, c, hwritten⟩, -⟩ := h
    obtain rfl : k = .code login.recoveryCode := of_decide_eq_true hmatches
    rw [hwritten, Option.getD_some, Option.some_inj] at hrow
    subst hrow
    refine ⟨⟨hunused, _, Function.update_self _ _ _⟩, fun _ _ _ => ⟨hunused, ?_⟩⟩
    exact ⟨_, Function.update_self _ _ _, _, rfl, rfl⟩
  | updating read user next =>
    cases next with
    | revoke change => trivial
    | commit outcome =>
      cases outcome with
      | accepted hash remaining => exact h
      | failed | rejected | issued batchID | disabled => trivial
  | revoking change user => trivial
  | counting login used | inserting now batchID hash rest user | committing outcome | rollingBack
    | answered outcome => cases hstatement

/-- A statement that has come upon no more rows than those it has taken. -/
theorem Reached.altered {stage : Stage} {order : List Key → List Key}
    {condition : Key → Row → Bool} {change : Row → Option Row} {next : List (Key × Row) → Stage}
    {taken : List (Key × Row)} (h : Reached written rows (some ⟨[], taken⟩) stage)
    (hstatement : statement generateOtp stage = .alter order condition change next) :
    Reached written rows none (next taken) := by
  cases stage with
  | waiting request =>
    cases request with
    | login login =>
      cases hstatement
      unfold Login.check
      split
      · split_ifs
        · trivial
        · trivial
        · exact ⟨h, fun _ hp => by cases hp⟩
      · trivial
    | change change => cases hstatement
  | consuming login =>
    cases hstatement
    unfold Login.consume
    split
    · trivial
    · rename_i hfound
      exact ⟨h.2 _ rfl fun hnil => hfound (List.isEmpty_iff.mpr hnil), fun _ hp => by cases hp⟩
  | marking login =>
    cases hstatement
    dsimp only
    split
    · trivial
    · rename_i hfound
      exact h.2 _ rfl fun hnil => hfound (List.isEmpty_iff.mpr hnil)
  | updating read user next =>
    cases hstatement
    dsimp only
    split
    · trivial
    · cases next with
      | revoke change => trivial
      | commit outcome =>
        cases outcome with
        | accepted hash remaining => exact absurd h id
        | failed | rejected | issued batchID | disabled => trivial
  | revoking change user =>
    cases hstatement
    exact reached_afterRevoke change user
  | counting login used | inserting now batchID hash rest user | committing outcome | rollingBack
    | answered outcome => cases hstatement

/-- Nothing has been taken yet, or nothing more. -/
theorem Reached.progress {stage : Stage} {p q : Option (Progress Key Row)}
    (h : Reached written rows p stage)
    (hq : ∀ b ∈ q, b.taken ≠ [] → ∃ a ∈ p, a.taken ≠ []) : Reached written rows q stage := by
  unfold Reached at h ⊢
  split at h
  · exact h
  · exact ⟨h.1, fun b hb htaken => (hq b hb htaken).elim fun a ha => h.2 a ha.1 ha.2⟩
  · exact ⟨h.1, fun b hb htaken => (hq b hb htaken).elim fun a ha => h.2 a ha.1 ha.2⟩
  · exact h
  · exact h
  · exact h
  · exact h
  · trivial

theorem Reached.frame {stage : Stage} {progress : Option (Progress Key Row)}
    (h : Reached written rows progress stage)
    (hrows : ∀ k, (written k).isSome → rows' k = rows k)
    (hused : ∀ hash, IsUsed (rows (.code hash)) → IsUsed (rows' (.code hash))) :
    Reached written rows' progress stage := by
  have huntouched (hun : Untouched written rows) : Untouched written rows' := by
    intro k row hk
    rw [hrows k (by rw [hk]; rfl)]
    exact hun k row hk
  have hlocked (hash : String) (hlock : Locked written rows hash) : Locked written rows' hash := by
    obtain ⟨hunused, c, hc⟩ := hlock
    refine ⟨?_, c, hc⟩
    rw [hrows _ (by rw [hc]; rfl)]
    exact hunused
  have hmarked (hash : String) (hmark : Marked written rows hash) : Marked written rows' hash := by
    obtain ⟨hunused, row, hrow⟩ := hmark
    refine ⟨?_, row, hrow⟩
    rw [hrows _ (by rw [hrow.1]; rfl)]
    exact hunused
  unfold Reached at h ⊢
  split at h
  · exact huntouched h
  · exact ⟨huntouched h.1, fun p hp htaken => hlocked _ (h.2 p hp htaken)⟩
  · exact ⟨hlocked _ h.1, fun p hp htaken => hmarked _ (h.2 p hp htaken)⟩
  · exact hmarked _ h
  · exact h
  · exact hmarked _ h
  · exact hused _ h
  · trivial

theorem Reached.selected {stage : Stage} {condition : Key → Row → Bool}
    {next : List (Key × Row) → Stage} {progress : Option (Progress Key Row)}
    (h : Reached written rows progress stage)
    (hstatement : statement generateOtp stage = .select condition next)
    (found : List (Key × Row)) : Reached written rows none (next found) := by
  cases stage with
  | waiting request =>
    cases request with
    | login login => cases hstatement
    | change change =>
      cases hstatement
      exact reached_change change (.inl (admitted_authorize change found))
  | counting login used =>
    cases hstatement
    cases used with
    | true => exact h
    | false => trivial
  | consuming login | marking login | updating read user next | revoking change user
    | inserting now batchID hash rest user | committing outcome | rollingBack
    | answered outcome => cases hstatement

end Used

section Valid

variable {ι : Type} [DecidableEq ι] {generateOtp : String → Int → String}

/-- A login succeeds with its commit. -/
theorem accepts_effect {s s' : System ι Key Row Stage} {i : ι} {hash : String}
    (heffect : Effect (code generateOtp ι) s i s') (haccepts : Accepts (s'.sessions i) hash) :
    Accepts (s.sessions i) hash ∨
      ∃ remaining, (s.sessions i).stage = .committing (.accepted hash remaining) := by
  obtain ⟨remaining, hstage⟩ := haccepts
  cases heffect with
  | waited => exact .inl ⟨remaining, hstage⟩
  | selected hstatement =>
    rw [System.set_self] at hstage
    exact absurd hstage (select_ne_answered hstatement _ _)
  | found _ _ | passed _ _ _ =>
    rw [System.set_self] at hstage
    exact .inl ⟨remaining, hstage⟩
  | took _ _ _ _ _ =>
    rw [System.set_self, System.write_self] at hstage
    exact .inl ⟨remaining, hstage⟩
  | altered hstatement _ =>
    rw [System.set_self] at hstage
    exact absurd hstage (alter_ne_answered hstatement _ _)
  | refused hstatement =>
    obtain ⟨now, batchID, code, rest, user, -, -, -, -, hfalse⟩ := statement_insert hstatement
    rw [System.set_self, Session.to_stage, hfalse] at hstage
    cases hstage
  | inserted hstatement _ _ _ =>
    obtain ⟨now, batchID, code, rest, user, -, -, -, htrue, -⟩ := statement_insert hstatement
    rw [System.set_self, Session.to_stage, htrue] at hstage
    exact absurd hstage (issue_ne_answered _ _ _ _ _)
  | committed hstatement =>
    obtain ⟨outcome, hcommitting, rfl⟩ := statement_commit hstatement
    rw [System.finish_self] at hstage
    cases hstage
    exact .inr ⟨remaining, hcommitting⟩
  | rolledBack hstatement =>
    rw [statement_rollback hstatement, System.finish_self] at hstage
    cases hstage

theorem uses_start {stage : Stage} {rows : Key → Option Row}
    (h : Reached (fun _ => none) rows none stage) : Uses (.start stage) rows :=
  ⟨fun _ _ _ hnone => (by cases hnone), h⟩

theorem usage_own {s s' : System ι Key Row Stage} {i : ι} (h : Uses (s.sessions i) s.rows)
    (heffect : Effect (code generateOtp ι) s i s') : Uses (s'.sessions i) s'.rows := by
  cases heffect with
  | waited => exact h
  | selected hstatement =>
    rw [System.set_self]
    exact ⟨h.keepsUsed, h.reached.selected hstatement _⟩
  | found hstatement hprogress =>
    rw [System.set_self]
    refine ⟨h.keepsUsed, h.reached.progress fun b hb htaken => ?_⟩
    cases hb
    exact absurd rfl htaken
  | passed hstatement hprogress _ =>
    rw [System.set_self]
    refine ⟨h.keepsUsed, h.reached.progress fun b hb htaken => ?_⟩
    cases hb
    exact ⟨_, hprogress, htaken⟩
  | took hstatement hprogress hfree hrow hmatches =>
    rw [System.set_self, System.write_self]
    refine ⟨h.keepsUsed.write fun hused => ?_, ?_⟩
    · change IsUsed (s.view i _) at hused
      rw [hrow] at hused
      exact change_isUsed hstatement hused
    · have hreached := h.reached
      rw [hprogress] at hreached
      exact hreached.took hstatement hrow hmatches
  | altered hstatement hprogress =>
    rw [System.set_self]
    have hreached := h.reached
    rw [hprogress] at hreached
    exact ⟨h.keepsUsed, hreached.altered hstatement⟩
  | refused hstatement =>
    obtain ⟨now, batchID, code, rest, user, -, -, -, -, hfalse⟩ := statement_insert hstatement
    rw [System.set_self, hfalse]
    exact ⟨h.keepsUsed, trivial⟩
  | inserted hstatement hfree hnew hkeys =>
    obtain ⟨now, batchID, code, rest, user, -, -, -, htrue, -⟩ := statement_insert hstatement
    rw [System.set_self, System.write_self, htrue]
    refine ⟨h.keepsUsed.write fun hused => ?_, ?_⟩
    · change IsUsed (s.view i _) at hused
      rw [hnew] at hused
      obtain ⟨c, hc, -⟩ := hused
      cases hc
    · unfold issue
      cases rest with
      | nil =>
        unfold update
        dsimp only
        split <;> trivial
      | cons hash rest => trivial
  | committed hstatement =>
    obtain ⟨outcome, hcommitting, rfl⟩ := statement_commit hstatement
    rw [System.finish_self, System.finish_rows]
    refine uses_start ?_
    have hreached := h.reached
    rw [hcommitting] at hreached
    cases outcome with
    | accepted hash remaining =>
      obtain ⟨-, row, hrow, hused⟩ := hreached
      change IsUsed (s.view i (.code hash))
      rw [System.view, hrow]
      exact hused
    | failed | rejected | issued batchID | disabled => trivial
  | rolledBack hstatement =>
    rw [statement_rollback hstatement, System.finish_self]
    exact uses_start trivial

theorem usage_valid : (usage ι).Valid (code generateOtp ι) fun _ _ => True where
  own s i s' h _ heffect := by
    refine ⟨usage_own (h.sessions i) heffect, fun j hj hash haccepts hother => ?_⟩
    rcases accepts_effect heffect haccepts with hbefore | ⟨remaining, hcommitting⟩
    · exact h.pairs i j hj.symm hash hbefore hother
    · -- the code is unused until the commit, but the other login has used it
      have hreached := (h.sessions i).reached
      rw [hcommitting] at hreached
      obtain ⟨remaining', hanswered⟩ := hother
      have hused := (h.sessions j).reached
      rw [hanswered] at hused
      exact hreached.1.not_used hused
  symm i j x y h hash hy hx := h hash hx hy
  commit _ _ _ _ _ _ := trivial
  frame s i j stage h _ hstatement hj hrows := by
    have hi : Uses (s.sessions i) s.rows := h.sessions i
    have hj : Uses (s.sessions j) s.rows := h.sessions j
    refine ⟨fun hash row hused hwritten => ?_, hj.reached.frame hrows fun hash hused => ?_⟩
    · rw [hrows _ (by rw [hwritten]; rfl)] at hused
      exact hj.keepsUsed hash row hused hwritten
    · exact hi.keepsUsed.seen hused
  lost i rows _ := by
    refine ⟨uses_start trivial, fun j y hash haccepts => ?_⟩
    obtain ⟨remaining, hstage⟩ := haccepts
    cases hstage

end Valid

end VpsGuardian.Access.RecoveryCodes
