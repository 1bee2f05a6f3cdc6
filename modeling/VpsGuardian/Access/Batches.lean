import VpsGuardian.Access.SingleUse

/-!
The active recovery codes belong to one batch, unless two batches are issued at once.
-/

namespace VpsGuardian.Access.RecoveryCodes

open Lib Lib.ReadCommitted

/-- The row as a session sees it. -/
def seen (x : Session Key Row Stage) (rows : Key → Option Row) (k : Key) : Option Row :=
  (x.written k).getD (rows k)
/-! ### Codes that are active -/

/-- The codes that are neither used nor revoked belong to one batch. -/
def OneBatch (rows : Key → Option Row) : Prop :=
  ∃ batchID, ∀ hash c, rows (.code hash) = some (.code c) → c.isActive = true → c.batchID = batchID

/-- The session replaces the codes: it has begun to revoke them, and has not ended. -/
def Replaces (x : Session Key Row Stage) : Bool :=
  match x.stage with
  | .revoking change _ => change.kind.batch.isSome && x.progress.isSome
  | stage => stage.issuing.isSome

/-- What is written of active codes is what was committed of them. -/
def Shrinks (written : Key → Option (Option Row)) (rows : Key → Option Row) : Prop :=
  ∀ hash c, written (.code hash) = some (some (.code c)) → c.isActive = true →
    ∃ c', rows (.code hash) = some (.code c') ∧ c'.isActive = true ∧ c'.batchID = c.batchID

structure Issues (x : Session Key Row Stage) (rows : Key → Option Row) : Prop where
  shrinks : x.stage.issuing = none → x.stage ≠ .rollingBack → Shrinks x.written rows
  purging : ∀ change user, x.stage = .revoking change user → change.kind.batch ≠ none →
    ∀ p ∈ x.progress, ∀ hash c, seen x rows (.code hash) = some (.code c) → c.isActive = true →
      .code hash ∈ p.remaining
  purged : ∀ batchID, x.stage.issuing = some batchID →
    ∀ hash c, seen x rows (.code hash) = some (.code c) → c.isActive = true → c.batchID = batchID

def batches (ι : Type) : Outline ι Key Row Stage where
  committed := OneBatch
  session _ := Issues
  pair _ _ _ _ := True

/-- No session commits a batch while another one replaces the codes. -/
def Apart {ι : Type} (s : System ι Key Row Stage) : Input ι → Prop
  | .step i =>
      match (s.sessions i).stage with
      | .committing (.issued _) => ∀ j, j ≠ i → Replaces (s.sessions j) = false
      | _ => True
  | .abort _ => True

/-! ### One batch -/

section Batch

variable {generateOtp : String → Int → String} {written : Key → Option (Option Row)}
  {rows rows' : Key → Option Row}

/-- What is seen of active codes is what was committed of them. -/
theorem Shrinks.seen (h : Shrinks written rows) {hash : String} {c : RecoveryCode}
    (hseen : (written (.code hash)).getD (rows (.code hash)) = some (.code c))
    (hactive : c.isActive = true) :
    ∃ c', rows (.code hash) = some (.code c') ∧ c'.isActive = true ∧ c'.batchID = c.batchID := by
  cases hwritten : written (.code hash) with
  | none =>
    rw [hwritten] at hseen
    exact ⟨c, hseen, hactive, rfl⟩
  | some row =>
    rw [hwritten, Option.getD_some] at hseen
    exact h hash c (hwritten.trans (congrArg some hseen)) hactive

theorem Shrinks.frame (h : Shrinks written rows)
    (hrows : ∀ k, (written k).isSome → rows' k = rows k) : Shrinks written rows' := by
  intro hash c hwritten hactive
  rw [hrows _ (by rw [hwritten]; rfl)]
  exact h hash c hwritten hactive

theorem Shrinks.write (h : Shrinks written rows) {k : Key} {row : Row} {row' : Option Row}
    (hrow : (written k).getD (rows k) = some row)
    (hchange : ∀ c', row' = some (.code c') → c'.isActive = true →
      ∃ c, row = .code c ∧ c.isActive = true ∧ c.batchID = c'.batchID) :
    Shrinks (Function.update written k (some row')) rows := by
  intro hash c hwritten hactive
  by_cases heq : .code hash = k
  · subst heq
    rw [Function.update_self, Option.some_inj] at hwritten
    obtain ⟨before, rfl, hbefore, hbatch⟩ := hchange c hwritten hactive
    obtain ⟨c', hc', hactive', hbatch'⟩ := h.seen hrow hbefore
    exact ⟨c', hc', hactive', hbatch'.trans hbatch⟩
  · rw [Function.update_of_ne heq] at hwritten
    exact h hash c hwritten hactive

/-- No statement makes a code active or moves it to another batch. -/
theorem change_isActive {stage : Stage} {order : List Key → List Key}
    {condition : Key → Row → Bool} {change : Row → Option Row} {next : List (Key × Row) → Stage}
    (h : statement generateOtp stage = .alter order condition change next) (row : Row)
    (c' : RecoveryCode) (hc' : change row = some (.code c')) (hactive : c'.isActive = true) :
    ∃ c, row = .code c ∧ c.isActive = true ∧ c.batchID = c'.batchID := by
  cases stage with
  | waiting request =>
    cases request with
    | login login =>
      cases h
      cases hc'
      exact ⟨c', rfl, hactive, rfl⟩
    | change change => cases h
  | consuming login =>
    cases h
    cases hc'
    exact ⟨c', rfl, hactive, rfl⟩
  | updating read user next =>
    cases h
    cases row with
    | user row => cases hc'
    | code c =>
      cases hc'
      exact ⟨_, rfl, hactive, rfl⟩
  | marking login =>
    cases h
    cases row with
    | user row => cases hc'
    | code c =>
      cases hc'
      cases hactive
  | revoking change user =>
    cases h
    cases row with
    | user row => cases hc'
    | code c =>
      cases hc'
      simp [RecoveryCode.isActive] at hactive
  | counting login used | inserting now batchID hash rest user | committing outcome | rollingBack
    | answered outcome => cases h

/-- Where a change revokes codes, it takes the active ones, which then are none. -/
theorem revoking_alter {stage : Stage} {order : List Key → List Key}
    {condition : Key → Row → Bool} {change : Row → Option Row} {next : List (Key × Row) → Stage}
    (h : statement generateOtp stage = .alter order condition change next) {revoking : Change}
    {user : Account} (hstage : stage = .revoking revoking user) :
    (∀ keys, (order keys).Perm keys) ∧ condition = isActiveCode ∧
      (∀ row c, change row = some (.code c) → c.isActive = false) ∧
        next = fun _ => revoking.afterRevoke user := by
  subst hstage
  cases h
  refine ⟨revoking.scan_perm, rfl, fun row c hc => ?_, rfl⟩
  cases row with
  | user row => cases hc
  | code before =>
    cases hc
    simp [RecoveryCode.isActive]

theorem issuing_select {stage : Stage} {condition : Key → Row → Bool}
    {next : List (Key × Row) → Stage} (h : statement generateOtp stage = .select condition next)
    (found : List (Key × Row)) :
    stage.issuing = none ∧ stage ≠ .rollingBack ∧ (next found).issuing = none := by
  cases stage with
  | waiting request =>
    cases request with
    | login login => cases h
    | change change =>
      cases h
      refine ⟨rfl, Stage.noConfusion, ?_⟩
      have hadmitted : Admitted change (change.authorize generateOtp found) :=
        admitted_authorize change found
      generalize change.authorize generateOtp found = stage at hadmitted
      cases hadmitted <;> rfl
  | counting login used =>
    cases h
    refine ⟨rfl, Stage.noConfusion, ?_⟩
    dsimp only
    split <;> rfl
  | consuming login | marking login | updating read user next | revoking change user
    | inserting now batchID hash rest user | committing outcome | rollingBack
    | answered outcome => cases h

/-- A session that alters rows while it inserts a batch writes the row of the user. -/
theorem issuing_alter {stage : Stage} {order : List Key → List Key}
    {condition : Key → Row → Bool} {change : Row → Option Row} {next : List (Key × Row) → Stage}
    (h : statement generateOtp stage = .alter order condition change next) {batchID : String}
    (hissuing : stage.issuing = some batchID) :
    condition = isUser ∧
      ∀ found, next found = .rollingBack ∨ (next found).issuing = some batchID := by
  cases stage with
  | updating read user continuation =>
    cases h
    refine ⟨rfl, fun found => ?_⟩
    cases continuation with
    | revoke change => cases hissuing
    | commit outcome =>
      cases outcome with
      | issued batchID' =>
        cases hissuing
        dsimp only
        split
        · exact .inl rfl
        · exact .inr rfl
      | failed | rejected | accepted hash remaining | disabled => cases hissuing
  | inserting now batchID hash rest user | committing outcome => cases h
  | waiting request | consuming login | marking login | counting login used
    | revoking change user | rollingBack | answered outcome => cases hissuing

/-- Before it revokes codes, and where it is none of these requests, a session inserts no batch. -/
theorem issuing_altered {stage : Stage} {order : List Key → List Key}
    {condition : Key → Row → Bool} {change : Row → Option Row} {next : List (Key × Row) → Stage}
    (h : statement generateOtp stage = .alter order condition change next)
    (hissuing : stage.issuing = none)
    (hrevoking : ∀ change user, stage ≠ .revoking change user) (found : List (Key × Row)) :
    (next found).issuing = none := by
  cases stage with
  | waiting request =>
    cases request with
    | login login =>
      cases h
      unfold Login.check
      split
      · split_ifs <;> rfl
      · rfl
    | change change => cases h
  | consuming login =>
    cases h
    unfold Login.consume
    split <;> rfl
  | marking login =>
    cases h
    dsimp only
    split <;> rfl
  | updating read user continuation =>
    cases h
    dsimp only
    split
    · rfl
    · cases continuation with
      | revoke change => rfl
      | commit outcome =>
        cases outcome with
        | issued batchID => cases hissuing
        | failed | rejected | accepted hash remaining | disabled => rfl
  | revoking change user => exact absurd rfl (hrevoking change user)
  | counting login used | inserting now batchID hash rest user | committing outcome | rollingBack
    | answered outcome => cases h

/-- What another session commits of active codes were active ones before. -/
theorem seen_frame {x : Session Key Row Stage}
    (hview : ∀ hash c, rows' (.code hash) = some (.code c) → c.isActive = true →
      ∃ c', rows (.code hash) = some (.code c') ∧ c'.isActive = true ∧ c'.batchID = c.batchID)
    {hash : String} {c : RecoveryCode} (hseen : seen x rows' (.code hash) = some (.code c))
    (hactive : c.isActive = true) :
    ∃ c', seen x rows (.code hash) = some (.code c') ∧ c'.isActive = true ∧
      c'.batchID = c.batchID := by
  unfold seen at hseen ⊢
  cases hwritten : x.written (.code hash) with
  | none =>
    rw [hwritten] at hseen
    exact hview hash c hseen hactive
  | some row =>
    rw [hwritten] at hseen
    exact ⟨c, hseen, hactive, rfl⟩

/-- Between statements there is no progress. -/
theorem Issues.between {x : Session Key Row Stage} (hprogress : x.progress = none)
    (hshrinks : x.stage.issuing = none → x.stage ≠ .rollingBack → Shrinks x.written rows)
    (hpurged : ∀ batchID, x.stage.issuing = some batchID → ∀ hash c,
      seen x rows (.code hash) = some (.code c) → c.isActive = true → c.batchID = batchID) :
    Issues x rows where
  shrinks := hshrinks
  purging change user hstage hbatch p hp := by
    rw [hprogress] at hp
    cases hp
  purged := hpurged

/-- Between statements, with no batch on the way. -/
theorem Issues.quiet {x : Session Key Row Stage} (hprogress : x.progress = none)
    (hissuing : x.stage.issuing = none) (hshrinks : Shrinks x.written rows) : Issues x rows :=
  .between hprogress (fun _ _ => hshrinks) fun batchID hsome => by
    rw [hissuing] at hsome
    cases hsome

theorem issues_start (rows : Key → Option Row) {stage : Stage} (hissuing : stage.issuing = none) :
    Issues (.start stage) rows :=
  .quiet rfl hissuing fun _ _ hnone => by cases hnone

end Batch

section Valid

variable {ι : Type} [DecidableEq ι] {generateOtp : String → Int → String}

/-- A statement that has come upon its rows, or passed over one, changes nothing. -/
theorem Issues.progress {x : Session Key Row Stage} {rows : Key → Option Row} (h : Issues x rows)
    {p : Progress Key Row}
    (hp : ∀ change user, x.stage = .revoking change user → change.kind.batch ≠ none →
      ∀ hash c, seen x rows (.code hash) = some (.code c) → c.isActive = true →
        .code hash ∈ p.remaining) :
    Issues { x with progress := some p } rows where
  shrinks := h.shrinks
  purging change user hstage hbatch q hq := by
    cases hq
    exact hp change user hstage hbatch
  purged := h.purged

theorem Issues.took {x : Session Key Row Stage} {rows : Key → Option Row} (h : Issues x rows)
    {order : List Key → List Key} {condition : Key → Row → Bool} {change : Row → Option Row}
    {next : List (Key × Row) → Stage} {k : Key} {remaining : List Key} {taken : List (Key × Row)}
    {row : Row} (hstatement : statement generateOtp x.stage = .alter order condition change next)
    (hprogress : x.progress = some ⟨k :: remaining, taken⟩) (hrow : seen x rows k = some row)
    (hmatches : condition k row = true) :
    Issues { x with
      written := Function.update x.written k (some (change row))
      progress := some ⟨remaining, taken ++ [(k, row)]⟩ } rows where
  shrinks hissuing hstage :=
    (h.shrinks hissuing hstage).write hrow (change_isActive hstatement row)
  purging revoking user hstage hbatch q hq hash c hseen hactive := by
    cases hq
    change ((Function.update x.written k (some (change row))) (.code hash)).getD _ = _ at hseen
    obtain ⟨-, -, hchange, -⟩ := revoking_alter hstatement hstage
    by_cases heq : .code hash = k
    · subst heq
      rw [Function.update_self, Option.getD_some] at hseen
      rw [hchange row c hseen] at hactive
      cases hactive
    · rw [Function.update_of_ne heq] at hseen
      have hmem := h.purging revoking user hstage hbatch _ hprogress hash c hseen hactive
      exact (List.mem_cons.mp hmem).resolve_left heq
  purged batchID hissuing hash c hseen hactive := by
    obtain ⟨rfl, -⟩ := issuing_alter hstatement hissuing
    obtain rfl : k = .user := of_decide_eq_true hmatches
    exact h.purged batchID hissuing hash c hseen hactive

theorem Issues.altered {x : Session Key Row Stage} {rows : Key → Option Row} (h : Issues x rows)
    {order : List Key → List Key} {condition : Key → Row → Bool} {change : Row → Option Row}
    {next : List (Key × Row) → Stage} {taken : List (Key × Row)}
    (hstatement : statement generateOtp x.stage = .alter order condition change next)
    (hprogress : x.progress = some ⟨[], taken⟩) : Issues (x.to (next taken)) rows := by
  have hrolling : x.stage ≠ .rollingBack := by
    intro hstage
    rw [hstage] at hstatement
    cases hstatement
  by_cases hrevoking : ∃ revoking user, x.stage = .revoking revoking user
  · obtain ⟨revoking, user, hstage⟩ := hrevoking
    obtain ⟨-, -, -, rfl⟩ := revoking_alter hstatement hstage
    have hnone : x.stage.issuing = none := by rw [hstage]; rfl
    refine .between rfl (fun _ _ => h.shrinks hnone hrolling) ?_
    intro batchID hissuing hash c hseen hactive
    rw [Session.to_stage, afterRevoke_issuing] at hissuing
    have hbatch : revoking.kind.batch ≠ none := by
      intro hbatch
      rw [hbatch] at hissuing
      cases hissuing
    -- no active code is left to be revoked
    cases h.purging revoking user hstage hbatch _ hprogress hash c hseen hactive
  · cases hissuing : x.stage.issuing with
    | none =>
      have hnext := issuing_altered hstatement hissuing
        (fun change user hstage => hrevoking ⟨change, user, hstage⟩) taken
      exact .quiet rfl hnext (h.shrinks hissuing hrolling)
    | some batchID =>
      obtain ⟨-, hnext⟩ := issuing_alter hstatement hissuing
      refine .between rfl ?_ ?_
      · intro hnone hstage
        rcases hnext taken with hroll | hsome
        · exact absurd hroll hstage
        · rw [Session.to_stage, hsome] at hnone
          cases hnone
      · intro batchID' hsome'
        rcases hnext taken with hroll | hsome
        · rw [Session.to_stage, hroll] at hsome'
          cases hsome'
        · rw [Session.to_stage, hsome, Option.some_inj] at hsome'
          exact hsome' ▸ h.purged batchID hissuing

theorem batches_own {s s' : System ι Key Row Stage} {i : ι} (hlisted : Listed s)
    (h : Issues (s.sessions i) s.rows) (heffect : Effect (code generateOtp ι) s i s') :
    Issues (s'.sessions i) s'.rows := by
  cases heffect with
  | waited => exact h
  | selected hstatement =>
    obtain ⟨hissuing, hrolling, hnext⟩ := issuing_select hstatement (s.matching i _)
    rw [System.set_self]
    exact .quiet rfl hnext (h.shrinks hissuing hrolling)
  | found hstatement hprogress =>
    rw [System.set_self]
    refine h.progress fun change user hstage _ hash c hseen hactive => ?_
    obtain ⟨hperm, rfl, -, -⟩ := revoking_alter hstatement hstage
    refine (hperm _).mem_iff.mpr (List.mem_map.mpr ⟨(.code hash, .code c), ?_, rfl⟩)
    refine mem_matching.mpr ⟨hlisted.view (i := i) ?_, hseen, hactive⟩
    rw [show s.view i (.code hash) = _ from hseen]
    exact Option.some_ne_none _
  | @passed order condition _ _ k remaining taken hstatement hprogress hunmatched =>
    rw [System.set_self]
    refine h.progress fun change user hstage hbatch hash c hseen hactive => ?_
    obtain ⟨-, rfl, -, -⟩ := revoking_alter hstatement hstage
    have hmem := h.purging change user hstage hbatch _ hprogress hash c hseen hactive
    rcases List.mem_cons.mp hmem with rfl | hrest
    · have hinactive : c.isActive = false := hunmatched _ hseen
      rw [hactive] at hinactive
      cases hinactive
    · exact hrest
  | took hstatement hprogress hfree hrow hmatches =>
    rw [System.set_self, System.write_self]
    exact h.took hstatement hprogress hrow hmatches
  | altered hstatement hprogress =>
    rw [System.set_self]
    exact h.altered hstatement hprogress
  | refused hstatement =>
    obtain ⟨now, batchID, code, rest, user, -, -, -, -, hfalse⟩ := statement_insert hstatement
    rw [System.set_self, hfalse]
    refine .between rfl (fun _ hstage => absurd rfl hstage) ?_
    intro batchID hsome
    cases hsome
  | inserted hstatement hfree hnew hkeys =>
    obtain ⟨now, batchID, code, rest, user, hstage, rfl, rfl, htrue, -⟩ :=
      statement_insert hstatement
    rw [System.set_self, System.write_self, htrue]
    refine .between rfl ?_ ?_
    · intro hnone
      rw [Session.to_stage, issue_issuing] at hnone
      cases hnone
    · intro batchID' hsome hash c hseen hactive
      rw [Session.to_stage, issue_issuing, Option.some_inj] at hsome
      subst hsome
      change ((Function.update (s.sessions i).written (.code code) _) (.code hash)).getD _ = _
        at hseen
      by_cases heq : hash = code
      · subst heq
        rw [Function.update_self] at hseen
        cases hseen
        rfl
      · rw [Function.update_of_ne (fun hkey => heq (Key.code.inj hkey))] at hseen
        exact h.purged batchID (by rw [hstage]; rfl) hash c hseen hactive
  | committed hstatement =>
    obtain ⟨outcome, -, rfl⟩ := statement_commit hstatement
    rw [System.finish_self]
    exact issues_start _ rfl
  | rolledBack hstatement =>
    rw [statement_rollback hstatement, System.finish_self]
    exact issues_start _ rfl

/-- Where it commits no batch, a session leaves no active code that was none. -/
theorem Issues.commit {x : Session Key Row Stage} {rows : Key → Option Row} (h : Issues x rows)
    {outcome : Outcome} (hstage : x.stage = .committing outcome)
    (houtcome : ∀ batchID, outcome ≠ .issued batchID) : Shrinks x.written rows := by
  refine h.shrinks ?_ ?_
  · rw [hstage]
    cases outcome with
    | issued batchID => exact absurd rfl (houtcome batchID)
    | failed | rejected | accepted hash remaining | disabled => rfl
  · rw [hstage]
    exact Stage.noConfusion

theorem batches_valid : (batches ι).Valid (code generateOtp ι) Apart where
  own s i s' h _ heffect := ⟨batches_own h.listed (h.sessions i) heffect, fun _ _ => trivial⟩
  symm _ _ _ _ _ := trivial
  commit s i stage h _ hstatement := by
    obtain ⟨outcome, hstage, -⟩ := statement_commit hstatement
    have hi : Issues (s.sessions i) s.rows := h.sessions i
    by_cases hissued : ∃ batchID, outcome = .issued batchID
    · obtain ⟨batchID, rfl⟩ := hissued
      exact ⟨batchID, hi.purged batchID (by rw [hstage]; rfl)⟩
    · have hshrinks := hi.commit hstage fun batchID heq => hissued ⟨batchID, heq⟩
      obtain ⟨batchID, hbatch⟩ := h.committed
      refine ⟨batchID, fun hash c hseen hactive => ?_⟩
      obtain ⟨c', hc', hactive', heq⟩ := hshrinks.seen hseen hactive
      exact heq ▸ hbatch hash c' hc' hactive'
  frame s i j stage h hC hstatement hne hrows := by
    obtain ⟨outcome, hstage, -⟩ := statement_commit hstatement
    have hi : Issues (s.sessions i) s.rows := h.sessions i
    have hj : Issues (s.sessions j) s.rows := h.sessions j
    by_cases hissued : ∃ batchID, outcome = .issued batchID
    · obtain ⟨batchID, rfl⟩ := hissued
      -- the other session does not replace codes at the same time
      have hreplaces : Replaces (s.sessions j) = false := by
        unfold Apart at hC
        dsimp only at hC
        rw [hstage] at hC
        exact hC j hne
      refine ⟨fun hnone hrolling => (hj.shrinks hnone hrolling).frame hrows, ?_, ?_⟩
      · intro change user hrevoking hbatch p hp
        unfold Replaces at hreplaces
        rw [hrevoking, show (s.sessions j).progress = some p from hp] at hreplaces
        simp [hbatch] at hreplaces
      · intro batchID' hsome
        unfold Replaces at hreplaces
        split at hreplaces
        · rename_i hrevoking
          rw [hrevoking] at hsome
          cases hsome
        · rw [hsome] at hreplaces
          cases hreplaces
    · have hshrinks := hi.commit hstage fun batchID heq => hissued ⟨batchID, heq⟩
      have hview (hash : String) (c : RecoveryCode) (hc : s.view i (.code hash) = some (.code c))
          (hactive : c.isActive = true) := hshrinks.seen hc hactive
      refine ⟨fun hnone hrolling => (hj.shrinks hnone hrolling).frame hrows, ?_, ?_⟩
      · intro change user hrevoking hbatch p hp hash c hseen hactive
        obtain ⟨c', hc', hactive', -⟩ := seen_frame hview hseen hactive
        exact hj.purging change user hrevoking hbatch p hp hash c' hc' hactive'
      · intro batchID hsome hash c hseen hactive
        obtain ⟨c', hc', hactive', heq⟩ := seen_frame hview hseen hactive
        exact heq ▸ hj.purged batchID hsome hash c' hc' hactive'
  lost i rows _ := ⟨issues_start rows rfl, fun _ _ => trivial⟩

end Valid

section Main

variable {ι : Type} [DecidableEq ι] (generateOtp : String → Int → String)

/-- An answered request does nothing more. -/
theorem answered_stays {s : System ι Key Row Stage} {i : ι} {outcome : Outcome}
    (h : (s.sessions i).stage = .answered outcome) (input : Input ι) :
    ((step (code generateOtp ι) s input).sessions i).stage = .answered outcome := by
  have hdone : (code generateOtp ι).statement i (s.sessions i).stage = .done := by
    rw [h]
    rfl
  cases input with
  | step j =>
    change ((s.advance (code generateOtp ι) j).sessions i).stage = _
    by_cases hj : i = j
    · subst hj
      unfold System.advance
      dsimp only
      rw [hdone]
      exact h
    · rw [Outline.sessions_effect hj (advance_effect _ s j)]
      exact h
  | abort j =>
    by_cases hj : i = j
    · subst hj
      unfold step
      dsimp only
      rw [hdone]
      exact h
    · rcases step_abort (code generateOtp ι) s j with heq | heq
      · rw [heq]
        exact h
      · rw [heq, s.finish_of_ne _ _ hj]
        exact h

def initial (keys : List Key) (rows : Key → Option Row) (requests : ι → Request) :
    System ι Key Row Stage :=
  .initial keys rows fun i => .waiting (requests i)

/-- No code is accepted by two logins; and unless a batch is committed while another request
replaces the codes, the active codes belong to one batch. -/
theorem single_use_one_batch {keys : List Key} {rows : Key → Option Row}
    (hkeys : ∀ k, rows k ≠ none → k ∈ keys) (hrows : OneBatch rows) (requests : ι → Request)
    (inputs : List (Input ι)) :
    (∀ i j hash,
      Accepts ((run (step (code generateOtp ι)) (initial keys rows requests) inputs).sessions i)
        hash →
      Accepts ((run (step (code generateOtp ι)) (initial keys rows requests) inputs).sessions j)
        hash → i = j) ∧
    (Meets (step (code generateOtp ι)) Apart (initial keys rows requests) inputs →
      OneBatch (run (step (code generateOtp ι)) (initial keys rows requests) inputs).rows) := by
  constructor
  · have hinitial : (usage ι).Holds (initial keys rows requests) := by
      refine ⟨wellLocked_initial _ _ _, listed_initial hkeys _, trivial, fun i => ?_, ?_⟩
      · refine uses_start ?_
        change Reached (fun _ => none) rows none (.waiting (requests i))
        cases requests i with
        | login login =>
          intro k row hk
          cases hk
        | change change => trivial
      · intro i j _ hash haccepts
        obtain ⟨remaining, hstage⟩ := haccepts
        cases hstage
    have hrun := (@usage_valid ι _ generateOtp).run hinitial
      (Meets.of_forall (fun _ _ => trivial) _ inputs)
    intro i j hash hi hj
    by_contra hne
    exact hrun.pairs i j hne hash hi hj
  · intro hapart
    have hinitial : (batches ι).Holds (initial keys rows requests) :=
      ⟨wellLocked_initial _ _ _, listed_initial hkeys _, hrows, fun _ => issues_start _ rfl,
        fun _ _ _ => trivial⟩
    exact (batches_valid.run hinitial hapart).committed

end Main

/-! ### Two batches at once -/

instance {ι : Type} [DecidableEq ι] [Fintype ι] (s : System ι Key Row Stage) :
    ∀ input, Decidable (Apart s input)
  | .step i => by
      unfold Apart
      dsimp only
      split
      · exact inferInstanceAs (Decidable (∀ j, _))
      · exact isTrue trivial
  | .abort _ => isTrue trivial

def batchA : Batch :=
  ⟨"a", ["a0", "a1", "a2", "a3", "a4", "a5", "a6", "a7", "a8", "a9"], rfl⟩

def batchB : Batch :=
  ⟨"b", ["b0", "b1", "b2", "b3", "b4", "b5", "b6", "b7", "b8", "b9"], rfl⟩

/-- In the browser, with a step-up. -/
def regenerates (batch : Batch) : Request :=
  .change ⟨.regenerateRecoveryCodes batch, true, true, true, "123456", 0, 0, id, fun _ => .refl _⟩

def bothRegenerate (i : Fin 2) : Request := regenerates (if i = 0 then batchA else batchB)

/-- A user without codes. -/
def noCodes : Key → Option Row
  | .user => some (.user ⟨⟨true, true, some "secret", none⟩, none, none, none, 1⟩)
  | .code _ => none

theorem noCodes_listed (k : Key) (h : noCodes k ≠ none) : k ∈ [Key.user] := by
  cases k with
  | user => exact List.mem_singleton_self _
  | code hash => exact absurd rfl h

theorem noCodes_oneBatch : OneBatch noCodes := ⟨"", fun _ _ h => by cases h⟩

/-- Both revoke before either commits. -/
def overlappingRun : List (Input (Fin 2)) :=
  [.step 0, .step 1, .step 0, .step 1, .step 0, .step 1] ++ List.replicate 11 (.step 0) ++
    List.replicate 11 (.step 1)

theorem two_batches_active :
    ¬ ∀ (generateOtp : String → Int → String) (keys : List Key) (rows : Key → Option Row)
      (requests : Fin 2 → Request) (inputs : List (Input (Fin 2))),
      (∀ k, rows k ≠ none → k ∈ keys) → OneBatch rows →
        (∀ i j hash,
          Accepts ((run (step (code generateOtp (Fin 2))) (initial keys rows requests)
            inputs).sessions i) hash →
          Accepts ((run (step (code generateOtp (Fin 2))) (initial keys rows requests)
            inputs).sessions j) hash → i = j) ∧
        OneBatch (run (step (code generateOtp (Fin 2))) (initial keys rows requests)
          inputs).rows := by
  intro hall
  obtain ⟨-, batchID, hbatch⟩ := hall (fun _ _ => "") [.user] noCodes bothRegenerate
    overlappingRun noCodes_listed noCodes_oneBatch
  have ha := hbatch "a0" ⟨"a", 0, none, none⟩ (by decide +kernel) rfl
  have hb := hbatch "b0" ⟨"b", 0, none, none⟩ (by decide +kernel) rfl
  exact absurd (ha.trans hb.symm) (by decide)

/-- One batch after the other. -/
theorem one_batch_after_other :
    OneBatch (run (step (code (fun _ _ => "") (Fin 2))) (initial [.user] noCodes bothRegenerate)
      (List.replicate 14 (.step 0) ++ List.replicate 24 (.step 1))).rows :=
  (single_use_one_batch (fun _ _ => "") noCodes_listed noCodes_oneBatch bothRegenerate _).2
    (by decide +kernel)

end VpsGuardian.Access.RecoveryCodes
