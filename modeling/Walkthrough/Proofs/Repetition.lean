import Walkthrough.Proofs.TopLevel

/-!
# Loops with a condition

A loop with a condition is a number of rounds and an end.  A round tests the condition, which holds,
and executes the body once; the rounds are numbered, and the state that one leaves is the state in
which the next begins (`Rounds`).  `WhileRun` lists the ways in which the loop ends after `k` rounds.
The interpreter counts down the rounds that are still allowed: `exec_repeatWhile` is its step, and
`Rounds.exec_repeatWhile` says what `k` steps of it come to.
-/

namespace Walkthrough

open Source

/-- The detail that a test in a loop records: the number of the round. -/
def iterationDetail (k : Nat) : List (String × Value) := [("iteration", .int k)]

theorem isConstant_iteration (k : Nat) (word : GuardWord) (text : String) (result : Bool) :
    (Action.condition word text result (iterationDetail k)).IsConstant := rfl

/-- The body of a loop is counted and executed. -/
def Frame.body (frame : Frame) (loop : Conditional) (env : Env) : Run Progress := do
  countIteration
  runBlock frame (Item.ofLines true loop.body) env

/-- The first `k` rounds lead to a state.  In each the condition holds, and the body is executed once
and goes on. -/
inductive Rounds (frame : Frame) (loop : Conditional) (env : Env) (m : Machine) :
    Nat → Env → Machine → Prop where
  | start : Rounds frame loop env m 0 env m
  | round {k : Nat} {env₁ env₂ : Env} {m₁ m₂ m₃ m₄ : Machine} :
      Rounds frame loop env m k env₁ m₁ → k < frame.config.maxIterations.toNat →
      frame.Judges loop.header loop.guard (iterationDetail k) env₁ m₁ (.holds true) m₂ →
      exec (frame.body loop env₁) m₂ = (.ok (.goingOn env₂), m₃) →
      exec (countStatement frame.config) m₃ = (.ok (), m₄) →
      Rounds frame loop env m (k + 1) env₂ m₄

/-- The ways in which a loop ends after `k` rounds. -/
inductive WhileRun (frame : Frame) (loop : Conditional) (env : Env) (m : Machine) :
    Nat → Except Failure Progress × Machine → Prop where
  /-- The condition does not hold. -/
  | done {k : Nat} {env₁ : Env} {m₁ m₂ : Machine} : Rounds frame loop env m k env₁ m₁ →
      frame.Judges loop.header loop.guard (iterationDetail k) env₁ m₁ (.holds false) m₂ →
      WhileRun frame loop env m k (.ok (.goingOn env₁), m₂)
  /-- The condition fails, which is recorded at the top level. -/
  | failed {k : Nat} {env₁ : Env} {m₁ m₂ : Machine} {cause : EvalError} :
      Rounds frame loop env m k env₁ m₁ →
      frame.Judges loop.header loop.guard (iterationDetail k) env₁ m₁ (.fails cause) m₂ →
      frame.inFunction = false → WhileRun frame loop env m k (.ok (.goingOn env₁), m₂)
  /-- The condition fails in a function. -/
  | raised {k : Nat} {env₁ : Env} {m₁ m₂ : Machine} {cause : EvalError} :
      Rounds frame loop env m k env₁ m₁ →
      frame.Judges loop.header loop.guard (iterationDetail k) env₁ m₁ (.fails cause) m₂ →
      frame.inFunction = true → WhileRun frame loop env m k (.error (.error cause), m₂)
  /-- The body returns, in a function. -/
  | returned {k : Nat} {env₁ env₂ : Env} {m₁ m₂ m₃ : Machine} {value : Value} :
      Rounds frame loop env m k env₁ m₁ → k < frame.config.maxIterations.toNat →
      frame.Judges loop.header loop.guard (iterationDetail k) env₁ m₁ (.holds true) m₂ →
      exec (frame.body loop env₁) m₂ = (.ok ⟨env₂, some value⟩, m₃) → frame.inFunction = true →
      WhileRun frame loop env m k (.ok ⟨env₂, some value⟩, m₃)
  /-- The condition still holds after the last round that is allowed: one more error is recorded at
  the top level. -/
  | limited {env₁ : Env} {m₁ m₂ m₃ : Machine} :
      Rounds frame loop env m frame.config.maxIterations.toNat env₁ m₁ →
      frame.Judges loop.header loop.guard (iterationDetail frame.config.maxIterations.toNat) env₁ m₁
        (.holds true) m₂ →
      frame.inFunction = false →
      exec (frame.record loop.header
        (.error (EvalError.loopLimit frame.config.maxIterations).message) env₁) m₂ = (.ok (), m₃) →
      frame.Adds loop.header (.error (EvalError.loopLimit frame.config.maxIterations).message) m₂ m₃ →
      WhileRun frame loop env m frame.config.maxIterations.toNat (.ok (.goingOn env₁), m₃)
  /-- The same in a function. -/
  | limitRaised {env₁ : Env} {m₁ m₂ : Machine} :
      Rounds frame loop env m frame.config.maxIterations.toNat env₁ m₁ →
      frame.Judges loop.header loop.guard (iterationDetail frame.config.maxIterations.toNat) env₁ m₁
        (.holds true) m₂ →
      frame.inFunction = true →
      WhileRun frame loop env m frame.config.maxIterations.toNat
        (.error (.error (.loopLimit frame.config.maxIterations)), m₂)
  /-- The whole run stops during the test. -/
  | stopped {k : Nat} {env₁ : Env} {m₁ m₂ : Machine} {failure : Failure} :
      Rounds frame loop env m k env₁ m₁ →
      frame.Judges loop.header loop.guard (iterationDetail k) env₁ m₁ (.stops failure) m₂ →
      WhileRun frame loop env m k (.error failure, m₂)
  /-- The body ends with a failure. -/
  | broken {k : Nat} {env₁ : Env} {m₁ m₂ m₃ : Machine} {failure : Failure} :
      Rounds frame loop env m k env₁ m₁ → k < frame.config.maxIterations.toNat →
      frame.Judges loop.header loop.guard (iterationDetail k) env₁ m₁ (.holds true) m₂ →
      exec (frame.body loop env₁) m₂ = (.error failure, m₃) →
      WhileRun frame loop env m k (.error failure, m₃)
  /-- A budget is used up behind the body. -/
  | uncounted {k : Nat} {env₁ env₂ : Env} {m₁ m₂ m₃ m₄ : Machine} {failure : Failure} :
      Rounds frame loop env m k env₁ m₁ → k < frame.config.maxIterations.toNat →
      frame.Judges loop.header loop.guard (iterationDetail k) env₁ m₁ (.holds true) m₂ →
      exec (frame.body loop env₁) m₂ = (.ok (.goingOn env₂), m₃) →
      exec (countStatement frame.config) m₃ = (.error failure, m₄) →
      WhileRun frame loop env m k (.error failure, m₄)
  /-- A budget is used up where the limit is to be recorded. -/
  | limitUnrecorded {env₁ : Env} {m₁ m₂ m₃ : Machine} {failure : Failure} :
      Rounds frame loop env m frame.config.maxIterations.toNat env₁ m₁ →
      frame.Judges loop.header loop.guard (iterationDetail frame.config.maxIterations.toNat) env₁ m₁
        (.holds true) m₂ →
      exec (frame.record loop.header
        (.error (EvalError.loopLimit frame.config.maxIterations).message) env₁) m₂ =
          (.error failure, m₃) →
      WhileRun frame loop env m frame.config.maxIterations.toNat (.error failure, m₃)

section

variable {frame : Frame} {loop : Conditional} {env env₁ : Env}

/-! ## The steps of the interpreter -/

/-- What the interpreter still has to do when `room` more rounds are allowed. -/
def Frame.repeatFrom (frame : Frame) (loop : Conditional) (room iteration : Nat) (env : Env) :
    Run Progress :=
  frame.repeatWhile loop.header (.ofText loop.header.code)
    (fun env => runBlock frame (Item.ofLines true loop.body) env) room iteration env

theorem exec_repeatFrom (room : Nat) :
    exec (frame.repeatFrom loop room k env) m =
      match frame.judge loop.header loop.guard (iterationDetail k) env m with
      | (.holds true, m') =>
        match room with
        | 0 => exec (do
            frame.refuse loop.header (.loopLimit frame.config.maxIterations) env
            return .goingOn env) m'
        | room + 1 => exec (do
            let progress ← frame.body loop env
            match progress.returned with
            | some _ => return progress
            | none =>
              countStatement frame.config
              frame.repeatFrom loop room (k + 1) progress.env) m'
      | (.holds false, m') => (.ok (.goingOn env), m')
      | (.fails cause, m') =>
        if frame.inFunction then (.error (.error cause), m') else (.ok (.goingOn env), m')
      | (.stops failure, m') => (.error failure, m') := by
  have hdetail : [("iteration", Value.int k)] = iterationDetail k := rfl
  rw [Frame.repeatFrom, Frame.repeatWhile.eq_def]
  dsimp only
  rw [hdetail, exec_judge loop.guard?_eq]
  generalize frame.judge loop.header loop.guard (iterationDetail k) env m = judged
  rcases judged with ⟨(_ | _) | _ | _, m'⟩
  · rfl
  · cases room with
    | zero => rfl
    | succ room =>
      dsimp only [Effect.done]
      rfl
  · rfl
  · rfl

/-- A round begins if the condition holds and the limit is not reached. -/
theorem exec_repeatFrom_round (hk : k < frame.config.maxIterations.toNat)
    (hjudges : frame.Judges loop.header loop.guard (iterationDetail k) env m (.holds true) m') :
    exec (frame.repeatFrom loop (frame.config.maxIterations.toNat - k) k env) m = exec (do
      let progress ← frame.body loop env
      match progress.returned with
      | some _ => return progress
      | none =>
        countStatement frame.config
        frame.repeatFrom loop (frame.config.maxIterations.toNat - (k + 1)) (k + 1) progress.env) m' := by
  rw [show frame.config.maxIterations.toNat - k =
    frame.config.maxIterations.toNat - (k + 1) + 1 by omega, exec_repeatFrom, hjudges.judged]

/-- The interpreter has done the first `k` rounds, and has room for the others. -/
theorem Rounds.exec_repeatFrom (h : Rounds frame loop env m k env₁ m₁) :
    k ≤ frame.config.maxIterations.toNat ∧
      exec (frame.repeatFrom loop frame.config.maxIterations.toNat 0 env) m =
        exec (frame.repeatFrom loop (frame.config.maxIterations.toNat - k) k env₁) m₁ := by
  induction h with
  | start => exact ⟨Nat.zero_le _, rfl⟩
  | @round k env₁ env₂ m₁ m₂ m₃ m₄ _ hk hjudges hbody hcount ih =>
    refine ⟨hk, ih.2.trans ?_⟩
    rw [exec_repeatFrom_round hk hjudges, exec_bind_ok hbody]
    exact exec_bind_ok hcount

/-- The interpreter refuses to go on. -/
theorem Rounds.exec_limit (h : Rounds frame loop env m frame.config.maxIterations.toNat env₁ m₁)
    (hjudges : frame.Judges loop.header loop.guard
      (iterationDetail frame.config.maxIterations.toNat) env₁ m₁ (.holds true) m₂) :
    exec (frame.repeatFrom loop frame.config.maxIterations.toNat 0 env) m =
      match exec (frame.record loop.header
        (.error (EvalError.loopLimit frame.config.maxIterations).message) env₁) m₂ with
      | (.ok (), m') => (if frame.inFunction then
          .error (.error (.loopLimit frame.config.maxIterations)) else .ok (.goingOn env₁), m')
      | (.error failure, m') => (.error failure, m') := by
  rw [h.exec_repeatFrom.2, Nat.sub_self, Walkthrough.exec_repeatFrom, hjudges.judged]
  dsimp only
  rw [exec_bind, Frame.refuse, exec_commit_failed]
  generalize exec (frame.record loop.header _ env₁) m₂ = ending
  rcases ending with ⟨failure | ⟨⟩, m'⟩
  · rfl
  · cases frame.inFunction <;> rfl

/-! ## The run as a whole -/

/-- Every way to end is what the interpreter does. -/
theorem WhileRun.exec_repeatFrom (h : WhileRun frame loop env m k outcome) :
    k ≤ frame.config.maxIterations.toNat ∧
      exec (frame.repeatFrom loop frame.config.maxIterations.toNat 0 env) m = outcome := by
  cases h with
  | done hrounds hjudges =>
    obtain ⟨hk, hexec⟩ := hrounds.exec_repeatFrom
    exact ⟨hk, by rw [hexec, Walkthrough.exec_repeatFrom, hjudges.judged]⟩
  | failed hrounds hjudges htop =>
    obtain ⟨hk, hexec⟩ := hrounds.exec_repeatFrom
    exact ⟨hk, by rw [hexec, Walkthrough.exec_repeatFrom, hjudges.judged, htop]; rfl⟩
  | raised hrounds hjudges hinFunction =>
    obtain ⟨hk, hexec⟩ := hrounds.exec_repeatFrom
    exact ⟨hk, by rw [hexec, Walkthrough.exec_repeatFrom, hjudges.judged, hinFunction]; rfl⟩
  | returned hrounds hk hjudges hbody _ =>
    obtain ⟨_, hexec⟩ := hrounds.exec_repeatFrom
    exact ⟨hk.le, by rw [hexec, exec_repeatFrom_round hk hjudges, exec_bind_ok hbody]; rfl⟩
  | limited hrounds hjudges htop hrecord _ =>
    exact ⟨Nat.le_refl _, by rw [hrounds.exec_limit hjudges, hrecord, htop]; rfl⟩
  | limitRaised hrounds hjudges hinFunction =>
    refine ⟨Nat.le_refl _, ?_⟩
    rw [hrounds.exec_limit hjudges, Frame.record_inFunction hinFunction, hinFunction]
    rfl
  | stopped hrounds hjudges =>
    obtain ⟨hk, hexec⟩ := hrounds.exec_repeatFrom
    exact ⟨hk, by rw [hexec, Walkthrough.exec_repeatFrom, hjudges.judged]⟩
  | broken hrounds hk hjudges hbody =>
    obtain ⟨_, hexec⟩ := hrounds.exec_repeatFrom
    exact ⟨hk.le, by rw [hexec, exec_repeatFrom_round hk hjudges, exec_bind_error hbody]⟩
  | uncounted hrounds hk hjudges hbody hcount =>
    obtain ⟨_, hexec⟩ := hrounds.exec_repeatFrom
    refine ⟨hk.le, ?_⟩
    rw [hexec, exec_repeatFrom_round hk hjudges, exec_bind_ok hbody]
    exact exec_bind_error hcount
  | limitUnrecorded hrounds hjudges hrecord =>
    exact ⟨Nat.le_refl _, by rw [hrounds.exec_limit hjudges, hrecord]⟩

/-- Nothing returns at the top level. -/
theorem Frame.inFunction_of_returned
    (hbody : exec (frame.body loop env₁) m₂ = (.ok ⟨env₂, some value⟩, m₃)) :
    frame.inFunction = true := by
  cases htop : frame.inFunction with
  | true => rfl
  | false =>
    have hgoesOn : Yields (frame.body loop env₁) fun progress => progress.returned = none :=
      Yields.bind fun _ => runBlock_goesOn htop _ _
    cases hgoesOn _ _ _ hbody

/-- A test that does not let the body be executed ends the loop. -/
theorem Rounds.ends (hrounds : Rounds frame loop env m k env₁ m₁)
    (hjudges : frame.Judges loop.header loop.guard (iterationDetail k) env₁ m₁ verdict m₂)
    (hverdict : verdict ≠ .holds true) : ∃ outcome, WhileRun frame loop env m k outcome := by
  cases verdict with
  | holds result =>
    cases result with
    | true => exact absurd rfl hverdict
    | false => exact ⟨_, .done hrounds hjudges⟩
  | fails cause =>
    cases hinFunction : frame.inFunction with
    | true => exact ⟨_, .raised hrounds hjudges hinFunction⟩
    | false => exact ⟨_, .failed hrounds hjudges hinFunction⟩
  | stops failure => exact ⟨_, .stopped hrounds hjudges⟩

/-- So does the limit. -/
theorem Rounds.reachesLimit (hrounds : Rounds frame loop env m frame.config.maxIterations.toNat env₁ m₁)
    (hjudges : frame.Judges loop.header loop.guard (iterationDetail frame.config.maxIterations.toNat)
      env₁ m₁ (.holds true) m₂) :
    ∃ outcome, WhileRun frame loop env m frame.config.maxIterations.toNat outcome := by
  cases hinFunction : frame.inFunction with
  | true => exact ⟨_, .limitRaised hrounds hjudges hinFunction⟩
  | false =>
    rcases hrecord : exec (frame.record loop.header
      (.error (EvalError.loopLimit frame.config.maxIterations).message) env₁) m₂ with
      ⟨failure | ⟨⟩, m₃⟩
    · exact ⟨_, .limitUnrecorded hrounds hjudges hrecord⟩
    · exact ⟨_, .limited hrounds hjudges hinFunction hrecord
        (Frame.record_adds (Action.isConstant_error _) hrecord)⟩

/-- From every state the loop ends in one of the ways: there is room for finitely many rounds. -/
theorem exists_whileRun (room : Nat) (hroom : k + room = config.maxIterations.toNat)
    (hrounds : Rounds (Frame.calling config inFunction space depth) loop env m k env₁ m₁) :
    ∃ k' outcome, WhileRun (Frame.calling config inFunction space depth) loop env m k' outcome := by
  induction room generalizing k env₁ m₁ with
  | zero =>
    obtain rfl : k = config.maxIterations.toNat := hroom
    obtain ⟨verdict, m₂, hjudges⟩ := Frame.exists_judges config inFunction space depth loop.header
      loop.guard (isConstant_iteration config.maxIterations.toNat) env₁ m₁
    by_cases hverdict : verdict = .holds true
    · subst hverdict
      exact ⟨_, hrounds.reachesLimit hjudges⟩
    · exact ⟨_, hrounds.ends hjudges hverdict⟩
  | succ room ih =>
    have hk : k < config.maxIterations.toNat := by omega
    obtain ⟨verdict, m₂, hjudges⟩ := Frame.exists_judges config inFunction space depth loop.header
      loop.guard (isConstant_iteration k) env₁ m₁
    by_cases hverdict : verdict = .holds true
    · subst hverdict
      rcases hbody : exec ((Frame.calling config inFunction space depth).body loop env₁) m₂ with
        ⟨failure | ⟨env₂, _ | value⟩, m₃⟩
      · exact ⟨_, _, .broken hrounds hk hjudges hbody⟩
      · rcases hcount : exec (countStatement config) m₃ with ⟨failure | ⟨⟩, m₄⟩
        · exact ⟨_, _, .uncounted hrounds hk hjudges hbody hcount⟩
        · exact ih (by omega) (.round hrounds hk hjudges hbody hcount)
      · refine ⟨_, _, .returned hrounds hk hjudges hbody ?_⟩
        exact Frame.inFunction_of_returned hbody
    · exact ⟨_, hrounds.ends hjudges hverdict⟩

end

/-- Lines that begin with a loop. -/
theorem Conditional.ofLines_while {loop : Conditional} (hword : loop.guard.word = .whileWord)
    (hfits : loop.Fits rest) : Item.ofLines true (loop.lines ++ rest) =
      .repeat loop.header (.ofText loop.header.code) (Item.ofLines true loop.body) ::
        Item.ofLines true rest := by
  have hkind : HeaderKind.ofCode true (loop.paragraph rest).line.code = .repeat :=
    Guard.headerKind_while loop.reads hword
  rw [hfits.ofLines true, Paragraph.shape, hkind, Stanza.rest_paragraph]
  rfl

/-- A loop with a condition follows its reference semantics: its lines are one item in front of the
lines behind it, and in every frame, scope and machine the ways in which this item is executed are
exactly those of a number of rounds, at most as many as are allowed, and an end. -/
theorem while_follows_rounds (config : Config) (inFunction : Bool) (room depth : Nat)
    (loop : Conditional) (rest : List Line) (hword : loop.guard.word = .whileWord)
    (hfits : loop.Fits rest) :
    ∃ item, Item.ofLines true (loop.lines ++ rest) = item :: Item.ofLines true rest ∧
      ∀ env m outcome,
        exec (runItem (Frame.calling config inFunction room depth) item env) m = outcome ↔
          ∃ k ≤ config.maxIterations.toNat,
            WhileRun (Frame.calling config inFunction room depth) loop env m k outcome := by
  refine ⟨_, Conditional.ofLines_while hword hfits, ?_⟩
  intro env m outcome
  have hitem : exec (runItem (Frame.calling config inFunction room depth)
      (.repeat loop.header (.ofText loop.header.code) (Item.ofLines true loop.body)) env) m =
      exec ((Frame.calling config inFunction room depth).repeatFrom loop
        config.maxIterations.toNat 0 env) m := by
    rw [runItem]
    rfl
  rw [hitem]
  constructor
  · intro houtcome
    have hstart : Rounds (Frame.calling config inFunction room depth) loop env m 0 env m := .start
    obtain ⟨k, outcome', hrun⟩ :=
      exists_whileRun config.maxIterations.toNat (Nat.zero_add _) hstart
    obtain ⟨hk, hexec⟩ := hrun.exec_repeatFrom
    obtain rfl : outcome' = outcome := hexec.symm.trans houtcome
    exact ⟨k, hk, hrun⟩
  · intro hrun
    obtain ⟨k, _, hrun⟩ := hrun
    exact hrun.exec_repeatFrom.2

/-- A loop that counts up to three. -/
def countingLoop : Conditional :=
  (Conditional.ofStanza? {
    gap := [Line.ofText 0 ""]
    first := Line.ofText 1 "while (n <"
    more := [Line.ofText 2 "       3):"]
    body := [Line.ofText 3 "    # up", Line.ofText 4 "    n = n + 1"] }).get (by decide +kernel)

theorem while_follows_rounds_counting :
    countingLoop.guard.word = .whileWord ∧ countingLoop.Fits [Line.ofText 5 "print(n)"] ∧
      ∃ item, Item.ofLines true (countingLoop.lines ++ [Line.ofText 5 "print(n)"]) =
          item :: Item.ofLines true [Line.ofText 5 "print(n)"] ∧
        ∀ env m outcome, exec (runItem (Frame.calling .usual false callLimit 0) item env) m = outcome ↔
          ∃ k ≤ Config.usual.maxIterations.toNat,
            WhileRun (Frame.calling .usual false callLimit 0) countingLoop env m k outcome :=
  have hword : countingLoop.guard.word = .whileWord := by decide
  have hfits : countingLoop.Fits [Line.ofText 5 "print(n)"] := by decide +kernel
  ⟨hword, hfits, while_follows_rounds .usual false callLimit 0 countingLoop _ hword hfits⟩

end Walkthrough
