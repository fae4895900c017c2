import Walkthrough.Proofs.Layout
import Walkthrough.Proofs.Recovery

/-!
# Testing conditions

What one test of a header comes to.  `Frame.judge` says it in one place: the condition is evaluated,
what came of it is recorded on the line of the header, and there are three verdicts.  It holds or
not, or its evaluation failed with an error, or the whole run stops.  `exec_judge` says that the
interpreter does this wherever it tests a condition, and `Frame.judge_adds` what a reader of the
trace sees of it.
-/

namespace Walkthrough

open Source Text

variable {guard : Guard} {action : Action}

/-! ## The word of a header -/

/-- How a word that introduces a condition is written. -/
def GuardWord.spelling : GuardWord → String
  | .ifWord => "if"
  | .elifWord => "elif"
  | .whileWord => "while"

theorem Guard.ofHeader?_spelling (h : Guard.ofHeader? text = some guard) :
    ∃ condition, headerBody? guard.word.spelling text.toList = some condition := by
  unfold Guard.ofHeader? at h
  rw [Option.orElse_eq_some, Option.orElse_eq_some] at h
  rcases h with h | ⟨_, h | ⟨_, h⟩⟩
  all_goals
    obtain ⟨condition, hbody, rfl⟩ := Option.map_eq_some_iff.mp h
    exact ⟨condition, hbody⟩

/-- A text behind a word begins with the word and white space. -/
theorem afterWord?_eq_some {text rest : List Char} (h : afterWord? word text = some rest) :
    ∃ c tail, text = word.toList ++ c :: tail ∧ isBlank c = true := by
  unfold afterWord? at h
  split at h
  · next hword =>
    obtain ⟨tail, rfl⟩ := List.isPrefixOf_iff_prefix.mp hword
    rw [← String.length_toList, List.drop_left] at h
    split at h
    · next c tail =>
      split at h
      · next hblank => exact ⟨c, tail, rfl, hblank⟩
      · contradiction
    · contradiction
  · contradiction

theorem headerBody?_eq_some {condition : String} {text : List Char}
    (h : headerBody? word text = some condition) :
    text.getLast? = some ':' ∧ ∃ c tail, text = word.toList ++ c :: tail ∧ isBlank c = true := by
  obtain ⟨inner, hinner, h⟩ := Option.bind_eq_some_iff.mp h
  obtain ⟨rest, hrest, _⟩ := Option.bind_eq_some_iff.mp h
  unfold beforeColon? at hinner
  split at hinner
  · next hcolon =>
    cases hinner
    obtain ⟨c, tail, hword, hblank⟩ := afterWord?_eq_some hrest
    have hlast : text.getLast? = some ':' := beq_iff_eq.mp hcolon
    obtain ⟨front, rfl⟩ := List.getLast?_eq_some_iff.mp hlast
    rw [List.dropLast_concat] at hword
    refine ⟨hlast, c, tail ++ [':'], ?_, hblank⟩
    rw [hword, List.append_assoc, List.cons_append]
  · contradiction

/-- The word before white space is the first one. -/
theorem headWord_of_word (hword : ∃ c ∈ word.toList, isBlank c = false)
    (htext : text.toList = word.toList ++ c :: tail) (hblank : isBlank c = true) :
    headWord text = headWord word := by
  rw [headWord, headWord, firstWord_eq, firstWord_eq, htext, leadingWord_append hword]
  intro d hd
  cases hd
  exact hblank

/-- The first word of a header with a condition is the one that introduces it. -/
theorem Guard.headWord_eq (h : Guard.ofHeader? text = some guard) :
    headWord text = guard.word.spelling := by
  obtain ⟨condition, hbody⟩ := Guard.ofHeader?_spelling h
  obtain ⟨_, c, tail, htext, hblank⟩ := headerBody?_eq_some hbody
  refine (headWord_of_word ?_ htext hblank).trans ?_
  · cases guard.word
    · exact ⟨'i', by decide, by decide⟩
    · exact ⟨'e', by decide, by decide⟩
    · exact ⟨'w', by decide, by decide⟩
  · cases guard.word <;> decide

/-- A text cannot begin with two words that begin differently. -/
theorem afterWord?_eq_none {other : String} {text tail : List Char} (htext : text = other.toList ++ tail)
    (hother : other.toList ≠ []) (hne : other.toList.head? ≠ word.toList.head?)
    (hword : word.toList ≠ []) :
    afterWord? word text = none := by
  cases h : afterWord? word text with
  | none => rfl
  | some rest =>
    obtain ⟨c, tail', htext', _⟩ := afterWord?_eq_some h
    have hhead : text.head? = word.toList.head? := by
      rw [htext', List.head?_append_of_ne_nil _ hword]
    rw [htext, List.head?_append_of_ne_nil _ hother] at hhead
    exact absurd hhead hne

/-- A header with a condition introduces neither a loop over elements nor a function. -/
theorem Guard.headerKind_eq (h : Guard.ofHeader? code = some guard) :
    HeaderKind.ofCode true code =
      if headWord code == "if" then .choose
      else if headWord code == "while" then .repeat
      else if isAlternative code then .skip
      else .none := by
  obtain ⟨condition, hbody⟩ := Guard.ofHeader?_spelling h
  obtain ⟨hlast, c, tail, htext, _⟩ := headerBody?_eq_some hbody
  have hnone (word : String) (hword : word.toList ≠ [])
      (hne : ∀ other : GuardWord, other.spelling.toList.head? ≠ word.toList.head?) :
      afterWord? word code.toList = none :=
    afterWord?_eq_none htext (by cases guard.word <;> decide) (hne guard.word) hword
  have hloop : Loop.ofHeader? code = none := by
    rw [Loop.ofHeader?, hnone "for" (by decide) (by intro other; cases other <;> decide)]
    rfl
  have hdefine : Definition.ofHeader? code = none := by
    rw [Definition.ofHeader?,
      hnone "def" (by decide) (by intro other; cases other <;> decide)]
    rfl
  rw [HeaderKind.ofCode, hlast, hloop, hdefine, if_neg (by simp)]
  rw [if_neg (by simp)]

theorem Guard.headerKind_if (h : Guard.ofHeader? code = some guard) (hword : guard.word = .ifWord) :
    HeaderKind.ofCode true code = .choose := by
  rw [Guard.headerKind_eq h, Guard.headWord_eq h, hword]
  exact if_pos (by decide)

theorem Guard.headerKind_while (h : Guard.ofHeader? code = some guard) (hword : guard.word = .whileWord) :
    HeaderKind.ofCode true code = .repeat := by
  rw [Guard.headerKind_eq h, Guard.headWord_eq h, hword, if_neg (by decide)]
  exact if_pos (by decide)

/-! ## The verdict -/

/-- What the test of a condition comes to. -/
inductive Verdict where
  | holds (result : Bool)
  | fails (cause : EvalError)
  /-- The whole run stops. -/
  | stops (failure : Failure)

/-- The verdict of evaluating a condition, and the machine that this leaves.  A run that stops takes
back what was printed on the way. -/
def Guard.verdict (guard : Guard) (context : Context) (env : Env) (m : Machine) :
    Verdict × Machine :=
  match exec (guard.reading.evaluate context env) m with
  | (.ok value, m') => (.holds (value.isTruthy m'.store), m')
  | (.error (.error cause), m') => (.fails cause, m')
  | (.error failure, m') => (.stops failure, { m' with output := m.output })

/-- A verdict is passed on if it could be recorded. -/
def Verdict.recorded (verdict : Verdict) : Except Failure Unit × Machine → Verdict × Machine
  | (.ok (), m) => (verdict, m)
  | (.error failure, m) => (.stops failure, m)

/-- Tests the condition of a header and records what came of it; `extra` are further details. -/
def Frame.judge (frame : Frame) (header : Line) (guard : Guard) (extra : List (String × Value))
    (env : Env) (m : Machine) : Verdict × Machine :=
  match guard.verdict frame.context env m with
  | (.holds result, m') => (Verdict.holds result).recorded <| exec
      (frame.record header (.condition guard.word guard.condition result extra) env) m'
  | (.fails cause, m') =>
    (Verdict.fails cause).recorded <| exec (frame.record header (.error cause.message) env) m'
  | (.stops failure, m') => (.stops failure, m')

section

variable {frame : Frame} {header : Line} {guard : Guard} {extra : List (String × Value)} {env : Env}
  {m m' : Machine}

theorem exec_commit_done (action : Action) (a : α) :
    exec (frame.commit header (.done action env a)) m = exec (frame.record header action env) m := by
  change exec (frame.record header action env >>= fun _ => pure ()) m = _
  rw [exec_bind]
  rcases exec (frame.record header action env) m with ⟨_ | ⟨⟩, m'⟩ <;> rfl

/-- Recording an error ends a call in a function. -/
theorem exec_commit_failed (cause : EvalError) :
    exec (frame.commit header (.failed env cause : Effect α)) m =
      match exec (frame.record header (.error cause.message) env) m with
      | (.ok (), m') => (if frame.inFunction then .error (.error cause) else .ok (), m')
      | (.error failure, m') => (.error failure, m') := by
  change exec (frame.record header (.error cause.message) env >>= fun _ =>
    if frame.inFunction then Run.fail cause else pure ()) m = _
  rw [exec_bind]
  rcases exec (frame.record header (.error cause.message) env) m with ⟨_ | ⟨⟩, m'⟩
  · rfl
  · dsimp only
    split <;> rfl

/-- The effect of a test. -/
theorem exec_test {condition : Condition} (hguard : condition.guard? = some guard)
    (context : Context) :
    exec (condition.test context extra env) m =
      match guard.verdict context env m with
      | (.holds result, m') =>
        (.ok (.done (.condition guard.word guard.condition result extra) env result), m')
      | (.fails cause, m') => (.ok (.failed env cause), m')
      | (.stops failure, m') => (.error failure, m') := by
  have htest : exec (testGuard context guard extra env) m =
      match exec (guard.reading.evaluate context env) m with
      | (.ok value, m') => (.ok (.done (.condition guard.word guard.condition
          (value.isTruthy m'.store) extra) env (value.isTruthy m'.store)), m')
      | (.error failure, m') => (.error failure, m') := by
    rw [testGuard, exec_bind]
    rcases exec (guard.reading.evaluate context env) m with ⟨failure | value, m'⟩ <;> rfl
  rw [Condition.test, hguard, exec_attempt, htest, Guard.verdict]
  rcases exec (guard.reading.evaluate context env) m with ⟨failure | value, m'⟩
  · cases failure <;> rfl
  · rfl

/-- Wherever a condition is tested, the run goes on with the verdict.  In a function an error ends
it. -/
theorem exec_judge {condition : Condition} (hguard : condition.guard? = some guard)
    {next : Effect Bool → Run α} :
    exec (do
      let effect ← condition.test frame.context extra env
      frame.commit header effect
      next effect) m =
      match frame.judge header guard extra env m with
      | (.holds result, m') =>
        exec (next (.done (.condition guard.word guard.condition result extra) env result)) m'
      | (.fails cause, m') =>
        if frame.inFunction then (.error (.error cause), m') else exec (next (.failed env cause)) m'
      | (.stops failure, m') => (.error failure, m') := by
  rw [exec_bind, exec_test hguard, Frame.judge]
  rcases guard.verdict frame.context env m with ⟨result | cause | failure, m₁⟩
  · dsimp only
    rw [exec_bind, exec_commit_done]
    generalize exec (frame.record header _ env) m₁ = recorded
    rcases recorded with ⟨failure | ⟨⟩, m₂⟩ <;> rfl
  · dsimp only
    rw [exec_bind, exec_commit_failed]
    generalize exec (frame.record header _ env) m₁ = recorded
    rcases recorded with ⟨failure | ⟨⟩, m₂⟩
    · rfl
    · dsimp only [Verdict.recorded]
      cases frame.inFunction <;> rfl
  · rfl

/-! ## What is recorded -/

/-- What recording an action on a line does to the steps: at the top level one is added, in a function
none. -/
def Frame.Adds (frame : Frame) (line : Line) (action : Action) (m m' : Machine) : Prop :=
  if frame.inFunction then m'.steps = m.steps
  else ∃ step, m'.steps = m.steps.push step ∧ step.line = line.index ∧ step.action = action

/-- Copying an action gives the same action. -/
def Action.IsConstant (action : Action) : Prop :=
  action.mapM (copyValue nestingLimit) = (pure action : CopyM Action)

theorem Action.isConstant_error (message : String) : (Action.error message).IsConstant := rfl

theorem stepParts_constant (hconstant : action.IsConstant)
    (h : stepParts store action env = (.ok (bindings, action'), store')) : action' = action := by
  unfold stepParts at h
  split at h
  · cases h
  · split at h
    · cases h
    · next heq =>
      cases h
      rw [Store.snapshot, hconstant] at heq
      cases heq
      rfl

theorem Frame.record_inFunction (hinFunction : frame.inFunction = true) (action : Action) :
    frame.record header action env = pure () := by
  rw [Frame.record, if_pos hinFunction]

theorem Frame.record_top (htop : frame.inFunction = false) (action : Action) :
    frame.record header action env = (Frame.top frame.config).record header action env := by
  rw [Frame.record, Frame.record, htop]
  rfl

/-- How recording at the top level ends. -/
theorem exec_record_cases (config : Config) (line : Line) (action : Action) (env : Env) (m : Machine) :
    (∃ failure m', exec ((Frame.top config).record line action env) m = (.error failure, m') ∧
      ¬ failure.IsError ∧ m'.steps = m.steps) ∨
    ∃ bindings copied store,
      stepParts m.store action env = (.ok (bindings, copied), store) ∧
      exec ((Frame.top config).record line action env) m =
        (.ok (), (m.noted config .passed).withStep store
          { index := m.steps.size, line := line.index, action := copied, bindings,
            output := m.output }) := by
  have hstore : (m.noted config .passed).store = m.store := by rw [Machine.noted_eq]
  have hsteps : (m.noted config .passed).steps = m.steps := by rw [Machine.noted_eq]
  rw [exec_record_top]
  split
  · exact .inl ⟨_, _, rfl, id, hsteps⟩
  · rw [exec_addStep, hstore, hsteps]
    rcases hparts : stepParts m.store action env with ⟨failure | ⟨bindings, copied⟩, store⟩
    · obtain rfl := stepParts_failsAs hparts
      exact .inl ⟨_, _, rfl, id, rfl⟩
    · exact .inr ⟨bindings, copied, store, rfl, rfl⟩

theorem Frame.record_adds (hconstant : action.IsConstant)
    (h : exec (frame.record header action env) m = (.ok (), m')) :
    frame.Adds header action m m' := by
  unfold Frame.Adds
  split
  · next hinFunction =>
    rw [Frame.record_inFunction hinFunction] at h
    cases h
    rfl
  · next htop =>
    rw [Frame.record_top (by simpa using htop)] at h
    rcases exec_record_cases frame.config header action env m with
      ⟨failure, m₁, hfailed, _, _⟩ | ⟨bindings, copied, store, hparts, hrecorded⟩
    · rw [hfailed] at h
      cases h
    · rw [hrecorded] at h
      cases h
      have hsteps : (m.noted frame.config .passed).steps = m.steps := by rw [Machine.noted_eq]
      obtain rfl := stepParts_constant hconstant hparts
      exact ⟨_, by rw [Machine.withStep, hsteps], rfl, rfl⟩

theorem Frame.record_aborts {failure : Failure}
    (h : exec (frame.record header action env) m = (.error failure, m')) : ¬ failure.IsError := by
  cases hinFunction : frame.inFunction with
  | true =>
    rw [Frame.record_inFunction hinFunction] at h
    cases h
  | false =>
    rw [Frame.record_top hinFunction] at h
    rcases exec_record_cases frame.config header action env m with
      ⟨failure', m₁, hfailed, haborts, _⟩ | ⟨_, _, _, _, hrecorded⟩
    · rw [hfailed] at h
      cases h
      exact haborts
    · rw [hrecorded] at h
      cases h

/-- Evaluation adds no steps, whatever it calls. -/
def Monitor.steps (config : Config) : Monitor config where
  holds m _ m' := m'.steps = m.steps
  moves _ _ _ _ _ := rfl
  trans h h' := h'.trans h
  settle _ h := h
  rollBack _ h := h
  statement m := by
    rw [exec_countStatement, Machine.counted, Machine.noted_eq]
  tally _ _ _ := rfl
  note m event := by rw [Machine.noted_eq]

/-- The frames in which blocks are executed: that of a whole program and those of calls. -/
def Frame.calling (config : Config) (inFunction : Bool) (room depth : Nat) : Frame where
  config
  inFunction
  call := callFunction config room depth

theorem Guard.verdict_steps {config : Config} {verdict : Verdict}
    (h : guard.verdict (Frame.calling config inFunction room depth).context env m = (verdict, m')) :
    m'.steps = m.steps := by
  have hcalls := (Monitor.steps config).calls inFunction room depth
  have hsteps : (exec (guard.reading.evaluate (Frame.calling config inFunction room depth).context env)
      m).2.steps = m.steps :=
    (hcalls.reading (envLike_refl env) guard.reading rfl).watches m
  unfold Guard.verdict at h
  split at h <;> next heq =>
    cases h
    rwa [heq] at hsteps

theorem Frame.Adds.of_steps (h : frame.Adds line action m₁ m') (hsteps : m₁.steps = m.steps) :
    frame.Adds line action m m' := by
  unfold Frame.Adds at h ⊢
  rwa [← hsteps]

/-- What a reader of the trace sees of a test. -/
def Verdict.Shows (frame : Frame) (header : Line) (guard : Guard) (extra : List (String × Value))
    (m m' : Machine) : Verdict → Prop
  | .holds result => frame.Adds header (.condition guard.word guard.condition result extra) m m'
  | .fails cause => frame.Adds header (.error cause.message) m m'
  | .stops failure => ¬ failure.IsError

/-- A test records its result or its error, in one step; and it is not an error that stops a run. -/
theorem Frame.judge_shows {config : Config} {inFunction : Bool} {room depth : Nat} {verdict : Verdict}
    (hextra : ∀ word text result, (Action.condition word text result extra).IsConstant)
    (h : (Frame.calling config inFunction room depth).judge header guard extra env m = (verdict, m')) :
    verdict.Shows (Frame.calling config inFunction room depth) header guard extra m m' := by
  unfold Frame.judge at h
  split at h
  · next result m₁ hverdict =>
    generalize hrecorded : exec (Frame.record _ header _ env) m₁ = recorded at h
    rcases recorded with ⟨failure | ⟨⟩, m₂⟩
    · cases h
      exact Frame.record_aborts hrecorded
    · cases h
      exact (Frame.record_adds (hextra _ _ _) hrecorded).of_steps (Guard.verdict_steps hverdict)
  · next cause m₁ hverdict =>
    generalize hrecorded : exec (Frame.record _ header _ env) m₁ = recorded at h
    rcases recorded with ⟨failure | ⟨⟩, m₂⟩
    · cases h
      exact Frame.record_aborts hrecorded
    · cases h
      exact (Frame.record_adds (Action.isConstant_error cause.message) hrecorded).of_steps (Guard.verdict_steps hverdict)
  · next failure m₁ hverdict =>
    cases h
    unfold Guard.verdict at hverdict
    split at hverdict
    · cases hverdict
    · cases hverdict
    · next hne _ =>
      cases hverdict
      intro herror
      cases failure with
      | error cause => exact hne cause rfl
      | _ => exact herror

/-- A test of a header comes to a verdict, and shows it. -/
structure Frame.Judges (frame : Frame) (header : Line) (guard : Guard)
    (extra : List (String × Value)) (env : Env) (m : Machine) (verdict : Verdict) (m' : Machine) :
    Prop where
  judged : frame.judge header guard extra env m = (verdict, m')
  shows : verdict.Shows frame header guard extra m m'

theorem Frame.exists_judges (config : Config) (inFunction : Bool) (room depth : Nat) (header : Line)
    (guard : Guard)
    (hextra : ∀ word text result, (Action.condition word text result extra).IsConstant) (env : Env)
    (m : Machine) :
    ∃ verdict m',
      (Frame.calling config inFunction room depth).Judges header guard extra env m verdict m' :=
  ⟨_, _, rfl, Frame.judge_shows hextra rfl⟩

end

/-- A header with a condition, as it is written. -/
structure Conditional extends Stanza where
  guard : Guard
  reads : Guard.ofHeader? toStanza.header.code = some guard

/-- A stanza with the condition in its header. -/
def Conditional.ofStanza? (s : Stanza) : Option Conditional :=
  match h : Guard.ofHeader? s.header.code with
  | some guard => some ⟨s, guard, h⟩
  | none => none

theorem Conditional.guard?_eq (c : Conditional) :
    (Condition.ofText c.header.code).guard? = some c.guard :=
  c.reads

end Walkthrough
