import Walkthrough.Proofs.Nesting

/-!
# Errors end lines, not programs

An error ends the line that it happens on and nothing else: it becomes a step of its own, no binding
changes, and execution goes on behind the line.  What ends a whole program is something else: a
budget, values or calls that nest too deeply, or one of the few faults that some operation lets
through.

That there are no other faults is what a monitor says about everything that is evaluated.  That no
error gets out of a line follows the structure of blocks (`Run.Survives`), and where execution goes on
is said by `Awaits`: behind the item in its block, or with the later alternatives of its chain.
-/

namespace Walkthrough

open Source

variable {failure : Failure} {m : Machine} {config : Config} {frame : Frame}

/-! ## Faults -/

/-- A fault that ends a run is one of those that escape. -/
def Monitor.faults (config : Config) : Monitor config where
  holds _ failure? _ := ∀ cause, failure? = some (.fault cause) → cause.Escapes
  moves _ _ _ _ h cause hcause := h _ hcause
  trans _ h' := h'
  settle cause? _ cause hcause := by cases cause? <;> cases hcause
  rollBack _ h := h
  statement m cause hcause := by
    rw [exec_countStatement] at hcause
    dsimp only at hcause
    split at hcause <;> cases hcause
  tally _ _ _ := nofun
  note _ _ := nofun

/-- A failure that cuts a program off. -/
def Failure.CutsOff : Failure → Prop
  | .budget _ | .tooDeep => True
  | .error _ | .fault _ => False

/-- A failure that may end a whole program: it cuts the program off, or is a fault that escapes. -/
def Failure.Ends : Failure → Prop
  | .error _ => False
  | .fault cause => cause.Escapes
  | .budget _ | .tooDeep => True

theorem Failure.CutsOff.ends (h : failure.CutsOff) : failure.Ends := by
  cases failure with
  | error cause => exact h
  | fault cause => exact h.elim
  | _ => trivial

section

variable {α : Type}

theorem addStep_failsAs (index : Nat) (action : Action) (env : Env) (output : Output) :
    FailsAs (· = .tooDeep) (addStep index action env output) := by
  intro m failure m' hexec
  rw [exec_addStep] at hexec
  split at hexec
  · next hparts =>
    cases hexec
    exact stepParts_failsAs hparts
  · cases hexec

theorem record_failsAs (action : Action) :
    FailsAs Failure.CutsOff ((Frame.top config).record line action env) := by
  intro m failure m' hexec
  rw [exec_record_top] at hexec
  split at hexec
  · cases hexec
    trivial
  · cases addStep_failsAs _ _ _ _ _ _ _ hexec
    trivial

/-- The code of a line fails with no error. -/
theorem Task.Begins.fails_ends {task : Task} (h : task.Begins (Frame.top config) line code)
    (hexec : exec (attempt task.env code) m = (.error failure, m')) : failure.Ends := by
  have hwatched := task.watches config h (Monitor.faults config) m
  have haborts := attempt_aborts hexec
  rw [Monitor.Watches, hexec] at hwatched
  cases failure with
  | error cause => exact haborts trivial
  | fault cause => exact hwatched cause rfl
  | budget cause | tooDeep => trivial

end

/-- No error ends a program. -/
def Course.ofFailures (config : Config) : Course (Frame.top config) fun _ _ => True where
  rel x m := ∀ failure m', exec x m = (.error failure, m') → failure.Ends
  pure a m := nofun
  bind {_ _ x _ m} hx hf failure m' h := by
    rw [exec_bind] at h
    rcases hexec : exec x m with ⟨failure' | a, m₁⟩
    · rw [hexec] at h
      cases h
      exact hx failure m' hexec
    · rw [hexec] at h
      exact hf a m₁ hexec failure m' h
  count m failure m' h := by
    rw [exec_countStatement] at h
    obtain ⟨hresult, _⟩ := Prod.mk.inj h
    split at hresult <;> cases hresult
    trivial
  iteration m := nofun
  turn line env m _ failure m' h := (record_failsAs _ m failure m' h).ends
  code _ h failure m' hexec := h.fails_ends hexec
  commit {_ line _ _ _ m₁ effect} _ _ _ failure m' h := by
    cases haction : effect.action with
    | some action =>
      rw [exec_commit_top haction] at h
      exact (record_failsAs action m₁ failure m' h).ends
    | none =>
      rw [Frame.commit, haction] at h
      cases hresult : effect.result <;> rw [hresult] at h <;> cases h
  enters _ _ := trivial

theorem runBlock_ends
    (h : exec (runBlock (Frame.top config) program .empty) .start = (.error failure, m)) :
    failure.Ends :=
  ((Course.ofFailures config).block rfl program .empty .start trivial).1 failure m h

/-! ## Lines -/

/-- The end of a task that leaves the bindings `env` and, in a chain, closes the chain. -/
def Task.ended (env : Env) : (task : Task) → task.Result
  | .branch .. => (false, .goingOn env)
  | .block .. | .item .. | .branches .. | .elements .. => Progress.goingOn env
  | .repeating .. | .again .. | .refusal .. => Progress.goingOn env

section

variable {config : Config} {task : Task} {line : Line} {α : Type} {code : Run (Effect α)}
  {m m₁ : Machine}

/-- A task that begins with a line attempts its code, records what it did, and goes on with that.
Behind an error there is nothing left to do. -/
theorem Task.Begins.run (h : task.Begins frame line code) :
    ∃ next : Effect α → Run task.Result,
      (∀ m, exec (task.run frame) m = exec (do
        let effect ← attempt task.env code
        frame.commit line effect
        next effect) m) ∧
      ∀ cause, next (.failed task.env cause) = pure (task.ended task.env) := by
  cases h with
  | simple => exact ⟨_, fun m => by rw [Task.run, runItem]; rfl, fun cause => by rfl⟩
  | loop => exact ⟨_, fun m => by rw [Task.run, runItem]; rfl, fun cause => by rfl⟩
  | define => exact ⟨_, fun m => by rw [Task.run, runItem]; rfl, fun cause => by rfl⟩
  | branch => exact ⟨_, fun m => by rw [Task.run, runBranch]; rfl, fun cause => by rfl⟩
  | repeating =>
    exact ⟨_, fun m => by rw [Task.run, Frame.repeatWhile.eq_def]; rfl, fun cause => by rfl⟩
  | refusal => exact ⟨fun _ => pure (.goingOn _), fun m => rfl, fun cause => rfl⟩

/-- If the code of a line fails with an error, all that is left to do is to record it. -/
theorem Task.Begins.exec_error (h : task.Begins (Frame.top config) line code)
    (hcode : exec code m = (.error (.error cause), m₁)) :
    exec (task.run (Frame.top config)) m =
      match exec ((Frame.top config).record line (.error cause.message) task.env) m₁ with
      | (.ok (), m₂) => (.ok (task.ended task.env), m₂)
      | (.error failure, m₂) => (.error failure, m₂) := by
  obtain ⟨next, hrun, hnext⟩ := h.run
  have hattempt : exec (attempt task.env code) m = (.ok (.failed task.env cause), m₁) := by
    rw [exec_attempt, hcode]
  have hcommit : exec ((Frame.top config).commit line (.failed task.env cause : Effect α)) m₁ =
      exec ((Frame.top config).record line (.error cause.message) task.env) m₁ :=
    exec_commit_top rfl
  rw [hrun, exec_bind_ok hattempt]
  rcases hrecord : exec ((Frame.top config).record line (.error cause.message) task.env) m₁ with
    ⟨failure | ⟨⟩, m₂⟩
  · rw [exec_bind_error (hcommit.trans hrecord)]
  · rw [exec_bind_ok (hcommit.trans hrecord), hnext]
    rfl

/-- Any other failure of the code is one of the task. -/
theorem Task.Begins.exec_abort (h : task.Begins (Frame.top config) line code)
    (hcode : exec code m = (.error failure, m₁)) (haborts : ¬ failure.IsError) :
    exec (task.run (Frame.top config)) m = (.error failure, { m₁ with output := m.output }) := by
  obtain ⟨next, hrun, _⟩ := h.run
  have hattempt : exec (attempt task.env code) m =
      (.error failure, { m₁ with output := m.output }) := by
    rw [exec_attempt, hcode]
    cases failure with
    | error cause => exact absurd trivial haborts
    | _ => rfl
  rw [hrun, exec_bind_error hattempt]

theorem Task.Begins.steps_eq (h : task.Begins (Frame.top config) line code)
    (hcode : exec code m = (result, m₁)) : m₁.steps = m.steps := by
  rw [← task.attempt_steps config h (m := m), exec_attempt, hcode]
  rcases result with (_ | _ | _ | _) | _ <;> rfl

end

/-! ## Where execution goes on -/

/-- A part of a loop with a condition. -/
def Task.InLoop : Task → Prop
  | .repeating .. | .again .. | .refusal .. => True
  | _ => False

/-- A part of an item, or an alternative. -/
def Task.IsPart : Task → Prop
  | .block .. | .branches .. | .elements .. => False
  | _ => True

/-- What is to be executed behind a task, in the scope that it leaves: behind an item the rest of its
block, and behind an alternative that was taken, or failed, the later ones, which are only counted. -/
inductive Awaits (config : Config) (program : List Item) : Task → Machine → (Env → Task) → Prop where
  | item {item : Item} {rest : List Item} {env : Env} {m m₁ : Machine} :
      Moment config program (.block (item :: rest) env) m →
      exec (countStatement config) m = (.ok (), m₁) →
      Awaits config program (.item item env) m₁ (.block rest)
  | first {first : Branch} {rest : List Branch} {env : Env} {m : Machine} :
      Moment config program (.item (.choose first rest) env) m →
      Awaits config program (.branch first env) m (.branches rest false)
  | later {branch : Branch} {rest : List Branch} {env : Env} {m m₁ : Machine} :
      Moment config program (.branches (branch :: rest) true env) m →
      exec (countStatement config) m = (.ok (), m₁) →
      Awaits config program (.branch branch env) m₁ (.branches rest false)
  | inLoop {task task' : Task} {m m' : Machine} {next : Env → Task} :
      Awaits config program task m next → Enters (Frame.top config) (task, m) (task', m') →
      task'.InLoop → Awaits config program task' m' next

section

variable {task : Task}

theorem Moment.exists_awaits (h : Moment config program task m) (htask : task.IsPart) :
    ∃ next, Awaits config program task m next := by
  unfold Moment at h
  generalize hmoment : (task, m) = moment at h
  induction h generalizing task m with
  | refl =>
    cases hmoment
    exact htask.elim
  | @tail previous _ hprevious hstep ih =>
    subst hmoment
    obtain ⟨task₀, m₀⟩ := previous
    have hloop (hpart : task₀.IsPart) (hin : task.InLoop) :
        ∃ next, Awaits config program task m next := by
      obtain ⟨next, hnext⟩ := ih hpart rfl
      exact ⟨next, .inLoop hnext hstep hin⟩
    cases hstep with
    | item hcount => exact ⟨_, .item hprevious hcount⟩
    | first => exact ⟨_, .first hprevious⟩
    | tried hcount => exact ⟨_, .later hprevious hcount⟩
    | «while» => exact hloop trivial trivial
    | bodyDone _ _ _ _ _ _ => exact hloop trivial trivial
    | testedAgain _ => exact hloop trivial trivial
    | limit _ _ _ => exact hloop trivial trivial
    | _ => exact htask.elim

/-- A loop with a condition ends as its last part does. -/
theorem Enters.exec_ended (h : Enters frame (task, m) (task', m')) (hloop : task'.InLoop)
    (hexec : exec (task'.run frame) m' = (.ok (task'.ended env), m₂)) :
    exec (task.run frame) m = (.ok (task.ended env), m₂) := by
  cases h with
  | «while» =>
    exact hexec
  | bodyDone htest hcommit hresult hcount hblock hreturned =>
    change exec (frame.repeatWhile _ _ _ _ _ _) m = (.ok (.goingOn env), m₂)
    rw [Frame.repeatWhile, exec_bind_ok htest, exec_bind_ok hcommit, hresult]
    rw [exec_bind_ok hcount, exec_bind_ok hblock, hreturned]
    exact hexec
  | testedAgain hcount =>
    change exec (countStatement _ >>= fun _ => frame.repeatWhile _ _ _ _ _ _) m =
      (.ok (.goingOn env), m₂)
    rw [exec_bind_ok hcount]
    exact hexec
  | limit htest hcommit hresult =>
    change exec (frame.repeatWhile _ _ _ _ _ _) m = (.ok (.goingOn env), m₂)
    rw [Frame.repeatWhile, exec_bind_ok htest, exec_bind_ok hcommit, hresult]
    exact hexec
  | _ => exact hloop.elim

theorem Awaits.goesOn (h : Awaits config program task m next)
    (hexec : exec (task.run (Frame.top config)) m = (.ok (task.ended env), m')) :
    Moment config program (next env) m' := by
  induction h with
  | @item item rest scope m m₁ hprevious hcount =>
    have hstep : Enters (Frame.top config) (.block (item :: rest) scope, m)
        (.block rest (Progress.goingOn env).env, m') := .rest hcount hexec rfl
    exact hprevious.tail hstep
  | @first first rest scope m hprevious =>
    have hstep : Enters (Frame.top config) (.item (.choose first rest) scope, m)
        (.branches rest false (Progress.goingOn env).env, m') := .later hexec rfl
    exact hprevious.tail hstep
  | @later branch rest scope m m₁ hprevious hcount =>
    have hstep : Enters (Frame.top config) (.branches (branch :: rest) true scope, m)
        (.branches rest false (Progress.goingOn env).env, m') := .nextBranch hcount hexec rfl
    exact hprevious.tail hstep
  | inLoop _ hstep hloop ih => exact ih (hstep.exec_ended hloop hexec)

theorem Task.Begins.isPart (h : task.Begins frame line code) : task.IsPart := by
  cases h <;> trivial

end

/-! ## Programs that fail -/

/-- A program was cut off: its trace ends early, or cannot be closed because values nest too
deeply. -/
def CutOff (config : Config) (source : String) : Prop :=
  (∃ trace, Trace.ofSource config source = .ok trace ∧ trace.truncated = true) ∨
    Trace.ofSource config source = .error .tooDeep

theorem closeTrace_failsAs (cause : Budget) : FailsAs (· = .tooDeep) (closeTrace cause) := by
  refine FailsAs.get.bind fun m => ?_
  split
  · exact addStep_failsAs _ _ _ _
  · exact addStep_failsAs _ _ _ _

theorem Trace.ofSource_of_budget
    (h : exec (runBlock (Frame.top config) (programOf config source) .empty) .start =
      (.error (.budget cause), m)) : CutOff config source := by
  have hprogram : exec (runProgram config (programOf config source)) .start =
      exec (do closeTrace cause; return true) m := by
    rw [exec_runProgram, h]
  rcases hclose : exec (closeTrace cause) m with ⟨failure | ⟨⟩, m'⟩
  · rw [exec_bind_error hclose, closeTrace_failsAs cause _ _ _ hclose] at hprogram
    exact .inr (by rw [Trace.ofSource_run, hprogram])
  · rw [exec_bind_ok hclose] at hprogram
    exact .inl ⟨m'.trace source true, by rw [Trace.ofSource_run, hprogram]; rfl, rfl⟩

theorem Trace.ofSource_of_tooDeep
    (h : exec (runBlock (Frame.top config) (programOf config source) .empty) .start =
      (.error .tooDeep, m)) : Trace.ofSource config source = .error .tooDeep := by
  rw [Trace.ofSource_run, exec_runProgram, h]

theorem Trace.ofSource_of_fault
    (h : exec (runBlock (Frame.top config) (programOf config source) .empty) .start =
      (.error (.fault cause), m)) :
    cause.Escapes ∧ Trace.ofSource config source = .error (.stopped (.fault cause)) := by
  refine ⟨runBlock_ends h, ?_⟩
  rw [Trace.ofSource_run, exec_runProgram, h]

theorem Failure.CutsOff.cutOff (hcuts : failure.CutsOff)
    (h : exec (runBlock (Frame.top config) (programOf config source) .empty) .start =
      (.error failure, m)) : CutOff config source := by
  cases failure with
  | error cause => exact hcuts.elim
  | fault cause => exact hcuts.elim
  | budget cause => exact Trace.ofSource_of_budget h
  | tooDeep => exact .inr (Trace.ofSource_of_tooDeep h)

theorem Trace.ofSource_cases (config : Config) (source : String) :
    (∃ trace, Trace.ofSource config source = .ok trace) ∨
      Trace.ofSource config source = .error .tooDeep ∨
      ∃ cause, cause.Escapes ∧ Trace.ofSource config source = .error (.stopped (.fault cause)) := by
  rcases hblock : exec (runBlock (Frame.top config) (programOf config source) .empty) .start with
    ⟨failure | progress, m⟩
  · have hcut (h : CutOff config source) : (∃ trace, Trace.ofSource config source = .ok trace) ∨
        Trace.ofSource config source = .error .tooDeep :=
      h.imp (fun ⟨trace, htrace, _⟩ => ⟨trace, htrace⟩) id
    have hends := runBlock_ends hblock
    cases failure with
    | error cause => exact hends.elim
    | fault cause => exact .inr (.inr ⟨cause, Trace.ofSource_of_fault hblock⟩)
    | budget cause => exact (hcut (Trace.ofSource_of_budget hblock)).imp_right .inl
    | tooDeep => exact .inr (.inl (Trace.ofSource_of_tooDeep hblock))
  · exact .inl ⟨m.trace source false, by rw [Trace.ofSource_run, exec_runProgram, hblock]⟩

/-! ## Recovery -/

/-- How a task ends whose line has failed with an error.  It has recorded the error as a step of that
line and changed no binding, and what stands behind it is next; or the step had no place in the trace
any more. -/
def Recovers (config : Config) (source : String) (task : Task) (line : Line) (cause : EvalError)
    (m : Machine) : Except Failure task.Result × Machine → Prop
  | (.ok result, m') => result = task.ended task.env ∧
    (∃ step, m'.steps = m.steps.push step ∧ step.line = line.index ∧
      step.action = .error cause.message) ∧
    ∃ next, Awaits config (programOf config source) task m next ∧
      Moment config (programOf config source) (next task.env) m'
  | (.error _, _) => CutOff config source

theorem Task.Begins.recovers (h : task.Begins (Frame.top config) line code)
    (hmoment : Moment config (programOf config source) task m)
    (hcode : exec code m = (.error (.error cause), m₁)) :
    Recovers config source task line cause m (exec (task.run (Frame.top config)) m) := by
  have hexec := h.exec_error hcode
  rcases hrecord : exec ((Frame.top config).record line (.error cause.message) task.env) m₁ with
    ⟨failure | ⟨⟩, m₂⟩
  · rw [hrecord] at hexec
    rw [hexec]
    exact (record_failsAs _ _ _ _ hrecord).cutOff (hmoment.fails hexec)
  · rw [hrecord] at hexec
    rw [hexec]
    obtain ⟨next, hnext⟩ := hmoment.exists_awaits h.isPart
    obtain ⟨step, hsteps, hline, haction⟩ := Frame.record_adds (Action.isConstant_error _) hrecord
    refine ⟨rfl, ⟨step, ?_, hline, haction⟩, next, hnext, hnext.goesOn hexec⟩
    rw [hsteps, h.steps_eq hcode]

/-- A program whose first line uses a name that nothing is bound to. -/
def undefinedName : String := "x = y\nz = 1"

theorem undefinedName_assigns : (match programOf Config.usual undefinedName with
    | .simple _ (.assign _ _ (.ok (.name id _)) false) :: _ => id == "y"
    | _ => false) = true := by
  decide +kernel

/-- The first line of the program assigns the value of a name. -/
theorem undefinedName_first : ∃ line name source span rest,
    programOf Config.usual undefinedName =
      .simple line (.assign name source (.ok (.name "y" span)) false) :: rest := by
  have hfirst := undefinedName_assigns
  split at hfirst
  · next heq =>
    obtain rfl := beq_iff_eq.mp hfirst
    exact ⟨_, _, _, _, _, heq⟩
  · cases hfirst

theorem Trace.ofSource_eq_error
    (h : (match Trace.ofSource config source with | .ok _ => none | .error cause => some cause) = some cause) :
    Trace.ofSource config source = .error cause := by
  split at h
  · cases h
  · next heq =>
    cases h
    exact heq

end Walkthrough
