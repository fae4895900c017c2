import Walkthrough.Proofs.Conditions

/-!
# Statements at the top level

Only a function can return, so blocks of a whole program always go on to their end
(`runBlock_goesOn`).  A statement at the top level has one action to record: the lines without one are
the headers that introduce nothing, and the actions of loops over elements do not come from
statements (`Statement.execute_acts`).
-/

namespace Walkthrough

open Source Text

/-- An action that is no part of a loop over elements. -/
def Action.IsPlain : Action → Prop
  | .loopStart .. | .loopIteration .. | .loopEnd .. => False
  | _ => True

/-- A statement that has something to record, and is no loop. -/
def Statement.Acts : Statement → Prop
  | .pass | .loop _ => False
  | .operate _ _ _ otherwise | .print _ otherwise => otherwise.Acts
  | _ => True

/-! ## What statements record -/

/-- How a statement at the top level succeeds: it returns nothing, and one that acts has a plain
action. -/
def Statement.Succeeds (statement : Statement) (effect : Effect (Option Value)) : Prop :=
  effect.result = .ok none ∧ (statement.Acts → ∃ action, effect.action = some action ∧ action.IsPlain)

theorem Statement.Gives.succeeds {statement : Statement} (h : statement.Gives false env m m' effect) :
    statement.Succeeds effect := by
  induction h with
  | operateOtherwise _ ih | printOtherwise _ ih => exact ih
  | loop | pass => exact ⟨rfl, False.elim⟩
  | ret hfunction => cases hfunction
  | _ => exact ⟨rfl, fun _ => ⟨_, rfl, trivial⟩⟩

theorem Statement.execute_acts (context : Context) (env : Env) (statement : Statement) :
    Yields (statement.execute context false env) fun effect =>
      statement.Succeeds effect ∨ ∃ cause, effect = .failed env cause :=
  attempt_yields fun _ _ _ h => (statement.perform_gives h).succeeds

/-! ## Lines -/

/-- What a condition asks for, before its error becomes its effect. -/
def Condition.check (context : Context) (extra : List (String × Value)) (env : Env)
    (condition : Condition) : Run (Effect Bool) :=
  match condition.guard? with
  | some header => testGuard context header extra env
  | none => Run.fail (.conditionHeader condition.text)

/-- Executing the task begins with executing this code on this line. -/
inductive Task.Begins (frame : Frame) : Task → Line → {α : Type} → Run (Effect α) → Prop where
  | simple {line : Line} {statement : Statement} {env : Env} :
      Begins frame (.item (.simple line statement) env) line
        (statement.perform frame.context frame.inFunction env)
  | loop {line : Line} {header : Loop} {body : List Line} {block : List Item} {env : Env} :
      Begins frame (.item (.loop line header body block) env) line
        (loopValues frame.context header body env)
  | define {line : Line} {definition : Definition} {body : List Line} {block : List Item}
      {env : Env} :
      Begins frame (.item (.define line definition body block) env) line
        (bindFunction definition body block env)
  | branch {line : Line} {condition : Condition} {block : List Item} {env : Env} :
      Begins frame (.branch (.mk line (some condition) block) env) line
        (condition.check frame.context [] env)
  | repeating {line : Line} {condition : Condition} {block : List Item} {room iteration : Nat}
      {env : Env} :
      Begins frame (.repeating line condition block room iteration env) line
        (condition.check frame.context [("iteration", .int iteration)] env)
  /-- A loop that has used up its iterations is an error by itself. -/
  | refusal {line : Line} {cause : EvalError} {env : Env} :
      Begins frame (.refusal line cause env) line (Run.fail cause : Run (Effect Unit))

/-! ## Runs of blocks -/

/-- The action of a round of a loop or of the end of one. -/
def Action.IsTurn : Action → Prop
  | .loopIteration .. | .loopEnd .. => True
  | _ => False

/-- A property of runs, at the moments `R`, that holds of the lines of a block and of the bookkeeping
between them.  It holds of whole blocks then (`Course.block`). -/
structure Course (frame : Frame) (R : Task → Machine → Prop) where
  rel {α : Type} (x : Run α) (m : Machine) : Prop
  pure {α : Type} (a : α) (m : Machine) : rel (pure a) m
  bind {α β : Type} {x : Run α} {f : α → Run β} {m : Machine} :
    rel x m → (∀ a m₁, exec x m = (.ok a, m₁) → rel (f a) m₁) → rel (x >>= f) m
  count (m : Machine) : rel (countStatement frame.config) m
  iteration (m : Machine) : rel countIteration m
  turn {action : Action} (line : Line) (env : Env) (m : Machine) :
    action.IsTurn → rel (frame.record line action env) m
  code {task : Task} {line : Line} {α : Type} {code : Run (Effect α)} {m : Machine} :
    R task m → task.Begins frame line code → rel (attempt task.env code) m
  commit {task : Task} {line : Line} {α : Type} {code : Run (Effect α)} {m m₁ : Machine}
      {effect : Effect α} :
    R task m → task.Begins frame line code →
    exec (attempt task.env code) m = (.ok effect, m₁) → rel (frame.commit line effect) m₁
  enters {task task' : Task} {m m' : Machine} :
    R task m → Enters frame (task, m) (task', m') → R task' m'

section

variable (C : Course frame R) {m : Machine}

/-- The property holds of a run, and so does `P` of its result. -/
def Course.Gives {α : Type} (x : Run α) (m : Machine) (P : α → Prop) : Prop :=
  C.rel x m ∧ ∀ a m', exec x m = (.ok a, m') → P a

variable {C}

theorem Course.Gives.pure (h : P a) : C.Gives (Pure.pure a) m P := by
  refine ⟨C.pure a m, ?_⟩
  rintro _ _ ⟨⟩
  exact h

theorem Course.Gives.bind (hx : C.rel x m) (hf : ∀ a m₁, exec x m = (.ok a, m₁) → C.Gives (f a) m₁ Q) :
    C.Gives (x >>= f) m Q := by
  refine ⟨C.bind hx fun a m₁ ha => (hf a m₁ ha).1, fun b m' h => ?_⟩
  obtain ⟨a, m₁, ha, hb⟩ := exec_bind_eq_ok h
  exact (hf a m₁ ha).2 b m' hb

/-- What follows a part of a block that went on. -/
theorem Course.Gives.after {x : Run Progress} {next : Progress → Run Progress}
    (hx : C.Gives x m fun progress => progress.returned = none)
    (hnext : ∀ progress m₁, exec x m = (.ok progress, m₁) → progress.returned = none →
      C.Gives (next progress) m₁ fun progress => progress.returned = none) :
    C.Gives (do
      let progress ← x
      match progress.returned with
      | some _ => return progress
      | none => next progress) m fun progress => progress.returned = none := by
  refine .bind hx.1 fun progress m₁ hprogress => ?_
  have hreturned := hx.2 progress m₁ hprogress
  rw [hreturned]
  exact hnext progress m₁ hprogress hreturned

/-- The code of a line, and what is done with its effect. -/
theorem Course.Gives.line {task : Task} {line : Line} {α β : Type} {code : Run (Effect α)}
    {next : Effect α → Run β} {Q : β → Prop} (hR : R task m) (h : task.Begins frame line code)
    (hnext : ∀ effect m₁ m₂, exec (attempt task.env code) m = (.ok effect, m₁) →
      exec (frame.commit line effect) m₁ = (.ok (), m₂) → C.Gives (next effect) m₂ Q) :
    C.Gives (do
      let effect ← attempt task.env code
      frame.commit line effect
      next effect) m Q :=
  .bind (C.code hR h) fun effect m₁ heffect => .bind (C.commit hR h heffect)
    fun _ m₂ hcommit => hnext effect m₁ m₂ heffect hcommit

variable (C)
  (hblock : ∀ env m, R (.block block env) m → C.Gives (runBlock frame block env) m fun progress => progress.returned = none)
include hblock

theorem Course.rounds {target : String} {total : Nat} : ∀ (rest : List Value) (index : Nat)
    (env : Env) (m : Machine), R (.elements line target total block index rest env) m →
    C.Gives (frame.rounds line target total (fun env => runBlock frame block env) index rest env) m
      fun progress => progress.returned = none := by
  intro rest
  induction rest with
  | nil =>
    intro index env m _
    change C.Gives (do
      frame.record line (.loopEnd target) env
      return Progress.goingOn env) m _
    exact .bind (C.turn line env m trivial) fun _ _ _ => .pure rfl
  | cons element rest ih =>
    intro index env m hR
    rw [Frame.rounds_cons]
    refine .after ?_ fun progress m₁ hprogress hreturned =>
      ih _ _ _ (C.enters hR (.nextRound hprogress hreturned))
    exact .bind (C.iteration m) fun _ m₁ hcount => .bind (C.turn line _ m₁ trivial)
      fun _ m₂ hrecord => hblock _ m₂ (C.enters hR (.round hcount hrecord))

theorem Course.repeatWhile {condition : Condition} : ∀ (room iteration : Nat) (env : Env)
    (m : Machine), R (.repeating line condition block room iteration env) m →
    C.Gives (frame.repeatWhile line condition (fun env => runBlock frame block env) room iteration
      env) m fun progress => progress.returned = none := by
  intro room
  induction room with
  | zero =>
    intro iteration env m hR
    rw [Frame.repeatWhile]
    refine (Gives.line hR .repeating :) fun effect m₁ m₂ htest hcommit => ?_
    split
    · next htrue =>
      have hR' := C.enters hR (.limit htest hcommit htrue)
      exact .bind (C.commit hR' .refusal rfl) fun _ _ _ => .pure rfl
    · exact .pure rfl
  | succ room ih =>
    intro iteration env m hR
    rw [Frame.repeatWhile]
    refine (Gives.line hR .repeating :) fun effect m₁ m₂ htest hcommit => ?_
    split
    · next htrue =>
      refine .bind (C.iteration m₂) fun _ m₃ hcount => ?_
      refine .after (hblock _ m₃ (C.enters hR (.repeated htest hcommit htrue hcount)))
        fun progress m₄ hprogress hreturned => ?_
      have hR' := C.enters hR (.bodyDone htest hcommit htrue hcount hprogress hreturned)
      exact .bind (C.count m₄) fun _ m₅ hcount' => ih _ _ m₅ (C.enters hR' (.testedAgain hcount'))
    · exact .pure rfl

end

section

variable {frame : Frame}

mutual

theorem Course.block (C : Course frame R) (htop : frame.inFunction = false) : ∀ (items : List Item) (env : Env) (m : Machine), R (.block items env) m →
    C.Gives (runBlock frame items env) m fun progress => progress.returned = none
  | [], env, m, _ => by
    exact .pure rfl
  | item :: rest, env, m, hR => by
    refine .bind (C.count m) fun _ m₁ hcount => ?_
    exact .after (C.item htop item env m₁ (C.enters hR (.item hcount)))
      fun progress m₂ hprogress hreturned =>
        C.block htop rest _ m₂ (C.enters hR (.rest hcount hprogress hreturned))

theorem Course.item (C : Course frame R) (htop : frame.inFunction = false) : ∀ (item : Item) (env : Env) (m : Machine), R (.item item env) m →
    C.Gives (runItem frame item env) m fun progress => progress.returned = none
  | .simple line statement, env, m, hR => by
    refine (Course.Gives.line hR .simple :) fun effect m₁ m₂ heffect _ => ?_
    rw [htop] at heffect
    rcases statement.execute_acts _ env m effect m₁ heffect with ⟨hresult, _⟩ | ⟨cause, rfl⟩
    · rw [hresult]
      exact .pure rfl
    · exact .pure rfl
  | .loop line header body block, env, m, hR => by
    refine (Course.Gives.line hR .loop :) fun effect m₁ m₂ heffect hcommit => ?_
    split
    · next elements hresult =>
      exact C.rounds (C.block htop block) elements 0 _ m₂ (C.enters hR (.loop heffect hcommit hresult))
    · exact .pure rfl
  | .define line definition body block, env, m, hR => by
    exact (Course.Gives.line hR .define :) fun _ _ _ _ _ => .pure rfl
  | .choose first rest, env, m, hR => by
    have hfirst := C.branch htop first env m (C.enters hR .first)
    refine .bind hfirst.1 fun ⟨pending, progress⟩ m₁ hresult => ?_
    have hreturned : progress.returned = none := hfirst.2 _ m₁ hresult
    dsimp only
    rw [hreturned]
    exact C.branches htop rest pending _ m₁ (C.enters hR (.later hresult hreturned))
  | .repeat line condition block, env, m, hR => by
    exact C.repeatWhile (C.block htop block) _ 0 env m (C.enters hR .while)
  | .skip line, env, m, _ => by
    exact .pure rfl

theorem Course.branch (C : Course frame R) (htop : frame.inFunction = false) : ∀ (branch : Branch) (env : Env) (m : Machine), R (.branch branch env) m →
    C.Gives (runBranch frame branch env) m fun result => result.2.returned = none
  | .mk line none block, env, m, hR => by
    have hblock := C.block htop block env m (C.enters hR .lastResort)
    exact .bind hblock.1 fun _ m₁ hprogress => .pure (hblock.2 _ m₁ hprogress)
  | .mk line (some condition) block, env, m, hR => by
    refine (Course.Gives.line hR .branch :) fun effect m₁ m₂ htest hcommit => ?_
    split
    · next htrue =>
      have hblock := C.block htop block _ m₂ (C.enters hR (.taken htest hcommit htrue))
      exact .bind hblock.1 fun _ m₃ hprogress => .pure (hblock.2 _ m₃ hprogress)
    · exact .pure rfl
    · exact .pure rfl

theorem Course.branches (C : Course frame R) (htop : frame.inFunction = false) : ∀ (branches : List Branch) (pending : Bool) (env : Env) (m : Machine),
    R (.branches branches pending env) m →
    C.Gives (runBranches frame branches pending env) m fun progress => progress.returned = none
  | [], pending, env, m, _ => by
    exact .pure rfl
  | branch :: rest, pending, env, m, hR => by
    refine .bind (C.count m) fun _ m₁ hcount => ?_
    cases pending with
    | true =>
      have hbranch := C.branch htop branch env m₁ (C.enters hR (.tried hcount))
      refine .bind hbranch.1 fun ⟨pending, progress⟩ m₂ hresult => ?_
      have hreturned : progress.returned = none := hbranch.2 _ m₂ hresult
      dsimp only
      rw [hreturned]
      exact C.branches htop rest pending _ m₂ (C.enters hR (.nextBranch hcount hresult hreturned))
    | false => exact C.branches htop rest false env m₁ (C.enters hR (.passedBranch hcount))

end

/-! ## Blocks go on to their end -/

/-- Nothing but the results matters. -/
def Course.ofResults (frame : Frame) : Course frame fun _ _ => True where
  rel _ _ := True
  pure _ _ := trivial
  bind _ _ := trivial
  count _ := trivial
  iteration _ := trivial
  turn _ _ _ _ := trivial
  code _ _ := trivial
  commit _ _ _ := trivial
  enters _ _ := trivial

variable (htop : frame.inFunction = false)
include htop

theorem runBlock_goesOn (items : List Item) (env : Env) :
    Yields (runBlock frame items env) fun progress => progress.returned = none :=
  fun m => ((Course.ofResults frame).block htop items env m trivial).2

theorem runItem_goesOn (item : Item) (env : Env) :
    Yields (runItem frame item env) fun progress => progress.returned = none :=
  fun m => ((Course.ofResults frame).item htop item env m trivial).2

theorem runBranch_goesOn (branch : Branch) (env : Env) :
    Yields (runBranch frame branch env) fun result => result.2.returned = none :=
  fun m => ((Course.ofResults frame).branch htop branch env m trivial).2

end

end Walkthrough
