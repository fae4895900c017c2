import Walkthrough.Proofs.Unrolling

/-!
# Every run ends

No one number goes down along a run: a call starts a new block with a new list of items, a loop runs
its block again, and what is run may have been stored by the run itself.  So how many levels of the
unrolled interpreter a run needs depends on the machine it starts from, and is found part by part:

* `Settles`: the runs with enough levels are all the same; closed under the ways in which runs are
  put together.
* `CallsSettle.value`, `CallsSettle.perform`, `CallsSettle.block`: expressions, statements and
  blocks settle where calls do, by induction on the syntax; inside, loops settle by induction on the
  elements or iterations that are left.
* `callFunction_settles`: calls settle, by induction on how many more may be under way.
* `items_comeTo`: every text is laid out, since the cursor goes past every line that it meets.
* `every_run_ends`: both together for whole programs.
-/

namespace Walkthrough

open Source Text Format

/-- From every machine the runs `x` with enough levels are the run `y`, whatever the lowest level
throws. -/
def Settles {α : Type} (x : Failure → Nat → Run α) (y : Run α) : Prop :=
  ∀ m, ∃ bound, ∀ fuel, bound ≤ fuel → ∀ stuck, exec (x stuck fuel) m = exec y m

section

variable {α β : Type}

theorem Settles.refl (y : Run α) : Settles (fun _ _ => y) y :=
  fun _ => ⟨0, fun _ _ _ => rfl⟩

/-- What settles still does so one level further up. -/
theorem Settles.lift (h : Settles x y) (hx : ∀ stuck fuel, x' stuck (fuel + 1) = x stuck fuel) :
    Settles x' y := by
  intro m
  obtain ⟨bound, hbound⟩ := h m
  refine ⟨bound + 1, fun fuel hfuel stuck => ?_⟩
  obtain ⟨fuel, rfl⟩ : ∃ k, fuel = k + 1 := ⟨fuel - 1, by omega⟩
  rw [hx]
  exact hbound fuel (by omega) stuck

theorem Settles.bind {f : Failure → Nat → α → Run β} (hx : Settles x y)
    (hf : ∀ a, Settles (fun stuck fuel => f stuck fuel a) (g a)) :
    Settles (fun stuck fuel => x stuck fuel >>= f stuck fuel) (y >>= g) := by
  intro m
  obtain ⟨bound, hbound⟩ := hx m
  rcases hy : exec y m with ⟨failure | a, m'⟩
  · refine ⟨bound, fun fuel hfuel stuck => ?_⟩
    rw [exec_bind_error hy, exec_bind_error ((hbound fuel hfuel stuck).trans hy)]
  · obtain ⟨bound', hbound'⟩ := hf a m'
    refine ⟨max bound bound', fun fuel hfuel stuck => ?_⟩
    rw [exec_bind_ok hy, exec_bind_ok ((hbound fuel (by omega) stuck).trans hy)]
    exact hbound' fuel (by omega) stuck

/-- The same first part, then something that settles. -/
theorem Settles.after {f : Failure → Nat → α → Run β} (y : Run α)
    (hf : ∀ a, Settles (fun stuck fuel => f stuck fuel a) (g a)) :
    Settles (fun stuck fuel => y >>= f stuck fuel) (y >>= g) :=
  (Settles.refl y).bind hf

/-- Something that settles, then the same second part. -/
theorem Settles.andThen (hx : Settles x y) (g : α → Run β) :
    Settles (fun stuck fuel => x stuck fuel >>= g) (y >>= g) :=
  hx.bind fun a => .refl (g a)

/-- What fails at once does not look at what would follow. -/
theorem Settles.fail (cause : EvalError) (f : Failure → Nat → α → Run β) (g : α → Run β) :
    Settles (fun stuck fuel => Run.fail cause >>= f stuck fuel) (Run.fail cause >>= g) :=
  fun _ => ⟨0, fun _ _ _ => rfl⟩

theorem Settles.tryCatch (hx : Settles x y) (handler : Failure → Run α) :
    Settles (fun stuck fuel => tryCatch (x stuck fuel) handler) (tryCatch y handler) := by
  intro m
  obtain ⟨bound, hbound⟩ := hx m
  refine ⟨bound, fun fuel hfuel stuck => ?_⟩
  rw [exec_tryCatch, exec_tryCatch, hbound fuel hfuel stuck]

theorem Settles.attempt {x : Failure → Nat → Run (Effect α)} {y : Run (Effect α)} (hx : Settles x y)
    (env : Env) :
    Settles (fun stuck fuel => attempt env (x stuck fuel)) (attempt env y) := by
  intro m
  obtain ⟨bound, hbound⟩ := hx m
  refine ⟨bound, fun fuel hfuel stuck => ?_⟩
  rw [exec_attempt, exec_attempt, hbound fuel hfuel stuck]

theorem Settles.foldlM {f : Failure → Nat → β → α → Run β} (l : List α)
    (hf : ∀ b a, Settles (fun stuck fuel => f stuck fuel b a) (g b a)) (b : β) :
    Settles (fun stuck fuel => l.foldlM (f stuck fuel) b) (l.foldlM g b) := by
  induction l generalizing b with
  | nil => exact .refl _
  | cons a l ih =>
    simp only [List.foldlM_cons]
    exact (hf b a).bind ih

end

/-! ## Expressions -/

section

variable {config : Config} {depth : Nat} {call : Nat → List Value → Run Value}

/-- Calls settle while `depth` calls are under way. -/
def CallsSettle (config : Config) (depth : Nat) (call : Nat → List Value → Run Value) : Prop :=
  ∀ ref arguments, Settles
    (fun stuck fuel => (Interpreter.within stuck config fuel).call depth ref arguments)
    (call ref arguments)

/-- The frame while `depth` calls are under way. -/
def frameAt (config : Config) (depth : Nat) (call : Nat → List Value → Run Value) : Frame where
  config
  inFunction := depth != 0
  call

/-- What an evaluator does settles. -/
def EvaluatorSettles {α : Type} (config : Config) (depth : Nat) (call : Nat → List Value → Run Value)
    (x : Evaluator → Run α) (y : Context → Run α) : Prop :=
  Settles (fun stuck fuel => x ((Interpreter.within stuck config fuel).evaluator config depth))
    (y (frameAt config depth call).context)

/-- The value of an expression settles. -/
abbrev ValueSettles (config : Config) (depth : Nat) (call : Nat → List Value → Run Value) (env : Env)
    (expr : Expr) : Prop :=
  EvaluatorSettles config depth call (·.value env expr) (evaluate · env expr)

theorem CallsSettle.apply (hcall : CallsSettle config depth call) (callee : Callee)
    (arguments : List Value) :
    EvaluatorSettles config depth call (·.apply callee arguments) (·.apply callee arguments) := by
  unfold Evaluator.apply Context.apply
  cases callee with
  | builtin function => exact .refl (function.call config.maxIterations arguments)
  | value v =>
    cases v with
    | function ref => exact hcall ref arguments
    | _ => exact .refl _

mutual

theorem CallsSettle.value (hcall : CallsSettle config depth call) (expr : Expr) (env : Env) :
    ValueSettles config depth call env expr := by
  refine Settles.lift ?_ fun _ _ => rfl
  cases expr with
  | const value span => exact .refl _
  | name id _ => exact .refl _
  | binary op left right _ =>
    refine (hcall.value left env).bind fun a => ?_
    exact (hcall.value right env).andThen _
  | logic op left right _ =>
    refine (hcall.value left env).bind fun a => .after _ fun s => ?_
    dsimp only
    cases op <;> cases a.isTruthy s
    · exact .refl _
    · exact hcall.value right env
    · exact hcall.value right env
    · exact .refl _
  | not operand _ => exact (hcall.value operand env).andThen _
  | unary op operand _ => exact (hcall.value operand env).andThen _
  | compare first rest _ =>
    exact (hcall.value first env).bind fun a => (hcall.chain rest env a).andThen _
  | conditional condition yes no _ =>
    refine (hcall.value condition env).bind fun a => .after _ fun s => ?_
    split
    · exact hcall.value yes env
    · exact hcall.value no env
  | call function arguments _ =>
    refine .after _ fun callee => ?_
    exact (hcall.values arguments env).bind fun values => hcall.apply callee values
  | method receiver name arguments _ =>
    refine (hcall.value receiver env).bind fun object => ?_
    exact (hcall.values arguments env).andThen _
  | subscript object index _ =>
    refine (hcall.value object env).bind fun a => ?_
    exact (hcall.value index env).andThen _
  | slice object start stop step _ _ =>
    refine (hcall.value object env).bind fun a => ?_
    refine (hcall.part start env).bind fun i => ?_
    refine (hcall.part stop env).bind fun j => ?_
    exact (hcall.part step env).andThen _
  | list elements _ => exact (hcall.values elements env).andThen _
  | dict entries _ => exact (hcall.entries entries env .empty).andThen _
  | comprehension body clauses _ =>
    refine (hcall.comprehension body (fun scope => hcall.value body scope) clauses env #[]).andThen _
  | formatted pieces _ => exact (hcall.pieces pieces env).andThen _

theorem CallsSettle.values (hcall : CallsSettle config depth call) :
    ∀ (exprs : List Expr) (env : Env), EvaluatorSettles config depth call
      (fun e => exprs.mapM (e.value env)) (evaluateAll · env exprs)
  | [], env => .refl _
  | expr :: rest, env => by
    simp only [List.mapM_cons]
    exact (hcall.value expr env).bind fun value => (hcall.values rest env).andThen _

theorem CallsSettle.part (hcall : CallsSettle config depth call) :
    ∀ (part : Option Expr) (env : Env), EvaluatorSettles config depth call
      (·.part env part) (evaluatePart · env part)
  | none, env => .refl _
  | some expr, env => by
    exact hcall.value expr env

theorem CallsSettle.chain (hcall : CallsSettle config depth call) :
    ∀ (rest : List Comparand) (env : Env) (left : Value), EvaluatorSettles config depth call
      (·.chain env left rest) (evaluateChain · env left rest)
  | [], env, left => .refl _
  | .mk op operand :: rest, env, left => by
    simp only [Evaluator.chain]
    refine (hcall.value operand env).bind fun right => .after _ fun holds => ?_
    split
    · exact hcall.chain rest env right
    · exact .refl _

theorem CallsSettle.entries (hcall : CallsSettle config depth call) :
    ∀ (rest : List Entry) (env : Env) (dict : Dict), EvaluatorSettles config depth call
      (·.entries env dict rest) (evaluateEntries · env dict rest)
  | [], env, dict => .refl _
  | .mk key value :: rest, env, dict => by
    simp only [Evaluator.entries]
    refine (hcall.value key env).bind fun keyValue => .after _ fun entryKey => ?_
    refine (hcall.value value env).bind fun entryValue => ?_
    exact hcall.entries rest env _

theorem CallsSettle.comprehension (hcall : CallsSettle config depth call) (body : Expr)
    (hbody : ∀ scope, ValueSettles config depth call scope body) :
    ∀ (clauses : List Clause) (scope : Env) (collected : Array Value), Settles
      (fun stuck fuel =>
        (Interpreter.within stuck config fuel).collect depth body clauses scope collected)
      (comprehend (frameAt config depth call).context
        (fun scope => evaluate (frameAt config depth call).context scope body) clauses
        scope collected)
  | [], scope, collected => by
    refine Settles.lift ?_ fun _ _ => rfl
    exact (hbody scope).andThen _
  | .filter condition _ :: rest, scope, collected => by
    refine Settles.lift ?_ fun _ _ => rfl
    refine (hcall.value condition scope).bind fun holds => .after _ fun s => ?_
    split
    · exact hcall.comprehension body hbody rest scope collected
    · exact .refl _
  | .forIn target source _ :: rest, scope, collected => by
    refine Settles.lift ?_ fun _ _ => rfl
    refine (hcall.value source scope).bind fun value => ?_
    refine .after (Run.look fun s => loopElements s config.maxIterations value) fun elements => ?_
    exact .foldlM elements
      (fun state element => hcall.comprehension body hbody rest (state.1.insert target element) state.2) _

theorem CallsSettle.pieces (hcall : CallsSettle config depth call) :
    ∀ (pieces : List Piece) (env : Env), EvaluatorSettles config depth call
      (fun e => pieces.mapM (e.piece env)) (evaluatePieces · env pieces)
  | [], env => .refl _
  | .text text _ :: rest, env => by
    simp only [List.mapM_cons, Evaluator.piece, pure_bind]
    exact (hcall.pieces rest env).andThen _
  | .field value conversion spec _ :: rest, env => by
    simp only [List.mapM_cons, Evaluator.piece, bind_assoc]
    refine (hcall.value value env).bind fun v => .after _ fun text => ?_
    exact (hcall.pieces rest env).andThen _

end

/-! ## Statements -/

theorem CallsSettle.read (hcall : CallsSettle config depth call) (env : Env) (reading : Reading) :
    EvaluatorSettles config depth call (·.read env reading) (reading.evaluate · env) := by
  cases reading with
  | ok expr => exact hcall.value expr env
  | error cause => exact .refl _

theorem CallsSettle.elements (hcall : CallsSettle config depth call) (header : Loop)
    (body : List Line) (env : Env) :
    EvaluatorSettles config depth call (·.loopValues header body env)
      (loopValues · header body env) := by
  unfold Evaluator.loopValues loopValues
  refine (hcall.read env header.source).bind fun source => ?_
  exact .after (Run.look fun s => loopElements s config.maxIterations source) fun _ => .refl _

theorem CallsSettle.guard (hcall : CallsSettle config depth call) (header : Guard)
    (extra : List (String × Value)) (env : Env) :
    EvaluatorSettles config depth call (·.guard header extra env) (testGuard · header extra env) :=
  (hcall.read env header.reading).andThen _

theorem CallsSettle.valueList (hcall : CallsSettle config depth call) (env : Env)
    (exprs : List Expr) :
    EvaluatorSettles config depth call (fun e => exprs.mapM (e.value env))
      (evaluateList · env exprs) := by
  simp only [evaluateList_eq]
  exact hcall.values exprs env

theorem CallsSettle.perform (hcall : CallsSettle config depth call) (inFunction : Bool) (env : Env)
    (statement : Statement) :
    EvaluatorSettles config depth call (·.perform inFunction env statement)
      (statement.perform · inFunction env) := by
  induction statement with
  | assign name source value isLiteral =>
    simp only [Evaluator.perform, Statement.perform]
    exact ((hcall.read env value).tryCatch _).andThen _
  | setItem name key value =>
    simp only [Evaluator.perform, Statement.perform]
    refine .after _ fun container => (hcall.read env key).bind fun k => ?_
    exact (hcall.read env value).andThen _
  | augment name op right =>
    simp only [Evaluator.perform, Statement.perform]
    exact .after _ fun old => (hcall.read env right).andThen _
  | operate name operation reading otherwise ih =>
    simp only [Evaluator.perform, Statement.perform]
    refine .after _ fun receiver => ?_
    cases receiver with
    | scalar value =>
      cases value with
      | str text => exact ih
      | _ => exact .after _ fun kind => .after _ fun expr => (hcall.valueList env _).andThen _
    | _ => exact .after _ fun kind => .after _ fun expr => (hcall.valueList env _).andThen _
  | print reading otherwise ih =>
    simp only [Evaluator.perform, Statement.perform]
    split
    · exact ih
    · exact .after _ fun expr => (hcall.valueList env _).andThen _
  | define definition => exact .refl _
  | call function text reading =>
    simp only [Evaluator.perform, Statement.perform]
    refine .after _ fun callee => ?_
    cases callee with
    | builtin _ => exact (hcall.read env reading).andThen _
    | value v =>
      cases v with
      | function ref =>
        refine .after _ fun expr => (hcall.valueList env _).bind fun arguments => ?_
        exact (hcall ref arguments).andThen _
      | _ => exact .refl _
  | loop header => exact (hcall.elements header [] env).andThen _
  | guard header => exact (hcall.guard header [] env).andThen _
  | pass => exact .refl _
  | ret value =>
    simp only [Evaluator.perform, Statement.perform]
    cases value with
    | none => split <;> exact .refl _
    | some reading =>
      split
      · exact .after _ fun _ => (hcall.read env reading).andThen _
      · exact (hcall.read env reading).andThen _
  | other text reading =>
    simp only [Evaluator.perform, Statement.perform]
    cases reading with
    | ok expr => exact (hcall.value expr env).andThen _
    | error cause => cases cause <;> exact .refl _

theorem CallsSettle.test (hcall : CallsSettle config depth call) (extra : List (String × Value))
    (env : Env) (condition : Condition) :
    EvaluatorSettles config depth call (·.test extra env condition)
      (condition.test · extra env) := by
  unfold Evaluator.test Condition.test
  refine Settles.attempt ?_ env
  cases condition.guard? with
  | none => exact .refl _
  | some header => exact hcall.guard header extra env

/-! ## Loops -/

/-- A block settles in every scope. -/
def BlockSettles (config : Config) (depth : Nat) (call : Nat → List Value → Run Value)
    (block : List Item) : Prop :=
  ∀ env, Settles (fun stuck fuel => (Interpreter.within stuck config fuel).block depth block env)
    (runBlock (frameAt config depth call) block env)

/-- The rounds that are left settle, by induction on the elements that are left. -/
theorem BlockSettles.rounds {block : List Item} (hblock : BlockSettles config depth call block)
    (line : Line) (target : String) (total : Nat) (rest : List Value) :
    ∀ (index : Nat) (env : Env), Settles
      (fun stuck fuel => (Interpreter.within stuck config fuel).rounds depth line target total block
        index rest env)
      ((frameAt config depth call).rounds line target total (runBlock (frameAt config depth call) block)
        index rest env) := by
  induction rest with
  | nil =>
    intro index env
    refine Settles.lift ?_ fun _ _ => rfl
    exact .after ((frameAt config depth call).record line (.loopEnd target) env) fun _ => .refl _
  | cons element rest ih =>
    intro index env
    refine Settles.lift ?_ fun _ _ => rfl
    rw [Frame.rounds_cons, Frame.visit, bind_assoc]
    refine .after _ fun _ => ?_
    rw [bind_assoc]
    refine .after ((frameAt config depth call).record line _ _) fun _ => ?_
    refine (hblock (env.insert target element)).bind fun progress => ?_
    cases progress.returned with
    | none => exact ih (index + 1) progress.env
    | some _ => exact .refl _

/-- The iterations that are left settle, by induction on how many the configuration allows still. -/
theorem BlockSettles.iterations {block : List Item} (hcall : CallsSettle config depth call)
    (hblock : BlockSettles config depth call block) (line : Line) (condition : Condition)
    (room : Nat) :
    ∀ (iteration : Nat) (env : Env), room = config.maxIterations.toNat - iteration → Settles
      (fun stuck fuel =>
        (Interpreter.within stuck config fuel).iterations depth line condition block iteration env)
      ((frameAt config depth call).repeatWhile line condition
        (runBlock (frameAt config depth call) block) room iteration env) := by
  induction room using Nat.strongRecOn with | ind room ih => ?_
  intro iteration env hroom
  refine Settles.lift ?_ fun _ _ => rfl
  rw [Frame.repeatWhile.eq_def]
  refine (hcall.test _ env condition).bind fun effect => ?_
  refine .after ((frameAt config depth call).commit line effect) fun _ => ?_
  rcases effect with ⟨action, env', cause | _ | _⟩
  · exact .refl _
  · exact .refl _
  cases room with
  | zero =>
    have hspent : iteration ≥ config.maxIterations := by omega
    simp only [if_pos hspent]
    exact .after ((frameAt config depth call).refuse line _ env') fun _ => .refl _
  | succ room =>
    have hleft : ¬ iteration ≥ config.maxIterations := by omega
    simp only [if_neg hleft]
    refine .after _ fun _ => (hblock env').bind fun progress => ?_
    cases progress.returned with
    | none => exact .after _ fun _ => ih room (by simp) (iteration + 1) progress.env (by omega)
    | some _ => exact .refl _

/-! ## Blocks -/

mutual

theorem CallsSettle.block (hcall : CallsSettle config depth call) :
    ∀ block : List Item, BlockSettles config depth call block
  | [], env => by
    refine Settles.lift ?_ fun _ _ => rfl
    exact .refl _
  | item :: rest, env => by
    refine Settles.lift ?_ fun _ _ => rfl
    refine .after _ fun _ => (hcall.item item env).bind fun progress => ?_
    cases progress.returned with
    | none => exact hcall.block rest progress.env
    | some _ => exact .refl _

theorem CallsSettle.item (hcall : CallsSettle config depth call) :
    ∀ (item : Item) (env : Env), Settles
      (fun stuck fuel => (Interpreter.within stuck config fuel).unfoldItem config depth item env)
      (runItem (frameAt config depth call) item env)
  | .simple line statement, env => by
    refine ((hcall.perform _ env statement).attempt env).bind fun effect => ?_
    exact .after ((frameAt config depth call).commit line effect) fun _ => .refl _
  | .loop line header body block, env => by
    refine ((hcall.elements header body env).attempt env).bind fun effect => ?_
    refine .after ((frameAt config depth call).commit line effect) fun _ => ?_
    cases effect.result with
    | error _ => exact .refl _
    | ok elements =>
      exact BlockSettles.rounds (hcall.block block) line header.target elements.length elements 0 _
  | .define line definition body block, env => by
    refine .after _ fun effect => ?_
    exact .after ((frameAt config depth call).commit line effect) fun _ => .refl _
  | .choose first rest, env => by
    refine (hcall.branch first env).bind fun result => ?_
    obtain ⟨pending, progress⟩ := result
    dsimp only
    cases progress.returned with
    | none => exact hcall.branches rest pending progress.env
    | some _ => exact .refl _
  | .repeat line condition block, env => by
    exact BlockSettles.iterations hcall (hcall.block block) line condition _ 0 env rfl
  | .skip _, env => .refl _

theorem CallsSettle.branch (hcall : CallsSettle config depth call) :
    ∀ (branch : Branch) (env : Env), Settles
      (fun stuck fuel => (Interpreter.within stuck config fuel).unfoldBranch config depth branch env)
      (runBranch (frameAt config depth call) branch env)
  | .mk line none block, env => by
    exact (hcall.block block env).andThen _
  | .mk line (some condition) block, env => by
    refine (hcall.test [] env condition).bind fun effect => ?_
    refine .after ((frameAt config depth call).commit line effect) fun _ => ?_
    rcases effect with ⟨action, env', cause | _ | _⟩
    · exact .refl _
    · exact .refl _
    · exact (hcall.block block env').andThen _

theorem CallsSettle.branches (hcall : CallsSettle config depth call) :
    ∀ (branches : List Branch) (pending : Bool) (env : Env), Settles
      (fun stuck fuel =>
        (Interpreter.within stuck config fuel).branches depth branches pending env)
      (runBranches (frameAt config depth call) branches pending env)
  | [], pending, env => by
    refine Settles.lift ?_ fun _ _ => rfl
    exact .refl _
  | branch :: rest, pending, env => by
    refine Settles.lift ?_ fun _ _ => rfl
    refine .after _ fun _ => ?_
    cases pending with
    | false => exact hcall.branches rest false env
    | true =>
      refine (hcall.branch branch env).bind fun result => ?_
      obtain ⟨pending, progress⟩ := result
      dsimp only
      cases progress.returned with
      | none => exact hcall.branches rest pending progress.env
      | some _ => exact .refl _

end

/-! ## Calls -/

/-- Calls settle wherever there is room for as many more as the configuration allows. -/
theorem callFunction_settles (config : Config) (room : Nat) :
    ∀ depth : Nat, config.maxCallDepth ≤ depth + room →
      CallsSettle config depth (callFunction config room depth) := by
  induction room using Nat.strongRecOn with | ind room ih => ?_
  intro depth hroom ref arguments
  refine Settles.lift ?_ fun _ _ => rfl
  rw [callFunction.eq_def]
  refine .after _ fun s => .after _ fun _ => ?_
  by_cases hspent : depth ≥ config.maxCallDepth
  · simp only [if_pos hspent]
    exact .fail _ _ _
  · simp only [if_neg hspent]
    obtain ⟨room, rfl⟩ : ∃ k, room = k + 1 := ⟨room - 1, by omega⟩
    refine .after _ fun scope => .after _ fun _ => ?_
    have hcall := ih room (by simp) (depth + 1) (by omega)
    exact ((hcall.block (s.function ref).block scope).tryCatch _).andThen _

end

/-! ## Lines -/

/-- With enough levels `x` comes to a result. -/
def ComesTo {α : Type} (x : Nat → Option α) (a : α) : Prop :=
  ∃ bound, ∀ fuel, bound ≤ fuel → x fuel = some a

section

variable {α β : Type}

theorem ComesTo.pure (a : α) : ComesTo (fun _ => some a) a :=
  ⟨0, fun _ _ => rfl⟩

theorem ComesTo.lift (hx : ∀ fuel, x' (fuel + 1) = x fuel) (h : ComesTo x a) : ComesTo x' a := by
  obtain ⟨bound, hbound⟩ := h
  refine ⟨bound + 1, fun fuel hfuel => ?_⟩
  obtain ⟨fuel, rfl⟩ : ∃ k, fuel = k + 1 := ⟨fuel - 1, by omega⟩
  rw [hx]
  exact hbound fuel (by omega)

theorem ComesTo.bind {f : Nat → α → Option β} (hx : ComesTo x a) (hf : ComesTo (fun fuel => f fuel a) b)
    : ComesTo (fun fuel => x fuel >>= f fuel) b := by
  obtain ⟨bound, hbound⟩ := hx
  obtain ⟨bound', hbound'⟩ := hf
  refine ⟨max bound bound', fun fuel hfuel => ?_⟩
  show x fuel >>= f fuel = some b
  rw [hbound fuel (by omega)]
  exact hbound' fuel (by omega)

end

section

variable {structured : Bool}

/-- A list of lines has been laid out once there are enough levels. -/
def LaysOut (structured : Bool) (lines : List Line) : Prop :=
  ComesTo (fun fuel => (Layout.within structured fuel).items lines) (Item.ofLines structured lines)

/-- The alternatives of a chain, by induction on the lines that are left: each leaves fewer. -/
theorem alternatives_comeTo (indent : Nat) (lines : List Line)
    (hbody : ∀ body : List Line, body.length ≤ lines.length → LaysOut structured body) :
    ComesTo (fun fuel => (Layout.within structured fuel).alternatives indent lines)
      ((alternatives indent lines).1.map (Paragraph.branch (Item.ofLines structured)),
        (alternatives indent lines).2) := by
  fun_induction alternatives indent lines with
  | case1 lines hnone =>
    refine ComesTo.lift (fun _ => rfl) ?_
    simp only [Layout.alternatives_succ, Layout.unfoldAlternatives, hnone]
    exact .pure _
  | case2 lines p hsome _ hlast =>
    obtain ⟨hin, -⟩ := nextAlternative?_sublist hsome
    refine ComesTo.lift (fun _ => rfl) ?_
    simp only [Layout.alternatives_succ, Layout.unfoldAlternatives, hsome, if_pos hlast]
    exact (hbody p.body hin.length_le).bind (.pure _)
  | case3 lines p hsome hlt hlast later ih =>
    obtain ⟨hin, -⟩ := nextAlternative?_sublist hsome
    refine ComesTo.lift (fun _ => rfl) ?_
    simp only [Layout.alternatives_succ, Layout.unfoldAlternatives, hsome, if_neg hlast]
    refine (hbody p.body hin.length_le).bind ?_
    exact (ih fun body hlength => hbody body (by omega)).bind (.pure _)

/-- A paragraph is laid out with what follows it when its body and all that follows are. -/
theorem paragraph_comesTo (indent : Nat) (p : Paragraph)
    (hbody : LaysOut structured p.body)
    (hafter : ∀ lines : List Line, lines.length ≤ p.after.length → LaysOut structured lines) :
    ComesTo
      (fun fuel => (Layout.within structured fuel).unfoldParagraph indent p
        (HeaderKind.ofCode structured p.line.code))
      ((p.shape structured indent).1.item (Item.ofLines structured) ::
        Item.ofLines structured (p.shape structured indent).2) := by
  have hrest := hafter p.rest p.length_rest_le
  unfold Paragraph.shape
  cases HeaderKind.ofCode structured p.line.code with
  | none => exact (hafter p.after le_rfl).bind (.pure _)
  | loop header => exact hbody.bind (hrest.bind (.pure _))
  | define definition => exact hbody.bind (hrest.bind (.pure _))
  | «repeat» => exact hbody.bind (hrest.bind (.pure _))
  | skip => exact hrest.bind (.pure _)
  | choose =>
    have hlater := (length_alternatives_le indent p.rest).trans p.length_rest_le
    refine hbody.bind (ComesTo.bind (alternatives_comeTo indent p.rest fun lines hlength =>
      hafter lines (hlength.trans p.length_rest_le)) ?_)
    exact (hafter (alternatives indent p.rest).2 hlater).bind (.pure _)

/-- Every list of lines is laid out, by induction on its length: whatever its first line is, the
cursor goes past it. -/
theorem items_comeTo (structured : Bool) (lines : List Line) : LaysOut structured lines := by
  induction hn : lines.length using Nat.strong_induction_on generalizing lines with
  | _ n ih =>
  subst hn
  cases lines with
  | nil =>
    have hnil : Item.ofLines structured [] = [] := by rw [Item.ofLines_eq_map, shapes, List.map_nil]
    rw [LaysOut, hnil]
    exact ComesTo.lift (fun _ => rfl) (.pure _)
  | cons first following =>
    have hshorter (l : List Line) (hl : l.length ≤ following.length) : LaysOut structured l :=
      ih l.length (Nat.lt_succ_of_le hl) l rfl
    refine ComesTo.lift (fun _ => rfl) ?_
    by_cases hsilent : first.isSilent
    · have hgap : Item.ofLines structured ([first] ++ following) =
          Item.ofLines structured following :=
        Item.ofLines_silent structured (by simpa using hsilent)
      simp only [Layout.items_succ, Layout.unfoldItems, if_pos hsilent]
      rw [List.singleton_append] at hgap
      rw [hgap]
      exact hshorter following le_rfl
    · have hafter := Paragraph.length_after_cut first following
      have hbody := (Paragraph.body_cut_sublist first following).length_le
      simp only [Layout.items_succ, Layout.unfoldItems, if_neg hsilent]
      rw [Item.ofLines_cons structured (by simpa using hsilent)]
      exact paragraph_comesTo first.indent _ (hshorter _ hbody)
        fun l hl => hshorter l (hl.trans hafter)

end

/-! ## Programs -/

theorem untilSpent_settles (h : Settles x y) :
    Settles (fun stuck fuel => untilSpent (x stuck fuel)) (untilSpent y) :=
  (h.andThen _).tryCatch _

/-- With enough levels the trace is the one with room for all the calls that are allowed. -/
theorem Trace.within_comesTo (config : Config) (source : String) {room : Nat}
    (hroom : config.maxCallDepth ≤ room) :
    ∃ bound, ∀ fuel, bound ≤ fuel → ∀ stuck,
      Trace.within stuck fuel config source = Trace.inRoom room config source := by
  have hcall := callFunction_settles config room 0 (by omega)
  obtain ⟨bound, hbound⟩ := untilSpent_settles (hcall.block (programOf config source) .empty) .start
  obtain ⟨bound', hbound'⟩ := items_comeTo config.structured (expandInline (Line.all source))
  refine ⟨max bound bound', fun fuel hfuel stuck => ?_⟩
  unfold Trace.within Trace.inRoom
  simp only [hbound' fuel (by omega)]
  exact congrArg (Trace.ofEnd source) (hbound fuel (by omega) stuck)

/-- Room for more calls than are allowed makes no difference. -/
theorem Trace.inRoom_eq (config : Config) (source : String) {room room' : Nat}
    (hroom : config.maxCallDepth ≤ room) (hroom' : config.maxCallDepth ≤ room') :
    Trace.inRoom room config source = Trace.inRoom room' config source := by
  obtain ⟨bound, hbound⟩ := Trace.within_comesTo config source hroom
  obtain ⟨bound', hbound'⟩ := Trace.within_comesTo config source hroom'
  rw [← hbound (max bound bound') (by omega) .tooDeep, hbound' (max bound bound') (by omega) .tooDeep]

/-- Every run ends.  For every program and every configuration there is a number of levels from which
on the trace no longer changes and owes nothing to what the lowest level throws; it is the trace of a
run that has room for all the calls that the configuration allows. -/
theorem every_run_ends (config : Config) (source : String) :
    ∃ bound, ∀ fuel, bound ≤ fuel → ∀ stuck,
      (∀ room : Nat, config.maxCallDepth ≤ room →
        Trace.within stuck fuel config source = Trace.inRoom room config source) ∧
      (config.maxCallDepth ≤ callLimit →
        Trace.within stuck fuel config source = Trace.ofSource config source) := by
  have henough : config.maxCallDepth ≤ config.maxCallDepth.toNat := by omega
  obtain ⟨bound, hbound⟩ := Trace.within_comesTo config source henough
  refine ⟨bound, fun fuel hfuel stuck => ⟨fun room hroom => ?_, fun hroom => ?_⟩⟩
  · rw [hbound fuel hfuel stuck, Trace.inRoom_eq config source henough hroom]
  · rw [hbound fuel hfuel stuck, Trace.inRoom_eq config source henough hroom]
    exact (Trace.ofSource_eq_inRoom config source).symm

end Walkthrough
