import Walkthrough.Proofs.Layout
import Walkthrough.Proofs.Lockstep

/-!
# The interpreter, unrolled

The functions of the interpreter call each other: blocks execute statements, statements evaluate
expressions, expressions call functions, and a call runs a block.  Here each of them is written once
with the calls that it makes left open, and `Interpreter.within` closes them with a number of levels:
every such call goes one level down, and on the lowest level there is nothing but the failure
`stuck`.  No other measure is used: how long a list is, how many iterations are left and how many
calls are under way bound nothing here except where the program's own limits look at them.

* `Interpreter.within`: the interpreter with a number of levels.
* `Layout.within`: the layout of lines into a tree, where every step of the cursor goes one level
  down.
* `Trace.within`: the trace that it leaves.
-/

namespace Walkthrough

open Source Text Format

/-! ## Expressions and statements -/

/-- How expressions are evaluated and functions are called. -/
structure Evaluator where
  maxIterations : Int
  value : Env → Expr → Run Value
  call : Nat → List Value → Run Value

namespace Evaluator

variable (evaluator : Evaluator)

def part (env : Env) : Option Expr → Run Value
  | none => return .none
  | some expr => evaluator.value env expr

def chain (env : Env) (left : Value) : List Comparand → Run Bool
  | [] => return true
  | .mk op operand :: rest => do
    let right ← evaluator.value env operand
    if ← op.apply left right then chain env right rest else return false

def entries (env : Env) (dict : Dict) : List Entry → Run Dict
  | [] => return dict
  | .mk key value :: rest => do
    let key ← Run.key (← evaluator.value env key)
    let value ← evaluator.value env value
    entries env (dict.insert key value) rest

def piece (env : Env) : Piece → Run String
  | .text text _ => return text
  | .field value conversion spec _ => do fieldText conversion spec (← evaluator.value env value)

def apply (callee : Callee) (arguments : List Value) : Run Value := do
  match callee with
  | .value (.function ref) => evaluator.call ref arguments
  | .value value => Run.fail (.notCallable (← Run.ofExcept value.typeName))
  | .builtin function => function.call evaluator.maxIterations arguments

/-- The value of an expression by the values of its parts; `collect` gives the elements of a
comprehension. -/
def unfold (collect : Expr → List Clause → Env → Array Value → Run (Env × Array Value)) (env : Env) :
    Expr → Run Value
  | .const value _ => return .scalar value.scalar
  | .name id _ => nameValue env id
  | .binary op left right _ => do
    let a ← evaluator.value env left
    let b ← evaluator.value env right
    op.apply a b
  | .logic op left right _ => do
    let a ← evaluator.value env left
    let truthy := a.isTruthy (← Run.store)
    match op, truthy with
    | .and, true | .or, false => evaluator.value env right
    | .and, false | .or, true => return a
  | .not operand _ => do
    let a ← evaluator.value env operand
    return .bool !(a.isTruthy (← Run.store))
  | .unary op operand _ => do op.apply (← evaluator.value env operand)
  | .compare first rest _ => do
    let a ← evaluator.value env first
    return .bool (← evaluator.chain env a rest)
  | .conditional condition yes no _ => do
    let a ← evaluator.value env condition
    if a.isTruthy (← Run.store) then evaluator.value env yes else evaluator.value env no
  | .call function arguments _ => do
    let callee ← calleeOf env function
    evaluator.apply callee (← arguments.mapM (evaluator.value env))
  | .method receiver name arguments _ => do
    let object ← evaluator.value env receiver
    let arguments ← arguments.mapM (evaluator.value env)
    return (← callMethod object name arguments (receiverLabel receiver)).result
  | .subscript object index _ => do
    let a ← evaluator.value env object
    let i ← evaluator.value env index
    Run.look fun s => Walkthrough.subscript s a i
  | .slice object start stop step _ _ => do
    let a ← evaluator.value env object
    let start ← evaluator.part env start
    let stop ← evaluator.part env stop
    let step ← evaluator.part env step
    sliceValue a start stop step
  | .list elements _ => do Run.newList (← elements.mapM (evaluator.value env)).toArray
  | .dict pairs _ => do Run.newDict (← evaluator.entries env .empty pairs)
  | .comprehension body clauses _ => do
    let (_, elements) ← collect body clauses env #[]
    Run.newList elements
  | .formatted pieces _ => do return .str (String.join (← pieces.mapM (evaluator.piece env)))

/-- The elements of a comprehension; `collect` gives those of the clauses behind the first. -/
def gather (collect : Expr → List Clause → Env → Array Value → Run (Env × Array Value))
    (body : Expr) : List Clause → Env → Array Value → Run (Env × Array Value)
  | [], scope, collected => do return (scope, collected.push (← evaluator.value scope body))
  | .filter condition _ :: rest, scope, collected => do
    let holds ← evaluator.value scope condition
    if holds.isTruthy (← Run.store) then collect body rest scope collected
    else return (scope, collected)
  | .forIn target source _ :: rest, scope, collected => do
    let source ← evaluator.value scope source
    let elements ← Run.look fun s => loopElements s evaluator.maxIterations source
    elements.foldlM (fun (scope, collected) element =>
      collect body rest (scope.insert target element) collected) (scope, collected)

def read (env : Env) : Reading → Run Value
  | .ok expr => evaluator.value env expr
  | .error cause => Run.unreadable cause

def assigned (env : Env) (source : String) (value : Reading) (isLiteral : Bool) : Run Value :=
  tryCatch (evaluator.read env value)
    (onError fun cause => if isLiteral then return .str source else Run.fail cause)

def loopValues (header : Loop) (body : List Line) (env : Env) : Run (Effect (List Value)) := do
  let source ← evaluator.read env header.source
  let elements ← Run.look fun s => loopElements s evaluator.maxIterations source
  return .done (.loopStart header.target header.iterable (body.map (·.index))) env elements

def guard (header : Guard) (extra : List (String × Value)) (env : Env) : Run (Effect Bool) := do
  let value ← evaluator.read env header.reading
  let result := value.isTruthy (← Run.store)
  return .done (.condition header.word header.condition result extra) env result

def perform (inFunction : Bool) (env : Env) : Statement → Run (Effect (Option Value))
  | .assign name source value isLiteral => do
    let value ← evaluator.assigned env source value isLiteral
    let action := match env.get? name with
      | some old => Action.reassign name value source old
      | none => Action.assign name value source
    return .done action (env.insert name value) none
  | .setItem name key value => do
    let container ← lookUp env name
    let key ← evaluator.read env key
    let value ← evaluator.read env value
    let old ← Run.snapshot fun copy => copy container
    let kind ← setElement container key value
    let shownKey ← Run.shown key
    let shownValue ← Run.shown value
    let summary := s!"Set {name}[{shownKey}] to {shownValue}"
    return .done (.setItem kind name key container old summary) env none
  | .augment name op right => do
    let old ← lookUp env name
    let right ← evaluator.read env right
    let value ← augmentedValue op old right
    return .done (.augment name op value old right) (env.insert name value) none
  | .operate name operation reading otherwise => do
    let receiver ← lookUp env name
    match receiver with
    | .str _ => perform inFunction env otherwise
    | _ =>
      let kind ← containerKind operation receiver
      let expr ← reading.expr
      let arguments ← (expr.children.drop 1).mapM (evaluator.value env)
      let old ← Run.snapshot fun copy => copy receiver
      let outcome ← callMethod receiver operation arguments name
      let action := Action.operate kind name operation arguments receiver old outcome.summary
        outcome.result
      return .done action env none
  | .print reading otherwise => do
    if ((env.get? "print").map Value.isFunction).getD false then
      perform inFunction env otherwise
    else
      let expr ← reading.expr
      let arguments ← expr.children.mapM (evaluator.value env)
      let text ← Run.look fun s => printLine s arguments
      Run.say text
      return .done (.print arguments text) env none
  | .define definition => do return (← bindFunction definition [] [] env).goesOn
  | .call function text reading => do
    match ← calleeOf env function with
    | .value (.function ref) =>
      let expr ← reading.expr
      let arguments ← expr.children.mapM (evaluator.value env)
      let result ← evaluator.call ref arguments
      return .done (.call function arguments result) env none
    | .value value => Run.fail (.notCallable (← Run.ofExcept value.typeName))
    | .builtin _ =>
      let _ ← evaluator.read env reading
      return .done (.execute text) env none
  | .loop header => do return (← evaluator.loopValues header [] env).goesOn
  | .guard header => do return (← evaluator.guard header [] env).goesOn
  | .pass => return { action := none, env, result := .ok none }
  | .ret value => do
    if !inFunction then Run.fail .strayReturn
    let result ← match value with
      | some reading => evaluator.read env reading
      | none => pure .none
    return { action := none, env, result := .ok (some result) }
  | .other text reading => do
    match reading with
    | .ok expr => let _ ← evaluator.value env expr
    | .error (.fault cause) => throw (.fault cause)
    | .error _ => pure ()
    return .done (.execute text) env none

def test (extra : List (String × Value)) (env : Env) (condition : Condition) : Run (Effect Bool) :=
  attempt env <|
    match condition.guard? with
    | some header => evaluator.guard header extra env
    | none => Run.fail (.conditionHeader condition.text)

end Evaluator

/-! ## Blocks and calls -/

/-- The functions that call each other while a program runs.  Each is told how many calls are under
way; where none is, the program itself runs. -/
structure Interpreter where
  value : Nat → Env → Expr → Run Value
  collect : Nat → Expr → List Clause → Env → Array Value → Run (Env × Array Value)
  call : Nat → Nat → List Value → Run Value
  block : Nat → List Item → Env → Run Progress
  /-- The later alternatives of a chain. -/
  branches : Nat → List Branch → Bool → Env → Run Progress
  /-- The rounds of a loop that are left, the first of them numbered. -/
  rounds : Nat → Line → String → Nat → List Item → Nat → List Value → Env → Run Progress
  /-- The iterations of a conditional loop from a numbered one on. -/
  iterations : Nat → Line → Condition → List Item → Nat → Env → Run Progress

namespace Interpreter

variable (self : Interpreter) (config : Config) (depth : Nat)

/-- Evaluation while `depth` calls are under way. -/
def evaluator : Evaluator where
  maxIterations := config.maxIterations
  value := self.value depth
  call := self.call depth

/-- The frame while `depth` calls are under way. -/
def frame : Frame where
  config
  inFunction := depth != 0
  call := self.call depth

def unfoldBranch : Branch → Env → Run (Bool × Progress)
  | .mk line condition block, env => do
    match condition with
    | none => return (false, ← self.block depth block env)
    | some condition =>
      let effect ← (self.evaluator config depth).test [] env condition
      (self.frame config depth).commit line effect
      match effect.result with
      | .ok true => return (false, ← self.block depth block effect.env)
      | .ok false => return (true, .goingOn effect.env)
      | .error _ => return (false, .goingOn effect.env)

def unfoldItem (item : Item) (env : Env) : Run Progress :=
  let frame := self.frame config depth
  let evaluator := self.evaluator config depth
  match item with
  | .simple line statement => do
    let effect ← attempt env (evaluator.perform frame.inFunction env statement)
    frame.commit line effect
    match effect.result with
    | .ok returned => return ⟨effect.env, returned⟩
    | .error _ => return .goingOn effect.env
  | .loop line header body block => do
    let effect ← attempt env (evaluator.loopValues header body env)
    frame.commit line effect
    match effect.result with
    | .ok elements =>
      self.rounds depth line header.target elements.length block 0 elements effect.env
    | .error _ => return .goingOn effect.env
  | .define line definition body block => do
    let effect ← executeDefinition line.code (some definition) body block env
    frame.commit line effect
    return .goingOn effect.env
  | .choose first rest => do
    let (pending, progress) ← self.unfoldBranch config depth first env
    match progress.returned with
    | some _ => return progress
    | none => self.branches depth rest pending progress.env
  | .repeat line condition block => self.iterations depth line condition block 0 env
  | .skip _ => return .goingOn env

def unfoldBlock : List Item → Env → Run Progress
  | [], env => return .goingOn env
  | item :: rest, env => do
    countStatement config
    let progress ← self.unfoldItem config depth item env
    match progress.returned with
    | some _ => return progress
    | none => self.block depth rest progress.env

def unfoldBranches : List Branch → Bool → Env → Run Progress
  | [], _, env => return .goingOn env
  | branch :: rest, pending, env => do
    countStatement config
    let (pending, progress) ←
      if pending then self.unfoldBranch config depth branch env else pure (false, .goingOn env)
    match progress.returned with
    | some _ => return progress
    | none => self.branches depth rest pending progress.env

def unfoldRounds (line : Line) (target : String) (total : Nat) (block : List Item) (index : Nat) :
    List Value → Env → Run Progress
  | [], env => do
    (self.frame config depth).record line (.loopEnd target) env
    return .goingOn env
  | element :: rest, env => do
    countIteration
    (self.frame config depth).record line (.loopIteration target element index total)
      (env.insert target element)
    let progress ← self.block depth block (env.insert target element)
    match progress.returned with
    | some _ => return progress
    | none => self.rounds depth line target total block (index + 1) rest progress.env

def unfoldIterations (line : Line) (condition : Condition) (block : List Item) (iteration : Nat)
    (env : Env) : Run Progress := do
  let effect ← (self.evaluator config depth).test [("iteration", .int iteration)] env condition
  (self.frame config depth).commit line effect
  match effect.result with
  | .ok true =>
    if iteration ≥ config.maxIterations then
      (self.frame config depth).refuse line (.loopLimit config.maxIterations) effect.env
      return .goingOn effect.env
    else
      countIteration
      let progress ← self.block depth block effect.env
      match progress.returned with
      | some _ => return progress
      | none =>
        countStatement config
        self.iterations depth line condition block (iteration + 1) progress.env
  | _ => return .goingOn effect.env

def unfoldCall (ref : Nat) (arguments : List Value) : Run Value := do
  let function := (← Run.store).function ref
  Run.note config (.called depth ref arguments)
  if depth ≥ config.maxCallDepth then
    Run.fail (.callDepth config.maxCallDepth function.name)
  let scope ← startingScope ref function arguments
  countCall
  let progress ← tryCatch (self.block (depth + 1) function.block scope) fun failure =>
    throw (failureInside function.name failure)
  Run.note config .passed
  return progress.returned.getD .none

/-- One more level: every call that a function makes is one of `self`. -/
def next : Interpreter where
  value depth := (self.evaluator config depth).unfold (self.collect depth)
  collect depth := (self.evaluator config depth).gather (self.collect depth)
  call := self.unfoldCall config
  block := self.unfoldBlock config
  branches := self.unfoldBranches config
  rounds := self.unfoldRounds config
  iterations := self.unfoldIterations config

/-- The interpreter with a number of levels. -/
def within (stuck : Failure) (config : Config) : Nat → Interpreter
  | 0 => {
      value := fun _ _ _ => throw stuck
      collect := fun _ _ _ _ _ => throw stuck
      call := fun _ _ _ => throw stuck
      block := fun _ _ _ => throw stuck
      branches := fun _ _ _ _ => throw stuck
      rounds := fun _ _ _ _ _ _ _ _ => throw stuck
      iterations := fun _ _ _ _ _ _ => throw stuck }
  | fuel + 1 => (within stuck config fuel).next config

end Interpreter

/-! ## Lines -/

/-- The functions that call each other while lines are laid out; each gives nothing where the levels
do not suffice. -/
structure Layout where
  /-- The tree of a list of lines. -/
  items : List Line → Option (List Item)
  /-- The alternatives that continue a chain at an indent, and the lines after them. -/
  alternatives : Nat → List Line → Option (List Branch × List Line)

namespace Layout

variable (self : Layout)

/-- What a paragraph is, with the items of the lines that follow. -/
def unfoldParagraph (indent : Nat) (p : Paragraph) : HeaderKind → Option (List Item)
  | .none => do
    let rest ← self.items p.after
    return .simple p.line (Statement.ofCode p.line.code) :: rest
  | .loop header => do
    let block ← self.items p.body
    let rest ← self.items p.rest
    return .loop p.line header p.body block :: rest
  | .define definition => do
    let block ← self.items p.body
    let rest ← self.items p.rest
    return .define p.line definition p.body block :: rest
  | .repeat => do
    let block ← self.items p.body
    let rest ← self.items p.rest
    return .repeat p.line (Condition.ofText p.line.code) block :: rest
  | .skip => do
    let rest ← self.items p.rest
    return .skip p.line :: rest
  | .choose => do
    let block ← self.items p.body
    let later ← self.alternatives indent p.rest
    let rest ← self.items later.2
    return .choose (p.branch fun _ => block) later.1 :: rest

def unfoldItems (structured : Bool) : List Line → Option (List Item)
  | [] => some []
  | first :: following =>
    if first.isSilent then self.items following
    else
      let p := Paragraph.cut first following
      self.unfoldParagraph first.indent p (HeaderKind.ofCode structured p.line.code)

def unfoldAlternatives (indent : Nat) (lines : List Line) : Option (List Branch × List Line) :=
  match nextAlternative? indent lines with
  | none => some ([], lines)
  | some p => do
    let block ← self.items p.body
    if headWord p.line.code == "else" then return ([p.branch fun _ => block], p.rest)
    let later ← self.alternatives indent p.rest
    return ((p.branch fun _ => block) :: later.1, later.2)

/-- The layout of lines with a number of levels. -/
def within (structured : Bool) : Nat → Layout
  | 0 => { items := fun _ => none, alternatives := fun _ _ => none }
  | fuel + 1 => {
      items := (within structured fuel).unfoldItems structured
      alternatives := (within structured fuel).unfoldAlternatives }

theorem items_succ (structured : Bool) (fuel : Nat) :
    (within structured (fuel + 1)).items = (within structured fuel).unfoldItems structured := rfl

theorem alternatives_succ (structured : Bool) (fuel : Nat) :
    (within structured (fuel + 1)).alternatives = (within structured fuel).unfoldAlternatives := rfl

end Layout

/-! ## Whole programs -/

/-- The trace that a run leaves. -/
def Trace.ofEnd (source : String) : Except Failure Bool × Machine → Except TraceError Trace
  | (.ok truncated, m) => .ok (m.trace source truncated)
  | (.error .tooDeep, _) => .error .tooDeep
  | (.error failure, _) => .error (.stopped failure)

/-- The trace of a program when there is room for a number of calls at once. -/
def Trace.inRoom (room : Nat) (config : Config) (source : String) : Except TraceError Trace :=
  let frame : Frame := { config, inFunction := false, call := callFunction config room 0 }
  Trace.ofEnd source (exec (untilSpent (runBlock frame (programOf config source) .empty)) .start)

theorem Trace.ofSource_eq_inRoom (config : Config) (source : String) :
    Trace.ofSource config source = Trace.inRoom callLimit config source := rfl

/-- The trace of a program when its lines are laid out and run with a number of levels. -/
def Trace.within (stuck : Failure) (fuel : Nat) (config : Config) (source : String) :
    Except TraceError Trace :=
  let program : Run Progress := do
    match (Layout.within config.structured fuel).items (expandInline (Line.all source)) with
    | none => throw stuck
    | some items => (Interpreter.within stuck config fuel).block 0 items .empty
  Trace.ofEnd source (exec (untilSpent program) .start)

end Walkthrough
