import Walkthrough.Evaluation
import Walkthrough.Value.Snapshot

/-!
# Execution of statements

A statement reads the bindings of a scope and says which bindings it leaves, so a statement that
fails has changed none of them.  What it did to lists and dictionaries before it failed stays done,
and what it printed stays printed.
-/

namespace Walkthrough

open Source

/-- What a statement did: the action to record, if there is one, the bindings that it leaves, and
its result or its error. -/
structure Effect (α : Type) where
  action : Option Action
  env : Env
  result : Except EvalError α

/-- A statement succeeded and has an action to record. -/
def Effect.done {α : Type} (action : Action) (env : Env) (result : α) : Effect α where
  action := some action
  env
  result := .ok result

/-- A statement failed: the bindings are those that it found. -/
def Effect.failed {α : Type} (env : Env) (cause : EvalError) : Effect α where
  action := some (.error cause.message)
  env
  result := .error cause

/-- Runs a statement that found the bindings `env`.  Its error becomes its effect.  A failure that
ends the whole run takes back what the statement printed. -/
def attempt {α : Type} (env : Env) (statement : Run (Effect α)) : Run (Effect α) := do
  let before := (← get).output
  tryCatch statement fun
    | .error cause => return .failed env cause
    | failure => do
      modify fun machine => { machine with output := before }
      throw failure

def Reading.expr (reading : Reading) : Run Expr :=
  match reading with
  | .ok expr => return expr
  | .error cause => Run.unreadable cause

/-- The value to be assigned.  A literal that cannot be evaluated is kept as text. -/
def assignedValue (context : Context) (env : Env) (source : String) (value : Reading)
    (isLiteral : Bool) : Run Value :=
  tryCatch (value.evaluate context env) fun
    | .error cause => if isLiteral then return .str source else Run.fail cause
    | failure => throw failure

/-- Sets an element of a container and says which kind of container it is. -/
def setElement (container key value : Value) : Run ContainerKind := do
  match container with
  | .list ref =>
    let some index := key.asInt? | Run.fail (.indices "list" (← Run.ofExcept key.typeName))
    let some position := indexPosition? ((← Run.store).list ref).size index
      | Run.fail .assignmentRange
    Run.change (·.modifyList ref (·.setIfInBounds position value))
    return .list
  | .dict ref =>
    let key ← Run.key key
    Run.change (·.modifyDict ref (·.insert key value))
    return .dict
  | other => Run.fail (.noItemAssignment (← Run.ofExcept other.typeName))

/-- The container that a name is bound to and that has an operation of its own. -/
def containerKind (operation : String) (receiver : Value) : Run ContainerKind := do
  match receiver with
  | .dict _ => if dictOperations.contains operation then return .dict
  | .list _ => if listOperations.contains operation then return .list
  | _ => pure ()
  Run.fail (.noAttribute (← Run.ofExcept receiver.typeName) operation)

/-- The value of an augmented assignment.  Adding to or with a text writes the other value out. -/
def augmentedValue (op : BinaryOp) (old right : Value) : Run Value := do
  match op, old, right with
  | .add, .str _, _ | .add, _, .str _ =>
    return .str ((← Run.look fun s => old.text s) ++ (← Run.look fun s => right.text s))
  | _, _, _ => op.apply old right

def bindFunction (definition : Definition) (body : List Line) (block : List Item) (env : Env) :
    Run (Effect Unit) := do
  match parameterNames definition.parameterText with
  | .error piece => Run.fail (.parameter piece)
  | .ok parameters =>
    let name := definition.name
    let closure ← Run.snapshot fun copy => copyEnv copy env
    let function ← Run.alter (·.addFunction { name, parameters, body, block, closure })
    return .done (.define name parameters (body.map (·.index))) (env.insert name function) ()

/-- Evaluates what a loop runs over. -/
def loopValues (context : Context) (header : Loop) (body : List Line) (env : Env) :
    Run (Effect (List Value)) := do
  let source ← header.source.evaluate context env
  let elements ← Run.look fun s => loopElements s context.maxIterations source
  return .done (.loopStart header.target header.iterable (body.map (·.index))) env elements

def testGuard (context : Context) (header : Guard) (extra : List (String × Value)) (env : Env) :
    Run (Effect Bool) := do
  let value ← header.reading.evaluate context env
  let result := value.isTruthy (← Run.store)
  return .done (.condition header.word header.condition result extra) env result

/-- An effect without a value to return. -/
def Effect.goesOn {α : Type} (effect : Effect α) : Effect (Option Value) :=
  { effect with result := effect.result.map fun _ => none }

/-- What a statement does.  The result is the value that a `return` gives. -/
def Statement.perform (context : Context) (inFunction : Bool) (env : Env) :
    Statement → Run (Effect (Option Value))
  | .assign name source value isLiteral => do
    let value ← assignedValue context env source value isLiteral
    let action := match env.get? name with
      | some old => Action.reassign name value source old
      | none => Action.assign name value source
    return .done action (env.insert name value) none
  | .setItem name key value => do
    let container ← lookUp env name
    let key ← key.evaluate context env
    let value ← value.evaluate context env
    let old ← Run.snapshot fun copy => copy container
    let kind ← setElement container key value
    let shownKey ← Run.shown key
    let shownValue ← Run.shown value
    let summary := s!"Set {name}[{shownKey}] to {shownValue}"
    return .done (.setItem kind name key container old summary) env none
  | .augment name op right => do
    let old ← lookUp env name
    let right ← right.evaluate context env
    let value ← augmentedValue op old right
    return .done (.augment name op value old right) (env.insert name value) none
  | .operate name operation reading otherwise => do
    let receiver ← lookUp env name
    match receiver with
    | .str _ => otherwise.perform context inFunction env
    | _ =>
      let kind ← containerKind operation receiver
      let expr ← reading.expr
      let arguments ← evaluateList context env (expr.children.drop 1)
      let old ← Run.snapshot fun copy => copy receiver
      let outcome ← callMethod receiver operation arguments name
      let action := Action.operate kind name operation arguments receiver old outcome.summary
        outcome.result
      return .done action env none
  | .print reading otherwise => do
    if ((env.get? "print").map Value.isFunction).getD false then
      otherwise.perform context inFunction env
    else
      let expr ← reading.expr
      let arguments ← evaluateList context env expr.children
      let text ← Run.look fun s => printLine s arguments
      Run.say text
      return .done (.print arguments text) env none
  | .define definition => do return (← bindFunction definition [] [] env).goesOn
  | .call function text reading => do
    match ← calleeOf env function with
    | .value (.function ref) =>
      let expr ← reading.expr
      let arguments ← evaluateList context env expr.children
      let result ← context.call ref arguments
      return .done (.call function arguments result) env none
    | .value value => Run.fail (.notCallable (← Run.ofExcept value.typeName))
    | .builtin _ =>
      let _ ← reading.evaluate context env
      return .done (.execute text) env none
  | .loop header => do return (← loopValues context header [] env).goesOn
  | .guard header => do return (← testGuard context header [] env).goesOn
  | .pass => return { action := none, env, result := .ok none }
  | .ret value => do
    if !inFunction then Run.fail .strayReturn
    let result ← match value with
      | some reading => reading.evaluate context env
      | none => pure .none
    return { action := none, env, result := .ok (some result) }
  | .other text reading => do
    match reading with
    | .ok expr => let _ ← evaluate context env expr
    | .error (.fault cause) => throw (.fault cause)
    | .error _ => pure ()
    return .done (.execute text) env none

def Statement.execute (context : Context) (inFunction : Bool) (env : Env) (statement : Statement) :
    Run (Effect (Option Value)) :=
  attempt env (statement.perform context inFunction env)

/-- Executes a function header with the body that belongs to it. -/
def executeDefinition (text : String) (definition? : Option Definition) (body : List Line)
    (block : List Item) (env : Env) : Run (Effect Unit) :=
  attempt env <|
    match definition? with
    | some definition => bindFunction definition body block env
    | none => Run.fail (.functionHeader text)

/-- Executes a loop header; the result is what the loop runs over. -/
def startLoop (context : Context) (text : String) (header? : Option Loop) (body : List Line)
    (env : Env) : Run (Effect (List Value)) :=
  attempt env <|
    match header? with
    | some header => loopValues context header body env
    | none => Run.fail (.loopHeader text)

/-- Tests the condition of a header; `extra` are further details to record. -/
def Condition.test (context : Context) (extra : List (String × Value)) (env : Env)
    (condition : Condition) : Run (Effect Bool) :=
  attempt env <|
    match condition.guard? with
    | some header => testGuard context header extra env
    | none => Run.fail (.conditionHeader condition.text)

end Walkthrough
