import Walkthrough.Method
import Walkthrough.Operation.Compare

/-!
# Evaluation

The value of an expression in a scope.  What a call of a function does is a parameter: the evaluator
knows nothing of statements.
-/

namespace Walkthrough

open Text Format

/-- What evaluation needs to know: the bound on loops and ranges, and how to call a function. -/
structure Context where
  maxIterations : Int
  call : Nat → List Value → Run Value

/-- A context in which no function can be called. -/
def Context.withoutCalls (maxIterations : Int) : Context where
  maxIterations
  call ref _ := do Run.fail (.noCaller ((← Run.store).function ref).name)

def lookUp (env : Env) (name : String) : Run Value :=
  match env.get? name with
  | some value => return value
  | none => Run.fail (.undefined name)

/-- The value of a name in an expression.  A built-in function is no value. -/
def nameValue (env : Env) (name : String) : Run Value :=
  if !env.contains name && (Builtin.ofName? name).isSome then Run.fail (.onlyCalled name)
  else lookUp env name

/-- What a call by name calls. -/
inductive Callee where
  | value (value : Value)
  | builtin (function : Builtin)

def calleeOf (env : Env) (name : String) : Run Callee :=
  match env.get? name, Builtin.ofName? name with
  | some value, _ => return .value value
  | none, some function => return .builtin function
  | none, none => Run.fail (.undefined name)

def Context.apply (context : Context) (callee : Callee) (arguments : List Value) : Run Value := do
  match callee with
  | .value (.function ref) => context.call ref arguments
  | .value value => Run.fail (.notCallable (← Run.ofExcept value.typeName))
  | .builtin function => function.call context.maxIterations arguments

/-- A failure of formatting.  An overflow ends the run. -/
def formatFailure : FormatError → Failure
  | .fault (.overflow cause) => .fault (.overflow cause)
  | .fault cause => .error (.fault cause)
  | cause => .error (.format cause)

/-- A value laid out by a specification. -/
def formatValue (spec : String) (value : Value) : Run String := do
  let refuse : Run String := do Run.fail (.noFormat (← Run.ofExcept value.typeName))
  let formatted (result : Except FormatError String) : Run String :=
    Run.ofExcept (result.mapError formatFailure)
  match value with
  | .bool b => formatted (formatInt "bool" spec (if b then 1 else 0))
  | .int i => formatted (formatInt "int" spec i)
  | .float x => formatted (formatFloat spec x)
  | .nan _ => formatted (formatFloat spec (0.0 / 0.0))
  | .str text => formatted (formatText spec text)
  | .complex re im => formatted (formatComplex spec re im)
  | _ => refuse

/-- A value as a field of a formatted string. -/
def fieldText (conversion spec : String) (value : Value) : Run String := do
  let value ← match conversion with
    | "r" => do pure (Value.str (← Run.look fun s => value.repr s))
    | "a" => do pure (Value.str (asciiBody (← Run.look fun s => value.repr s)))
    | "s" => do pure (Value.str (← Run.look fun s => value.text s))
    | _ => pure value
  if spec.isEmpty then Run.look fun s => value.text s else formatValue spec value

def sliceValue (object start stop step : Value) : Run Value := do
  match ← Run.look fun s => sliceOf s object start stop step with
  | .elements elements => Run.newList elements
  | .text text => return .str text

/-- The name by which a receiver is called in summaries. -/
def receiverLabel : Expr → String
  | .name id _ => id
  | _ => ""

mutual

def evaluate (context : Context) (env : Env) : Expr → Run Value
  | .const value _ => return .scalar value.scalar
  | .name id _ => nameValue env id
  | .binary op left right _ => do
    let a ← evaluate context env left
    let b ← evaluate context env right
    op.apply a b
  | .logic op left right _ => do
    let a ← evaluate context env left
    let truthy := a.isTruthy (← Run.store)
    match op, truthy with
    | .and, true | .or, false => evaluate context env right
    | .and, false | .or, true => return a
  | .not operand _ => do
    let a ← evaluate context env operand
    return .bool !(a.isTruthy (← Run.store))
  | .unary op operand _ => do op.apply (← evaluate context env operand)
  | .compare first rest _ => do
    let a ← evaluate context env first
    return .bool (← evaluateChain context env a rest)
  | .conditional condition yes no _ => do
    let a ← evaluate context env condition
    if a.isTruthy (← Run.store) then evaluate context env yes else evaluate context env no
  | .call function arguments _ => do
    let callee ← calleeOf env function
    context.apply callee (← evaluateAll context env arguments)
  | .method receiver name arguments _ => do
    let object ← evaluate context env receiver
    let arguments ← evaluateAll context env arguments
    return (← callMethod object name arguments (receiverLabel receiver)).result
  | .subscript object index _ => do
    let a ← evaluate context env object
    let i ← evaluate context env index
    Run.look fun s => Walkthrough.subscript s a i
  | .slice object start stop step _ _ => do
    let a ← evaluate context env object
    let start ← evaluatePart context env start
    let stop ← evaluatePart context env stop
    let step ← evaluatePart context env step
    sliceValue a start stop step
  | .list elements _ => do Run.newList (← evaluateAll context env elements).toArray
  | .dict entries _ => do Run.newDict (← evaluateEntries context env .empty entries)
  | .comprehension body clauses _ => do
    let (_, elements) ← comprehend context (fun scope => evaluate context scope body) clauses env #[]
    Run.newList elements
  | .formatted pieces _ => do return .str (String.join (← evaluatePieces context env pieces))

def evaluateAll (context : Context) (env : Env) : List Expr → Run (List Value)
  | [] => return []
  | expr :: rest => do
    let value ← evaluate context env expr
    return value :: (← evaluateAll context env rest)

/-- The value of a part of a slice; one that is left out is nothing. -/
def evaluatePart (context : Context) (env : Env) : Option Expr → Run Value
  | none => return .none
  | some expr => evaluate context env expr

/-- Whether every comparison of a chain holds; after the first that does not, nothing more is
evaluated. -/
def evaluateChain (context : Context) (env : Env) (left : Value) : List Comparand → Run Bool
  | [] => return true
  | .mk op operand :: rest => do
    let right ← evaluate context env operand
    if ← op.apply left right then evaluateChain context env right rest else return false

def evaluateEntries (context : Context) (env : Env) (entries : Dict) : List Entry → Run Dict
  | [] => return entries
  | .mk key value :: rest => do
    let key ← Run.key (← evaluate context env key)
    let value ← evaluate context env value
    evaluateEntries context env (entries.insert key value) rest

/-- The elements of a comprehension behind those collected so far.  The names of all its loops are in
one scope, and one keeps its last value while an outer loop goes on. -/
def comprehend (context : Context) (body : Env → Run Value) :
    List Clause → Env → Array Value → Run (Env × Array Value)
  | [], scope, collected => do return (scope, collected.push (← body scope))
  | .filter condition _ :: rest, scope, collected => do
    let holds ← evaluate context scope condition
    if holds.isTruthy (← Run.store) then comprehend context body rest scope collected
    else return (scope, collected)
  | .forIn target source _ :: rest, scope, collected => do
    let source ← evaluate context scope source
    let elements ← Run.look fun s => loopElements s context.maxIterations source
    elements.foldlM (fun (scope, collected) element =>
      comprehend context body rest (scope.insert target element) collected) (scope, collected)

def evaluatePieces (context : Context) (env : Env) : List Piece → Run (List String)
  | [] => return []
  | .text text _ :: rest => do return text :: (← evaluatePieces context env rest)
  | .field value conversion spec _ :: rest => do
    let text ← fieldText conversion spec (← evaluate context env value)
    return text :: (← evaluatePieces context env rest)

end

def Reading.evaluate (context : Context) (env : Env) (reading : Reading) : Run Value :=
  match reading with
  | .ok expr => Walkthrough.evaluate context env expr
  | .error cause => Run.unreadable cause

/-- The values of several expressions, from left to right. -/
def evaluateList (context : Context) (env : Env) (exprs : List Expr) : Run (List Value) :=
  exprs.mapM (evaluate context env)

end Walkthrough
