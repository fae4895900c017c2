import Walkthrough.Statement.Execution

/-!
# Execution of blocks

The items of a block are executed one after another, and at the top level of a program each leaves
its steps in the trace.  The body of a function is executed in a scope of its own, leaves no steps,
and ends with its first error.

Two things bound every run: the iterations of a loop, and how many calls may be under way at once.
-/

namespace Walkthrough

open Source

/-- How a block ended: the bindings it left, and the value it returned if it did. -/
structure Progress where
  env : Env
  returned : Option Value

/-- A block went on to its end. -/
def Progress.goingOn (env : Env) : Progress := ⟨env, none⟩

/-- Where a block is executed. -/
structure Frame where
  config : Config
  inFunction : Bool
  call : Nat → List Value → Run Value

def Frame.context (frame : Frame) : Context where
  maxIterations := frame.config.maxIterations
  call := frame.call

/-! ## Counting and recording -/

def countStatement (config : Config) : Run Unit := do
  modify fun machine =>
    { machine with tally.statements := machine.tally.statements + 1 }
  Run.note config .passed
  if (← get).tally.statements > config.maxStatements then
    throw (.budget (.statement config.maxStatements))

def countIteration : Run Unit :=
  modify fun machine => { machine with tally.iterations := machine.tally.iterations + 1 }

def countCall : Run Unit :=
  modify fun machine => { machine with tally.calls := machine.tally.calls + 1 }

/-- Adds a step with copies of all its values. -/
def addStep (line : Nat) (action : Action) (env : Env) (output : Output) : Run Unit := do
  let bindings ← Run.snapshot fun copy => copyEnv copy env
  let action ← Run.snapshot fun copy => action.mapM copy
  modify fun machine =>
    let step := { index := machine.steps.size, line, action, bindings, output }
    { machine with
      steps := machine.steps.push step
      errors := if action.isError then machine.errors + 1 else machine.errors
      history := .recorded step :: machine.history }

/-- Records an action, unless it happened in a function. -/
def Frame.record (frame : Frame) (line : Line) (action : Action) (env : Env) : Run Unit := do
  if frame.inFunction then return
  Run.note frame.config .passed
  if (← get).steps.size ≥ frame.config.maxSteps then
    throw (.budget (.step frame.config.maxSteps))
  addStep line.index action env (← get).output

/-- Records what a statement did.  In a function its error ends the call. -/
def Frame.commit {α : Type} (frame : Frame) (line : Line) (effect : Effect α) : Run Unit := do
  match effect.action with
  | some action => frame.record line action effect.env
  | none => pure ()
  match effect.result with
  | .ok _ => return
  | .error cause => if frame.inFunction then Run.fail cause

/-- An error that no statement made. -/
def Frame.refuse (frame : Frame) (line : Line) (cause : EvalError) (env : Env) : Run Unit :=
  frame.commit line (Effect.failed env cause : Effect Unit)

/-! ## Loops -/

/-- Goes through the elements of a loop until the block returns. -/
def forEach (visit : Nat → Value → Env → Run Progress) : Nat → List Value → Env → Run Progress
  | _, [], env => return .goingOn env
  | index, element :: rest, env => do
    let progress ← visit index element env
    match progress.returned with
    | some _ => return progress
    | none => forEach visit (index + 1) rest progress.env

/-- Executes a block for every element in turn. -/
def Frame.loop (frame : Frame) (line : Line) (target : String) (elements : List Value)
    (block : Env → Run Progress) (env : Env) : Run Progress := do
  let visit (index : Nat) (element : Value) (env : Env) : Run Progress := do
    countIteration
    let env := env.insert target element
    frame.record line (.loopIteration target element index elements.length) env
    block env
  let progress ← forEach visit 0 elements env
  match progress.returned with
  | some _ => return progress
  | none =>
    frame.record line (.loopEnd target) progress.env
    return progress

/-- Executes a block as long as a condition holds, for the given number of iterations at most. -/
def Frame.repeatWhile (frame : Frame) (line : Line) (condition : Condition)
    (block : Env → Run Progress) : Nat → Nat → Env → Run Progress
  | room, iteration, env => do
    let effect ← condition.test frame.context [("iteration", .int iteration)] env
    frame.commit line effect
    match effect.result with
    | .ok true =>
      match room with
      | 0 =>
        frame.refuse line (.loopLimit frame.config.maxIterations) effect.env
        return .goingOn effect.env
      | room + 1 =>
        countIteration
        let progress ← block effect.env
        match progress.returned with
        | some _ => return progress
        | none =>
          countStatement frame.config
          frame.repeatWhile line condition block room (iteration + 1) progress.env
    | _ => return .goingOn effect.env

/-! ## Blocks -/

mutual

def runBlock (frame : Frame) : List Item → Env → Run Progress
  | [], env => return .goingOn env
  | item :: rest, env => do
    countStatement frame.config
    let progress ← runItem frame item env
    match progress.returned with
    | some _ => return progress
    | none => runBlock frame rest progress.env

def runItem (frame : Frame) : Item → Env → Run Progress
  | .simple line statement, env => do
    let effect ← statement.execute frame.context frame.inFunction env
    frame.commit line effect
    match effect.result with
    | .ok returned => return ⟨effect.env, returned⟩
    | .error _ => return .goingOn effect.env
  | .loop line header body block, env => do
    let effect ← startLoop frame.context line.code (some header) body env
    frame.commit line effect
    match effect.result with
    | .ok elements =>
      frame.loop line header.target elements (fun env => runBlock frame block env) effect.env
    | .error _ => return .goingOn effect.env
  | .define line definition body block, env => do
    let effect ← executeDefinition line.code (some definition) body block env
    frame.commit line effect
    return .goingOn effect.env
  | .choose first rest, env => do
    let (pending, progress) ← runBranch frame first env
    match progress.returned with
    | some _ => return progress
    | none => runBranches frame rest pending progress.env
  | .repeat line condition block, env =>
    frame.repeatWhile line condition (fun env => runBlock frame block env)
      frame.config.maxIterations.toNat 0 env
  | .skip _, env => return .goingOn env

/-- Tries an alternative of a chain that is still open, and says whether it stays open. -/
def runBranch (frame : Frame) : Branch → Env → Run (Bool × Progress)
  | .mk line condition block, env => do
    match condition with
    | none => return (false, ← runBlock frame block env)
    | some condition =>
      let effect ← condition.test frame.context [] env
      frame.commit line effect
      match effect.result with
      | .ok true => return (false, ← runBlock frame block effect.env)
      | .ok false => return (true, .goingOn effect.env)
      | .error _ => return (false, .goingOn effect.env)

/-- Goes through the later alternatives of a chain.  Each is counted, and none is tried after one
that was taken or failed. -/
def runBranches (frame : Frame) : List Branch → Bool → Env → Run Progress
  | [], _, env => return .goingOn env
  | branch :: rest, pending, env => do
    countStatement frame.config
    let (pending, progress) ←
      if pending then runBranch frame branch env else pure (false, .goingOn env)
    match progress.returned with
    | some _ => return progress
    | none => runBranches frame rest pending progress.env

end

/-! ## Calls -/

/-- A failure inside a function, as its caller sees it.  Too many nested calls are reported as they
are. -/
def failureInside (name : String) : Failure → Failure
  | .error (.callDepth limit callee) => .error (.callDepth limit callee)
  | .error cause => .error (.inFunction name cause)
  | failure => failure

/-- The scope in which a body starts: a copy of the bindings at the definition, the function itself
unless its name is bound there, and the arguments. -/
def startingScope (ref : Nat) (function : Function) (arguments : List Value) : Run Env := do
  let closure ← Run.snapshot fun copy => copyEnv copy function.closure
  let scope :=
    if closure.contains function.name then closure
    else closure.insert function.name (.function ref)
  return scope.insertMany (function.parameters.zip arguments)

/-- Calls a function while `depth` other calls are under way; there may be `room` more. -/
def callFunction (config : Config) : Nat → Nat → Nat → List Value → Run Value
  | room, depth, ref, arguments => do
    let function := (← Run.store).function ref
    Run.note config (.called depth ref arguments)
    if depth ≥ config.maxCallDepth then
      Run.fail (.callDepth config.maxCallDepth function.name)
    match room with
    | 0 => throw .tooDeep
    | room + 1 =>
      let scope ← startingScope ref function arguments
      countCall
      let frame : Frame :=
        { config, inFunction := true, call := callFunction config room (depth + 1) }
      let progress ← tryCatch (runBlock frame function.block scope) fun failure =>
        throw (failureInside function.name failure)
      Run.note config .passed
      return progress.returned.getD .none

def Frame.top (config : Config) : Frame where
  config
  inFunction := false
  call := callFunction config callLimit 0

/-- Calls any value.  Without a frame no function can be run. -/
def callValue (frame? : Option Frame) (value : Value) (arguments : List Value) : Run Value := do
  match value, frame? with
  | .function ref, some frame => frame.call ref arguments
  | .function ref, none => Run.fail (.noRunner ((← Run.store).function ref).name)
  | other, _ => Run.fail (.notFunction (← Run.ofExcept other.typeName))

/-- The value of a text that holds an expression, in a copy of a scope. -/
def evaluateText (config : Config) (env : Env) (text : String) : Run Value := do
  let scope ← Run.snapshot fun copy => copyEnv copy env
  (Reading.ofText text).evaluate (Frame.top config).context scope

end Walkthrough
