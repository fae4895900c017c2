import Walkthrough.Block.Execution

/-!
# Traces

The trace of a program: one step for every recorded action, in the order of execution.  A run that
uses up one of its budgets leaves a shorter trace that ends with an error.
-/

namespace Walkthrough

open Source

/-- The steps of a program with the store that their values refer to. -/
structure Trace where
  lines : List Line
  steps : Array Step
  /-- How many of the steps are errors. -/
  errors : Nat
  tally : Tally
  truncated : Bool
  store : Store

/-- Why there is no trace. -/
inductive TraceError where
  /-- What was given is not a text but has this type. -/
  | notText (type : String)
  /-- Values or calls nest too deeply. -/
  | tooDeep
  /-- Something happened that no step can report. -/
  | stopped (failure : Failure)
deriving DecidableEq, Repr

def TraceError.message : TraceError → String
  | .notText type => s!"source must be a string, not {type}"
  | .tooDeep => "program nests too deeply to trace"
  | .stopped failure => failure.message

/-- Adds the step that closes a truncated trace: it repeats the state of the step before it. -/
def closeTrace (cause : Budget) : Run Unit := do
  match (← get).steps.back? with
  | some last => addStep last.line (.error cause.message) last.bindings last.output
  | none => addStep 0 (.error cause.message) .empty .empty

/-- Runs a program; the result says whether a budget was used up. -/
def runProgram (config : Config) (program : List Item) : Run Bool :=
  tryCatch (do let _ ← runBlock (Frame.top config) program .empty; return false) fun
    | .budget cause => do closeTrace cause; return true
    | failure => throw failure

/-- The trace of a program. -/
def Trace.ofSource (config : Config) (source : String) : Except TraceError Trace :=
  let lines := Line.all source
  let program := Item.ofLines config.structured (expandInline lines)
  match (runProgram config program).run.run .start with
  | (.ok truncated, machine) =>
    .ok {
      lines, truncated
      steps := machine.steps
      errors := machine.errors
      tally := machine.tally
      store := machine.store }
  | (.error .tooDeep, _) => .error .tooDeep
  | (.error failure, _) => .error (.stopped failure)

namespace Trace

def finalVariables (trace : Trace) : Env :=
  (trace.steps.back?.map (·.bindings)).getD .empty

def finalOutput (trace : Trace) : Output :=
  (trace.steps.back?.map (·.output)).getD .empty

/-- The step at a position, or a message that says which positions there are. -/
def stepAt (trace : Trace) (position : Int) : Except String Step :=
  let found := if position < 0 then none else trace.steps[position.toNat]?
  match found with
  | some step => .ok step
  | none =>
    let last : Int := trace.steps.size - 1
    .error s!"step index {position} out of range (0..{last})"

def report (trace : Trace) : String :=
  s!"{trace.steps.size} steps, {trace.errors} errors, {trace.tally.calls} function calls, " ++
    s!"{trace.tally.iterations} loop iterations, {trace.tally.statements} statements"

end Trace

end Walkthrough
