import Walkthrough.Trace.Basic
import Walkthrough.Value.Export

/-!
# Exported traces

A trace as a document.
-/

namespace Walkthrough

def Detail.toJson (s : Store) : Detail → Except Failure Json
  | .value held => held.toJson s
  | .values held => do return .list (← held.mapM fun value => Value.toJson s value)
  | .lines numbers => return .list (numbers.map .nat)
  | .names held => return .list (held.map .str)

/-- A step as data: where it is, what happened, the state it left, and the details of the action. -/
def Step.toJson (s : Store) (step : Step) : Except Failure Json := do
  let state : Table String Json :=
    ⟨[("index", .nat step.index), ("line", .nat step.line), ("action", .str step.action.name),
      ("variables", ← jsonOfEnv s step.bindings),
      ("output", .list (step.output.lines.map .str))]⟩
  let details ← step.action.details.entries.mapM fun (name, detail) => do
    return (name, ← detail.toJson s)
  return .ofTable (state.insertMany details)

def Trace.toJson (trace : Trace) : Except Failure Json := do
  let steps ← trace.steps.toList.mapM fun step => step.toJson trace.store
  let stats : Table String Json :=
    ⟨[("steps", .nat trace.steps.size), ("errors", .nat trace.errors),
      ("function_calls", .nat trace.tally.calls),
      ("loop_iterations", .nat trace.tally.iterations),
      ("statements", .nat trace.tally.statements)]⟩
  return .ofTable ⟨[("lines", .list (trace.lines.map fun line => .str line.text)),
    ("steps", .list steps), ("stats", .ofTable stats), ("truncated", .bool trace.truncated)]⟩

/-- The text of a document that may not exist. -/
def documentText (width : Option Nat) (document : Except Failure Json) : Except Failure String := do
  ofFault ((← document).text width)

def Trace.jsonText (width : Option Nat) (trace : Trace) : Except Failure String :=
  documentText width trace.toJson

end Walkthrough
