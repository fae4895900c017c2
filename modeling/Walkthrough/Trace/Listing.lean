import Walkthrough.Trace.Basic

/-!
# Listings

A trace as a table for people: one row for every step, with what happened in a few words.
-/

namespace Walkthrough

def padLeft (width : Nat) (text : String) : String :=
  "".pushn ' ' (width - text.length) ++ text

def padRight (width : Nat) (text : String) : String :=
  text.pushn ' ' (width - text.length)

/-- What happened, in a few words. -/
def Action.describe (s : Store) : Action → Except Failure String
  | .assign name value _ => do return s!"{name} = " ++ (← value.repr s)
  | .reassign name value _ old => do
    return s!"{name} = " ++ (← value.repr s) ++ " (was " ++ (← old.repr s) ++ ")"
  | .augment name op value _ right => do
    return s!"{name} {op.symbol}= " ++ (← right.repr s) ++ " → " ++ (← value.repr s)
  | .setItem _ _ _ _ _ summary | .operate _ _ _ _ _ _ summary _ => return summary
  | .print _ text => return text
  | .define name parameters _ =>
    let parameters := ", ".intercalate parameters
    return s!"def {name}({parameters})"
  | .call name arguments result => do
    let arguments := ", ".intercalate (← arguments.mapM fun value => value.repr s)
    return s!"{name}({arguments}) → " ++ (← result.repr s)
  | .loopStart target iterable _ => return s!"for {target} in {iterable}"
  | .loopIteration target value index total => do
    return s!"{target} = " ++ (← value.repr s) ++ s!" ({index + 1}/{total})"
  | .loopEnd target => return s!"end for {target}"
  | .condition _ text result _ =>
    let result := if result then "True" else "False"
    return s!"{text} → {result}"
  | .execute code => return code
  | .error message => return message

/-- The bindings of a scope, each joined with its value by a sign. -/
def bindingTexts (s : Store) (sign : String) (env : Env) : Except Failure (List String) :=
  env.entries.mapM fun (name, value) => do return name ++ sign ++ (← value.repr s)

def Step.row (s : Store) (step : Step) : Except Failure String := do
  let index := padLeft 4 (toString step.index)
  let line := padRight 4 (toString (step.line + 1))
  let action := padRight 19 step.action.name
  return s!"[{index}] line {line} {action} " ++ (← step.action.describe s)

def Step.variableRow (s : Store) (step : Step) : Except Failure String := do
  let bindings := ", ".intercalate (← bindingTexts s "=" step.bindings)
  return "       vars: \x7b" ++ bindings ++ "\x7d"

/-- The rows of a trace, and a last one with what was counted. -/
def Trace.listing (showVariables : Bool) (trace : Trace) : Except Failure String := do
  let rows ← trace.steps.toList.mapM fun step => do
    let row ← step.row trace.store
    if showVariables then return [row, ← step.variableRow trace.store] else return [row]
  let mark := if trace.truncated then " (truncated)" else ""
  return "\n".intercalate (rows.flatten ++ ["── " ++ trace.report ++ mark])

/-- A single step with all its variables and its output. -/
def Step.detailed (s : Store) (step : Step) : Except Failure String := do
  let title := s!"step {step.index} (line {step.line + 1}): {step.action.name}"
  let description ← step.action.describe s
  let bindings ← bindingTexts s " = " step.bindings
  return "\n".intercalate (
    [title, "  " ++ description, "  variables:"] ++ bindings.map ("    " ++ ·) ++
      ["  output:"] ++ step.output.lines.map ("    " ++ ·))

end Walkthrough
