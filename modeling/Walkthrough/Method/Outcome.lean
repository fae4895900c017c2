import Walkthrough.Value.Access

/-!
# Outcomes of methods

A method gives a value, and a line that says what it did.
-/

namespace Walkthrough

structure Outcome where
  result : Value
  summary : String

/-- Refuses too few or too many arguments. -/
def checkArguments (method : String) (arguments : List Value) (low high : Nat) : Run Unit := do
  let given := arguments.length
  if low ≤ given && given ≤ high then return
  let arity : Arity :=
    if low == high then .exactly low
    else if given < low then .atLeast low
    else .atMost high (if high == 1 then "argument" else "arguments")
  Run.fail (.arguments method arity given)

/-- A value as it is shown in a summary. -/
def Run.shown (value : Value) : Run String :=
  Run.look fun s => value.repr s

def Run.key (value : Value) : Run Key :=
  Run.ofExcept value.toKey

end Walkthrough
