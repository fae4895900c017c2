import Walkthrough.Method.Dict
import Walkthrough.Method.List
import Walkthrough.Method.Text

/-!
# Methods
-/

namespace Walkthrough

/-- Calls a method of a value.  `label` is what the value is called in the summary; without one it is
called by its type. -/
def callMethod (receiver : Value) (method : String) (arguments : List Value) (label : String) :
    Run Outcome := do
  let label ← if label.isEmpty then Run.ofExcept receiver.typeName else pure label
  let unknown : Run Outcome := do
    Run.fail (.noAttribute (← Run.ofExcept receiver.typeName) method)
  match receiver with
  | .list ref =>
    match ListMethod.ofName? method with
    | some method => method.call ref arguments label
    | none => unknown
  | .dict ref =>
    match DictMethod.ofName? method with
    | some method => method.call ref arguments label
    | none => unknown
  | .str text =>
    match TextMethod.ofName? method with
    | some method => method.call text arguments label
    | none => unknown
  | _ => unknown

end Walkthrough
