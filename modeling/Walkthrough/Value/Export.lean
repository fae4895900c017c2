import Walkthrough.Json
import Walkthrough.Value.Render

/-!
# Exported values

Values as data that other programs can read.  A container inside itself is cut short, and the keys
of a dictionary become texts.
-/

namespace Walkthrough

def Function.toJson (f : Function) : Json :=
  .ofTable ⟨[("__function__", .bool true), ("name", .str f.name),
    ("params", .list (f.parameters.map .str)), ("body_lines", .list (f.bodyLines.map .nat))]⟩

/-- A value as data.  `outer` holds the containers that it is inside of, and `depth` bounds their
number. -/
def jsonOfValue (s : Store) : Nat → List Value → Value → Except Failure Json
  | depth, outer, value =>
    match value with
    | .scalar scalar => .ok (.scalar scalar)
    | .complex .. => .ok (.foreign "complex")
    | .function ref => .ok (s.function ref).toJson
    | .list ref =>
      if outer.contains value then .ok (.str "[...]")
      else
        match depth with
        | 0 => .error .tooDeep
        | depth + 1 => do
          return .list (← (s.list ref).toList.mapM (jsonOfValue s depth (value :: outer)))
    | .dict ref =>
      if outer.contains value then .ok (.str "\x7b...\x7d")
      else
        match depth with
        | 0 => .error .tooDeep
        | depth + 1 => do
          let entries ← (s.dict ref).entries.mapM fun (key, element) => do
            let name ← Value.text s (.scalar key.spelling)
            return (name, ← jsonOfValue s depth (value :: outer) element)
          return .ofTable (Table.ofList entries)

def Value.toJson (s : Store) (value : Value) : Except Failure Json :=
  jsonOfValue s nestingLimit [] value

def jsonOfEnv (s : Store) (env : Env) : Except Failure Json := do
  let entries ← env.entries.mapM fun (name, value) => do return (name, ← value.toJson s)
  return .ofTable ⟨entries⟩

end Walkthrough
