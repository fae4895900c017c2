import Walkthrough.Format.Number
import Walkthrough.Run

/-!
# The text of a value

Values are shown as a program would write them.  A container inside itself is cut short.
-/

namespace Walkthrough

open Text Format

/-- How the values that a program cannot write are shown. -/
inductive RenderStyle where
  /-- Functions by their names; complex numbers are refused. -/
  | plain
  /-- Functions with everything they hold, and complex numbers. -/
  | full
deriving DecidableEq, Repr

/-- Texts in parentheses, the way a sequence of fixed length is written. -/
def tupleText : List String → String
  | [single] => "(" ++ single ++ ",)"
  | texts => "(" ++ ", ".intercalate texts ++ ")"

def lineText (line : Source.Line) : String :=
  s!"LogicalLine(original_index={line.index}, text={quoted line.text}, " ++
    s!"trimmed={quoted line.trimmed}, indent={line.indent})"

/-- A function with all its fields, the closure given as text. -/
def functionText (f : Function) (closure : String) : String :=
  s!"Function(name={quoted f.name}, params={tupleText (f.parameters.map quoted)}, " ++
    s!"body={tupleText (f.body.map lineText)}, closure=mappingproxy({closure}))"

/-- What a failure below becomes when nothing catches it. -/
def ofFault {α : Type} : Except Fault α → Except Failure α
  | .ok value => .ok value
  | .error fault => .error (.fault fault)

/-- The text of a value.  `outer` holds the containers that it is inside of, and `depth` bounds their
number. -/
def render (style : RenderStyle) (s : Store) : Nat → List Value → Value → Except Failure String
  | depth, outer, value =>
    let braces (entries : List String) := "\x7b" ++ ", ".intercalate entries ++ "\x7d"
    match value with
    | .scalar scalar => ofFault scalar.show
    | .complex re im =>
      match style with
      | .plain => .error (.error (.unsupportedValue "complex"))
      | .full => .ok (complexText re im)
    | .list ref =>
      if outer.contains value then .ok "[...]"
      else
        match depth with
        | 0 => .error .tooDeep
        | depth + 1 => do
          let texts ← (s.list ref).toList.mapM (render style s depth (value :: outer))
          return "[" ++ ", ".intercalate texts ++ "]"
    | .dict ref =>
      if outer.contains value then .ok (braces ["..."])
      else
        match depth with
        | 0 => .error .tooDeep
        | depth + 1 => do
          let texts ← (s.dict ref).entries.mapM fun (key, element) => do
            let key ← ofFault key.spelling.show
            return key ++ ": " ++ (← render style s depth (value :: outer) element)
          return braces texts
    | .function ref =>
      let f := s.function ref
      match style, depth with
      | .plain, _ => .ok ("<function " ++ f.name ++ ">")
      | .full, 0 => .error .tooDeep
      | .full, depth + 1 => do
        let texts ← f.closure.entries.mapM fun (name, element) => do
          return quoted name ++ ": " ++ (← render style s depth outer element)
        return functionText f (braces texts)

/-- The text of a value as a program would write it. -/
def Value.repr (s : Store) (value : Value) : Except Failure String :=
  render .plain s nestingLimit [] value

/-- The text of a value as it is joined with other texts: a text stands for itself. -/
def Value.text (s : Store) : Value → Except Failure String
  | .str value => .ok value
  | value => value.repr s

def Value.typeName : Value → Except Failure String
  | .complex .. => .error (.error (.unsupportedValue "complex"))
  | .function _ => .ok "function"
  | value => .ok value.kind

end Walkthrough
