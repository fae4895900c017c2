import Walkthrough.Scalar
import Walkthrough.Table

/-!
# JSON documents

Exported data as a tree, and its text: on one line, or with every element on a line of its own.
Characters beyond ASCII are written as they are, and floats that are no finite numbers by their
names.
-/

namespace Walkthrough

open Number Text

mutual

inductive Json where
  | scalar (value : Scalar)
  /-- Something of a type that has no text in a document. -/
  | foreign (type : String)
  | list (elements : List Json)
  | object (members : List Member)

/-- A named value of an object. -/
inductive Member where
  | mk (name : String) (value : Json)

end

instance : Inhabited Json := ⟨.scalar .none⟩

namespace Json

def str (text : String) : Json := .scalar (.str text)

def nat (number : Nat) : Json := .scalar (.int number)

def bool (value : Bool) : Json := .scalar (.bool value)

def ofTable (table : Table String Json) : Json :=
  .object (table.entries.map fun (name, value) => .mk name value)

/-! ## Text -/

/-- A character as it is written in a text. -/
def charText (c : Char) : List Char :=
  if c == '"' || c == '\\' then ['\\', c]
  else if c == '\n' then ['\\', 'n']
  else if c == '\r' then ['\\', 'r']
  else if c == '\t' then ['\\', 't']
  else if c == '\x0c' then ['\\', 'f']
  else if c == '\x08' then ['\\', 'b']
  else if c < ' ' then '\\' :: 'u' :: hexText 4 c.toNat
  else [c]

def strText (text : String) : String :=
  String.ofList ('"' :: text.toList.flatMap charText ++ ['"'])

/-- A float, or the name of one that is not finite. -/
def floatLeaf (x : Float) : String :=
  if x.isNaN then "NaN"
  else if x.isInf then (if x < 0 then "-Infinity" else "Infinity")
  else floatText x

def leafText : Scalar → Except Fault String
  | .none => .ok "null"
  | .bool value => .ok (if value then "true" else "false")
  | .int value => intText value
  | .float value => .ok (floatLeaf value)
  | .nan _ => .ok "NaN"
  | .str value => .ok (strText value)

/-- The parts of a list or object between its brackets.  On one line they are parted by a comma and
a blank; otherwise each has a line of its own, indented by `width` blanks for every level. -/
def bracketed (width : Option Nat) (level : Nat) (opening closing : String) (parts : List String) :
    String :=
  match parts, width with
  | [], _ => opening ++ closing
  | _, none => opening ++ ", ".intercalate parts ++ closing
  | _, some width =>
    let line (level : Nat) := "\n".pushn ' ' (width * level)
    opening ++ line (level + 1) ++ ("," ++ line (level + 1)).intercalate parts ++ line level ++
      closing

mutual

/-- The text of a document whose outermost bracket is at the given level. -/
def write (width : Option Nat) : Nat → Json → Except Fault String
  | _, .scalar value => leafText value
  | _, .foreign type => .error (.unserializable type)
  | level, .list elements => do
    return bracketed width level "[" "]" (← writeElements width (level + 1) elements)
  | level, .object members => do
    return bracketed width level "\x7b" "\x7d" (← writeMembers width (level + 1) members)

def writeElements (width : Option Nat) : Nat → List Json → Except Fault (List String)
  | _, [] => return []
  | level, element :: rest => do
    let text ← write width level element
    return text :: (← writeElements width level rest)

def writeMembers (width : Option Nat) : Nat → List Member → Except Fault (List String)
  | _, [] => return []
  | level, .mk name value :: rest => do
    let text ← write width level value
    return (strText name ++ ": " ++ text) :: (← writeMembers width level rest)

end

/-- The text of a document; with a width it is laid out over several lines. -/
def text (width : Option Nat) (document : Json) : Except Fault String :=
  document.write width 0

end Json

end Walkthrough
