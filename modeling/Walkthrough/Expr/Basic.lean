import Walkthrough.Expr.Operator
import Walkthrough.Scalar

/-!
# Expressions

The tree of an expression, free of everything that only the text needs: parentheses are gone,
literals are values, and omitted parts of a slice are absent.  Every node keeps the columns of the
text that it came from.
-/

namespace Walkthrough

/-- The columns that a node takes within its line; zero to zero stands for no place. -/
structure Span where
  first : Nat
  last : Nat
deriving DecidableEq, Repr, Inhabited

/-- The span of a node that stands at no place of the text. -/
def Span.unknown : Span := ⟨0, 0⟩

def Span.show (span : Span) : String :=
  if span == Span.unknown then "<unknown>" else s!"{span.first}-{span.last}"

/-- A value that can be written down as it is. -/
inductive Constant where
  | none
  | bool (value : Bool)
  | int (value : Int)
  | float (value : Float)
  | str (value : String)
deriving DecidableEq, Inhabited

def Constant.scalar : Constant → Scalar
  | .none => .none
  | .bool value => .bool value
  | .int value => .int value
  | .float value => .float value
  | .str value => .str value

mutual

inductive Expr where
  | const (value : Constant) (span : Span)
  | name (id : String) (span : Span)
  | binary (op : BinaryOp) (left right : Expr) (span : Span)
  | logic (op : LogicOp) (left right : Expr) (span : Span)
  | not (operand : Expr) (span : Span)
  | unary (op : UnaryOp) (operand : Expr) (span : Span)
  | compare (first : Expr) (rest : List Comparand) (span : Span)
  | conditional (condition yes no : Expr) (span : Span)
  | call (function : String) (arguments : List Expr) (span : Span)
  | method (receiver : Expr) (name : String) (arguments : List Expr) (span : Span)
  | subscript (object index : Expr) (span : Span)
  /-- A subscript with colons; `bounds` is the span between the brackets. -/
  | slice (object : Expr) (start stop step : Option Expr) (bounds : Span) (span : Span)
  | list (elements : List Expr) (span : Span)
  | dict (entries : List Entry) (span : Span)
  | comprehension (body : Expr) (clauses : List Clause) (span : Span)
  | formatted (pieces : List Piece) (span : Span)

/-- A later operand of a comparison with the operator before it. -/
inductive Comparand where
  | mk (op : CompareOp) (operand : Expr)

inductive Entry where
  | mk (key value : Expr)

/-- A loop or a filter of a comprehension. -/
inductive Clause where
  | forIn (target : String) (source : Expr) (span : Span)
  | filter (condition : Expr) (span : Span)

/-- A piece of a formatted string: text, or a value with its conversion letter and format
specification. -/
inductive Piece where
  | text (value : String) (span : Span)
  | field (value : Expr) (conversion spec : String) (span : Span)

end

instance : Inhabited Expr := ⟨.const .none .unknown⟩

/-- The expressions directly inside an expression, from left to right; a condition comes before its
branches. -/
def Expr.children : Expr → List Expr
  | .const .. | .name .. => []
  | .binary _ left right _ | .logic _ left right _ => [left, right]
  | .not operand _ | .unary _ operand _ => [operand]
  | .compare first rest _ => first :: rest.map fun | .mk _ operand => operand
  | .conditional condition yes no _ => [condition, yes, no]
  | .call _ arguments _ => arguments
  | .method receiver _ arguments _ => receiver :: arguments
  | .subscript object index _ => [object, index]
  | .slice object start stop step _ _ =>
    object :: start.toList ++ stop.toList ++ step.toList
  | .list elements _ => elements
  | .dict entries _ => entries.flatMap fun | .mk key value => [key, value]
  | .comprehension body clauses _ =>
    body :: clauses.map fun
      | .forIn _ source _ => source
      | .filter condition _ => condition
  | .formatted pieces _ => pieces.flatMap fun
    | .text .. => []
    | .field value _ _ _ => [value]

end Walkthrough
