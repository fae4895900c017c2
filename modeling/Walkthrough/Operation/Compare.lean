import Walkthrough.Value.Order
import Walkthrough.Value.Render

/-!
# Comparisons
-/

namespace Walkthrough

def containsText (text part : List Char) : Bool :=
  match text with
  | [] => part.isEmpty
  | c :: rest => part.isPrefixOf (c :: rest) || containsText rest part

/-- A comparison that its operands do not have. -/
def unorderedError (symbol : String) (a b : Value) : Run Bool := do
  let left ← Run.ofExcept a.typeName
  Run.fail (.unordered symbol left (← Run.ofExcept b.typeName))

/-- Whether a value is an element of a list, a key of a dictionary or a part of a text. -/
def isMember (symbol : String) (a b : Value) : Run Bool := do
  let s ← Run.store
  match b with
  | .str text =>
    match a with
    | .str part => return containsText text.toList part.toList
    | _ => unorderedError symbol a b
  | .list ref => Run.look fun s => isAmong s a (s.list ref).toList
  | .dict ref =>
    match a with
    | .scalar key => return (s.dict ref).contains ⟨key⟩
    | .complex re im =>
      return (s.dict ref).keys.any fun key => complexEqualsScalar re im key.spelling
    | .function _ => return false
    | _ => unorderedError symbol a b
  | _ => Run.fail (.noMembers (← Run.ofExcept b.typeName))

/-- Whether two values are one: containers and functions by identity, others if their types are the
same and they compare equal. -/
def isIdentical (a b : Value) : Bool :=
  match a, b with
  | .scalar a, .scalar b => a.typeName == b.typeName && a.equal b
  | .complex re im, .complex re' im' => re == re' && im == im'
  | a, b => a == b

def OrderOp.apply (op : OrderOp) (a b : Value) : Run Bool := do
  match ordered (← Run.store) op nestingLimit a b with
  | .ok holds => return holds
  | .error (.unordered ..) => unorderedError op.symbol a b
  | .error (.failure failure) => throw failure

def CompareOp.apply (op : CompareOp) (a b : Value) : Run Bool := do
  match op with
  | .eq => Run.look fun s => equalValues s a b
  | .ne => return !(← Run.look fun s => equalValues s a b)
  | .lt => OrderOp.less.apply a b
  | .gt => OrderOp.greater.apply a b
  | .le => OrderOp.lessEqual.apply a b
  | .ge => OrderOp.greaterEqual.apply a b
  | .isIn => isMember op.symbol a b
  | .notIn => return !(← isMember op.symbol a b)
  | .same => return isIdentical a b
  | .notSame => return !isIdentical a b
  | .other symbol => Run.fail (.comparison symbol)

def applyCompare (symbol : String) (a b : Value) : Run Bool :=
  (CompareOp.ofSymbol symbol).apply a b

end Walkthrough
