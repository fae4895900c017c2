import Walkthrough.Value.Equality

/-!
# Order

Numbers and texts have an order, and lists have that of their first different elements.
-/

namespace Walkthrough

open Number

/-- Why two values have no order. -/
inductive OrderTrouble where
  /-- Values of these types were compared with the symbol. -/
  | unordered (symbol left right : String)
  | failure (failure : Failure)

/-- How two numbers compare; nothing is less or greater than what is not a number. -/
def compareNumbers (a b : Scalar) : Option Ordering :=
  match a.normal, b.normal with
  | .int a, .int b => some (compare a b)
  | .float a, .int b => compareInt a b
  | .int a, .float b => (compareInt b a).map Ordering.swap
  | .float a, .float b => some (if a < b then .lt else if a == b then .eq else .gt)
  | _, _ => none

/-- The relations that order gives. -/
inductive OrderOp where
  | less | lessEqual | greater | greaterEqual
deriving DecidableEq, Repr

def OrderOp.symbol : OrderOp → String
  | .less => "<"
  | .lessEqual => "<="
  | .greater => ">"
  | .greaterEqual => ">="

/-- Whether a relation holds between things that compare so. -/
def OrderOp.holds : OrderOp → Ordering → Bool
  | .less, o => o == .lt
  | .lessEqual, o => o != .gt
  | .greater, o => o == .gt
  | .greaterEqual, o => o != .lt

/-- How two texts compare, character by character. -/
def compareTexts (a b : String) : Ordering :=
  if a < b then .lt else if a == b then .eq else .gt

/-- The first different elements of two lists; `none` where a list ends before that. -/
def firstDifference (s : Store) :
    List Value → List Value → Except Failure (Option (Value × Value))
  | a :: as, b :: bs => do
    if ← sameValue s nestingLimit a b then firstDifference s as bs else return some (a, b)
  | _, _ => .ok none

/-- Whether one of the relations holds between two values. -/
def ordered (s : Store) (op : OrderOp) : Nat → Value → Value → Except OrderTrouble Bool
  | depth, a, b =>
    let trouble := .unordered op.symbol a.kind b.kind
    match a, b with
    | .str a, .str b => .ok (op.holds (compareTexts a b))
    | .scalar x, .scalar y =>
      if a.isNumber && b.isNumber then
        .ok (((compareNumbers x y).map op.holds).getD false)
      else .error trouble
    | .list a, .list b =>
      match depth with
      | 0 => .error (.failure .tooDeep)
      | depth + 1 =>
        let (xs, ys) := (s.list a, s.list b)
        match firstDifference s xs.toList ys.toList with
        | .error failure => .error (.failure failure)
        | .ok none => .ok (op.holds (compare xs.size ys.size))
        | .ok (some (x, y)) => ordered s op depth x y
    | _, _ => .error trouble

end Walkthrough
