/-!
# Operators

The operators of expressions, each with its written symbol.
-/

namespace Walkthrough

/-- An operator between two operands. -/
inductive BinaryOp where
  | add | sub | mul | div | floorDiv | mod | pow
  | bitAnd | bitOr | bitXor | shiftLeft | shiftRight | matMul
deriving DecidableEq, Repr

def BinaryOp.symbol : BinaryOp → String
  | .add => "+"
  | .sub => "-"
  | .mul => "*"
  | .div => "/"
  | .floorDiv => "//"
  | .mod => "%"
  | .pow => "**"
  | .bitAnd => "&"
  | .bitOr => "|"
  | .bitXor => "^"
  | .shiftLeft => "<<"
  | .shiftRight => ">>"
  | .matMul => "@"

def BinaryOp.all : List BinaryOp :=
  [.add, .sub, .mul, .div, .floorDiv, .mod, .pow, .bitAnd, .bitOr, .bitXor, .shiftLeft,
    .shiftRight, .matMul]

def BinaryOp.ofSymbol? (symbol : String) : Option BinaryOp :=
  BinaryOp.all.find? (·.symbol == symbol)

/-- An operator before its operand. -/
inductive UnaryOp where
  | neg | pos | invert
deriving DecidableEq, Repr

def UnaryOp.symbol : UnaryOp → String
  | .neg => "-"
  | .pos => "+"
  | .invert => "~"

def UnaryOp.ofSymbol? (symbol : String) : Option UnaryOp :=
  [UnaryOp.neg, .pos, .invert].find? (·.symbol == symbol)

/-- An operator of a comparison chain. -/
inductive CompareOp where
  | eq | ne | lt | gt | le | ge | isIn | notIn | same | notSame
  /-- An operator that is read but stands for no comparison. -/
  | other (symbol : String)
deriving DecidableEq, Repr

def CompareOp.symbol : CompareOp → String
  | .eq => "=="
  | .ne => "!="
  | .lt => "<"
  | .gt => ">"
  | .le => "<="
  | .ge => ">="
  | .isIn => "in"
  | .notIn => "not in"
  | .same => "is"
  | .notSame => "is not"
  | .other symbol => symbol

/-- The operators that stand for a comparison. -/
def CompareOp.all : List CompareOp :=
  [.eq, .ne, .lt, .gt, .le, .ge, .isIn, .notIn, .same, .notSame]

def CompareOp.ofSymbol (symbol : String) : CompareOp :=
  (CompareOp.all.find? (·.symbol == symbol)).getD (.other symbol)

/-- An operator that evaluates its right operand only if the left one does not decide. -/
inductive LogicOp where
  | and | or
deriving DecidableEq, Repr

def LogicOp.symbol : LogicOp → String
  | .and => "and"
  | .or => "or"

end Walkthrough
