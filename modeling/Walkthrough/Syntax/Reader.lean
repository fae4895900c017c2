import Walkthrough.Syntax.Node
import Walkthrough.Syntax.Quotation

/-!
# Readers

What the parts of the grammar share.  Expressions are read by precedence, and every part of the
grammar takes the reader `again` for the expressions inside it.  Two rules give the grammar its
shape:

* a word is a keyword only where that keyword may stand, and a name everywhere else;
* the end of a line ends an expression only where the expression could end, and is a blank
  everywhere else.
-/

namespace Walkthrough.Syntax

/-- What is to be read. -/
inductive Goal where
  /-- An expression.  Operators that bind no tighter than `above` are left for the caller. -/
  | expression (above : Int)
  /-- An operand of a comparison or of a binary operator, again up to `above`. -/
  | operand (above : Nat)
  /-- What a loop of a comprehension runs over.  The word `if` does not belong to it. -/
  | source

/-- Where an expression stands. -/
structure Place where
  /-- Line ends are blanks there. -/
  multiline : Bool
  /-- The words that may stand behind the expression, beside those that join expressions. -/
  followers : List String

/-- At the beginning of a line. -/
def Place.start : Place := ⟨false, []⟩

/-- Elsewhere on a line. -/
def Place.line : Place := ⟨false, ["from"]⟩

/-- Where more of the construct must follow. -/
def Place.inside : Place := ⟨true, []⟩

/-- Where a comprehension may follow. -/
def Place.body : Place := ⟨true, ["for"]⟩

/-- Between the words `if` and `else`. -/
def Place.condition : Place := ⟨true, ["else"]⟩

/-- The place of the parts behind the first token of an expression. -/
def Place.onward (place : Place) : Place :=
  if place.multiline then place else .line

/-- Reads a goal at a place. -/
abbrev Reader := Goal → Place → Parser Node

/-- A bound below every operator. -/
def anyStrength : Int := -3

/-- The more strength, the tighter the operator binds. -/
def strength : BinaryOp → Nat
  | .bitOr => 14
  | .bitAnd => 15
  | .bitXor => 16
  | .shiftLeft | .shiftRight => 17
  | .add | .sub => 18
  | .mul | .div | .floorDiv | .mod | .matMul => 19
  | .pow => 21

/-- The strength of the signs and of `~`. -/
def signStrength : Nat := 20

/-- Above every binary operator. -/
def topStrength : Nat := 22

/-- Strength of comparisons, `not`, `and`, `or`, `as`, the conditional and the lambda. -/
def compareStrength : Nat := 13
def notStrength : Int := 12
def andStrength : Int := 11
def orStrength : Int := 10
def asStrength : Int := 0
def conditionalStrength : Int := -1
def lambdaStrength : Int := -2

/-- The words that join expressions. -/
def joiningWords : List String :=
  ["and", "or", "if", "in", "not", "is", "as"]

def Reader.whole (again : Reader) (place : Place) : Parser Node :=
  again (.expression anyStrength) place

/-- Enough fuel for a loop that takes at least one character a turn. -/
def loopFuel : Parser Nat :=
  return (← get).rest.length + 1

/-- The items after the first one of a comma-separated list that ends at the closing bracket.  A
comma may stand before the end. -/
def itemsAfter {α : Type} (item : Parser α) (closer : Char) : Nat → List α → Parser (List α)
  | 0, _ => unexpected
  | fuel + 1, items => do
    match ← look true with
    | ',' :: _ =>
      let _ ← symbol ","
      match ← look true with
      | c :: _ =>
        if c == closer then return items.reverse
        else itemsAfter item closer fuel ((← item) :: items)
      | [] => unexpected
    | _ => return items.reverse

/-- Expressions after the first one of a list without brackets, and whether a comma ends it.  Words
in `closing` are not read as names behind a comma. -/
def expressionsAfter (again : Reader) (place : Place) (closing : List String) :
    Nat → List Node → Parser (List Node × Bool)
  | 0, _ => unexpected
  | fuel + 1, nodes => do
    match ← look place.multiline with
    | ',' :: _ =>
      let _ ← symbol ","
      let text ← look place.multiline
      if text.isEmpty || closing.any (beginsWord · text) then return (nodes.reverse, true)
      match ← attempt (again.whole place) with
      | some node => expressionsAfter again place closing fuel (node :: nodes)
      | none => return (nodes.reverse, true)
    | _ => return (nodes.reverse, false)

/-- One or more expressions separated by commas, and whether they make a list: there is a comma. -/
def expressions (again : Reader) (place : Place) : Parser (List Node × Bool) := do
  let first ← again.whole place
  let (nodes, trailing) ← expressionsAfter again place place.followers (← loopFuel) [first]
  return (nodes, trailing || nodes.length > 1)

def yieldExpression (again : Reader) (place : Place) : Parser Node := do
  let start ← here
  let _ ← keyword "yield"
  if beginsWord "from" (← look place.multiline) then
    let _ ← keyword "from"
    let _ ← again.whole place
  else
    unless (← look place.multiline).isEmpty do
      let _ ← attempt (expressions again place)
  return .other .yield [] ⟨start, ← position⟩

end Walkthrough.Syntax
