/-!
# Sets of characters as code ranges

A property of characters is stored as the sorted, disjoint code ranges that have it.  Membership
is a binary search, so a test costs a handful of comparisons whatever the size of the table.
-/

namespace Walkthrough.Text

/-! ## Numbers as text -/

/-- The digit that a character stands for.  The digits begin with the dollar sign and leave out the
quote, the hyphen, the backslash, the backtick and the braces. -/
def digitOf (c : Char) : Nat :=
  c.toNat - 36 - [39, 45, 92, 96, 123, 125].countP (· < c.toNat)

/-- The digits of a text, which has blanks and line ends besides. -/
def digitsOf (text : String) : List Nat :=
  (text.toList.filter (' ' < ·)).map digitOf

/-- The numbers that some digits stand for.  The last digit of a number is below 65, and those before
it, which have made `begun`, are not. -/
def numbersOf (begun : Nat) : List Nat → List Nat
  | [] => []
  | digit :: rest =>
    if digit < 65 then (65 * begun + digit) :: numbersOf 0 rest
    else numbersOf (18 * begun + (digit - 65)) rest

/-! ## Ranges -/

/-- The ranges after the codes below `next`: the steps say in turn how many codes are left out and
how many belong to a range. -/
def CodeRange.ofStepsFrom (next : Nat) : List Nat → List (Nat × Nat)
  | out :: length :: rest =>
    (next + out, next + out + length - 1) :: CodeRange.ofStepsFrom (next + out + length) rest
  | _ => []

def CodeRange.ofSteps (steps : List Nat) : Array (Nat × Nat) :=
  (CodeRange.ofStepsFrom 0 steps).toArray

/-- The ranges whose steps are written as a text. -/
def CodeRange.ofText (steps : String) : Array (Nat × Nat) :=
  CodeRange.ofSteps (numbersOf 0 (digitsOf steps))

/-- The index of the first range in `[lo, hi)` that does not end before `code`. -/
def CodeRange.search (ranges : Array (Nat × Nat)) (code lo hi : Nat) : Nat :=
  if h : lo < hi then
    let mid := (lo + hi) / 2
    if (ranges.getD mid (0, 0)).2 < code then search ranges code (mid + 1) hi
    else search ranges code lo mid
  else lo
termination_by hi - lo

def CodeRange.contains (ranges : Array (Nat × Nat)) (c : Char) : Bool :=
  let code := c.toNat
  match ranges[CodeRange.search ranges code 0 ranges.size]? with
  | some (first, last) => first ≤ code && code ≤ last
  | none => false

end Walkthrough.Text
