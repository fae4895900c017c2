/-!
# Searching a sorted run

The place of a key in a run is found by looking at distances that double, starting at a hint, and
then by halving the interval that is left.  A comparison may fail; the search then fails with it.
-/

namespace Walkthrough.Sorting

variable {α ε : Type}

/-- A comparison: whether the first is less than the second. -/
abbrev Less (α ε : Type) := α → α → Except ε Bool

/-- The least place in `[low, high)` from where on `beyond` holds, or `high`.  `fuel` bounds the
halvings. -/
def bisect (beyond : Nat → Except ε Bool) : Nat → Nat → Nat → Except ε Nat
  | 0, _, high => .ok high
  | fuel + 1, low, high => do
    if low < high then
      let middle := low + (high - low) / 2
      if ← beyond middle then bisect beyond fuel low middle
      else bisect beyond fuel (middle + 1) high
    else return high

/-- Doubles a distance as long as it is below `limit` and `goesOn` holds there.  Gives the last
distance at which it held, and the first at which it did not, at most `limit`. -/
def stride (goesOn : Nat → Except ε Bool) (limit : Nat) : Nat → Nat → Nat → Except ε (Nat × Nat)
  | 0, last, next => .ok (last, min next limit)
  | fuel + 1, last, next => do
    if next < limit then
      if ← goesOn next then stride goesOn limit fuel next (2 * next + 1)
      else return (last, next)
    else return (last, limit)

/-- The least place among the first `count` from where on `beyond` holds, sought from a hint. -/
def seek (beyond : Nat → Except ε Bool) (count hint : Nat) : Except ε Nat := do
  if ← beyond hint then
    let (last, next) ← stride (fun distance => beyond (hint - distance)) (hint + 1) (hint + 1) 0 1
    bisect beyond count (hint + 1 - next) (hint - last)
  else
    let goesOn distance := do return !(← beyond (hint + distance))
    let (last, next) ← stride goesOn (count - hint) count 0 1
    bisect beyond count (hint + last + 1) (hint + next)

/-- The place in the first `count` elements before which a key belongs, after those equal to it. -/
def seekAfter (less : Less α ε) (key : α) (at' : Nat → α) (count hint : Nat) : Except ε Nat :=
  seek (fun place => less key (at' place)) count hint

/-- The place in the first `count` elements before which a key belongs, before those equal to it. -/
def seekBefore (less : Less α ε) (key : α) (at' : Nat → α) (count hint : Nat) : Except ε Nat :=
  seek (fun place => do return !(← less (at' place) key)) count hint

end Walkthrough.Sorting
