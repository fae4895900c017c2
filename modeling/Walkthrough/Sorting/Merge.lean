import Walkthrough.Sorting.Search

/-!
# Merging two runs

Two neighbouring sorted runs become one.  The merge takes elements singly until one run has won
often enough in a row, and then whole stretches found by searching, until that no longer pays.  It
works from the end where the shorter run lies.  If a comparison fails, the elements merged so far
and the rests of both runs stay where they are.
-/

namespace Walkthrough.Sorting

variable {α ε : Type} [Inhabited α]

/-- A comparison that failed, and the elements as they stand then. -/
structure Stuck (α ε : Type) where
  cause : ε
  elements : List α

/-- The same failure seen with more elements before and after. -/
def Stuck.surround (before after : List α) (s : Stuck α ε) : Stuck α ε :=
  { s with elements := before ++ s.elements ++ after }

/-- A result, or the failure with the elements as they stand. -/
@[macro_inline] def orStuck {β : Type} (elements : List α) : Except ε β → Except (Stuck α ε) β
  | .ok value => .ok value
  | .error cause => .error ⟨cause, elements⟩

/-- How often a run must win in a row for the search to be worth it, at first and within the
search. -/
def patience : Nat := 7

/-- Whether elements are taken singly, with the number of wins in a row of either run, or in
stretches. -/
inductive Pace where
  | single (left right : Nat)
  | stretch

/-- A merge under way: the merged elements and what is left of both runs. -/
structure Merging (α : Type) where
  merged : Array α
  left : Array α
  leftDone : Nat
  right : Array α
  rightDone : Nat

namespace Merging

def leftRest (m : Merging α) : List α := m.left.toList.drop m.leftDone

def rightRest (m : Merging α) : List α := m.right.toList.drop m.rightDone

def leftCount (m : Merging α) : Nat := m.left.size - m.leftDone

def rightCount (m : Merging α) : Nat := m.right.size - m.rightDone

def leftAt (m : Merging α) (place : Nat) : α := m.left.getD (m.leftDone + place) default

def rightAt (m : Merging α) (place : Nat) : α := m.right.getD (m.rightDone + place) default

/-- The next `count` elements of the left run are merged. -/
def takeLeft (m : Merging α) (count : Nat) : Merging α :=
  { m with
    merged := m.merged ++ m.left.extract m.leftDone (m.leftDone + count)
    leftDone := m.leftDone + count }

/-- The next `count` elements of the right run are merged. -/
def takeRight (m : Merging α) (count : Nat) : Merging α :=
  { m with
    merged := m.merged ++ m.right.extract m.rightDone (m.rightDone + count)
    rightDone := m.rightDone + count }

/-- All elements, what is left of the left run before what is left of the right one. -/
def leftFirst (m : Merging α) : List α := m.merged.toList ++ m.leftRest ++ m.rightRest

/-- All elements, what is left of the right run before what is left of the left one. -/
def rightFirst (m : Merging α) : List α := m.merged.toList ++ m.rightRest ++ m.leftRest

end Merging

/-- Merges from the front.  The last element of the left run is known to belong at the end.  Gives
the merged elements and the patience for the next merge. -/
def mergeForward (less : Less α ε) :
    Nat → Pace → Nat → Merging α → Except (Stuck α ε) (List α × Nat)
  | 0, _, bound, m => .ok (m.leftFirst, bound)
  | fuel + 1, .single leftWins rightWins, bound, m => do
    if ← orStuck m.leftFirst (less (m.rightAt 0) (m.leftAt 0)) then
      let m := m.takeRight 1
      if m.rightCount == 0 then return (m.leftFirst, bound)
      else if rightWins + 1 ≥ bound then mergeForward less fuel .stretch (bound + 1) m
      else mergeForward less fuel (.single 0 (rightWins + 1)) bound m
    else
      let m := m.takeLeft 1
      if m.leftCount == 1 then return (m.rightFirst, bound)
      else if leftWins + 1 ≥ bound then mergeForward less fuel .stretch (bound + 1) m
      else mergeForward less fuel (.single (leftWins + 1) 0) bound m
  | fuel + 1, .stretch, bound, m => do
    let bound := if bound > 1 then bound - 1 else bound
    let fromLeft ← orStuck m.leftFirst (seekAfter less (m.rightAt 0) m.leftAt m.leftCount 0)
    let m := m.takeLeft fromLeft
    if fromLeft != 0 && m.leftCount == 1 then return (m.rightFirst, bound)
    else if fromLeft != 0 && m.leftCount == 0 then return (m.leftFirst, bound)
    else
      let m := m.takeRight 1
      if m.rightCount == 0 then return (m.leftFirst, bound)
      else
        let fromRight ←
          orStuck m.leftFirst (seekBefore less (m.leftAt 0) m.rightAt m.rightCount 0)
        let m := m.takeRight fromRight
        if fromRight != 0 && m.rightCount == 0 then return (m.leftFirst, bound)
        else
          let m := m.takeLeft 1
          if m.leftCount == 1 then return (m.rightFirst, bound)
          else if fromLeft ≥ patience || fromRight ≥ patience then
            mergeForward less fuel .stretch bound m
          else mergeForward less fuel (.single 0 0) (bound + 1) m

/-- A merge under way from the back: how many elements of either run are left, and the merged
elements. -/
structure BackMerging (α : Type) where
  left : Array α
  leftCount : Nat
  right : Array α
  rightCount : Nat
  merged : List α

namespace BackMerging

def leftRest (m : BackMerging α) : List α := m.left.toList.take m.leftCount

def rightRest (m : BackMerging α) : List α := m.right.toList.take m.rightCount

def leftAt (m : BackMerging α) (place : Nat) : α := m.left.getD place default

def rightAt (m : BackMerging α) (place : Nat) : α := m.right.getD place default

def lastLeft (m : BackMerging α) : α := m.leftAt (m.leftCount - 1)

def lastRight (m : BackMerging α) : α := m.rightAt (m.rightCount - 1)

/-- The last `count` elements of the left run are merged. -/
def takeLeft (m : BackMerging α) (count : Nat) : BackMerging α :=
  { m with
    merged := (m.left.extract (m.leftCount - count) m.leftCount).toList ++ m.merged
    leftCount := m.leftCount - count }

/-- The last `count` elements of the right run are merged. -/
def takeRight (m : BackMerging α) (count : Nat) : BackMerging α :=
  { m with
    merged := (m.right.extract (m.rightCount - count) m.rightCount).toList ++ m.merged
    rightCount := m.rightCount - count }

/-- All elements, what is left of the left run before what is left of the right one. -/
def leftFirst (m : BackMerging α) : List α := m.leftRest ++ m.rightRest ++ m.merged

/-- All elements, what is left of the right run before what is left of the left one. -/
def rightFirst (m : BackMerging α) : List α := m.rightRest ++ m.leftRest ++ m.merged

end BackMerging

/-- Merges from the back.  The first element of the right run is known to belong at the front. -/
def mergeBackward (less : Less α ε) :
    Nat → Pace → Nat → BackMerging α → Except (Stuck α ε) (List α × Nat)
  | 0, _, bound, m => .ok (m.leftFirst, bound)
  | fuel + 1, .single leftWins rightWins, bound, m => do
    if ← orStuck m.leftFirst (less m.lastRight m.lastLeft) then
      let m := m.takeLeft 1
      if m.leftCount == 0 then return (m.leftFirst, bound)
      else if leftWins + 1 ≥ bound then mergeBackward less fuel .stretch (bound + 1) m
      else mergeBackward less fuel (.single (leftWins + 1) 0) bound m
    else
      let m := m.takeRight 1
      if m.rightCount == 1 then return (m.rightFirst, bound)
      else if rightWins + 1 ≥ bound then mergeBackward less fuel .stretch (bound + 1) m
      else mergeBackward less fuel (.single 0 (rightWins + 1)) bound m
  | fuel + 1, .stretch, bound, m => do
    let bound := if bound > 1 then bound - 1 else bound
    let place ← orStuck m.leftFirst
      (seekAfter less m.lastRight m.leftAt m.leftCount (m.leftCount - 1))
    let fromLeft := m.leftCount - place
    let m := m.takeLeft fromLeft
    if fromLeft != 0 && m.leftCount == 0 then return (m.leftFirst, bound)
    else
      let m := m.takeRight 1
      if m.rightCount == 1 then return (m.rightFirst, bound)
      else
        let place ← orStuck m.leftFirst
          (seekBefore less m.lastLeft m.rightAt m.rightCount (m.rightCount - 1))
        let fromRight := m.rightCount - place
        let m := m.takeRight fromRight
        if fromRight != 0 && m.rightCount == 1 then return (m.rightFirst, bound)
        else if fromRight != 0 && m.rightCount == 0 then return (m.leftFirst, bound)
        else
          let m := m.takeLeft 1
          if m.leftCount == 0 then return (m.leftFirst, bound)
          else if fromLeft ≥ patience || fromRight ≥ patience then
            mergeBackward less fuel .stretch bound m
          else mergeBackward less fuel (.single 0 0) (bound + 1) m

/-- Merges what is left of two runs once the elements that are in place have been set aside.  The
first element comes from the right run and the last one from the left run. -/
def mergeCore (less : Less α ε) (bound : Nat) (left right : Array α) :
    Except (Stuck α ε) (List α × Nat) :=
  let fuel := left.size + right.size
  if left.size ≤ right.size then
    let m := Merging.takeRight ⟨#[], left, 0, right, 0⟩ 1
    if m.rightCount == 0 then .ok (m.leftFirst, bound)
    else if m.leftCount == 1 then .ok (m.rightFirst, bound)
    else mergeForward less fuel (.single 0 0) bound m
  else
    let m := BackMerging.takeLeft ⟨left, left.size, right, right.size, []⟩ 1
    if m.leftCount == 0 then .ok (m.leftFirst, bound)
    else if m.rightCount == 1 then .ok (m.rightFirst, bound)
    else mergeBackward less fuel (.single 0 0) bound m

def mergeRuns (less : Less α ε) (bound : Nat) (left right : Array α) :
    Except (Stuck α ε) (List α × Nat) := do
  let all := left.toList ++ right.toList
  let skipped ← orStuck all
    (seekAfter less (right.getD 0 default) (left.getD · default) left.size 0)
  let leftRest := left.extract skipped left.size
  if leftRest.isEmpty then return (all, bound)
  let kept ← orStuck all
    (seekBefore less (leftRest.getD (leftRest.size - 1) default) (right.getD · default) right.size
      (right.size - 1))
  if kept == 0 then return (all, bound)
  let before := (left.extract 0 skipped).toList
  let after := (right.extract kept right.size).toList
  match mergeCore less bound leftRest (right.extract 0 kept) with
  | .ok (merged, bound) => return (before ++ merged ++ after, bound)
  | .error stuck => throw (stuck.surround before after)

end Walkthrough.Sorting
