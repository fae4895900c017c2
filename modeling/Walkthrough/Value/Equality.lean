import Walkthrough.Run

/-!
# Equality

Two containers are equal if their contents are.  Inside containers the very same value counts as
equal, even where it does not compare equal to itself.
-/

namespace Walkthrough

open Number

/-- Whether a complex number equals a scalar. -/
def complexEqualsScalar (re im : Float) : Scalar → Bool
  | .bool value => im == 0 && compareInt re (if value then 1 else 0) == some .eq
  | .int value => im == 0 && compareInt re value == some .eq
  | .float value => im == 0 && re == value
  | _ => false

/-- Whether the elements of two lists are equal one by one. -/
def equalLists (equal : Value → Value → Except Failure Bool) :
    List Value → List Value → Except Failure Bool
  | [], [] => .ok true
  | a :: as, b :: bs => do
    if ← equal a b then equalLists equal as bs else return false
  | _, _ => .ok false

/-- Whether every entry has an equal entry in `other`. -/
def equalEntries (equal : Value → Value → Except Failure Bool) (other : Dict) :
    List (Key × Value) → Except Failure Bool
  | [] => .ok true
  | (key, value) :: rest =>
    match other.get? key with
    | none => .ok false
    | some otherValue => do
      if ← equal value otherValue then equalEntries equal other rest else return false

/-- Whether a container takes two values for the same: they are identical or equal.  Containers that
nest deeper than `depth` are too deep to be compared. -/
def sameValue (s : Store) : Nat → Value → Value → Except Failure Bool
  | depth, a, b =>
    if a == b then .ok true
    else
      match a, b with
      | .scalar a, .scalar b => .ok (a.same b)
      | .complex re im, .scalar b => .ok (complexEqualsScalar re im b)
      | .scalar a, .complex re im => .ok (complexEqualsScalar re im a)
      | .complex re im, .complex re' im' => .ok (re == re' && im == im')
      | .list a, .list b =>
        match depth with
        | 0 => .error .tooDeep
        | depth + 1 =>
          let (xs, ys) := (s.list a, s.list b)
          if xs.size == ys.size then equalLists (sameValue s depth) xs.toList ys.toList
          else .ok false
      | .dict a, .dict b =>
        match depth with
        | 0 => .error .tooDeep
        | depth + 1 =>
          let (xs, ys) := (s.dict a, s.dict b)
          if xs.size == ys.size then equalEntries (sameValue s depth) ys xs.entries else .ok false
      | .function f, .function g => .ok ((s.function f).sameText (s.function g))
      | _, _ => .ok false

def equalValues (s : Store) (a b : Value) : Except Failure Bool :=
  match a, b with
  | .scalar a, .scalar b => .ok (a.equal b)
  | .complex re im, .complex re' im' => .ok (re == re' && im == im')
  | a, b => sameValue s nestingLimit a b

def isAmong (s : Store) (value : Value) : List Value → Except Failure Bool
  | [] => .ok false
  | other :: rest => do
    if ← sameValue s nestingLimit other value then return true else isAmong s value rest

/-- The position, counted from `start`, of the first of the given values that is the same as
`value`. -/
def position? (s : Store) (value : Value) (start : Nat) :
    List Value → Except Failure (Option Nat)
  | [] => .ok none
  | other :: rest => do
    if ← sameValue s nestingLimit other value then return some start
    else position? s value (start + 1) rest

def occurrences (s : Store) (value : Value) (values : List Value) : Except Failure Nat :=
  values.foldlM (fun count other => do
    return if ← sameValue s nestingLimit other value then count + 1 else count) 0

end Walkthrough
