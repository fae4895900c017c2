import Walkthrough.Sorting.Merge

/-!
# Sorting

A stable sort that finds the runs already in the input, extends short ones by insertion, and merges
neighbouring runs in the order that their places ask for.  The comparisons, and their order, are
part of what the sort promises: when one of them fails, the sort stops with the elements arranged
as they are at that moment.
-/

namespace Walkthrough.Sorting

variable {α ε : Type} [Inhabited α]

/-- The length of the run at the beginning of a list, after its first element `last`, as long as
every element is less than the one before it, or is not, as `descending` says. -/
def runLength (less : Less α ε) (descending : Bool) (count : Nat) (last : α) :
    List α → Except ε Nat
  | [] => .ok count
  | next :: rest => do
    if (← less next last) == descending then runLength less descending (count + 1) next rest
    else return count

/-- The length of the first run of a list, and whether it descends. -/
def firstRun (less : Less α ε) : List α → Except ε (Nat × Bool)
  | [] => .ok (0, false)
  | [_] => .ok (1, false)
  | first :: second :: rest => do
    let descending ← less second first
    return (← runLength less descending 2 second rest, descending)

/-- Inserts elements one after another into a sorted run, each after those equal to it. -/
def insertAll (less : Less α ε) (run : Array α) : List α → Except (Stuck α ε) (Array α)
  | [] => .ok run
  | pivot :: rest => do
    let place ← orStuck (run.toList ++ pivot :: rest)
      (bisect (fun place => less pivot (run.getD place default)) run.size 0 run.size)
    insertAll less (run.extract 0 place ++ #[pivot] ++ run.extract place run.size) rest

/-- The least length of a run in a list of the given length: between half of 64 and 64, so that the
list has nearly a power of two of them. -/
def leastRun : Nat → Nat → Nat → Nat
  | 0, length, odd => length + odd
  | fuel + 1, length, odd =>
    if length < 64 then length + odd else leastRun fuel (length / 2) (max odd (length % 2))

/-- The first binary place at which the midpoints of two neighbouring runs differ, as fractions of
the whole length.  `a` and `b` are twice the midpoints. -/
def splitPlace (length : Nat) : Nat → Nat → Nat → Nat → Nat
  | 0, place, _, _ => place
  | fuel + 1, place, a, b =>
    if a ≥ length then splitPlace length fuel (place + 1) (2 * (a - length)) (2 * (b - length))
    else if b ≥ length then place + 1
    else splitPlace length fuel (place + 1) (2 * a) (2 * b)

/-- A sorted run: where it begins, its elements, and the place at which it is split from the next
run. -/
structure SortedRun (α : Type) where
  start : Nat
  elements : Array α
  power : Nat

/-- The elements of a stack of runs, the last one on top. -/
def stackElements (stack : List (SortedRun α)) : List α :=
  stack.reverse.flatMap (·.elements.toList)

/-- A sort under way: the runs found so far, the last one on top, and the patience for the next
merge. -/
structure Progress (α : Type) where
  stack : List (SortedRun α)
  bound : Nat

/-- Merges two neighbouring runs with the given runs below them. -/
def mergeTop (less : Less α ε) (bound : Nat) (left right : SortedRun α)
    (below : List (SortedRun α)) : Except (Stuck α ε) (Progress α) :=
  match mergeRuns less bound left.elements right.elements with
  | .ok (merged, bound) =>
    .ok { stack := ⟨left.start, merged.toArray, right.power⟩ :: below, bound }
  | .error stuck => .error (stuck.surround (stackElements below) [])

/-- Merges the topmost runs as long as the one below was split off later than `power`. -/
def mergeWhile (less : Less α ε) (power : Nat) :
    Nat → Progress α → Except (Stuck α ε) (Progress α)
  | 0, p => .ok p
  | fuel + 1, p =>
    match p.stack with
    | right :: left :: below =>
      if left.power > power then do
        mergeWhile less power fuel (← mergeTop less p.bound left right below)
      else .ok p
    | _ => .ok p

/-- Sets the split of the topmost run. -/
def setPower (power : Nat) : List (SortedRun α) → List (SortedRun α)
  | [] => []
  | top :: below => { top with power } :: below

/-- Adds a run to the stack, after merging the runs that should be merged before. -/
def pushRun (less : Less α ε) (length start : Nat) (run : Array α) (p : Progress α) :
    Except (Stuck α ε) (Progress α) := do
  match p.stack with
  | [] => return { p with stack := [⟨start, run, 0⟩] }
  | top :: _ =>
    let a := 2 * top.start + top.elements.size
    let power := splitPlace length (length + 1) 0 a (a + top.elements.size + run.size)
    let p ← mergeWhile less power p.stack.length p
    return { p with stack := ⟨start, run, 0⟩ :: setPower power p.stack }

def mergeAll (less : Less α ε) : Nat → Progress α → Except (Stuck α ε) (List α)
  | 0, p => .ok (stackElements p.stack)
  | fuel + 1, p =>
    match p.stack with
    | third :: second :: first :: below => do
      if first.elements.size < third.elements.size then
        match mergeTop less p.bound first second below with
        | .ok merged => mergeAll less fuel { merged with stack := third :: merged.stack }
        | .error stuck => throw (stuck.surround [] third.elements.toList)
      else
        mergeAll less fuel (← mergeTop less p.bound second third (first :: below))
    | [right, left] => do mergeAll less fuel (← mergeTop less p.bound left right [])
    | stack => .ok (stackElements stack)

/-- The next run of a list, brought to the least length by insertion, and the rest of the list. -/
def nextRun (less : Less α ε) (least : Nat) (elements : List α) :
    Except (Stuck α ε) (Array α × List α) := do
  let (count, descending) ← orStuck elements (firstRun less elements)
  let found := elements.take count
  let run := if descending then found.reverse else found
  let rest := elements.drop count
  let more := least - count
  match insertAll less run.toArray (rest.take more) with
  | .ok run => return (run, rest.drop more)
  | .error stuck => throw (stuck.surround [] (rest.drop more))

def stackRuns (less : Less α ε) (length least : Nat) :
    Nat → List α → Progress α → Except (Stuck α ε) (Progress α)
  | 0, _, p => .ok p
  | _, [], p => .ok p
  | fuel + 1, elements, p => do
    match nextRun less least elements with
    | .error stuck => throw (stuck.surround (stackElements p.stack) [])
    | .ok (run, rest) =>
      match pushRun less length (length - elements.length) run p with
      | .error stuck => throw (stuck.surround [] (run.toList ++ rest))
      | .ok p => stackRuns less length least fuel rest p

/-- The places of elements in the order of the elements, or a pair of places whose comparison failed. -/
def arrange (less : Less Nat (Nat × Nat)) (length : Nat) :
    Except (Stuck Nat (Nat × Nat)) (List Nat) := do
  let places := List.range length
  if length < 2 then return places
  let p ← stackRuns less length (leastRun length length 0) length places ⟨[], patience⟩
  mergeAll less p.stack.length p

def elementAt (elements : Array α) (place : Nat) : α :=
  elements.getD place default

/-- A comparison of the elements at two places, which fails with the places. -/
def lessAt (less : Less α ε) (element : Nat → α) : Less Nat (Nat × Nat) := fun a b =>
  (less (element a) (element b)).mapError fun _ => (a, b)

/-- The elements in order, or the failure of a comparison with the elements as they stand then.  Only
places are moved, so nothing but comparisons looks at the elements. -/
def sort (less : Less α ε) (elements : List α) : Except (Stuck α ε) (List α) :=
  let element := elementAt elements.toArray
  match arrange (lessAt less element) elements.length with
  | .ok places => .ok (places.map element)
  | .error ⟨(a, b), places⟩ => do
    let _ ← orStuck (places.map element) (less (element a) (element b))
    return places.map element

end Walkthrough.Sorting
