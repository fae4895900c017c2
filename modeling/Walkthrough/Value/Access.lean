import Walkthrough.Value.Render

/-!
# Elements and parts

Subscripts and slices of lists, texts and dictionaries.  Positions below zero count from the end.
-/

namespace Walkthrough

/-- The key of a dictionary that a value is; only scalars are keys. -/
def Value.toKey (value : Value) : Except Failure Key :=
  match value with
  | .scalar spelling => .ok ⟨spelling⟩
  | _ => do throw (.error (.unhashable (← value.typeName)))

/-- The position in a sequence of the given length that an index means. -/
def indexPosition? (length : Nat) (index : Int) : Option Nat :=
  if 0 ≤ index && index < length then some index.toNat
  else if -Int.ofNat length ≤ index && index < 0 then some (index + length).toNat
  else none

/-- A subscript of a sequence, given its elements, the name of its type and that in messages about
its range. -/
def subscriptSequence {α : Type} (elements : Array α) (type rangeName : String) (index : Value) :
    Except Failure α := do
  match index.asInt? with
  | none => throw (.error (.indices type (← index.typeName)))
  | some i =>
    match (indexPosition? elements.size i).bind (elements[·]?) with
    | some element => return element
    | none => throw (.error (.indexRange rangeName))

/-- The value of `object[index]`. -/
def subscript (s : Store) (object index : Value) : Except Failure Value := do
  match object with
  | .dict ref =>
    let key ← index.toKey
    match (s.dict ref).get? key with
    | some value => return value
    | none => throw (.error (.missingKey (← index.repr s)))
  | .list ref => subscriptSequence (s.list ref) "list" "list" index
  | .str text =>
    let c ← subscriptSequence text.toList.toArray "str" "string" index
    return .str c.toString
  | _ => throw (.error (.notSubscriptable (← object.typeName)))

/-- The first position of a slice and the position it stops before, for a sequence of the given
length.  An omitted bound is the end that the step comes from or goes to. -/
def sliceBounds (length : Nat) (start stop : Option Int) (step : Int) : Int × Int :=
  let least : Int := if step < 0 then -1 else 0
  let greatest : Int := if step < 0 then length - 1 else length
  let clamp (bound : Int) : Int :=
    max least (min greatest (if bound < 0 then bound + length else bound))
  let first := if step < 0 then greatest else least
  let last := if step < 0 then least else greatest
  ((start.map clamp).getD first, (stop.map clamp).getD last)

def sliceCount (first last step : Int) : Nat :=
  if step < 0 then ((first - last + -step - 1) / -step).toNat
  else ((last - first + step - 1) / step).toNat

/-- The part of a sequence that a slice takes. -/
def sliceElements {α : Type} (elements : Array α) (start stop : Option Int) (step : Int) : List α :=
  let (first, last) := sliceBounds elements.size start stop step
  (List.range (sliceCount first last step)).filterMap fun count =>
    elements[(first + Int.ofNat count * step).toNat]?

/-- A bound of a slice: an integer or nothing. -/
def sliceBound : Value → Except Failure (Option Int)
  | .none => .ok Option.none
  | bound =>
    match bound.asInt? with
    | some i => .ok (some i)
    | Option.none => .error (.error .sliceIndices)

/-- The elements or characters of a slice, as a list or a text. -/
inductive SlicePart where
  | elements (elements : Array Value)
  | text (text : String)

/-- The part `object[start:stop:step]`. -/
def sliceOf (s : Store) (object start stop step : Value) : Except Failure SlicePart := do
  match object with
  | .list _ | .str _ => pure ()
  | _ => throw (.error (.notSubscriptable (← object.typeName)))
  let start ← sliceBound start
  let stop ← sliceBound stop
  let step ← sliceBound step
  let step := step.getD 1
  if step == 0 then throw (.error .sliceStep)
  match object with
  | .list ref => return .elements (sliceElements (s.list ref) start stop step).toArray
  | .str text => return .text (String.ofList (sliceElements text.toList.toArray start stop step))
  | _ => return .elements #[]

/-- The elements that a loop runs over: those of a list, or the characters of a text. -/
def loopElements (s : Store) (limit : Int) (value : Value) : Except Failure (List Value) := do
  let elements ← match value with
    | .list ref => pure (s.list ref).toList
    | .str text => pure (text.toList.map fun c => Value.str c.toString)
    | _ => throw (.error (.notIterable (← value.typeName)))
  if Int.ofNat elements.length > limit then
    throw (.error (.iterationLimit elements.length limit))
  return elements

/-- The elements of a list, the characters of a text or the keys of a dictionary. -/
def elementsOf (s : Store) (value : Value) : Except Failure (List Value) := do
  match value with
  | .list ref => return (s.list ref).toList
  | .str text => return text.toList.map fun c => Value.str c.toString
  | .dict ref => return (s.dict ref).keys.map fun key => .scalar key.spelling
  | _ => throw (.error (.noElements (← value.typeName)))

end Walkthrough
