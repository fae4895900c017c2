import Walkthrough.Builtin
import Walkthrough.Method.Outcome

/-!
# Methods of lists
-/

namespace Walkthrough

inductive ListMethod where
  | append | extend | remove | pop | insert | clear | sort | reverse | index | count
deriving DecidableEq, Repr

def ListMethod.name : ListMethod → String
  | .append => "append"
  | .extend => "extend"
  | .remove => "remove"
  | .pop => "pop"
  | .insert => "insert"
  | .clear => "clear"
  | .sort => "sort"
  | .reverse => "reverse"
  | .index => "index"
  | .count => "count"

def ListMethod.all : List ListMethod :=
  [.append, .extend, .remove, .pop, .insert, .clear, .sort, .reverse, .index, .count]

def ListMethod.ofName? (name : String) : Option ListMethod :=
  ListMethod.all.find? (·.name == name)

def Run.modifyList (ref : Nat) (change : Array Value → Array Value) : Run Unit :=
  Run.change (·.modifyList ref change)

/-- The place at which inserting at an index puts an element. -/
def insertPosition (length : Nat) (index : Int) : Nat :=
  let index := if index < 0 then index + length else index
  min index.toNat length

def listAppend (ref : Nat) (value : Value) (label : String) : Run Outcome := do
  Run.modifyList ref (·.push value)
  let shown ← Run.shown value
  return ⟨.none, s!"Appended {shown} to {label}"⟩

def listExtend (ref : Nat) (value : Value) (label : String) : Run Outcome := do
  let elements ← Run.look fun s => elementsOf s value
  Run.modifyList ref (· ++ elements)
  let shown ← Run.shown value
  return ⟨.none, s!"Extended {label} with {shown}"⟩

def listRemove (ref : Nat) (value : Value) (label : String) : Run Outcome := do
  match ← Run.look fun s => position? s value 0 (s.list ref).toList with
  | none => Run.fail .notListed
  | some place =>
    Run.modifyList ref fun elements => elements.eraseIdxIfInBounds place
    let shown ← Run.shown value
    return ⟨.none, s!"Removed first occurrence of {shown} from {label}"⟩

def listPop (ref : Nat) (index? : Option Value) (label : String) : Run Outcome := do
  let elements := (← Run.store).list ref
  if elements.isEmpty then Run.fail .emptyPop
  match index? with
  | none =>
    let popped := elements.back?.getD .none
    Run.modifyList ref (·.pop)
    let shown ← Run.shown popped
    return ⟨popped, s!"Popped last element ({shown}) from {label}"⟩
  | some index =>
    match indexPosition? elements.size (← Run.integer index) with
    | none => Run.fail .popRange
    | some place =>
      let popped := elements[place]?.getD .none
      Run.modifyList ref fun elements => elements.eraseIdxIfInBounds place
      let shown ← Run.shown popped
      let index ← Run.shown index
      return ⟨popped, s!"Popped element at index {index} ({shown}) from {label}"⟩

def listInsert (ref : Nat) (index value : Value) (label : String) : Run Outcome := do
  let i ← Run.integer index
  if !fitsWord i then throw (.fault (.overflow .size))
  Run.modifyList ref fun elements =>
    let place := insertPosition elements.size i
    elements.extract 0 place ++ #[value] ++ elements.extract place elements.size
  let shown ← Run.shown value
  let index ← Run.shown index
  return ⟨.none, s!"Inserted {shown} at index {index} in {label}"⟩

/-- Sorts a list in place.  While it is sorted it is empty; if a comparison fails it keeps the
arrangement reached. -/
def listSort (ref : Nat) (label : String) : Run Outcome := do
  let elements := (← Run.store).list ref
  if elements.any Value.isFunction then Run.fail .unorderedFunctions
  Run.modifyList ref fun _ => #[]
  match Sorting.sort (lessThan (← Run.store)) elements.toList with
  | .ok sorted =>
    Run.modifyList ref fun _ => sorted.toArray
    return ⟨.none, s!"Sorted {label}"⟩
  | .error stuck =>
    Run.modifyList ref fun _ => stuck.elements.toArray
    Run.ofOrder (.error stuck.cause)

def listIndex (ref : Nat) (value : Value) (label : String) : Run Outcome := do
  let place ← Run.look fun s => position? s value 0 (s.list ref).toList
  let shown ← Run.shown value
  match place with
  | none => Run.fail (.notInList shown)
  | some place => return ⟨.int place, s!"Found {shown} at index {place} in {label}"⟩

def listCount (ref : Nat) (value : Value) (label : String) : Run Outcome := do
  let count ← Run.look fun s => occurrences s value (s.list ref).toList
  let shown ← Run.shown value
  return ⟨.int count, s!"Counted {count} occurrence(s) of {shown} in {label}"⟩

def ListMethod.call (method : ListMethod) (ref : Nat) (arguments : List Value) (label : String) :
    Run Outcome := do
  let first := arguments.headD .none
  match method with
  | .append =>
    checkArguments method.name arguments 1 1
    listAppend ref first label
  | .extend =>
    checkArguments method.name arguments 1 1
    listExtend ref first label
  | .remove =>
    checkArguments method.name arguments 1 1
    listRemove ref first label
  | .pop =>
    checkArguments method.name arguments 0 1
    listPop ref arguments.head? label
  | .insert =>
    checkArguments method.name arguments 2 2
    listInsert ref first (arguments[1]?.getD .none) label
  | .clear =>
    checkArguments method.name arguments 0 0
    Run.modifyList ref fun _ => #[]
    return ⟨.none, s!"Cleared {label}"⟩
  | .sort =>
    checkArguments method.name arguments 0 0
    listSort ref label
  | .reverse =>
    checkArguments method.name arguments 0 0
    Run.modifyList ref (·.reverse)
    return ⟨.none, s!"Reversed {label}"⟩
  | .index =>
    checkArguments method.name arguments 1 1
    listIndex ref first label
  | .count =>
    checkArguments method.name arguments 1 1
    listCount ref first label

end Walkthrough
