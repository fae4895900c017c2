import Walkthrough.Method.Outcome

/-!
# Methods of dictionaries
-/

namespace Walkthrough

inductive DictMethod where
  | get | keys | values | items | update | pop | setdefault | clear
deriving DecidableEq, Repr

def DictMethod.name : DictMethod → String
  | .get => "get"
  | .keys => "keys"
  | .values => "values"
  | .items => "items"
  | .update => "update"
  | .pop => "pop"
  | .setdefault => "setdefault"
  | .clear => "clear"

def DictMethod.all : List DictMethod :=
  [.get, .keys, .values, .items, .update, .pop, .setdefault, .clear]

def DictMethod.ofName? (name : String) : Option DictMethod :=
  DictMethod.all.find? (·.name == name)

def Run.modifyDict (ref : Nat) (change : Dict → Dict) : Run Unit :=
  Run.change (·.modifyDict ref change)

def dictGet (ref : Nat) (key default : Value) (label : String) : Run Outcome := do
  let found := ((← Run.store).dict ref).get? (← Run.key key)
  let value := found.getD default
  let shown ← Run.shown value
  let shownKey ← Run.shown key
  return ⟨value, s!"Got {shown} for key {shownKey} from {label}"⟩

def dictItems (ref : Nat) (label : String) : Run Outcome := do
  let entries := ((← Run.store).dict ref).entries
  let pairs ← entries.mapM fun (key, value) => Run.newList #[.scalar key.spelling, value]
  let result ← Run.newList pairs.toArray
  return ⟨result, s!"Listed {entries.length} item(s) of {label}"⟩

/-- The two elements of every list in a list of such pairs. -/
def pairsOf? (s : Store) (elements : List Value) : Option (List (Value × Value)) :=
  elements.mapM fun
    | .list ref =>
      match (s.list ref).toList with
      | [key, value] => some (key, value)
      | _ => none
    | _ => none

/-- The entries that updating with a value sets. -/
def updateEntries (s : Store) (other : Value) : Except Failure (List (Key × Value)) := do
  match other with
  | .dict ref => return (s.dict ref).entries
  | .list ref =>
    match pairsOf? s (s.list ref).toList with
    | some pairs => pairs.mapM fun (key, value) => do return (← key.toKey, value)
    | none => throw (.error (.notMapping (← other.typeName)))
  | _ => throw (.error (.notMapping (← other.typeName)))

def dictUpdate (ref : Nat) (other : Value) (label : String) : Run Outcome := do
  let entries ← Run.look fun s => updateEntries s other
  Run.modifyDict ref (·.insertMany entries)
  let shown ← Run.shown other
  return ⟨.none, s!"Updated {label} with {shown}"⟩

def dictPop (ref : Nat) (key : Value) (default : Option Value) (label : String) : Run Outcome := do
  let found := ((← Run.store).dict ref).get? (← Run.key key)
  match found, default with
  | some value, _ =>
    Run.modifyDict ref (·.erase (← Run.key key))
    let shownKey ← Run.shown key
    let shown ← Run.shown value
    return ⟨value, s!"Popped key {shownKey} ({shown}) from {label}"⟩
  | none, some default =>
    let shownKey ← Run.shown key
    let shown ← Run.shown default
    return ⟨default, s!"Key {shownKey} not in {label}; returned default {shown}"⟩
  | none, none => Run.fail (.missingKeyIn (← Run.shown key) label)

def dictSetDefault (ref : Nat) (key default : Value) (label : String) : Run Outcome := do
  let entryKey ← Run.key key
  let found := ((← Run.store).dict ref).get? entryKey
  match found with
  | some value =>
    let shownKey ← Run.shown key
    return ⟨value, s!"Key {shownKey} already in {label}"⟩
  | none =>
    Run.modifyDict ref (·.insert entryKey default)
    let shown ← Run.shown default
    let shownKey ← Run.shown key
    return ⟨default, s!"Set default {shown} for key {shownKey} in {label}"⟩

def DictMethod.call (method : DictMethod) (ref : Nat) (arguments : List Value) (label : String) :
    Run Outcome := do
  let first := arguments.headD .none
  let second? := arguments[1]?
  match method with
  | .get =>
    checkArguments method.name arguments 1 2
    dictGet ref first (second?.getD .none) label
  | .keys =>
    checkArguments method.name arguments 0 0
    let keys := ((← Run.store).dict ref).keys
    let result ← Run.newList (keys.map fun key => Value.scalar key.spelling).toArray
    return ⟨result, s!"Listed {keys.length} key(s) of {label}"⟩
  | .values =>
    checkArguments method.name arguments 0 0
    let values := ((← Run.store).dict ref).values
    let result ← Run.newList values.toArray
    return ⟨result, s!"Listed {values.length} value(s) of {label}"⟩
  | .items =>
    checkArguments method.name arguments 0 0
    dictItems ref label
  | .update =>
    checkArguments method.name arguments 1 1
    dictUpdate ref first label
  | .pop =>
    checkArguments method.name arguments 1 2
    dictPop ref first second? label
  | .setdefault =>
    checkArguments method.name arguments 1 2
    dictSetDefault ref first (second?.getD .none) label
  | .clear =>
    checkArguments method.name arguments 0 0
    Run.modifyDict ref fun _ => .empty
    return ⟨.none, s!"Cleared {label}"⟩

end Walkthrough
