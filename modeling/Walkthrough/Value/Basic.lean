import Walkthrough.Block.Basic
import Walkthrough.Table

/-!
# Values and the store

Lists, dictionaries and functions have an identity: a value refers to them, and their contents are
in the store.  Two names bound to one list see the same changes.
-/

namespace Walkthrough

inductive Value where
  | scalar (value : Scalar)
  /-- The even root of a negative number, and what is computed from it.  It can be used in
  arithmetic, and nearly nowhere else. -/
  | complex (re im : Float)
  | list (ref : Nat)
  | dict (ref : Nat)
  | function (ref : Nat)
deriving DecidableEq, Inhabited

@[match_pattern] abbrev Value.none : Value := .scalar .none
@[match_pattern] abbrev Value.bool (value : Bool) : Value := .scalar (.bool value)
@[match_pattern] abbrev Value.int (value : Int) : Value := .scalar (.int value)
@[match_pattern] abbrev Value.float (value : Float) : Value := .scalar (.float value)
@[match_pattern] abbrev Value.nan (mark : Nat) : Value := .scalar (.nan mark)
@[match_pattern] abbrev Value.str (value : String) : Value := .scalar (.str value)

/-- A key of a dictionary, as it was first written.  Keys that compare equal are one key. -/
structure Key where
  spelling : Scalar
deriving Inhabited

instance : BEq Key := ⟨fun a b => a.spelling.same b.spelling⟩

/-- The entries of a dictionary in insertion order. -/
abbrev Dict := Table Key Value

/-- The names bound in a scope, in the order in which they were first bound. -/
abbrev Env := Table String Value

/-- A function: its block, also as lines, and a copy of the bindings at its definition. -/
structure Function where
  name : String
  parameters : List String
  body : List Source.Line
  block : List Item
  closure : Env
deriving Inhabited

/-- Whether two functions compare equal: their texts do. -/
def Function.sameText (f g : Function) : Bool :=
  f.name == g.name && f.parameters == g.parameters && f.body == g.body

def Function.bodyLines (f : Function) : List Nat :=
  f.body.map (·.index)

/-- The contents of all lists, dictionaries and functions made so far. -/
structure Store where
  lists : Array (Array Value)
  dicts : Array Dict
  functions : Array Function
  /-- The mark of the next float that is not a number. -/
  marks : Nat
deriving Inhabited

namespace Store

def empty : Store := ⟨#[], #[], #[], 0⟩

def list (s : Store) (ref : Nat) : Array Value :=
  s.lists[ref]?.getD #[]

def dict (s : Store) (ref : Nat) : Dict :=
  s.dicts[ref]?.getD Table.empty

def function (s : Store) (ref : Nat) : Function :=
  s.functions[ref]?.getD default

/-- A new list without elements, by its reference. -/
@[noinline] def reserveList (s : Store) : Nat × Store :=
  (s.lists.size, { s with lists := s.lists.push #[] })

/-- A new dictionary without entries, by its reference. -/
@[noinline] def reserveDict (s : Store) : Nat × Store :=
  (s.dicts.size, { s with dicts := s.dicts.push .empty })

def addList (s : Store) (elements : Array Value) : Value × Store :=
  (.list s.lists.size, { s with lists := s.lists.push elements })

def addDict (s : Store) (entries : Dict) : Value × Store :=
  (.dict s.dicts.size, { s with dicts := s.dicts.push entries })

def addFunction (s : Store) (function : Function) : Value × Store :=
  (.function s.functions.size, { s with functions := s.functions.push function })

/-- A float as a value; one that is not a number gets a mark of its own. -/
def addFloat (s : Store) (x : Float) : Value × Store :=
  if x.isNaN then (.nan s.marks, { s with marks := s.marks + 1 }) else (.float x, s)

def modifyList (s : Store) (ref : Nat) (change : Array Value → Array Value) : Store :=
  { s with lists := s.lists.modify ref change }

def modifyDict (s : Store) (ref : Nat) (change : Dict → Dict) : Store :=
  { s with dicts := s.dicts.modify ref change }

end Store

/-- The name of the type of a value in messages about order. -/
def Value.kind : Value → String
  | .scalar value => value.typeName
  | .complex .. => "complex"
  | .list _ => "list"
  | .dict _ => "dict"
  | .function _ => "Function"

/-- Whether a value counts as true. -/
def Value.isTruthy (s : Store) : Value → Bool
  | .scalar value => value.isTruthy
  | .complex re im => re != 0 || im != 0
  | .list ref => !(s.list ref).isEmpty
  | .dict ref => !(s.dict ref).entries.isEmpty
  | .function _ => true

/-- An integer or a truth value as an integer. -/
def Value.asInt? : Value → Option Int
  | .int value => some value
  | .bool value => some (if value then 1 else 0)
  | _ => Option.none

def Value.isNumber : Value → Bool
  | .bool _ | .int _ | .float _ | .nan _ => true
  | _ => false

end Walkthrough
