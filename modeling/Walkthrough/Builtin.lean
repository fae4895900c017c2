import Walkthrough.Number.Rounding
import Walkthrough.Operation.Binary
import Walkthrough.Sorting.Basic
import Walkthrough.Value.Access
import Walkthrough.Value.Order

/-!
# Built-in functions
-/

namespace Walkthrough

open Number Text

inductive Builtin where
  | print | range | len | int | float | str | bool | abs | max | min | sum | sorted | round
deriving DecidableEq, Repr

def Builtin.name : Builtin → String
  | .print => "print"
  | .range => "range"
  | .len => "len"
  | .int => "int"
  | .float => "float"
  | .str => "str"
  | .bool => "bool"
  | .abs => "abs"
  | .max => "max"
  | .min => "min"
  | .sum => "sum"
  | .sorted => "sorted"
  | .round => "round"

def Builtin.all : List Builtin :=
  [.print, .range, .len, .int, .float, .str, .bool, .abs, .max, .min, .sum, .sorted, .round]

def Builtin.ofName? (name : String) : Option Builtin :=
  Builtin.all.find? (·.name == name)

/-- Refuses too few or too many arguments. -/
def Builtin.checkCount (name : String) (arguments : List Value) (low high : Nat) : Run Unit := do
  let given := arguments.length
  if low ≤ given && given ≤ high then return
  let arity : Arity :=
    if low == high then (if low == 0 then .none else .exactly low)
    else if given < low then .atLeast low
    else .atMost high "arguments"
  Run.fail (.arguments name arity given)

def Run.integer (value : Value) : Run Int := do
  match value.asInt? with
  | some i => return i
  | none => Run.fail (.notInteger (← Run.ofExcept value.typeName))

/-- The line that printing the values writes. -/
def printLine (s : Store) (values : List Value) : Except Failure String := do
  return " ".intercalate (← values.mapM (·.repr s))

def printValues (values : List Value) : Run Value := do
  Run.say (← Run.look fun s => printLine s values)
  return .none

/-- How many numbers lie from `start` on in steps before `stop`. -/
def rangeLength (start stop step : Int) : Nat :=
  if step > 0 then ((stop - start + step - 1) / step).toNat
  else ((start - stop + -step - 1) / -step).toNat

/-- The bounds and the step of a range, by the number of its arguments. -/
def rangeBounds : List Int → Int × Int × Int
  | [stop] => (0, stop, 1)
  | [start, stop] => (start, stop, 1)
  | start :: stop :: step :: _ => (start, stop, step)
  | [] => (0, 0, 1)

def makeRange (limit : Int) (arguments : List Value) : Run Value := do
  Builtin.checkCount "range" arguments 1 3
  let (start, stop, step) := rangeBounds (← arguments.mapM Run.integer)
  if step == 0 then Run.fail .rangeStep
  let length := rangeLength start stop step
  if !fitsWord (Int.ofNat length) then throw (.fault (.overflow .size))
  if Int.ofNat length > limit then Run.fail (.rangeLimit length limit)
  let element (count : Nat) : Value := .int (start + Int.ofNat count * step)
  Run.newList ((List.range length).map element).toArray

def lengthOf (value : Value) : Run Value := do
  let s ← Run.store
  match value with
  | .list ref => return .int (s.list ref).size
  | .dict ref => return .int (s.dict ref).size
  | .str text => return .int text.length
  | _ => Run.fail (.noLength (← Run.ofExcept value.typeName))

/-- The integer that a text stands for. -/
def integerOfText (base : Int) (text : String) : Run Value := do
  let shown := String.ofList ((quoted text).toList.take 200)
  let result :=
    if base < 0 then .error .badBase else readInteger base.toNat text.toList
  match result with
  | .ok i => return .int i
  | .error cause => Run.fail (.integerText cause base shown)

def toInteger (arguments : List Value) : Run Value := do
  Builtin.checkCount "int" arguments 0 2
  match arguments with
  | [] => return .int 0
  | [value, base] =>
    match value with
    | .str text => integerOfText (← Run.integer base) text
    | _ => Run.fail .explicitBase
  | value :: _ =>
    match value.asInt?, value with
    | some i, _ => return .int i
    | none, .float x =>
      match truncate? x with
      | some i => return .int i
      | none => Run.fail (.fault (.overflow .infinityToInt))
    | none, .nan _ => Run.fail (.fault .nanToInt)
    | none, .str text => integerOfText 10 text
    | none, _ => Run.fail (.integerArgument (← Run.ofExcept value.typeName))

def toFloat (arguments : List Value) : Run Value := do
  Builtin.checkCount "float" arguments 0 1
  match arguments with
  | [] => return .float 0
  | value :: _ =>
    match value.asInt?, value with
    | some i, _ =>
      match nearestInt? i with
      | some x => return .float x
      | none => Run.fail (.fault (.overflow .intToFloat))
    | none, .float x => return .float x
    | none, .nan mark => return .nan mark
    | none, .str text =>
      match readFloat? text.toList with
      | some x => Run.newFloat x
      | none => Run.fail (.floatText (quoted text))
    | none, _ => Run.fail (.floatArgument (← Run.ofExcept value.typeName))

def toText (arguments : List Value) : Run Value := do
  Builtin.checkCount "str" arguments 0 1
  match arguments with
  | [] => return .str ""
  | value :: _ => return .str (← Run.look fun s => value.text s)

def toTruth (arguments : List Value) : Run Value := do
  Builtin.checkCount "bool" arguments 0 1
  match arguments with
  | [] => return .bool false
  | value :: _ => return .bool (value.isTruthy (← Run.store))

def absolute (value : Value) : Run Value := do
  match value.asInt?, value with
  | some i, _ => return .int i.natAbs
  | none, .float x => return .float x.abs
  | none, .nan _ => Run.newFloat (0.0 / 0.0)
  | none, _ => Run.fail (.absolute (← Run.ofExcept value.typeName))

/-- The first of the values that no later one beats. -/
def best (s : Store) (op : OrderOp) (champion : Value) : List Value → Except OrderTrouble Value
  | [] => .ok champion
  | value :: rest => do
    if ← ordered s op nestingLimit value champion then best s op value rest
    else best s op champion rest

/-- What comparing elements gives; values without an order are an error. -/
def Run.ofOrder {α : Type} (result : Except OrderTrouble α) : Run α :=
  match result with
  | .ok value => return value
  | .error (.unordered symbol left right) => Run.fail (.unordered symbol left right)
  | .error (.failure failure) => throw failure

def extreme (function : String) (op : OrderOp) (arguments : List Value) : Run Value := do
  let values ← match arguments with
    | [] => Run.fail (.noCandidate function)
    | [value] => Run.look fun s => elementsOf s value
    | values => pure values
  match values with
  | [] => Run.fail (.emptySequence function)
  | first :: rest => Run.ofOrder (best (← Run.store) op first rest)

def noSum (a b : Value) : Run Value := do
  let left ← Run.ofExcept a.typeName
  Run.fail (.operands BinaryOp.add.symbol left (← Run.ofExcept b.typeName))

/-- The sum of a value and one more.  A number that is too large ends the run. -/
def addTo (total item : Value) : Run Value := do
  if total.isFunction || item.isFunction then noSum total item
  else
    let result ← (addValues total item).run
    match result with
    | .ok value => return value
    | .error .mismatch => noSum total item
    | .error (.failure (.error (.fault cause))) => throw (.fault cause)
    | .error (.failure failure) => throw failure

def sumValues (arguments : List Value) : Run Value := do
  Builtin.checkCount "sum" arguments 1 2
  let (source, total) := match arguments with
    | source :: total :: _ => (source, total)
    | source :: [] => (source, .int 0)
    | [] => (.none, .int 0)
  if let .str _ := total then Run.fail .sumOfTexts
  let items ← Run.look fun s => elementsOf s source
  items.foldlM addTo total

def lessThan (s : Store) : Sorting.Less Value OrderTrouble :=
  ordered s .less nestingLimit

def sortedValues (arguments : List Value) : Run Value := do
  Builtin.checkCount "sorted" arguments 1 1
  let items ← Run.look fun s => elementsOf s (arguments.headD .none)
  let result := Sorting.sort (lessThan (← Run.store)) items
  let items ← Run.ofOrder (result.mapError (·.cause))
  Run.newList items.toArray

def roundValue (arguments : List Value) : Run Value := do
  Builtin.checkCount "round" arguments 1 2
  let value := arguments.headD .none
  let places := arguments[1]?.getD .none
  if !value.isNumber then Run.fail (.notRounded (← Run.ofExcept value.typeName))
  match places, value.asInt?, value with
  | .none, some i, _ => return .int i
  | .none, none, .float x =>
    match roundFloat x with
    | .ok i => return .int i
    | .error cause => Run.fail (.fault cause)
  | .none, none, _ => Run.fail (.fault .nanToInt)
  | places, some i, _ => return .int (roundInt i (← Run.integer places))
  | places, none, .float x =>
    match roundPlacesFloat x (← Run.integer places) with
    | .ok x => return .float x
    | .error cause => throw (.fault cause)
  | places, none, _ =>
    let _ ← Run.integer places
    Run.newFloat (0.0 / 0.0)

/-- Calls a built-in function; `limit` bounds the length of ranges. -/
def Builtin.call (limit : Int) (function : Builtin) (arguments : List Value) : Run Value := do
  match function with
  | .print => printValues arguments
  | .range => makeRange limit arguments
  | .len =>
    Builtin.checkCount "len" arguments 1 1
    lengthOf (arguments.headD .none)
  | .int => toInteger arguments
  | .float => toFloat arguments
  | .str => toText arguments
  | .bool => toTruth arguments
  | .abs =>
    Builtin.checkCount "abs" arguments 1 1
    absolute (arguments.headD .none)
  | .max => extreme "max" .greater arguments
  | .min => extreme "min" .less arguments
  | .sum => sumValues arguments
  | .sorted => sortedValues arguments
  | .round => roundValue arguments

end Walkthrough
