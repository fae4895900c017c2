import Walkthrough.Format.Percent
import Walkthrough.Number.Arithmetic

/-!
# Binary and unary operators

What the operators do with values.  Texts and lists can be joined and repeated, dictionaries united,
and a text can be a format; the rest is arithmetic.
-/

namespace Walkthrough

open Number Format

/-- The largest exponent and shift of integers. -/
def exponentLimit : Nat := 10000

/-- The greatest length of a repeated text or list. -/
def sequenceLimit : Nat := 1000000

def Value.toNum? : Value → Option Numeric
  | .bool value => some (.int (if value then 1 else 0))
  | .int value => some (.int value)
  | .float value => some (.float value)
  | .nan _ => some (.float (0.0 / 0.0))
  | .complex re im => some (.complex ⟨re, im⟩)
  | _ => Option.none

def Run.ofNum : Numeric → Run Value
  | .int value => return .int value
  | .float value => Run.newFloat value
  | .complex z => return .complex z.re z.im

/-- Why an operator has no result. -/
inductive OperatorTrouble where
  /-- The operands do not have such an operation. -/
  | mismatch
  | failure (failure : Failure)

abbrev OperatorM := ExceptT OperatorTrouble (StateM Machine)

def OperatorM.ofNum (result : Except NumTrouble Numeric) : OperatorM Value :=
  match result with
  | .ok number => ExceptT.adapt .failure (Run.ofNum number)
  | .error .unsupported => throw .mismatch
  | .error .zeroDivision => throw (.failure (.error .zeroDivision))
  | .error (.fault cause) => throw (.failure (.error (.fault cause)))

/-- An error of the program. -/
def OperatorM.fail {α : Type} (cause : EvalError) : OperatorM α :=
  throw (.failure (.error cause))

/-- The text of an integer in an error. -/
def OperatorM.intText (i : Int) : OperatorM String :=
  match Number.intText i with
  | .ok text => return text
  | .error fault => OperatorM.fail (.fault fault)

def numeric (op : Numeric → Numeric → Except NumTrouble Numeric) (a b : Value) : OperatorM Value :=
  match a.toNum?, b.toNum? with
  | some a, some b => .ofNum (op a b)
  | _, _ => throw .mismatch

/-- The sum of two values; texts and lists are joined. -/
def addValues (a b : Value) : OperatorM Value := do
  match a, b with
  | .str a, .str b => return .str (a ++ b)
  | .list a, .list b =>
    let s := (← get).store
    ExceptT.adapt .failure (Run.newList (s.list a ++ s.list b))
  | a, b => numeric Numeric.add a b

/-- The length of a text or list. -/
def sequenceLength? (s : Store) : Value → Option Nat
  | .str text => some text.length
  | .list ref => some (s.list ref).size
  | _ => Option.none

/-- A text or list repeated; fewer than zero times is zero times. -/
def repeatValue (value : Value) (count : Nat) : OperatorM Value := do
  match value with
  | .str text => return .str (String.ofList (List.replicate count text.toList).flatten)
  | .list ref =>
    let elements := (← get).store.list ref
    let all := (List.replicate count elements.toList).flatten.toArray
    ExceptT.adapt .failure (Run.newList all)
  | _ => throw .mismatch

/-- The product of two values; a text or list is repeated by an integer on either side. -/
def multiplyValues (a b : Value) : OperatorM Value := do
  let s := (← get).store
  let (sequence, count) := if (sequenceLength? s a).isSome then (a, b) else (b, a)
  match sequenceLength? s sequence, count.asInt? with
  | some length, some count =>
    if Int.ofNat length * count > sequenceLimit then
      OperatorM.fail (.repetitionLimit sequenceLimit)
    else if !fitsWord count then
      OperatorM.fail (.fault (.overflow .index))
    else repeatValue sequence count.toNat
  | _, _ => numeric Numeric.mul a b

/-- The remainder of two numbers, or a format filled in. -/
def remainderValues (a b : Value) : OperatorM Value := do
  match a with
  | .str format =>
    match percent (← get).store format b with
    | .ok text => return .str text
    | .error .mismatch => throw .mismatch
    | .error (.format (.fault cause)) => OperatorM.fail (.fault cause)
    | .error (.format cause) => OperatorM.fail (.format cause)
    -- A missing key is no error of the operator.
    | .error (.failure (.fault (.missingKey key))) => throw (.failure (.fault (.missingKey key)))
    | .error (.failure (.fault cause)) => OperatorM.fail (.fault cause)
    | .error (.failure failure) => throw (.failure failure)
  | a => numeric Numeric.mod a b

/-- A power; the exponent of an integer is bounded. -/
def powerValues (a b : Value) : OperatorM Value := do
  match a.asInt?, b.asInt? with
  | some x, some y =>
    if y.natAbs > exponentLimit && x.natAbs > 1 then
      OperatorM.fail (.exponentLimit (← OperatorM.intText y))
    else numeric Numeric.pow a b
  | _, _ => numeric Numeric.pow a b

/-- An operation on the bits of two integers; truth values stay truth values. -/
def bitwise (onBool : Bool → Bool → Bool) (onInt : Int → Int → Int) (a b : Value) :
    OperatorM Value :=
  match a, b with
  | .bool a, .bool b => return .bool (onBool a b)
  | a, b =>
    match a.asInt?, b.asInt? with
    | some a, some b => return .int (onInt a b)
    | _, _ => throw .mismatch

/-- The bits of an integer combined with those of another, as infinite two's complements.  A
negative integer is the complement of a natural number. -/
def combineBits (op : Bool → Bool → Bool) (a b : Int) : Int :=
  let flipA := a < 0
  let flipB := b < 0
  let x := (if flipA then -a - 1 else a).toNat
  let y := (if flipB then -b - 1 else b).toNat
  let flip := op flipA flipB
  let bits := Nat.bitwise (fun p q => op (p != flipA) (q != flipB) != flip) x y
  if flip then -Int.ofNat bits - 1 else Int.ofNat bits

/-- The union of two dictionaries, or the bits that either integer has. -/
def uniteValues (a b : Value) : OperatorM Value := do
  match a, b with
  | .dict a, .dict b =>
    let s := (← get).store
    ExceptT.adapt .failure (Run.newDict ((s.dict a).insertMany (s.dict b).entries))
  | a, b => bitwise (· || ·) (combineBits (· || ·)) a b

def shiftLeftValues (a b : Value) : OperatorM Value := do
  match a.asInt?, b.asInt? with
  | _, some count =>
    if count > exponentLimit then OperatorM.fail (.shiftLimit (← OperatorM.intText count))
    else
      match a.asInt? with
      | some a =>
        if count < 0 then OperatorM.fail (.fault .negativeShift)
        else return .int (a * Int.ofNat (twoTo count.toNat))
      | none => throw .mismatch
  | _, none => throw .mismatch

def shiftRightValues (a b : Value) : OperatorM Value := do
  match a.asInt?, b.asInt? with
  | some a, some count =>
    if count < 0 then OperatorM.fail (.fault .negativeShift)
    -- So many bits shift out everything.
    else if count > Int.ofNat (a.natAbs.log2 + 1) then return .int (if a < 0 then -1 else 0)
    else return .int (Int.fdiv a (Int.ofNat (twoTo count.toNat)))
  | _, _ => throw .mismatch

/-- What an operator does; the operands are no functions. -/
def BinaryOp.run : BinaryOp → Value → Value → OperatorM Value
  | .add => addValues
  | .sub => numeric Numeric.sub
  | .mul => multiplyValues
  | .div => numeric Numeric.div
  | .floorDiv => numeric Numeric.floorDiv
  | .mod => remainderValues
  | .pow => powerValues
  | .bitAnd => bitwise (· && ·) (combineBits (· && ·))
  | .bitOr => uniteValues
  | .bitXor => bitwise (· != ·) (combineBits (· != ·))
  | .shiftLeft => shiftLeftValues
  | .shiftRight => shiftRightValues
  | .matMul => fun _ _ => OperatorM.fail (.operator BinaryOp.matMul.symbol)

def Value.isFunction : Value → Bool
  | .function _ => true
  | _ => false

/-- The error of operands that do not fit an operator. -/
def operandError (op : BinaryOp) (a b : Value) : Run Value := do
  match op, a with
  | .add, .str _ => Run.fail (.concatenation (← Run.ofExcept b.typeName))
  | _, _ =>
    let left ← Run.ofExcept a.typeName
    Run.fail (.operands op.symbol left (← Run.ofExcept b.typeName))

def BinaryOp.apply (op : BinaryOp) (a b : Value) : Run Value := do
  if op == .matMul then Run.fail (.operator op.symbol)
  if a.isFunction || b.isFunction then operandError op a b
  else
    let result ← (op.run a b).run
    match result with
    | .ok value => return value
    | .error .mismatch => operandError op a b
    | .error (.failure failure) => throw failure

def UnaryOp.run : UnaryOp → Value → OperatorM Value
  | .neg, .complex re im => return .complex (-re) (-im)
  | .pos, .complex re im => return .complex re im
  | .pos, .nan mark => return .nan mark
  | op, value =>
    match op, value.toNum? with
    | .neg, some (.int i) => return .int (-i)
    | .neg, some (.float x) => .ofNum (.ok (.float (-x)))
    | .pos, some number => .ofNum (.ok number)
    | .invert, some (.int i) => return .int (-i - 1)
    | _, _ => throw .mismatch

def UnaryOp.apply (op : UnaryOp) (value : Value) : Run Value := do
  let result ← (op.run value).run
  match result with
  | .ok value => return value
  | .error .mismatch => Run.fail (.operand op.symbol (← Run.ofExcept value.typeName))
  | .error (.failure failure) => throw failure

def applyBinary (symbol : String) (a b : Value) : Run Value :=
  match BinaryOp.ofSymbol? symbol with
  | some op => op.apply a b
  | none => Run.fail (.operator symbol)

def applyUnary (symbol : String) (value : Value) : Run Value := do
  if symbol == "not" then return .bool !(value.isTruthy (← Run.store))
  match UnaryOp.ofSymbol? symbol with
  | some op => op.apply value
  | none => Run.fail (.operator symbol)

end Walkthrough
