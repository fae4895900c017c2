import Walkthrough.Fault
import Walkthrough.Number.Complex

/-!
# Arithmetic

Numbers of three kinds: integers of any size, floats, and complex numbers.  Two numbers of different
kinds meet at the wider one.  Integers stay exact; their quotient is the nearest float.
-/

namespace Walkthrough.Number

inductive Numeric where
  | int (value : Int)
  | float (value : Float)
  | complex (value : Complex)

/-- Why an operation on numbers has no result. -/
inductive NumTrouble where
  /-- The numbers do not have such an operation. -/
  | unsupported
  | zeroDivision
  | fault (cause : Fault)

def intToFloat (i : Int) : Except NumTrouble Float :=
  match nearestInt? i with
  | some x => .ok x
  | none => .error (.fault (.overflow .intToFloat))

/-- Two numbers brought to one kind. -/
inductive NumPair where
  | ints (a b : Int)
  | floats (a b : Float)
  | complexes (a b : Complex)

def Numeric.toComplex : Numeric → Except NumTrouble Complex
  | .int i => do return .ofFloat (← intToFloat i)
  | .float x => .ok (.ofFloat x)
  | .complex z => .ok z

/-- Two numbers at the wider of their kinds. -/
def Numeric.meet : Numeric → Numeric → Except NumTrouble NumPair
  | .int a, .int b => .ok (.ints a b)
  | .float a, .float b => .ok (.floats a b)
  | .int a, .float b => do return .floats (← intToFloat a) b
  | .float a, .int b => do return .floats a (← intToFloat b)
  | a, b => do return .complexes (← a.toComplex) (← b.toComplex)

def Numeric.add (a b : Numeric) : Except NumTrouble Numeric := do
  match ← a.meet b with
  | .ints a b => return .int (a + b)
  | .floats a b => return .float (a + b)
  | .complexes a b => return .complex (a.add b)

def Numeric.sub (a b : Numeric) : Except NumTrouble Numeric := do
  match ← a.meet b with
  | .ints a b => return .int (a - b)
  | .floats a b => return .float (a - b)
  | .complexes a b => return .complex (a.sub b)

def Numeric.mul (a b : Numeric) : Except NumTrouble Numeric := do
  match ← a.meet b with
  | .ints a b => return .int (a * b)
  | .floats a b => return .float (a * b)
  | .complexes a b => return .complex (a.mul b)

/-- The float nearest to the quotient of two integers. -/
def divideInts (a b : Int) : Except NumTrouble Float :=
  if b == 0 then .error .zeroDivision
  else
    match nearest? ((a < 0) != (b < 0)) a.natAbs b.natAbs with
    | some x => .ok x
    | none => .error (.fault (.overflow .division))

def Numeric.div (a b : Numeric) : Except NumTrouble Numeric := do
  match ← a.meet b with
  | .ints a b => return .float (← divideInts a b)
  | .floats a b => if b == 0 then throw .zeroDivision else return .float (a / b)
  | .complexes a b =>
    match a.div? b with
    | some z => return .complex z
    | none => throw .zeroDivision

/-- The remainder of two floats with the sign of the divisor. -/
def floatMod (x y : Float) : Float :=
  let rest := remainder x y
  if rest == 0 then copySign 0 y
  else if (y < 0) != (rest < 0) then rest + y
  else rest

/-- The whole quotient of two floats, rounded down. -/
def floatFloorDiv (x y : Float) : Float :=
  let rest := remainder x y
  let quotient := (x - rest) / y
  let quotient := if rest != 0 && (y < 0) != (rest < 0) then quotient - 1 else quotient
  if quotient == 0 then copySign 0 (x / y)
  else
    -- The quotient may miss a whole number by a little.
    let floor := quotient.floor
    if quotient - floor > 0.5 then floor + 1 else floor

def Numeric.floorDiv (a b : Numeric) : Except NumTrouble Numeric := do
  match ← a.meet b with
  | .ints a b => if b == 0 then throw .zeroDivision else return .int (Int.fdiv a b)
  | .floats a b => if b == 0 then throw .zeroDivision else return .float (floatFloorDiv a b)
  | .complexes .. => throw .unsupported

def Numeric.mod (a b : Numeric) : Except NumTrouble Numeric := do
  match ← a.meet b with
  | .ints a b => if b == 0 then throw .zeroDivision else return .int (Int.fmod a b)
  | .floats a b => if b == 0 then throw .zeroDivision else return .float (floatMod a b)
  | .complexes .. => throw .unsupported

/-- Whether a float is an odd whole number. -/
def isOdd (x : Float) : Bool :=
  match exactInt? x with
  | some i => i % 2 == 1
  | none => false

def complexPow (a b : Complex) : Except NumTrouble Numeric :=
  match a.pow b with
  | .ok z => .ok (.complex z)
  | .error .zeroBase => .error .zeroDivision
  | .error .overflow => .error (.fault (.overflow .complexPower))

/-- A power of floats.  A negative number has a fractional power among the complex numbers. -/
def floatPow (x y : Float) : Except NumTrouble Numeric :=
  if y == 0 then .ok (.float 1)
  else if x.isNaN then .ok (.float x)
  else if y.isNaN then .ok (.float (if x == 1 then 1 else y))
  else if y.isInf then
    let x := x.abs
    if x == 1 then .ok (.float 1)
    else if (y > 0) == (x > 1) then .ok (.float y.abs)
    else .ok (.float 0)
  else if x.isInf then
    if y > 0 then .ok (.float (if isOdd y then x else x.abs))
    else .ok (.float (if isOdd y then copySign 0 x else 0))
  else if x == 0 then
    if y < 0 then .error .zeroDivision else .ok (.float (if isOdd y then x else 0))
  else if x < 0 && y != y.floor then complexPow (.ofFloat x) (.ofFloat y)
  else
    let magnitude := if x.abs == 1 then 1 else x.abs ^ y
    if magnitude.isInf then .error (.fault (.overflow .power))
    else .ok (.float (if x < 0 && isOdd y then -magnitude else magnitude))

def Numeric.pow (a b : Numeric) : Except NumTrouble Numeric := do
  match ← a.meet b with
  | .ints a b =>
    if b < 0 then floatPow (← intToFloat a) (← intToFloat b)
    else if a == 1 || a == 0 || a == -1 then
      -- The exponent may be of any size.
      return .int (if b == 0 then 1 else if a == -1 && b % 2 == 0 then 1 else a)
    else return .int (Int.pow a b.toNat)
  | .floats a b => floatPow a b
  | .complexes a b => complexPow a b

end Walkthrough.Number
