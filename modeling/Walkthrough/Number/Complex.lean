import Walkthrough.Number.Binary64

/-!
# Complex numbers

Arithmetic on pairs of floats.  Small whole exponents are reached by repeated multiplication, the
others through the polar form.
-/

namespace Walkthrough.Number

structure Complex where
  re : Float
  im : Float

namespace Complex

def ofFloat (x : Float) : Complex := ⟨x, 0⟩

def add (a b : Complex) : Complex := ⟨a.re + b.re, a.im + b.im⟩

def sub (a b : Complex) : Complex := ⟨a.re - b.re, a.im - b.im⟩

def neg (a : Complex) : Complex := ⟨-a.re, -a.im⟩

def mul (a b : Complex) : Complex :=
  ⟨a.re * b.re - a.im * b.im, a.re * b.im + a.im * b.re⟩

def isZero (a : Complex) : Bool := a.re == 0 && a.im == 0

/-- The quotient, unless the divisor is zero.  The larger part of the divisor is divided out
first. -/
def div? (a b : Complex) : Option Complex :=
  if b.re.abs ≥ b.im.abs then
    if b.re == 0 then none
    else
      let ratio := b.im / b.re
      let denominator := b.re + b.im * ratio
      some ⟨(a.re + a.im * ratio) / denominator, (a.im - a.re * ratio) / denominator⟩
  else if b.im.abs ≥ b.re.abs then
    let ratio := b.re / b.im
    let denominator := b.re * ratio + b.im
    some ⟨(a.re * ratio + a.im) / denominator, (a.im * ratio - a.re) / denominator⟩
  else some ⟨0.0 / 0.0, 0.0 / 0.0⟩

/-- `result * base ^ exponent` by repeated squaring. -/
def powNat : Nat → Complex → Complex → Nat → Complex
  | 0, result, _, _ => result
  | fuel + 1, result, base, exponent =>
    if exponent == 0 then result
    else
      let result := if exponent % 2 == 1 then result.mul base else result
      powNat fuel result (base.mul base) (exponent / 2)

/-- The distance from zero. -/
def abs (a : Complex) : Float :=
  if a.im == 0 then a.re.abs
  else if a.re == 0 then a.im.abs
  else (a.re * a.re + a.im * a.im).sqrt

/-- Why a power does not exist. -/
inductive PowerTrouble where
  | zeroBase
  | overflow

def polarPow (a b : Complex) : Except PowerTrouble Complex :=
  if b.isZero then .ok ⟨1, 0⟩
  else if a.isZero then
    if b.im != 0 || b.re < 0 then .error .zeroBase else .ok ⟨0, 0⟩
  else
    let distance := a.abs
    let angle := Float.atan2 a.im a.re
    let length := distance ^ b.re
    let phase := angle * b.re
    let length := if b.im != 0 then length * (-angle * b.im).exp else length
    let phase := if b.im != 0 then phase + b.im * distance.log else phase
    .ok ⟨length * phase.cos, length * phase.sin⟩

def pow (a b : Complex) : Except PowerTrouble Complex := do
  let result ←
    if b.im == 0 && b.re == b.re.floor && b.re.abs ≤ 100 then
      let count := b.re.abs.toUInt64.toNat
      let power := powNat (count + 1) ⟨1, 0⟩ a count
      if b.re > 0 then pure power
      else
        match Complex.div? ⟨1, 0⟩ power with
        | some inverse => pure inverse
        | none => throw .zeroBase
    else polarPow a b
  if result.re.isInf || result.im.isInf then throw .overflow
  return result

end Complex

end Walkthrough.Number
