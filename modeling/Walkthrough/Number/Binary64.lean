/-!
# Binary floating point numbers, exactly

A finite number of the 64-bit binary format is a sign and a product `m * 2 ^ e`.  This module takes
numbers apart into that form and finds the number nearest to a ratio of integers, ties to the even
one.  All arithmetic is on integers, so nothing is rounded twice.
-/

namespace Walkthrough.Number

/-- The integer nearest to `num / den`; of two equally near ones, the even one. -/
def roundDiv (num den : Nat) : Nat :=
  let quotient := num / den
  let remainder := num % den
  if 2 * remainder > den || (2 * remainder == den && quotient % 2 == 1) then quotient + 1
  else quotient

def twoTo (power : Nat) : Nat := Nat.pow 2 power

def tenTo (power : Nat) : Nat := Nat.pow 10 power

/-- The leading bit of a mantissa, which is not stored. -/
def hiddenBit : Nat := 0x10000000000000

def signBit : Nat := 0x8000000000000000

/-- A finite number as `m * 2 ^ e` with its sign. -/
structure Dyadic where
  negative : Bool
  mantissa : Nat
  exponent : Int
deriving DecidableEq, Repr

/-- The exponent of the smallest positive number. -/
def leastExponent : Int := -1074

/-- The parts of a number, unless it is infinite or no number. -/
def Dyadic.ofFloat? (x : Float) : Option Dyadic :=
  let bits := x.toBits.toNat
  let fraction : Nat := bits % hiddenBit
  let field : Nat := bits / hiddenBit % 2048
  let negative := bits / signBit == 1
  if field == 2047 then none
  else if field == 0 then some ⟨negative, fraction, leastExponent⟩
  else some ⟨negative, fraction + hiddenBit, leastExponent + Int.ofNat (field - 1)⟩

/-- The magnitude as a ratio of integers. -/
def Dyadic.ratio (d : Dyadic) : Nat × Nat :=
  (d.mantissa * twoTo d.exponent.toNat, twoTo (-d.exponent).toNat)

/-- The exponent `e` with `2 ^ e ≤ num / den < 2 ^ (e + 1)`, for positive arguments. -/
def binaryExponent (num den : Nat) : Int :=
  let guess : Int := num.log2 - den.log2
  -- The guess is right or one too large.
  if num * twoTo (-guess).toNat < den * twoTo guess.toNat then guess - 1 else guess

/-- The bits of the number nearest to `num / den`, or `none` if that is beyond the largest
number. -/
def nearestBits? (num den : Nat) : Option Nat :=
  if num == 0 then some 0
  else
    let unit := max (binaryExponent num den - 52) leastExponent
    let mantissa := roundDiv (num * twoTo (-unit).toNat) (den * twoTo unit.toNat)
    let bits := (unit - leastExponent).toNat * hiddenBit + mantissa
    if bits < 2047 * hiddenBit then some bits else none

/-- The number nearest to a ratio with the given sign, or `none` if that is beyond the largest
number. -/
def nearest? (negative : Bool) (num den : Nat) : Option Float :=
  (nearestBits? num den).map fun bits =>
    Float.ofBits (UInt64.ofNat (if negative then bits + signBit else bits))

/-- The number nearest to an integer, or `none` if that is beyond the largest number. -/
def nearestInt? (i : Int) : Option Float :=
  nearest? (i < 0) i.natAbs 1

def isNegative (x : Float) : Bool :=
  x.toBits.toNat / signBit == 1

/-- `x` with the sign of `sign`. -/
def copySign (x sign : Float) : Float :=
  if isNegative sign then -x.abs else x.abs

def infinity (negative : Bool) : Float :=
  if negative then -1.0 / 0.0 else 1.0 / 0.0

/-- The integer that a number has as value, if it has one. -/
def exactInt? (x : Float) : Option Int :=
  match Dyadic.ofFloat? x with
  | none => none
  | some d =>
    let (num, den) := d.ratio
    if num % den == 0 then
      let magnitude : Int := Int.ofNat (num / den)
      some (if d.negative then -magnitude else magnitude)
    else none

/-- The integer part of a number, if it is finite. -/
def truncate? (x : Float) : Option Int :=
  (Dyadic.ofFloat? x).map fun d =>
    let (num, den) := d.ratio
    let magnitude : Int := Int.ofNat (num / den)
    if d.negative then -magnitude else magnitude

/-- The remainder of a division with the quotient cut to an integer; it has the sign of `x`. -/
def remainder (x y : Float) : Float :=
  match Dyadic.ofFloat? x, Dyadic.ofFloat? y with
  | some a, some b =>
    if b.mantissa == 0 then 0.0 / 0.0
    else
      let (an, ad) := a.ratio
      let (bn, bd) := b.ratio
      (nearest? a.negative (an * bd % (bn * ad)) (ad * bd)).getD 0.0
  | some _, none => if y.isNaN then y else x
  | none, _ => 0.0 / 0.0

/-- How a number compares with an integer; `none` if it is no number. -/
def compareInt (x : Float) (i : Int) : Option Ordering :=
  if x.isNaN then none
  else
    match Dyadic.ofFloat? x with
    | none => some (if isNegative x then .lt else .gt)
    | some d =>
      let (num, den) := d.ratio
      let signed : Int := if d.negative then -Int.ofNat num else Int.ofNat num
      some (compare signed (i * Int.ofNat den))

end Walkthrough.Number
