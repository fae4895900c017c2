import Walkthrough.Number.Shortest

/-!
# Floats with a chosen number of digits

Fixed, scientific and general layout.  The digits are exact: a float is a ratio of integers, and the
last digit is rounded to the nearest, ties to the even one.
-/

namespace Walkthrough.Number

/-- The digits of a magnitude as characters, and the place of the point before them: zero for
`0.d₁d₂…`. -/
structure Digits where
  digits : List Char
  point : Int
deriving DecidableEq, Repr

/-- The digits of a number with the power of ten of the last one; zeros at the end are dropped. -/
def Digits.ofNat (number : Nat) (power : Int) : Digits :=
  if number == 0 then ⟨[], power⟩
  else
    let digits := digitText number
    let point := power + Int.ofNat digits.length
    ⟨(digits.reverse.dropWhile (· == '0')).reverse, point⟩

/-- A positive ratio rounded to `places` places behind the point. -/
def roundPlaces (num den places : Nat) : Digits :=
  Digits.ofNat (roundDiv (num * tenTo places) den) (-Int.ofNat places)

/-- A positive ratio rounded to `count` digits. -/
def roundDigits (num den count : Nat) : Digits :=
  let power := decimalPoint num den - Int.ofNat count
  let (n, d) := scale num den (-power)
  Digits.ofNat (roundDiv n d) power

/-- The digit at a place counted from the first digit; beyond the digits there are zeros. -/
def Digits.at (d : Digits) (place : Int) : Char :=
  if place < 0 then '0' else (d.digits[place.toNat]?).getD '0'

def Digits.between (d : Digits) (first last : Int) : List Char :=
  (List.range (last - first).toNat).map fun step => d.at (first + Int.ofNat step)

/-- The digits up to the place `last` with a point at `point`.  A point with nothing behind it is
left out unless it is wanted. -/
def Digits.write (d : Digits) (point last : Int) (keepPoint : Bool) : List Char :=
  let whole := d.between (if point ≤ 0 then point - 1 else 0) point
  let fraction := d.between point last
  whole ++ if fraction.isEmpty && !keepPoint then [] else '.' :: fraction

inductive FloatStyle where
  | fixed
  | scientific
  | general
  | shortest
deriving DecidableEq, Repr

/-- How a float is laid out: the number of digits, whether a point and zeros at the end are kept,
and whether a whole number ends in a point and a zero. -/
structure FloatLayout where
  style : FloatStyle
  precision : Nat
  keepPoint : Bool
  wholeAsFraction : Bool

/-- The digits of a magnitude that a layout shows. -/
def FloatLayout.digits (layout : FloatLayout) (d : Dyadic) : Digits :=
  let (num, den) := d.ratio
  if num == 0 then ⟨['0'], 1⟩
  else
    match layout.style with
    | .fixed => roundPlaces num den layout.precision
    | .scientific => roundDigits num den (layout.precision + 1)
    | .general => roundDigits num den (max layout.precision 1)
    | .shortest =>
      let decimal := d.shortest
      ⟨digitText decimal.digits, decimal.point⟩

/-- The text of a magnitude. -/
def FloatLayout.write (layout : FloatLayout) (d : Dyadic) : List Char :=
  let digits := layout.digits d
  let count := Int.ofNat digits.digits.length
  let precision := Int.ofNat (max layout.precision 1)
  let exponential :=
    match layout.style with
    | .fixed => false
    | .scientific => true
    | .general =>
      digits.point ≤ -4 || digits.point > precision - (if layout.wholeAsFraction then 1 else 0)
    | .shortest => digits.point ≤ -4 || digits.point > 16
  let last :=
    match layout.style with
    | .fixed => digits.point + Int.ofNat layout.precision
    | .scientific => Int.ofNat layout.precision + 1
    | .general => if layout.keepPoint then precision else count
    | .shortest => count
  if exponential then
    digits.write 1 (max last 1) layout.keepPoint ++ exponentText 'e' (digits.point - 1)
  else
    let least := if layout.wholeAsFraction then digits.point + 1 else digits.point
    digits.write digits.point (max last least) layout.keepPoint

def FloatLayout.showsZero (layout : FloatLayout) (d : Dyadic) : Bool :=
  (layout.digits d).digits.all (· == '0')

/-- Whether a float has a minus sign, and the text of its magnitude. -/
def FloatLayout.apply (layout : FloatLayout) (dropZeroSign : Bool) (x : Float) :
    Bool × List Char :=
  if x.isNaN then (false, "nan".toList)
  else
    match Dyadic.ofFloat? x with
    | none => (isNegative x, "inf".toList)
    | some d => (d.negative && !(dropZeroSign && layout.showsZero d), layout.write d)

end Walkthrough.Number
