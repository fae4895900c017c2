import Walkthrough.Number.Binary64

/-!
# Decimal digits of a number

The digits of a binary number in base ten: the fewest that read back as the number, or as many as
are asked for.  A decimal is a whole number of digits and the place of its point.
-/

namespace Walkthrough.Number

/-- The decimal `0.d₁d₂… * 10 ^ point` with the digits given as one number. -/
structure Decimal where
  digits : Nat
  point : Int
deriving DecidableEq, Repr

/-- `num / den` scaled by a power of ten, as a ratio. -/
def scale (num den : Nat) (power : Int) : Nat × Nat :=
  (num * tenTo power.toNat, den * tenTo (-power).toNat)

/-- Whether `num / den < 10 ^ power`. -/
def belowPower (num den : Nat) (power : Int) : Bool :=
  let (n, d) := scale num den (-power)
  n < d

/-- The least power of ten above a positive ratio. -/
def decimalPoint (num den : Nat) : Int :=
  let guess := binaryExponent num den * 1233 / 4096
  ((List.range 4).map fun step => guess + Int.ofNat step).find? (belowPower num den ·)
    |>.getD (guess + 4)

/-- The ends of the interval of ratios that round to a number, and whether they belong to it. -/
structure Rounding where
  low : Nat
  high : Nat
  den : Nat
  closed : Bool

/-- The ratios that round to a positive number. -/
def Dyadic.rounding (d : Dyadic) : Rounding :=
  let shift := d.exponent - 2
  let unit := twoTo shift.toNat
  -- Below a power of two the numbers lie twice as dense.
  let below := if d.mantissa == hiddenBit && d.exponent > leastExponent then 1 else 2
  { low := (4 * d.mantissa - below) * unit
    high := (4 * d.mantissa + 2) * unit
    den := twoTo (-shift).toNat
    closed := d.mantissa % 2 == 0 }

/-- Whether `digits * 10 ^ power` rounds to the number. -/
def Rounding.accepts (r : Rounding) (digits : Nat) (power : Int) : Bool :=
  let (n, d) := scale digits 1 power
  if r.closed then r.low * d ≤ n * r.den && n * r.den ≤ r.high * d
  else r.low * d < n * r.den && n * r.den < r.high * d

/-- The decimal of `count` digits nearest to the ratio among those that round to the number. -/
def shortestOf? (r : Rounding) (num den : Nat) (point : Int) (count : Nat) : Option Decimal :=
  let power := point - Int.ofNat count
  let (n, d) := scale num den (-power)
  let below := n / d
  let above := below + 1
  let decimal (digits : Nat) : Decimal :=
    if digits == tenTo count then ⟨1, point + 1⟩ else ⟨digits, point⟩
  match r.accepts below power, r.accepts above power with
  | true, true => some (decimal (if roundDiv n d == below then below else above))
  | true, false => some (decimal below)
  | false, true => some (decimal above)
  | false, false => none

def dropZeros : Nat → Nat → Nat
  | 0, digits => digits
  | fuel + 1, digits => if digits != 0 && digits % 10 == 0 then dropZeros fuel (digits / 10) else digits

/-- The shortest decimal that reads back as a positive number. -/
def Dyadic.shortest (d : Dyadic) : Decimal :=
  let (num, den) := d.ratio
  let point := decimalPoint num den
  let found := ((List.range 17).map (· + 1)).findSome? fun count =>
    shortestOf? d.rounding num den point count
  match found with
  | some decimal => { decimal with digits := dropZeros 17 decimal.digits }
  | none => ⟨num, point⟩

def digitText (digits : Nat) : List Char :=
  Nat.toDigits 10 digits

def zeros (count : Nat) : List Char :=
  List.replicate count '0'

/-- An exponent with its sign and at least two digits. -/
def exponentText (letter : Char) (exponent : Int) : List Char :=
  let digits := digitText exponent.natAbs
  letter :: (if exponent < 0 then '-' else '+') :: zeros (2 - digits.length) ++ digits

/-- A decimal written out around its point, at least one digit on either side. -/
def Decimal.positional (d : Decimal) : List Char :=
  let digits := digitText d.digits
  if d.point ≤ 0 then '0' :: '.' :: zeros (-d.point).toNat ++ digits
  else
    let whole := d.point.toNat
    let padded := digits ++ zeros (whole - digits.length)
    let fraction := padded.drop whole
    padded.take whole ++ '.' :: (if fraction.isEmpty then ['0'] else fraction)

/-- A decimal with one digit before its point and an exponent. -/
def Decimal.scientific (d : Decimal) : List Char :=
  match digitText d.digits with
  | [] => []
  | [digit] => digit :: exponentText 'e' (d.point - 1)
  | digit :: rest => digit :: '.' :: rest ++ exponentText 'e' (d.point - 1)

/-- The shortest text that reads back as the number.  Between a ten-thousandth and ten to the
sixteenth it is written out, beyond that with an exponent. -/
def floatText (x : Float) : String :=
  if x.isNaN then "nan"
  else
    match Dyadic.ofFloat? x with
    | none => if isNegative x then "-inf" else "inf"
    | some d =>
      let body :=
        if d.mantissa == 0 then ['0', '.', '0']
        else
          let decimal := d.shortest
          if -4 < decimal.point && decimal.point ≤ 16 then decimal.positional
          else decimal.scientific
      String.ofList (if d.negative then '-' :: body else body)

end Walkthrough.Number
