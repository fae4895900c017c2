import Walkthrough.Fault
import Walkthrough.Number.Shortest

/-!
# Rounding

Numbers rounded to a decimal place, ties to the even digit.
-/

namespace Walkthrough.Number

/-- The integer nearest to `num / den` with a sign; of two equally near ones, the even one. -/
def roundSigned (negative : Bool) (num den : Nat) : Int :=
  let magnitude := Int.ofNat (roundDiv num den)
  if negative then -magnitude else magnitude

def roundFloat (x : Float) : Except Fault Int :=
  if x.isNaN then .error .nanToInt
  else
    match Dyadic.ofFloat? x with
    | none => .error (.overflow .infinityToInt)
    | some d =>
      let (num, den) := d.ratio
      .ok (roundSigned d.negative num den)

/-- An integer rounded to a multiple of a power of ten. -/
def roundInt (i : Int) (places : Int) : Int :=
  if places ≥ 0 then i
  else
    let unit := tenTo (-places).toNat
    roundSigned (i < 0) i.natAbs unit * Int.ofNat unit

/-- A float rounded to so many places behind the point, or before it if the number is negative. -/
def roundPlacesFloat (x : Float) (places : Int) : Except Fault Float :=
  match Dyadic.ofFloat? x with
  | none => .ok x
  | some d =>
    if places > 323 then .ok x
    else if places < -308 then .ok (0 * x)
    else
      let (num, den) := d.ratio
      let (n, m) := scale num den places
      let (n, m) := scale (roundDiv n m) 1 (-places)
      match nearest? d.negative n m with
      | some rounded => .ok rounded
      | none => .error (.overflow .rounding)

end Walkthrough.Number
