import Walkthrough.Fault
import Walkthrough.Number.Reading

/-!
# Writing integers
-/

namespace Walkthrough.Number

/-- The decimal digits of an integer with its sign. -/
def intDigits (i : Int) : List Char :=
  let digits := Nat.toDigits 10 i.natAbs
  if i < 0 then '-' :: digits else digits

/-- The least magnitude with more decimal digits than may be written. -/
def unwritable : Nat := tenTo digitLimit

/-- The decimal text of an integer, unless it has too many digits. -/
def intText (i : Int) : Except Fault String :=
  if i.natAbs < unwritable then .ok (toString i) else .error .integerText

end Walkthrough.Number
