/-!
# Faults

What goes wrong in the arithmetic and the text conversions below the evaluator.  Most places turn a
fault into an ordinary evaluation error; where one does not, the fault ends the whole run.
-/

namespace Walkthrough

/-- Why a value does not fit its destination. -/
inductive Overflow where
  /-- A length, count or position beyond the machine size. -/
  | size
  /-- A repetition count beyond the machine size. -/
  | index
  /-- A character code beyond the machine word. -/
  | word
  /-- A precision beyond the half word. -/
  | halfWord
  /-- A character code that belongs to no character. -/
  | character
  | intToFloat
  | infinityToInt
  | division
  | power
  | complexPower
  | rounding
deriving DecidableEq, Repr

def Overflow.message : Overflow → String
  | .size => "Python int too large to convert to C ssize_t"
  | .index => "cannot fit 'int' into an index-sized integer"
  | .word => "Python int too large to convert to C long"
  | .halfWord => "Python int too large to convert to C int"
  | .character => "%c arg not in range(0x110000)"
  | .intToFloat => "int too large to convert to float"
  | .infinityToInt => "cannot convert float infinity to integer"
  | .division => "integer division result too large for a float"
  | .power => "(34, 'Numerical result out of range')"
  | .complexPower => "complex exponentiation"
  | .rounding => "rounded value too large to represent"

/-- The integers of a machine word lie from minus this one to below it. -/
def wordBound : Int := 0x8000000000000000

def fitsWord (i : Int) : Bool :=
  -wordBound ≤ i && i < wordBound

/-- A failure below the evaluator. -/
inductive Fault where
  | overflow (cause : Overflow)
  /-- An integer has too many digits to be written. -/
  | integerText
  | negativeShift
  | nanToInt
  /-- A format names a key that is missing; the key is given as it is shown. -/
  | missingKey (shown : String)
  /-- A value of this type cannot be exported. -/
  | unserializable (typeName : String)
  /-- A conditional expression has more than its three parts. -/
  | crowdedConditional
deriving DecidableEq, Repr

def Fault.message : Fault → String
  | .overflow cause => cause.message
  | .integerText =>
    "Exceeds the limit (4300 digits) for integer string conversion; " ++
      "use sys.set_int_max_str_digits() to increase the limit"
  | .negativeShift => "negative shift count"
  | .nanToInt => "cannot convert float NaN to integer"
  | .missingKey shown => shown
  | .unserializable typeName => s!"Object of type {typeName} is not JSON serializable"
  | .crowdedConditional => "too many values to unpack (expected 3)"

end Walkthrough
