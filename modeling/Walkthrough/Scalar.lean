import Walkthrough.Number.Writing
import Walkthrough.Text.Quoted

/-!
# Scalars

The values without parts: nothing, truth values, numbers and texts.  Two scalars that compare equal
have the same normal form, whatever their kinds, so that `1`, `1.0` and true are one key of a
dictionary.
-/

namespace Walkthrough

open Number Text

inductive Scalar where
  | none
  | bool (value : Bool)
  | int (value : Int)
  /-- A float that is a number. -/
  | float (value : Float)
  /-- A float that is not a number.  It differs from everything by comparison, but a container finds
  the very same one again, so each one bears a mark. -/
  | nan (mark : Nat)
  | str (value : String)
deriving DecidableEq, Inhabited

/-- One scalar for all that compare equal to it: truth values and whole floats become integers. -/
def Scalar.normal : Scalar → Scalar
  | .bool value => .int (if value then 1 else 0)
  | .float value =>
    match exactInt? value with
    | some whole => .int whole
    | Option.none => .float value
  | other => other

/-- Whether a container takes two scalars for the same one. -/
def Scalar.same (a b : Scalar) : Bool :=
  a.normal == b.normal

def Scalar.isNan : Scalar → Bool
  | .nan _ => true
  | _ => false

def Scalar.equal (a b : Scalar) : Bool :=
  a.same b && !a.isNan

def Scalar.typeName : Scalar → String
  | .none => "NoneType"
  | .bool _ => "bool"
  | .int _ => "int"
  | .float _ | .nan _ => "float"
  | .str _ => "str"

/-- A scalar as it is written in a program. -/
def Scalar.show : Scalar → Except Fault String
  | .none => .ok "None"
  | .bool true => .ok "True"
  | .bool false => .ok "False"
  | .int value => intText value
  | .float value => .ok (floatText value)
  | .nan _ => .ok "nan"
  | .str value => .ok (quoted value)

def Scalar.isTruthy : Scalar → Bool
  | .none => false
  | .bool value => value
  | .int value => value != 0
  | .float value => value != 0
  | .nan _ => true
  | .str value => !value.isEmpty

end Walkthrough
