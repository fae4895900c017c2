import Walkthrough.Format.Spec
import Walkthrough.Number.Layout
import Walkthrough.Number.Writing

/-!
# Formatting numbers

A number is written as a sign, a mark of its base, digits and a remainder; the specification adds
separators between the digits and padding around or inside it.
-/

namespace Walkthrough.Format

open Number

/-- The parts of a written number.  `remainder` is what follows the whole digits, point and exponent
included. -/
structure NumberText where
  negative : Bool
  mark : List Char
  digits : List Char
  remainder : List Char

def Spec.signText (sign : Option Sign) (negative : Bool) : List Char :=
  if negative then ['-']
  else
    match sign with
    | some .plus => ['+']
    | some .space => [' ']
    | _ => []

/-- Digits in groups from the right, filled up with zeros to a least width.  All lists are
reversed; `fuel` bounds the number of groups. -/
def groupReversed (size : Nat) (separator : Char) : Nat → List Char → Int → List Char
  | 0, digits, _ => digits
  | fuel + 1, digits, least =>
    let length := min (Int.ofNat size) (max (max (Int.ofNat digits.length) least) 1)
    let here := digits.take length.toNat
    let group := here ++ zeros (length.toNat - here.length)
    let digits := digits.drop length.toNat
    let least := least - length
    if digits.isEmpty && least ≤ 0 then group
    else group ++ separator :: groupReversed size separator fuel digits (least - 1)

/-- Digits with separators, filled up with zeros to a least width. -/
def groupDigits (separator : Option Char) (size : Nat) (digits : List Char) (least : Int) :
    List Char :=
  match digits, separator with
  | [], _ => []
  | _, none => zeros (least.toNat - digits.length) ++ digits
  | _, some separator =>
    let fuel := digits.length + least.toNat + 1
    (groupReversed size separator fuel digits.reverse least).reverse

def Spec.number (spec : Spec) (groupSize : Nat) (n : NumberText) : List Char :=
  let sign := Spec.signText spec.sign n.negative
  let fixed := Int.ofNat (sign.length + n.mark.length + n.remainder.length)
  let width : Int := (spec.width.map Int.ofNat).getD (-1)
  let least := if spec.fill == '0' && spec.align == .afterSign then width - fixed else 0
  let digits := groupDigits spec.separator groupSize n.digits least
  let room := (width - (fixed + Int.ofNat digits.length)).toNat
  let inner := if spec.align == .afterSign then List.replicate room spec.fill else []
  let text := sign ++ n.mark ++ inner ++ digits ++ n.remainder
  match spec.align with
  | .left => surround spec.fill 0 room text
  | .right => surround spec.fill room 0 text
  | .center => surround spec.fill (room / 2) (room - room / 2) text
  | .afterSign => text

/-- The layout of a float under a code; `none` if floats have no such code. -/
def floatLayout? (spec : Spec) : Option FloatLayout :=
  let layout (style : FloatStyle) (wholeAsFraction : Bool) : FloatLayout :=
    { style, precision := spec.precision.getD 6, keepPoint := spec.alternate, wholeAsFraction }
  match spec.code with
  | none | some '\x00' =>
    some (layout (if spec.precision.isSome then .general else .shortest) true)
  | some 'e' | some 'E' => some (layout .scientific false)
  | some 'f' | some 'F' | some '%' => some (layout .fixed false)
  | some 'g' | some 'G' | some 'n' => some (layout .general false)
  | some _ => none

def isUpper (code : Option Char) : Bool :=
  match code with
  | some code => "EFGX".toList.contains code
  | none => false

/-- Characters in capitals if a code asks for them. -/
def recase (code : Option Char) (text : List Char) : List Char :=
  if isUpper code then text.map Char.toUpper else text

def precisionLimit : Nat := 0x7fffffff

/-- Cuts a written float into its whole digits and the rest. -/
def NumberText.ofFloat (layout : FloatLayout) (spec : Spec) (x : Float) : NumberText :=
  let (negative, text) := layout.apply spec.noNegativeZero x
  let text := recase spec.code text
  { negative, mark := [], digits := text.takeWhile Char.isDigit
    remainder := text.dropWhile Char.isDigit }

/-- A float of the given type under a specification that has been read. -/
def floatField (spec : Spec) (type : String) (x : Float) : Except FormatError (List Char) := do
  let some layout := floatLayout? spec | throw (.unknownCode (spec.code.getD '\x00') type)
  if layout.precision > precisionLimit then throw .precisionTooBig
  let percent := spec.code == some '%'
  let text := NumberText.ofFloat layout spec (if percent then x * 100 else x)
  let text := if percent then { text with remainder := text.remainder ++ ['%'] } else text
  return spec.number 3 text

/-- The magnitude of an integer in a base. -/
def magnitude (base : Nat) (i : Int) : Except FormatError (List Char) :=
  if base == 10 && i.natAbs ≥ unwritable then .error (.fault .integerText)
  else .ok (Nat.toDigits base i.natAbs)

def characterOf (i : Int) : Except FormatError Char :=
  if !fitsWord i then .error (.fault (.overflow .word))
  else if i < 0 || i ≥ 0x110000 then .error (.fault (.overflow .character))
  else .ok (Char.ofNat i.toNat)

/-- An integer in a base. -/
def integerField (spec : Spec) (base : Nat) (mark : String) (i : Int) :
    Except FormatError (List Char) := do
  let digits ← magnitude base i
  let mark := if spec.alternate then mark.toList else []
  let groupSize := if base == 10 then 3 else 4
  return spec.number groupSize
    { negative := i < 0, mark := recase spec.code mark, digits := recase spec.code digits
      remainder := [] }

def characterField (spec : Spec) (i : Int) : Except FormatError (List Char) := do
  if spec.sign.isSome then throw (.notAllowed .sign .character)
  if spec.alternate then throw (.notAllowed .alternate .character)
  let c ← characterOf i
  return spec.number 3 { negative := false, mark := [], digits := [], remainder := [c] }

def formatInt (type text : String) (i : Int) : Except FormatError String := do
  let spec ← Spec.read true type (some 'd') text
  let code := spec.code.getD 'd'
  if "bcdoxXn".toList.contains code then
    if spec.precision.isSome then throw (.notAllowed .precision .integer)
    if spec.noNegativeZero then throw (.notAllowed .negativeZero .integer)
  String.ofList <$> match code with
    | 'b' => integerField spec 2 "0b" i
    | 'c' => characterField spec i
    | 'd' | 'n' => integerField spec 10 "" i
    | 'o' => integerField spec 8 "0o" i
    | 'x' | 'X' => integerField spec 16 "0x" i
    | code =>
      if "eEfFgG%".toList.contains code then
        match nearestInt? i with
        | some x => floatField spec type x
        | none => throw (.fault (.overflow .intToFloat))
      else throw (.unknownCode code type)

def formatFloat (text : String) (x : Float) : Except FormatError String := do
  let spec ← Spec.read true "float" none text
  return String.ofList (← floatField spec "float" x)

/-- A complex number under a specification: both parts, the second with its sign, and without a code
in parentheses, as it is written. -/
def formatComplex (text : String) (re im : Float) : Except FormatError String := do
  let spec ← Spec.read true "complex" none text
  let some layout := if spec.code == some '%' then none else floatLayout? spec
    | throw (.unknownCode (spec.code.getD '\x00') "complex")
  if layout.precision > precisionLimit then throw .precisionTooBig
  if spec.fill == '0' then throw (.notAllowed .zeroPadding .complex)
  if spec.align == .afterSign then throw (.notAllowed .afterSign .complex)
  let layout := { layout with wholeAsFraction := false }
  let plain := spec.code.isNone || spec.code == some '\x00'
  let onlyImaginary := plain && re == 0 && !isNegative re
  let inner := { spec with width := none, align := .left }
  let reText := if onlyImaginary then [] else inner.number 3 (NumberText.ofFloat layout spec re)
  let imSpec := if onlyImaginary then inner else { inner with sign := some .plus }
  let imText := imSpec.number 3 (NumberText.ofFloat layout spec im)
  let both := reText ++ imText ++ ['j']
  return String.ofList (spec.place (if plain && !onlyImaginary then '(' :: both ++ [')'] else both))

def complexText (re im : Float) : String :=
  ((formatComplex "" re im).toOption).getD ""

def formatText (text value : String) : Except FormatError String := do
  let spec ← Spec.read false "str" (some 's') text
  let code := spec.code.getD 's'
  if code != 's' then throw (.unknownCode code "str")
  match spec.sign with
  | some .space => throw (.notAllowed .space .text)
  | some _ => throw (.notAllowed .sign .text)
  | none => pure ()
  if spec.noNegativeZero then throw (.notAllowed .negativeZero .text)
  if spec.alternate then throw (.notAllowed .alternate .text)
  if spec.align == .afterSign then throw (.notAllowed .afterSign .text)
  let chars := value.toList
  let chars := match spec.precision with
    | some count => chars.take count
    | none => chars
  return String.ofList (spec.place chars)

end Walkthrough.Format
