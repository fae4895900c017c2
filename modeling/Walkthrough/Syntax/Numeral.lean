import Walkthrough.Syntax.Cursor

/-!
# Numerals

How far a number reaches in a text.  The rules accept more than can be given a value: a decimal
numeral may end in an underscore or in the letter of an old long integer, and leading zeros are
read; such numerals are rejected later, when their value is asked for.
-/

namespace Walkthrough.Syntax

/-- The length of a run of decimal digits; one underscore may follow each group. -/
def digitRun (afterDigit : Bool) : List Char → Nat
  | [] => 0
  | c :: rest =>
    if c.isDigit then 1 + digitRun true rest
    else if afterDigit && c == '_' then 1 + digitRun false rest
    else 0

/-- The length of a run of digits of another base; one underscore may precede each group. -/
def basedRun (isBaseDigit : Char → Bool) : List Char → Nat
  | [] => 0
  | '_' :: c :: rest => if isBaseDigit c then 2 + basedRun isBaseDigit rest else 0
  | c :: rest => if isBaseDigit c then 1 + basedRun isBaseDigit rest else 0

def isHexDigit (c : Char) : Bool :=
  c.isDigit || ('a' ≤ c && c ≤ 'f') || ('A' ≤ c && c ≤ 'F')

/-- One if the text begins with one of the given letters, else zero. -/
def suffixLength (letters : List Char) : List Char → Nat
  | c :: _ => if letters.contains c then 1 else 0
  | [] => 0

/-- The length of an integer with a base prefix, zero if there is none. -/
def basedLength : List Char → Nat
  | '0' :: letter :: digits =>
    let run :=
      if letter == 'x' || letter == 'X' then basedRun isHexDigit digits
      else if letter == 'o' || letter == 'O' then
        basedRun (fun c => '0' ≤ c && c ≤ '7') digits
      else if letter == 'b' || letter == 'B' then basedRun (fun c => c == '0' || c == '1') digits
      else 0
    if run == 0 then 0 else 2 + run + suffixLength ['L', 'l'] (digits.drop run)
  | _ => 0

/-- The length of a decimal integer with its suffix, zero if there is none. -/
def decimalLength (text : List Char) : Nat :=
  let run := digitRun false text
  if run == 0 then 0 else run + suffixLength ['L', 'l', 'j', 'J'] (text.drop run)

/-- The length of an exponent, zero if there is none. -/
def exponentLength : List Char → Nat
  | letter :: rest =>
    if letter == 'e' || letter == 'E' then
      let sign := suffixLength ['+', '-'] rest
      let run := digitRun false (rest.drop sign)
      if run == 0 then 0 else 1 + sign + run
    else 0
  | [] => 0

/-- The length of a number with a point or an exponent, zero if there is none. -/
def floatLength (text : List Char) : Nat :=
  let whole := digitRun false text
  let mantissa :=
    match text.drop whole with
    | '.' :: rest =>
      let fraction := digitRun false rest
      if whole == 0 && fraction == 0 then 0 else whole + 1 + fraction
    | _ => 0
  let body :=
    if mantissa == 0 then
      let exponent := exponentLength (text.drop whole)
      if whole == 0 || exponent == 0 then 0 else whole + exponent
    else mantissa + exponentLength (text.drop mantissa)
  if body == 0 then 0 else body + suffixLength ['j', 'J'] (text.drop body)

/-- A number read from a text. -/
inductive Numeral where
  | integer (length : Nat)
  | float (length : Nat)

/-- The longest number at the beginning of a text. -/
def numeral? (text : List Char) : Option Numeral :=
  let integer := max (basedLength text) (decimalLength text)
  let float := floatLength text
  if float > integer then some (.float float)
  else if integer > 0 then some (.integer integer)
  else none

end Walkthrough.Syntax
