import Walkthrough.Number.Shortest
import Walkthrough.Text.Blank
import Walkthrough.Text.Letter

/-!
# Reading numbers

Integers in any base and decimal numbers as they are given in texts.  Digits of every script count,
white space around the number is skipped, and single underscores may stand between digits.
-/

namespace Walkthrough.Number

open Text

/-- White space around a number. -/
def isMargin (c : Char) : Bool :=
  (0x09 ≤ c.toNat && c.toNat ≤ 0x0d) || c == ' '

/-- A character brought into ASCII: digits and white space of every script become their plain
forms, anything else becomes a question mark. -/
def plainChar (c : Char) : Char :=
  if c.toNat < 127 then c
  else if isBlank c then ' '
  else
    match decimalValue? c with
    | some value => Char.ofNat (0x30 + value)
    | none => '?'

/-- A number text in ASCII and without the white space around it. -/
def plainText (text : List Char) : List Char :=
  dropBothWhile isMargin (text.map plainChar)

/-- The value of a digit or letter as a digit. -/
def digitValue? (c : Char) : Option Nat :=
  if '0' ≤ c && c ≤ '9' then some (c.toNat - '0'.toNat)
  else if 'a' ≤ c && c ≤ 'z' then some (c.toNat - 'a'.toNat + 10)
  else if 'A' ≤ c && c ≤ 'Z' then some (c.toNat - 'A'.toNat + 10)
  else none

/-- How many decimal digits an integer may have to be read or written. -/
def digitLimit : Nat := 4300

/-- Why a text is no integer. -/
inductive IntegerTrouble where
  | malformed
  | tooLong (digits : Nat)
  | badBase
deriving DecidableEq, Repr

/-- The digits of a run in the given base behind the reversed `digits`, and what follows it.  An
underscore must stand between two digits. -/
def digitsOf (base : Nat) (afterDigit : Bool) (digits : List Nat) :
    List Char → Option (List Nat × List Char)
  | [] => if afterDigit then some (digits.reverse, []) else none
  | c :: rest =>
    if c == '_' then
      if afterDigit then digitsOf base false digits rest else none
    else
      match (digitValue? c).filter (· < base) with
      | some digit => digitsOf base true (digit :: digits) rest
      | none => if afterDigit then some (digits.reverse, c :: rest) else none

/-- The number with the given digits, most significant first. -/
def ofDigits (base : Nat) (digits : List Nat) : Nat :=
  digits.foldl (fun value digit => value * base + digit) 0

/-- Whether the length of integers in this base is unlimited. -/
def isBinaryBase (base : Nat) : Bool :=
  [2, 4, 8, 16, 32].contains base

/-- The base that a text announces by its first characters, and whether it may only be zero. -/
def announcedBase : List Char → Nat × Bool
  | '0' :: letter :: _ =>
    if letter == 'x' || letter == 'X' then (16, false)
    else if letter == 'o' || letter == 'O' then (8, false)
    else if letter == 'b' || letter == 'B' then (2, false)
    else (10, true)
  | '0' :: _ => (10, true)
  | _ => (10, false)

/-- A text without the characters that announce its base; one underscore may follow them. -/
def dropAnnouncement (base : Nat) (text : List Char) : List Char :=
  match text with
  | '0' :: letter :: rest =>
    if (base == 16 && (letter == 'x' || letter == 'X')) ||
        (base == 8 && (letter == 'o' || letter == 'O')) ||
        (base == 2 && (letter == 'b' || letter == 'B')) then
      match rest with
      | '_' :: rest => rest
      | _ => rest
    else text
  | _ => text

/-- A text without its sign, and whether that was a minus. -/
def dropSign : List Char → Bool × List Char
  | '-' :: rest => (true, rest)
  | '+' :: rest => (false, rest)
  | text => (false, text)

/-- The integer that a text stands for.  Base zero takes the base from the text. -/
def readInteger (base : Nat) (text : List Char) : Except IntegerTrouble Int := do
  unless base == 0 || (2 ≤ base && base ≤ 36) do throw .badBase
  let (negative, text) := dropSign (plainText text)
  let (actual, onlyZero) := if base == 0 then announcedBase text else (base, false)
  match digitsOf actual false [] (dropAnnouncement actual text) with
  | none => throw .malformed
  | some (digits, rest) =>
    if !isBinaryBase actual && digits.length > digitLimit then throw (.tooLong digits.length)
    unless rest.isEmpty do throw .malformed
    let value := ofDigits actual digits
    if onlyZero && value != 0 then throw .malformed
    return if negative then -Int.ofNat value else Int.ofNat value

/-- Whether every underscore stands between two digits. -/
def underscoresFit (before : Char) : List Char → Bool
  | [] => before != '_'
  | c :: rest =>
    (if c == '_' then before.isDigit else before != '_' || c.isDigit) && underscoresFit c rest

/-- A decimal text taken apart: digits before and after the point, and the exponent. -/
structure Mantissa where
  whole : List Nat
  fraction : List Nat
  exponent : Int

/-- The decimal digits at the beginning of a text, and what follows them. -/
def leadingDigits (text : List Char) : List Nat × List Char :=
  ((text.takeWhile Char.isDigit).map fun c => c.toNat - '0'.toNat, text.dropWhile Char.isDigit)

def readExponent? : List Char → Option Int
  | [] => some 0
  | letter :: rest =>
    if letter == 'e' || letter == 'E' then
      let (negative, rest) := dropSign rest
      match leadingDigits rest with
      | ([], _) => none
      | (digits, []) =>
        let value := Int.ofNat (ofDigits 10 digits)
        some (if negative then -value else value)
      | (_, _ :: _) => none
    else none

def readMantissa? (text : List Char) : Option Mantissa := do
  let (whole, rest) := leadingDigits text
  let (fraction, rest) := match rest with
    | '.' :: rest => leadingDigits rest
    | _ => ([], rest)
  guard !(whole.isEmpty && fraction.isEmpty)
  let exponent ← readExponent? rest
  return { whole, fraction, exponent }

/-- The number nearest to a decimal; beyond the largest number it is infinite. -/
def Mantissa.toFloat (m : Mantissa) (negative : Bool) : Float :=
  let digits := m.whole ++ m.fraction
  let value := ofDigits 10 digits
  let power := m.exponent - Int.ofNat m.fraction.length
  let size := Int.ofNat (digits.dropWhile (· == 0)).length + power
  if value == 0 || size < -400 then copySign 0.0 (if negative then -1.0 else 1.0)
  else if size > 400 then infinity negative
  else
    let (num, den) := scale value 1 power
    (nearest? negative num den).getD (infinity negative)

def readFloat? (text : List Char) : Option Float :=
  let text := plainText text
  if !underscoresFit ' ' text then none
  else
    let (negative, body) := dropSign (text.filter (· != '_'))
    let word := String.ofList (body.map Char.toLower)
    if word == "inf" || word == "infinity" then some (infinity negative)
    else if word == "nan" then some (0.0 / 0.0)
    else (readMantissa? body).map (·.toFloat negative)

end Walkthrough.Number
