import Walkthrough.Fault
import Walkthrough.Text.Letter

/-!
# Format specifications

A specification says how a value is laid out: fill and alignment, sign, width, grouping of digits,
precision and a presentation code.  Reading one needs to know only whether it is for a number, since
numbers stand to the right by default.
-/

namespace Walkthrough.Format

open Text

/-- The parts of a specification that some values do not admit. -/
inductive Feature where
  | space | sign | negativeZero | alternate | afterSign | precision | zeroPadding
deriving DecidableEq, Repr

/-- What a specification is applied to. -/
inductive Subject where
  | text | integer | character | complex
deriving DecidableEq, Repr

/-- Why a value cannot be formatted. -/
inductive FormatError where
  | fault (cause : Fault)
  | tooManyDigits
  | bothSeparators
  | missingPrecision
  | precisionTooBig
  | widthTooBig
  | invalid (spec type : String)
  | separatorWith (separator code : Char)
  | unknownCode (code : Char) (type : String)
  | notAllowed (feature : Feature) (subject : Subject)
  | incomplete
  | incompleteKey
  | unsupportedCode (code : Char) (position : Nat)
deriving DecidableEq, Repr

/-- A code as it is shown: itself if it is a visible ASCII character, else its number. -/
def showCode (code : Char) : String :=
  if 32 < code.toNat && code.toNat < 128 then code.toString
  else "\\x" ++ String.ofList (Nat.toDigits 16 code.toNat)

def Feature.name : Feature → String
  | .space => "Space"
  | .sign => "Sign"
  | .negativeZero => "Negative zero coercion (z)"
  | .alternate => "Alternate form (#)"
  | .afterSign => "'=' alignment"
  | .precision => "Precision"
  | .zeroPadding => "Zero padding"

def notAllowedText (feature : Feature) : Subject → String
  | .text => s!"{feature.name} not allowed in string format specifier"
  | .integer => s!"{feature.name} not allowed in integer format specifier"
  | .character => s!"{feature.name} not allowed with integer format specifier 'c'"
  | .complex =>
    let name := if feature == .afterSign then feature.name ++ " flag" else feature.name
    s!"{name} is not allowed in complex format specifier"

def FormatError.message : FormatError → String
  | .fault cause => cause.message
  | .tooManyDigits => "Too many decimal digits in format string"
  | .bothSeparators => "Cannot specify both ',' and '_'."
  | .missingPrecision => "Format specifier missing precision"
  | .precisionTooBig => "precision too big"
  | .widthTooBig => "width too big"
  | .invalid spec type => s!"Invalid format specifier '{spec}' for object of type '{type}'"
  | .separatorWith separator code => s!"Cannot specify '{separator}' with '{showCode code}'."
  | .unknownCode code type =>
    s!"Unknown format code '{showCode code}' for object of type '{type}'"
  | .notAllowed feature subject => notAllowedText feature subject
  | .incomplete => "incomplete format"
  | .incompleteKey => "incomplete format key"
  | .unsupportedCode code position =>
    let shown := if 31 ≤ code.toNat && code.toNat ≤ 126 then code else '?'
    let number := String.ofList (Nat.toDigits 16 code.toNat)
    s!"unsupported format character '{shown}' (0x{number}) at index {position}"

/-- Where a value stands in its field. -/
inductive Align where
  | left | right | center
  /-- To the right, with the padding between the sign and the digits. -/
  | afterSign
deriving DecidableEq, Repr

def Align.ofChar? : Char → Option Align
  | '<' => some .left
  | '>' => some .right
  | '^' => some .center
  | '=' => some .afterSign
  | _ => none

/-- What stands before a number that is not negative. -/
inductive Sign where
  | plus | space | minus
deriving DecidableEq, Repr

def Sign.ofChar? : Char → Option Sign
  | '+' => some .plus
  | ' ' => some .space
  | '-' => some .minus
  | _ => none

structure Spec where
  fill : Char
  align : Align
  sign : Option Sign
  noNegativeZero : Bool
  alternate : Bool
  width : Option Nat
  separator : Option Char
  precision : Option Nat
  code : Option Char
deriving DecidableEq, Repr

def sizeLimit : Nat := 0x7fffffffffffffff

/-- The number at the beginning of a text, if there is one, and what follows it. -/
def leadingNumber (text : List Char) : Except FormatError (Option Nat × List Char) :=
  let digits := (text.takeWhile fun c => (decimalValue? c).isSome).filterMap decimalValue?
  let number := digits.foldl (fun n digit => n * 10 + digit) 0
  if number > sizeLimit then .error .tooManyDigits
  else .ok (if digits.isEmpty then none else some number, text.drop digits.length)

def leadingAlign : List Char → Option Char × Option Align × List Char
  | [] => (none, none, [])
  | [c] =>
    match Align.ofChar? c with
    | some align => (none, some align, [])
    | none => (none, none, [c])
  | c :: d :: rest =>
    match Align.ofChar? d, Align.ofChar? c with
    | some align, _ => (some c, some align, rest)
    | none, some align => (none, some align, d :: rest)
    | none, none => (none, none, c :: d :: rest)

/-- Whether a text begins with a character, and the text behind it. -/
def skip (c : Char) : List Char → Bool × List Char
  | [] => (false, [])
  | d :: rest => if d == c then (true, rest) else (false, d :: rest)

def leadingSign : List Char → Option Sign × List Char
  | [] => (none, [])
  | c :: rest =>
    match Sign.ofChar? c with
    | some sign => (some sign, rest)
    | none => (none, c :: rest)

/-- The separator of digit groups at the beginning of a text. -/
def leadingSeparator (text : List Char) : Except FormatError (Option Char × List Char) :=
  let (comma, text) := skip ',' text
  let (underscore, text) := skip '_' text
  if underscore && (comma || (skip ',' text).1) then .error .bothSeparators
  else .ok (if comma then some ',' else if underscore then some '_' else none, text)

/-- The precision at the beginning of a text: a point and a number. -/
def leadingPrecision (text : List Char) : Except FormatError (Option Nat × List Char) :=
  match text with
  | '.' :: rest => do
    let (number, rest) ← leadingNumber rest
    if number.isNone then throw .missingPrecision
    return (number, rest)
  | _ => .ok (none, text)

/-- Whether digits may be grouped by a separator under a code. -/
def admitsSeparator (separator : Char) : Option Char → Bool
  | none => true
  | some code =>
    "deEfFgG%\x00".toList.contains code || (separator == '_' && "boxX".toList.contains code)

/-- Reads a specification for a value of the given type.  `usual` is the code of the type when none
is written. -/
def Spec.read (isNumber : Bool) (type : String) (usual : Option Char) (text : String) :
    Except FormatError Spec := do
  let all := text.toList
  let (fill?, align?, rest) := leadingAlign all
  let (sign, rest) := leadingSign rest
  let (noNegativeZero, rest) := skip 'z' rest
  let (alternate, rest) := skip '#' rest
  let (zero, rest) := if fill?.isNone then skip '0' rest else (false, rest)
  let (width, rest) ← leadingNumber rest
  let (separator, rest) ← leadingSeparator rest
  let (precision, rest) ← leadingPrecision rest
  if rest.length > 1 then throw (.invalid text type)
  let code := rest.head? <|> usual
  if let some separator := separator then
    if !admitsSeparator separator code then
      throw (.separatorWith separator (code.getD '\x00'))
  let usualAlign := if !isNumber then .left else if zero then .afterSign else .right
  return {
    fill := fill?.getD (if zero then '0' else ' ')
    align := align?.getD usualAlign
    sign, noNegativeZero, alternate, width, separator, precision, code }

/-- Characters padded on both sides. -/
def surround (fill : Char) (before after : Nat) (text : List Char) : List Char :=
  List.replicate before fill ++ text ++ List.replicate after fill

/-- A text that is no number in its field. -/
def Spec.place (spec : Spec) (text : List Char) : List Char :=
  let room := (spec.width.getD 0) - text.length
  match spec.align with
  | .left => surround spec.fill 0 room text
  | .right | .afterSign => surround spec.fill room 0 text
  | .center => surround spec.fill (room / 2) (room - room / 2) text

end Walkthrough.Format
