import Walkthrough.Number.Reading
import Walkthrough.Text.CharName
import Walkthrough.Text.Quoted

/-!
# Escapes

The meaning of the backslash escapes in a text.  A backslash before a character that has no meaning
behind it stands for itself.
-/

namespace Walkthrough.Text

open Number (digitValue? ofDigits)

/-- The values of the first `count` characters as digits of base sixteen, if all are such. -/
def hexCode? (count : Nat) (cs : List Char) : Option Nat := do
  guard (cs.length ≥ count)
  let digits ← (cs.take count).mapM fun c => (digitValue? c).filter (· < 16)
  return ofDigits 16 digits

/-- The character with a code, unless the code belongs to none. -/
def charOfCode? (code : Nat) : Option Char :=
  if code.isValidChar then some (Char.ofNat code) else none

/-- The octal digits, at most three, at the beginning of a text. -/
def octalDigits (cs : List Char) : List Nat :=
  ((cs.take 3).takeWhile fun c => '0' ≤ c && c ≤ '7').map fun c => c.toNat - '0'.toNat

/-- The meaning of a letter behind a backslash that stands for one character. -/
def letterEscape? : Char → Option Char
  | '\\' => some '\\'
  | '\'' => some '\''
  | '"' => some '"'
  | 'a' => some '\x07'
  | 'b' => some '\x08'
  | 'f' => some '\x0c'
  | 'n' => some '\n'
  | 'r' => some '\r'
  | 't' => some '\t'
  | 'v' => some '\x0b'
  | _ => none

/-- The meaning of an escape whose backslash stands before the text: the characters it stands for
and how many characters of the text belong to it. -/
def escapeMeaning? (cs : List Char) : Option (List Char × Nat) :=
  let byCode (digits : Nat) (cs : List Char) : Option (List Char × Nat) := do
    let code ← hexCode? digits cs
    let c ← charOfCode? code
    return ([c], digits + 1)
  match cs with
  | [] => none
  | '\n' :: _ => some ([], 1)
  | 'x' :: rest => byCode 2 rest
  | 'u' :: rest => byCode 4 rest
  | 'U' :: rest => byCode 8 rest
  | 'N' :: rest =>
    match rest with
    | '{' :: name =>
      let inner := name.takeWhile (· != '}')
      if inner.length == name.length then none
      else (charNamed? (String.ofList inner)).map fun c => ([c], inner.length + 3)
    | _ => none
  | c :: _ =>
    match letterEscape? c with
    | some meaning => some ([meaning], 1)
    | none =>
      match octalDigits cs with
      | [] => some (['\\', c], 1)
      | digits => (charOfCode? (ofDigits 8 digits)).map fun c => ([c], digits.length)

/-- A text with its escapes resolved, behind the reversed `done`. -/
def unescapeFrom : Nat → List Char → List Char → Option (List Char)
  | 0, _, _ => none
  | _ + 1, done, [] => some done.reverse
  | fuel + 1, done, c :: rest =>
    if c == '\\' then
      match escapeMeaning? rest with
      | some (meaning, length) => unescapeFrom fuel (meaning.reverse ++ done) (rest.drop length)
      | none => none
    else unescapeFrom fuel (c :: done) rest

/-- A text with its escapes resolved, unless one of them is malformed. -/
def unescape? (cs : List Char) : Option (List Char) :=
  unescapeFrom (cs.length + 1) [] cs

/-- A text in which the characters beyond Latin are escaped by their codes. -/
def escapeWide (cs : List Char) : List Char :=
  cs.flatMap fun c => if c.toNat < 0x100 then [c] else codeEscape c

end Walkthrough.Text
