import Walkthrough.Text.Printable

/-!
# Quoted text

A text between quotes, with everything that cannot stand there for itself written as an escape.
-/

namespace Walkthrough.Text

/-- The digits of a code in base sixteen, at least `width` of them. -/
def hexText (width code : Nat) : List Char :=
  let digits := Nat.toDigits 16 code
  List.replicate (width - digits.length) '0' ++ digits

/-- The escape of a character by its code. -/
def codeEscape (c : Char) : List Char :=
  if c.toNat < 0x100 then '\\' :: 'x' :: hexText 2 c.toNat
  else if c.toNat < 0x10000 then '\\' :: 'u' :: hexText 4 c.toNat
  else '\\' :: 'U' :: hexText 8 c.toNat

/-- A character as it is written between `quote`s; one that is not `plain` is escaped. -/
def quotedChar (plain : Char → Bool) (quote c : Char) : List Char :=
  if c == quote || c == '\\' then ['\\', c]
  else if c == '\t' then ['\\', 't']
  else if c == '\n' then ['\\', 'n']
  else if c == '\r' then ['\\', 'r']
  else if plain c then [c]
  else codeEscape c

/-- The quote for a text: a single one, unless the text has such and no double ones. -/
def chooseQuote (cs : List Char) : Char :=
  if cs.contains '\'' && !cs.contains '"' then '"' else '\''

/-- A text as it is written between its quotes. -/
def quotedBody (plain : Char → Bool) (cs : List Char) : List Char :=
  cs.flatMap (quotedChar plain (chooseQuote cs))

def quoted (text : String) : String :=
  let cs := text.toList
  let quote := chooseQuote cs
  String.ofList (quote :: quotedBody isPrintable cs ++ [quote])

def isPlainAscii (c : Char) : Bool :=
  ' ' ≤ c && c ≤ '~'

/-- What stands between the quotes of a text in which only ASCII is shown as it is. -/
def asciiBody (text : String) : String :=
  String.ofList (quotedBody isPlainAscii text.toList)

end Walkthrough.Text
