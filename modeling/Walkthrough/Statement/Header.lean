import Walkthrough.Expr.Reading
import Walkthrough.Source.Line

/-!
# Block headers

The lines that introduce a block: loops over elements, conditions and function definitions.  A
header is recognised by its words and its final colon; the expressions in it are read on the spot,
and whether they can be read matters only when the header is run.
-/

namespace Walkthrough

open Text Source

/-- An expression of a statement, or why its text is none. -/
abbrev Reading := Except ReadError Expr

/-- The reading of a text without its outer white space. -/
def Reading.ofText (text : String) : Reading :=
  Expr.ofText (strip text)

/-- A text behind a word, its white space skipped as far as at least one character remains; there
must be white space after the word. -/
def afterWord? (word : String) (text : List Char) : Option (List Char) :=
  if word.toList.isPrefixOf text then
    match text.drop word.length with
    | c :: rest => if isBlank c then some (rest.dropWhile isBlank) else none
    | [] => none
  else none

/-- A text without the colon at its end. -/
def beforeColon? (text : List Char) : Option (List Char) :=
  if text.getLast? == some ':' then some text.dropLast else none

/-- The words of a header between `word` and its colon.  Beside the white space that ends the word
at least one character is needed. -/
def headerBody? (word : String) (text : List Char) : Option String := do
  let inner ← beforeColon? text
  let rest ← afterWord? word inner
  guard (!rest.isEmpty || inner.length > word.length + 1)
  return strip (String.ofList rest)

/-- A loop over the elements of a list or text: the name that runs over them and the expression that
gives them, as text and as read. -/
structure Loop where
  target : String
  iterable : String
  source : Reading

/-- The loop of a header `for target in iterable:`. -/
def Loop.ofHeader? (text : String) : Option Loop := do
  let rest ← afterWord? "for" text.toList
  let (target, rest) ← leadingName? rest
  guard ((rest.head?.map isBlank).getD false)
  let iterable ← headerBody? "in" (rest.dropWhile isBlank)
  return { target := String.ofList target, iterable, source := Reading.ofText iterable }

/-- The words that introduce a condition. -/
inductive GuardWord where
  | ifWord | elifWord | whileWord
deriving DecidableEq, Repr

/-- A condition with the word that introduces it, as text and as read. -/
structure Guard where
  word : GuardWord
  condition : String
  reading : Reading

/-- The condition of a header that begins with `if`, `elif` or `while`. -/
def Guard.ofHeader? (text : String) : Option Guard :=
  let read (word : GuardWord) (spelling : String) : Option Guard :=
    (headerBody? spelling text.toList).map fun condition =>
      { word, condition, reading := Reading.ofText condition }
  read .ifWord "if" <|> read .elifWord "elif" <|> read .whileWord "while"

/-- A function header: its name and what stands between its parentheses. -/
structure Definition where
  name : String
  parameterText : String
deriving DecidableEq, Repr

/-- The definition of a header `def name(parameters):`. -/
def Definition.ofHeader? (text : String) : Option Definition := do
  let rest ← afterWord? "def" text.toList
  let (name, rest) ← leadingName? rest
  match rest.dropWhile isBlank with
  | '(' :: rest =>
    let inside := rest.takeWhile (· != ')')
    match rest.dropWhile (· != ')') with
    | ')' :: rest =>
      guard (rest.dropWhile isBlank == [':'])
      return { name := String.ofList name, parameterText := String.ofList inside }
    | _ => none
  | _ => none

def isName (text : String) : Bool :=
  match leadingName? text.toList with
  | some (_, []) => true
  | _ => false

/-- The names of a parameter list, or the first piece of it that is no name. -/
def parameterNames (text : String) : Except String (List String) :=
  let pieces := splitTopLevel (· == ',') text
  match pieces.find? (!isName ·) with
  | some piece => .error piece
  | none => .ok pieces

end Walkthrough
