import Walkthrough.Text.Blank

/-!
# Reading a line character by character

A line is scanned from left to right, keeping track of string literals: a quote opens a literal that
the same quote closes, and inside it a backslash hides the next character.  Comments, brackets and
separators count only outside literals.  All functions here look at one text and know nothing of
the grammar of expressions.
-/

namespace Walkthrough.Source

open Text

/-- Where the scan stands: in code, or in a literal opened by `quote`. -/
inductive Mode where
  | code
  | literal (quote : Char) (escaped : Bool)
deriving DecidableEq, Repr

/-- The two characters that open a literal. -/
def isQuote (c : Char) : Bool :=
  c == '\'' || c == '"'

/-- Where the scan stands after one more character. -/
def Mode.next : Mode → Char → Mode
  | .code, c => if isQuote c then .literal c false else .code
  | .literal quote true, _ => .literal quote false
  | .literal quote false, c =>
    if c == '\\' then .literal quote true
    else if c == quote then .code
    else .literal quote false

/-- Whether a character read in this mode belongs to a literal; its quotes do. -/
def Mode.covers : Mode → Char → Bool
  | .code, c => isQuote c
  | .literal .., _ => true

/-- The characters of a text, each with whether it belongs to a literal. -/
def scan : Mode → List Char → List (Char × Bool)
  | _, [] => []
  | mode, c :: rest => (c, mode.covers c) :: scan (mode.next c) rest

theorem scan_map_fst (mode : Mode) (text : List Char) : (scan mode text).map (·.1) = text := by
  induction text generalizing mode with
  | nil => rfl
  | cons c rest ih => simp [scan, ih]

def isOpener (c : Char) : Bool :=
  c == '(' || c == '[' || c == '{'

def isCloser (c : Char) : Bool :=
  c == ')' || c == ']' || c == '}'

/-- What a scanned character adds to the bracket depth. -/
def weight : Char × Bool → Int
  | (_, true) => 0
  | (c, false) => if isOpener c then 1 else if isCloser c then -1 else 0

/-- Brackets opened less brackets closed, outside literals. -/
def balance (text : String) : Int :=
  (scan .code text.toList).foldl (fun total c => total + weight c) 0

/-- The characters before the first comment sign outside literals, if there is one. -/
def beforeComment? : Mode → List Char → Option (List Char)
  | _, [] => none
  | mode, c :: rest =>
    if c == '#' && !mode.covers c then some []
    else (beforeComment? (mode.next c) rest).map (c :: ·)

/-- A text without its comment and the white space before that. -/
def stripComment (text : String) : String :=
  match beforeComment? .code text.toList with
  | some code => String.ofList (dropEndWhile isBlank code)
  | none => text

/-- The pieces between the separators that stand outside brackets and literals; `piece` holds the
characters of the current piece in reverse. -/
def splitMarked (isSeparator : Char → Bool) (depth : Int) (piece : List Char) :
    List (Char × Bool) → List (List Char)
  | [] => [piece.reverse]
  | (c, quoted) :: rest =>
    if !quoted && !isOpener c && !isCloser c && isSeparator c && depth == 0 then
      piece.reverse :: splitMarked isSeparator depth [] rest
    else
      splitMarked isSeparator (depth + weight (c, quoted)) (c :: piece) rest

/-- A text cut at the separators outside brackets and literals, each piece without outer white
space.  An empty last piece is dropped. -/
def splitTopLevel (isSeparator : Char → Bool) (text : String) : List String :=
  let pieces := (splitMarked isSeparator 0 [] (scan .code text.toList)).map fun piece =>
    String.ofList (dropBothWhile isBlank piece)
  if pieces.getLast? == some "" then pieces.dropLast else pieces

/-- The position, counted from `position`, of the bracket that brings the depth back to zero. -/
def closing? (position : Nat) (depth : Int) : List (Char × Bool) → Option Nat
  | [] => none
  | (c, quoted) :: rest =>
    let depth' := depth + weight (c, quoted)
    if !quoted && isCloser c && depth' == 0 then some position
    else closing? (position + 1) depth' rest

/-- The position of the bracket that closes the one at `start`. -/
def findMatching? (text : String) (start : Nat) : Option Nat :=
  closing? start 0 ((scan .code text.toList).drop start)

/-- The position, counted from `position`, of the first wanted character at depth zero. -/
def topLevel? (wanted : Char → Bool) (position : Nat) (depth : Int) :
    List (Char × Bool) → Option Nat
  | [] => none
  | (c, quoted) :: rest =>
    if !quoted && !isOpener c && !isCloser c && wanted c && depth == 0 then some position
    else topLevel? wanted (position + 1) (depth + weight (c, quoted)) rest

/-- The position of the first wanted character outside brackets and literals.  A bracket is never
found. -/
def findTopLevel? (wanted : Char → Bool) (text : String) : Option Nat :=
  topLevel? wanted 0 0 (scan .code text.toList)

end Walkthrough.Source
