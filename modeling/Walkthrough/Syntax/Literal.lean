import Walkthrough.Syntax.Reader

/-!
# The grammar of string literals

A literal consists of text and, between braces, of fields.  The text is kept as it stands; a field
holds an expression, perhaps a conversion letter and perhaps a format specification.
-/

namespace Walkthrough.Syntax

/-- The text of a format specification up to its closing brace.  Fields inside it are read with
`field` and kept as text; `kept` is the length of the text without the line ends and joints behind
it, and `fresh` tells whether a joint may stand here. -/
def specText (field : Parser Unit) : Nat → (fresh : Bool) → List Char → Nat → Parser (List Char)
  | 0, _, _, _ => unexpected
  | fuel + 1, fresh, text, kept => do
    let cursor ← get
    let pass (count : Nat) : Parser (List Char) := do
      let _ ← take count
      specText field fuel true ((cursor.rest.take count).reverse ++ text) kept
    match fresh, cursor.rest with
    | _, [] | _, '\x00' :: _ => unexpected
    | _, '}' :: _ => return (text.reverse).take kept
    | _, '{' :: _ =>
      field
      let taken := (← get).position.offset - cursor.position.offset
      specText field fuel true ((cursor.rest.take taken).reverse ++ text) (text.length + taken)
    | _, '\n' :: _ => pass 1
    | true, '\\' :: '\n' :: _ => pass 2
    | true, '\\' :: '\r' :: '\n' :: _ => pass 3
    | _, c :: _ =>
      let _ ← take 1
      specText field fuel false (c :: text) (text.length + 1)

/-- The conversion letter behind an exclamation mark, empty if there is none. -/
def conversion : Parser String := do
  match ← look true with
  | '!' :: letter :: _ =>
    if 'a' ≤ letter && letter ≤ 'z' then
      let _ ← symbol "!"
      let _ ← take 1
      return String.singleton letter
    else return ""
  | _ => return ""

/-- What a field holds: an expression, several, or a yield. -/
def fieldValue (again : Reader) : Parser Node := do
  if beginsWord "yield" (← look true) then yieldExpression again .inside
  else
    let start ← here
    match ← expressions again .inside with
    | ([node], false) => return node
    | (nodes, _) => return .other .expressionList nodes ⟨start, ← position⟩

/-- A field of a literal, braces included. -/
def field (again : Reader) : Nat → Parser Piece
  | 0 => unexpected
  | fuel + 1 => do
    let start ← position
    let _ ← symbol "\x7b"
    let value ← fieldValue again
    if startsWith ['='] (← look true) then
      let _ ← symbol "="
    let letter ← conversion
    let spec ←
      match ← look true with
      | ':' :: _ =>
        let _ ← symbol ":"
        specText (do let _ ← field again fuel) (← loopFuel) true [] 0
      | _ => pure []
    let stop ← symbol "\x7d"
    return .field value letter (String.ofList spec) ⟨start, stop.stop⟩

/-- The text of a literal since its last field: the text itself, and what has been passed behind it
that is no text unless more text follows.  Both are in reverse. -/
structure Passage where
  text : List Char
  passed : List Char

def Passage.empty : Passage := ⟨[], []⟩

def Passage.add (p : Passage) (more : List Char) : Passage where
  text := if p.text.isEmpty then more.reverse else more.reverse ++ p.passed ++ p.text
  passed := []

/-- The pieces, in reverse, with the text as one more piece. -/
def Passage.close (p : Passage) (pieces : List Piece) : List Piece :=
  if p.text.isEmpty then pieces else .text (String.ofList p.text.reverse) :: pieces

/-- How many characters to pass where the contents of a literal break off at a line end: blanks, then
a comment or a joint. -/
def breakLength? (rest : List Char) : Option Nat :=
  let blanks := (rest.takeWhile isGap).length
  match rest.drop blanks with
  | '#' :: comment =>
    some (blanks + 1 + (comment.takeWhile fun c => c != '\n' && c != '\x00').length)
  | '\\' :: '\n' :: _ | '\\' :: '\x00' :: _ => some (blanks + 2)
  | '\\' :: '\r' :: '\n' :: _ => some (blanks + 3)
  | _ => none

/-- The pieces of a literal up to its closing quote. -/
def literalPieces (again : Reader) (q : Quotation) :
    Nat → Passage → List Piece → Parser (List Piece)
  | 0, _, _ => unexpected
  | fuel + 1, passage, pieces => do
    let rest := (← get).rest
    let keep (count : Nat) : Parser (List Piece) := do
      let _ ← take count
      literalPieces again q fuel (passage.add (rest.take count)) pieces
    let pass (count : Nat) : Parser (List Piece) := do
      let _ ← take count
      let passed := (rest.take count).reverse ++ passage.passed
      literalPieces again q fuel { passage with passed } pieces
    let readField : Parser (List Piece) := do
      let piece ← field again (← loopFuel)
      literalPieces again q fuel .empty (piece :: passage.close pieces)
    match portion q (rest.length + 1) 0 false rest with
    | .contents length => keep length
    | .closing length =>
      let _ ← take length
      return (passage.close pieces).reverse
    | .neither =>
      match rest with
      | '\\' :: '\x00' :: _ => pass 2
      | '\\' :: after => keep (escapeLength after)
      | '{' :: after => if q.fields && startsWith ['{'] after then keep 2 else readField
      | '}' :: after => if q.fields && startsWith ['}'] after then keep 2 else unexpected
      | _ =>
        let blanks := (rest.takeWhile isGap).length
        if startsWith ['{'] (rest.drop blanks) then
          let _ ← take blanks
          readField
        else
          match breakLength? rest with
          | some count => pass count
          | none => unexpected

def literal (again : Reader) : Parser Literal := do
  let start ← here
  let rest := (← get).rest
  match quotation? rest with
  | none => unexpected
  | some (flags, q, opening) =>
    let _ ← take opening
    let pieces ← literalPieces again q (← loopFuel) .empty []
    let stop ← position
    let text := String.ofList (rest.take (stop.offset - start.offset))
    return .mk (String.ofList flags) text pieces ⟨start, stop⟩

/-- The literals that directly follow a literal. -/
def literalsAfter (again : Reader) (place : Place) : Nat → List Literal → Parser (List Literal)
  | 0, _ => unexpected
  | fuel + 1, literals => do
    if opensLiteral (← look place.multiline) then
      literalsAfter again place fuel ((← literal again) :: literals)
    else return literals.reverse

/-- One or more string literals side by side. -/
def stringAtom (again : Reader) (place : Place) : Parser Node := do
  let start ← here
  let first ← literal again
  match ← literalsAfter again place (← loopFuel) [first] with
  | [single] => return .string single
  | literals => return .strings literals ⟨start, ← position⟩

end Walkthrough.Syntax
