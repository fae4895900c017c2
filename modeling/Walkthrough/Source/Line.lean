import Walkthrough.Source.Scan
import Walkthrough.Text.Letter

/-!
# Source lines

A program is a list of lines.  A statement may go over several lines while a bracket is open, and
the body of a block header may stand behind its colon; both are brought into the plain form here,
one statement a line, every body deeper than its header.
-/

namespace Walkthrough.Source

open Text

/-- One line of a program with its number from zero and the width of its indentation. -/
structure Line where
  index : Nat
  text : String
  trimmed : String
  indent : Nat
deriving DecidableEq, Repr, Inhabited

def Line.ofText (index : Nat) (text : String) : Line where
  index
  text
  trimmed := strip text
  indent := text.length - (stripLeft text).length

/-- A text without one carriage return at its end. -/
def dropReturn (text : String) : String :=
  match text.toList.reverse with
  | '\r' :: rest => String.ofList rest.reverse
  | _ => text

/-- The lines of a program, numbered from zero. -/
def Line.all (source : String) : List Line :=
  (source.toList.splitOn '\n').mapIdx fun index text =>
    Line.ofText index (dropReturn (String.ofList text))

/-- A line as it is shown, with its number from one. -/
def Line.show (line : Line) : String :=
  s!"{line.index + 1}: {line.text}"

/-- A blank line or a line with nothing but a comment. -/
def Line.isSilent (line : Line) : Bool :=
  line.trimmed.isEmpty || line.trimmed.startsWith "#"

/-- The statement on the line, without its comment. -/
def Line.code (line : Line) : String :=
  stripComment line.trimmed

/-- The pieces of code that close the brackets open after `pieces`, and the number of lines they
take; `none` when the brackets stay open or close too often. -/
def closePieces (pieces : List String) : List Line → Option (List String × Nat)
  | [] => none
  | line :: rest =>
    let pieces := if line.code.isEmpty then pieces else pieces ++ [line.code]
    let depth := balance (" ".intercalate pieces)
    if depth > 0 then (closePieces pieces rest).map fun (all, count) => (all, count + 1)
    else if depth == 0 then some (pieces, 1)
    else none

/-- The statement that begins on `first`, joined with as many of the following lines as its open
brackets need, and the number of those lines.  A line that is balanced, or that never comes into
balance, stands alone. -/
def Line.join (first : Line) (following : List Line) : Line × Nat :=
  if balance first.code ≤ 0 then (first, 0)
  else
    match closePieces [first.code] following with
    | none => (first, 0)
    | some (pieces, count) =>
      let code := " ".intercalate pieces
      let margin := String.ofList (first.text.toList.take first.indent)
      ({ index := first.index, text := margin ++ code, trimmed := code, indent := first.indent },
        count)

/-- The name at the beginning of a text and what follows it. -/
def leadingName? : List Char → Option (List Char × List Char)
  | [] => none
  | c :: rest =>
    if isNameStart c then some (c :: rest.takeWhile isWord, rest.dropWhile isWord) else none

/-- The words that introduce a block. -/
def blockWords : List String :=
  ["def", "for", "if", "elif", "else", "while"]

/-- A header and the body behind its colon as two lines, the body one column deeper. -/
def Line.splitInline? (line : Line) : Option (Line × Line) := do
  let code := line.code
  let (word, _) ← leadingName? code.toList
  guard (blockWords.contains (String.ofList word))
  let colon ← findTopLevel? (· == ':') code
  let body := strip (String.ofList (code.toList.drop (colon + 1)))
  guard !body.isEmpty
  let header := String.ofList (code.toList.take (colon + 1))
  let margin := String.ofList (line.text.toList.take line.indent)
  return ({ line with text := margin ++ header, trimmed := header },
    { index := line.index, text := margin ++ " " ++ body, trimmed := body,
      indent := line.indent + 1 })

/-- The lines of a program with every inline body on a line of its own. -/
def expandInline (lines : List Line) : List Line :=
  lines.flatMap fun line =>
    match line.splitInline? with
    | some (header, body) => [header, body]
    | none => [line]

/-- How many of the lines after a header at `indent` are its body: those indented deeper, with the
silent lines between them. -/
def bodyLength (indent : Nat) : List Line → Nat
  | [] => 0
  | line :: rest =>
    if line.isSilent then
      match bodyLength indent rest with
      | 0 => 0
      | count + 1 => count + 2
    else if line.indent ≤ indent then 0
    else bodyLength indent rest + 1

end Walkthrough.Source
