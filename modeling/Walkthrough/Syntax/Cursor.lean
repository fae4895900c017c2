import Walkthrough.Text.Identifier

/-!
# Reading an expression text

A cursor is what is left of a text together with the position reached.  Parsers move a cursor
forward or fail; they skip blanks, comments and joints between tokens, where a joint is a backslash
that joins its line to the next.  Outside brackets the end of a line also ends an expression, so the
functions that look ahead are told whether they may look past it.
-/

namespace Walkthrough.Syntax

open Text

/-- A place in a text: characters from its beginning, and from the beginning of its line. -/
structure Position where
  offset : Nat
  column : Nat
deriving DecidableEq, Repr, Inhabited

/-- The place behind one more character. -/
def Position.next (p : Position) (c : Char) : Position where
  offset := p.offset + 1
  column := if c == '\n' then 0 else p.column + 1

/-- The stretch of text that a construct takes. -/
structure Extent where
  start : Position
  stop : Position
deriving DecidableEq, Repr, Inhabited

def Extent.within (inner outer : Extent) : Bool :=
  outer.start.offset ≤ inner.start.offset && inner.stop.offset ≤ outer.stop.offset

/-- What is left of a text and where it begins, with the joints passed so far, the last one
first. -/
structure Cursor where
  rest : List Char
  position : Position
  joints : List Extent

def Cursor.advance : Nat → Cursor → Cursor
  | 0, cursor => cursor
  | count + 1, cursor =>
    match cursor.rest with
    | [] => cursor
    | c :: rest => Cursor.advance count { cursor with rest, position := cursor.position.next c }

/-- The cursor before a whole text; a byte order mark at its beginning is passed. -/
def Cursor.ofText (text : String) : Cursor :=
  let start : Cursor := ⟨text.toList, ⟨0, 0⟩, []⟩
  if text.toList.head? == some '\ufeff' then start.advance 1 else start

/-- Why a text could not be read. -/
inductive Trouble where
  /-- The text does not follow the grammar. -/
  | unexpected
  /-- The text nests deeper than is followed. -/
  | tooDeep
deriving DecidableEq, Repr

/-- A parser moves the cursor forward and gives a result, or fails. -/
abbrev Parser := StateT Cursor (Except Trouble)

/-- The failure of a text that does not follow the grammar. -/
def unexpected {α : Type} : Parser α :=
  throw .unexpected

/-- `first`, or `second` from the same place if `first` does not fit there. -/
def orElse {α : Type} (first second : Parser α) : Parser α := fun cursor =>
  match first cursor with
  | .error .unexpected => second cursor
  | result => result

/-- A parser's result, or nothing if it does not fit here. -/
def attempt {α : Type} (parser : Parser α) : Parser (Option α) :=
  orElse (some <$> parser) (pure none)

/-! ## Between tokens -/

/-- Blanks between tokens. -/
def isGap (c : Char) : Bool :=
  (0x09 ≤ c.toNat && c.toNat ≤ 0x0d) || c == ' ' || c.toNat == 0xfeff || c.toNat == 0x2060 ||
    c.toNat == 0x200b

/-- The blanks that may also stand before the end of a line or before a literal. -/
def isPlainGap (c : Char) : Bool :=
  c == ' ' || c == '\t' || c == '\r' || c == '\x0c'

/-- Whether the line ends before the next token: only plain blanks and joints stand between. -/
def lineEnds : List Char → Bool
  | [] => true
  | ['\\'] => true
  | ['\\', '\r'] => true
  | '\\' :: '\n' :: rest => lineEnds rest
  | '\\' :: '\r' :: '\n' :: rest => lineEnds rest
  | c :: rest => c == '\n' || (isPlainGap c && lineEnds rest)

/-- The number of plain blanks, line ends and joints that a text begins with. -/
def foldLength : List Char → Nat
  | [] => 0
  | '\\' :: '\n' :: rest => 2 + foldLength rest
  | '\\' :: '\r' :: '\n' :: rest => 3 + foldLength rest
  | c :: rest => if c == '\n' || isPlainGap c then 1 + foldLength rest else 0

/-- Letters that may stand before the opening quote of a literal. -/
def isFlag (c : Char) : Bool :=
  ['f', 'F', 'r', 'R', 'b', 'B', 'u', 'U'].contains c

def isLiteralQuote (c : Char) : Bool :=
  c == '\'' || c == '"' || c == '`'

/-- Whether a literal begins here. -/
def opensLiteral (text : List Char) : Bool :=
  match text.dropWhile isFlag with
  | c :: _ => isLiteralQuote c
  | [] => false

/-- What a cursor meets next. -/
inductive Ahead where
  /-- A token, before which the cursor stands; at the end of the text it is empty. -/
  | token (cursor : Cursor)
  /-- The end of the line, before which the cursor stands. -/
  | lineEnd (cursor : Cursor)
  /-- Characters that make no token. -/
  | nothing

/-- What has been passed since the last token, comment or joint. -/
inductive Passed where
  | nothing
  /-- Plain blanks and line ends. -/
  | plain
  /-- Other blanks too.  A literal cannot follow them. -/
  | wide
  /-- The beginning of a comment. -/
  | comment
deriving DecidableEq

/-- What comes next in a text, once `passed` has been read and the `joints` met.  Behind a token, a
comment or a joint the end of the line counts first, unless `multiline` holds, and then a literal:
joints before a literal leave no trace. -/
def aheadFrom (multiline : Bool) (joints : List Extent) (passed : Passed) (position : Position) :
    List Char → Ahead
  | [] =>
    if multiline then .token ⟨[], position, joints⟩
    else if passed == .wide then .nothing
    else .lineEnd ⟨[], position, joints⟩
  | c :: rest =>
    let fresh := passed == .nothing || (passed == .comment && c == '\n')
    let folds := foldLength (c :: rest)
    if fresh && !multiline && lineEnds (c :: rest) then
      .lineEnd ⟨c :: rest, position, joints⟩
    else if fresh && opensLiteral ((c :: rest).drop folds) then
      .token (Cursor.advance folds ⟨c :: rest, position, joints⟩)
    else if passed == .comment && c != '\n' then
      if c == '\x00' then .nothing
      else aheadFrom multiline joints .comment (position.next c) rest
    else if isGap c then
      let passed := if passed == .wide || !(c == '\n' || isPlainGap c) then .wide else .plain
      aheadFrom multiline joints passed (position.next c) rest
    else if c == '#' then aheadFrom multiline joints .comment (position.next c) rest
    else if c == '\\' then
      let second := position.next c
      match rest with
      | '\r' :: '\n' :: rest =>
        let stop := (second.next '\r').next '\n'
        aheadFrom multiline (⟨position, stop⟩ :: joints) .nothing stop rest
      | d :: rest =>
        if d == '\n' || d == '\x00' then
          aheadFrom multiline (⟨position, second.next d⟩ :: joints) .nothing (second.next d) rest
        else .nothing
      | [] =>
        -- A backslash that ends the text counts only directly behind what comes before it.
        if passed == .nothing then .token ⟨[], second, ⟨position, second⟩ :: joints⟩ else .nothing
    else if passed == .wide && opensLiteral (c :: rest) then .nothing
    else .token ⟨c :: rest, position, joints⟩

/-- What comes next; the end of the line counts unless `multiline` holds. -/
def ahead (multiline : Bool) : Parser Ahead := do
  let cursor ← get
  return aheadFrom multiline cursor.joints .nothing cursor.position cursor.rest

def lineEnd : Parser Bool := do
  match ← ahead false with
  | .lineEnd _ => return true
  | _ => return false

/-- Moves to the end of the line, which must be here; a comment before it is passed. -/
def endLine : Parser Unit := do
  match ← ahead false with
  | .lineEnd cursor => set cursor
  | _ => unexpected

def skipGap : Parser Unit := do
  match ← ahead true with
  | .token cursor => set cursor
  | _ => unexpected

/-- The characters from the next token on, or none where the line ends and `multiline` is false. -/
def look (multiline : Bool) : Parser (List Char) := do
  match ← ahead multiline with
  | .token cursor => return cursor.rest
  | _ => return []

/-! ## Tokens -/

/-- Takes the next `count` characters and tells their extent. -/
def take (count : Nat) : Parser Extent := do
  let cursor ← get
  let after := cursor.advance count
  set after
  return ⟨cursor.position, after.position⟩

def startsWith (symbol text : List Char) : Bool :=
  symbol.isPrefixOf text

/-- The next token must be the given symbol. -/
def symbol (text : String) : Parser Extent := do
  skipGap
  if startsWith text.toList (← get).rest then take text.length else unexpected

/-- The identifier at the beginning of a text, empty if there is none. -/
def leadingWord : List Char → List Char
  | [] => []
  | c :: rest => if isIdentifierStart c then c :: rest.takeWhile isIdentifierPart else []

def beginsWord (word : String) (text : List Char) : Bool :=
  leadingWord text == word.toList

/-- The next token must be the given word. -/
def keyword (word : String) : Parser Extent := do
  skipGap
  if beginsWord word (← get).rest then take word.length else unexpected

/-- The next token must be an identifier. -/
def identifier : Parser (String × Extent) := do
  skipGap
  match leadingWord (← get).rest with
  | [] => unexpected
  | word => return (String.ofList word, ← take word.length)

/-- The place where the next token begins. -/
def here : Parser Position := do
  skipGap
  return (← get).position

/-- The place behind the last token. -/
def position : Parser Position :=
  return (← get).position

end Walkthrough.Syntax
