import Walkthrough.Syntax.CasePattern

/-!
# The grammar of programs

An expression text is read as a small program: statements, each on its line, with indented blocks
under their headers.
-/

namespace Walkthrough.Syntax

/-- The indentation of the next line that holds more than a comment; zero at the end of the text. -/
def nextIndent (inComment : Bool) (width : Nat) : List Char → Nat
  | [] => 0
  | '\\' :: '\n' :: rest => nextIndent false (if inComment then 0 else width) rest
  | '\\' :: '\r' :: '\n' :: rest => nextIndent false (if inComment then 0 else width) rest
  | c :: rest =>
    if c == '\n' then nextIndent false 0 rest
    else if inComment then nextIndent true width rest
    else if c == ' ' then nextIndent false (width + 1) rest
    else if c == '\t' then nextIndent false (width + 8) rest
    else if c == '\r' || c == '\x0c' then nextIndent false 0 rest
    else if c == '#' then nextIndent true width rest
    else if c == '\\' && rest.isEmpty then 0
    else width

/-- Whether a line follows that is not indented less than `indent` and begins with `word`. -/
def clauseFollows (indent : Nat) (word : String) : Parser Bool := do
  return beginsWord word (← look true) && nextIndent false 0 (← get).rest ≥ indent

/-- Reads the statements of a block that is indented by `indent`. -/
abbrev BlockReader := (indent : Nat) → Parser Unit

/-- What follows the colon of a header: statements on the same line, an indented block, or
nothing. -/
def suite (block : BlockReader) (indent : Nat) : Parser Unit := do
  let _ ← symbol ":"
  if ← lineEnd then
    endLine
    let deeper := nextIndent false 0 (← get).rest
    if deeper > indent then block deeper
  else
    let _ ← simpleStatements (← loopFuel) []
    endLine

def elseClause (block : BlockReader) (indent : Nat) : Parser Unit := do
  if ← clauseFollows indent "else" then
    let _ ← keyword "else"
    suite block indent

def elifClauses (block : BlockReader) (indent : Nat) : Nat → Parser Unit
  | 0 => unexpected
  | fuel + 1 => do
    if ← clauseFollows indent "elif" then
      let _ ← keyword "elif"
      let _ ← reader.whole .condition
      suite block indent
      elifClauses block indent fuel

/-- The `except` clauses of a `try` statement, and how many there are. -/
def exceptClauses (block : BlockReader) (indent : Nat) : Nat → Nat → Parser Nat
  | 0, _ => unexpected
  | fuel + 1, count => do
    if ← clauseFollows indent "except" then
      let _ ← keyword "except"
      if startsWith ['*'] (← look true) then
        let _ ← symbol "*"
      unless startsWith [':'] (← look true) do
        let _ ← inner
        if startsWith [','] (← look true) then
          let _ ← symbol ","
          let _ ← inner
      suite block indent
      exceptClauses block indent fuel (count + 1)
    else return count

def parameterType : Parser Unit := do
  if startsWith [':'] (← look true) then
    let _ ← symbol ":"
    typeExpression reader .inside true (← loopFuel)

def parameters : Parser Unit := do
  let _ ← symbol "("
  unless startsWith [')'] (← look true) do
    parameter reader parameterType
    let _ ← itemsAfter (parameter reader parameterType) ')' (← loopFuel) [()]
  let _ ← symbol ")"

/-- The type parameters of a function or class, if there are any. -/
def typeParameters : Parser Unit := do
  if startsWith ['['] (← look true) then
    typeArguments reader (← loopFuel)

def functionDefinition (block : BlockReader) (indent : Nat) : Parser Unit := do
  let _ ← keyword "def"
  let _ ← identifier
  typeParameters
  parameters
  if startsWith "->".toList (← look true) then
    let _ ← symbol "->"
    typeExpression reader .inside false (← loopFuel)
  suite block indent

def classDefinition (block : BlockReader) (indent : Nat) : Parser Unit := do
  let _ ← keyword "class"
  let (name, extent) ← identifier
  typeParameters
  if startsWith ['('] (← look true) then
    match ← callArguments reader false (.name name extent) with
    | .callGenerator .. => unexpected
    | _ => pure ()
  suite block indent

def forStatement (block : BlockReader) (indent : Nat) : Parser Unit := do
  let _ ← keyword "for"
  let _ ← loopTarget reader
  let _ ← keyword "in"
  let _ ← expressions reader .inside
  suite block indent
  elseClause block indent

def withStatement (block : BlockReader) (indent : Nat) : Parser Unit := do
  let _ ← keyword "with"
  let _ ← expressions reader .inside
  suite block indent

/-- A function or class with decorators before it. -/
def decoratedDefinition (block : BlockReader) (indent : Nat) : Nat → Parser Unit
  | 0 => unexpected
  | fuel + 1 => do
    let _ ← symbol "@"
    let _ ← final
    endLine
    let text ← look true
    if startsWith ['@'] text then decoratedDefinition block indent fuel
    else if beginsWord "class" text then classDefinition block indent
    else
      if beginsWord "async" text then
        let _ ← keyword "async"
      functionDefinition block indent

def caseClauses (block : BlockReader) (indent : Nat) : Nat → Parser Unit
  | 0 => unexpected
  | fuel + 1 => do
    if ← clauseFollows indent "case" then
      let _ ← keyword "case"
      casePatterns (← loopFuel)
      if beginsWord "if" (← look true) then
        let _ ← keyword "if"
        let _ ← inner
      suite block indent
      caseClauses block indent fuel

def matchStatement (block : BlockReader) (indent : Nat) : Parser Unit := do
  let _ ← keyword "match"
  if ← lineEnd then unexpected
  let _ ← expressions reader .inside
  let _ ← symbol ":"
  endLine
  let deeper := nextIndent false 0 (← get).rest
  if deeper > indent then
    caseClauses block deeper (← loopFuel)
    if nextIndent false 0 (← get).rest ≥ deeper then unexpected

/-- Of two ways to read what comes next, the one that reaches further; `first` if both reach equally
far. -/
def furthest {α : Type} (first second : Parser α) : Parser α := fun cursor =>
  match first cursor, second cursor with
  | .ok (a, left), .ok (b, right) =>
    if left.position.offset < right.position.offset then .ok (b, right) else .ok (a, left)
  | .error .unexpected, result => result
  | result, _ => result

/-- The statements that begin on this line. -/
def statement (block : BlockReader) (indent : Nat) : Parser (List Statement) := do
  skipGap
  let text := (← get).rest
  let simple : Parser (List Statement) := do
    let statements ← simpleStatements (← loopFuel) []
    endLine
    return statements
  let compound (label : String) (parser : Parser Unit) : Parser (List Statement) := do
    return [← labelled label parser]
  match String.ofList (leadingWord text) with
  | "if" => compound "if_statement" do
    let _ ← keyword "if"
    let _ ← reader.whole .condition
    suite block indent
    elifClauses block indent (← loopFuel)
    elseClause block indent
  | "for" => compound "for_statement" (forStatement block indent)
  | "while" => compound "while_statement" do
    let _ ← keyword "while"
    let _ ← inner
    suite block indent
    elseClause block indent
  | "try" => compound "try_statement" do
    let _ ← keyword "try"
    suite block indent
    let count ← exceptClauses block indent (← loopFuel) 0
    if count > 0 then elseClause block indent
    if ← clauseFollows indent "finally" then
      let _ ← keyword "finally"
      suite block indent
    else if count == 0 then unexpected
  | "with" => compound "with_statement" (withStatement block indent)
  | "def" => compound "function_definition" (functionDefinition block indent)
  | "class" => compound "class_definition" (classDefinition block indent)
  | "match" =>
    if joins (← behindWord) then simple
    else furthest simple (compound "match_statement" (matchStatement block indent))
  | "async" =>
    let asynchronous (label : String) (parser : Parser Unit) : Parser (List Statement) :=
      compound label do
        let _ ← keyword "async"
        parser
    match String.ofList (leadingWord (← behindWord)) with
    | "def" => asynchronous "function_definition" (functionDefinition block indent)
    | "for" => asynchronous "for_statement" (forStatement block indent)
    | "with" => asynchronous "with_statement" (withStatement block indent)
    | _ => simple
  | _ =>
    if startsWith ['@'] text then
      compound "decorated_definition" do decoratedDefinition block indent (← loopFuel)
    else simple

/-- The statements of a block as long as lines are indented by at least `indent`. -/
def blockStatements (block : BlockReader) (indent : Nat) : Nat → Parser Unit
  | 0 => unexpected
  | fuel + 1 => do
    if nextIndent false 0 (← get).rest ≥ indent then
      let _ ← statement block indent
      blockStatements block indent fuel

/-- Reads a block whose own blocks nest at most `depth` levels. -/
def readBlock : (depth : Nat) → BlockReader
  | 0, _ => throw .tooDeep
  | depth + 1, indent => do blockStatements (readBlock depth) indent (← loopFuel)

def allStatements : Nat → List Statement → Parser (List Statement)
  | 0, _ => unexpected
  | fuel + 1, statements => do
    skipGap
    if (← get).rest.isEmpty then return statements.reverse
    else
      let more ← statement (readBlock nestingLimit) 0
      allStatements fuel (more.reverse ++ statements)

/-- The statements of a text, and its joints in the order of the text. -/
def parse (text : String) : Except Trouble Program := do
  let (statements, cursor) ← (allStatements (text.length + 1) []).run (Cursor.ofText text)
  return { statements, joints := cursor.joints.reverse }

end Walkthrough.Syntax
