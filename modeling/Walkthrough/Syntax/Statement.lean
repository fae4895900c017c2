import Walkthrough.Syntax.TypeForm

/-!
# The grammar of simple statements

The statements that take no block.  Only expressions are evaluated later; the other statements are
read so that they can be told from texts that follow no rule at all.
-/

namespace Walkthrough.Syntax

/-- How deep the constructs of a text may nest. -/
def nestingLimit : Nat := 400

/-- The reader of the expressions inside statements. -/
def reader : Reader :=
  readNode nestingLimit

/-- Reads an expression that must be followed by more of its statement. -/
def inner : Parser Node :=
  reader.whole .inside

/-- Reads an expression that may end its statement. -/
def final : Parser Node :=
  reader.whole .line

/-- Whether the statement may end here: at the end of the line or at a semicolon. -/
def statementEnds : Parser Bool := do
  match ← ahead false with
  | .lineEnd _ => return true
  | .token cursor => return startsWith [';'] cursor.rest
  | .nothing => return false

/-- A kind of statement, with the extent of what the parser reads. -/
def labelled (label : String) (parser : Parser Unit) : Parser Statement := do
  let start ← here
  parser
  return .other label ⟨start, ← position⟩

/-- The signs of an assignment that also computes. -/
def augmentedSigns : List String :=
  ["**=", "//=", ">>=", "<<=", "+=", "-=", "*=", "/=", "@=", "%=", "&=", "^=", "|="]

/-- The sign between the targets and the value of an assignment. -/
inductive AssignmentSign where
  | plain
  | augmented (sign : String)
  /-- A colon, behind which a type stands. -/
  | typed

def AssignmentSign.symbol : AssignmentSign → String
  | .plain => "="
  | .augmented sign => sign
  | .typed => ":"

/-- The sign of an assignment that a text begins with. -/
def assignmentSign? (text : List Char) : Option AssignmentSign :=
  match augmentedSigns.find? fun sign => startsWith sign.toList text with
  | some sign => some (.augmented sign)
  | none =>
    match text with
    | '=' :: rest => if startsWith ['='] rest then none else some .plain
    | ':' :: rest => if startsWith ['='] rest then none else some .typed
    | _ => none

/-- The targets behind the first one of an assignment, and its sign. -/
def laterTargets (place : Place) : Nat → List Node → Parser (List Node × AssignmentSign)
  | 0, _ => unexpected
  | fuel + 1, targets => do
    match assignmentSign? (← look place.multiline) with
    | some sign => return (targets, sign)
    | none =>
      let target ← reader (.operand topStrength) place
      match ← look place.multiline with
      | ',' :: _ =>
        let _ ← symbol ","
        laterTargets place fuel (target :: targets)
      | text =>
        match assignmentSign? text with
        | some sign => return (target :: targets, sign)
        | none => unexpected

/-- Whether a target stands in brackets, so that it could not be the last operand of a line. -/
def Node.isBracketed : Node → Bool
  | .paren .. | .list (_ :: _) _ | .other .tuple (_ :: _) _ => true
  | _ => false

/-- The targets of an assignment, and its sign.  Behind the first target the end of a line counts,
unless that target stands in brackets; `later` is the place of the targets behind a comma. -/
def assignmentTargets (later : Place) : Parser (List Node × AssignmentSign) := do
  let text ← look true
  if beginsWord "lambda" text || beginsWord "not" text then unexpected
  let first ← reader (.operand topStrength) .start
  match ← look first.isBracketed with
  | ',' :: _ =>
    let _ ← symbol ","
    if (← look later.multiline).isEmpty then unexpected
    laterTargets later (← loopFuel) [first]
  | text =>
    match assignmentSign? text with
    | some sign => return ([first], sign)
    | none => unexpected

/-- An assignment, whose value is read by `value`. -/
def assignment (later : Place) (value : Parser Unit) : Parser Node := do
  let start ← here
  let (targets, sign) ← assignmentTargets later
  unless allPatterns targets do unexpected
  let _ ← symbol sign.symbol
  match sign with
  | .plain =>
    value
    return .other .assignment [] ⟨start, ← position⟩
  | .augmented _ =>
    value
    return .other .augmentedAssignment [] ⟨start, ← position⟩
  | .typed =>
    typeExpression reader .line true (← loopFuel)
    if startsWith ['='] (← look false) then
      let _ ← symbol "="
      value
    return .other .assignment [] ⟨start, ← position⟩

/-- A statement that begins with expressions: an assignment, or the expressions themselves.  The
value of an assignment has the same forms; only in the statement itself do targets behind a comma go
on past the end of a line. -/
def expressionStatement (later : Place) : Nat → Parser (List Node)
  | 0 => unexpected
  | fuel + 1 => do
    if beginsWord "yield" (← look true) then return [← yieldExpression reader .line]
    let value : Parser Unit := do
      let _ ← expressionStatement .line fuel
    match ← attempt (assignment later value) with
    | some node => return [node]
    | none =>
      let first ← reader.whole .start
      let (nodes, _) ← expressionsAfter reader .line [] (← loopFuel) [first]
      return nodes

/-- Expressions, or an assignment, up to the end of the statement. -/
def plainStatement : Parser Statement := do
  let start ← here
  let nodes ← expressionStatement .inside (← loopFuel)
  if ← statementEnds then return .expressions nodes ⟨start, ← position⟩ else unexpected

/-- What stands behind the next word, unless the line ends there. -/
def behindWord : Parser (List Char) := do
  let before ← get
  let _ ← identifier
  let text ← look false
  set before
  return text

/-- Whether a text begins with a word that joins expressions and begins none. -/
def joins (text : List Char) : Bool :=
  joiningWords.any fun word => word != "not" && beginsWord word text

/-- The word `print` with arguments that stand without parentheses. -/
def printStatement : Parser Statement := do
  let start ← keyword "print"
  if startsWith ">>".toList (← look false) then
    let sign ← symbol ">>"
    let target ← final
    let chevron := Node.other .chevron [] ⟨sign.start, target.extent.stop⟩
    let (nodes, _) ← expressionsAfter reader .line [] (← loopFuel) [chevron]
    return .print nodes ⟨start.start, ← position⟩
  else
    let first ← final
    let (nodes, _) ← expressionsAfter reader .line [] (← loopFuel) [first]
    return .print nodes ⟨start.start, ← position⟩

def dottedName : Nat → Parser Unit
  | 0 => unexpected
  | fuel + 1 => do
    let _ ← identifier
    if startsWith ['.'] (← look false) then
      let _ ← symbol "."
      dottedName fuel

/-- Imported names with their aliases. -/
def importedName (multiline : Bool) : Parser Unit := do
  dottedName (← loopFuel)
  if beginsWord "as" (← look multiline) then
    let _ ← keyword "as"
    let _ ← identifier

/-- A list of imported names; a comma may end it. -/
def importedNames (multiline : Bool) : Nat → Parser Unit
  | 0 => unexpected
  | fuel + 1 => do
    importedName multiline
    if startsWith [','] (← look multiline) then
      let _ ← symbol ","
      unless (← look multiline).isEmpty do
        let _ ← attempt (importedNames multiline fuel)

/-- Names behind `import`, with or without parentheses. -/
def importList : Parser Unit := do
  if startsWith ['('] (← look true) then
    let _ ← symbol "("
    importedNames true (← loopFuel)
    let _ ← symbol ")"
  else importedNames false (← loopFuel)

def leadingDots : Nat → Parser Unit
  | 0 => unexpected
  | fuel + 1 => do
    if startsWith ['.'] (← look true) then
      let _ ← symbol "."
      leadingDots fuel

def importFrom : Parser Statement := do
  let start ← keyword "from"
  if beginsWord "__future__" (← look true) then
    let _ ← identifier
    let _ ← keyword "import"
    importList
    return .other "future_import_statement" ⟨start.start, ← position⟩
  else
    let dots := startsWith ['.'] (← look true)
    leadingDots (← loopFuel)
    unless dots && beginsWord "import" (← look true) do dottedName (← loopFuel)
    let _ ← keyword "import"
    if startsWith ['*'] (← look true) then
      let _ ← symbol "*"
    else importList
    return .other "import_from_statement" ⟨start.start, ← position⟩

def nameList : Nat → Parser Unit
  | 0 => unexpected
  | fuel + 1 => do
    let _ ← identifier
    if startsWith [','] (← look false) then
      let _ ← symbol ","
      nameList fuel

/-- Expressions separated by commas, without a comma at the end. -/
def expressionSequence : Nat → Parser Unit
  | 0 => unexpected
  | fuel + 1 => do
    let _ ← final
    if startsWith [','] (← look false) then
      let _ ← symbol ","
      expressionSequence fuel

/-- The word `exec` with a string or a name. -/
def execStatement : Parser Unit := do
  let _ ← keyword "exec"
  if opensLiteral (← look false) then
    let _ ← literal reader
  else
    let _ ← identifier
  if beginsWord "in" (← look false) then
    let _ ← keyword "in"
    expressionSequence (← loopFuel)

/-- A new name for a type. -/
def typeAlias : Parser Unit := do
  let _ ← keyword "type"
  if ← lineEnd then unexpected
  typeExpression reader .inside true (← loopFuel)
  let _ ← symbol "="
  typeExpression reader .line true (← loopFuel)

/-- Expressions, if any, up to the end of the statement. -/
def optionalExpressions : Parser Unit := do
  unless ← statementEnds do
    let _ ← expressions reader .line

/-- A statement that takes no block. -/
def simpleStatement : Parser Statement := do
  skipGap
  let ended (parser : Parser Statement) : Parser Statement := do
    let statement ← parser
    if ← statementEnds then return statement else unexpected
  let word := String.ofList (leadingWord (← get).rest)
  let single (label : String) : Parser Statement := ended (labelled label do
    let _ ← keyword word)
  match word with
  | "print" =>
    let behind ← behindWord
    if startsWith ">>".toList behind then ended printStatement
    else if joins behind || behind.isEmpty then plainStatement
    else orElse plainStatement (ended printStatement)
  | "exec" =>
    let behind ← behindWord
    if joins behind || beginsWord "not" behind then plainStatement
    else orElse plainStatement (ended (labelled "exec_statement" execStatement))
  | "type" =>
    if joins (← behindWord) then plainStatement
    else orElse (ended (labelled "type_alias_statement" typeAlias)) plainStatement
  | "import" => ended (labelled "import_statement" do
    let _ ← keyword "import"
    importedNames false (← loopFuel))
  | "from" => ended importFrom
  | "assert" => ended (labelled "assert_statement" do
    let _ ← keyword "assert"
    expressionSequence (← loopFuel))
  | "return" => ended (labelled "return_statement" do
    let _ ← keyword "return"
    optionalExpressions)
  | "del" => ended (labelled "delete_statement" do
    let _ ← keyword "del"
    let _ ← expressions reader .line)
  | "raise" => ended (labelled "raise_statement" do
    let _ ← keyword "raise"
    unless beginsWord "from" (← look false) do optionalExpressions
    if beginsWord "from" (← look false) then
      let _ ← keyword "from"
      let _ ← final)
  | "pass" => single "pass_statement"
  | "break" => single "break_statement"
  | "continue" => single "continue_statement"
  | "global" => ended (labelled "global_statement" do
    let _ ← keyword "global"
    nameList (← loopFuel))
  | "nonlocal" => ended (labelled "nonlocal_statement" do
    let _ ← keyword "nonlocal"
    nameList (← loopFuel))
  | _ => plainStatement

/-- The simple statements of a line, separated by semicolons. -/
def simpleStatements : Nat → List Statement → Parser (List Statement)
  | 0, _ => unexpected
  | fuel + 1, statements => do
    let statement ← simpleStatement
    if startsWith [';'] (← look false) then
      let _ ← symbol ";"
      if ← lineEnd then return (statement :: statements).reverse
      else simpleStatements fuel (statement :: statements)
    else return (statement :: statements).reverse

end Walkthrough.Syntax
