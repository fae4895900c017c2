import Walkthrough.Syntax.Bracket
import Walkthrough.Syntax.Literal
import Walkthrough.Text.Search

/-!
# The grammar of expressions

Operands, the operators between them by precedence, and the words that join expressions.  `readNode`
ties the knot of the readers and counts how deep they go.
-/

namespace Walkthrough.Syntax

open Text

/-- The binary operator that a text begins with.  An operator that is part of an assignment sign is
none. -/
def binaryAt? (text : List Char) : Option BinaryOp :=
  let longest := [BinaryOp.pow, .floorDiv, .shiftLeft, .shiftRight, .add, .sub, .mul, .div, .mod,
    .bitAnd, .bitOr, .bitXor, .matMul]
  match longest.find? fun op => startsWith op.symbol.toList text with
  | some op => if startsWith ['='] (text.drop op.symbol.length) then none else some op
  | none => none

def comparisonSign? (text : List Char) : Option CompareOp :=
  if startsWith "<<".toList text || startsWith ">>".toList text then none
  else
    [CompareOp.le, .ge, .eq, .ne, .other "<>", .lt, .gt].find? fun op =>
      startsWith op.symbol.toList text

/-- The operator made of two words.  It is the usual one if only blanks stand between them. -/
def wordPair (usual : CompareOp) (first second : String) : Parser (CompareOp × Extent) := do
  let start ← keyword first
  let between := (← get).rest
  let stop ← keyword second
  let gap := between.take (stop.start.offset - start.stop.offset)
  let op :=
    if gap.all isBlank then usual
    else
      let words := splitWords none [] (first.toList ++ gap ++ second.toList)
      .other (String.ofList ([' '].intercalate words))
  return (op, ⟨start.start, stop.stop⟩)

/-- Takes a comparison operator if one comes next. -/
def comparison? (place : Place) : Parser (Option (CompareOp × Extent)) := do
  let text ← look place.multiline
  if beginsWord "not" text then return some (← wordPair .notIn "not" "in")
  else if beginsWord "is" text then
    let second ← attempt (wordPair .notSame "is" "not")
    match second with
    | some pair => return some pair
    | none => return some (.same, ← keyword "is")
  else if beginsWord "in" text then return some (.isIn, ← keyword "in")
  else
    match comparisonSign? text with
    | some op => return some (op, ← symbol op.symbol)
    | none => return none

/-- Whether an operand follows the word `await`; words that may follow the whole expression do not
count. -/
def beginsOperand (place : Place) (text : List Char) : Bool :=
  match leadingWord text with
  | [] =>
    match text with
    | '*' :: rest => !startsWith ['*'] rest && !startsWith ['='] rest
    | '+' :: rest | '-' :: rest => !startsWith ['='] rest
    | c :: _ => ['\'', '"', '`', '(', '[', '{', '~'].contains c ||
        (numeral? text).isSome || startsWith "...".toList text
    | [] => false
  | word => opensLiteral text || !(joiningWords ++ place.followers).contains (String.ofList word)

/-- A name or one of the three named constants. -/
def wordAtom : Parser Node := do
  let (word, extent) ← identifier
  match word with
  | "True" => return .truth true extent
  | "False" => return .truth false extent
  | "None" => return .none extent
  | _ => return .name word extent

/-- An operand without operators and trailers. -/
def atom (again : Reader) (place : Place) : Parser Node := do
  skipGap
  let text := (← get).rest
  if opensLiteral text then stringAtom again place
  else
    match numeral? text with
    | some (.integer length) =>
      return .integer (String.ofList (text.take length)) (← take length)
    | some (.float length) =>
      return .float (String.ofList (text.take length)) (← take length)
    | none =>
      match text with
      | '(' :: _ => parenthesized again place
      | '[' :: _ => bracketed again
      | '{' :: _ => braced again
      | '.' :: '.' :: '.' :: _ => return .other .ellipsis [] (← take 3)
      | _ => wordAtom

/-- Whether the word `await` comes next, with an operand of its own. -/
def awaits (place : Place) : Parser Bool := do
  let start ← get
  if beginsWord "await" (← look true) then
    let _ ← keyword "await"
    let text ← look place.multiline
    set start
    return beginsOperand place text
  else return false

/-- A star with a name, attribute or subscript behind it, of which it takes no more than it needs. -/
def starred (again : Reader) (place : Place) : Nat → Parser Node
  | 0 => unexpected
  | fuel + 1 => do
    let star ← symbol "*"
    if ← awaits place then unexpected
    let inner ←
      if startsWith ['*'] (← look true) then starred again place fuel else atom again .inside
    let operand ←
      match inner with
      | .name .. => pure inner
      | _ => toMember again .inside (← loopFuel) inner
    return .other .listSplat [operand] ⟨star.start, operand.extent.stop⟩

/-- All trailers behind `node`.  The end of a line counts only behind a name, attribute or
subscript. -/
def fullMember (again : Reader) (place : Place) : Nat → Node → Parser Node
  | 0, _ => unexpected
  | fuel + 1, node => do
    let complete := node.isMember || node.label == "identifier"
    match ← trailer? again (if complete then place else .inside) node with
    | some node => fullMember again place fuel node
    | none => return node

/-- A star that takes an attribute or subscript in full, up to the end of the line. -/
def starredLine (again : Reader) (place : Place) : Parser Node := do
  let star ← symbol "*"
  if ← awaits place then unexpected
  let operand ←
    if startsWith ['*'] (← look true) then
      let inner ← starred again place (← loopFuel)
      trailers again .inside (← loopFuel) inner
    else
      let inner ← atom again .inside
      fullMember again place (← loopFuel) inner
  if operand.isMember && (← lineEnd) then
    return .other .listSplat [operand] ⟨star.start, operand.extent.stop⟩
  else unexpected

def starredOperand (again : Reader) (place : Place) : Parser Node := do
  let loose : Parser Node := do
    let node ← starred again place (← loopFuel)
    trailers again place (← loopFuel) node
  if place.multiline then loose else orElse (starredLine again place) loose

/-- An operand before any binary operator. -/
def signed (again : Reader) (place : Place) : Parser Node := do
  let start ← here
  let text := (← get).rest
  let sign (op : UnaryOp) : Parser Node := do
    let _ ← take 1
    let operand ← again (.operand signStrength) place
    return .unary op operand ⟨start, operand.extent.stop⟩
  let plain : Parser Node := do
    let node ← atom again place
    trailers again place (← loopFuel) node
  match text with
  | '-' :: _ => sign .neg
  | '+' :: _ => sign .pos
  | '~' :: _ => sign .invert
  | '*' :: _ => starredOperand again place
  | _ =>
    if ← awaits place then
      let _ ← keyword "await"
      let operand ← again (.operand signStrength) place
      return .other .await [] ⟨start, operand.extent.stop⟩
    else plain

/-- Binary operators that bind tighter than `above`, behind an operand. -/
def binaryAfter (again : Reader) (above : Nat) (place : Place) : Nat → Node → Parser Node
  | 0, _ => unexpected
  | fuel + 1, left => do
    match binaryAt? (← look place.multiline) with
    | some op =>
      if strength op > above then
        let _ ← symbol op.symbol
        -- A power groups to the right, every other operator to the left.
        let bound := if op == .pow then signStrength else strength op
        let right ← again (.operand bound) place
        binaryAfter again above place fuel
          (.binary op left right ⟨left.extent.start, right.extent.stop⟩)
      else return left
    | none => return left

/-- An operand with the binary operators that bind tighter than `above`. -/
def operand (again : Reader) (above : Nat) (place : Place) : Parser Node := do
  let first ← signed again place
  binaryAfter again above place (← loopFuel) first

def comparandsAfter (again : Reader) (place : Place) :
    Nat → List Comparand → Parser (List Comparand)
  | 0, _ => unexpected
  | fuel + 1, comparands => do
    match ← comparison? place with
    | some (op, sign) =>
      let right ← again (.operand compareStrength) place
      comparandsAfter again place fuel (.mk op sign right :: comparands)
    | none => return comparands.reverse

/-- An operand, or a chain of comparisons. -/
def comparisonChain (again : Reader) (place : Place) : Parser Node := do
  let first ← operand again compareStrength place
  match ← comparandsAfter again place (← loopFuel) [] with
  | [] => return first
  | comparands => return .compare first comparands ⟨first.extent.start, ← position⟩

/-- What may stand behind the stars of a parameter: a name, an attribute or a subscript. -/
def starredParameter (again : Reader) : Parser Unit := do
  match ← again (.operand topStrength) .inside with
  | .name .. | .attribute .. | .subscript .. => pure ()
  | _ => unexpected

/-- A parameter of a lambda or of a function, where `typing` reads what may stand behind its name. -/
def parameter (again : Reader) (typing : Parser Unit) : Parser Unit := do
  let text ← look true
  if startsWith "**".toList text then
    let _ ← symbol "**"
    starredParameter again
    typing
  else if startsWith ['*'] text then
    let _ ← symbol "*"
    match ← look true with
    | ',' :: _ | ')' :: _ | ':' :: _ => pure ()
    | _ =>
      starredParameter again
      typing
  else if startsWith ['/'] text then
    let _ ← symbol "/"
  else
    if startsWith ['('] text then
      let target ← parenthesized again .inside
      unless target.isPattern do unexpected
    else
      let _ ← identifier
      typing
    if startsWith ['='] (← look true) then
      let _ ← symbol "="
      let _ ← again.whole .inside

/-- The word `lambda` with its parameters and body. -/
def lambdaExpression (again : Reader) (body : Goal) (place : Place) : Parser Node := do
  let start ← here
  let _ ← keyword "lambda"
  unless startsWith [':'] (← look true) do
    parameter again (pure ())
    let _ ← itemsAfter (parameter again (pure ())) ':' (← loopFuel) [()]
  let _ ← symbol ":"
  let body ← again body place
  return .other .lambda [] ⟨start, body.extent.stop⟩

/-- A name, the walrus sign and a value. -/
def namedExpression (again : Reader) (place : Place) : Parser Node := do
  let (_, extent) ← identifier
  let _ ← symbol ":="
  let value ← again (.expression asStrength) place
  return .other .namedExpression [] ⟨extent.start, value.extent.stop⟩

/-- An expression before any of the words that join expressions. -/
def simpleExpression (again : Reader) (place : Place) : Parser Node := do
  let start ← here
  let text := (← get).rest
  if beginsWord "not" text then
    let _ ← keyword "not"
    let operand ← again (.expression notStrength) place
    return .not operand ⟨start, operand.extent.stop⟩
  else if beginsWord "lambda" text then
    lambdaExpression again (.expression lambdaStrength) place
  else
    let before ← get
    let word := (← attempt wordAtom).map Node.label
    let named := word == some "identifier" && startsWith ":=".toList (← look place.multiline)
    set before
    if named then namedExpression again place else comparisonChain again place

/-- The joining words that bind tighter than `above`, behind an expression. -/
def joinedAfter (again : Reader) (above : Int) (place : Place) : Nat → Node → Parser Node
  | 0, _ => unexpected
  | fuel + 1, left => do
    let text ← look place.multiline
    let start := left.extent.start
    let logic (op : LogicOp) (bound : Int) : Parser Node := do
      let _ ← keyword op.symbol
      let right ← again (.expression bound) place
      joinedAfter again above place fuel (.logic op left right ⟨start, right.extent.stop⟩)
    if andStrength > above && beginsWord "and" text then logic .and andStrength
    else if orStrength > above && beginsWord "or" text then logic .or orStrength
    else if asStrength > above && beginsWord "as" text then
      let _ ← keyword "as"
      let target ← again (.expression asStrength) place
      joinedAfter again above place fuel
        (.other .asPattern [] ⟨start, target.extent.stop⟩)
    else if conditionalStrength > above && beginsWord "if" text then
      let _ ← keyword "if"
      let condition ← again.whole .condition
      let _ ← keyword "else"
      let no ← again (.expression lambdaStrength) place
      joinedAfter again above place fuel
        (.conditional left condition no ⟨start, no.extent.stop⟩)
    else return left

/-- An expression with the joining words that bind tighter than `above`. -/
def expression (again : Reader) (above : Int) (place : Place) : Parser Node := do
  let first ← simpleExpression again place
  joinedAfter again above place (← loopFuel) first

/-- What a loop of a comprehension runs over. -/
def loopSource (again : Reader) (place : Place) : Parser Node := do
  if beginsWord "lambda" (← look true) then lambdaExpression again .source place
  else expression again conditionalStrength place

/-- Reads a goal whose constructs nest at most `depth` levels.  Each part that is read again stands
behind the first token. -/
def readNode : (depth : Nat) → Reader
  | 0, _, _ => throw .tooDeep
  | depth + 1, goal, place =>
    let again : Reader := fun goal place => readNode depth goal place.onward
    match goal with
    | .expression above => expression again above place
    | .operand above => operand again above place
    | .source => loopSource again place

end Walkthrough.Syntax
