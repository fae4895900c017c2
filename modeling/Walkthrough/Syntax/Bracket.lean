import Walkthrough.Syntax.Reader

/-!
# The grammar of brackets

Parentheses, square brackets and braces, with the calls, subscripts and attributes that follow an
operand.

A star spreads what follows it.  At the beginning of an element it may be read in two ways: as a
spread of the whole element, and as a spread of its first operand alone.  Which reading counts
depends on where the element stands and on what follows it; the functions below try both.
-/

namespace Walkthrough.Syntax

/-- A star and the expression that it spreads. -/
def splat (again : Reader) (place : Place) : Parser Node := do
  let start ← symbol "*"
  let node ← again.whole place
  return .other .listSplat [node] ⟨start.start, node.extent.stop⟩

/-- Parentheses around nothing but a spread expression, once or more. -/
def parenthesizedSplat (again : Reader) : Nat → Parser Node
  | 0 => unexpected
  | fuel + 1 => do
    let start ← symbol "("
    let node ←
      match ← look true with
      | '*' :: _ => splat again .inside
      | '(' :: _ => parenthesizedSplat again fuel
      | _ => unexpected
    let stop ← symbol ")"
    return .other .parenthesizedSplat [node] ⟨start.start, stop.stop⟩

/-- A spread of a whole element, perhaps in parentheses. -/
def spread (again : Reader) (place : Place) : Parser Node := do
  if startsWith ['*'] (← look true) then splat again place
  else parenthesizedSplat again (← loopFuel)

/-- An expression that `follows` accepts what stands behind. -/
def followed (parser : Parser Node) (follows : List Char → Bool) : Parser Node := do
  let node ← parser
  if follows (← look true) then return node else unexpected

/-- Whether an element ends here: at a comma or at the closing bracket. -/
def elementEnds (closer : Char) (text : List Char) : Bool :=
  startsWith [','] text || startsWith [closer] text

/-- Parentheses around one expression. -/
def enclosed (again : Reader) : Parser Node := do
  let start ← symbol "("
  let node ← again.whole .body
  let stop ← symbol ")"
  return .paren node ⟨start.start, stop.stop⟩

/-- Whether a text begins with parentheses that may hold a spread. -/
def opensSpread : Parser Bool := do
  let cursor ← get
  let opened ← attempt do
    let _ ← symbol "("
    let text ← look true
    return startsWith ['*'] text || startsWith ['('] text
  set cursor
  return opened == some true

/-- Whether a comprehension clause with a loop comes next. -/
def beginsLoop (text : List Char) : Bool :=
  beginsWord "for" text || beginsWord "async" text

/-- Whether a text goes on as it may behind an expression that is the first and only element. -/
def closesAlone (closer : Char) (text : List Char) : Bool :=
  startsWith [closer] text || beginsLoop text ||
    (startsWith [':'] text && !startsWith [':', '='] text)

/-- An element that begins with parentheses.  If they hold a spread they count as such only before
the comma of a first element, unless they cannot be read otherwise; more of the expression may follow
them only if they can. -/
def parenthesizedElement (again : Reader) (first : Bool) (closer : Char) (place : Place) :
    Parser Node := do
  let start ← get
  match ← attempt (parenthesizedSplat again (← loopFuel)) with
  | none => again.whole place
  | some node =>
    let stop ← get
    let text ← look true
    if first && startsWith [','] text then return node
    else
      set start
      match ← attempt (enclosed again) with
      | some inner =>
        if elementEnds closer text then return inner
        else
          set start
          again.whole place
      | none =>
        set stop
        if elementEnds closer text then return node else unexpected

/-- Whether a word that begins an expression, but no operand, stands behind the star. -/
def spreadsKeyword : Parser Bool := do
  let start ← get
  let _ ← symbol "*"
  let text ← look true
  set start
  return beginsWord "not" text || beginsWord "lambda" text

/-- An element of a list, tuple or set that ends at `closer`; `first` tells whether it is the first
one.  A first element before something other than a comma is read as an expression if it can be; in
every other place a star spreads the whole element. -/
def element (again : Reader) (first : Bool) (closer : Char) : Parser Node := do
  let place := if first then .body else .inside
  let text ← look true
  if beginsWord "yield" text then followed (yieldExpression again .inside) (elementEnds closer)
  else if startsWith ['*'] text then
    let whole := followed (splat again place) (elementEnds closer)
    if first && !(← spreadsKeyword) then orElse (followed (again.whole place) (closesAlone closer)) whole else whole
  else if ← opensSpread then parenthesizedElement again first closer place
  else again.whole place

/-- The targets after the first one of a loop. -/
def targetsAfter (again : Reader) : Nat → List Node → Parser (List Node × Bool)
  | 0, _ => unexpected
  | fuel + 1, targets => do
    match ← look true with
    | ',' :: _ =>
      let _ ← symbol ","
      if beginsWord "in" (← look true) then return (targets.reverse, true)
      else
        let target ← again (.operand topStrength) .inside
        targetsAfter again fuel (target :: targets)
    | _ => return (targets.reverse, false)

/-- The targets of a loop; the name if there is a single one and it is a name. -/
def loopTarget (again : Reader) : Parser (Option String) := do
  let first ← again (.operand topStrength) .inside
  let (targets, trailing) ← targetsAfter again (← loopFuel) [first]
  unless allPatterns targets do unexpected
  match targets, trailing with
  | [.name text _], false => return some text
  | _, _ => return none

/-- The sources after the first one of a comprehension loop. -/
def sourcesAfter (again : Reader) : Nat → List Node → Parser (List Node)
  | 0, _ => unexpected
  | fuel + 1, sources => do
    match ← look true with
    | ',' :: _ =>
      let _ ← symbol ","
      let text ← look true
      let ended := match text with
        | c :: _ => [')', ']', '}'].contains c
        | [] => true
      if ended || beginsLoop text || beginsWord "if" text then return sources.reverse
      else
        let source ← again .source .body
        sourcesAfter again fuel (source :: sources)
    | _ => return sources.reverse

def loopClause (again : Reader) : Parser Clause := do
  let start ← here
  if beginsWord "async" (← look true) then
    let _ ← keyword "async"
  let _ ← keyword "for"
  let target ← loopTarget again
  let _ ← keyword "in"
  let first ← again .source .body
  let sources ← sourcesAfter again (← loopFuel) [first]
  return .forIn target sources ⟨start, ← position⟩

/-- The clauses after the first one of a comprehension. -/
def clausesAfter (again : Reader) : Nat → List Clause → Parser (List Clause)
  | 0, _ => unexpected
  | fuel + 1, clauses => do
    let text ← look true
    if beginsLoop text then
      clausesAfter again fuel ((← loopClause again) :: clauses)
    else if beginsWord "if" text then
      let start ← keyword "if"
      let condition ← again (.expression conditionalStrength) .body
      clausesAfter again fuel (.filter condition ⟨start.start, condition.extent.stop⟩ :: clauses)
    else return clauses.reverse

/-- The clauses of a comprehension: a loop, then loops and filters. -/
def comprehensionClauses (again : Reader) : Parser (List Clause) := do
  let first ← loopClause again
  clausesAfter again (← loopFuel) [first]

/-- A tuple of one spread expression without a comma.  It is read as such where the line ends behind
it, or where the parentheses hold no expression otherwise. -/
def lonelySpread (again : Reader) (place : Place) : Parser Node := do
  let start ← get
  let opening ← symbol "("
  let node ← spread again .inside
  let stop ← symbol ")"
  let ends ← lineEnd
  let after ← get
  let tuple := Node.other .tuple [node] ⟨opening.start, stop.stop⟩
  if !place.multiline && ends then return tuple
  else
    set start
    match ← attempt (enclosed again) with
    | some node => return node
    | none =>
      set after
      return tuple

/-- What begins with a parenthesis. -/
def parenthesized (again : Reader) (place : Place) : Parser Node := do
  let opened ← get
  let opening ← symbol "("
  let text ← look true
  match text with
  | ')' :: _ =>
    let stop ← symbol ")"
    return .other .tuple [] ⟨opening.start, stop.stop⟩
  | _ =>
    let spread? ←
      if startsWith ['*'] text || (← opensSpread) then
        let inner ← get
        set opened
        let tuple? ← attempt (lonelySpread again place)
        if tuple?.isNone then set inner
        pure tuple?
      else pure none
    match spread? with
    | some node => return node
    | none =>
      let first ← element again true ')'
      match ← look true with
      | ')' :: _ =>
        let stop ← symbol ")"
        return .paren first ⟨opening.start, stop.stop⟩
      | ',' :: _ =>
        let elements ← itemsAfter (element again false ')') ')' (← loopFuel) [first]
        let stop ← symbol ")"
        return .other .tuple elements ⟨opening.start, stop.stop⟩
      | _ =>
        let _ ← comprehensionClauses again
        let stop ← symbol ")"
        return .other .generator [] ⟨opening.start, stop.stop⟩

/-- What begins with a square bracket. -/
def bracketed (again : Reader) : Parser Node := do
  let start ← here
  let _ ← symbol "["
  match ← look true with
  | ']' :: _ =>
    let stop ← symbol "]"
    return .list [] ⟨start, stop.stop⟩
  | _ =>
    let first ← element again true ']'
    if beginsLoop (← look true) then
      let clauses ← comprehensionClauses again
      let stop ← symbol "]"
      return .listComprehension first clauses ⟨start, stop.stop⟩
    else
      let elements ← itemsAfter (element again false ']') ']' (← loopFuel) [first]
      let stop ← symbol "]"
      return .list elements ⟨start, stop.stop⟩

/-- The rest of an entry behind its key. -/
def entryValue (again : Reader) (place : Place) (key : Node) : Parser Entry := do
  let _ ← symbol ":"
  return .pair key (← again.whole place)

def entry (again : Reader) : Parser Entry := do
  if startsWith "**".toList (← look true) then
    let start ← symbol "**"
    let node ← again.whole .inside
    return .splat ⟨start.start, node.extent.stop⟩
  else
    let key ← again.whole .inside
    entryValue again .inside key

def dictionaryAfter (again : Reader) (start : Position) (first : Entry) : Parser Node := do
  let entries ← itemsAfter (entry again) '}' (← loopFuel) [first]
  let stop ← symbol "\x7d"
  return .dictionary entries ⟨start, stop.stop⟩

/-- What begins with a brace. -/
def braced (again : Reader) : Parser Node := do
  let start ← here
  let _ ← symbol "\x7b"
  let text ← look true
  match text with
  | '}' :: _ =>
    let stop ← symbol "\x7d"
    return .dictionary [] ⟨start, stop.stop⟩
  | ',' :: _ =>
    let _ ← symbol ","
    let stop ← symbol "\x7d"
    return .dictionary [] ⟨start, stop.stop⟩
  | _ =>
    if startsWith "**".toList text then dictionaryAfter again start (← entry again)
    else
      let first ← element again true '}'
      let text ← look true
      if startsWith [':'] text then
        let pair ← entryValue again .body first
        if beginsLoop (← look true) then
          let _ ← comprehensionClauses again
          let stop ← symbol "\x7d"
          return .other .dictionaryComprehension [] ⟨start, stop.stop⟩
        else dictionaryAfter again start pair
      else if beginsLoop text then
        let _ ← comprehensionClauses again
        let stop ← symbol "\x7d"
        return .other .setComprehension [] ⟨start, stop.stop⟩
      else
        let elements ← itemsAfter (element again false '}') '}' (← loopFuel) [first]
        let stop ← symbol "\x7d"
        return .other .set elements ⟨start, stop.stop⟩

/-- Parentheses around a spread expression as an argument. -/
def Node.asArgument : Node → Node
  | .other .parenthesizedSplat [inner] extent => .paren inner.asArgument extent
  | node => node

/-- An argument of a call; `first` tells whether it is the first one.  If `spreads` holds,
parentheses around a spread count as such. -/
def argument (again : Reader) (first spreads : Bool) : Parser Node := do
  let place := if first then .body else .inside
  let text ← look true
  if startsWith "**".toList text then
    let start ← symbol "**"
    let node ← again.whole place
    return .other .dictionarySplat [] ⟨start.start, node.extent.stop⟩
  else if startsWith ['*'] text then
    let whole := followed (splat again place) (elementEnds ')')
    if first && !(← spreadsKeyword) then orElse whole (again.whole place) else whole
  else if ← opensSpread then
    let whole := followed (parenthesizedSplat again (← loopFuel)) (elementEnds ')')
    let node ←
      if spreads then orElse whole (parenthesizedElement again false ')' place)
      else parenthesizedElement again false ')' place
    return node.asArgument
  else
    let node ← again.whole place
    match node, ← look true with
    | .name _ extent, '=' :: after =>
      if startsWith ['='] after then return node
      else
        let _ ← symbol "="
        let value ← again.whole place
        return .other .keywordArgument [] ⟨extent.start, value.extent.stop⟩
    | _, _ => return node

/-- The arguments of a call of `function`; `spreads` is passed to the first one. -/
def callArguments (again : Reader) (spreads : Bool) (function : Node) : Parser Node := do
  let start := function.extent.start
  let opening ← symbol "("
  match ← look true with
  | ')' :: _ =>
    let stop ← symbol ")"
    return .call function [] ⟨opening.start, stop.stop⟩ ⟨start, stop.stop⟩
  | ',' :: _ =>
    let _ ← symbol ","
    let stop ← symbol ")"
    return .call function [] ⟨opening.start, stop.stop⟩ ⟨start, stop.stop⟩
  | _ =>
    let first ← argument again true spreads
    if beginsLoop (← look true) then
      let _ ← comprehensionClauses again
      let stop ← symbol ")"
      return .callGenerator function ⟨opening.start, stop.stop⟩ ⟨start, stop.stop⟩
    else
      let arguments ← itemsAfter (argument again false false) ')' (← loopFuel) [first]
      let stop ← symbol ")"
      return .call function arguments ⟨opening.start, stop.stop⟩ ⟨start, stop.stop⟩

/-- A call of `function`.  Parentheses around a spread count as such in its first argument only if
the line ends behind the call. -/
def callAfter (again : Reader) (place : Place) (function : Node) : Parser Node := do
  let plain := callArguments again false function
  if place.multiline || !(← opensSpread) then plain
  else
    let ending : Parser Node := do
      let node ← callArguments again true function
      if ← lineEnd then return node else unexpected
    orElse ending plain

def slicePart (again : Reader) : Parser (Option Node) := do
  match ← look true with
  | ':' :: _ | ',' :: _ | ']' :: _ => return none
  | _ => return some (← again.whole .inside)

def subscriptItem (again : Reader) : Parser Item := do
  let start ← here
  let first ← slicePart again
  match first, ← look true with
  | _, ':' :: _ =>
    let _ ← symbol ":"
    let second ← slicePart again
    let third ←
      match ← look true with
      | ':' :: _ =>
        let _ ← symbol ":"
        slicePart again
      | _ => pure none
    return .slice first second third ⟨start, ← position⟩
  | some index, _ => return .index index
  | none, _ => unexpected

def subscriptAfter (again : Reader) (object : Node) : Parser Node := do
  let _ ← symbol "["
  let first ← subscriptItem again
  let items ← itemsAfter (subscriptItem again) ']' (← loopFuel) [first]
  let stop ← symbol "]"
  return .subscript object items ⟨object.extent.start, stop.stop⟩

/-- A call, subscript or attribute of `node`, if one follows. -/
def trailer? (again : Reader) (place : Place) (node : Node) : Parser (Option Node) := do
  match ← look place.multiline with
  | '(' :: _ => return some (← callAfter again place node)
  | '[' :: _ => return some (← subscriptAfter again node)
  | '.' :: _ =>
    let _ ← symbol "."
    let (name, extent) ← identifier
    return some (.attribute node name ⟨node.extent.start, extent.stop⟩)
  | _ => return none

/-- All calls, subscripts and attributes behind `node`. -/
def trailers (again : Reader) (place : Place) : Nat → Node → Parser Node
  | 0, _ => unexpected
  | fuel + 1, node => do
    match ← trailer? again place node with
    | some node => trailers again place fuel node
    | none => return node

/-- Whether a construct is part of an object: an attribute or a subscript. -/
def Node.isMember : Node → Bool
  | .attribute .. | .subscript .. => true
  | _ => false

/-- The calls behind `node` up to the first attribute or subscript, which must be there. -/
def toMember (again : Reader) (place : Place) : Nat → Node → Parser Node
  | 0, _ => unexpected
  | fuel + 1, node => do
    match ← trailer? again place node with
    | some node => if node.isMember then return node else toMember again place fuel node
    | none => unexpected

end Walkthrough.Syntax
