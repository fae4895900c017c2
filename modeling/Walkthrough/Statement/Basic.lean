import Walkthrough.Statement.Header

/-!
# Statements

What the code of one line asks for.  A line is tried against the forms of a statement in a fixed
order, and the first that fits is taken; two of the forms depend on what a name is bound to when the
line is run, and carry what the line means otherwise.
-/

namespace Walkthrough

open Text Source

/-- The operations on lists that a line may call by name. -/
def listOperations : List String :=
  ["append", "extend", "remove", "pop", "insert", "clear", "sort", "reverse", "index", "count"]

/-- The operations on dictionaries that a line may call by name. -/
def dictOperations : List String :=
  ["update", "pop", "setdefault", "clear", "get", "keys", "values", "items"]

inductive Statement where
  /-- `name = source`.  A literal that cannot be evaluated is kept as text. -/
  | assign (name source : String) (value : Reading) (isLiteral : Bool)
  /-- `name[key] = value`. -/
  | setItem (name : String) (key value : Reading)
  /-- `name op= value`. -/
  | augment (name : String) (op : BinaryOp) (value : Reading)
  /-- An operation of a list or dictionary, unless the name is bound to a text. -/
  | operate (name operation : String) (call : Reading) (otherwise : Statement)
  /-- `print(…)`, unless a function of that name is defined. -/
  | print (call : Reading) (otherwise : Statement)
  /-- A function header. -/
  | define (definition : Definition)
  /-- A call that stands alone. -/
  | call (function text : String) (reading : Reading)
  /-- A loop header. -/
  | loop (header : Loop)
  /-- A condition. -/
  | guard (header : Guard)
  /-- A line without effect. -/
  | pass
  | ret (value : Option Reading)
  /-- Any other line: it is evaluated if it is an expression. -/
  | other (text : String) (reading : Reading)

/-- What follows a single `=`, without the white space around it. -/
def afterEquals? (text : List Char) : Option String :=
  match text.dropWhile isBlank with
  | '=' :: '=' :: _ => none
  | '=' :: rest => if rest.isEmpty then none else some (strip (String.ofList rest))
  | _ => none

/-- Whether a word begins at the front of `text`, given whether a word character stands before. -/
def wordHere (word : String) (afterWordChar : Bool) (text : List Char) : Bool :=
  !afterWordChar && word.toList.isPrefixOf text &&
    !((text.drop word.length).head?.map isWord).getD false

/-- What follows the first occurrence of a word. -/
def afterFirst? (word : String) (afterWordChar : Bool) : List Char → Option (List Char)
  | [] => none
  | c :: rest =>
    if wordHere word afterWordChar (c :: rest) then some ((c :: rest).drop word.length)
    else afterFirst? word (isWord c) rest

/-- Whether a text looks like a comprehension: in brackets, with the word `for`, and behind it, not
at once, the word `in`. -/
def looksLikeComprehension (text : List Char) : Bool :=
  match text with
  | '[' :: rest =>
    rest.getLast? == some ']' &&
      match afterFirst? "for" false rest.dropLast with
      | some (c :: rest) => (afterFirst? "in" (isWord c) rest).isSome
      | _ => false
  | _ => false

/-- Whether a text is taken for a list or dictionary literal. -/
def looksLikeLiteral (text : String) : Bool :=
  match text.toList with
  | '[' :: rest => !looksLikeComprehension ('[' :: rest)
  | '{' :: _ => true
  | _ => false

/-- Whether the rest of a text begins with a parenthesis that the last character closes. -/
def opensWholeRest (text : String) (rest : List Char) : Bool :=
  rest.head? == some '(' &&
    findMatching? text (text.length - rest.length) == some (text.length - 1)

/-- The operators of augmented assignments, longer ones first. -/
def augmentOps : List BinaryOp :=
  [.floorDiv, .pow, .add, .sub, .mul, .div, .mod]

/-- What follows an operator and the `=` behind it. -/
def afterAugment? (text : List Char) : Option (BinaryOp × String) :=
  augmentOps.findSome? fun op =>
    let sign := (op.symbol ++ "=").toList
    let rest := text.drop sign.length
    if sign.isPrefixOf text && !rest.isEmpty then some (op, strip (String.ofList rest)) else none

/-- `name = source` -/
def assignOf? (text : String) : Option Statement := do
  let (name, rest) ← leadingName? text.toList
  let source ← afterEquals? rest
  return .assign (String.ofList name) source (Reading.ofText source) (looksLikeLiteral source)

/-- `name[key] = value` -/
def setItemOf? (text : String) : Option Statement := do
  let chars := text.toList
  let (name, rest) ← leadingName? chars
  let rest := rest.dropWhile isBlank
  guard (rest.head? == some '[')
  let start := chars.length - rest.length
  let close ← findMatching? text start
  let value ← afterEquals? (chars.drop (close + 1))
  let key := String.ofList ((chars.drop (start + 1)).take (close - start - 1))
  return .setItem (String.ofList name) (Reading.ofText key) (Reading.ofText value)

/-- `name op= value` -/
def augmentOf? (text : String) : Option Statement := do
  let (name, rest) ← leadingName? text.toList
  let (op, value) ← afterAugment? (rest.dropWhile isBlank)
  return .augment (String.ofList name) op (Reading.ofText value)

/-- The names of `name.operation(…)`. -/
def operationOf? (text : String) : Option (String × String) := do
  let (name, rest) ← leadingName? text.toList
  match rest.dropWhile isBlank with
  | '.' :: rest =>
    let (operation, rest) ← leadingName? (rest.dropWhile isBlank)
    guard (opensWholeRest text (rest.dropWhile isBlank))
    let operation := String.ofList operation
    guard (listOperations.contains operation || dictOperations.contains operation)
    return (String.ofList name, operation)
  | _ => none

/-- The name of `name(…)`. -/
def calledName? (text : String) : Option String := do
  let (name, rest) ← leadingName? text.toList
  guard (opensWholeRest text (rest.dropWhile isBlank))
  return String.ofList name

/-- A call that stands alone. -/
def callOf? (text : String) : Option Statement := do
  let name ← calledName? text
  guard !(["if", "while", "return"].contains name)
  return .call name text (Reading.ofText text)

/-- A header that is not run together with its block. -/
def headerOf? (text : String) : Option Statement := do
  guard (text.toList.getLast? == some ':')
  match Loop.ofHeader? text, Guard.ofHeader? text with
  | some header, _ => return .loop header
  | none, some header => return if header.word == .elifWord then .pass else .guard header
  | none, none => return .pass

/-- `return`, perhaps with a value. -/
def returnOf? (text : String) : Option Statement := do
  guard (wordHere "return" false text.toList)
  let value := strip (String.ofList (text.toList.drop "return".length))
  return .ret (if value.isEmpty then none else some (Reading.ofText value))

/-- The forms that depend on no binding, without the assignments. -/
def plainStatement (text : String) : Statement :=
  let define? := (Definition.ofHeader? text).map Statement.define
  match define? <|> callOf? text <|> headerOf? text <|> returnOf? text with
  | some statement => statement
  | none => .other text (Expr.ofText text)

/-- A line `print(…)`, or one of the plain forms. -/
def printOrPlain (text : String) : Statement :=
  if calledName? text == some "print" then
    match Expr.ofText text with
    | .ok (.call function arguments span) =>
      .print (.ok (.call function arguments span)) (plainStatement text)
    | .ok _ => plainStatement text
    | .error cause => .print (.error cause) (plainStatement text)
  else plainStatement text

def Statement.ofCode (text : String) : Statement :=
  if text.isEmpty then .pass
  else
    match assignOf? text <|> setItemOf? text <|> augmentOf? text with
    | some statement => statement
    | none =>
      match operationOf? text with
      | some (name, operation) => .operate name operation (Expr.ofText text) (printOrPlain text)
      | none => printOrPlain text

end Walkthrough
