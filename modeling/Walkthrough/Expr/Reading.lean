import Walkthrough.Expr.Basic
import Walkthrough.Source.Scan
import Walkthrough.Syntax.Program
import Walkthrough.Text.Escape

/-!
# Reading expressions

From a text to the tree of its expression.  The text is read as a program; it must consist of one
expression, and every construct in it must be one that can be evaluated.  Literals get their values
here.
-/

namespace Walkthrough

open Syntax (Node Extent Trouble)
open Number Text

/-- Why a text is no expression.  Every cause carries the text it is about. -/
inductive ReadError where
  | empty
  | invalid (text : String)
  | notSingle (text : String)
  | notExpression (label text : String)
  | tuple (text : String)
  | unsupported (label : String) (column : Nat) (text : String)
  | number (text : String)
  | string (text : String)
  | bytes (text : String)
  | escape (text : String)
  | tooDeep (beginning : String)
  /-- A fault, which ends the whole run.  Reading runs into one only: a conditional expression has
  more than its three parts. -/
  | fault (cause : Fault) {crowded : cause = .crowdedConditional}
deriving DecidableEq, Repr

def ReadError.message : ReadError → String
  | .empty => "empty expression"
  | .invalid text => s!"invalid syntax: {text}"
  | .notSingle text => s!"expected a single expression: {text}"
  | .notExpression label text => s!"expected an expression, got {label}: {text}"
  | .tuple text => s!"tuples are not supported: {text}"
  | .unsupported label column text => s!"unsupported syntax '{label}' at column {column}: {text}"
  | .number text => s!"invalid number literal: {text}"
  | .string text => s!"invalid string literal: {text}"
  | .bytes text => s!"bytes literals are not supported: {text}"
  | .escape text => s!"invalid escape sequence in: {text}"
  | .tooDeep beginning => s!"expression is nested too deeply: {beginning}"
  | .fault cause => cause.message

namespace Reading

/-- The columns of an extent. -/
def spanOf (extent : Extent) : Span :=
  ⟨extent.start.column, extent.stop.column⟩

/-- A text that is read, with the joints between its lines. -/
structure Page where
  chars : List Char
  joints : List Extent

/-- The part of a text that an extent covers. -/
def Page.cut (page : Page) (extent : Extent) : String :=
  let length := extent.stop.offset - extent.start.offset
  String.ofList ((page.chars.drop extent.start.offset).take length)

/-- The error of a construct that cannot be evaluated. -/
def Page.unsupported (page : Page) (label : String) (extent : Extent) : ReadError :=
  .unsupported label extent.start.column (page.cut extent)

/-- The beginning of a text that is shown when it nests too deeply. -/
def Page.tooDeep (page : Page) : ReadError :=
  .tooDeep (String.ofList (page.chars.take 40))

/-- The joints of a construct that lie outside its parts. -/
def Page.jointsOf (page : Page) (extent : Extent) (parts : List Extent) : List Extent :=
  page.joints.filter fun joint => joint.within extent && !parts.any joint.within

/-- Fails at a joint that stands before the given offset. -/
def Page.passTo (page : Page) (joints : List Extent) (offset : Nat) : Except ReadError Unit :=
  match joints.find? (·.start.offset < offset) with
  | some joint => .error (page.unsupported Syntax.Construct.joint.label joint)
  | none => .ok ()

/-- Line ends in their plain form. -/
def plainLines : List Char → List Char
  | [] => []
  | '\r' :: '\n' :: rest => '\n' :: plainLines rest
  | c :: rest => (if c == '\r' then '\n' else c) :: plainLines rest

/-- Whether a line end stands in the contents of a literal without a backslash before it. -/
def breaksLine : List Char → Bool
  | [] => false
  | '\\' :: _ :: rest => breaksLine rest
  | c :: rest => c == '\n' || breaksLine rest

/-- The value of a string literal without fields: its flags must be none, `r` or `u`, its quotes
those of a string, and it must not hold a null character. -/
def literalValue? (flags : String) (text : String) : Option String := do
  let opened := plainLines (text.toList.drop flags.length)
  let quote ← opened.head?
  guard ((quote == '\'' || quote == '"') && !opened.contains '\x00')
  let triple := opened.length ≥ 6 && Syntax.startsWith [quote, quote, quote] opened
  let width := if triple then 3 else 1
  let body := (opened.drop width).take (opened.length - 2 * width)
  guard (triple || !breaksLine body)
  match flags with
  | "r" | "R" => return String.ofList body
  | "" | "u" | "U" => return String.ofList (← unescape? body)
  | _ => none

/-- A text with one brace for every two. -/
def singleBraces : List Char → List Char
  | [] => []
  | '{' :: '{' :: rest => '{' :: singleBraces rest
  | '}' :: '}' :: rest => '}' :: singleBraces rest
  | c :: rest => c :: singleBraces rest

/-- The value of a piece of text in a literal with fields. -/
def pieceValue (raw : Bool) (text : String) : Except ReadError String :=
  let cs := singleBraces text.toList
  if raw || !cs.contains '\\' then .ok (String.ofList cs)
  else
    match unescape? (escapeWide cs) with
    | some value => .ok (String.ofList value)
    | none => .error (.escape (String.ofList cs))

/-- The value of an integer or decimal numeral. -/
def numeralValue (page : Page) (node : Node) (digits : String) (extent : Extent) :
    Except ReadError Expr :=
  let value? : Option Constant :=
    match node with
    | .integer .. => (readInteger 0 digits.toList).toOption.map Constant.int
    | _ => (readFloat? digits.toList).map Constant.float
  if digits.endsWith "j" || digits.endsWith "J" then
    .error (page.unsupported node.label extent)
  else
    match value? with
    | some value => .ok (.const value (spanOf extent))
    | none => .error (.number digits)

/-- A string constant, or the pieces of a literal with fields. -/
inductive Lowered where
  | constant (value : String) (span : Span)
  | pieces (parts : List Piece) (span : Span)

/-- The pieces that a literal contributes to a formatted string. -/
def Lowered.toPieces : Lowered → List Piece
  | .constant value span => [.text value span]
  | .pieces parts _ => parts

def Lowered.toExpr : Lowered → Expr
  | .constant value span => .const (.str value) span
  | .pieces parts span => .formatted parts span

/-- Literals side by side as one expression: a constant if all of them are. -/
def joinLiterals (literals : List Lowered) (span : Span) : Expr :=
  let constants := literals.filterMap fun
    | .constant value _ => some value
    | .pieces .. => none
  if constants.length == literals.length then .const (.str (String.join constants)) span
  else .formatted (literals.flatMap Lowered.toPieces) span

mutual

/-- The expression of a construct that nests at most `depth` levels. -/
def lower (page : Page) (depth : Nat) (node : Node) : Except ReadError Expr :=
  match depth with
  | 0 => .error page.tooDeep
  | depth + 1 =>
    match node with
    | .name text extent => .ok (.name text (spanOf extent))
    | .integer digits extent => numeralValue page (.integer digits extent) digits extent
    | .float digits extent => numeralValue page (.float digits extent) digits extent
    | .truth value extent => .ok (.const (.bool value) (spanOf extent))
    | .none extent => .ok (.const .none (spanOf extent))
    | .string literal => do return (← lowerLiteral page depth literal).toExpr
    | .strings literals extent => do
      let joints := page.jointsOf extent (literals.map (·.extent))
      return joinLiterals (← lowerLiterals page depth joints literals) (spanOf extent)
    | .binary op left right extent => do
      return .binary op (← lower page depth left) (← lower page depth right) (spanOf extent)
    | .logic op left right extent => do
      return .logic op (← lower page depth left) (← lower page depth right) (spanOf extent)
    | .not operand extent => do return .not (← lower page depth operand) (spanOf extent)
    | .unary op operand extent => do
      return .unary op (← lower page depth operand) (spanOf extent)
    | .compare first rest extent => do
      let parts := first.extent :: rest.flatMap fun | .mk _ sign operand => [sign, operand.extent]
      let joints := page.jointsOf extent parts
      return .compare (← lower page depth first) (← lowerComparands page depth joints rest)
        (spanOf extent)
    | .conditional yes condition no extent => do
      unless (page.jointsOf extent [yes.extent, condition.extent, no.extent]).isEmpty do
        throw (@ReadError.fault .crowdedConditional rfl)
      return .conditional (← lower page depth condition) (← lower page depth yes)
        (← lower page depth no) (spanOf extent)
    | .paren inner extent => do
      unless (page.jointsOf extent [inner.extent]).isEmpty do
        throw (page.unsupported (Node.paren inner extent).label extent)
      lower page depth inner
    | .call function arguments brackets extent => do
      let joints := page.jointsOf brackets (arguments.map (·.extent))
      let arguments ← lowerAll page depth joints brackets.stop.offset arguments
      match function with
      | .attribute object name _ =>
        return .method (← lower page depth object) name arguments (spanOf extent)
      | .name text _ => return .call text arguments (spanOf extent)
      | other => throw (page.unsupported other.label other.extent)
    | .callGenerator _ generator _ =>
      .error (page.unsupported Syntax.Construct.generator.label generator)
    | .attribute object name extent =>
      .error (page.unsupported (Node.attribute object name extent).label extent)
    | .subscript object items extent =>
      match items with
      | [.index value] => do
        let index ← lower page depth value
        return .subscript (← lower page depth object) index (spanOf extent)
      | [.slice start stop step bounds] => do
        let parts := [start, stop, step].filterMap (·.map Node.extent)
        let joints := page.jointsOf bounds parts
        let start ← lowerPart page depth joints start
        let stop ← lowerPart page depth joints stop
        let step ← lowerPart page depth joints step
        page.passTo joints bounds.stop.offset
        return .slice (← lower page depth object) start stop step (spanOf bounds)
          (spanOf extent)
      | items => .error (page.unsupported (Node.subscript object items extent).label extent)
    | .list elements extent => do
      let joints := page.jointsOf extent (elements.map (·.extent))
      return .list (← lowerAll page depth joints extent.stop.offset elements) (spanOf extent)
    | .dictionary entries extent => do
      let joints := page.jointsOf extent (entries.map (·.extent))
      let entries ← lowerEntries page depth joints entries
      page.passTo joints extent.stop.offset
      return .dict entries (spanOf extent)
    | .listComprehension body clauses extent => do
      let clauses ← lowerClauses page depth clauses
      return .comprehension (← lower page depth body) clauses (spanOf extent)
    | .other kind _ extent => .error (page.unsupported kind.label extent)

/-- The expressions of constructs that stand side by side up to the offset `stop`, with joints
between them. -/
def lowerAll (page : Page) (depth : Nat) (joints : List Extent) (stop : Nat) (nodes : List Node) :
    Except ReadError (List Expr) :=
  match nodes with
  | [] => do
    page.passTo joints stop
    return []
  | node :: rest => do
    page.passTo joints node.extent.start.offset
    let expr ← lower page depth node
    return expr :: (← lowerAll page depth joints stop rest)

def lowerPart (page : Page) (depth : Nat) (joints : List Extent) (part : Option Node) :
    Except ReadError (Option Expr) :=
  match part with
  | none => .ok none
  | some node => do
    page.passTo joints node.extent.start.offset
    return some (← lower page depth node)

def lowerComparands (page : Page) (depth : Nat) (joints : List Extent)
    (comparands : List Syntax.Comparand) : Except ReadError (List Comparand) :=
  match comparands with
  | [] => .ok []
  | .mk op _ operand :: rest => do
    page.passTo joints operand.extent.start.offset
    let operand ← lower page depth operand
    return .mk op operand :: (← lowerComparands page depth joints rest)

def lowerEntries (page : Page) (depth : Nat) (joints : List Extent)
    (entries : List Syntax.Entry) : Except ReadError (List Entry) :=
  match entries with
  | [] => .ok []
  | .pair key value :: rest => do
    page.passTo joints key.extent.start.offset
    let key ← lower page depth key
    let value ← lower page depth value
    return .mk key value :: (← lowerEntries page depth joints rest)
  | .splat extent :: _ => do
    page.passTo joints extent.start.offset
    throw (page.unsupported Syntax.Construct.dictionarySplat.label extent)

def lowerClauses (page : Page) (depth : Nat) (clauses : List Syntax.Clause) :
    Except ReadError (List Clause) :=
  match clauses with
  | [] => .ok []
  | .forIn target sources extent :: rest =>
    match target, sources with
    | some target, [node] => do
      let clause := Clause.forIn target (← lower page depth node) (spanOf extent)
      return clause :: (← lowerClauses page depth rest)
    | _, _ => .error (page.unsupported "for_in_clause" extent)
  | .filter condition extent :: rest => do
    let joints := page.jointsOf extent [condition.extent]
    page.passTo joints condition.extent.start.offset
    let clause := Clause.filter (← lower page depth condition) (spanOf extent)
    return clause :: (← lowerClauses page depth rest)

def lowerLiteral (page : Page) (depth : Nat) (literal : Syntax.Literal) :
    Except ReadError Lowered :=
  match literal with
  | .mk flags text pieces extent =>
    let letters := flags.toLower.toList
    if letters.contains 'b' then .error (.bytes text)
    else if letters.contains 'f' then do
      return .pieces (← lowerPieces page depth (letters.contains 'r') pieces) (spanOf extent)
    else
      match literalValue? flags text with
      | some value => .ok (.constant value (spanOf extent))
      | none => .error (.string text)

/-- The literals of a list of literals; a joint between them is taken for a literal too. -/
def lowerLiterals (page : Page) (depth : Nat) (joints : List Extent)
    (literals : List Syntax.Literal) : Except ReadError (List Lowered) :=
  match literals with
  | [] => .ok []
  | literal :: rest => do
    if let some joint := joints.find? (·.start.offset < literal.extent.start.offset) then
      throw (.string (page.cut joint))
    let lowered ← lowerLiteral page depth literal
    return lowered :: (← lowerLiterals page depth joints rest)

def lowerPieces (page : Page) (depth : Nat) (raw : Bool) (pieces : List Syntax.Piece) :
    Except ReadError (List Piece) :=
  match pieces with
  | [] => .ok []
  | .text text :: rest => do
    let piece := Piece.text (← pieceValue raw text) .unknown
    return piece :: (← lowerPieces page depth raw rest)
  | .field value conversion spec extent :: rest => do
    let piece := Piece.field (← lower page depth value) conversion spec (spanOf extent)
    return piece :: (← lowerPieces page depth raw rest)

end

/-- Where nothing may nest any more, nothing is lowered. -/
theorem lower_zero (page : Page) (node : Node) : lower page 0 node = .error page.tooDeep := by
  rw [lower]

/-- The expression that a text consists of, once it is read as a program.  A joint outside the
statements counts as one more statement, and a joint beside the expression of a statement as one
more expression. -/
def ofProgram (text : String) (program : Syntax.Program) : Except ReadError Expr :=
  let page : Page := ⟨text.toList, program.joints⟩
  let outside := program.joints.filter fun joint =>
    !program.statements.any fun statement => joint.within statement.extent
  match program.statements, outside with
  | [], [_] => .error (.notExpression Syntax.Construct.joint.label text)
  | [.print arguments extent], [] => do
    let joints := page.jointsOf extent (arguments.map (·.extent))
    let arguments ← lowerAll page Syntax.nestingLimit joints extent.stop.offset arguments
    return .call "print" arguments (spanOf extent)
  | [.expressions [node] extent], [] =>
    if (page.jointsOf extent [node.extent]).isEmpty then lower page Syntax.nestingLimit node
    else .error (.tuple text)
  | [.expressions ..], [] => .error (.tuple text)
  | [.other label _], [] => .error (.notExpression label text)
  | _, _ => .error (.notSingle text)

end Reading

/-- The expression that a text consists of. -/
def Expr.ofText (text : String) : Except ReadError Expr :=
  if (strip text).isEmpty then .error .empty
  else
    match Syntax.parse text with
    | .ok program => Reading.ofProgram text program
    | .error .unexpected => .error (.invalid text)
    | .error .tooDeep =>
      -- Only the brackets of so deep a text are looked at.
      if Source.balance text == 0 then .error (Reading.Page.tooDeep ⟨text.toList, []⟩)
      else .error (.invalid text)

end Walkthrough
