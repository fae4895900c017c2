import Walkthrough.Expr.Basic

/-!
# Outlines of expressions

An outline is an expression as a uniform tree: every node has a kind, perhaps a value or operators,
and children.  It is what is shown of an expression.
-/

namespace Walkthrough

open Text

/-- What a node of an outline carries besides its children. -/
inductive Payload where
  | nothing
  | constant (value : Scalar)
  | word (text : String)
  /-- The conversion letter and the specification of a formatted field. -/
  | format (conversion spec : String)

inductive Outline where
  | node (kind : String) (payload : Payload) (operators : List String) (children : List Outline)
    (span : Span)

/-- The outline of a constant that the text leaves out. -/
def Outline.absent : Outline :=
  .node "CONST" (.constant .none) [] [] .unknown

mutual

def Expr.outline : Expr → Outline
  | .const value span => .node "CONST" (.constant value.scalar) [] [] span
  | .name id span => .node "NAME" (.word id) [] [] span
  | .binary op left right span =>
    .node "BINOP" (.word op.symbol) [] [left.outline, right.outline] span
  | .logic op left right span =>
    .node "BOOLOP" (.word op.symbol) [] [left.outline, right.outline] span
  | .not operand span => .node "NOT" .nothing [] [operand.outline] span
  | .unary op operand span => .node "UNARY" (.word op.symbol) [] [operand.outline] span
  | .compare first rest span =>
    .node "COMPARE" .nothing (rest.map fun | .mk op _ => op.symbol)
      (first.outline :: outlineComparands rest) span
  | .conditional condition yes no span =>
    .node "CONDITIONAL" .nothing [] [condition.outline, yes.outline, no.outline] span
  | .call function arguments span =>
    .node "CALL" (.word function) [] (outlineAll arguments) span
  | .method receiver name arguments span =>
    .node "METHOD_CALL" (.word name) [] (receiver.outline :: outlineAll arguments) span
  | .subscript object index span =>
    .node "SUBSCRIPT" .nothing [] [object.outline, index.outline] span
  | .slice object start stop step bounds span =>
    let parts := [outlinePart start, outlinePart stop, outlinePart step]
    .node "SUBSCRIPT" .nothing [] [object.outline, .node "SLICE" .nothing [] parts bounds] span
  | .list elements span => .node "LIST" .nothing [] (outlineAll elements) span
  | .dict entries span => .node "DICT" .nothing [] (outlineEntries entries) span
  | .comprehension body clauses span =>
    .node "LIST_COMP" .nothing [] (body.outline :: outlineClauses clauses) span
  | .formatted pieces span => .node "FSTRING" .nothing [] (outlinePieces pieces) span

def outlineAll : List Expr → List Outline
  | [] => []
  | expr :: rest => expr.outline :: outlineAll rest

def outlinePart : Option Expr → Outline
  | none => .absent
  | some expr => expr.outline

def outlineComparands : List Comparand → List Outline
  | [] => []
  | .mk _ operand :: rest => operand.outline :: outlineComparands rest

def outlineEntries : List Entry → List Outline
  | [] => []
  | .mk key value :: rest => key.outline :: value.outline :: outlineEntries rest

def outlineClauses : List Clause → List Outline
  | [] => []
  | .forIn target source span :: rest =>
    .node "COMP_FOR" (.word target) [] [source.outline] span :: outlineClauses rest
  | .filter condition span :: rest =>
    .node "COMP_IF" .nothing [] [condition.outline] span :: outlineClauses rest

def outlinePieces : List Piece → List Outline
  | [] => []
  | .text value span :: rest =>
    .node "CONST" (.constant (.str value)) [] [] span :: outlinePieces rest
  | .field value conversion spec span :: rest =>
    .node "FORMAT" (.format conversion spec) [] [value.outline] span :: outlinePieces rest

end

mutual

/-- An outline on one line, inner nodes in parentheses. -/
def Outline.show : Outline → Except Fault String
  | .node kind payload operators children _ => do
    match kind, payload with
    | "CONST", .constant value => value.show
    | "NAME", .word id => return id
    | _, _ =>
      let own := match payload with
        | .nothing | .constant _ => []
        | .word text => [text]
        | .format conversion spec => [s!"({quoted conversion}, {quoted spec})"]
      let inner ← showOutlines children
      return "(" ++ " ".intercalate (kind.toLower :: own ++ operators ++ inner) ++ ")"

def showOutlines : List Outline → Except Fault (List String)
  | [] => .ok []
  | outline :: rest => do
    let text ← outline.show
    return text :: (← showOutlines rest)

end

end Walkthrough
