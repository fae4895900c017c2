import Walkthrough.Expr.Operator
import Walkthrough.Syntax.Cursor

/-!
# Syntax trees

What a parser has read, as it stands in the text: parentheses are kept, numbers and literals are
still text, and constructs that have no meaning here are kept by kind so that they can be named when
they are rejected.
-/

namespace Walkthrough.Syntax

/-- Constructs that are read but never evaluated. -/
inductive Construct where
  | assignment | augmentedAssignment | namedExpression | lambda | yield | await | asPattern
  | tuple | set | ellipsis | listSplat | parenthesizedSplat | dictionarySplat | keywordArgument
  | generator | setComprehension | dictionaryComprehension | expressionList | chevron
  /-- A joint between two lines. -/
  | joint
deriving DecidableEq, Repr

/-- The name of a construct in messages. -/
def Construct.label : Construct → String
  | .assignment => "assignment"
  | .augmentedAssignment => "augmented_assignment"
  | .namedExpression => "named_expression"
  | .lambda => "lambda"
  | .yield => "yield"
  | .await => "await"
  | .asPattern => "as_pattern"
  | .tuple => "tuple"
  | .set => "set"
  | .ellipsis => "ellipsis"
  | .listSplat => "list_splat"
  | .parenthesizedSplat => "parenthesized_list_splat"
  | .dictionarySplat => "dictionary_splat"
  | .keywordArgument => "keyword_argument"
  | .generator => "generator_expression"
  | .setComprehension => "set_comprehension"
  | .dictionaryComprehension => "dictionary_comprehension"
  | .expressionList => "expression_list"
  | .chevron => "chevron"
  | .joint => "line_continuation"

mutual

/-- A construct that may stand where an expression is expected. -/
inductive Node where
  | name (text : String) (extent : Extent)
  | integer (digits : String) (extent : Extent)
  | float (digits : String) (extent : Extent)
  | truth (value : Bool) (extent : Extent)
  | none (extent : Extent)
  | string (literal : Literal)
  | strings (literals : List Literal) (extent : Extent)
  | binary (op : BinaryOp) (left right : Node) (extent : Extent)
  | logic (op : LogicOp) (left right : Node) (extent : Extent)
  | not (operand : Node) (extent : Extent)
  | unary (op : UnaryOp) (operand : Node) (extent : Extent)
  | compare (first : Node) (rest : List Comparand) (extent : Extent)
  | conditional (yes condition no : Node) (extent : Extent)
  | paren (inner : Node) (extent : Extent)
  /-- A call; `brackets` are its parentheses with what stands between them. -/
  | call (function : Node) (arguments : List Node) (brackets : Extent) (extent : Extent)
  /-- A call whose only argument is a generator without parentheses of its own. -/
  | callGenerator (function : Node) (generator : Extent) (extent : Extent)
  | attribute (object : Node) (name : String) (extent : Extent)
  | subscript (object : Node) (items : List Item) (extent : Extent)
  | list (elements : List Node) (extent : Extent)
  | dictionary (entries : List Entry) (extent : Extent)
  | listComprehension (body : Node) (clauses : List Clause) (extent : Extent)
  | other (kind : Construct) (children : List Node) (extent : Extent)

/-- A later operand of a comparison with the operator before it and where that stands. -/
inductive Comparand where
  | mk (op : CompareOp) (sign : Extent) (operand : Node)

/-- What stands between the brackets of a subscript. -/
inductive Item where
  | index (value : Node)
  | slice (start stop step : Option Node) (extent : Extent)

/-- What stands between the braces of a dictionary. -/
inductive Entry where
  | pair (key value : Node)
  | splat (extent : Extent)

/-- A clause of a comprehension.  The target is known only if it is a single name. -/
inductive Clause where
  | forIn (target : Option String) (sources : List Node) (extent : Extent)
  | filter (condition : Node) (extent : Extent)

/-- One string literal.  Its pieces are told apart only in literals with fields. -/
inductive Literal where
  | mk (flags : String) (text : String) (pieces : List Piece) (extent : Extent)

/-- A piece of a literal with fields. -/
inductive Piece where
  | text (raw : String)
  | field (value : Node) (conversion : String) (spec : String) (extent : Extent)

end

def Literal.extent : Literal → Extent
  | .mk _ _ _ extent => extent

def Node.extent : Node → Extent
  | .string literal => literal.extent
  | .name _ e | .integer _ e | .float _ e | .truth _ e | .none e | .strings _ e | .binary _ _ _ e
  | .logic _ _ _ e | .not _ e | .unary _ _ e | .compare _ _ e | .conditional _ _ _ e
  | .paren _ e | .call _ _ _ e | .callGenerator _ _ e | .attribute _ _ e | .subscript _ _ e
  | .list _ e | .dictionary _ e | .listComprehension _ _ e | .other _ _ e => e

def Entry.extent : Entry → Extent
  | .pair key value => ⟨key.extent.start, value.extent.stop⟩
  | .splat extent => extent

def Node.label : Node → String
  | .name .. => "identifier"
  | .integer .. => "integer"
  | .float .. => "float"
  | .truth true _ => "true"
  | .truth false _ => "false"
  | .none _ => "none"
  | .string _ => "string"
  | .strings .. => "concatenated_string"
  | .binary .. => "binary_operator"
  | .logic .. => "boolean_operator"
  | .not .. => "not_operator"
  | .unary .. => "unary_operator"
  | .compare .. => "comparison_operator"
  | .conditional .. => "conditional_expression"
  | .paren .. => "parenthesized_expression"
  | .call .. | .callGenerator .. => "call"
  | .attribute .. => "attribute"
  | .subscript .. => "subscript"
  | .list .. => "list"
  | .dictionary .. => "dictionary"
  | .listComprehension .. => "list_comprehension"
  | .other kind _ _ => kind.label

mutual

/-- Whether a construct may stand on the left of an assignment. -/
def Node.isPattern : Node → Bool
  | .name .. | .subscript .. | .attribute .. => true
  | .paren inner _ => inner.isPattern
  | .list elements _ => allPatterns elements
  | .other .tuple elements _ => allPatterns elements
  | .other .listSplat [.name ..] _ | .other .listSplat [.subscript ..] _
  | .other .listSplat [.attribute ..] _ => true
  | _ => false

def allPatterns : List Node → Bool
  | [] => true
  | node :: rest => node.isPattern && allPatterns rest

end

/-- A line of text read as a statement. -/
inductive Statement where
  /-- Expressions separated by commas. -/
  | expressions (nodes : List Node) (extent : Extent)
  /-- The word `print` followed by its arguments without parentheses. -/
  | print (arguments : List Node) (extent : Extent)
  /-- Any other statement, by the name of its kind. -/
  | other (label : String) (extent : Extent)

def Statement.extent : Statement → Extent
  | .expressions _ e | .print _ e | .other _ e => e

/-- A text as it was read: its statements, and the joints between its lines. -/
structure Program where
  statements : List Statement
  joints : List Extent

end Walkthrough.Syntax
