import Walkthrough.Expr.Reading
import Walkthrough.Format.Spec

/-!
# Errors

Why a statement or an expression has no result.  An error carries its cause; the wording is in one
place.
-/

namespace Walkthrough

open Number Format

/-- How many arguments a function or method takes. -/
inductive Arity where
  | none
  | exactly (count : Nat)
  | atLeast (count : Nat)
  /-- At most so many, with the word for them. -/
  | atMost (count : Nat) (noun : String)
deriving DecidableEq, Repr

inductive ErrorKind where
  | general
  /-- An operation on a value of the wrong type. -/
  | type
  /-- A name that is not bound, or not to a function. -/
  | name
  /-- A key that is missing. -/
  | key
  /-- A loop over something without elements. -/
  | iteration
  /-- A failure inside a function. -/
  | call
  /-- A limit of the configuration. -/
  | limit
  /-- The limit on nested calls. -/
  | depth
deriving DecidableEq, Repr

/-- Why a method of texts refuses an argument, with the type of that argument. -/
inductive TextArgument where
  | stripped (method : String)
  | separator (type : String)
  | emptySeparator
  | replacement (position : Nat) (type : String)
  | affix (method type : String)
  | part (type : String)
deriving DecidableEq, Repr

def TextArgument.message : TextArgument → String
  | .stripped method => s!"{method} arg must be None or str"
  | .separator type => s!"must be str or None, not {type}"
  | .emptySeparator => "empty separator"
  | .replacement position type => s!"replace() argument {position} must be str, not {type}"
  | .affix method type => s!"{method} first arg must be str or a tuple of str, not {type}"
  | .part type => s!"must be str, not {type}"

/-- Why a statement or an expression has no result.  Types and values are given as they are
shown. -/
inductive EvalError where
  | unreadable (cause : ReadError)
  | fault (cause : Fault)
  | format (cause : FormatError)
  | zeroDivision
  | operator (symbol : String)
  | comparison (symbol : String)
  | operands (symbol left right : String)
  | concatenation (right : String)
  | operand (symbol type : String)
  | unordered (symbol left right : String)
  | unorderedFunctions
  | unsupportedValue (type : String)
  | unhashable (type : String)
  | undefined (name : String)
  | notCallable (type : String)
  | notFunction (type : String)
  | onlyCalled (name : String)
  | notIterable (type : String)
  | noElements (type : String)
  | noMembers (type : String)
  | iterationLimit (count : Nat) (limit : Int)
  | rangeLimit (length : Nat) (limit : Int)
  | loopLimit (limit : Int)
  | exponentLimit (exponent : String)
  | shiftLimit (count : String)
  | repetitionLimit (limit : Nat)
  | missingKey (key : String)
  | missingKeyIn (key label : String)
  | indices (container index : String)
  | indexRange (container : String)
  | assignmentRange
  | notSubscriptable (type : String)
  | noItemAssignment (type : String)
  | sliceIndices
  | sliceStep
  | arguments (callee : String) (arity : Arity) (given : Nat)
  | notInteger (type : String)
  | rangeStep
  | noLength (type : String)
  | explicitBase
  | integerText (cause : IntegerTrouble) (base : Int) (shown : String)
  | integerArgument (type : String)
  | floatText (shown : String)
  | floatArgument (type : String)
  | absolute (type : String)
  | noCandidate (function : String)
  | emptySequence (function : String)
  | sumOfTexts
  | notRounded (type : String)
  | notListed
  | notInList (shown : String)
  | emptyPop
  | popRange
  | notMapping (type : String)
  | joinItem (position : Nat) (type : String)
  | mustBeText (type : String)
  | textArgument (cause : TextArgument)
  | noAttribute (type name : String)
  | noFormat (type : String)
  | parameter (text : String)
  | loopHeader (text : String)
  | conditionHeader (text : String)
  | functionHeader (text : String)
  | strayReturn
  | noCaller (name : String)
  | noRunner (name : String)
  | inFunction (name : String) (cause : EvalError)
  | callDepth (limit : Int) (name : String)
deriving DecidableEq, Repr

def EvalError.kind : EvalError → ErrorKind
  | .operands .. | .concatenation _ | .operand .. | .unordered .. | .unorderedFunctions
  | .unsupportedValue _ | .unhashable _ | .onlyCalled _ | .noElements _ | .noMembers _
  | .indices .. | .notSubscriptable _ | .noItemAssignment _ | .sliceIndices | .notInteger _
  | .noLength _ | .explicitBase | .integerArgument _ | .floatArgument _ | .absolute _
  | .sumOfTexts | .notRounded _ | .notMapping _ | .joinItem .. | .mustBeText _
  | .textArgument _ | .noAttribute .. | .noFormat _ => .type
  | .undefined _ | .notCallable _ | .notFunction _ => .name
  | .missingKey _ | .missingKeyIn .. => .key
  | .notIterable _ => .iteration
  | .iterationLimit .. | .rangeLimit .. | .loopLimit _ | .exponentLimit _ | .shiftLimit _
  | .repetitionLimit _ => .limit
  | .inFunction .. => .call
  | .callDepth .. => .depth
  | _ => .general

/-- A count with its noun. -/
def counted (count : Nat) (noun : String) : String :=
  if count == 1 then s!"{count} {noun}" else s!"{count} {noun}s"

def Arity.message (callee : String) (given : Nat) : Arity → String
  | .none => s!"{callee}() takes no arguments ({given} given)"
  | .exactly count =>
    let expected := counted count "argument"
    s!"{callee}() takes exactly {expected} ({given} given)"
  | .atLeast count =>
    let expected := counted count "argument"
    s!"{callee}() expected at least {expected}, got {given}"
  | .atMost count noun => s!"{callee}() expected at most {count} {noun}, got {given}"

def integerTextMessage (base : Int) (shown : String) : IntegerTrouble → String
  | .malformed => s!"invalid literal for int() with base {base}: {shown}"
  | .tooLong digits =>
    s!"Exceeds the limit (4300 digits) for integer string conversion: value has {digits} digits; " ++
      "use sys.set_int_max_str_digits() to increase the limit"
  | .badBase => "int() base must be >= 2 and <= 36, or 0"

def EvalError.message : EvalError → String
  | .unreadable cause => cause.message
  | .fault cause => cause.message
  | .format cause => cause.message
  | .zeroDivision => "division by zero"
  | .operator symbol => s!"unsupported operator '{symbol}'"
  | .comparison symbol => s!"unsupported comparison '{symbol}'"
  | .operands symbol left right =>
    s!"unsupported operand type(s) for {symbol}: '{left}' and '{right}'"
  | .concatenation right => s!"can only concatenate str (not \"{right}\") to str"
  | .operand symbol type => s!"bad operand type for unary {symbol}: '{type}'"
  | .unordered symbol left right =>
    s!"'{symbol}' not supported between instances of '{left}' and '{right}'"
  | .unorderedFunctions => "'<' not supported between instances of 'function'"
  | .unsupportedValue type => s!"unsupported value of type '{type}'"
  | .unhashable type => s!"unhashable type: '{type}'"
  | .undefined name => s!"name '{name}' is not defined"
  | .notCallable type => s!"'{type}' object is not callable"
  | .notFunction type => s!"'{type}' object is not a function"
  | .onlyCalled name => s!"built-in function '{name}' can only be called"
  | .notIterable type | .noElements type => s!"'{type}' object is not iterable"
  | .noMembers type => s!"argument of type '{type}' is not iterable"
  | .iterationLimit count limit =>
    s!"iterating over {count} elements exceeds the iteration limit of {limit}"
  | .rangeLimit length limit =>
    s!"range() of length {length} exceeds the iteration limit of {limit}"
  | .loopLimit limit => s!"while loop exceeded the iteration limit of {limit}"
  | .exponentLimit exponent => s!"exponent {exponent} is too large"
  | .shiftLimit count => s!"shift count {count} is too large"
  | .repetitionLimit limit => s!"repetition would create a sequence longer than {limit}"
  | .missingKey key => s!"key {key} not found"
  | .missingKeyIn key label => s!"key {key} not found in {label}"
  | .indices container index => s!"{container} indices must be integers or slices, not {index}"
  | .indexRange container => s!"{container} index out of range"
  | .assignmentRange => "list assignment index out of range"
  | .notSubscriptable type => s!"'{type}' object is not subscriptable"
  | .noItemAssignment type => s!"'{type}' object does not support item assignment"
  | .sliceIndices => "slice indices must be integers or None or have an __index__ method"
  | .sliceStep => "slice step cannot be zero"
  | .arguments callee arity given => arity.message callee given
  | .notInteger type => s!"'{type}' object cannot be interpreted as an integer"
  | .rangeStep => "range() arg 3 must not be zero"
  | .noLength type => s!"object of type '{type}' has no len()"
  | .explicitBase => "int() can't convert non-string with explicit base"
  | .integerText cause base shown => integerTextMessage base shown cause
  | .integerArgument type =>
    "int() argument must be a string, a bytes-like object or a real number, " ++ s!"not '{type}'"
  | .floatText shown => s!"could not convert string to float: {shown}"
  | .floatArgument type => s!"float() argument must be a string or a real number, not '{type}'"
  | .absolute type => s!"bad operand type for abs(): '{type}'"
  | .noCandidate function => s!"{function} expected at least 1 argument, got 0"
  | .emptySequence function => s!"{function}() arg is an empty sequence"
  | .sumOfTexts => "sum() can't sum strings [use ''.join(seq) instead]"
  | .notRounded type => s!"type {type} doesn't define __round__ method"
  | .notListed => "list.remove(x): x not in list"
  | .notInList shown => s!"{shown} is not in list"
  | .emptyPop => "pop from empty list"
  | .popRange => "pop index out of range"
  | .notMapping type => s!"'{type}' object is not a mapping"
  | .joinItem position type =>
    s!"sequence item {position}: expected str instance, {type} found"
  | .mustBeText type => s!"must be str, not {type}"
  | .textArgument cause => cause.message
  | .noAttribute type name => s!"'{type}' object has no attribute '{name}'"
  | .noFormat type => s!"unsupported format string passed to {type}.__format__"
  | .parameter text => s!"unsupported parameter: {text}"
  | .loopHeader text => s!"invalid for header: {text}"
  | .conditionHeader text => s!"invalid condition header: {text}"
  | .functionHeader text => s!"invalid function header: {text}"
  | .strayReturn => "'return' outside function"
  | .noCaller name => s!"cannot call function '{name}' without an invoker"
  | .noRunner name => s!"cannot call function '{name}': no block expander bound"
  | .inFunction name cause => s!"Error in function '{name}': {cause.message}"
  | .callDepth limit name => s!"maximum call depth of {limit} exceeded calling '{name}'"

end Walkthrough
