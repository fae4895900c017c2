import Walkthrough.Output
import Walkthrough.Value.Basic

/-!
# Actions

What a step of a trace records: the kind of statement that was run and the values it worked with.
-/

namespace Walkthrough

/-- A container that has operations of its own. -/
inductive ContainerKind where
  | list | dict
deriving DecidableEq, Repr

def ContainerKind.name : ContainerKind → String
  | .list => "list"
  | .dict => "dict"

inductive Action where
  | assign (name : String) (value : Value) (source : String)
  | reassign (name : String) (value : Value) (source : String) (old : Value)
  | augment (name : String) (op : BinaryOp) (value old right : Value)
  /-- An element was set. -/
  | setItem (kind : ContainerKind) (name : String) (key container old : Value) (summary : String)
  /-- An operation of a list or dictionary was called. -/
  | operate (kind : ContainerKind) (name operation : String) (arguments : List Value)
    (container old : Value) (summary : String) (result : Value)
  | print (values : List Value) (text : String)
  | define (name : String) (parameters : List String) (body : List Nat)
  | call (name : String) (arguments : List Value) (result : Value)
  | loopStart (target iterable : String) (body : List Nat)
  | loopIteration (target : String) (value : Value) (index total : Nat)
  | loopEnd (target : String)
  /-- A condition was tested; `extra` holds further details that were asked for. -/
  | condition (word : GuardWord) (text : String) (result : Bool) (extra : List (String × Value))
  | execute (code : String)
  | error (message : String)

def Action.name : Action → String
  | .assign .. => "assign"
  | .reassign .. => "reassign"
  | .augment .. => "augmented_assign"
  | .setItem .list .. | .operate .list .. => "list_operation"
  | .setItem .dict .. | .operate .dict .. => "dict_operation"
  | .print .. => "print"
  | .define .. => "function_definition"
  | .call .. => "function_call"
  | .loopStart .. => "for_loop_start"
  | .loopIteration .. => "for_loop_iteration"
  | .loopEnd _ => "for_loop_end"
  | .condition .whileWord .. => "while_loop_start"
  | .condition .. => "if_statement"
  | .execute _ => "execute"
  | .error _ => "error"

def Action.isError : Action → Bool
  | .error _ => true
  | _ => false

inductive Detail where
  | value (value : Value)
  | values (values : List Value)
  | lines (lines : List Nat)
  | names (names : List String)
deriving Inhabited

def Detail.text (text : String) : Detail := .value (.str text)

def Detail.count (count : Nat) : Detail := .value (.int count)

/-- The details of an action in the order in which they are shown. -/
def Action.details : Action → Table String Detail
  | .assign name value source =>
    ⟨[("variable", .text name), ("value", .value value), ("expression", .text source)]⟩
  | .reassign name value source old =>
    ⟨[("variable", .text name), ("value", .value value), ("expression", .text source),
      ("old_value", .value old)]⟩
  | .augment name op value old right =>
    ⟨[("variable", .text name), ("operator", .text (op.symbol ++ "=")), ("value", .value value),
      ("old_value", .value old), ("right_value", .value right)]⟩
  | .setItem kind name key container old summary =>
    ⟨[(kind.name, .text name), ("operation", .text "setitem"), ("key", .value key),
      ("value", .value container), ("old_value", .value old),
      ("operation_result", .text summary), ("result_value", .value .none)]⟩
  | .operate kind name operation arguments container old summary result =>
    ⟨[(kind.name, .text name), ("operation", .text operation), ("args", .values arguments),
      ("value", .value container), ("old_value", .value old),
      ("operation_result", .text summary), ("result_value", .value result)]⟩
  | .print values text => ⟨[("value", .values values), ("output_text", .text text)]⟩
  | .define name parameters body =>
    ⟨[("function_name", .text name), ("params", .names parameters), ("body_lines", .lines body)]⟩
  | .call name arguments result =>
    ⟨[("function_name", .text name), ("args", .values arguments),
      ("return_value", .value result)]⟩
  | .loopStart target iterable body =>
    ⟨[("iter_var", .text target), ("iterable", .text iterable), ("loop_body", .lines body)]⟩
  | .loopIteration target value index total =>
    ⟨[("iter_var", .text target), ("current_value", .value value),
      ("iteration_index", .count index), ("total_iterations", .count total)]⟩
  | .loopEnd target => ⟨[("iter_var", .text target)]⟩
  | .condition _ text result extra =>
    let own : Table String Detail :=
      ⟨[("condition", .text text), ("condition_result", .value (.bool result))]⟩
    own.insertMany (extra.map fun (key, value) => (key, .value value))
  | .execute code => ⟨[("code", .text code)]⟩
  | .error message => ⟨[("error", .text message)]⟩

/-- The action with every value replaced by what `f` makes of it, in order. -/
def Action.mapM {m : Type → Type} [Monad m] (f : Value → m Value) : Action → m Action
  | .assign name value source => do return .assign name (← f value) source
  | .reassign name value source old => do return .reassign name (← f value) source (← f old)
  | .augment name op value old right => do
    return .augment name op (← f value) (← f old) (← f right)
  | .setItem kind name key container old summary => do
    return .setItem kind name (← f key) (← f container) (← f old) summary
  | .operate kind name operation arguments container old summary result => do
    let arguments ← arguments.mapM f
    return .operate kind name operation arguments (← f container) (← f old) summary (← f result)
  | .print values text => do return .print (← values.mapM f) text
  | .call name arguments result => do return .call name (← arguments.mapM f) (← f result)
  | .loopIteration target value index total => do
    return .loopIteration target (← f value) index total
  | .condition word text result extra => do
    let extra ← extra.mapM fun (key, value) => do return (key, ← f value)
    return .condition word text result extra
  | action => pure action

/-- A recorded action with the line it happened on and the state it left: the bindings and all
that has been printed. -/
structure Step where
  index : Nat
  line : Nat
  action : Action
  bindings : Env
  output : Output

end Walkthrough
