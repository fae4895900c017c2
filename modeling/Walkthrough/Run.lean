import Walkthrough.Error
import Walkthrough.Trace.Action

/-!
# Runs

A run has a machine behind it: the store, what has been printed, counters and the recorded steps.
It may fail, and what it did to the machine before it failed stays done.
-/

namespace Walkthrough

/-- The limits and switches of a run.  Limits may be any integers. -/
structure Config where
  maxSteps : Int
  maxStatements : Int
  maxIterations : Int
  maxCallDepth : Int
  structured : Bool
  /-- Whether the history notes the store at every statement and at every call. -/
  notes : Bool := false
deriving DecidableEq, Repr

def Config.usual : Config where
  maxSteps := 10000
  maxStatements := 200000
  maxIterations := 10000
  maxCallDepth := 40
  structured := false

/-- How deeply values may nest to be copied, compared or shown. -/
def nestingLimit : Nat := 400

/-- How many calls may be under way at once, whatever the configuration says. -/
def callLimit : Nat := 64

/-- A budget that a whole run has. -/
inductive Budget where
  | step (limit : Int)
  | statement (limit : Int)
deriving DecidableEq, Repr

def Budget.message : Budget → String
  | .step limit => s!"step limit of {limit} reached; trace truncated"
  | .statement limit => s!"statement limit of {limit} reached; trace truncated"

/-- Why a run stops.  An error ends a statement; the others end the whole run. -/
inductive Failure where
  | error (cause : EvalError)
  | fault (cause : Fault)
  | budget (cause : Budget)
  /-- Values or calls nest too deeply. -/
  | tooDeep
deriving DecidableEq, Repr

def Failure.message : Failure → String
  | .error cause => cause.message
  | .fault cause => cause.message
  | .budget cause => cause.message
  | .tooDeep => "nested too deeply"

/-- What has been counted. -/
structure Tally where
  statements : Nat
  calls : Nat
  iterations : Nat
deriving DecidableEq, Repr, Inhabited

/-- What a run shows of itself while it goes on. -/
inductive Event where
  | printed (line : String)
  | recorded (step : Step)
  /-- The store was this. -/
  | passed (store : Store)
  /-- A function was called while `depth` other calls were under way. -/
  | called (depth ref : Nat) (arguments : List Value) (store : Store)

structure Machine where
  store : Store
  output : Output
  tally : Tally
  steps : Array Step
  /-- How many of the steps are errors. -/
  errors : Nat
  /-- All that happened so far, the latest first.  Nothing is ever taken back, and no run looks at
  it. -/
  history : List Event
deriving Inhabited

def Machine.start : Machine where
  store := .empty
  output := .empty
  tally := ⟨0, 0, 0⟩
  steps := #[]
  errors := 0
  history := []

abbrev Run := ExceptT Failure (StateM Machine)

namespace Run

/-- Ends the statement with an error. -/
def fail {α : Type} (cause : EvalError) : Run α :=
  throw (.error cause)

/-- Ends the statement, or the whole run, because a text cannot be read. -/
def unreadable {α : Type} (cause : ReadError) : Run α :=
  match cause with
  | .fault cause => throw (.fault cause)
  | cause => fail (.unreadable cause)

/-- The result of a computation that may fail. -/
def ofExcept {α : Type} (result : Except Failure α) : Run α :=
  match result with
  | .ok value => pure value
  | .error failure => throw failure

def store : Run Store := do
  return (← get).store

/-- What a function of the store gives. -/
def look {α : Type} (f : Store → Except Failure α) : Run α := do
  ofExcept (f (← store))

/-- Changes the store and gives a value. -/
def alter {α : Type} (f : Store → α × Store) : Run α :=
  modifyGet fun machine =>
    let (value, store) := f machine.store
    (value, { machine with store })

def change (f : Store → Store) : Run Unit :=
  alter fun store => ((), f store)

def newList (elements : Array Value) : Run Value := alter (·.addList elements)

def newDict (entries : Dict) : Run Value := alter (·.addDict entries)

def newFloat (x : Float) : Run Value := alter (·.addFloat x)

/-- Adds a line to the output. -/
def say (line : String) : Run Unit :=
  modify fun machine =>
    { machine with
      output := machine.output.push line
      history := .printed line :: machine.history }

/-- Notes the store, if that is asked for. -/
def note (config : Config) (event : Store → Event) : Run Unit :=
  if config.notes then
    modify fun machine => { machine with history := event machine.store :: machine.history }
  else pure ()

end Run

end Walkthrough
