import Walkthrough.Builtin
import Walkthrough.Method.Outcome
import Walkthrough.Text.Case

/-!
# Methods of texts
-/

namespace Walkthrough

open Text

inductive TextMethod where
  | upper | lower | strip | lstrip | rstrip | split | join | replace | startswith | endswith
  | find | count | title | capitalize | isdigit | isalpha
deriving DecidableEq, Repr

def TextMethod.name : TextMethod → String
  | .upper => "upper"
  | .lower => "lower"
  | .strip => "strip"
  | .lstrip => "lstrip"
  | .rstrip => "rstrip"
  | .split => "split"
  | .join => "join"
  | .replace => "replace"
  | .startswith => "startswith"
  | .endswith => "endswith"
  | .find => "find"
  | .count => "count"
  | .title => "title"
  | .capitalize => "capitalize"
  | .isdigit => "isdigit"
  | .isalpha => "isalpha"

def TextMethod.all : List TextMethod :=
  [.upper, .lower, .strip, .lstrip, .rstrip, .split, .join, .replace, .startswith, .endswith,
    .find, .count, .title, .capitalize, .isdigit, .isalpha]

def TextMethod.ofName? (name : String) : Option TextMethod :=
  TextMethod.all.find? (·.name == name)

def TextMethod.arity : TextMethod → Nat × Nat
  | .upper | .lower | .title | .capitalize | .isdigit | .isalpha => (0, 0)
  | .strip | .lstrip | .rstrip => (0, 1)
  | .split => (0, 2)
  | .join | .startswith | .endswith | .find | .count => (1, 1)
  | .replace => (2, 3)

def Run.refuse {α : Type} (cause : TextArgument) : Run α :=
  Run.fail (.textArgument cause)

/-- The characters to be stripped: those of a text, or white space. -/
def strippedChars (method : TextMethod) (argument : Value) : Run (Char → Bool) := do
  match argument with
  | .none => return isBlank
  | .str chars => return fun c => chars.toList.contains c
  | _ => Run.refuse (.stripped method.name)

/-- A bound on the number of cuts or replacements; a negative number is none. -/
def countBound (argument : Value) : Run (Option Nat) := do
  match argument.asInt? with
  | none => Run.fail (.notInteger argument.kind)
  | some i =>
    if !fitsWord i then throw (.fault (.overflow .size))
    return if i < 0 then Option.none else some i.toNat

def splitText (text : List Char) (separator count : Value) : Run (List (List Char)) := do
  let count ← countBound count
  match separator with
  | .none => return splitWords count [] text
  | .str separator =>
    if separator.isEmpty then Run.refuse .emptySeparator
    return cutAt separator.toList count [] [] text
  | _ => Run.refuse (.separator separator.kind)

/-- The text that an argument of a replacement is. -/
def replacementText (position : Nat) (argument : Value) : Run (List Char) := do
  match argument with
  | .str text => return text.toList
  | .none => Run.refuse (.replacement position "None")
  | _ => Run.refuse (.replacement position argument.kind)

/-- The text that an argument is, or the refusal of another. -/
def partText (cause : String → TextArgument) (argument : Value) : Run (List Char) := do
  match argument with
  | .str text => return text.toList
  | _ => Run.refuse (cause argument.kind)

/-- The texts that are to be joined. -/
def joinedTexts (items : List Value) : Except Failure (List String) :=
  items.zipIdx.mapM fun
    | (.str text, _) => .ok text
    | (item, position) => do throw (.error (.joinItem position (← item.typeName)))

/-- Whether a value can never be an argument of a text method. -/
def isRefused : Value → Bool
  | .list _ | .dict _ | .function _ => true
  | _ => false

/-- What a method gives, once the number of its arguments is right. -/
def TextMethod.result (method : TextMethod) (text : String) (arguments : List Value) :
    Run Value := do
  let chars := text.toList
  let first := arguments.headD .none
  let ofChars (chars : List Char) : Value := .str (String.ofList chars)
  match method with
  | .upper => return ofChars (Text.upper chars)
  | .lower => return ofChars (Text.lower chars)
  | .title => return ofChars (Text.title chars)
  | .capitalize => return ofChars (Text.capitalize chars)
  | .isdigit => return .bool (!chars.isEmpty && chars.all isDigit)
  | .isalpha => return .bool (!chars.isEmpty && chars.all isLetter)
  | .strip => return ofChars (dropBothWhile (← strippedChars method first) chars)
  | .lstrip => return ofChars (chars.dropWhile (← strippedChars method first))
  | .rstrip => return ofChars (dropEndWhile (← strippedChars method first) chars)
  | .split =>
    let pieces ← splitText chars first (arguments[1]?.getD (.int (-1)))
    Run.newList (pieces.map ofChars).toArray
  | .join =>
    let items ← Run.look fun s => elementsOf s first
    let texts ← Run.ofExcept (joinedTexts items)
    return .str (text.intercalate texts)
  | .replace =>
    let old ← replacementText 1 first
    let new ← replacementText 2 (arguments[1]?.getD .none)
    let count ← countBound (arguments[2]?.getD (.int (-1)))
    return ofChars (replaceText old new count chars)
  | .startswith =>
    return .bool ((← partText (.affix method.name) first).isPrefixOf chars)
  | .endswith =>
    return .bool ((← partText (.affix method.name) first).isSuffixOf chars)
  | .find =>
    let part ← partText .part first
    return .int (((findFrom? part 0 chars).map Int.ofNat).getD (-1))
  | .count => return .int (countText (← partText .part first) chars)

def TextMethod.call (method : TextMethod) (text : String) (arguments : List Value)
    (label : String) : Run Outcome := do
  let (low, high) := method.arity
  checkArguments method.name arguments low high
  if method != .join then
    if let some refused := arguments.find? isRefused then
      Run.fail (.mustBeText (← Run.ofExcept refused.typeName))
  let result ← method.result text arguments
  return ⟨result, s!"Called {method.name}() on {label}"⟩

end Walkthrough
