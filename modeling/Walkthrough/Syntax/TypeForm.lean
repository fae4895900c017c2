import Walkthrough.Syntax.Expression

/-!
# The grammar of types

What may stand where a type is expected: an expression, a name with type arguments in brackets, a
spread name, and these joined by colons, bars and points.  A name before a bracket always takes type
arguments, so no more of an expression can follow that bracket.
-/

namespace Walkthrough.Syntax

/-- The words that are no names at the beginning of a type. -/
def typeKeywords : List String :=
  ["not", "lambda", "True", "False", "None", "print", "exec", "async", "await", "match"]

/-- The name at the beginning of a type with arguments. -/
def genericName (place : Place) : Parser Unit := do
  let (word, _) ← identifier
  if typeKeywords.contains word then unexpected
  unless startsWith ['['] (← look place.multiline) do unexpected

/-- A star or two with the name that they spread, where a type may end. -/
def spreadType (place : Place) : Parser Unit := do
  let double := startsWith "**".toList (← look true)
  let _ ← symbol (if double then "**" else "*")
  let (word, _) ← identifier
  unless double do
    if ["True", "False", "None"].contains word then unexpected
    match ← look place.multiline with
    | [] | '.' :: _ | '|' :: _ | ':' :: _ | '=' :: _ | ',' :: _ | ']' :: _ | ')' :: _ => pure ()
    | _ => unexpected

/-- Names behind points. -/
def memberNames (place : Place) : Nat → Parser Unit
  | 0 => unexpected
  | fuel + 1 => do
    if startsWith ['.'] (← look place.multiline) then
      let _ ← symbol "."
      let _ ← identifier
      memberNames place fuel

mutual

/-- A type; `colons` tells whether a colon may stand in it. -/
def typeExpression (again : Reader) (place : Place) (colons : Bool) : Nat → Parser Unit
  | 0 => unexpected
  | fuel + 1 => do
    match ← attempt (genericName place) with
    | some _ =>
      typeArguments again fuel
      memberNames place (← loopFuel)
    | none =>
      if startsWith ['*'] (← look true) then
        match ← attempt (spreadType place) with
        | some _ => memberNames place (← loopFuel)
        | none => let _ ← again.whole place
      else let _ ← again.whole place
    let text ← look place.multiline
    if startsWith ['|'] text && !startsWith ['|', '='] text then
      let _ ← symbol "|"
      typeExpression again place colons fuel
    else if colons && startsWith [':'] text then
      let _ ← symbol ":"
      typeExpression again place colons fuel

def typeArguments (again : Reader) : Nat → Parser Unit
  | 0 => unexpected
  | fuel + 1 => do
    let _ ← symbol "["
    let item : Parser Unit := typeExpression again .inside true fuel
    item
    let _ ← itemsAfter item ']' (← loopFuel) [()]
    let _ ← symbol "]"

end

end Walkthrough.Syntax
