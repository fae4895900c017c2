import Walkthrough.Syntax.Statement

/-!
# The grammar of case patterns

What a case of a choice is compared with.  Patterns look like expressions but have a grammar of their
own: names with points, numbers with a sign, literals, and patterns in brackets, joined by bars.
-/

namespace Walkthrough.Syntax

/-- A number without a sign. -/
def patternNumber : Parser Unit := do
  skipGap
  match numeral? (← get).rest with
  | some (.integer length) | some (.float length) => let _ ← take length
  | none => unexpected

/-- A number with an optional sign, perhaps with a second number added or subtracted. -/
def signedNumber : Parser Unit := do
  if startsWith ['-'] (← look true) then
    let _ ← symbol "-"
  patternNumber
  match ← look true with
  | '+' :: _ =>
    let _ ← symbol "+"
    patternNumber
  | '-' :: _ =>
    let _ ← symbol "-"
    patternNumber
  | _ => pure ()

/-- A name with points. -/
def patternName : Nat → Parser Unit
  | 0 => unexpected
  | fuel + 1 => do
    let _ ← identifier
    if startsWith ['.'] (← look true) then
      let _ ← symbol "."
      patternName fuel

/-- Items between brackets, separated by commas; a comma may end them. -/
def patternItems (item : Parser Unit) (opener closer : String) (closing : Char) : Parser Unit := do
  let _ ← symbol opener
  unless startsWith [closing] (← look true) do
    item
    let _ ← itemsAfter item closing (← loopFuel) [()]
  let _ ← symbol closer

/-- Stars with the name that takes what other patterns leave. -/
def restPattern : Parser Unit := do
  let double := startsWith ['*', '*'] (← look true)
  let _ ← symbol (if double then "**" else "*")
  let _ ← identifier

/-- The name of an attribute before its pattern. -/
def attributeName : Parser Unit := do
  let (word, _) ← identifier
  if ["_", "True", "False", "None"].contains word then unexpected
  let _ ← symbol "="

mutual

/-- A pattern without a name for what it matches and without bars. -/
def atomicPattern : Nat → Parser Unit
  | 0 => unexpected
  | fuel + 1 => do
    let text ← look true
    match text with
    | '(' :: _ => patternItems (casePattern fuel) "(" ")" ')'
    | '[' :: _ => patternItems (casePattern fuel) "[" "]" ']'
    | '{' :: _ => patternItems (entryPattern fuel) "\x7b" "\x7d" '}'
    | '*' :: _ => restPattern
    | _ =>
      if opensLiteral text then
        let _ ← stringAtom reader .inside
      else if startsWith ['-'] text || (numeral? text).isSome then signedNumber
      else
        match String.ofList (leadingWord text) with
        | "_" | "True" | "False" | "None" => let _ ← identifier
        | _ =>
          patternName (← loopFuel)
          if startsWith ['('] (← look true) then patternItems (casePattern fuel) "(" ")" ')'

/-- One or more patterns with bars between them. -/
def simplePattern : Nat → Parser Unit
  | 0 => unexpected
  | fuel + 1 => do
    atomicPattern fuel
    if startsWith ['|'] (← look true) then
      let _ ← symbol "|"
      simplePattern fuel

/-- A key with its pattern, or a name that takes the other entries. -/
def entryPattern : Nat → Parser Unit
  | 0 => unexpected
  | fuel + 1 => do
    let starred := startsWith ['*'] (← look true)
    let rest? ← if starred then attempt (do
        restPattern
        unless elementEnds '}' (← look true) do unexpected)
      else pure none
    if rest?.isNone then
      simplePattern fuel
      let _ ← symbol ":"
      casePattern fuel

/-- A pattern, perhaps behind the name of an attribute, and perhaps with names for what it
matches. -/
def casePattern : Nat → Parser Unit
  | 0 => unexpected
  | fuel + 1 => do
    let _ ← attempt attributeName
    simplePattern fuel
    aliases fuel

/-- Names for what a pattern matches. -/
def aliases : Nat → Parser Unit
  | 0 => unexpected
  | fuel + 1 => do
    if beginsWord "as" (← look true) then
      let _ ← keyword "as"
      let _ ← identifier
      aliases fuel

end

/-- The patterns of a case, separated by commas; a comma may end them. -/
def casePatterns : Nat → Parser Unit
  | 0 => unexpected
  | fuel + 1 => do
    casePattern (← loopFuel)
    if startsWith [','] (← look true) then
      let _ ← symbol ","
      let text ← look true
      unless startsWith [':'] text || beginsWord "if" text do casePatterns fuel

end Walkthrough.Syntax
