import Walkthrough.Syntax.Numeral

/-!
# String literals as tokens

Where a string literal begins, how its contents are cut into tokens, and where it ends.  Contents
are not decoded here.
-/

namespace Walkthrough.Syntax

/-- How a literal was opened. -/
structure Quotation where
  quote : Char
  triple : Bool
  /-- Backslashes stand for themselves. -/
  raw : Bool
  bytes : Bool
  /-- Braces hold fields. -/
  fields : Bool

/-- The flags, the opening and its length, if a literal begins here. -/
def quotation? (text : List Char) : Option (List Char × Quotation × Nat) :=
  let flags := text.takeWhile isFlag
  match text.drop flags.length with
  | quote :: rest =>
    if isLiteralQuote quote then
      let triple := quote != '`' && startsWith [quote, quote] rest
      let opened : Quotation := {
        quote
        triple
        raw := flags.any fun c => c == 'r' || c == 'R'
        bytes := flags.any fun c => c == 'b' || c == 'B'
        fields := flags.any fun c => c == 'f' || c == 'F' }
      some (flags, opened, flags.length + if triple then 3 else 1)
    else none
  | [] => none

/-- What the next token inside a literal is. -/
inductive Portion where
  /-- Plain contents of the given length. -/
  | contents (length : Nat)
  /-- The closing quote; the length includes contents that were passed over before it. -/
  | closing (length : Nat)
  /-- Neither: an escape, a brace, or no way to go on. -/
  | neither

/-- The number of characters that a backslash passes over in a raw literal: a quote or backslash
behind it, then a line end. -/
def rawEscape (quote : Char) : List Char → Nat
  | [] => 0
  | c :: rest =>
    let (taken, rest) := if c == quote || c == '\\' then (1, rest) else (0, c :: rest)
    match rest with
    | '\r' :: '\n' :: _ => taken + 2
    | '\r' :: _ => taken + 1
    | '\n' :: _ => taken + 1
    | _ => taken

/-- The next token inside a literal.  `length` characters have been passed, and `filled` tells
whether any of them counts as contents: a line end is allowed in a single-quoted literal only before
such contents. -/
def portion (q : Quotation) : Nat → Nat → Bool → List Char → Portion
  | 0, _, _, _ => .neither
  | _ + 1, _, _, [] => .neither
  | fuel + 1, length, filled, c :: rest =>
    let soFar := if filled then Portion.contents length else .neither
    if c == '\x00' then .neither
    else if q.fields && (c == '{' || c == '}') then soFar
    else if c == '\\' then
      if q.raw then
        let passed := rawEscape q.quote rest
        portion q fuel (length + 1 + passed) filled (rest.drop passed)
      else if q.bytes then
        match rest with
        | letter :: rest =>
          if letter == 'N' || letter == 'u' || letter == 'U' then
            portion q fuel (length + 3) true (rest.drop 1)
          else soFar
        | [] => soFar
      else soFar
    else if c == q.quote then
      if q.triple then
        match rest with
        | second :: third :: _ =>
          if second != c then .contents (length + 1)
          else if third != c then .contents (length + 2)
          else if filled then .contents length
          else .closing (length + 3)
        | [second] => .contents (length + if second == c then 2 else 1)
        | [] => .contents (length + 1)
      else if filled then .contents length
      else .closing (length + 1)
    else if c == '\n' && filled && !q.triple then .neither
    else portion q fuel (length + 1) true rest

/-- The length of an escape whose backslash stands before `rest`; an unknown escape is the
backslash alone. -/
def escapeLength (rest : List Char) : Nat :=
  let hex (count : Nat) (digits : List Char) : Bool :=
    digits.length ≥ count && (digits.take count).all isHexDigit
  match rest with
  | 'u' :: digits => if hex 4 digits then 6 else 1
  | 'U' :: digits => if hex 8 digits then 10 else 1
  | 'x' :: digits => if hex 2 digits then 4 else 1
  | '\r' :: '\n' :: _ => 3
  | '\n' :: _ => 2
  | 'N' :: '{' :: name =>
    let inner := name.takeWhile (· != '}')
    if inner.isEmpty || inner.length == name.length then 1 else 4 + inner.length
  | c :: _ =>
    if c.isDigit then 1 + ((rest.take 3).takeWhile Char.isDigit).length
    else if ['\'', '"', 'a', 'b', 'f', 'r', 'n', 't', 'v', '\\'].contains c then 2
    else 1
  | [] => 1

end Walkthrough.Syntax
