import Walkthrough.Value.Render

/-!
# Percent formats

A text with fields that begin with a percent sign.  Its argument is one value: the fields take it in
turn, so that only the first can have it, unless they name the keys of a dictionary.
-/

namespace Walkthrough.Format

open Number Text

/-- Why a percent format cannot be applied. -/
inductive PercentTrouble where
  /-- The argument does not fit the format. -/
  | mismatch
  | format (cause : FormatError)
  | failure (failure : Failure)

structure Flags where
  left : Bool
  plus : Bool
  blank : Bool
  alternate : Bool
  zero : Bool

/-- A field: flags, width, precision and the character that says what to write. -/
structure Field where
  flags : Flags
  width : Option Nat
  precision : Option Nat
  code : Char

/-- A format under way: what has been written in reverse, and the value that the next field takes. -/
structure Filling where
  written : List Char
  next : Option Value

abbrev PercentM := StateT Filling (Except PercentTrouble)

/-- The value that the next field takes. -/
def takeValue : PercentM Value := do
  match (← get).next with
  | some value =>
    modify fun p => { p with next := none }
    return value
  | none => throw .mismatch

def readFlags (flags : Flags) : List Char → Flags × List Char
  | '-' :: rest => readFlags { flags with left := true } rest
  | '+' :: rest => readFlags { flags with plus := true } rest
  | ' ' :: rest => readFlags { flags with blank := true } rest
  | '#' :: rest => readFlags { flags with alternate := true } rest
  | '0' :: rest => readFlags { flags with zero := true } rest
  | rest => (flags, rest)

/-- The number at the beginning of a text, if there is one. -/
def readNumber (limit : Nat) (trouble : FormatError) (text : List Char) :
    PercentM (Option Nat × List Char) := do
  let digits := text.takeWhile Char.isDigit
  if digits.isEmpty then return (none, text)
  let number := digits.foldl (fun n c => n * 10 + (c.toNat - '0'.toNat)) 0
  if number > limit then throw (.format trouble)
  return (some number, text.drop digits.length)

/-- The number that a star takes from the value. -/
def takeNumber (limit : Nat) (overflow : Overflow) : PercentM Int := do
  match (← takeValue).asInt? with
  | none => throw .mismatch
  | some i =>
    if i < -Int.ofNat limit - 1 || i > limit then
      throw (.failure (.fault (.overflow overflow)))
    return i

/-- The width at the beginning of a text, with the flag for the left side if it is negative. -/
def readWidth (flags : Flags) (text : List Char) :
    PercentM (Flags × Option Nat × List Char) := do
  match text with
  | '*' :: rest =>
    let i ← takeNumber sizeLimit .size
    return ({ flags with left := flags.left || i < 0 }, some i.natAbs, rest)
  | _ =>
    let (width, rest) ← readNumber sizeLimit .widthTooBig text
    return (flags, width, rest)

def readPrecision (text : List Char) : PercentM (Option Nat × List Char) := do
  match text with
  | '.' :: '*' :: rest =>
    let i ← takeNumber precisionLimit .halfWord
    return (some i.toNat, rest)
  | '.' :: rest =>
    let (precision, rest) ← readNumber precisionLimit .precisionTooBig rest
    return (some (precision.getD 0), rest)
  | _ => return (none, text)

/-- The text without one letter that has no meaning. -/
def skipLength : List Char → List Char
  | 'h' :: rest | 'l' :: rest | 'L' :: rest => rest
  | text => text

/-- The key between parentheses that have just been opened `depth` times, and what follows. -/
def readKey (depth : Nat) (key : List Char) : List Char → Option (String × List Char)
  | [] => none
  | ')' :: rest =>
    match depth with
    | 0 | 1 => some (String.ofList key.reverse, rest)
    | depth + 1 => readKey depth (')' :: key) rest
  | '(' :: rest => readKey (depth + 1) ('(' :: key) rest
  | c :: rest => readKey depth (c :: key) rest

/-- Takes the value of a key from the argument. -/
def selectKey (s : Store) (argument : Value) (key : String) : PercentM Unit := do
  match argument with
  | .dict ref =>
    match (s.dict ref).get? ⟨.str key⟩ with
    | some value => modify fun p => { p with next := some value }
    | none => throw (.failure (.fault (.missingKey (quoted key))))
  | _ => throw .mismatch

/-- The key of a field, if it has one. -/
def readSelection (s : Store) (argument : Value) (text : List Char) : PercentM (List Char) := do
  match text, argument with
  | '(' :: rest, .dict _ | '(' :: rest, .list _ =>
    match readKey 1 [] rest with
    | some (key, rest) =>
      selectKey s argument key
      return rest
    | none => throw (.format .incompleteKey)
  | '(' :: _, _ => throw .mismatch
  | _, _ => return text

/-- The field behind a percent sign, and what follows it. -/
def readField (s : Store) (argument : Value) (text : List Char) : PercentM (Field × List Char) := do
  let rest ← readSelection s argument text
  let (flags, rest) := readFlags ⟨false, false, false, false, false⟩ rest
  let (flags, width, rest) ← readWidth flags rest
  let (precision, rest) ← readPrecision rest
  match skipLength rest with
  | code :: rest => return ({ flags, width, precision, code }, rest)
  | [] => throw (.format .incomplete)

/-- A text laid out by a field.  `signed` says whether it may begin with a sign that the padding goes
around. -/
def Field.layout (field : Field) (signed : Bool) (text : List Char) : List Char :=
  let text :=
    match field.precision with
    | some count => if "sra".toList.contains field.code then text.take count else text
    | none => text
  let (sign, body) :=
    match signed, text with
    | true, '-' :: body => (['-'], body)
    | true, '+' :: body => (['+'], body)
    | true, body =>
      (if field.flags.plus then ['+'] else if field.flags.blank then [' '] else [], body)
    | false, body => ([], body)
  let marked := field.flags.alternate && "xXo".toList.contains field.code
  let mark := if marked then body.take 2 else []
  let digits := if marked then body.drop 2 else body
  let room := (field.width.getD 0) - (sign.length + body.length)
  if field.flags.left then sign ++ mark ++ digits ++ List.replicate room ' '
  else if signed && field.flags.zero then sign ++ mark ++ zeros room ++ digits
  else List.replicate room ' ' ++ sign ++ mark ++ digits

/-- An integer with its base mark, filled up with zeros to the precision. -/
def Field.integer (field : Field) (i : Int) : Except FormatError (List Char) := do
  let base := match field.code with
    | 'o' => 8
    | 'x' | 'X' => 16
    | _ => 10
  let digits ← magnitude base i
  let mark := if field.flags.alternate && base != 10 then ['0', field.code] else []
  let digits := if field.code == 'X' then digits.map Char.toUpper else digits
  let filled := zeros ((field.precision.getD 0) - digits.length) ++ digits
  return (if i < 0 then ['-'] else []) ++ mark ++ filled

def Field.float (field : Field) (x : Float) : List Char :=
  let style : FloatStyle := match field.code with
    | 'e' | 'E' => .scientific
    | 'f' | 'F' => .fixed
    | _ => .general
  let layout : FloatLayout :=
    { style, precision := field.precision.getD 6, keepPoint := field.flags.alternate
      wholeAsFraction := false }
  let (negative, text) := layout.apply false x
  recase (some field.code) (if negative then '-' :: text else text)

/-- The integer that a field writes for a value. -/
def integerValue (field : Field) (value : Value) : Except PercentTrouble Int :=
  match value.asInt?, value with
  | some i, _ => .ok i
  | none, .float x =>
    if "oxX".toList.contains field.code then .error .mismatch
    else
      match truncate? x with
      | some i => .ok i
      | none => .error (.failure (.fault (.overflow .infinityToInt)))
  | none, .nan _ =>
    if "oxX".toList.contains field.code then .error .mismatch
    else .error (.failure (.fault .nanToInt))
  | none, _ => .error .mismatch

/-- The float that a field writes for a value. -/
def floatValue (value : Value) : Except PercentTrouble Float :=
  match value.asInt?, value with
  | some i, _ =>
    match nearestInt? i with
    | some x => .ok x
    | none => .error (.failure (.fault (.overflow .intToFloat)))
  | none, .float x => .ok x
  | none, .nan _ => .ok (0.0 / 0.0)
  | none, _ => .error .mismatch

/-- The character that a field writes for a value. -/
def characterValue (value : Value) : Except PercentTrouble Char :=
  match value.asInt?, value with
  | some i, _ =>
    if i < 0 || i ≥ 0x110000 then .error (.failure (.fault (.overflow .character)))
    else .ok (Char.ofNat i.toNat)
  | none, .str text =>
    match text.toList with
    | [c] => .ok c
    | _ => .error .mismatch
  | none, _ => .error .mismatch

def Field.write (field : Field) (s : Store) (value : Value) (position : Nat) :
    Except PercentTrouble (List Char) := do
  let shown (v : Value) : Except PercentTrouble String :=
    (render .full s nestingLimit [] v).mapError .failure
  match field.code with
  | 's' =>
    match value with
    | .str text => return field.layout false text.toList
    | _ => return field.layout false (← shown value).toList
  | 'r' => return field.layout false (← shown value).toList
  | 'a' =>
    let escaped := (← shown value).toList.flatMap fun c => if isPlainAscii c then [c] else codeEscape c
    return field.layout false escaped
  | 'd' | 'i' | 'u' | 'o' | 'x' | 'X' =>
    let i ← integerValue field value
    return field.layout true (← (field.integer i).mapError .format)
  | 'e' | 'E' | 'f' | 'F' | 'g' | 'G' => return field.layout true (field.float (← floatValue value))
  | 'c' => return field.layout false [← characterValue value]
  | code => throw (.format (.unsupportedCode code position))

/-- Writes a format with its fields filled in.  `fuel` bounds the number of fields. -/
def writeFields (s : Store) (argument : Value) (length : Nat) : Nat → List Char → PercentM Unit
  | 0, _ => return
  | fuel + 1, text => do
    let plain := text.takeWhile (· != '%')
    modify fun p => { p with written := plain.reverse ++ p.written }
    match text.drop plain.length with
    | [] => return
    | _ :: '%' :: rest =>
      modify fun p => { p with written := '%' :: p.written }
      writeFields s argument length fuel rest
    | _ :: rest =>
      let (field, rest) ← readField s argument rest
      let value ← takeValue
      let chars ← field.write s value (length - rest.length - 1)
      modify fun p => { p with written := chars.reverse ++ p.written }
      writeFields s argument length fuel rest

def mayStayUnused : Value → Bool
  | .list _ | .dict _ => true
  | _ => false

def percent (s : Store) (format : String) (argument : Value) : Except PercentTrouble String := do
  let chars := format.toList
  let length := chars.length
  let ((), p) ← (writeFields s argument length (length + 1) chars).run ⟨[], some argument⟩
  if p.next.isSome && !mayStayUnused argument then throw .mismatch
  return String.ofList p.written.reverse

end Walkthrough.Format
