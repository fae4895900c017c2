import Walkthrough.Run

/-!
# Requests

What the words of a command line ask for.  An option may be given by its long name, by any beginning
of it that fits no other option, or by its letter; letters without a value may be run together.  A
value follows its option as the next word or, after `=` or a letter, in the same word.
-/

namespace Walkthrough.CommandLine

open Number

inductive Flag where
  | help | json | step | structured | maxSteps | vars | verbose
deriving DecidableEq, Repr

def Flag.takesValue : Flag → Bool
  | .step | .maxSteps => true
  | _ => false

def longNames : List (String × Flag) :=
  [("--help", .help), ("--json", .json), ("--step", .step), ("--structured", .structured),
    ("--max-steps", .maxSteps), ("--vars", .vars), ("--verbose", .verbose)]

def letters : List (Char × Flag) :=
  [('h', .help), ('s', .step), ('n', .maxSteps), ('v', .verbose)]

/-- What follows an option in the same word. -/
inductive Attached where
  | nothing
  /-- A text after `=`. -/
  | equals (text : List Char)
  /-- A text right after the letter. -/
  | joined (text : List Char)
deriving DecidableEq, Repr

inductive Word where
  | plain (text : String)
  /-- The first `--`: no option comes after it. -/
  | separator
  | long (flag : Flag) (attached : Attached)
  | letter (flag : Flag) (attached : Attached)
  /-- A word that looks like an option and is none. -/
  | unknown
deriving DecidableEq, Repr

/-- Why a command line is no request. -/
inductive Refusal where
  /-- Only help was asked for. -/
  | help
  /-- It is not well formed. -/
  | usage
deriving DecidableEq, Repr

/-- Whether a text after a minus sign is a number. -/
def isNumeral (text : List Char) : Bool :=
  let isDigit (c : Char) : Bool := (digitValue? (plainChar c)).any (· < 10)
  let text := if text.getLast? == some '\n' then text.dropLast else text
  match text.dropWhile isDigit with
  | [] => !text.isEmpty
  | '.' :: fraction => !fraction.isEmpty && fraction.all isDigit
  | _ => false

/-- A text cut at its first `=`. -/
def splitEquals (text : List Char) : List Char × Attached :=
  match text.dropWhile (· != '=') with
  | [] => (text, .nothing)
  | _ :: value => (text.takeWhile (· != '='), .equals value)

/-- A word that begins with two minus signs and more. -/
def longWord (text : List Char) : Except Refusal Word :=
  let (name, attached) := splitEquals text
  let exact (name : List Char) := longNames.find? (·.1.toList == name)
  match exact text, exact name with
  | some (_, flag), _ => .ok (.long flag .nothing)
  | none, some (_, flag) => .ok (.long flag attached)
  | none, none =>
    match longNames.filter fun (long, _) => name.isPrefixOf long.toList with
    | [] => .ok (if text.contains ' ' then .plain (String.ofList text) else .unknown)
    | [(_, flag)] => .ok (.long flag attached)
    | _ => .error .usage

/-- What is attached to a letter. -/
def Attached.ofRest : List Char → Attached
  | [] => .nothing
  | '=' :: value => .equals value
  | text => .joined text

/-- A word with one minus sign in front. -/
def letterWord (text : String) (letter : Char) (rest : List Char) : Word :=
  match letters.lookup letter with
  | some flag => .letter flag (.ofRest rest)
  | none =>
    if isNumeral (letter :: rest) || text.contains ' ' then .plain text else .unknown

def Word.ofText (text : String) : Except Refusal Word :=
  match text.toList with
  | '-' :: '-' :: _ => longWord text.toList
  | '-' :: c :: rest => .ok (letterWord text c rest)
  | _ => .ok (.plain text)

def Word.all : List String → Except Refusal (List Word)
  | [] => .ok []
  | "--" :: rest => .ok (.separator :: rest.map .plain)
  | text :: rest => do
    let word ← Word.ofText text
    return word :: (← Word.all rest)

/-- What is to be done. -/
structure Request where
  file : Option String
  json : Bool
  step : Option Int
  structured : Bool
  maxSteps : Int
  vars : Bool
  verbose : Bool
deriving DecidableEq, Repr

/-- The request of an empty command line. -/
def Request.plain : Request where
  file := none
  json := false
  step := none
  structured := false
  maxSteps := Config.usual.maxSteps
  vars := false
  verbose := false

/-- An option with its value. -/
structure Choice where
  flag : Flag
  value : Option (List Char)

/-- The options in a run of letters, and whether the run ended with a letter that is no option.
`none` stands for a value that has still to come. -/
def lettersFrom (flag : Flag) (attached : Attached) : Nat → Except Refusal (List Choice × Bool)
  | 0 => .error .usage
  | length + 1 =>
    match flag.takesValue, attached with
    | _, .nothing => .ok ([⟨flag, none⟩], true)
    | true, .equals text | true, .joined text => .ok ([⟨flag, some text⟩], true)
    | false, .joined (letter :: rest) =>
      if letter == '-' then .error .usage
      else
        match letters.lookup letter with
        | none => .ok ([⟨flag, none⟩], false)
        | some next => do
          let (later, known) ← lettersFrom next (.ofRest rest) length
          return (⟨flag, none⟩ :: later, known)
    | false, _ => .error .usage

/-- The options in a word, and whether all of them are known. -/
def Word.choices : Word → Except Refusal (List Choice × Bool)
  | .long flag .nothing => .ok ([⟨flag, none⟩], true)
  | .long flag (.equals text) | .long flag (.joined text) =>
    if flag.takesValue then .ok ([⟨flag, some text⟩], true) else .error .usage
  | .letter flag attached =>
    match attached with
    | .joined text => lettersFrom flag attached (text.length + 1)
    | _ => lettersFrom flag attached 1
  | _ => .ok ([], true)

/-- The request with one more option. -/
def Request.choose (request : Request) (choice : Choice) : Except Refusal Request := do
  let number : Except Refusal Int :=
    match readInteger 10 (choice.value.getD []) with
    | .ok number => .ok number
    | .error _ => .error .usage
  match choice.flag with
  | .help => .error .help
  | .json => return { request with json := true }
  | .step => return { request with step := some (← number) }
  | .structured => return { request with structured := true }
  | .maxSteps => return { request with maxSteps := ← number }
  | .vars => return { request with vars := true }
  | .verbose => return { request with verbose := true }

/-- Gives the next word as value to the last option of a word if that needs one. -/
def supplyValue (choices : List Choice) (words : List Word) :
    Except Refusal (List Choice × List Word) :=
  match choices.getLast? with
  | some ⟨flag, none⟩ =>
    if flag.takesValue then
      match words with
      | .plain text :: rest =>
        .ok (choices.dropLast ++ [⟨flag, some text.toList⟩], rest)
      | _ => .error .usage
    else .ok (choices, words)
  | _ => .ok (choices, words)

theorem supplyValue_length {choices later : List Choice} {words rest : List Word}
    (h : supplyValue choices words = .ok (later, rest)) : rest.length ≤ words.length := by
  unfold supplyValue at h
  split at h
  · split at h
    · split at h
      · simp only [Except.ok.injEq, Prod.mk.injEq] at h
        simp [← h.2]
      · contradiction
    · simp only [Except.ok.injEq, Prod.mk.injEq] at h
      simp [h.2]
  · simp only [Except.ok.injEq, Prod.mk.injEq] at h
    simp [h.2]

/-- The words after a separator, if they begin with one. -/
def afterSeparator : List Word → List Word
  | .separator :: rest => rest
  | words => words

theorem afterSeparator_length (words : List Word) :
    (afterSeparator words).length ≤ words.length := by
  unfold afterSeparator
  split <;> simp

/-- Goes through the words.  `awaitsFile` says that the file is still to be named, and `fits` that every
word so far had a meaning. -/
def readWords (request : Request) (awaitsFile fits : Bool) : List Word → Except Refusal (Request × Bool)
  | [] => .ok (request, fits)
  | .plain text :: rest =>
    have := afterSeparator_length rest
    if awaitsFile then
      readWords { request with file := some text } false fits (afterSeparator rest)
    else readWords request false false rest
  | .separator :: rest =>
    if awaitsFile then
      match rest with
      | .plain text :: later => readWords { request with file := some text } false fits later
      | later => readWords request false fits later
    else readWords request false false rest
  | .unknown :: rest => readWords request awaitsFile false rest
  | word :: rest =>
    match word.choices with
    | .error refusal => .error refusal
    | .ok (choices, known) =>
      match h : supplyValue choices rest with
      | .error refusal => .error refusal
      | .ok (choices, later) =>
        have := supplyValue_length h
        match choices.foldlM Request.choose request with
        | .error refusal => .error refusal
        | .ok request => readWords request awaitsFile (fits && known) later
termination_by words => words.length
decreasing_by
  all_goals simp_wf
  all_goals omega

def Request.ofArguments (arguments : List String) : Except Refusal Request := do
  let words ← Word.all arguments
  let (request, fits) ← readWords .plain true true words
  if fits then return request else throw .usage

end Walkthrough.CommandLine
