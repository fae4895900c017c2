import Walkthrough.Statement.Basic

/-!
# Blocks

The lines of a program as a tree: every header stands together with the block below it.  There are
two ways to read conditions.  In the plain way an `if` or `while` line is a statement of its own and
the lines below it follow it like any others; in the structured way it governs them.
-/

namespace Walkthrough

open Text Source

/-- The text of a header that ought to hold a condition, and the condition if it does. -/
structure Condition where
  text : String
  guard? : Option Guard

def Condition.ofText (text : String) : Condition where
  text
  guard? := Guard.ofHeader? text

mutual

/-- One thing to do, at a line of the program. -/
inductive Item where
  | simple (line : Line) (statement : Statement)
  /-- A loop over elements with its block, also as lines. -/
  | loop (line : Line) (header : Loop) (body : List Line) (block : List Item)
  /-- A function with its block, also as lines. -/
  | define (line : Line) (definition : Definition) (body : List Line) (block : List Item)
  /-- A chain of alternatives, of which at most one is run. -/
  | choose (first : Branch) (rest : List Branch)
  /-- A block that is run while a condition holds. -/
  | repeat (line : Line) (condition : Condition) (block : List Item)
  /-- An alternative that belongs to no chain is passed over. -/
  | skip (line : Line)

/-- An alternative: its condition, or none for the last resort, and its block. -/
inductive Branch where
  | mk (line : Line) (condition : Option Condition) (block : List Item)

end

instance : Inhabited Item := ⟨.skip default⟩

/-- The first word of a line of code, without colons at its end. -/
def headWord (code : String) : String :=
  String.ofList (dropEndWhile (· == ':') (firstWord code).toList)

/-- Whether a line continues a chain of alternatives. -/
def isAlternative (code : String) : Bool :=
  let word := headWord code
  word == "elif" || word == "else"

/-- The kinds of line that have a block of their own. -/
inductive HeaderKind where
  | loop (header : Loop)
  | define (definition : Definition)
  | choose
  | repeat
  | skip
  | none

/-- What a line of code introduces. -/
def HeaderKind.ofCode (structured : Bool) (code : String) : HeaderKind :=
  if code.toList.getLast? != some ':' then .none
  else
    match Loop.ofHeader? code, Definition.ofHeader? code with
    | some header, _ => .loop header
    | Option.none, some definition => .define definition
    | Option.none, Option.none =>
      if !structured then .none
      else if headWord code == "if" then .choose
      else if headWord code == "while" then .repeat
      else if isAlternative code then .skip
      else .none

/-- A statement with what stands below it: `after` holds all the lines that follow, and `body` the
first of them as far as they are indented deeper. -/
structure Paragraph where
  line : Line
  after : List Line
  body : List Line

/-- The paragraph that begins with `first`, joined with as many of the following lines as it
needs. -/
def Paragraph.cut (first : Line) (following : List Line) : Paragraph :=
  let joined := first.join following
  let after := following.drop joined.2
  { line := joined.1, after, body := after.take (bodyLength joined.1.indent after) }

def Paragraph.rest (p : Paragraph) : List Line :=
  p.after.drop p.body.length

theorem Paragraph.length_after_cut (first : Line) (following : List Line) :
    (Paragraph.cut first following).after.length ≤ following.length := by
  simp [Paragraph.cut]

theorem Paragraph.length_rest_le (p : Paragraph) : p.rest.length ≤ p.after.length := by
  simp [Paragraph.rest]

/-- The alternative at `indent` that continues a chain. -/
def nextAlternative? (indent : Nat) (lines : List Line) : Option Paragraph :=
  match lines.dropWhile Line.isSilent with
  | [] => none
  | first :: following =>
    if first.indent == indent && isAlternative first.code then
      some (Paragraph.cut first following)
    else none

theorem length_rest_nextAlternative {indent : Nat} {lines : List Line} {p : Paragraph}
    (h : nextAlternative? indent lines = some p) : p.rest.length < lines.length := by
  unfold nextAlternative? at h
  have kept := (List.dropWhile_sublist Line.isSilent : List.Sublist _ lines).length_le
  split at h
  · contradiction
  · rename_i first following heq
    rw [heq] at kept
    split at h
    · cases h
      have after := Paragraph.length_after_cut first following
      have rest := Paragraph.length_rest_le (Paragraph.cut first following)
      simp at kept
      omega
    · contradiction

/-- The alternatives that continue a chain at `indent`, and the lines after them.  Nothing follows
the last resort. -/
def alternatives (indent : Nat) (lines : List Line) : List Paragraph × List Line :=
  match h : nextAlternative? indent lines with
  | none => ([], lines)
  | some p =>
    have := length_rest_nextAlternative h
    if headWord p.line.code == "else" then ([p], p.rest)
    else
      let later := alternatives indent p.rest
      (p :: later.1, later.2)
termination_by lines.length

theorem length_alternatives_le (indent : Nat) (lines : List Line) :
    (alternatives indent lines).2.length ≤ lines.length := by
  fun_induction alternatives indent lines with
  | case1 => simp
  | case2 => simp; omega
  | case3 lines p h _ _ later ih =>
    have : later.2.length ≤ p.rest.length := ih
    show later.2.length ≤ lines.length
    omega

/-- One thing to do, with the lines of its blocks. -/
inductive Shape where
  | simple (line : Line)
  | loop (header : Loop) (p : Paragraph)
  | define (definition : Definition) (p : Paragraph)
  | choose (first : Paragraph) (rest : List Paragraph)
  | repeat (p : Paragraph)
  | skip (line : Line)

/-- What a paragraph is, and the lines that follow. -/
def Paragraph.shape (structured : Bool) (indent : Nat) (p : Paragraph) : Shape × List Line :=
  match HeaderKind.ofCode structured p.line.code with
  | .none => (.simple p.line, p.after)
  | .loop header => (.loop header p, p.rest)
  | .define definition => (.define definition p, p.rest)
  | .repeat => (.repeat p, p.rest)
  | .skip => (.skip p.line, p.rest)
  | .choose =>
    let later := alternatives indent p.rest
    (.choose p later.1, later.2)

theorem Paragraph.length_shape_le (structured : Bool) (indent : Nat) (p : Paragraph) :
    (p.shape structured indent).2.length ≤ p.after.length := by
  have rest := p.length_rest_le
  have later := length_alternatives_le indent p.rest
  unfold Paragraph.shape
  split <;> simp <;> omega

/-- The paragraphs of a list of lines, one after another. -/
def shapes (structured : Bool) : List Line → List Shape
  | [] => []
  | first :: following =>
    if first.isSilent then shapes structured following
    else
      let next := (Paragraph.cut first following).shape structured first.indent
      next.1 :: shapes structured next.2
termination_by lines => lines.length
decreasing_by
  · simp
  · have cut := Paragraph.length_after_cut first following
    have shape := (Paragraph.cut first following).length_shape_le structured first.indent
    simp
    omega

/-- The tree of a list of lines that nest at most `depth` levels. -/
def Item.ofDepth (structured : Bool) : Nat → List Line → List Item
  | 0, _ => []
  | depth + 1, lines =>
    let block := Item.ofDepth structured depth
    let branch (p : Paragraph) : Branch :=
      let condition :=
        if headWord p.line.code == "else" then none else some (Condition.ofText p.line.code)
      .mk p.line condition (block p.body)
    (shapes structured lines).map fun
      | .simple line => .simple line (Statement.ofCode line.code)
      | .loop header p => .loop p.line header p.body (block p.body)
      | .define definition p => .define p.line definition p.body (block p.body)
      | .choose first rest => .choose (branch first) (rest.map branch)
      | .repeat p => .repeat p.line (Condition.ofText p.line.code) (block p.body)
      | .skip line => .skip line

/-- The tree of a list of lines.  A block has fewer lines than the list it is part of. -/
def Item.ofLines (structured : Bool) (lines : List Line) : List Item :=
  Item.ofDepth structured (lines.length + 1) lines

end Walkthrough
