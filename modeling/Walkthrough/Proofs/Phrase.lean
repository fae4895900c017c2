import Mathlib.Tactic.FinCases
import Walkthrough.Proofs.Parsing
import Walkthrough.Proofs.Spelling

/-!
# Written expressions

A phrase is an expression as it is written: its parentheses are part of it.  `Phrase.text` writes it
down, `Phrase.expr` is the expression that it stands for, and `Phrase.Proper` says that it has the
parentheses that it needs, so that every operator finds its operands.

* `Phrase.level`: how tightly the outermost operator of a phrase binds.
* `Phrase.height`: how deeply the constructs of a phrase nest, parentheses included.
* `Follows`: what may stand behind a phrase that is read up to a given strength.
-/

namespace Walkthrough

/-! ## Expressions without their places -/

mutual

/-- An expression at no place of the text. -/
def Expr.bare : Expr → Expr
  | .const value _ => .const value .unknown
  | .name id _ => .name id .unknown
  | .binary op left right _ => .binary op left.bare right.bare .unknown
  | .logic op left right _ => .logic op left.bare right.bare .unknown
  | .not operand _ => .not operand.bare .unknown
  | .unary op operand _ => .unary op operand.bare .unknown
  | .compare first rest _ => .compare first.bare (bareComparands rest) .unknown
  | .conditional condition yes no _ => .conditional condition.bare yes.bare no.bare .unknown
  | .call function arguments _ => .call function (bareAll arguments) .unknown
  | .method receiver name arguments _ => .method receiver.bare name (bareAll arguments) .unknown
  | .subscript object index _ => .subscript object.bare index.bare .unknown
  | .slice object start stop step _ _ =>
    .slice object.bare (barePart start) (barePart stop) (barePart step) .unknown .unknown
  | .list elements _ => .list (bareAll elements) .unknown
  | .dict entries _ => .dict (bareEntries entries) .unknown
  | .comprehension body clauses _ => .comprehension body.bare (bareClauses clauses) .unknown
  | .formatted pieces _ => .formatted (barePieces pieces) .unknown

def bareAll : List Expr → List Expr
  | [] => []
  | expr :: rest => expr.bare :: bareAll rest

/-- A part of a slice that is left out counts as the constant none. -/
def barePart : Option Expr → Option Expr
  | none => some (.const .none .unknown)
  | some expr => some expr.bare

def bareComparands : List Comparand → List Comparand
  | [] => []
  | .mk op operand :: rest => .mk op operand.bare :: bareComparands rest

def bareEntries : List Entry → List Entry
  | [] => []
  | .mk key value :: rest => .mk key.bare value.bare :: bareEntries rest

def bareClauses : List Clause → List Clause
  | [] => []
  | .forIn target source _ :: rest => .forIn target source.bare .unknown :: bareClauses rest
  | .filter condition _ :: rest => .filter condition.bare .unknown :: bareClauses rest

def barePieces : List Piece → List Piece
  | [] => []
  | .text value _ :: rest => .text value .unknown :: barePieces rest
  | .field value conversion spec _ :: rest =>
    .field value.bare conversion spec .unknown :: barePieces rest

end

theorem Expr.bare_name (id : String) (span : Span) : (Expr.name id span).bare = .name id .unknown := by
  rw [Expr.bare]

end Walkthrough

namespace Walkthrough.Written

open Syntax (strength IsWord EndsWord)

variable {x : Char} {r : List Char} {word : String} {above : Int}
open Text Number

/-! ## Phrases -/

mutual

inductive Phrase where
  | none
  | bool (value : Bool)
  | int (value : Nat)
  | str (value : String)
  | name (id : String)
  | paren (inner : Phrase)
  | unary (op : UnaryOp) (operand : Phrase)
  | binary (op : BinaryOp) (left right : Phrase)
  | compare (first : Phrase) (rest : List Comparand)
  | not (operand : Phrase)
  | logic (op : LogicOp) (left right : Phrase)
  | conditional (yes condition no : Phrase)
  | call (function : String) (arguments : List Phrase)
  /-- The receiver stands in parentheses, and so do the objects of subscripts and slices. -/
  | method (receiver : Phrase) (name : String) (arguments : List Phrase)
  | subscript (object index : Phrase)
  | slice (object : Phrase) (start stop step : Option Phrase)
  | list (elements : List Phrase)
  | dict (entries : List Entry)
  /-- The first clause is a loop. -/
  | comprehension (body : Phrase) (target : String) (source : Phrase) (clauses : List Clause)

inductive Comparand where
  | mk (op : CompareOp) (operand : Phrase)

inductive Entry where
  | mk (key value : Phrase)

inductive Clause where
  | forIn (target : String) (source : Phrase)
  | filter (condition : Phrase)

end

/-! ## Text -/

mutual

/-- A phrase as it is written. -/
def Phrase.text : Phrase → List Char
  | .none => "None".toList
  | .bool true => "True".toList
  | .bool false => "False".toList
  | .int value => Nat.toDigits 10 value
  | .str value => (quoted value).toList
  | .name id => id.toList
  | .paren inner => '(' :: (inner.text ++ [')'])
  | .unary op operand => op.symbol.toList ++ operand.text
  | .binary op left right => left.text ++ ' ' :: (op.symbol.toList ++ ' ' :: right.text)
  | .compare first rest => first.text ++ comparandsText rest
  | .not operand => "not".toList ++ ' ' :: operand.text
  | .logic op left right => left.text ++ ' ' :: (op.symbol.toList ++ ' ' :: right.text)
  | .conditional yes condition no =>
    yes.text ++ ' ' :: ("if".toList ++ ' ' ::
      (condition.text ++ ' ' :: ("else".toList ++ ' ' :: no.text)))
  | .call function arguments => function.toList ++ '(' :: (itemsText arguments ++ [')'])
  | .method receiver name arguments =>
    '(' :: (receiver.text ++ ')' :: '.' :: (name.toList ++ '(' :: (itemsText arguments ++ [')'])))
  | .subscript object index => '(' :: (object.text ++ ')' :: '[' :: (index.text ++ [']']))
  | .slice object start stop step =>
    '(' :: (object.text ++ ')' :: '[' ::
      (partText start ++ ':' :: (partText stop ++ (stepText step ++ [']']))))
  | .list elements => '[' :: (itemsText elements ++ [']'])
  | .dict entries => '{' :: (entriesText entries ++ ['}'])
  | .comprehension body target source clauses =>
    '[' :: (body.text ++ ' ' :: ("for".toList ++ ' ' :: (target.toList ++ ' ' ::
      ("in".toList ++ ' ' :: (source.text ++ (clausesText clauses ++ [']']))))))

/-- Phrases with commas between them. -/
def itemsText : List Phrase → List Char
  | [] => []
  | phrase :: rest => phrase.text ++ moreItemsText rest

/-- Phrases with a comma before each. -/
def moreItemsText : List Phrase → List Char
  | [] => []
  | phrase :: rest => ',' :: ' ' :: (phrase.text ++ moreItemsText rest)

/-- A part of a slice, if it is not left out. -/
def partText : Option Phrase → List Char
  | none => []
  | some phrase => phrase.text

/-- The last part of a slice with its colon, if it is not left out. -/
def stepText : Option Phrase → List Char
  | none => []
  | some phrase => ':' :: phrase.text

def comparandsText : List Comparand → List Char
  | [] => []
  | .mk op operand :: rest =>
    ' ' :: (op.symbol.toList ++ ' ' :: (operand.text ++ comparandsText rest))

def entriesText : List Entry → List Char
  | [] => []
  | .mk key value :: rest => key.text ++ ':' :: ' ' :: (value.text ++ moreEntriesText rest)

def moreEntriesText : List Entry → List Char
  | [] => []
  | .mk key value :: rest =>
    ',' :: ' ' :: (key.text ++ ':' :: ' ' :: (value.text ++ moreEntriesText rest))

def clausesText : List Clause → List Char
  | [] => []
  | .forIn target source :: rest =>
    ' ' :: ("for".toList ++ ' ' :: (target.toList ++ ' ' ::
      ("in".toList ++ ' ' :: (source.text ++ clausesText rest))))
  | .filter condition :: rest =>
    ' ' :: ("if".toList ++ ' ' :: (condition.text ++ clausesText rest))

end

/-! ## Meaning -/

mutual

/-- The expression that a phrase stands for, at no place of the text. -/
def Phrase.expr : Phrase → Expr
  | .none => .const .none .unknown
  | .bool value => .const (.bool value) .unknown
  | .int value => .const (.int value) .unknown
  | .str value => .const (.str value) .unknown
  | .name id => .name id .unknown
  | .paren inner => inner.expr
  | .unary op operand => .unary op operand.expr .unknown
  | .binary op left right => .binary op left.expr right.expr .unknown
  | .compare first rest => .compare first.expr (comparandExprs rest) .unknown
  | .not operand => .not operand.expr .unknown
  | .logic op left right => .logic op left.expr right.expr .unknown
  | .conditional yes condition no => .conditional condition.expr yes.expr no.expr .unknown
  | .call function arguments => .call function (itemExprs arguments) .unknown
  | .method receiver name arguments => .method receiver.expr name (itemExprs arguments) .unknown
  | .subscript object index => .subscript object.expr index.expr .unknown
  | .slice object start stop step =>
    .slice object.expr (partExpr start) (partExpr stop) (partExpr step) .unknown .unknown
  | .list elements => .list (itemExprs elements) .unknown
  | .dict entries => .dict (entryExprs entries) .unknown
  | .comprehension body target source clauses =>
    .comprehension body.expr (.forIn target source.expr .unknown :: clauseExprs clauses) .unknown

def itemExprs : List Phrase → List Expr
  | [] => []
  | phrase :: rest => phrase.expr :: itemExprs rest

/-- A part of a slice that is left out stands for the constant none. -/
def partExpr : Option Phrase → Option Expr
  | none => some (.const .none .unknown)
  | some phrase => some phrase.expr

def comparandExprs : List Comparand → List Walkthrough.Comparand
  | [] => []
  | .mk op operand :: rest => .mk op operand.expr :: comparandExprs rest

def entryExprs : List Entry → List Walkthrough.Entry
  | [] => []
  | .mk key value :: rest => .mk key.expr value.expr :: entryExprs rest

def clauseExprs : List Clause → List Walkthrough.Clause
  | [] => []
  | .forIn target source :: rest => .forIn target source.expr .unknown :: clauseExprs rest
  | .filter condition :: rest => .filter condition.expr .unknown :: clauseExprs rest

end

theorem Phrase.expr_paren (inner : Phrase) : (Phrase.paren inner).expr = inner.expr := by
  rw [Phrase.expr]

/-! ## Nesting -/

mutual

/-- How deeply the constructs of a phrase nest. -/
def Phrase.height : Phrase → Nat
  | .none | .bool _ | .int _ | .str _ | .name _ => 1
  | .paren inner => inner.height + 1
  | .unary _ operand | .not operand => operand.height + 1
  | .binary _ left right | .logic _ left right => max left.height right.height + 1
  | .compare first rest => max first.height (comparandsHeight rest) + 1
  | .conditional yes condition no => max yes.height (max condition.height no.height) + 1
  | .call _ arguments => itemsHeight arguments + 1
  | .method receiver _ arguments => max (receiver.height + 1) (itemsHeight arguments) + 1
  | .subscript object index => max (object.height + 1) index.height + 1
  | .slice object start stop step =>
    max (object.height + 1) (max (partHeight start) (max (partHeight stop) (partHeight step))) + 1
  | .list elements => itemsHeight elements + 1
  | .dict entries => entriesHeight entries + 1
  | .comprehension body _ source clauses =>
    max body.height (max source.height (clausesHeight clauses)) + 1

def itemsHeight : List Phrase → Nat
  | [] => 0
  | phrase :: rest => max phrase.height (itemsHeight rest)

def partHeight : Option Phrase → Nat
  | none => 0
  | some phrase => phrase.height

def comparandsHeight : List Comparand → Nat
  | [] => 0
  | .mk _ operand :: rest => max operand.height (comparandsHeight rest)

def entriesHeight : List Entry → Nat
  | [] => 0
  | .mk key value :: rest => max (max key.height value.height) (entriesHeight rest)

def clausesHeight : List Clause → Nat
  | [] => 0
  | .forIn _ source :: rest => max source.height (clausesHeight rest)
  | .filter condition :: rest => max condition.height (clausesHeight rest)

end

theorem Phrase.height_pos (phrase : Phrase) : 0 < phrase.height := by
  cases phrase <;> simp [height]

/-! ## Precedence -/

/-- The strength of an operator that joins expressions. -/
def logicStrength : LogicOp → Int
  | .and => Syntax.andStrength
  | .or => Syntax.orStrength

/-- How tightly the outermost operator of a phrase binds. -/
def Phrase.level : Phrase → Int
  | .unary .. => Syntax.signStrength
  | .binary op _ _ => strength op
  | .compare .. => Syntax.compareStrength
  | .not _ => Syntax.notStrength
  | .logic op _ _ => logicStrength op
  | .conditional .. => Syntax.conditionalStrength
  | _ => Syntax.topStrength

/-- The words that are no names: the keywords, and the two words that begin a statement of their
own. -/
def reservedWords : List String :=
  ["False", "None", "True", "and", "as", "assert", "async", "await", "break", "class", "continue",
    "def", "del", "elif", "else", "except", "finally", "for", "from", "global", "if", "import",
    "in", "is", "lambda", "nonlocal", "not", "or", "pass", "raise", "return", "try", "while",
    "with", "yield", "print", "exec"]

/-- A word that may be used as a name. -/
def IsName (id : String) : Prop :=
  IsWord id.toList ∧ id ∉ reservedWords

instance (id : String) : Decidable (IsName id) :=
  inferInstanceAs (Decidable (_ ∧ _))

/-- The operands of an operator bind tightly enough to stand without parentheses.  Operators group to
the left, and powers to the right. -/
def BinaryFits (op : BinaryOp) (left right : Phrase) : Prop :=
  if op = .pow then Syntax.topStrength ≤ left.level ∧ Syntax.signStrength ≤ right.level
  else strength op ≤ left.level ∧ strength op < right.level

mutual

/-- A phrase whose names are names, whose numbers can be written, and that has all the parentheses it
needs. -/
def Phrase.Proper : Phrase → Prop
  | .none | .bool _ | .str _ => True
  | .int value => value < unwritable
  | .name id => IsName id
  | .paren inner => inner.Proper
  | .unary _ operand => Syntax.signStrength ≤ operand.level ∧ operand.Proper
  | .binary op left right => BinaryFits op left right ∧ left.Proper ∧ right.Proper
  | .compare first rest =>
    Syntax.compareStrength < first.level ∧ first.Proper ∧ rest ≠ [] ∧ ProperComparands rest
  | .not operand => Syntax.notStrength ≤ operand.level ∧ operand.Proper
  | .logic op left right =>
    (logicStrength op ≤ left.level ∧ logicStrength op < right.level) ∧ left.Proper ∧ right.Proper
  | .conditional yes condition no =>
    (Syntax.conditionalStrength < yes.level ∧ Syntax.conditionalStrength < condition.level) ∧
      yes.Proper ∧ condition.Proper ∧ no.Proper
  | .call function arguments => IsName function ∧ ProperItems arguments
  | .method receiver name arguments => receiver.Proper ∧ IsName name ∧ ProperItems arguments
  | .subscript object index => object.Proper ∧ index.Proper
  | .slice object start stop step =>
    object.Proper ∧ ProperPart start ∧ ProperPart stop ∧ ProperPart step
  | .list elements => ProperItems elements
  | .dict entries => ProperEntries entries
  | .comprehension body target source clauses =>
    body.Proper ∧ IsName target ∧
      (Syntax.conditionalStrength < source.level ∧ source.Proper) ∧ ProperClauses clauses

def ProperItems : List Phrase → Prop
  | [] => True
  | phrase :: rest => phrase.Proper ∧ ProperItems rest

def ProperPart : Option Phrase → Prop
  | none => True
  | some phrase => phrase.Proper

def ProperComparands : List Comparand → Prop
  | [] => True
  | .mk op operand :: rest =>
    op ∈ CompareOp.all ∧ (Syntax.compareStrength < operand.level ∧ operand.Proper) ∧
      ProperComparands rest

def ProperEntries : List Entry → Prop
  | [] => True
  | .mk key value :: rest => key.Proper ∧ value.Proper ∧ ProperEntries rest

def ProperClauses : List Clause → Prop
  | [] => True
  | .forIn target source :: rest =>
    IsName target ∧ (Syntax.conditionalStrength < source.level ∧ source.Proper) ∧ ProperClauses rest
  | .filter condition :: rest =>
    (Syntax.conditionalStrength < condition.level ∧ condition.Proper) ∧ ProperClauses rest

end

/-! ## How phrases begin -/

/-- A character with which a phrase may begin. -/
def opensPhrase (x : Char) : Bool :=
  isIdentifierStart x || x.isDigit || ['\'', '"', '(', '[', '{', '-', '+', '~'].contains x

/-- Behind the parentheses with which a text begins, a phrase begins.  In particular no star is
there, so that the parentheses spread nothing. -/
def opensPlainly : List Char → Bool
  | [] => false
  | x :: rest => if x == '(' then opensPlainly rest else opensPhrase x

theorem ne_of_opensPhrase (hx : opensPhrase x) (hy : opensPhrase y = false) : x ≠ y := by
  rintro rfl
  simp [hy] at hx

theorem isSolid_of_isDigit (hx : x.isDigit) : Syntax.isSolid x := by
  have hcode := toNat_of_isDigit hx
  have hne {y : Char} (hy : y.isDigit = false) : x ≠ y := by
    rintro rfl
    simp [hy] at hx
  simp only [Syntax.isSolid, Syntax.isGap, Bool.and_eq_true, Bool.not_eq_true',
    Bool.or_eq_false_iff, Bool.and_eq_false_iff, decide_eq_false_iff_not, beq_eq_false_iff_ne,
    bne_iff_ne]
  refine ⟨⟨⟨⟨⟨⟨?_, hne rfl⟩, ?_⟩, ?_⟩, ?_⟩, hne rfl⟩, hne rfl⟩ <;> omega

theorem isSolid_of_opensPhrase (hx : opensPhrase x) : Syntax.isSolid x := by
  simp only [opensPhrase, Bool.or_eq_true] at hx
  rcases hx with (hx | hx) | hx
  · exact Syntax.isSolid_of_isIdentifierStart hx
  · exact isSolid_of_isDigit hx
  · rw [List.contains_iff_mem] at hx
    fin_cases hx <;> decide

theorem opensPlainly_cons (hx : opensPhrase x) (hparen : x ≠ '(') : opensPlainly (x :: s) := by
  simp [opensPlainly, hx, hparen]

theorem opensPlainly_paren : opensPlainly ('(' :: s) = opensPlainly s := by
  simp [opensPlainly]

theorem opensPlainly.cons (h : opensPlainly s) : ∃ x xs, s = x :: xs ∧ opensPhrase x := by
  cases s with
  | nil => simp [opensPlainly] at h
  | cons x xs =>
    refine ⟨x, xs, rfl, ?_⟩
    rw [opensPlainly] at h
    split at h
    · next hparen => exact beq_iff_eq.mp hparen ▸ (by decide)
    · exact h

theorem opensPlainly.solid (h : opensPlainly s) : Syntax.Solid s := by
  obtain ⟨x, xs, rfl, hx⟩ := opensPlainly.cons h
  exact .cons (isSolid_of_opensPhrase hx) xs

/-- A text that begins with an identifier. -/
theorem opensPlainly_word (hs : IsWord s) : opensPlainly (s ++ r) := by
  obtain ⟨x, xs, rfl, hx, -⟩ := hs.cons
  refine opensPlainly_cons (by simp [opensPhrase, hx]) ?_
  rintro rfl
  exact absurd hx (by decide)

/-- Digits of a number. -/
theorem toDigits_cons (n : Nat) : ∃ x xs, Nat.toDigits 10 n = x :: xs ∧ x.isDigit := by
  cases h : Nat.toDigits 10 n with
  | nil => exact absurd h Nat.toDigits_ne_nil
  | cons x xs =>
    exact ⟨x, xs, rfl, Nat.isDigit_of_mem_toDigits (by decide) (by decide) (h ▸ List.mem_cons_self)⟩

theorem quoted_cons (value : String) :
    ∃ x xs, (quoted value).toList = x :: xs ∧ (x = '\'' ∨ x = '"') := by
  exact ⟨_, _, quoted_toList value, chooseQuote_cases _⟩

/-- The word with which a phrase begins, empty if it begins with none. -/
def Phrase.lead : Phrase → String
  | .none => "None"
  | .bool true => "True"
  | .bool false => "False"
  | .name id => id
  | .call function _ => function
  | .not _ => "not"
  | .binary _ left _ | .logic _ left _ => left.lead
  | .compare first _ => first.lead
  | .conditional yes _ _ => yes.lead
  | _ => ""

theorem endsWord_cons (hx : isIdentifierPart x = false) :
    EndsWord (x :: r) := by
  rintro y ⟨⟩
  exact hx

theorem endsWord_nil : EndsWord [] :=
  nofun

theorem endsWord_blank : EndsWord (' ' :: r) :=
  endsWord_cons (by decide)

theorem leadingWord_nil (hx : isIdentifierStart x = false) : Syntax.leadingWord (x :: xs) = "".toList :=
  Syntax.leadingWord_of_not_isIdentifierStart hx

theorem isIdentifierStart_eq_false_of_isDigit (hx : x.isDigit) :
    isIdentifierStart x = false := by
  have hcode := toNat_of_isDigit hx
  have hascii : x.toNat < 128 := by omega
  rw [isIdentifierStart, if_pos hascii]
  have hunderscore : x ≠ '_' := by
    rintro rfl
    exact absurd hx (by decide)
  have halpha : x.isAlpha = false := by
    rw [Bool.eq_false_iff]
    intro h
    simp only [Char.isAlpha, Char.isUpper, Char.isLower, Bool.or_eq_true, Bool.and_eq_true,
      decide_eq_true_eq, UInt32.le_iff_toNat_le, ge_iff_le] at h
    change (65 ≤ x.toNat ∧ x.toNat ≤ 90) ∨ (97 ≤ x.toNat ∧ x.toNat ≤ 122) at h
    omega
  simp [halpha, hunderscore]

/-- How the text of a phrase begins: plainly, and with the word `lead`.  The word is none that is
reserved, or one of the four that stand for something in front of everything else. -/
structure Opens (lead : String) (s : List Char) : Prop where
  plain (r : List Char) : opensPlainly (s ++ r)
  word {r : List Char} : EndsWord r → Syntax.leadingWord (s ++ r) = lead.toList
  free : lead ∉ reservedWords ∨ lead ∈ ["None", "True", "False", "not"]

theorem Opens.alone (h : Opens lead s) :
    opensPlainly s ∧ Syntax.leadingWord s = lead.toList := by
  have hplain := h.plain []
  have hword := h.word endsWord_nil
  rw [List.append_nil] at hplain hword
  exact ⟨hplain, hword⟩

theorem Opens.ofWord (hword : IsWord lead.toList)
    (hfree : lead ∉ reservedWords ∨ lead ∈ ["None", "True", "False", "not"]) :
    Opens lead lead.toList :=
  ⟨fun _ => opensPlainly_word hword, hword.leadingWord_append, hfree⟩

/-- A text that begins with no word and no parenthesis. -/
theorem Opens.ofSign (hx : opensPhrase x) (hparen : x ≠ '(')
    (hstart : isIdentifierStart x = false) : Opens "" (x :: s) :=
  ⟨fun _ => opensPlainly_cons hx hparen, fun _ => leadingWord_nil hstart, .inl (by decide)⟩

theorem Opens.paren (h : Opens lead s) : Opens "" ('(' :: (s ++ t)) := by
  refine ⟨fun r => ?_, fun _ => leadingWord_nil (by decide), .inl (by decide)⟩
  rw [List.cons_append, opensPlainly_paren, List.append_assoc]
  exact h.plain _

/-- A text that goes on with something that belongs to no word. -/
theorem Opens.append (h : Opens lead s) (hx : isIdentifierPart x = false) :
    Opens lead (s ++ x :: t) := by
  refine ⟨fun r => ?_, fun _ => ?_, h.free⟩
  · rw [List.append_assoc]
    exact h.plain _
  · rw [List.append_assoc]
    exact h.word (endsWord_cons hx)

/-- How a phrase begins, by induction on its leftmost part. -/
theorem Phrase.opens (phrase : Phrase) (h : phrase.Proper) : Opens phrase.lead phrase.text := by
  cases phrase with
  | none => exact .ofWord (by decide) (.inr (by decide))
  | bool value => cases value <;> exact .ofWord (by decide) (.inr (by decide))
  | int value =>
    obtain ⟨x, xs, hdigits, hx⟩ := toDigits_cons value
    rw [text, hdigits]
    refine .ofSign (by simp [opensPhrase, hx]) ?_ (isIdentifierStart_eq_false_of_isDigit hx)
    rintro rfl
    exact absurd hx (by decide)
  | str value =>
    obtain ⟨x, xs, hquoted, hx⟩ := quoted_cons value
    rw [text, hquoted]
    rcases hx with rfl | rfl <;> exact .ofSign (by decide) (by decide) (by decide)
  | unary op operand => cases op <;> exact .ofSign (by decide) (by decide) (by decide)
  | list elements => exact .ofSign (by decide) (by decide) (by decide)
  | dict entries => exact .ofSign (by decide) (by decide) (by decide)
  | comprehension body target source clauses =>
    exact .ofSign (by decide) (by decide) (by decide)
  | not operand =>
    have hword : IsWord "not".toList := by decide
    exact (Opens.ofWord hword (.inr (by decide))).append (by decide)
  | name id =>
    rw [Proper] at h
    exact .ofWord h.1 (.inl h.2)
  | call function arguments =>
    rw [Proper] at h
    exact (Opens.ofWord h.1.1 (.inl h.1.2)).append (by decide)
  | paren inner =>
    rw [Proper] at h
    exact (inner.opens h).paren
  | method receiver id arguments =>
    rw [Proper] at h
    exact (receiver.opens h.1).paren
  | subscript object index =>
    rw [Proper] at h
    exact (object.opens h.1).paren
  | slice object start stop step =>
    rw [Proper] at h
    exact (object.opens h.1).paren
  | binary op left right =>
    rw [Proper] at h
    exact (left.opens h.2.1).append (by decide)
  | logic op left right =>
    rw [Proper] at h
    exact (left.opens h.2.1).append (by decide)
  | conditional yes condition no =>
    rw [Proper] at h
    exact (yes.opens h.2.1).append (by decide)
  | compare first rest =>
    rw [Proper] at h
    rcases rest with _ | ⟨⟨op, operand⟩, rest⟩
    · exact absurd rfl h.2.2.1
    · exact (first.opens h.2.1).append (by decide)

/-- No phrase begins with any other reserved word. -/
theorem Phrase.lead_ne (phrase : Phrase) (hproper : phrase.Proper)
    (hword : word ∈ reservedWords) (hother : word ∉ ["None", "True", "False", "not"]) :
    phrase.lead ≠ word := by
  rintro rfl
  rcases (phrase.opens hproper).free with h | h
  · exact h hword
  · exact hother h

theorem Phrase.beginsWord_text {phrase : Phrase} (h : phrase.Proper) (hr : EndsWord r)
    (hword : word ∈ reservedWords)
    (hother : word ∉ ["None", "True", "False", "not"]) :
    Syntax.beginsWord word (phrase.text ++ r) = false := by
  rw [Syntax.beginsWord, (phrase.opens h).word hr, beq_eq_false_iff_ne, ne_eq, String.toList_inj]
  exact phrase.lead_ne h hword hother

theorem Phrase.beginsWord_alone (phrase : Phrase) (h : phrase.Proper)
    (hword : word ∈ reservedWords) (hother : word ∉ ["None", "True", "False", "not"]) :
    Syntax.beginsWord word phrase.text = false := by
  have hbegins := beginsWord_text h endsWord_nil hword hother
  rwa [List.append_nil] at hbegins

/-! ## What follows phrases -/

/-- The words that may stand behind an expression, with how tightly they bind; two of them never
belong to the expression before them. -/
def followingWords : List (String × Int) :=
  [("and", Syntax.andStrength), ("or", Syntax.orStrength), ("if", Syntax.conditionalStrength),
    ("else", Syntax.anyStrength), ("for", Syntax.anyStrength)]

/-- What may stand behind a phrase that is read with all that binds tighter than `above`: nothing of
it would be read on. -/
inductive Follows (above : Int) : List Char → Prop where
  | done : Follows above []
  | closer {x : Char} (hx : x ∈ [',', ')', ']', '}']) (rest : List Char) : Follows above (x :: rest)
  | colon {rest : List Char} (hrest : ∀ y ∈ rest.head?, y ≠ '=') : Follows above (':' :: rest)
  | binary (op : BinaryOp) (h : strength op ≤ above) (rest : List Char) :
    Follows above (' ' :: (op.symbol.toList ++ ' ' :: rest))
  | compare {op : CompareOp} (hop : op ∈ CompareOp.all) (h : Syntax.compareStrength ≤ above)
    (rest : List Char) : Follows above (' ' :: (op.symbol.toList ++ ' ' :: rest))
  | word {text : String} {force : Int} (hword : (text, force) ∈ followingWords) (h : force ≤ above)
    (rest : List Char) : Follows above (' ' :: (text.toList ++ ' ' :: rest))

/-- A text without the blank at its beginning. -/
def behind : List Char → List Char
  | ' ' :: rest => rest
  | text => text

/-- The words that go on with an expression, with how tightly they bind. -/
def joiningForces : List (String × Int) :=
  [("not", Syntax.compareStrength), ("is", Syntax.compareStrength), ("in", Syntax.compareStrength),
    ("and", Syntax.andStrength), ("or", Syntax.orStrength), ("as", Syntax.asStrength),
    ("if", Syntax.conditionalStrength)]

/-- Nothing that binds tighter than `above` goes on with this text. -/
structure Stops (above : Int) (s : List Char) : Prop where
  trailer : ∀ x ∈ s.head?, x ∉ ['(', '[', '.']
  literal : Syntax.opensLiteral s = false
  walrus : Syntax.startsWith ":=".toList s = false
  binary : ∀ op, Syntax.binaryAt? s = some op → strength op ≤ above
  sign : above < Syntax.compareStrength → Syntax.comparisonSign? s = none
  word : ∀ text force, (text, force) ∈ joiningForces → above < force →
    Syntax.beginsWord text s = false

theorem strength_bounds (op : BinaryOp) : 14 ≤ strength op ∧ strength op ≤ 21 := by
  cases op <;> decide

/-- No word goes on where the leading word binds no tighter than `above`. -/
theorem beginsWord_eq_false (lead : String) (hlead : Syntax.leadingWord s = lead.toList)
    (hforce : ∀ force, (lead, force) ∈ joiningForces → force ≤ above) (text : String) (force : Int)
    (htext : (text, force) ∈ joiningForces) (habove : above < force) :
    Syntax.beginsWord text s = false := by
  rw [Syntax.beginsWord, hlead, beq_eq_false_iff_ne, ne_eq, String.toList_inj]
  rintro rfl
  have := hforce force htext
  omega

theorem force_le_compareStrength (h : (text, force) ∈ joiningForces) :
    force ≤ Syntax.compareStrength := by
  fin_cases h <;> decide

theorem no_force (above : Int) : ∀ force, ("", force) ∈ joiningForces → force ≤ above := by
  intro force h
  simp [joiningForces] at h

theorem no_binary (h : Syntax.binaryAt? s = none) (above : Int) :
    ∀ op, Syntax.binaryAt? s = some op → strength op ≤ above := by
  simp [h]

theorem Follows.stops (h : Follows above r) : Stops above (behind r) := by
  cases h with
  | done =>
    exact ⟨by simp [behind], rfl, rfl, no_binary rfl above, fun _ => rfl,
      beginsWord_eq_false "" rfl (no_force above)⟩
  | @closer x hx rest =>
    fin_cases hx
    all_goals
      exact ⟨by simp [behind], rfl, rfl, no_binary rfl above, fun _ => rfl,
        beginsWord_eq_false "" rfl (no_force above)⟩
  | @colon rest hrest =>
    refine ⟨by simp [behind], rfl, ?_, no_binary rfl above, fun _ => rfl,
      beginsWord_eq_false "" rfl (no_force above)⟩
    cases rest with
    | nil => rfl
    | cons y rest =>
      have hy : ('=' == y) = false := beq_eq_false_iff_ne.mpr (Ne.symm (hrest y rfl))
      simp [behind, Syntax.startsWith, List.isPrefixOf, hy]
  | binary op h rest =>
    have hop := strength_bounds op
    have hnot : ¬ above < (Syntax.compareStrength : Int) := by
      simp only [Syntax.compareStrength]
      omega
    refine ⟨?_, ?_, ?_, ?_, fun h => absurd h hnot, ?_⟩
    · cases op <;> simp [behind, BinaryOp.symbol]
    · cases op <;> rfl
    · cases op <;> rfl
    · intro other hother
      have : Syntax.binaryAt? (behind (' ' :: (op.symbol.toList ++ ' ' :: rest))) = some op := by
        cases op <;> rfl
      rw [this] at hother
      cases hother
      exact h
    · refine beginsWord_eq_false "" ?_ (no_force above)
      cases op <;> rfl
  | @compare op hop h rest =>
    have hnot : ¬ above < (Syntax.compareStrength : Int) := by omega
    refine ⟨?_, ?_, ?_, ?_, fun h => absurd h hnot, ?_⟩
    · fin_cases hop <;> simp [behind, CompareOp.symbol]
    · fin_cases hop <;> rfl
    · fin_cases hop <;> rfl
    · fin_cases hop <;> exact no_binary rfl above
    · intro text force htext habove
      have := force_le_compareStrength htext
      omega
  | @word text force hword h rest =>
    fin_cases hword
    all_goals
      refine ⟨by simp [behind], rfl, rfl, no_binary rfl above, fun _ => rfl, ?_⟩
    · exact beginsWord_eq_false "and" rfl (by simpa [joiningForces] using h)
    · exact beginsWord_eq_false "or" rfl (by simpa [joiningForces] using h)
    · exact beginsWord_eq_false "if" rfl (by simpa [joiningForces] using h)
    · exact beginsWord_eq_false "else" rfl (by simp [joiningForces])
    · exact beginsWord_eq_false "for" rfl (by simp [joiningForces])

theorem Follows.mono (h : Follows above r) (habove : above ≤ above') : Follows above' r := by
  cases h with
  | done => exact .done
  | closer hx rest => exact .closer hx rest
  | colon hrest => exact .colon hrest
  | binary op h rest => exact .binary op (Int.le_trans h habove) rest
  | compare hop h rest => exact .compare hop (Int.le_trans h habove) rest
  | word hword h rest => exact .word hword (Int.le_trans h habove) rest

/-- The end of the text, or something that begins behind at most one blank. -/
theorem Follows.solid (h : Follows above r) :
    r = [] ∨ Syntax.Pad r (behind r) ∧ Syntax.Solid (behind r) := by
  cases h with
  | done => exact .inl rfl
  | closer hx rest => fin_cases hx <;> exact .inr ⟨.none, .cons rfl rest⟩
  | colon hrest => exact .inr ⟨.none, .cons rfl _⟩
  | binary op h rest => cases op <;> exact .inr ⟨.blank, .cons rfl _⟩
  | compare hop h rest => fin_cases hop <;> exact .inr ⟨.blank, .cons rfl _⟩
  | word hword h rest => fin_cases hword <;> exact .inr ⟨.blank, .cons rfl _⟩

/-- The first character behind a phrase belongs to no name, number or literal. -/
theorem Follows.head (h : Follows above r) : ∀ x ∈ r.head?, x ∈ [' ', ',', ')', ']', '}', ':'] := by
  cases h with
  | done => exact nofun
  | closer hx rest =>
    rintro y ⟨⟩
    fin_cases hx <;> decide
  | colon _ | binary _ _ _ | compare _ _ _ | word _ _ _ =>
    rintro y ⟨⟩
    decide

theorem Follows.endsWord (h : Follows above r) : EndsWord r := by
  intro x hx
  have hmem := h.head x hx
  fin_cases hmem <;> decide

/-- No equals sign follows what is read as a whole. -/
theorem Follows.ne_equals (h : Follows Syntax.anyStrength r) :
    ∀ t, behind r ≠ '=' :: t := by
  intro t heq
  cases h with
  | done => cases heq
  | closer hx rest => fin_cases hx <;> cases heq
  | colon _ => cases heq
  | binary op h _ =>
    have := strength_bounds op
    simp only [Syntax.anyStrength] at h
    omega
  | compare _ h _ => exact absurd h (by decide)
  | word hword h rest => fin_cases hword <;> cases heq

/-- What a parser sees behind a phrase. -/
theorem Follows.look (h : Follows above r) (multiline : Bool) :
    Syntax.Shows (Syntax.look multiline) r (behind r) := by
  rcases h.solid with rfl | ⟨hpad, hsolid⟩
  · exact Syntax.look_end multiline
  · exact Syntax.look_solid multiline hpad hsolid

end Walkthrough.Written
