import Walkthrough.Proofs.SoftWords

/-!
# Printing with parentheses

`Expr.printed` writes an expression down with every part of it in parentheses.  What is read from that
text is the same expression, apart from the places of its nodes (`Expr.bare`).

An expression has a text at all if it is `Printable`: a comparison compares, a comprehension begins
with a loop, and there are no decimal numbers, negative numbers or formatted strings.
-/

namespace Walkthrough

open Written (Phrase IsName)

/-! ## The printer -/

/-- The constant that an omitted part of a slice stands for. -/
def Expr.isNone : Expr → Bool
  | .const .none _ => true
  | _ => false

/-- Clauses of a comprehension that begin with a loop. -/
def beginWithLoop : List Clause → Prop
  | .forIn .. :: _ => True
  | _ => False

mutual

/-- An expression that can be written down. -/
def Expr.Printable : Expr → Prop
  | .const .none _ | .const (.bool _) _ | .const (.str _) _ => True
  | .const (.int value) _ => 0 ≤ value ∧ value.toNat < Number.unwritable
  | .const (.float _) _ => False
  | .name id _ => IsName id
  | .binary _ left right _ | .logic _ left right _ => left.Printable ∧ right.Printable
  | .not operand _ | .unary _ operand _ => operand.Printable
  | .compare first rest _ => first.Printable ∧ rest ≠ [] ∧ printableComparands rest
  | .conditional condition yes no _ => condition.Printable ∧ yes.Printable ∧ no.Printable
  | .call function arguments _ => IsName function ∧ printableAll arguments
  | .method receiver name arguments _ => receiver.Printable ∧ IsName name ∧ printableAll arguments
  | .subscript object index _ => object.Printable ∧ index.Printable
  | .slice object start stop step _ _ =>
    object.Printable ∧ printablePart start ∧ printablePart stop ∧ printablePart step
  | .list elements _ => printableAll elements
  | .dict entries _ => printableEntries entries
  | .comprehension body clauses _ =>
    body.Printable ∧ beginWithLoop clauses ∧ printableClauses clauses
  | .formatted .. => False

def printableAll : List Expr → Prop
  | [] => True
  | expr :: rest => expr.Printable ∧ printableAll rest

def printablePart : Option Expr → Prop
  | none => True
  | some expr => expr.Printable

def printableComparands : List Comparand → Prop
  | [] => True
  | .mk op operand :: rest => op ∈ CompareOp.all ∧ operand.Printable ∧ printableComparands rest

def printableEntries : List Entry → Prop
  | [] => True
  | .mk key value :: rest => key.Printable ∧ value.Printable ∧ printableEntries rest

def printableClauses : List Clause → Prop
  | [] => True
  | .forIn target source _ :: rest => IsName target ∧ source.Printable ∧ printableClauses rest
  | .filter condition _ :: rest => condition.Printable ∧ printableClauses rest

end

mutual

/-- An expression as it is written with every part of it in parentheses.  Parts of a slice that are the
constant none are left out. -/
def Expr.printed : Expr → Phrase
  | .const .none _ => .none
  | .const (.bool value) _ => .bool value
  | .const (.int value) _ => .int value.toNat
  | .const (.float _) _ => .none
  | .const (.str value) _ => .str value
  | .name id _ => .name id
  | .binary op left right _ => .binary op (.paren left.printed) (.paren right.printed)
  | .logic op left right _ => .logic op (.paren left.printed) (.paren right.printed)
  | .not operand _ => .not (.paren operand.printed)
  | .unary op operand _ => .unary op (.paren operand.printed)
  | .compare first rest _ => .compare (.paren first.printed) (printedComparands rest)
  | .conditional condition yes no _ =>
    .conditional (.paren yes.printed) (.paren condition.printed) (.paren no.printed)
  | .call function arguments _ => .call function (printedAll arguments)
  | .method receiver name arguments _ => .method receiver.printed name (printedAll arguments)
  | .subscript object index _ => .subscript object.printed (.paren index.printed)
  | .slice object start stop step _ _ =>
    .slice object.printed (printedPart start) (printedPart stop) (printedPart step)
  | .list elements _ => .list (printedAll elements)
  | .dict entries _ => .dict (printedEntries entries)
  | .comprehension body clauses _ =>
    match printedClauses clauses with
    | .forIn target source :: rest => .comprehension (.paren body.printed) target source rest
    | _ => .none
  | .formatted .. => .none

def printedAll : List Expr → List Phrase
  | [] => []
  | expr :: rest => .paren expr.printed :: printedAll rest

def printedPart : Option Expr → Option Phrase
  | none => none
  | some expr => if expr.isNone then none else some (.paren expr.printed)

def printedComparands : List Comparand → List Written.Comparand
  | [] => []
  | .mk op operand :: rest => .mk op (.paren operand.printed) :: printedComparands rest

def printedEntries : List Entry → List Written.Entry
  | [] => []
  | .mk key value :: rest => .mk (.paren key.printed) (.paren value.printed) :: printedEntries rest

def printedClauses : List Clause → List Written.Clause
  | [] => []
  | .forIn target source _ :: rest => .forIn target (.paren source.printed) :: printedClauses rest
  | .filter condition _ :: rest => .filter (.paren condition.printed) :: printedClauses rest

end

def Expr.print (e : Expr) : String :=
  String.ofList e.printed.text

/-! ## What the printed text stands for -/

/-- The phrase is well formed, and stands for the expression. -/
structure Prints (phrase : Phrase) (e : Expr) : Prop where
  proper : phrase.Proper
  expr : phrase.expr = e.bare

theorem Prints.paren (h : Prints phrase e) : Prints (.paren phrase) e :=
  ⟨by rw [Phrase.Proper]; exact h.proper, by rw [Phrase.expr]; exact h.expr⟩

/-- Operands in parentheses fit every operator. -/
theorem binaryFits_paren (op : BinaryOp) (left right : Phrase) :
    Written.BinaryFits op (.paren left) (.paren right) := by
  have := Written.strength_bounds op
  simp only [Written.BinaryFits, Phrase.level, Syntax.topStrength, Syntax.signStrength]
  split <;> omega

theorem Expr.bare_of_isNone {e : Expr} (h : e.isNone) : e.bare = .const .none .unknown := by
  unfold isNone at h
  split at h
  · rw [bare]
  · cases h

mutual

theorem Expr.prints_printed : ∀ e : Expr, e.Printable → Prints e.printed e
  | .const .none _, _ => by
    rw [Expr.printed]
    exact ⟨by simp [Phrase.Proper], by rw [Phrase.expr, Expr.bare]⟩
  | .const (.bool value) _, _ => by
    rw [Expr.printed]
    exact ⟨by simp [Phrase.Proper], by rw [Phrase.expr, Expr.bare]⟩
  | .const (.str value) _, _ => by
    rw [Expr.printed]
    exact ⟨by simp [Phrase.Proper], by rw [Phrase.expr, Expr.bare]⟩
  | .const (.int value) _, h => by
    rw [Expr.Printable] at h
    rw [Expr.printed]
    exact ⟨by rw [Phrase.Proper]; exact h.2,
      by rw [Phrase.expr, Expr.bare, Int.toNat_of_nonneg h.1]⟩
  | .const (.float _) _, h => by
    rw [Expr.Printable] at h
    exact h.elim
  | .name id _, h => by
    rw [Expr.Printable] at h
    rw [Expr.printed]
    exact ⟨by rw [Phrase.Proper]; exact h, by rw [Phrase.expr, Expr.bare]⟩
  | .binary op left right _, h => by
    rw [Expr.Printable] at h
    have hleft := (left.prints_printed h.1).paren
    have hright := (right.prints_printed h.2).paren
    rw [Expr.printed]
    refine ⟨?_, by rw [Phrase.expr, Expr.bare, hleft.expr, hright.expr]⟩
    exact ⟨binaryFits_paren op _ _, hleft.proper, hright.proper⟩
  | .logic op left right _, h => by
    rw [Expr.Printable] at h
    have hleft := (left.prints_printed h.1).paren
    have hright := (right.prints_printed h.2).paren
    rw [Expr.printed]
    refine ⟨?_, by rw [Phrase.expr, Expr.bare, hleft.expr, hright.expr]⟩
    exact ⟨by cases op <;> simp [Phrase.level] <;> decide, hleft.proper, hright.proper⟩
  | .not operand _, h => by
    rw [Expr.Printable] at h
    have hoperand := (operand.prints_printed h).paren
    rw [Expr.printed]
    refine ⟨?_, by rw [Phrase.expr, Expr.bare, hoperand.expr]⟩
    exact ⟨by simp only [Phrase.level]; decide, hoperand.proper⟩
  | .unary op operand _, h => by
    rw [Expr.Printable] at h
    have hoperand := (operand.prints_printed h).paren
    rw [Expr.printed]
    refine ⟨?_, by rw [Phrase.expr, Expr.bare, hoperand.expr]⟩
    exact ⟨by simp only [Phrase.level]; decide, hoperand.proper⟩
  | .compare first rest _, h => by
    rw [Expr.Printable] at h
    have hfirst := (first.prints_printed h.1).paren
    obtain ⟨hproper, hexpr⟩ := printedComparands_spec rest h.2.2
    rw [Expr.printed]
    refine ⟨?_, by rw [Phrase.expr, Expr.bare, hfirst.expr, hexpr]⟩
    refine ⟨by simp only [Phrase.level]; decide, hfirst.proper, ?_, hproper⟩
    cases rest with
    | nil => exact absurd rfl h.2.1
    | cons comparand rest =>
      cases comparand
      simp [printedComparands]
  | .conditional condition yes no _, h => by
    rw [Expr.Printable] at h
    have hcondition := (condition.prints_printed h.1).paren
    have hyes := (yes.prints_printed h.2.1).paren
    have hno := (no.prints_printed h.2.2).paren
    rw [Expr.printed]
    refine ⟨?_, by rw [Phrase.expr, Expr.bare, hcondition.expr, hyes.expr, hno.expr]⟩
    exact ⟨by simp only [Phrase.level]; decide, hyes.proper, hcondition.proper, hno.proper⟩
  | .call function arguments _, h => by
    rw [Expr.Printable] at h
    obtain ⟨hproper, hexpr⟩ := printedAll_spec arguments h.2
    rw [Expr.printed]
    exact ⟨by rw [Phrase.Proper]; exact ⟨h.1, hproper⟩, by rw [Phrase.expr, Expr.bare, hexpr]⟩
  | .method receiver name arguments _, h => by
    rw [Expr.Printable] at h
    have hreceiver := receiver.prints_printed h.1
    obtain ⟨hproper, hexpr⟩ := printedAll_spec arguments h.2.2
    rw [Expr.printed]
    refine ⟨?_, by rw [Phrase.expr, Expr.bare, hreceiver.expr, hexpr]⟩
    exact ⟨hreceiver.proper, h.2.1, hproper⟩
  | .subscript object index _, h => by
    rw [Expr.Printable] at h
    have hobject := object.prints_printed h.1
    have hindex := (index.prints_printed h.2).paren
    rw [Expr.printed]
    exact ⟨by rw [Phrase.Proper]; exact ⟨hobject.proper, hindex.proper⟩,
      by rw [Phrase.expr, Expr.bare, hobject.expr, hindex.expr]⟩
  | .slice object start stop step _ _, h => by
    rw [Expr.Printable] at h
    have hobject := object.prints_printed h.1
    obtain ⟨hstart, hstartExpr⟩ := printedPart_spec start h.2.1
    obtain ⟨hstop, hstopExpr⟩ := printedPart_spec stop h.2.2.1
    obtain ⟨hstep, hstepExpr⟩ := printedPart_spec step h.2.2.2
    rw [Expr.printed]
    refine ⟨?_, by rw [Phrase.expr, Expr.bare, hobject.expr, hstartExpr, hstopExpr, hstepExpr]⟩
    exact ⟨hobject.proper, hstart, hstop, hstep⟩
  | .list elements _, h => by
    rw [Expr.Printable] at h
    obtain ⟨hproper, hexpr⟩ := printedAll_spec elements h
    rw [Expr.printed]
    exact ⟨by rw [Phrase.Proper]; exact hproper, by rw [Phrase.expr, Expr.bare, hexpr]⟩
  | .dict entries _, h => by
    rw [Expr.Printable] at h
    obtain ⟨hproper, hexpr⟩ := printedEntries_spec entries h
    rw [Expr.printed]
    exact ⟨by rw [Phrase.Proper]; exact hproper, by rw [Phrase.expr, Expr.bare, hexpr]⟩
  | .comprehension body clauses _, h => by
    rw [Expr.Printable] at h
    have hbody := (body.prints_printed h.1).paren
    obtain ⟨hproper, hexpr⟩ := printedClauses_spec clauses h.2.2
    rw [Expr.printed]
    cases clauses with
    | nil => exact h.2.1.elim
    | cons clause rest =>
      cases clause with
      | filter condition span => exact h.2.1.elim
      | forIn target source span =>
        simp only [printedClauses, Written.ProperClauses, Written.clauseExprs] at hproper hexpr ⊢
        refine ⟨?_, by rw [Phrase.expr, Expr.bare, hbody.expr, hexpr]⟩
        exact ⟨hbody.proper, hproper.1, hproper.2.1, hproper.2.2⟩
  | .formatted .., h => by
    rw [Expr.Printable] at h
    exact h.elim

theorem printedAll_spec : ∀ es : List Expr, printableAll es →
    Written.ProperItems (printedAll es) ∧ Written.itemExprs (printedAll es) = bareAll es
  | [], _ => by simp [printedAll, Written.ProperItems, Written.itemExprs, bareAll]
  | e :: rest, h => by
    rw [printableAll] at h
    have he := (e.prints_printed h.1).paren
    obtain ⟨hproper, hexpr⟩ := printedAll_spec rest h.2
    rw [printedAll, Written.ProperItems, Written.itemExprs, bareAll, he.expr, hexpr]
    exact ⟨⟨he.proper, hproper⟩, rfl⟩

theorem printedPart_spec : ∀ part : Option Expr, printablePart part →
    Written.ProperPart (printedPart part) ∧ Written.partExpr (printedPart part) = barePart part
  | none, _ => by simp [printedPart, Written.ProperPart, Written.partExpr, barePart]
  | some e, h => by
    rw [printablePart] at h
    have he := (e.prints_printed h).paren
    rw [printedPart, barePart]
    split
    · next hnone =>
      rw [Expr.bare_of_isNone hnone, Written.ProperPart, Written.partExpr]
      exact ⟨trivial, rfl⟩
    · rw [Written.ProperPart, Written.partExpr, he.expr]
      exact ⟨he.proper, rfl⟩

theorem printedComparands_spec : ∀ rest : List Comparand, printableComparands rest →
    Written.ProperComparands (printedComparands rest) ∧
      Written.comparandExprs (printedComparands rest) = bareComparands rest
  | [], _ => by
    simp [printedComparands, Written.ProperComparands, Written.comparandExprs, bareComparands]
  | .mk op operand :: rest, h => by
    rw [printableComparands] at h
    have hoperand := (operand.prints_printed h.2.1).paren
    obtain ⟨hproper, hexpr⟩ := printedComparands_spec rest h.2.2
    rw [printedComparands, Written.ProperComparands, Written.comparandExprs, bareComparands,
      hoperand.expr, hexpr]
    exact ⟨⟨h.1, ⟨by simp only [Phrase.level]; decide, hoperand.proper⟩, hproper⟩, rfl⟩

theorem printedEntries_spec : ∀ entries : List Entry, printableEntries entries →
    Written.ProperEntries (printedEntries entries) ∧
      Written.entryExprs (printedEntries entries) = bareEntries entries
  | [], _ => by simp [printedEntries, Written.ProperEntries, Written.entryExprs, bareEntries]
  | .mk key value :: rest, h => by
    rw [printableEntries] at h
    have hkey := (key.prints_printed h.1).paren
    have hvalue := (value.prints_printed h.2.1).paren
    obtain ⟨hproper, hexpr⟩ := printedEntries_spec rest h.2.2
    rw [printedEntries, Written.ProperEntries, Written.entryExprs, bareEntries, hkey.expr,
      hvalue.expr, hexpr]
    exact ⟨⟨hkey.proper, hvalue.proper, hproper⟩, rfl⟩

theorem printedClauses_spec : ∀ clauses : List Clause, printableClauses clauses →
    Written.ProperClauses (printedClauses clauses) ∧
      Written.clauseExprs (printedClauses clauses) = bareClauses clauses
  | [], _ => by simp [printedClauses, Written.ProperClauses, Written.clauseExprs, bareClauses]
  | .forIn target source _ :: rest, h => by
    rw [printableClauses] at h
    have hsource := (source.prints_printed h.2.1).paren
    obtain ⟨hproper, hexpr⟩ := printedClauses_spec rest h.2.2
    rw [printedClauses, Written.ProperClauses, Written.clauseExprs, bareClauses, hsource.expr, hexpr]
    exact ⟨⟨h.1, ⟨by simp only [Phrase.level]; decide, hsource.proper⟩, hproper⟩, rfl⟩
  | .filter condition _ :: rest, h => by
    rw [printableClauses] at h
    have hcondition := (condition.prints_printed h.1).paren
    obtain ⟨hproper, hexpr⟩ := printedClauses_spec rest h.2
    rw [printedClauses, Written.ProperClauses, Written.clauseExprs, bareClauses, hcondition.expr, hexpr]
    exact ⟨⟨⟨by simp only [Phrase.level]; decide, hcondition.proper⟩, hproper⟩, rfl⟩

end

/-- A printed expression is no statement of its own, whatever its names are. -/
theorem Expr.sole_printed {fits : Prop} {e : Expr} (h : e.Printable)
    (hroom : fits → e.printed.height ≤ Syntax.nestingLimit) : Written.Sole fits e.printed := by
  have hproper := (e.prints_printed h).proper
  cases e with
  | name id span =>
    exact .name id
  | call function arguments span =>
    rw [printed] at hproper hroom ⊢
    exact .call hproper hroom
  | const value span =>
    cases value with
    | bool value => cases value <;> exact .of_lead (by simp [printed, Phrase.lead]) (by simp [printed, Phrase.lead])
    | _ => exact .of_lead (by simp [printed, Phrase.lead]) (by simp [printed, Phrase.lead])
  | comprehension body clauses span =>
    have hlead : (Expr.comprehension body clauses span).printed.lead ∈ ["", "None"] := by
      rw [printed]
      split <;> simp [Phrase.lead]
    refine .of_lead ?_ ?_ <;> (intro heq; rw [heq] at hlead; exact absurd hlead (by decide))
  | _ => exact .of_lead (by simp [printed, Phrase.lead]) (by simp [printed, Phrase.lead])

/-- A call of a function with the name of a statement. -/
def sampleCall : Expr :=
  .call "match" [
    .compare (.name "x" .unknown) [
      .mk .notIn (.list [.const (.str "it's") .unknown] .unknown),
      .mk .lt (.unary .neg (.const (.int 3) .unknown) .unknown)] .unknown,
    .slice (.name "xs" .unknown) none (some (.const .none .unknown))
      (some (.const (.int 2) .unknown)) .unknown .unknown] .unknown

/-- A name under negations. -/
def negations : Nat → Expr
  | 0 => .name "x" .unknown
  | n + 1 => .not (negations n) .unknown

theorem negations_printable (n : Nat) : (negations n).Printable := by
  induction n with
  | zero =>
    rw [negations, Expr.Printable]
    decide
  | succ n ih =>
    exact ih

theorem negations_height (n : Nat) : (negations n).printed.height = 2 * n + 1 := by
  induction n with
  | zero => rw [negations, Expr.printed, Phrase.height]
  | succ n ih =>
    rw [negations, Expr.printed, Phrase.height, Phrase.height, ih]
    omega

end Walkthrough
