import Walkthrough.Proofs.Printing

/-!
# Printing with few parentheses

`Expr.sparse` writes an expression down with a pair of parentheses only where a table of strengths asks
for one.  By the table that the reader goes by, what is read from that text is the same expression,
apart from the places of its nodes.

By the documented table it need not be: there an exclusive or binds less tightly than a conjunction of
bits, and the reader takes them the other way round.
-/

namespace Walkthrough

open Written (Phrase logicStrength)
open Syntax

/-! ## The printer -/

/-- How tightly an operator of two operands binds, operator by operator. -/
abbrev Strengths := BinaryOp → Nat

/-- The documented table, from the loosest to the tightest: `|`, `^`, `&`, shifts, sums, products and
powers. -/
def documented : Strengths
  | .bitXor => strength .bitAnd
  | .bitAnd => strength .bitXor
  | op => strength op

namespace Written.Phrase

/-- How tightly the outermost operator of a phrase binds by a table. -/
def levelBy (table : Strengths) : Phrase → Int
  | .binary op _ _ => table op
  | phrase => phrase.level

/-- A phrase at a place that asks for a strength: in parentheses if it binds less tightly. -/
def enclosed (table : Strengths) (least : Int) (phrase : Phrase) : Phrase :=
  if least ≤ phrase.levelBy table then phrase else .paren phrase

theorem levelBy_strength (phrase : Phrase) : phrase.levelBy strength = phrase.level := by
  cases phrase <;> rfl

theorem le_level_enclosed (phrase : Phrase) {least : Int} (h : least ≤ topStrength) :
    least ≤ (phrase.enclosed strength least).level := by
  rw [enclosed, levelBy_strength]
  split
  · assumption
  · exact h

end Written.Phrase

mutual

/-- An expression as it is written with the parentheses that a table asks for around the operands of
its operators.  Operators group to the left, powers to the right, and other constructs are written with
every part in parentheses. -/
def Expr.sparse (table : Strengths) : Expr → Phrase
  | .binary .pow left right _ =>
    .binary .pow ((left.sparse table).enclosed table topStrength)
      ((right.sparse table).enclosed table signStrength)
  | .binary op left right _ =>
    .binary op ((left.sparse table).enclosed table (table op))
      ((right.sparse table).enclosed table (table op + 1))
  | .logic op left right _ =>
    .logic op ((left.sparse table).enclosed table (logicStrength op))
      ((right.sparse table).enclosed table (logicStrength op + 1))
  | .not operand _ => .not ((operand.sparse table).enclosed table notStrength)
  | .unary op operand _ => .unary op ((operand.sparse table).enclosed table signStrength)
  | .compare first rest _ =>
    .compare ((first.sparse table).enclosed table (compareStrength + 1)) (sparseComparands table rest)
  | .conditional condition yes no _ =>
    .conditional ((yes.sparse table).enclosed table (conditionalStrength + 1))
      ((condition.sparse table).enclosed table (conditionalStrength + 1)) (no.sparse table)
  | e => e.printed

def sparseComparands (table : Strengths) : List Comparand → List Written.Comparand
  | [] => []
  | .mk op operand :: rest =>
    .mk op ((operand.sparse table).enclosed table (compareStrength + 1)) :: sparseComparands table rest

end

/-! ## What the text stands for -/

theorem Prints.enclosed (h : Prints phrase e) (table : Strengths) (least : Int) :
    Prints (phrase.enclosed table least) e := by
  rw [Phrase.enclosed]
  split
  · exact h
  · exact h.paren

mutual

theorem Expr.prints_sparse (e : Expr) (h : e.Printable) : Prints (e.sparse strength) e := by
  cases e with
  | binary op left right span =>
    rw [Expr.Printable] at h
    have hleft := (left.prints_sparse h.1).enclosed strength
    have hright := (right.prints_sparse h.2).enclosed strength
    have hbounds := Written.strength_bounds op
    by_cases hop : op = .pow
    · subst hop
      rw [Expr.sparse]
      refine ⟨?_, by rw [Phrase.expr, Expr.bare, (hleft _).expr, (hright _).expr]⟩
      rw [Phrase.Proper, Written.BinaryFits, if_pos rfl]
      exact ⟨⟨Phrase.le_level_enclosed _ (Int.le_refl _), Phrase.le_level_enclosed _ (by decide)⟩,
        (hleft _).proper, (hright _).proper⟩
    · rw [Expr.sparse.eq_2 _ _ _ _ _ hop]
      refine ⟨?_, by rw [Phrase.expr, Expr.bare, (hleft _).expr, (hright _).expr]⟩
      rw [Phrase.Proper, Written.BinaryFits, if_neg hop]
      exact ⟨⟨Phrase.le_level_enclosed _ (by simp only [topStrength]; omega),
        Phrase.le_level_enclosed _ (by simp only [topStrength]; omega)⟩,
        (hleft _).proper, (hright _).proper⟩
  | logic op left right span =>
    rw [Expr.Printable] at h
    have hleft := (left.prints_sparse h.1).enclosed strength (logicStrength op)
    have hright := (right.prints_sparse h.2).enclosed strength (logicStrength op + 1)
    rw [Expr.sparse]
    refine ⟨?_, by rw [Phrase.expr, Expr.bare, hleft.expr, hright.expr]⟩
    exact ⟨⟨Phrase.le_level_enclosed _ (by cases op <;> decide),
      Phrase.le_level_enclosed _ (by cases op <;> decide)⟩, hleft.proper, hright.proper⟩
  | not operand span =>
    rw [Expr.Printable] at h
    have hoperand := (operand.prints_sparse h).enclosed strength notStrength
    rw [Expr.sparse]
    refine ⟨?_, by rw [Phrase.expr, Expr.bare, hoperand.expr]⟩
    exact ⟨Phrase.le_level_enclosed _ (by decide), hoperand.proper⟩
  | unary op operand span =>
    rw [Expr.Printable] at h
    have hoperand := (operand.prints_sparse h).enclosed strength signStrength
    rw [Expr.sparse]
    refine ⟨?_, by rw [Phrase.expr, Expr.bare, hoperand.expr]⟩
    exact ⟨Phrase.le_level_enclosed _ (by decide), hoperand.proper⟩
  | compare first rest span =>
    rw [Expr.Printable] at h
    have hfirst := (first.prints_sparse h.1).enclosed strength (compareStrength + 1)
    obtain ⟨hproper, hexpr⟩ := sparseComparands_spec rest h.2.2
    rw [Expr.sparse]
    refine ⟨?_, by rw [Phrase.expr, Expr.bare, hfirst.expr, hexpr]⟩
    refine ⟨Phrase.le_level_enclosed _ (by decide), hfirst.proper, fun hnil => h.2.1 ?_, hproper⟩
    cases rest with
    | nil => rfl
    | cons comparand rest =>
      cases comparand
      simp [sparseComparands] at hnil
  | conditional condition yes no span =>
    rw [Expr.Printable] at h
    have hcondition := (condition.prints_sparse h.1).enclosed strength (conditionalStrength + 1)
    have hyes := (yes.prints_sparse h.2.1).enclosed strength (conditionalStrength + 1)
    have hno := no.prints_sparse h.2.2
    rw [Expr.sparse]
    refine ⟨?_, by rw [Phrase.expr, Expr.bare, hcondition.expr, hyes.expr, hno.expr]⟩
    exact ⟨⟨Phrase.le_level_enclosed _ (by decide), Phrase.le_level_enclosed _ (by decide)⟩,
      hyes.proper, hcondition.proper, hno.proper⟩
  | _ => exact Expr.prints_printed _ h

theorem sparseComparands_spec (rest : List Comparand) (h : printableComparands rest) :
    Written.ProperComparands (sparseComparands strength rest) ∧
      Written.comparandExprs (sparseComparands strength rest) = bareComparands rest := by
  cases rest with
  | nil => simp [sparseComparands, Written.ProperComparands, Written.comparandExprs, bareComparands]
  | cons comparand rest =>
    obtain ⟨op, operand⟩ := comparand
    rw [printableComparands] at h
    have hoperand := (operand.prints_sparse h.2.1).enclosed strength (compareStrength + 1)
    obtain ⟨hproper, hexpr⟩ := sparseComparands_spec rest h.2.2
    rw [sparseComparands, Written.ProperComparands, Written.comparandExprs, bareComparands,
      hoperand.expr, hexpr]
    exact ⟨⟨h.1, ⟨Phrase.le_level_enclosed _ (by decide), hoperand.proper⟩, hproper⟩, rfl⟩

end

/-- From the text of a phrase the expression is read that it stands for, unless the text nests too
deeply. -/
theorem Prints.ofText (h : Prints phrase e)
    (hlead : phrase.lead ∉ ["type", "match"]) :
    (phrase.height ≤ nestingLimit →
      ∃ e', Expr.ofText (String.ofList phrase.text) = .ok e' ∧ e'.bare = e.bare) ∧
    (nestingLimit < phrase.height →
      Expr.ofText (String.ofList phrase.text) =
        .error (.tooDeep (String.ofList (phrase.text.take 40)))) := by
  rw [List.mem_cons, List.mem_singleton, not_or] at hlead
  rcases Written.ofText_phrase h.proper id (.of_lead hlead.1 hlead.2) with
    ⟨hfits, e', hread, hbare⟩ | ⟨hdeep, hread⟩
  · exact ⟨fun _ => ⟨e', hread, hbare.trans h.expr⟩, fun hlong => absurd hfits (by omega)⟩
  · exact ⟨fun hfits => absurd hfits hdeep, fun _ => hread⟩

/-- A name at no place of the text. -/
def named (id : String) : Expr :=
  .name id .unknown

/-- An expression with operators of every strength. -/
def sampleFormula : Expr :=
  .conditional (.not (.logic .or (named "a") (named "b") .unknown) .unknown)
    (.logic .and
      (.compare (.binary .bitOr (named "a")
          (.binary .bitAnd (named "b") (.binary .bitXor (named "c") (named "d") .unknown) .unknown) .unknown)
        [.mk .lt (.binary .shiftLeft (named "a")
            (.binary .sub (named "b") (.binary .sub (named "c") (named "d") .unknown) .unknown) .unknown),
          .mk .notSame (.compare (named "a") [.mk .eq (named "b")] .unknown)] .unknown)
      (.not (named "c") .unknown) .unknown)
    (.binary .mul (.unary .neg (.binary .pow (named "a") (.binary .pow (.unary .neg (named "b") .unknown)
      (.unary .invert (named "c") .unknown) .unknown) .unknown) .unknown) (.const (.int 7) .unknown) .unknown)
    .unknown

end Walkthrough
