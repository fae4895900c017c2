import Mathlib.Data.List.Forall2
import Walkthrough.Proofs.Phrase

/-!
# From constructs to expressions

A construct that was read stands for a phrase (`Lowers`) if it is turned into the expression of that
phrase wherever there is room for its height, and is refused as too deep everywhere else.  Every
kind of construct stands for a phrase when its parts do.  The text holds no joints.
-/

namespace Walkthrough.Written

open Syntax (Node Extent)
open Reading (Page lower lowerAll lowerPart lowerComparands lowerEntries lowerClauses)

/-! ## Results that may be too deep -/

/-- A result as `P` says if there is room, and the refusal of the whole page if there is not. -/
inductive Gives {α : Type} (page : Page) (fits : Prop) (result : Except ReadError α)
    (P : α → Prop) : Prop where
  | ok {a : α} (hfits : fits) (h : result = .ok a) (holds : P a)
  | deep (hfits : ¬ fits) (h : result = .error page.tooDeep)

section

variable {α β : Type}

theorem Gives.bind (hresult : Gives page fits result P)
    (hf : ∀ a, P a → Gives page fits' (f a) Q) : Gives page (fits ∧ fits') (result >>= f) Q := by
  cases hresult with
  | deep hfits h => exact .deep (fun both => hfits both.1) (by rw [h]; rfl)
  | @ok a hfits h holds =>
    have heq : (result >>= f) = f a := by
      rw [h]
      rfl
    cases hf a holds with
    | ok hfits' h' holds' => exact .ok ⟨hfits, hfits'⟩ (heq.trans h') holds'
    | deep hfits' h' => exact .deep (fun both => hfits' both.2) (heq.trans h')

/-- What is made of a result. -/
theorem Gives.map {g : α → β} (hresult : Gives page fits result P) (hg : ∀ a, P a → Q (g a)) :
    Gives page fits (result >>= fun a => pure (g a)) Q := by
  cases hresult with
  | deep hfits h => exact .deep hfits (by rw [h]; rfl)
  | ok hfits h holds => exact .ok hfits (by rw [h]; rfl) (hg _ holds)

theorem Gives.congr (hresult : Gives page fits result P) (hfits : fits ↔ fits') :
    Gives page fits' result P := by
  cases hresult with
  | ok h h' holds => exact .ok (hfits.mp h) h' holds
  | deep h h' => exact .deep (fun h'' => h (hfits.mpr h'')) h'

end

/-! ## Constructs that stand for phrases -/

/-- A construct stands for a phrase. -/
def Lowers (node : Node) (phrase : Phrase) : Prop :=
  ∀ (page : Page) (depth : Nat), page.joints = [] →
    Gives page (phrase.height ≤ depth) (lower page depth node) fun e => e.bare = phrase.expr

section

variable {page : Page} {depth : Nat} {node a b : Node} {phrase l r : Phrase} {extent : Extent}

theorem jointsOf_nil (hpage : page.joints = []) (extent : Extent) (parts : List Extent) :
    page.jointsOf extent parts = [] := by
  rw [Page.jointsOf, hpage, List.filter_nil]

/-- Without room nothing is lowered, and every phrase takes some. -/
theorem Lowers.of_succ (h : ∀ (page : Page) (depth : Nat), page.joints = [] →
      Gives page (phrase.height ≤ depth + 1) (lower page (depth + 1) node) fun e =>
        e.bare = phrase.expr) : Lowers node phrase := by
  intro page depth hpage
  cases depth with
  | zero => exact .deep (Nat.not_le.mpr phrase.height_pos) (Reading.lower_zero page node)
  | succ depth => exact h page depth hpage

theorem Lowers.none : Lowers (.none extent) .none := by
  refine .of_succ fun page depth hpage => ?_
  exact .ok (by simp [Phrase.height]) rfl (by rw [Expr.bare, Phrase.expr])

theorem Lowers.bool : Lowers (.truth value extent) (.bool value) := by
  refine .of_succ fun page depth hpage => ?_
  exact .ok (by simp [Phrase.height]) rfl (by rw [Expr.bare, Phrase.expr])

theorem Lowers.name {id : String} : Lowers (.name id extent) (.name id) := by
  refine .of_succ fun page depth hpage => ?_
  exact .ok (by simp [Phrase.height]) rfl (by rw [Expr.bare_name, Phrase.expr])

/-- A numeral stands for the number that is read from it. -/
theorem Lowers.int {digits : String} {value : Nat}
    (hvalue : Number.readInteger 0 digits.toList = .ok (value : Int))
    (hsuffix : (digits.endsWith "j" || digits.endsWith "J") = false) :
    Lowers (.integer digits extent) (.int value) := by
  refine .of_succ fun page depth hpage => ?_
  have hlower : lower page (depth + 1) (.integer digits extent) =
      .ok (.const (.int value) (Reading.spanOf extent)) := by
    rw [lower, Reading.numeralValue]
    simp only [hvalue, hsuffix]
    rfl
  exact .ok (by simp [Phrase.height]) hlower (by rw [Expr.bare, Phrase.expr])

/-- A literal stands for the text that is read from it. -/
theorem Lowers.str {text value : String} {pieces : List Syntax.Piece}
    (hvalue : Reading.literalValue? "" text = some value) :
    Lowers (.string (.mk "" text pieces extent)) (.str value) := by
  refine .of_succ fun page depth hpage => ?_
  have hliteral : Reading.lowerLiteral page depth (.mk "" text pieces extent) =
      .ok (.constant value (Reading.spanOf extent)) := by
    rw [Reading.lowerLiteral]
    simp [String.toLower, hvalue]
  rw [lower, hliteral]
  exact .ok (by simp [Phrase.height]) rfl (by rw [Reading.Lowered.toExpr, Expr.bare, Phrase.expr])

theorem Lowers.paren (h : Lowers node phrase) : Lowers (.paren node extent) (.paren phrase) := by
  refine .of_succ fun page depth hpage => ?_
  rw [lower, jointsOf_nil hpage]
  simp only [List.isEmpty_nil, if_true]
  exact (h page depth hpage).congr (by simp [Phrase.height])

theorem Lowers.unary {op : UnaryOp} (h : Lowers node phrase) :
    Lowers (.unary op node extent) (.unary op phrase) := by
  refine .of_succ fun page depth hpage => ?_
  refine ((h page depth hpage).map fun e he => ?_).congr (by simp [Phrase.height])
  rw [Expr.bare, Phrase.expr, he]

theorem Lowers.not (h : Lowers node phrase) : Lowers (.not node extent) (.not phrase) := by
  refine .of_succ fun page depth hpage => ?_
  refine ((h page depth hpage).map fun e he => ?_).congr (by simp [Phrase.height])
  rw [Expr.bare, Phrase.expr, he]

theorem Lowers.binary {op : BinaryOp} (ha : Lowers a l) (hb : Lowers b r) :
    Lowers (.binary op a b extent) (.binary op l r) := by
  refine .of_succ fun page depth hpage => ?_
  refine ((ha page depth hpage).bind fun e he => (hb page depth hpage).map fun e' he' => ?_).congr
    (by simp only [Phrase.height]; omega)
  rw [Expr.bare, Phrase.expr, he, he']

theorem Lowers.logic {op : LogicOp} (ha : Lowers a l) (hb : Lowers b r) :
    Lowers (.logic op a b extent) (.logic op l r) := by
  refine .of_succ fun page depth hpage => ?_
  refine ((ha page depth hpage).bind fun e he => (hb page depth hpage).map fun e' he' => ?_).congr
    (by simp only [Phrase.height]; omega)
  rw [Expr.bare, Phrase.expr, he, he']

theorem Lowers.conditional {c : Node} (ha : Lowers a l) (hc : Lowers c m) (hb : Lowers b r) :
    Lowers (.conditional a c b extent) (.conditional l m r) := by
  refine .of_succ fun page depth hpage => ?_
  rw [lower, jointsOf_nil hpage]
  simp only [List.isEmpty_nil, if_true]
  refine ((hc page depth hpage).bind fun e he => (ha page depth hpage).bind fun e' he' =>
    (hb page depth hpage).map fun e'' he'' => ?_).congr (by simp only [Phrase.height]; omega)
  rw [Expr.bare, Phrase.expr, he, he', he'']

theorem Lowers.subscript (ha : Lowers a (.paren l)) (hb : Lowers b r) :
    Lowers (.subscript a [.index b] extent) (.subscript l r) := by
  refine .of_succ fun page depth hpage => ?_
  refine ((hb page depth hpage).bind fun e he =>
    (ha page depth hpage).map fun e' he' => ?_).congr (by simp only [Phrase.height]; omega)
  rw [Expr.bare, Phrase.expr, he, he', Phrase.expr_paren]

/-! ## Parts of slices -/

/-- A part of a slice stands for a part of a phrase: both are left out, or neither is. -/
inductive LowersPart : Option Node → Option Phrase → Prop where
  | none : LowersPart none none
  | some {node : Node} {phrase : Phrase} (h : Lowers node phrase) :
    LowersPart (some node) (some phrase)

theorem lowerPart_gives {part : Option Node} (h : LowersPart part written) (hpage : page.joints = []) :
    Gives page (partHeight written ≤ depth) (lowerPart page depth [] part) fun e =>
      barePart e = partExpr written := by
  cases h with
  | none => exact .ok (by simp [partHeight]) (by rw [lowerPart]) (by rw [barePart, partExpr])
  | some h =>
    refine ((h page depth hpage).map fun e he => ?_).congr (by simp [partHeight])
    rw [barePart, partExpr, he]

theorem Lowers.slice {bounds : Extent} (ha : Lowers a (.paren l)) (hstart : LowersPart start first)
    (hstop : LowersPart stop second) (hstep : LowersPart step third) :
    Lowers (.subscript a [.slice start stop step bounds] extent) (.slice l first second third) := by
  refine .of_succ fun page depth hpage => ?_
  rw [lower, jointsOf_nil hpage]
  refine ((lowerPart_gives hstart hpage).bind fun e he =>
    (lowerPart_gives hstop hpage).bind fun e' he' => (lowerPart_gives hstep hpage).bind fun e'' he'' =>
      (ha page depth hpage).map fun object hobject => ?_).congr
    (by simp only [Phrase.height]; omega)
  rw [Expr.bare, Phrase.expr, he, he', he'', hobject, Phrase.expr_paren]

/-! ## Constructs with many parts -/

section

variable {nodes : List Node} {phrases : List Phrase} (h : List.Forall₂ Lowers nodes phrases)
include h

theorem lowerAll_gives (hpage : page.joints = []) (stop : Nat) :
    Gives page (itemsHeight phrases ≤ depth) (lowerAll page depth [] stop nodes) fun es =>
      bareAll es = itemExprs phrases := by
  induction h with
  | nil =>
    exact .ok (by simp [itemsHeight]) rfl (by rw [bareAll, itemExprs])
  | cons h _ ih =>
    refine ((h page depth hpage).bind fun e he => ih.map fun es hes => ?_).congr
      (by simp only [itemsHeight]; omega)
    rw [bareAll, itemExprs, he, hes]

theorem Lowers.list : Lowers (.list nodes extent) (.list phrases) := by
  refine .of_succ fun page depth hpage => ?_
  rw [lower, jointsOf_nil hpage]
  refine ((lowerAll_gives h hpage _).map fun es hes => ?_).congr (by simp [Phrase.height])
  rw [Expr.bare, Phrase.expr, hes]

theorem Lowers.call {function : String} :
    Lowers (.call (.name function nameExtent) nodes brackets extent) (.call function phrases) := by
  refine .of_succ fun page depth hpage => ?_
  rw [lower, jointsOf_nil hpage]
  refine ((lowerAll_gives h hpage _).map fun es hes => ?_).congr (by simp [Phrase.height])
  rw [Expr.bare, Phrase.expr, hes]

theorem Lowers.method {method : String} (ha : Lowers a (.paren l)) :
    Lowers (.call (.attribute a method member) nodes brackets extent) (.method l method phrases) := by
  refine .of_succ fun page depth hpage => ?_
  rw [lower, jointsOf_nil hpage]
  refine ((lowerAll_gives h hpage _).bind fun es hes =>
    (ha page depth hpage).map fun e he => ?_).congr (by simp only [Phrase.height]; omega)
  rw [Expr.bare, Phrase.expr, hes, he, Phrase.expr_paren]

end

/-- An operand of a comparison stands for the written one, with the same operator. -/
inductive LowersComparand : Syntax.Comparand → Comparand → Prop where
  | mk {op : CompareOp} {sign : Extent} {node : Node} {phrase : Phrase} (h : Lowers node phrase) :
    LowersComparand (.mk op sign node) (.mk op phrase)

theorem lowerComparands_gives {nodes : List Syntax.Comparand}
    (h : List.Forall₂ LowersComparand nodes comparands) (hpage : page.joints = []) :
    Gives page (comparandsHeight comparands ≤ depth) (lowerComparands page depth [] nodes) fun es =>
      bareComparands es = comparandExprs comparands := by
  induction h with
  | nil =>
    exact .ok (by simp [comparandsHeight]) (by rw [lowerComparands])
      (by rw [bareComparands, comparandExprs])
  | cons h _ ih =>
    cases h with
    | mk h =>
      refine ((h page depth hpage).bind fun e he => ih.map fun es hes => ?_).congr
        (by simp only [comparandsHeight]; omega)
      rw [bareComparands, comparandExprs, he, hes]

theorem Lowers.compare {nodes : List Syntax.Comparand} (ha : Lowers a l)
    (h : List.Forall₂ LowersComparand nodes comparands) :
    Lowers (.compare a nodes extent) (.compare l comparands) := by
  refine .of_succ fun page depth hpage => ?_
  rw [lower, jointsOf_nil hpage]
  refine ((ha page depth hpage).bind fun e he =>
    (lowerComparands_gives h hpage).map fun es hes => ?_).congr (by simp only [Phrase.height]; omega)
  rw [Expr.bare, Phrase.expr, he, hes]

/-- An entry stands for the written one. -/
inductive LowersEntry : Syntax.Entry → Entry → Prop where
  | pair {a b : Node} {l r : Phrase} (ha : Lowers a l) (hb : Lowers b r) :
    LowersEntry (.pair a b) (.mk l r)

theorem lowerEntries_gives {nodes : List Syntax.Entry} (h : List.Forall₂ LowersEntry nodes entries)
    (hpage : page.joints = []) :
    Gives page (entriesHeight entries ≤ depth) (lowerEntries page depth [] nodes) fun es =>
      bareEntries es = entryExprs entries := by
  induction h with
  | nil =>
    exact .ok (by simp [entriesHeight]) (by rw [lowerEntries]) (by rw [bareEntries, entryExprs])
  | cons h _ ih =>
    cases h with
    | pair ha hb =>
      refine ((ha page depth hpage).bind fun e he => (hb page depth hpage).bind fun e' he' =>
        ih.map fun es hes => ?_).congr (by simp only [entriesHeight]; omega)
      rw [bareEntries, entryExprs, he, he', hes]

theorem Lowers.dict {nodes : List Syntax.Entry} (h : List.Forall₂ LowersEntry nodes entries) :
    Lowers (.dictionary nodes extent) (.dict entries) := by
  refine .of_succ fun page depth hpage => ?_
  rw [lower, jointsOf_nil hpage]
  refine ((lowerEntries_gives h hpage).map fun es hes => ?_).congr (by simp [Phrase.height])
  rw [Expr.bare, Phrase.expr, hes]

/-- A clause stands for the written one. -/
inductive LowersClause : Syntax.Clause → Clause → Prop where
  | forIn {target : String} {node : Node} {phrase : Phrase} {extent : Extent}
    (h : Lowers node phrase) : LowersClause (.forIn (some target) [node] extent) (.forIn target phrase)
  | filter {node : Node} {phrase : Phrase} {extent : Extent} (h : Lowers node phrase) :
    LowersClause (.filter node extent) (.filter phrase)

theorem lowerClauses_gives {nodes : List Syntax.Clause} (h : List.Forall₂ LowersClause nodes clauses)
    (hpage : page.joints = []) :
    Gives page (clausesHeight clauses ≤ depth) (lowerClauses page depth nodes) fun es =>
      bareClauses es = clauseExprs clauses := by
  induction h with
  | nil =>
    exact .ok (by simp [clausesHeight]) (by rw [lowerClauses]) (by rw [bareClauses, clauseExprs])
  | cons h _ ih =>
    cases h with
    | forIn h =>
      refine ((h page depth hpage).bind fun e he => ih.map fun es hes => ?_).congr
        (by simp only [clausesHeight]; omega)
      rw [bareClauses, clauseExprs, he, hes]
    | filter h =>
      rw [lowerClauses, jointsOf_nil hpage]
      refine ((h page depth hpage).bind fun e he => ih.map fun es hes => ?_).congr
        (by simp only [clausesHeight]; omega)
      rw [bareClauses, clauseExprs, he, hes]

theorem Lowers.comprehension {nodes : List Syntax.Clause} (ha : Lowers a l)
    (h : List.Forall₂ LowersClause nodes (.forIn target r :: clauses)) :
    Lowers (.listComprehension a nodes extent) (.comprehension l target r clauses) := by
  refine .of_succ fun page depth hpage => ?_
  refine ((lowerClauses_gives h hpage).bind fun es hes =>
    (ha page depth hpage).map fun e he => ?_).congr
    (by simp only [Phrase.height, clausesHeight]; omega)
  rw [Expr.bare, Phrase.expr, he, hes, clauseExprs]

end

end Walkthrough.Written
