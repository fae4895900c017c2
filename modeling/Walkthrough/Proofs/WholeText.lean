import Walkthrough.Proofs.Balance
import Walkthrough.Proofs.Expressions

/-!
# Reading whole texts

A text that consists of one phrase is read as a program of one statement, and that statement as the
expression of the phrase.

* `Phrase.text_head`: the operand that a phrase begins with, which is what an assignment would take for
  its target.
-/

namespace Walkthrough.Written

open Syntax
open Text

/-! ## The first operand -/

/-- The operand that a phrase begins with, or the negation. -/
def Phrase.head : Phrase → Phrase
  | .binary _ left _ => left.head
  | .compare first _ => first.head
  | .logic _ left _ => left.head
  | .conditional yes _ _ => yes.head
  | phrase => phrase

/-- What is no assignment: neither a sign of one nor a comma stands behind an operand. -/
structure Unassigned (r : List Char) : Prop where
  comma : ∀ t, behind r ≠ ',' :: t
  sign : assignmentSign? (behind r) = none

theorem unassigned_nil : Unassigned [] :=
  ⟨nofun, rfl⟩

theorem unassigned_binary (op : BinaryOp) (r : List Char) :
    Unassigned (' ' :: (op.symbol.toList ++ ' ' :: r)) := by
  cases op <;> exact ⟨nofun, rfl⟩

theorem unassigned_compare (hop : op ∈ CompareOp.all) (r : List Char) :
    Unassigned (' ' :: (op.symbol.toList ++ ' ' :: r)) := by
  fin_cases hop <;> exact ⟨nofun, rfl⟩

theorem unassigned_logic (op : LogicOp) (r : List Char) :
    Unassigned (' ' :: (op.symbol.toList ++ ' ' :: r)) := by
  cases op <;> exact ⟨nofun, rfl⟩

/-- How tightly what follows a phrase may bind without taking its end away, wherever it is read. -/
def Phrase.grip (phrase : Phrase) : Int :=
  if compareStrength < phrase.level then phrase.operandHold else phrase.level

theorem Phrase.le_grip {phrase : Phrase} (h : above ≤ phrase.level) (habove : above ≤ compareStrength) :
    above ≤ phrase.grip := by
  unfold grip
  split
  · next hlevel => exact Int.le_trans habove (compareStrength_le_operandHold hlevel)
  · exact h

/-- A phrase with `r` behind it begins with the operand `head`, and what follows that leaves it
whole. -/
structure Headed (phrase head : Phrase) (r : List Char) : Prop where
  proper : head.Proper
  height : head.height ≤ phrase.height
  level : head.level = signStrength ∨ head.level = topStrength
  text : ∃ t, phrase.text ++ r = head.text ++ t ∧ Follows head.operandHold t ∧ Unassigned t

section

variable {phrase left head : Phrase}

theorem Headed.of_left (h : Headed left head r') (htext : phrase.text ++ r = left.text ++ r')
    (hheight : left.height ≤ phrase.height) : Headed phrase head r where
  proper := h.proper
  height := Nat.le_trans h.height hheight
  level := h.level
  text := htext ▸ h.text

theorem Headed.self (hproper : phrase.Proper)
    (hlevel : phrase.level = signStrength ∨ phrase.level = topStrength) (hr : Follows phrase.grip r)
    (hassign : Unassigned r) : Headed phrase phrase r := by
  refine ⟨hproper, Nat.le_refl _, hlevel, r, rfl, ?_, hassign⟩
  rwa [Phrase.grip, if_pos (by rcases hlevel with h | h <;> rw [h] <;> decide)] at hr

end

/-- Every phrase begins with its first operand unless it begins with a negation, by induction on the
left part of the outermost operator. -/
theorem Phrase.headed (phrase : Phrase) {r : List Char} (hproper : phrase.Proper)
    (hlead : phrase.lead ≠ "not") (hr : Follows phrase.grip r) (hassign : Unassigned r) :
    Headed phrase phrase.head r := by
  cases phrase with
  | binary op left right =>
    rw [Proper] at hproper
    have hbounds := strength_bounds op
    have hleft := hproper.1.left
    have hgrip : strength op ≤ left.grip := by
      rw [grip, if_pos (by simp only [compareStrength]; omega)]
      exact hleft.2
    refine (left.headed hproper.2.1 (by rwa [lead] at hlead) (.binary op hgrip _)
      (unassigned_binary op (right.text ++ r))).of_left (by simp [text]) ?_
    simp only [height]
    omega
  | compare first rest =>
    rw [Proper] at hproper
    obtain ⟨hlevel, hfirst, hne, hrest⟩ := hproper
    cases rest with
    | nil => exact absurd rfl hne
    | cons comparand rest =>
      obtain ⟨op, operand⟩ := comparand
      rw [ProperComparands] at hrest
      refine (first.headed hfirst (by rwa [lead] at hlead)
        (.compare hrest.1 (le_grip (Int.le_of_lt hlevel) (Int.le_refl _)) _)
        (unassigned_compare hrest.1 (operand.text ++ (comparandsText rest ++ r)))).of_left
        (by simp [text, comparandsText]) ?_
      simp only [height]
      omega
  | logic op left right =>
    rw [Proper] at hproper
    have hgrip : logicStrength op ≤ left.grip :=
      le_grip hproper.1.1 (Int.le_trans (Int.le_of_lt (logicStrength_bounds op).2) (by decide))
    have hfollows : Follows left.grip (' ' :: (op.symbol.toList ++ ' ' :: (right.text ++ r))) := by
      cases op with
      | and => exact .word (show ("and", andStrength) ∈ followingWords by decide) hgrip _
      | or => exact .word (show ("or", orStrength) ∈ followingWords by decide) hgrip _
    refine (left.headed hproper.2.1 (by rwa [lead] at hlead) hfollows
      (unassigned_logic op _)).of_left (by simp [text]) ?_
    simp only [height]
    omega
  | conditional yes condition no =>
    rw [Proper] at hproper
    have hgrip : conditionalStrength ≤ yes.grip := le_grip (Int.le_of_lt hproper.1.1) (by decide)
    refine (yes.headed hproper.2.1 (by rwa [lead] at hlead)
      (.word (show ("if", conditionalStrength) ∈ followingWords by decide) hgrip _)
      (show Unassigned (' ' :: ("if".toList ++ ' ' :: (condition.text ++
        ' ' :: ("else".toList ++ ' ' :: (no.text ++ r))))) from ⟨by simp [behind], rfl⟩)).of_left
      (by simp [text]) ?_
    simp only [height]
    omega
  | not operand => simp [lead] at hlead
  | unary op operand => exact .self hproper (.inl (by rw [level])) hr hassign
  | _ => exact .self hproper (.inr (by rw [level]; all_goals simp)) hr hassign

/-! ## Statements -/

section

variable {fits : Prop} {phrase : Phrase}

theorem statementEnds_end : Shows statementEnds [] true := by
  intro c hc
  rw [statementEnds, bind_ok (ahead_end false hc)]
  rfl

theorem endLine_end : Shows endLine [] () := by
  intro c hc
  rw [endLine, bind_ok (ahead_end false hc)]
  rfl

/-- One statement of one expression, which stands for the phrase. -/
def StatesPhrase (phrase : Phrase) (statement : Statement) : Prop :=
  ∃ node extent, statement = .expressions [node] extent ∧ Lowers node phrase

/-- A phrase that begins with a word that also begins statements, `type` or `match`, is no such
statement. -/
structure Sole (fits : Prop) (phrase : Phrase) : Prop where
  noAlias (h : phrase.lead = "type") : Fails fits typeAlias phrase.text
  noMatch (h : phrase.lead = "match") (block : BlockReader) (indent : Nat) :
    Fails fits (matchStatement block indent) phrase.text

theorem Sole.of_lead (htype : phrase.lead ≠ "type") (hmatch : phrase.lead ≠ "match") :
    Sole fits phrase :=
  ⟨fun h => absurd h htype, fun h => absurd h hmatch⟩

theorem behindWord_stays (hproper : phrase.Proper) (hlead : phrase.lead ≠ "")
    (hnot : phrase.lead ≠ "not") :
    Takes fits behindWord phrase.text phrase.text fun _ => True := by
  obtain ⟨hword, t, htext, ht⟩ := phrase.text_lead hproper hlead hnot .done
  obtain ⟨hends, hlook⟩ : EndsWord t ∧ Shows (look false) t (behind t) := by
    rcases ht with ⟨u, rfl⟩ | ht
    · exact ⟨endsWord_cons (by decide), look_solid false .none (.cons rfl _)⟩
    · exact ⟨ht.endsWord, ht.look false⟩
  rw [List.append_nil] at htext
  rw [htext]
  exact .get fun before hbefore => (identifier_takes hword .none hends).bind fun _ _ =>
    .peek hlook (.set hbefore (.give ⟨rfl, trivial⟩))

/-- Of two readings the one that fits is taken. -/
theorem furthest_takes (hfirst : Parses False fits first t P) (hsecond : Fails fits second t) :
    Parses False fits (furthest first second) t P := by
  intro c hc
  have hfirst := hfirst hc
  have hsecond := hsecond hc
  rw [furthest]
  generalize first c = result at hfirst ⊢
  generalize second c = other at hsecond ⊢
  rcases result with (_ | _) | result
  · exact hfirst.elim
  · exact hfirst
  · rcases other with _ | other
    · exact hfirst
    · exact hsecond.1.elim

section

variable (hproper : phrase.Proper)
include hproper

theorem Phrase.solid : Solid phrase.text :=
  opensPlainly.solid (phrase.opens hproper).alone.1

variable (hroom : fits → phrase.height ≤ nestingLimit)
include hroom

/-- No assignment begins where a phrase is all that is left. -/
theorem assignment_fails (later : Place) (value : Parser Unit) :
    Fails fits (assignment later value) phrase.text := by
  obtain ⟨hplain, hword⟩ := (phrase.opens hproper).alone
  refine .here .none (Phrase.solid hproper) fun _ => Fails.bind (.peek (look_plain true hplain .none) ?_)
  rw [phrase.beginsWord_alone hproper (show "lambda" ∈ reservedWords by decide) (by decide),
    Bool.false_or]
  by_cases hlead : phrase.lead = "not"
  · have hnot : beginsWord "not" phrase.text = true := by
      rw [beginsWord, hword, hlead]
      rfl
    rw [hnot]
    exact .unexpected
  · have hnot : beginsWord "not" phrase.text = false := by
      rw [beginsWord, hword, beq_eq_false_iff_ne, ne_eq, String.toList_inj]
      exact hlead
    obtain ⟨hhead, hheight, hlevel, t, htext, hfollows, hassign⟩ :=
      phrase.headed hproper hlead .done unassigned_nil
    have hserve := readNode_serves fits nestingLimit phrase.head hhead fun hfits =>
      Nat.le_trans hheight (hroom hfits)
    rw [List.append_nil] at htext
    rw [hnot, htext]
    refine Takes.bind (hserve.operand ?_ ?_ (hfollows.mono ?_) hfollows .none) fun _ _ => ?_
    · rcases hlevel with h | h <;> rw [h] <;> decide
    · rcases hlevel with h | h
      · exact .inl h
      · exact .inr (.inl h)
    · rw [Phrase.operandHold]
      rcases hlevel with h | h <;> rw [h] <;> decide
    · refine .peek (hfollows.look _) ?_
      split
      · next heq => exact absurd heq (hassign.comma _)
      · rw [hassign.sign]
        exact .unexpected

theorem plainStatement_takes : Takes fits plainStatement phrase.text [] (StatesPhrase phrase) := by
  have hserve := readNode_serves fits nestingLimit phrase hproper hroom
  have hstops (fuel : Nat) (node : Node) :
      Shows (expressionsAfter reader .line [] (fuel + 1) [node]) [] ([node], false) := by
    intro c hc
    rw [expressionsAfter, bind_ok (look_end _ hc)]
    rfl
  refine .here .none (Phrase.solid hproper) fun _ => .fuel ?_
  refine Takes.bind (s := []) (R := fun nodes => ∃ node, nodes = [node] ∧ Lowers node phrase) ?_ ?_
  · refine .peek (look_plain true (phrase.opens hproper).alone.1 .none) ?_
    rw [phrase.beginsWord_alone hproper (show "yield" ∈ reservedWords by decide) (by decide)]
    refine (assignment_fails hproper hroom _ _).attempt.bind ?_
    rintro _ rfl
    rw [← List.append_nil phrase.text]
    refine (hserve.whole .done .none).bind fun node hnode => .fuel (.peek (hstops _ node) ?_)
    exact .give ⟨rfl, node, rfl, hnode⟩
  · rintro _ ⟨node, rfl, hnode⟩
    exact .peek statementEnds_end (.position fun _ => .give ⟨rfl, node, _, rfl, hnode⟩)

variable (hsole : Sole fits phrase)
include hsole

/-- Where no statement of its own begins, the phrase is read as an expression. -/
theorem simpleStatement_takes : Takes fits simpleStatement phrase.text [] (StatesPhrase phrase) := by
  have hplain := plainStatement_takes hproper hroom
  refine .skip .none (Phrase.solid hproper) (.get fun c hc => ?_)
  rw [hc.1, (phrase.opens hproper).alone.2, String.ofList_toList]
  dsimp only
  split
  case h_3 heq =>
    refine (behindWord_stays hproper (by rw [heq]; decide) (by rw [heq]; decide)).bind fun _ _ => ?_
    split
    · exact hplain
    · exact .orElse (Fails.bind (.here .none (Phrase.solid hproper) fun _ =>
        (hsole.noAlias heq).bind)).elim fun _ => hplain
  case h_15 => exact hplain
  all_goals
    next heq => exact absurd heq (phrase.lead_ne hproper (by decide) (by decide))

/-- A line of one statement, which stands for the phrase. -/
def StatesOnly (phrase : Phrase) (statements : List Statement) : Prop :=
  ∃ statement, statements = [statement] ∧ StatesPhrase phrase statement

theorem simpleStatements_takes :
    Takes fits (simpleStatements (fuel + 1) []) phrase.text [] (StatesOnly phrase) :=
  (simpleStatement_takes hproper hroom hsole).bind fun statement hstates =>
    .peek (look_end false) (.give ⟨rfl, statement, rfl, hstates⟩)

theorem statement_takes (block : BlockReader) (indent : Nat) :
    Takes fits (statement block indent) phrase.text [] (StatesOnly phrase) := by
  obtain ⟨hplain, hword⟩ := (phrase.opens hproper).alone
  have hsimple : Takes fits (do
      let statements ← simpleStatements (← loopFuel) []
      endLine
      return statements) phrase.text [] (StatesOnly phrase) :=
    .fuel ((simpleStatements_takes hproper hroom hsole).bind fun _ hstates =>
      .peek endLine_end (.give ⟨rfl, hstates⟩))
  refine .skip .none (Phrase.solid hproper) (.get fun c hc => ?_)
  dsimp only
  rw [hc.1, hword, String.ofList_toList, startsWith_eq_false (ne_of_opensPlainly hplain (by decide)) []]
  split
  case h_8 heq =>
    refine (behindWord_stays hproper (by rw [heq]; decide) (by rw [heq]; decide)).bind fun _ _ => ?_
    split
    · exact hsimple
    · exact furthest_takes hsimple (Fails.bind (.here .none (Phrase.solid hproper) fun _ =>
        (hsole.noMatch heq block indent).bind))
  case h_10 => exact hsimple
  all_goals
    next heq => exact absurd heq (phrase.lead_ne hproper (by decide) (by decide))

theorem allStatements_takes (fuel : Nat) :
    Takes fits (allStatements (fuel + 2) []) phrase.text [] (StatesOnly phrase) := by
  obtain ⟨x, xs, hcons, -⟩ := opensPlainly.cons (phrase.opens hproper).alone.1
  refine .skip .none (Phrase.solid hproper) (.get fun c hc => ?_)
  rw [hc.1, hcons]
  refine Takes.bind (hcons ▸ statement_takes hproper hroom hsole _ 0) ?_
  rintro _ ⟨statement, rfl, hstates⟩
  refine .peek skipGap_end (.get fun c hc => ?_)
  rw [hc.1]
  exact .give ⟨rfl, statement, rfl, hstates⟩

end

end

/-! ## Whole texts -/

theorem isBlank_of_isIdentifierPart (hx : isIdentifierPart x) : isBlank x = false := by
  have hcode := not_mem_blankCodes hx
  simp only [blankCodes, List.mem_cons, List.not_mem_nil, or_false] at hcode
  simp only [isBlank, Bool.or_eq_false_iff, Bool.and_eq_false_iff, decide_eq_false_iff_not,
    beq_eq_false_iff_ne]
  omega

theorem isBlank_of_opensPhrase (hx : opensPhrase x) : isBlank x = false := by
  simp only [opensPhrase, Bool.or_eq_true] at hx
  rcases hx with (hx | hx) | hx
  · exact isBlank_of_isIdentifierPart (isIdentifierPart_of_isIdentifierStart hx)
  · exact isBlank_of_isIdentifierPart (isIdentifierPart_of_isDigit hx)
  · rw [List.contains_iff_mem] at hx
    fin_cases hx <;> rfl

/-- A text that does not end in white space. -/
def EndsSolidly (s : List Char) : Prop :=
  ∃ c ∈ s.getLast?, isBlank c = false

theorem EndsSolidly.append (s : List Char) (ht : EndsSolidly t) : EndsSolidly (s ++ t) := by
  obtain ⟨c, hc, hblank⟩ := ht
  refine ⟨c, ?_, hblank⟩
  rw [List.getLast?_append, Option.mem_def.mp hc]
  rfl

theorem EndsSolidly.cons (x : Char) (hs : EndsSolidly s) : EndsSolidly (x :: s) :=
  hs.append [x]

theorem EndsSolidly.dropEndWhile (hs : EndsSolidly s) (ht : ∀ c ∈ t, isBlank c) :
    dropEndWhile isBlank (s ++ t) = s := by
  obtain ⟨c, hc, hblank⟩ := hs
  refine Number.dropEndWhile_append_eq (fun d hd => ?_) ht
  rwa [Option.some.inj (hd.symm.trans hc)]

theorem endsSolidly_of_isIdentifierPart (hne : s ≠ []) (hs : ∀ x ∈ s, isIdentifierPart x) :
    EndsSolidly s :=
  ⟨s.getLast hne, List.getLast?_eq_some_getLast hne,
    isBlank_of_isIdentifierPart (hs _ (List.getLast_mem hne))⟩

theorem endsSolidly_word (hs : IsWord s) : EndsSolidly s := by
  obtain ⟨x, xs, rfl, hx, hxs⟩ := hs.cons
  exact endsSolidly_of_isIdentifierPart (List.cons_ne_nil x xs)
    (List.forall_mem_cons.mpr ⟨isIdentifierPart_of_isIdentifierStart hx, hxs⟩)

theorem endsSolidly_op (hs : EndsSolidly s) : EndsSolidly (t ++ ' ' :: (op ++ ' ' :: s)) :=
  .append t (.cons ' ' (.append op (.cons ' ' hs)))

mutual

theorem Phrase.endsSolidly_text : ∀ (phrase : Phrase), phrase.Proper → EndsSolidly phrase.text
  | .none, _ => endsSolidly_word (by decide)
  | .bool true, _ => endsSolidly_word (by decide)
  | .bool false, _ => endsSolidly_word (by decide)
  | .int value, _ => by
    rw [Phrase.text]
    exact endsSolidly_of_isIdentifierPart Nat.toDigits_ne_nil fun x hx =>
      isIdentifierPart_of_isDigit (Nat.isDigit_of_mem_toDigits (by decide) (by decide) hx)
  | .str value, _ => by
    rw [Phrase.text, quoted_toList]
    refine .cons _ (.append _ ⟨_, rfl, ?_⟩)
    rcases chooseQuote_cases value.toList with hquote | hquote <;> rw [hquote] <;> decide
  | .name id, h => by
    rw [Phrase.Proper] at h
    rw [Phrase.text]
    exact endsSolidly_word h.1
  | .unary op operand, h => by
    rw [Phrase.Proper] at h
    rw [Phrase.text]
    exact .append _ (operand.endsSolidly_text h.2)
  | .binary op left right, h => by
    rw [Phrase.Proper] at h
    rw [Phrase.text]
    exact endsSolidly_op (right.endsSolidly_text h.2.2)
  | .compare first rest, h => by
    rw [Phrase.Proper] at h
    rw [Phrase.text]
    exact endsSolidly_comparands rest h.2.2.2 (first.endsSolidly_text h.2.1)
  | .not operand, h => by
    rw [Phrase.Proper] at h
    rw [Phrase.text]
    exact .append _ (.cons ' ' (operand.endsSolidly_text h.2))
  | .logic op left right, h => by
    rw [Phrase.Proper] at h
    rw [Phrase.text]
    exact endsSolidly_op (right.endsSolidly_text h.2.2)
  | .conditional yes condition no, h => by
    rw [Phrase.Proper] at h
    rw [Phrase.text]
    exact endsSolidly_op (endsSolidly_op (no.endsSolidly_text h.2.2.2))
  | .paren _, _ | .call _ _, _ | .method _ _ _, _ | .subscript _ _, _ | .slice _ _ _ _, _ | .list _, _
  | .dict _, _ | .comprehension _ _ _ _, _ => by
    -- The last character is the closing bracket.
    simp only [Phrase.text]
    repeat first
      | exact ⟨_, rfl, by decide⟩
      | apply EndsSolidly.cons
      | apply EndsSolidly.append

theorem endsSolidly_comparands : ∀ (comparands : List Comparand), ProperComparands comparands →
    ∀ {s : List Char}, EndsSolidly s → EndsSolidly (s ++ comparandsText comparands)
  | [], _, s, hs => by rwa [comparandsText, List.append_nil]
  | .mk op operand :: rest, h, s, hs => by
    rw [ProperComparands] at h
    rw [comparandsText]
    exact endsSolidly_op (endsSolidly_comparands rest h.2.2 (operand.endsSolidly_text h.2.1.2))

end

/-- A text whose first character is no white space is not empty without white space. -/
theorem strip_isEmpty (hx : isBlank x = false) : (strip (String.ofList (x :: xs))).isEmpty = false := by
  have hdrop : dropBothWhile isBlank (x :: xs) ≠ [] := by
    rw [dropBothWhile, List.dropWhile_cons_of_neg (by simp [hx])]
    simp [dropEndWhile, hx]
  rw [strip, String.toList_ofList, Bool.eq_false_iff, ne_eq, String.isEmpty_iff]
  intro hempty
  exact hdrop (by simpa using congrArg String.toList hempty)

section

variable (hproper : phrase.Proper) (hroom : fits → phrase.height ≤ nestingLimit)
  (hsole : Sole fits phrase)
include hproper hroom hsole

/-- A text that consists of one phrase is read as one statement, unless it nests too deeply. -/
theorem parse_phrase :
    (∃ node extent, parse (String.ofList phrase.text) = .ok ⟨[.expressions [node] extent], []⟩ ∧
      Lowers node phrase) ∨
    (¬ fits ∧ parse (String.ofList phrase.text) = .error .tooDeep) := by
  obtain ⟨x, xs, hcons, hx⟩ := opensPlainly.cons (phrase.opens hproper).alone.1
  have hmark : x ≠ '\ufeff' := ne_of_isSolid (isSolid_of_opensPhrase hx) (by decide)
  have hcursor : Cursor.ofText (String.ofList phrase.text) = ⟨phrase.text, ⟨0, 0⟩, []⟩ := by
    simp [Cursor.ofText, hcons, hmark]
  obtain ⟨fuel, hfuel⟩ : ∃ fuel, (String.ofList phrase.text).length + 1 = fuel + 2 :=
    ⟨xs.length, by rw [String.length_ofList, hcons, List.length_cons]⟩
  have hparse : parse (String.ofList phrase.text) =
      (allStatements (fuel + 2) [] ⟨phrase.text, ⟨0, 0⟩, []⟩ >>=
        fun result => pure ⟨result.1, result.2.joints.reverse⟩) := by
    rw [← hcursor, ← hfuel]
    rfl
  have hall := allStatements_takes hproper hroom hsole fuel
    (show Cursor.Before ⟨phrase.text, ⟨0, 0⟩, []⟩ _ from ⟨rfl, rfl⟩)
  rw [hparse]
  generalize allStatements (fuel + 2) [] _ = result at hall
  rcases result with (_ | _) | ⟨_, c⟩
  · exact hall.elim
  · exact .inr ⟨hall, rfl⟩
  · obtain ⟨⟨-, _, rfl, node, extent, rfl, hlowers⟩, hjoints⟩ := hall
    refine .inl ⟨node, extent, ?_, hlowers⟩
    show Except.ok _ = _
    rw [hjoints]
    rfl

/-- The expression that a phrase stands for is read from its text, unless the text is refused because
it nests too deeply. -/
theorem ofText_phrase :
    (phrase.height ≤ nestingLimit ∧
      ∃ e, Expr.ofText (String.ofList phrase.text) = .ok e ∧ e.bare = phrase.expr) ∨
    (¬ fits ∧ Expr.ofText (String.ofList phrase.text) =
      .error (.tooDeep (String.ofList (phrase.text.take 40)))) := by
  obtain ⟨x, xs, hcons, hx⟩ := opensPlainly.cons (phrase.opens hproper).alone.1
  have hstrip : (strip (String.ofList phrase.text)).isEmpty = false :=
    hcons ▸ strip_isEmpty (isBlank_of_opensPhrase hx)
  rw [Expr.ofText, hstrip]
  rcases parse_phrase hproper hroom hsole with ⟨node, extent, hparse, hlowers⟩ | ⟨hdeep, hparse⟩
  · have hprogram : Reading.ofProgram (String.ofList phrase.text) ⟨[.expressions [node] extent], []⟩ =
        Reading.lower ⟨phrase.text, []⟩ nestingLimit node := by
      simp [Reading.ofProgram, Reading.Page.jointsOf]
    rw [hparse]
    simp only [hprogram]
    cases hlowers ⟨phrase.text, []⟩ nestingLimit rfl with
    | ok hfits h holds => exact .inl ⟨hfits, _, h, holds⟩
    | deep hfits h => exact .inr ⟨fun h => hfits (hroom h), h⟩
  · refine .inr ⟨hdeep, ?_⟩
    rw [hparse]
    simp only [balance_phrase hproper]
    simp [Reading.Page.tooDeep]

end

end Walkthrough.Written
