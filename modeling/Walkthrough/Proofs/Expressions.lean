import Walkthrough.Proofs.Operands

/-!
# Reading expressions

Comparisons, `not`, `and`, `or` and conditionals, and the knot that the readers tie: a text that nests
no deeper than the reader goes is read as it was written.

* `comparisonChain_takes`: operands, and chains of comparisons.
* `expression_takes`: expressions up to a given strength.
* `readNode_serves`: the reader reads every phrase that is not higher than its depth.
-/

namespace Walkthrough.Written

open Syntax
open Text

attribute [local simp] Phrase.level strength logicStrength topStrength signStrength compareStrength
  notStrength andStrength orStrength conditionalStrength

variable {fits : Prop} {again : Reader} {place : Place} {room : Nat} {phrase : Phrase}
  {u s r : List Char}

/-! ## Comparison signs -/

/-- Two words with one blank between them are the usual operator. -/
theorem wordPair_takes (usual : CompareOp) (first second : String) (hfirst : IsWord first.toList)
    (hsecond : IsWord second.toList) (hr : EndsWord r) :
    Takes fits (wordPair usual first second)
      (' ' :: (first.toList ++ ' ' :: (second.toList ++ r))) r (·.1 = usual) := by
  rintro c ⟨hc, hjoints⟩
  obtain ⟨_, start, c₁, hstart, -, hstop, hpasses₁, hrest₁, -⟩ :=
    keyword_passes first hfirst .blank endsWord_blank hc
  obtain ⟨gap, stop, c₂, hsecond, hoffset, -, hpasses₂, hrest₂, hblank⟩ :=
    keyword_passes second hsecond .blank hr hrest₁
  have hgap : c₁.rest.take (stop.start.offset - start.stop.offset) = gap := by
    rw [hoffset, hstop, Nat.add_sub_cancel_left, hpasses₂.rest, List.append_assoc, List.take_left]
  rw [wordPair, bind_ok hstart, get_bind, bind_ok hsecond]
  simp only [hgap, hblank, if_true]
  exact ⟨⟨hrest₂, rfl⟩, hpasses₂.joints.trans (hpasses₁.joints.trans hjoints)⟩

/-- A comparison sign is taken as such.  A word behind `is` is no part of it unless it is `not`. -/
theorem comparison?_takes (hop : op ∈ CompareOp.all) (hs : opensPlainly s)
    (hnot : beginsWord "not" s = false) :
    Takes fits (comparison? place) (' ' :: (op.symbol.toList ++ ' ' :: s)) (' ' :: s)
      fun found => ∃ extent, found = some (op, extent) := by
  have hsolid : Solid (op.symbol.toList ++ ' ' :: s) := by fin_cases hop <;> exact .cons rfl _
  refine .peek (look_solid _ .blank hsolid) ?_
  fin_cases hop
  iterate 6 exact .symbol _ .blank (.cons rfl _) fun extent => .give ⟨rfl, extent, rfl⟩
  · exact .keyword "in" (by decide) .blank endsWord_blank fun extent => .give ⟨rfl, extent, rfl⟩
  · refine (wordPair_takes .notIn "not" "in" (by decide) (by decide) endsWord_blank).bind ?_
    rintro ⟨_, extent⟩ rfl
    exact .give ⟨rfl, extent, rfl⟩
  · have hpair : Fails fits (wordPair .notSame "is" "not") (' ' :: ("is".toList ++ ' ' :: s)) :=
      .keyword "is" (by decide) .blank endsWord_blank fun _ => .get fun _ _ =>
        Fails.bind (keyword_fails .blank (opensPlainly.solid hs) hnot)
    refine hpair.attempt.bind ?_
    rintro _ rfl
    exact .keyword "is" (by decide) .blank endsWord_blank fun extent => .give ⟨rfl, extent, rfl⟩
  · refine (wordPair_takes .notSame "is" "not" (by decide) (by decide) endsWord_blank).attempt.bind ?_
    rintro _ ⟨⟨_, extent⟩, rfl, rfl⟩
    exact .give ⟨rfl, extent, rfl⟩

theorem comparison?_stops (hr : Follows notStrength r) :
    Takes fits (comparison? place) r r (· = none) := by
  have hword := hr.stops.word
  refine .peek (hr.look _) ?_
  rw [hword "not" compareStrength (by decide) (by decide),
    hword "is" compareStrength (by decide) (by decide),
    hword "in" compareStrength (by decide) (by decide), hr.stops.sign (by decide)]
  exact .give ⟨rfl, rfl⟩

/-! ## Comparisons -/

/-- No operand and no comparison begins with `not`. -/
theorem Phrase.lead_ne_not (phrase : Phrase) (hproper : phrase.Proper)
    (hlevel : notStrength < phrase.level) : phrase.lead ≠ "not" := by
  cases phrase with
  | bool value => cases value <;> simp [lead]
  | name id =>
    rw [Proper] at hproper
    rintro rfl
    exact hproper.2 (by decide)
  | call function arguments =>
    rw [Proper] at hproper
    rintro rfl
    exact hproper.1.2 (by decide)
  | binary op left right =>
    rw [Proper] at hproper
    have := strength_bounds op
    have := hproper.1.left
    refine left.lead_ne_not hproper.2.1 ?_
    simp only [notStrength]
    omega
  | compare first rest =>
    rw [Proper] at hproper
    exact first.lead_ne_not hproper.2.1 (Int.lt_trans (by decide) hproper.1)
  | not _ | conditional _ _ _ => simp at hlevel
  | logic op left right => cases op <;> simp at hlevel
  | _ => simp [lead]

theorem Phrase.not_beginsWord_not (hproper : phrase.Proper)
    (hlevel : notStrength < phrase.level) (hr : EndsWord r) :
    beginsWord "not" (phrase.text ++ r) = false := by
  rw [beginsWord, (phrase.opens hproper).word hr, beq_eq_false_iff_ne, ne_eq, String.toList_inj]
  exact phrase.lead_ne_not hproper hlevel

theorem Phrase.compareStrength_le_operandHold (h : compareStrength < phrase.level) :
    compareStrength ≤ phrase.operandHold := by
  unfold operandHold
  split
  · decide
  · omega

section

variable {comparands : List Comparand}

theorem follows_comparands (hproper : ProperComparands comparands) (hr : Follows notStrength r) :
    Follows compareStrength (comparandsText comparands ++ r) := by
  cases comparands with
  | nil =>
    exact hr.mono (by decide)
  | cons comparand rest =>
    obtain ⟨op, operand⟩ := comparand
    rw [ProperComparands] at hproper
    rw [comparandsText]
    simpa using Follows.compare hproper.1 (Int.le_refl _) _

/-- The comparisons behind an operand are read in turn, by induction on them. -/
theorem comparandsAfter_takes (hagain : ServesAll fits again room)
    (hproper : ProperComparands comparands) (hroom : fits → comparandsHeight comparands ≤ room)
    (hr : Follows notStrength r) (hdone : List.Forall₂ LowersComparand nodes.reverse done)
    (hfuel : (comparandsText comparands ++ r).length ≤ fuel) :
    Takes fits (comparandsAfter again place (fuel + 1) nodes) (comparandsText comparands ++ r) r
      fun all => List.Forall₂ LowersComparand all (done ++ comparands) := by
  induction comparands generalizing fuel nodes done with
  | nil =>
    rw [comparandsText]
    refine (comparison?_stops hr).bind ?_
    rintro _ rfl
    exact .give ⟨rfl, by simpa using hdone⟩
  | cons comparand comparands ih =>
    obtain ⟨op, operand⟩ := comparand
    simp only [ProperComparands, comparandsHeight, Nat.max_le] at hproper hroom
    obtain ⟨hop, ⟨hlevel, hoperand⟩, hcomparands⟩ := hproper
    have hserve := hagain operand hoperand fun hfits => (hroom hfits).1
    have hfollows := follows_comparands hcomparands hr
    have hnot := Phrase.not_beginsWord_not hoperand (Int.lt_trans (by decide) hlevel)
      hfollows.endsWord
    simp only [comparandsText, List.cons_append, List.append_assoc] at hfuel ⊢
    have hlength : (comparandsText comparands ++ r).length < fuel := by
      simp only [List.length_append, List.length_cons] at hfuel ⊢
      omega
    obtain ⟨fuel, rfl⟩ := Nat.exists_eq_add_one.mpr (Nat.zero_lt_of_lt hlength)
    refine (comparison?_takes hop ((operand.opens hoperand).plain _) hnot).bind ?_
    rintro _ ⟨extent, rfl⟩
    refine (hserve.operand hlevel (.inr (.inr hlevel)) hfollows
      (hfollows.mono (Phrase.compareStrength_le_operandHold hlevel)) .blank).bind
      fun node hnode => ?_
    rw [List.append_cons done]
    exact ih hcomparands (fun hfits => (hroom hfits).2) (forall₂_snoc hdone (.mk hnode))
      (Nat.le_of_lt_succ hlength)

/-- A first operand with the comparisons behind it, if there are any. -/
theorem comparisonChain_step {first : Phrase} (hagain : ServesAll fits again room)
    (hfirst : first.Proper) (hcomparands : ProperComparands comparands)
    (hroom : fits → first.height ≤ room + 1) (hlater : fits → comparandsHeight comparands ≤ room)
    (hlevel : compareStrength < first.level) (hr : Follows notStrength r)
    (hpad : Pad u (first.text ++ (comparandsText comparands ++ r))) :
    Takes fits (comparisonChain again place) u r
      (Lowers · (if comparands.isEmpty then first else .compare first comparands)) := by
  have hfollows := follows_comparands hcomparands hr
  have hnone : List.Forall₂ LowersComparand [].reverse [] := .nil
  refine (operand_takes hagain hfirst hroom hlevel (.inr (.inr hlevel)) hfollows
    (hfollows.mono (Phrase.compareStrength_le_operandHold hlevel)) hpad).bind
    fun node hnode => .fuel ?_
  refine (comparandsAfter_takes hagain hcomparands hlater hr hnone (Nat.le_refl _)).bind
    fun nodes hnodes => ?_
  rw [List.nil_append] at hnodes
  cases hnodes with
  | nil => exact .give ⟨rfl, hnode⟩
  | cons h hrest => exact .position fun _ => .give ⟨rfl, hnode.compare (.cons h hrest)⟩

/-- An operand, or a chain of comparisons, is read as it was written. -/
theorem comparisonChain_takes (hagain : ServesAll fits again room) (hproper : phrase.Proper)
    (hroom : fits → phrase.height ≤ room + 1) (hlevel : notStrength < phrase.level)
    (hr : Follows notStrength r) : TakesPhrase fits (comparisonChain again place) phrase r := by
  intro u hpad
  by_cases htight : compareStrength < phrase.level
  · have hnone : ProperComparands [] := by rw [ProperComparands]; trivial
    exact comparisonChain_step hagain hproper hnone hroom
      (fun _ => by rw [comparandsHeight]; exact Nat.zero_le _) htight hr
      (by rwa [comparandsText])
  · cases phrase with
    | compare first comparands =>
      rw [Phrase.Proper] at hproper
      obtain ⟨hfirst, hfirstProper, hne, hcomparands⟩ := hproper
      simp only [Phrase.height, Nat.add_le_add_iff_right, Nat.max_le] at hroom
      rw [Phrase.text, List.append_assoc] at hpad
      refine (comparisonChain_step hagain hfirstProper hcomparands
        (fun hfits => Nat.le_succ_of_le (hroom hfits).1) (fun hfits => (hroom hfits).2) hfirst hr
        hpad).imp fun node hnode => ?_
      rwa [if_neg (by simpa using hne)] at hnode
    | binary op _ _ | logic op _ _ => cases op <;> simp at hlevel htight
    | _ => simp at hlevel htight

end

/-! ## Simple expressions -/

/-- Behind the word that a phrase begins with stands the rest of the phrase, or what follows it. -/
theorem Phrase.text_lead (phrase : Phrase) {r : List Char} (hproper : phrase.Proper)
    (hlead : phrase.lead ≠ "") (hnot : phrase.lead ≠ "not") (hr : Follows topStrength r) :
    IsWord phrase.lead.toList ∧ ∃ t, phrase.text ++ r = phrase.lead.toList ++ t ∧
      ((∃ u, t = '(' :: u) ∨ Follows topStrength t) := by
  cases phrase with
  | none => exact ⟨by decide, r, rfl, .inr hr⟩
  | bool value => cases value <;> exact ⟨by decide, r, rfl, .inr hr⟩
  | name id =>
    rw [Proper] at hproper
    exact ⟨hproper.1, r, rfl, .inr hr⟩
  | call function arguments =>
    rw [Proper] at hproper
    rw [text, lead, List.append_assoc]
    exact ⟨hproper.1.1, _, rfl, .inl ⟨_, rfl⟩⟩
  | binary op left right =>
    rw [Proper] at hproper
    rw [lead] at hlead hnot ⊢
    rw [text, List.append_assoc]
    have hop : strength op ≤ (topStrength : Int) := by cases op <;> decide
    refine left.text_lead hproper.2.1 hlead hnot ?_
    simpa using Follows.binary op hop _
  | compare first rest =>
    rw [Proper] at hproper
    obtain ⟨hfirst, hfirstProper, hne, hrest⟩ := hproper
    rw [lead] at hlead hnot ⊢
    rw [text, List.append_assoc]
    refine first.text_lead hfirstProper hlead hnot ?_
    cases rest with
    | nil => exact absurd rfl hne
    | cons comparand rest =>
      obtain ⟨op, operand⟩ := comparand
      rw [ProperComparands] at hrest
      rw [comparandsText]
      simpa using Follows.compare hrest.1 (by decide) _
  | logic op left right =>
    rw [Proper] at hproper
    rw [lead] at hlead hnot ⊢
    rw [text, List.append_assoc]
    refine left.text_lead hproper.2.1 hlead hnot ?_
    cases op with
    | and => exact .word (show ("and", andStrength) ∈ followingWords by decide) (by decide) _
    | or => exact .word (show ("or", orStrength) ∈ followingWords by decide) (by decide) _
  | conditional yes condition no =>
    rw [Proper] at hproper
    rw [lead] at hlead hnot ⊢
    rw [text, List.append_assoc]
    refine yes.text_lead hproper.2.1 hlead hnot ?_
    exact .word (show ("if", conditionalStrength) ∈ followingWords by decide) (by decide) _
  | not _ => exact absurd rfl hnot
  | _ => simp [lead] at hlead

/-- No phrase begins with a name and the walrus sign. -/
theorem not_named (m : Bool) (hproper : phrase.Proper) (hlevel : notStrength < phrase.level)
    (hr : Follows topStrength r) :
    ∃ t text, Shows (look m) t text ∧ Takes fits (attempt wordAtom) (phrase.text ++ r) t fun found =>
      (found.map Node.label == some "identifier" && startsWith ":=".toList text) = false := by
  by_cases hlead : phrase.lead = ""
  · have hplain := (phrase.opens hproper).plain r
    have hword := (phrase.opens hproper).word hr.endsWord
    refine ⟨_, _, look_plain m hplain .none, ?_⟩
    obtain ⟨x, xs, hcons, hx⟩ := opensPlainly.cons hplain
    rw [hcons] at hword ⊢
    have hstart : isIdentifierStart x = false := by
      rw [Bool.eq_false_iff]
      intro hx
      rw [hlead, leadingWord, if_pos hx] at hword
      cases hword
    have hatom : Fails fits wordAtom (x :: xs) :=
      Fails.bind (identifier_fails .none (isSolid_of_opensPhrase hx) hstart)
    refine hatom.attempt.imp ?_
    rintro _ rfl
    rfl
  · obtain ⟨hword, t, htext, ht⟩ :=
      phrase.text_lead hproper hlead (phrase.lead_ne_not hproper hlevel) hr
    obtain ⟨hends, hlook, hwalrus⟩ : EndsWord t ∧ Shows (look m) t (behind t) ∧
        startsWith ":=".toList (behind t) = false := by
      rcases ht with ⟨u, rfl⟩ | ht
      · exact ⟨endsWord_cons (by decide), look_solid m .none (.cons rfl _), rfl⟩
      · exact ⟨ht.endsWord, ht.look m, ht.stops.walrus⟩
    rw [htext]
    exact ⟨t, _, hlook, (wordAtom_takes hword .none hends).attempt.imp fun found _ => by
      rw [hwalrus, Bool.and_false]⟩

/-- An operand, a chain of comparisons or a negation is read as it was written. -/
theorem simpleExpression_takes (hagain : ServesAll fits again room) (hproper : phrase.Proper)
    (hroom : fits → phrase.height ≤ room + 1) (hlevel : notStrength ≤ phrase.level)
    (hr : Follows notStrength r) : TakesPhrase fits (simpleExpression again place) phrase r := by
  intro u hpad
  refine .here hpad (opensPlainly.solid ((phrase.opens hproper).plain r)) fun _ => .get fun c hc => ?_
  dsimp only
  rw [hc.1]
  by_cases htight : notStrength < phrase.level
  · obtain ⟨t, text, hlook, hattempt⟩ :=
      not_named place.multiline hproper htight (hr.mono (by decide))
    rw [Phrase.not_beginsWord_not hproper htight hr.endsWord,
      Phrase.beginsWord_text hproper hr.endsWord (by decide) (by decide)]
    refine .get fun before hbefore => hattempt.bind fun found hnamed => .peek hlook (.set hbefore ?_)
    rw [hnamed]
    exact comparisonChain_takes hagain hproper hroom htight hr .none
  · cases phrase with
    | not operand =>
      rw [Phrase.Proper] at hproper
      simp only [Phrase.height, Nat.add_le_add_iff_right] at hroom
      have hserve := hagain operand hproper.2 hroom
      rw [Phrase.text, List.append_assoc]
      refine .keyword "not" (by decide) .none endsWord_blank fun _ => ?_
      refine (hserve.expression (.inl hproper.1) hr ?_ .blank).bind fun node hnode =>
        .give ⟨rfl, hnode.not⟩
      rwa [Phrase.hold, if_pos hproper.1]
    | binary op _ _ | logic op _ _ => cases op <;> simp at hlevel htight
    | _ => simp at hlevel htight

/-! ## Words that join expressions -/

theorem Phrase.le_hold (h : above ≤ phrase.level)
    (habove : conditionalStrength < above) (hnot : above ≤ notStrength) : above ≤ phrase.hold := by
  unfold hold
  split
  · exact hnot
  · split <;> omega

theorem Phrase.hold_logic (op : LogicOp) (left right : Phrase) :
    (Phrase.logic op left right).hold = logicStrength op := by
  cases op <;> simp [hold]

theorem Phrase.hold_conditional (yes condition no : Phrase) :
    (Phrase.conditional yes condition no).hold = lambdaStrength := by
  simp [hold]

theorem logicStrength_bounds (op : LogicOp) :
    conditionalStrength < logicStrength op ∧ logicStrength op < notStrength := by
  cases op <;> decide

theorem beginsWord_blank (word text : String) (htext : IsWord text.toList) :
    beginsWord word (text.toList ++ ' ' :: s) = (text.toList == word.toList) := by
  rw [beginsWord, htext.leadingWord_append endsWord_blank]

theorem joinedAfter_stops (hr : Follows above r) (node : Node) :
    Takes fits (joinedAfter again above place (fuel + 1) node) r r (· = node) := by
  have hword {text : String} {force : Int} (h : (text, force) ∈ joiningForces) :
      (decide (force > above) && beginsWord text (behind r)) = false := by
    by_cases habove : above < force
    · rw [hr.stops.word text force h habove, Bool.and_false]
    · rw [decide_eq_false habove, Bool.false_and]
  refine .peek (hr.look _) ?_
  simp only [hword (show ("and", andStrength) ∈ joiningForces by decide),
    hword (show ("or", orStrength) ∈ joiningForces by decide),
    hword (show ("as", asStrength) ∈ joiningForces by decide),
    hword (show ("if", conditionalStrength) ∈ joiningForces by decide)]
  exact .give ⟨rfl, rfl⟩

/-- The words `and` and `or` are taken with their right operands. -/
theorem joinedAfter_logic (hserve : Serves fits again right) (habove : above < logicStrength op)
    (hright : logicStrength op < right.level) (hr : Follows (logicStrength op) r)
    (hgo : ∀ node, Lowers node right → ∀ extent,
      Parses False fits (joinedAfter again above place fuel (.logic op left node extent)) r Q) :
    Parses False fits (joinedAfter again above place (fuel + 1) left)
      (' ' :: (op.symbol.toList ++ ' ' :: (right.text ++ r))) Q := by
  have hword : IsWord op.symbol.toList := by cases op <;> decide
  have hbounds := logicStrength_bounds op
  have hhold := hr.mono (Phrase.le_hold (Int.le_of_lt hright) hbounds.1 (Int.le_of_lt hbounds.2))
  have hlogic : Parses False fits (do
      let _ ← keyword op.symbol
      let right ← again (.expression (logicStrength op)) place
      joinedAfter again above place fuel (.logic op left right ⟨left.extent.start, right.extent.stop⟩))
      (' ' :: (op.symbol.toList ++ ' ' :: (right.text ++ r))) Q :=
    .keyword op.symbol hword .blank endsWord_blank fun _ =>
      (hserve.expression (.inr hright) hr hhold .blank).bind fun node hnode => hgo node hnode _
  refine .peek (look_solid _ .blank (hword.solid _)) ?_
  cases op with
  | and =>
    rw [beginsWord_blank "and" LogicOp.and.symbol hword, decide_eq_true (show andStrength > above from habove)]
    exact hlogic
  | or =>
    rw [beginsWord_blank "and" LogicOp.or.symbol hword, beginsWord_blank "or" LogicOp.or.symbol hword,
      decide_eq_true (show orStrength > above from habove),
      beq_eq_false_iff_ne.mpr (show LogicOp.or.symbol.toList ≠ "and".toList by decide), Bool.and_false]
    exact hlogic

/-- A conditional takes all that follows the word `else`. -/
theorem joinedAfter_conditional (hcondition : Serves fits again condition) (hno : Serves fits again no)
    (habove : above < conditionalStrength) (hr : Follows lambdaStrength r)
    (hgo : ∀ node node', Lowers node condition → Lowers node' no → ∀ extent,
      Parses False fits (joinedAfter again above place fuel (.conditional left node node' extent)) r Q) :
    Parses False fits (joinedAfter again above place (fuel + 1) left) (' ' :: ("if".toList ++ ' ' ::
      (condition.text ++ ' ' :: ("else".toList ++ ' ' :: (no.text ++ r))))) Q := by
  have hword : IsWord "if".toList := by decide
  have helse : Follows anyStrength (' ' :: ("else".toList ++ ' ' :: (no.text ++ r))) :=
    .word (show ("else", anyStrength) ∈ followingWords by decide) (Int.le_refl _) _
  have hlevel : lambdaStrength < no.level := Int.lt_of_lt_of_le (by decide) no.level_bounds.1
  refine .peek (look_solid _ .blank (hword.solid _)) ?_
  rw [beginsWord_blank "and" "if" hword, beginsWord_blank "or" "if" hword,
    beginsWord_blank "as" "if" hword, beginsWord_blank "if" "if" hword,
    decide_eq_true (show conditionalStrength > above from habove),
    beq_eq_false_iff_ne.mpr (show "if".toList ≠ "and".toList by decide),
    beq_eq_false_iff_ne.mpr (show "if".toList ≠ "or".toList by decide),
    beq_eq_false_iff_ne.mpr (show "if".toList ≠ "as".toList by decide)]
  simp only [Bool.and_false]
  refine .keyword "if" hword .blank endsWord_blank fun _ => ?_
  refine (hcondition.whole helse .blank).bind fun node hnode => ?_
  refine .keyword "else" (by decide) .blank endsWord_blank fun _ => ?_
  refine (hno.expression (.inr hlevel) hr (hr.mono no.lambdaStrength_le_hold) .blank).bind
    fun node' hnode' => ?_
  exact hgo node node' hnode hnode' _

/-- Expressions are read from the left, by induction on the left part of the outermost operator. -/
theorem expression_spine {Q : Node → List Char → Prop} (hagain : ServesAll fits again room)
    (phrase : Phrase) {u r : List Char} (hproper : phrase.Proper)
    (hroom : fits → phrase.height ≤ room + 1)
    (habove : notStrength ≤ phrase.level ∨ above < phrase.level) (hr : Follows phrase.hold r)
    (hpad : Pad u (phrase.text ++ r))
    (hgo : ∀ node, Lowers node phrase → ∀ fuel, r.length ≤ fuel →
      Parses False fits (joinedAfter again above place (fuel + 1) node) r Q) :
    Parses False fits (expression again above place) u Q := by
  by_cases hsimple : notStrength ≤ phrase.level
  · rw [Phrase.hold, if_pos hsimple] at hr
    exact (simpleExpression_takes hagain hproper hroom hsimple hr hpad).bind fun node hnode =>
      .fuel (hgo node hnode _ (Nat.le_refl _))
  · have habove := habove.resolve_left hsimple
    cases phrase with
    | logic op left right =>
      rw [Phrase.Proper] at hproper
      obtain ⟨⟨hleft, hright⟩, hleftProper, hrightProper⟩ := hproper
      simp only [Phrase.height, Nat.add_le_add_iff_right, Nat.max_le] at hroom
      have hserve := hagain right hrightProper fun hfits => (hroom hfits).2
      have hbounds := logicStrength_bounds op
      have hhold : logicStrength op ≤ left.hold :=
        Phrase.le_hold hleft hbounds.1 (Int.le_of_lt hbounds.2)
      rw [Phrase.level] at habove
      rw [Phrase.hold_logic] at hr
      simp only [Phrase.text, List.append_assoc, List.cons_append] at hpad
      have hfollows : Follows left.hold (' ' :: (op.symbol.toList ++ ' ' :: (right.text ++ r))) := by
        cases op with
        | and => exact .word (show ("and", andStrength) ∈ followingWords by decide) hhold _
        | or => exact .word (show ("or", orStrength) ∈ followingWords by decide) hhold _
      refine expression_spine hagain left hleftProper
        (fun hfits => Nat.le_succ_of_le (hroom hfits).1) (.inr (Int.lt_of_lt_of_le habove hleft))
        hfollows hpad fun node hnode fuel hfuel => ?_
      simp only [List.length_cons, List.length_append] at hfuel
      obtain ⟨fuel, rfl⟩ := Nat.exists_eq_add_one.mpr (Nat.zero_lt_of_lt hfuel)
      exact joinedAfter_logic hserve habove hright hr fun node' hnode' extent =>
        hgo _ (hnode.logic hnode') fuel (by omega)
    | conditional yes condition no =>
      rw [Phrase.Proper] at hproper
      obtain ⟨⟨hyes, -⟩, hyesProper, hconditionProper, hnoProper⟩ := hproper
      simp only [Phrase.height, Nat.add_le_add_iff_right, Nat.max_le] at hroom
      have hcondition := hagain condition hconditionProper fun hfits => (hroom hfits).2.1
      have hno := hagain no hnoProper fun hfits => (hroom hfits).2.2
      rw [Phrase.level] at habove
      rw [Phrase.hold_conditional] at hr
      simp only [Phrase.text, List.append_assoc, List.cons_append] at hpad
      refine expression_spine hagain yes hyesProper
        (fun hfits => Nat.le_succ_of_le (hroom hfits).1) (.inr (Int.lt_trans habove hyes))
        (.word (show ("if", conditionalStrength) ∈ followingWords by decide)
          (yes.conditionalStrength_le_hold hyes) _) hpad fun node hnode fuel hfuel => ?_
      simp only [List.length_cons, List.length_append] at hfuel
      obtain ⟨fuel, rfl⟩ := Nat.exists_eq_add_one.mpr (Nat.zero_lt_of_lt hfuel)
      exact joinedAfter_conditional hcondition hno habove hr fun node' node'' hnode' hnode'' extent =>
        hgo _ (hnode.conditional hnode' hnode'') fuel (by omega)
    | binary op left right => cases op <;> simp at hsimple
    | _ => simp at hsimple

section

variable (hagain : ServesAll fits again room) (hproper : phrase.Proper)
  (hroom : fits → phrase.height ≤ room + 1)
include hagain hproper hroom

/-- Every expression is read as it was written. -/
theorem expression_takes (habove : notStrength ≤ phrase.level ∨ above < phrase.level)
    (hr : Follows above r) (hhold : Follows phrase.hold r) :
    TakesPhrase fits (expression again above place) phrase r := by
  intro u hpad
  refine expression_spine hagain phrase hproper hroom habove hhold hpad
    fun node hnode fuel _ => (joinedAfter_stops hr node).imp ?_
  rintro _ rfl
  exact hnode

theorem loopSource_takes (hlevel : conditionalStrength < phrase.level)
    (hr : Follows conditionalStrength r) : TakesPhrase fits (loopSource again place) phrase r := by
  intro u hpad
  refine .peek (look_plain true ((phrase.opens hproper).plain r) hpad) ?_
  rw [Phrase.beginsWord_text hproper hr.endsWord (by decide) (by decide)]
  exact expression_takes hagain hproper hroom (.inr hlevel) hr
    (hr.mono (phrase.conditionalStrength_le_hold hlevel)) hpad

end

/-! ## The knot -/

theorem ServesAll.onward (h : ServesAll fits again room) :
    ServesAll fits (fun goal place => again goal place.onward) room := fun phrase hproper hroom =>
  have hserve := h phrase hproper hroom
  { proper := hproper
    operand := hserve.operand
    expression := hserve.expression
    source := hserve.source
    target := hserve.target }

/-- A reader that goes `depth` levels deep reads every phrase that is not higher, by induction on the
depth. -/
theorem readNode_serves (fits : Prop) (depth : Nat) : ServesAll fits (readNode depth) depth := by
  induction depth with
  | zero =>
    intro phrase hproper hroom
    have hdeep : ¬ fits := fun hfits => Nat.not_le.mpr phrase.height_pos (hroom hfits)
    exact {
      proper := hproper
      operand := fun _ _ _ _ _ _ _ _ => hdeep
      expression := fun _ _ _ _ _ _ _ => hdeep
      source := fun _ _ _ _ _ _ => hdeep
      target := fun _ _ _ _ _ => hdeep }
  | succ depth ih =>
    intro phrase hproper hroom
    exact {
      proper := hproper
      operand := operand_takes ih.onward hproper hroom
      expression := expression_takes ih.onward hproper hroom
      source := loopSource_takes ih.onward hproper hroom
      target := fun hname hpad hr => by
        rw [hname, Phrase.Proper] at hproper
        exact operand_name hproper hpad hr }

end Walkthrough.Written
