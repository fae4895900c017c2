import Walkthrough.Proofs.Atoms

/-!
# Reading brackets

Parentheses, lists, dictionaries, comprehensions, calls, methods, subscripts and slices are read as
they were written, provided that the reader of the expressions inside reads those (`Serves`).

The star readings of an element never fit: behind its opening parentheses no phrase has a star
(`parenthesizedSplat_fails`).
-/

namespace Walkthrough.Written

open Syntax
open Text

/-! ## The reader inside -/

/-- How tightly an operator behind an operand may bind without taking the end of it away. -/
def Phrase.operandHold (phrase : Phrase) : Int :=
  if phrase.level = strength .pow then signStrength else phrase.level

/-- How tightly an operator behind an expression may bind without taking the end of it away. -/
def Phrase.hold (phrase : Phrase) : Int :=
  if notStrength ≤ phrase.level then notStrength
  else if phrase.level = conditionalStrength then lambdaStrength
  else phrase.level

/-- The parser takes the phrase, perhaps behind a blank, and stops before `r`. -/
def TakesPhrase (fits : Prop) (p : Parser Node) (phrase : Phrase) (r : List Char) : Prop :=
  ∀ ⦃u : List Char⦄, Pad u (phrase.text ++ r) → Takes fits p u r (Lowers · phrase)

/-- A reader reads a phrase for every goal for which the phrase is tight enough.  Signs and `not` are
read whatever the goal. -/
structure Serves (fits : Prop) (again : Reader) (phrase : Phrase) : Prop where
  proper : phrase.Proper
  operand {above : Nat} {place : Place} {r : List Char}
    (hlevel : compareStrength < phrase.level)
    (habove : phrase.level = signStrength ∨ phrase.level = topStrength ∨ above < phrase.level)
    (hr : Follows above r) (hhold : Follows phrase.operandHold r) :
    TakesPhrase fits (again (.operand above) place) phrase r
  expression {above : Int} {place : Place} {r : List Char}
    (habove : notStrength ≤ phrase.level ∨ above < phrase.level) (hr : Follows above r)
    (hhold : Follows phrase.hold r) : TakesPhrase fits (again (.expression above) place) phrase r
  source {place : Place} {r : List Char} (hlevel : conditionalStrength < phrase.level)
    (hr : Follows conditionalStrength r) : TakesPhrase fits (again .source place) phrase r
  /-- A name is read as nothing but a name. -/
  target {id : String} {place : Place} {u r : List Char} (hname : phrase = .name id)
    (hpad : Pad u (id.toList ++ r)) (hr : Follows topStrength r) :
    Takes fits (again (.operand topStrength) place) u r fun node => ∃ extent, node = .name id extent

/-- A reader reads every phrase that is not higher than `room`, unless the whole text does not fit. -/
def ServesAll (fits : Prop) (again : Reader) (room : Nat) : Prop :=
  ∀ phrase : Phrase, phrase.Proper → (fits → phrase.height ≤ room) → Serves fits again phrase

theorem Phrase.level_bounds (phrase : Phrase) :
    conditionalStrength ≤ phrase.level ∧ phrase.level ≤ topStrength := by
  cases phrase with
  | binary op left right =>
    have := strength_bounds op
    simp only [level, conditionalStrength, topStrength]
    omega
  | logic op left right =>
    cases op <;> exact ⟨by simp only [level]; decide, by simp only [level]; decide⟩
  | _ => exact ⟨by simp only [level]; decide, by simp only [level]; decide⟩

theorem Phrase.lambdaStrength_le_hold (phrase : Phrase) : lambdaStrength ≤ phrase.hold := by
  have h := phrase.level_bounds.1
  unfold hold
  split
  · decide
  · split
    · exact Int.le_refl _
    · exact Int.le_trans (by decide) h

variable {fits : Prop} {again : Reader} {phrase : Phrase} {phrases : List Phrase} {place : Place}
  {u s r : List Char}

theorem Serves.plain (h : Serves fits again phrase) (r : List Char) :
    opensPlainly (phrase.text ++ r) :=
  (phrase.opens h.proper).plain r

/-- A whole expression before something that belongs to no expression. -/
theorem Serves.whole (h : Serves fits again phrase) (hr : Follows anyStrength r) :
    TakesPhrase fits (again.whole place) phrase r := by
  refine h.expression (.inr ?_) hr
    (hr.mono (Int.le_trans (by decide) phrase.lambdaStrength_le_hold))
  have := phrase.level_bounds.1
  simp only [anyStrength, conditionalStrength] at *
  omega

/-! ## Stars that are not there -/

/-- What a parser sees before a phrase. -/
theorem look_plain (multiline : Bool) (hs : opensPlainly s) (hpad : Pad u s) :
    Shows (look multiline) u s :=
  look_solid multiline hpad (opensPlainly.solid hs)

theorem ne_of_opensPlainly (hs : opensPlainly s) (hy : opensPhrase y = false) : ∀ t, s ≠ y :: t := by
  obtain ⟨x, xs, rfl, hx⟩ := opensPlainly.cons hs
  exact fun t heq => ne_of_opensPhrase hx hy (List.cons.inj heq).1

theorem startsWith_eq_false (hs : ∀ t, s ≠ x :: t) (more : List Char) :
    startsWith (x :: more) s = false := by
  cases s with
  | nil => rfl
  | cons y ys =>
    have hne : (x == y) = false := beq_eq_false_iff_ne.mpr fun heq => hs ys (heq ▸ rfl)
    simp [startsWith, List.isPrefixOf, hne]

theorem startsWith_star (hs : opensPlainly s) : startsWith ['*'] s = false :=
  startsWith_eq_false (ne_of_opensPlainly hs rfl) []

theorem startsWith_stars (hs : opensPlainly s) : startsWith "**".toList s = false :=
  startsWith_eq_false (ne_of_opensPlainly hs rfl) ['*']

/-- Parentheses before a phrase hold no spread expression. -/
theorem parenthesizedSplat_fails (fuel : Nat) (hpad : Pad u s) (hs : opensPlainly s) :
    Fails fits (parenthesizedSplat again fuel) u := by
  induction fuel generalizing u s with
  | zero => exact .unexpected
  | succ fuel ih =>
    obtain ⟨x, xs, rfl, hx⟩ := opensPlainly.cons hs
    by_cases hparen : x = '('
    · subst hparen
      rw [opensPlainly_paren] at hs
      refine .sign "(" hpad rfl rfl fun _ => .peek (look_plain true hs .none) ?_
      dsimp only
      split
      · exact absurd rfl (ne_of_opensPlainly hs (show opensPhrase '*' = false by decide) _)
      · exact Fails.bind (ih .none hs)
      · exact Fails.bind .unexpected
    · refine Fails.bind (symbol_fails hpad (opensPlainly.solid hs) ?_)
      exact startsWith_eq_false (fun t heq => hparen (List.cons.inj heq).1) []

/-- Looking for a spread leaves the cursor where it is. -/
theorem opensSpread_stays (hopens : Parses True fits (do
      let _ ← symbol "("
      let text ← look true
      return startsWith ['*'] text || startsWith ['('] text) u P) :
    Takes fits opensSpread u u fun _ => True :=
  .get fun _ hc => .bind hopens.attempt fun _ _ _ => .set hc (.give ⟨rfl, trivial⟩)

theorem opensSpread_paren (hpad : Pad u ('(' :: s)) (hs : Solid s) :
    Takes fits opensSpread u u fun _ => True :=
  opensSpread_stays (P := fun _ _ => True)
    (.sign "(" hpad rfl rfl fun _ => .peek (look_solid true .none hs) (.give trivial))

theorem opensSpread_plain (hpad : Pad u s) (hs : opensPlainly s) :
    Takes fits opensSpread u u fun _ => True := by
  obtain ⟨x, xs, rfl, hx⟩ := opensPlainly.cons hs
  by_cases hparen : x = '('
  · subst hparen
    rw [opensPlainly_paren] at hs
    exact opensSpread_paren hpad (opensPlainly.solid hs)
  · refine opensSpread_stays (Fails.bind (symbol_fails hpad (opensPlainly.solid hs) ?_))
    exact startsWith_eq_false (fun t heq => hparen (List.cons.inj heq).1) []

/-! ## Elements and arguments -/

theorem parenthesizedElement_takes (h : Serves fits again phrase) (first : Bool) (closer : Char)
    (place : Place) (hr : Follows anyStrength r) :
    TakesPhrase fits (parenthesizedElement again first closer place) phrase r := by
  intro u hpad
  refine .get fun _ _ => .fuel ((parenthesizedSplat_fails _ hpad (h.plain r)).attempt.bind ?_)
  rintro _ rfl
  exact h.whole hr hpad

theorem element_takes (h : Serves fits again phrase) (first : Bool) (closer : Char)
    (hr : Follows anyStrength r) : TakesPhrase fits (element again first closer) phrase r := by
  intro u hpad
  have hplain := h.plain r
  refine .peek (look_plain true hplain hpad) ?_
  rw [Phrase.beginsWord_text h.proper hr.endsWord (show "yield" ∈ reservedWords by decide)
    (by decide), startsWith_star hplain]
  refine (opensSpread_plain hpad hplain).bind fun opens _ => ?_
  cases opens with
  | false => exact h.whole hr hpad
  | true => exact parenthesizedElement_takes h first closer _ hr hpad

/-- What stands for a phrase is no spread expression in parentheses. -/
theorem Lowers.asArgument_eq (h : Lowers node phrase) : node.asArgument = node := by
  cases node with
  | other kind children extent =>
    exfalso
    have hlower := h ⟨[], []⟩ (phrase.height + 1) rfl
    rw [Reading.lower] at hlower
    cases hlower with
    | ok _ h _ => cases h
    | deep hfits _ => omega
  | _ => rfl

theorem argument_takes (h : Serves fits again phrase) (first spreads : Bool)
    (hr : Follows anyStrength r) : TakesPhrase fits (argument again first spreads) phrase r := by
  intro u hpad
  have hplain := h.plain r
  refine .peek (look_plain true hplain hpad) ?_
  rw [startsWith_stars hplain, startsWith_star hplain]
  refine (opensSpread_plain hpad hplain).bind fun opens _ => ?_
  cases opens with
  | false =>
    refine (h.whole hr hpad).bind fun node hnode => .peek (hr.look true) ?_
    split
    · next heq => exact absurd heq (hr.ne_equals _)
    · exact .give ⟨rfl, hnode⟩
  | true =>
    have helement (place : Place) := parenthesizedElement_takes h false ')' place hr hpad
    refine .fuel ?_
    cases spreads with
    | false =>
      refine (helement _).bind fun node hnode => .give ⟨rfl, ?_⟩
      rwa [hnode.asArgument_eq]
    | true =>
      -- Parentheses that may hold a spread are tried as such first, and do not fit.
      refine Takes.bind (.orElse (Fails.bind (parenthesizedSplat_fails _ hpad hplain)).elim
        fun _ => helement _) fun node hnode => .give ⟨rfl, ?_⟩
      rwa [hnode.asArgument_eq]

/-! ## Parentheses -/

/-- Nothing before a phrase is a tuple of one spread expression. -/
theorem lonelySpread_fails (hpad : Pad u ('(' :: s)) (hs : opensPlainly s) :
    Fails fits (lonelySpread again place) u := by
  refine .get fun _ _ => .sign "(" hpad rfl rfl fun _ => Fails.bind ?_
  refine .peek (look_plain true hs .none) ?_
  rw [startsWith_star hs]
  exact .fuel (parenthesizedSplat_fails _ .none hs)

/-- Between parentheses that hold no spread expression. -/
def insideParentheses (again : Reader) (opening : Extent) : Parser Node := do
  let first ← element again true ')'
  match ← look true with
  | ')' :: _ =>
    let stop ← symbol ")"
    return .paren first ⟨opening.start, stop.stop⟩
  | ',' :: _ =>
    let elements ← itemsAfter (element again false ')') ')' (← loopFuel) [first]
    let stop ← symbol ")"
    return .other .tuple elements ⟨opening.start, stop.stop⟩
  | _ =>
    let _ ← comprehensionClauses again
    let stop ← symbol ")"
    return .other .generator [] ⟨opening.start, stop.stop⟩

/-- Parentheses before a phrase are read from the inside. -/
theorem parenthesized_opens (hpad : Pad u ('(' :: s)) (hs : opensPlainly s)
    (hinside : ∀ opening, Parses False fits (insideParentheses again opening) s P) :
    Parses False fits (parenthesized again place) u P := by
  refine .get fun _ hc => .sign "(" hpad rfl rfl fun opening => .peek (look_plain true hs .none) ?_
  split
  · exact absurd rfl (ne_of_opensPlainly hs (show opensPhrase ')' = false by decide) _)
  · refine (opensSpread_plain .none hs).bind fun opens _ => ?_
    rw [startsWith_star hs]
    cases opens with
    | false => exact hinside opening
    | true =>
      refine .get fun _ hinner => .set hc ((lonelySpread_fails hpad hs).attempt.bind ?_)
      rintro _ rfl
      exact .set hinner (hinside opening)

theorem parenthesized_takes (h : Serves fits again phrase) :
    TakesPhrase fits (parenthesized again place) (.paren phrase) r := by
  intro u hpad
  have hpad : Pad u ('(' :: (phrase.text ++ ')' :: r)) := by simpa [Phrase.text] using hpad
  refine parenthesized_opens hpad (h.plain _) fun opening => ?_
  refine (element_takes h true ')' (.closer (by decide) r) .none).bind fun first hfirst => ?_
  exact .see rfl (.mark ")" rfl rfl fun _ => .give ⟨rfl, hfirst.paren⟩)

/-! ## Items -/

/-- Items with a comma and a blank before each. -/
def moreText {β : Type} (write : β → List Char) (ws : List β) : List Char :=
  ws.flatMap fun w => ',' :: ' ' :: write w

/-- What has been read, with one thing more. -/
theorem forall₂_snoc (hdone : List.Forall₂ R items.reverse done) (ha : R a w) :
    List.Forall₂ R (a :: items).reverse (done ++ [w]) := by
  rw [List.reverse_cons]
  exact List.rel_append hdone (.cons ha .nil)

section

variable {α β : Type} (hcloser : closer ∈ [')', ']', '}'])
include hcloser

theorem isSolid_closer : isSolid closer := by
  fin_cases hcloser <;> rfl

theorem follows_moreText (ws : List β) (above : Int) :
    Follows above (moreText write ws ++ closer :: r) := by
  cases ws with
  | nil => exact .closer (List.mem_cons_of_mem _ hcloser) r
  | cons w ws => exact .closer (by decide) _

/-- No loop begins at a comma or at a closing bracket. -/
theorem beginsLoop_eq_false (ws : List β) :
    beginsLoop (behind (moreText write ws ++ closer :: r)) = false := by
  cases ws with
  | nil => fin_cases hcloser <;> rfl
  | cons w ws => rfl

theorem itemsAfter_stops (fuel : Nat) (items : List α) :
    Shows (itemsAfter item closer (fuel + 1) items) (closer :: r) items.reverse := by
  intro c hc
  rw [itemsAfter, bind_ok (look_solid true .none (.cons (isSolid_closer hcloser) r) hc)]
  fin_cases hcloser <;> rfl

/-- The items behind the first one are read up to the closing bracket, by induction on them. -/
theorem itemsAfter_takes (hopen : ∀ w ∈ ws, ∀ r, opensPlainly (write w ++ r))
    (hitem : ∀ w ∈ ws, ∀ {r : List Char}, Follows anyStrength r →
      Takes fits item (' ' :: (write w ++ r)) r (R · w)) (hdone : List.Forall₂ R items.reverse done)
    (hfuel : (moreText write ws ++ closer :: r).length ≤ fuel) :
    Takes fits (itemsAfter item closer (fuel + 1) items) (moreText write ws ++ closer :: r) (closer :: r)
      fun all => List.Forall₂ R all (done ++ ws) := by
  induction ws generalizing fuel items done with
  | nil => exact (itemsAfter_stops hcloser fuel items).takes (by simpa using hdone)
  | cons w ws ih =>
    have hplain := hopen w List.mem_cons_self (moreText write ws ++ closer :: r)
    have htext : moreText write (w :: ws) ++ closer :: r =
        ',' :: ' ' :: (write w ++ (moreText write ws ++ closer :: r)) := by simp [moreText]
    rw [htext] at hfuel ⊢
    obtain ⟨fuel, rfl⟩ := Nat.exists_eq_add_one.mpr (Nat.zero_lt_of_lt hfuel)
    refine .see rfl (.mark "," rfl rfl fun _ => .peek (look_plain true hplain .blank) ?_)
    split
    · next x xs heq =>
      have hx : (x == closer) = false := by
        rw [beq_eq_false_iff_ne]
        rintro rfl
        refine absurd heq (ne_of_opensPlainly hplain ?_ xs)
        fin_cases hcloser <;> decide
      rw [hx]
      refine (hitem w List.mem_cons_self (follows_moreText hcloser ws _)).bind fun a ha => ?_
      rw [List.append_cons done]
      refine ih (fun w hw => hopen w (List.mem_cons_of_mem _ hw))
        (fun w hw => hitem w (List.mem_cons_of_mem _ hw)) (forall₂_snoc hdone ha) ?_
      simp only [List.length_cons, List.length_append] at hfuel ⊢
      omega
    · next heq =>
      rw [heq] at hplain
      exact absurd hplain (by decide)

end

theorem moreItemsText_eq (phrases : List Phrase) : moreItemsText phrases = moreText Phrase.text phrases := by
  induction phrases with
  | nil => rw [moreItemsText]; rfl
  | cons phrase rest ih =>
    rw [moreItemsText, ih]
    simp [moreText]

theorem follows_moreItemsText (hcloser : closer ∈ [')', ']', '}']) (phrases : List Phrase) (above : Int)
    : Follows above (moreItemsText phrases ++ closer :: r) := by
  rw [moreItemsText_eq]
  exact follows_moreText hcloser phrases above

theorem properItems_iff (phrases : List Phrase) : ProperItems phrases ↔ ∀ p ∈ phrases, p.Proper := by
  induction phrases with
  | nil => simp [ProperItems]
  | cons phrase rest ih => simp [ProperItems, ih]

theorem height_le_itemsHeight : ∀ p ∈ phrases, p.height ≤ itemsHeight phrases := by
  induction phrases with
  | nil => exact List.forall_mem_nil _
  | cons phrase rest ih =>
    simp only [itemsHeight]
    refine List.forall_mem_cons.mpr ⟨by omega, fun p hp => ?_⟩
    have := ih p hp
    omega

section

variable {closer : Char} (hcloser : closer ∈ [')', ']', '}']) {p q : Parser Node}
  (hserves : ∀ p ∈ phrases, Serves fits again p)
  (hitem : ∀ {p : Phrase} {r : List Char}, Serves fits again p → Follows anyStrength r →
    TakesPhrase fits q p r)
include hcloser hserves hitem

/-- Elements or arguments behind the first one. -/
theorem moreItems_takes (hfirst : Lowers first phrase) :
    Takes fits (itemsAfter q closer ((moreItemsText phrases ++ closer :: r).length + 1) [first])
      (moreItemsText phrases ++ closer :: r) (closer :: r)
      fun all => List.Forall₂ Lowers all (phrase :: phrases) := by
  rw [moreItemsText_eq]
  have hdone : List.Forall₂ Lowers [first].reverse [phrase] := .cons hfirst .nil
  refine itemsAfter_takes hcloser (fun p hp => (hserves p hp).plain) ?_ hdone (Nat.le_refl _)
  exact fun p hp _ hr => hitem (hserves p hp) hr .blank

/-- One or more elements or arguments up to the closing bracket.  What would be a comprehension is read
by `other`. -/
theorem items_takes {other : Node → Parser Node} {make : List Node → Extent → Node} (text : String)
    (htext : text.toList = [closer])
    (hfirst : ∀ {r : List Char}, Follows anyStrength r → TakesPhrase fits p phrase r) :
    Takes fits (do
      let first ← p
      if beginsLoop (← look true) then other first
      else
        let items ← itemsAfter q closer (← loopFuel) [first]
        let stop ← symbol text
        return make items stop) (phrase.text ++ (moreItemsText phrases ++ closer :: r)) r
      fun node => ∃ all stop, node = make all stop ∧ List.Forall₂ Lowers all (phrase :: phrases) := by
  have hfollows := follows_moreItemsText (r := r) hcloser phrases anyStrength
  refine (hfirst hfollows .none).bind fun first hlowers => .peek (hfollows.look true) ?_
  have hloop : beginsLoop (behind (moreItemsText phrases ++ closer :: r)) = false := by
    rw [moreItemsText_eq]
    exact beginsLoop_eq_false hcloser phrases
  rw [hloop]
  refine .fuel ((moreItems_takes hcloser hserves hitem hlowers).bind fun all hall => ?_)
  exact .mark text htext (isSolid_closer hcloser) fun stop => .give ⟨rfl, all, stop, rfl, hall⟩

end

section

variable (hagain : ServesAll fits again room) (hproper : ProperItems phrases)
  (hroom : fits → itemsHeight phrases ≤ room)
include hagain hproper hroom

/-- The reader inside reads the phrases between brackets that hold no more than `room`. -/
theorem ServesAll.items : ∀ p ∈ phrases, Serves fits again p := fun p hp =>
  hagain p ((properItems_iff phrases).mp hproper p hp) fun hfits =>
    Nat.le_trans (height_le_itemsHeight p hp) (hroom hfits)

theorem bracketed_takes : TakesPhrase fits (bracketed again) (.list phrases) r := by
  intro u hpad
  have hserves := hagain.items hproper hroom
  have hpad : Pad u ('[' :: (itemsText phrases ++ ']' :: r)) := by simpa [Phrase.text] using hpad
  refine .here hpad (.cons rfl _) fun start => .mark "[" rfl rfl fun _ => ?_
  cases phrases with
  | nil =>
    rw [itemsText]
    exact .see rfl (.mark "]" rfl rfl fun _ => .give ⟨rfl, .list .nil⟩)
  | cons phrase phrases =>
    obtain ⟨hserve, hserves⟩ := List.forall_mem_cons.mp hserves
    have hplain := hserve.plain (moreItemsText phrases ++ ']' :: r)
    rw [itemsText, List.append_assoc]
    refine .peek (look_plain true hplain .none) ?_
    split
    · next heq => exact absurd heq (ne_of_opensPlainly hplain (by decide) _)
    · refine (items_takes (by decide) hserves (fun h => element_takes h false ']') "]" rfl
        (element_takes hserve true ']')).imp ?_
      rintro _ ⟨all, stop, rfl, hall⟩
      exact .list hall

/-- Any number of phrases between parentheses; two or more are read as one construct that stands for no
phrase. -/
theorem parenthesized_items (place : Place) :
    Takes fits (parenthesized again place) ('(' :: (itemsText phrases ++ ')' :: r)) r
      fun _ => True := by
  have hserves := hagain.items hproper hroom
  cases phrases with
  | nil =>
    rw [itemsText]
    exact .get fun _ _ => .mark "(" rfl rfl fun _ => .see rfl (.mark ")" rfl rfl fun _ => .give ⟨rfl, trivial⟩)
  | cons phrase phrases =>
    obtain ⟨hserve, hserves⟩ := List.forall_mem_cons.mp hserves
    have hfollows := follows_moreItemsText (r := r) (show ')' ∈ [')', ']', '}'] by decide) phrases
      anyStrength
    rw [itemsText, List.append_assoc]
    refine parenthesized_opens .none (hserve.plain _) fun opening => ?_
    refine (element_takes hserve true ')' hfollows .none).bind fun first hfirst => ?_
    cases phrases with
    | nil =>
      rw [moreItemsText]
      exact .see rfl (.mark ")" rfl rfl fun _ => .give ⟨rfl, trivial⟩)
    | cons second phrases =>
      have hmore := moreItems_takes (r := r) (show ')' ∈ [')', ']', '}'] by decide) hserves
        (fun h => element_takes h false ')') hfirst
      rw [moreItemsText, List.cons_append] at hmore ⊢
      refine .see rfl (.fuel (hmore.bind fun _ _ => ?_))
      exact .mark ")" rfl rfl fun _ => .give ⟨rfl, trivial⟩

/-! ## Calls -/

theorem callArguments_takes (spreads : Bool) (function : Node) :
    Takes fits (callArguments again spreads function) ('(' :: (itemsText phrases ++ ')' :: r)) r
      fun node => ∃ arguments brackets extent, node = .call function arguments brackets extent ∧
        List.Forall₂ Lowers arguments phrases := by
  have hserves := hagain.items hproper hroom
  refine .mark "(" rfl rfl fun opening => ?_
  cases phrases with
  | nil =>
    rw [itemsText]
    exact .see rfl (.mark ")" rfl rfl fun _ => .give ⟨rfl, _, _, _, rfl, .nil⟩)
  | cons phrase phrases =>
    obtain ⟨hserve, hserves⟩ := List.forall_mem_cons.mp hserves
    have hplain := hserve.plain (moreItemsText phrases ++ ')' :: r)
    rw [itemsText, List.append_assoc]
    refine .peek (look_plain true hplain .none) ?_
    split
    iterate 2 next heq => exact absurd heq (ne_of_opensPlainly hplain (by decide) _)
    · refine (items_takes (by decide) hserves (fun h => argument_takes h false false) ")" rfl
        (argument_takes hserve true spreads)).imp ?_
      rintro _ ⟨all, stop, rfl, hall⟩
      exact ⟨_, _, _, rfl, hall⟩

omit hagain hproper hroom in
theorem lineEnd_stays : Takes fits lineEnd r r fun _ => True := by
  rintro c ⟨rfl, hjoints⟩
  have hahead : ahead false c =
      .ok (aheadFrom false c.joints .nothing c.position c.rest, c) := rfl
  rw [lineEnd, bind_ok hahead]
  generalize aheadFrom false c.joints .nothing c.position c.rest = met
  cases met <;> exact ⟨⟨rfl, trivial⟩, hjoints⟩

omit hagain hroom in
/-- The text between brackets begins with a phrase or with the closing bracket. -/
theorem itemsText_solid (hcloser : isSolid closer) (r : List Char) :
    Solid (itemsText phrases ++ closer :: r) := by
  cases phrases with
  | nil => exact .cons hcloser r
  | cons phrase phrases =>
    rw [ProperItems] at hproper
    rw [itemsText, List.append_assoc]
    exact opensPlainly.solid ((phrase.opens hproper.1).plain _)

/-- A call is read in the same way wherever it stands. -/
theorem callAfter_takes (place : Place) (function : Node) :
    Takes fits (callAfter again place function) ('(' :: (itemsText phrases ++ ')' :: r)) r
      fun node => ∃ arguments brackets extent, node = .call function arguments brackets extent ∧
        List.Forall₂ Lowers arguments phrases := by
  have htakes (spreads : Bool) := callArguments_takes (r := r) hagain hproper hroom spreads function
  refine (opensSpread_paren .none (itemsText_solid hproper rfl r)).bind fun opens _ => ?_
  split
  · exact htakes false
  · refine .orElse ((htakes true).bind fun node hnode => lineEnd_stays.bind fun ends _ => ?_)
      fun (_ : True) => htakes false
    cases ends with
    | true => exact .give ⟨rfl, hnode⟩
    | false => exact .unexpected

end

/-! ## Subscripts -/

/-- What ends a part of a slice. -/
inductive EndsPart : List Char → Prop where
  | colon {t : List Char} (ht : ∀ y ∈ t.head?, y ≠ '=') : EndsPart (':' :: t)
  | close (t : List Char) : EndsPart (']' :: t)

theorem EndsPart.follows (h : EndsPart r) (above : Int) : Follows above r := by
  cases h with
  | colon ht => exact .colon ht
  | close t => exact .closer (by decide) t

theorem slicePart_takes (hserves : ∀ p ∈ part, Serves fits again p) (hr : EndsPart r) :
    Takes fits (slicePart again) (partText part ++ r) r (LowersPart · part) := by
  cases part with
  | none =>
    rw [partText]
    cases hr with
    | colon ht => exact .see rfl (.give ⟨rfl, .none⟩)
    | close t => exact .see rfl (.give ⟨rfl, .none⟩)
  | some phrase =>
    have hserve := hserves phrase rfl
    have hplain := hserve.plain r
    rw [partText]
    refine .peek (look_plain true hplain .none) ?_
    split
    iterate 3 next heq => exact absurd heq (ne_of_opensPlainly hplain (by decide) _)
    · exact (hserve.whole (hr.follows _) .none).bind fun node hnode => .give ⟨rfl, .some hnode⟩

theorem subscriptItem_index (h : Serves fits again phrase) :
    Takes fits (subscriptItem again) (phrase.text ++ ']' :: r) (']' :: r)
      fun item => ∃ node, item = .index node ∧ Lowers node phrase := by
  have hpart := slicePart_takes (show ∀ p ∈ some phrase, Serves fits again p by simp [h]) (.close r)
  rw [partText] at hpart
  refine .here .none (opensPlainly.solid (h.plain _)) fun _ => hpart.bind fun first hlowers => ?_
  refine .see rfl ?_
  cases hlowers with
  | some hlowers => exact .give ⟨rfl, _, rfl, hlowers⟩

/-- Neither a part of a slice nor what ends it begins with an equals sign. -/
theorem partText_ne_equals (hproper : ∀ p ∈ part, p.Proper) (hr : EndsPart r) :
    ∀ y ∈ (partText part ++ r).head?, y ≠ '=' := by
  intro y hy
  cases part with
  | none =>
    rw [partText] at hy
    cases hr <;>
    · cases hy
      decide
  | some phrase =>
    rw [partText] at hy
    obtain ⟨x, xs, hcons, hx⟩ := opensPlainly.cons ((phrase.opens (hproper phrase rfl)).plain r)
    rw [hcons] at hy
    cases hy
    exact ne_of_opensPhrase hx (by decide)

theorem subscriptItem_slice (hstart : ∀ p ∈ start, Serves fits again p)
    (hstop : ∀ p ∈ stop, Serves fits again p) (hstep : ∀ p ∈ step, Serves fits again p) :
    Takes fits (subscriptItem again)
      (partText start ++ ':' :: (partText stop ++ (stepText step ++ ']' :: r))) (']' :: r)
      fun item => ∃ first second third bounds, item = .slice first second third bounds ∧
        LowersPart first start ∧ LowersPart second stop ∧ LowersPart third step := by
  have hclose : EndsPart (']' :: r) := .close r
  have hthird := slicePart_takes hstep hclose
  have hlast : EndsPart (stepText step ++ ']' :: r) := by
    cases step with
    | none => exact hclose
    | some phrase =>
      have hne := partText_ne_equals (fun p hp => (hstep p hp).proper) hclose
      rw [partText] at hne
      exact .colon hne
  have hfirst : EndsPart (':' :: (partText stop ++ (stepText step ++ ']' :: r))) :=
    .colon (partText_ne_equals (fun p hp => (hstop p hp).proper) hlast)
  have hsolid : Solid (partText start ++ ':' :: (partText stop ++ (stepText step ++ ']' :: r))) := by
    cases start with
    | none => exact .cons rfl _
    | some phrase => exact opensPlainly.solid ((hstart phrase rfl).plain _)
  refine .here .none hsolid fun _ => (slicePart_takes hstart hfirst).bind fun first hlowers => ?_
  refine .see rfl (.mark ":" rfl rfl fun _ => ?_)
  refine (slicePart_takes hstop hlast).bind fun second hlowers' => ?_
  cases step with
  | none =>
    rw [stepText]
    refine .see rfl (.peek (p := pure none) (fun _ _ => rfl) ?_)
    exact .position fun _ => .give ⟨rfl, first, second, _, _, rfl, hlowers, hlowers', .none⟩
  | some phrase =>
    rw [stepText]
    rw [partText] at hthird
    refine .see rfl (.mark ":" rfl rfl fun _ => ?_)
    refine hthird.bind fun third hlowers'' => .position fun _ => .give ⟨rfl, ?_⟩
    exact ⟨first, second, third, _, rfl, hlowers, hlowers', hlowers''⟩

/-- A subscript of one item. -/
theorem subscriptAfter_takes (object : Node)
    (hitem : Takes fits (subscriptItem again) (s ++ ']' :: r) (']' :: r) P) :
    Takes fits (subscriptAfter again object) ('[' :: (s ++ ']' :: r)) r
      fun node => ∃ item extent, node = .subscript object [item] extent ∧ P item := by
  refine .mark "[" rfl rfl fun _ => hitem.bind fun item hP => .fuel ?_
  refine .peek (itemsAfter_stops (by decide) _ _) (.mark "]" rfl rfl fun stop => .give ?_)
  exact ⟨rfl, item, _, rfl, hP⟩

/-! ## Dictionaries -/

/-- An entry as it is written. -/
def Entry.text : Entry → List Char
  | .mk key value => key.text ++ ':' :: ' ' :: value.text

theorem moreEntriesText_eq (entries : List Entry) :
    moreEntriesText entries = moreText Entry.text entries := by
  induction entries with
  | nil => rw [moreEntriesText]; rfl
  | cons entry rest ih =>
    cases entry
    rw [moreEntriesText, ih]
    simp [moreText, Entry.text]

theorem entryValue_takes (hvalue : Serves fits again value) (place : Place) (node : Node)
    (hr : Follows anyStrength r) :
    Takes fits (entryValue again place node) (':' :: ' ' :: (value.text ++ r)) r
      fun entry => ∃ second, entry = .pair node second ∧ Lowers second value :=
  .mark ":" rfl rfl fun _ => (hvalue.whole hr .blank).bind fun second hsecond =>
    .give ⟨rfl, second, rfl, hsecond⟩

theorem entry_takes (hkey : Serves fits again key) (hvalue : Serves fits again value)
    (hr : Follows anyStrength r) :
    Takes fits (entry again) (' ' :: ((Entry.mk key value).text ++ r)) r
      (LowersEntry · (.mk key value)) := by
  have hplain := hkey.plain (':' :: ' ' :: (value.text ++ r))
  rw [Entry.text, List.append_assoc]
  refine .peek (look_plain true hplain .blank) ?_
  rw [startsWith_stars hplain]
  refine (hkey.whole (.colon (by simp)) .blank).bind fun first hfirst => ?_
  refine (entryValue_takes hvalue .inside first hr).imp ?_
  rintro _ ⟨second, rfl, hsecond⟩
  exact .pair hfirst hsecond

theorem properEntries_iff (entries : List Entry) :
    ProperEntries entries ↔ ∀ key value, .mk key value ∈ entries → key.Proper ∧ value.Proper := by
  induction entries with
  | nil => simp [ProperEntries]
  | cons entry rest ih =>
    cases entry
    simp only [ProperEntries, ih, List.mem_cons, Entry.mk.injEq]
    constructor
    · rintro ⟨hkey, hvalue, hrest⟩ k v (⟨rfl, rfl⟩ | hmem)
      · exact ⟨hkey, hvalue⟩
      · exact hrest k v hmem
    · intro h
      exact ⟨(h _ _ (.inl ⟨rfl, rfl⟩)).1, (h _ _ (.inl ⟨rfl, rfl⟩)).2,
        fun k v hmem => h k v (.inr hmem)⟩

theorem height_le_entriesHeight : ∀ key value, .mk key value ∈ entries →
    key.height ≤ entriesHeight entries ∧ value.height ≤ entriesHeight entries := by
  induction entries with
  | nil => exact fun _ _ hmem => absurd hmem List.not_mem_nil
  | cons entry rest ih =>
    cases entry
    simp only [entriesHeight, List.mem_cons, Entry.mk.injEq]
    rintro k v (⟨rfl, rfl⟩ | hmem)
    · omega
    · have := ih k v hmem
      omega

/-- The reader inside reads the keys and values between braces that hold no more than `room`. -/
theorem ServesAll.pairs (hagain : ServesAll fits again room) (hproper : ProperEntries entries)
    (hroom : fits → entriesHeight entries ≤ room) : ∀ key value, .mk key value ∈ entries →
      Serves fits again key ∧ Serves fits again value := by
  intro key value hmem
  obtain ⟨hkey, hvalue⟩ := (properEntries_iff entries).mp hproper key value hmem
  have hheight := height_le_entriesHeight key value hmem
  exact ⟨hagain key hkey fun hfits => Nat.le_trans hheight.1 (hroom hfits),
    hagain value hvalue fun hfits => Nat.le_trans hheight.2 (hroom hfits)⟩

theorem dictionaryAfter_takes (hentries : ∀ key value, .mk key value ∈ entries →
      Serves fits again key ∧ Serves fits again value) (hfirst : LowersEntry first written)
     (start : Position) :
    Takes fits (dictionaryAfter again start first) (moreText Entry.text entries ++ '}' :: r) r
      (Lowers · (.dict (written :: entries))) := by
  have hdone : List.Forall₂ LowersEntry [first].reverse [written] := .cons hfirst .nil
  refine .fuel ((itemsAfter_takes (by decide) ?_ ?_ hdone (Nat.le_refl _)).bind fun all hall => ?_)
  · rintro ⟨key, value⟩ hmem r
    rw [Entry.text, List.append_assoc]
    exact (hentries key value hmem).1.plain _
  · rintro ⟨key, value⟩ hmem r hr
    obtain ⟨hkey, hvalue⟩ := hentries key value hmem
    exact entry_takes hkey hvalue hr
  · exact .mark "\x7d" rfl rfl fun _ => .give ⟨rfl, .dict hall⟩

theorem braced_takes (hagain : ServesAll fits again room) (hproper : ProperEntries entries)
    (hroom : fits → entriesHeight entries ≤ room) :
    TakesPhrase fits (braced again) (.dict entries) r := by
  intro u hpad
  have hentries := hagain.pairs hproper hroom
  have hpad : Pad u ('{' :: (entriesText entries ++ '}' :: r)) := by simpa [Phrase.text] using hpad
  refine .here hpad (.cons rfl _) fun start => .mark "\x7b" rfl rfl fun _ => ?_
  match entries with
  | [] =>
    rw [entriesText]
    exact .see rfl (.mark "\x7d" rfl rfl fun _ => .give ⟨rfl, .dict .nil⟩)
  | .mk key value :: entries =>
    obtain ⟨hkey, hvalue⟩ := hentries key value List.mem_cons_self
    have htext : entriesText (.mk key value :: entries) ++ '}' :: r = key.text ++ ':' :: ' ' ::
        (value.text ++ (moreText Entry.text entries ++ '}' :: r)) := by
      rw [entriesText, moreEntriesText_eq]
      simp
    have hplain := hkey.plain
      (':' :: ' ' :: (value.text ++ (moreText Entry.text entries ++ '}' :: r)))
    have hcloser : '}' ∈ [')', ']', '}'] := by decide
    have hfollows : Follows anyStrength (moreText Entry.text entries ++ '}' :: r) :=
      follows_moreText hcloser entries anyStrength
    rw [htext]
    refine .peek (look_plain true hplain .none) ?_
    split
    iterate 2 next heq => exact absurd heq (ne_of_opensPlainly hplain (by decide) _)
    · rw [startsWith_stars hplain]
      refine (element_takes hkey true '}' (.colon (by simp)) .none).bind fun first hfirst => ?_
      refine .see rfl ?_
      refine (entryValue_takes hvalue .body first hfollows).bind ?_
      rintro _ ⟨second, rfl, hsecond⟩
      refine .peek (hfollows.look true) ?_
      rw [beginsLoop_eq_false hcloser]
      exact dictionaryAfter_takes (fun k v hmem => hentries k v (List.mem_cons_of_mem _ hmem))
        (.pair hfirst hsecond) _

end Walkthrough.Written
