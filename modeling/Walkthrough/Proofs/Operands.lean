import Walkthrough.Proofs.Brackets

/-!
# Reading operands

Comprehensions, what stands behind an operand, signs, and the binary operators by their strength.

* `comprehension_takes`: a body with its clauses in brackets.
* `primary_takes`: an operand that no sign or operator is part of.
* `operand_takes`: an operand up to a given strength, along the spine of its left operands.
-/

namespace Walkthrough.Written

open Syntax
open Text

theorem Phrase.conditionalStrength_le_hold (phrase : Phrase) (h : conditionalStrength < phrase.level) :
    conditionalStrength ≤ phrase.hold := by
  unfold hold
  split
  · decide
  · split <;> omega

/-! ## Comprehensions -/

/-- A clause as it is written, with the blank before it. -/
def Clause.text : Clause → List Char
  | .forIn target source =>
    ' ' :: ("for".toList ++ ' ' :: (target.toList ++ ' ' :: ("in".toList ++ ' ' :: source.text)))
  | .filter condition => ' ' :: ("if".toList ++ ' ' :: condition.text)

theorem clausesText_eq (clauses : List Clause) : clausesText clauses = clauses.flatMap Clause.text := by
  induction clauses with
  | nil => rw [clausesText]; rfl
  | cons clause rest ih => cases clause <;> simp [clausesText, Clause.text, ih]

attribute [local simp] Phrase.level strength logicStrength topStrength signStrength compareStrength
  notStrength andStrength orStrength conditionalStrength

variable {fits : Prop} {again : Reader} {place : Place} {phrase : Phrase} {u s r : List Char}

/-- The reader inside reads the target and the source of a loop. -/
theorem ServesAll.loop (hagain : ServesAll fits again room) (htarget : IsName target)
    (hsource : source.Proper) (hroom : fits → source.height ≤ room) :
    Serves fits again (.name target) ∧ Serves fits again source := by
  refine ⟨hagain _ (by rwa [Phrase.Proper]) fun hfits => ?_, hagain source hsource hroom⟩
  exact Nat.le_trans source.height_pos (hroom hfits)

theorem loopTarget_takes (hserve : Serves fits again (.name target)) :
    Takes fits (loopTarget again) (' ' :: (target.toList ++ ' ' :: ("in".toList ++ ' ' :: r)))
      (' ' :: ("in".toList ++ ' ' :: r)) (· = some target) := by
  have hin : Follows topStrength (' ' :: ("in".toList ++ ' ' :: r)) :=
    .compare (show CompareOp.isIn ∈ CompareOp.all by decide) (by decide) r
  refine (hserve.target rfl .blank hin).bind ?_
  rintro _ ⟨extent, rfl⟩
  have hstops (fuel : Nat) : Shows (targetsAfter again (fuel + 1) [.name target extent])
      (' ' :: ("in".toList ++ ' ' :: r)) ([.name target extent], false) := by
    intro c hc
    rw [targetsAfter, bind_ok (look_solid true .blank (.cons rfl _) hc)]
    rfl
  refine .fuel (.peek (hstops _) ?_)
  simp only [allPatterns, Node.isPattern, Bool.and_true]
  exact .give ⟨rfl, rfl⟩

theorem sourcesAfter_stops (hr : Follows above r) (hcomma : ∀ t, behind r ≠ ',' :: t) (fuel : Nat)
    (sources : List Node) :
    Takes fits (sourcesAfter again (fuel + 1) sources) r r (· = sources.reverse) := by
  refine .peek (hr.look true) ?_
  split
  · next heq => exact absurd heq (hcomma _)
  · exact .give ⟨rfl, rfl⟩

theorem loopClause_takes (hname : Serves fits again (.name target))
    (hsource : Serves fits again source) (hlevel : conditionalStrength < source.level)
    (hr : Follows conditionalStrength r) (hcomma : ∀ t, behind r ≠ ',' :: t) :
    Takes fits (loopClause again) ((Clause.forIn target source).text ++ r) r
      (LowersClause · (.forIn target source)) := by
  have htext : (Clause.forIn target source).text ++ r = ' ' :: ("for".toList ++ ' ' ::
      (target.toList ++ ' ' :: ("in".toList ++ ' ' :: (source.text ++ r)))) := by
    simp [Clause.text]
  rw [htext]
  refine .here .blank (.cons rfl _) fun _ => .see rfl ?_
  refine .keyword "for" (by decide) .none endsWord_blank fun _ => (loopTarget_takes hname).bind ?_
  rintro _ rfl
  refine .keyword "in" (by decide) .blank endsWord_blank fun _ => ?_
  refine (hsource.source hlevel hr .blank).bind fun node hnode => ?_
  refine .fuel ((sourcesAfter_stops hr hcomma _ _).bind ?_)
  rintro _ rfl
  exact .position fun _ => .give ⟨rfl, .forIn hnode⟩

/-- What stands behind a clause or before it: another clause, or the closing bracket. -/
theorem follows_clauses (clauses : List Clause) (r : List Char) :
    Follows conditionalStrength (clauses.flatMap Clause.text ++ ']' :: r) := by
  cases clauses with
  | nil => exact .closer (by decide) r
  | cons clause rest =>
    cases clause with
    | forIn target source =>
      rw [List.flatMap_cons, Clause.text]
      simpa using Follows.word (show ("for", anyStrength) ∈ followingWords by decide) (by decide) _
    | filter condition =>
      rw [List.flatMap_cons, Clause.text]
      simpa using
        Follows.word (show ("if", conditionalStrength) ∈ followingWords by decide) (by decide) _

theorem clauses_ne_comma (clauses : List Clause) (r : List Char) :
    ∀ t, behind (clauses.flatMap Clause.text ++ ']' :: r) ≠ ',' :: t := by
  intro t heq
  cases clauses with
  | nil => cases heq
  | cons clause rest =>
    cases clause <;>
    · rw [List.flatMap_cons, Clause.text] at heq
      cases heq

/-- The clauses behind the first one are read up to the closing bracket, by induction on them. -/
theorem clausesAfter_takes (hagain : ServesAll fits again room) (hproper : ProperClauses clauses)
    (hroom : fits → clausesHeight clauses ≤ room) (hdone : List.Forall₂ LowersClause nodes.reverse done)
    (hfuel : (clauses.flatMap Clause.text ++ ']' :: r).length ≤ fuel) :
    Takes fits (clausesAfter again (fuel + 1) nodes) (clauses.flatMap Clause.text ++ ']' :: r) (']' :: r)
      fun all => List.Forall₂ LowersClause all (done ++ clauses) := by
  induction clauses generalizing fuel nodes done with
  | nil => exact .see rfl (.give ⟨rfl, by simpa using hdone⟩)
  | cons clause clauses ih =>
    rw [List.flatMap_cons, List.append_assoc] at hfuel ⊢
    have hfollows := follows_clauses clauses r
    have hlength : (clauses.flatMap Clause.text ++ ']' :: r).length < fuel := by
      have : 0 < clause.text.length := by cases clause <;> simp [Clause.text]
      rw [List.length_append] at hfuel
      omega
    obtain ⟨fuel, rfl⟩ := Nat.exists_eq_add_one.mpr (Nat.zero_lt_of_lt hlength)
    rw [List.append_cons done]
    cases clause with
    | forIn target source =>
      simp only [ProperClauses, clausesHeight, Nat.max_le] at hproper hroom
      obtain ⟨htarget, ⟨hlevel, hsource⟩, hclauses⟩ := hproper
      obtain ⟨hname, hserve⟩ := hagain.loop htarget hsource fun hfits => (hroom hfits).1
      refine .peek (look_solid true .blank (.cons rfl _)) ?_
      refine (loopClause_takes hname hserve hlevel hfollows (clauses_ne_comma clauses r)).bind
        fun node hnode => ?_
      exact ih hclauses (fun hfits => (hroom hfits).2) (forall₂_snoc hdone hnode)
        (Nat.le_of_lt_succ hlength)
    | filter condition =>
      simp only [ProperClauses, clausesHeight, Nat.max_le] at hproper hroom
      obtain ⟨⟨hlevel, hcondition⟩, hclauses⟩ := hproper
      have hserve := hagain condition hcondition fun hfits => (hroom hfits).1
      refine .peek (look_solid true .blank (.cons rfl _))
        (.keyword "if" (by decide) .blank endsWord_blank fun _ => ?_)
      refine (hserve.expression (.inr hlevel) hfollows
        (hfollows.mono (condition.conditionalStrength_le_hold hlevel)) .blank).bind
        fun node hnode => ?_
      exact ih hclauses (fun hfits => (hroom hfits).2) (forall₂_snoc hdone (.filter hnode))
        (Nat.le_of_lt_succ hlength)

theorem comprehensionClauses_takes (hagain : ServesAll fits again room) (htarget : IsName target)
    (hsource : source.Proper) (hlevel : conditionalStrength < source.level)
    (hclauses : ProperClauses clauses)
    (hroom : fits → source.height ≤ room ∧ clausesHeight clauses ≤ room) :
    Takes fits (comprehensionClauses again)
      ((Clause.forIn target source :: clauses).flatMap Clause.text ++ ']' :: r) (']' :: r)
      fun all => List.Forall₂ LowersClause all (.forIn target source :: clauses) := by
  obtain ⟨hname, hserve⟩ := hagain.loop htarget hsource fun hfits => (hroom hfits).1
  rw [List.flatMap_cons, List.append_assoc]
  refine (loopClause_takes hname hserve hlevel (follows_clauses clauses r)
    (clauses_ne_comma clauses r)).bind fun first hfirst => .fuel ?_
  have hdone : List.Forall₂ LowersClause [first].reverse [.forIn target source] := .cons hfirst .nil
  exact clausesAfter_takes hagain hclauses (fun hfits => (hroom hfits).2) hdone (Nat.le_refl _)

theorem comprehension_takes (hagain : ServesAll fits again room)
    (hproper : (Phrase.comprehension body target source clauses).Proper)
    (hroom : fits → (Phrase.comprehension body target source clauses).height ≤ room + 1) :
    TakesPhrase fits (bracketed again) (.comprehension body target source clauses) r := by
  intro u hpad
  rw [Phrase.Proper] at hproper
  obtain ⟨hbody, htarget, ⟨hlevel, hsource⟩, hclauses⟩ := hproper
  simp only [Phrase.height, Nat.add_le_add_iff_right, Nat.max_le] at hroom
  have hserve := hagain body hbody fun hfits => (hroom hfits).1
  have hpad : Pad u ('[' :: (body.text ++
      ((Clause.forIn target source :: clauses).flatMap Clause.text ++ ']' :: r))) := by
    rw [Phrase.text, clausesText_eq] at hpad
    simpa [Clause.text] using hpad
  have hplain := hserve.plain
    ((Clause.forIn target source :: clauses).flatMap Clause.text ++ ']' :: r)
  have hfollows : Follows anyStrength
      ((Clause.forIn target source :: clauses).flatMap Clause.text ++ ']' :: r) := by
    rw [List.flatMap_cons, Clause.text]
    simpa using Follows.word (show ("for", anyStrength) ∈ followingWords by decide) (by decide) _
  refine .here hpad (.cons rfl _) fun _ => .mark "[" rfl rfl fun _ =>
    .peek (look_plain true hplain .none) ?_
  split
  · next heq => exact absurd heq (ne_of_opensPlainly hplain (by decide) _)
  · refine (element_takes hserve true ']' hfollows .none).bind fun first hfirst => ?_
    refine .peek (look_solid true .blank (.cons rfl _)) ?_
    refine (comprehensionClauses_takes hagain htarget hsource hlevel hclauses
      fun hfits => (hroom hfits).2).bind fun all hall => ?_
    exact .mark "]" rfl rfl fun _ => .give ⟨rfl, .comprehension hfirst hall⟩

/-! ## Operands without operators -/

/-- An operand without signs and operators. -/
def primary (again : Reader) (place : Place) : Parser Node := do
  let node ← atom again place
  trailers again place (← loopFuel) node

/-- Where nothing but a bracket can begin, it does. -/
theorem atom_bracket (hx : (x = '(' ∧ p = parenthesized again place) ∨ (x = '[' ∧ p = bracketed again) ∨
      (x = '{' ∧ p = braced again)) (hpad : Pad u (x :: xs)) (hp : Parses False fits p (x :: xs) P) :
    Parses False fits (atom again place) u P := by
  have hsolid : isSolid x := by rcases hx with ⟨rfl, -⟩ | ⟨rfl, -⟩ | ⟨rfl, -⟩ <;> rfl
  refine .skip hpad (.cons hsolid xs) (.get fun c hc => ?_)
  rw [hc.1]
  rcases hx with ⟨rfl, rfl⟩ | ⟨rfl, rfl⟩ | ⟨rfl, rfl⟩
  all_goals
    dsimp only
    rw [numeral?_eq_none (by decide) (by decide)]
    exact hp

/-- A phrase that begins with a bracket. -/
theorem atom_phrase (hx : (x = '(' ∧ p = parenthesized again place) ∨ (x = '[' ∧ p = bracketed again) ∨
      (x = '{' ∧ p = braced again)) (htext : ∃ t, phrase.text = x :: t)
    (hp : TakesPhrase fits p phrase r) : TakesPhrase fits (atom again place) phrase r := by
  intro u hpad
  obtain ⟨t, htext⟩ := htext
  have hinside := hp .none
  rw [htext] at hpad hinside
  exact atom_bracket hx hpad hinside

theorem trailers_stops (hr : Follows above r) (node : Node) :
    Takes fits (trailers again place (fuel + 1) node) r r (· = node) := by
  have hnone : Takes fits (trailer? again place node) r r (· = none) := by
    have htrailer := hr.stops.trailer
    rw [trailer?]
    refine .peek (hr.look _) ?_
    split
    · next heq => exact absurd (by decide) (htrailer '(' (by rw [heq]; rfl))
    · next heq => exact absurd (by decide) (htrailer '[' (by rw [heq]; rfl))
    · next heq => exact absurd (by decide) (htrailer '.' (by rw [heq]; rfl))
    · exact .give ⟨rfl, rfl⟩
  refine hnone.bind ?_
  rintro _ rfl
  exact .give ⟨rfl, rfl⟩

theorem trailers_step {P Q : Node → Prop}
    (htrailer : Takes fits (trailer? again place node) t s fun found => ∃ more, found = some more ∧ P more)
    (hmore : ∀ more, P more → Takes fits (trailers again place fuel more) s r Q) :
    Takes fits (trailers again place (fuel + 1) node) t r Q := by
  refine htrailer.bind ?_
  rintro _ ⟨more, rfl, hP⟩
  exact hmore more hP

/-- The last brackets of an operand. -/
theorem trailers_last
    (htrailer : Takes fits (trailer? again place node) t r fun found => ∃ more, found = some more ∧ P more)
    (hr : Follows above r) : Takes fits (trailers again place (fuel + 2) node) t r P := by
  refine trailers_step htrailer fun more hP => (trailers_stops hr more).imp ?_
  rintro _ rfl
  exact hP

/-- The phrase is read as an operand without signs and operators. -/
def ReadsPrimary (fits : Prop) (again : Reader) (place : Place) (phrase : Phrase) : Prop :=
  ∀ ⦃r : List Char⦄ ⦃above : Int⦄, Follows above r → TakesPhrase fits (primary again place) phrase r

/-- An operand that takes no brackets behind it. -/
theorem primary_bare (hatom : ∀ {r : List Char} {above : Int}, Follows above r →
      TakesPhrase fits (atom again place) phrase r) : ReadsPrimary fits again place phrase := by
  intro r above hr u hpad
  refine (hatom hr hpad).bind fun node hnode => .fuel ((trailers_stops hr node).imp ?_)
  rintro _ rfl
  exact hnode

/-- An operand that takes brackets behind it. -/
theorem primary_trailer (ht : t ≠ []) (htext : phrase.text = s ++ t)
    (hatom : ∀ {u r : List Char}, Pad u (s ++ (t ++ r)) → Takes fits (atom again place) u (t ++ r) P)
    (htrailer : ∀ {node : Node} {r : List Char}, P node →
      Takes fits (trailer? again place node) (t ++ r) r
        fun found => ∃ more, found = some more ∧ Lowers more phrase) :
    ReadsPrimary fits again place phrase := by
  intro r above hr u hpad
  rw [htext, List.append_assoc] at hpad
  obtain ⟨x, xs, rfl⟩ := List.exists_cons_of_ne_nil ht
  exact (hatom hpad).bind fun node hnode => .fuel (trailers_last (htrailer hnode) hr)

/-! ### The operands one by one -/

theorem primary_word (hs : IsWord s) (htext : phrase.text = s)
    (hnode : ∀ extent, Lowers (wordNode (String.ofList s) extent) phrase) :
    ReadsPrimary fits again place phrase := by
  refine primary_bare fun hr u hpad => ?_
  rw [htext] at hpad
  refine (atom_word hs hpad hr.endsWord hr.endsLiteral).imp ?_
  rintro _ ⟨extent, rfl⟩
  exact hnode extent

theorem atom_paren (h : Serves fits again phrase) :
    TakesPhrase fits (atom again place) (.paren phrase) r :=
  atom_phrase (.inl ⟨rfl, rfl⟩) ⟨_, by rw [Phrase.text]⟩ (parenthesized_takes h)

section

variable (hagain : ServesAll fits again room)
include hagain

theorem primary_call (hproper : (Phrase.call function arguments).Proper)
    (hroom : fits → (Phrase.call function arguments).height ≤ room + 1) :
    ReadsPrimary fits again place (.call function arguments) := by
  rw [Phrase.Proper] at hproper
  simp only [Phrase.height, Nat.add_le_add_iff_right] at hroom
  refine primary_trailer (t := '(' :: (itemsText arguments ++ [')']))
    (P := fun node => ∃ extent, node = .name function extent) (by simp) (by rw [Phrase.text]) ?_ ?_
  · intro u r hpad
    refine (atom_word hproper.1.1 hpad (endsWord_cons (by decide)) (by simp [isLiteralQuote])).imp ?_
    rintro _ ⟨extent, rfl⟩
    exact ⟨extent, by rw [String.ofList_toList, wordNode_name hproper.1]⟩
  · rintro _ r ⟨extent, rfl⟩
    rw [trailer?, List.cons_append, List.append_assoc]
    refine .see rfl ((callAfter_takes hagain hproper.2 hroom place _).bind ?_)
    rintro _ ⟨nodes, brackets, extent, rfl, hnodes⟩
    exact .give ⟨rfl, _, rfl, .call hnodes⟩

theorem primary_subscript (hproper : (Phrase.subscript object index).Proper)
    (hroom : fits → (Phrase.subscript object index).height ≤ room + 1) :
    ReadsPrimary fits again place (.subscript object index) := by
  rw [Phrase.Proper] at hproper
  simp only [Phrase.height, Nat.add_le_add_iff_right, Nat.max_le] at hroom
  have hobject := hagain object hproper.1 fun hfits => Nat.le_of_succ_le (hroom hfits).1
  have hindex := hagain index hproper.2 fun hfits => (hroom hfits).2
  have htext : (Phrase.subscript object index).text =
      (Phrase.paren object).text ++ '[' :: (index.text ++ [']']) := by
    simp [Phrase.text]
  refine primary_trailer (by simp) htext (atom_paren hobject ·) fun {node r} hnode => ?_
  rw [trailer?, List.cons_append, List.append_assoc]
  refine .see rfl ((subscriptAfter_takes node (subscriptItem_index hindex)).bind ?_)
  rintro _ ⟨_, extent, rfl, value, rfl, hvalue⟩
  exact .give ⟨rfl, _, rfl, .subscript hnode hvalue⟩

theorem ServesAll.part {part : Option Phrase} (hproper : ProperPart part)
    (hroom : fits → partHeight part ≤ room) : ∀ p ∈ part, Serves fits again p := by
  rintro p ⟨⟩
  rw [ProperPart] at hproper
  rw [partHeight] at hroom
  exact hagain p hproper hroom

theorem primary_slice (hproper : (Phrase.slice object start stop step).Proper)
    (hroom : fits → (Phrase.slice object start stop step).height ≤ room + 1) :
    ReadsPrimary fits again place (.slice object start stop step) := by
  rw [Phrase.Proper] at hproper
  obtain ⟨hobjectProper, hstart, hstop, hstep⟩ := hproper
  simp only [Phrase.height, Nat.add_le_add_iff_right, Nat.max_le] at hroom
  have hobject := hagain object hobjectProper fun hfits => Nat.le_of_succ_le (hroom hfits).1
  have hstart := hagain.part hstart fun hfits => (hroom hfits).2.1
  have hstop := hagain.part hstop fun hfits => (hroom hfits).2.2.1
  have hstep := hagain.part hstep fun hfits => (hroom hfits).2.2.2
  have htext : (Phrase.slice object start stop step).text = (Phrase.paren object).text ++
      '[' :: (partText start ++ ':' :: (partText stop ++ (stepText step ++ [']']))) := by
    simp [Phrase.text]
  refine primary_trailer (by simp) htext (atom_paren hobject ·) fun {node r} hnode => ?_
  have hitem := subscriptItem_slice (r := r) hstart hstop hstep
  simp only [← List.cons_append, ← List.append_assoc] at hitem
  have hafter := subscriptAfter_takes node hitem
  simp only [List.append_assoc, List.cons_append, List.nil_append] at hafter ⊢
  rw [trailer?]
  refine .see rfl (hafter.bind ?_)
  rintro _ ⟨_, extent, rfl, first, second, third, bounds, rfl, hfirst, hsecond, hthird⟩
  exact .give ⟨rfl, _, rfl, .slice hnode hfirst hsecond hthird⟩

theorem primary_method {receiver : Phrase} (hproper : (Phrase.method receiver method arguments).Proper)
    (hroom : fits → (Phrase.method receiver method arguments).height ≤ room + 1) :
    ReadsPrimary fits again place (.method receiver method arguments) := by
  intro r above hr u hpad
  rw [Phrase.Proper] at hproper
  obtain ⟨hreceiverProper, hmethod, harguments⟩ := hproper
  simp only [Phrase.height, Nat.add_le_add_iff_right, Nat.max_le] at hroom
  have hreceiver := hagain receiver hreceiverProper fun hfits => Nat.le_of_succ_le (hroom hfits).1
  have hpad : Pad u ((Phrase.paren receiver).text ++
      '.' :: (method.toList ++ '(' :: (itemsText arguments ++ ')' :: r))) := by
    simpa [Phrase.text] using hpad
  refine (atom_paren hreceiver hpad).bind fun node hnode => .fuel ?_
  obtain ⟨fuel, hfuel⟩ : ∃ fuel, ('.' :: (method.toList ++ '(' :: (itemsText arguments ++ ')' :: r))).length =
      fuel + 2 :=
    Nat.exists_eq_add_of_le' (by simp only [List.length_cons, List.length_append]; omega)
  rw [hfuel]
  -- The name of the method, then its arguments.
  refine trailers_step (P := fun more => ∃ extent, more = .attribute node method extent)
    (s := '(' :: (itemsText arguments ++ ')' :: r)) ?_ ?_
  · rw [trailer?]
    refine .see rfl (.mark "." rfl rfl fun _ =>
      (identifier_takes hmethod.1 .none (endsWord_cons (by decide))).bind ?_)
    rintro ⟨_, extent⟩ rfl
    exact .give ⟨rfl, _, rfl, _, by rw [String.ofList_toList]⟩
  · rintro _ ⟨extent, rfl⟩
    refine trailers_last ?_ hr
    rw [trailer?]
    refine .see rfl ((callAfter_takes hagain harguments (fun hfits => (hroom hfits).2) place _).bind ?_)
    rintro _ ⟨nodes, brackets, extent, rfl, hnodes⟩
    exact .give ⟨rfl, _, rfl, .method hnodes hnode⟩

/-- Every operand without signs and operators is read as it was written. -/
theorem primary_takes (hproper : phrase.Proper) (hroom : fits → phrase.height ≤ room + 1)
    (hlevel : phrase.level = topStrength) : ReadsPrimary fits again place phrase := by
  cases phrase with
  | none => exact primary_word (by decide) rfl fun _ => .none
  | bool value => cases value <;> exact primary_word (by decide) rfl fun _ => .bool
  | int value =>
    rw [Phrase.Proper] at hproper
    refine primary_bare fun hr u hpad => ?_
    rw [Phrase.text] at hpad
    exact atom_int hproper hpad hr.endsNumeral
  | str value =>
    refine primary_bare fun hr u hpad => ?_
    rw [Phrase.text] at hpad
    exact atom_str value hpad hr
  | name id =>
    rw [Phrase.Proper] at hproper
    refine primary_word hproper.1 (by rw [Phrase.text]) fun extent => ?_
    rw [String.ofList_toList, wordNode_name hproper]
    exact .name
  | paren inner =>
    rw [Phrase.Proper] at hproper
    simp only [Phrase.height, Nat.add_le_add_iff_right] at hroom
    exact primary_bare fun _ => atom_paren (hagain inner hproper hroom)
  | call function arguments => exact primary_call hagain hproper hroom
  | method receiver method arguments => exact primary_method hagain hproper hroom
  | subscript object index => exact primary_subscript hagain hproper hroom
  | slice object start stop step => exact primary_slice hagain hproper hroom
  | list elements =>
    rw [Phrase.Proper] at hproper
    simp only [Phrase.height, Nat.add_le_add_iff_right] at hroom
    exact primary_bare fun _ => atom_phrase (.inr (.inl ⟨rfl, rfl⟩)) ⟨_, by rw [Phrase.text]⟩
      (bracketed_takes hagain hproper hroom)
  | dict entries =>
    rw [Phrase.Proper] at hproper
    simp only [Phrase.height, Nat.add_le_add_iff_right] at hroom
    exact primary_bare fun _ => atom_phrase (.inr (.inr ⟨rfl, rfl⟩)) ⟨_, by rw [Phrase.text]⟩
      (braced_takes hagain hproper hroom)
  | comprehension body target source clauses =>
    exact primary_bare fun _ => atom_phrase (.inr (.inl ⟨rfl, rfl⟩)) ⟨_, by rw [Phrase.text]⟩
      (comprehension_takes hagain hproper hroom)
  | unary op operand | compare first rest | not operand | conditional yes condition no =>
    simp at hlevel
  | binary op _ _ | logic op _ _ => cases op <;> simp at hlevel

end

/-! ## Signs -/

/-- What an operand without signs and operators begins with. -/
theorem Phrase.head_of_top (hproper : phrase.Proper) (hlevel : phrase.level = topStrength)
    (r : List Char) : ∃ x xs, phrase.text ++ r = x :: xs ∧ isSolid x ∧ x ∉ ['-', '+', '~', '*'] := by
  have hword {s t : List Char} (hs : IsWord s) :
      ∃ x xs, s ++ t = x :: xs ∧ isSolid x ∧ x ∉ ['-', '+', '~', '*'] := by
    obtain ⟨x, xs, rfl, hx, -⟩ := hs.cons
    refine ⟨x, xs ++ t, rfl, isSolid_of_isIdentifierStart hx, fun hmem => ?_⟩
    fin_cases hmem <;> exact absurd hx (by decide)
  cases phrase with
  | none => exact hword (by decide)
  | bool value => cases value <;> exact hword (by decide)
  | int value =>
    obtain ⟨x, xs, hdigits, hx⟩ := toDigits_cons value
    refine ⟨x, xs ++ r, by rw [text, hdigits]; rfl, isSolid_of_isDigit hx, fun hmem => ?_⟩
    fin_cases hmem <;> exact absurd hx (by decide)
  | str value =>
    obtain ⟨x, xs, hquoted, hx⟩ := quoted_cons value
    refine ⟨x, xs ++ r, by rw [text, hquoted]; rfl, ?_⟩
    rcases hx with rfl | rfl <;> decide
  | name id =>
    rw [Proper] at hproper
    exact hword hproper.1
  | call function arguments =>
    rw [Proper] at hproper
    rw [text, List.append_assoc]
    exact hword hproper.1.1
  | paren _ | method _ _ _ | subscript _ _ | slice _ _ _ _ =>
    exact ⟨'(', _, rfl, by decide⟩
  | list _ | comprehension _ _ _ _ =>
    exact ⟨'[', _, rfl, by decide⟩
  | dict _ =>
    exact ⟨'{', _, rfl, by decide⟩
  | unary op operand | compare first rest | not operand | conditional yes condition no =>
    simp at hlevel
  | binary op _ _ | logic op _ _ => cases op <;> simp at hlevel

/-- Without a sign, the operand is read at once. -/
theorem signed_primary (hproper : phrase.Proper) (hlevel : phrase.level = topStrength)
    (hpad : Pad u (phrase.text ++ r)) (hr : EndsWord r)
    (hprimary : Parses False fits (primary again place) (phrase.text ++ r) P) :
    Parses False fits (signed again place) u P := by
  obtain ⟨x, xs, hcons, hsolid, hx⟩ := phrase.head_of_top hproper hlevel r
  have hawait : beginsWord "await" (phrase.text ++ r) = false :=
    Phrase.beginsWord_text hproper hr (by decide) (by decide)
  rw [hcons] at hpad hprimary hawait
  have hawaits : Shows (awaits place) (x :: xs) false := by
    intro c hc
    rw [awaits, get_bind, bind_ok (look_solid true .none (.cons hsolid xs) hc), hawait]
    rfl
  refine .here hpad (.cons hsolid xs) fun _ => .get fun c hc => ?_
  rw [hc.1]
  dsimp only
  split
  iterate 4 next heq => exact absurd (by rw [(List.cons.inj heq).1]; decide) hx
  · exact .peek hawaits hprimary

theorem signed_unary {op : UnaryOp} {operand : Phrase} (hserve : Serves fits again operand)
    (hproper : (Phrase.unary op operand).Proper) (hr : Follows signStrength r) :
    TakesPhrase fits (signed again place) (.unary op operand) r := by
  intro u hpad
  rw [Phrase.Proper] at hproper
  have hreads : TakesPhrase fits (again (.operand signStrength) place) operand r := by
    refine hserve.operand ?_ ?_ hr (hr.mono ?_)
    · simp only [signStrength, compareStrength] at *
      omega
    · simp only [signStrength, topStrength] at *
      omega
    · unfold Phrase.operandHold
      split
      · exact Int.le_refl _
      · exact hproper.1
  obtain ⟨x, hx, hsolid⟩ : ∃ x, op.symbol.toList = [x] ∧ isSolid x := by
    cases op <;> exact ⟨_, rfl, rfl⟩
  rw [Phrase.text, hx] at hpad
  refine .here hpad (.cons hsolid _) fun start => .get fun c hc => ?_
  have hsign : Takes fits (do
      let _ ← take 1
      let operand ← again (.operand signStrength) place
      return .unary op operand ⟨start, operand.extent.stop⟩) (x :: (operand.text ++ r)) r
      (Lowers · (.unary op operand)) :=
    .take [x] fun _ => (hreads .none).bind fun node hnode => .give ⟨rfl, hnode.unary⟩
  rw [hc.1]
  cases op <;>
  · cases hx
    exact hsign

/-! ## Binary operators -/

theorem Phrase.strength_le_operandHold (hop : op ≠ .pow) (h : (strength op : Int) ≤ phrase.level) :
    strength op ≤ phrase.operandHold := by
  unfold operandHold
  split
  · cases op <;> simp_all [strength, signStrength]
  · exact h

theorem Phrase.operandHold_binary (op : BinaryOp) (left right : Phrase) :
    (Phrase.binary op left right).operandHold =
      (if op = .pow then signStrength else strength op : Nat) := by
  cases op <;> simp [operandHold, level, strength]

theorem BinaryFits.left {op : BinaryOp} {left right : Phrase} (h : BinaryFits op left right) :
    strength op ≤ left.level ∧ strength op ≤ left.operandHold := by
  unfold BinaryFits at h
  split at h
  · next hpow =>
    subst hpow
    have hlevel : left.level = topStrength := Int.le_antisymm left.level_bounds.2 h.1
    rw [Phrase.operandHold, hlevel]
    decide
  · next hpow => exact ⟨h.1, Phrase.strength_le_operandHold hpow h.1⟩

theorem BinaryFits.right {op : BinaryOp} {left right : Phrase} (h : BinaryFits op left right) :
    if op = .pow then signStrength ≤ right.level else strength op < right.level := by
  unfold BinaryFits at h
  split at h
  · next hpow =>
    rw [if_pos hpow]
    exact h.2
  · next hpow =>
    rw [if_neg hpow]
    exact h.2

theorem binaryAfter_stops {above fuel : Nat} (hr : Follows above r) (node : Node) :
    Takes fits (binaryAfter again above place (fuel + 1) node) r r (· = node) := by
  refine .peek (hr.look _) ?_
  split
  · next op hop =>
    have := hr.stops.binary op hop
    rw [if_neg (by omega)]
    exact .give ⟨rfl, rfl⟩
  · exact .give ⟨rfl, rfl⟩

/-- An operator that binds tighter than `above` is taken with its right operand. -/
theorem binaryAfter_takes (hserve : Serves fits again right) (habove : above < strength op)
    (hfits : if op = .pow then signStrength ≤ right.level else strength op < right.level)
    (hr : Follows (if op = .pow then signStrength else strength op : Nat) r)
    (hgo : ∀ node, Lowers node right → ∀ extent,
      Parses False fits (binaryAfter again above place fuel (.binary op left node extent)) r Q) :
    Parses False fits (binaryAfter again above place (fuel + 1) left)
      (' ' :: (op.symbol.toList ++ ' ' :: (right.text ++ r))) Q := by
  have hsolid (s : List Char) : Solid (op.symbol.toList ++ s) := by cases op <;> exact .cons rfl _
  have hop : binaryAt? (op.symbol.toList ++ ' ' :: (right.text ++ r)) = some op := by
    cases op <;> rfl
  have hreads : TakesPhrase fits
      (again (.operand (if op == .pow then signStrength else strength op)) place) right r := by
    have hbounds := strength_bounds op
    by_cases hpow : op = .pow
    · rw [if_pos hpow] at hfits hr
      rw [hpow, beq_self_eq_true, if_pos rfl]
      refine hserve.operand ?_ ?_ hr (hr.mono ?_)
      · simp only [signStrength, compareStrength] at *
        omega
      · simp only [signStrength, topStrength] at *
        omega
      · unfold Phrase.operandHold
        split
        · exact Int.le_refl _
        · exact hfits
    · have hpow' : (op == .pow) = false := beq_eq_false_iff_ne.mpr hpow
      rw [if_neg hpow] at hfits hr
      rw [hpow', if_neg Bool.false_ne_true]
      refine hserve.operand ?_ (.inr (.inr hfits)) hr
        (hr.mono (Phrase.strength_le_operandHold hpow (Int.le_of_lt hfits)))
      simp only [compareStrength]
      omega
  refine .peek (look_solid _ .blank (hsolid _)) ?_
  rw [hop]
  dsimp only
  rw [if_pos habove]
  refine .symbol op.symbol .blank (List.append_nil op.symbol.toList ▸ hsolid []) fun _ => ?_
  exact (hreads .blank).bind fun node hnode => hgo node hnode _

/-- An operand before any binary operator. -/
theorem signed_takes (hagain : ServesAll fits again room) (hproper : phrase.Proper)
    (hroom : fits → phrase.height ≤ room + 1) (hlevel : compareStrength < phrase.level)
    (hbinary : ∀ op left right, phrase ≠ .binary op left right)
    (hr : Follows phrase.operandHold r) : TakesPhrase fits (signed again place) phrase r := by
  by_cases htop : phrase.level = topStrength
  · exact fun u hpad => signed_primary hproper htop hpad hr.endsWord
      (primary_takes hagain hproper hroom htop hr .none)
  · cases phrase with
    | unary op operand =>
      have hoperand := hproper
      rw [Phrase.Proper] at hoperand
      rw [Phrase.height] at hroom
      have hserve := hagain operand hoperand.2 fun hfits => Nat.le_of_succ_le_succ (hroom hfits)
      exact signed_unary hserve hproper hr
    | binary op left right => exact absurd rfl (hbinary op left right)
    | logic op left right => cases op <;> simp at hlevel
    | _ => simp at hlevel htop

/-- Operands are read from the left, by induction on the left operand of the outermost operator.  What
has been read is the left operand of what follows, so that more of the loop may come. -/
theorem operand_spine {above : Nat} (hagain : ServesAll fits again room) (phrase : Phrase)
    {u r : List Char} (hproper : phrase.Proper) (hroom : fits → phrase.height ≤ room + 1)
    (hlevel : compareStrength < phrase.level)
    (habove : phrase.level = signStrength ∨ phrase.level = topStrength ∨ above < phrase.level)
    (hr : Follows phrase.operandHold r) (hpad : Pad u (phrase.text ++ r))
    (hgo : ∀ node, Lowers node phrase → ∀ fuel, r.length ≤ fuel →
      Parses False fits (binaryAfter again above place (fuel + 1) node) r Q) :
    Parses False fits (operand again above place) u Q := by
  cases phrase with
  | binary op left right =>
    rw [Phrase.Proper] at hproper
    obtain ⟨hfits, hleft, hright⟩ := hproper
    simp only [Phrase.height, Nat.add_le_add_iff_right, Nat.max_le] at hroom
    have hserve := hagain right hright fun hfits => (hroom hfits).2
    have hbounds := strength_bounds op
    have hstronger : above < strength op := by
      simp only [Phrase.level, signStrength, topStrength] at habove
      rcases habove with h | h | h
      · cases op <;> cases h
      · omega
      · exact Int.ofNat_lt.mp h
    obtain ⟨hleftLevel, hleftHold⟩ := hfits.left
    simp only [Phrase.text, List.append_assoc, List.cons_append] at hpad
    rw [Phrase.operandHold_binary] at hr
    refine operand_spine hagain left hleft (fun hfits => Nat.le_succ_of_le (hroom hfits).1) ?_
      (.inr (.inr ?_)) (.binary op hleftHold _) hpad fun node hnode fuel hfuel => ?_
    · simp only [compareStrength]
      omega
    · omega
    · simp only [List.length_cons, List.length_append] at hfuel
      obtain ⟨fuel, rfl⟩ := Nat.exists_eq_add_one.mpr (Nat.zero_lt_of_lt hfuel)
      refine binaryAfter_takes hserve hstronger hfits.right hr fun node' hnode' extent => ?_
      exact hgo _ (hnode.binary hnode') fuel (by omega)
  | _ =>
    exact (signed_takes hagain hproper hroom hlevel (by simp) hr hpad).bind fun node hnode =>
      .fuel (hgo node hnode _ (Nat.le_refl _))

/-- Every operand of a comparison or of an operator is read as it was written. -/
theorem operand_takes {above : Nat} (hagain : ServesAll fits again room) (hproper : phrase.Proper)
    (hroom : fits → phrase.height ≤ room + 1) (hlevel : compareStrength < phrase.level)
    (habove : phrase.level = signStrength ∨ phrase.level = topStrength ∨ above < phrase.level)
    (hr : Follows above r) (hhold : Follows phrase.operandHold r) :
    TakesPhrase fits (operand again above place) phrase r := by
  intro u hpad
  refine operand_spine hagain phrase hproper hroom hlevel habove hhold hpad
    fun node hnode fuel _ => (binaryAfter_stops hr node).imp ?_
  rintro _ rfl
  exact hnode

/-- A name is read as a name. -/
theorem operand_name {id : String} (hid : IsName id) (hpad : Pad u (id.toList ++ r))
    (hr : Follows topStrength r) :
    Takes fits (operand again topStrength place) u r fun node => ∃ extent, node = .name id extent := by
  have hname : (Phrase.name id).text = id.toList := by rw [Phrase.text]
  have hprimary : Takes fits (primary again place) (id.toList ++ r) r
      fun node => ∃ extent, node = .name id extent := by
    refine (atom_word hid.1 .none hr.endsWord hr.endsLiteral).bind ?_
    rintro _ ⟨extent, rfl⟩
    rw [String.ofList_toList, wordNode_name hid]
    refine .fuel ((trailers_stops hr _).imp ?_)
    rintro _ rfl
    exact ⟨extent, rfl⟩
  rw [← hname] at hpad hprimary
  refine Takes.bind (signed_primary (by rwa [Phrase.Proper]) rfl hpad hr.endsWord hprimary) ?_
  rintro _ ⟨extent, rfl⟩
  refine .fuel ((binaryAfter_stops hr _).imp ?_)
  rintro _ rfl
  exact ⟨extent, rfl⟩

end Walkthrough.Written
