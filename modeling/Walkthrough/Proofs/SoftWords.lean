import Walkthrough.Proofs.WholeText

/-!
# Words that also begin statements

The words `type` and `match` begin statements of their own, and are names everywhere else.  A phrase
that begins with such a word is tried as that statement too, from behind the word.  What stands there is
nothing, or parentheses with nothing behind them, and neither statement goes on from there.
-/

namespace Walkthrough.Written

open Syntax
open Text

/-! ## Parentheses behind the word -/

section

variable (hagain : ServesAll fits again room) (hproper : ProperItems phrases)
  (hroom : fits → itemsHeight phrases ≤ room)
include hagain hproper hroom

/-- Parentheses are the last operand of a text. -/
theorem signed_parentheses :
    Takes fits (signed again place) ('(' :: (itemsText phrases ++ [')'])) [] fun _ => True := by
  have hdone : Follows topStrength [] := .done
  have hawaits : Shows (awaits place) ('(' :: (itemsText phrases ++ [')'])) false := by
    intro c hc
    rw [awaits, get_bind, bind_ok (look_solid true .none (.cons rfl _) hc)]
    rfl
  refine .here .none (.cons rfl _) fun _ => .get fun c hc => ?_
  rw [hc.1]
  refine .peek hawaits (Takes.bind (atom_bracket (.inl ⟨rfl, rfl⟩) .none
    (parenthesized_items hagain hproper hroom place)) fun node _ => .fuel ?_)
  exact (trailers_stops hdone node).imp fun _ _ => trivial

theorem comparisonChain_parentheses :
    Takes fits (comparisonChain again place) ('(' :: (itemsText phrases ++ [')'])) [] fun _ => True := by
  refine Takes.bind (s := []) (R := fun _ => True) ?_ fun node _ => .fuel ?_
  · refine (signed_parentheses hagain hproper hroom).bind fun node _ => .fuel ?_
    exact (binaryAfter_stops .done node).imp fun _ _ => trivial
  · refine Takes.bind (s := []) (R := (· = [])) ((comparison?_stops .done).bind ?_) ?_
    · rintro _ rfl
      exact .give ⟨rfl, rfl⟩
    · rintro _ rfl
      exact .give ⟨rfl, trivial⟩

/-- Parentheses are the last expression of a text. -/
theorem expression_parentheses :
    Takes fits (expression again above place) ('(' :: (itemsText phrases ++ [')'])) []
      fun _ => True := by
  have hatom : Fails fits wordAtom ('(' :: (itemsText phrases ++ [')'])) :=
    Fails.bind (identifier_fails .none rfl rfl)
  refine Takes.bind (s := []) (R := fun _ => True) ?_ fun node _ =>
    .fuel ((joinedAfter_stops .done node).imp fun _ _ => trivial)
  refine .here .none (.cons rfl _) fun _ => .get fun c hc => ?_
  dsimp only
  rw [hc.1]
  refine .get fun before hbefore => hatom.attempt.bind ?_
  rintro _ rfl
  refine .peek (look_solid _ .none (.cons rfl _)) (.set hbefore ?_)
  exact comparisonChain_parentheses hagain hproper hroom

end

/-- Where no name with type arguments and no star begins, a type is an expression. -/
theorem typeExpression_parentheses
    (hwhole : Takes fits (reader.whole .inside) ('(' :: s) [] fun _ => True) :
    Takes fits (typeExpression reader .inside true (fuel + 1)) ('(' :: s) [] fun _ => True := by
  have hgeneric : Fails fits (genericName .inside) ('(' :: s) :=
    Fails.bind (identifier_fails .none rfl rfl)
  refine hgeneric.attempt.bind ?_
  rintro _ rfl
  refine .peek (look_solid true .none (.cons rfl _)) (hwhole.bind fun _ _ => ?_)
  exact .peek (look_end true) (.give ⟨rfl, trivial⟩)

/-! ## The two statements -/

/-- A first word with something behind it that does not go on. -/
theorem opened_fails (hword : IsWord word.toList) (hends : EndsWord t)
    (hf : t = [] ∨ Solid t ∧ Fails fits f t) :
    Fails fits (do
      let _ ← keyword word
      if ← lineEnd then unexpected
      f) (word.toList ++ t) := by
  refine .keyword word hword .none hends fun _ => ?_
  rcases hf with rfl | ⟨hsolid, hf⟩
  · have hend : Shows lineEnd [] true := by
      intro c hc
      rw [lineEnd, bind_ok (ahead_end false hc)]
      rfl
    exact .peek hend (Fails.bind .unexpected)
  · have hend : Shows lineEnd t false := by
      intro c hc
      rw [lineEnd, bind_ok (ahead_solid false .none hsolid hc)]
      rfl
    exact .peek hend hf

/-- A phrase of one word with nothing or with parentheses behind it is no statement of its own. -/
theorem Sole.of_behind (htext : phrase.text = phrase.lead.toList ++ t) (hends : EndsWord t)
    (ht : t = [] ∨ ∃ s, t = '(' :: s ∧
      Takes fits (reader.whole .inside) ('(' :: s) [] fun _ => True) : Sole fits phrase := by
  constructor
  · intro hlead
    rw [htext, hlead]
    refine opened_fails (by decide) hends (ht.imp_right ?_)
    rintro ⟨s, rfl, hwhole⟩
    exact ⟨.cons rfl s, .fuel ((typeExpression_parentheses hwhole).bind fun _ _ =>
      Fails.bind (symbol_end rfl))⟩
  · intro hlead block indent
    rw [htext, hlead]
    refine opened_fails (by decide) hends (ht.imp_right ?_)
    rintro ⟨s, rfl, hwhole⟩
    have hstops (fuel : Nat) (node : Node) :
        Shows (expressionsAfter reader .inside [] (fuel + 1) [node]) [] ([node], false) := by
      intro c hc
      rw [expressionsAfter, bind_ok (look_end _ hc)]
      rfl
    refine ⟨.cons rfl s, Takes.bind (s := []) (R := fun _ => True) ?_ fun _ _ =>
      Fails.bind (symbol_end rfl)⟩
    exact hwhole.bind fun node _ => .fuel (.peek (hstops _ node) (.give ⟨rfl, trivial⟩))

/-! ## Names and calls -/

/-- A name alone is no statement of its own. -/
theorem Sole.name (id : String) : Sole fits (.name id) :=
  .of_behind (by rw [Phrase.text, Phrase.lead, List.append_nil]) endsWord_nil (.inl rfl)

/-- A call alone is no statement of its own: its arguments are an expression in parentheses, or
several, and nothing is left behind them. -/
theorem Sole.call {id : String} (hproper : (Phrase.call id arguments).Proper)
    (hroom : fits → (Phrase.call id arguments).height ≤ nestingLimit) :
    Sole fits (.call id arguments) := by
  rw [Phrase.Proper] at hproper
  rw [Phrase.height] at hroom
  refine .of_behind (by rw [Phrase.text, Phrase.lead]) (endsWord_cons (by decide)) (.inr ⟨_, rfl, ?_⟩)
  exact expression_parentheses (readNode_serves fits 399).onward hproper.2
    fun hfits => Nat.le_of_succ_le_succ (hroom hfits)

end Walkthrough.Written
