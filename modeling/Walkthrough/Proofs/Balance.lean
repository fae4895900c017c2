import Walkthrough.Proofs.Atoms

/-!
# Brackets of phrases

Every phrase closes the brackets that it opens, and its literals hide theirs.
-/

namespace Walkthrough.Written

open Source
open Text Number
open Syntax (IsWord isIdentifierPart_of_isIdentifierStart)

/-- A stretch of code, with the scan in code again behind it.  It adds `w` to the bracket depth and has
no comment. -/
structure Weighs (s : List Char) (w : Int) : Prop where
  scan_append (r : List Char) : scan .code (s ++ r) = scan .code s ++ scan .code r
  weight_eq : ((scan .code s).map weight).sum = w
  comment : ('#', false) ∉ scan .code s

/-- A stretch of code that closes the brackets that it opens. -/
abbrev Balanced (s : List Char) : Prop :=
  Weighs s 0

section

variable {x quote : Char} {s t : List Char}

theorem Weighs.nil : Balanced [] :=
  ⟨fun _ => rfl, rfl, List.not_mem_nil⟩

theorem Weighs.append (hs : Weighs s v) (ht : Weighs t w) : Weighs (s ++ t) (v + w) where
  scan_append r := by
    rw [List.append_assoc, hs.scan_append, ht.scan_append, hs.scan_append, List.append_assoc]
  weight_eq := by rw [hs.scan_append, List.map_append, List.sum_append, hs.weight_eq, ht.weight_eq]
  comment := by
    rw [hs.scan_append, List.mem_append, not_or]
    exact ⟨hs.comment, ht.comment⟩

theorem Balanced.append (hs : Balanced s) (ht : Balanced t) : Balanced (s ++ t) :=
  Weighs.append hs ht

/-- A character that begins no literal and no comment. -/
def isCode (x : Char) : Bool :=
  !isQuote x && x != '#'

theorem Weighs.code (hx : isCode x) : Weighs [x] (weight (x, false)) := by
  obtain ⟨hquote, hsign⟩ : isQuote x = false ∧ x ≠ '#' := by simpa [isCode] using hx
  have hscan (r : List Char) : scan .code (x :: r) = (x, false) :: scan .code r := by
    simp [scan, Mode.covers, Mode.next, hquote]
  refine ⟨fun r => ?_, ?_, ?_⟩
  · rw [List.singleton_append, hscan, hscan]
    rfl
  · rw [hscan]
    exact Int.add_zero _
  · rw [hscan]
    simpa [scan] using hsign.symm

/-- A character of code that is no bracket. -/
def isFlat (x : Char) : Bool :=
  isCode x && weight (x, false) == 0

theorem Balanced.cons (hx : isFlat x) (hs : Balanced s) : Balanced (x :: s) := by
  obtain ⟨hcode, hweight⟩ := Bool.and_eq_true_iff.mp hx
  have := (Weighs.code hcode).append hs
  rwa [beq_iff_eq.mp hweight] at this

/-- Brackets around balanced code. -/
theorem Balanced.brackets (hopener : isOpener opener) (hcloser : isCloser closer) (hs : Balanced s) :
    Balanced (opener :: (s ++ [closer])) := by
  obtain ⟨hopen, hopening⟩ : isCode opener ∧ weight (opener, false) = 1 := by
    simp only [isOpener, Bool.or_eq_true, beq_iff_eq] at hopener
    rcases hopener with (rfl | rfl) | rfl <;> decide
  obtain ⟨hclose, hclosing⟩ : isCode closer ∧ weight (closer, false) = -1 := by
    simp only [isCloser, Bool.or_eq_true, beq_iff_eq] at hcloser
    rcases hcloser with (rfl | rfl) | rfl <;> decide
  have := (Weighs.code hopen).append (Weighs.append hs (Weighs.code hclose))
  rwa [hopening, hclosing] at this

/-- A stretch without quotes, brackets and comment signs. -/
theorem balanced_plain (hs : ∀ x ∈ s, isFlat x) : Balanced s := by
  induction s with
  | nil => exact .nil
  | cons x s ih =>
    obtain ⟨hx, hs⟩ := List.forall_mem_cons.mp hs
    exact .cons hx (ih hs)

theorem isFlat_of {p : Char → Bool}
    (hp : ['#', '\'', '"', '(', '[', '{', ')', ']', '}'].all (!p ·)) (hx : p x) : isFlat x := by
  have hne : ∀ y ∈ ['#', '\'', '"', '(', '[', '{', ')', ']', '}'], x ≠ y := by
    rintro y hy rfl
    simpa [hx] using List.all_eq_true.mp hp x hy
  simp only [List.forall_mem_cons] at hne
  simp [isFlat, isCode, isQuote, weight, isOpener, isCloser, hne]

/-- Characters of names and numbers. -/
theorem balanced_of_isIdentifierPart (hs : ∀ x ∈ s, isIdentifierPart x) : Balanced s :=
  balanced_plain fun x hx => isFlat_of (by decide) (hs x hx)

theorem balanced_word (hs : IsWord s) : Balanced s := by
  obtain ⟨x, xs, rfl, hx, hxs⟩ := hs.cons
  exact balanced_of_isIdentifierPart
    (List.forall_mem_cons.mpr ⟨isIdentifierPart_of_isIdentifierStart hx, hxs⟩)

/-! ## Literals -/

/-- A stretch of a literal, with the scan in the same literal behind it. -/
def Hides (quote : Char) (s : List Char) : Prop :=
  ∀ r, scan (.literal quote false) (s ++ r) = s.map (·, true) ++ scan (.literal quote false) r

theorem Hides.append (hs : Hides quote s) (ht : Hides quote t) : Hides quote (s ++ t) := fun r => by
  rw [List.append_assoc, hs, ht, List.map_append, List.append_assoc]

/-- Characters that neither end a literal nor escape others. -/
theorem hides_run (hs : ∀ x ∈ s, x ≠ quote ∧ x ≠ '\\') : Hides quote s := by
  intro r
  induction s with
  | nil => rfl
  | cons x s ih =>
    obtain ⟨⟨hquote, hbackslash⟩, hs⟩ := List.forall_mem_cons.mp hs
    have hnext : Mode.next (.literal quote false) x = .literal quote false := by
      simp [Mode.next, hquote, hbackslash]
    rw [List.cons_append, scan, hnext, ih hs]
    rfl

theorem hides_escape (x : Char) : Hides quote ['\\', x] :=
  fun _ => rfl

theorem hides_spells (hquote : isQuote quote) (hs : Spells quote s x) : Hides quote s := by
  cases hs with
  | plain hx =>
    simp only [List.mem_cons, List.not_mem_nil, or_false, not_or] at hx
    exact hides_run (by simp [hx])
  | letter hx => exact hides_escape _
  | code hx hdigits hcode =>
    refine (hides_escape _).append (hides_run fun y hy => ?_)
    obtain ⟨d, hd, -⟩ := hdigits.exists_of_mem y hy
    simp only [isQuote, Bool.or_eq_true, beq_iff_eq] at hquote
    refine ⟨?_, ?_⟩
    · rintro rfl
      rcases hquote with rfl | rfl <;> cases hd
    · rintro rfl
      cases hd

theorem hides_spellsAll (hquote : isQuote quote) (hs : SpellsAll quote s cs) : Hides quote s := by
  induction hs with
  | nil => exact fun _ => rfl
  | cons hs _ ih => exact (hides_spells hquote hs).append ih

/-- A literal hides what is in it. -/
theorem Hides.balanced (hs : Hides quote s) (hquote : isQuote quote) :
    Balanced (quote :: (s ++ [quote])) := by
  have hscan (r : List Char) : scan .code (quote :: (s ++ [quote]) ++ r) =
      (quote :: (s ++ [quote])).map (·, true) ++ scan .code r := by
    have hopen : scan .code (quote :: (s ++ [quote]) ++ r) =
        (quote, true) :: scan (.literal quote false) (s ++ quote :: r) := by
      simp [scan, Mode.covers, Mode.next, hquote]
    have hclose : scan (.literal quote false) (quote :: r) = (quote, true) :: scan .code r := by
      simp only [isQuote, Bool.or_eq_true, beq_iff_eq] at hquote
      rcases hquote with rfl | rfl <;> rfl
    rw [hopen, hs, hclose]
    simp
  have hmarks := hscan []
  rw [List.append_nil, scan, List.append_nil] at hmarks
  refine ⟨fun r => by rw [hscan, hmarks], ?_, ?_⟩
  · simp [hmarks, Function.comp_def, weight]
  · simp [hmarks]

theorem balanced_quoted (value : String) : Balanced (quoted value).toList := by
  have hquote : isQuote (chooseQuote value.toList) := by
    rcases chooseQuote_cases value.toList with h | h <;> rw [h] <;> rfl
  rw [quoted_toList]
  exact (hides_spellsAll hquote (quotedBody_spells (chooseQuote_cases _) value.toList)).balanced hquote

end

/-! ## Phrases -/

/-- Signs that are neither quotes nor brackets. -/
theorem balanced_signs {text : String} (h : text.toList.all isFlat = true) : Balanced text.toList :=
  balanced_plain (List.all_eq_true.mp h)

theorem balanced_op {text : String} (h : text.toList.all isFlat = true) (hs : Balanced s) :
    Balanced (' ' :: (text.toList ++ ' ' :: s)) :=
  .cons rfl ((balanced_signs h).append (.cons rfl hs))

theorem balanced_binaryOp (op : BinaryOp) (hs : Balanced s) :
    Balanced (' ' :: (op.symbol.toList ++ ' ' :: s)) :=
  balanced_op (by cases op <;> decide) hs

theorem balanced_compareOp (hop : op ∈ CompareOp.all) (hs : Balanced s) :
    Balanced (' ' :: (op.symbol.toList ++ ' ' :: s)) := by
  simp only [CompareOp.all, List.mem_cons, List.not_mem_nil, or_false] at hop
  rcases hop with rfl | rfl | rfl | rfl | rfl | rfl | rfl | rfl | rfl | rfl <;>
    exact balanced_op (by decide) hs

/-- A call behind a name. -/
theorem balanced_call {id s : List Char} (hid : IsWord id) (hs : Balanced s) :
    Balanced (id ++ '(' :: (s ++ [')'])) :=
  (balanced_word hid).append (.brackets rfl rfl hs)

mutual

/-- Every phrase closes the brackets that it opens, by induction on it. -/
theorem Phrase.balanced_text : ∀ (phrase : Phrase), phrase.Proper → Balanced phrase.text
  | .none, _ => balanced_word (by decide)
  | .bool true, _ => balanced_word (by decide)
  | .bool false, _ => balanced_word (by decide)
  | .int value, _ => by
    rw [Phrase.text]
    exact balanced_of_isIdentifierPart fun x hx =>
      isIdentifierPart_of_isDigit (Nat.isDigit_of_mem_toDigits (by decide) (by decide) hx)
  | .str value, _ => by
    rw [Phrase.text]
    exact balanced_quoted value
  | .name id, h => by
    rw [Phrase.Proper] at h
    rw [Phrase.text]
    exact balanced_word h.1
  | .paren inner, h => by
    rw [Phrase.Proper] at h
    rw [Phrase.text]
    exact .brackets rfl rfl (inner.balanced_text h)
  | .unary op operand, h => by
    rw [Phrase.Proper] at h
    rw [Phrase.text]
    exact (balanced_signs (by cases op <;> decide)).append (operand.balanced_text h.2)
  | .binary op left right, h => by
    rw [Phrase.Proper] at h
    rw [Phrase.text]
    exact (left.balanced_text h.2.1).append (balanced_binaryOp op (right.balanced_text h.2.2))
  | .compare first rest, h => by
    rw [Phrase.Proper] at h
    rw [Phrase.text]
    exact (first.balanced_text h.2.1).append (balanced_comparands rest h.2.2.2)
  | .not operand, h => by
    rw [Phrase.Proper] at h
    rw [Phrase.text]
    exact (balanced_word (by decide)).append (.cons rfl (operand.balanced_text h.2))
  | .logic op left right, h => by
    rw [Phrase.Proper] at h
    rw [Phrase.text]
    exact (left.balanced_text h.2.1).append
      (balanced_op (by cases op <;> decide) (right.balanced_text h.2.2))
  | .conditional yes condition no, h => by
    rw [Phrase.Proper] at h
    rw [Phrase.text]
    exact (yes.balanced_text h.2.1).append (balanced_op (by decide)
      ((condition.balanced_text h.2.2.1).append (balanced_op (by decide) (no.balanced_text h.2.2.2))))
  | .call function arguments, h => by
    rw [Phrase.Proper] at h
    rw [Phrase.text]
    exact balanced_call h.1.1 (balanced_items arguments h.2)
  | .method receiver name arguments, h => by
    rw [Phrase.Proper] at h
    have htext : (Phrase.method receiver name arguments).text = '(' :: (receiver.text ++ [')']) ++
        '.' :: (name.toList ++ '(' :: (itemsText arguments ++ [')'])) := by
      simp [Phrase.text]
    rw [htext]
    exact Balanced.append (.brackets rfl rfl (receiver.balanced_text h.1))
      (.cons rfl (balanced_call h.2.1.1 (balanced_items arguments h.2.2)))
  | .subscript object index, h => by
    rw [Phrase.Proper] at h
    have htext : (Phrase.subscript object index).text = '(' :: (object.text ++ [')']) ++
        '[' :: (index.text ++ [']']) := by
      simp [Phrase.text]
    rw [htext]
    exact Balanced.append (.brackets rfl rfl (object.balanced_text h.1))
      (.brackets rfl rfl (index.balanced_text h.2))
  | .slice object start stop step, h => by
    rw [Phrase.Proper] at h
    have htext : (Phrase.slice object start stop step).text = '(' :: (object.text ++ [')']) ++
        '[' :: ((partText start ++ ':' :: (partText stop ++ stepText step)) ++ [']']) := by
      simp [Phrase.text]
    rw [htext]
    exact Balanced.append (.brackets rfl rfl (object.balanced_text h.1)) (.brackets rfl rfl
      ((balanced_part start h.2.1).append
        (.cons rfl ((balanced_part stop h.2.2.1).append (balanced_step step h.2.2.2)))))
  | .list elements, h => by
    rw [Phrase.Proper] at h
    rw [Phrase.text]
    exact .brackets rfl rfl (balanced_items elements h)
  | .dict entries, h => by
    rw [Phrase.Proper] at h
    rw [Phrase.text]
    exact .brackets rfl rfl (balanced_entries entries h)
  | .comprehension body target source clauses, h => by
    rw [Phrase.Proper] at h
    have htext : (Phrase.comprehension body target source clauses).text = '[' :: ((body.text ++
        ' ' :: ("for".toList ++ ' ' :: (target.toList ++ ' ' :: ("in".toList ++ ' ' ::
          (source.text ++ clausesText clauses))))) ++ [']']) := by
      simp [Phrase.text]
    rw [htext]
    exact .brackets rfl rfl ((body.balanced_text h.1).append (balanced_op (by decide)
      ((balanced_word h.2.1.1).append (balanced_op (by decide)
        ((source.balanced_text h.2.2.1.2).append (balanced_clauses clauses h.2.2.2))))))

theorem balanced_items : ∀ (phrases : List Phrase), ProperItems phrases → Balanced (itemsText phrases)
  | [], _ => by
    rw [itemsText]
    exact .nil
  | phrase :: rest, h => by
    rw [ProperItems] at h
    rw [itemsText]
    exact (phrase.balanced_text h.1).append (balanced_moreItems rest h.2)

theorem balanced_moreItems : ∀ (phrases : List Phrase), ProperItems phrases →
    Balanced (moreItemsText phrases)
  | [], _ => by
    rw [moreItemsText]
    exact .nil
  | phrase :: rest, h => by
    rw [ProperItems] at h
    rw [moreItemsText]
    exact .cons rfl (.cons rfl ((phrase.balanced_text h.1).append (balanced_moreItems rest h.2)))

theorem balanced_part : ∀ (part : Option Phrase), ProperPart part → Balanced (partText part)
  | none, _ => by
    rw [partText]
    exact .nil
  | some phrase, h => by
    rw [ProperPart] at h
    rw [partText]
    exact phrase.balanced_text h

theorem balanced_step : ∀ (part : Option Phrase), ProperPart part → Balanced (stepText part)
  | none, _ => by
    rw [stepText]
    exact .nil
  | some phrase, h => by
    rw [ProperPart] at h
    rw [stepText]
    exact .cons rfl (phrase.balanced_text h)

theorem balanced_comparands : ∀ (comparands : List Comparand), ProperComparands comparands →
    Balanced (comparandsText comparands)
  | [], _ => by
    rw [comparandsText]
    exact .nil
  | .mk op operand :: rest, h => by
    rw [ProperComparands] at h
    rw [comparandsText]
    exact balanced_compareOp h.1 ((operand.balanced_text h.2.1.2).append (balanced_comparands rest h.2.2))

theorem balanced_entries : ∀ (entries : List Entry), ProperEntries entries →
    Balanced (entriesText entries)
  | [], _ => by
    rw [entriesText]
    exact .nil
  | .mk key value :: rest, h => by
    rw [ProperEntries] at h
    rw [entriesText]
    exact (key.balanced_text h.1).append (.cons rfl (.cons rfl
      ((value.balanced_text h.2.1).append (balanced_moreEntries rest h.2.2))))

theorem balanced_moreEntries : ∀ (entries : List Entry), ProperEntries entries →
    Balanced (moreEntriesText entries)
  | [], _ => by
    rw [moreEntriesText]
    exact .nil
  | .mk key value :: rest, h => by
    rw [ProperEntries] at h
    rw [moreEntriesText]
    exact .cons rfl (.cons rfl ((key.balanced_text h.1).append (.cons rfl (.cons rfl
      ((value.balanced_text h.2.1).append (balanced_moreEntries rest h.2.2))))))

theorem balanced_clauses : ∀ (clauses : List Clause), ProperClauses clauses →
    Balanced (clausesText clauses)
  | [], _ => by
    rw [clausesText]
    exact .nil
  | .forIn target source :: rest, h => by
    rw [ProperClauses] at h
    rw [clausesText]
    exact balanced_op (by decide) ((balanced_word h.1.1).append (balanced_op (by decide)
      ((source.balanced_text h.2.1.2).append (balanced_clauses rest h.2.2))))
  | .filter condition :: rest, h => by
    rw [ProperClauses] at h
    rw [clausesText]
    exact balanced_op (by decide)
      ((condition.balanced_text h.1.2).append (balanced_clauses rest h.2))

end

theorem balance_phrase {phrase : Phrase} (hproper : phrase.Proper) :
    balance (String.ofList phrase.text) = 0 := by
  have h := (phrase.balanced_text hproper).weight_eq
  rw [List.sum_eq_foldl, List.foldl_map] at h
  rw [balance, String.toList_ofList]
  exact h

end Walkthrough.Written
