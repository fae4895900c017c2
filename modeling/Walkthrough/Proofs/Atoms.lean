import Walkthrough.Proofs.Lowering

/-!
# Reading names, numbers and literals

The operands that hold no others are read as they were written, wherever they stand.

* `atom_word`, `atom_int`, `atom_str`: words, numerals and string literals.
* `literal_passes`: a literal ends at its closing quote, and nowhere before.
-/

namespace Walkthrough.Written

open Syntax

variable {x : Char}
open Text Number

/-! ## Words -/

/-- What a word stands for: one of the three named constants, or a name. -/
def wordNode (word : String) (extent : Extent) : Node :=
  match word with
  | "True" => .truth true extent
  | "False" => .truth false extent
  | "None" => .none extent
  | _ => .name word extent

theorem wordNode_name {id : String} (hid : IsName id) (extent : Extent) :
    wordNode id extent = .name id extent := by
  have hne {word : String} (hword : word ∈ reservedWords) : id ≠ word := by
    rintro rfl
    exact hid.2 hword
  unfold wordNode
  split
  · exact absurd rfl (hne (by decide))
  · exact absurd rfl (hne (by decide))
  · exact absurd rfl (hne (by decide))
  · rfl

theorem wordAtom_takes (hs : IsWord s) (hpad : Pad u (s ++ r)) (hr : EndsWord r) :
    Takes fits wordAtom u r fun node =>
      ∃ extent, node = wordNode (String.ofList s) extent := by
  refine (identifier_takes hs hpad hr).bind ?_
  rintro ⟨_, extent⟩ rfl
  generalize String.ofList s = word
  dsimp only
  split <;> exact .give ⟨rfl, extent, by simp_all [wordNode]⟩

theorem not_isIdentifierPart_of_isLiteralQuote (hx : isLiteralQuote x) :
    isIdentifierPart x = false := by
  simp only [isLiteralQuote, Bool.or_eq_true, beq_iff_eq] at hx
  rcases hx with (rfl | rfl) | rfl <;> decide

/-- Flags are letters. -/
theorem isIdentifierPart_of_isFlag (hx : isFlag x) : isIdentifierPart x := by
  simp only [isFlag, List.contains_eq_mem, List.mem_cons, List.not_mem_nil, or_false,
    decide_eq_true_eq] at hx
  rcases hx with rfl | rfl | rfl | rfl | rfl | rfl | rfl | rfl <;> decide

/-- No literal begins with a word, unless a quote stands behind it. -/
theorem opensLiteral_append (hs : ∀ x ∈ s, isIdentifierPart x) (hr : EndsWord r)
    (hquote : ∀ y ∈ r.head?, isLiteralQuote y = false) : opensLiteral (s ++ r) = false := by
  unfold opensLiteral
  induction s with
  | nil =>
    cases r with
    | nil => rfl
    | cons y r =>
      have hflag : isFlag y = false := by
        rw [Bool.eq_false_iff]
        intro h
        have := isIdentifierPart_of_isFlag h
        simp [hr y rfl] at this
      simp [hflag, hquote y rfl]
  | cons x s ih =>
    rw [List.cons_append]
    by_cases hx : isFlag x
    · rw [List.dropWhile_cons_of_pos hx]
      exact ih fun y hy => hs y (List.mem_cons_of_mem _ hy)
    · rw [List.dropWhile_cons_of_neg hx, Bool.eq_false_iff]
      intro h
      have := not_isIdentifierPart_of_isLiteralQuote h
      simp [hs x List.mem_cons_self] at this

/-- No number begins with a character that is neither a digit nor a point. -/
theorem numeral?_eq_none (hdigit : x.isDigit = false) (hpoint : x ≠ '.') :
    numeral? (x :: xs) = none := by
  have hzero : x ≠ '0' := by
    rintro rfl
    exact absurd hdigit (by decide)
  have hrun : digitRun false (x :: xs) = 0 := by simp [digitRun, hdigit]
  have hbased : basedLength (x :: xs) = 0 := by
    unfold basedLength
    split
    · next heq => exact absurd (List.cons.inj heq).1 hzero
    · rfl
  have hdecimal : decimalLength (x :: xs) = 0 := by simp [decimalLength, hrun]
  have hfloat : floatLength (x :: xs) = 0 := by
    simp [floatLength, hrun, hpoint]
  rw [numeral?, hbased, hdecimal, hfloat]
  rfl

theorem isDigit_eq_false_of_isIdentifierStart (hx : isIdentifierStart x) :
    x.isDigit = false := by
  rw [Bool.eq_false_iff]
  intro h
  simp [isIdentifierStart_eq_false_of_isDigit h] at hx

/-- A word that no quote follows is read as what it stands for. -/
theorem atom_word (hs : IsWord s) (hpad : Pad u (s ++ r)) (hr : EndsWord r)
    (hquote : ∀ y ∈ r.head?, isLiteralQuote y = false) :
    Takes fits (atom again place) u r fun node =>
      ∃ extent, node = wordNode (String.ofList s) extent := by
  have hword : Takes fits wordAtom (s ++ r) r _ := wordAtom_takes hs .none hr
  refine .skip hpad (hs.solid r) (.get fun c hc => ?_)
  obtain ⟨x, xs, rfl, hx, hxs⟩ := hs.cons
  have hparts : ∀ y ∈ x :: xs, isIdentifierPart y :=
    List.forall_mem_cons.mpr ⟨isIdentifierPart_of_isIdentifierStart hx, hxs⟩
  have hne {y : Char} (hy : isIdentifierStart y = false) : x ≠ y := by
    rintro rfl
    simp [hy] at hx
  have hnumeral : numeral? (x :: xs ++ r) = none :=
    numeral?_eq_none (isDigit_eq_false_of_isIdentifierStart hx) (hne (by decide))
  dsimp only
  rw [hc.1, opensLiteral_append hparts hr hquote, if_neg Bool.false_ne_true, hnumeral]
  dsimp only
  split
  iterate 4 next heq => exact absurd (List.cons.inj heq).1 (hne (by decide))
  · exact hword

/-! ## Numerals -/

/-- No number goes on with what follows. -/
def EndsNumeral (r : List Char) : Prop :=
  ∀ y ∈ r.head?, isIdentifierPart y = false ∧ y ≠ '.'

theorem isIdentifierPart_of_isDigit (hx : x.isDigit) : isIdentifierPart x := by
  have hcode := toNat_of_isDigit hx
  rw [isIdentifierPart, if_pos (by omega), Char.isAlphanum, hx, Bool.or_true, Bool.true_or]

theorem digitRun_append (hs : ∀ x ∈ s, x.isDigit) (hr : EndsNumeral r) (after : Bool) :
    digitRun after (s ++ r) = s.length := by
  induction s generalizing after with
  | nil =>
    cases r with
    | nil => rfl
    | cons y r =>
      have hy := (hr y rfl).1
      have hdigit : y.isDigit = false := by
        rw [Bool.eq_false_iff]
        intro h
        simp [isIdentifierPart_of_isDigit h] at hy
      have hunderscore : (y == '_') = false := by
        rw [beq_eq_false_iff_ne]
        rintro rfl
        exact absurd hy (by decide)
      simp [digitRun, hdigit, hunderscore]
  | cons x s ih =>
    have hx := hs x List.mem_cons_self
    rw [List.cons_append, digitRun, if_pos hx, ih fun y hy => hs y (List.mem_cons_of_mem _ hy)]
    rw [List.length_cons, Nat.add_comm]

theorem suffixLength_eq_zero (hr : EndsNumeral r) (hletters : ∀ x ∈ letters, isIdentifierPart x) :
    suffixLength letters r = 0 := by
  cases r with
  | nil => rfl
  | cons y r =>
    have hy : y ∉ letters := by
      intro hmem
      have := hletters y hmem
      simp [(hr y rfl).1] at this
    simp [suffixLength, hy]

theorem basedLength_eq_zero (hs : ∀ x ∈ s, x.isDigit) (hr : EndsNumeral r) :
    basedLength (s ++ r) = 0 := by
  unfold basedLength
  split
  · next letter digits heq =>
    -- The second character is one more digit, or it belongs to no number.
    have hletter {y : Char} (hpart : isIdentifierPart y) (hdigit : y.isDigit = false) :
        (letter == y) = false := by
      rw [beq_eq_false_iff_ne]
      rintro rfl
      match s, heq, hs with
      | [], heq, _ =>
        subst heq
        exact absurd (hr _ rfl).1 (by decide)
      | [_], heq, _ =>
        cases heq
        simp [(hr _ rfl).1] at hpart
      | _ :: _ :: _, heq, hs =>
        cases heq
        simp [hs letter (by simp)] at hdigit
    have hx := hletter (y := 'x') (by decide) (by decide)
    have hX := hletter (y := 'X') (by decide) (by decide)
    have ho := hletter (y := 'o') (by decide) (by decide)
    have hO := hletter (y := 'O') (by decide) (by decide)
    have hb := hletter (y := 'b') (by decide) (by decide)
    have hB := hletter (y := 'B') (by decide) (by decide)
    simp [hx, hX, ho, hO, hb, hB]
  · rfl

theorem numeral?_digits (hs : ∀ x ∈ s, x.isDigit) (hne : s ≠ []) (hr : EndsNumeral r) :
    numeral? (s ++ r) = some (.integer s.length) := by
  have hrun := digitRun_append hs hr false
  have hsuffixes : ∀ x ∈ ['L', 'l', 'j', 'J'], isIdentifierPart x :=
    List.all_eq_true.mp (by decide)
  have hdecimal : decimalLength (s ++ r) = s.length := by
    simp [decimalLength, hrun, hne, suffixLength_eq_zero hr hsuffixes]
  have hexponent : exponentLength r = 0 := by
    cases r with
    | nil => rfl
    | cons y r =>
      have hy : y ≠ 'e' ∧ y ≠ 'E' := by
        constructor <;>
        · rintro rfl
          exact absurd (hr _ rfl).1 (by decide)
      simp [exponentLength, hy]
  have hfloat : floatLength (s ++ r) = 0 := by
    have hpoint : ∀ rest, r ≠ '.' :: rest := by
      rintro rest rfl
      exact absurd rfl (hr _ rfl).2
    simp [floatLength, hrun, hexponent]
  rw [numeral?, basedLength_eq_zero hs hr, hdecimal, hfloat]
  simp [List.length_pos_iff.mpr hne]

theorem opensLiteral_digit (hx : x.isDigit) : opensLiteral (x :: xs) = false := by
  have hflag : isFlag x = false := by
    rw [Bool.eq_false_iff]
    intro h
    simp only [isFlag, List.contains_eq_mem, List.mem_cons, List.not_mem_nil, or_false,
      decide_eq_true_eq] at h
    rcases h with rfl | rfl | rfl | rfl | rfl | rfl | rfl | rfl <;> exact absurd hx (by decide)
  have hquote : isLiteralQuote x = false := by
    rw [Bool.eq_false_iff]
    intro h
    have := not_isIdentifierPart_of_isLiteralQuote h
    simp [isIdentifierPart_of_isDigit hx] at this
  simp [opensLiteral, hflag, hquote]

/-- Digits do not end in a letter. -/
theorem endsWith_digits (hs : ∀ x ∈ s, x.isDigit) (letter : String)
    (hletter : ∃ x ∈ letter.toList, x.isDigit = false) : (String.ofList s).endsWith letter = false := by
  obtain ⟨x, hx, hdigit⟩ := hletter
  rw [String.endsWith_eq_endsWith_toSlice, String.Slice.endsWith_string_eq_false_iff]
  intro hsuffix
  have hmem : x ∈ s := by simpa using hsuffix.subset hx
  simp [hs x hmem] at hdigit

theorem atom_int (hn : n < unwritable) (hpad : Pad u (Nat.toDigits 10 n ++ r)) (hr : EndsNumeral r) :
    Takes fits (atom again place) u r (Lowers · (.int n)) := by
  have hdigits : ∀ x ∈ Nat.toDigits 10 n, x.isDigit := fun x hx =>
    Nat.isDigit_of_mem_toDigits (by decide) (by decide) hx
  have hread := readInteger_toDigits hn
  obtain ⟨x, xs, hcons, hx⟩ := toDigits_cons n
  rw [hcons] at hdigits hread hpad
  refine .skip hpad (.cons (isSolid_of_isDigit hx) _) (.get fun c hc => ?_)
  dsimp only
  rw [hc.1, numeral?_digits hdigits (List.cons_ne_nil x xs) hr,
    show opensLiteral (x :: xs ++ r) = false from opensLiteral_digit hx]
  refine .take (x :: xs) fun extent => .give ⟨rfl, ?_⟩
  rw [List.take_left]
  refine .int (by rw [String.toList_ofList]; exact hread) ?_
  rw [endsWith_digits hdigits "j" ⟨'j', by decide, rfl⟩,
    endsWith_digits hdigits "J" ⟨'J', by decide, rfl⟩]
  rfl

/-! ## String literals -/

/-- A literal between single quotes, without flags. -/
def plainQuotation (quote : Char) : Quotation :=
  ⟨quote, false, false, false, false⟩

section

variable {quote : Char}

theorem isHexDigit_of_digitValue? (hx : digitValue? x = some d) (hd : d < 16) : isHexDigit x := by
  have hle {y z : Char} : y ≤ z ↔ y.toNat ≤ z.toNat := UInt32.le_iff_toNat_le
  simp only [digitValue?, Bool.and_eq_true, decide_eq_true_eq, hle] at hx
  simp only [isHexDigit, Char.isDigit, Bool.or_eq_true, Bool.and_eq_true, decide_eq_true_eq, hle]
  change ((48 ≤ x.toNat ∧ x.toNat ≤ 57) ∨ (97 ≤ x.toNat ∧ x.toNat ≤ 102)) ∨
    (65 ≤ x.toNat ∧ x.toNat ≤ 70)
  change (if 48 ≤ x.toNat ∧ x.toNat ≤ 57 then some (x.toNat - 48)
    else if 97 ≤ x.toNat ∧ x.toNat ≤ 122 then some (x.toNat - 97 + 10)
    else if 65 ≤ x.toNat ∧ x.toNat ≤ 90 then some (x.toNat - 65 + 10) else none) = some d at hx
  split at hx
  · omega
  · split at hx
    · cases hx
      omega
    · split at hx
      · cases hx
        omega
      · cases hx

/-- The length of an escape that stands for a character. -/
theorem escapeLength_spells (hs : Spells quote ('\\' :: s) x) (r : List Char) :
    escapeLength (s ++ r) = s.length + 1 := by
  cases hs with
  | plain hx => simp at hx
  | letter hx =>
    simp only [letterPairs, List.mem_cons, List.not_mem_nil, or_false, Prod.mk.injEq] at hx
    rcases hx with ⟨rfl, rfl⟩ | ⟨rfl, rfl⟩ | ⟨rfl, rfl⟩ | ⟨rfl, rfl⟩ | ⟨rfl, rfl⟩ | ⟨rfl, rfl⟩ <;> rfl
  | @code letter _ digits ds hx hdigits _ =>
    have hhex : ∀ y ∈ digits, isHexDigit y := by
      intro y hy
      obtain ⟨d, hd, hlt⟩ := hdigits.exists_of_mem y hy
      exact isHexDigit_of_digitValue? hd hlt
    simp only [codeLetters, List.mem_cons, List.not_mem_nil, or_false, Prod.mk.injEq] at hx
    rcases hx with ⟨rfl, hlength⟩ | ⟨rfl, hlength⟩ | ⟨rfl, hlength⟩ <;>
      simpa [escapeLength, hlength] using hhex

/-- Characters that stand for themselves between quotes. -/
def PlainRun (quote : Char) (run : List Char) : Prop :=
  ∀ x ∈ run, x ∉ [quote, '\\', '\n', '\r', '\x00']

/-- Plain contents are passed over. -/
theorem portion_run (hrun : PlainRun quote run) (fuel length : Nat) (filled : Bool) :
    portion (plainQuotation quote) (fuel + run.length) length filled (run ++ t) =
      portion (plainQuotation quote) fuel (length + run.length) (filled || !run.isEmpty) t := by
  induction run generalizing length filled with
  | nil => simp
  | cons x run ih =>
    have hx := hrun x List.mem_cons_self
    simp only [List.mem_cons, List.not_mem_nil, or_false, not_or] at hx
    obtain ⟨hquote, hbackslash, hnewline, -, hnull⟩ := hx
    have hstep : portion (plainQuotation quote) (fuel + run.length + 1) length filled
        (x :: (run ++ t)) =
        portion (plainQuotation quote) (fuel + run.length) (length + 1) true (run ++ t) := by
      rw [portion.eq_def]
      simp [plainQuotation, hquote, hbackslash, hnewline, hnull]
    rw [List.length_cons, ← Nat.add_assoc, List.cons_append, hstep,
      ih (fun y hy => hrun y (List.mem_cons_of_mem _ hy))]
    simp [Nat.add_comm, Nat.add_left_comm]

/-- What stands between quotes begins with plain contents, with an escape, or not at all. -/
theorem spellsAll_begin (h : SpellsAll quote s cs) :
    s = [] ∨
    (∃ run rest cs', run ≠ [] ∧ PlainRun quote run ∧ s = run ++ rest ∧ SpellsAll quote rest cs' ∧
      (rest = [] ∨ rest.head? = some '\\')) ∨
    ∃ escape rest x cs', Spells quote ('\\' :: escape) x ∧ s = '\\' :: (escape ++ rest) ∧
      SpellsAll quote rest cs' := by
  induction h with
  | nil => exact .inl rfl
  | @cons s r cs c hs hr ih =>
    cases hs with
    | plain hc =>
      have hsingle : PlainRun quote [c] := by simpa [PlainRun] using hc
      refine .inr (.inl ?_)
      rcases ih with rfl | ⟨run, rest, cs', -, hrun, rfl, hrest, hhead⟩ | ⟨escape, rest, x, cs', -, rfl, -⟩
      · exact ⟨[c], [], _, by simp, hsingle, rfl, hr, .inl rfl⟩
      · exact ⟨c :: run, rest, cs', by simp, List.forall_mem_cons.mpr ⟨hc, hrun⟩, rfl, hrest, hhead⟩
      · exact ⟨[c], _, _, by simp, hsingle, rfl, hr, .inr rfl⟩
    | @letter x c hx => exact .inr (.inr ⟨[x], r, _, _, .letter hx, rfl, hr⟩)
    | @code x c digits ds hx hdigits hcode =>
      exact .inr (.inr ⟨x :: digits, r, _, _, .code hx hdigits hcode, rfl, hr⟩)

theorem portion_quote (hquote : quote ≠ '\\' ∧ quote ≠ '\x00') (fuel length : Nat) (filled : Bool) :
    portion (plainQuotation quote) (fuel + 1) length filled (quote :: r) =
      if filled then .contents length else .closing (length + 1) := by
  rw [portion.eq_def]
  simp [plainQuotation, hquote]

theorem portion_backslash (fuel length : Nat) (filled : Bool) :
    portion (plainQuotation quote) (fuel + 1) length filled ('\\' :: r) =
      if filled then .contents length else .neither := by
  rw [portion.eq_def]
  simp [plainQuotation]

theorem literalPieces_contents (hc : c.rest = s ++ r)
    (h : portion q (c.rest.length + 1) 0 false c.rest = .contents s.length) (fuel : Nat)
    (passage : Passage) (pieces : List Syntax.Piece) :
    ∃ passage' c', literalPieces again q (fuel + 1) passage pieces c =
      literalPieces again q fuel passage' pieces c' ∧ c.Passes s c' := by
  obtain ⟨c', htake, hpasses⟩ := take_passes s hc
  refine ⟨passage.add (c.rest.take s.length), c', ?_, hpasses⟩
  rw [literalPieces, get_bind]
  simp only [h]
  exact bind_ok htake

theorem literalPieces_escape (hs : Spells quote ('\\' :: s) x) (hc : c.rest = '\\' :: s ++ r)
    (fuel : Nat) (passage : Passage) (pieces : List Syntax.Piece) :
    ∃ passage' c', literalPieces again (plainQuotation quote) (fuel + 1) passage pieces c =
      literalPieces again (plainQuotation quote) fuel passage' pieces c' ∧
        c.Passes ('\\' :: s) c' := by
  obtain ⟨c', htake, hpasses⟩ := take_passes ('\\' :: s) hc
  refine ⟨passage.add (c.rest.take (s.length + 1)), c', ?_, hpasses⟩
  have hlength := escapeLength_spells hs r
  have hnull : ∀ rest, s ++ r ≠ '\x00' :: rest := by
    have hmem := hs.not_mem '\x00' (by decide)
    cases s with
    | nil => cases hs; simp at *
    | cons y s =>
      rintro rest heq
      simp_all
  rw [literalPieces, get_bind]
  simp only [hc, List.cons_append, portion_backslash, Bool.false_eq_true, if_false]
  rw [hlength]
  exact bind_ok htake

/-- Plain contents end at the next escape or at the closing quote. -/
theorem portion_contents (hquote : quote ≠ '\\' ∧ quote ≠ '\x00') (hne : run ≠ [])
    (hrun : PlainRun quote run) (hs : s = [] ∨ s.head? = some '\\') (fuel : Nat) :
    portion (plainQuotation quote) (fuel + 1 + run.length) 0 false (run ++ (s ++ quote :: r)) =
      .contents run.length := by
  rw [portion_run hrun]
  have hfilled : (false || !run.isEmpty) = true := by simpa using hne
  rw [hfilled, Nat.zero_add]
  rcases hs with rfl | hs
  · exact portion_quote hquote ..
  · obtain ⟨t, rfl⟩ := List.head?_eq_some_iff.mp hs
    exact portion_backslash ..

/-- A literal is read up to its closing quote, by induction on the length of its contents. -/
theorem literalPieces_passes (again : Reader) (hquote : quote ≠ '\\' ∧ quote ≠ '\x00') (n : Nat) :
    ∀ {s cs : List Char} {fuel : Nat} {c : Cursor}, s.length < n → s.length < fuel →
      SpellsAll quote s cs → c.rest = s ++ quote :: r → ∀ passage pieces,
      ∃ result c', literalPieces again (plainQuotation quote) fuel passage pieces c =
        .ok (result, c') ∧ c.Passes (s ++ [quote]) c' := by
  induction n with
  | zero =>
    intro s cs fuel c hlength
    omega
  | succ n ih =>
    intro s cs fuel c hlength hfuel hs hc passage pieces
    obtain ⟨fuel, rfl⟩ : ∃ rest, fuel = rest + 1 := ⟨fuel - 1, by omega⟩
    rcases spellsAll_begin hs with rfl | ⟨run, rest, cs', hne, hrun, rfl, hrest, hhead⟩ |
      ⟨escape, rest, x, cs', hescape, rfl, hrest⟩
    · obtain ⟨c', htake, hpasses⟩ := take_passes [quote] hc
      refine ⟨(passage.close pieces).reverse, c', ?_, hpasses⟩
      rw [literalPieces, get_bind]
      simp only [hc, List.nil_append, portion_quote hquote]
      exact bind_ok htake
    · have hpositive := List.length_pos_iff.mpr hne
      rw [List.append_assoc] at hc
      have hcontents : portion (plainQuotation quote) (c.rest.length + 1) 0 false c.rest =
          .contents run.length := by
        rw [hc, List.length_append, Nat.add_comm run.length, Nat.add_right_comm]
        exact portion_contents hquote hne hrun hhead _
      obtain ⟨passage', c₁, heq, hpasses⟩ := literalPieces_contents hc hcontents fuel passage pieces
      rw [List.length_append] at hlength hfuel
      obtain ⟨result, c', hok, hpasses'⟩ :=
        ih (by omega) (show rest.length < fuel by omega) hrest (hpasses.rest_eq hc) passage' pieces
      refine ⟨result, c', heq.trans hok, ?_⟩
      rw [List.append_assoc]
      exact hpasses.trans hpasses'
    · have hc : c.rest = '\\' :: escape ++ (rest ++ quote :: r) := by simp [hc]
      obtain ⟨passage', c₁, heq, hpasses⟩ := literalPieces_escape hescape hc fuel passage pieces
      simp only [List.length_cons, List.length_append] at hlength hfuel
      obtain ⟨result, c', hok, hpasses'⟩ :=
        ih (by omega) (show rest.length < fuel by omega) hrest (hpasses.rest_eq hc) passage' pieces
      refine ⟨result, c', heq.trans hok, ?_⟩
      rw [← List.cons_append, List.append_assoc]
      exact hpasses.trans hpasses'

/-- A text between quotes opens a literal without flags, between single quotes. -/
theorem quotation?_quoted (value : String) (hr : ∀ y ∈ r.head?, isLiteralQuote y = false) :
    quotation? ((quoted value).toList ++ r) =
      some ([], plainQuotation (chooseQuote value.toList), 1) := by
  have hquote := chooseQuote_cases value.toList
  have hbody := quotedBody_spells hquote value.toList
  rw [quoted_toList, quotedBody]
  generalize chooseQuote value.toList = quote at *
  generalize value.toList.flatMap (quotedChar isPrintable quote) = body at *
  have hflag : isFlag quote = false := by rcases hquote with rfl | rfl <;> rfl
  have hliteral : isLiteralQuote quote = true := by rcases hquote with rfl | rfl <;> rfl
  have hsingle : startsWith [quote, quote] (body ++ [quote] ++ r) = false := by
    have hhead := hbody.head_ne (by rcases hquote with rfl | rfl <;> decide)
    cases body with
    | nil =>
      cases r with
      | nil => simp [startsWith, List.isPrefixOf]
      | cons y r =>
        have hy : (quote == y) = false := by
          rw [beq_eq_false_iff_ne]
          rintro rfl
          simp [hr quote rfl] at hliteral
        simp [startsWith, List.isPrefixOf, hy]
    | cons x body =>
      have hx : (quote == x) = false := by
        rw [beq_eq_false_iff_ne]
        rintro rfl
        simp at hhead
      simp [startsWith, List.isPrefixOf, hx]
  have hflags : (quote :: (body ++ [quote] ++ r)).takeWhile isFlag = [] := by simp [hflag]
  rw [quotation?, List.cons_append]
  simp only [hflags, List.length_nil, List.drop_zero, hliteral, hsingle, Bool.and_false,
    List.any_nil]
  rfl

theorem literal_takes (value : String) (hpad : Pad u ((quoted value).toList ++ r))
    (hr : ∀ y ∈ r.head?, isLiteralQuote y = false) :
    Takes fits (literal again) u r fun literal =>
      ∃ pieces extent, literal = .mk "" (quoted value) pieces extent := by
  rintro c ⟨hc, hjoints⟩
  have hopens := quotation?_quoted value hr
  have hquote := chooseQuote_cases value.toList
  have hbody := quotedBody_spells hquote value.toList
  have htext : (quoted value).toList = chooseQuote value.toList ::
      (value.toList.flatMap (quotedChar isPrintable (chooseQuote value.toList)) ++
        [chooseQuote value.toList]) := quoted_toList value
  generalize chooseQuote value.toList = quote at *
  generalize value.toList.flatMap (quotedChar isPrintable quote) = body at *
  have hsolid : isSolid quote := by rcases hquote with rfl | rfl <;> rfl
  have hspecial : quote ≠ '\\' ∧ quote ≠ '\x00' := by rcases hquote with rfl | rfl <;> decide
  have hskip := skipGap_solid hpad (htext ▸ .cons hsolid _) hc
  obtain ⟨pad, hpasses, hrest, -⟩ := hpad.passes hc
  generalize c.past ((quoted value).toList ++ r) = c₁ at hskip hpasses hrest
  obtain ⟨c₂, htake, hpasses₂⟩ := take_passes [quote]
    (show c₁.rest = [quote] ++ (body ++ quote :: r) by simp [hrest, htext])
  have hrest₂ : c₂.rest = body ++ quote :: r := hpasses₂.rest_eq (by simp [hrest, htext])
  have hfuel : body.length < c₂.rest.length + 1 := by
    rw [hrest₂, List.length_append]
    omega
  obtain ⟨pieces, c', hpieces, hpasses₃⟩ := literalPieces_passes again hspecial (body.length + 1)
    (Nat.lt_succ_self _) hfuel hbody hrest₂ .empty []
  have hpasses' : c₁.Passes (quoted value).toList c' := by
    rw [htext]
    exact hpasses₂.trans hpasses₃
  have hlength : c'.position.offset - c₁.position.offset = (quoted value).toList.length := by
    rw [hpasses'.offset]
    omega
  have hhere : here c = .ok (c₁.position, c₁) := by
    rw [here, bind_ok hskip]
    rfl
  rw [literal, bind_ok hhere, get_bind]
  simp only [hrest, hopens]
  rw [List.length_singleton] at htake
  rw [bind_ok htake, loopFuel_bind, bind_ok hpieces, position_bind, hlength, List.take_left,
    String.ofList_toList]
  exact ⟨⟨hpasses'.rest_eq hrest, pieces, _, rfl⟩, hpasses'.joints.trans (hpasses.joints.trans hjoints)⟩

theorem Follows.endsLiteral (hr : Follows above r) :
    ∀ y ∈ r.head?, isLiteralQuote y = false := by
  intro y hy
  have hmem := hr.head y hy
  simp only [List.mem_cons, List.not_mem_nil, or_false] at hmem
  rcases hmem with rfl | rfl | rfl | rfl | rfl | rfl <;> rfl

theorem Follows.endsNumeral (hr : Follows above r) : EndsNumeral r := by
  intro y hy
  have hmem := hr.head y hy
  simp only [List.mem_cons, List.not_mem_nil, or_false] at hmem
  rcases hmem with rfl | rfl | rfl | rfl | rfl | rfl <;> decide

theorem literalsAfter_stops (hr : Follows above r) (fuel : Nat) (literals : List Literal) :
    Shows (literalsAfter again place (fuel + 1) literals) r literals.reverse := by
  intro c hc
  rw [literalsAfter, bind_ok (hr.look place.multiline hc), hr.stops.literal]
  rfl

theorem atom_str (value : String) (hpad : Pad u ((quoted value).toList ++ r)) (hr : Follows above r) :
    Takes fits (atom again place) u r (Lowers · (.str value)) := by
  obtain ⟨x, xs, htext, hx⟩ := quoted_cons value
  have hsolid : Solid ((quoted value).toList ++ r) := by
    rw [htext]
    rcases hx with rfl | rfl <;> exact .cons rfl _
  have hopens : opensLiteral ((quoted value).toList ++ r) = true := by
    rw [htext]
    rcases hx with rfl | rfl <;> rfl
  refine .skip hpad hsolid (.get fun c hc => ?_)
  dsimp only
  rw [hc.1, hopens]
  refine .here .none hsolid fun _ => (literal_takes value .none hr.endsLiteral).bind ?_
  rintro _ ⟨pieces, extent, rfl⟩
  refine .fuel (.peek (literalsAfter_stops hr _ _) (.give ⟨rfl, ?_⟩))
  exact .str (Reading.literalValue?_quoted value)

end

end Walkthrough.Written
