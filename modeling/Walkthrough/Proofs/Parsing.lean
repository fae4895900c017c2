import Mathlib.Data.List.TakeWhile
import Walkthrough.Syntax.Program

/-!
# Equations of parsers

What the small parsers do on a text whose beginning is known, and how the readings of the parts of a
text make the reading of the whole.

* `Parses`: how a parser ends before a text.  It finds the text too deep only if it does not `fit`, and
  does not fit only if it `strays`.
* `Takes`: a parser goes on to a known rest of the text.  `Fails`: it does not fit.
* `Shows`: it gives a result without going on.
* `Parses.mark`, `Parses.symbol`, `Parses.keyword`, `identifier_passes`: the tokens.
-/

namespace Walkthrough.Syntax

open Text

/-! ## Readings -/

section

variable {α β : Type} {p : Parser α} {c c' : Cursor} {a : α}

theorem bind_ok (h : p c = .ok (a, c')) : (p >>= f) c = f a c' := by
  show (p c >>= fun result => f result.1 result.2) = f a c'
  rw [h]
  rfl

theorem get_bind (f : Cursor → Parser β) : (get >>= f) c = f c c := rfl

theorem loopFuel_bind (f : Nat → Parser β) : (loopFuel >>= f) c = f (c.rest.length + 1) c := rfl

theorem position_bind (f : Position → Parser β) : (position >>= f) c = f c.position c := rfl

/-- The cursor stands before the text `t`, and no joints have been passed. -/
def Cursor.Before (c : Cursor) (t : List Char) : Prop :=
  c.rest = t ∧ c.joints = []

/-- A result with what is left of the text as `P` says, or a failure that may be. -/
def Outcome (strays fits : Prop) (P : α → List Char → Prop) : Except Trouble (α × Cursor) → Prop
  | .ok (a, c) => P a c.rest ∧ c.joints = []
  | .error .unexpected => strays
  | .error .tooDeep => ¬ fits

/-- How the parser `p` ends before the text `t`. -/
def Parses (strays fits : Prop) (p : Parser α) (t : List Char) (P : α → List Char → Prop) : Prop :=
  ∀ ⦃c : Cursor⦄, c.Before t → Outcome strays fits P (p c)

/-- The parser goes on from `t` to `r` and gives a result as `P` says. -/
abbrev Takes (fits : Prop) (p : Parser α) (t r : List Char) (P : α → Prop) : Prop :=
  Parses False fits p t fun a s => s = r ∧ P a

/-- The parser does not fit, unless the text is found too deep before that. -/
abbrev Fails (fits : Prop) (p : Parser α) (t : List Char) : Prop :=
  Parses True fits p t fun _ _ => False

/-- The parser gives `a` and stays where it is. -/
def Shows (p : Parser α) (t : List Char) (a : α) : Prop :=
  ∀ ⦃c : Cursor⦄, c.rest = t → p c = .ok (a, c)

theorem Parses.give (h : P a t) : Parses strays fits (pure a) t P := by
  rintro c ⟨rfl, hjoints⟩
  exact ⟨h, hjoints⟩

theorem Parses.unexpected : Parses True fits unexpected t P :=
  fun _ _ => trivial

theorem Parses.bind (hp : Parses strays fits p t P)
    (hf : ∀ a s, P a s → Parses strays fits (f a) s Q) : Parses strays fits (p >>= f) t Q := by
  intro c hc
  have hp := hp hc
  show Outcome strays fits Q (p c >>= fun result => f result.1 result.2)
  generalize p c = result at hp ⊢
  match result, hp with
  | .ok (a, c'), ⟨hP, hjoints⟩ => exact hf a c'.rest hP ⟨rfl, hjoints⟩
  | .error .unexpected, h | .error .tooDeep, h => exact h

theorem Parses.imp (hp : Parses strays fits p t P) (hstrays : strays → strays')
    (himp : ∀ a s, P a s → P' a s) : Parses strays' fits p t P' := by
  intro c hc
  have hp := hp hc
  generalize p c = result at hp ⊢
  match result, hp with
  | .ok (a, c'), ⟨hP, hjoints⟩ => exact ⟨himp a c'.rest hP, hjoints⟩
  | .error .unexpected, h => exact hstrays h
  | .error .tooDeep, h => exact h

theorem Takes.imp (hp : Takes fits p t r R) (himp : ∀ a, R a → R' a) : Takes fits p t r R' :=
  Parses.imp hp id fun a _ h => ⟨h.1, himp a h.2⟩

theorem Takes.bind (hp : Takes fits p t s R) (hf : ∀ a, R a → Parses strays fits (f a) s Q) :
    Parses strays fits (p >>= f) t Q := by
  refine Parses.bind (Parses.imp hp False.elim fun _ _ => id) ?_
  rintro a _ ⟨rfl, h⟩
  exact hf a h

theorem Parses.peek (h : Shows p t a) (hf : Parses strays fits (f a) t Q) :
    Parses strays fits (p >>= f) t Q := by
  intro c hc
  rw [bind_ok (h hc.1)]
  exact hf hc

theorem Parses.get {f : Cursor → Parser β} (hf : ∀ c, c.Before t → Parses strays fits (f c) t Q) :
    Parses strays fits (get >>= f) t Q :=
  fun c hc => hf c hc hc

theorem Parses.set {f : PUnit → Parser β} (hc : c.Before t) (hf : Parses strays fits (f ⟨⟩) t Q) :
    Parses strays fits ((set c : Parser PUnit) >>= f) s Q :=
  fun _ _ => hf hc

theorem Parses.fuel {f : Nat → Parser β} (hf : Parses strays fits (f (t.length + 1)) t Q) :
    Parses strays fits (loopFuel >>= f) t Q := by
  rintro c ⟨rfl, hjoints⟩
  exact hf ⟨rfl, hjoints⟩

theorem Parses.position {f : Position → Parser β}
    (hf : ∀ position, Parses strays fits (f position) t Q) :
    Parses strays fits (position >>= f) t Q :=
  fun c hc => hf c.position hc

theorem Fails.bind (hp : Fails fits p t) : Fails fits (p >>= f) t :=
  Parses.bind hp fun _ _ h => h.elim

theorem Fails.elim (hp : Fails fits p t) : Parses True fits p t P :=
  Parses.imp hp id fun _ _ => False.elim

theorem Shows.takes (hp : Shows p t a) (h : R a) : Takes fits p t t R := by
  rintro c ⟨rfl, hjoints⟩
  rw [hp rfl]
  exact ⟨⟨rfl, h⟩, hjoints⟩

theorem Parses.orElse (hp : Parses strays' fits p t P) (hq : strays' → Parses strays fits q t P) :
    Parses strays fits (orElse p q) t P := by
  intro c hc
  have hp := hp hc
  rw [Syntax.orElse]
  generalize p c = result at hp ⊢
  match result, hp with
  | .error .unexpected, h => exact hq h hc
  | .ok (a, c'), h | .error .tooDeep, h => exact h

/-- What does not fit is not found. -/
theorem Fails.attempt (hp : Fails fits p t) : Takes fits (attempt p) t t (· = none) :=
  .orElse (Fails.bind (f := fun a => pure (some a)) hp).elim fun _ => .give ⟨rfl, rfl⟩

theorem Takes.attempt (hp : Takes fits p t r R) :
    Takes fits (attempt p) t r fun found => ∃ a, found = some a ∧ R a :=
  .orElse (Takes.bind (f := fun a => pure (some a)) hp fun a h => .give ⟨rfl, a, rfl, h⟩) False.elim

theorem Parses.attempt (hp : Parses True fits p t P) :
    Parses False fits (attempt p) t fun _ _ => True :=
  .orElse (Parses.bind (f := fun a => pure (some a)) hp fun _ _ _ => .give trivial)
    fun _ => .give trivial

end

/-! ## Cursors -/

/-- The cursor `c'` stands behind the characters `s` that `c` stands before. -/
structure Cursor.Passes (c : Cursor) (s : List Char) (c' : Cursor) : Prop where
  rest : c.rest = s ++ c'.rest
  offset : c'.position.offset = c.position.offset + s.length
  joints : c'.joints = c.joints

section

variable {c c' c'' : Cursor} {s t r : List Char}

theorem Cursor.Passes.nil (c : Cursor) : c.Passes [] c :=
  ⟨rfl, rfl, rfl⟩

theorem Cursor.Passes.trans (h : c.Passes s c') (h' : c'.Passes t c'') : c.Passes (s ++ t) c'' where
  rest := by rw [h.rest, h'.rest, List.append_assoc]
  offset := by rw [h'.offset, h.offset, List.length_append, Nat.add_assoc]
  joints := h'.joints.trans h.joints

/-- What is left behind a known beginning. -/
theorem Cursor.Passes.rest_eq (h : c.Passes s c') (hc : c.rest = s ++ r) : c'.rest = r :=
  List.append_cancel_left (h.rest.symm.trans hc)

theorem Cursor.passes_advance (s : List Char) (hc : c.rest = s ++ r) :
    c.Passes s (c.advance s.length) := by
  induction s generalizing c with
  | nil => exact .nil c
  | cons x s ih =>
    have hnext := ih (c := { c with rest := s ++ r, position := c.position.next x }) rfl
    rw [List.length_cons, Cursor.advance, hc]
    exact {
      rest := hc.trans (congrArg (x :: ·) hnext.rest)
      offset := by
        rw [List.cons_append, hnext.offset, List.length_cons]
        simp only [Position.next]
        omega
      joints := hnext.joints }

theorem take_passes (s : List Char) (hc : c.rest = s ++ r) :
    ∃ c', take s.length c = .ok (⟨c.position, c'.position⟩, c') ∧ c.Passes s c' :=
  ⟨c.advance s.length, rfl, c.passes_advance s hc⟩

end

/-! ## Between tokens -/

/-- A character with which a token begins, whatever that may be: no blank, comment or joint. -/
def isSolid (x : Char) : Bool :=
  !isGap x && x != '#' && x != '\\'

/-- A text that begins with a token. -/
inductive Solid : List Char → Prop where
  | cons {x : Char} (hx : isSolid x) (xs : List Char) : Solid (x :: xs)

/-- The text `u` is `t`, or has one blank more before it. -/
inductive Pad : List Char → List Char → Prop where
  | none {t : List Char} : Pad t t
  | blank {t : List Char} : Pad (' ' :: t) t

/-- The cursor that has moved on to `t`. -/
def Cursor.past (c : Cursor) (t : List Char) : Cursor :=
  c.advance (c.rest.length - t.length)

section

variable {xs u t : List Char} {c : Cursor}

theorem Pad.passes (hpad : Pad u t) (hc : c.rest = u) :
    ∃ pad, c.Passes pad (c.past t) ∧ (c.past t).rest = t ∧ pad.all isBlank := by
  have hpast (pad : List Char) (hc : c.rest = pad ++ t) :
      c.Passes pad (c.past t) ∧ (c.past t).rest = t := by
    have hpasses := c.passes_advance pad hc
    have hlength : c.rest.length - t.length = pad.length := by rw [hc, List.length_append]; omega
    rw [Cursor.past, hlength]
    exact ⟨hpasses, hpasses.rest_eq hc⟩
  cases hpad with
  | none => exact ⟨[], (hpast [] hc).1, (hpast [] hc).2, rfl⟩
  | blank => exact ⟨[' '], (hpast [' '] hc).1, (hpast [' '] hc).2, rfl⟩

theorem isGap_eq_false (hx : isSolid x) : isGap x = false := by
  simp only [isSolid, Bool.and_eq_true] at hx
  simpa using hx.1.1

theorem ne_of_isSolid (hx : isSolid x) (hy : isSolid y = false) : x ≠ y := by
  rintro rfl
  simp [hy] at hx

theorem isPlainGap_eq_false (hx : isSolid x) : isPlainGap x = false := by
  have hne {y : Char} (hy : isSolid y = false) : (x == y) = false :=
    beq_eq_false_iff_ne.mpr (ne_of_isSolid hx hy)
  rw [isPlainGap, hne rfl, hne rfl, hne rfl, hne rfl]
  rfl

theorem lineEnds_solid (hx : isSolid x) : lineEnds (x :: xs) = false := by
  have hbackslash : x ≠ '\\' := ne_of_isSolid hx rfl
  have hnewline : (x == '\n') = false := beq_eq_false_iff_ne.mpr (ne_of_isSolid hx rfl)
  have hplain := isPlainGap_eq_false hx
  unfold lineEnds
  split <;> simp_all

theorem foldLength_solid (hx : isSolid x) : foldLength (x :: xs) = 0 := by
  have hbackslash : x ≠ '\\' := ne_of_isSolid hx rfl
  have hnewline : (x == '\n') = false := beq_eq_false_iff_ne.mpr (ne_of_isSolid hx rfl)
  have hplain := isPlainGap_eq_false hx
  unfold foldLength
  split <;> simp_all

/-- Directly before a token, and behind plain blanks, the token comes next. -/
theorem aheadFrom_solid (multiline : Bool) (joints : List Extent)
    (hpassed : passed = .nothing ∨ passed = .plain) (position : Position) (hx : isSolid x) :
    aheadFrom multiline joints passed position (x :: xs) = .token ⟨x :: xs, position, joints⟩ := by
  have hcomment : (x == '#') = false := beq_eq_false_iff_ne.mpr (ne_of_isSolid hx rfl)
  have hbackslash : (x == '\\') = false := beq_eq_false_iff_ne.mpr (ne_of_isSolid hx rfl)
  rw [aheadFrom]
  simp only [lineEnds_solid hx, foldLength_solid hx, isGap_eq_false hx, hcomment, hbackslash,
    Bool.and_false, List.drop_zero, Cursor.advance]
  rcases hpassed with rfl | rfl <;> simp

theorem ahead_solid (multiline : Bool) (hpad : Pad u t) (ht : Solid t) (hc : c.rest = u) :
    ahead multiline c = .ok (.token (c.past t), c) := by
  obtain ⟨rest, position, joints⟩ := c
  cases hc
  show Except.ok (aheadFrom multiline joints .nothing position rest, _) = _
  obtain @⟨x, hx, xs⟩ := ht
  cases hpad with
  | none =>
    rw [aheadFrom_solid _ _ (.inl rfl) _ hx, Cursor.past, Nat.sub_self]
    rfl
  | blank =>
    have hends : lineEnds (' ' :: x :: xs) = false := by
      simp [lineEnds, isPlainGap, lineEnds_solid hx]
    have hfolds : foldLength (' ' :: x :: xs) = 1 := by
      simp [foldLength, isPlainGap, foldLength_solid hx]
    rw [aheadFrom]
    simp only [hends, hfolds, Bool.and_false, Bool.false_eq_true, if_false, List.drop_one,
      List.tail_cons]
    by_cases hopens : opensLiteral (x :: xs)
    · simp [hopens, Cursor.past, Cursor.advance]
    · have hplain : aheadFrom multiline joints .plain (position.next ' ') (x :: xs) =
          .token ⟨x :: xs, position.next ' ', joints⟩ :=
        aheadFrom_solid multiline joints (.inr rfl) (position.next ' ') hx
      simp [hopens, isGap, isPlainGap, Cursor.past, Cursor.advance, hplain]

theorem look_solid (multiline : Bool) (hpad : Pad u t) (ht : Solid t) :
    Shows (look multiline) u t := by
  intro c hc
  obtain ⟨_, _, hrest, _⟩ := hpad.passes hc
  rw [look, bind_ok (ahead_solid multiline hpad ht hc)]
  exact congrArg (fun text => Except.ok (text, c)) hrest

theorem skipGap_solid (hpad : Pad u t) (ht : Solid t) (hc : c.rest = u) :
    skipGap c = .ok ((), c.past t) := by
  rw [skipGap, bind_ok (ahead_solid true hpad ht hc)]
  rfl

/-! ### At the end of the text -/

theorem ahead_end (multiline : Bool) (hc : c.rest = []) :
    ahead multiline c = .ok (if multiline then .token c else .lineEnd c, c) := by
  obtain ⟨rest, position, joints⟩ := c
  cases hc
  cases multiline <;> rfl

theorem look_end (multiline : Bool) : Shows (look multiline) [] [] := by
  intro c hc
  rw [look, bind_ok (ahead_end multiline hc)]
  cases multiline
  · rfl
  · rw [← hc]
    rfl

theorem skipGap_end : Shows skipGap [] () := by
  intro c hc
  rw [skipGap, bind_ok (ahead_end true hc)]
  rfl

end

/-! ## Tokens -/

section

variable {β : Type} {strays fits : Prop} {xs u t : List Char} {c : Cursor} {Q : β → List Char → Prop}

theorem Parses.skip (hpad : Pad u t) (ht : Solid t) (hf : Parses strays fits (f ()) t Q) :
    Parses strays fits (skipGap >>= f) u Q := by
  rintro c ⟨hc, hjoints⟩
  obtain ⟨pad, hpasses, hrest, -⟩ := hpad.passes hc
  rw [bind_ok (skipGap_solid hpad ht hc)]
  exact hf ⟨hrest, hpasses.joints.trans hjoints⟩

theorem Parses.here (hpad : Pad u t) (ht : Solid t)
    (hf : ∀ position, Parses strays fits (f position) t Q) : Parses strays fits (here >>= f) u Q := by
  rw [Syntax.here, bind_assoc]
  exact .skip hpad ht fun c hc => hf c.position hc

/-- A parser sees the token that comes at once. -/
theorem Parses.see (hx : isSolid x) (hf : Parses strays fits (f (x :: t)) (x :: t) Q) :
    Parses strays fits (look multiline >>= f) (x :: t) Q :=
  .peek (look_solid multiline .none (.cons hx t)) hf

theorem Parses.take (s : List Char) (hf : ∀ extent, Parses strays fits (f extent) t Q) :
    Parses strays fits (take s.length >>= f) (s ++ t) Q := by
  rintro c ⟨hc, hjoints⟩
  obtain ⟨c', htake, hpasses⟩ := take_passes s hc
  rw [bind_ok htake]
  exact hf _ ⟨hpasses.rest_eq hc, hpasses.joints.trans hjoints⟩

theorem Parses.symbol (text : String) (hpad : Pad u (text.toList ++ t)) (htext : Solid text.toList)
    (hf : ∀ extent, Parses strays fits (f extent) t Q) : Parses strays fits (symbol text >>= f) u Q := by
  have hsolid : Solid (text.toList ++ t) := by
    generalize text.toList = s at htext ⊢
    obtain ⟨hx, xs⟩ := htext
    exact .cons hx _
  rw [Syntax.symbol, bind_assoc]
  refine .skip hpad hsolid fun c hc => ?_
  have hstarts : startsWith text.toList c.rest := by
    rw [hc.1, startsWith, List.isPrefixOf_iff_prefix]
    exact List.prefix_append ..
  have htake := Parses.take text.toList hf hc
  rw [String.length_toList] at htake
  rwa [bind_assoc, get_bind, if_pos hstarts]

/-- A symbol of one character. -/
theorem Parses.sign (text : String) (hpad : Pad u (x :: t)) (htext : text.toList = [x]) (hx : isSolid x)
    (hf : ∀ extent, Parses strays fits (f extent) t Q) :
    Parses strays fits (Syntax.symbol text >>= f) u Q :=
  .symbol text (by rwa [htext]) (htext ▸ .cons hx []) hf

/-- A symbol of one character that comes at once. -/
theorem Parses.mark (text : String) (htext : text.toList = [x]) (hx : isSolid x)
    (hf : ∀ extent, Parses strays fits (f extent) t Q) :
    Parses strays fits (Syntax.symbol text >>= f) (x :: t) Q :=
  .sign text .none htext hx hf

theorem symbol_fails (hpad : Pad u t) (ht : Solid t) (htext : startsWith text.toList t = false) :
    Fails fits (symbol text) u := by
  refine .skip hpad ht (.get fun c hc => ?_)
  rw [hc.1, htext]
  exact .unexpected

theorem symbol_end (htext : startsWith text.toList [] = false) : Fails fits (symbol text) [] := by
  refine .peek skipGap_end (.get fun c hc => ?_)
  rw [hc.1, htext]
  exact .unexpected

end

/-! ## Words -/

section

variable {xs s t u r : List Char} {c : Cursor}

theorem toList_of_eq (h : text = String.ofList s) : text.toList = s := by
  rw [h, String.toList_ofList]

/-- The codes of white space and of the blanks that may stand between two tokens. -/
def blankCodes : List Nat :=
  [0x09, 0x0a, 0x0b, 0x0c, 0x0d, 0x1c, 0x1d, 0x1e, 0x1f, 0x20, 0x85, 0xa0, 0x1680, 0x2000, 0x2001, 0x2002,
    0x2003, 0x2004, 0x2005, 0x2006, 0x2007, 0x2008, 0x2009, 0x200a, 0x200b, 0x2028, 0x2029, 0x202f, 0x205f,
    0x2060, 0x3000, 0xfeff]

theorem isIdentifierPart_of_isIdentifierStart (hx : isIdentifierStart x) :
    isIdentifierPart x := by
  unfold isIdentifierPart
  split
  · next hascii =>
    rw [isIdentifierStart, if_pos hascii, Bool.or_eq_true] at hx
    rcases hx with hx | hx
    · simp [Char.isAlphanum, hx]
    · simp [hx]
  · simp [hx]

/-- Blanks are no part of an identifier. -/
theorem not_mem_blankCodes (hx : isIdentifierPart x) : x.toNat ∉ blankCodes := by
  have hblank : ∀ n ∈ blankCodes, isIdentifierPart (Char.ofNat n) = false := by
    unfold isIdentifierPart isIdentifierStart letterRanges startAdditions startExceptions continueAdditions
      CodeRange.ofText digitsOf
    -- The kernel does not take texts of this length apart.
    rw [toList_of_eq rfl, toList_of_eq rfl, toList_of_eq rfl, toList_of_eq rfl]
    decide +kernel
  intro hmem
  have hpart := hblank x.toNat hmem
  rw [Char.ofNat_toNat, hx] at hpart
  cases hpart

theorem isSolid_of_isIdentifierStart (hx : isIdentifierStart x) : isSolid x := by
  have hcode := not_mem_blankCodes (isIdentifierPart_of_isIdentifierStart hx)
  have hne {y : Char} (hy : isIdentifierStart y = false) : x ≠ y := by
    rintro rfl
    simp [hy] at hx
  have hblank : x ≠ ' ' := hne (by decide)
  have hcomment : x ≠ '#' := hne (by decide)
  have hbackslash : x ≠ '\\' := hne (by decide)
  simp only [blankCodes, List.mem_cons, List.not_mem_nil, or_false] at hcode
  simp only [isSolid, isGap, Bool.and_eq_true, Bool.not_eq_true', Bool.or_eq_false_iff,
    Bool.and_eq_false_iff, decide_eq_false_iff_not, beq_eq_false_iff_ne, bne_iff_ne]
  refine ⟨⟨⟨⟨⟨⟨?_, hblank⟩, ?_⟩, ?_⟩, ?_⟩, hcomment⟩, hbackslash⟩ <;> omega

/-- The characters of one identifier. -/
def IsWord (s : List Char) : Prop :=
  s ≠ [] ∧ leadingWord s = s

instance (s : List Char) : Decidable (IsWord s) :=
  inferInstanceAs (Decidable (_ ∧ _))

/-- No identifier goes on with what follows. -/
def EndsWord (r : List Char) : Prop :=
  ∀ y ∈ r.head?, isIdentifierPart y = false

theorem IsWord.cons (hs : IsWord s) : ∃ x xs, s = x :: xs ∧ isIdentifierStart x ∧
    ∀ y ∈ xs, isIdentifierPart y := by
  obtain ⟨hne, hs⟩ := hs
  cases s with
  | nil => exact absurd rfl hne
  | cons x xs =>
    rw [leadingWord] at hs
    split at hs
    · next hx => exact ⟨x, xs, rfl, hx, List.takeWhile_eq_self_iff.mp (List.cons.inj hs).2⟩
    · cases hs

theorem IsWord.leadingWord_append (hs : IsWord s) (hr : EndsWord r) : leadingWord (s ++ r) = s := by
  obtain ⟨x, xs, rfl, hx, hxs⟩ := hs.cons
  rw [List.cons_append, leadingWord, if_pos hx, List.takeWhile_append_of_pos hxs]
  cases r with
  | nil => simp
  | cons y r => simp [hr y rfl]

theorem leadingWord_of_not_isIdentifierStart (hx : isIdentifierStart x = false) :
    leadingWord (x :: xs) = [] := by
  rw [leadingWord, hx]
  rfl

theorem IsWord.solid (hs : IsWord s) (r : List Char) : Solid (s ++ r) := by
  obtain ⟨x, xs, rfl, hx, -⟩ := hs.cons
  exact .cons (isSolid_of_isIdentifierStart hx) _

theorem keyword_passes (word : String) (hword : IsWord word.toList)
    (hpad : Pad u (word.toList ++ r)) (hr : EndsWord r) (hc : c.rest = u) :
    ∃ pad extent c', keyword word c = .ok (extent, c') ∧
      extent.start.offset = c.position.offset + pad.length ∧ extent.stop = c'.position ∧
      c.Passes (pad ++ word.toList) c' ∧ c'.rest = r ∧ pad.all isBlank := by
  obtain ⟨pad, hpasses, hrest, hblank⟩ := hpad.passes hc
  have hskip := skipGap_solid hpad (hword.solid r) hc
  obtain ⟨c', htake, hc'⟩ := take_passes word.toList hrest
  have hbegins : beginsWord word (word.toList ++ r) := by
    rw [beginsWord, hword.leadingWord_append hr]
    exact beq_self_eq_true _
  refine ⟨pad, _, c', Eq.trans ?_ htake, hpasses.offset, rfl, hpasses.trans hc', hc'.rest_eq hrest,
    hblank⟩
  rw [keyword, bind_ok hskip, get_bind, hrest, if_pos hbegins, String.length_toList]

theorem Parses.keyword (word : String) (hword : IsWord word.toList) (hpad : Pad u (word.toList ++ r))
    (hr : EndsWord r) (hf : ∀ extent, Parses strays fits (f extent) r Q) :
    Parses strays fits (keyword word >>= f) u Q := by
  rintro c ⟨hc, hjoints⟩
  obtain ⟨_, extent, c', hkeyword, -, -, hpasses, hrest, -⟩ := keyword_passes word hword hpad hr hc
  rw [bind_ok hkeyword]
  exact hf extent ⟨hrest, hpasses.joints.trans hjoints⟩

theorem keyword_fails (hpad : Pad u t) (ht : Solid t) (hword : beginsWord word t = false) :
    Fails fits (keyword word) u := by
  refine .skip hpad ht (.get fun c hc => ?_)
  rw [hc.1, hword]
  exact .unexpected

theorem identifier_takes (hs : IsWord s) (hpad : Pad u (s ++ r)) (hr : EndsWord r) :
    Takes fits identifier u r fun found => found.1 = String.ofList s := by
  refine .skip hpad (hs.solid r) (.get fun c hc => ?_)
  rw [hc.1, hs.leadingWord_append hr]
  split
  · exact absurd rfl hs.1
  · exact .take s fun extent => .give ⟨rfl, rfl⟩

theorem identifier_fails (hpad : Pad u (x :: xs)) (hx : isSolid x)
    (hstart : isIdentifierStart x = false) : Fails fits identifier u := by
  refine .skip hpad (.cons hx xs) (.get fun c hc => ?_)
  rw [hc.1, leadingWord_of_not_isIdentifierStart hstart]
  exact .unexpected

end

end Walkthrough.Syntax
