import Mathlib
import Walkthrough.Expr.Reading

/-!
# Numbers and texts are read back as they were written

* `readInteger_toDigits`: the digits of a number that may be written are read as that number.
* `literalValue?_quoted`: a text between quotes is read as that text.

Digits are compared through their values (`AreDigits`), and a text between quotes character by
character (`Spells`): each one stands for itself, or an escape stands for it.
-/

namespace Walkthrough.Number

/-! ## Digits -/

/-- The characters `cs` are the digits `ds` in the given base. -/
def AreDigits (base : Nat) (cs : List Char) (ds : List Nat) : Prop :=
  List.Forall₂ (fun c d => digitValue? c = some d ∧ d < base) cs ds

section

variable {c : Char} {cs text : List Char}

theorem digitValue?_digitChar : ∀ d < 16, digitValue? d.digitChar = some d := by
  decide

theorem AreDigits.exists_of_mem (h : AreDigits base cs ds) :
    ∀ c ∈ cs, ∃ d, digitValue? c = some d ∧ d < base := by
  induction h with
  | nil => exact List.forall_mem_nil _
  | cons hc _ ih => exact List.forall_mem_cons.mpr ⟨⟨_, hc⟩, ih⟩

theorem ofDigits_concat (ds : List Nat) (d : Nat) :
    ofDigits base (ds ++ [d]) = ofDigits base ds * base + d := by
  simp [ofDigits]

theorem ofDigits_replicate_zero (count : Nat) (ds : List Nat) :
    ofDigits base (List.replicate count 0 ++ ds) = ofDigits base ds := by
  have hzero : List.foldl (fun value digit => value * base + digit) 0 (List.replicate count 0) = 0 := by
    induction count with
    | zero => rfl
    | succ count ih => simpa [List.replicate_succ] using ih
  rw [ofDigits, List.foldl_append, hzero, ofDigits]

/-- The digits of a number have its value, by induction on the number. -/
theorem digits_toDigits (hbase : 1 < base) (hsixteen : base ≤ 16) (n : Nat) :
    ∃ ds, AreDigits base (Nat.toDigits base n) ds ∧ ofDigits base ds = n := by
  induction n using Nat.strongRecOn with
  | _ n ih =>
    rw [Nat.toDigits_eq_if hbase]
    split
    · next h => exact ⟨[n], .cons ⟨digitValue?_digitChar n (by omega), h⟩ .nil, by simp [ofDigits]⟩
    · next h =>
      obtain ⟨ds, hds, hvalue⟩ := ih (n / base) (Nat.div_lt_self (by omega) hbase)
      have hmod : n % base < base := Nat.mod_lt _ (by omega)
      have hlast := digitValue?_digitChar (n % base) (by omega)
      refine ⟨ds ++ [n % base], List.rel_append hds (.cons ⟨hlast, hmod⟩ .nil), ?_⟩
      rw [ofDigits_concat, hvalue, Nat.div_add_mod']

theorem head_toDigits_ne_zero (n : Nat) (hn : 0 < n) : (Nat.toDigits 10 n).head? ≠ some '0' := by
  induction n using Nat.strongRecOn with
  | _ n ih =>
    rw [Nat.toDigits_eq_if (by decide)]
    split
    · next h =>
      have hdigits : ∀ d < 10, 0 < d → Nat.digitChar d ≠ '0' := by decide
      simpa using hdigits n h hn
    · next h =>
      rw [List.head?_append_of_ne_nil _ Nat.toDigits_ne_nil]
      exact ih (n / 10) (by omega) (by omega)

/-- The characters `cs` with single underscores between some of them. -/
inductive Spaced : List Char → List Char → Prop where
  | last (c : Char) : Spaced [c] [c]
  | cons {cs text : List Char} (c : Char) : Spaced cs text → Spaced (c :: cs) (c :: text)
  | gap {cs text : List Char} (c : Char) : Spaced cs text → Spaced (c :: cs) (c :: '_' :: text)

theorem Spaced.refl (hcs : cs ≠ []) : Spaced cs cs := by
  induction cs with
  | nil => exact absurd rfl hcs
  | cons c cs ih =>
    cases cs with
    | nil => exact .last c
    | cons => exact .cons c (ih (List.cons_ne_nil _ _))

theorem Spaced.append (h : Spaced cs text) (h' : Spaced cs' text') :
    Spaced (cs ++ cs') (text ++ '_' :: text') := by
  induction h with
  | last c => exact .gap c h'
  | cons c _ ih => exact .cons c ih
  | gap c _ ih => exact .gap c ih

theorem ne_of_digitValue? (hc : digitValue? c = some d) (hx : digitValue? x = none) : c ≠ x := by
  rintro rfl
  rw [hx] at hc
  cases hc

theorem code_of_digitValue? (hc : digitValue? c = some d) : 0x20 < c.toNat ∧ c.toNat < 0x7f := by
  have hrange {a b : Char} (h : (decide (a ≤ c) && decide (c ≤ b)) = true) (ha : 0x20 < a.toNat)
      (hb : b.toNat < 0x7f) : 0x20 < c.toNat ∧ c.toNat < 0x7f := by
    rw [Bool.and_eq_true, decide_eq_true_eq, decide_eq_true_eq] at h
    exact ⟨Nat.lt_of_lt_of_le ha h.1, Nat.lt_of_le_of_lt h.2 hb⟩
  unfold digitValue? at hc
  repeat' split at hc
  any_goals exact hrange ‹_› (by decide) (by decide)
  cases hc

theorem digitsOf_spaced (h : Spaced cs text) (hcs : AreDigits base cs ds) (after : Bool) (done : List Nat) :
    digitsOf base after done text = some (done.reverse ++ ds, []) := by
  have hdigit {c : Char} {d : Nat} (hc : digitValue? c = some d ∧ d < base) (after : Bool)
      (done : List Nat) (rest : List Char) :
      digitsOf base after done (c :: rest) = digitsOf base true (d :: done) rest := by
    simp [digitsOf, ne_of_digitValue? hc.1 (by decide : digitValue? '_' = none), hc.1, Option.filter, hc.2]
  induction h generalizing ds after done with
  | last c =>
    rcases hcs with _ | ⟨hc, _ | _⟩
    rw [hdigit hc, digitsOf]
    simp
  | cons c _ ih =>
    rcases hcs with _ | ⟨hc, hcs⟩
    simp [hdigit hc, ih hcs]
  | gap c _ ih =>
    rcases hcs with _ | ⟨hc, hcs⟩
    rw [hdigit hc, digitsOf]
    simp [ih hcs]

theorem Spaced.mem (h : Spaced cs text) : ∀ c ∈ text, c = '_' ∨ c ∈ cs := by
  induction h <;> grind

/-! ## Integers -/

theorem toNat_of_isDigit (hc : c.isDigit) : 48 ≤ c.toNat ∧ c.toNat ≤ 57 := by
  simp only [Char.isDigit, Bool.and_eq_true, decide_eq_true_eq] at hc
  exact ⟨UInt32.le_iff_toNat_le.mp hc.1, UInt32.le_iff_toNat_le.mp hc.2⟩

theorem dropEndWhile_append_eq {p : Char → Bool} {cs ds : List Char} (hcs : ∀ c ∈ cs.getLast?, p c = false)
    (hds : ∀ d ∈ ds, p d = true) : Text.dropEndWhile p (cs ++ ds) = cs := by
  have hdropped : Text.dropEndWhile p ds = [] := by
    induction ds with
    | nil => rfl
    | cons d ds ih => simp_all [Text.dropEndWhile]
  rw [Text.dropEndWhile] at hdropped ⊢
  rw [List.foldr_append, hdropped]
  induction cs with
  | nil => rfl
  | cons c cs ih =>
    cases cs with
    | nil => simp [hcs c rfl]
    | cons c' cs => rw [List.foldr_cons, ih hcs, List.isEmpty_cons, Bool.false_and, if_neg Bool.false_ne_true]

/-- Visible characters of ASCII stay as they are. -/
theorem plainText_eq_self (h : ∀ c ∈ cs, 0x20 < c.toNat ∧ c.toNat < 0x7f) : plainText cs = cs := by
  have hmap : cs.map plainChar = cs := by
    exact (List.map_congr_left fun c hc => if_pos (h c hc).2).trans (List.map_id' _)
  have hmargin : ∀ c ∈ cs, isMargin c = false := by
    intro c hc
    have hcode := h c hc
    have hblank : c ≠ ' ' := by
      rintro rfl
      exact absurd hcode.1 (by decide)
    simp [isMargin, hblank]
    omega
  have hdrop : cs.dropWhile isMargin = cs := by
    cases cs with
    | nil => rfl
    | cons c cs => rw [List.dropWhile_cons, hmargin c List.mem_cons_self]; rfl
  have hend := dropEndWhile_append_eq (fun c hc => hmargin c (List.mem_of_getLast? hc)) (List.forall_mem_nil _)
  rw [List.append_nil] at hend
  rw [plainText, hmap, Text.dropBothWhile, hdrop, hend]

theorem dropSign_of_digit (hc : digitValue? c = some d) : dropSign (c :: cs) = (false, c :: cs) := by
  have hminus : c ≠ '-' := ne_of_digitValue? hc (by decide)
  have hplus : c ≠ '+' := ne_of_digitValue? hc (by decide)
  simp [dropSign, hminus, hplus]

/-- The letters that announce a base are no digits in it. -/
theorem dropAnnouncement_of_digits (h : ∀ c ∈ text, c = '_' ∨ ∃ d, digitValue? c = some d ∧ d < base) :
    dropAnnouncement base text = text := by
  unfold dropAnnouncement
  split
  · next letter rest =>
    have hletters : ∀ x ∈ [('x', 16), ('X', 16), ('o', 8), ('O', 8), ('b', 2), ('B', 2)],
        x.1 ≠ '_' ∧ ∀ d < x.2, digitValue? x.1 ≠ some d := by
      decide
    rw [if_neg]
    intro hannounces
    obtain ⟨hne, hvalue⟩ := hletters (letter, base) (by grind)
    rcases h letter (by simp) with rfl | ⟨d, hd, hlt⟩
    · exact hne rfl
    · exact hvalue d hlt hd
  · rfl

theorem readInteger_eq (hvalid : base = 0 ∨ 2 ≤ base ∧ base ≤ 36)
    (hplain : ∀ c ∈ text, 0x20 < c.toNat ∧ c.toNat < 0x7f) (hsign : dropSign text = (negative, rest))
    (hbase : (if base == 0 then announcedBase rest else (base, false)) = (actual, onlyZero))
    (hdigits : digitsOf actual false [] (dropAnnouncement actual rest) = some (ds, []))
    (hshort : isBinaryBase actual = true ∨ ds.length ≤ digitLimit)
    (hzero : onlyZero = true → ofDigits actual ds = 0) : readInteger base text =
      .ok (if negative then -Int.ofNat (ofDigits actual ds) else Int.ofNat (ofDigits actual ds)) := by
  have hvalid : (base == 0 || (2 ≤ base && base ≤ 36)) = true := by simpa using hvalid
  have hshort : (!isBinaryBase actual && decide (ds.length > digitLimit)) = false := by
    rw [Bool.and_eq_false_iff, Bool.not_eq_false', decide_eq_false_iff_not]
    exact hshort.imp_right (by omega)
  have hzero : (onlyZero && ofDigits actual ds != 0) = false := by
    cases onlyZero <;> simp_all
  simp only [readInteger, plainText_eq_self hplain, hsign, hbase, hdigits, hvalid, hshort, hzero]
  rfl

/-- Only the digits of zero begin with a zero. -/
theorem announcedBase_toDigits (n : Nat) : announcedBase (Nat.toDigits 10 n) = (10, n == 0) := by
  cases n with
  | zero => rfl
  | succ n =>
    have hhead := head_toDigits_ne_zero (n + 1) (by omega)
    unfold announcedBase
    split
    · next heq => simp [heq] at hhead
    · next heq => simp [heq] at hhead
    · rfl

theorem length_toDigits_le (hlimit : 0 < limit) (hn : n < tenTo limit) : (Nat.toDigits 10 n).length
    ≤ limit :=
  (Nat.length_toDigits_le_iff (by decide) hlimit).mpr hn

/-- The digits of a number that may be written are read as that number. -/
theorem readInteger_toDigits (hn : n < unwritable) :
    readInteger 0 (Nat.toDigits 10 n) = .ok (n : Int) := by
  obtain ⟨ds, hds, hvalue⟩ := digits_toDigits (show 1 < 10 by decide) (by decide) n
  have hdigit : ∀ c ∈ Nat.toDigits 10 n, ∃ d, digitValue? c = some d ∧ d < 10 := hds.exists_of_mem
  have hlength : ds.length ≤ digitLimit := by
    rw [← List.Forall₂.length_eq hds]
    exact length_toDigits_le (by decide) hn
  have hsign : dropSign (Nat.toDigits 10 n) = (false, Nat.toDigits 10 n) := by
    cases hcs : Nat.toDigits 10 n with
    | nil => exact absurd hcs Nat.toDigits_ne_nil
    | cons c cs =>
      obtain ⟨d, hd, -⟩ := hdigit c (hcs ▸ List.mem_cons_self)
      exact dropSign_of_digit hd
  have hread : digitsOf 10 false [] (dropAnnouncement 10 (Nat.toDigits 10 n)) = some (ds, []) := by
    rw [dropAnnouncement_of_digits fun c hc => .inr (hdigit c hc),
      digitsOf_spaced (.refl Nat.toDigits_ne_nil) hds]
    rfl
  rw [readInteger_eq (.inl rfl) _ hsign (announcedBase_toDigits n) hread (.inr hlength), hvalue]
  · rfl
  · intro hzero
    rw [hvalue, beq_iff_eq.mp hzero]
  · intro c hc
    obtain ⟨d, hd, -⟩ := hdigit c hc
    exact code_of_digitValue? hd

end

end Walkthrough.Number

namespace Walkthrough.Text

open Number (AreDigits ofDigits digitValue? digits_toDigits ofDigits_replicate_zero)

/-! ## Characters between quotes -/

/-- The letters behind a backslash that stand for one character. -/
def letterPairs : List (Char × Char) :=
  [('\\', '\\'), ('\'', '\''), ('"', '"'), ('n', '\n'), ('r', '\r'), ('t', '\t')]

/-- The letters behind a backslash that announce a code, with the number of its digits. -/
def codeLetters : List (Char × Nat) :=
  [('x', 2), ('u', 4), ('U', 8)]

/-- Between quotes `s` stands for the character `c`. -/
inductive Spells (quote : Char) : List Char → Char → Prop where
  | plain {c : Char} (hc : c ∉ [quote, '\\', '\n', '\r', '\x00']) : Spells quote [c] c
  | letter {x c : Char} (hx : (x, c) ∈ letterPairs) : Spells quote ['\\', x] c
  | code {x c : Char} {digits : List Char} {ds : List Nat} (hx : (x, digits.length) ∈ codeLetters)
    (hdigits : AreDigits 16 digits ds) (hcode : ofDigits 16 ds = c.toNat) :
    Spells quote ('\\' :: x :: digits) c

/-- Between quotes the first text stands for the second. -/
inductive SpellsAll (quote : Char) : List Char → List Char → Prop where
  | nil : SpellsAll quote [] []
  | cons {s r cs : List Char} {c : Char} (hs : Spells quote s c) (hr : SpellsAll quote r cs) :
    SpellsAll quote (s ++ r) (c :: cs)

theorem hexText_digits (hwidth : 0 < width) (hcode : code < 16 ^ width) : (hexText width code).length
    = width ∧ ∃ ds, AreDigits 16 (hexText width code) ds ∧ ofDigits 16 ds = code := by
  obtain ⟨ds, hds, hvalue⟩ := digits_toDigits (show 1 < 16 by decide) (by decide) code
  have hlength : (Nat.toDigits 16 code).length ≤ width :=
    (Nat.length_toDigits_le_iff (by decide) hwidth).mpr hcode
  have hzeros (count : Nat) : AreDigits 16 (List.replicate count '0') (List.replicate count 0) := by
    induction count with
    | zero => exact .nil
    | succ count ih => exact .cons ⟨by decide, by decide⟩ ih
  refine ⟨?_, _, List.rel_append (hzeros _) hds, ?_⟩
  · simp only [hexText, List.length_append, List.length_replicate]
    omega
  · rw [ofDigits_replicate_zero, hvalue]

theorem codeEscape_spells : Spells quote (codeEscape c) c := by
  have hmax : c.toNat < 0x110000 := by
    have hvalid : c.toNat < 0xd800 ∨ 0xdfff < c.toNat ∧ c.toNat < 0x110000 := c.valid
    omega
  have hcode {width : Nat} {x : Char} (hx : (x, width) ∈ codeLetters) (hwidth : 0 < width)
      (hcode : c.toNat < 16 ^ width) : Spells quote ('\\' :: x :: hexText width c.toNat) c := by
    obtain ⟨hlength, ds, hds, hvalue⟩ := hexText_digits hwidth hcode
    exact .code (hlength.symm ▸ hx) hds hvalue
  unfold codeEscape
  split
  · exact hcode (by decide) (by decide) (by omega)
  · split
    · exact hcode (by decide) (by decide) (by omega)
    · exact hcode (by decide) (by decide) (by omega)

theorem quotedChar_spells (hquote : quote = '\'' ∨ quote = '"') (c : Char) :
    Spells quote (quotedChar isPrintable quote c) c := by
  unfold quotedChar
  split
  · next h =>
    refine .letter ?_
    simp only [Bool.or_eq_true, beq_iff_eq] at h
    rcases h with rfl | rfl
    · rcases hquote with rfl | rfl <;> decide
    · decide
  · next hspecial =>
    split
    · next h => exact .letter (beq_iff_eq.mp h ▸ by decide)
    · split
      · next h => exact .letter (beq_iff_eq.mp h ▸ by decide)
      · next hnewline =>
        split
        · next h => exact .letter (beq_iff_eq.mp h ▸ by decide)
        · next hreturn =>
          split
          · next hprintable =>
            refine .plain ?_
            have hnull : c ≠ '\x00' := by
              rintro rfl
              exact absurd hprintable (by decide)
            simp_all
          · exact codeEscape_spells

theorem chooseQuote_cases (cs : List Char) : chooseQuote cs = '\'' ∨ chooseQuote cs = '"' := by
  rw [chooseQuote]
  split
  · exact .inr rfl
  · exact .inl rfl

theorem quoted_toList (value : String) :
    (quoted value).toList =
      chooseQuote value.toList :: (quotedBody isPrintable value.toList ++ [chooseQuote value.toList]) :=
  String.toList_ofList ..

theorem quotedBody_spells (hquote : quote = '\'' ∨ quote = '"') (cs : List Char) :
    SpellsAll quote (cs.flatMap (quotedChar isPrintable quote)) cs := by
  induction cs with
  | nil => exact .nil
  | cons c cs ih => exact .cons (quotedChar_spells hquote c) ih

/-! ## Escapes are resolved -/

theorem mapM_digitValue? (h : AreDigits 16 cs ds) :
    cs.mapM (fun c => (digitValue? c).filter (· < 16)) = some ds := by
  induction h with
  | nil => rfl
  | @cons c d cs ds hc _ ih =>
    have hdigit : (digitValue? c).filter (· < 16) = some d := by simp [hc.1, Option.filter, hc.2]
    rw [List.mapM_cons, ih, hdigit]
    rfl

theorem hexCode?_append (h : AreDigits 16 cs ds) (r : List Char) :
    hexCode? cs.length (cs ++ r) = some (ofDigits 16 ds) := by
  simp [hexCode?, mapM_digitValue? h]

theorem charOfCode?_toNat (c : Char) : charOfCode? c.toNat = some c := by
  have hvalid : c.toNat.isValidChar := c.valid
  rw [charOfCode?, if_pos hvalid, Char.ofNat_toNat]

theorem Spells.unescapeFrom_append (h : Spells quote s c) (fuel : Nat) (done r : List Char) :
    unescapeFrom (fuel + 1) done (s ++ r) = unescapeFrom fuel (c :: done) r := by
  cases h with
  | plain hc =>
    have hbackslash : (c == '\\') = false := by
      rw [beq_eq_false_iff_ne]
      rintro rfl
      simp at hc
    rw [List.singleton_append, unescapeFrom, hbackslash]
    rfl
  | letter hx =>
    simp only [letterPairs, List.mem_cons, List.not_mem_nil, or_false, Prod.mk.injEq] at hx
    rcases hx with ⟨rfl, rfl⟩ | ⟨rfl, rfl⟩ | ⟨rfl, rfl⟩ | ⟨rfl, rfl⟩ | ⟨rfl, rfl⟩ | ⟨rfl, rfl⟩ <;> rfl
  | @code x _ digits ds hx hdigits hcode =>
    have hread := hexCode?_append hdigits r
    have hmeaning : escapeMeaning? (x :: (digits ++ r)) = some ([c], digits.length + 1) := by
      simp only [codeLetters, List.mem_cons, List.not_mem_nil, or_false, Prod.mk.injEq] at hx
      rcases hx with ⟨rfl, hlength⟩ | ⟨rfl, hlength⟩ | ⟨rfl, hlength⟩ <;>
        · rw [hlength] at hread
          simp [escapeMeaning?, hread, hcode, charOfCode?_toNat, hlength]
    rw [List.cons_append, List.cons_append, unescapeFrom]
    simp [hmeaning]

theorem SpellsAll.unescapeFrom_eq (h : SpellsAll quote s cs) (hfuel : s.length < fuel) (done : List Char)
    : unescapeFrom fuel done s = some (done.reverse ++ cs) := by
  induction h generalizing fuel done with
  | nil =>
    obtain ⟨fuel, rfl⟩ : ∃ rest, fuel = rest + 1 := ⟨fuel - 1, by omega⟩
    simp [unescapeFrom]
  | @cons s r cs c hs _ ih =>
    have hpositive : 0 < s.length := by cases hs <;> simp
    rw [List.length_append] at hfuel
    obtain ⟨fuel, rfl⟩ : ∃ rest, fuel = rest + 1 := ⟨fuel - 1, by omega⟩
    rw [hs.unescapeFrom_append, ih (by omega)]
    simp

theorem SpellsAll.unescape? (h : SpellsAll quote s cs) : Text.unescape? s = some cs := by
  rw [Text.unescape?, h.unescapeFrom_eq (by omega)]
  rfl

/-! ## Literals are read -/

/-- The characters that an escape always stands for. -/
theorem Spells.not_mem (h : Spells quote s c) : ∀ y ∈ ['\n', '\r', '\x00'], y ∉ s := by
  intro y hy hmem
  simp only [List.mem_cons, List.not_mem_nil, or_false] at hy
  cases h with
  | plain hc =>
    obtain rfl := List.mem_singleton.mp hmem
    rcases hy with rfl | rfl | rfl <;> simp at hc
  | letter hx =>
    simp only [letterPairs, List.mem_cons, List.not_mem_nil, or_false, Prod.mk.injEq] at hx
    rcases hx with ⟨rfl, rfl⟩ | ⟨rfl, rfl⟩ | ⟨rfl, rfl⟩ | ⟨rfl, rfl⟩ | ⟨rfl, rfl⟩ | ⟨rfl, rfl⟩ <;>
      rcases hy with rfl | rfl | rfl <;> simp at hmem
  | @code x _ digits ds hx hdigits _ =>
    have hdigit : y ∉ digits := by
      intro hmem
      obtain ⟨d, hd, -⟩ := hdigits.exists_of_mem y hmem
      have hnone : digitValue? y = none := by rcases hy with rfl | rfl | rfl <;> decide
      rw [hnone] at hd
      cases hd
    simp only [codeLetters, List.mem_cons, List.not_mem_nil, or_false, Prod.mk.injEq] at hx
    rcases hx with ⟨rfl, -⟩ | ⟨rfl, -⟩ | ⟨rfl, -⟩ <;>
      rcases hy with rfl | rfl | rfl <;> simp [hdigit] at hmem

theorem SpellsAll.not_mem (h : SpellsAll quote s cs) : ∀ y ∈ ['\n', '\r', '\x00'], y ∉ s := by
  intro y hy
  induction h with
  | nil => exact List.not_mem_nil
  | cons hs _ ih => simp [hs.not_mem y hy, ih]

/-- No quote of the text itself comes first between its quotes. -/
theorem SpellsAll.head_ne (h : SpellsAll quote s cs) (hquote : quote ≠ '\\') : s.head? ≠ some quote := by
  cases h with
  | nil => simp
  | cons hs _ =>
    cases hs with
    | plain hc =>
      intro heq
      simp_all
    | letter _ | code _ _ _ => simpa using hquote.symm

end Walkthrough.Text

namespace Walkthrough.Reading

open Text

theorem plainLines_eq (h : '\r' ∉ cs) : plainLines cs = cs := by
  induction cs with
  | nil => rfl
  | cons c cs ih =>
    have hc : c ≠ '\r' := by
      rintro rfl
      exact h List.mem_cons_self
    unfold plainLines
    split <;> simp_all

theorem breaksLine_eq_false (h : '\n' ∉ cs) : breaksLine cs = false := by
  fun_induction breaksLine cs with
  | case1 => rfl
  | case2 c rest ih => exact ih fun hmem => h (by simp [hmem])
  | case3 c rest _ ih =>
    have hc : (c == '\n') = false := by
      rw [beq_eq_false_iff_ne]
      rintro rfl
      exact h List.mem_cons_self
    rw [hc, ih fun hmem => h (List.mem_cons_of_mem _ hmem)]
    rfl

/-- A text between quotes is read as that text. -/
theorem literalValue?_quoted (value : String) : literalValue? "" (quoted value) = some value := by
  have hquote := chooseQuote_cases value.toList
  have hbody := quotedBody_spells hquote value.toList
  have htext := quoted_toList value
  rw [quotedBody] at htext
  generalize chooseQuote value.toList = quote at *
  generalize value.toList.flatMap (quotedChar isPrintable quote) = body at *
  have hspecial : quote ≠ '\r' ∧ quote ≠ '\x00' ∧ quote ≠ '\\' := by
    rcases hquote with rfl | rfl <;> decide
  have hreturn : '\r' ∉ quote :: (body ++ [quote]) := by
    simp [hbody.not_mem '\r' (by decide), hspecial.1.symm]
  have hnull := hbody.not_mem '\x00' (by decide)
  have hbreaks := breaksLine_eq_false (hbody.not_mem '\n' (by decide))
  have hsingle : Syntax.startsWith [quote, quote, quote] (quote :: (body ++ [quote])) = false := by
    have hhead := hbody.head_ne hspecial.2.2
    cases body with
    | nil => simp [Syntax.startsWith, List.isPrefixOf]
    | cons x body =>
      have hx : (quote == x) = false := by
        rw [beq_eq_false_iff_ne]
        rintro rfl
        simp at hhead
      simp [Syntax.startsWith, List.isPrefixOf, hx]
  rw [literalValue?, htext, String.length_empty, List.drop_zero, plainLines_eq hreturn]
  simp [guard, hquote, hspecial.2.1.symm, hnull, hsingle, hbreaks, hbody.unescape?]

end Walkthrough.Reading
