import Walkthrough.Proofs.Renaming

/-!
# Reading what is alike

A function that only reads values gives the same for values that are alike in linked stores: the same
text, the same truth, values that are alike, or the same failure.  This module has one lemma for each
of them, beginning with scalars and tables; `Agrees` is what the lemmas say about results that may be
failures.
-/

namespace Walkthrough

open Number Text

variable {failure : Failure}

/-! ## Results -/

/-- A failure that is not the end of a budget. -/
def Failure.IsPlain : Failure → Prop
  | .budget _ => False
  | _ => True

/-- The faults that some operation lets through.  Everywhere else a fault becomes an error. -/
def Fault.Escapes : Fault → Prop
  | .overflow .size | .overflow .word | .overflow .character => True
  | .overflow .intToFloat | .overflow .rounding => True
  | .integerText | .missingKey _ | .crowdedConditional => True
  | _ => False

/-- A failure that an operation may end with: it is not the end of a budget, and a fault is one of
those that escape. -/
def Failure.Arises : Failure → Prop
  | .budget _ => False
  | .fault cause => cause.Escapes
  | _ => True

theorem Failure.Arises.isPlain (h : failure.Arises) : failure.IsPlain := by
  cases failure with
  | budget cause => exact h
  | _ => trivial

theorem Failure.IsPlain.arises (h : failure.IsPlain) (hfault : ∀ cause, failure ≠ .fault cause) :
    failure.Arises := by
  cases failure with
  | budget cause => exact h
  | fault cause => exact absurd rfl (hfault cause)
  | _ => trivial

/-- Results that agree, and a failure is one that an operation may end with. -/
abbrev Agrees {α β : Type} (R : α → β → Prop) : Except Failure α → Except Failure β → Prop :=
  Agree Failure.Arises R

section

variable {ε α β γ δ : Type} {plain : ε → Prop} {x : Except ε α}

theorem Agree.bind {f : α → Except ε γ} {g : β → Except ε δ} (h : Agree plain R x y)
    (hf : ∀ a b, R a b → Agree plain Q (f a) (g b)) : Agree plain Q (x >>= f) (y >>= g) := by
  cases h with
  | ok h => exact hf _ _ h
  | error h => exact .error h

theorem Agree.mapM {f : α → Except ε γ} {g : β → Except ε δ} {l : List α} {l' : List β}
    (hf : ∀ a b, R a b → Agree plain Q (f a) (g b)) (hl : List.Forall₂ R l l') :
    Agree plain (List.Forall₂ Q) (l.mapM f) (l'.mapM g) := by
  induction hl with
  | nil => exact .ok .nil
  | cons hab _ ih =>
    rw [List.mapM_cons, List.mapM_cons]
    exact (hf _ _ hab).bind fun _ _ hc => ih.bind fun _ _ hcs => .ok (.cons hc hcs)

theorem Agree.weaken (h : Agree plain R x y) (hplain : ∀ failure, plain failure → plain' failure) :
    Agree plain' R x y := by
  cases h with
  | ok h => exact .ok h
  | error h => exact .error (hplain _ h)

/-- A result that agrees with itself. -/
theorem Agree.self (h : ∀ failure, x = .error failure → plain failure) : Agree plain Eq x x := by
  cases x with
  | ok a => exact .ok rfl
  | error failure => exact .error (h failure rfl)

theorem Agree.eq {y : Except ε α} (h : Agree plain Eq x y) : x = y := by
  cases h with
  | ok h => rw [h]
  | error _ => rfl

end

/-! ## Scalars -/

section

variable {ρ : Renaming} {x y a a' b b' : Scalar}

theorem Scalar.Like.show_eq (h : x.Like ρ y) : x.show = y.show := by
  cases h <;> rfl

theorem Scalar.Like.typeName_eq (h : x.Like ρ y) : x.typeName = y.typeName := by
  cases h <;> rfl

theorem Scalar.Like.isTruthy_eq (h : x.Like ρ y) : x.isTruthy = y.isTruthy := by
  cases h <;> rfl

theorem Scalar.Like.isNan_eq (h : x.Like ρ y) : x.isNan = y.isNan := by
  cases h <;> rfl

theorem Scalar.Like.normal (h : x.Like ρ y) : x.normal.Like ρ y.normal := by
  cases h with
  | float value =>
    rw [Scalar.normal.eq_def]
    dsimp only
    split
    · exact .int _
    · exact .float _
  | nan h => exact .nan h
  | none => exact .none
  | bool value => exact .int _
  | int value => exact .int _
  | str value => exact .str _

theorem Scalar.Like.eq_iff (hmarks : OneToOne ρ.mark m n) (ha : a.Like ρ a') (hb : b.Like ρ b') :
    a = b ↔ a' = b' := by
  cases ha <;> cases hb <;> simp only [reduceCtorEq, Scalar.bool.injEq, Scalar.int.injEq,
    Scalar.float.injEq, Scalar.str.injEq, Scalar.nan.injEq]
  next h _ _ h' => exact hmarks.eq_iff h h'

theorem Scalar.Like.same_eq (hmarks : OneToOne ρ.mark m n) (ha : a.Like ρ a') (hb : b.Like ρ b') :
    a.same b = a'.same b' := by
  rw [Scalar.same, Scalar.same, Bool.eq_iff_iff, beq_iff_eq, beq_iff_eq]
  exact ha.normal.eq_iff hmarks hb.normal

theorem Scalar.Like.equal_eq (hmarks : OneToOne ρ.mark m n) (ha : a.Like ρ a') (hb : b.Like ρ b') :
    a.equal b = a'.equal b' := by
  rw [Scalar.equal, Scalar.equal, ha.same_eq hmarks hb, ha.isNan_eq]

theorem Scalar.Like.complexEquals_eq (h : x.Like ρ y) (re im : Float) :
    complexEqualsScalar re im x = complexEqualsScalar re im y := by
  cases h <;> rfl

theorem Scalar.Like.compareNumbers_eq (ha : a.Like ρ a') (hb : b.Like ρ b') :
    compareNumbers a b = compareNumbers a' b' := by
  rw [compareNumbers, compareNumbers]
  have ha' := ha.normal
  have hb' := hb.normal
  generalize a.normal = x at ha' ⊢
  generalize a'.normal = x' at ha' ⊢
  generalize b.normal = y at hb' ⊢
  generalize b'.normal = y' at hb' ⊢
  cases ha' <;> cases hb' <;> rfl

/-- Only an integer with too many digits has no text. -/
theorem Scalar.show_error (h : x.show = .error fault) : fault = .integerText := by
  cases x with
  | int value =>
    rw [Scalar.show, intText] at h
    split at h
    · cases h
    · cases h
      rfl
  | bool value => cases value <;> cases h
  | _ => cases h

theorem ofFault_show_agree (h : x.Like ρ y) : Agrees Eq (ofFault x.show) (ofFault y.show) := by
  rw [h.show_eq]
  refine Agree.self fun failure hfailure => ?_
  cases hshow : y.show with
  | ok text => rw [hshow] at hfailure; cases hfailure
  | error fault =>
    rw [hshow, Scalar.show_error hshow] at hfailure
    cases hfailure
    trivial

end

/-! ## Values without a look at the store -/

section

variable {ρ : Renaming} {v w : Value}

theorem Value.Like.kind_eq (h : v.Like ρ w) : v.kind = w.kind := by
  cases h with
  | scalar h => exact h.typeName_eq
  | _ => rfl

theorem Value.Like.typeName_eq (h : v.Like ρ w) : v.typeName = w.typeName := by
  cases h with
  | scalar h => exact congrArg Except.ok h.typeName_eq
  | _ => rfl

theorem Value.Like.asInt?_eq (h : v.Like ρ w) : v.asInt? = w.asInt? := by
  cases h with
  | scalar h => cases h <;> rfl
  | _ => rfl

theorem Value.Like.toNum?_eq (h : v.Like ρ w) : v.toNum? = w.toNum? := by
  cases h with
  | scalar h => cases h <;> rfl
  | _ => rfl

theorem Value.Like.isFunction_eq (h : v.Like ρ w) : v.isFunction = w.isFunction := by
  cases h <;> rfl

theorem Value.arises_typeName (h : v.typeName = .error failure) :
    failure.Arises := by
  unfold Value.typeName at h
  split at h <;> cases h
  trivial

theorem Value.Like.typeName_agree (h : v.Like ρ w) : Agrees Eq v.typeName w.typeName := by
  rw [h.typeName_eq]
  exact Agree.self fun _ => Value.arises_typeName

/-- An error that names the type of a value. -/
theorem Value.Like.throw_agree (h : v.Like ρ w) (cause : String → EvalError) :
    Agrees R (do throw (.error (cause (← v.typeName)))) (do throw (.error (cause (← w.typeName)))) :=
  h.typeName_agree.bind fun _ _ hab => by
    rw [hab]
    exact .error trivial

theorem Value.Like.toKey_agree (h : v.Like ρ w) : Agrees (Key.Like ρ) v.toKey w.toKey := by
  cases h with
  | scalar h => exact .ok h
  | complex re im => exact Value.Like.throw_agree (ρ := ρ) (.complex re im) _
  | list h => exact Value.Like.throw_agree (.list h) _
  | dict h => exact Value.Like.throw_agree (.dict h) _
  | function h => exact Value.Like.throw_agree (.function h) _

theorem Value.Like.eq_iff {s t : Store} {a a' b b' : Value} (hρ : ρ.Links s t) (ha : a.Like ρ a')
    (hb : b.Like ρ b') : a = b ↔ a' = b' := by
  cases ha <;> cases hb <;> simp only [reduceCtorEq, Value.scalar.injEq, Value.complex.injEq,
    Value.list.injEq, Value.dict.injEq, Value.function.injEq]
  · next h _ _ h' => exact h.eq_iff hρ.marks h'
  · next h _ _ h' => exact hρ.lists.eq_iff h h'
  · next h _ _ h' => exact hρ.dicts.eq_iff h h'
  · next h _ _ h' => exact hρ.functions.eq_iff h h'

theorem Value.Like.beq_eq {s t : Store} {a a' b b' : Value} (hρ : ρ.Links s t) (ha : a.Like ρ a')
    (hb : b.Like ρ b') : (a == b) = (a' == b') := by
  rw [Bool.eq_iff_iff, beq_iff_eq, beq_iff_eq]
  exact ha.eq_iff hρ hb

end

/-! ## Tables -/

theorem any_eq (h : List.Forall₂ R l l') (hpq : ∀ a b, R a b → p a = q b) : l.any p = l'.any q := by
  induction h with
  | nil => rfl
  | cons hab _ ih => rw [List.any_cons, List.any_cons, hpq _ _ hab, ih]

section

variable {κ : Type} [BEq κ] {K : κ → κ → Prop} {t u : Table κ Value}

/-- Keys that are alike are found alike. -/
def KeysFit {κ : Type} [BEq κ] (K : κ → κ → Prop) : Prop :=
  ∀ {a a' b b' : κ}, K a a' → K b b' → (a == b) = (a' == b')

theorem Table.Like.find? (hK : KeysFit K) (h : t.Like K ρ u) (hkey : K key key') :
    Option.Rel (EntryLike K ρ) (t.find? key) (u.find? key') := by
  unfold Table.find?
  obtain ⟨entries⟩ := t
  obtain ⟨entries'⟩ := u
  change List.Forall₂ _ entries entries' at h
  induction h with
  | nil => exact .none
  | @cons a b _ _ hab _ ih =>
    rw [List.find?_cons, List.find?_cons, hK hab.1 hkey]
    split
    · exact .some hab
    · exact ih

theorem Table.Like.get? (hK : KeysFit K) (h : t.Like K ρ u) (hkey : K key key') :
    Option.Rel (Value.Like ρ) (t.get? key) (u.get? key') := by
  have hfind := h.find? hK hkey
  rw [Table.get?, Table.get?]
  generalize t.find? key = x at hfind ⊢
  generalize u.find? key' = y at hfind ⊢
  cases hfind with
  | some h => exact .some h.2
  | none => exact .none

theorem Table.Like.contains (hK : KeysFit K) (h : t.Like K ρ u) (hkey : K key key') :
    t.contains key = u.contains key' :=
  any_eq h fun _ _ hab => hK hab.1 hkey

theorem Table.Like.insert (hK : KeysFit K) (h : t.Like K ρ u) (hkey : K key key') (hvw : v.Like ρ w) :
    (t.insert key v).Like K ρ (u.insert key' w) := by
  rw [Table.insert, Table.insert, h.contains hK hkey]
  split
  · refine List.forall₂_map_left_iff.mpr (List.forall₂_map_right_iff.mpr (List.Forall₂.imp ?_ h))
    intro a b hab
    rw [hK hab.1 hkey]
    split
    · exact ⟨hab.1, hvw⟩
    · exact hab
  · exact List.rel_append h (.cons ⟨hkey, hvw⟩ .nil)

theorem Table.Like.insertMany (hK : KeysFit K) {entries entries' : List (κ × Value)}
    (h : t.Like K ρ u) (hentries : List.Forall₂ (EntryLike K ρ) entries entries') :
    (t.insertMany entries).Like K ρ (u.insertMany entries') := by
  induction hentries generalizing t u with
  | nil => exact h
  | cons hab _ ih => exact ih (h.insert hK hab.1 hab.2)

theorem Table.Like.erase (hK : KeysFit K) (h : t.Like K ρ u) (hkey : K key key') :
    (t.erase key).Like K ρ (u.erase key') := by
  refine List.rel_filter (fun a b hab => ?_) h
  dsimp only
  rw [hK hab.1 hkey]

omit [BEq κ] in
theorem Table.Like.keys (h : t.Like K ρ u) : List.Forall₂ K t.keys u.keys :=
  List.forall₂_map_left_iff.mpr (List.forall₂_map_right_iff.mpr (h.imp fun _ _ hab => hab.1))

omit [BEq κ] in
theorem Table.Like.values (h : t.Like K ρ u) : ValuesLike ρ t.values u.values :=
  List.forall₂_map_left_iff.mpr (List.forall₂_map_right_iff.mpr (h.imp fun _ _ hab => hab.2))

omit [BEq κ] in
theorem Table.Like.size_eq (h : t.Like K ρ u) : t.size = u.size :=
  List.Forall₂.length_eq h

end

/-- Names are found as they are. -/
theorem keysFit_name : KeysFit (Eq : String → String → Prop) := by
  rintro a _ b _ rfl rfl
  rfl

theorem keysFit_key (hmarks : OneToOne ρ.mark m n) : KeysFit (Key.Like ρ) :=
  fun ha hb => Scalar.Like.same_eq hmarks ha hb

/-! ## Truth -/

section

variable {ρ : Renaming} {v w a a' b b' : Value}

theorem List.Forall₂.isEmpty_eq (h : List.Forall₂ R l l') : l.isEmpty = l'.isEmpty := by
  cases h <;> rfl

theorem Renaming.Contents.size_eq (hρ : ρ.Contents s t) (hij : ρ.list i j) : (s.list i).size
    = (t.list j).size :=
  (hρ.list hij).length_eq

theorem Value.Like.isTruthy_eq (hρ : ρ.Contents s t) (h : v.Like ρ w) :
    v.isTruthy s = w.isTruthy t := by
  cases h with
  | scalar h => exact h.isTruthy_eq
  | complex re im => rfl
  | @list i j h =>
    rw [Value.isTruthy, Value.isTruthy, Array.isEmpty, Array.isEmpty, hρ.size_eq h]
  | @dict i j h =>
    rw [Value.isTruthy, Value.isTruthy, List.Forall₂.isEmpty_eq (hρ.dict h)]
  | function h => rfl

/-! ## Equality -/

/-- Functions stand for each other only if they compare equal alike. -/
theorem Function.Like.sameText_eq {f f' g g' : Function} (hf : f.Like ρ f') (hg : g.Like ρ g') :
    f.sameText g = f'.sameText g' := by
  rw [Function.sameText, Function.sameText, hf.name, hf.parameters, hf.body, hg.name, hg.parameters,
    hg.body]

/-- A way to compare values that agrees. -/
def ComparesAlike (ρ : Renaming) (equal equal' : Value → Value → Except Failure Bool) : Prop :=
  ∀ {a a' b b' : Value}, a.Like ρ a' → b.Like ρ b' → Agrees Eq (equal a b) (equal' a' b')

theorem equalLists_agree (hequal : ComparesAlike ρ equal equal') (has : ValuesLike ρ as as')
    (hbs : ValuesLike ρ bs bs') : Agrees Eq (equalLists equal as bs) (equalLists equal' as' bs') := by
  induction has generalizing bs bs' with
  | nil =>
    cases hbs with
    | nil => exact .ok rfl
    | cons _ _ => exact .ok rfl
  | cons ha _ ih =>
    cases hbs with
    | nil => exact .ok rfl
    | cons hb hbs =>
      refine (hequal ha hb).bind ?_
      rintro holds _ rfl
      cases holds with
      | true => exact ih hbs
      | false => exact .ok rfl

theorem equalEntries_agree (hequal : ComparesAlike ρ equal equal') (hK : KeysFit (Key.Like ρ))
    (hother : DictLike ρ other other') (h : List.Forall₂ (EntryLike (Key.Like ρ) ρ) entries entries') :
    Agrees Eq (equalEntries equal other entries) (equalEntries equal' other' entries') := by
  induction h with
  | nil => exact .ok rfl
  | @cons entry entry' _ _ hentry _ ih =>
    rw [equalEntries, equalEntries]
    have hfound := hother.get? hK hentry.1
    generalize other.get? entry.1 = found at hfound ⊢
    generalize other'.get? entry'.1 = found' at hfound ⊢
    cases hfound with
    | none => exact .ok rfl
    | some hvalue =>
      refine (hequal hentry.2 hvalue).bind ?_
      rintro holds _ rfl
      cases holds with
      | true => exact ih
      | false => exact .ok rfl

/-- Values that are alike compare alike. -/
theorem sameValue_agree (hρ : ρ.Links s t) (depth : Nat) :
    ComparesAlike ρ (sameValue s depth) (sameValue t depth) := by
  induction depth using Nat.strongRecOn with
  | ind depth ih =>
  intro a a' b b' ha hb
  rw [sameValue.eq_def, sameValue.eq_def t]
  dsimp only
  rw [ha.beq_eq hρ hb]
  split
  · exact .ok rfl
  -- What is left are values of two kinds, and the pairs of one kind.
  · cases ha <;> cases hb <;> first | exact .ok rfl | skip
    · next h _ _ h' _ => exact .ok (h.same_eq hρ.marks h')
    · next h re im _ => exact .ok (h.complexEquals_eq re im)
    · next re im _ _ h _ => exact .ok (h.complexEquals_eq re im)
    · next h _ _ h' _ =>
      cases depth with
      | zero => exact .error trivial
      | succ depth =>
        dsimp only
        rw [hρ.size_eq h, hρ.size_eq h']
        split
        · exact equalLists_agree (ih depth depth.lt_succ_self) (hρ.list h) (hρ.list h')
        · exact .ok rfl
    · next h _ _ h' _ =>
      cases depth with
      | zero => exact .error trivial
      | succ depth =>
        dsimp only
        rw [(hρ.dict h).size_eq, (hρ.dict h').size_eq]
        split
        · exact equalEntries_agree (ih depth depth.lt_succ_self) (keysFit_key hρ.marks) (hρ.dict h')
            (hρ.dict h)
        · exact .ok rfl
    · next h _ _ h' _ => exact .ok ((hρ.function h).sameText_eq (hρ.function h'))

theorem equalValues_agree (hρ : ρ.Links s t) (ha : a.Like ρ a') (hb : b.Like ρ b') :
    Agrees Eq (equalValues s a b) (equalValues t a' b') := by
  have hsame := sameValue_agree hρ nestingLimit ha hb
  cases ha <;> cases hb <;> first | exact hsame | skip
  · next h _ _ h' => exact .ok (h.equal_eq hρ.marks h')
  · exact .ok rfl

theorem isAmong_agree (hρ : ρ.Links s t) (ha : a.Like ρ a') (h : ValuesLike ρ vs ws) :
    Agrees Eq (isAmong s a vs) (isAmong t a' ws) := by
  induction h with
  | nil => exact .ok rfl
  | cons hvw _ ih =>
    refine (sameValue_agree hρ nestingLimit hvw ha).bind ?_
    rintro holds _ rfl
    cases holds with
    | true => exact .ok rfl
    | false => exact ih

theorem position?_agree (hρ : ρ.Links s t) (ha : a.Like ρ a') (h : ValuesLike ρ vs ws) (start : Nat) :
    Agrees Eq (position? s a start vs) (position? t a' start ws) := by
  induction h generalizing start with
  | nil => exact .ok rfl
  | cons hvw _ ih =>
    refine (sameValue_agree hρ nestingLimit hvw ha).bind ?_
    rintro holds _ rfl
    cases holds with
    | true => exact .ok rfl
    | false => exact ih (start + 1)

theorem occurrences_agree (hρ : ρ.Links s t) (ha : a.Like ρ a') (h : ValuesLike ρ vs ws) :
    Agrees Eq (occurrences s a vs) (occurrences t a' ws) := by
  unfold occurrences
  generalize 0 = count
  induction h generalizing count with
  | nil => exact .ok rfl
  | cons hvw _ ih =>
    refine Agree.bind (R := Eq) ?_ ?_
    · refine (sameValue_agree hρ nestingLimit hvw ha).bind ?_
      rintro holds _ rfl
      exact .ok rfl
    · rintro count _ rfl
      exact ih count

theorem isIdentical_eq (hρ : ρ.Links s t) (ha : a.Like ρ a') (hb : b.Like ρ b') :
    isIdentical a b = isIdentical a' b' := by
  have hsame := ha.beq_eq hρ hb
  cases ha <;> cases hb <;> first | exact hsame | skip
  · next h _ _ h' =>
    rw [isIdentical, isIdentical, h.typeName_eq, h'.typeName_eq, h.equal_eq hρ.marks h']
  · rfl

/-! ## Order -/

/-- A failure to order values that may arise. -/
def OrderTrouble.Arises : OrderTrouble → Prop
  | .unordered .. => True
  | .failure cause => cause.Arises

theorem firstDifference_agree (hρ : ρ.Links s t) (has : ValuesLike ρ as as') (hbs : ValuesLike ρ bs bs')
    : Agrees (Option.Rel fun p q => p.1.Like ρ q.1 ∧ p.2.Like ρ q.2) (firstDifference s as bs)
      (firstDifference t as' bs') := by
  induction has generalizing bs bs' with
  | nil => exact .ok .none
  | cons ha _ ih =>
    cases hbs with
    | nil => exact .ok .none
    | cons hb hbs =>
      refine (sameValue_agree hρ nestingLimit ha hb).bind ?_
      rintro holds _ rfl
      cases holds with
      | true => exact ih hbs
      | false => exact .ok (.some ⟨ha, hb⟩)

theorem ordered_scalar_agree (op : OrderOp) (depth : Nat) (hx : x.Like ρ x') (hy : y.Like ρ y') :
    Agree OrderTrouble.Arises Eq (ordered s op depth (.scalar x) (.scalar y))
      (ordered t op depth (.scalar x') (.scalar y')) := by
  have hnumbers := hx.compareNumbers_eq hy
  rw [ordered.eq_def, ordered.eq_def t]
  cases hx <;> cases hy <;> dsimp only <;> (try rw [hnumbers]) <;>
    first | exact .ok rfl | exact .error trivial

/-- Values that are alike are ordered alike. -/
theorem ordered_agree (hρ : ρ.Links s t) (op : OrderOp) (depth : Nat) (ha : a.Like ρ a')
    (hb : b.Like ρ b') :
    Agree OrderTrouble.Arises Eq (ordered s op depth a b) (ordered t op depth a' b') := by
  induction depth using Nat.strongRecOn generalizing a a' b b' with
  | ind depth ih =>
  have hkinds : OrderTrouble.unordered op.symbol a.kind b.kind =
      .unordered op.symbol a'.kind b'.kind := by
    rw [ha.kind_eq, hb.kind_eq]
  cases ha <;> cases hb <;> first
    | exact ordered_scalar_agree op depth ‹_› ‹_›
    | (simp only [ordered]; rw [hkinds]; exact .error trivial)
    | skip
  next h _ _ h' =>
  rw [ordered.eq_def, ordered.eq_def t]
  cases depth with
  | zero => exact .error trivial
  | succ depth =>
    dsimp only
    rw [hρ.size_eq h, hρ.size_eq h']
    have hdifference := firstDifference_agree hρ (hρ.list h) (hρ.list h')
    revert hdifference
    generalize firstDifference s _ _ = x
    generalize firstDifference t _ _ = y
    rintro (hxy | hplain)
    · cases hxy with
      | none => exact .ok rfl
      | some hxy => exact ih depth depth.lt_succ_self hxy.1 hxy.2
    · exact .error hplain

theorem best_agree (hρ : ρ.Links s t) (op : OrderOp) (hchampion : champion.Like ρ champion')
    (h : ValuesLike ρ vs ws) :
    Agree OrderTrouble.Arises (Value.Like ρ) (best s op champion vs) (best t op champion' ws) := by
  induction h generalizing champion champion' with
  | nil => exact .ok hchampion
  | cons hvw _ ih =>
    refine (ordered_agree hρ op nestingLimit hvw hchampion).bind ?_
    rintro holds _ rfl
    cases holds with
    | true => exact ih hvw
    | false => exact ih hchampion

/-! ## Texts -/

theorem contains_eq (hρ : ρ.Links s t) (hvw : v.Like ρ w) (h : ValuesLike ρ vs ws) :
    vs.contains v = ws.contains w := by
  induction h with
  | nil => rfl
  | cons hab _ ih => rw [List.contains_cons, List.contains_cons, ih, hvw.beq_eq hρ hab]

theorem Function.Like.functionText_eq (h : f.Like ρ g) (closure : String) :
    functionText f closure = functionText g closure := by
  unfold functionText
  rw [h.name, h.parameters, h.body]

/-- Values that are alike are shown alike.  In full they are if the bindings of functions are. -/
theorem render_agree (hρ : ρ.Links s t) (style : RenderStyle) (hstyle : style = .full → ¬ ρ.terms.loose)
    (depth : Nat) (houter : ValuesLike ρ outer outer') (h : v.Like ρ w) :
    Agrees Eq (render style s depth outer v) (render style t depth outer' w) := by
  induction depth using Nat.strongRecOn generalizing outer outer' v w with
  | ind depth ih =>
  rw [render.eq_def, render.eq_def style t]
  cases h with
  | scalar h => exact ofFault_show_agree h
  | complex re im =>
    cases style with
    | plain => exact .error trivial
    | full => exact .ok rfl
  | list h =>
    dsimp only
    rw [contains_eq hρ (.list h) houter]
    split
    · exact .ok rfl
    cases depth with
    | zero => exact .error trivial
    | succ depth =>
      refine Agree.bind (R := List.Forall₂ Eq) ?_ ?_
      · exact Agree.mapM (fun _ _ hab => ih depth depth.lt_succ_self (.cons (.list h) houter) hab)
          (hρ.list h)
      · rintro texts texts' htexts
        rw [List.forall₂_eq_eq_eq] at htexts
        rw [htexts]
        exact .ok rfl
  | dict h =>
    dsimp only
    rw [contains_eq hρ (.dict h) houter]
    split
    · exact .ok rfl
    cases depth with
    | zero => exact .error trivial
    | succ depth =>
      refine Agree.bind (R := List.Forall₂ Eq) ?_ ?_
      · refine Agree.mapM ?_ (hρ.dict h)
        rintro entry entry' hentry
        refine (ofFault_show_agree hentry.1).bind ?_
        rintro shown _ rfl
        refine (ih depth depth.lt_succ_self (.cons (.dict h) houter) hentry.2).bind ?_
        rintro text _ rfl
        exact .ok rfl
      · rintro texts texts' htexts
        rw [List.forall₂_eq_eq_eq] at htexts
        rw [htexts]
        exact .ok rfl
  | function h =>
    have hlike := hρ.function h
    cases style with
    | plain =>
      dsimp only
      rw [hlike.name]
      exact .ok rfl
    | full =>
      cases depth with
      | zero => exact .error trivial
      | succ depth =>
        refine Agree.bind (R := List.Forall₂ Eq) ?_ ?_
        · refine Agree.mapM ?_ (hlike.closure (hstyle rfl))
          rintro ⟨name, value⟩ ⟨name', value'⟩ ⟨hname, hvalue⟩
          cases hname
          refine (ih depth depth.lt_succ_self houter hvalue).bind ?_
          rintro text _ rfl
          exact .ok rfl
        · rintro texts texts' htexts
          rw [List.forall₂_eq_eq_eq] at htexts
          rw [htexts, hlike.functionText_eq]
          exact .ok rfl

theorem repr_agree (hρ : ρ.Links s t) (h : v.Like ρ w) : Agrees Eq (v.repr s) (w.repr t) :=
  render_agree hρ .plain nofun nestingLimit .nil h

theorem text_agree (hρ : ρ.Links s t) (h : v.Like ρ w) : Agrees Eq (v.text s) (w.text t) := by
  have hrepr := repr_agree hρ h
  unfold Value.text
  split
  · cases h with
    | scalar h =>
      cases h
      exact .ok rfl
  · next hother =>
    split
    · cases h with
      | scalar h =>
        cases h
        exact absurd rfl (hother _)
    · exact hrepr

theorem printLine_agree (hρ : ρ.Links s t) (h : ValuesLike ρ vs ws) :
    Agrees Eq (printLine s vs) (printLine t ws) := by
  refine Agree.bind (R := List.Forall₂ Eq) (Agree.mapM (fun _ _ hab => repr_agree hρ hab) h) ?_
  intro texts texts' htexts
  rw [List.forall₂_eq_eq_eq] at htexts
  rw [htexts]
  exact .ok rfl

end

end Walkthrough
