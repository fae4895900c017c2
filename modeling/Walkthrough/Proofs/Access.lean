import Walkthrough.Proofs.Likeness

/-!
# Parts of what is alike

Parts, arrangements and formats: subscripts, slices and elements of values that are alike are alike,
lists of them are sorted alike, and formats are filled in alike.
-/

namespace Walkthrough

open Number Text Format

variable {ρ : Renaming} {v w : Value} {vs ws : List Value}

/-! ## Lists -/

section

variable {α β : Type} {l : List α} {l' : List β}

theorem getElem?_rel (h : List.Forall₂ R l l') (i : Nat) : Option.Rel R l[i]? l'[i]? := by
  induction h generalizing i with
  | nil => exact .none
  | cons hab _ ih =>
    cases i with
    | zero => exact .some hab
    | succ i => exact ih i

theorem array_getElem?_rel {xs : Array α} {ys : Array β} (h : List.Forall₂ R xs.toList ys.toList)
    (i : Nat) : Option.Rel R xs[i]? ys[i]? := by
  rw [← Array.getElem?_toList, ← Array.getElem?_toList]
  exact getElem?_rel h i

theorem zipIdx_rel (h : List.Forall₂ R l l') (start : Nat) :
    List.Forall₂ (fun p q => R p.1 q.1 ∧ p.2 = q.2) (l.zipIdx start) (l'.zipIdx start) := by
  induction h generalizing start with
  | nil => exact .nil
  | cons hab _ ih => exact .cons ⟨hab, rfl⟩ (ih (start + 1))

theorem Option.mapM_rel (hf : ∀ a b, R a b → Option.Rel Q (f a) (g b)) (h : List.Forall₂ R l l') :
    Option.Rel (List.Forall₂ Q) (l.mapM f) (l'.mapM g) := by
  induction h with
  | nil => exact .some .nil
  | @cons a b l l' hab _ ih =>
    rw [List.mapM_cons, List.mapM_cons]
    have hhead := hf a b hab
    revert hhead ih
    generalize f a = x
    generalize g b = y
    generalize l.mapM f = xs
    generalize l'.mapM g = ys
    rintro (hxs | _) (hx | _)
    · exact .some (.cons hx hxs)
    · exact .none
    · exact .none
    · exact .none

end

/-- Values without an identity are like themselves. -/
theorem valuesLike_texts (chars : List Char) :
    ValuesLike ρ (chars.map fun c => Value.str c.toString) (chars.map fun c => Value.str c.toString) := by
  refine List.forall₂_same.mpr fun value hvalue => ?_
  obtain ⟨c, _, rfl⟩ := List.mem_map.mp hvalue
  exact .scalar (.str _)

theorem valuesLike_keys (h : DictLike ρ d d') : ValuesLike ρ (d.keys.map fun key => .scalar key.spelling)
      (d'.keys.map fun key => .scalar key.spelling) :=
  List.forall₂_map_left_iff.mpr <| List.forall₂_map_right_iff.mpr <|
    h.keys.imp fun _ _ hkey => .scalar hkey

/-! ## Subscripts -/

theorem subscriptSequence_agree {α β : Type} {R : α → β → Prop} {xs : Array α} {ys : Array β}
    (h : List.Forall₂ R xs.toList ys.toList) (type rangeName : String) (hindex : v.Like ρ w) :
    Agrees R (subscriptSequence xs type rangeName v) (subscriptSequence ys type rangeName w) := by
  have hsize : xs.size = ys.size := h.length_eq
  unfold subscriptSequence
  rw [hindex.asInt?_eq, hsize]
  cases w.asInt? with
  | none => exact hindex.throw_agree _
  | some i =>
    have hfound : Option.Rel R ((indexPosition? ys.size i).bind (xs[·]?))
        ((indexPosition? ys.size i).bind (ys[·]?)) := by
      cases indexPosition? ys.size i with
      | none => exact .none
      | some place => exact array_getElem?_rel h place
    dsimp only
    generalize (indexPosition? ys.size i).bind (xs[·]?) = found at hfound ⊢
    generalize (indexPosition? ys.size i).bind (ys[·]?) = found' at hfound ⊢
    cases hfound with
    | some h => exact .ok h
    | none => exact .error trivial

theorem subscript_agree (hρ : ρ.Links s t) {a b : Value} (hobject : v.Like ρ w)
    (hindex : a.Like ρ b) : Agrees (Value.Like ρ) (subscript s v a) (subscript t w b) := by
  cases hobject with
  | complex re im => exact Value.Like.throw_agree (ρ := ρ) (.complex re im) _
  | function h => exact Value.Like.throw_agree (.function h) _
  | list h => exact subscriptSequence_agree (hρ.list h) _ _ hindex
  | @dict i j h =>
    refine hindex.toKey_agree.bind fun key key' hkey => ?_
    have hfound := (hρ.dict h).get? (keysFit_key hρ.marks) hkey
    generalize (s.dict i).get? key = found at hfound ⊢
    generalize (t.dict j).get? key' = found' at hfound ⊢
    cases hfound with
    | some h => exact .ok h
    | none =>
      refine (repr_agree hρ hindex).bind ?_
      rintro shown _ rfl
      exact .error trivial
  | scalar h =>
    cases h with
    | str text =>
      have hchars : List.Forall₂ Eq text.toList.toArray.toList text.toList.toArray.toList :=
        List.forall₂_refl _
      refine (subscriptSequence_agree hchars "str" "string" hindex).bind ?_
      rintro c _ rfl
      exact .ok (.scalar (.str _))
    | _ => exact .error trivial

/-! ## Slices -/

theorem sliceElements_rel {α β : Type} {R : α → β → Prop} {xs : Array α} {ys : Array β}
    (h : List.Forall₂ R xs.toList ys.toList) (start stop : Option Int) (step : Int) :
    List.Forall₂ R (sliceElements xs start stop step) (sliceElements ys start stop step) := by
  have hsize : xs.size = ys.size := h.length_eq
  unfold sliceElements
  rw [hsize]
  refine List.rel_filterMap (R := Eq) ?_ (List.forall₂_refl _)
  rintro count _ rfl
  exact array_getElem?_rel h _

theorem sliceBound_agree (h : v.Like ρ w) : Agrees Eq (sliceBound v) (sliceBound w) := by
  cases h with
  | scalar h => cases h <;> first | exact .ok rfl | exact .error trivial
  | _ => exact .error trivial

/-- Two parts that are alike. -/
inductive SlicePart.Like (ρ : Renaming) : SlicePart → SlicePart → Prop where
  | elements {xs ys : Array Value} (h : ValuesLike ρ xs.toList ys.toList) :
    SlicePart.Like ρ (.elements xs) (.elements ys)
  | text (text : String) : SlicePart.Like ρ (.text text) (.text text)

theorem sliceOf_agree (hρ : ρ.Links s t) {start start' stop stop' step step' : Value}
    (h : v.Like ρ w) (hstart : start.Like ρ start') (hstop : stop.Like ρ stop')
    (hstep : step.Like ρ step') :
    Agrees (SlicePart.Like ρ) (sliceOf s v start stop step) (sliceOf t w start' stop' step') := by
  -- The bounds are read in the same way for lists and for texts.
  have hbounds {p q : Option Int → Option Int → Int → SlicePart}
      (hparts : ∀ start stop step, SlicePart.Like ρ (p start stop step) (q start stop step)) :
      Agrees (SlicePart.Like ρ)
        (do
          let start ← sliceBound start
          let stop ← sliceBound stop
          let step ← sliceBound step
          if step.getD 1 == 0 then throw (.error .sliceStep)
          return p start stop (step.getD 1))
        (do
          let start ← sliceBound start'
          let stop ← sliceBound stop'
          let step ← sliceBound step'
          if step.getD 1 == 0 then throw (.error .sliceStep)
          return q start stop (step.getD 1)) := by
    refine (sliceBound_agree hstart).bind ?_
    rintro start _ rfl
    refine (sliceBound_agree hstop).bind ?_
    rintro stop _ rfl
    refine (sliceBound_agree hstep).bind ?_
    rintro step _ rfl
    split
    · exact .error trivial
    · exact .ok (hparts _ _ _)
  cases h with
  | complex re im => exact .error trivial
  | function h => exact .error trivial
  | dict h => exact .error trivial
  | @list i j h =>
    exact hbounds
      (p := fun start stop step => .elements (sliceElements (s.list i) start stop step).toArray)
      (q := fun start stop step => .elements (sliceElements (t.list j) start stop step).toArray)
      fun start stop step => .elements (sliceElements_rel (hρ.list h) start stop step)
  | scalar h =>
    cases h with
    | str text =>
      exact hbounds
        (p := fun start stop step =>
          .text (String.ofList (sliceElements text.toList.toArray start stop step)))
        fun _ _ _ => .text _
    | _ => exact .error trivial

/-! ## Elements -/

theorem loopElements_agree (hρ : ρ.Links s t) (limit : Int) (h : v.Like ρ w) :
    Agrees (ValuesLike ρ) (loopElements s limit v) (loopElements t limit w) := by
  have hlimit {vs ws : List Value} (hvalues : ValuesLike ρ vs ws) :
      Agrees (ValuesLike ρ)
        (do
          if Int.ofNat vs.length > limit then throw (.error (.iterationLimit vs.length limit))
          return vs)
        (do
          if Int.ofNat ws.length > limit then throw (.error (.iterationLimit ws.length limit))
          return ws) := by
    rw [hvalues.length_eq]
    split
    · exact .error trivial
    · exact .ok hvalues
  cases h with
  | complex re im => exact .error trivial
  | function h => exact .error trivial
  | dict h => exact .error trivial
  | list h => exact hlimit (hρ.list h)
  | scalar h =>
    cases h with
    | str text => exact hlimit (valuesLike_texts _)
    | _ => exact .error trivial

theorem elementsOf_agree (hρ : ρ.Links s t) (h : v.Like ρ w) :
    Agrees (ValuesLike ρ) (elementsOf s v) (elementsOf t w) := by
  cases h with
  | complex re im => exact Value.Like.throw_agree (ρ := ρ) (.complex re im) _
  | function h => exact Value.Like.throw_agree (.function h) _
  | list h => exact .ok (hρ.list h)
  | dict h => exact .ok (valuesLike_keys (hρ.dict h))
  | scalar h =>
    cases h with
    | str text => exact .ok (valuesLike_texts _)
    | _ => exact .error trivial

/-- Two pairs of values that are alike. -/
def PairLike (ρ : Renaming) (p q : Value × Value) : Prop := p.1.Like ρ q.1 ∧ p.2.Like ρ q.2

theorem pairsOf?_rel (hρ : ρ.Links s t) (h : ValuesLike ρ vs ws) :
    Option.Rel (List.Forall₂ (PairLike ρ)) (pairsOf? s vs) (pairsOf? t ws) := by
  refine Option.mapM_rel ?_ h
  intro v w hvw
  cases hvw with
  | @list i j h =>
    have helements := hρ.list h
    dsimp only
    generalize (s.list i).toList = xs at helements ⊢
    generalize (t.list j).toList = ys at helements ⊢
    rcases helements with _ | ⟨hkey, _ | ⟨hvalue, _ | _⟩⟩
    · exact .none
    · exact .none
    · exact .some ⟨hkey, hvalue⟩
    · exact .none
  | _ => exact .none

theorem updateEntries_agree (hρ : ρ.Links s t) (h : v.Like ρ w) :
    Agrees (List.Forall₂ (EntryLike (Key.Like ρ) ρ)) (updateEntries s v) (updateEntries t w) := by
  unfold updateEntries
  cases h with
  | complex re im => exact .error trivial
  | function h => exact .error trivial
  | scalar h => exact (Value.Like.scalar h).throw_agree _
  | dict h => exact .ok (hρ.dict h)
  | @list i j h =>
    have hpairs := pairsOf?_rel hρ (hρ.list h)
    dsimp only
    generalize pairsOf? s (s.list i).toList = xs at hpairs ⊢
    generalize pairsOf? t (t.list j).toList = ys at hpairs ⊢
    cases hpairs with
    | none => exact .error trivial
    | some hpairs =>
      refine Agree.mapM ?_ hpairs
      intro p q hpq
      exact hpq.1.toKey_agree.bind fun _ _ hkey => .ok ⟨hkey, hpq.2⟩

theorem joinedTexts_agree (h : ValuesLike ρ vs ws) :
    Agrees Eq (joinedTexts vs) (joinedTexts ws) := by
  rw [← List.forall₂_eq_eq_eq]
  refine Agree.mapM ?_ (zipIdx_rel h 0)
  rintro ⟨v, i⟩ ⟨w, j⟩ ⟨hvw, hij⟩
  cases hij
  cases hvw with
  | scalar h =>
    cases h with
    | str text => exact .ok rfl
    | _ => exact .error trivial
  | _ => exact .error trivial

/-! ## Sorting -/

/-- Two results of sorting that are alike: the elements are, and so is the failure if there is
one. -/
def SortsAlike (ρ : Renaming) :
    Except (Sorting.Stuck Value OrderTrouble) (List Value) →
      Except (Sorting.Stuck Value OrderTrouble) (List Value) → Prop
  | .ok vs, .ok ws => ValuesLike ρ vs ws
  | .error a, .error b => a.cause = b.cause ∧ a.cause.Arises ∧ ValuesLike ρ a.elements b.elements
  | _, _ => False

/-- Lists that are alike are sorted alike: the places of their elements are arranged in the same way,
because all comparisons have the same outcome. -/
theorem sort_agree (hρ : ρ.Links s t) (h : ValuesLike ρ vs ws) :
    SortsAlike ρ (Sorting.sort (lessThan s) vs) (Sorting.sort (lessThan t) ws) := by
  have helement (place : Nat) : (Sorting.elementAt vs.toArray place).Like ρ
      (Sorting.elementAt ws.toArray place) := by
    have hrel := getElem?_rel h place
    rw [Sorting.elementAt, Sorting.elementAt, Array.getD_eq_getD_getElem?,
      Array.getD_eq_getD_getElem?, List.getElem?_toArray, List.getElem?_toArray]
    generalize vs[place]? = a at hrel ⊢
    generalize ws[place]? = b at hrel ⊢
    cases hrel with
    | some hvw => exact hvw
    | none => exact .scalar .none
  have hagree (a b : Nat) := ordered_agree hρ .less nestingLimit (helement a) (helement b)
  have hless : Sorting.lessAt (lessThan s) (Sorting.elementAt vs.toArray) =
      Sorting.lessAt (lessThan t) (Sorting.elementAt ws.toArray) := by
    funext a b
    exact congrArg (Except.mapError _) (hagree a b).eq
  have helements (places : List Nat) : ValuesLike ρ (places.map (Sorting.elementAt vs.toArray))
      (places.map (Sorting.elementAt ws.toArray)) :=
    List.forall₂_map_left_iff.mpr <| List.forall₂_map_right_iff.mpr <|
      List.forall₂_same.mpr fun place _ => helement place
  rw [Sorting.sort, Sorting.sort, h.length_eq, hless]
  split
  · exact helements _
  · next a b places _ =>
    have hfailed := hagree a b
    simp only [lessThan]
    generalize ordered s .less nestingLimit _ _ = x at hfailed ⊢
    generalize ordered t .less nestingLimit _ _ = y at hfailed ⊢
    cases hfailed with
    | ok _ => exact helements places
    | error harises => exact ⟨rfl, harises, helements places⟩

/-! ## Formats -/

namespace Format

/-- A failure of a format for a plain reason. -/
def PercentTrouble.IsPlain : PercentTrouble → Prop
  | .failure cause => cause.IsPlain
  | _ => True

/-- Two formats under way that are alike. -/
structure Filling.Like (ρ : Renaming) (p q : Filling) : Prop where
  written : p.written = q.written
  next : Option.Rel (Value.Like ρ) p.next q.next

/-- Results that agree, with failures that are plain. -/
abbrev PercentAgrees {α β : Type} (R : α → β → Prop) :
    Except PercentTrouble α → Except PercentTrouble β → Prop :=
  Agree PercentTrouble.IsPlain R

/-- From formats that are alike the two computations go to formats that are, and to related
values. -/
def Fills {α β : Type} (ρ : Renaming) (x : PercentM α) (y : PercentM β) (R : α → β → Prop) : Prop :=
  ∀ p q, Filling.Like ρ p q →
    PercentAgrees (fun a b => R a.1 b.1 ∧ Filling.Like ρ a.2 b.2) (x.run p) (y.run q)

section

variable {α β γ δ : Type} {R : α → β → Prop}

theorem Fills.pure {a : α} {b : β} (h : R a b) : Fills ρ (pure a) (pure b) R :=
  fun _ _ hpq => .ok ⟨h, hpq⟩

theorem Fills.throw (h : trouble.IsPlain) : Fills ρ (throw trouble) (throw trouble) R :=
  fun _ _ _ => .error h

theorem Fills.bind {f : α → PercentM γ} {g : β → PercentM δ} (hx : Fills ρ x y R)
    (hf : ∀ a b, R a b → Fills ρ (f a) (g b) Q) : Fills ρ (x >>= f) (y >>= g) Q := by
  intro p q hpq
  exact (hx p q hpq).bind fun a b hab => hf a.1 b.1 hab.1 a.2 b.2 hab.2

theorem Fills.change (h : ∀ p q, Filling.Like ρ p q → Filling.Like ρ (f p) (g q)) :
    Fills ρ (modify f) (modify g) (Eq : Unit → Unit → Prop) :=
  fun p q hpq => .ok ⟨rfl, h p q hpq⟩

theorem Fills.modifyWritten (f : List Char → List Char) :
    Fills ρ (modify fun p => { p with written := f p.written })
      (modify fun p => { p with written := f p.written }) (Eq : Unit → Unit → Prop) :=
  Fills.change fun _ _ hpq => ⟨congrArg f hpq.written, hpq.next⟩

theorem Fills.lift (h : PercentAgrees R a b) :
    Fills ρ (liftM a : PercentM α) (liftM b : PercentM β) R := by
  intro p q hpq
  exact h.bind fun _ _ hab => .ok ⟨hab, hpq⟩

end

theorem takeValue_fills : Fills ρ takeValue takeValue (Value.Like ρ) := by
  rintro ⟨written, next⟩ ⟨written', next'⟩ ⟨hwritten, hnext⟩
  cases hnext with
  | none => exact .error trivial
  | some h => exact .ok ⟨h, hwritten, .none⟩

theorem readNumber_fills (limit : Nat) (trouble : FormatError) (text : List Char) :
    Fills ρ (readNumber limit trouble text) (readNumber limit trouble text) Eq := by
  unfold readNumber
  dsimp only
  split
  · exact Fills.pure rfl
  · split
    · exact Fills.throw trivial
    · exact Fills.pure rfl

theorem takeNumber_fills (limit : Nat) (overflow : Overflow) :
    Fills ρ (takeNumber limit overflow) (takeNumber limit overflow) Eq := by
  refine takeValue_fills.bind fun v w h => ?_
  rw [h.asInt?_eq]
  cases w.asInt? with
  | none => exact Fills.throw trivial
  | some i =>
    dsimp only
    split
    · exact Fills.throw trivial
    · exact Fills.pure rfl

theorem readWidth_fills (flags : Flags) (text : List Char) :
    Fills ρ (readWidth flags text) (readWidth flags text) Eq := by
  unfold readWidth
  split
  · refine (takeNumber_fills _ _).bind ?_
    rintro i _ rfl
    exact Fills.pure rfl
  · refine (readNumber_fills _ _ _).bind ?_
    rintro ⟨width, rest⟩ _ rfl
    exact Fills.pure rfl

theorem readPrecision_fills (text : List Char) :
    Fills ρ (readPrecision text) (readPrecision text) Eq := by
  unfold readPrecision
  split
  · refine (takeNumber_fills _ _).bind ?_
    rintro i _ rfl
    exact Fills.pure rfl
  · refine (readNumber_fills _ _ _).bind ?_
    rintro ⟨precision, rest⟩ _ rfl
    exact Fills.pure rfl
  · exact Fills.pure rfl

theorem selectKey_fills (hρ : ρ.Links s t) (h : v.Like ρ w) (key : String) :
    Fills ρ (selectKey s v key) (selectKey t w key) Eq := by
  cases h with
  | @dict i j h =>
    have hkey : Key.Like ρ ⟨.str key⟩ ⟨.str key⟩ := Scalar.Like.str key
    have hfound := (hρ.dict h).get? (keysFit_key hρ.marks) hkey
    unfold selectKey
    dsimp only
    generalize (s.dict i).get? ⟨.str key⟩ = found at hfound ⊢
    generalize (t.dict j).get? ⟨.str key⟩ = found' at hfound ⊢
    cases hfound with
    | none => exact Fills.throw trivial
    | some hvalue => exact Fills.change fun _ _ hpq => ⟨hpq.written, .some hvalue⟩
  | _ => exact Fills.throw trivial

theorem readSelection_fills (hρ : ρ.Links s t) (h : v.Like ρ w) (text : List Char) :
    Fills ρ (readSelection s v text) (readSelection t w text) Eq := by
  have hselect (key : String) (rest : List Char) :
      Fills ρ (do selectKey s v key; return rest) (do selectKey t w key; return rest) Eq := by
    refine (selectKey_fills hρ h key).bind ?_
    rintro _ _ rfl
    exact Fills.pure rfl
  cases text with
  | nil => cases h <;> exact Fills.pure rfl
  | cons c rest =>
    by_cases hc : c = '('
    · subst hc
      cases h with
      | dict h =>
        rw [readSelection, readSelection]
        cases readKey 1 [] rest with
        | none => exact Fills.throw trivial
        | some found => exact hselect found.1 found.2
      | list h =>
        rw [readSelection, readSelection]
        cases readKey 1 [] rest with
        | none => exact Fills.throw trivial
        | some found => exact hselect found.1 found.2
      | _ => exact Fills.throw trivial
    · have hplain (s : Store) (v : Value) : readSelection s v (c :: rest) = pure (c :: rest) := by
        unfold readSelection
        split
        · next heq => exact absurd (List.cons.inj heq).1 hc
        · next heq => exact absurd (List.cons.inj heq).1 hc
        · next heq _ _ => exact absurd (List.cons.inj heq).1 hc
        · rfl
      rw [hplain, hplain]
      exact Fills.pure rfl

theorem readField_fills (hρ : ρ.Links s t) (h : v.Like ρ w) (text : List Char) :
    Fills ρ (readField s v text) (readField t w text) Eq := by
  refine (readSelection_fills hρ h text).bind ?_
  rintro rest _ rfl
  refine (readWidth_fills _ _).bind ?_
  rintro ⟨flags, width, rest⟩ _ rfl
  refine (readPrecision_fills _).bind ?_
  rintro ⟨precision, rest⟩ _ rfl
  dsimp only
  split
  · exact Fills.pure rfl
  · exact Fills.throw trivial

theorem mapError_agree (h : Agrees Eq x y) :
    PercentAgrees Eq (x.mapError .failure) (y.mapError .failure) := by
  cases h with
  | ok h => exact .ok h
  | error h => exact .error h.isPlain

theorem integerValue_agree (field : Field) (h : v.Like ρ w) :
    PercentAgrees Eq (integerValue field v) (integerValue field w) := by
  unfold integerValue
  cases h with
  | scalar h =>
    cases h with
    | bool value => exact .ok rfl
    | int value => exact .ok rfl
    | float value =>
      dsimp only [Value.asInt?]
      split
      · exact .error trivial
      · split
        · exact .ok rfl
        · exact .error trivial
    | nan h =>
      dsimp only [Value.asInt?]
      split
      · exact .error trivial
      · exact .error trivial
    | _ => exact .error trivial
  | _ => exact .error trivial

theorem floatValue_agree (h : v.Like ρ w) : PercentAgrees Eq (floatValue v) (floatValue w) := by
  unfold floatValue
  rw [h.asInt?_eq]
  cases hint : w.asInt? with
  | some i =>
    dsimp only
    split
    · exact .ok rfl
    · exact .error trivial
  | none =>
    cases h with
    | scalar h => cases h <;> first | exact .ok rfl | exact .error trivial
    | _ => exact .error trivial

theorem characterValue_agree (h : v.Like ρ w) :
    PercentAgrees Eq (characterValue v) (characterValue w) := by
  unfold characterValue
  rw [h.asInt?_eq]
  cases hint : w.asInt? with
  | some i =>
    dsimp only
    split
    · exact .error trivial
    · exact .ok rfl
  | none =>
    cases h with
    | scalar h =>
      cases h with
      | str text =>
        dsimp only
        split
        · exact .ok rfl
        · exact .error trivial
      | _ => exact .error trivial
    | _ => exact .error trivial

theorem Field.integer_agree (field : Field) (i : Int) :
    PercentAgrees Eq ((field.integer i).mapError .format) ((field.integer i).mapError .format) := by
  cases field.integer i with
  | ok chars => exact .ok rfl
  | error cause => exact .error trivial

theorem Field.write_agree (hρ : ρ.Links s t) (hstrict : ¬ ρ.terms.loose) (field : Field)
    (h : v.Like ρ w) (position : Nat) :
    PercentAgrees Eq (field.write s v position) (field.write t w position) := by
  have hshown := mapError_agree (render_agree hρ .full (fun _ => hstrict) nestingLimit .nil h)
  have hlayout (f : String → List Char) :
      PercentAgrees Eq
        (do return f (← (render .full s nestingLimit [] v).mapError .failure))
        (do return f (← (render .full t nestingLimit [] w).mapError .failure)) := by
    refine hshown.bind ?_
    rintro text _ rfl
    exact .ok rfl
  unfold Field.write
  split
  · cases h with
    | scalar h =>
      cases h with
      | str text => exact .ok rfl
      | _ => exact hlayout fun text => field.layout false text.toList
    | _ => exact hlayout fun text => field.layout false text.toList
  · exact hlayout fun text => field.layout false text.toList
  · exact hlayout fun text => field.layout false
      (text.toList.flatMap fun c => if isPlainAscii c then [c] else codeEscape c)
  -- The six codes of integers and the six of floats.
  iterate 6
    · refine (integerValue_agree field h).bind ?_
      rintro i _ rfl
      exact (field.integer_agree i).bind fun _ _ hchars => by rw [hchars]; exact .ok rfl
  iterate 6
    · refine (floatValue_agree h).bind ?_
      rintro x _ rfl
      exact .ok rfl
  · refine (characterValue_agree h).bind ?_
    rintro c _ rfl
    exact .ok rfl
  · exact .error trivial

theorem writeFields_fills (hρ : ρ.Links s t) (hstrict : ¬ ρ.terms.loose) (h : v.Like ρ w)
    (length fuel : Nat) (text : List Char) :
    Fills ρ (writeFields s v length fuel text) (writeFields t w length fuel text) Eq := by
  induction fuel generalizing text with
  | zero => exact Fills.pure rfl
  | succ fuel ih =>
    refine (Fills.modifyWritten _).bind fun _ _ _ => ?_
    split
    · exact Fills.pure rfl
    · exact (Fills.modifyWritten _).bind fun _ _ _ => ih _
    · refine (readField_fills hρ h _).bind ?_
      rintro ⟨field, rest⟩ _ rfl
      refine takeValue_fills.bind fun value value' hvalue => ?_
      refine (Fills.lift (Field.write_agree hρ hstrict field hvalue _)).bind ?_
      rintro chars _ rfl
      exact (Fills.modifyWritten _).bind fun _ _ _ => ih _

/-- Formats are filled in alike. -/
theorem percent_agree (hρ : ρ.Links s t) (hstrict : ¬ ρ.terms.loose) (format : String)
    (h : v.Like ρ w) :
    PercentAgrees Eq (percent s format v) (percent t format w) := by
  have hfields := writeFields_fills hρ hstrict h format.toList.length (format.toList.length + 1)
    format.toList ⟨[], some v⟩ ⟨[], some w⟩ ⟨rfl, .some h⟩
  refine hfields.bind ?_
  rintro ⟨_, p⟩ ⟨_, q⟩ ⟨_, hpq⟩
  have hsome : p.next.isSome = q.next.isSome := by
    have hnext := hpq.next
    revert hnext
    generalize p.next = x
    generalize q.next = y
    rintro (_ | _) <;> rfl
  have hunused : mayStayUnused v = mayStayUnused w := by
    cases h <;> rfl
  have hwritten : p.written = q.written := hpq.written
  dsimp only at hsome ⊢
  rw [hsome, hunused, hwritten]
  split
  · exact .error trivial
  · exact .ok rfl

end Format

end Walkthrough
