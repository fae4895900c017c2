import Walkthrough.Proofs.Equivariance

/-!
# Calls with arguments that are alike

Built-in functions and methods, called with arguments that are alike, do the same: one lemma for each
of them, in the order of their definitions.
-/

namespace Walkthrough

open Number Text Format

variable {x y : Option Value} {a b : Value}

variable {ρ : Renaming} {v w : Value} {vs ws : List Value}

theorem Like.int (i : Int) : Value.Like ρ (.int i) (.int i) := .scalar (.int i)

theorem Like.bool (b : Bool) : Value.Like ρ (.bool b) (.bool b) := .scalar (.bool b)

theorem Like.str (text : String) : Value.Like ρ (.str text) (.str text) := .scalar (.str text)

theorem Like.none : Value.Like ρ .none .none := .scalar .none

theorem headD_like (h : ValuesLike ρ vs ws) : (vs.headD .none).Like ρ (ws.headD .none) := by
  cases h with
  | nil => exact Like.none
  | cons h _ => exact h

theorem getD_like (h : Option.Rel (Value.Like ρ) x y) (hab : a.Like ρ b) :
    (x.getD a).Like ρ (y.getD b) := by
  cases h with
  | some h => exact h
  | none => exact hab

/-! ## Parts of many calls -/

section

variable {γ δ : Type}

theorem Builtin.checkCount_bind (name : String) (h : ValuesLike ρ vs ws) (low high : Nat)
    (hf : Mirrors ρ (f ()) (g ()) Q) : Mirrors ρ (Builtin.checkCount name vs low high >>= f)
      (Builtin.checkCount name ws low high >>= g) Q := by
  unfold Builtin.checkCount
  dsimp only
  rw [h.length_eq]
  split
  · exact hf
  · exact Parallel.throw trivial

theorem checkArguments_bind (method : String) (h : ValuesLike ρ vs ws) (low high : Nat)
    (hf : Mirrors ρ (f ()) (g ()) Q) : Mirrors ρ (checkArguments method vs low high >>= f)
      (checkArguments method ws low high >>= g) Q := by
  unfold checkArguments
  dsimp only
  rw [h.length_eq]
  split
  · exact hf
  · exact Parallel.throw trivial

theorem Run.integer_mirrors (h : v.Like ρ w) :
    Mirrors ρ (Run.integer v) (Run.integer w) fun _ => Eq := by
  unfold Run.integer
  rw [h.asInt?_eq]
  split
  · exact Parallel.pure rfl
  · exact Mirrors.typeError h _

theorem Run.integer_bind (h : v.Like ρ w) (hf : ∀ i, Mirrors ρ (f i) (g i) Q) :
    Mirrors ρ (Run.integer v >>= f) (Run.integer w >>= g) Q := by
  unfold Run.integer
  rw [h.asInt?_eq]
  split
  · exact hf _
  · rw [h.typeName_eq]
    cases htype : w.typeName with
    | ok type => exact Parallel.throw trivial
    | error failure => exact Parallel.throw (Value.arises_typeName htype)

theorem Run.shown_bind (h : v.Like ρ w) (hf : ∀ text, Mirrors ρ (f text) (g text) Q) :
    Mirrors ρ (Run.shown v >>= f) (Run.shown w >>= g) Q := by
  refine Mirrors.look_bind (fun s t hst => repr_agree hst h) ?_
  rintro text _ rfl
  exact hf text

theorem Run.key_bind (h : v.Like ρ w)
    (hf : ∀ key key', Key.Like ρ key key' → Mirrors ρ (f key) (g key') Q) :
    Mirrors ρ (Run.key v >>= f) (Run.key w >>= g) Q :=
  Mirrors.ofExcept_bind h.toKey_agree hf

theorem Run.ofOrder_mirrors {α β : Type} {P : Renaming → α → β → Prop}
    {x : Except OrderTrouble α} {y : Except OrderTrouble β}
    (h : Agree OrderTrouble.Arises (P ρ) x y) : Mirrors ρ (Run.ofOrder x) (Run.ofOrder y) P := by
  cases h with
  | ok h => exact Parallel.pure h
  | @error trouble hplain =>
    cases trouble with
    | unordered symbol left right => exact Mirrors.fail _
    | failure cause => exact Parallel.throw hplain

end

/-! ## Built-in functions -/

theorem printValues_mirrors (h : ValuesLike ρ vs ws) :
    Mirrors ρ (printValues vs) (printValues ws) Value.Like := by
  refine Mirrors.look_bind (fun s t hst => printLine_agree hst h) ?_
  rintro line _ rfl
  exact (Mirrors.say line).bind fun _ _ _ _ _ => Parallel.pure Like.none

theorem makeRange_mirrors (limit : Int) (h : ValuesLike ρ vs ws) :
    Mirrors ρ (makeRange limit vs) (makeRange limit ws) Value.Like := by
  refine Builtin.checkCount_bind _ h _ _ ?_
  have hbounds := Parallel.mapM (S := .machine Failure.Arises) (ρ := ρ) (A := Value.Like)
    (Q := fun _ => Eq) (f := Run.integer) (g := Run.integer) (fun hρ h => h.mono hρ) (fun _ h => h)
    (fun ρ' v w _ h => Run.integer_mirrors h) h
  refine hbounds.bind fun ρ' bounds bounds' _ hsame => ?_
  rw [List.forall₂_eq_eq_eq] at hsame
  subst hsame
  obtain ⟨start, stop, step⟩ := rangeBounds bounds
  dsimp only
  split
  · exact Parallel.throw trivial
  split
  · exact Parallel.throw trivial
  split
  · exact Parallel.throw trivial
  refine Mirrors.newList (List.forall₂_same.mpr fun value hvalue => ?_)
  obtain ⟨count, _, rfl⟩ := List.mem_map.mp hvalue
  exact Like.int _

theorem lengthOf_mirrors (h : v.Like ρ w) : Mirrors ρ (lengthOf v) (lengthOf w) Value.Like := by
  refine Mirrors.store_bind fun s t hst => ?_
  cases h with
  | list h =>
    dsimp only
    rw [hst.size_eq h]
    exact Parallel.pure (Like.int _)
  | dict h =>
    dsimp only
    rw [(hst.dict h).size_eq]
    exact Parallel.pure (Like.int _)
  | complex re im => exact Parallel.throw trivial
  | function h => exact Mirrors.fail _
  | scalar h =>
    cases h with
    | str text => exact Parallel.pure (Like.int _)
    | _ => exact Mirrors.fail _

theorem integerOfText_mirrors (base : Int) (text : String) :
    Mirrors ρ (integerOfText base text) (integerOfText base text) Value.Like := by
  unfold integerOfText
  dsimp only
  split
  · exact Parallel.pure (Like.int _)
  · exact Mirrors.fail _

theorem toInteger_mirrors (h : ValuesLike ρ vs ws) :
    Mirrors ρ (toInteger vs) (toInteger ws) Value.Like := by
  refine Builtin.checkCount_bind _ h _ _ ?_
  rcases h with _ | ⟨hvalue, _ | ⟨hbase, _ | _⟩⟩
  · exact Parallel.pure (Like.int _)
  rotate_left
  · cases hvalue with
    | scalar h =>
      cases h with
      | str text => exact Run.integer_bind hbase fun base => integerOfText_mirrors base text
      | _ => exact Mirrors.fail _
    | _ => exact Mirrors.fail _
  all_goals
    cases hvalue with
    | complex re im => exact Parallel.throw trivial
    | list h => exact Mirrors.fail _
    | dict h => exact Mirrors.fail _
    | function h => exact Mirrors.fail _
    | scalar h =>
      cases h with
      | none => exact Mirrors.fail _
      | bool value => exact Parallel.pure (Like.int _)
      | int value => exact Parallel.pure (Like.int _)
      | nan h => exact Mirrors.fail _
      | str text => exact integerOfText_mirrors 10 text
      | float value =>
        dsimp only [Value.asInt?]
        split
        · exact Parallel.pure (Like.int _)
        · exact Mirrors.fail _

theorem toFloat_mirrors (h : ValuesLike ρ vs ws) :
    Mirrors ρ (toFloat vs) (toFloat ws) Value.Like := by
  refine Builtin.checkCount_bind _ h _ _ ?_
  rcases h with _ | ⟨hvalue, _⟩
  · exact Parallel.pure (.scalar (.float _))
  cases hvalue with
  | complex re im => exact Parallel.throw trivial
  | list h => exact Mirrors.fail _
  | dict h => exact Mirrors.fail _
  | function h => exact Mirrors.fail _
  | scalar h =>
    cases h with
    | none => exact Mirrors.fail _
    | bool value =>
      dsimp only [Value.asInt?]
      split
      · exact Parallel.pure (Value.Like.scalar (.float _))
      · exact Mirrors.fail _
    | int value =>
      dsimp only [Value.asInt?]
      split
      · exact Parallel.pure (Value.Like.scalar (.float _))
      · exact Mirrors.fail _
    | float value => exact Parallel.pure (Value.Like.scalar (.float value))
    | nan h => exact Parallel.pure (Value.Like.scalar (.nan h))
    | str text =>
      dsimp only [Value.asInt?]
      split
      · exact Mirrors.newFloat _
      · exact Mirrors.fail _

theorem toText_mirrors (h : ValuesLike ρ vs ws) :
    Mirrors ρ (toText vs) (toText ws) Value.Like := by
  refine Builtin.checkCount_bind _ h _ _ ?_
  cases h with
  | nil => exact Parallel.pure (Like.str _)
  | cons hvalue _ =>
    refine Mirrors.look_bind (fun s t hst => text_agree hst hvalue) ?_
    rintro text _ rfl
    exact Parallel.pure (Like.str text)

theorem toTruth_mirrors (h : ValuesLike ρ vs ws) :
    Mirrors ρ (toTruth vs) (toTruth ws) Value.Like := by
  refine Builtin.checkCount_bind _ h _ _ ?_
  cases h with
  | nil => exact Parallel.pure (Like.bool _)
  | cons hvalue _ =>
    refine Mirrors.store_bind fun s t hst => ?_
    rw [hvalue.isTruthy_eq hst.toContents]
    exact Parallel.pure (Like.bool _)

theorem absolute_mirrors (h : v.Like ρ w) : Mirrors ρ (absolute v) (absolute w) Value.Like := by
  cases h with
  | complex re im => exact Parallel.throw trivial
  | list h => exact Mirrors.fail _
  | dict h => exact Mirrors.fail _
  | function h => exact Mirrors.fail _
  | scalar h =>
    cases h with
    | bool value => exact Parallel.pure (Like.int _)
    | int value => exact Parallel.pure (Like.int _)
    | float value => exact Parallel.pure (.scalar (.float _))
    | nan h => exact Mirrors.newFloat _
    | none => exact Mirrors.fail _
    | str text => exact Mirrors.fail _

theorem extreme_mirrors (function : String) (op : OrderOp) (h : ValuesLike ρ vs ws) :
    Mirrors ρ (extreme function op vs) (extreme function op ws) Value.Like := by
  have hbest {first first' : Value} {rest rest' : List Value} (hfirst : first.Like ρ first')
      (hrest : ValuesLike ρ rest rest') :
      Mirrors ρ (do Run.ofOrder (best (← Run.store) op first rest))
        (do Run.ofOrder (best (← Run.store) op first' rest')) Value.Like :=
    Mirrors.store_bind fun s t hst => Run.ofOrder_mirrors (best_agree hst op hfirst hrest)
  rcases h with _ | ⟨hvalue, _ | ⟨hother, hmore⟩⟩
  · exact Parallel.throw trivial
  · refine Mirrors.look_bind (fun s t hst => elementsOf_agree hst hvalue) fun vs ws h => ?_
    cases h with
    | nil => exact Mirrors.fail _
    | cons hfirst hrest => exact hbest hfirst hrest
  · exact hbest hvalue (.cons hother hmore)

theorem noSum_mirrors (ha : a.Like ρ a') (hb : b.Like ρ b') : Mirrors ρ (noSum a b) (noSum a' b') P :=
  Mirrors.typesError ha hb _

theorem intToFloat_error (h : intToFloat i = .error trouble) :
    trouble = .fault (.overflow .intToFloat) := by
  unfold intToFloat at h
  split at h <;> cases h
  rfl

theorem toComplex_error {a : Numeric} (h : a.toComplex = .error trouble) :
    trouble = .fault (.overflow .intToFloat) := by
  cases a with
  | int i => exact intToFloat_error (except_bind_pure_eq_error h)
  | float x => cases h
  | complex z => cases h

theorem meet_error {a b : Numeric} (h : a.meet b = .error trouble) :
    trouble = .fault (.overflow .intToFloat) := by
  unfold Numeric.meet at h
  split at h
  · cases h
  · cases h
  · exact intToFloat_error (except_bind_pure_eq_error h)
  · exact intToFloat_error (except_bind_pure_eq_error h)
  · rcases except_bind_eq_error h with h | ⟨_, _, h⟩
    · exact toComplex_error h
    · exact toComplex_error (except_bind_pure_eq_error h)

/-- A sum has no fault but that of a number that is too large. -/
theorem add_error {a b : Numeric} (h : a.add b = .error trouble) :
    trouble = .fault (.overflow .intToFloat) := by
  rcases except_bind_eq_error h with h | ⟨pair, _, h⟩
  · exact meet_error h
  · cases pair <;> cases h

theorem addValues_failsAs (a b : Value) :
    FailsAs (fun trouble => ∀ cause, trouble = .failure (.error (.fault cause)) → cause.Escapes)
      (addValues a b) := by
  rw [addValues.eq_def]
  split
  · exact .pure _
  · exact FailsAs.get.bind fun m => by rintro _ _ _ ⟨⟩
  · unfold numeric
    split
    · next x y _ _ =>
      unfold OperatorM.ofNum
      split
      · next number _ => cases number <;> rintro _ _ _ ⟨⟩
      · exact .throw nofun
      · exact .throw nofun
      · next hadd =>
        cases add_error hadd
        exact .throw (by rintro _ ⟨⟩; trivial)
    · exact .throw nofun

theorem addTo_mirrors (ha : a.Like ρ a') (hb : b.Like ρ b') :
    Mirrors ρ (addTo a b) (addTo a' b') Value.Like := by
  unfold addTo
  rw [ha.isFunction_eq, hb.isFunction_eq]
  split
  · exact noSum_mirrors ha hb
  · refine ((addValues_operates ha hb).failsAs (addValues_failsAs a b)).run_bind
      (fun _ v w _ h => Parallel.pure h) ?_
    rintro ρ' trouble hρ ⟨harises, hfault⟩
    split
    · next heq => cases heq
    · exact noSum_mirrors (ha.mono hρ) (hb.mono hρ)
    · next heq =>
      cases heq
      exact Parallel.throw (hfault _ rfl)
    · next heq =>
      cases heq
      exact Parallel.throw harises

theorem sumValues_mirrors (h : ValuesLike ρ vs ws) :
    Mirrors ρ (sumValues vs) (sumValues ws) Value.Like := by
  have hsum {source source' total total' : Value} (hsource : source.Like ρ source')
      (htotal : total.Like ρ total') :
      Mirrors ρ
        (do
          let items ← Run.look fun s => elementsOf s source
          items.foldlM addTo total)
        (do
          let items ← Run.look fun s => elementsOf s source'
          items.foldlM addTo total') Value.Like := by
    refine Mirrors.look_bind (fun s t hst => elementsOf_agree hst hsource) fun items items' h => ?_
    exact Parallel.foldlM (A := Value.Like) (fun hρ h => h.mono hρ)
      (fun ρ' a b c d _ hab hcd => addTo_mirrors hcd hab) h htotal
  refine Builtin.checkCount_bind _ h _ _ ?_
  rcases h with _ | ⟨hsource, _ | ⟨htotal, _⟩⟩
  · exact hsum Like.none (Like.int 0)
  · exact hsum hsource (Like.int 0)
  · have hgiven := hsum hsource htotal
    cases htotal with
    | scalar h =>
      cases h with
      | str text => exact Parallel.throw trivial
      | _ => exact hgiven
    | _ => exact hgiven

theorem sortedValues_mirrors (h : ValuesLike ρ vs ws) :
    Mirrors ρ (sortedValues vs) (sortedValues ws) Value.Like := by
  refine Builtin.checkCount_bind _ h _ _ ?_
  refine Mirrors.look_bind (fun s t hst => elementsOf_agree hst (headD_like h)) ?_
  intro items items' hitems
  refine Mirrors.store_bind fun s t hst => ?_
  have hsorts := sort_agree hst hitems
  generalize Sorting.sort (lessThan s) items = x at hsorts ⊢
  generalize Sorting.sort (lessThan t) items' = y at hsorts ⊢
  have hagree : Agree OrderTrouble.Arises (ValuesLike ρ) (x.mapError (·.cause))
      (y.mapError (·.cause)) := by
    match x, y, hsorts with
    | .ok _, .ok _, h => exact .ok h
    | .error a, .error b, h =>
      dsimp only [Except.mapError]
      rw [← h.1]
      exact .error h.2.1
  exact (Run.ofOrder_mirrors (P := ValuesLike) hagree).bind fun ρ' _ _ _ h => Mirrors.newList h

theorem roundPlacesFloat_error {x : Float} (h : roundPlacesFloat x places = .error cause) :
    cause = .overflow .rounding := by
  unfold roundPlacesFloat at h
  split at h
  · cases h
  · split at h
    · cases h
    · split at h
      · cases h
      · dsimp only at h
        split at h <;> cases h
        rfl

theorem rounded_mirrors (x : Float) (places : Int) :
    let rounded : Run Value := match roundPlacesFloat x places with
      | .ok x => return .float x
      | .error cause => throw (.fault cause)
    Mirrors ρ rounded rounded Value.Like := by
  cases hresult : roundPlacesFloat x places with
  | ok x => exact Parallel.pure (Value.Like.scalar (.float x))
  | error cause =>
    cases roundPlacesFloat_error hresult
    exact Parallel.throw trivial

theorem roundValue_mirrors (h : ValuesLike ρ vs ws) :
    Mirrors ρ (roundValue vs) (roundValue ws) Value.Like := by
  refine Builtin.checkCount_bind _ h _ _ ?_
  have hvalue := headD_like h
  have hplaces := getD_like (getElem?_rel h 1) Like.none
  generalize vs.headD .none = v at hvalue ⊢
  generalize ws.headD .none = w at hvalue ⊢
  generalize vs[1]?.getD Value.none = places at hplaces ⊢
  generalize ws[1]?.getD Value.none = places' at hplaces ⊢
  -- An integer stays one, however many places are asked for.
  have hint (i : Int) := Run.integer_bind (Q := Value.Like) hplaces fun places =>
    Parallel.pure (Like.int (ρ := ρ) (roundInt i places))
  cases hvalue with
  | complex re im => exact Parallel.throw trivial
  | list h => exact Parallel.throw trivial
  | dict h => exact Parallel.throw trivial
  | function h => exact Parallel.throw trivial
  | scalar h =>
    cases h with
    | none => exact Parallel.throw trivial
    | str text => exact Parallel.throw trivial
    | bool value =>
      have hgiven := hint (if value then 1 else 0)
      cases hplaces with
      | scalar h =>
        cases h with
        | none => exact Parallel.pure (Like.int _)
        | _ => exact hgiven
      | _ => exact hgiven
    | int value =>
      have hgiven := hint value
      cases hplaces with
      | scalar h =>
        cases h with
        | none => exact Parallel.pure (Like.int _)
        | _ => exact hgiven
      | _ => exact hgiven
    | float value =>
      have hgiven := Run.integer_bind (Q := Value.Like) hplaces (rounded_mirrors value)
      cases hplaces with
      | scalar h =>
        cases h with
        | none =>
          dsimp only [Value.asInt?, Value.isNumber, Bool.not_true, Bool.false_eq_true, if_false]
          cases roundFloat value with
          | ok i => exact Parallel.pure (Like.int i)
          | error cause => exact Mirrors.fail _
        | _ => exact hgiven
      | _ => exact hgiven
    | nan h =>
      have hgiven := Run.integer_bind (Q := Value.Like) hplaces fun _ =>
        Mirrors.newFloat (ρ := ρ) (0.0 / 0.0)
      cases hplaces with
      | scalar h =>
        cases h with
        | none => exact Mirrors.fail _
        | _ => exact hgiven
      | _ => exact hgiven

theorem Builtin.call_mirrors (limit : Int) (function : Builtin) (h : ValuesLike ρ vs ws) :
    Mirrors ρ (function.call limit vs) (function.call limit ws) Value.Like := by
  cases function with
  | print => exact printValues_mirrors h
  | range => exact makeRange_mirrors limit h
  | len => exact Builtin.checkCount_bind _ h _ _ (lengthOf_mirrors (headD_like h))
  | int => exact toInteger_mirrors h
  | float => exact toFloat_mirrors h
  | str => exact toText_mirrors h
  | bool => exact toTruth_mirrors h
  | abs => exact Builtin.checkCount_bind _ h _ _ (absolute_mirrors (headD_like h))
  | max => exact extreme_mirrors _ _ h
  | min => exact extreme_mirrors _ _ h
  | sum => exact sumValues_mirrors h
  | sorted => exact sortedValues_mirrors h
  | round => exact roundValue_mirrors h

/-! ## Methods -/

/-- Two outcomes that are alike. -/
structure Outcome.Like (ρ : Renaming) (a b : Outcome) : Prop where
  result : a.result.Like ρ b.result
  summary : a.summary = b.summary

/-- What a method gives, once the values in its summary are shown. -/
theorem Outcome.Like.pure (h : a.Like ρ b) (summary : String) :
    Mirrors ρ (pure (⟨a, summary⟩ : Outcome)) (pure ⟨b, summary⟩) Outcome.Like :=
  Parallel.pure ⟨h, rfl⟩

/-! ### Lists -/

theorem eraseIdx_rel (h : List.Forall₂ R l l') (place : Nat) :
    List.Forall₂ R (l.eraseIdx place) (l'.eraseIdx place) := by
  rw [List.eraseIdx_eq_take_drop_succ, List.eraseIdx_eq_take_drop_succ]
  exact List.rel_append (List.forall₂_take place h) (List.forall₂_drop (place + 1) h)

theorem extract_rel {α β : Type} {R : α → β → Prop} {xs : Array α} {ys : Array β}
    (h : List.Forall₂ R xs.toList ys.toList) (start stop : Nat) :
    List.Forall₂ R (xs.extract start stop).toList (ys.extract start stop).toList := by
  rw [Array.toList_extract, Array.toList_extract, List.extract_eq_take_drop,
    List.extract_eq_take_drop]
  exact List.forall₂_take _ (List.forall₂_drop _ h)

section

variable {i j : Nat} (hij : ρ.list i j) (label : String)

include hij

theorem listAppend_mirrors (h : v.Like ρ w) :
    Mirrors ρ (listAppend i v label) (listAppend j w label) Outcome.Like := by
  refine Parallel.bind (Mirrors.modifyList hij fun xs ys hxs => ?_) fun ρ' _ _ hρ _ => ?_
  · rw [Array.toList_push, Array.toList_push]
    exact List.rel_append hxs (.cons h .nil)
  · exact Run.shown_bind (h.mono hρ) fun _ => Outcome.Like.pure Like.none _

theorem listExtend_mirrors (h : v.Like ρ w) :
    Mirrors ρ (listExtend i v label) (listExtend j w label) Outcome.Like := by
  refine Mirrors.look_bind (fun s t hst => elementsOf_agree hst h) fun items items' hitems => ?_
  refine Parallel.bind (Mirrors.modifyList hij fun xs ys hxs => ?_) fun ρ' _ _ hρ _ => ?_
  · rw [Array.toList_appendList, Array.toList_appendList]
    exact List.rel_append hxs hitems
  · exact Run.shown_bind (h.mono hρ) fun _ => Outcome.Like.pure Like.none _

/-- An element is taken out of both lists. -/
theorem eraseElement_mirrors (place : Nat) :
    Mirrors ρ (Run.modifyList i fun elements => elements.eraseIdxIfInBounds place)
      (Run.modifyList j fun elements => elements.eraseIdxIfInBounds place) fun _ _ _ => True := by
  refine Mirrors.modifyList hij fun xs ys hxs => ?_
  have hsize : xs.size = ys.size := hxs.length_eq
  unfold Array.eraseIdxIfInBounds
  by_cases hplace : place < xs.size
  · rw [dif_pos hplace, dif_pos (hsize ▸ hplace), Array.toList_eraseIdx, Array.toList_eraseIdx]
    exact eraseIdx_rel hxs place
  · rw [dif_neg hplace, dif_neg (hsize ▸ hplace)]
    exact hxs

theorem listRemove_mirrors (h : v.Like ρ w) :
    Mirrors ρ (listRemove i v label) (listRemove j w label) Outcome.Like := by
  refine Mirrors.look_bind (fun s t hst => position?_agree hst h (hst.list hij) 0) ?_
  rintro place _ rfl
  cases place with
  | none => exact Mirrors.fail _
  | some place =>
    refine (eraseElement_mirrors hij place).bind fun ρ' _ _ hρ _ => ?_
    exact Run.shown_bind (h.mono hρ) fun _ => Outcome.Like.pure Like.none _

theorem listPop_mirrors (h : Option.Rel (Value.Like ρ) x y) :
    Mirrors ρ (listPop i x label) (listPop j y label) Outcome.Like := by
  refine Mirrors.store_bind fun s t hst => ?_
  have helements := hst.list hij
  have hpopped (place : Nat) := getD_like (array_getElem?_rel helements place) (Like.none (ρ := ρ))
  dsimp only
  rw [Array.isEmpty, Array.isEmpty, hst.size_eq hij]
  split
  · exact Parallel.throw trivial
  cases h with
  | none =>
    rw [Array.back?, Array.back?, hst.size_eq hij]
    refine Parallel.bind (Mirrors.modifyList hij fun xs ys hxs => ?_) fun ρ' _ _ hρ _ => ?_
    · rw [Array.toList_pop, Array.toList_pop, List.dropLast_eq_take, List.dropLast_eq_take,
        hxs.length_eq]
      exact List.forall₂_take _ hxs
    · refine Run.shown_bind ((hpopped _).mono hρ) fun _ => ?_
      exact Outcome.Like.pure ((hpopped _).mono hρ) _
  | some hindex =>
    refine Run.integer_bind hindex fun index => ?_
    split
    · exact Mirrors.fail _
    · next place _ =>
      refine (eraseElement_mirrors hij place).bind fun ρ' _ _ hρ _ => ?_
      refine Run.shown_bind ((hpopped place).mono hρ) fun _ => ?_
      refine Run.shown_bind (hindex.mono hρ) fun _ => ?_
      exact Outcome.Like.pure ((hpopped place).mono hρ) _

theorem listInsert_mirrors (hindex : a.Like ρ b) (h : v.Like ρ w) :
    Mirrors ρ (listInsert i a v label) (listInsert j b w label) Outcome.Like := by
  refine Run.integer_bind hindex fun index => ?_
  split
  · exact Parallel.throw trivial
  refine Parallel.bind (Mirrors.modifyList hij fun xs ys hxs => ?_) fun ρ' _ _ hρ _ => ?_
  · have hsize : xs.size = ys.size := hxs.length_eq
    rw [hsize]
    simp only [Array.toList_append]
    exact List.rel_append (List.rel_append (extract_rel hxs _ _) (.cons h .nil))
      (extract_rel hxs _ _)
  · refine Run.shown_bind (h.mono hρ) fun _ => Run.shown_bind (hindex.mono hρ) fun _ => ?_
    exact Outcome.Like.pure Like.none _

theorem listSort_mirrors : Mirrors ρ (listSort i label) (listSort j label) Outcome.Like := by
  refine Mirrors.store_bind fun s t hst => ?_
  have helements := hst.list hij
  have hfunctions : (s.list i).any Value.isFunction = (t.list j).any Value.isFunction := by
    rw [← Array.any_toList, ← Array.any_toList]
    exact any_eq helements fun _ _ h => h.isFunction_eq
  dsimp only
  rw [hfunctions]
  split
  · exact Parallel.throw trivial
  refine Parallel.bind (Mirrors.modifyList hij fun _ _ _ => .nil) fun ρ' _ _ hρ _ => ?_
  refine Mirrors.store_bind fun s' t' hst' => ?_
  have hsorts := sort_agree hst' (valuesLike_mono hρ helements)
  generalize Sorting.sort (lessThan s') (s.list i).toList = x at hsorts ⊢
  generalize Sorting.sort (lessThan t') (t.list j).toList = y at hsorts ⊢
  match x, y, hsorts with
  | .ok sorted, .ok sorted', h =>
    refine Parallel.bind (Mirrors.modifyList (hρ.list hij) fun _ _ _ => h) fun ρ'' _ _ _ _ => ?_
    exact Outcome.Like.pure Like.none _
  | .error stuck, .error stuck', h =>
    refine Parallel.bind (Mirrors.modifyList (hρ.list hij) fun _ _ _ => h.2.2) fun ρ'' _ _ _ _ => ?_
    rw [← h.1]
    exact Run.ofOrder_mirrors (.error h.2.1)

theorem listIndex_mirrors (h : v.Like ρ w) :
    Mirrors ρ (listIndex i v label) (listIndex j w label) Outcome.Like := by
  refine Mirrors.look_bind (fun s t hst => position?_agree hst h (hst.list hij) 0) ?_
  rintro place _ rfl
  refine Run.shown_bind h fun shown => ?_
  cases place with
  | none => exact Mirrors.fail _
  | some place => exact Outcome.Like.pure (Like.int _) _

theorem listCount_mirrors (h : v.Like ρ w) :
    Mirrors ρ (listCount i v label) (listCount j w label) Outcome.Like := by
  refine Mirrors.look_bind (fun s t hst => occurrences_agree hst h (hst.list hij)) ?_
  rintro count _ rfl
  exact Run.shown_bind h fun shown => Outcome.Like.pure (Like.int _) _

theorem ListMethod.call_mirrors (method : ListMethod) (h : ValuesLike ρ vs ws) :
    Mirrors ρ (method.call i vs label) (method.call j ws label) Outcome.Like := by
  have hfirst := headD_like h
  cases method with
  | append => exact checkArguments_bind _ h _ _ (listAppend_mirrors hij label hfirst)
  | extend => exact checkArguments_bind _ h _ _ (listExtend_mirrors hij label hfirst)
  | remove => exact checkArguments_bind _ h _ _ (listRemove_mirrors hij label hfirst)
  | pop =>
    refine checkArguments_bind _ h _ _ (listPop_mirrors hij label ?_)
    rw [List.head?_eq_getElem?, List.head?_eq_getElem?]
    exact getElem?_rel h 0
  | insert =>
    refine checkArguments_bind _ h _ _ (listInsert_mirrors hij label hfirst ?_)
    exact getD_like (getElem?_rel h 1) Like.none
  | clear =>
    refine checkArguments_bind _ h _ _ ?_
    refine Parallel.bind (Mirrors.modifyList hij fun _ _ _ => .nil) fun ρ' _ _ _ _ => ?_
    exact Outcome.Like.pure Like.none _
  | sort => exact checkArguments_bind _ h _ _ (listSort_mirrors hij label)
  | reverse =>
    refine checkArguments_bind _ h _ _ ?_
    refine Parallel.bind (Mirrors.modifyList hij fun xs ys hxs => ?_) fun ρ' _ _ _ _ => ?_
    · rw [Array.toList_reverse, Array.toList_reverse]
      exact List.rel_reverse hxs
    · exact Outcome.Like.pure Like.none _
  | index => exact checkArguments_bind _ h _ _ (listIndex_mirrors hij label hfirst)
  | count => exact checkArguments_bind _ h _ _ (listCount_mirrors hij label hfirst)

end

/-! ### Dictionaries -/

section

variable {i j : Nat} (hij : ρ.dict i j) (label : String)

include hij

/-- The value of a key in both dictionaries. -/
theorem found_rel (hst : ρ.Links s t) (h : key.Like ρ key') :
    Option.Rel (Value.Like ρ) ((s.dict i).get? key) ((t.dict j).get? key') :=
  (hst.dict hij).get? (keysFit_key hst.marks) h

theorem dictGet_mirrors (h : v.Like ρ w) (hdefault : a.Like ρ b) :
    Mirrors ρ (dictGet i v a label) (dictGet j w b label) Outcome.Like := by
  refine Mirrors.store_bind fun s t hst => Run.key_bind h fun key key' hkey => ?_
  have hvalue := getD_like (found_rel hij hst hkey) hdefault
  refine Run.shown_bind hvalue fun _ => Run.shown_bind h fun _ => ?_
  exact Outcome.Like.pure hvalue _

theorem dictItems_mirrors : Mirrors ρ (dictItems i label) (dictItems j label) Outcome.Like := by
  refine Mirrors.store_bind fun s t hst => ?_
  have hentries := hst.dict hij
  have hpairs := Parallel.mapM (S := .machine Failure.Arises) (ρ := ρ)
    (A := fun ρ' => EntryLike (Key.Like ρ') ρ') (Q := Value.Like)
    (f := fun entry => Run.newList #[.scalar entry.1.spelling, entry.2])
    (g := fun entry => Run.newList #[.scalar entry.1.spelling, entry.2])
    (fun hρ h => ⟨h.1.mono hρ, h.2.mono hρ⟩) (fun hρ h => h.mono hρ)
    (fun ρ' a b _ h => Mirrors.newList (.cons (.scalar h.1) (.cons h.2 .nil))) hentries
  refine hpairs.bind fun ρ' pairs pairs' _ hpairs => ?_
  refine (Mirrors.newList hpairs).bind fun ρ'' result result' _ hresult => ?_
  rw [hentries.length_eq]
  exact Outcome.Like.pure hresult _

theorem dictUpdate_mirrors (h : v.Like ρ w) :
    Mirrors ρ (dictUpdate i v label) (dictUpdate j w label) Outcome.Like := by
  refine Mirrors.look_bind (fun s t hst => updateEntries_agree hst h) fun entries entries' hentries => ?_
  refine Parallel.bind (Mirrors.modifyDict hij fun s t hst d e hde => ?_) fun ρ' _ _ hρ _ => ?_
  · exact hde.insertMany (keysFit_key hst.marks) hentries
  · exact Run.shown_bind (h.mono hρ) fun _ => Outcome.Like.pure Like.none _

theorem dictPop_mirrors (h : v.Like ρ w) (hdefault : Option.Rel (Value.Like ρ) x y) :
    Mirrors ρ (dictPop i v x label) (dictPop j w y label) Outcome.Like := by
  refine Mirrors.store_bind fun s t hst => Run.key_bind h fun key key' hkey => ?_
  have hfound := found_rel hij hst hkey
  generalize (s.dict i).get? key = found at hfound ⊢
  generalize (t.dict j).get? key' = found' at hfound ⊢
  cases hfound with
  | some hvalue =>
    refine Run.key_bind h fun key key' hkey => ?_
    refine Parallel.bind (Mirrors.modifyDict hij fun s t hst d e hde => ?_) fun ρ' _ _ hρ _ => ?_
    · exact hde.erase (keysFit_key hst.marks) hkey
    · refine Run.shown_bind (h.mono hρ) fun _ => Run.shown_bind (hvalue.mono hρ) fun _ => ?_
      exact Outcome.Like.pure (hvalue.mono hρ) _
  | none =>
    cases hdefault with
    | some hdefault =>
      refine Run.shown_bind h fun _ => Run.shown_bind hdefault fun _ => ?_
      exact Outcome.Like.pure hdefault _
    | none => exact Run.shown_bind h fun _ => Mirrors.fail _

theorem dictSetDefault_mirrors (h : v.Like ρ w) (hdefault : a.Like ρ b) :
    Mirrors ρ (dictSetDefault i v a label) (dictSetDefault j w b label) Outcome.Like := by
  refine Run.key_bind h fun key key' hkey => Mirrors.store_bind fun s t hst => ?_
  have hfound := found_rel hij hst hkey
  generalize (s.dict i).get? key = found at hfound ⊢
  generalize (t.dict j).get? key' = found' at hfound ⊢
  cases hfound with
  | some hvalue => exact Run.shown_bind h fun _ => Outcome.Like.pure hvalue _
  | none =>
    refine Parallel.bind (Mirrors.modifyDict hij fun s t hst d e hde => ?_) fun ρ' _ _ hρ _ => ?_
    · exact hde.insert (keysFit_key hst.marks) hkey hdefault
    · refine Run.shown_bind (hdefault.mono hρ) fun _ => Run.shown_bind (h.mono hρ) fun _ => ?_
      exact Outcome.Like.pure (hdefault.mono hρ) _

theorem DictMethod.call_mirrors (method : DictMethod) (h : ValuesLike ρ vs ws) :
    Mirrors ρ (method.call i vs label) (method.call j ws label) Outcome.Like := by
  have hfirst := headD_like h
  have hsecond := getElem?_rel h 1
  cases method with
  | get =>
    exact checkArguments_bind _ h _ _
      (dictGet_mirrors hij label hfirst (getD_like hsecond Like.none))
  | keys =>
    refine checkArguments_bind _ h _ _ (Mirrors.store_bind fun s t hst => ?_)
    have hkeys := (hst.dict hij).keys
    refine (Mirrors.newList (valuesLike_keys (hst.dict hij))).bind fun ρ' _ _ _ hresult => ?_
    rw [hkeys.length_eq]
    exact Outcome.Like.pure hresult _
  | values =>
    refine checkArguments_bind _ h _ _ (Mirrors.store_bind fun s t hst => ?_)
    have hvalues := (hst.dict hij).values
    refine (Mirrors.newList hvalues).bind fun ρ' _ _ _ hresult => ?_
    rw [hvalues.length_eq]
    exact Outcome.Like.pure hresult _
  | items => exact checkArguments_bind _ h _ _ (dictItems_mirrors hij label)
  | update => exact checkArguments_bind _ h _ _ (dictUpdate_mirrors hij label hfirst)
  | pop => exact checkArguments_bind _ h _ _ (dictPop_mirrors hij label hfirst hsecond)
  | setdefault =>
    exact checkArguments_bind _ h _ _
      (dictSetDefault_mirrors hij label hfirst (getD_like hsecond Like.none))
  | clear =>
    refine checkArguments_bind _ h _ _ ?_
    refine Parallel.bind (Mirrors.modifyDict hij fun _ _ _ _ _ _ => ?_) fun ρ' _ _ _ _ => ?_
    · exact List.Forall₂.nil
    · exact Outcome.Like.pure Like.none _

end

/-! ### Texts -/

section

variable {γ δ : Type}

theorem strippedChars_bind (method : TextMethod) (h : v.Like ρ w) (hf : ∀ p, Mirrors ρ (f p) (g p) Q) :
    Mirrors ρ (strippedChars method v >>= f) (strippedChars method w >>= g) Q := by
  cases h with
  | scalar h =>
    cases h with
    | none => exact hf _
    | str chars => exact hf _
    | _ => exact Parallel.throw trivial
  | _ => exact Parallel.throw trivial

theorem countBound_bind (h : v.Like ρ w) (hf : ∀ bound, Mirrors ρ (f bound) (g bound) Q) :
    Mirrors ρ (countBound v >>= f) (countBound w >>= g) Q := by
  unfold countBound
  rw [h.asInt?_eq, h.kind_eq]
  cases w.asInt? with
  | none => exact Parallel.throw trivial
  | some i =>
    dsimp only
    split
    · exact Parallel.throw trivial
    · exact hf _

theorem splitText_bind (text : List Char) (h : v.Like ρ w) (hcount : a.Like ρ b)
    (hf : ∀ pieces, Mirrors ρ (f pieces) (g pieces) Q) :
    Mirrors ρ (splitText text v a >>= f) (splitText text w b >>= g) Q := by
  unfold splitText
  rw [bind_assoc, bind_assoc]
  refine countBound_bind hcount fun bound => ?_
  cases h with
  | scalar h =>
    cases h with
    | none => exact hf _
    | str separator =>
      dsimp only
      split
      · exact Parallel.throw trivial
      · exact hf _
    | _ => exact Parallel.throw trivial
  | _ => exact Parallel.throw trivial

theorem replacementText_bind (position : Nat) (h : v.Like ρ w)
    (hf : ∀ text, Mirrors ρ (f text) (g text) Q) :
    Mirrors ρ (replacementText position v >>= f) (replacementText position w >>= g) Q := by
  cases h with
  | scalar h =>
    cases h with
    | str text => exact hf _
    | _ => exact Parallel.throw trivial
  | _ => exact Parallel.throw trivial

theorem partText_bind (cause : String → TextArgument) (h : v.Like ρ w)
    (hf : ∀ text, Mirrors ρ (f text) (g text) Q) :
    Mirrors ρ (partText cause v >>= f) (partText cause w >>= g) Q := by
  cases h with
  | scalar h =>
    cases h with
    | str text => exact hf _
    | _ => exact Parallel.throw trivial
  | _ => exact Parallel.throw trivial

end

theorem TextMethod.result_mirrors (method : TextMethod) (text : String) (h : ValuesLike ρ vs ws) :
    Mirrors ρ (method.result text vs) (method.result text ws) Value.Like := by
  have hfirst := headD_like h
  cases method with
  | upper => exact Parallel.pure (Like.str _)
  | lower => exact Parallel.pure (Like.str _)
  | title => exact Parallel.pure (Like.str _)
  | capitalize => exact Parallel.pure (Like.str _)
  | isdigit => exact Parallel.pure (Like.bool _)
  | isalpha => exact Parallel.pure (Like.bool _)
  | strip => exact strippedChars_bind _ hfirst fun _ => Parallel.pure (Like.str _)
  | lstrip => exact strippedChars_bind _ hfirst fun _ => Parallel.pure (Like.str _)
  | rstrip => exact strippedChars_bind _ hfirst fun _ => Parallel.pure (Like.str _)
  | split =>
    have hcount := getD_like (getElem?_rel h 1) (Like.int (ρ := ρ) (-1))
    refine splitText_bind _ hfirst hcount fun pieces => Mirrors.newList ?_
    refine List.forall₂_same.mpr fun value hvalue => ?_
    obtain ⟨piece, _, rfl⟩ := List.mem_map.mp hvalue
    exact Like.str _
  | join =>
    refine Mirrors.look_bind (fun s t hst => elementsOf_agree hst hfirst) fun items items' hitems => ?_
    refine Mirrors.ofExcept_bind (joinedTexts_agree hitems) ?_
    rintro texts _ rfl
    exact Parallel.pure (Like.str _)
  | replace =>
    refine replacementText_bind _ hfirst fun old => ?_
    refine replacementText_bind _ (getD_like (getElem?_rel h 1) Like.none) fun new => ?_
    refine countBound_bind (getD_like (getElem?_rel h 2) (Like.int _)) fun count => ?_
    exact Parallel.pure (Like.str _)
  | startswith => exact partText_bind _ hfirst fun _ => Parallel.pure (Like.bool _)
  | endswith => exact partText_bind _ hfirst fun _ => Parallel.pure (Like.bool _)
  | find => exact partText_bind _ hfirst fun _ => Parallel.pure (Like.int _)
  | count => exact partText_bind _ hfirst fun _ => Parallel.pure (Like.int _)

theorem find?_refused_rel (h : ValuesLike ρ vs ws) :
    Option.Rel (Value.Like ρ) (vs.find? isRefused) (ws.find? isRefused) := by
  induction h with
  | nil => exact .none
  | @cons v w _ _ hvw _ ih =>
    have hrefused : isRefused v = isRefused w := by
      cases hvw <;> rfl
    rw [List.find?_cons, List.find?_cons, hrefused]
    split
    · exact .some hvw
    · exact ih

theorem TextMethod.call_mirrors (method : TextMethod) (text label : String)
    (h : ValuesLike ρ vs ws) :
    Mirrors ρ (method.call text vs label) (method.call text ws label) Outcome.Like := by
  have hresult : Mirrors ρ
      (do
        let result ← method.result text vs
        return (⟨result, s!"Called {method.name}() on {label}"⟩ : Outcome))
      (do
        let result ← method.result text ws
        return (⟨result, s!"Called {method.name}() on {label}"⟩ : Outcome)) Outcome.Like :=
    (method.result_mirrors text h).bind fun _ _ _ _ hresult => Outcome.Like.pure hresult _
  refine checkArguments_bind _ h _ _ ?_
  split
  · have hrefused := find?_refused_rel h
    generalize vs.find? isRefused = x at hrefused ⊢
    generalize ws.find? isRefused = y at hrefused ⊢
    cases hrefused with
    | none => exact hresult
    | some hrefused =>
      cases hrefused with
      | scalar h => cases h <;> exact Parallel.throw trivial
      | _ => exact Parallel.throw trivial
  · exact hresult

theorem callMethod_mirrors (h : v.Like ρ w) (method : String) (hvs : ValuesLike ρ vs ws)
    (label : String) :
    Mirrors ρ (callMethod v method vs label) (callMethod w method ws label) Outcome.Like := by
  have hunknown := Mirrors.typeError (α := Outcome) (β := Outcome) (P := Outcome.Like) h
    fun type => .noAttribute type method
  -- A receiver without a label is called by its type.
  have hlabelled {f g : String → Run Outcome} (hf : ∀ label, Mirrors ρ (f label) (g label) Outcome.Like) :
      Mirrors ρ (if label.isEmpty then Run.ofExcept v.typeName >>= f else pure label >>= f)
        (if label.isEmpty then Run.ofExcept w.typeName >>= g else pure label >>= g)
        Outcome.Like := by
    split
    · refine Mirrors.ofExcept_bind h.typeName_agree ?_
      rintro type _ rfl
      exact hf type
    · exact hf label
  cases h with
  | list h =>
    refine hlabelled fun label => ?_
    dsimp only
    split
    · exact ListMethod.call_mirrors h label _ hvs
    · exact hunknown
  | dict h =>
    refine hlabelled fun label => ?_
    dsimp only
    split
    · exact DictMethod.call_mirrors h label _ hvs
    · exact hunknown
  | scalar h =>
    cases h with
    | str text =>
      refine hlabelled fun label => ?_
      dsimp only
      split
      · exact TextMethod.call_mirrors _ text label hvs
      · exact hunknown
    | _ => exact hlabelled fun _ => hunknown
  | _ => exact hlabelled fun _ => hunknown

end Walkthrough
