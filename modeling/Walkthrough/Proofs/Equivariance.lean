import Walkthrough.Proofs.Access

/-!
# Operations on what is alike

Operators, built-in functions and methods do the same with values that are alike: they give values
that are alike, change linked stores to linked stores, print the same lines, or fail in the same way.
They never use up a budget, and they change nothing else about the machine.
-/

namespace Walkthrough

open Number Text Format

/-! ## Machines -/

/-- The machine with another store and more printed lines, given the latest first. -/
def Machine.after (m : Machine) (store : Store) (lines : List String) : Machine :=
  { m with
    store
    output := ⟨lines ++ m.output.latestFirst⟩
    history := lines.map .printed ++ m.history }

theorem Machine.after_after (m : Machine) (store store' : Store) (lines lines' : List String) :
    (m.after store lines).after store' lines' = m.after store' (lines' ++ lines) := by
  simp only [Machine.after, List.map_append, List.append_assoc]

/-- What two machines `m` and `n` may become together: their stores change, and both print the same
lines. -/
structure Machine.Moves (ρ ρ' : Renaming) (m n m' n' : Machine) : Prop where
  spares : ρ.Spares ρ' m.store m'.store
  prints : ∃ lines, m' = m.after m'.store lines ∧ n' = n.after n'.store lines

/-- Two runs are compared that change the stores and print the same lines. -/
def Comparison.machine {ε : Type} (plain : ε → Prop) : Comparison Machine ε where
  linked ρ m n := ρ.Links m.store n.store
  moves ρ ρ' states states' := Machine.Moves ρ ρ' states.1 states.2 states'.1 states'.2
  plain := plain
  refl ρ states := ⟨.refl ρ _, [], rfl, rfl⟩
  trans := by
    rintro ρ ρ' ρ'' ⟨m, n⟩ ⟨m', n'⟩ ⟨m'', n''⟩ hρ hρ' ⟨hspares, lines, hm, hn⟩
      ⟨hspares', lines', hm', hn'⟩
    refine ⟨hspares.trans hρ hρ' hspares', lines' ++ lines, ?_, ?_⟩
    · rw [← Machine.after_after m m'.store, ← hm]
      exact hm'
    · rw [← Machine.after_after n n'.store, ← hn]
      exact hn'

/-- Two runs do the same with what is alike, and use up no budget. -/
abbrev Mirrors {α β : Type} (ρ : Renaming) (x : Run α) (y : Run β)
    (P : Renaming → α → β → Prop) : Prop :=
  Parallel (.machine Failure.Arises) ρ x y P

/-! ## Reading -/

section

variable {α β γ δ : Type} {ρ : Renaming} {f : α → Run γ} {g : β → Run δ} {R : α → β → Prop}
  {P : Renaming → α → β → Prop} {Q : Renaming → γ → δ → Prop}

theorem Mirrors.ofExcept (h : Agrees (P ρ) x y) : Mirrors ρ (Run.ofExcept x) (Run.ofExcept y) P := by
  cases h with
  | ok h => exact Parallel.pure h
  | error h => exact Parallel.throw h

theorem Mirrors.ofExcept_bind (h : Agrees R x y) (hf : ∀ a b, R a b → Mirrors ρ (f a) (g b) Q) :
    Mirrors ρ (Run.ofExcept x >>= f) (Run.ofExcept y >>= g) Q := by
  cases h with
  | ok h => exact hf _ _ h
  | error h => exact Parallel.throw h

theorem Mirrors.store_bind {f : Store → Run γ} {g : Store → Run δ}
    (h : ∀ s t, ρ.Links s t → Mirrors ρ (f s) (g t) Q) :
    Mirrors ρ (Run.store >>= f) (Run.store >>= g) Q := by
  intro m n hmn
  rw [exec_bind_ok (exec_store m), exec_bind_ok (exec_store n)]
  exact h m.store n.store hmn m n hmn

theorem Mirrors.look {f : Store → Except Failure α} {g : Store → Except Failure β}
    (h : ∀ s t, ρ.Links s t → Agrees (P ρ) (f s) (g t)) : Mirrors ρ (Run.look f) (Run.look g) P :=
  Mirrors.store_bind fun s t hst => Mirrors.ofExcept (h s t hst)

theorem Mirrors.look_bind (h : ∀ s t, ρ.Links s t → Agrees R (k s) (l t))
    (hf : ∀ a b, R a b → Mirrors ρ (f a) (g b) Q) :
    Mirrors ρ (Run.look k >>= f) (Run.look l >>= g) Q := by
  have hstores : Mirrors ρ (Run.store >>= fun s => Run.ofExcept (k s) >>= f)
      (Run.store >>= fun s => Run.ofExcept (l s) >>= g) Q :=
    Mirrors.store_bind fun s t hst => Mirrors.ofExcept_bind (h s t hst) hf
  refine Parallel.congr (fun m => ?_) (fun n => ?_) hstores
  · rw [exec_bind_ok (exec_store m), exec_bind, exec_look, exec_bind, exec_ofExcept]
  · rw [exec_bind_ok (exec_store n), exec_bind, exec_look, exec_bind, exec_ofExcept]

theorem Mirrors.fail (cause : EvalError) : Mirrors ρ (Run.fail cause : Run α) (Run.fail cause) P :=
  Parallel.throw trivial

/-- An error that names the type of a value. -/
theorem Mirrors.typeError {v w : Value} (h : v.Like ρ w) (cause : String → EvalError) :
    Mirrors ρ (do Run.fail (cause (← Run.ofExcept v.typeName)) : Run α)
      (do Run.fail (cause (← Run.ofExcept w.typeName))) P := by
  refine Mirrors.ofExcept_bind h.typeName_agree ?_
  rintro type _ rfl
  exact Mirrors.fail _

/-- An error that names the types of two values. -/
theorem Mirrors.typesError {v w v' w' : Value} (h : v.Like ρ w) (h' : v'.Like ρ w')
    (cause : String → String → EvalError) :
    Mirrors ρ
      (do
        let left ← Run.ofExcept v.typeName
        Run.fail (cause left (← Run.ofExcept v'.typeName)) : Run α)
      (do
        let left ← Run.ofExcept w.typeName
        Run.fail (cause left (← Run.ofExcept w'.typeName))) P := by
  refine Mirrors.ofExcept_bind h.typeName_agree ?_
  rintro left _ rfl
  exact Mirrors.typeError h' _

theorem Mirrors.say (line : String) : Mirrors ρ (Run.say line) (Run.say line) fun _ _ _ => True :=
  fun _ _ hmn => ⟨ρ, .rfl, hmn, ⟨.refl ρ _, [line], rfl, rfl⟩, .ok trivial⟩

end

/-! ## Changes of the store -/

section

variable {ρ : Renaming} {s t : Store}

theorem Renaming.Links.addList (h : ρ.Links s t) (hxs : ValuesLike ρ xs.toList ys.toList) :
    (ρ.addList s.lists.size t.lists.size).Links (s.addList xs).2 (t.addList ys).2 where
  toContents := h.toContents.addList hxs
  functions := h.functions
  marks := h.marks
  function hab := (h.function hab).mono (ρ.within_addList _ _)

theorem Renaming.Links.addDict (h : ρ.Links s t) (hde : DictLike ρ d e) :
    (ρ.addDict s.dicts.size t.dicts.size).Links (s.addDict d).2 (t.addDict e).2 where
  toContents := h.toContents.addDict hde
  functions := h.functions
  marks := h.marks
  function hab := (h.function hab).mono (ρ.within_addDict _ _)

/-- Both stores get a new function. -/
theorem Renaming.Links.addFunction (h : ρ.Links s t) (hfg : f.Like ρ g) :
    (ρ.addFunction s.functions.size t.functions.size).Links (s.addFunction f).2 (t.addFunction g).2 where
  lists := h.lists
  dicts := h.dicts
  functions := by
    rw [Store.addFunction, Store.addFunction, Array.size_push, Array.size_push]
    exact h.functions.next
  marks := h.marks
  list hab := valuesLike_mono (ρ.within_addFunction _ _) (h.list hab)
  dict hab := dictLike_mono (ρ.within_addFunction _ _) (h.dict hab)
  function hab := by
    rw [Store.function_addFunction, Store.function_addFunction]
    rcases h.functions.next_cases hab with ⟨rfl, rfl⟩ | ⟨ha, hb, hab⟩
    · rw [if_pos rfl, if_pos rfl]
      exact hfg.mono (ρ.within_addFunction _ _)
    · rw [if_neg ha, if_neg hb]
      exact (h.function hab).mono (ρ.within_addFunction _ _)

/-- Both stores give out a new mark. -/
theorem Renaming.Links.addMark (h : ρ.Links s t) :
    (ρ.addMark s.marks t.marks).Links { s with marks := s.marks + 1 }
      { t with marks := t.marks + 1 } where
  lists := h.lists
  dicts := h.dicts
  functions := h.functions
  marks := h.marks.next
  list hab := valuesLike_mono (ρ.within_addMark _ _) (h.list hab)
  dict hab := dictLike_mono (ρ.within_addMark _ _) (h.dict hab)
  function hab := (h.function hab).mono (ρ.within_addMark _ _)

end

section

variable {α β : Type} {ρ : Renaming}

/-- Both change their stores, and nothing else. -/
theorem Mirrors.alter {f : Store → α × Store} {P : Renaming → α → β → Prop} (h : ∀ s t, ρ.Links s t →
      ∃ ρ', ρ.Within ρ' ∧ ρ'.Links (f s).2 (g t).2 ∧ ρ.Spares ρ' s (f s).2 ∧ P ρ' (f s).1 (g t).1) :
    Mirrors ρ (Run.alter f) (Run.alter g) P := by
  intro m n hmn
  obtain ⟨ρ', hρ, hlinks, hspares, hP⟩ := h m.store n.store hmn
  exact ⟨ρ', hρ, hlinks, ⟨hspares, [], rfl, rfl⟩, .ok hP⟩

theorem Mirrors.newList {xs ys : Array Value} (h : ValuesLike ρ xs.toList ys.toList) :
    Mirrors ρ (Run.newList xs) (Run.newList ys) Value.Like :=
  Mirrors.alter fun _ _ hst =>
    ⟨_, ρ.within_addList _ _, hst.addList h,
      .add (Nat.lt_irrefl _) Store.has_addList (fun n hn => (Store.cell_addList _ _ n).trans (if_neg hn))
        Renaming.knows_addList (fun _ => rfl) id,
      .list (.inr ⟨rfl, rfl⟩)⟩

theorem Mirrors.newDict {d e : Dict} (h : DictLike ρ d e) :
    Mirrors ρ (Run.newDict d) (Run.newDict e) Value.Like :=
  Mirrors.alter fun _ _ hst =>
    ⟨_, ρ.within_addDict _ _, hst.addDict h,
      .add (Nat.lt_irrefl _) Store.has_addDict (fun n hn => (Store.cell_addDict _ _ n).trans (if_neg hn))
        Renaming.knows_addDict (fun _ => rfl) id,
      .dict (.inr ⟨rfl, rfl⟩)⟩

theorem Mirrors.addFunction (hstrict : ¬ ρ.terms.loose) {f g : Function} (h : f.Like ρ g) :
    Mirrors ρ (Run.alter (·.addFunction f)) (Run.alter (·.addFunction g)) Value.Like :=
  Mirrors.alter fun _ _ hst =>
    ⟨_, ρ.within_addFunction _ _, hst.addFunction h,
      .add (Nat.lt_irrefl _) Store.has_addFunction
        (fun n hn => (Store.cell_addFunction _ _ n).trans (if_neg hn)) Renaming.knows_addFunction
        (fun hloose => absurd hloose hstrict) id,
      .function (.inr ⟨rfl, rfl⟩)⟩

theorem Mirrors.newFloat (x : Float) : Mirrors ρ (Run.newFloat x) (Run.newFloat x) Value.Like := by
  refine Mirrors.alter fun s t hst => ?_
  unfold Store.addFloat
  split
  · refine ⟨_, ρ.within_addMark _ _, hst.addMark, ?_, .scalar (.nan (.inr ⟨rfl, rfl⟩))⟩
    have hnew : ¬ s.Has (.mark s.marks) := Nat.lt_irrefl s.marks
    refine .add hnew ?_ (fun n _ => by cases n <;> rfl) Renaming.knows_addMark (fun _ => rfl) id
    intro n
    cases n with
    | mark i =>
      simp only [Store.Has, Node.mark.injEq]
      omega
    | _ => simp [Store.Has]
  · exact ⟨ρ, .rfl, hst, .refl ρ s, .scalar (.float x)⟩

theorem Mirrors.modifyList {a b : Nat} {f g : Array Value → Array Value} (hab : ρ.list a b)
    (h : ∀ xs ys : Array Value, ValuesLike ρ xs.toList ys.toList →
      ValuesLike ρ (f xs).toList (g ys).toList) :
    Mirrors ρ (Run.change (·.modifyList a f)) (Run.change (·.modifyList b g)) fun _ _ _ => True :=
  Mirrors.alter fun _ _ hst =>
    ⟨ρ, .rfl, ⟨hst.toContents.modifyList hab (h _ _ (hst.list hab)), hst.functions, hst.marks,
      hst.function⟩, .modifyList hab _, trivial⟩

theorem Mirrors.modifyDict {a b : Nat} {f g : Dict → Dict} (hab : ρ.dict a b)
    (h : ∀ s t : Store, ρ.Links s t → ∀ d e : Dict, DictLike ρ d e → DictLike ρ (f d) (g e)) :
    Mirrors ρ (Run.change (·.modifyDict a f)) (Run.change (·.modifyDict b g)) fun _ _ _ => True :=
  Mirrors.alter fun s t hst =>
    ⟨ρ, .rfl, ⟨hst.toContents.modifyDict hab (h s t hst _ _ (hst.dict hab)), hst.functions,
      hst.marks, hst.function⟩, .modifyDict hab _, trivial⟩

/-- Both make a snapshot. -/
theorem Mirrors.snapshot (h : Parallel (.copying ρ.function ρ.mark) ρ (copying (copyValue nestingLimit))
      (copying' (copyValue nestingLimit)) P) :
    Mirrors ρ (Run.snapshot copying) (Run.snapshot copying') P := by
  intro m n hmn
  obtain ⟨ρ', hρ, hlinked, ⟨hspares, hstill, hstill'⟩, hagree⟩ := h _ _ hmn.toContents.start
  rw [exec_snapshot, exec_snapshot]
  refine ⟨ρ', hρ, ?_, ⟨hspares, [], rfl, rfl⟩, ?_⟩
  · have hfunctions : (m.store.snapshot copying).2.functions = m.store.functions := hstill.1
    have hfunctions' : (n.store.snapshot copying').2.functions = n.store.functions := hstill'.1
    have hmarks : (m.store.snapshot copying).2.marks = m.store.marks := hstill.2
    have hmarks' : (n.store.snapshot copying').2.marks = n.store.marks := hstill'.2
    refine ⟨hlinked.contents, ?_, ?_, ?_⟩
    · rw [hfunctions, hfunctions', hlinked.function]
      exact hmn.functions
    · rw [hmarks, hmarks', hlinked.mark]
      exact hmn.marks
    · intro a b hab
      rw [hlinked.function] at hab
      rw [Store.function, Store.function, hfunctions, hfunctions']
      exact (hmn.function hab).mono hρ
  · refine hagree.weaken ?_
    rintro _ rfl
    trivial

theorem Mirrors.copyEnv (h : EnvLike ρ env env') :
    Mirrors ρ (Run.snapshot fun copy => Walkthrough.copyEnv copy env)
      (Run.snapshot fun copy => Walkthrough.copyEnv copy env') EnvLike :=
  Mirrors.snapshot (copyEnv_parallel nestingLimit h)

theorem Mirrors.copy (h : v.Like ρ w) :
    Mirrors ρ (Run.snapshot fun copy => copy v) (Run.snapshot fun copy => copy w) Value.Like :=
  Mirrors.snapshot (copyValue_parallel nestingLimit h)

end

/-! ## Operators -/

/-- A reason for an operator to have no result that may arise. -/
def OperatorTrouble.Arises : OperatorTrouble → Prop
  | .mismatch => True
  | .failure cause => cause.Arises

/-- Two operations on operands that are alike. -/
abbrev Operates (ρ : Renaming) (x y : OperatorM Value) : Prop :=
  Parallel (.machine OperatorTrouble.Arises) ρ x y Value.Like

theorem Operates.adapt (h : Mirrors ρ x y Value.Like) :
    Operates ρ (ExceptT.adapt .failure x) (ExceptT.adapt .failure y) := by
  intro m n hmn
  obtain ⟨ρ', hρ, hlinks, hmoves, hagree⟩ := h m n hmn
  rw [exec_adapt, exec_adapt]
  refine ⟨ρ', hρ, hlinks, hmoves, ?_⟩
  generalize (exec x m).1 = result at hagree ⊢
  generalize (exec y n).1 = result' at hagree ⊢
  cases hagree with
  | ok h => exact .ok h
  | error h => exact .error h

theorem Operates.fail (cause : EvalError) :
    Operates ρ (OperatorM.fail cause) (OperatorM.fail cause) :=
  Parallel.throw trivial

theorem Operates.mismatch : Operates ρ (throw .mismatch) (throw .mismatch) :=
  Parallel.throw trivial

theorem Operates.int (i : Int) : Operates ρ (pure (.int i)) (pure (.int i)) :=
  Parallel.pure (.scalar (.int i))

theorem Run.ofNum_mirrors (number : Numeric) :
    Mirrors ρ (Run.ofNum number) (Run.ofNum number) Value.Like := by
  cases number with
  | int value => exact Parallel.pure (.scalar (.int value))
  | float value => exact Mirrors.newFloat value
  | complex z => exact Parallel.pure (.complex z.re z.im)

theorem OperatorM.ofNum_operates (result : Except NumTrouble Numeric) :
    Operates ρ (OperatorM.ofNum result) (OperatorM.ofNum result) := by
  unfold OperatorM.ofNum
  split
  · exact Operates.adapt (Run.ofNum_mirrors _)
  · exact Operates.mismatch
  · exact Parallel.throw trivial
  · exact Parallel.throw trivial

theorem numeric_operates (op : Numeric → Numeric → Except NumTrouble Numeric) (ha : a.Like ρ a')
    (hb : b.Like ρ b') : Operates ρ (numeric op a b) (numeric op a' b') := by
  unfold numeric
  rw [ha.toNum?_eq, hb.toNum?_eq]
  split
  · exact OperatorM.ofNum_operates _
  · exact Operates.mismatch

/-- Both operators look at their stores. -/
theorem Operates.get_bind (h : ∀ m n, ρ.Links m.store n.store → Operates ρ (f m) (g n)) :
    Operates ρ (get >>= f) (get >>= g) :=
  Parallel.get_bind h

theorem addValues_operates (ha : a.Like ρ a') (hb : b.Like ρ b') :
    Operates ρ (addValues a b) (addValues a' b') := by
  have hnumeric := numeric_operates Numeric.add ha hb
  cases ha with
  | scalar h =>
    cases h with
    | str text =>
      cases hb with
      | scalar h' =>
        cases h' with
        | str text' => exact Parallel.pure (.scalar (.str _))
        | _ => exact hnumeric
      | _ => exact hnumeric
    | _ => exact hnumeric
  | list h =>
    cases hb with
    | list h' =>
      refine Operates.get_bind fun m n hmn => Operates.adapt (Mirrors.newList ?_)
      rw [Array.toList_append, Array.toList_append]
      exact List.rel_append (hmn.list h) (hmn.list h')
    | _ => exact hnumeric
  | _ => exact hnumeric

theorem sequenceLength?_eq (hρ : ρ.Links s t) (h : v.Like ρ w) :
    sequenceLength? s v = sequenceLength? t w := by
  cases h with
  | list h => exact congrArg some (hρ.size_eq h)
  | scalar h => cases h <;> rfl
  | _ => rfl

theorem replicate_flatten_rel (h : List.Forall₂ R l l') (count : Nat) :
    List.Forall₂ R (List.replicate count l).flatten (List.replicate count l').flatten := by
  induction count with
  | zero => exact .nil
  | succ count ih =>
    exact List.rel_append h ih

theorem repeatValue_operates (h : v.Like ρ w) (count : Nat) :
    Operates ρ (repeatValue v count) (repeatValue w count) := by
  cases h with
  | scalar h =>
    cases h with
    | str text => exact Parallel.pure (.scalar (.str _))
    | _ => exact Operates.mismatch
  | list h =>
    exact Operates.get_bind fun m n hmn =>
      Operates.adapt (Mirrors.newList (replicate_flatten_rel (hmn.list h) count))
  | _ => exact Operates.mismatch

theorem multiplyValues_operates (ha : a.Like ρ a') (hb : b.Like ρ b') :
    Operates ρ (multiplyValues a b) (multiplyValues a' b') := by
  refine Operates.get_bind fun m n hmn => ?_
  have hrepeat {v w : Value} (h : v.Like ρ w) (length : Nat) (count : Int) :
      Operates ρ
        (if Int.ofNat length * count > sequenceLimit then
          OperatorM.fail (.repetitionLimit sequenceLimit)
        else if !fitsWord count then OperatorM.fail (.fault (.overflow .index))
        else repeatValue v count.toNat)
        (if Int.ofNat length * count > sequenceLimit then
          OperatorM.fail (.repetitionLimit sequenceLimit)
        else if !fitsWord count then OperatorM.fail (.fault (.overflow .index))
        else repeatValue w count.toNat) := by
    split
    · exact Operates.fail _
    · split
      · exact Operates.fail _
      · exact repeatValue_operates h _
  dsimp only
  rw [sequenceLength?_eq hmn ha]
  by_cases hfirst : (sequenceLength? n.store a').isSome = true
  · rw [if_pos hfirst, if_pos hfirst]
    dsimp only
    rw [sequenceLength?_eq hmn ha, hb.asInt?_eq]
    split
    · exact hrepeat ha _ _
    · exact numeric_operates _ ha hb
  · rw [if_neg hfirst, if_neg hfirst]
    dsimp only
    rw [sequenceLength?_eq hmn hb, ha.asInt?_eq]
    split
    · exact hrepeat hb _ _
    · exact numeric_operates _ ha hb

theorem remainderValues_operates (hstrict : (∃ format, a = .str format) → ¬ ρ.terms.loose) (ha : a.Like ρ a') (hb : b.Like ρ b') :
    Operates ρ (remainderValues a b) (remainderValues a' b') := by
  have hnumeric := numeric_operates Numeric.mod ha hb
  cases ha with
  | scalar h =>
    cases h with
    | str format =>
      refine Operates.get_bind fun m n hmn => ?_
      have hpercent := percent_agree hmn (hstrict ⟨format, rfl⟩) format hb
      generalize percent m.store format b = x at hpercent ⊢
      generalize percent n.store format b' = y at hpercent ⊢
      cases hpercent with
      | ok h =>
        cases h
        exact Parallel.pure (.scalar (.str _))
      | error hplain =>
        split
        · next heq => cases heq
        · exact Operates.mismatch
        · exact Operates.fail _
        · exact Operates.fail _
        · exact Parallel.throw trivial
        · exact Operates.fail _
        · next hfault heq =>
          cases heq
          exact Parallel.throw (Failure.IsPlain.arises hplain fun cause h => hfault cause (by rw [h]))
    | _ => exact hnumeric
  | _ => exact hnumeric

/-- An error with the text of an integer. -/
theorem OperatorM.intText_operates (i : Int) (cause : String → EvalError) :
    Operates ρ (OperatorM.intText i >>= fun text => OperatorM.fail (cause text))
      (OperatorM.intText i >>= fun text => OperatorM.fail (cause text)) := by
  unfold OperatorM.intText
  generalize Number.intText i = result
  cases result with
  | ok text => exact Operates.fail _
  | error fault => exact Operates.fail _

theorem powerValues_operates (ha : a.Like ρ a') (hb : b.Like ρ b') :
    Operates ρ (powerValues a b) (powerValues a' b') := by
  have hnumeric := numeric_operates Numeric.pow ha hb
  unfold powerValues
  rw [ha.asInt?_eq, hb.asInt?_eq]
  split
  · split
    · exact OperatorM.intText_operates _ _
    · exact hnumeric
  · exact hnumeric

theorem bitwise_operates (onBool : Bool → Bool → Bool) (onInt : Int → Int → Int)
    (ha : a.Like ρ a') (hb : b.Like ρ b') :
    Operates ρ (bitwise onBool onInt a b) (bitwise onBool onInt a' b') := by
  cases ha with
  | scalar h =>
    cases h with
    | bool x =>
      cases hb with
      | scalar h' =>
        cases h' with
        | bool y => exact Parallel.pure (.scalar (.bool _))
        | int y => exact Operates.int _
        | _ => exact Operates.mismatch
      | _ => exact Operates.mismatch
    | int x =>
      cases hb with
      | scalar h' =>
        cases h' with
        | bool y => exact Operates.int _
        | int y => exact Operates.int _
        | _ => exact Operates.mismatch
      | _ => exact Operates.mismatch
    | _ => exact Operates.mismatch
  | _ => exact Operates.mismatch

theorem uniteValues_operates (ha : a.Like ρ a') (hb : b.Like ρ b') :
    Operates ρ (uniteValues a b) (uniteValues a' b') := by
  have hbits := bitwise_operates (· || ·) (combineBits (· || ·)) ha hb
  cases ha with
  | dict h =>
    cases hb with
    | dict h' =>
      refine Operates.get_bind fun m n hmn => Operates.adapt (Mirrors.newDict ?_)
      exact (hmn.dict h).insertMany (keysFit_key hmn.marks) (hmn.dict h')
    | _ => exact hbits
  | _ => exact hbits

theorem shiftLeftValues_operates (ha : a.Like ρ a') (hb : b.Like ρ b') :
    Operates ρ (shiftLeftValues a b) (shiftLeftValues a' b') := by
  unfold shiftLeftValues
  rw [ha.asInt?_eq, hb.asInt?_eq]
  split
  · split
    · exact OperatorM.intText_operates _ _
    · split
      · split
        · exact Operates.fail _
        · exact Operates.int _
      · exact Operates.mismatch
  · exact Operates.mismatch

theorem shiftRightValues_operates (ha : a.Like ρ a') (hb : b.Like ρ b') :
    Operates ρ (shiftRightValues a b) (shiftRightValues a' b') := by
  unfold shiftRightValues
  rw [ha.asInt?_eq, hb.asInt?_eq]
  split
  · split
    · exact Operates.fail _
    · split
      · exact Operates.int _
      · exact Operates.int _
  · exact Operates.mismatch

theorem BinaryOp.run_operates (op : BinaryOp) (hop : op = .mod → (∃ format, a = .str format) → ¬ ρ.terms.loose) (ha : a.Like ρ a') (hb : b.Like ρ b') :
    Operates ρ (op.run a b) (op.run a' b') := by
  cases op with
  | add => exact addValues_operates ha hb
  | mul => exact multiplyValues_operates ha hb
  | mod => exact remainderValues_operates (hop rfl) ha hb
  | pow => exact powerValues_operates ha hb
  | bitAnd => exact bitwise_operates _ _ ha hb
  | bitOr => exact uniteValues_operates ha hb
  | bitXor => exact bitwise_operates _ _ ha hb
  | shiftLeft => exact shiftLeftValues_operates ha hb
  | shiftRight => exact shiftRightValues_operates ha hb
  | matMul => exact Operates.fail _
  | sub => exact numeric_operates _ ha hb
  | div => exact numeric_operates _ ha hb
  | floorDiv => exact numeric_operates _ ha hb

theorem UnaryOp.run_operates (op : UnaryOp) (h : v.Like ρ w) :
    Operates ρ (op.run v) (op.run w) := by
  cases h with
  | complex re im =>
    cases op with
    | neg => exact Parallel.pure (.complex _ _)
    | pos => exact Parallel.pure (.complex _ _)
    | invert => exact Operates.mismatch
  | scalar h =>
    cases h with
    | nan h =>
      cases op with
      | pos => exact Parallel.pure (.scalar (.nan h))
      | neg => exact OperatorM.ofNum_operates _
      | invert => exact Operates.mismatch
    | bool value =>
      cases op with
      | pos => exact OperatorM.ofNum_operates _
      | neg => exact Operates.int _
      | invert => exact Operates.int _
    | int value =>
      cases op with
      | pos => exact OperatorM.ofNum_operates _
      | neg => exact Operates.int _
      | invert => exact Operates.int _
    | float value =>
      cases op with
      | pos => exact OperatorM.ofNum_operates _
      | neg => exact OperatorM.ofNum_operates _
      | invert => exact Operates.mismatch
    | _ => cases op <;> exact Operates.mismatch
  | _ => cases op <;> exact Operates.mismatch

/-- What is known of the failures of the first computation. -/
theorem Parallel.failsAs {ε α β : Type} {x : ExceptT ε (StateM Machine) α}
    {y : ExceptT ε (StateM Machine) β} {P : Renaming → α → β → Prop} {plain p : ε → Prop}
    (h : Parallel (.machine plain) ρ x y P) (hx : FailsAs p x) :
    Parallel (.machine fun failure => plain failure ∧ p failure) ρ x y P := by
  intro m n hmn
  obtain ⟨ρ', hρ, hlinks, hmoves, hagree⟩ := h m n hmn
  refine ⟨ρ', hρ, hlinks, hmoves, ?_⟩
  have hfailure (failure : ε) (h : (exec x m).1 = .error failure) : p failure :=
    hx m failure _ (Prod.ext h rfl)
  generalize (exec x m).1 = result at hagree hfailure ⊢
  generalize (exec y n).1 = result' at hagree ⊢
  cases hagree with
  | ok hab => exact .ok hab
  | error hplain => exact .error ⟨hplain, hfailure _ rfl⟩

/-- Running operators inside runs: their troubles are results like any other. -/
theorem Parallel.run_bind {γ δ : Type} {x y : OperatorM Value} {Q : Renaming → γ → δ → Prop}
    {k : Except OperatorTrouble Value → Run γ} {l : Except OperatorTrouble Value → Run δ}
    {plain : OperatorTrouble → Prop} (hx : Parallel (.machine plain) ρ x y Value.Like)
    (hok : ∀ ρ' v w, ρ.Within ρ' → v.Like ρ' w → Mirrors ρ' (k (.ok v)) (l (.ok w)) Q)
    (htrouble : ∀ ρ' trouble, ρ.Within ρ' → plain trouble →
      Mirrors ρ' (k (.error trouble)) (l (.error trouble)) Q) :
    Mirrors ρ (liftM x.run >>= k) (liftM y.run >>= l) Q := by
  intro m n hmn
  obtain ⟨ρ', hρ, hlinks, hmoves, hagree⟩ := hx m n hmn
  have hexec : exec (liftM x.run >>= k) m = exec (k (exec x m).1) (exec x m).2 := rfl
  have hexec' : exec (liftM y.run >>= l) n = exec (l (exec y n).1) (exec y n).2 := rfl
  have hnext : Mirrors ρ' (k (exec x m).1) (l (exec y n).1) Q := by
    generalize (exec x m).1 = result at hagree ⊢
    generalize (exec y n).1 = result' at hagree ⊢
    cases hagree with
    | ok h => exact hok ρ' _ _ hρ h
    | error h => exact htrouble ρ' _ hρ h
  obtain ⟨ρ'', hρ', hlinks', hmoves', hagree'⟩ := hnext _ _ hlinks
  rw [hexec, hexec']
  exact ⟨ρ'', hρ.trans hρ', hlinks', Comparison.trans _ hρ hρ' hmoves hmoves', hagree'⟩

theorem operandError_mirrors {P : Renaming → Value → Value → Prop} (op : BinaryOp)
    (ha : a.Like ρ a') (hb : b.Like ρ b') :
    Mirrors ρ (operandError op a b) (operandError op a' b') P := by
  have htypes := Mirrors.typesError (P := P) ha hb (.operands op.symbol)
  cases op with
  | add =>
    cases ha with
    | scalar h =>
      cases h with
      | str text => exact Mirrors.typeError hb _
      | _ => exact htypes
    | _ => exact htypes
  | _ => exact htypes

theorem BinaryOp.apply_mirrors (op : BinaryOp) (hop : op = .mod → (∃ format, a = .str format) → ¬ ρ.terms.loose) (ha : a.Like ρ a') (hb : b.Like ρ b') :
    Mirrors ρ (op.apply a b) (op.apply a' b') Value.Like := by
  unfold BinaryOp.apply
  dsimp only
  rw [ha.isFunction_eq, hb.isFunction_eq]
  split
  · exact Parallel.throw trivial
  · split
    · exact operandError_mirrors op ha hb
    · refine (op.run_operates hop ha hb).run_bind (fun _ v w _ h => Parallel.pure h) ?_
      intro ρ' trouble hρ hplain
      cases trouble with
      | mismatch => exact operandError_mirrors op (ha.mono hρ) (hb.mono hρ)
      | failure cause => exact Parallel.throw hplain

theorem UnaryOp.apply_mirrors (op : UnaryOp) (h : v.Like ρ w) :
    Mirrors ρ (op.apply v) (op.apply w) Value.Like := by
  refine (op.run_operates h).run_bind (fun _ v w _ h => Parallel.pure h) ?_
  intro ρ' trouble hρ hplain
  cases trouble with
  | mismatch => exact Mirrors.typeError (h.mono hρ) _
  | failure cause => exact Parallel.throw hplain

/-! ## Comparisons -/

theorem unorderedError_mirrors (symbol : String) (ha : a.Like ρ a') (hb : b.Like ρ b') :
    Mirrors ρ (unorderedError symbol a b) (unorderedError symbol a' b') P :=
  Mirrors.typesError ha hb _

theorem isMember_mirrors (symbol : String) (ha : a.Like ρ a') (hb : b.Like ρ b') :
    Mirrors ρ (isMember symbol a b) (isMember symbol a' b') fun _ => Eq := by
  have hunordered := unorderedError_mirrors (P := fun _ => Eq) symbol ha hb
  refine Mirrors.store_bind fun s t hst => ?_
  cases hb with
  | scalar h =>
    cases h with
    | str text =>
      cases ha with
      | scalar h' =>
        cases h' with
        | str part => exact Parallel.pure rfl
        | _ => exact hunordered
      | _ => exact hunordered
    | _ => exact Mirrors.fail _
  | complex re im => exact Parallel.throw trivial
  | function h => exact Mirrors.fail _
  | list h => exact Mirrors.look fun s t hst => isAmong_agree hst ha (hst.list h)
  | dict h =>
    cases ha with
    | scalar h' => exact Parallel.pure ((hst.dict h).contains (keysFit_key hst.marks) h')
    | complex re im =>
      exact Parallel.pure (any_eq (hst.dict h).keys fun _ _ hkey => hkey.complexEquals_eq re im)
    | function h' => exact Parallel.pure rfl
    | list h' => exact hunordered
    | dict h' => exact hunordered

theorem OrderOp.apply_mirrors (op : OrderOp) (ha : a.Like ρ a') (hb : b.Like ρ b') :
    Mirrors ρ (op.apply a b) (op.apply a' b') fun _ => Eq := by
  refine Mirrors.store_bind fun s t hst => ?_
  have hordered := ordered_agree hst op nestingLimit ha hb
  generalize ordered s op nestingLimit a b = x at hordered ⊢
  generalize ordered t op nestingLimit a' b' = y at hordered ⊢
  cases hordered with
  | ok h => exact Parallel.pure h
  | error hplain =>
    split
    · next heq => cases heq
    · exact unorderedError_mirrors _ ha hb
    · next heq =>
      cases heq
      exact Parallel.throw hplain

theorem CompareOp.apply_mirrors (op : CompareOp) (ha : a.Like ρ a') (hb : b.Like ρ b') :
    Mirrors ρ (op.apply a b) (op.apply a' b') fun _ => Eq := by
  cases op with
  | eq => exact Mirrors.look fun s t hst => equalValues_agree hst ha hb
  | ne =>
    refine Mirrors.look_bind (fun s t hst => equalValues_agree hst ha hb) ?_
    rintro holds _ rfl
    exact Parallel.pure rfl
  | lt => exact OrderOp.apply_mirrors _ ha hb
  | gt => exact OrderOp.apply_mirrors _ ha hb
  | le => exact OrderOp.apply_mirrors _ ha hb
  | ge => exact OrderOp.apply_mirrors _ ha hb
  | isIn => exact isMember_mirrors _ ha hb
  | notIn =>
    refine (isMember_mirrors _ ha hb).bind ?_
    rintro ρ' holds _ _ rfl
    exact Parallel.pure rfl
  | same => exact fun m n hmn => Parallel.pure (isIdentical_eq hmn ha hb) m n hmn
  | notSame =>
    exact fun m n hmn => Parallel.pure (congrArg not (isIdentical_eq hmn ha hb)) m n hmn
  | other symbol => exact Mirrors.fail _

end Walkthrough
