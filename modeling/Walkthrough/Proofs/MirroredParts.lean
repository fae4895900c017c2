import Walkthrough.Proofs.Formats
import Walkthrough.Proofs.MirroredCalls

/-!
# Parts of statements on what is alike

What evaluation and statements do apart from evaluating expressions: they look names up, lay values
out, set elements, make functions and start calls.  With scopes and values that are alike all this
does the same.  What a statement did is alike if its action, the bindings that it leaves and its
result are.
-/

namespace Walkthrough

open Source Text Format

/-! ## Scopes -/

theorem optionLike_mono (hρ : ρ.Within ρ') (h : Option.Rel (Value.Like ρ) x y) :
    Option.Rel (Value.Like ρ') x y := by
  cases h with
  | some h => exact .some (h.mono hρ)
  | none => exact .none

theorem envLike_get? (h : EnvLike ρ env env') (name : String) :
    Option.Rel (Value.Like ρ) (env.get? name) (env'.get? name) :=
  Table.Like.get? keysFit_name h rfl

theorem envLike_contains (h : EnvLike ρ env env') (name : String) :
    env.contains name = env'.contains name :=
  Table.Like.contains keysFit_name h rfl

theorem envLike_insert (h : EnvLike ρ env env') (name : String) (hvw : v.Like ρ w) :
    EnvLike ρ (env.insert name v) (env'.insert name w) :=
  Table.Like.insert keysFit_name h rfl hvw

/-! ## Effects -/

/-- Two actions that are alike. -/
inductive Action.Like (ρ : Renaming) : Action → Action → Prop where
  | assign {v w : Value} (name source : String) (h : v.Like ρ w) :
    Action.Like ρ (.assign name v source) (.assign name w source)
  | reassign {v w old old' : Value} (name source : String) (h : v.Like ρ w)
    (hold : old.Like ρ old') :
    Action.Like ρ (.reassign name v source old) (.reassign name w source old')
  | augment {v w old old' right right' : Value} (name : String) (op : BinaryOp) (h : v.Like ρ w)
    (hold : old.Like ρ old') (hright : right.Like ρ right') :
    Action.Like ρ (.augment name op v old right) (.augment name op w old' right')
  | setItem {key key' v w old old' : Value} (kind : ContainerKind) (name summary : String)
    (hkey : key.Like ρ key') (h : v.Like ρ w) (hold : old.Like ρ old') :
    Action.Like ρ (.setItem kind name key v old summary) (.setItem kind name key' w old' summary)
  | operate {vs ws : List Value} {v w old old' result result' : Value} (kind : ContainerKind)
    (name operation summary : String) (hvs : ValuesLike ρ vs ws) (h : v.Like ρ w)
    (hold : old.Like ρ old') (hresult : result.Like ρ result') :
    Action.Like ρ (.operate kind name operation vs v old summary result)
      (.operate kind name operation ws w old' summary result')
  | print {vs ws : List Value} (text : String) (h : ValuesLike ρ vs ws) :
    Action.Like ρ (.print vs text) (.print ws text)
  | define (name : String) (parameters : List String) (body : List Nat) :
    Action.Like ρ (.define name parameters body) (.define name parameters body)
  | call {vs ws : List Value} {v w : Value} (name : String) (hvs : ValuesLike ρ vs ws)
    (h : v.Like ρ w) : Action.Like ρ (.call name vs v) (.call name ws w)
  | loopStart (target iterable : String) (body : List Nat) :
    Action.Like ρ (.loopStart target iterable body) (.loopStart target iterable body)
  | loopIteration {v w : Value} (target : String) (index total : Nat) (h : v.Like ρ w) :
    Action.Like ρ (.loopIteration target v index total) (.loopIteration target w index total)
  | loopEnd (target : String) : Action.Like ρ (.loopEnd target) (.loopEnd target)
  | condition {extra extra' : List (String × Value)} (word : GuardWord) (text : String)
    (result : Bool) (h : List.Forall₂ (EntryLike Eq ρ) extra extra') :
    Action.Like ρ (.condition word text result extra) (.condition word text result extra')
  | execute (code : String) : Action.Like ρ (.execute code) (.execute code)
  | error (message : String) : Action.Like ρ (.error message) (.error message)

/-- Actions that are alike are copied alike. -/
theorem Action.mapM_parallel {function mark : Nat → Nat → Prop} (depth : Nat) {a b : Action}
    (h : a.Like ρ b) :
    Parallel (.copying function mark) ρ (a.mapM (copyValue depth)) (b.mapM (copyValue depth))
      Action.Like := by
  have hcopy {ρ : Renaming} {v w : Value} (h : v.Like ρ w) :
      Parallel (.copying function mark) ρ (copyValue depth v) (copyValue depth w) Value.Like :=
    copyValue_parallel depth h
  have hcopies {vs ws : List Value} (h : ValuesLike ρ vs ws) :
      Parallel (.copying function mark) ρ (vs.mapM (copyValue depth)) (ws.mapM (copyValue depth))
        ValuesLike :=
    Parallel.mapM (A := Value.Like) (fun hρ h => h.mono hρ) (fun hρ h => h.mono hρ)
      (fun _ _ _ _ h => hcopy h) h
  cases h with
  | assign name source h => exact (hcopy h).bind fun _ _ _ _ h => .pure (.assign name source h)
  | reassign name source h hold =>
    refine (hcopy h).bind fun ρ₁ _ _ h₁ h => (hcopy (hold.mono h₁)).bind fun ρ₂ _ _ h₂ hold => ?_
    exact .pure (.reassign name source (h.mono h₂) hold)
  | augment name op h hold hright =>
    refine (hcopy h).bind fun ρ₁ _ _ h₁ h => (hcopy (hold.mono h₁)).bind fun ρ₂ _ _ h₂ hold => ?_
    refine (hcopy (hright.mono (h₁.trans h₂))).bind fun ρ₃ _ _ h₃ hright => ?_
    exact .pure (.augment name op (h.mono (h₂.trans h₃)) (hold.mono h₃) hright)
  | setItem kind name summary hkey h hold =>
    refine (hcopy hkey).bind fun ρ₁ _ _ h₁ hkey => (hcopy (h.mono h₁)).bind fun ρ₂ _ _ h₂ h => ?_
    refine (hcopy (hold.mono (h₁.trans h₂))).bind fun ρ₃ _ _ h₃ hold => ?_
    exact .pure (.setItem kind name summary (hkey.mono (h₂.trans h₃)) (h.mono h₃) hold)
  | operate kind name operation summary hvs h hold hresult =>
    refine (hcopies hvs).bind fun ρ₁ _ _ h₁ hvs => (hcopy (h.mono h₁)).bind fun ρ₂ _ _ h₂ h => ?_
    have h₁₂ := h₁.trans h₂
    refine (hcopy (hold.mono h₁₂)).bind fun ρ₃ _ _ h₃ hold => ?_
    refine (hcopy (hresult.mono (h₁₂.trans h₃))).bind fun ρ₄ _ _ h₄ hresult => ?_
    exact .pure (.operate kind name operation summary
      (valuesLike_mono (h₂.trans (h₃.trans h₄)) hvs) (h.mono (h₃.trans h₄)) (hold.mono h₄) hresult)
  | print text hvs => exact (hcopies hvs).bind fun _ _ _ _ hvs => .pure (.print text hvs)
  | call name hvs h =>
    refine (hcopies hvs).bind fun ρ₁ _ _ h₁ hvs => (hcopy (h.mono h₁)).bind fun ρ₂ _ _ h₂ h => ?_
    exact .pure (.call name (valuesLike_mono h₂ hvs) h)
  | loopIteration target index total h =>
    exact (hcopy h).bind fun _ _ _ _ h => .pure (.loopIteration target index total h)
  | condition word text result hextra =>
    have hentries := copyEntries_parallel (K := fun _ => Eq) (fun _ h => h) hcopy hextra
    exact hentries.bind fun _ _ _ _ hextra => .pure (.condition word text result hextra)
  | define name parameters body => exact .pure (.define name parameters body)
  | loopStart target iterable body => exact .pure (.loopStart target iterable body)
  | loopEnd target => exact .pure (.loopEnd target)
  | execute code => exact .pure (.execute code)
  | error message => exact .pure (.error message)

/-- Two effects that are alike; `R` says when their results are. -/
structure Effect.Like {α : Type} (R : Renaming → α → α → Prop) (ρ : Renaming) (a b : Effect α) :
    Prop where
  action : Option.Rel (Action.Like ρ) a.action b.action
  env : EnvLike ρ a.env b.env
  result : Agree (fun _ => True) (R ρ) a.result b.result

/-- Two values to return that are alike, if there are any. -/
abbrev ReturnLike (ρ : Renaming) : Option Value → Option Value → Prop :=
  Option.Rel (Value.Like ρ)

section

variable {α : Type} {R : Renaming → α → α → Prop} {ρ : Renaming} {env env' : Env}

theorem Effect.Like.done {action action' : Action} (haction : action.Like ρ action')
    (henv : EnvLike ρ env env') (hab : R ρ a b) :
    Effect.Like R ρ (.done action env a) (.done action' env' b) :=
  ⟨.some haction, henv, .ok hab⟩

theorem Effect.Like.failed (henv : EnvLike ρ env env') (cause : EvalError) :
    Effect.Like R ρ (.failed env cause) (.failed env' cause) :=
  ⟨.some (.error _), henv, .error trivial⟩

theorem Effect.Like.goesOn (h : Effect.Like R ρ a b) : Effect.Like ReturnLike ρ a.goesOn b.goesOn := by
  refine ⟨h.action, h.env, ?_⟩
  have hresult := h.result
  unfold Effect.goesOn
  generalize a.result = x at hresult ⊢
  generalize b.result = y at hresult ⊢
  cases hresult with
  | ok _ => exact .ok .none
  | error _ => exact .error trivial

end

section

variable {ρ : Renaming} {v w : Value}

/-! ## Parts of expressions -/

theorem Run.key_mirrors (h : v.Like ρ w) : Mirrors ρ (Run.key v) (Run.key w) Key.Like :=
  Mirrors.ofExcept h.toKey_agree

theorem lookUp_mirrors (h : EnvLike ρ env env') (name : String) :
    Mirrors ρ (lookUp env name) (lookUp env' name) Value.Like := by
  have hfound := envLike_get? h name
  unfold lookUp
  generalize env.get? name = x at hfound ⊢
  generalize env'.get? name = y at hfound ⊢
  cases hfound with
  | some h => exact Parallel.pure h
  | none => exact Mirrors.fail _

theorem nameValue_mirrors (h : EnvLike ρ env env') (name : String) :
    Mirrors ρ (nameValue env name) (nameValue env' name) Value.Like := by
  unfold nameValue
  rw [envLike_contains h name]
  split
  · exact Mirrors.fail _
  · exact lookUp_mirrors h name

/-- Two things to call that are alike. -/
inductive Callee.Like (ρ : Renaming) : Callee → Callee → Prop where
  | value {v w : Value} (h : v.Like ρ w) : Callee.Like ρ (.value v) (.value w)
  | builtin (function : Builtin) : Callee.Like ρ (.builtin function) (.builtin function)

theorem Callee.Like.mono {ρ' : Renaming} (hρ : ρ.Within ρ') {a b : Callee} (h : a.Like ρ b) :
    a.Like ρ' b := by
  cases h with
  | value h => exact .value (h.mono hρ)
  | builtin function => exact .builtin function

theorem calleeOf_mirrors (h : EnvLike ρ env env') (name : String) :
    Mirrors ρ (calleeOf env name) (calleeOf env' name) Callee.Like := by
  have hfound := envLike_get? h name
  unfold calleeOf
  generalize env.get? name = x at hfound ⊢
  generalize env'.get? name = y at hfound ⊢
  cases hfound with
  | some h => exact Parallel.pure (.value h)
  | none =>
    cases Builtin.ofName? name with
    | some function => exact Parallel.pure (.builtin function)
    | none => exact Mirrors.fail _

theorem formatValue_mirrors (spec : String) (h : v.Like ρ w) :
    Mirrors ρ (formatValue spec v) (formatValue spec w) fun _ => Eq := by
  have hrefuse := Mirrors.typeError (α := String) (β := String) (P := fun _ => Eq) h .noFormat
  have hformatted {result : Except FormatError String} (hresult : Formats result) :
      Mirrors ρ (Run.ofExcept (result.mapError formatFailure))
        (Run.ofExcept (result.mapError formatFailure)) fun _ => Eq := by
    cases result with
    | ok text => exact Parallel.pure rfl
    | error cause => exact Parallel.throw (hresult cause rfl).failure
  unfold formatValue
  cases h with
  | complex re im => exact hformatted (formatComplex_formats _ _ _)
  | list h => exact hrefuse
  | dict h => exact hrefuse
  | function h => exact hrefuse
  | scalar h =>
    cases h with
    | none => exact hrefuse
    | bool value => exact hformatted (formatInt_formats _ _ _)
    | int value => exact hformatted (formatInt_formats _ _ _)
    | float value => exact hformatted (formatFloat_formats _ _)
    | nan _ => exact hformatted (formatFloat_formats _ _)
    | str text => exact hformatted (formatText_formats _ _)

theorem fieldText_mirrors (conversion spec : String) (h : v.Like ρ w) :
    Mirrors ρ (fieldText conversion spec v) (fieldText conversion spec w) fun _ => Eq := by
  -- What follows the conversion gets values that are alike.
  have hresult {v w : Value} (h : v.Like ρ w) :
      Mirrors ρ (if spec.isEmpty then Run.look fun s => v.text s else formatValue spec v)
        (if spec.isEmpty then Run.look fun s => w.text s else formatValue spec w)
        fun _ => Eq := by
    split
    · exact Mirrors.look fun s t hst => text_agree hst h
    · exact formatValue_mirrors spec h
  unfold fieldText
  dsimp only
  split
  · refine Mirrors.look_bind (fun s t hst => repr_agree hst h) ?_
    rintro text _ rfl
    exact hresult (Like.str text)
  · refine Mirrors.look_bind (fun s t hst => repr_agree hst h) ?_
    rintro text _ rfl
    exact hresult (Like.str _)
  · refine Mirrors.look_bind (fun s t hst => text_agree hst h) ?_
    rintro text _ rfl
    exact hresult (Like.str text)
  · exact hresult h

theorem sliceValue_mirrors (h : v.Like ρ w) (hstart : start.Like ρ start') (hstop : stop.Like ρ stop')
    (hstep : step.Like ρ step') :
    Mirrors ρ (sliceValue v start stop step) (sliceValue w start' stop' step') Value.Like := by
  refine Mirrors.look_bind (fun s t hst => sliceOf_agree hst h hstart hstop hstep) ?_
  intro part part' hpart
  cases hpart with
  | elements h => exact Mirrors.newList h
  | text text => exact Parallel.pure (Like.str text)

theorem loopElements_mirrors (limit : Int) (h : v.Like ρ w) :
    Mirrors ρ (Run.look fun s => loopElements s limit v) (Run.look fun s => loopElements s limit w)
      ValuesLike :=
  Mirrors.look fun _ _ hst => loopElements_agree hst limit h

theorem unreadable_mirrors (cause : ReadError) :
    Mirrors ρ (Run.unreadable cause : Run α) (Run.unreadable cause : Run β) P := by
  unfold Run.unreadable
  split
  · next hcrowded =>
    cases hcrowded
    exact Parallel.throw trivial
  · exact Mirrors.fail _

/-! ## Parts of statements -/

theorem Reading.expr_mirrors (reading : Reading) :
    Mirrors ρ reading.expr reading.expr fun _ => Eq := by
  cases reading with
  | ok expr => exact Parallel.pure rfl
  | error cause => exact unreadable_mirrors cause

theorem Run.shown_mirrors (h : v.Like ρ w) : Mirrors ρ (Run.shown v) (Run.shown w) fun _ => Eq :=
  Mirrors.look fun _ _ hst => repr_agree hst h

theorem printLine_mirrors (h : ValuesLike ρ vs ws) :
    Mirrors ρ (Run.look fun s => printLine s vs) (Run.look fun s => printLine s ws) fun _ => Eq :=
  Mirrors.look fun _ _ hst => printLine_agree hst h

theorem set_rel (h : List.Forall₂ R l l') (place : Nat) (hab : R a b) :
    List.Forall₂ R (l.set place a) (l'.set place b) := by
  induction h generalizing place with
  | nil => exact .nil
  | cons hhead htail ih =>
    cases place with
    | zero => exact .cons hab htail
    | succ place => exact .cons hhead (ih place)

theorem setElement_mirrors (h : v.Like ρ w) (hkey : key.Like ρ key') (hvalue : value.Like ρ value') :
    Mirrors ρ (setElement v key value) (setElement w key' value') fun _ => Eq := by
  have hother := Mirrors.typeError (α := ContainerKind) (β := ContainerKind) (P := fun _ => Eq) h
    .noItemAssignment
  unfold setElement
  cases h with
  | complex re im => exact hother
  | function h => exact hother
  | scalar h => cases h <;> exact hother
  | list h =>
    dsimp only
    rw [hkey.asInt?_eq]
    split
    · refine Mirrors.store_bind fun s t hst => ?_
      rw [hst.size_eq h]
      split
      · refine (Mirrors.modifyList h fun xs ys hxs => ?_).bind fun _ _ _ _ _ => Parallel.pure rfl
        rw [Array.toList_setIfInBounds, Array.toList_setIfInBounds]
        exact set_rel hxs _ hvalue
      · exact Mirrors.fail _
    · exact Mirrors.typeError hkey _
  | dict h =>
    refine Run.key_bind hkey fun key key' hkeys => ?_
    refine (Mirrors.modifyDict h fun s t hst d e hde => ?_).bind fun _ _ _ _ _ => Parallel.pure rfl
    exact Table.Like.insert (keysFit_key hst.marks) hde hkeys hvalue

theorem containerKind_mirrors (operation : String) (h : v.Like ρ w) :
    Mirrors ρ (containerKind operation v) (containerKind operation w) fun _ => Eq := by
  have hunknown := Mirrors.typeError (α := ContainerKind) (β := ContainerKind) (P := fun _ => Eq) h
    fun type => .noAttribute type operation
  unfold containerKind
  cases h with
  | complex re im => exact hunknown
  | function h => exact hunknown
  | scalar h => cases h <;> exact hunknown
  | list h =>
    dsimp only
    split
    · exact Parallel.pure rfl
    · exact hunknown
  | dict h =>
    dsimp only
    split
    · exact Parallel.pure rfl
    · exact hunknown

theorem augmentedValue_mirrors (op : BinaryOp) (hop : op = .mod → (∃ format, v = .str format) → ¬ ρ.terms.loose)
    (h : v.Like ρ w) (hright : right.Like ρ right') :
    Mirrors ρ (augmentedValue op v right) (augmentedValue op w right') Value.Like := by
  have htexts : Mirrors ρ
      (do return .str ((← Run.look fun s => v.text s) ++ (← Run.look fun s => right.text s)))
      (do return .str ((← Run.look fun s => w.text s) ++ (← Run.look fun s => right'.text s)))
      Value.Like := by
    refine Mirrors.look_bind (fun s t hst => text_agree hst h) ?_
    rintro text _ rfl
    refine Mirrors.look_bind (fun s t hst => text_agree hst hright) ?_
    rintro text' _ rfl
    exact Parallel.pure (Like.str _)
  have happly := BinaryOp.apply_mirrors op hop h hright
  unfold augmentedValue
  cases op with
  | add =>
    cases h with
    | scalar h =>
      cases h with
      | str text => exact htexts
      | _ =>
        cases hright with
        | scalar hright =>
          cases hright with
          | str text => exact htexts
          | _ => exact happly
        | _ => exact happly
    | _ =>
      cases hright with
      | scalar hright =>
        cases hright with
        | str text => exact htexts
        | _ => exact happly
      | _ => exact happly
  | _ => exact happly

theorem bindFunction_mirrors (hstrict : ¬ ρ.terms.loose) (definition : Definition) (body : List Line)
    (hblock : ρ.terms.block block block') (h : EnvLike ρ env env') :
    Mirrors ρ (bindFunction definition body block env) (bindFunction definition body block' env')
      (Effect.Like fun _ => Eq) := by
  unfold bindFunction
  cases parameterNames definition.parameterText with
  | error piece => exact Mirrors.fail _
  | ok parameters =>
    refine (Mirrors.copyEnv h).bind fun ρ₁ closure closure' h₁ hclosure => ?_
    rw [← h₁.terms] at hstrict hblock
    have hfunction : Mirrors ρ₁ _ _ Value.Like := Mirrors.addFunction hstrict
      (f := { name := definition.name, parameters, body, block, closure })
      (g := { name := definition.name, parameters, body, block := block', closure := closure' })
      ⟨rfl, rfl, rfl, hblock, fun _ => hclosure, fun hloose => absurd hloose hstrict⟩
    refine hfunction.bind fun ρ₂ f g h₂ hfg => ?_
    exact Parallel.pure (.done (.define _ _ _)
      (envLike_insert (envLike_mono (h₁.trans h₂) h) _ hfg) rfl)

/-! ## Calls -/

theorem zip_rel (names : List String) (h : ValuesLike ρ vs ws) :
    List.Forall₂ (EntryLike Eq ρ) (names.zip vs) (names.zip ws) := by
  induction h generalizing names with
  | nil =>
    rw [List.zip_nil_right]
    exact .nil
  | cons hvw _ ih =>
    cases names with
    | nil => exact .nil
    | cons name names => exact .cons ⟨rfl, hvw⟩ (ih names)

theorem startingScope_mirrors (hstrict : ¬ ρ.terms.loose) (hab : ρ.function a b) (hfg : f.Like ρ g)
    (hvs : ValuesLike ρ vs ws) : Mirrors ρ (startingScope a f vs) (startingScope b g ws) EnvLike := by
  unfold startingScope
  refine (Mirrors.copyEnv (hfg.closure hstrict)).bind fun ρ' closure closure' hρ hclosure => ?_
  refine Parallel.pure ?_
  have hscope : EnvLike ρ'
      (if closure.contains f.name then closure else closure.insert f.name (.function a))
      (if closure'.contains g.name then closure' else closure'.insert g.name (.function b)) := by
    rw [hfg.name, envLike_contains hclosure]
    split
    · exact hclosure
    · exact envLike_insert hclosure _ (.function (hρ.function hab))
  rw [hfg.parameters]
  exact Table.Like.insertMany keysFit_name hscope (zip_rel g.parameters (valuesLike_mono hρ hvs))

end

end Walkthrough
