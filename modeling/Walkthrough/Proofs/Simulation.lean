import Walkthrough.Proofs.MirroredParts

/-!
# Simulation

Two runs of the interpreter from scopes that are alike go hand in hand.  How closely they are
compared is left open: a `Judgement` says what it takes for two runs to be related, and has rules for
the ways in which the interpreter puts runs together.  From the rules it follows, by one induction
over expressions, statements, blocks and the room for calls, that every part of the interpreter is
related to itself.

The two runs may have two configurations, which differ in their budgets and in whether they take
notes.
-/

namespace Walkthrough

open Source Text Format

/-! ## Judgements -/

/-- What it takes for two runs to be related, and the rules that it has. -/
structure Judgement (config config' : Config) where
  rel {α β : Type} : Renaming → Run α → Run β → (Renaming → α → β → Prop) → Prop
  mirrors {α β : Type} {ρ : Renaming} {x : Run α} {y : Run β} {P : Renaming → α → β → Prop} :
    Mirrors ρ x y P → rel ρ x y P
  bind {α β γ δ : Type} {ρ : Renaming} {x : Run α} {y : Run β} {f : α → Run γ} {g : β → Run δ}
    {P : Renaming → α → β → Prop} {Q : Renaming → γ → δ → Prop} :
    rel ρ x y P → (∀ ρ' a b, ρ.Within ρ' → P ρ' a b → rel ρ' (f a) (g b) Q) →
    rel ρ (x >>= f) (y >>= g) Q
  /-- An error is handled. -/
  handle {α β : Type} {ρ : Renaming} {rolls : Bool} {x x' : Run α} {y y' : Run β}
    {h : EvalError → Run α} {k : EvalError → Run β} {P : Renaming → α → β → Prop} :
    rel ρ x y P → (∀ ρ' cause, ρ.Within ρ' → rel ρ' (h cause) (k cause) P) →
    Handles rolls x h x' → Handles rolls y k y' → rel ρ x' y' P
  /-- A remainder may write a format, with the bindings of functions in it. -/
  remainder {ρ : Renaming} {a a' b b' : Value} : a.Like ρ a' → b.Like ρ b' →
    rel ρ (BinaryOp.apply .mod a b) (BinaryOp.apply .mod a' b') Value.Like
  define {ρ : Renaming} {block block' : List Item} {env env' : Env} (definition : Definition)
    (body : List Line) : ρ.terms.block block block' → EnvLike ρ env env' →
    rel ρ (bindFunction definition body block env) (bindFunction definition body block' env')
      (Effect.Like fun _ => Eq)
  enter {ρ : Renaming} {a b : Nat} {f g : Function} {vs ws : List Value} : ρ.function a b →
    f.Like ρ g → ValuesLike ρ vs ws →
    rel ρ (startingScope a f vs) (startingScope b g ws) EnvLike
  call {ρ : Renaming} : rel ρ countCall countCall fun _ _ _ => True
  iteration {ρ : Renaming} : rel ρ countIteration countIteration fun _ _ _ => True
  statement {ρ : Renaming} :
    rel ρ (countStatement config) (countStatement config') fun _ _ _ => True
  passed {ρ : Renaming} :
    rel ρ (Run.note config .passed) (Run.note config' .passed) fun _ _ _ => True
  called {ρ : Renaming} {a b : Nat} {vs ws : List Value} (depth : Nat) (hab : ρ.function a b)
    (hvs : ValuesLike ρ vs ws) :
    rel ρ (Run.note config (.called depth a vs)) (Run.note config' (.called depth b ws))
      fun _ _ _ => True
  iterations : config.maxIterations = config'.maxIterations
  callDepth : config.maxCallDepth = config'.maxCallDepth

theorem Config.iterations_refl (config : Config) : config.maxIterations = config.maxIterations := rfl

theorem Config.callDepth_refl (config : Config) : config.maxCallDepth = config.maxCallDepth := rfl

variable {config config' : Config} (J : Judgement config config')

section

variable {α β γ δ : Type}

theorem Judgement.give (h : P ρ a b) : J.rel ρ (pure a) (pure b) P :=
  J.mirrors (Parallel.pure h)

theorem Judgement.fail (cause : EvalError) :
    J.rel ρ (Run.fail cause : Run α) (Run.fail cause : Run β) P :=
  J.mirrors (Mirrors.fail cause)

/-- The error of a statement becomes its effect. -/
theorem Judgement.attempt {x y : Run (Effect α)} {P : Renaming → Effect α → Effect α → Prop}
    (h : J.rel ρ x y P)
    (hfailed : ∀ ρ' cause, ρ.Within ρ' → P ρ' (.failed env cause) (.failed env' cause)) :
    J.rel ρ (Walkthrough.attempt env x) (Walkthrough.attempt env' y) P :=
  J.handle h (fun ρ' cause hρ => J.give (hfailed ρ' cause hρ)) (attempt_handles env x)
    (attempt_handles env' y)

/-- A failure inside a function is told to its caller. -/
theorem Judgement.relabel (name : String) (h : J.rel ρ x y P) :
    J.rel ρ (tryCatch x fun failure => throw (failureInside name failure))
      (tryCatch y fun failure => throw (failureInside name failure)) P := by
  refine J.handle h (fun ρ' cause _ => ?_) (failureInside_handles name x)
    (failureInside_handles name y)
  cases cause <;> exact J.fail _

/-- Both look at their stores. -/
theorem Judgement.store_bind (h : ∀ ρ' s t, ρ.Within ρ' → ρ'.Links s t → J.rel ρ' (f s) (g t) Q) :
    J.rel ρ (Run.store >>= f) (Run.store >>= g) Q := by
  have hstore : Mirrors ρ Run.store Run.store fun ρ' s t => ρ'.Links s t :=
    fun m n hmn => ⟨ρ, .rfl, hmn, ⟨.refl ρ _, [], rfl, rfl⟩, .ok hmn⟩
  exact J.bind (J.mirrors hstore) h

/-- Both may assume that their stores are linked. -/
theorem Judgement.linked (h : ∀ ρ' s t, ρ.Within ρ' → ρ'.Links s t → J.rel ρ' x y Q) : J.rel ρ x y Q :=
  J.store_bind h

theorem Judgement.operate (op : BinaryOp) (ha : a.Like ρ a') (hb : b.Like ρ b') :
    J.rel ρ (op.apply a b) (op.apply a' b') Value.Like := by
  by_cases hop : op = .mod
  · rw [hop]
    exact J.remainder ha hb
  · exact J.mirrors (BinaryOp.apply_mirrors op (fun h => absurd h hop) ha hb)

theorem Judgement.augment (op : BinaryOp) (ha : a.Like ρ a') (hb : b.Like ρ b') :
    J.rel ρ (augmentedValue op a b) (augmentedValue op a' b') Value.Like := by
  by_cases hop : op = .mod
  · rw [hop]
    exact J.remainder ha hb
  · exact J.mirrors (augmentedValue_mirrors op (fun h => absurd h hop) ha hb)

/-- Both fold over lists that are alike: one step keeps the accumulated values related. -/
theorem Judgement.foldlM {A : Renaming → α → β → Prop} 
    (hA : ∀ {ρ ρ' : Renaming} {a b}, ρ.Within ρ' → A ρ a b → A ρ' a b)
    (hf : ∀ ρ' a b c d, ρ.Within ρ' → A ρ' a b → Q ρ' c d → J.rel ρ' (f c a) (g d b) Q)
    (hl : List.Forall₂ (A ρ) l l') (hcd : Q ρ c d) : J.rel ρ (l.foldlM f c) (l'.foldlM g d) Q := by
  induction l generalizing ρ l' c d with
  | nil =>
    cases hl
    exact J.give hcd
  | cons a l ih =>
    cases hl with
    | @cons _ b _ l' hab hl =>
    refine J.bind (hf ρ a b c d .rfl hab hcd) fun ρ₁ c' d' h₁ hcd' => ?_
    exact ih (fun ρ' a b c d h => hf ρ' a b c d (h₁.trans h)) (hl.imp fun _ _ h => hA h₁ h) hcd'

end

/-! ## Expressions -/

theorem evaluateList_eq (context : Context) (env : Env) (exprs : List Expr) :
    evaluateList context env exprs = evaluateAll context env exprs := by
  unfold evaluateList
  induction exprs with
  | nil => rfl
  | cons expr rest ih => rw [List.mapM_cons, ih, evaluateAll]

/-- Calls in two contexts are related. -/
structure Judgement.Calls (context context' : Context) : Prop where
  iterations : context.maxIterations = context'.maxIterations
  call {ρ : Renaming} {a b : Nat} {vs ws : List Value} : ρ.function a b → ValuesLike ρ vs ws →
    J.rel ρ (context.call a vs) (context'.call b ws) Value.Like

variable {J}

theorem Judgement.Calls.apply (hcalls : J.Calls context context') (hab : a.Like ρ b)
    (hvs : ValuesLike ρ vs ws) : J.rel ρ (context.apply a vs) (context'.apply b ws) Value.Like := by
  unfold Context.apply
  cases hab with
  | builtin function =>
    rw [hcalls.iterations]
    exact J.mirrors (Builtin.call_mirrors _ function hvs)
  | value h =>
    have hother := Mirrors.typeError (α := Value) (β := Value) (P := Value.Like) h .notCallable
    cases h with
    | function h => exact hcalls.call h hvs
    | _ => exact J.mirrors hother

/-- What a comprehension has so far: its scope and its elements. -/
def CollectedLike (ρ : Renaming) (a b : Env × Array Value) : Prop :=
  EnvLike ρ a.1 b.1 ∧ ValuesLike ρ a.2.toList b.2.toList

mutual

theorem Judgement.Calls.value (hcalls : J.Calls context context') (expr : Expr)
    (henv : EnvLike ρ env env') :
    J.rel ρ (evaluate context env expr) (evaluate context' env' expr) Value.Like := by
  cases expr with
  | const value _ =>
    refine J.give (.scalar ?_)
    cases value <;> constructor
  | name id _ =>
    exact J.mirrors (nameValue_mirrors henv id)
  | binary op left right _ =>
    refine J.bind (hcalls.value left henv) fun ρ₁ a a' h₁ ha => ?_
    refine J.bind (hcalls.value right (envLike_mono h₁ henv)) ?_
    exact fun ρ₂ b b' h₂ hb => J.operate op (ha.mono h₂) hb
  | logic op left right _ =>
    refine J.bind (hcalls.value left henv) fun ρ₁ a a' h₁ ha => ?_
    refine J.store_bind fun ρ₂ s t h₂ hst => ?_
    have ha₂ := ha.mono h₂
    have hright := hcalls.value right (envLike_mono (h₁.trans h₂) henv)
    dsimp only
    rw [ha₂.isTruthy_eq hst.toContents]
    split
    · exact hright
    · exact hright
    · exact J.give ha₂
    · exact J.give ha₂
  | not operand _ =>
    refine J.bind (hcalls.value operand henv) fun ρ₁ a a' h₁ ha => ?_
    refine J.store_bind fun ρ₂ s t h₂ hst => ?_
    rw [(ha.mono h₂).isTruthy_eq hst.toContents]
    exact J.give (Like.bool _)
  | unary op operand _ =>
    refine J.bind (hcalls.value operand henv) fun ρ₁ a a' h₁ ha => ?_
    exact J.mirrors (UnaryOp.apply_mirrors op ha)
  | compare first rest _ =>
    refine J.bind (hcalls.value first henv) fun ρ₁ a a' h₁ ha => ?_
    refine J.bind (hcalls.chain rest (envLike_mono h₁ henv) ha) ?_
    rintro ρ₂ holds _ _ rfl
    exact J.give (Like.bool holds)
  | conditional condition yes no _ =>
    refine J.bind (hcalls.value condition henv) fun ρ₁ a a' h₁ ha => ?_
    refine J.store_bind fun ρ₂ s t h₂ hst => ?_
    have henv₂ := envLike_mono (h₁.trans h₂) henv
    rw [(ha.mono h₂).isTruthy_eq hst.toContents]
    split
    · exact hcalls.value yes henv₂
    · exact hcalls.value no henv₂
  | call function arguments _ =>
    refine J.bind (J.mirrors (calleeOf_mirrors henv function)) fun ρ₁ callee callee' h₁ hcallee => ?_
    refine J.bind (hcalls.values arguments (envLike_mono h₁ henv)) ?_
    exact fun ρ₂ vs ws h₂ hvs => hcalls.apply (hcallee.mono h₂) hvs
  | method receiver name arguments _ =>
    refine J.bind (hcalls.value receiver henv) fun ρ₁ object object' h₁ hobject => ?_
    refine J.bind (hcalls.values arguments (envLike_mono h₁ henv)) ?_
    intro ρ₂ vs ws h₂ hvs
    refine J.bind (J.mirrors (callMethod_mirrors (hobject.mono h₂) name hvs _)) ?_
    exact fun ρ₃ outcome outcome' _ houtcome => J.give houtcome.result
  | subscript object index _ =>
    refine J.bind (hcalls.value object henv) fun ρ₁ a a' h₁ ha => ?_
    refine J.bind (hcalls.value index (envLike_mono h₁ henv)) ?_
    intro ρ₂ i i' h₂ hi
    exact J.mirrors (Mirrors.look fun s t hst => subscript_agree hst (ha.mono h₂) hi)
  | slice object start stop step _ _ =>
    refine J.bind (hcalls.value object henv) fun ρ₁ a a' h₁ ha => ?_
    have henv₁ := envLike_mono h₁ henv
    refine J.bind (hcalls.part start henv₁) fun ρ₂ i i' h₂ hi => ?_
    have henv₂ := envLike_mono h₂ henv₁
    refine J.bind (hcalls.part stop henv₂) fun ρ₃ j j' h₃ hj => ?_
    have henv₃ := envLike_mono h₃ henv₂
    refine J.bind (hcalls.part step henv₃) fun ρ₄ k k' h₄ hk => ?_
    exact J.mirrors (sliceValue_mirrors (ha.mono (h₂.trans (h₃.trans h₄))) (hi.mono (h₃.trans h₄))
      (hj.mono h₄) hk)
  | list elements _ =>
    refine J.bind (hcalls.values elements henv) fun ρ₁ vs ws h₁ hvs => ?_
    exact J.mirrors (Mirrors.newList hvs)
  | dict entries _ =>
    refine J.bind (hcalls.entries entries henv .nil) ?_
    exact fun ρ₁ d d' _ hd => J.mirrors (Mirrors.newDict hd)
  | comprehension body clauses _ =>
    refine J.bind (hcalls.comprehension clauses henv .nil fun hscope => hcalls.value body hscope) ?_
    exact fun ρ₁ result result' _ hresult => J.mirrors (Mirrors.newList hresult.2)
  | formatted pieces _ =>
    refine J.bind (hcalls.pieces pieces henv) ?_
    rintro ρ₁ texts _ _ rfl
    exact J.give (Like.str _)

theorem Judgement.Calls.values (hcalls : J.Calls context context') (exprs : List Expr)
     (henv : EnvLike ρ env env') :
    J.rel ρ (evaluateAll context env exprs) (evaluateAll context' env' exprs) ValuesLike := by
  cases exprs with
  | nil =>
    exact J.give .nil
  | cons expr rest =>
    refine J.bind (hcalls.value expr henv) fun ρ₁ v w h₁ hvw => ?_
    refine J.bind (hcalls.values rest (envLike_mono h₁ henv)) ?_
    exact fun ρ₂ vs ws h₂ hvs => J.give (.cons (hvw.mono h₂) hvs)

theorem Judgement.Calls.part (hcalls : J.Calls context context') (part : Option Expr)
     (henv : EnvLike ρ env env') :
    J.rel ρ (evaluatePart context env part) (evaluatePart context' env' part) Value.Like := by
  cases part with
  | none =>
    exact J.give Like.none
  | some expr =>
    exact hcalls.value expr henv

theorem Judgement.Calls.chain (hcalls : J.Calls context context') (rest : List Comparand)
    {ρ : Renaming} {env env' : Env} {left left' : Value} (henv : EnvLike ρ env env')
    (hleft : left.Like ρ left') :
    J.rel ρ (evaluateChain context env left rest) (evaluateChain context' env' left' rest)
      fun _ => Eq := by
  cases rest with
  | nil =>
    exact J.give rfl
  | cons comparand rest =>
    obtain ⟨op, operand⟩ := comparand
    refine J.bind (hcalls.value operand henv) fun ρ₁ right right' h₁ hright => ?_
    refine J.bind (J.mirrors (CompareOp.apply_mirrors op (hleft.mono h₁) hright)) ?_
    rintro ρ₂ holds _ h₂ rfl
    split
    · exact hcalls.chain rest (envLike_mono (h₁.trans h₂) henv) (hright.mono h₂)
    · exact J.give rfl

theorem Judgement.Calls.entries (hcalls : J.Calls context context') (rest : List Entry)
     (henv : EnvLike ρ env env') (hd : DictLike ρ d d') :
    J.rel ρ (evaluateEntries context env d rest) (evaluateEntries context' env' d' rest) DictLike := by
  cases rest with
  | nil =>
    exact J.give hd
  | cons entry rest =>
    obtain ⟨key, value⟩ := entry
    refine J.bind (hcalls.value key henv) fun ρ₁ k k' h₁ hk => ?_
    refine J.bind (J.mirrors (Run.key_mirrors hk)) fun ρ₂ entryKey entryKey' h₂ hkey => ?_
    have henv₂ := envLike_mono (h₁.trans h₂) henv
    refine J.bind (hcalls.value value henv₂) fun ρ₃ v w h₃ hvw => ?_
    refine J.linked fun ρ₄ s t h₄ hst => ?_
    refine hcalls.entries rest (envLike_mono (h₃.trans h₄) henv₂) ?_
    exact Table.Like.insert (keysFit_key hst.marks)
      (dictLike_mono (h₁.trans (h₂.trans (h₃.trans h₄))) hd) (hkey.mono (h₃.trans h₄)) (hvw.mono h₄)

theorem Judgement.Calls.comprehension (hcalls : J.Calls context context') (clauses : List Clause)
    {ρ : Renaming} (henv : EnvLike ρ env env') (hxs : ValuesLike ρ xs.toList ys.toList)
    (hbody : ∀ {ρ scope scope'}, EnvLike ρ scope scope' →
      J.rel ρ (body scope) (body' scope') Value.Like) :
    J.rel ρ (comprehend context body clauses env xs) (comprehend context' body' clauses env' ys)
      CollectedLike := by
  cases clauses with
  | nil =>
    refine J.bind (hbody henv) fun ρ₁ v w h₁ hvw => ?_
    refine J.give ⟨envLike_mono h₁ henv, ?_⟩
    rw [Array.toList_push, Array.toList_push]
    exact List.rel_append (valuesLike_mono h₁ hxs) (.cons hvw .nil)
  | cons clause rest =>
    cases clause with
    | filter condition _ =>
      refine J.bind (hcalls.value condition henv) fun ρ₁ a a' h₁ ha => ?_
      refine J.store_bind fun ρ₂ s t h₂ hst => ?_
      have henv₂ := envLike_mono (h₁.trans h₂) henv
      have hxs₂ := valuesLike_mono (h₁.trans h₂) hxs
      rw [(ha.mono h₂).isTruthy_eq hst.toContents]
      split
      · exact hcalls.comprehension rest henv₂ hxs₂ hbody
      · exact J.give ⟨henv₂, hxs₂⟩
    | forIn target source _ =>
      refine J.bind (hcalls.value source henv) fun ρ₁ a a' h₁ ha => ?_
      rw [hcalls.iterations]
      refine J.bind (J.mirrors (loopElements_mirrors _ ha)) fun ρ₂ vs ws h₂ hvs => ?_
      have hstart : CollectedLike ρ₂ (env, xs) (env', ys) :=
        ⟨envLike_mono (h₁.trans h₂) henv, valuesLike_mono (h₁.trans h₂) hxs⟩
      refine J.foldlM (A := Value.Like) (Q := CollectedLike) (fun hρ h => h.mono hρ) ?_ hvs hstart
      intro ρ₃ v w state state' _ hvw hstate
      exact hcalls.comprehension rest (envLike_insert hstate.1 target hvw) hstate.2 hbody

theorem Judgement.Calls.pieces (hcalls : J.Calls context context') (pieces : List Piece)
     (henv : EnvLike ρ env env') :
    J.rel ρ (evaluatePieces context env pieces) (evaluatePieces context' env' pieces) fun _ => Eq := by
  cases pieces with
  | nil =>
    exact J.give rfl
  | cons piece rest =>
    cases piece with
    | text text _ =>
      refine J.bind (hcalls.pieces rest henv) ?_
      rintro ρ₁ texts _ _ rfl
      exact J.give rfl
    | field value conversion spec _ =>
      refine J.bind (hcalls.value value henv) fun ρ₁ v w h₁ hvw => ?_
      refine J.bind (J.mirrors (fieldText_mirrors conversion spec hvw)) ?_
      rintro ρ₂ text _ h₂ rfl
      refine J.bind (hcalls.pieces rest (envLike_mono (h₁.trans h₂) henv)) ?_
      rintro ρ₃ texts _ _ rfl
      exact J.give rfl

end

section

variable (hcalls : J.Calls context context') (henv : EnvLike ρ env env')

include hcalls henv

theorem Judgement.Calls.reading (reading : Reading) :
    J.rel ρ (reading.evaluate context env) (reading.evaluate context' env') Value.Like := by
  cases reading with
  | ok expr => exact hcalls.value expr henv
  | error cause => exact J.mirrors (unreadable_mirrors cause)

theorem Judgement.Calls.valueList (exprs : List Expr) :
    J.rel ρ (evaluateList context env exprs)
      (evaluateList context' env' exprs) ValuesLike := by
  rw [evaluateList_eq, evaluateList_eq]
  exact hcalls.values exprs henv

/-! ## Statements -/

theorem Judgement.Calls.assigned (source : String) (value : Reading) (isLiteral : Bool) :
    J.rel ρ (assignedValue context env source value isLiteral)
      (assignedValue context' env' source value isLiteral) Value.Like := by
  have hkept (context : Context) (env : Env) : Handles false (value.evaluate context env)
      (fun cause => if isLiteral then return .str source else Run.fail cause)
      (assignedValue context env source value isLiteral) := onError_handles _ _
  refine J.handle (hcalls.reading henv value) (fun ρ' cause _ => ?_) (hkept _ _) (hkept _ _)
  split
  · exact J.give (Like.str source)
  · exact J.fail cause

theorem Judgement.Calls.elements (header : Loop) (body : List Line) :
    J.rel ρ (loopValues context header body env)
      (loopValues context' header body env') (Effect.Like ValuesLike) := by
  refine J.bind (hcalls.reading henv header.source) fun ρ₁ v w h₁ hvw => ?_
  rw [hcalls.iterations]
  refine J.bind (J.mirrors (loopElements_mirrors _ hvw)) fun ρ₂ vs ws h₂ hvs => ?_
  exact J.give (.done (.loopStart _ _ _) (envLike_mono (h₁.trans h₂) henv) hvs)

theorem Judgement.Calls.guard (header : Guard) (hextra : List.Forall₂ (EntryLike Eq ρ) extra extra') :
    J.rel ρ (testGuard context header extra env) (testGuard context' header extra' env')
      (Effect.Like fun _ => Eq) := by
  refine J.bind (hcalls.reading henv header.reading) fun ρ₁ v w h₁ hvw => ?_
  refine J.store_bind fun ρ₂ s t h₂ hst => ?_
  rw [(hvw.mono h₂).isTruthy_eq hst.toContents]
  have hρ := h₁.trans h₂
  refine J.give (.done (.condition _ _ _ ?_) (envLike_mono hρ henv) rfl)
  exact hextra.imp fun _ _ h => ⟨h.1, h.2.mono hρ⟩

end

/-- The action of an assignment. -/
theorem assignment_like (henv : EnvLike ρ env env')
    (name source : String) (hvw : v.Like ρ w) :
    Action.Like ρ
      (match env.get? name with
        | some old => .reassign name v source old
        | none => .assign name v source)
      (match env'.get? name with
        | some old => .reassign name w source old
        | none => .assign name w source) := by
  have hold := envLike_get? henv name
  generalize env.get? name = x at hold ⊢
  generalize env'.get? name = y at hold ⊢
  cases hold with
  | some hold => exact .reassign name source hvw hold
  | none => exact .assign name source hvw

/-- Whether a name is bound to a function. -/
theorem boundToFunction_eq (henv : EnvLike ρ env env') (name : String) :
    ((env.get? name).map Value.isFunction).getD false = ((env'.get? name).map Value.isFunction).getD
      false := by
  have hbound := envLike_get? henv name
  generalize env.get? name = x at hbound ⊢
  generalize env'.get? name = y at hbound ⊢
  cases hbound with
  | some h => exact h.isFunction_eq
  | none => rfl

theorem Judgement.Calls.perform (hcalls : J.Calls context context') (inFunction : Bool)
    (statement : Statement) (henv : EnvLike ρ env env') :
    J.rel ρ (statement.perform context inFunction env) (statement.perform context' inFunction env')
      (Effect.Like ReturnLike) := by
  rw [Statement.perform.eq_def, Statement.perform.eq_def]
  cases statement with
  | assign name source value isLiteral =>
    refine J.bind (hcalls.assigned henv source value isLiteral) fun ρ₁ v w h₁ hvw => ?_
    have henv₁ := envLike_mono h₁ henv
    exact J.give (.done (assignment_like henv₁ name source hvw) (envLike_insert henv₁ name hvw) .none)
  | setItem name key value =>
    refine J.bind (J.mirrors (lookUp_mirrors henv name)) fun ρ₁ container container' h₁ hcontainer => ?_
    have henv₁ := envLike_mono h₁ henv
    refine J.bind (hcalls.reading henv₁ key) fun ρ₂ k k' h₂ hk => ?_
    have henv₂ := envLike_mono h₂ henv₁
    refine J.bind (hcalls.reading henv₂ value) fun ρ₃ v w h₃ hvw => ?_
    have hcontainer₃ := hcontainer.mono (h₂.trans h₃)
    refine J.bind (J.mirrors (Mirrors.copy hcontainer₃)) fun ρ₄ old old' h₄ hold => ?_
    have hk₄ := hk.mono (h₃.trans h₄)
    have hset := setElement_mirrors (hcontainer₃.mono h₄) hk₄ (hvw.mono h₄)
    refine J.bind (J.mirrors hset) ?_
    rintro ρ₅ kind _ h₅ rfl
    refine J.bind (J.mirrors (Run.shown_mirrors (hk₄.mono h₅))) ?_
    rintro ρ₆ shownKey _ h₆ rfl
    refine J.bind (J.mirrors (Run.shown_mirrors (hvw.mono (h₄.trans (h₅.trans h₆))))) ?_
    rintro ρ₇ shownValue _ h₇ rfl
    have hρ := h₅.trans (h₆.trans h₇)
    exact J.give (.done
      (.setItem kind name _ (hk₄.mono hρ) (hcontainer₃.mono (h₄.trans hρ)) (hold.mono hρ))
      (envLike_mono (h₃.trans (h₄.trans hρ)) henv₂) .none)
  | augment name op right =>
    refine J.bind (J.mirrors (lookUp_mirrors henv name)) fun ρ₁ old old' h₁ hold => ?_
    have henv₁ := envLike_mono h₁ henv
    refine J.bind (hcalls.reading henv₁ right) fun ρ₂ r r' h₂ hr => ?_
    refine J.bind (J.augment op (hold.mono h₂) hr) fun ρ₃ v w h₃ hvw => ?_
    have hρ := h₂.trans h₃
    exact J.give (.done (.augment name op hvw (hold.mono hρ) (hr.mono h₃))
      (envLike_insert (envLike_mono hρ henv₁) name hvw) .none)
  | operate name operation reading otherwise =>
    refine J.bind (J.mirrors (lookUp_mirrors henv name)) fun ρ₁ receiver receiver' h₁ hreceiver => ?_
    have henv₁ := envLike_mono h₁ henv
    have hotherwise := hcalls.perform inFunction otherwise henv₁
    have hoperate : J.rel ρ₁
        (do
          let kind ← containerKind operation receiver
          let expr ← reading.expr
          let arguments ← evaluateList context env (expr.children.drop 1)
          let old ← Run.snapshot fun copy => copy receiver
          let outcome ← callMethod receiver operation arguments name
          return .done (.operate kind name operation arguments receiver old outcome.summary
            outcome.result) env none)
        (do
          let kind ← containerKind operation receiver'
          let expr ← reading.expr
          let arguments ← evaluateList context' env' (expr.children.drop 1)
          let old ← Run.snapshot fun copy => copy receiver'
          let outcome ← callMethod receiver' operation arguments name
          return .done (.operate kind name operation arguments receiver' old outcome.summary
            outcome.result) env' none) (Effect.Like ReturnLike) := by
      refine J.bind (J.mirrors (containerKind_mirrors operation hreceiver)) ?_
      rintro ρ₂ kind _ h₂ rfl
      refine J.bind (J.mirrors reading.expr_mirrors) ?_
      rintro ρ₃ expr _ h₃ rfl
      have henv₃ := envLike_mono (h₂.trans h₃) henv₁
      refine J.bind (hcalls.valueList henv₃ _) fun ρ₄ vs ws h₄ hvs => ?_
      have hreceiver₄ := hreceiver.mono (h₂.trans (h₃.trans h₄))
      refine J.bind (J.mirrors (Mirrors.copy hreceiver₄)) fun ρ₅ old old' h₅ hold => ?_
      have hvs₅ := valuesLike_mono h₅ hvs
      have hmethod := callMethod_mirrors (hreceiver₄.mono h₅) operation hvs₅ name
      refine J.bind (J.mirrors hmethod) fun ρ₆ outcome outcome' h₆ houtcome => ?_
      rw [houtcome.summary]
      exact J.give (.done (.operate kind name operation _ (valuesLike_mono h₆ hvs₅)
        (hreceiver₄.mono (h₅.trans h₆)) (hold.mono h₆) houtcome.result)
        (envLike_mono (h₄.trans (h₅.trans h₆)) henv₃) .none)
    cases hreceiver with
    | scalar h =>
      cases h with
      | str text => exact hotherwise
      | _ => exact hoperate
    | _ => exact hoperate
  | print reading otherwise =>
    dsimp only
    rw [boundToFunction_eq henv]
    split
    · exact hcalls.perform inFunction otherwise henv
    · refine J.bind (J.mirrors reading.expr_mirrors) ?_
      rintro ρ₁ expr _ h₁ rfl
      have henv₁ := envLike_mono h₁ henv
      refine J.bind (hcalls.valueList henv₁ _) fun ρ₂ vs ws h₂ hvs => ?_
      refine J.bind (J.mirrors (printLine_mirrors hvs)) ?_
      rintro ρ₃ text _ h₃ rfl
      refine J.bind (J.mirrors (Mirrors.say text)) fun ρ₄ _ _ h₄ _ => ?_
      have hρ := h₃.trans h₄
      exact J.give (.done (.print text (valuesLike_mono hρ hvs))
        (envLike_mono (h₂.trans hρ) henv₁) .none)
  | define definition =>
    refine J.bind (J.define definition [] ρ.terms.empty henv) ?_
    exact fun ρ₁ effect effect' _ heffect => J.give heffect.goesOn
  | call function text reading =>
    refine J.bind (J.mirrors (calleeOf_mirrors henv function)) fun ρ₁ callee callee' h₁ hcallee => ?_
    have henv₁ := envLike_mono h₁ henv
    cases hcallee with
    | builtin _ =>
      refine J.bind (hcalls.reading henv₁ reading) fun ρ₂ v w h₂ _ => ?_
      exact J.give (.done (.execute text) (envLike_mono h₂ henv₁) .none)
    | value h =>
      have hother := Mirrors.typeError (α := Effect (Option Value)) (β := Effect (Option Value))
        (P := Effect.Like ReturnLike) h .notCallable
      cases h with
      | function h =>
        refine J.bind (J.mirrors reading.expr_mirrors) ?_
        rintro ρ₂ expr _ h₂ rfl
        have henv₂ := envLike_mono h₂ henv₁
        refine J.bind (hcalls.valueList henv₂ _) fun ρ₃ vs ws h₃ hvs => ?_
        refine J.bind (hcalls.call (h₃.function (h₂.function h)) hvs) fun ρ₄ v w h₄ hvw => ?_
        exact J.give (.done (.call function (valuesLike_mono h₄ hvs) hvw)
          (envLike_mono (h₃.trans h₄) henv₂) .none)
      | _ => exact J.mirrors hother
  | loop header =>
    refine J.bind (hcalls.elements henv header []) ?_
    exact fun ρ₁ effect effect' _ heffect => J.give heffect.goesOn
  | guard header =>
    refine J.bind (hcalls.guard henv header .nil) ?_
    exact fun ρ₁ effect effect' _ heffect => J.give heffect.goesOn
  | pass =>
    exact J.give ⟨.none, henv, .ok .none⟩
  | ret value =>
    cases inFunction with
    | false => exact J.mirrors (Parallel.throw trivial)
    | true =>
      cases value with
      | none => exact J.give ⟨.none, henv, .ok (.some Like.none)⟩
      | some reading =>
        refine J.bind (hcalls.reading henv reading) fun ρ₁ v w h₁ hvw => ?_
        exact J.give ⟨.none, envLike_mono h₁ henv, .ok (.some hvw)⟩
  | other text reading =>
    cases reading with
    | ok expr =>
      refine J.bind (hcalls.value expr henv) fun ρ₁ _ _ h₁ _ => ?_
      exact J.give (.done (.execute text) (envLike_mono h₁ henv) .none)
    | error cause =>
      have hdone : J.rel ρ (pure (.done (.execute text) env none))
          (pure (.done (.execute text) env' none)) (Effect.Like ReturnLike) :=
        J.give (.done (.execute text) henv .none)
      cases cause with
      | @fault cause hcrowded =>
        cases hcrowded
        exact J.mirrors (Parallel.throw trivial)
      | _ => exact hdone

theorem Judgement.Calls.execute (hcalls : J.Calls context context') (henv : EnvLike ρ env env')
    (inFunction : Bool) (statement : Statement) :
    J.rel ρ (statement.execute context inFunction env) (statement.execute context' inFunction env')
      (Effect.Like ReturnLike) :=
  J.attempt (hcalls.perform inFunction statement henv)
    fun _ cause hρ => .failed (envLike_mono hρ henv) cause

theorem Judgement.definition (J : Judgement config config') (henv : EnvLike ρ env env')
    (text : String) (definition? : Option Definition) (body : List Line)
    {block block' : List Item} (hblock : ρ.terms.block block block') :
    J.rel ρ (executeDefinition text definition? body block env)
      (executeDefinition text definition? body block' env')
      (Effect.Like fun _ => Eq) := by
  refine J.attempt ?_ fun _ cause hρ => .failed (envLike_mono hρ henv) cause
  cases definition? with
  | some definition => exact J.define definition body hblock henv
  | none => exact J.fail _

theorem Judgement.Calls.loop (hcalls : J.Calls context context') (henv : EnvLike ρ env env')
    (text : String) (header? : Option Loop) (body : List Line) :
    J.rel ρ (startLoop context text header? body env)
      (startLoop context' text header? body env') (Effect.Like ValuesLike) := by
  refine J.attempt ?_ fun _ cause hρ => .failed (envLike_mono hρ henv) cause
  cases header? with
  | some header => exact hcalls.elements henv header body
  | none => exact J.fail _

theorem Judgement.Calls.test (hcalls : J.Calls context context') (henv : EnvLike ρ env env')
    {extra extra' : List (String × Value)} (hextra : List.Forall₂ (EntryLike Eq ρ) extra extra')
    (condition : Condition) :
    J.rel ρ (condition.test context extra env) (condition.test context' extra' env')
      (Effect.Like fun _ => Eq) := by
  refine J.attempt ?_ fun _ cause hρ => .failed (envLike_mono hρ henv) cause
  cases condition.guard? with
  | some header => exact hcalls.guard henv header hextra
  | none => exact J.fail _

/-! ## Recording -/

/-- Two ends of a block that are alike. -/
structure Progress.Like (ρ : Renaming) (a b : Progress) : Prop where
  env : EnvLike ρ a.env b.env
  returned : ReturnLike ρ a.returned b.returned

theorem Progress.Like.goingOn {ρ : Renaming} {env env' : Env} (h : EnvLike ρ env env') :
    Progress.Like ρ (.goingOn env) (.goingOn env') :=
  ⟨h, .none⟩

/-- Blocks in two frames may be related: calls are, and so is recording on the lines with the
property `p`. -/
structure Judgement.Frames (J : Judgement config config') (p : Line → Prop) (frame frame' : Frame) :
    Prop where
  config : frame.config = config
  config' : frame'.config = config'
  inFunction : frame.inFunction = frame'.inFunction
  call {ρ : Renaming} {a b : Nat} {vs ws : List Value} : ρ.function a b → ValuesLike ρ vs ws →
    J.rel ρ (frame.call a vs) (frame'.call b ws) Value.Like
  record {ρ : Renaming} {line : Line} {action action' : Action} {env env' : Env} : p line →
    action.Like ρ action' → EnvLike ρ env env' →
    J.rel ρ (frame.record line action env) (frame'.record line action' env') fun _ _ _ => True

variable {frame frame' : Frame}

theorem Judgement.Frames.calls (hframes : J.Frames p frame frame') :
    J.Calls frame.context frame'.context where
  iterations := by
    change frame.config.maxIterations = frame'.config.maxIterations
    rw [hframes.config, hframes.config', J.iterations]
  call := hframes.call

/-- What is done after a block, unless it returned. -/
theorem Judgement.after
    (h : Progress.Like ρ a b) (hxy : J.rel ρ x y Progress.Like) :
    J.rel ρ
      (match a.returned with
        | some _ => pure a
        | none => x)
      (match b.returned with
        | some _ => pure b
        | none => y) Progress.Like := by
  have hreturned := h.returned
  generalize a.returned = r at hreturned ⊢
  generalize b.returned = r' at hreturned ⊢
  cases hreturned with
  | some _ => exact J.give h
  | none => exact hxy

section

variable {ρ : Renaming} {env env' : Env} {line : Line} (hframes : J.Frames p frame frame')

include hframes

theorem Judgement.Frames.statement :
    J.rel ρ (countStatement frame.config) (countStatement frame'.config) fun _ _ _ => True := by
  rw [hframes.config, hframes.config']
  exact J.statement

theorem Judgement.Frames.commit (hline : p line) (h : Effect.Like R ρ a b) :
    J.rel ρ (frame.commit line a) (frame'.commit line b) fun _ _ _ => True := by
  have hresult := h.result
  have haction := h.action
  -- In a function the error ends the call.
  have hfailed (ρ' : Renaming) (cause : EvalError) : J.rel ρ'
      (if frame.inFunction = true then Run.fail cause else pure ())
      (if frame'.inFunction = true then Run.fail cause else pure ()) fun _ _ _ => True := by
    rw [hframes.inFunction]
    split
    · exact J.fail cause
    · exact J.give trivial
  unfold Frame.commit
  generalize a.action = x at haction ⊢
  generalize b.action = y at haction ⊢
  generalize a.result = r at hresult ⊢
  generalize b.result = r' at hresult ⊢
  cases haction with
  | some haction =>
    refine J.bind (hframes.record hline haction h.env) fun ρ' _ _ _ _ => ?_
    cases hresult with
    | ok _ => exact J.give trivial
    | error cause => exact hfailed ρ' _
  | none =>
    cases hresult with
    | ok _ => exact J.give trivial
    | error cause => exact hfailed ρ _

theorem Judgement.Frames.refuse (hline : p line) (cause : EvalError) (henv : EnvLike ρ env env') :
    J.rel ρ (frame.refuse line cause env) (frame'.refuse line cause env') fun _ _ _ => True :=
  hframes.commit (R := fun _ => Eq) hline (.failed henv cause)

/-! ## Loops -/

/-- One round of a loop over elements. -/
def Frame.visit (frame : Frame) (line : Source.Line) (target : String) (total : Nat)
    (block : Env → Run Progress) (index : Nat) (element : Value) (env : Env) : Run Progress := do
  countIteration
  frame.record line (.loopIteration target element index total) (env.insert target element)
  block (env.insert target element)

/-- The rounds of a loop that are left, and what the loop records behind the last one. -/
def Frame.rounds (frame : Frame) (line : Source.Line) (target : String) (total : Nat)
    (block : Env → Run Progress) (index : Nat) (rest : List Value) (env : Env) : Run Progress := do
  let progress ← forEach (frame.visit line target total block) index rest env
  match progress.returned with
  | some _ => return progress
  | none =>
    frame.record line (.loopEnd target) progress.env
    return progress

omit hframes in
theorem Frame.loop_eq_rounds (target : String) (elements : List Value)
    (block : Env → Run Progress) :
    frame.loop line target elements block env =
      frame.rounds line target elements.length block 0 elements env := rfl

/-- Executing two blocks is related. -/
def Judgement.Blocks (J : Judgement config config') (block block' : Env → Run Progress) : Prop :=
  ∀ ρ env env', EnvLike ρ env env' → J.rel ρ (block env) (block' env') Progress.Like

theorem Judgement.Frames.visit (hblock : J.Blocks block block') (hline : p line) (target : String)
    (index total : Nat) (hvw : v.Like ρ w) (henv : EnvLike ρ env env') :
    J.rel ρ (frame.visit line target total block index v env)
      (frame'.visit line target total block' index w env') Progress.Like := by
  refine J.bind J.iteration fun ρ₁ _ _ h₁ _ => ?_
  have hvw₁ := hvw.mono h₁
  have henv₁ := envLike_insert (envLike_mono h₁ henv) target hvw₁
  refine J.bind (hframes.record hline (.loopIteration target index total hvw₁) henv₁) ?_
  exact fun ρ₂ _ _ h₂ _ => hblock ρ₂ _ _ (envLike_mono h₂ henv₁)

theorem Judgement.Frames.each (hblock : J.Blocks block block') (hline : p line) (target : String)
    (total index : Nat) (hvs : ValuesLike ρ vs ws) (henv : EnvLike ρ env env') :
    J.rel ρ (forEach (frame.visit line target total block) index vs env)
      (forEach (frame'.visit line target total block') index ws env') Progress.Like := by
  induction vs generalizing ρ ws index env env' with
  | nil =>
    cases hvs
    exact J.give (.goingOn henv)
  | cons v vs ih =>
    cases hvs with
    | cons hvw hvs =>
    refine J.bind (hframes.visit hblock hline target index total hvw henv) ?_
    intro ρ₁ a b h₁ hab
    exact J.after hab (ih (index + 1) (valuesLike_mono h₁ hvs) hab.env)

theorem Judgement.Frames.rounds (hblock : J.Blocks block block') (hline : p line) (target : String)
    (total index : Nat) (hvs : ValuesLike ρ vs ws) (henv : EnvLike ρ env env') :
    J.rel ρ (frame.rounds line target total block index vs env)
      (frame'.rounds line target total block' index ws env') Progress.Like := by
  refine J.bind (hframes.each hblock hline target total index hvs henv) fun ρ₁ a b h₁ hab => ?_
  refine J.after hab ?_
  refine J.bind (hframes.record hline (.loopEnd target) hab.env) fun ρ₂ _ _ h₂ _ => ?_
  exact J.give ⟨envLike_mono h₂ hab.env, optionLike_mono h₂ hab.returned⟩

/-- A condition is tested, and what follows sees the same result. -/
theorem Judgement.Frames.test_bind {γ δ : Type} {Q : Renaming → γ → δ → Prop} (hline : p line)
    (condition : Condition) {extra extra' : List (String × Value)}
    (hextra : List.Forall₂ (EntryLike Eq ρ) extra extra') (henv : EnvLike ρ env env')
    {f : Effect Bool → Run γ} {g : Effect Bool → Run δ}
    (hf : ∀ ρ' (a b : Effect Bool), EnvLike ρ' a.env b.env → a.result = b.result →
      J.rel ρ' (f a) (g b) Q) :
    J.rel ρ
      (do
        let effect ← condition.test frame.context extra env
        frame.commit line effect
        f effect)
      (do
        let effect ← condition.test frame'.context extra' env'
        frame'.commit line effect
        g effect) Q := by
  refine J.bind (hframes.calls.test henv hextra condition) fun ρ₁ a b h₁ hab => ?_
  refine J.bind (hframes.commit hline hab) fun ρ₂ _ _ h₂ _ => ?_
  exact hf ρ₂ a b (envLike_mono h₂ hab.env) hab.result.eq

theorem Judgement.Frames.repeatWhile {block block' : Env → Run Progress}
    (hblock : J.Blocks block block') (hline : p line) (condition : Condition) (room : Nat) :
    ∀ iteration, J.Blocks (frame.repeatWhile line condition block room iteration)
      (frame'.repeatWhile line condition block' room iteration) := by
  have hiteration (ρ : Renaming) (iteration : Nat) : List.Forall₂ (EntryLike Eq ρ)
      [("iteration", .int iteration)] [("iteration", .int iteration)] :=
    .cons ⟨rfl, Like.int _⟩ .nil
  have hlimit : frame.config.maxIterations = frame'.config.maxIterations := hframes.calls.iterations
  induction room using Nat.strongRecOn with | ind room ih => ?_
  intro iteration ρ env env' henv
  rw [Frame.repeatWhile.eq_def, Frame.repeatWhile.eq_def]
  refine hframes.test_bind hline condition (hiteration ρ iteration) henv ?_
  intro ρ₁ a b henv₁ hresult
  rw [hresult]
  split
  · cases room with
    | zero =>
      rw [hlimit]
      refine J.bind (hframes.refuse hline _ henv₁) fun ρ₂ _ _ h₂ _ => ?_
      exact J.give (.goingOn (envLike_mono h₂ henv₁))
    | succ room =>
      refine J.bind J.iteration fun ρ₂ _ _ h₂ _ => ?_
      refine J.bind (hblock ρ₂ _ _ (envLike_mono h₂ henv₁)) fun ρ₃ a b h₃ hab => ?_
      refine J.after hab ?_
      refine J.bind hframes.statement fun ρ₄ _ _ h₄ _ => ?_
      exact ih room (Nat.lt_succ_self room) (iteration + 1) ρ₄ _ _ (envLike_mono h₄ hab.env)
  · exact J.give (.goingOn henv₁)

end

/-! ## Blocks -/

mutual

/-- The lines on which an item may record, apart from the bodies of functions. -/
def Item.lines : Item → List Line
  | .simple line _ | .define line _ _ _ => [line]
  | .loop line _ _ block | .repeat line _ block => line :: Item.linesOf block
  | .choose first rest => first.lines ++ Branch.linesOf rest
  | .skip _ => []

def Item.linesOf : List Item → List Line
  | [] => []
  | item :: rest => item.lines ++ Item.linesOf rest

def Branch.lines : Branch → List Line
  | .mk line _ block => line :: Item.linesOf block

def Branch.linesOf : List Branch → List Line
  | [] => []
  | branch :: rest => branch.lines ++ Branch.linesOf rest

end

/-- Functions that stand for each other have the same blocks. -/
def Judgement.SameBlocks (J : Judgement config config') : Prop :=
  ∀ {α β : Type} {ρ : Renaming} {x : Run α} {y : Run β} {P : Renaming → α → β → Prop},
    (ρ.terms.block = Eq → J.rel ρ x y P) → J.rel ρ x y P

mutual

theorem Judgement.Frames.block (hframes : J.Frames p frame frame') (hsame : J.SameBlocks) :
    ∀ (items : List Item), (∀ line ∈ Item.linesOf items, p line) →
      J.Blocks (runBlock frame items) (runBlock frame' items)
  | [], hlines, ρ, env, env', henv => by
    exact J.give (.goingOn henv)
  | item :: rest, hlines, ρ, env, env', henv => by
    rw [Item.linesOf, List.forall_mem_append] at hlines
    refine J.bind hframes.statement fun ρ₁ _ _ h₁ _ => ?_
    refine J.bind (hframes.item hsame item hlines.1 ρ₁ env env' (envLike_mono h₁ henv)) ?_
    exact fun ρ₂ a b _ hab => J.after hab (hframes.block hsame rest hlines.2 ρ₂ _ _ hab.env)

theorem Judgement.Frames.item (hframes : J.Frames p frame frame') (hsame : J.SameBlocks) :
    ∀ (item : Item), (∀ line ∈ item.lines, p line) →
      J.Blocks (runItem frame item) (runItem frame' item)
  | .simple line statement, hlines, ρ, env, env', henv => by
    rw [runItem, runItem, hframes.inFunction]
    refine J.bind (hframes.calls.execute henv _ statement) fun ρ₁ a b h₁ hab => ?_
    refine J.bind (hframes.commit (hlines line (by simp [Item.lines])) hab) ?_
    intro ρ₂ _ _ h₂ _
    have henv₂ := envLike_mono h₂ hab.env
    have hresult := hab.result
    generalize a.result = x at hresult ⊢
    generalize b.result = y at hresult ⊢
    cases hresult with
    | ok h => exact J.give ⟨henv₂, optionLike_mono h₂ h⟩
    | error _ => exact J.give (.goingOn henv₂)
  | .loop line header body block, hlines, ρ, env, env', henv => by
    rw [Item.lines, List.forall_mem_cons] at hlines
    refine J.bind (hframes.calls.loop henv _ _ body) fun ρ₁ a b h₁ hab => ?_
    refine J.bind (hframes.commit hlines.1 hab) fun ρ₂ _ _ h₂ _ => ?_
    have henv₂ := envLike_mono h₂ hab.env
    have hresult := hab.result
    generalize a.result = x at hresult ⊢
    generalize b.result = y at hresult ⊢
    cases hresult with
    | error _ => exact J.give (.goingOn henv₂)
    | ok hvs =>
      dsimp only
      rw [Frame.loop_eq_rounds, Frame.loop_eq_rounds, hvs.length_eq]
      exact hframes.rounds (hframes.block hsame block hlines.2) hlines.1 _ _ _
        (valuesLike_mono h₂ hvs) henv₂
  | .define line definition body block, hlines, ρ, env, env', henv => by
    refine hsame fun hblocks => ?_
    have hblock : ρ.terms.block block block := by rw [hblocks]
    refine J.bind (J.definition henv _ _ body hblock) fun ρ₁ a b h₁ hab => ?_
    refine J.bind (hframes.commit (hlines line (by simp [Item.lines])) hab) ?_
    exact fun ρ₂ _ _ h₂ _ => J.give (.goingOn (envLike_mono h₂ hab.env))
  | .choose first rest, hlines, ρ, env, env', henv => by
    rw [Item.lines, List.forall_mem_append] at hlines
    refine J.bind (hframes.branch hsame first hlines.1 ρ env env' henv) ?_
    rintro ρ₁ ⟨pending, a⟩ ⟨_, b⟩ h₁ ⟨rfl, hab⟩
    exact J.after hab (hframes.branches hsame rest hlines.2 pending ρ₁ _ _ hab.env)
  | .repeat line condition block, hlines, ρ, env, env', henv => by
    rw [Item.lines, List.forall_mem_cons] at hlines
    rw [runItem, runItem, hframes.config, hframes.config', J.iterations]
    exact hframes.repeatWhile (hframes.block hsame block hlines.2) hlines.1 condition _ 0 ρ env env' henv
  | .skip _, hlines, ρ, env, env', henv => by
    exact J.give (.goingOn henv)

theorem Judgement.Frames.branch (hframes : J.Frames p frame frame') (hsame : J.SameBlocks) :
    ∀ (branch : Branch), (∀ line ∈ branch.lines, p line) →
      ∀ ρ env env', EnvLike ρ env env' →
      J.rel ρ (runBranch frame branch env) (runBranch frame' branch env')
        fun ρ' a b => a.1 = b.1 ∧ Progress.Like ρ' a.2 b.2
  | .mk line none block, hlines, ρ, env, env', henv => by
    rw [Branch.lines, List.forall_mem_cons] at hlines
    refine J.bind (hframes.block hsame block hlines.2 ρ env env' henv) ?_
    exact fun ρ₁ a b _ hab => J.give ⟨rfl, hab⟩
  | .mk line (some condition) block, hlines, ρ, env, env', henv => by
    rw [Branch.lines, List.forall_mem_cons] at hlines
    refine hframes.test_bind hlines.1 condition .nil henv ?_
    intro ρ₁ a b henv₁ hresult
    rw [hresult]
    split
    · refine J.bind (hframes.block hsame block hlines.2 ρ₁ _ _ henv₁) ?_
      exact fun ρ₂ a b _ hab => J.give ⟨rfl, hab⟩
    · exact J.give ⟨rfl, .goingOn henv₁⟩
    · exact J.give ⟨rfl, .goingOn henv₁⟩

theorem Judgement.Frames.branches (hframes : J.Frames p frame frame') (hsame : J.SameBlocks) :
    ∀ (branches : List Branch), (∀ line ∈ Branch.linesOf branches, p line) → ∀ (pending : Bool),
      J.Blocks (runBranches frame branches pending)
        (runBranches frame' branches pending)
  | [], hlines, pending, ρ, env, env', henv => by
    exact J.give (.goingOn henv)
  | branch :: rest, hlines, pending, ρ, env, env', henv => by
    rw [Branch.linesOf, List.forall_mem_append] at hlines
    refine J.bind hframes.statement fun ρ₁ _ _ h₁ _ => ?_
    have henv₁ := envLike_mono h₁ henv
    split
    · refine J.bind (hframes.branch hsame branch hlines.1 ρ₁ env env' henv₁) ?_
      rintro ρ₂ ⟨pending, a⟩ ⟨_, b⟩ h₂ ⟨rfl, hab⟩
      exact J.after hab (hframes.branches hsame rest hlines.2 pending ρ₂ _ _ hab.env)
    · exact J.after (.goingOn henv₁) (hframes.branches hsame rest hlines.2 false ρ₁ _ _ henv₁)

end

/-! ## Calls -/

/-- In a function nothing is recorded. -/
theorem Judgement.Frames.ofCalls (J : Judgement config config') (room depth : Nat)
    (hcall : ∀ {ρ : Renaming} {a b : Nat} {vs ws : List Value}, ρ.function a b →
      ValuesLike ρ vs ws →
      J.rel ρ (callFunction config room depth a vs) (callFunction config' room depth b ws)
        Value.Like) :
    J.Frames (fun _ => True)
      { config, inFunction := true, call := callFunction config room depth }
      { config := config', inFunction := true, call := callFunction config' room depth } where
  config := rfl
  config' := rfl
  inFunction := rfl
  call := hcall
  record _ _ _ := J.give trivial

/-- Calls of functions that stand for each other are related, however many calls are under way. -/
theorem Judgement.function (J : Judgement config config') (hsame : J.SameBlocks) (room : Nat) :
    ∀ (depth : Nat) {ρ : Renaming} {a b : Nat} {vs ws : List Value}, ρ.function a b →
      ValuesLike ρ vs ws →
      J.rel ρ (callFunction config room depth a vs)
        (callFunction config' room depth b ws) Value.Like := by
  induction room using Nat.strongRecOn with | ind room ih => ?_
  intro depth ρ a b vs ws hab hvs
  rw [callFunction.eq_def, callFunction.eq_def]
  refine J.store_bind fun ρ₁ s t h₁ hst => ?_
  have hfg := hst.function (h₁.function hab)
  refine J.bind (J.called depth (h₁.function hab) (valuesLike_mono h₁ hvs)) fun ρ₂ _ _ h₂ _ => ?_
  dsimp only
  rw [J.callDepth, hfg.name]
  split
  · exact J.mirrors (Parallel.throw trivial)
  cases room with
  | zero => exact J.mirrors (Parallel.throw trivial)
  | succ room =>
    refine hsame fun hblocks => ?_
    have hblock : (s.function a).block = (t.function b).block := by
      have hblock := (hfg.mono h₂).block
      rwa [hblocks] at hblock
    have hscope := J.enter ((h₁.trans h₂).function hab) (hfg.mono h₂)
      (valuesLike_mono (h₁.trans h₂) hvs)
    refine J.bind hscope fun ρ₃ scope scope' h₃ hscope => ?_
    refine J.bind J.call fun ρ₄ _ _ h₄ _ => ?_
    have hframes := Judgement.Frames.ofCalls J room (depth + 1) (ih room (by simp) (depth + 1))
    have hrun := hframes.block hsame (t.function b).block (fun _ _ => trivial) ρ₄ _ _
      (envLike_mono h₄ hscope)
    rw [hblock]
    refine J.bind (J.relabel (t.function b).name hrun) fun ρ₅ a b h₅ hab => ?_
    refine J.bind J.passed fun ρ₆ _ _ h₆ _ => ?_
    exact J.give (getD_like (optionLike_mono h₆ hab.returned) Like.none)

end Walkthrough
