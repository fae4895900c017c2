import Walkthrough.Proofs.Run

/-!
# Which names a statement binds

A statement says which bindings it leaves.  Whatever happens while it is performed, they are those it
found, but for the target of an assignment or a definition: `Statement.perform_leaves`.
-/

namespace Walkthrough

/-! ## What a computation may return -/

/-- Whatever the computation returns, from whatever state, has the property. -/
def Yields {ε σ α : Type} (x : ExceptT ε (StateM σ) α) (P : α → Prop) : Prop :=
  ∀ s a s', exec x s = (.ok a, s') → P a

section

variable {ε σ α β : Type} {P : α → Prop}

theorem Yields.pure {a : α} (h : P a) : Yields (pure a : ExceptT ε (StateM σ) α) P := by
  rintro s _ _ ⟨⟩
  exact h

theorem Yields.throw {failure : ε} : Yields (throw failure : ExceptT ε (StateM σ) α) P := by
  rintro s _ _ ⟨⟩

theorem Yields.bind_of (hx : Yields x P) (hf : ∀ a, P a → Yields (f a) Q) :
    Yields (x >>= f) Q := by
  intro s b s' h
  obtain ⟨a, s₁, ha, hb⟩ := exec_bind_eq_ok h
  exact hf a (hx s a s₁ ha) s₁ b s' hb

/-- What a first part returns need not matter. -/
theorem Yields.bind (hf : ∀ a, Yields (f a) Q) : Yields (x >>= f) Q :=
  Yields.bind_of (P := fun _ => True) (fun _ _ _ _ => trivial) fun a _ => hf a

theorem Yields.mono (hx : Yields x P) {P' : α → Prop} (h : ∀ a, P a → P' a) : Yields x P' :=
  fun s a s' ha => h a (hx s a s' ha)

theorem Yields.run (h : Yields x P) : exec x s = (.ok a, s') → P a :=
  h s a s'

theorem Yields.fail : Yields (Run.fail cause : Run α) P :=
  Yields.throw

end

/-! ## Scopes that differ in one name -/

theorem Table.erase_insert [BEq κ] [LawfulBEq κ] (t : Table κ υ) (key : κ) (value : υ) :
    (t.insert key value).erase key = t.erase key := by
  rw [Table.insert]
  split
  · simp only [Table.erase, Table.mk.injEq, List.filter_map]
    rw [List.map_congr_left (g := id)]
    · rw [List.map_id]
      refine List.filter_congr fun entry _ => ?_
      simp only [Function.comp_apply]
      split <;> rfl
    · intro entry hentry
      obtain ⟨_, hentry⟩ := List.mem_filter.mp hentry
      simp only [Function.comp_apply, Bool.not_eq_true'] at hentry
      split at hentry
      · next heq =>
        rw [heq] at hentry
        cases hentry
      · next hne => rw [if_neg hne, id]
  · simp [Table.erase]

theorem Table.mem_keys_insert {κ υ : Type} [BEq κ] {t : Table κ υ} {key other : κ} {value : υ}
    (h : other ∈ (t.insert key value).keys) : other ∈ t.keys ∨ other = key := by
  rw [Table.insert] at h
  split at h
  · left
    obtain ⟨entry, hentry, rfl⟩ := List.mem_map.mp h
    obtain ⟨old, hold, rfl⟩ := List.mem_map.mp hentry
    have hkey : (if old.1 == key then (old.1, value) else old).1 = old.1 := by
      split <;> rfl
    rw [hkey]
    exact List.mem_map_of_mem hold
  · simpa [Table.keys] using h

/-- The scope `env'` is `env` but for the target, if there is one: that is bound to some value, all
other names are bound as they were, in the same order, and no other name is new. -/
def Env.DiffersIn (target : Option String) (env env' : Env) : Prop :=
  match target with
  | none => env' = env
  | some name => (∃ value, env' = env.insert name value) ∧ env'.erase name = env.erase name ∧
    ∀ key ∈ env'.keys, key ∈ env.keys ∨ key = name

theorem Env.differsIn_insert (env : Env) (name : String) (value : Value) :
    Env.DiffersIn (some name) env (env.insert name value) :=
  ⟨⟨value, rfl⟩, Table.erase_insert env name value, fun _ => Table.mem_keys_insert⟩

/-! ## Statements -/

/-- The name that a statement binds: the target of a plain or an augmented assignment or of a
definition. -/
def Statement.target? : Statement → Option String
  | .assign name .. | .augment name .. => some name
  | .define definition => some definition.name
  | _ => none

/-- What a statement means otherwise binds no name. -/
def Statement.Sober : Statement → Prop
  | .operate _ _ _ otherwise | .print _ otherwise => otherwise.target? = none ∧ otherwise.Sober
  | _ => True

/-- An effect of a statement that succeeded. -/
def Effect.Leaves {α : Type} (target : Option String) (env : Env) (effect : Effect α) : Prop :=
  (∃ value, effect.result = .ok value) ∧ Env.DiffersIn target env effect.env

theorem Effect.leaves_insert (action : Action) (env : Env) (name : String) (bound : Value) (value : α) :
    (Effect.done action (env.insert name bound) value).Leaves (some name) env :=
  ⟨⟨value, rfl⟩, Env.differsIn_insert env name bound⟩

theorem bindFunction_yields (definition : Definition) (body : List Source.Line) (block : List Item)
    (env : Env) :
    Yields (bindFunction definition body block env) fun effect =>
      ∃ parameters function, effect = .done (.define definition.name parameters (body.map (·.index)))
        (env.insert definition.name function) () := by
  unfold bindFunction
  split
  · exact Yields.fail
  · exact Yields.bind fun _ => Yields.bind fun _ => Yields.pure ⟨_, _, rfl⟩

theorem loopValues_yields (context : Context) (header : Loop) (body : List Source.Line) (env : Env) :
    Yields (loopValues context header body env) fun effect =>
      ∃ elements, effect =
        .done (.loopStart header.target header.iterable (body.map (·.index))) env elements :=
  Yields.bind fun _ => Yields.bind fun _ => Yields.pure ⟨_, rfl⟩

theorem testGuard_yields (context : Context) (header : Guard) (extra : List (String × Value))
    (env : Env) : Yields (testGuard context header extra env) fun effect =>
      ∃ result, effect = .done (.condition header.word header.condition result extra) env result :=
  Yields.bind fun _ => Yields.bind fun _ => Yields.pure ⟨_, rfl⟩

/-- What a statement that succeeds can give, between the machine that it finds and the one that it
leaves. -/
inductive Statement.Gives (inFunction : Bool) (env : Env) :
    Statement → Machine → Machine → Effect (Option Value) → Prop where
  | assign {name source value isLiteral bound m m'} :
      Gives inFunction env (.assign name source value isLiteral) m m'
        (.done (.assign name bound source) (env.insert name bound) none)
  | reassign {name source value isLiteral bound old m m'} :
      Gives inFunction env (.assign name source value isLiteral) m m'
        (.done (.reassign name bound source old) (env.insert name bound) none)
  | setItem {name key value kind index container old summary m m'} :
      Gives inFunction env (.setItem name key value) m m'
        (.done (.setItem kind name index container old summary) env none)
  | augment {name op right bound old added m m'} :
      Gives inFunction env (.augment name op right) m m'
        (.done (.augment name op bound old added) (env.insert name bound) none)
  | operate {name operation reading otherwise kind arguments receiver old summary result m m'} :
      Gives inFunction env (.operate name operation reading otherwise) m m'
        (.done (.operate kind name operation arguments receiver old summary result) env none)
  | operateOtherwise {name operation reading otherwise m m' effect}
      (h : Gives inFunction env otherwise m m' effect) :
      Gives inFunction env (.operate name operation reading otherwise) m m' effect
  | print {reading otherwise arguments text m m'} :
      Gives inFunction env (.print reading otherwise) m m' (.done (.print arguments text) env none)
  | printOtherwise {reading otherwise m m' effect} (h : Gives inFunction env otherwise m m' effect) :
      Gives inFunction env (.print reading otherwise) m m' effect
  | define {definition parameters function m m'} :
      Gives inFunction env (.define definition) m m' (.done (.define definition.name parameters [])
        (env.insert definition.name function) none)
  | call {function text reading arguments result m m'} :
      Gives inFunction env (.call function text reading) m m'
        (.done (.call function arguments result) env none)
  | callBuiltin {function text reading m m'} :
      Gives inFunction env (.call function text reading) m m' (.done (.execute text) env none)
  | loop {header m m'} :
      Gives inFunction env (.loop header) m m'
        (.done (.loopStart header.target header.iterable []) env none)
  | guard {header result m m'} :
      Gives inFunction env (.guard header) m m'
        (.done (.condition header.word header.condition result []) env none)
  | pass {m} : Gives inFunction env .pass m m { action := none, env, result := .ok none }
  | ret {value result m m'} (h : inFunction = true) :
      Gives inFunction env (.ret value) m m' { action := none, env, result := .ok (some result) }
  | other {text reading m m'} :
      Gives inFunction env (.other text reading) m m' (.done (.execute text) env none)

theorem lookUp_eq_ok (h : exec (lookUp env name) m = (.ok value, m')) :
    env.get? name = some value ∧ m' = m := by
  rw [lookUp] at h
  split at h <;> cases h
  exact ⟨‹_›, rfl⟩

theorem Statement.perform_gives : ∀ statement : Statement,
      exec (statement.perform context inFunction env) m = (.ok effect, m') →
        statement.Gives inFunction env m m' effect
  | .assign name source value isLiteral => by
    refine Yields.run (Yields.bind fun value => Yields.pure ?_)
    cases env.get? name with
    | none => exact .assign
    | some old => exact .reassign
  | .setItem name key value => by
    exact Yields.run (Yields.bind fun _ => Yields.bind fun _ => Yields.bind fun _ =>
      Yields.bind fun _ => Yields.bind fun _ => Yields.bind fun _ => Yields.bind fun _ =>
        Yields.pure .setItem)
  | .augment name op right => by
    exact Yields.run (Yields.bind fun _ => Yields.bind fun _ => Yields.bind fun _ =>
      Yields.pure .augment)
  | .operate name operation reading otherwise => by
    intro h
    obtain ⟨receiver, _, hreceiver, hthen⟩ := exec_bind_eq_ok h
    obtain ⟨_, rfl⟩ := lookUp_eq_ok hreceiver
    split at hthen
    · exact .operateOtherwise (otherwise.perform_gives hthen)
    · exact Yields.run (Yields.bind fun _ => Yields.bind fun _ => Yields.bind fun _ =>
        Yields.bind fun _ => Yields.bind fun _ => Yields.pure .operate) hthen
  | .print reading otherwise => by
    rw [Statement.perform]
    split
    · exact fun h => .printOtherwise (otherwise.perform_gives h)
    · exact Yields.run (Yields.bind fun _ => Yields.bind fun _ => Yields.bind fun _ =>
        Yields.bind fun _ => Yields.pure .print)
  | .define definition => by
    refine Yields.run ((bindFunction_yields definition [] [] env).bind_of ?_)
    rintro _ ⟨parameters, function, rfl⟩
    exact Yields.pure .define
  | .call function text reading => by
    refine Yields.run (Yields.bind fun callee => ?_)
    split
    · exact Yields.bind fun _ => Yields.bind fun _ => Yields.bind fun _ => Yields.pure .call
    · exact Yields.bind fun _ => Yields.fail
    · exact Yields.bind fun _ => Yields.pure .callBuiltin
  | .loop header => by
    refine Yields.run ((loopValues_yields context header [] env).bind_of ?_)
    rintro _ ⟨elements, rfl⟩
    exact Yields.pure .loop
  | .guard header => by
    refine Yields.run ((testGuard_yields context header [] env).bind_of ?_)
    rintro _ ⟨result, rfl⟩
    exact Yields.pure .guard
  | .pass => by
    rintro ⟨⟩
    exact .pass
  | .ret value => by
    -- A function is needed to return from.
    rw [Statement.perform]
    cases inFunction with
    | false => rintro ⟨⟩
    | true =>
      rw [Bool.not_true, if_neg Bool.false_ne_true]
      cases value <;> exact Yields.run (Yields.bind fun _ => Yields.pure (.ret rfl))
  | .other text reading => by
    rw [Statement.perform.eq_def]
    dsimp only
    split
    · exact Yields.run (Yields.bind fun _ => Yields.pure .other)
    · exact Yields.run (Yields.bind fun _ => Yields.pure .other)
    · exact Yields.run (Yields.pure .other)

/-- A statement that succeeds leaves the bindings that it found, but for its target. -/
theorem Statement.Gives.leaves {inFunction : Bool} {env : Env} {statement : Statement}
    {m m' : Machine} {effect : Effect (Option Value)}
    (h : statement.Gives inFunction env m m' effect) (hsober : statement.Sober) :
    Effect.Leaves statement.target? env effect := by
  induction h with
  | assign | reassign | augment | define => exact Effect.leaves_insert ..
  | operateOtherwise _ ih | printOtherwise _ ih =>
    have hleaves := ih hsober.2
    rwa [hsober.1] at hleaves
  | _ => exact ⟨⟨_, rfl⟩, rfl⟩

theorem Statement.perform_leaves (context : Context) (inFunction : Bool) (env : Env)
    (statement : Statement) (hsober : statement.Sober) :
    Yields (statement.perform context inFunction env) (Effect.Leaves statement.target? env) :=
  fun _ _ _ h => (statement.perform_gives h).leaves hsober

/-- What an attempt returns is what its statement returned, or its error. -/
theorem attempt_yields (h : Yields statement P) :
    Yields (attempt env statement) fun effect => P effect ∨ ∃ cause, effect = .failed env cause := by
  intro m effect m' heffect
  rw [attempt, exec_bind_ok (exec_get m), exec_tryCatch] at heffect
  rcases hstatement : exec statement m with ⟨failure | value, m₁⟩
  · rw [hstatement] at heffect
    cases failure with
    | error cause =>
      cases heffect
      exact .inr ⟨cause, rfl⟩
    | fault cause => cases heffect
    | budget cause => cases heffect
    | tooDeep => cases heffect
  · rw [hstatement] at heffect
    cases heffect
    exact .inl (h _ _ _ hstatement)

end Walkthrough
