import Walkthrough.Proofs.Headers
import Walkthrough.Proofs.Sameness

/-!
# How the steps of loops nest

The steps of a trace are bracketed: between the step that starts a loop and the one that ends it
stand its rounds, each followed by the steps of a block, in which there may be loops again.
`Bracketed` and `Unrolled` are the grammar of such sequences.

What a part of a run adds to the steps is a sequence of the grammar if the part went on to its end,
and the beginning of one if it failed (`Traces`).  For blocks this is shown by induction on their
items (`runBlock_nests`); a loop over elements adds one round after another (`rounds_traces`).
-/

namespace Walkthrough

open Source

variable {S : Nat → Prop} {limit : Int} {action : Action} {m' : Machine}

/-! ## The grammar -/

/-- The step of round number `index` of a loop on `line`: the variable of the loop has a value that
looks like the one in the details. -/
def Step.IsRound (store : Store) (line : Nat) (target : String) (index total : Nat) (step : Step) :
    Prop :=
  step.line = line ∧ ∃ value bound, step.action = .loopIteration target value index total ∧
    step.bindings.get? target = some bound ∧ store.Same bound value

mutual

/-- The steps of a block: single steps, and loops of at most `limit` rounds. -/
inductive Bracketed (store : Store) (limit : Int) : List Step → Prop where
  | nil : Bracketed store limit []
  | plain {step : Step} {rest : List Step} : step.action.IsPlain → Bracketed store limit rest →
      Bracketed store limit (step :: rest)
  | loop {start : Step} {rounds rest : List Step} {target iterable : String} {body : List Nat}
      {total : Nat} :
      start.action = .loopStart target iterable body → (total : Int) ≤ limit →
      Unrolled store limit start.line target body total 0 rounds → Bracketed store limit rest →
      Bracketed store limit (start :: (rounds ++ rest))

/-- The rounds of a loop from number `index` on, and its end.  The loop stands on `line`, and the
blocks of its rounds on the lines in `body`. -/
inductive Unrolled (store : Store) (limit : Int) :
    Nat → String → List Nat → Nat → Nat → List Step → Prop where
  | finish {line : Nat} {target : String} {body : List Nat} {total : Nat} {step : Step} :
      step.line = line → step.action = .loopEnd target →
      Unrolled store limit line target body total total [step]
  | round {line : Nat} {target : String} {body : List Nat} {total index : Nat} {step : Step}
      {block rest : List Step} :
      step.IsRound store line target index total → Bracketed store limit block →
      (∀ inner ∈ block, inner.line ∈ body) →
      Unrolled store limit line target body total (index + 1) rest →
      Unrolled store limit line target body total index (step :: (block ++ rest))

end

section

variable {store : Store} {limit : Int}

theorem Bracketed.append : ∀ {steps later : List Step}, Bracketed store limit steps →
    Bracketed store limit later → Bracketed store limit (steps ++ later)
  | _, _, .nil, h => h
  | _, _, .plain hplain hrest, h => .plain hplain (hrest.append h)
  | _, _, .loop hstart htotal hrounds hrest, h => by
    rw [List.cons_append, List.append_assoc]
    exact .loop hstart htotal hrounds (hrest.append h)

theorem Store.same_scalar (store : Store) (x : Scalar) : store.Same (.scalar x) (.scalar x) :=
  ⟨fun _ _ => False, ⟨nofun, nofun, nofun, nofun⟩, .scalar x⟩

/-- A round with some value. -/
theorem Step.exists_isRound (store : Store) (line : Nat) (target : String) (index total : Nat) :
    ∃ step, Step.IsRound store line target index total step := by
  let value : Value := .scalar .none
  let bindings : Env := Table.empty.insert target value
  have hbound : bindings.get? target = some value := Table.get?_insert_self _ _ _
  let step : Step := ⟨0, line, .loopIteration target value index total, bindings, .empty⟩
  exact ⟨step, rfl, value, value, rfl, hbound, store.same_scalar .none⟩

/-- The rounds of a loop on lines with the property `S`. -/
def InLoop (store : Store) (limit : Int) (S : Nat → Prop) (line : Nat) (target : String)
    (body : List Nat) (total index : Nat) (steps : List Step) : Prop :=
  Unrolled store limit line target body total index steps ∧ ∀ step ∈ steps, S step.line

/-- Every loop that has begun could go on to its end. -/
theorem exists_inLoop (store : Store) (limit : Int) {line : Nat} (hS : S line) (target : String)
    (body : List Nat) (total left : Nat) :
    ∀ index, index + left = total →
      ∃ steps, InLoop store limit S line target body total index steps := by
  induction left with
  | zero =>
    intro index htotal
    obtain rfl : index = total := htotal
    let last : Step := ⟨0, line, .loopEnd target, .empty, .empty⟩
    exact ⟨[last], .finish rfl rfl, List.forall_mem_singleton.mpr hS⟩
  | succ left ih =>
    intro index htotal
    obtain ⟨rest, hrest, hlines⟩ := ih (index + 1) (by omega)
    obtain ⟨step, hstep⟩ := Step.exists_isRound store line target index total
    refine ⟨step :: ([] ++ rest), .round hstep .nil (List.forall_mem_nil _) hrest, ?_⟩
    exact List.forall_mem_cons.mpr ⟨hstep.1 ▸ hS, hlines⟩

/-- The steps of a block on lines with the property `S`. -/
def InBlock (store : Store) (limit : Int) (S : Nat → Prop) (steps : List Step) : Prop :=
  Bracketed store limit steps ∧ ∀ step ∈ steps, S step.line

theorem inBlock_nil : InBlock store limit S [] :=
  ⟨.nil, List.forall_mem_nil _⟩

theorem InBlock.append (h : InBlock store limit S steps) (h' : InBlock store limit S later) :
    InBlock store limit S (steps ++ later) :=
  ⟨h.1.append h'.1, List.forall_mem_append.mpr ⟨h.2, h'.2⟩⟩

end

/-! ## What a part of a run adds -/

/-- A part of a run that started from `m` added steps as `L` says, or failed in the middle of such
steps. -/
def Traces {α : Type} (L : List Step → Prop) (m : Machine) (ending : Except Failure α × Machine) :
    Prop :=
  ∃ added, ending.2.steps.toList = m.steps.toList ++ added ∧
    match ending.1 with
    | .ok _ => L added
    | .error _ => ∃ rest, L (added ++ rest)

section

variable {α β : Type}

/-- Nothing is added. -/
theorem Traces.pure {a : α} (hL : L []) : Traces L m (exec (pure a : Run α) m) :=
  ⟨[], by rw [exec_pure, List.append_nil], hL⟩

/-- One part after the other. -/
theorem Traces.seq (hx : Traces A m (exec x m))
    (hf : ∀ a m₁, exec x m = (.ok a, m₁) → Traces B m₁ (exec (f a) m₁)) (hB : ∃ steps, B steps)
    (hL : ∀ first later, A first → B later → L (first ++ later)) :
    Traces L m (exec (x >>= f) m) := by
  obtain ⟨added, hsteps, hend⟩ := hx
  rw [exec_bind]
  rcases hexec : exec x m with ⟨failure | a, m₁⟩
  · rw [hexec] at hsteps hend
    obtain ⟨rest, hrest⟩ := hend
    obtain ⟨later, hlater⟩ := hB
    refine ⟨added, hsteps, rest ++ later, ?_⟩
    rw [← List.append_assoc]
    exact hL _ _ hrest hlater
  · rw [hexec] at hsteps hend
    obtain ⟨added', hsteps', hend'⟩ := hf a m₁ hexec
    refine ⟨added ++ added', ?_, ?_⟩
    · rw [hsteps', hsteps, List.append_assoc]
    · dsimp only
      cases hresult : (exec (f a) m₁).1 with
      | ok b =>
        rw [hresult] at hend'
        exact hL _ _ hend hend'
      | error failure =>
        rw [hresult] at hend'
        obtain ⟨rest, hrest⟩ := hend'
        refine ⟨rest, ?_⟩
        rw [List.append_assoc]
        exact hL _ _ hend hrest

/-- A part that adds no steps. -/
theorem Traces.quiet (hx : (exec x m).2.steps = m.steps) (hL : L []) : Traces L m (exec x m) := by
  refine ⟨[], by rw [hx, List.append_nil], ?_⟩
  cases (exec x m).1 with
  | ok a => exact hL
  | error failure => exact ⟨[], hL⟩

/-- A first part that adds no steps. -/
theorem Traces.after (hx : (exec x m).2.steps = m.steps)
    (hf : ∀ a m₁, exec x m = (.ok a, m₁) → Traces L m₁ (exec (f a) m₁)) (hL : ∃ steps, L steps) :
    Traces L m (exec (x >>= f) m) := by
  have hquiet : Traces (· = []) m (exec x m) := .quiet hx rfl
  refine hquiet.seq hf hL ?_
  rintro _ later rfl hlater
  exact hlater

end

/-! ## Single steps -/

/-- One step with a plain action was added on a line, or none if the run failed there. -/
def AddsOne {α : Type} (line : Nat) (m : Machine) : Except Failure α × Machine → Prop
  | (.ok _, m') => ∃ step, m'.steps = m.steps.push step ∧ step.line = line ∧ step.action.IsPlain
  | (.error _, m') => m'.steps = m.steps

section

variable {α β : Type}

theorem AddsOne.after (hx : (exec x m).2.steps = m.steps)
    (hf : ∀ a m₁, exec x m = (.ok a, m₁) → AddsOne line m₁ (exec (f a) m₁)) :
    AddsOne line m (exec (x >>= f) m) := by
  rw [exec_bind]
  rcases hexec : exec x m with ⟨failure | a, m₁⟩
  · rw [hexec] at hx
    exact hx
  · rw [hexec] at hx
    have hone := hf a m₁ hexec
    unfold AddsOne at hone ⊢
    rwa [hx] at hone

/-- What follows adds nothing. -/
theorem AddsOne.andThen (hx : AddsOne line m (exec x m)) (hf : ∀ a, ∃ b, f a = pure b) :
    AddsOne line m (exec (x >>= f) m) := by
  rw [exec_bind]
  rcases hexec : exec x m with ⟨failure | a, m₁⟩
  · rw [hexec] at hx
    exact hx
  · rw [hexec] at hx
    obtain ⟨b, hb⟩ := hf a
    dsimp only
    rw [hb, exec_pure]
    exact hx

theorem AddsOne.traces {store : Store} (h : AddsOne line m ending) (hS : S line) :
    Traces (InBlock store limit S) m ending := by
  obtain ⟨failure | a, m'⟩ := ending
  · have hsteps : m'.steps = m.steps := h
    exact ⟨[], by rw [hsteps, List.append_nil], [], inBlock_nil⟩
  · obtain ⟨step, hsteps, rfl, hplain⟩ := h
    refine ⟨[step], by rw [hsteps, Array.toList_push], .plain hplain .nil, ?_⟩
    exact List.forall_mem_singleton.mpr hS

end

/-- The action of a step has copies of the values that were recorded. -/
theorem stepParts_refill (h : stepParts store action env = (.ok (bindings, copied), store')) :
    ∃ values, copied = action.refill values := by
  unfold stepParts at h
  split at h
  · cases h
  · next store₁ _ =>
    split at h
    · cases h
    · next heq =>
      cases h
      have hresult : (exec (action.mapM (copyValue nestingLimit)) ⟨store₁, ∅, ∅⟩).1 = .ok copied :=
        congrArg Prod.fst heq
      rw [Action.mapM_eq] at hresult
      obtain ⟨values, _, _, hcopied⟩ := exec_bind_eq_ok (Prod.ext hresult rfl)
      cases hcopied
      exact ⟨values, rfl⟩

/-- The copy of a plain action is plain. -/
theorem stepParts_plain (hplain : action.IsPlain)
    (h : stepParts store action env = (.ok (bindings, copied), store')) : copied.IsPlain := by
  obtain ⟨values, rfl⟩ := stepParts_refill h
  unfold Action.refill
  split <;> (try split) <;> trivial

section

variable {config : Config} {line : Line} {env : Env} {m : Machine} {α : Type}

theorem record_addsOne (hplain : action.IsPlain) :
    AddsOne line.index m (exec ((Frame.top config).record line action env) m) := by
  rcases exec_record_cases config line action env m with
    ⟨failure, m', hexec, _, hsteps⟩ | ⟨bindings, copied, store, hparts, hexec⟩
  · rw [hexec]
    exact hsteps
  · rw [hexec]
    refine ⟨⟨m.steps.size, line.index, copied, bindings, m.output⟩, ?_, rfl,
      stepParts_plain hplain hparts⟩
    rw [Machine.withStep, Machine.noted_eq]

/-- An effect with a plain action to record. -/
def Effect.IsPlain (effect : Effect α) : Prop :=
  ∃ action, effect.action = some action ∧ action.IsPlain

theorem Effect.isPlain_failed (env : Env) (cause : EvalError) :
    (Effect.failed env cause : Effect α).IsPlain :=
  ⟨.error cause.message, rfl, trivial⟩

theorem exec_commit_top (haction : effect.action = some action) :
    exec ((Frame.top config).commit line effect) m =
      exec ((Frame.top config).record line action effect.env) m := by
  rw [Frame.commit, haction, exec_bind]
  rcases exec ((Frame.top config).record line action effect.env) m with ⟨failure | ⟨⟩, m'⟩
  · rfl
  · dsimp only
    cases effect.result <;> rfl

theorem commit_addsOne (h : effect.IsPlain) :
    AddsOne line.index m (exec ((Frame.top config).commit line effect) m) := by
  obtain ⟨action, haction, hplain⟩ := h
  rw [exec_commit_top haction]
  exact record_addsOne hplain

/-! ### Evaluation adds nothing -/

section

variable (config) (task : Task) {code : Run (Effect α)} (h : task.Begins (Frame.top config) line code)

include h

/-- What is watched along runs holds of the code of a line. -/
theorem Task.watches (M : Monitor config) (m : Machine) :
    M.Watches (attempt task.env code) m := by
  have hcalls := M.calls false callLimit 0
  have hextra (extra : List (String × Value)) : List.Forall₂ (EntryLike Eq .identity) extra extra :=
    List.forall₂_same.mpr fun entry _ => ⟨rfl, entry.2.like_refl⟩
  cases h with
  | simple => exact (hcalls.execute (envLike_refl _) false _ rfl).watches m
  | loop => exact (hcalls.loop (envLike_refl _) line.code (some _) _ rfl).watches m
  | define =>
    exact ((Judgement.lockstep M config.notes).definition (envLike_refl _) line.code (some _) _
      (show Renaming.identity.terms.block _ _ from rfl) rfl).watches m
  | branch | repeating => exact (hcalls.test (envLike_refl _) (hextra _) _ rfl).watches m
  | refusal =>
    exact ((Judgement.lockstep M config.notes).attempt (P := fun _ _ _ => True)
      ((Judgement.lockstep M config.notes).fail _) (fun _ _ _ => trivial) rfl).watches m

theorem Task.attempt_steps : (exec (attempt task.env code) m).2.steps = m.steps :=
  task.watches config h (Monitor.steps config) m

end

theorem countStatement_steps : (exec (countStatement config) m).2.steps = m.steps := by
  rw [exec_countStatement, Machine.counted, Machine.noted_eq]

theorem countIteration_steps : (exec countIteration m).2.steps = m.steps := rfl

/-! ### What headers record -/

theorem loopElements_length (h : loopElements s limit value = .ok elements) :
    (elements.length : Int) ≤ limit := by
  have hall {all : List Value} (h : (if Int.ofNat all.length > limit then
      (do throw (.error (.iterationLimit all.length limit)); pure all) else pure all :
        Except Failure (List Value)) = .ok elements) : (elements.length : Int) ≤ limit := by
    split at h
    · cases h
    · next hlimit =>
      cases h
      exact Int.not_lt.mp hlimit
  unfold loopElements at h
  split at h
  · exact hall h
  · exact hall h
  · obtain ⟨_, _, h⟩ := except_bind_eq_ok h
    cases h

theorem startLoop_yields (context : Context) (text : String) (header : Loop) (body : List Line) :
    Yields (startLoop context text (some header) body env) fun effect =>
      (∃ elements, effect = .done (.loopStart header.target header.iterable (body.map (·.index))) env
        elements ∧ (elements.length : Int) ≤ context.maxIterations) ∨
      ∃ cause, effect = .failed env cause := by
  refine attempt_yields (Yields.bind fun source => ?_)
  have helements : Yields (Run.look fun s => loopElements s context.maxIterations source)
      fun elements => (elements.length : Int) ≤ context.maxIterations := by
    intro m elements m' h
    rw [exec_look] at h
    exact loopElements_length (congrArg Prod.fst h)
  exact helements.bind_of fun elements hlimit => Yields.pure ⟨elements, rfl, hlimit⟩

theorem executeDefinition_yields (text : String) (definition : Definition) (body : List Line)
    (block : List Item) :
    Yields (executeDefinition text (some definition) body block env) Effect.IsPlain := by
  intro m effect m' h
  rcases attempt_yields (bindFunction_yields definition body block env) m effect m' h with ⟨parameters, function, rfl⟩ | ⟨cause, rfl⟩
  · exact ⟨_, rfl, trivial⟩
  · exact Effect.isPlain_failed env cause

theorem check_yields (context : Context) (condition : Condition) (extra : List (String × Value)) :
    Yields (condition.check context extra env) Effect.IsPlain := by
  unfold Condition.check
  split
  · exact Yields.bind fun _ => Yields.bind fun _ => Yields.pure ⟨_, rfl, trivial⟩
  · exact Yields.fail

theorem test_yields (context : Context) (condition : Condition) (extra : List (String × Value)) :
    Yields (condition.test context extra env) Effect.IsPlain := by
  intro m effect m' h
  rcases attempt_yields (check_yields context condition extra) m effect m' h with
    hplain | ⟨cause, rfl⟩
  · exact hplain
  · exact Effect.isPlain_failed env cause

/-- A statement that acts adds one step. -/
theorem runItem_simple {statement : Statement} (hacts : statement.Acts) :
    AddsOne line.index m (exec (runItem (Frame.top config) (.simple line statement) env) m) := by
  refine AddsOne.after ((Task.item (.simple line statement) env).attempt_steps config .simple)
    fun effect m₁ heffect => ?_
  have hplain : effect.IsPlain := by
    rcases statement.execute_acts _ env m effect m₁ heffect with hsucceeds | ⟨cause, rfl⟩
    · exact hsucceeds.2 hacts
    · exact Effect.isPlain_failed env cause
  refine (commit_addsOne hplain).andThen fun _ => ?_
  cases effect.result with
  | ok returned => exact ⟨_, rfl⟩
  | error cause => exact ⟨_, rfl⟩

end

/-! ## Rounds -/

/-- The store at the end of a program. -/
def endStore (config : Config) (program : List Item) : Store :=
  (exec (runProgram config program) .start).2.store

section

variable {config : Config} {program : List Item}

/-- What a step shows is kept up to the end of the program. -/
theorem Moment.kept_step {task : Task} {m : Machine} (h : Moment config program task m) {i : Nat}
    {step : Step} (hstep : m.steps[i]? = some step) :
    m.store.Kept (endStore config program) step.held := by
  obtain ⟨w, w₁, rfl, hgood, hm₁, hlater, hsound, hrecording, _⟩ := h.worlds
  obtain ⟨w₂, hm₂, hlater₂, _⟩ := runProgram_world hsound.toSeparate hrecording hm₁
  rw [endStore, ← hm₂]
  exact (hlater.trans hlater₂).kept_step hgood.fine.toSeparate (hlater.silent.symm.trans hrecording)
    hstep

/-- One step on its own. -/
def Single (P : Step → Prop) (steps : List Step) : Prop :=
  ∃ step, steps = [step] ∧ P step

variable {line : Line} {block : List Item} {env : Env} {m m₁ : Machine}

/-- A round is recorded with two copies of its element. -/
theorem round_traces {element : Value} {rest : List Value}
    (h : Moment config program (.elements line target total block index (element :: rest) env) m)
    (hcount : exec countIteration m = (.ok (), m₁)) :
    Traces (Single (Step.IsRound (endStore config program) line.index target index total)) m₁
      (exec ((Frame.top config).record line (.loopIteration target element index total)
        (env.insert target element)) m₁) := by
  rcases exec_record_cases config line (.loopIteration target element index total)
      (env.insert target element) m₁ with
    ⟨failure, m₂, hexec, _, hsteps⟩ | ⟨bindings, copied, store, hparts, hexec⟩
  · obtain ⟨step, hstep⟩ :=
      Step.exists_isRound (endStore config program) line.index target index total
    rw [hexec]
    exact ⟨[], by rw [hsteps, List.append_nil], [step], step, rfl, hstep⟩
  · obtain ⟨w, _, hm, hgood, _⟩ := h.worlds
    have hstore : m₁.store = w.machine.store := by
      cases hcount
      rw [hm]
    have helement : w.Live element := hgood.values element (by simp [Task.values])
    rw [hstore] at hparts
    obtain ⟨value, bound, haction, hbound, hsame⟩ :=
      stepParts_loopIteration hgood.fine.toSeparate.valid (hgood.tracks.live.insert helement).knows
        helement.knows (Table.get?_insert_self env target element) hparts
    let step : Step := ⟨m₁.steps.size, line.index, copied, bindings, m₁.output⟩
    have hsteps : ((m₁.noted config .passed).withStep store step).steps = m₁.steps.push step := by
      rw [Machine.withStep, Machine.noted_eq]
    -- The two copies belong to the step, so what is said of them now holds at the end.
    have hkept : store.Kept (endStore config program) step.held :=
      Moment.kept_step (h.tail (.round hcount hexec)) (i := m₁.steps.size)
        (by rw [hsteps, Array.getElem?_push_size])
    have hboundHeld : bound ∈ step.held :=
      List.mem_append_left _ (Table.mem_values_of_get? hbound)
    have hvalueHeld : value ∈ step.held := by
      refine List.mem_append_right _ ?_
      simp [step, haction, Action.held, Action.details, Table.values, Detail.held]
    rw [hexec]
    refine ⟨[step], by rw [hsteps, Array.toList_push], step, rfl, rfl, value, bound, haction, hbound,
      Looks.kept hsame (hkept.stays hboundHeld) (hkept.stays hvalueHeld)⟩

/-- The start and the end of a loop are recorded as they are. -/
theorem constant_traces (hconstant : action.IsConstant) :
    Traces (Single fun step => step.line = line.index ∧ step.action = action) m
      (exec ((Frame.top config).record line action env) m) := by
  rcases exec_record_cases config line action env m with
    ⟨failure, m', hexec, _, hsteps⟩ | ⟨bindings, copied, store, hparts, hexec⟩
  · rw [hexec]
    exact ⟨[], by rw [hsteps, List.append_nil], _, ⟨0, line.index, action, .empty, .empty⟩, rfl, rfl,
      rfl⟩
  · obtain rfl : copied = action := stepParts_constant hconstant hparts
    let step : Step := ⟨m.steps.size, line.index, copied, bindings, m.output⟩
    have hsteps : ((m.noted config .passed).withStep store step).steps = m.steps.push step := by
      rw [Machine.withStep, Machine.noted_eq]
    rw [hexec]
    exact ⟨[step], by rw [hsteps, Array.toList_push], step, rfl, rfl, rfl⟩

/-- The rounds of a loop follow one another, and its end follows them. -/
theorem rounds_traces {body : List Nat} (hS : S line.index)
    (hblock : ∀ env m, Moment config program (.block block env) m → Traces (InBlock (endStore config program) limit fun i => S i ∧ i ∈ body) m (exec (runBlock (Frame.top config) block env) m)) :
    ∀ (rest : List Value) (index : Nat) (env : Env) (m : Machine), index + rest.length = total →
      Moment config program (.elements line target total block index rest env) m →
      Traces (InLoop (endStore config program) limit S line.index target body total index) m
        (exec ((Frame.top config).rounds line target total
          (fun env => runBlock (Frame.top config) block env) index rest env) m) := by
  intro rest
  induction rest with
  | nil =>
    intro index env m htotal _
    obtain rfl : index = total := htotal
    change Traces _ m (exec (do
      (Frame.top config).record line (.loopEnd target) env
      return Progress.goingOn env) m)
    have hconstant : (Action.loopEnd target).IsConstant := rfl
    refine (constant_traces hconstant).seq (B := (· = [])) (fun _ _ _ => Traces.pure rfl) ⟨[], rfl⟩ ?_
    rintro _ _ ⟨step, rfl, hline, haction⟩ rfl
    exact ⟨.finish hline haction, List.forall_mem_singleton.mpr (hline ▸ hS)⟩
  | cons element rest ih =>
    intro index env m htotal hmoment
    have htotal' : index + 1 + rest.length = total := by
      rw [List.length_cons] at htotal
      omega
    have hexists (left index : Nat) (h : index + left = total) :=
      exists_inLoop (endStore config program) limit hS target body total left index h
    have hlater := hexists rest.length (index + 1) htotal'
    rw [Frame.rounds_cons, Frame.visit, bind_assoc]
    refine Traces.after countIteration_steps (fun _ m₁ hcount => ?_)
      (hexists (rest.length + 1) index (by omega))
    rw [bind_assoc]
    -- Behind the step of the round stand those of its block, and then the other rounds.
    refine (round_traces hmoment hcount).seq (B := fun steps => ∃ inner later, steps = inner ++ later ∧
      InBlock (endStore config program) limit (fun i => S i ∧ i ∈ body) inner ∧
      InLoop (endStore config program) limit S line.index target body total (index + 1) later)
      (fun _ m₂ hrecord => ?_) ?_ ?_
    · have hinner := hblock _ m₂ (hmoment.tail (.round hcount hrecord))
      refine hinner.seq (fun progress m₃ hprogress => ?_) hlater
        fun inner later hinner hlater => ⟨inner, later, rfl, hinner, hlater⟩
      have hreturned : progress.returned = none := runBlock_goesOn rfl block _ m₂ progress m₃ hprogress
      have hvisit : exec ((Frame.top config).visit line target total
          (fun env => runBlock (Frame.top config) block env) index element env) m =
          (.ok progress, m₃) := by
        rw [Frame.visit, exec_bind_ok hcount, exec_bind_ok hrecord, hprogress]
      rw [hreturned]
      exact ih (index + 1) progress.env m₃ htotal' (hmoment.tail (.nextRound hvisit hreturned))
    · obtain ⟨later, hlater⟩ := hlater
      exact ⟨later, [], later, rfl, inBlock_nil, hlater⟩
    · rintro _ _ ⟨step, rfl, hstep⟩ ⟨inner, later, rfl, ⟨hinner, hlines⟩, hlater⟩
      rw [List.singleton_append]
      refine ⟨.round hstep hinner (fun s hs => (hlines s hs).2) hlater.1, ?_⟩
      rw [List.forall_mem_cons, List.forall_mem_append]
      exact ⟨hstep.1 ▸ hS, fun s hs => (hlines s hs).1, hlater.2⟩

/-! ## Blocks -/

/-- A part of a program that starts from `m` adds the steps of a block, on lines with the property
`S`. -/
def Nests {α : Type} (config : Config) (program : List Item) (S : Nat → Prop) (x : Run α)
    (m : Machine) : Prop :=
  Traces (InBlock (endStore config program) config.maxIterations S) m (exec x m)

section

variable {S : Nat → Prop} {α β : Type}

theorem Nests.pure {a : α} : Nests config program S (pure a) m :=
  Traces.pure inBlock_nil

theorem Nests.bind (hx : Nests config program S x m)
    (hf : ∀ a m₁, exec x m = (.ok a, m₁) → Nests config program S (f a) m₁) :
    Nests config program S (x >>= f) m :=
  hx.seq hf ⟨[], inBlock_nil⟩ fun _ _ h h' => h.append h'

theorem Nests.after (hx : (exec x m).2.steps = m.steps)
    (hf : ∀ a m₁, exec x m = (.ok a, m₁) → Nests config program S (f a) m₁) :
    Nests config program S (x >>= f) m :=
  Traces.after hx hf ⟨[], inBlock_nil⟩

theorem Nests.commit {effect : Effect α} (hS : S line.index) (h : effect.IsPlain) :
    Nests config program S ((Frame.top config).commit line effect) m :=
  (commit_addsOne h).traces hS

/-- The condition of a loop is tested once before every round. -/
theorem repeatWhile_nests {condition : Condition} (hS : S line.index)
    (hblock : ∀ env m, Moment config program (.block block env) m →
      Nests config program S (runBlock (Frame.top config) block env) m) (room : Nat) :
    ∀ (iteration : Nat) (env : Env) (m : Machine),
      Moment config program (.repeating line condition block room iteration env) m →
      Nests config program S ((Frame.top config).repeatWhile line condition
        (fun env => runBlock (Frame.top config) block env) room iteration env) m := by
  induction room using Nat.strongRecOn with
  | ind room ih =>
  intro iteration env m hmoment
  rw [Frame.repeatWhile.eq_def]
  refine .after ((Task.repeating line condition block room iteration env).attempt_steps config .repeating)
    fun effect m₁ htest => ?_
  refine .bind (.commit hS (test_yields _ condition _ m effect m₁ htest)) fun _ m₂ hcommit => ?_
  split
  · next htrue =>
    cases room with
    | zero => exact .bind (.commit hS (Effect.isPlain_failed _ _)) fun _ _ _ => .pure
    | succ room =>
      refine .after countIteration_steps fun _ m₃ hcount => ?_
      have hinner := hblock _ m₃ (hmoment.tail (.repeated htest hcommit htrue hcount))
      refine hinner.bind fun progress m₄ hprogress => ?_
      have hreturned : progress.returned = none := runBlock_goesOn rfl block _ m₃ progress m₄ hprogress
      have hagain := hmoment.tail (.bodyDone htest hcommit htrue hcount hprogress hreturned)
      rw [hreturned]
      refine .after countStatement_steps fun _ m₅ hcount' => ?_
      exact ih room (Nat.lt_succ_self _) _ _ m₅ (hagain.tail (.testedAgain hcount'))
  · exact .pure

end

mutual

theorem runBlock_nests {S : Nat → Prop} : ∀ (items : List Item), Item.AllProper items →
    LinesIn S (Item.linesOf items) → ∀ env m, Moment config program (.block items env) m →
      Nests config program S (runBlock (Frame.top config) items env) m
  | [], _, _, env, m, _ => by
    exact .pure
  | item :: rest, hproper, hlines, env, m, hmoment => by
    rw [Item.AllProper] at hproper
    rw [Item.linesOf, linesIn_append] at hlines
    refine .after countStatement_steps fun _ m₁ hcount => ?_
    have hitem := runItem_nests item hproper.1 hlines.1 env m₁ (hmoment.tail (.item hcount))
    refine hitem.bind fun progress m₂ hprogress => ?_
    have hreturned : progress.returned = none := runItem_goesOn rfl item _ m₁ progress m₂ hprogress
    rw [hreturned]
    exact runBlock_nests rest hproper.2 hlines.2 progress.env m₂
      (hmoment.tail (.rest hcount hprogress hreturned))

theorem runItem_nests {S : Nat → Prop} : ∀ (item : Item), item.Proper → LinesIn S item.lines →
    ∀ env m, Moment config program (.item item env) m →
      Nests config program S (runItem (Frame.top config) item env) m
  | .simple line statement, hproper, hlines, env, m, _ => by
    rw [Item.Proper] at hproper
    rcases hproper with hacts | ⟨_, rfl⟩
    · exact (runItem_simple hacts).traces (hlines line (by simp [Item.lines]))
    · rw [runItem]
      exact .pure
  | .loop line header body block, hproper, hlines, env, m, hmoment => by
    rw [Item.Proper] at hproper
    rw [Item.lines, linesIn_cons] at hlines
    have hblock := runBlock_nests block hproper.2.2 (S := fun i => S i ∧ i ∈ body.map (·.index))
      fun inner hinner => ⟨hlines.2 inner hinner, hproper.2.1 inner hinner⟩
    refine .after ((Task.item (.loop line header body block) env).attempt_steps config .loop)
      fun effect m₁ hstart => ?_
    rcases startLoop_yields _ _ header body m effect m₁ hstart with
      ⟨elements, rfl, hlimit⟩ | ⟨cause, rfl⟩
    · have hconstant : (Action.loopStart header.target header.iterable
          (body.map (·.index))).IsConstant := rfl
      have hfirst : Traces (Single fun step => step.line = line.index ∧
          step.action = .loopStart header.target header.iterable (body.map (·.index))) m₁
          (exec ((Frame.top config).commit line (.done (.loopStart header.target header.iterable
            (body.map (·.index))) env elements)) m₁) := by
        rw [exec_commit_done]
        exact constant_traces hconstant
      refine hfirst.seq (B := InLoop (endStore config program) config.maxIterations S
        line.index header.target (body.map (·.index)) elements.length 0) (fun _ m₂ hcommit => ?_) ?_ ?_
      · exact rounds_traces hlines.1 hblock elements 0 env m₂ (Nat.zero_add _)
          (hmoment.tail (.loop hstart hcommit rfl))
      · exact exists_inLoop _ _ hlines.1 _ _ _ elements.length 0 (Nat.zero_add _)
      · rintro _ later ⟨start, rfl, hline, haction⟩ ⟨hrounds, hlater⟩
        have hsteps : [start] ++ later = start :: (later ++ []) := by simp
        rw [hsteps]
        refine ⟨.loop haction hlimit (hline ▸ hrounds) .nil, ?_⟩
        rw [List.append_nil, List.forall_mem_cons]
        exact ⟨hline ▸ hlines.1, hlater⟩
    · exact .bind (.commit hlines.1 (Effect.isPlain_failed _ _)) fun _ _ _ => .pure
  | .define line definition body block, hproper, hlines, env, m, _ => by
    refine .after ((Task.item (.define line definition body block) env).attempt_steps config .define)
      fun effect m₁ heffect => ?_
    have hplain := executeDefinition_yields _ definition body block m effect m₁ heffect
    exact .bind (.commit (hlines line (by simp [Item.lines])) hplain) fun _ _ _ => .pure
  | .choose first rest, hproper, hlines, env, m, hmoment => by
    rw [Item.Proper] at hproper
    rw [Item.lines, linesIn_append] at hlines
    have hfirst := runBranch_nests first hproper.2.1 hlines.1 env m (hmoment.tail .first)
    refine hfirst.bind fun ⟨pending, progress⟩ m₁ hresult => ?_
    have hreturned : progress.returned = none := runBranch_goesOn rfl first env m _ m₁ hresult
    dsimp only
    rw [hreturned]
    exact runBranches_nests rest hproper.2.2 hlines.2 pending progress.env m₁
      (hmoment.tail (.later hresult hreturned))
  | .repeat line condition block, hproper, hlines, env, m, hmoment => by
    rw [Item.Proper] at hproper
    rw [Item.lines, linesIn_cons] at hlines
    exact repeatWhile_nests hlines.1 (runBlock_nests block hproper.2 hlines.2) _ 0 env m
      (hmoment.tail .while)
  | .skip line, _, _, env, m, _ => by
    exact .pure

theorem runBranch_nests {S : Nat → Prop} : ∀ (branch : Branch), branch.Proper →
    LinesIn S branch.lines → ∀ env m, Moment config program (.branch branch env) m →
      Nests config program S (runBranch (Frame.top config) branch env) m
  | .mk line none block, hproper, hlines, env, m, hmoment => by
    rw [Branch.Proper] at hproper
    rw [Branch.lines, linesIn_cons] at hlines
    have hblock := runBlock_nests block hproper hlines.2 env m (hmoment.tail .lastResort)
    exact hblock.bind fun _ _ _ => .pure
  | .mk line (some condition) block, hproper, hlines, env, m, hmoment => by
    rw [Branch.Proper] at hproper
    rw [Branch.lines, linesIn_cons] at hlines
    refine .after ((Task.branch (.mk line (some condition) block) env).attempt_steps config .branch)
      fun effect m₁ htest => ?_
    have hplain := test_yields _ condition _ m effect m₁ htest
    refine .bind (.commit hlines.1 hplain) fun _ m₂ hcommit => ?_
    split
    · next htrue =>
      have htaken := hmoment.tail (.taken htest hcommit htrue)
      exact (runBlock_nests block hproper hlines.2 effect.env m₂ htaken).bind fun _ _ _ => .pure
    · exact .pure
    · exact .pure

theorem runBranches_nests {S : Nat → Prop} : ∀ (branches : List Branch),
    Branch.AllProper branches → LinesIn S (Branch.linesOf branches) →
    ∀ pending env m, Moment config program (.branches branches pending env) m →
      Nests config program S (runBranches (Frame.top config) branches pending env) m
  | [], _, _, pending, env, m, _ => by
    exact .pure
  | branch :: rest, hproper, hlines, pending, env, m, hmoment => by
    rw [Branch.AllProper] at hproper
    rw [Branch.linesOf, linesIn_append] at hlines
    refine .after countStatement_steps fun _ m₁ hcount => ?_
    cases pending with
    | false =>
      exact runBranches_nests rest hproper.2 hlines.2 false env m₁
        (hmoment.tail (.passedBranch hcount))
    | true =>
      have hbranch := runBranch_nests branch hproper.1 hlines.1 env m₁ (hmoment.tail (.tried hcount))
      refine hbranch.bind fun ⟨pending, progress⟩ m₂ hresult => ?_
      have hreturned : progress.returned = none := runBranch_goesOn rfl branch env m₁ _ m₂ hresult
      dsimp only
      rw [hreturned]
      exact runBranches_nests rest hproper.2 hlines.2 pending progress.env m₂
        (hmoment.tail (.nextBranch hcount hresult hreturned))

end

end

/-! ## Lines that are visited -/

/-- A task whose items are proper. -/
def Task.Proper : Task → Prop
  | .block items _ => Item.AllProper items
  | .item i _ => i.Proper
  | .branch b _ => b.Proper
  | .branches bs _ _ => Branch.AllProper bs
  | .elements _ _ _ body _ _ _ | .repeating _ _ body _ _ _ | .again _ _ body _ _ _ =>
    Item.AllProper body
  | .refusal _ _ _ => True

theorem Enters.proper (h : Enters frame (t, m) (t', m')) (ht : t.Proper) : t'.Proper := by
  cases h with
  | item _ | tried _ =>
    simp only [Task.Proper, Item.AllProper, Branch.AllProper] at ht
    exact ht.1
  | rest _ _ _ | nextBranch _ _ _ | passedBranch _ =>
    simp only [Task.Proper, Item.AllProper, Branch.AllProper] at ht
    exact ht.2
  | loop _ _ _ | later _ _ =>
    simp only [Task.Proper, Item.Proper] at ht
    exact ht.2.2
  | first =>
    simp only [Task.Proper, Item.Proper] at ht
    exact ht.2.1
  | lastResort | taken _ _ _ => rwa [Task.Proper, Branch.Proper] at ht
  | «while» =>
    simp only [Task.Proper, Item.Proper] at ht
    exact ht.2
  | limit _ _ _ => trivial
  | _ => exact ht

theorem Moment.proper (hprogram : Item.AllProper program) (h : Moment config program task m) :
    task.Proper := by
  unfold Moment at h
  generalize hmoment : (task, m) = moment at h
  induction h generalizing task m with
  | refl =>
    cases hmoment
    exact hprogram
  | @tail moment _ _ hstep ih =>
    subst hmoment
    exact hstep.proper (ih rfl)

/-- The steps at a moment are the first ones of the whole program. -/
theorem Moment.steps_prefix (h : Moment config program task m) :
    m.steps.toList <+: (exec (runProgram config program) .start).2.steps.toList := by
  obtain ⟨w, w₁, rfl, _, hm₁, hlater, hsound, hrecording, _⟩ := h.worlds
  obtain ⟨w₂, hm₂, hlater₂, _⟩ := runProgram_world hsound.toSeparate hrecording hm₁
  rw [← hm₂]
  exact hlater.steps.trans hlater₂.steps

/-- Behind an item of a block the rest of the block is executed. -/
theorem Moment.after_item (h : Moment config program (.item item env) m)
    (hexec : exec (runItem (Frame.top config) item env) m = (.ok progress, m')) :
    ∃ rest, Moment config program (.block rest progress.env) m' := by
  rcases Relation.ReflTransGen.cases_tail h with heq | ⟨⟨task, m₀⟩, hprevious, hstep⟩
  · cases heq
  · have hreturned : progress.returned = none := runItem_goesOn rfl item env m progress m' hexec
    cases hstep with
    | item hcount => exact ⟨_, hprevious.tail (.rest hcount hexec hreturned)⟩

/-- If a task fails so does the program. -/
theorem Moment.fails {task : Task} {failure : Failure} (h : Moment config program task m)
    (hexec : exec (task.run (Frame.top config)) m = (.error failure, m')) :
    exec (runBlock (Frame.top config) program .empty) .start = (.error failure, m') := by
  obtain ⟨w, rfl, hleads⟩ :=
    leadsTo_of_enters (w := .start) (Frame.top_call_safe config) h (good_start config program)
  obtain ⟨k, hresumes, _⟩ := hleads.resumes
  exact hresumes.trans (exec_bind_error hexec)

/-- A program that failed has a trace only if it was cut off, and then the last step says so. -/
theorem Trace.exists_closing {config : Config} {failure : Failure}
    (h : Trace.ofSource config source = .ok trace)
    (hblock : exec (runBlock (Frame.top config) (programOf config source) .empty) .start =
      (.error failure, m)) : trace.truncated = true ∧ ∃ closing, trace.steps = m.steps.push closing ∧
      closing.action.isError = true := by
  obtain ⟨m', hrun, hsteps, _, _⟩ := Trace.ofSource_eq_ok h
  cases htruncated : trace.truncated with
  | false =>
    rw [htruncated] at hrun
    obtain ⟨progress, hends⟩ := runBlock_of_untruncated hrun
    rw [hblock] at hends
    cases hends
  | true =>
    rw [htruncated] at hrun
    obtain ⟨cause, m₁, hends, hclose⟩ := runBlock_of_truncated hrun
    rw [hblock] at hends
    cases hends
    obtain ⟨w, hm, hsound, hrecording, _⟩ := runBlock_world config (programOf config source)
    rw [hblock] at hm
    dsimp only at hm
    rw [← hm] at hclose
    obtain ⟨store, closing, hclosed, _, haction, _⟩ :=
      closeTrace_closing hsound.toSeparate hrecording hclose
    refine ⟨rfl, closing, ?_, by rw [haction]; rfl⟩
    rw [hsteps, hclosed, hm]
    rfl

/-! ## Traces -/

/-- How a line that is visited shows in a trace: as one step of its own, behind those recorded before;
or as none, if the trace was cut off there. -/
def Trace.ShowsLine (trace : Trace) (line : Line) (m : Machine) {α : Type} :
    Except Failure α × Machine → Prop
  | (.ok _, m') => ∃ step, m'.steps = m.steps.push step ∧ m'.steps.toList <+: trace.steps.toList ∧
      step.line = line.index ∧ step.action.IsPlain
  | (.error _, _) => trace.truncated = true ∧ ∃ closing, trace.steps = m.steps.push closing

/-- The steps of loops nest.  The steps of a trace that was not cut off are those of a block, and a
trace that was cut off begins like one and ends with an error.  Whenever a line is visited that is
neither a header nor an alternative of a chain, it contributes a single step. -/
theorem steps_well_bracketed (config : Config) (source : String) (trace : Trace)
    (h : Trace.ofSource config source = .ok trace) :
    (trace.truncated = false →
      Bracketed trace.store config.maxIterations trace.steps.toList) ∧
    (trace.truncated = true → ∃ begun closing rest, trace.steps.toList = begun ++ [closing] ∧
      closing.action.isError = true ∧
      Bracketed trace.store config.maxIterations (begun ++ rest)) ∧
    ∀ item env m, Moment config (programOf config source) (.item item env) m →
      ¬ EndsInColon item.line.code →
      trace.ShowsLine item.line m (exec (runItem (Frame.top config) item env) m) := by
  obtain ⟨m, hrun, hsteps, hstore, _⟩ := Trace.ofSource_eq_ok h
  have hend : endStore config (programOf config source) = trace.store := by
    rw [endStore, hrun, hstore]
  obtain ⟨added, hadded, htraces⟩ := runBlock_nests (S := fun _ => True)
    (programOf config source) (programOf_proper config source) (fun _ _ => trivial) .empty .start
    Relation.ReflTransGen.refl
  rw [hend] at htraces
  refine ⟨fun huntruncated => ?_, fun htruncated => ?_, fun item env m₁ hmoment hcolon => ?_⟩
  · rw [huntruncated] at hrun
    obtain ⟨progress, hblock⟩ := runBlock_of_untruncated hrun
    rw [hblock] at hadded htraces
    rw [hsteps, hadded]
    exact htraces.1
  · rw [htruncated] at hrun
    obtain ⟨cause, m', hblock, _⟩ := runBlock_of_truncated hrun
    obtain ⟨_, closing, hclosing, herror⟩ := Trace.exists_closing h hblock
    rw [hblock] at hadded htraces
    obtain ⟨rest, hrest, _⟩ := htraces
    refine ⟨added, closing, rest, ?_, herror, hrest⟩
    rw [hclosing, Array.toList_push, hadded]
    rfl
  · obtain ⟨line, statement, rfl, hacts⟩ :=
      (hmoment.proper (programOf_proper config source)).simple hcolon
    have hone : AddsOne line.index m₁ (exec (runItem (Frame.top config) (.simple line statement) env)
        m₁) := runItem_simple hacts
    rcases hexec : exec (runItem (Frame.top config) (.simple line statement) env) m₁ with
      ⟨failure | progress, m'⟩
    · rw [hexec] at hone
      have hsame : m'.steps = m₁.steps := hone
      obtain ⟨htruncated, closing, hclosing, _⟩ := Trace.exists_closing h (hmoment.fails hexec)
      exact ⟨htruncated, closing, hsame ▸ hclosing⟩
    · rw [hexec] at hone
      obtain ⟨step, hstep, hline, hplain⟩ := hone
      obtain ⟨rest, hnext⟩ := hmoment.after_item hexec
      have hprefix := hnext.steps_prefix
      rw [hrun, ← hsteps] at hprefix
      exact ⟨step, hstep, hprefix, hline, hplain⟩

/-- A loop in a loop, the second round of which is cut off in the last of these traces. -/
def nestedLoops : String :=
  "for i in [1, 2]:\n    for c in 'ab':\n        x = [i, c]\ny = x"

theorem steps_well_bracketed_nested :
    (∃ trace, Trace.ofSource Config.usual nestedLoops = .ok trace ∧ trace.truncated = false ∧
      trace.steps.size = 17 ∧
      Bracketed trace.store Config.usual.maxIterations trace.steps.toList) ∧
    ∃ trace, Trace.ofSource { Config.usual with maxSteps := 12 } nestedLoops = .ok trace ∧
      ∃ begun closing rest, trace.steps.toList = begun ++ [closing] ∧
        closing.action.isError = true ∧
        Bracketed trace.store Config.usual.maxIterations (begun ++ rest) := by
  have hwhole : (Trace.ofSource Config.usual nestedLoops).toOption.any
      (fun trace => !trace.truncated && trace.steps.size == 17) = true := by
    decide +kernel
  have hcut : (Trace.ofSource { Config.usual with maxSteps := 12 } nestedLoops).toOption.any
      (fun trace => trace.truncated) = true := by
    decide +kernel
  obtain ⟨trace, htrace, hp⟩ := Trace.exists_ofSource _ hwhole
  obtain ⟨trace', htrace', htruncated'⟩ := Trace.exists_ofSource _ hcut
  rw [Bool.and_eq_true, Bool.not_eq_true', beq_iff_eq] at hp
  exact ⟨⟨trace, htrace, hp.1, hp.2, (steps_well_bracketed _ _ _ htrace).1 hp.1⟩,
    trace', htrace', (steps_well_bracketed _ _ _ htrace').2.1 htruncated'⟩

/-- A line `else` without a colon continues a chain of alternatives all the same. -/
def bareElse : String :=
  "if False:\n    x = 1\nelse\n    y = 2"

/-- The alternative is visited, it does not end in a colon, and it contributes no step: three
statements are counted, but there are two steps only. -/
theorem bareElse_without_step :
    (Line.all bareElse)[2]?.map (·.code) = some "else" ∧ ¬ EndsInColon "else" ∧
    ∃ trace, Trace.ofSource { Config.usual with structured := true } bareElse = .ok trace ∧
      trace.truncated = false ∧ trace.tally.statements = 3 ∧
      trace.steps.toList.map (·.line) = [0, 3] := by
  have htrace : (Trace.ofSource { Config.usual with structured := true } bareElse).toOption.any
      (fun trace => !trace.truncated && (trace.tally.statements == 3 &&
        trace.steps.toList.map (·.line) == [0, 3])) = true := by
    decide +kernel
  obtain ⟨trace, htrace, hp⟩ := Trace.exists_ofSource _ htrace
  rw [Bool.and_eq_true, Bool.and_eq_true, Bool.not_eq_true', beq_iff_eq, beq_iff_eq] at hp
  exact ⟨by decide, by unfold EndsInColon; decide, trace, htrace, hp⟩

end Walkthrough
