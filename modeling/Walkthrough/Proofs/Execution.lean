import Walkthrough.Proofs.Bindings
import Walkthrough.Proofs.Confinement

/-!
# Everything that is executed is safe

The judgement of `Walkthrough.Proofs.Ownership` for statements and blocks.  What a statement leaves
and shows is live, because it is confined to that.  At the top level there is more to say: when a
block goes on, the last step shows the scope and the output as they are.  `Frame.Tracks` is this
invariant, and every way through a block keeps it.
-/

namespace Walkthrough

variable {env : Env} {frame : Frame} {block : Env → Run Progress}

/-! ## Effects -/

/-- An effect leaves live bindings, shows live values, and has a result as `R` says. -/
structure Effect.Fits {α : Type} (R : α → World → Prop) (effect : Effect α) (w : World) : Prop where
  env : w.LiveEnv effect.env
  action : ∀ action, effect.action = some action → ∀ v ∈ action.given, w.Live v
  result : ∀ a, effect.result = .ok a → R a w

section

variable {α : Type}

theorem Effect.Fits.failed (cause : EvalError) (henv : w.LiveEnv env) :
    (Effect.failed env cause : Effect α).Fits R w where
  env := henv
  action := by
    rintro _ ⟨⟩
    exact nofun
  result := nofun

theorem Action.Like.given {ρ : Renaming} {action action' : Action} (h : action.Like ρ action') :
    ValuesLike ρ action.given action'.given := by
  cases h with
  | assign name source h => exact .cons h .nil
  | reassign name source h hold => exact .cons h (.cons hold .nil)
  | augment name op h hold hright => exact .cons h (.cons hold (.cons hright .nil))
  | setItem kind name summary hkey h hold => exact .cons hkey (.cons h (.cons hold .nil))
  | operate kind name operation summary hvs h hold hresult =>
    exact List.rel_append hvs (.cons h (.cons hold (.cons hresult .nil)))
  | print text h => exact h
  | call name hvs h => exact List.rel_append hvs (.cons h .nil)
  | loopIteration target index total h => exact .cons h .nil
  | condition word text result h =>
    exact List.forall₂_map_left_iff.mpr (List.forall₂_map_right_iff.mpr (h.imp fun _ _ h => h.2))
  | _ => exact .nil

/-- An effect that stands for another fits the world. -/
theorem Effect.Like.fits {ρ : Renaming} {effect effect' : Effect α} (h : Effect.Like S ρ effect effect')
    (hfits : w.Fits ρ) (hS : ∀ a b, S ρ a b → R a w) : effect.Fits R w where
  env := EnvLike.live h.env hfits
  action action haction := by
    have hlike := h.action
    rw [haction] at hlike
    generalize effect'.action = action' at hlike
    cases hlike with
    | some hlike => exact ValuesLike.live hlike.given hfits
  result a ha := by
    have hlike := h.result
    rw [ha] at hlike
    generalize effect'.result = result at hlike
    cases hlike with
    | ok hlike => exact hS _ _ hlike

end

/-! ## Statements -/

/-- What a run gives, and to which machine it leads, may be looked up. -/
theorem Upholds.with_exec {ε α : Type} {settles : ε → Prop} {x : ExceptT ε (StateM Machine) α}
    {w : World} {P : α → World → Prop} {Q : α → Machine → Prop} (hx : Upholds settles x w P)
    (h : ∀ a m, exec x w.machine = (.ok a, m) → Q a m) :
    Upholds settles x w fun a w' => P a w' ∧ Q a w'.machine := by
  obtain ⟨owner, hlater, hsound, hend⟩ := hx
  refine ⟨owner, hlater, hsound, ?_⟩
  rcases hexec : exec x w.machine with ⟨failure | a, m⟩
  · rw [hexec] at hend
    exact hend
  · rw [hexec] at hend
    exact ⟨hend.1, hend.2, h a m hexec⟩

/-- What a `return` gives is live. -/
def LiveReturn : Option Value → World → Prop :=
  fun returned w => ∀ v, returned = some v → w.Live v

/-- A computation whose effects all have an action to record. -/
abbrev Acts {α : Type} (x : Run (Effect α)) : Prop :=
  Yields x fun effect => effect.action ≠ none

theorem attempt_acts (h : Acts statement) : Acts (attempt env statement) := by
  intro m effect m' heffect
  rcases attempt_yields h m effect m' heffect with h | ⟨cause, rfl⟩
  · exact h
  · exact nofun

/-- A statement that has no action to record, outside of functions, has done nothing. -/
theorem Statement.Gives.idle {statement : Statement} (h : statement.Gives inFunction env m m' effect)
    (hnone : effect.action = none) : inFunction = true ∨ m' = m ∧ effect.env = env := by
  induction h with
  | operateOtherwise _ ih | printOtherwise _ ih => exact ih hnone
  | pass => exact .inr ⟨rfl, rfl⟩
  | ret hfunction => exact .inl hfunction
  | _ => cases hnone

theorem Statement.execute_idle {context : Context} {inFunction : Bool} {statement : Statement}
    {m m' : Machine} {effect : Effect (Option Value)}
    (hexec : exec (statement.execute context inFunction env) m = (.ok effect, m'))
    (hnone : effect.action = none) : inFunction = true ∨ m' = m ∧ effect.env = env := by
  rw [Statement.execute, exec_attempt] at hexec
  split at hexec
  · next heffect =>
    cases hexec
    exact (statement.perform_gives heffect).idle hnone
  · cases hexec
    cases hnone
  · cases hexec

/-- What performing a statement leads to.  A statement that has no action to record, outside of
functions, has done nothing. -/
def Performs (inFunction : Bool) (env : Env) (w : World) (effect : Effect (Option Value))
    (w' : World) : Prop :=
  effect.Fits LiveReturn w' ∧
    (effect.action = none → inFunction = true ∨ w'.machine = w.machine ∧ effect.env = env)

/-- What a header leads to: an effect that fits, with an action to record. -/
def Heads {α : Type} (R : α → World → Prop) (effect : Effect α) (w : World) : Prop :=
  effect.Fits R w ∧ effect.action ≠ none

section

variable {α : Type} {w : World}

theorem Heads.failed (henv : w.LiveEnv env) (cause : EvalError) (hlater : w.Later w') :
    Heads R (Effect.failed env cause) w' :=
  ⟨Effect.Fits.failed cause (henv.later hlater), nofun⟩

/-- The effect of a statement fits, and a statement without an action to record has done nothing. -/
theorem Statement.execute_safe (hcall : CallSafe context.call) (hw : w.Fine)
    (henv : w.LiveEnv env) (statement : Statement) :
    Safe (statement.execute context inFunction env) w (Performs inFunction env w) := by
  have hfits := hw.toSeparate.fits
  obtain ⟨env', henv'⟩ := hfits.env henv
  refine Upholds.with_exec ((hcall.calls.execute henv' inFunction statement w hw hfits).imp ?_)
    fun _ _ => Statement.execute_idle
  rintro effect w' _ _ ⟨ρ', _, hfits', effect', hlike⟩
  refine hlike.fits hfits' fun a b hab v hv => ?_
  cases hab with
  | none => cases hv
  | some h =>
    cases hv
    exact h.live hfits'

/-- A header that is confined, and whose effects have actions. -/
theorem Heads.of_confined {S : Renaming → α → α → Prop} {x : Run (Effect α)} (hw : w.Fine)
    (hx : Confined w.renaming x fun ρ' a => ∃ b, Effect.Like S ρ' a b) (hacts : Acts x)
    (hS : ∀ ρ' w' a b, w'.Fits ρ' → S ρ' a b → R a w') : Safe x w (Heads R) := by
  refine Upholds.with_exec (Q := fun effect _ => effect.action ≠ none)
    ((hx w hw hw.toSeparate.fits).imp ?_) fun effect m => hacts w.machine effect m
  rintro effect w' _ _ ⟨ρ', _, hfits', effect', hlike⟩
  exact hlike.fits hfits' fun a b => hS ρ' w' a b hfits'

theorem executeDefinition_safe (hw : w.Fine) (henv : w.LiveEnv env) (text : String)
    (definition : Option Definition) (body : List Source.Line) (block : List Item) :
    Safe (executeDefinition text definition body block env) w (Heads fun _ _ => True) := by
  obtain ⟨env', henv'⟩ := hw.toSeparate.fits.env henv
  have hblock : w.renaming.terms.block block block := rfl
  refine Heads.of_confined hw ((Judgement.confined .usual).definition henv' text definition
    body hblock) (attempt_acts ?_) fun _ _ _ _ _ _ => trivial
  split
  · refine (bindFunction_yields _ body block env).mono ?_
    rintro _ ⟨parameters, function, rfl⟩
    exact nofun
  · exact Yields.fail

theorem startLoop_safe (hcall : CallSafe context.call) (hw : w.Fine) (henv : w.LiveEnv env)
    (text : String) (header : Option Loop) (body : List Source.Line) :
    Safe (startLoop context text header body env) w
      (Heads fun elements w => ∀ v ∈ elements, w.Live v) := by
  obtain ⟨env', henv'⟩ := hw.toSeparate.fits.env henv
  refine Heads.of_confined hw (hcall.calls.loop henv' text header body) (attempt_acts ?_)
    fun _ _ _ _ hfits hvs => ValuesLike.live hvs hfits
  split
  · refine (loopValues_yields context _ body env).mono ?_
    rintro _ ⟨elements, rfl⟩
    exact nofun
  · exact Yields.fail

theorem Condition.test_safe (hcall : CallSafe context.call) (hw : w.Fine) (henv : w.LiveEnv env)
    (hextra : ∀ v ∈ extra.map (·.2), w.Live v) (condition : Condition) :
    Safe (condition.test context extra env) w (Heads fun _ _ => True) := by
  obtain ⟨env', henv'⟩ := hw.toSeparate.fits.env henv
  have hextras : w.LiveEnv ⟨extra⟩ := hextra
  obtain ⟨extra', hextra'⟩ := hw.toSeparate.fits.env hextras
  refine Heads.of_confined hw (hcall.calls.test henv' hextra' condition) (attempt_acts ?_)
    fun _ _ _ _ _ _ => trivial
  split
  · refine (testGuard_yields context _ extra env).mono ?_
    rintro _ ⟨result, rfl⟩
    exact nofun
  · exact Yields.fail

end

/-! ## Counting and recording -/

/-- Outside of functions a block records its steps, so the world must not be silent. -/
def Frame.Fits (frame : Frame) (w : World) : Prop :=
  frame.inFunction = false → w.silent = false

theorem Frame.Fits.later {w w' : World} (h : frame.Fits w) (hlater : w.Later w') :
    frame.Fits w' :=
  fun htop => hlater.silent.trans (h htop)

/-- The invariant of a block: its scope is live, and outside of functions the last step shows it. -/
structure Frame.Tracks (frame : Frame) (env : Env) (w : World) : Prop where
  live : w.LiveEnv env
  fits : frame.Fits w
  shows : frame.inFunction = false → w.machine.Shows env

/-- How a block ends if it does not fail. -/
def Frame.Leaves (frame : Frame) (progress : Progress) (w : World) : Prop :=
  frame.Tracks progress.env w ∧ LiveReturn progress.returned w

section

variable {frame : Frame} {w w' : World} {env : Env}

/-- A world whose machine differs in its counters and in its history only. -/
theorem Frame.Tracks.counted (h : frame.Tracks env w) (hlater : w.Later w')
    (hmachine : w'.machine =
      { w.machine with tally := w'.machine.tally, history := w'.machine.history }) :
    frame.Tracks env w' := by
  refine ⟨h.live.later hlater, h.fits.later hlater, fun htop => ?_⟩
  rw [hmachine]
  exact h.shows htop

theorem countStatement_safe (hw : w.Fine) (config : Config) (h : frame.Tracks env w) :
    Safe (countStatement config) w (fun _ w' => frame.Tracks env w') := by
  refine (Safe.countStatement hw config).imp ?_
  exact fun _ w' _ hlater hmachine => h.counted hlater hmachine

theorem countIteration_safe (hw : w.Fine) (h : frame.Tracks env w) :
    Safe countIteration w (fun _ w' => frame.Tracks env w') := by
  refine (Safe.count (g := fun t => { t with iterations := t.iterations + 1 }) hw).imp ?_
  intro _ w' _ hlater hmachine
  refine h.counted hlater ?_
  rw [hmachine]

/-- A recorded action is shown by the last step, unless it happened in a function. -/
theorem Frame.record_safe (hw : w.Fine) (hfits : frame.Fits w) (henv : w.LiveEnv env)
    (haction : ∀ v ∈ action.given, w.Live v) :
    Safe (frame.record line action env) w (fun _ w' => frame.Tracks env w') := by
  unfold Frame.record
  split
  · next hin =>
    refine Upholds.pure hw ⟨henv, hfits, fun htop => ?_⟩
    rw [hin] at htop
    cases htop
  · next htop =>
    refine (Safe.note_pass hw).bind fun _ w₁ hw₁ h₁ _ => ?_
    refine Upholds.get_bind ?_
    split
    · exact Safe.throw_bind hw₁
    · refine Upholds.get_bind ?_
      have hrecording : w₁.silent = false := hfits.later h₁ (Bool.not_eq_true _ ▸ htop)
      refine (Safe.addStep hw₁ hrecording (henv.later h₁).knows fun v hv =>
        (h₁.holds (haction v hv)).knows).imp ?_
      exact fun _ w' _ hlater hshows => ⟨(henv.later h₁).later hlater,
        (hfits.later h₁).later hlater, fun _ => hshows⟩

/-- What a statement did is shown by the last step, provided that one without an action has done
nothing. -/
theorem Frame.commit_safe (hw : w.Fine) (hfits : frame.Fits w) (heffect : effect.Fits R w)
    (hsilent : effect.action = none → frame.Tracks effect.env w) :
    Safe (frame.commit line effect) w (fun _ w' => frame.Tracks effect.env w') := by
  -- In a function an error ends the call.
  have hfailed {w' : World} (cause : EvalError) (hw' : w'.Fine)
      (htracks : frame.Tracks effect.env w') :
      Safe (if frame.inFunction = true then Run.fail cause else pure ()) w'
        (fun _ w' => frame.Tracks effect.env w') := by
    split
    · exact Safe.fail hw'
    · exact Upholds.pure hw' htracks
  unfold Frame.commit
  dsimp only
  split
  · next action haction =>
    refine (Frame.record_safe hw hfits heffect.env (heffect.action action haction)).bind ?_
    intro _ w' hw' _ htracks
    split
    · exact Upholds.pure hw' htracks
    · exact hfailed _ hw' htracks
  · next haction =>
    split
    · exact Upholds.pure hw (hsilent haction)
    · exact hfailed _ hw (hsilent haction)

theorem Frame.commit_header_safe (hw : w.Fine) (hfits : frame.Fits w) (heffect : Heads R effect w) :
    Safe (frame.commit line effect) w (fun _ w' => frame.Tracks effect.env w') :=
  Frame.commit_safe hw hfits heffect.1 fun h => absurd h heffect.2

theorem Frame.refuse_safe (hw : w.Fine) (htracks : frame.Tracks env w) (cause : EvalError) :
    Safe (frame.refuse line cause env) w (fun _ w' => frame.Tracks env w') :=
  Frame.commit_header_safe (R := fun _ _ => True) hw htracks.fits
    (Heads.failed htracks.live cause World.Later.rfl)

/-! ## Loops -/

/-- Executing a block is safe. -/
def Frame.BlockSafe (frame : Frame) (block : Env → Run Progress) : Prop :=
  ∀ w env, w.Fine → frame.Tracks env w → Safe (block env) w frame.Leaves

theorem Frame.visit_safe (line : Source.Line) (target : String) (hblock : frame.BlockSafe block)
    (hw : w.Fine) (htracks : frame.Tracks env w) (helement : w.Live element) (index total : Nat) :
    Safe (frame.visit line target total block index element env) w frame.Leaves := by
  refine (countIteration_safe hw htracks).bind fun _ w₁ hw₁ h₁ htracks₁ => ?_
  have helement₁ := h₁.holds helement
  refine (Frame.record_safe hw₁ htracks₁.fits (htracks₁.live.insert helement₁) ?_).bind ?_
  · simp only [Action.given, List.forall_mem_cons]
    exact ⟨helement₁, List.forall_mem_nil _⟩
  · exact fun _ w₂ hw₂ _ htracks₂ => hblock w₂ _ hw₂ htracks₂

theorem forEach_safe (hvisit : ∀ w env index element, w.Fine → frame.Tracks env w → w.Live element →
      Safe (visit index element env) w frame.Leaves) (elements : List Value) :
    ∀ w env index, w.Fine → frame.Tracks env w → (∀ v ∈ elements, w.Live v) →
      Safe (forEach visit index elements env) w frame.Leaves := by
  induction elements with
  | nil =>
    intro w env index hw htracks _
    exact Upholds.pure hw ⟨htracks, nofun⟩
  | cons element rest ih =>
    intro w env index hw htracks hlive
    refine (hvisit w env index element hw htracks (hlive _ (by simp))).bind ?_
    intro progress w₁ hw₁ h₁ hleaves
    split
    · exact Upholds.pure hw₁ hleaves
    · exact ih w₁ progress.env (index + 1) hw₁ hleaves.1
        fun v hv => h₁.holds (hlive v (by simp [hv]))

theorem Frame.rounds_safe (hblock : frame.BlockSafe block) (hw : w.Fine) (htracks : frame.Tracks env w)
     (hrest : ∀ v ∈ rest, w.Live v) (total index : Nat) :
    Safe (frame.rounds line target total block index rest env) w frame.Leaves := by
  have hvisit (w : World) (env : Env) (index : Nat) (element : Value) (hw : w.Fine)
      (htracks : frame.Tracks env w) (helement : w.Live element) :=
    Frame.visit_safe line target hblock hw htracks helement index total
  refine (forEach_safe hvisit rest w env index hw htracks hrest).bind ?_
  intro progress w₁ hw₁ _ hleaves
  split
  · exact Upholds.pure hw₁ hleaves
  · refine (Frame.record_safe hw₁ hleaves.1.fits hleaves.1.live (by simp [Action.given])).bind ?_
    intro _ w₂ hw₂ h₂ htracks₂
    exact Upholds.pure hw₂ ⟨htracks₂, fun v hv => h₂.holds (hleaves.2 v hv)⟩

/-- A condition is tested, and what follows is done if it holds. -/
theorem Frame.test_safe (hcall : CallSafe frame.call) (hw : w.Fine) (htracks : frame.Tracks env w)
    (condition : Condition) {extra : List (String × Value)}
    (hextra : ∀ v ∈ extra.map (·.2), w.Live v) {k : Effect Bool → Run Progress}
    (hk : ∀ w' effect, w'.Fine → frame.Tracks effect.env w' → Safe (k effect) w' frame.Leaves) :
    Safe (do
      let effect ← condition.test frame.context extra env
      frame.commit line effect
      match effect.result with
      | .ok true => k effect
      | _ => return .goingOn effect.env) w frame.Leaves := by
  refine (Condition.test_safe hcall hw htracks.live hextra condition).bind ?_
  intro effect w₁ hw₁ h₁ heffect
  refine (Frame.commit_header_safe hw₁ (htracks.fits.later h₁) heffect).bind fun _ w₂ hw₂ _ htracks₂ => ?_
  split
  · exact hk w₂ _ hw₂ htracks₂
  · exact Upholds.pure hw₂ ⟨htracks₂, nofun⟩

theorem iteration_live (w : World) (iteration : Nat) :
    ∀ v ∈ [("iteration", Value.int iteration)].map (·.2), w.Live v := by
  intro v hv
  rw [List.mem_singleton.mp hv]
  exact World.holds_plain rfl

theorem Frame.repeatWhile_safe (hcall : CallSafe frame.call) (hblock : frame.BlockSafe block)
    (condition : Condition) (room : Nat) :
    ∀ w env iteration, w.Fine → frame.Tracks env w →
      Safe (frame.repeatWhile line condition block room iteration env) w frame.Leaves := by
  induction room with
  | zero =>
    intro w env iteration hw htracks
    rw [Frame.repeatWhile]
    refine Frame.test_safe hcall hw htracks condition (iteration_live w iteration) ?_
    intro w₁ effect hw₁ htracks₁
    refine (Frame.refuse_safe hw₁ htracks₁ _).bind fun _ w₂ hw₂ _ htracks₂ => ?_
    exact Upholds.pure hw₂ ⟨htracks₂, by rintro _ ⟨⟩⟩
  | succ room ih =>
    intro w env iteration hw htracks
    rw [Frame.repeatWhile]
    refine Frame.test_safe hcall hw htracks condition (iteration_live w iteration) ?_
    intro w₁ effect hw₁ htracks₁
    refine (countIteration_safe hw₁ htracks₁).bind fun _ w₂ hw₂ _ htracks₂ => ?_
    refine (hblock w₂ effect.env hw₂ htracks₂).bind fun progress w₃ hw₃ _ hleaves => ?_
    cases progress.returned with
    | some _ => exact Upholds.pure hw₃ hleaves
    | none =>
      refine (countStatement_safe hw₃ _ hleaves.1).bind fun _ w₄ hw₄ _ htracks₄ => ?_
      exact ih w₄ progress.env (iteration + 1) hw₄ htracks₄

end

/-! ## Blocks -/

mutual

theorem runBlock_safe (hcall : CallSafe frame.call) :
    ∀ (items : List Item) (w : World) (env : Env), w.Fine → frame.Tracks env w →
      Safe (runBlock frame items env) w frame.Leaves
  | [], w, env, hw, htracks => by
    exact Upholds.pure hw ⟨htracks, nofun⟩
  | item :: rest, w, env, hw, htracks => by
    refine (countStatement_safe hw _ htracks).bind fun _ w₁ hw₁ _ htracks₁ => ?_
    refine (runItem_safe hcall item w₁ env hw₁ htracks₁).bind fun progress w₂ hw₂ _ hleaves => ?_
    split
    · exact Upholds.pure hw₂ hleaves
    · exact runBlock_safe hcall rest w₂ progress.env hw₂ hleaves.1

theorem runItem_safe (hcall : CallSafe frame.call) :
    ∀ (item : Item) (w : World) (env : Env), w.Fine → frame.Tracks env w →
      Safe (runItem frame item env) w frame.Leaves
  | .simple line statement, w, env, hw, htracks => by
    refine (Statement.execute_safe hcall hw htracks.live statement).bind ?_
    intro effect w₁ hw₁ h₁ heffect
    have hsilent : effect.action = none → frame.Tracks effect.env w₁ := by
      intro hnone
      refine ⟨heffect.1.env, htracks.fits.later h₁, fun htop => ?_⟩
      rcases heffect.2 hnone with hin | ⟨hmachine, henv⟩
      · rw [htop] at hin
        cases hin
      · rw [hmachine, henv]
        exact htracks.shows htop
    refine (Frame.commit_safe hw₁ (htracks.fits.later h₁) heffect.1 hsilent).bind ?_
    intro _ w₂ hw₂ h₂ htracks₂
    split
    · next returned hreturned =>
      exact Upholds.pure hw₂ ⟨htracks₂, fun v hv => h₂.holds (heffect.1.result _ hreturned v hv)⟩
    · exact Upholds.pure hw₂ ⟨htracks₂, nofun⟩
  | .loop line header body block, w, env, hw, htracks => by
    refine (startLoop_safe hcall hw htracks.live _ _ _).bind fun effect w₁ hw₁ h₁ heffect => ?_
    refine (Frame.commit_header_safe hw₁ (htracks.fits.later h₁) heffect).bind ?_
    intro _ w₂ hw₂ h₂ htracks₂
    split
    · next elements helements =>
      refine Frame.rounds_safe ?_ hw₂ htracks₂ (h₂.holds_all (heffect.1.result _ helements)) _ _
      exact fun w env hw htracks => runBlock_safe hcall block w env hw htracks
    · exact Upholds.pure hw₂ ⟨htracks₂, nofun⟩
  | .define line definition body block, w, env, hw, htracks => by
    refine (executeDefinition_safe hw htracks.live _ _ _ _).bind fun effect w₁ hw₁ h₁ heffect => ?_
    refine (Frame.commit_header_safe hw₁ (htracks.fits.later h₁) heffect).bind ?_
    intro _ w₂ hw₂ _ htracks₂
    exact Upholds.pure hw₂ ⟨htracks₂, nofun⟩
  | .choose first rest, w, env, hw, htracks => by
    refine (runBranch_safe hcall first w env hw htracks).bind ?_
    rintro ⟨pending, progress⟩ w₁ hw₁ _ hleaves
    dsimp only
    split
    · exact Upholds.pure hw₁ hleaves
    · exact runBranches_safe hcall rest w₁ pending progress.env hw₁ hleaves.1
  | .repeat line condition block, w, env, hw, htracks => by
    refine Frame.repeatWhile_safe hcall ?_ condition _ w env 0 hw htracks
    exact fun w env hw htracks => runBlock_safe hcall block w env hw htracks
  | .skip _, w, env, hw, htracks => by
    exact Upholds.pure hw ⟨htracks, nofun⟩

theorem runBranch_safe (hcall : CallSafe frame.call) :
    ∀ (branch : Branch) (w : World) (env : Env), w.Fine → frame.Tracks env w →
      Safe (runBranch frame branch env) w (fun result w' => frame.Leaves result.2 w')
  | .mk line none block, w, env, hw, htracks => by
    refine (runBlock_safe hcall block w env hw htracks).bind fun progress w₁ hw₁ _ hleaves => ?_
    exact Upholds.pure hw₁ hleaves
  | .mk line (some condition) block, w, env, hw, htracks => by
    refine (Condition.test_safe hcall hw htracks.live (by simp) condition).bind ?_
    intro effect w₁ hw₁ h₁ heffect
    refine (Frame.commit_header_safe hw₁ (htracks.fits.later h₁) heffect).bind fun _ w₂ hw₂ _ htracks₂ => ?_
    split
    · refine (runBlock_safe hcall block w₂ effect.env hw₂ htracks₂).bind ?_
      exact fun progress w₃ hw₃ _ hleaves => Upholds.pure hw₃ hleaves
    · exact Upholds.pure hw₂ ⟨htracks₂, nofun⟩
    · exact Upholds.pure hw₂ ⟨htracks₂, nofun⟩

theorem runBranches_safe (hcall : CallSafe frame.call) :
    ∀ (branches : List Branch) (w : World) (pending : Bool) (env : Env), w.Fine →
      frame.Tracks env w → Safe (runBranches frame branches pending env) w frame.Leaves
  | [], w, pending, env, hw, htracks => by
    exact Upholds.pure hw ⟨htracks, nofun⟩
  | branch :: rest, w, pending, env, hw, htracks => by
    refine (countStatement_safe hw _ htracks).bind fun _ w₁ hw₁ _ htracks₁ => ?_
    have hrest {w' : World} {pending : Bool} {progress : Progress} (hw' : w'.Fine)
        (hleaves : frame.Leaves progress w') :
        Safe (match progress.returned with
          | some _ => pure progress
          | none => runBranches frame rest pending progress.env) w' frame.Leaves := by
      split
      · exact Upholds.pure hw' hleaves
      · exact runBranches_safe hcall rest w' pending progress.env hw' hleaves.1
    split
    · refine (runBranch_safe hcall branch w₁ env hw₁ htracks₁).bind ?_
      exact fun result w₂ hw₂ _ hleaves => hrest hw₂ hleaves
    · have hleaves : frame.Leaves (.goingOn env) w₁ := ⟨htracks₁, nofun⟩
      exact hrest hw₁ hleaves

end

end Walkthrough
