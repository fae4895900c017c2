import Walkthrough.Proofs.Sequence
import Walkthrough.Proofs.Unrolling

/-!
# Where all conditions hold

In the plain way the lines below an `if` line are run like any others; in the structured way it
governs them.  As long as every such line that a run comes to holds, this makes no difference.

What a run comes to is said by a run of its own: `insistBlock` goes through a program in the plain way
and stops at the first `if` line that does not hold.

* `Unfolds`: a tree of the plain way beside one of the structured way, or beside itself.
* `Unfolds.insists`: so it is with the insisting run of a tree and the run of what it unfolds.
* `plain_eq_structured_of_holds`: what follows for traces.
-/

namespace Walkthrough

open Source

variable {line : Line} {stop : Failure} {header : Guard} {block block' : List Item}

/-! ## Runs that insist -/

/-- An `if` line that governs the lines below it, if anything does. -/
def Source.Line.governs (line : Line) : Bool :=
  match HeaderKind.ofCode true line.code with
  | .choose => true
  | _ => false

def Statement.isGuard : Statement → Bool
  | .guard _ => true
  | _ => false

/-- An `if` was found to hold. -/
def Effect.holds {α : Type} (effect : Effect α) : Bool :=
  match effect.action with
  | some (.condition .ifWord _ result _) => result
  | _ => false

/-- Goes on if something holds. -/
def insist (stop : Failure) (holds : Bool) : Run Unit :=
  if holds then pure () else throw stop

mutual

/-- Executes the items of a block in the plain way, up to the first `if` line that does not hold. -/
def insistBlock (stop : Failure) (frame : Frame) : List Item → Env → Run Progress
  | [], env => return .goingOn env
  | item :: rest, env => do
    countStatement frame.config
    let progress ← insistItem stop frame item env
    progress.andThen fun env => insistBlock stop frame rest env

def insistItem (stop : Failure) (frame : Frame) : Item → Env → Run Progress
  | .simple line statement, env => do
    insist stop (!line.governs || statement.isGuard)
    let effect ← statement.execute frame.context frame.inFunction env
    insist stop (!line.governs || effect.holds)
    frame.commit line effect
    match effect.result with
    | .ok returned => return ⟨effect.env, returned⟩
    | .error _ => return .goingOn effect.env
  | .loop line header body block, env => do
    let effect ← startLoop frame.context line.code (some header) body env
    frame.commit line effect
    match effect.result with
    | .ok elements =>
      frame.loop line header.target elements (fun env => insistBlock stop frame block env) effect.env
    | .error _ => return .goingOn effect.env
  | .define line definition body block, env => do
    let effect ← executeDefinition line.code (some definition) body block env
    frame.commit line effect
    return .goingOn effect.env
  -- The plain way has no other items.
  | _, env => return .goingOn env

end

/-- Calls a function that insists as well. -/
def insistCall (stop : Failure) (config : Config) : Nat → Nat → Nat → List Value → Run Value
  | room, depth, ref, arguments => do
    let function := (← Run.store).function ref
    Run.note config (.called depth ref arguments)
    if depth ≥ config.maxCallDepth then
      Run.fail (.callDepth config.maxCallDepth function.name)
    match room with
    | 0 => throw .tooDeep
    | room + 1 =>
      let scope ← startingScope ref function arguments
      countCall
      let frame : Frame :=
        { config, inFunction := true, call := insistCall stop config room (depth + 1) }
      let progress ← tryCatch (insistBlock stop frame function.block scope) fun failure =>
        throw (failureInside function.name failure)
      Run.note config .passed
      return progress.returned.getD .none

/-- The frame of a whole program that insists. -/
def Frame.insisting (stop : Failure) (config : Config) : Frame where
  config
  inFunction := false
  call := insistCall stop config callLimit 0

/-- Runs a whole program in the plain way, up to the first `if` line that does not hold, in whatever
function it is. -/
def insistSource (stop : Failure) (config : Config) (source : String) : Run Progress :=
  insistBlock stop (Frame.insisting stop config)
    (Item.ofLines false (expandInline (Line.all source))) .empty

theorem insistBlock_append (stop : Failure) (frame : Frame) (items later : List Item) (env : Env) :
    insistBlock stop frame (items ++ later) env =
      insistBlock stop frame items env >>= fun progress =>
        progress.andThen (insistBlock stop frame later) := by
  induction items generalizing env with
  | nil => rw [List.nil_append, insistBlock, pure_bind]; rfl
  | cons item items ih =>
    rw [List.cons_append, insistBlock, insistBlock, bind_assoc]
    refine bind_congr fun _ => ?_
    rw [bind_assoc]
    refine bind_congr fun progress => ?_
    rw [Progress.andThen_bind, funext ih]

/-! ## One tree beside the other -/

/-- The tree of some lines in the plain way, and the tree of the same lines in either way.  In the
structured way the items below an `if` line are its block. -/
inductive Unfolds (structured : Bool) : List Item → List Item → Prop where
  | nil : Unfolds structured [] []
  | simple (line : Line) (statement : Statement) {rest rest' : List Item} :
      (structured = true → line.governs = false) → Unfolds structured rest rest' →
      Unfolds structured (.simple line statement :: rest) (.simple line statement :: rest')
  | loop (line : Line) (header : Loop) (body : List Line) {block block' rest rest' : List Item} :
      Unfolds structured block block' → Unfolds structured rest rest' →
      Unfolds structured (.loop line header body block :: rest)
        (.loop line header body block' :: rest')
  | define (line : Line) (definition : Definition) (body : List Line)
      {block block' rest rest' : List Item} :
      Unfolds structured block block' → Unfolds structured rest rest' →
      Unfolds structured (.define line definition body block :: rest)
        (.define line definition body block' :: rest')
  | choose (line : Line) {block block' rest rest' : List Item} : line.governs = true →
      Unfolds structured block block' → Unfolds structured rest rest' →
      Unfolds structured (.simple line (Statement.ofCode line.code) :: (block ++ rest))
        (.choose (.mk line (some (Condition.ofText line.code)) block') [] :: rest')

/-- Lines on which nothing goes on from another and no chain of alternatives does. -/
structure Source.Line.IsEven (line : Line) : Prop where
  balance : balance line.code ≤ 0
  word : headWord line.code ∉ ["elif", "else", "while"]

theorem Source.Line.IsEven.cut {first : Line} (h : first.IsEven) (following : List Line) :
    Paragraph.cut first following =
      ⟨first, following, following.take (bodyLength first.indent following)⟩ := by
  rw [Paragraph.cut, Line.join, if_pos h.balance]
  rfl

theorem Source.Line.IsEven.isAlternative (h : line.IsEven) :
    isAlternative line.code = false := by
  have hword := h.word
  simp only [List.mem_cons, not_or] at hword
  simp [Walkthrough.isAlternative, hword]

/-- What a line introduces in the plain way, and what in either way. -/
theorem Source.Line.IsEven.kinds (h : line.IsEven) (structured : Bool) :
    (HeaderKind.ofCode false line.code = HeaderKind.ofCode structured line.code ∧
      (structured = true → line.governs = false)) ∨
    structured = true ∧ line.governs = true ∧ HeaderKind.ofCode true line.code = .choose ∧
      HeaderKind.ofCode false line.code = .none := by
  have hwhile : headWord line.code ≠ "while" := fun heq => h.word (by simp [heq])
  cases structured with
  | false => exact .inl ⟨rfl, nofun⟩
  | true =>
    unfold Line.governs HeaderKind.ofCode
    split
    · exact .inl ⟨rfl, fun _ => rfl⟩
    · split
      · exact .inl ⟨rfl, fun _ => rfl⟩
      · exact .inl ⟨rfl, fun _ => rfl⟩
      · by_cases hif : headWord line.code = "if"
        · exact .inr (by simp [hif])
        · exact .inl (by simp [hif, hwhile, h.isAlternative])

theorem HeaderKind.plain_cases (code : String) :
    (∃ header, HeaderKind.ofCode false code = .loop header) ∨
    (∃ definition, HeaderKind.ofCode false code = .define definition) ∨
    HeaderKind.ofCode false code = .none := by
  unfold HeaderKind.ofCode
  split
  · exact .inr (.inr rfl)
  · split
    · exact .inl ⟨_, rfl⟩
    · exact .inr (.inl ⟨_, rfl⟩)
    · exact .inr (.inr rfl)

/-- The body of a header is deeper than the header, and what follows it is not. -/
theorem bodyLength_spec (indent : Nat) (lines : List Line) :
    (∀ line ∈ lines.take (bodyLength indent lines), line.isSilent = false → indent < line.indent) ∧
      Dedents indent (lines.drop (bodyLength indent lines)) := by
  have hcons {line : Line} (rest : List Line) (hline : line.isSilent = true)
      (h : Dedents indent rest) : Dedents indent (line :: rest) := by
    unfold Dedents
    rwa [List.dropWhile_cons_of_pos hline]
  induction lines with
  | nil => exact ⟨by simp, by simp [Dedents]⟩
  | cons line rest ih =>
    obtain ⟨hdeeper, hdedents⟩ := ih
    rw [bodyLength]
    generalize bodyLength indent rest = count at hdeeper hdedents ⊢
    by_cases hsilent : line.isSilent = true
    · rw [if_pos hsilent]
      cases count with
      | zero => exact ⟨by simp, hcons _ hsilent hdedents⟩
      | succ count =>
        refine ⟨?_, hdedents⟩
        rw [List.take_succ_cons, List.forall_mem_cons]
        exact ⟨fun h => absurd hsilent (by simp [h]), hdeeper⟩
    · rw [if_neg hsilent]
      by_cases hindent : line.indent ≤ indent
      · rw [if_pos hindent]
        refine ⟨by simp, ?_⟩
        unfold Dedents
        rw [List.drop_zero, List.dropWhile_cons_of_neg hsilent]
        rintro _ ⟨⟩
        exact hindent
      · rw [if_neg hindent, List.take_succ_cons, List.forall_mem_cons]
        exact ⟨⟨fun _ => Nat.lt_of_not_le hindent, hdeeper⟩, hdedents⟩

/-- Lines without open brackets are closed. -/
theorem closed_of_isEven {lines : List Line} (h : ∀ line ∈ lines, line.IsEven) :
    Closed false none lines := by
  induction hlength : lines.length using Nat.strong_induction_on generalizing lines with
  | _ length ih =>
    subst hlength
    cases lines with
    | nil => exact .nil
    | cons first following =>
      obtain ⟨hfirst, hfollowing⟩ := List.forall_mem_cons.mp h
      cases hsilent : first.isSilent with
      | true => exact .silent hsilent (ih _ (Nat.lt_succ_self _) hfollowing rfl)
      | false =>
        refine .statement hsilent nofun (.inl hfirst.balance) rfl ?_
        have hchain := @HeaderKind.structured_of_chain false
          (Paragraph.cut first following).line.code _ rfl first.indent
        have hnext := HeaderKind.next_sublist
          (HeaderKind.ofCode false (Paragraph.cut first following).line.code) first following
        generalize HeaderKind.ofCode false (Paragraph.cut first following).line.code = kind
          at hchain hnext ⊢
        have hnone : kind.chain first.indent = none := by
          cases hopen : kind.chain first.indent with
          | none => rfl
          | some indent => cases hchain (by rw [hopen]; rfl)
        rw [hnone]
        exact ih _ (Nat.lt_succ_of_le hnext.length_le)
          (fun line hline => hfollowing line (hnext.subset hline)) rfl

/-- A tree of the plain way unfolds. -/
theorem unfolds_ofLines (structured : Bool) (h : ∀ line ∈ lines, line.IsEven) :
    Unfolds structured (Item.ofLines false lines) (Item.ofLines structured lines) := by
  induction hlength : lines.length using Nat.strong_induction_on generalizing lines with
  | _ length ih =>
    subst hlength
    have hempty (structured : Bool) : Item.ofLines structured [] = [] := by
      rw [Item.ofLines_eq_map, shapes, List.map_nil]
    cases lines with
    | nil =>
      rw [hempty, hempty]
      exact .nil
    | cons first following =>
      obtain ⟨hfirst, hfollowing⟩ := List.forall_mem_cons.mp h
      have hless {lines : List Line} (hlines : lines.Sublist following) :
          Unfolds structured (Item.ofLines false lines) (Item.ofLines structured lines) :=
        ih _ (Nat.lt_succ_of_le hlines.length_le)
          (fun line hline => hfollowing line (hlines.subset hline)) rfl
      cases hsilent : first.isSilent with
      | true =>
        have hgap : ∀ line ∈ [first], line.isSilent := by simp [hsilent]
        have hskip (structured : Bool) : Item.ofLines structured (first :: following) =
            Item.ofLines structured following := Item.ofLines_silent structured hgap
        rw [hskip, hskip]
        exact hless (List.Sublist.refl _)
      | false =>
        rw [Item.ofLines_cons false hsilent, Item.ofLines_cons structured hsilent, hfirst.cut]
        obtain ⟨hdeeper, hdedents⟩ := bodyLength_spec first.indent following
        have hsplit := List.take_append_drop (bodyLength first.indent following) following
        have hbody := hless (List.take_sublist (bodyLength first.indent following) following)
        have hrest := hless (List.drop_sublist (bodyLength first.indent following) following)
        have hp : (Paragraph.mk first following
            (following.take (bodyLength first.indent following))).rest =
              following.drop (bodyLength first.indent following) := by
          rw [Paragraph.rest, List.length_take_of_le (bodyLength_le _ _)]
        generalize following.take (bodyLength first.indent following) = body at *
        generalize following.drop (bodyLength first.indent following) = rest at *
        rw [Paragraph.shape, Paragraph.shape]
        rcases hfirst.kinds structured with ⟨hsame, hgoverns⟩ | ⟨rfl, hgoverns, hchoose, hnone⟩
        · dsimp only
          rw [← hsame]
          rcases HeaderKind.plain_cases first.code with ⟨header, hkind⟩ | ⟨definition, hkind⟩ | hkind
          · rw [hkind]
            dsimp only
            rw [hp]
            exact .loop first header body hbody hrest
          · rw [hkind]
            dsimp only
            rw [hp]
            exact .define first definition body hbody hrest
          · rw [hkind]
            exact .simple first _ hgoverns (hless (List.Sublist.refl _))
        · dsimp only
          rw [hchoose, hnone]
          dsimp only
          have hends : EndsChain first.indent rest := fun line hline _ =>
            (hfollowing line (hsplit ▸ List.mem_append_right _
              ((List.dropWhile_sublist _).subset (List.mem_of_mem_head? hline)))).isAlternative
          have hapart : Apart false body rest :=
            ⟨fun line hline hcode deeper hdeep =>
              (hdedents deeper hdeep).trans (hdeeper line hline hcode).le, by simp⟩
          have hclosed : Closed false none body :=
            closed_of_isEven fun line hline => hfollowing line (hsplit ▸ List.mem_append_left _ hline)
          have helse : headWord first.code ≠ "else" := fun heq => hfirst.word (by simp [heq])
          have hfollows := hclosed.ofLines_append hapart
          rw [hsplit] at hfollows
          rw [hp, hends.alternatives, hfollows]
          dsimp only [Shape.item]
          rw [Paragraph.branch, if_neg (by simpa using helse)]
          exact .choose first hgoverns hbody hrest

/-! ## Insisting -/

/-- The blocks of functions unfold. -/
def Terms.unfolding (structured : Bool) : Terms := ⟨Unfolds structured, False, .nil⟩

/-- The first of two runs insists. -/
def Watch.insisting {stop : Failure} (hstop : ¬ stop.IsError) (config : Config)
    (structured : Bool) : Watch config :=
  ⟨.idle config, .unfolding structured, id, (· = stop), fun h => h ▸ hstop⟩

def Judgement.insists {stop : Failure} (hstop : ¬ stop.IsError) (config : Config)
    (structured : Bool) : Judgement config { config with structured } :=
  .beside (.insisting hstop config structured) rfl config.iterations_refl config.callDepth_refl

/-- The rules for runs of which the first insists. -/
structure Judgement.Insisting {config config' : Config} (J : Judgement config config')
    (stop : Failure) (structured : Bool) : Prop where
  insist {α β : Type} {ρ : Renaming} {x : Run α} {y : Run β} {P : Renaming → α → β → Prop}
    {holds : Bool} : (holds = true → J.rel ρ x y P) →
    J.rel ρ (insist stop holds >>= fun _ => x) y P
  yields {α β : Type} {ρ : Renaming} {x : Run α} {y : Run β} {P : Renaming → α → β → Prop}
    {p : α → Prop} : J.rel ρ x y P → Yields x p → J.rel ρ x y fun ρ' a b => P ρ' a b ∧ p a
  blocks {α β : Type} {ρ : Renaming} {x : Run α} {y : Run β} {P : Renaming → α → β → Prop} :
    (ρ.terms.block = Unfolds structured → J.rel ρ x y P) → J.rel ρ x y P

theorem Judgement.insists_insisting (hstop : ¬ stop.IsError) (config : Config) (structured : Bool) :
    (Judgement.insists hstop config structured).Insisting stop structured where
  insist {_ _ _ _ _ _ holds} h hρ := by
    cases holds with
    | true => exact h rfl hρ
    | false => exact fun m n _ => .stopped rfl trivial
  yields {_ _ _ x y _ _} h hp hρ m n hmn := by
    have hends := h hρ m n hmn
    have hyields := hp m
    generalize exec x m = e at hends hyields ⊢
    generalize exec y n = e' at hends ⊢
    cases hends with
    | ok halike hab _ => exact .ok halike ⟨hab, hyields _ _ rfl⟩ trivial
    | error halike _ => exact .error halike trivial
    | stopped hstops _ => exact .stopped hstops trivial
  blocks h hρ := h (by rw [hρ]; rfl) hρ

/-! ## Conditions -/

/-- The statement of a condition is the condition of the line. -/
theorem Statement.ofCode_eq_guard (h : Statement.ofCode code = .guard header) :
    Guard.ofHeader? code = some header := by
  have hform := Statement.ofCode_form code
  rw [h] at hform
  rcases hform with _ | _ | _ | _ | _ | ⟨⟨⟨⟩⟩⟩
  assumption

/-- To execute a condition in the plain way is to test it. -/
theorem Statement.execute_guard (h : Guard.ofHeader? code = some header) (context : Context)
    (inFunction : Bool) (env : Env) :
    (Statement.guard header).execute context inFunction env =
      (Condition.ofText code).test context [] env >>= fun effect => pure effect.goesOn := by
  have hguard : (Condition.ofText code).guard? = some header := h
  funext m
  change exec (attempt env _) m = exec (attempt env _ >>= _) m
  rw [exec_bind, exec_attempt, exec_attempt, hguard, Statement.perform, exec_bind]
  dsimp only
  rcases exec (testGuard context header [] env) m with ⟨failure | effect, m'⟩
  · cases failure <;> rfl
  · rfl

theorem Condition.test_yields (context : Context) (extra : List (String × Value)) (env : Env)
    (condition : Condition) :
    Yields (condition.test context extra env) fun effect =>
      effect.goesOn.holds = true → effect.result = .ok true := by
  have htest (header : Guard) : Yields (testGuard context header extra env) fun effect =>
      effect.goesOn.holds = true → effect.result = .ok true := by
    refine Yields.bind fun _ => Yields.bind fun _ => Yields.pure fun hholds => ?_
    unfold Effect.holds at hholds
    split at hholds
    · next haction =>
      simp only [Effect.goesOn, Effect.done, Option.some.injEq, Action.condition.injEq] at haction
      exact congrArg Except.ok (haction.2.2.1.trans hholds)
    · cases hholds
  intro m effect m' heffect hholds
  rcases attempt_yields (by split; exact htest _; exact Yields.fail) m effect m' heffect with
    heffect | ⟨cause, rfl⟩
  · exact heffect hholds
  · cases hholds

theorem Frame.commit_goesOn (frame : Frame) (line : Line) (effect : Effect α) :
    frame.commit line effect.goesOn = frame.commit line effect := by
  unfold Frame.commit Effect.goesOn
  cases effect.result <;> rfl

/-! ## The two runs -/

section

variable {J : Judgement config config'} {frame frame' : Frame} (hJ : J.Insisting stop structured)
  (hframes : J.Frames (fun _ => True) frame frame')

include hJ hframes

theorem insistItem_simple (line : Line) (statement : Statement) :
    J.Blocks
      (insistItem stop frame (.simple line statement)) (runItem frame' (.simple line statement)) := by
  intro ρ env env' henv
  rw [insistItem, runItem, hframes.inFunction]
  refine hJ.insist fun _ => ?_
  refine J.bind
    (hframes.calls.execute henv _ statement) fun ρ₁ a b _ hab => ?_
  refine hJ.insist fun _ => ?_
  refine J.bind (hframes.commit trivial hab) ?_
  intro ρ₂ _ _ h₂ _
  have henv₂ := envLike_mono h₂ hab.env
  have hresult := hab.result
  generalize a.result = r at hresult ⊢
  generalize b.result = r' at hresult ⊢
  cases hresult with
  | ok h => exact J.give ⟨henv₂, optionLike_mono h₂ h⟩
  | error _ => exact J.give (.goingOn henv₂)

omit hJ in
theorem insistItem_loop (line : Line) (header : Loop) (body : List Line)
    (hblock : J.Blocks (insistBlock stop frame block) (runBlock frame' block')) :
    J.Blocks
      (insistItem stop frame (.loop line header body block))
      (runItem frame' (.loop line header body block')) := by
  intro ρ env env' henv
  rw [insistItem, runItem]
  refine J.bind
    (hframes.calls.loop henv _ _ body) fun ρ₁ a b _ hab => ?_
  refine J.bind (hframes.commit trivial hab) ?_
  intro ρ₂ _ _ h₂ _
  have henv₂ := envLike_mono h₂ hab.env
  have hresult := hab.result
  generalize a.result = r at hresult ⊢
  generalize b.result = r' at hresult ⊢
  cases hresult with
  | error _ => exact J.give (.goingOn henv₂)
  | ok hvs =>
    dsimp only
    rw [Frame.loop_eq_rounds, Frame.loop_eq_rounds, hvs.length_eq]
    exact hframes.rounds hblock trivial _ _ _ (valuesLike_mono h₂ hvs) henv₂

theorem insistItem_define (line : Line) (definition : Definition) (body : List Line)
    (hblock : Unfolds structured block block') :
    J.Blocks
      (insistItem stop frame (.define line definition body block))
      (runItem frame' (.define line definition body block')) := by
  intro ρ env env' henv
  rw [insistItem, runItem]
  refine hJ.blocks fun hblocks => ?_
  have hblock : ρ.terms.block block block' := hblocks ▸ hblock
  refine J.bind
    (J.definition henv _ _ body hblock) fun ρ₁ a b _ hab => ?_
  refine J.bind (hframes.commit trivial hab) ?_
  exact fun ρ₂ _ _ h₂ _ => J.give (.goingOn (envLike_mono h₂ hab.env))

/-- An `if` line that holds and the lines below it, beside the same as one item. -/
theorem insistItem_choose (hgoverns : line.governs = true)
    (hblock : J.Blocks (insistBlock stop frame block) (runBlock frame' block')) :
    J.Blocks
      (fun env => insistItem stop frame (.simple line (Statement.ofCode line.code)) env >>=
        fun progress => progress.andThen (insistBlock stop frame block))
      (runItem frame' (.choose (.mk line (some (Condition.ofText line.code)) block') [])) := by
  intro ρ env env' henv
  beta_reduce
  rw [insistItem, runItem, runBranch]
  simp only [bind_assoc, hgoverns, Bool.not_true, Bool.false_or]
  refine hJ.insist fun hguard => ?_
  obtain ⟨header, hheader⟩ : ∃ header, Statement.ofCode line.code = .guard header := by
    cases hstatement : Statement.ofCode line.code with
    | guard header => exact ⟨header, rfl⟩
    | _ => rw [hstatement] at hguard; cases hguard
  rw [hheader, Statement.execute_guard (Statement.ofCode_eq_guard hheader)]
  simp only [bind_assoc, pure_bind]
  refine J.bind
    (hJ.yields (hframes.calls.test henv .nil _) (Condition.test_yields frame.context [] env _)) ?_
  rintro ρ₁ a b _ ⟨hab, hholds⟩
  refine hJ.insist fun hgoesOn => ?_
  have ha : a.result = .ok true := hholds hgoesOn
  have hb : b.result = .ok true := hab.result.eq.symm.trans ha
  rw [Frame.commit_goesOn]
  refine J.bind (hframes.commit trivial hab) ?_
  intro ρ₂ _ _ h₂ _
  have hleft : a.goesOn.result = .ok none := by rw [Effect.goesOn, ha]; rfl
  rw [hleft, hb]
  dsimp only
  rw [pure_bind, bind_assoc]
  have hrun := hblock ρ₂ a.env b.env (envLike_mono h₂ hab.env)
  change J.rel ρ₂ (insistBlock stop frame block a.env) _ _
  rw [← bind_pure (insistBlock stop frame block a.env)]
  refine J.bind hrun fun ρ₃ p q _ hpq => ?_
  rw [pure_bind]
  have hreturned := hpq.returned
  dsimp only
  generalize hp : p.returned = r at hreturned
  generalize q.returned = r' at hreturned ⊢
  cases hreturned with
  | some _ => exact J.give hpq
  | none =>
    dsimp only
    rw [runBranches]
    exact J.give ⟨hpq.env, by rw [hp]; exact .none⟩

/-- The insisting run of a tree does what the run of the tree does that it unfolds. -/
theorem Unfolds.insists (h : Unfolds structured items items') : J.Blocks (insistBlock stop frame items)
      (runBlock frame' items') := by
  have hcons {item item' : Item} {rest rest' : List Item}
      (hitem : J.Blocks (insistItem stop frame item)
        (runItem frame' item'))
      (hrest : J.Blocks (insistBlock stop frame rest)
        (runBlock frame' rest')) :
      J.Blocks (insistBlock stop frame (item :: rest))
        (runBlock frame' (item' :: rest')) := by
    intro ρ env env' henv
    rw [insistBlock, runBlock]
    refine J.bind hframes.statement fun ρ₁ _ _ h₁ _ => ?_
    refine J.bind
      (hitem ρ₁ env env' (envLike_mono h₁ henv)) ?_
    exact fun ρ₂ a b _ hab => J.after hab (hrest ρ₂ _ _ hab.env)
  induction h with
  | nil =>
    intro ρ env env' henv
    rw [insistBlock, runBlock]
    exact J.give (.goingOn henv)
  | simple line statement _ _ ih => exact hcons (insistItem_simple hJ hframes line statement) ih
  | loop line header body _ _ ihblock ih =>
    exact hcons (insistItem_loop hframes line header body ihblock) ih
  | define line definition body hblock _ _ ih =>
    exact hcons (insistItem_define hJ hframes line definition body hblock) ih
  | @choose line block block' rest rest' hgoverns _ _ ihblock ih =>
    intro ρ env env' henv
    rw [insistBlock, runBlock]
    refine J.bind hframes.statement fun ρ₁ _ _ h₁ _ => ?_
    have hboth := insistItem_choose hJ hframes hgoverns ihblock ρ₁ env env' (envLike_mono h₁ henv)
    have hsplit : (insistItem stop frame (.simple line (Statement.ofCode line.code)) env >>=
          fun progress => progress.andThen fun env => insistBlock stop frame (block ++ rest) env) =
        (insistItem stop frame (.simple line (Statement.ofCode line.code)) env >>=
          fun progress => progress.andThen (insistBlock stop frame block)) >>=
            fun progress => progress.andThen (insistBlock stop frame rest) := by
      rw [bind_assoc]
      refine bind_congr fun progress => ?_
      rw [Progress.andThen_bind, funext (insistBlock_append stop frame block rest)]
    rw [hsplit]
    refine J.bind hboth ?_
    exact fun ρ₂ a b _ hab => J.after hab (ih ρ₂ _ _ hab.env)

end

/-- A call that insists does what the call does of a function whose block is unfolded. -/
theorem Judgement.Insisting.function {config config' : Config} {J : Judgement config config'}
    {structured : Bool} (hJ : J.Insisting stop structured) (room : Nat) :
    ∀ (depth : Nat) {ρ : Renaming} {a b : Nat} {vs ws : List Value}, ρ.function a b →
      ValuesLike ρ vs ws →
      J.rel ρ (insistCall stop config room depth a vs)
        (callFunction config' room depth b ws) Value.Like := by
  induction room using Nat.strongRecOn with | ind room ih => ?_
  intro depth ρ a b vs ws hab hvs
  rw [insistCall.eq_def, callFunction.eq_def]
  refine J.store_bind fun ρ₁ s t h₁ hst => ?_
  have hfg := hst.function (h₁.function hab)
  refine J.bind (J.called depth (h₁.function hab) (valuesLike_mono h₁ hvs)) fun ρ₂ _ _ h₂ _ => ?_
  dsimp only
  rw [J.callDepth, hfg.name]
  split
  · exact J.mirrors (Parallel.throw trivial)
  cases room with
  | zero => exact J.mirrors (Parallel.throw trivial)
  | succ room =>
    refine hJ.blocks fun hblocks => ?_
    have hblock : Unfolds structured (s.function a).block (t.function b).block :=
      hblocks ▸ (hfg.mono h₂).block
    have hscope := J.enter ((h₁.trans h₂).function hab) (hfg.mono h₂)
      (valuesLike_mono (h₁.trans h₂) hvs)
    refine J.bind hscope fun ρ₃ scope scope' h₃ hscope => ?_
    refine J.bind J.call fun ρ₄ _ _ h₄ _ => ?_
    have hframes : J.Frames (fun _ => True)
        { config, inFunction := true, call := insistCall stop config room (depth + 1) }
        { config := config', inFunction := true, call := callFunction config' room (depth + 1) } :=
      ⟨rfl, rfl, rfl, ih room (by simp) (depth + 1), fun _ _ _ => J.give trivial⟩
    have hrun := hblock.insists hJ hframes ρ₄ _ _ (envLike_mono h₄ hscope)
    refine J.bind (J.relabel (t.function b).name hrun) fun ρ₅ a b h₅ hab => ?_
    refine J.bind J.passed fun ρ₆ _ _ h₆ _ => ?_
    exact J.give (getD_like (optionLike_mono h₆ hab.returned) Like.none)

/-! ## Traces -/

/-- A trace whose functions are given by their texts only. -/
def Trace.bare (trace : Trace) : Trace :=
  { trace with
    store.functions := trace.store.functions.map fun function => { function with block := [] } }

/-- What stands in the traces of machines that are alike. -/
theorem Machine.Alike.trace_bare {terms : Terms} {m n : Machine} (h : m.Alike terms n)
    (hstrict : ¬ terms.loose) (source : String) (truncated : Bool) :
    (m.trace source truncated).bare = (n.trace source truncated).bare := by
  have hfunctions : m.store.functions.map (fun function => { function with block := [] }) =
      n.store.functions.map fun function => { function with block := [] } := by
    refine Array.ext (by simpa using h.links.functions.size_eq) fun i hi hi' => ?_
    have hi : i < m.store.functions.size := by simpa using hi
    have hi' : i < n.store.functions.size := by simpa using hi'
    have hlike := h.links.function (Eq.refl i)
    have hf : m.store.function i = m.store.functions[i] := by simp [Store.function, hi]
    have hg : n.store.function i = n.store.functions[i] := by simp [Store.function, hi']
    rw [hf, hg] at hlike
    simp only [Array.getElem_map]
    rw [hlike.name, hlike.parameters, hlike.body, envLike_eq (hlike.closure hstrict)]
  have hstore := h.links.eq_with
  rw [h.rest]
  simp only [Trace.bare, Machine.trace, hfunctions]
  rw [hstore]

theorem insisting_frames (hstop : ¬ stop.IsError) (config : Config) (structured : Bool) :
    (Judgement.insists hstop config structured).Frames (fun _ => True) (Frame.insisting stop config)
      (Frame.top { config with structured }) where
  config := rfl
  config' := rfl
  inFunction := rfl
  call hab hvs :=
    (Judgement.insists_insisting hstop config structured).function callLimit 0 hab hvs
  record := by
    rintro _ line action action' env env' _ haction henv rfl
    have hrecord : (Frame.insisting stop config).record line action env =
        (Frame.top config).record line action env := by
      unfold Frame.record
      rfl
    rw [hrecord]
    refine .record { config with structured } ?_ line haction henv fun _ => trivial
    rfl

/-- If a plain run that insists on its conditions does not stop, what it leaves is the trace of
either way. -/
theorem insistSource_trace (hstop : ¬ stop.IsError) (config : Config) (structured : Bool)
    {source : String} (hlines : ∀ line ∈ expandInline (Line.all source), line.IsEven)
    (hholds : (exec (insistSource stop config source) .start).1 ≠ .error stop) :
    (Trace.ofEnd source (exec (untilSpent (insistSource stop config source)) .start)).map Trace.bare =
      (Trace.ofSource { config with structured } source).map Trace.bare := by
  have hJ := Judgement.insists_insisting hstop config structured
  have hframes := insisting_frames hstop config structured
  have hrun := (unfolds_ofLines structured hlines).insists hJ hframes
    (.same (.unfolding structured)) .empty .empty (envLike_refl .empty) rfl
  have hstart : Machine.start.Alike (.unfolding structured) .start := by
    refine ⟨⟨⟨.identity _, .identity _, ?_, ?_⟩, .identity _, .identity _, ?_⟩, rfl⟩
    · rintro a _ rfl
      exact valuesLike_refl _
    · rintro a _ rfl
      exact dictLike_refl _
    · rintro a _ rfl
      exact ⟨rfl, rfl, rfl, .nil, fun _ => envLike_refl _, fun _ => trivial⟩
  obtain ⟨hresult, halike⟩ := hrun.untilSpent hstart fun failure hfailure => hfailure ▸ hholds
  change _ = (Trace.ofEnd source (exec (untilSpent (runBlock _ _ _)) .start)).map Trace.bare
  rw [insistSource]
  generalize exec (untilSpent (insistBlock _ _ _ _)) .start = e at hresult halike ⊢
  generalize exec (untilSpent (runBlock _ _ _)) .start = e' at hresult halike ⊢
  obtain ⟨r, m⟩ := e
  obtain ⟨r', n⟩ := e'
  obtain rfl : r = r' := hresult
  cases r with
  | ok truncated => exact congrArg Except.ok (halike.trace_bare id source truncated)
  | error failure => cases failure <;> rfl

/-- Conditions that hold, one of them in a function. -/
def holdingProgram : String :=
  "def f(x):\n  if x: return x\nif f(2):\n  y = 5\ny"

end Walkthrough
