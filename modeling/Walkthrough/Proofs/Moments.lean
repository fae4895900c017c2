import Mathlib.Logic.Relation
import Walkthrough.Proofs.Execution

/-!
# The moments of a run

Between two statements a run is at a moment: it has a task, which is a block, a loop or a chain of
alternatives that is still to be executed, and a machine.  `Enters` leads from a moment to the next
one inside the same task, with one rule for every way on that the execution of blocks has.  The
machine of the next moment is what the definitions of the interpreter make of the one before.

`Enters.spec` says about one step that the invariant of blocks is kept, and that the outer task does
nothing but go on after the inner one.  By induction this holds of all moments of a program.
-/

namespace Walkthrough

open Source

variable {condition : Condition} {block : List Item}

/-! ## Tasks -/

/-- Something that is about to be executed in the scope `env`. -/
inductive Task where
  | block (items : List Item) (env : Env)
  | item (item : Item) (env : Env)
  | branch (branch : Branch) (env : Env)
  | branches (branches : List Branch) (pending : Bool) (env : Env)
  /-- A loop over elements of which `rest` are left. -/
  | elements (line : Line) (target : String) (total : Nat) (block : List Item) (index : Nat)
    (rest : List Value) (env : Env)
  /-- A loop whose condition is to be tested. -/
  | repeating (line : Line) (condition : Condition) (block : List Item) (room iteration : Nat)
    (env : Env)
  /-- A loop that has executed its block and is to be counted before the next test. -/
  | again (line : Line) (condition : Condition) (block : List Item) (room iteration : Nat)
    (env : Env)
  /-- An error that no statement made. -/
  | refusal (line : Line) (cause : EvalError) (env : Env)

/-- The live scope. -/
def Task.env : Task → Env
  | .block _ env | .item _ env | .branch _ env | .branches _ _ env => env
  | .elements _ _ _ _ _ _ env | .repeating _ _ _ _ _ env | .again _ _ _ _ _ env => env
  | .refusal _ _ env => env

/-- Values that a task holds besides its scope. -/
def Task.values : Task → List Value
  | .elements _ _ _ _ _ rest _ => rest
  | _ => []

/-- What executing a task gives. -/
abbrev Task.Result : Task → Type
  | .branch .. => Bool × Progress
  | _ => Progress

/-- Executes a task. -/
def Task.run (frame : Frame) : (task : Task) → Run task.Result
  | .block items env => runBlock frame items env
  | .item i env => runItem frame i env
  | .branch b env => runBranch frame b env
  | .branches bs pending env => runBranches frame bs pending env
  | .elements line target total body index rest env =>
    frame.rounds line target total (fun env => runBlock frame body env) index rest env
  | .repeating line condition body room iteration env =>
    frame.repeatWhile line condition (fun env => runBlock frame body env) room iteration env
  | .again line condition body room iteration env => do
    countStatement frame.config
    frame.repeatWhile line condition (fun env => runBlock frame body env) room iteration env
  | .refusal line cause env => do
    frame.refuse line cause env
    return .goingOn env

/-- How a task ends if it does not fail. -/
def Task.Leaves (frame : Frame) : (task : Task) → task.Result → World → Prop
  | .branch .., result, w => frame.Leaves result.2 w
  | .block .., result, w | .item .., result, w | .branches .., result, w
  | .elements .., result, w | .repeating .., result, w | .again .., result, w
  | .refusal .., result, w => frame.Leaves result w

/-- What holds at a moment. -/
structure Task.Good (frame : Frame) (task : Task) (w : World) : Prop where
  fine : w.Fine
  tracks : frame.Tracks task.env w
  values : ∀ v ∈ task.values, w.Live v

/-! ## From one moment to the next -/

/-- The next moment.  A task is left for one that is part of it, or for what remains of it. -/
inductive Enters (frame : Frame) : Task × Machine → Task × Machine → Prop where
  | item {item : Item} {rest : List Item} {env : Env} {m m₁ : Machine} :
      exec (countStatement frame.config) m = (.ok (), m₁) →
      Enters frame (.block (item :: rest) env, m) (.item item env, m₁)
  | rest {item : Item} {rest : List Item} {env : Env} {m m₁ m₂ : Machine} {progress : Progress} :
      exec (countStatement frame.config) m = (.ok (), m₁) →
      exec (runItem frame item env) m₁ = (.ok progress, m₂) → progress.returned = none →
      Enters frame (.block (item :: rest) env, m) (.block rest progress.env, m₂)
  | loop {line : Line} {header : Loop} {body : List Line} {block : List Item} {env : Env}
      {m m₁ m₂ : Machine} {effect : Effect (List Value)} {elements : List Value} :
      exec (startLoop frame.context line.code (some header) body env) m = (.ok effect, m₁) →
      exec (frame.commit line effect) m₁ = (.ok (), m₂) → effect.result = .ok elements →
      Enters frame (.item (.loop line header body block) env, m)
        (.elements line header.target elements.length block 0 elements effect.env, m₂)
  | round {line : Line} {target : String} {total index : Nat} {block : List Item} {env : Env}
      {element : Value} {rest : List Value} {m m₁ m₂ : Machine} :
      exec countIteration m = (.ok (), m₁) →
      exec (frame.record line (.loopIteration target element index total)
        (env.insert target element)) m₁ = (.ok (), m₂) →
      Enters frame (.elements line target total block index (element :: rest) env, m)
        (.block block (env.insert target element), m₂)
  | nextRound {line : Line} {target : String} {total index : Nat} {block : List Item} {env : Env}
      {element : Value} {rest : List Value} {m m₁ : Machine} {progress : Progress} :
      exec (frame.visit line target total (fun env => runBlock frame block env) index element env)
        m = (.ok progress, m₁) →
      progress.returned = none →
      Enters frame (.elements line target total block index (element :: rest) env, m)
        (.elements line target total block (index + 1) rest progress.env, m₁)
  | first {first : Branch} {rest : List Branch} {env : Env} {m : Machine} :
      Enters frame (.item (.choose first rest) env, m) (.branch first env, m)
  | later {first : Branch} {rest : List Branch} {env : Env} {m m₁ : Machine} {pending : Bool}
      {progress : Progress} :
      exec (runBranch frame first env) m = (.ok (pending, progress), m₁) →
      progress.returned = none →
      Enters frame (.item (.choose first rest) env, m) (.branches rest pending progress.env, m₁)
  | lastResort {line : Line} {block : List Item} {env : Env} {m : Machine} :
      Enters frame (.branch (.mk line none block) env, m) (.block block env, m)
  | taken {line : Line} {condition : Condition} {block : List Item} {env : Env}
      {m m₁ m₂ : Machine} {effect : Effect Bool} :
      exec (condition.test frame.context [] env) m = (.ok effect, m₁) →
      exec (frame.commit line effect) m₁ = (.ok (), m₂) → effect.result = .ok true →
      Enters frame (.branch (.mk line (some condition) block) env, m) (.block block effect.env, m₂)
  | tried {branch : Branch} {rest : List Branch} {env : Env} {m m₁ : Machine} :
      exec (countStatement frame.config) m = (.ok (), m₁) →
      Enters frame (.branches (branch :: rest) true env, m) (.branch branch env, m₁)
  | nextBranch {branch : Branch} {rest : List Branch} {env : Env} {m m₁ m₂ : Machine}
      {pending : Bool} {progress : Progress} :
      exec (countStatement frame.config) m = (.ok (), m₁) →
      exec (runBranch frame branch env) m₁ = (.ok (pending, progress), m₂) →
      progress.returned = none →
      Enters frame (.branches (branch :: rest) true env, m)
        (.branches rest pending progress.env, m₂)
  | passedBranch {branch : Branch} {rest : List Branch} {env : Env} {m m₁ : Machine} :
      exec (countStatement frame.config) m = (.ok (), m₁) →
      Enters frame (.branches (branch :: rest) false env, m) (.branches rest false env, m₁)
  | while {line : Line} {condition : Condition} {block : List Item} {env : Env} {m : Machine} :
      Enters frame (.item (.repeat line condition block) env, m)
        (.repeating line condition block frame.config.maxIterations.toNat 0 env, m)
  | repeated {line : Line} {condition : Condition} {block : List Item} {room iteration : Nat}
      {env : Env} {m m₁ m₂ m₃ : Machine} {effect : Effect Bool} :
      exec (condition.test frame.context [("iteration", .int iteration)] env) m =
        (.ok effect, m₁) →
      exec (frame.commit line effect) m₁ = (.ok (), m₂) → effect.result = .ok true →
      exec countIteration m₂ = (.ok (), m₃) →
      Enters frame (.repeating line condition block (room + 1) iteration env, m)
        (.block block effect.env, m₃)
  | bodyDone {line : Line} {condition : Condition} {block : List Item} {room iteration : Nat}
      {env : Env} {m m₁ m₂ m₃ m₄ : Machine} {effect : Effect Bool} {progress : Progress} :
      exec (condition.test frame.context [("iteration", .int iteration)] env) m =
        (.ok effect, m₁) →
      exec (frame.commit line effect) m₁ = (.ok (), m₂) → effect.result = .ok true →
      exec countIteration m₂ = (.ok (), m₃) →
      exec (runBlock frame block effect.env) m₃ = (.ok progress, m₄) → progress.returned = none →
      Enters frame (.repeating line condition block (room + 1) iteration env, m)
        (.again line condition block room (iteration + 1) progress.env, m₄)
  | testedAgain {line : Line} {condition : Condition} {block : List Item} {room iteration : Nat}
      {env : Env} {m m₁ : Machine} :
      exec (countStatement frame.config) m = (.ok (), m₁) →
      Enters frame (.again line condition block room iteration env, m)
        (.repeating line condition block room iteration env, m₁)
  | limit {line : Line} {condition : Condition} {block : List Item} {iteration : Nat} {env : Env}
      {m m₁ m₂ : Machine} {effect : Effect Bool} :
      exec (condition.test frame.context [("iteration", .int iteration)] env) m =
        (.ok effect, m₁) →
      exec (frame.commit line effect) m₁ = (.ok (), m₂) → effect.result = .ok true →
      Enters frame (.repeating line condition block 0 iteration env, m)
        (.refusal line (.loopLimit frame.config.maxIterations) effect.env, m₂)

/-- The program that a text is. -/
def programOf (config : Config) (source : String) : List Item :=
  Item.ofLines config.structured (expandInline (Line.all source))

/-- A moment in the run of a program that is recorded. -/
def Moment (config : Config) (program : List Item) (task : Task) (m : Machine) : Prop :=
  Relation.ReflTransGen (Enters (Frame.top config)) (.block program .empty, .start) (task, m)

/-! ## Executing a task -/

theorem blockSafe_runBlock {frame : Frame} (hcall : CallSafe frame.call) (items : List Item) :
    frame.BlockSafe fun env => runBlock frame items env :=
  fun w env hw htracks => runBlock_safe hcall items w env hw htracks

theorem Task.run_safe {frame : Frame} (hcall : CallSafe frame.call) {task : Task} {w : World}
    (h : task.Good frame w) : Safe (task.run frame) w (task.Leaves frame) := by
  obtain ⟨hw, htracks, hvalues⟩ := h
  cases task with
  | block items env => exact runBlock_safe hcall items w env hw htracks
  | item i env => exact runItem_safe hcall i w env hw htracks
  | branch b env => exact runBranch_safe hcall b w env hw htracks
  | branches bs pending env => exact runBranches_safe hcall bs w pending env hw htracks
  | elements line target total body index rest env =>
    exact Frame.rounds_safe (blockSafe_runBlock hcall body) hw htracks hvalues total index
  | repeating line condition body room iteration env =>
    exact Frame.repeatWhile_safe hcall (blockSafe_runBlock hcall body) condition room w env
      iteration hw htracks
  | again line condition body room iteration env =>
    refine (countStatement_safe hw _ htracks).bind fun _ w₁ hw₁ _ htracks₁ => ?_
    exact Frame.repeatWhile_safe hcall (blockSafe_runBlock hcall body) condition room w₁ env
      iteration hw₁ htracks₁
  | refusal line cause env =>
    refine (Frame.refuse_safe hw htracks cause).bind fun _ w₁ hw₁ _ htracks₁ => ?_
    exact Upholds.pure hw₁ ⟨htracks₁, by rintro _ ⟨⟩⟩

/-- What the judgement says of a computation that succeeded. -/
theorem Upholds.of_ok (hx : Upholds settles x w P) (hexec : exec x w.machine = (.ok a, m)) :
    ∃ w', w'.machine = m ∧ w'.Fine ∧ w.Later w' ∧ P a w' := by
  obtain ⟨owner, hlater, hsound, hend⟩ := hx
  rw [hexec] at hlater hsound hend
  exact ⟨⟨owner, m, w.silent⟩, rfl, ⟨hsound, hend.1⟩, hlater, hend.2⟩

/-- The task `t` comes to `t'`: in a later world the invariant holds of `t'`, and what `t` has to do
is `t'` and then something that is safe. -/
structure Task.LeadsTo (frame : Frame) (t : Task) (w : World) (t' : Task) (w' : World) : Prop where
  later : w.Later w'
  good : t'.Good frame w'
  resumes : ∃ k : t'.Result → Run t.Result,
    exec (t.run frame) w.machine = exec (t'.run frame >>= k) w'.machine ∧
    ∀ result w'', w''.Fine → w'.Later w'' → t'.Leaves frame result w'' →
      Safe (k result) w'' (t.Leaves frame)

section

variable {frame : Frame} {w : World}

/-- The task `t` comes to `t'` and gives what it gives, or what is made of that. -/
theorem Task.LeadsTo.of_map (k : t'.Result → t.Result) (hlater : w.Later w') (hgood : t'.Good frame w')
    (hexec : exec (t.run frame) w.machine = exec (k <$> t'.run frame) w'.machine)
    (hk : ∀ result w'', t'.Leaves frame result w'' → t.Leaves frame (k result) w'') :
    Task.LeadsTo frame t w t' w' :=
  ⟨hlater, hgood, fun result => pure (k result), hexec.trans (by rw [map_eq_pure_bind]),
    fun result w'' hw'' _ hleaves => Upholds.pure hw'' (hk result w'' hleaves)⟩

/-- What follows a part of a block is done unless the part returned. -/
def Progress.andThen (progress : Progress) (rest : Env → Run Progress) : Run Progress :=
  match progress.returned with
  | some _ => pure progress
  | none => rest progress.env

theorem Progress.andThen_safe (hw : w.Fine) (hleaves : frame.Leaves progress w)
    (hrest : frame.Tracks progress.env w → Safe (rest progress.env) w frame.Leaves) :
    Safe (progress.andThen rest) w frame.Leaves := by
  unfold Progress.andThen
  split
  · exact Upholds.pure hw hleaves
  · exact hrest hleaves.1

/-- The two steps that test a condition. -/
theorem tested_spec (hcall : CallSafe frame.call) (hw : w.Fine) (htracks : frame.Tracks env w)
    (hextra : ∀ v ∈ extra.map (·.2), w.Live v)
    (htest : exec (condition.test frame.context extra env) w.machine = (.ok effect, m₁))
    (hcommit : exec (frame.commit line effect) m₁ = (.ok (), m₂)) :
    ∃ w₂ : World, w₂.machine = m₂ ∧ w₂.Fine ∧ w.Later w₂ ∧ frame.Tracks effect.env w₂ := by
  obtain ⟨w₁, rfl, hw₁, h₁, heffect⟩ :=
    (Condition.test_safe hcall hw htracks.live hextra condition).of_ok htest
  obtain ⟨w₂, hm₂, hw₂, h₂, htracks₂⟩ :=
    (Frame.commit_header_safe hw₁ (htracks.fits.later h₁) heffect).of_ok hcommit
  exact ⟨w₂, hm₂, hw₂, h₁.trans h₂, htracks₂⟩

/-- An item of a block is executed after it has been counted, and then the rest of the block. -/
theorem Enters.block_leadsTo (hcall : CallSafe frame.call)
    (h : Enters frame (.block items env, w.machine) (t', m'))
    (hgood : (Task.block items env).Good frame w) :
    ∃ w', w'.machine = m' ∧ Task.LeadsTo frame (.block items env) w t' w' := by
  cases h with
  | @item item rest _ _ _ hcount =>
    obtain ⟨w₁, rfl, hw₁, h₁, htracks₁⟩ :=
      (countStatement_safe hgood.fine frame.config hgood.tracks).of_ok hcount
    refine ⟨w₁, rfl, h₁, ⟨hw₁, htracks₁, nofun⟩, (·.andThen (runBlock frame rest)), ?_,
      fun progress w₂ hw₂ _ hleaves => Progress.andThen_safe hw₂ hleaves
        (runBlock_safe hcall rest w₂ progress.env hw₂)⟩
    rw [Task.run, runBlock, exec_bind_ok hcount]
    rfl
  | @rest item rest _ _ _ _ progress hcount hitem hreturned =>
    obtain ⟨w₁, rfl, hw₁, h₁, htracks₁⟩ :=
      (countStatement_safe hgood.fine frame.config hgood.tracks).of_ok hcount
    obtain ⟨w₂, rfl, hw₂, h₂, hleaves⟩ := (runItem_safe hcall item w₁ env hw₁ htracks₁).of_ok hitem
    refine ⟨w₂, rfl, .of_map id (h₁.trans h₂) ⟨hw₂, hleaves.1, nofun⟩ ?_ fun _ _ => id⟩
    rw [id_map, Task.run, Task.run, runBlock, exec_bind_ok hcount, exec_bind_ok hitem, hreturned]

/-- A loop goes through the elements of what its header gives or starts with the first test, and a
chain of alternatives starts with the first. -/
theorem Enters.item_leadsTo (hcall : CallSafe frame.call) {item : Item}
    (h : Enters frame (.item item env, w.machine) (t', m'))
    (hgood : (Task.item item env).Good frame w) :
    ∃ w', w'.machine = m' ∧ Task.LeadsTo frame (.item item env) w t' w' := by
  cases h with
  | @loop line header body block _ _ _ _ effect elements hstart hcommit helements =>
    obtain ⟨w₁, rfl, hw₁, h₁, heffect⟩ :=
      (startLoop_safe hcall hgood.fine hgood.tracks.live _ _ _).of_ok hstart
    obtain ⟨w₂, rfl, hw₂, h₂, htracks₂⟩ :=
      (Frame.commit_header_safe hw₁ (hgood.tracks.fits.later h₁) heffect).of_ok hcommit
    have hlive := h₂.holds_all (heffect.1.result _ helements)
    refine ⟨w₂, rfl, .of_map id (h₁.trans h₂) ⟨hw₂, htracks₂, hlive⟩ ?_ fun _ _ => id⟩
    rw [id_map, Task.run, runItem, exec_bind_ok hstart, exec_bind_ok hcommit, helements]
    rfl
  | @first first rest _ _ =>
    refine ⟨w, rfl, World.Later.rfl, ⟨hgood.fine, hgood.tracks, nofun⟩,
      fun result => result.2.andThen (runBranches frame rest result.1), ?_,
      fun result w₁ hw₁ _ hleaves => Progress.andThen_safe hw₁ hleaves
        (runBranches_safe hcall rest w₁ result.1 result.2.env hw₁)⟩
    rfl
  | @later first rest _ _ _ pending progress hfirst hreturned =>
    obtain ⟨w₁, rfl, hw₁, h₁, hleaves⟩ :=
      (runBranch_safe hcall first w env hgood.fine hgood.tracks).of_ok hfirst
    refine ⟨w₁, rfl, .of_map id h₁ ⟨hw₁, hleaves.1, nofun⟩ ?_ fun _ _ => id⟩
    rw [id_map, Task.run, Task.run, runItem, exec_bind_ok hfirst]
    simp only [hreturned]
  | @«while» line condition block _ _ =>
    refine ⟨w, rfl, .of_map id .rfl ⟨hgood.fine, hgood.tracks, nofun⟩ ?_ fun _ _ => id⟩
    rw [id_map, Task.run, Task.run, runItem]

/-- The first round of a loop over elements, and the rounds behind it. -/
theorem Frame.rounds_cons (target : String) (total index : Nat) (block : Env → Run Progress)
    (element : Value) (rest : List Value) :
    frame.rounds line target total block index (element :: rest) env = (do
      let progress ← frame.visit line target total block index element env
      match progress.returned with
      | some _ => return progress
      | none => frame.rounds line target total block (index + 1) rest progress.env) := by
  unfold Frame.rounds
  rw [forEach, bind_assoc]
  refine bind_congr fun progress => ?_
  cases hreturned : progress.returned with
  | none => rfl
  | some v => simp [hreturned]

/-- The body of a loop is executed once the round has been recorded, and then comes the next round. -/
theorem Enters.elements_leadsTo (hcall : CallSafe frame.call)
    (h : Enters frame (.elements line target total block index values env, w.machine) (t', m'))
    (hgood : (Task.elements line target total block index values env).Good frame w) :
    ∃ w', w'.machine = m' ∧
      Task.LeadsTo frame (.elements line target total block index values env) w t' w' := by
  have hvalues : ∀ v ∈ values, w.Live v := hgood.values
  cases h with
  | @round _ _ _ _ _ _ element rest _ _ _ hcount hrecord =>
    obtain ⟨helement, hrest⟩ := List.forall_mem_cons.mp hvalues
    obtain ⟨w₁, rfl, hw₁, h₁, htracks₁⟩ :=
      (countIteration_safe hgood.fine hgood.tracks).of_ok hcount
    obtain ⟨w₂, rfl, hw₂, h₂, htracks₂⟩ :=
      (Frame.record_safe hw₁ htracks₁.fits (htracks₁.live.insert (h₁.holds helement))
        (by simpa [Action.given] using h₁.holds helement)).of_ok hrecord
    refine ⟨w₂, rfl, h₁.trans h₂, ⟨hw₂, htracks₂, List.forall_mem_nil _⟩, (·.andThen
      (frame.rounds line target total (fun env => runBlock frame block env) (index + 1) rest)),
      ?_, fun progress w₃ hw₃ h₃ hleaves => Progress.andThen_safe hw₃ hleaves fun htracks =>
        Frame.rounds_safe (blockSafe_runBlock hcall block) hw₃ htracks
          (((h₁.trans h₂).trans h₃).holds_all hrest) total (index + 1)⟩
    rw [Task.run, Task.run, Frame.rounds_cons, Frame.visit, bind_assoc, exec_bind_ok hcount,
      bind_assoc, exec_bind_ok hrecord]
    rfl
  | @nextRound _ _ _ _ _ _ element rest _ _ progress hvisit hreturned =>
    obtain ⟨helement, hrest⟩ := List.forall_mem_cons.mp hvalues
    obtain ⟨w₁, rfl, hw₁, h₁, hleaves⟩ :=
      (Frame.visit_safe line target (blockSafe_runBlock hcall block) hgood.fine hgood.tracks
        helement index total).of_ok hvisit
    refine ⟨w₁, rfl, .of_map id h₁ ⟨hw₁, hleaves.1, h₁.holds_all hrest⟩ ?_ fun _ _ => id⟩
    rw [id_map, Task.run, Task.run, Frame.rounds_cons, exec_bind_ok hvisit, hreturned]

/-- An alternative is taken if it has no condition, or if its condition holds. -/
theorem Enters.branch_leadsTo (hcall : CallSafe frame.call)
    (h : Enters frame (.branch branch env, w.machine) (t', m'))
    (hgood : (Task.branch branch env).Good frame w) :
    ∃ w', w'.machine = m' ∧ Task.LeadsTo frame (.branch branch env) w t' w' := by
  cases h with
  | @lastResort line block _ _ =>
    refine ⟨w, rfl, .of_map (false, ·) .rfl ⟨hgood.fine, hgood.tracks, nofun⟩ ?_ fun _ _ => id⟩
    rw [Task.run, Task.run, runBranch, map_eq_pure_bind]
  | @taken line condition block _ _ _ _ effect htest hcommit hresult =>
    obtain ⟨w₂, rfl, hw₂, h₂, htracks₂⟩ :=
      tested_spec hcall hgood.fine hgood.tracks (by simp) htest hcommit
    refine ⟨w₂, rfl, .of_map (false, ·) h₂ ⟨hw₂, htracks₂, nofun⟩ ?_ fun _ _ => id⟩
    rw [Task.run, Task.run, runBranch, exec_bind_ok htest, exec_bind_ok hcommit, hresult,
      map_eq_pure_bind]

/-- A later alternative is tried while the chain is open.  Behind one that was taken it is only
counted. -/
theorem Enters.branches_leadsTo (hcall : CallSafe frame.call)
    (h : Enters frame (.branches branches pending env, w.machine) (t', m'))
    (hgood : (Task.branches branches pending env).Good frame w) :
    ∃ w', w'.machine = m' ∧ Task.LeadsTo frame (.branches branches pending env) w t' w' := by
  have hcounted {m₁ : Machine} (hcount : exec (countStatement frame.config) w.machine = (.ok (), m₁)) :=
    (countStatement_safe hgood.fine frame.config hgood.tracks).of_ok hcount
  cases h with
  | @tried branch rest _ _ _ hcount =>
    obtain ⟨w₁, rfl, hw₁, h₁, htracks₁⟩ := hcounted hcount
    refine ⟨w₁, rfl, h₁, ⟨hw₁, htracks₁, nofun⟩,
      fun result => result.2.andThen (runBranches frame rest result.1), ?_,
      fun result w₂ hw₂ _ hleaves => Progress.andThen_safe hw₂ hleaves
        (runBranches_safe hcall rest w₂ result.1 result.2.env hw₂)⟩
    rw [Task.run, Task.run, runBranches, exec_bind_ok hcount]
    rfl
  | @nextBranch branch rest _ _ _ _ pending progress hcount hbranch hreturned =>
    obtain ⟨w₁, rfl, hw₁, h₁, htracks₁⟩ := hcounted hcount
    obtain ⟨w₂, rfl, hw₂, h₂, hleaves⟩ :=
      (runBranch_safe hcall branch w₁ env hw₁ htracks₁).of_ok hbranch
    refine ⟨w₂, rfl, .of_map id (h₁.trans h₂) ⟨hw₂, hleaves.1, nofun⟩ ?_ fun _ _ => id⟩
    rw [id_map, Task.run, Task.run, runBranches, exec_bind_ok hcount]
    exact (exec_bind_ok hbranch).trans (by simp only [hreturned])
  | @passedBranch branch rest _ _ _ hcount =>
    obtain ⟨w₁, rfl, hw₁, h₁, htracks₁⟩ := hcounted hcount
    refine ⟨w₁, rfl, .of_map id h₁ ⟨hw₁, htracks₁, nofun⟩ ?_ fun _ _ => id⟩
    rw [id_map, Task.run, runBranches, exec_bind_ok hcount]
    rfl

/-- A loop whose condition holds executes its body, and then the next round is due.  If it holds once
too often that is an error. -/
theorem Enters.repeating_leadsTo (hcall : CallSafe frame.call) {room iteration : Nat}
    (h : Enters frame (.repeating line condition block room iteration env, w.machine) (t', m'))
    (hgood : (Task.repeating line condition block room iteration env).Good frame w) :
    ∃ w', w'.machine = m' ∧
      Task.LeadsTo frame (.repeating line condition block room iteration env) w t' w' := by
  have hlive := iteration_live w iteration
  cases h with
  | @repeated _ _ _ room _ _ _ _ _ _ effect htest hcommit hresult hcount =>
    obtain ⟨w₂, rfl, hw₂, h₂, htracks₂⟩ :=
      tested_spec hcall hgood.fine hgood.tracks hlive htest hcommit
    obtain ⟨w₃, rfl, hw₃, h₃, htracks₃⟩ := (countIteration_safe hw₂ htracks₂).of_ok hcount
    refine ⟨w₃, rfl, h₂.trans h₃, ⟨hw₃, htracks₃, by rintro _ ⟨⟩⟩, (·.andThen fun env =>
      (Task.again line condition block room (iteration + 1) env).run frame), ?_,
      fun progress w₄ hw₄ _ hleaves => Progress.andThen_safe hw₄ hleaves fun htracks =>
        Task.run_safe hcall ⟨hw₄, htracks, by rintro _ ⟨⟩⟩⟩
    rw [Task.run, Task.run, Frame.repeatWhile, exec_bind_ok htest, exec_bind_ok hcommit, hresult]
    exact exec_bind_ok hcount
  | @bodyDone _ _ _ room _ _ _ _ _ _ _ effect progress htest hcommit hresult hcount hblock hreturned =>
    obtain ⟨w₂, rfl, hw₂, h₂, htracks₂⟩ :=
      tested_spec hcall hgood.fine hgood.tracks hlive htest hcommit
    obtain ⟨w₃, rfl, hw₃, h₃, htracks₃⟩ := (countIteration_safe hw₂ htracks₂).of_ok hcount
    obtain ⟨w₄, rfl, hw₄, h₄, hleaves⟩ :=
      (runBlock_safe hcall block w₃ effect.env hw₃ htracks₃).of_ok hblock
    refine ⟨w₄, rfl, .of_map id ((h₂.trans h₃).trans h₄) ⟨hw₄, hleaves.1, by rintro _ ⟨⟩⟩ ?_ fun _ _ => id⟩
    rw [id_map, Task.run, Frame.repeatWhile, exec_bind_ok htest, exec_bind_ok hcommit, hresult]
    rw [exec_bind_ok hcount, exec_bind_ok hblock, hreturned]
    rfl
  | @limit _ _ _ _ _ _ _ _ effect htest hcommit hresult =>
    obtain ⟨w₂, rfl, hw₂, h₂, htracks₂⟩ :=
      tested_spec hcall hgood.fine hgood.tracks hlive htest hcommit
    refine ⟨w₂, rfl, .of_map id h₂ ⟨hw₂, htracks₂, by rintro _ ⟨⟩⟩ ?_ fun _ _ => id⟩
    rw [id_map, Task.run, Frame.repeatWhile, exec_bind_ok htest, exec_bind_ok hcommit, hresult]
    rfl

/-- The condition of a loop is tested again. -/
theorem Enters.again_leadsTo
    (h : Enters frame (.again line condition block room iteration env, w.machine) (t', m'))
    (hgood : (Task.again line condition block room iteration env).Good frame w) : ∃ w', w'.machine = m' ∧
      Task.LeadsTo frame (.again line condition block room iteration env) w t' w' := by
  cases h with
  | testedAgain hcount =>
    obtain ⟨w₁, rfl, hw₁, h₁, htracks₁⟩ :=
      (countStatement_safe hgood.fine frame.config hgood.tracks).of_ok hcount
    refine ⟨w₁, rfl, .of_map id h₁ ⟨hw₁, htracks₁, nofun⟩ ?_ fun _ _ => id⟩
    rw [id_map, Task.run, Task.run, exec_bind_ok hcount]

/-- One step from moment to moment. -/
theorem Enters.leadsTo (hcall : CallSafe frame.call) (h : Enters frame (t, w.machine) (t', m'))
    (hgood : t.Good frame w) : ∃ w', w'.machine = m' ∧ Task.LeadsTo frame t w t' w' := by
  cases t with
  | block _ _ => exact h.block_leadsTo hcall hgood
  | item _ _ => exact h.item_leadsTo hcall hgood
  | branch _ _ => exact h.branch_leadsTo hcall hgood
  | branches _ _ _ => exact h.branches_leadsTo hcall hgood
  | elements _ _ _ _ _ _ _ => exact h.elements_leadsTo hcall hgood
  | repeating _ _ _ _ _ _ => exact h.repeating_leadsTo hcall hgood
  | again _ _ _ _ _ _ => exact h.again_leadsTo hgood
  | refusal _ _ _ => cases h

end

/-! ## Whole runs -/

theorem Task.LeadsTo.refl (hgood : t.Good frame w) : Task.LeadsTo frame t w t w := by
  refine ⟨World.Later.rfl, hgood, pure, ?_, ?_⟩
  · rw [bind_pure]
  · exact fun result w₁ hw₁ _ hleaves => Upholds.pure hw₁ hleaves

/-- What remains to be done behind an inner task adds up. -/
theorem Task.LeadsTo.trans (h : Task.LeadsTo frame t w t' w')
    (h' : Task.LeadsTo frame t' w' t'' w'') : Task.LeadsTo frame t w t'' w'' := by
  obtain ⟨k, hexec, hsafe⟩ := h.resumes
  obtain ⟨k', hexec', hsafe'⟩ := h'.resumes
  refine ⟨h.later.trans h'.later, h'.good, fun result => k' result >>= k, ?_, ?_⟩
  · rw [hexec, ← bind_assoc, exec_bind, hexec', exec_bind (t''.run frame >>= k')]
  · intro result w₁ hw₁ h₁ hleaves
    refine (hsafe' result w₁ hw₁ h₁ hleaves).bind fun result' w₂ hw₂ h₂ hleaves' => ?_
    exact hsafe result' w₂ hw₂ ((h'.later.trans h₁).trans h₂) hleaves'

/-- From a moment to any later one. -/
theorem leadsTo_of_enters (hcall : CallSafe frame.call)
    (h : Relation.ReflTransGen (Enters frame) (t, w.machine) (t', m)) (hgood : t.Good frame w) :
    ∃ w', w'.machine = m ∧ Task.LeadsTo frame t w t' w' := by
  -- The pair of a task and a machine is taken apart for the induction.
  generalize hmoment : (t', m) = moment at h
  induction h generalizing t' m with
  | refl =>
    cases hmoment
    exact ⟨w, rfl, Task.LeadsTo.refl hgood⟩
  | @tail moment _ _ hstep ih =>
    subst hmoment
    obtain ⟨t₁, m₁⟩ := moment
    obtain ⟨w₁, rfl, h₁⟩ := ih rfl
    obtain ⟨w₂, hm₂, h₂⟩ := hstep.leadsTo hcall h₁.good
    exact ⟨w₂, hm₂, h₁.trans h₂⟩

/-- The whole task ends in a world that is later than every moment in it. -/
theorem Task.LeadsTo.ends (hcall : CallSafe frame.call) (h : Task.LeadsTo frame t w t' w') :
    ∃ w₁, w₁.machine = (exec (t.run frame) w.machine).2 ∧ w'.Later w₁ ∧ w₁.Sound ∧
      ∀ result, (exec (t.run frame) w.machine).1 = .ok result → t.Leaves frame result w₁ := by
  obtain ⟨k, hexec, hsafe⟩ := h.resumes
  have hrun : Safe (t'.run frame >>= k) w' (t.Leaves frame) :=
    (Task.run_safe hcall h.good).bind hsafe
  obtain ⟨owner, hlater, hsound, hend⟩ := hrun
  rw [← hexec] at hlater hsound hend
  refine ⟨⟨owner, _, w'.silent⟩, rfl, hlater, hsound, fun result hresult => ?_⟩
  rw [hresult] at hend
  exact hend.2

/-- The world in which a program starts. -/
def World.start : World := ⟨fun _ => .live, .start, false⟩

theorem World.start_fine : World.start.Fine where
  cells n v hv := by
    rw [Store.cell_values_of_not_has (by cases n <;> exact Nat.not_lt_zero _)] at hv
    cases hv
  closures _ ref h := absurd h (Nat.not_lt_zero ref)
  steps _ i step h := by
    simp [World.start, Machine.start] at h
  journal _ :=
    { recorded := rfl
      faithful := trivial
      copyable := fun i step h => by simp [World.start, Machine.start] at h
      remembers := trivial }
  inSync _ := rfl

/-- A program starts with an empty scope and nothing to show. -/
theorem good_start (config : Config) (program : List Item) :
    (Task.block program .empty).Good (Frame.top config) World.start :=
  ⟨World.start_fine, ⟨nofun, fun _ => rfl, fun _ => ⟨rfl, rfl⟩⟩, nofun⟩

end Walkthrough
