import Walkthrough.Proofs.Lockstep

/-!
# Budgets only cut

A run with tighter budgets does what the run with wider ones does, until it is cut off.  `Cuts` says
this of two runs from the same machine: either they end alike, or the first was stopped by a budget
and its history is the beginning of that of the second.

Both take notes.  A run is stopped right after it has noted its store, so that store is one that the
other run has noted on its way, and from there to the end no step has changed.
-/

namespace Walkthrough

open Source

variable {cause : Budget} {config config' : Config} {w : World} {source : String}

/-! ## Runs that are cut off -/

/-- How two runs from the machine `m` end if the first may be cut off. -/
inductive CutShort {α β : Type} (R : α → β → Prop) (m : Machine) :
    Except Failure α × Machine → Except Failure β × Machine → Prop where
  | returned {a : α} {b : β} {m' : Machine} : R a b → m.history <:+ m'.history →
      CutShort R m (.ok a, m') (.ok b, m')
  | failed {failure : Failure} {m' : Machine} : failure.IsPlain → m.history <:+ m'.history →
      CutShort R m (.error failure, m') (.error failure, m')
  /-- A budget stopped the first run, and the last that it noted is the store that it left.  Whatever
  the second run returned, it is something that the first could have returned. -/
  | stopped {cause : Budget} {m' n : Machine} {r : Except Failure β} :
      m'.history.head? = some (.passed m'.store) → m'.history <:+ n.history →
      m.history <:+ n.history → (∀ b, r = .ok b → ∃ a, R a b) →
      CutShort R m (.error (.budget cause), m') (r, n)

/-- The first run does what the second one does, until it is cut off. -/
def Cuts {α β : Type} (x : Run α) (y : Run β) (R : α → β → Prop) : Prop :=
  ∀ m, CutShort R m (exec x m) (exec y m)

section

variable {α β γ δ : Type}

/-- The history of the second run only grows. -/
theorem CutShort.grows (h : CutShort R m p q) : m.history <:+ q.2.history := by
  cases h <;> assumption

theorem CutShort.answers (h : CutShort R m p q) : ∀ b, q.1 = .ok b → ∃ a, R a b := by
  cases h with
  | returned hab _ =>
    rintro _ ⟨⟩
    exact ⟨_, hab⟩
  | failed _ _ => nofun
  | stopped _ _ _ hanswers => exact hanswers

/-- The two runs started earlier. -/
theorem CutShort.since (h : CutShort R m' p q) (hm : m.history <:+ m'.history) :
    CutShort R m p q := by
  cases h with
  | returned hab hgrows => exact .returned hab (hm.trans hgrows)
  | failed hplain hgrows => exact .failed hplain (hm.trans hgrows)
  | stopped hnoted hhistory hgrows hanswers =>
    exact .stopped hnoted hhistory (hm.trans hgrows) hanswers

/-- If the first run was stopped, it does not matter how the second one goes on. -/
theorem CutShort.goOn (hnoted : m'.history.head? = some (.passed m'.store))
    (hhistory : m'.history <:+ n.history) (hgrows : m.history <:+ n.history) (h : CutShort R n p q) :
    CutShort R m (.error (.budget cause), m') q :=
  .stopped hnoted (hhistory.trans h.grows) (hgrows.trans h.grows) h.answers

/-- The second run may have failed in any way. -/
theorem CutShort.fails {failure : Failure} (hnoted : m'.history.head? = some (.passed m'.store))
    (hhistory : m'.history <:+ n.history) (hgrows : m.history <:+ n.history) :
    CutShort R m (.error (.budget cause), m') (.error failure, n) :=
  .stopped hnoted hhistory hgrows nofun

theorem Cuts.mirrors (h : Mirrors .identity x y P) : Cuts x y (P .identity) := by
  intro m
  obtain ⟨store, lines, hx, hy, hagree⟩ := h.moves (Eq.refl m.store)
  have hgrows : m.history <:+ (m.after store lines).history := List.suffix_append _ _
  have hxm : exec x m = ((exec x m).1, m.after store lines) := Prod.ext rfl hx
  have hym : exec y m = ((exec y m).1, m.after store lines) := Prod.ext rfl hy
  rw [hxm, hym]
  generalize (exec x m).1 = r at hagree ⊢
  generalize (exec y m).1 = r' at hagree ⊢
  cases hagree with
  | ok hab => exact .returned hab hgrows
  | error hplain => exact .failed hplain.isPlain hgrows

theorem Cuts.bind (hx : Cuts x y R) (hf : ∀ a b, R a b → Cuts (f a) (g b) Q) :
    Cuts (x >>= f) (y >>= g) Q := by
  intro m
  have h := hx m
  generalize hxm : exec x m = p at h
  generalize hym : exec y m = q at h
  cases h with
  | returned hab hgrows =>
    rw [exec_bind_ok hxm, exec_bind_ok hym]
    exact (hf _ _ hab _).since hgrows
  | failed hplain hgrows =>
    rw [exec_bind_error hxm, exec_bind_error hym]
    exact .failed hplain hgrows
  | @stopped cause m' n r hnoted hhistory hgrows hanswers =>
    rw [exec_bind_error hxm]
    cases r with
    | error failure =>
      rw [exec_bind_error hym]
      exact .fails hnoted hhistory hgrows
    | ok b =>
      obtain ⟨a, hab⟩ := hanswers b rfl
      rw [exec_bind_ok hym]
      exact .goOn hnoted hhistory hgrows (hf a b hab n)

theorem Cuts.handle {rolls : Bool} (hx : Cuts x y R) (hhandler : ∀ cause, Cuts (h cause) (k cause) R)
    (hx' : Handles rolls x h x') (hy' : Handles rolls y k y') : Cuts x' y' R := by
  intro m
  have hends := hx m
  rw [hx' m, hy' m]
  generalize exec x m = p at hends ⊢
  generalize exec y m = q at hends ⊢
  cases hends with
  | returned hab hgrows => exact .returned hab hgrows
  | @failed failure m' hplain hgrows =>
    cases failure with
    | error cause => exact (hhandler cause m').since hgrows
    | budget cause => exact hplain.elim
    | _ => cases rolls <;> exact .failed hplain hgrows
  | @stopped cause m' n r hnoted hhistory hgrows hanswers =>
    cases r with
    | ok b => cases rolls <;> exact .stopped hnoted hhistory hgrows hanswers
    | error failure =>
      cases failure with
      | error cause => cases rolls <;> exact .goOn hnoted hhistory hgrows (hhandler cause n)
      | _ => cases rolls <;> exact .fails hnoted hhistory hgrows

/-- Both do the same, and neither fails. -/
theorem Cuts.same {x y : Run Unit} (hx : ∀ m, ∃ m', exec x m = (.ok (), m') ∧
      exec y m = (.ok (), m') ∧ m.history <:+ m'.history) : Cuts x y fun _ _ => True := by
  intro m
  obtain ⟨m', hxm, hym, hgrows⟩ := hx m
  rw [hxm, hym]
  exact .returned trivial hgrows

end

/-! ## Tighter budgets -/

/-- Two configurations that differ in their budgets, and the first has no more than the second. -/
structure Config.Tighter (config config' : Config) : Prop where
  steps : config.maxSteps ≤ config'.maxSteps
  statements : config.maxStatements ≤ config'.maxStatements
  otherwise : config = { config' with
    maxSteps := config.maxSteps, maxStatements := config.maxStatements }

section

variable (h : config.Tighter config')
include h

theorem Config.Tighter.withNotes :
    { config with notes := true }.Tighter { config' with notes := true } where
  steps := h.steps
  statements := h.statements
  otherwise := by rw [h.otherwise]

theorem Config.Tighter.notes : config.notes = config'.notes := by rw [h.otherwise]

theorem Config.Tighter.noted (m : Machine) (event : Store → Event) :
    m.noted config event = m.noted config' event := by
  rw [Machine.noted, Machine.noted, h.notes]

theorem Config.Tighter.program (source : String) :
    programOf config source = programOf config' source := by rw [h.otherwise]; rfl

end

theorem Machine.noted_grows (m : Machine) (config : Config) (event : Store → Event) :
    m.history <:+ (m.noted config event).history := by
  unfold Machine.noted
  split
  · exact List.suffix_cons _ _
  · exact List.suffix_refl _

theorem addStep_grows (line : Nat) (action : Action) (env : Env) (output : Output) (m : Machine) :
    m.history <:+ (exec (addStep line action env output) m).2.history := by
  rw [exec_addStep]
  split
  · exact List.suffix_refl _
  · exact List.suffix_cons _ _

theorem Cuts.note (h : config.Tighter config') (event : Store → Event) :
    Cuts (Run.note config event) (Run.note config' event) fun _ _ => True := by
  refine .same fun m => ⟨_, exec_note m config event, ?_, m.noted_grows config event⟩
  rw [h.noted]
  exact exec_note m config' event

section

variable (h : config.Tighter config') (hnotes : config.notes = true)
include hnotes

/-- What is noted comes first in the history. -/
theorem Machine.noted_head (m : Machine) :
    (m.noted config .passed).history.head? = some (.passed (m.noted config .passed).store) := by
  rw [Machine.noted, if_pos hnotes]
  rfl

include h

theorem Cuts.statement :
    Cuts (countStatement config) (countStatement config') fun _ _ => True := by
  intro m
  have hcounted : m.counted config' = m.counted config := (h.noted _ _).symm
  have hgrows : m.history <:+ (m.counted config).history := by
    rw [Machine.counted]
    exact Machine.noted_grows { m with tally.statements := m.tally.statements + 1 } config .passed
  have hlimit := h.statements
  rw [exec_countStatement, exec_countStatement, hcounted]
  split
  · refine .stopped (Machine.noted_head hnotes _) (List.suffix_refl _) hgrows ?_
    exact fun b _ => ⟨(), trivial⟩
  · rw [if_neg (by omega)]
    exact .returned trivial hgrows

theorem Cuts.record (line : Line) (action : Action) (env : Env) :
    Cuts ((Frame.top config).record line action env) ((Frame.top config').record line action env)
      fun _ _ => True := by
  intro m
  have hlimit := h.steps
  have hgrows := m.noted_grows config .passed
  have hadds := addStep_grows line.index action env m.output (m.noted config .passed)
  rw [exec_record_top, exec_record_top, ← h.noted]
  split
  · split
    · exact .stopped (m.noted_head hnotes) (List.suffix_refl _) hgrows fun _ _ => ⟨(), trivial⟩
    · exact .stopped (m.noted_head hnotes) hadds (hgrows.trans hadds) fun _ _ => ⟨(), trivial⟩
  · rw [if_neg (by omega)]
    rw [exec_addStep] at hadds ⊢
    generalize hparts : stepParts (m.noted config .passed).store action env = parts at hadds ⊢
    obtain ⟨failure | _, store⟩ := parts
    · obtain rfl := stepParts_failsAs hparts
      exact .failed trivial hgrows
    · exact .returned trivial (hgrows.trans hadds)

end

/-- Runs that are cut off, under the renaming in which everything stands for itself. -/
def Judgement.cuts {config config' : Config} (h : config.Tighter config')
    (hnotes : config.notes = true) : Judgement config config' where
  rel ρ x y P := ρ = .identity → Cuts x y (P .identity)
  mirrors := by
    rintro α β _ x y P hx rfl
    exact .mirrors hx
  bind := by
    rintro α β γ δ _ x y f g P Q hx hf rfl
    exact (hx rfl).bind fun a b hab => hf _ a b .rfl hab rfl
  handle := by
    rintro α β _ rolls x x' y y' h k P hx hhandler hx' hy' rfl
    exact (hx rfl).handle (fun cause => hhandler _ cause .rfl rfl) hx' hy'
  remainder := by
    rintro _ a a' b b' ha hb rfl
    exact .mirrors (BinaryOp.apply_mirrors .mod (fun _ _ => id) ha hb)
  define := by
    rintro _ block block' env env' definition body hblock henv rfl
    exact .mirrors (bindFunction_mirrors id definition body hblock henv)
  enter := by
    rintro _ a b f g vs ws hab hfg hvs rfl
    exact .mirrors (startingScope_mirrors id hab hfg hvs)
  call _ := .same fun m => ⟨_, exec_modify m _, exec_modify m _, List.suffix_refl _⟩
  iteration _ := .same fun m => ⟨_, exec_modify m _, exec_modify m _, List.suffix_refl _⟩
  statement _ := .statement h hnotes
  passed _ := .note h .passed
  called := by
    rintro _ a b vs ws depth hab hvs rfl
    obtain rfl : a = b := hab
    rw [valuesLike_eq hvs]
    exact .note h _
  iterations := by rw [h.otherwise]
  callDepth := by rw [h.otherwise]

theorem Judgement.cuts_sameBlocks (h : config.Tighter config') (hnotes : config.notes = true) :
    (Judgement.cuts h hnotes).SameBlocks := by
  rintro α β ρ x y P hrel rfl
  exact hrel rfl rfl

/-- A program with tighter budgets does what it does with wider ones, until it is cut off. -/
theorem runBlock_cuts (h : config.Tighter config') (hnotes : config.notes = true) (program : List Item) :
    Cuts (runBlock (Frame.top config) program .empty) (runBlock (Frame.top config') program .empty)
      (Progress.Like .identity) := by
  have hframes : (Judgement.cuts h hnotes).Frames (fun _ => True) (Frame.top config)
      (Frame.top config') := {
    config := rfl
    config' := rfl
    inFunction := rfl
    call := fun hab hvs => (Judgement.cuts h hnotes).function
      (Judgement.cuts_sameBlocks h hnotes) callLimit 0 hab hvs
    record := by
      rintro _ line action action' env env' _ haction henv rfl
      rw [haction.eq, envLike_eq henv]
      exact .record h hnotes line action' env' }
  exact hframes.block (Judgement.cuts_sameBlocks h hnotes) program (fun _ _ => trivial) .identity
    .empty .empty (envLike_refl .empty) rfl

/-! ## Traces -/

/-- The steps without the one that closes a truncated trace. -/
def Trace.body (trace : Trace) : List Step :=
  if trace.truncated then trace.steps.toList.dropLast else trace.steps.toList

/-- One trace is the beginning of another: its steps are, and they lead to the same in the stores of
both. -/
structure Trace.Begins (trace trace' : Trace) : Prop where
  lines : trace.lines = trace'.lines
  body : trace.body <+: trace'.body
  graph : ∀ step ∈ trace.body, trace.store.Kept trace'.store step.held

/-- An error with bindings that can be copied makes a step. -/
theorem stepParts_of_copyable (message : String) (h : store.Copyable env) :
    ∃ bindings store', stepParts store (.error message) env = (.ok (bindings, .error message), store')
      := by
  obtain ⟨bindings, hcopy⟩ := h
  unfold stepParts
  generalize (store.snapshot fun copy => copyEnv copy env) = result at hcopy ⊢
  obtain ⟨r, store'⟩ := result
  obtain rfl : r = .ok bindings := hcopy
  exact ⟨bindings, _, rfl⟩

/-- Every trace can be closed: what the last step shows could be copied before. -/
theorem World.Sound.closeTrace_returns (hw : w.Sound) (hrecording : w.silent = false) (cause : Budget) :
    ∃ m, exec (closeTrace cause) w.machine = (.ok (), m) := by
  have hcopyable : w.machine.store.Copyable w.machine.shownBindings := by
    rw [Machine.shownBindings]
    cases hlast : w.machine.steps.back? with
    | none => exact ⟨.empty, rfl⟩
    | some last =>
      rw [Array.back?_eq_getElem?] at hlast
      exact (hw.journal hrecording).copyable _ last hlast
  obtain ⟨bindings, store, hparts⟩ := stepParts_of_copyable cause.message hcopyable
  rw [exec_closeTrace, exec_addStep, hparts]
  exact ⟨_, rfl⟩

/-- The steps of a trace are those that its program recorded, and nothing that is reached from them
was changed by closing the trace. -/
theorem Trace.ofSource_body (h : Trace.ofSource config source = .ok trace) (hw : w.Separate)
    (hrecording : w.silent = false)
    (hm : w.machine = (exec (runBlock (Frame.top config) (programOf config source) .empty) .start).2) :
    trace.body = w.machine.steps.toList ∧
      ∀ step ∈ trace.body, w.machine.store.Kept trace.store step.held := by
  obtain ⟨m, hrun, heq⟩ := Trace.ofSource_eq h
  generalize trace.truncated = truncated at hrun heq
  subst heq
  cases truncated with
  | false =>
    obtain ⟨progress, hblock⟩ := runBlock_of_untruncated hrun
    rw [hblock] at hm
    subst hm
    exact ⟨rfl, fun _ _ => .refl _ _⟩
  | true =>
    obtain ⟨cause, m', hblock, hclose⟩ := runBlock_of_truncated hrun
    rw [hblock] at hm
    subst hm
    obtain ⟨w', result, hexec, hlater, _, hend⟩ := hw.closeTrace hrecording cause
    rw [hclose] at hexec
    cases hexec
    obtain ⟨closing, hmachine, _⟩ := hend
    have hbody : (w'.machine.trace source true).body = w.machine.steps.toList := by
      have hsteps : w'.machine.steps = w.machine.steps.push closing := by rw [hmachine]
      rw [Trace.body, Machine.trace, if_pos rfl, hsteps, Array.toList_push, List.dropLast_concat]
    refine ⟨hbody, fun step hstep => ?_⟩
    rw [hbody] at hstep
    obtain ⟨i, hi⟩ := List.mem_iff_getElem?.mp hstep
    rw [Array.getElem?_toList] at hi
    exact hlater.kept_step hw hrecording hi

/-- A run that was stopped leaves the beginning of the steps. -/
theorem steps_of_stopped {w' : World} (hw : w.Sound) (hrecording : w.silent = false) (hw' : w'.Sound)
    (hrecording' : w'.silent = false) (hnoted : w.machine.history.head? = some (.passed w.machine.store))
    (hhistory : w.machine.history <:+ w'.machine.history) :
    w.machine.steps.toList <+: w'.machine.steps.toList ∧
      ∀ step ∈ w.machine.steps.toList, w.machine.store.Kept w'.machine.store step.held := by
  have hrecorded := (hw.journal hrecording).recorded
  constructor
  · rw [← List.reverse_suffix, ← hrecorded, ← (hw'.journal hrecording').recorded]
    exact hhistory.filterMap Event.step?
  · obtain ⟨later, hsplit⟩ := hhistory
    obtain ⟨earlier, hearlier⟩ := List.head?_eq_some_iff.mp hnoted
    have hremembers := (hw'.journal hrecording').remembers
    rw [← hsplit, hearlier] at hremembers
    obtain ⟨_, hpreserves⟩ := hremembers.preserves rfl
    intro step hstep
    refine hpreserves.steps step ?_
    rw [hearlier] at hrecorded
    rw [show earlier.filterMap Event.step? = w.machine.steps.toList.reverse from hrecorded]
    exact List.mem_reverse.mpr hstep

theorem Trace.ofSource_of_run {truncated : Bool}
    (h : exec (runProgram config (programOf config source)) .start = (.ok truncated, m)) :
    Trace.ofSource config source = .ok (m.trace source truncated) := by
  rw [Trace.ofSource_run, h]

/-- A program that was stopped has a trace, which begins any trace that goes on from there. -/
theorem begins_of_stopped (config : Config) (htrace' : Trace.ofSource config' source = .ok trace')
    (hm : exec (runBlock (Frame.top config) (programOf config source) .empty) .start = (.error (.budget cause), m))
    (hm' : m' = (exec (runBlock (Frame.top config') (programOf config' source) .empty) .start).2)
    (hnoted : m.history.head? = some (.passed m.store)) (hhistory : m.history <:+ m'.history) :
    ∃ trace, Trace.ofSource config source = .ok trace ∧ trace.truncated = true ∧
      trace.Begins trace' := by
  obtain ⟨w, hw, hsound, hrecording, _⟩ := runBlock_world config (programOf config source)
  obtain ⟨w', hw', hsound', hrecording', _⟩ := runBlock_world config' (programOf config' source)
  obtain rfl : w.machine = m := by rw [hw, hm]
  obtain rfl : w'.machine = m' := hw'.trans hm'.symm
  obtain ⟨n, hclose⟩ := hsound.closeTrace_returns hrecording cause
  have hrun : exec (runProgram config (programOf config source)) .start = (.ok true, n) := by
    rw [exec_runProgram, hm]
    exact exec_bind_ok hclose
  have htrace := Trace.ofSource_of_run hrun
  refine ⟨_, htrace, rfl, ?_⟩
  obtain ⟨hbody, hkept⟩ := Trace.ofSource_body htrace hsound.toSeparate hrecording hw
  obtain ⟨hbody', hkept'⟩ := Trace.ofSource_body htrace' hsound'.toSeparate hrecording' hw'
  obtain ⟨hsteps, hsame⟩ := steps_of_stopped hsound hrecording hsound' hrecording' hnoted hhistory
  refine ⟨?_, ?_, fun step hstep => ?_⟩
  · obtain ⟨_, _, heq⟩ := Trace.ofSource_eq htrace'
    rw [heq]
    rfl
  · rw [hbody, hbody']
    exact hsteps
  · have hstep₁ : step ∈ w.machine.steps.toList := hbody ▸ hstep
    have hstep' : step ∈ trace'.body := hbody' ▸ hsteps.subset hstep₁
    obtain ⟨i, hi⟩ := List.mem_iff_getElem?.mp hstep₁
    rw [Array.getElem?_toList] at hi
    refine Store.Kept.between hsound.valid ?_ (hkept step hstep)
      ((hsame step hstep₁).trans (hkept' step hstep'))
    exact fun v hv => (hsound.steps hrecording i step hi v hv).knows

theorem Trace.Begins.rfl {trace : Trace} : trace.Begins trace :=
  ⟨Eq.refl _, List.prefix_refl _, fun _ _ => .refl _ _⟩

/-- A program that spends its statements in the loop of a function. -/
def loopingProgram : String :=
  "def f(n):\n    for i in range(n):\n        print(i)\n    return n\nx = [1]\nx.append(f(3))\ny = x"

end Walkthrough
