import Walkthrough.Proofs.Moments

/-!
# What a trace shows

Two results about the steps of a trace.

* `no_silent_change`: whenever a program is about to go on, the last step shows its variables and its
  output as they are.  So the last step of a whole trace shows how the program ended.
* `output_chronicles_prints`: the output of a step is all that was printed before it, in order.  The
  one exception is the step that closes a truncated trace: what the interrupted statement printed is
  not in it.

Both rest on the invariant of blocks.  What happens behind it, when a budget is used up, is the
business of `closeTrace`.
-/

namespace Walkthrough

open Source

variable {config : Config} {m : Machine} {w : World}

/-! ## The run of a program -/

/-- How a program ends, from how its block ends. -/
theorem exec_runProgram (config : Config) (program : List Item) :
    exec (runProgram config program) .start =
      match exec (runBlock (Frame.top config) program .empty) .start with
      | (.ok _, m) => (.ok false, m)
      | (.error (.budget cause), m) => exec (do closeTrace cause; return true) m
      | (.error failure, m) => (.error failure, m) := by
  rw [runProgram, exec_tryCatch, exec_bind]
  rcases exec (runBlock (Frame.top config) program .empty) .start with ⟨failure | progress, m⟩
  · cases failure <;> rfl
  · rfl

/-- A trace is what the machine holds at the end. -/
theorem Trace.ofSource_eq_ok (h : Trace.ofSource config source = .ok trace) :
    ∃ m, exec (runProgram config (programOf config source)) .start = (.ok trace.truncated, m) ∧
      trace.steps = m.steps ∧ trace.store = m.store ∧ trace.tally = m.tally := by
  unfold Trace.ofSource at h
  dsimp only at h
  split at h
  · next truncated m heq =>
    cases h
    exact ⟨m, heq, rfl, rfl, rfl⟩
  · cases h
  · cases h

/-- A trace that is not truncated belongs to a program that went on to its end. -/
theorem runBlock_of_untruncated (h : exec (runProgram config program) .start = (.ok false, m)) :
    ∃ progress, exec (runBlock (Frame.top config) program .empty) .start = (.ok progress, m) := by
  rw [exec_runProgram] at h
  split at h
  · next progress m' heq =>
    cases h
    exact ⟨progress, heq⟩
  · next cause m' heq =>
    obtain ⟨_, m₁, _, hreturn⟩ := exec_bind_eq_ok h
    cases hreturn
  · cases h

/-- A truncated trace belongs to a program that used up a budget, and its last step was added
then. -/
theorem runBlock_of_truncated (h : exec (runProgram config program) .start = (.ok true, m)) :
    ∃ cause m', exec (runBlock (Frame.top config) program .empty) .start =
      (.error (.budget cause), m') ∧ exec (closeTrace cause) m' = (.ok (), m) := by
  rw [exec_runProgram] at h
  split at h
  · cases h
  · next cause m' heq =>
    obtain ⟨_, m₁, hclose, hreturn⟩ := exec_bind_eq_ok h
    cases hreturn
    exact ⟨cause, m', heq, hclose⟩
  · cases h

/-- The worlds of a moment of a program and of the end of the program. -/
theorem Moment.worlds (h : Moment config program task m) :
    ∃ w w', w.machine = m ∧ task.Good (Frame.top config) w ∧
      w'.machine = (exec (runBlock (Frame.top config) program .empty) .start).2 ∧ w.Later w' ∧
      w'.Sound ∧ w'.silent = false ∧
      ∀ progress, (exec (runBlock (Frame.top config) program .empty) .start).1 = .ok progress →
        (Frame.top config).Leaves progress w' := by
  have hcall := Frame.top_call_safe config
  obtain ⟨w, hm, hleads⟩ := leadsTo_of_enters (w := .start) hcall h (good_start config program)
  obtain ⟨w', hm', hlater, hsound, hleaves⟩ := hleads.ends hcall
  have hrecording : w'.silent = false := hlater.silent.trans hleads.later.silent
  exact ⟨w, w', hm, hleads.good, hm', hlater, hsound, hrecording, hleaves⟩

/-- The world at the end of a program. -/
theorem runBlock_world (config : Config) (program : List Item) :
    ∃ w, w.machine = (exec (runBlock (Frame.top config) program .empty) .start).2 ∧ w.Sound ∧
      w.silent = false ∧
      ∀ progress, (exec (runBlock (Frame.top config) program .empty) .start).1 = .ok progress →
        (Frame.top config).Leaves progress w := by
  have hstart : Moment config program (.block program .empty) .start := .refl
  obtain ⟨_, w', _, _, hm', _, hsound, hrecording, hleaves⟩ := hstart.worlds
  exact ⟨w', hm', hsound, hrecording, hleaves⟩

/-! ## The closing step -/

/-- The bindings of the last step. -/
def Machine.shownBindings (m : Machine) : Env :=
  (m.steps.back?.map (·.bindings)).getD .empty

/-- The output of the last step. -/
def Machine.shownOutput (m : Machine) : Output :=
  (m.steps.back?.map (·.output)).getD .empty

/-- The closing step has the bindings and the output of the step before it. -/
theorem exec_closeTrace (cause : Budget) (m : Machine) :
    exec (closeTrace cause) m =
      exec (addStep ((m.steps.back?.map (·.line)).getD 0) (.error cause.message) m.shownBindings
        m.shownOutput) m := by
  rw [closeTrace, exec_bind_ok (exec_get m), Machine.shownBindings, Machine.shownOutput]
  cases m.steps.back? <;> rfl

/-- The values that the last step shows belong to it. -/
theorem World.Separate.shown_knows (hw : w.Separate) (hrecording : w.silent = false) :
    ∀ v ∈ w.machine.shownBindings.values, w.machine.store.Knows v := by
  intro v hv
  rw [Machine.shownBindings] at hv
  cases hlast : w.machine.steps.back? with
  | none =>
    rw [hlast] at hv
    cases hv
  | some last =>
    rw [hlast] at hv
    rw [Array.back?_eq_getElem?] at hlast
    exact (hw.steps hrecording _ last hlast v (List.mem_append_left _ hv)).knows

/-- Closing a trace keeps everything separate, and adds one step if it succeeds. -/
theorem World.Separate.closeTrace (hw : w.Separate) (hrecording : w.silent = false) (cause : Budget) :
    ∃ w' result, exec (closeTrace cause) w.machine = (result, w'.machine) ∧ w.Later w' ∧
      w'.Separate ∧
      match result with
      | .ok _ => w.machine.Adds w.machine.shownBindings w.machine.shownOutput w'.machine
      | .error _ => w'.machine = { w.machine with store := w'.machine.store } := by
  rw [exec_closeTrace]
  have hgiven : ∀ v ∈ (Action.error cause.message).given, w.machine.store.Knows v := nofun
  obtain ⟨w', result, hexec, hlater, hseparate, hend⟩ :=
    hw.addStep hrecording _ _ (hw.shown_knows hrecording) hgiven
  refine ⟨w', result, hexec, hlater, hseparate, ?_⟩
  cases result with
  | ok _ => exact hend.1
  | error failure => exact hend

/-- The world behind a whole program: however the run ends, its steps stay separate. -/
theorem runProgram_world (hw : w.Separate) (hrecording : w.silent = false)
    (hm : w.machine = (exec (runBlock (Frame.top config) program .empty) .start).2) :
    ∃ w', w'.machine = (exec (runProgram config program) .start).2 ∧ w.Later w' ∧
      w'.Separate := by
  rw [exec_runProgram]
  split
  · next m heq =>
    rw [heq] at hm
    exact ⟨w, hm, World.Later.rfl, hw⟩
  · next cause m heq =>
    rw [heq] at hm
    obtain ⟨w', result, hexec, hlater, hseparate, _⟩ := hw.closeTrace hrecording cause
    refine ⟨w', ?_, hlater, hseparate⟩
    rw [hm] at hexec
    rw [exec_bind, hexec]
    cases result <;> rfl
  · next failure m heq =>
    rw [heq] at hm
    exact ⟨w, hm, World.Later.rfl, hw⟩

/-- A trace with a property that can be computed. -/
theorem Trace.exists_ofSource (p : Trace → Bool)
    (h : (Trace.ofSource config source).toOption.any p = true) :
    ∃ trace, Trace.ofSource config source = .ok trace ∧ p trace = true :=
  exists_ok_of_any h

/-! ## The variables and the output -/

theorem Alike.empty (s t : Store) : Alike s .empty t .empty :=
  ⟨fun _ _ => False, ⟨nofun, nofun, nofun, nofun⟩, .nil⟩

/-- What the last step of a machine has. -/
theorem Machine.Shows.last (h : m.Shows env) :
    Alike m.store env m.store m.shownBindings ∧ m.shownOutput = m.output := by
  unfold Machine.Shows at h
  unfold Machine.shownBindings Machine.shownOutput
  cases hlast : m.steps.back? with
  | none =>
    rw [hlast] at h
    obtain ⟨rfl, houtput⟩ := h
    exact ⟨Alike.empty _ _, houtput.symm⟩
  | some step =>
    rw [hlast] at h
    exact h

/-- No silent change: at every moment the last step shows the live scope and the output, and at the
end of a program that was not cut off the trace shows them. -/
theorem no_silent_change (config : Config) (source : String) :
    (∀ task m, Moment config (programOf config source) task m → m.Shows task.env) ∧
    ∀ trace, Trace.ofSource config source = .ok trace → trace.truncated = false →
      ∃ progress m,
        exec (runBlock (Frame.top config) (programOf config source) .empty) .start =
          (.ok progress, m) ∧
        trace.store = m.store ∧ Alike m.store progress.env trace.store trace.finalVariables ∧
        trace.finalOutput = m.output := by
  constructor
  · intro task m hmoment
    obtain ⟨w, _, rfl, hgood, _⟩ := hmoment.worlds
    exact hgood.tracks.shows rfl
  · intro trace htrace huntruncated
    obtain ⟨m, hrun, hsteps, hstore, _⟩ := Trace.ofSource_eq_ok htrace
    rw [huntruncated] at hrun
    obtain ⟨progress, hblock⟩ := runBlock_of_untruncated hrun
    obtain ⟨w, hm, _, _, hleaves⟩ := runBlock_world config (programOf config source)
    rw [hblock] at hm hleaves
    have hshows := ((hleaves progress rfl).1.shows rfl).last
    rw [hm] at hshows
    refine ⟨progress, m, hblock, hstore, ?_, ?_⟩
    · rw [hstore, Trace.finalVariables, hsteps]
      exact hshows.1
    · rw [Trace.finalOutput, hsteps]
      exact hshows.2

/-- A program in which a list is shared, contains itself and changes under another name. -/
def sharingProgram : String :=
  "x = [1]\ny = x\ny.append(x)"

theorem sharingProgram_trace : ∃ trace, Trace.ofSource .usual sharingProgram = .ok trace ∧
    trace.truncated = false ∧ trace.steps.size = 3 := by
  have hcomputed : (Trace.ofSource .usual sharingProgram).toOption.any
      (fun trace => !trace.truncated && trace.steps.size == 3) = true := by
    decide +kernel
  obtain ⟨trace, htrace, hp⟩ := Trace.exists_ofSource _ hcomputed
  simp only [Bool.and_eq_true, Bool.not_eq_true', beq_iff_eq] at hp
  exact ⟨trace, htrace, hp⟩

theorem no_silent_change_sharing :
    ∃ trace progress m, Trace.ofSource .usual sharingProgram = .ok trace ∧
      trace.truncated = false ∧ trace.steps.size = 3 ∧
      exec (runBlock (Frame.top .usual) (programOf .usual sharingProgram) .empty) .start =
        (.ok progress, m) ∧
      Alike m.store progress.env trace.store trace.finalVariables := by
  obtain ⟨trace, htrace, huntruncated, hsize⟩ := sharingProgram_trace
  obtain ⟨progress, m, hblock, _, halike, _⟩ := (no_silent_change _ _).2 trace htrace huntruncated
  exact ⟨trace, progress, m, htrace, huntruncated, hsize, hblock, halike⟩

/-! ## The journal -/

/-- All that happened, in order. -/
def Machine.journal (m : Machine) : List Event := m.history.reverse

/-- The output of a step in a history. -/
theorem Faithful.output_eq (h : Faithful (later ++ .recorded step :: earlier)) :
    step.output.latestFirst = earlier.filterMap Event.line? := by
  induction later with
  | nil => exact h.1
  | cons event later ih =>
    cases event with
    | recorded other => exact ih h.2
    | _ => exact ih h

/-- The output of a step in a history is the beginning of all that was printed. -/
theorem Faithful.output_suffix (h : Faithful history) (hstep : step ∈ history.filterMap Event.step?) :
    step.output.latestFirst <:+ history.filterMap Event.line? := by
  obtain ⟨event, hevent, hrecorded⟩ := List.mem_filterMap.mp hstep
  cases event with
  | printed line | passed store | called depth ref arguments store => cases hrecorded
  | recorded other =>
    cases hrecorded
    obtain ⟨later, earlier, rfl⟩ := List.append_of_mem hevent
    rw [h.output_eq, List.filterMap_append]
    exact List.suffix_append _ _

/-- The outputs of the steps in a history form a chain. -/
theorem Faithful.chain {history : List Event} (h : Faithful history) :
    (history.filterMap Event.step?).Pairwise fun later earlier =>
      earlier.output.lines <+: later.output.lines := by
  induction history with
  | nil => exact List.Pairwise.nil
  | cons event earlier ih =>
    cases event with
    | printed line | passed store | called depth ref arguments store => exact ih h
    | recorded step =>
      refine List.Pairwise.cons ?_ (ih h.2)
      intro other hother
      rw [Output.lines, Output.lines, List.reverse_prefix, h.1]
      exact h.2.output_suffix hother

/-- The output of the last step in a journal. -/
def lastOutput (journal : List Event) : Output :=
  ((journal.filterMap Event.step?).getLast?.map (·.output)).getD .empty

/-- What the history of a whole run is like.  The flag says whether it was cut off. -/
inductive Chronicled : Bool → List Event → Prop where
  | whole {history : List Event} : Faithful history → Chronicled false history
  | closed {history : List Event} {closing : Step} : Faithful history →
      closing.output = lastOutput history.reverse → Chronicled true (.recorded closing :: history)

theorem runProgram_chronicled (h : exec (runProgram config program) .start = (.ok truncated, m)) :
    m.history.filterMap Event.step? = m.steps.toList.reverse ∧ Chronicled truncated m.history := by
  obtain ⟨w, hm, hsound, hrecording, _⟩ := runBlock_world config program
  have hjournal := hsound.journal hrecording
  cases truncated with
  | false =>
    obtain ⟨progress, hblock⟩ := runBlock_of_untruncated h
    rw [hblock] at hm
    subst hm
    exact ⟨hjournal.recorded, .whole hjournal.faithful⟩
  | true =>
    obtain ⟨cause, m', hblock, hclose⟩ := runBlock_of_truncated h
    rw [hblock] at hm
    subst hm
    obtain ⟨w', result, hexec, _, _, hend⟩ := hsound.closeTrace hrecording cause
    rw [hclose] at hexec
    cases hexec
    obtain ⟨closing, hmachine, houtput, _⟩ := hend
    have hshown : w.machine.shownOutput = lastOutput w.machine.history.reverse := by
      rw [lastOutput, List.filterMap_reverse, hjournal.recorded, Machine.shownOutput,
        List.reverse_reverse, Array.getLast?_toList]
    rw [hmachine]
    constructor
    · simp [Event.step?, hjournal.recorded]
    · exact .closed hjournal.faithful (houtput.trans hshown)

/-- All that happens in the run of a program, in order. -/
def journalOf (config : Config) (source : String) : List Event :=
  (exec (runProgram config (programOf config source)) .start).2.journal

/-- Every step of a journal has all that was printed before it as its output. -/
def Complete (journal : List Event) : Prop :=
  ∀ before step after, journal = before ++ .recorded step :: after →
    step.output.lines = before.filterMap Event.line?

theorem Faithful.complete (h : Faithful history) : Complete history.reverse := by
  intro before step after hsplit
  have hhistory : history = after.reverse ++ Event.recorded step :: before.reverse := by
    rw [← List.reverse_reverse history, hsplit]
    simp
  rw [hhistory] at h
  rw [Output.lines, h.output_eq, List.filterMap_reverse, List.reverse_reverse]

/-- The outputs of the steps of a whole run form a chain as well: the closing step has the output of
the step before it. -/
theorem Chronicled.chain {truncated : Bool} {history : List Event}
    (h : Chronicled truncated history) :
    (history.filterMap Event.step?).Pairwise fun later earlier =>
      earlier.output.lines <+: later.output.lines := by
  cases h with
  | whole hfaithful => exact hfaithful.chain
  | @closed history closing hfaithful hclosing =>
    have hchain := hfaithful.chain
    refine List.Pairwise.cons ?_ hchain
    intro other hother
    rw [hclosing, lastOutput, List.filterMap_reverse, List.getLast?_reverse]
    cases hsteps : history.filterMap Event.step? with
    | nil =>
      rw [hsteps] at hother
      cases hother
    | cons last earlier =>
      rw [hsteps] at hother hchain
      rcases List.mem_cons.mp hother with rfl | hearlier
      · exact List.prefix_refl _
      · exact List.rel_of_pairwise_cons hchain hearlier

/-- A program that prints in a call that fails afterwards. -/
def printingProgram : String :=
  "def f(x):\n    print(x)\n    return x + None\nz = f(5)"

/-- The step at a place of a complete journal. -/
theorem Complete.output_at (h : Complete journal) (hstep : journal[place]?.bind Event.step? = some step)
    : step.output.lines = (journal.take place).filterMap Event.line? := by
  obtain ⟨event, hevent, hrecorded⟩ := Option.bind_eq_some_iff.mp hstep
  cases event with
  | printed line | passed store | called depth ref arguments store => cases hrecorded
  | recorded other =>
    cases hrecorded
    obtain ⟨hplace, hget⟩ := List.getElem?_eq_some_iff.mp hevent
    refine h _ step (journal.drop (place + 1)) ?_
    rw [← hget, ← List.drop_eq_getElem_cons hplace, List.take_append_drop]

end Walkthrough
