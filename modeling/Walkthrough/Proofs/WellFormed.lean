import Walkthrough.Proofs.Lockstep
import Walkthrough.Trace.Export

/-!
# Well-formed traces

The steps of a trace are numbered, stand on lines of the program, and are as many as the budgets
allow; what is counted is what happened.  A truncated trace has one step more, which says which
budget was used up and repeats what the step before it shows.

All this is watched by one monitor.  The lines of a program's items are lines of its text: joining
lines and splitting headers from inline bodies keeps their numbers.
-/

namespace Walkthrough

open Source

variable {p : Paragraph} {store : Store} {m : Machine}

/-! ## The lines of a program -/

/-- The numbers of all the lines have the property `S`. -/
def LinesIn (S : Nat → Prop) (lines : List Line) : Prop := ∀ line ∈ lines, S line.index

section

variable {S : Nat → Prop}

theorem LinesIn.sublist (h : LinesIn S lines) (hsub : lines' ⊆ lines) : LinesIn S lines' :=
  fun line hline => h line (hsub hline)

theorem linesIn_cons : LinesIn S (line :: lines) ↔ S line.index ∧ LinesIn S lines :=
  List.forall_mem_cons

theorem linesIn_append : LinesIn S (lines ++ lines') ↔ LinesIn S lines ∧ LinesIn S lines' :=
  List.forall_mem_append

theorem Line.splitInline?_index {line header body : Line}
    (h : line.splitInline? = some (header, body)) :
    header.index = line.index ∧ body.index = line.index := by
  obtain ⟨_, _, h⟩ := Option.bind_eq_some_iff.mp h
  obtain ⟨_, _, h⟩ := Option.bind_eq_some_iff.mp h
  obtain ⟨_, _, h⟩ := Option.bind_eq_some_iff.mp h
  obtain ⟨_, _, h⟩ := Option.bind_eq_some_iff.mp h
  cases h
  exact ⟨rfl, rfl⟩

theorem linesIn_expandInline (h : LinesIn S lines) : LinesIn S (expandInline lines) := by
  intro line hline
  obtain ⟨origin, horigin, hline⟩ := List.mem_flatMap.mp hline
  have hS := h origin horigin
  split at hline
  · next header body hsplit =>
    obtain ⟨hheader, hbody⟩ := Line.splitInline?_index hsplit
    rcases List.mem_pair.mp hline with rfl | rfl
    · rwa [hheader]
    · rwa [hbody]
  · rwa [List.mem_singleton.mp hline]

theorem Line.join_index (first : Line) (following : List Line) :
    (first.join following).1.index = first.index := by
  unfold Line.join
  split
  · rfl
  · split <;> rfl

/-- A paragraph with all its lines. -/
structure Paragraph.In (S : Nat → Prop) (p : Paragraph) : Prop where
  line : S p.line.index
  after : LinesIn S p.after
  body : LinesIn S p.body

theorem Paragraph.In.rest (h : p.In S) : LinesIn S p.rest :=
  h.after.sublist (List.drop_subset _ _)

theorem Paragraph.in_cut (hfirst : S first.index) (h : LinesIn S following) :
    (Paragraph.cut first following).In S where
  line := by
    change S (first.join following).1.index
    rwa [Line.join_index]
  after := h.sublist (List.drop_subset _ _)
  body := h.sublist (List.Subset.trans (List.take_subset _ _) (List.drop_subset _ _))

theorem nextAlternative?_in (h : LinesIn S lines) (hp : nextAlternative? indent lines = some p) :
    p.In S := by
  unfold nextAlternative? at hp
  split at hp
  · cases hp
  · next first following heq =>
    have hlines : LinesIn S (first :: following) :=
      h.sublist (heq ▸ (List.dropWhile_sublist _).subset)
    split at hp
    · cases hp
      exact Paragraph.in_cut (linesIn_cons.mp hlines).1 (linesIn_cons.mp hlines).2
    · cases hp

theorem alternatives_in (indent : Nat) (h : LinesIn S lines) :
    (∀ p ∈ (alternatives indent lines).1, p.In S) ∧ LinesIn S (alternatives indent lines).2 := by
  fun_induction alternatives indent lines with
  | case1 => exact ⟨List.forall_mem_nil _, h⟩
  | case2 lines p hp _ _ =>
    have hin := nextAlternative?_in h hp
    exact ⟨by simpa using hin, hin.rest⟩
  | case3 lines p hp _ _ later ih =>
    have hin := nextAlternative?_in h hp
    obtain ⟨hlater, hrest⟩ := ih hin.rest
    exact ⟨List.forall_mem_cons.mpr ⟨hin, hlater⟩, hrest⟩

/-- One thing to do with all its lines. -/
def Shape.In (S : Nat → Prop) : Shape → Prop
  | .simple line | .skip line => S line.index
  | .loop _ p | .define _ p | .repeat p => p.In S
  | .choose first rest => first.In S ∧ ∀ p ∈ rest, p.In S

theorem Paragraph.In.shape (h : p.In S) (structured : Bool) (indent : Nat) :
    (p.shape structured indent).1.In S ∧ LinesIn S (p.shape structured indent).2 := by
  unfold Paragraph.shape
  split
  · exact ⟨h.line, h.after⟩
  · exact ⟨h, h.rest⟩
  · exact ⟨h, h.rest⟩
  · exact ⟨h, h.rest⟩
  · exact ⟨h.line, h.rest⟩
  · obtain ⟨hlater, hrest⟩ := alternatives_in indent h.rest
    exact ⟨⟨h, hlater⟩, hrest⟩

theorem shapes_in (structured : Bool) (h : LinesIn S lines) :
    ∀ shape ∈ shapes structured lines, shape.In S := by
  fun_induction shapes structured lines with
  | case1 => exact nofun
  | case2 first following _ ih => exact ih (linesIn_cons.mp h).2
  | case3 first following _ next ih =>
    have hcut := Paragraph.in_cut (linesIn_cons.mp h).1 (linesIn_cons.mp h).2
    have hnext : next.1.In S ∧ LinesIn S next.2 := hcut.shape structured first.indent
    clear_value next
    exact List.forall_mem_cons.mpr ⟨hnext.1, ih hnext.2⟩

theorem linesOf_in (h : ∀ item ∈ items, LinesIn S item.lines) : LinesIn S (Item.linesOf items) := by
  induction items with
  | nil => exact nofun
  | cons item rest ih =>
    obtain ⟨hitem, hrest⟩ := List.forall_mem_cons.mp h
    rw [Item.linesOf, linesIn_append]
    exact ⟨hitem, ih hrest⟩

theorem branchLinesOf_in (h : ∀ branch ∈ branches, LinesIn S branch.lines) :
    LinesIn S (Branch.linesOf branches) := by
  induction branches with
  | nil => exact nofun
  | cons branch rest ih =>
    obtain ⟨hbranch, hrest⟩ := List.forall_mem_cons.mp h
    rw [Branch.linesOf, linesIn_append]
    exact ⟨hbranch, ih hrest⟩

/-- The items of a program stand on its lines. -/
theorem ofDepth_in (structured : Bool) (depth : Nat) (h : LinesIn S lines) :
    LinesIn S (Item.linesOf (Item.ofDepth structured depth lines)) := by
  induction depth generalizing lines with
  | zero => exact nofun
  | succ depth ih =>
    have hbranch (p : Paragraph) (condition : Option Condition) (hp : p.In S) :
        LinesIn S (Branch.mk p.line condition (Item.ofDepth structured depth p.body)).lines := by
      rw [Branch.lines, linesIn_cons]
      exact ⟨hp.line, ih hp.body⟩
    refine linesOf_in fun item hitem => ?_
    obtain ⟨shape, hshape, rfl⟩ := List.mem_map.mp hitem
    have hin := shapes_in structured h shape hshape
    cases shape with
    | simple line => simpa [Item.lines, LinesIn, Shape.In] using hin
    | skip line => exact nofun
    | define definition p => simpa [Item.lines, LinesIn] using hin.line
    | loop header p =>
      rw [Item.lines, linesIn_cons]
      exact ⟨hin.line, ih hin.body⟩
    | «repeat» p =>
      rw [Item.lines, linesIn_cons]
      exact ⟨hin.line, ih hin.body⟩
    | choose first rest =>
      rw [Item.lines, linesIn_append]
      refine ⟨hbranch first _ hin.1, branchLinesOf_in fun branch hmem => ?_⟩
      obtain ⟨p, hp, rfl⟩ := List.mem_map.mp hmem
      exact hbranch p _ (hin.2 p hp)

theorem programOf_in (config : Config) (h : LinesIn S (Line.all source)) :
    LinesIn S (Item.linesOf (programOf config source)) :=
  ofDepth_in config.structured _ (linesIn_expandInline h)

end

/-! ## What is counted -/

/-- The steps are numbered and stand on lines with the property `S`, and their errors are counted. -/
structure Machine.Numbered (S : Nat → Prop) (m : Machine) : Prop where
  index : ∀ (i : Nat) (step : Step), m.steps[i]? = some step → step.index = i
  line : ∀ step ∈ m.steps, S step.line
  errors : m.errors = m.steps.countP (·.action.isError)

/-- No more steps have been recorded and no more statements counted than the budgets allow. -/
structure Machine.Affords (config : Config) (m : Machine) : Prop where
  steps : m.steps.size ≤ max config.maxSteps 0
  statements : m.tally.statements ≤ max config.maxStatements 0

/-- A budget has just been used up: there is no room for another step, or one statement too many has
been counted. -/
inductive UsedUp (config : Config) (m : Machine) : Budget → Prop where
  | step (h : config.maxSteps ≤ m.steps.size) (haffords : m.Affords config) :
    UsedUp config m (.step config.maxSteps)
  | statement (h : config.maxStatements < m.tally.statements)
    (hsteps : m.steps.size ≤ max config.maxSteps 0)
    (hone : m.tally.statements ≤ max config.maxStatements 0 + 1) :
    UsedUp config m (.statement config.maxStatements)

/-- How a run may have ended. -/
def Machine.EndsWith (config : Config) (m : Machine) : Option Failure → Prop
  | some (.budget cause) => UsedUp config m cause
  | _ => m.Affords config

section

variable {config : Config} {S : Nat → Prop} {m m' : Machine}

theorem Machine.Numbered.same (h : m.Numbered S) (hsteps : m'.steps = m.steps)
    (herrors : m'.errors = m.errors) : m'.Numbered S := by
  constructor
  · rw [hsteps]
    exact h.index
  · rw [hsteps]
    exact h.line
  · rw [hsteps, herrors]
    exact h.errors

theorem Machine.Affords.same (h : m.Affords config) (hsteps : m'.steps = m.steps)
    (htally : m'.tally.statements = m.tally.statements) : m'.Affords config := by
  constructor
  · rw [hsteps]
    exact h.steps
  · rw [htally]
    exact h.statements

theorem UsedUp.same (h : UsedUp config m cause) (hsteps : m'.steps = m.steps)
    (htally : m'.tally.statements = m.tally.statements) : UsedUp config m' cause := by
  cases h with
  | step h haffords => exact .step (by rwa [hsteps]) (haffords.same hsteps htally)
  | statement h hsize hone =>
    exact .statement (by rwa [htally]) (by rwa [hsteps]) (by rwa [htally])

theorem Machine.EndsWith.same {failure? : Option Failure} (h : m.EndsWith config failure?)
    (hsteps : m'.steps = m.steps) (htally : m'.tally.statements = m.tally.statements) :
    m'.EndsWith config failure? := by
  rcases failure? with _ | (_ | _ | cause | _)
  · exact Machine.Affords.same h hsteps htally
  · exact Machine.Affords.same h hsteps htally
  · exact Machine.Affords.same h hsteps htally
  · exact UsedUp.same h hsteps htally
  · exact Machine.Affords.same h hsteps htally

/-- A plain end. -/
theorem Machine.Affords.endsWith (h : m.Affords config) {failure? : Option Failure}
    (hplain : ∀ failure, failure? = some failure → failure.Arises) :
    m.EndsWith config failure? := by
  rcases failure? with _ | (_ | _ | cause | _)
  · exact h
  · exact h
  · exact h
  · cases hplain _ rfl
  · exact h

/-- One statement more. -/
theorem Machine.Affords.counted (h : m.Affords config) :
    (m.counted config).EndsWith config (failure? (exec (countStatement config) m).1) := by
  have hcounted := { m with tally.statements := m.tally.statements + 1 }.noted_eq config .passed
  have hsteps : (m.counted config).steps = m.steps := by rw [Machine.counted, hcounted]
  have hstatements : (m.counted config).tally.statements = m.tally.statements + 1 := by
    rw [Machine.counted, hcounted]
  have hsize := h.steps
  have htotal := h.statements
  rw [← hsteps] at hsize
  rw [exec_countStatement]
  split
  · next hover =>
    refine UsedUp.statement hover hsize ?_
    omega
  · next hunder =>
    refine Machine.Affords.mk hsize ?_
    omega

/-- The machine keeps its books: whatever a run does, they stay right. -/
def Monitor.books (config : Config) (S : Nat → Prop) : Monitor config where
  holds m failure? m' := m.Numbered S → m.Affords config →
    m'.Numbered S ∧ m'.EndsWith config failure?
  moves m store lines _ hplain hnumbered haffords :=
    ⟨hnumbered.same rfl rfl,
      Machine.Affords.endsWith (m := m.after store lines) (haffords.same rfl rfl) hplain⟩
  trans h h' hnumbered haffords := by
    obtain ⟨hnumbered', haffords'⟩ := h hnumbered haffords
    exact h' hnumbered' haffords'
  settle cause? h hnumbered haffords := by
    obtain ⟨hnumbered', haffords'⟩ := h hnumbered haffords
    refine ⟨hnumbered', ?_⟩
    cases cause? <;> exact haffords'
  rollBack _ h hnumbered haffords := by
    obtain ⟨hnumbered', hends⟩ := h hnumbered haffords
    exact ⟨hnumbered'.same rfl rfl, hends.same rfl rfl⟩
  statement m hnumbered haffords := by
    have hends := haffords.counted
    rw [exec_countStatement] at hends ⊢
    refine ⟨?_, hends⟩
    rw [Machine.counted, Machine.noted_eq]
    exact hnumbered.same rfl rfl
  tally m calls iterations hnumbered haffords := ⟨hnumbered.same rfl rfl, haffords.same rfl rfl⟩
  note m event hnumbered haffords := by
    rw [Machine.noted_eq]
    exact ⟨hnumbered.same rfl rfl, haffords.same rfl rfl⟩

/-- One step more. -/
theorem Machine.Numbered.withStep (h : m.Numbered S) (hindex : step.index = m.steps.size)
    (hline : S step.line) : (m.withStep store step).Numbered S where
  index i old hold := by
    rw [Machine.withStep, Array.getElem?_push] at hold
    split at hold
    · next hi =>
      cases hold
      rw [hindex, hi]
    · exact h.index i old hold
  line := by
    intro old hold
    rcases Array.mem_push.mp hold with hold | rfl
    · exact h.line old hold
    · exact hline
  errors := by
    rw [Machine.withStep, Array.countP_push, h.errors]
    split <;> rfl

/-- Recording keeps the books, on lines of the program. -/
theorem record_books (line : Line) (action : Action) (env : Env) (hline : S line.index)
    (m : Machine) :
    (Monitor.books config S).Watches ((Frame.top config).record line action env) m := by
  intro hnumbered haffords
  have hsteps : (m.noted config .passed).steps = m.steps := by rw [Machine.noted_eq]
  have hnumbered' : (m.noted config .passed).Numbered S := by
    rw [Machine.noted_eq]
    exact hnumbered.same rfl rfl
  have haffords' : (m.noted config .passed).Affords config := by
    rw [Machine.noted_eq]
    exact haffords.same rfl rfl
  rw [exec_record_top]
  split
  · next hfull =>
    refine ⟨hnumbered', UsedUp.step ?_ haffords'⟩
    rw [hsteps]
    exact hfull
  · next hroom =>
    rw [exec_addStep]
    split
    · next failure store hfailed =>
      obtain rfl := stepParts_failsAs hfailed
      exact ⟨hnumbered'.same rfl rfl, haffords'.same rfl rfl⟩
    · refine ⟨hnumbered'.withStep rfl hline, Machine.Affords.mk ?_ haffords'.statements⟩
      rw [Machine.withStep, Array.size_push, hsteps]
      omega

end

/-! ## The whole trace -/

/-- The step that closes a trace shows what the last step before it shows; without one it shows
nothing, on the first line. -/
def Step.Repeats (store : Store) (last? : Option Step) (closing : Step) : Prop :=
  match last? with
  | some last => closing.line = last.line ∧ closing.output = last.output ∧
    Alike store last.bindings store closing.bindings
  | none => closing.line = 0 ∧ closing.output = .empty ∧ closing.bindings = .empty

/-- A budget was reached: that of steps before the closing one, or that of statements by the last
one. -/
def Budget.Reached (config : Config) (steps : Array Step) (tally : Tally) : Budget → Prop
  | .step limit => limit = config.maxSteps ∧ config.maxSteps ≤ steps.size
  | .statement limit => limit = config.maxStatements ∧ config.maxStatements < tally.statements

/-- What every trace is like. -/
structure Trace.WellFormed (config : Config) (trace : Trace) : Prop where
  index : ∀ (i : Nat) (step : Step), trace.steps[i]? = some step → step.index = i
  line : ∀ step ∈ trace.steps, ∃ line ∈ trace.lines, line.index = step.line
  errors : trace.errors = trace.steps.countP (·.action.isError)
  /-- The exported counts are those of the exported steps. -/
  stats : ∀ document, trace.toJson = .ok document → ∃ lines steps, document = .ofTable ⟨[
    ("lines", .list lines), ("steps", .list steps),
    ("stats", .ofTable ⟨[("steps", .nat steps.length),
      ("errors", .nat (trace.steps.countP (·.action.isError))),
      ("function_calls", .nat trace.tally.calls),
      ("loop_iterations", .nat trace.tally.iterations),
      ("statements", .nat trace.tally.statements)]⟩),
    ("truncated", .bool trace.truncated)]⟩
  whole : trace.truncated = false →
    trace.steps.size ≤ max config.maxSteps 0 ∧
    trace.tally.statements ≤ max config.maxStatements 0
  cut : trace.truncated = true →
    trace.steps.size ≤ max config.maxSteps 0 + 1 ∧
    trace.tally.statements ≤ max config.maxStatements 0 + 1 ∧
    ∃ (steps : Array Step) (closing : Step) (cause : Budget), trace.steps = steps.push closing ∧
      closing.action = .error cause.message ∧ cause.Reached config steps trace.tally ∧
      closing.Repeats trace.store steps.back?

/-- The numbers of the lines of a text. -/
def lineNumbers (source : String) (index : Nat) : Prop :=
  ∃ line ∈ Line.all source, line.index = index

/-- Every text has a first line. -/
theorem lineNumbers_zero (source : String) : lineNumbers source 0 := by
  unfold lineNumbers Line.all
  cases htexts : source.toList.splitOn '\n' with
  | nil => exact absurd htexts (List.splitOn_ne_nil _ _)
  | cons text texts => exact ⟨_, by rw [List.mapIdx_cons]; exact List.mem_cons_self, rfl⟩

/-- The books of a program before its trace is closed. -/
theorem runBlock_books (config : Config) (source : String) :
    (exec (runBlock (Frame.top config) (programOf config source) .empty) .start).2.Numbered
      (lineNumbers source) ∧
    (exec (runBlock (Frame.top config) (programOf config source) .empty) .start).2.EndsWith config
      (failure? (exec (runBlock (Frame.top config) (programOf config source) .empty) .start).1) := by
  have hframes : (Judgement.lockstep (.books config (lineNumbers source)) config.notes).Frames
      (fun line => lineNumbers source line.index) _ _ :=
    .top fun line action env m hline => record_books line action env hline m
  have hlines : ∀ line ∈ Item.linesOf (programOf config source), lineNumbers source line.index :=
    programOf_in config fun line hline => ⟨line, hline, rfl⟩
  have hblock := hframes.block (Judgement.lockstep_sameBlocks _ config.notes) _ hlines .identity
    .empty .empty (envLike_refl .empty) rfl
  have hstart : Machine.start.Numbered (lineNumbers source) :=
    ⟨by simp [Machine.start], by simp [Machine.start], rfl⟩
  have haffords : Machine.start.Affords config := ⟨Int.le_max_right _ _, Int.le_max_right _ _⟩
  exact hblock.watches .start hstart haffords

/-- An error is its own copy. -/
theorem stepParts_error (h : stepParts store (.error message) env = (.ok (bindings, action), store')) :
    action = .error message := by
  unfold stepParts at h
  split at h
  · cases h
  · split at h
    · cases h
    · next heq =>
      cases h
      cases heq
      rfl

/-- The step that closes a trace. -/
theorem closeTrace_closing {cause : Budget} {w : World} (hw : w.Separate) (hrecording : w.silent = false)
    (h : exec (closeTrace cause) w.machine = (.ok (), m)) :
    ∃ store closing, m = w.machine.withStep store closing ∧
      closing.index = w.machine.steps.size ∧ closing.action = .error cause.message ∧
      closing.Repeats m.store w.machine.steps.back? := by
  obtain ⟨w', result, hexec, _, _, hend⟩ := hw.closeTrace hrecording cause
  rw [h] at hexec
  cases hexec
  obtain ⟨step, hmachine, houtput, halike⟩ := hend
  rw [exec_closeTrace, exec_addStep] at h
  split at h
  · cases h
  · next bindings action store hparts =>
    have haction := stepParts_error hparts
    have hwith := (Prod.mk.inj h).2
    have hsteps : w'.machine.steps = w.machine.steps.push step := by rw [hmachine]
    rw [← hwith, Machine.withStep, Array.push_inj_right] at hsteps
    subst hsteps
    refine ⟨store, _, hwith.symm, rfl, haction, ?_⟩
    rw [Machine.shownBindings] at halike
    unfold Step.Repeats Machine.shownOutput
    cases hlast : w.machine.steps.back? with
    | some last =>
      rw [hlast] at halike
      exact ⟨rfl, rfl, halike⟩
    | none =>
      rw [hlast] at halike
      obtain ⟨r, _, hmatches⟩ := halike
      refine ⟨rfl, rfl, congrArg Table.mk ?_⟩
      exact List.forall₂_nil_left_iff.mp hmatches

theorem length_of_mapM {ε α β : Type} {f : α → Except ε β} {l : List α} {l' : List β}
    (h : l.mapM f = .ok l') : l'.length = l.length := by
  induction l generalizing l' with
  | nil =>
    cases h
    rfl
  | cons a l ih =>
    rw [List.mapM_cons] at h
    obtain ⟨b, _, h⟩ := except_bind_eq_ok h
    obtain ⟨rest, hrest, h⟩ := except_bind_eq_ok h
    cases h
    rw [List.length_cons, List.length_cons, ih hrest]

/-- The closing step stands on a line of the text. -/
theorem Machine.Numbered.closing_line {source : String} (h : m.Numbered (lineNumbers source))
    {closing : Step} (hrepeats : closing.Repeats store m.steps.back?) :
    lineNumbers source closing.line := by
  unfold Step.Repeats at hrepeats
  split at hrepeats
  · next last hlast =>
    rw [hrepeats.1]
    exact h.line last (Array.mem_of_back? hlast)
  · rw [hrepeats.1]
    exact lineNumbers_zero source

/-- The exported counts. -/
theorem Trace.toJson_stats {trace : Trace} {document : Json} (h : trace.toJson = .ok document)
    (herrors : trace.errors = trace.steps.countP (·.action.isError)) :
    ∃ lines steps, document = .ofTable ⟨[
      ("lines", .list lines), ("steps", .list steps),
      ("stats", .ofTable ⟨[("steps", .nat steps.length),
        ("errors", .nat (trace.steps.countP (·.action.isError))),
        ("function_calls", .nat trace.tally.calls),
        ("loop_iterations", .nat trace.tally.iterations),
        ("statements", .nat trace.tally.statements)]⟩),
      ("truncated", .bool trace.truncated)]⟩ := by
  obtain ⟨steps, hsteps, h⟩ := except_bind_eq_ok h
  cases h
  have hlength : steps.length = trace.steps.size := by
    rw [length_of_mapM hsteps, Array.length_toList]
  rw [← hlength, ← herrors]
  exact ⟨_, steps, rfl⟩

/-- Every trace is well formed. -/
theorem ofSource_wellFormed (config : Config) (source : String) (trace : Trace)
    (htrace : Trace.ofSource config source = .ok trace) :
    trace.lines = Line.all source ∧ trace.WellFormed config := by
  obtain ⟨m, hrun, heq⟩ := Trace.ofSource_eq htrace
  obtain ⟨hnumbered, hends⟩ := runBlock_books config source
  generalize trace.truncated = truncated at hrun heq
  subst heq
  refine ⟨rfl, ?_⟩
  cases truncated with
  | false =>
    obtain ⟨progress, hblock⟩ := runBlock_of_untruncated hrun
    rw [hblock] at hnumbered hends
    exact ⟨hnumbered.index, hnumbered.line, hnumbered.errors,
      fun _ hdocument => Trace.toJson_stats hdocument hnumbered.errors,
      fun _ => ⟨hends.steps, hends.statements⟩, nofun⟩
  | true =>
    obtain ⟨cause, m', hblock, hclose⟩ := runBlock_of_truncated hrun
    obtain ⟨w, hm, hsound, hrecording, _⟩ := runBlock_world config (programOf config source)
    rw [hblock] at hnumbered hends hm
    subst hm
    obtain ⟨store, closing, rfl, hindex, haction, hrepeats⟩ :=
      closeTrace_closing hsound.toSeparate hrecording hclose
    have hnumbered' : (w.machine.withStep store closing).Numbered (lineNumbers source) :=
      hnumbered.withStep hindex (hnumbered.closing_line hrepeats)
    refine ⟨hnumbered'.index, hnumbered'.line, hnumbered'.errors,
      fun _ hdocument => Trace.toJson_stats hdocument hnumbered'.errors, nofun, fun _ => ?_⟩
    have hsize : ((w.machine.withStep store closing).trace source true).steps.size =
        w.machine.steps.size + 1 := Array.size_push ..
    have hused : UsedUp config w.machine cause := hends
    cases hused with
    | step hfull haffords =>
      have hsteps := haffords.steps
      have hstatements := haffords.statements
      refine ⟨by omega, ?_, w.machine.steps, closing, _, rfl, haction, ⟨rfl, hfull⟩, hrepeats⟩
      change (w.machine.tally.statements : Int) ≤ _
      omega
    | statement hover hsteps hone =>
      exact ⟨by omega, hone, w.machine.steps, closing, _, rfl, haction, ⟨rfl, hover⟩, hrepeats⟩

/-- A trace with room for one step, and one with room for less than none. -/
theorem ofSource_wellFormed_cut :
    (∃ trace, Trace.ofSource { Config.usual with maxSteps := 1 } "x = 1\nprint(x)" = .ok trace ∧
      trace.truncated = true ∧ trace.steps.size = 2 ∧
      trace.WellFormed { Config.usual with maxSteps := 1 }) ∧
    ∃ trace, Trace.ofSource { Config.usual with maxStatements := -1 } "x = 1" = .ok trace ∧
      trace.truncated = true ∧ trace.steps.size = 1 ∧
      trace.WellFormed { Config.usual with maxStatements := -1 } := by
  have hstep : (Trace.ofSource { Config.usual with maxSteps := 1 } "x = 1\nprint(x)").toOption.any
      (fun trace => trace.truncated && trace.steps.size == 2) = true := by
    decide +kernel
  have hstatement : (Trace.ofSource { Config.usual with maxStatements := -1 } "x = 1").toOption.any
      (fun trace => trace.truncated && trace.steps.size == 1) = true := by
    decide +kernel
  obtain ⟨trace, htrace, hp⟩ := Trace.exists_ofSource _ hstep
  obtain ⟨trace', htrace', hp'⟩ := Trace.exists_ofSource _ hstatement
  simp only [Bool.and_eq_true, beq_iff_eq] at hp hp'
  exact ⟨⟨trace, htrace, hp.1, hp.2, (ofSource_wellFormed _ _ trace htrace).2⟩,
    trace', htrace', hp'.1, hp'.2, (ofSource_wellFormed _ _ trace' htrace').2⟩

end Walkthrough
