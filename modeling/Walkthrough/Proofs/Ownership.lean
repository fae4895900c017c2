import Walkthrough.Proofs.Renaming

/-!
# Who owns a node

While a program runs, its lists and dictionaries fall into groups that never mix: those of the live
scopes, those of every recorded step, and those of every function, which hold the bindings of its
definition.  A `World` is a machine with an owner for every node.  In a sound world a node holds only
what its owner owns, and `World.Later` says that from one world to another only live nodes have
changed.  In a silent world, where nothing is known of the steps and the past of the machine, this is
all; otherwise functions own themselves, and steps own what they show.

`Upholds` is the judgement that all parts of the interpreter satisfy: from a sound world a
computation goes to a later sound one, however it ends.  Its rules for the ways to build a
computation come first, then those for the operations on the store.

The judgement also follows the journal of a machine: what is printed and what is recorded goes to the
history in the order in which it happens, every recorded step has the output of its time, and from
every store that was noted to the one at hand no function and no step has changed.
-/

namespace Walkthrough

variable {w w' : World} {o : Owner} {v : Value} {ref : Nat} {step : Step} {s : Store} {n : Node}
  {action : Action} {env : Env}

/-! ## Worlds -/

/-- To whom a node belongs.  One that is `outside` belongs to nobody: it may hold anything. -/
inductive Owner where
  | live
  | step (index : Nat)
  | closure (ref : Nat)
  | outside
deriving DecidableEq

/-- A machine and the owners of its nodes.  In a silent world nothing is recorded. -/
structure World where
  owner : Node → Owner
  machine : Machine
  silent : Bool

/-- Whether something that belongs to `o` may refer to a value: its node exists, and if it is a
container it belongs to `o` as well. -/
def World.Holds (w : World) (o : Owner) (v : Value) : Prop :=
  ∀ n, v.node? = some n → w.machine.store.Has n ∧ (n.IsContainer → o = .outside ∨ w.owner n = o)

/-- Whether a value may be in a live scope. -/
abbrev World.Live (w : World) (v : Value) : Prop := w.Holds .live v

/-- The line that was printed, if the event is that. -/
def Event.line? : Event → Option String
  | .printed line => some line
  | _ => none

/-- The step that was recorded, if the event is that. -/
def Event.step? : Event → Option Step
  | .recorded step => some step
  | _ => none

/-- The store that was noted, if the event is that. -/
def Event.store? : Event → Option Store
  | .passed store | .called _ _ _ store => some store
  | _ => none

/-- A call that was noted was one of a function that exists, with values that do. -/
def Event.Sensible : Event → Prop
  | .called _ ref arguments store =>
    store.Valid ∧ store.Knows (.function ref) ∧ ∀ v ∈ arguments, store.Knows v
  | _ => True

/-- Every recorded step has just the output that was printed before it. -/
def Faithful : List Event → Prop
  | [] => True
  | .recorded step :: earlier =>
    step.output.latestFirst = earlier.filterMap Event.line? ∧ Faithful earlier
  | _ :: earlier => Faithful earlier

/-- The functions of `s`, and the steps that were recorded, are the same in `t`. -/
structure Preserves (history : List Event) (s t : Store) : Prop where
  functions : ∀ ref, s.Has (.function ref) → s.Kept t [.function ref]
  steps : ∀ step ∈ history.filterMap Event.step?, s.Kept t step.held

/-- From every store that was noted to every later one, and to the one at hand, all functions and
steps are preserved. -/
def Remembers : List Event → Store → Prop
  | [], _ => True
  | event :: earlier, now =>
    (∀ s, event.store? = some s → event.Sensible ∧ Preserves earlier s now ∧ Remembers earlier s) ∧
      Remembers earlier now

/-- The output is what has been printed. -/
def Machine.InSync (m : Machine) : Prop :=
  m.output.latestFirst = m.history.filterMap Event.line?

/-- Every node holds only what its owner owns, and so does every step. -/
structure World.Separate (w : World) : Prop where
  cells : ∀ n, ∀ v ∈ (w.machine.store.cell n).values, w.Holds (w.owner n) v
  closures : w.silent = false → ∀ ref, w.machine.store.Has (.function ref) →
    w.owner (.function ref) = .closure ref
  steps : w.silent = false → ∀ i step, w.machine.steps[i]? = some step →
    ∀ v ∈ step.held, w.Holds (.step i) v

/-- What holds of the past of a machine until the trace is closed. -/
structure Machine.Journal (m : Machine) : Prop where
  recorded : m.history.filterMap Event.step? = m.steps.toList.reverse
  faithful : Faithful m.history
  copyable : ∀ (i : Nat) (step : Step), m.steps[i]? = some step → m.store.Copyable step.bindings
  remembers : Remembers m.history m.store

/-- What holds of a world until the trace is closed. -/
structure World.Sound (w : World) : Prop extends w.Separate where
  journal : w.silent = false → w.machine.Journal

/-- What holds of a world as long as the run goes on. -/
structure World.Fine (w : World) : Prop extends w.Sound where
  inSync : w.silent = false → w.machine.InSync

/-- From `w` to `w'` nothing went away, no owner changed, only live nodes changed, nothing that was
recorded or printed was taken back, and in silence nothing was recorded. -/
structure World.Later (w w' : World) : Prop where
  has {n : Node} : w.machine.store.Has n → w'.machine.store.Has n
  owner {n : Node} : w.machine.store.Has n → w'.owner n = w.owner n
  frozen {n : Node} : w.machine.store.Has n → w.owner n ≠ .live →
    w'.machine.store.cell n = w.machine.store.cell n
  steps : w.machine.steps.toList <+: w'.machine.steps.toList
  history : w.machine.history <:+ w'.machine.history
  silent : w'.silent = w.silent
  silence : w.silent = true → w'.machine.steps = w.machine.steps

theorem World.Later.rfl : w.Later w where
  has := id
  owner := fun _ => Eq.refl _
  frozen := fun _ _ => Eq.refl _
  steps := List.prefix_refl _
  history := List.suffix_refl _
  silent := Eq.refl _
  silence := fun _ => Eq.refl _

theorem World.Later.trans {w'' : World} (h : w.Later w') (h' : w'.Later w'') :
    w.Later w'' where
  has hn := h'.has (h.has hn)
  owner hn := (h'.owner (h.has hn)).trans (h.owner hn)
  frozen {n} hn hlive := by
    have hlive' : w'.owner n ≠ .live := by rwa [h.owner hn]
    exact (h'.frozen (h.has hn) hlive').trans (h.frozen hn hlive)
  steps := h.steps.trans h'.steps
  history := h.history.trans h'.history
  silent := h'.silent.trans h.silent
  silence hw := (h'.silence (h.silent.trans hw)).trans (h.silence hw)

/-- What may be referred to once may always be referred to. -/
theorem World.Later.holds (h : w.Later w') (hv : w.Holds o v) : w'.Holds o v := by
  intro n hn
  obtain ⟨hhas, howner⟩ := hv n hn
  refine ⟨h.has hhas, fun hc => ?_⟩
  rw [h.owner hhas]
  exact howner hc

theorem World.Later.holds_all (h : w.Later w') {vs : List Value} (hvs : ∀ v ∈ vs, w.Holds o v) :
    ∀ v ∈ vs, w'.Holds o v :=
  fun v hv => h.holds (hvs v hv)

/-- A scalar without a mark may be referred to from anywhere. -/
theorem World.holds_plain (hx : x.isNan = false) : w.Holds o (.scalar x) := by
  intro n hn
  rw [Value.node?_scalar_eq_none hx] at hn
  cases hn

/-- A function may be referred to from anywhere. -/
theorem World.holds_function (h : w.Holds o (.function ref)) : w.Holds o' (.function ref) := by
  intro n hn
  cases hn
  exact ⟨(h _ rfl).1, False.elim⟩

theorem World.Separate.valid (hw : w.Separate) : w.machine.store.Valid :=
  fun n v hv k hk => (hw.cells n v hv k hk).1

theorem World.Holds.knows (hv : w.Holds o v) :
    w.machine.store.Knows v :=
  fun n hn => (hv n hn).1

/-! ## What never changes -/

/-- A node that belongs neither to the live scopes nor to nobody.  A mark has nothing to change. -/
def World.Fixed (w : World) (n : Node) : Prop :=
  (∃ mark, n = .mark mark) ∨ w.owner n ≠ .live ∧ w.owner n ≠ .outside

/-- All that is reached from the values of a step or a function, also through functions, is fixed. -/
theorem World.Separate.reach_fixed (hw : w.Separate) (hsilent : w.silent = false) (hlive : o ≠ .live)
    (houtside : o ≠ .outside) (hroots : ∀ v ∈ roots, w.Holds o v)
    (h : w.machine.store.Reach true roots n) : w.machine.store.Has n ∧ w.Fixed n := by
  -- A holder that is neither live nor outside leads to such nodes only.
  have hnext {o : Owner} {v : Value} {l : Node} (hlive : o ≠ .live) (houtside : o ≠ .outside)
      (hv : w.Holds o v) (hl : v.node? = some l) : w.machine.store.Has l ∧ w.Fixed l := by
    obtain ⟨hhas, howner⟩ := hv l hl
    refine ⟨hhas, ?_⟩
    cases l with
    | mark mark => exact .inl ⟨mark, rfl⟩
    | function ref =>
      have hsame : w.owner (.function ref) = .closure ref := hw.closures hsilent ref hhas
      rw [World.Fixed, hsame]
      exact .inr ⟨nofun, nofun⟩
    | list ref | dict ref =>
      have hsame := (howner trivial).resolve_left houtside
      rw [World.Fixed, hsame]
      exact .inr ⟨hlive, houtside⟩
  refine h.induct_node (fun n => w.machine.store.Has n ∧ w.Fixed n) ?_ ?_
  · intro v hv k hk
    exact hnext hlive houtside (hroots v hv) hk
  · intro k hk _ v hv l hl
    rcases hk.2 with ⟨mark, rfl⟩ | ⟨hlive, houtside⟩
    · cases hv
    · exact hnext hlive houtside (hw.cells k v hv) hl

theorem World.Later.cell_of_fixed (h : w.Later w') (hn : w.machine.store.Has n) (hfixed : w.Fixed n) :
    w'.machine.store.cell n = w.machine.store.cell n := by
  rcases hfixed with ⟨mark, rfl⟩ | ⟨hlive, _⟩
  · rfl
  · exact h.frozen hn hlive

/-- What belongs to a step or a function is kept. -/
theorem World.Later.kept (h : w.Later w') (hw : w.Separate) (hsilent : w.silent = false)
    (hlive : o ≠ .live) (houtside : o ≠ .outside) (hroots : ∀ v ∈ roots, w.Holds o v) :
    w.machine.store.Kept w'.machine.store roots := by
  intro n hn
  obtain ⟨hhas, hfixed⟩ := hw.reach_fixed hsilent hlive houtside hroots hn
  exact ⟨h.has, h.cell_of_fixed hhas hfixed⟩

theorem World.Later.kept_step (h : w.Later w') (hw : w.Separate) (hsilent : w.silent = false) {i : Nat}
    (hstep : w.machine.steps[i]? = some step) :
    w.machine.store.Kept w'.machine.store step.held :=
  h.kept hw hsilent (o := .step i) nofun nofun (hw.steps hsilent i step hstep)

theorem World.Later.preserves (h : w.Later w') (hw : w.Sound) (hsilent : w.silent = false) :
    Preserves w.machine.history w.machine.store w'.machine.store where
  functions ref href := by
    refine h.kept hw.toSeparate hsilent (o := .closure ref) nofun nofun ?_
    intro v hv n hn
    obtain rfl := List.mem_singleton.mp hv
    cases hn
    exact ⟨href, False.elim⟩
  steps step hstep := by
    rw [(hw.journal hsilent).recorded, List.mem_reverse] at hstep
    obtain ⟨i, hi⟩ := List.mem_iff_getElem?.mp hstep
    rw [Array.getElem?_toList] at hi
    exact h.kept_step hw.toSeparate hsilent hi

/-- What was preserved up to now is preserved as long as nothing goes wrong with it. -/
theorem Preserves.trans {history earlier : List Event} (h : Preserves earlier s t)
    (h' : Preserves history t u) (hsteps : earlier <:+ history) : Preserves earlier s u where
  functions ref href := by
    have hroot : s.Reach true [.function ref] (.function ref) := .root (List.mem_singleton_self _) rfl
    exact (h.functions ref href).trans (h'.functions ref (((h.functions ref href) _ hroot).1 href))
  steps step hstep := (h.steps step hstep).trans
    (h'.steps step ((hsteps.filterMap Event.step?).subset hstep))

theorem Remembers.later {history events : List Event} {t : Store} (h : Remembers events s)
    (hst : Preserves history s t) (hevents : events <:+ history) : Remembers events t := by
  induction events with
  | nil => trivial
  | cons event earlier ih =>
    have hearlier : earlier <:+ history := (List.suffix_cons _ _).trans hevents
    refine ⟨fun u hu => ?_, ih h.2 hearlier⟩
    obtain ⟨hsensible, hpreserves, hremembers⟩ := h.1 u hu
    exact ⟨hsensible, hpreserves.trans hst hearlier, hremembers⟩

/-- What was preserved from a store that was noted to the one at hand. -/
theorem Remembers.preserves {later earlier : List Event} (h : Remembers (later ++ event :: earlier) now)
    (hs : event.store? = some s) : event.Sensible ∧ Preserves earlier s now := by
  induction later with
  | nil => exact ⟨(h.1 s hs).1, (h.1 s hs).2.1⟩
  | cons _ later ih => exact ih h.2

/-- The steps can still be copied later. -/
theorem World.Sound.copyable_later (hw : w.Sound) (h : w.Later w') (hsilent : w.silent = false) {i : Nat}
    (hstep : w.machine.steps[i]? = some step) :
    w'.machine.store.Copyable step.bindings := by
  have hbindings {v : Value} (hv : v ∈ step.bindings.values) : v ∈ step.held :=
    List.mem_append_left _ hv
  refine Store.Copyable.of_kept hw.toSeparate.valid ?_ ?_ ((hw.journal hsilent).copyable i step hstep)
  · exact fun v hv => (hw.steps hsilent i step hstep v (hbindings hv)).knows
  · exact h.kept hw.toSeparate hsilent (o := .step i) nofun nofun
      fun v hv => hw.steps hsilent i step hstep v (hbindings hv)

/-- A change that neither prints nor records nor notes keeps the journal. -/
theorem World.Sound.journal_later (hw : w.Sound) (h : w.Later w')
    (hsteps : w'.machine.steps = w.machine.steps) (hhistory : w'.machine.history = w.machine.history)
    (hsilent : w'.silent = false) : w'.machine.Journal := by
  rw [h.silent] at hsilent
  refine ⟨?_, ?_, ?_, ?_⟩
  · rw [hhistory, hsteps]
    exact (hw.journal hsilent).recorded
  · rw [hhistory]
    exact (hw.journal hsilent).faithful
  · rw [hsteps]
    exact fun i step hstep => hw.copyable_later h hsilent hstep
  · rw [hhistory]
    exact (hw.journal hsilent).remembers.later (h.preserves hw hsilent) (List.suffix_refl _)

/-! ## The judgement -/

/-- A failure that ends a statement only.  After any other the output is not looked at any more. -/
def Failure.IsError : Failure → Prop
  | .error _ => True
  | _ => False

/-- From the world `w` the computation goes to a later sound world.  If it succeeds the output is in
step with what was printed and `post` holds; if it fails the output is so if the failure is one that
`settles`. -/
def Upholds {ε α : Type} (settles : ε → Prop) (x : ExceptT ε (StateM Machine) α) (w : World)
    (post : α → World → Prop) : Prop :=
  ∃ owner, w.Later ⟨owner, (exec x w.machine).2, w.silent⟩ ∧
    World.Sound ⟨owner, (exec x w.machine).2, w.silent⟩ ∧
    match (exec x w.machine).1 with
    | .ok a => (w.silent = false → (exec x w.machine).2.InSync) ∧
      post a ⟨owner, (exec x w.machine).2, w.silent⟩
    | .error failure => settles failure → w.silent = false → (exec x w.machine).2.InSync

/-- The judgement for runs. -/
abbrev Safe {α : Type} (x : Run α) (w : World) (post : α → World → Prop) : Prop :=
  Upholds Failure.IsError x w post

section

variable {ε α β : Type} {settles : ε → Prop} {w : World} {P : α → World → Prop}

/-- Only what the computation does with the machine of the world counts. -/
theorem Upholds.congr (hexec : exec x w.machine = exec y w.machine)
    (hy : Upholds settles y w P) : Upholds settles x w P := by
  unfold Upholds at hy ⊢
  rwa [hexec]

theorem Upholds.pure {a : α} (hw : w.Fine) (h : P a w) : Upholds settles (pure a) w P :=
  ⟨w.owner, World.Later.rfl, hw.toSound, hw.inSync, h⟩

theorem Upholds.throw {failure : ε} (hw : w.Fine) :
    Upholds settles (throw failure : ExceptT ε (StateM Machine) α) w P :=
  ⟨w.owner, World.Later.rfl, hw.toSound, fun _ => hw.inSync⟩

theorem Upholds.bind (hx : Upholds settles x w P)
    (hf : ∀ a w', w'.Fine → w.Later w' → P a w' → Upholds settles (f a) w' Q) :
    Upholds settles (x >>= f) w Q := by
  obtain ⟨owner, hlater, hsound, hend⟩ := hx
  rcases hexec : exec x w.machine with ⟨failure | a, m⟩
  · rw [hexec] at hlater hsound hend
    refine ⟨owner, ?_⟩
    rw [exec_bind_error hexec]
    exact ⟨hlater, hsound, hend⟩
  · rw [hexec] at hlater hsound hend
    obtain ⟨hsync, hpost⟩ := hend
    obtain ⟨owner', hlater', hsound', hend'⟩ := hf a ⟨owner, m, w.silent⟩ ⟨hsound, hsync⟩ hlater hpost
    refine ⟨owner', ?_⟩
    rw [exec_bind_ok hexec]
    exact ⟨hlater.trans hlater', hsound', hend'⟩

theorem Upholds.imp (hx : Upholds settles x w P) (h : ∀ a w', w'.Fine → w.Later w' → P a w' → P' a w') :
    Upholds settles x w P' := by
  obtain ⟨owner, hlater, hsound, hend⟩ := hx
  refine ⟨owner, hlater, hsound, ?_⟩
  split
  · next a ha =>
    rw [ha] at hend
    exact ⟨hend.1, h a _ ⟨hsound, hend.1⟩ hlater hend.2⟩
  · next failure hfailure =>
    rw [hfailure] at hend
    exact hend

/-- A part that leaves the machine as it is. -/
theorem Upholds.bind_still (hexec : exec x w.machine = (.ok a, w.machine))
    (hf : Upholds settles (f a) w Q) : Upholds settles (x >>= f) w Q :=
  Upholds.congr (exec_bind_ok hexec) hf

theorem Upholds.get_bind {f : Machine → ExceptT ε (StateM Machine) β}
    (hf : Upholds settles (f w.machine) w Q) : Upholds settles (get >>= f) w Q :=
  Upholds.bind_still (exec_get _) hf

end

/-! ## Rules for runs -/

section

variable {α β : Type} {w : World} {P : α → World → Prop}

theorem Safe.fail (hw : w.Fine) : Safe (Run.fail cause : Run α) w P :=
  Upholds.throw hw

theorem Safe.ofExcept (hw : w.Fine) (h : ∀ a, result = .ok a → P a w) :
    Safe (Run.ofExcept result) w P := by
  cases result with
  | ok a => exact Upholds.pure hw (h a rfl)
  | error failure => exact Upholds.throw hw

theorem Safe.store_bind {k : Store → Run β} (h : Safe (k w.machine.store) w Q) :
    Safe (Run.store >>= k) w Q :=
  Upholds.bind_still (exec_store _) h

theorem Safe.throw_bind {failure : Failure} (hw : w.Fine) : Safe (throw failure >>= k) w Q :=
  Upholds.congr (exec_bind_error (exec_throw _ _)) (Upholds.throw hw)

/-- A run whose errors are handled.  For any other failure nothing but the output may change. -/
theorem Safe.handle (hx : Safe x w P) (hhandler : ∀ cause w', w'.Fine → w.Later w' → Safe (h cause) w' P)
    (hx' : Handles rolls x h x') : Safe x' w P := by
  obtain ⟨owner, hlater, hsound, hend⟩ := hx
  have hexec' := hx' w.machine
  rcases hexec : exec x w.machine with ⟨failure | a, m⟩
  · rw [hexec] at hlater hsound hend hexec'
    cases failure with
    | error cause =>
      obtain ⟨owner', hlater', hsound', hend'⟩ :=
        hhandler cause ⟨owner, m, w.silent⟩ ⟨hsound, hend trivial⟩ hlater
      refine ⟨owner', ?_⟩
      rw [hexec']
      exact ⟨hlater.trans hlater', hsound', hend'⟩
    | _ =>
      refine ⟨owner, ?_⟩
      rw [hexec']
      cases rolls with
      | false => exact ⟨hlater, hsound, hend⟩
      | true =>
        exact ⟨⟨hlater.has, hlater.owner, hlater.frozen, hlater.steps, hlater.history, hlater.silent,
            hlater.silence⟩,
          ⟨⟨hsound.cells, hsound.closures, hsound.steps⟩, fun h => ⟨(hsound.journal h).recorded,
            (hsound.journal h).faithful, (hsound.journal h).copyable, (hsound.journal h).remembers⟩⟩,
          nofun⟩
  · rw [hexec] at hlater hsound hend hexec'
    refine ⟨owner, ?_⟩
    rw [hexec']
    exact ⟨hlater, hsound, hend⟩

end

/-! ## Rules for the operations on the store -/

/-- The world after a change of the store in which all new nodes belong to `o`. -/
noncomputable def World.grow (w : World) (o : Owner) (s : Store) : World where
  owner n := open Classical in if w.machine.store.Has n then w.owner n else o
  machine := { w.machine with store := s }
  silent := w.silent

section

variable {w : World} {o : Owner}

theorem World.grow_owner_old (hn : w.machine.store.Has n) :
    (w.grow o s).owner n = w.owner n :=
  if_pos hn

theorem World.grow_owner_new (hn : ¬ w.machine.store.Has n) :
    (w.grow o s).owner n = o :=
  if_neg hn

/-- What was held is held in the grown world too. -/
theorem World.Holds.grow (hhas : ∀ {n}, w.machine.store.Has n → s.Has n) (hv : w.Holds o' v) :
    (w.grow o s).Holds o' v := by
  intro n hn
  obtain ⟨hn', howner⟩ := hv n hn
  refine ⟨hhas hn', fun hc => ?_⟩
  rw [World.grow_owner_old hn']
  exact howner hc

/-- The conditions under which a change of the store leads to a later sound world. -/
theorem World.grow_later (hw : w.Separate) (hhas : ∀ {n}, w.machine.store.Has n → s.Has n)
    (hold : ∀ {n}, w.machine.store.Has n → s.cell n = w.machine.store.cell n ∨
      w.owner n = .live ∧ ∀ v ∈ (s.cell n).values, (w.grow o s).Live v)
    (hnew : ∀ {n}, ¬ w.machine.store.Has n → ∀ v ∈ (s.cell n).values, (w.grow o s).Holds o v)
    (hfunctions : ∀ {ref}, s.Has (.function ref) →
      w.machine.store.Has (.function ref) ∨ o = .closure ref) :
    w.Later (w.grow o s) ∧ (w.grow o s).Separate := by
  refine ⟨⟨hhas, World.grow_owner_old, ?_, List.prefix_refl _, List.suffix_refl _, rfl,
    fun _ => rfl⟩, ?_, ?_, ?_⟩
  · intro n hn hlive
    rcases hold hn with h | h
    · exact h
    · exact absurd h.1 hlive
  · intro n v hv
    by_cases hn : w.machine.store.Has n
    · rw [World.grow_owner_old hn]
      rcases hold hn with h | ⟨hlive, h⟩
      · have hv' : v ∈ (w.machine.store.cell n).values := by rwa [← h]
        exact (hw.cells n v hv').grow hhas
      · rw [hlive]
        exact h v hv
    · rw [World.grow_owner_new hn]
      exact hnew hn v hv
  · intro hsilent ref href
    by_cases hn : w.machine.store.Has (.function ref)
    · rw [World.grow_owner_old hn]
      exact hw.closures hsilent ref hn
    · rw [World.grow_owner_new hn]
      exact (hfunctions href).resolve_left hn
  · intro hsilent i step hstep v hv
    exact (hw.steps hsilent i step hstep v hv).grow hhas

/-- A run that changes nothing but the store. -/
theorem Safe.of_grow (hw : w.Fine) (hexec : exec x w.machine = (.ok a, { w.machine with store := s }))
    (hgrow : w.Later (w.grow o s) ∧ (w.grow o s).Separate) (hP : P a (w.grow o s)) : Safe x w P := by
  refine ⟨(w.grow o s).owner, ?_⟩
  rw [hexec]
  exact ⟨hgrow.1, ⟨hgrow.2, hw.journal_later hgrow.1 rfl rfl⟩, hw.inSync, hP⟩

/-- Adding one node. -/
theorem World.grow_add (hw : w.Separate) (hnew : ¬ w.machine.store.Has new)
    (hhas : ∀ {n}, s.Has n ↔ w.machine.store.Has n ∨ n = new)
    (hcell : ∀ n, s.cell n = if n = new then cell else w.machine.store.cell n)
    (hvalues : ∀ v ∈ cell.values, w.Holds o v)
    (hfunction : ∀ ref, new = .function ref → o = .closure ref) :
    w.Later (w.grow o s) ∧ (w.grow o s).Separate := by
  refine World.grow_later hw (fun hn => hhas.mpr (.inl hn)) ?_ ?_ ?_
  · intro n hn
    left
    rw [hcell, if_neg]
    rintro rfl
    exact hnew hn
  · intro n hn v hv
    rw [hcell] at hv
    split at hv
    · next heq =>
      subst heq
      exact (hvalues v hv).grow fun hn => hhas.mpr (.inl hn)
    · rw [Store.cell_values_of_not_has hn] at hv
      cases hv
  · intro ref href
    exact (hhas.mp href).imp id fun h => hfunction ref h.symm

/-- The new node may be referred to by its owner. -/
theorem World.grow_holds (hv : v.node? = some n) (hn : ¬ w.machine.store.Has n) (hs : s.Has n) :
    (w.grow o s).Holds o v := by
  intro k hk
  rw [hv] at hk
  cases hk
  exact ⟨hs, fun _ => .inr (World.grow_owner_new hn)⟩

/-- A new function may be referred to if its bindings belong to it. -/
theorem Safe.addFunction (hw : w.Fine)
    (h : ∀ v ∈ f.closure.values, w.Holds (.closure w.machine.store.functions.size) v) :
    Safe (Run.alter (·.addFunction f)) w (fun v w' => w'.Live v) := by
  have hnew : ¬ w.machine.store.Has (.function w.machine.store.functions.size) := by
    simp [Store.Has]
  refine Safe.of_grow (o := .closure w.machine.store.functions.size) hw (exec_alter _ _) ?_
    (World.holds_function (World.grow_holds rfl hnew (Store.has_addFunction.mpr (.inr rfl))))
  refine World.grow_add hw.toSeparate hnew Store.has_addFunction (Store.cell_addFunction _ _) h ?_
  rintro ref ⟨⟩
  rfl

/-- The world after a snapshot whose copies belong to `o`. -/
noncomputable def World.snap {α : Type} (w : World) (o : Owner)
    (copying : (Value → CopyM Value) → CopyM α) : World :=
  w.grow o (w.machine.store.snapshot copying).2

/-- What a snapshot does to a world.  `R` relates its result to what was copied. -/
structure World.Snaps {α : Type} (w : World) (o : Owner)
    (copying : (Value → CopyM Value) → CopyM α) (R : (Node → Node → Prop) → α → Prop) : Prop where
  later : w.Later (w.snap o copying)
  separate : (w.snap o copying).Separate
  functions : (w.snap o copying).machine.store.functions = w.machine.store.functions
  kept {n : Node} : w.machine.store.Has n →
    (w.snap o copying).machine.store.cell n = w.machine.store.cell n
  result {a : α} : (w.machine.store.snapshot copying).1 = .ok a →
    ∃ r, Correspondence w.machine.store (w.snap o copying).machine.store r ∧
      (∀ {a b}, r a b → (w.snap o copying).owner b = o) ∧ R r a

theorem World.Separate.snap {α : Type} {copying : (Value → CopyM Value) → CopyM α}
    {R : (Node → Node → Prop) → α → Prop} (o : Owner) (hw : w.Separate)
    (h : CopiesTo w.machine.store roots copying R) : w.Snaps o copying R := by
  obtain ⟨hcopied, hok⟩ := Store.snapshot_spec hw.valid h
  have hgrow : w.Later (w.snap o copying) ∧ (w.snap o copying).Separate := by
    refine World.grow_later hw hcopied.grown (fun hn => .inl (hcopied.kept hn)) ?_ ?_
    · intro n hn v hv k hk
      by_cases hnew : (w.machine.store.snapshot copying).2.Has n
      · obtain ⟨hhas, hfresh⟩ := hcopied.fresh hnew hn v hv k hk
        exact ⟨hhas, fun hc => .inr (World.grow_owner_new (hfresh hc))⟩
      · rw [Store.cell_values_of_not_has hnew] at hv
        cases hv
    · intro ref href
      rw [Store.Has, hcopied.functions] at href
      exact .inl href
  refine ⟨hgrow.1, hgrow.2, hcopied.functions, hcopied.kept, fun ha => ?_⟩
  obtain ⟨r, hr, hfresh, hR⟩ := hok _ ha
  exact ⟨r, hr, fun hab => World.grow_owner_new (hfresh hab), hR⟩

/-- A copy belongs to the owner of the copies. -/
theorem Value.Matches.holds {r : Node → Node → Prop} {v' : Value}
    (hr : Correspondence w.machine.store w'.machine.store r) (howner : ∀ {a b}, r a b → w'.owner b = o)
    (hlater : w.Later w') (hv : w.machine.store.Knows v) (h : v.Matches r v') : w'.Holds o v' := by
  intro n hn
  cases h with
  | list h => cases hn; exact ⟨(hr.has h).2, fun _ => .inr (howner h)⟩
  | dict h => cases hn; exact ⟨(hr.has h).2, fun _ => .inr (howner h)⟩
  | scalar x =>
    obtain ⟨mark, rfl, rfl⟩ := Value.node?_scalar hn
    exact ⟨hlater.has (hv _ rfl), False.elim⟩
  | complex re im => cases hn
  | function ref => cases hn; exact ⟨hlater.has (hv _ rfl), False.elim⟩

section

variable (h : w.Snaps o (fun copy => copyEnv copy env) (fun r env' => Table.Matches r env env'))
  (hresult : (w.machine.store.snapshot fun copy => copyEnv copy env).1 = .ok env')

include h hresult

/-- The copy of a scope belongs to `o`. -/
theorem World.Snaps.env_holds (henv : ∀ v ∈ env.values, w.machine.store.Knows v) :
    ∀ v ∈ env'.values, (w.snap o fun copy => copyEnv copy env).Holds o v := by
  obtain ⟨r, hr, howner, hmatch⟩ := h.result hresult
  intro v' hv'
  obtain ⟨v, hv, hvv'⟩ := exists_of_forall₂ hmatch.values hv'
  exact hvv'.holds hr howner h.later (henv v hv)

/-- The copy of a scope looks like the scope. -/
theorem World.Snaps.alike :
    Alike (w.snap o fun copy => copyEnv copy env).machine.store env
      (w.snap o fun copy => copyEnv copy env).machine.store env' := by
  obtain ⟨r, hr, _, hmatch⟩ := h.result hresult
  exact Alike.congr ⟨r, hr, hmatch⟩ (fun n hn => ⟨h.later.has hn, h.kept hn⟩)
    (fun n hn => ⟨hn, rfl⟩)

/-- The copy of a scope can be copied again. -/
theorem World.Snaps.copyable :
    (w.snap o fun copy => copyEnv copy env).machine.store.Copyable env' := by
  obtain ⟨r, hr, _, hmatch⟩ := h.result hresult
  exact Store.Copyable.of_correspondence hr hmatch ⟨env', hresult⟩

end

/-- The copy of an action has nothing in its details but what belongs to `o`. -/
theorem World.Snaps.action_holds {action' : Action}
    (h : w.Snaps o (fun copy => action.mapM copy) (fun r action' => ∀ v ∈ action'.held, w.machine.store.Mirrors r v))
    (hresult : (w.machine.store.snapshot fun copy => action.mapM copy).1 = .ok action') :
    ∀ v ∈ action'.held, (w.snap o fun copy => action.mapM copy).Holds o v := by
  obtain ⟨r, hr, howner, hmirrors⟩ := h.result hresult
  intro v' hv'
  obtain ⟨v, hv, hvv'⟩ := hmirrors v' hv'
  exact hvv'.holds hr howner h.later hv

/-- A snapshot as a run. -/
theorem Safe.snapshot {α : Type} {copying : (Value → CopyM Value) → CopyM α}
    {R : (Node → Node → Prop) → α → Prop} {P : α → World → Prop} (hw : w.Fine)
    (h : w.Snaps o copying R)
    (hP : ∀ a, (w.machine.store.snapshot copying).1 = .ok a → P a (w.snap o copying)) :
    Safe (Run.snapshot copying) w P := by
  refine ⟨(w.snap o copying).owner, ?_⟩
  rw [exec_snapshot]
  refine ⟨h.later, ⟨h.separate, hw.journal_later h.later rfl rfl⟩, ?_⟩
  split
  · next a ha => exact ⟨hw.inSync, hP a ha⟩
  · exact fun _ => hw.inSync

/-- The copy of a scope. -/
theorem Safe.snapshot_env (o : Owner) (hw : w.Fine) (henv : ∀ v ∈ env.values, w.machine.store.Knows v) :
    Safe (Run.snapshot fun copy => copyEnv copy env) w (fun env' w' =>
      (∀ v ∈ env'.values, w'.Holds o v) ∧
      w'.machine.store.functions = w.machine.store.functions) := by
  have h := hw.snap o (copiesTo_copyEnv henv)
  exact Safe.snapshot hw h fun env' henv' => ⟨h.env_holds henv' henv, h.functions⟩

end

/-! ## Rules for what is printed, counted and recorded -/

section

variable {w : World}

/-- Counting changes nothing else. -/
theorem Safe.count {g : Tally → Tally} (hw : w.Fine) :
    Safe (modify fun m => { m with tally := g m.tally } : Run Unit) w (fun _ w' =>
      w'.machine = { w.machine with tally := g w.machine.tally }) :=
  ⟨w.owner, ⟨id, fun _ => rfl, fun _ _ => rfl, List.prefix_refl _, List.suffix_refl _, rfl,
      fun _ => rfl⟩,
    ⟨⟨hw.cells, hw.closures, hw.steps⟩, fun hsilent =>
      have hjournal := hw.journal hsilent
      ⟨hjournal.recorded, hjournal.faithful, hjournal.copyable, hjournal.remembers⟩⟩,
    hw.inSync, rfl⟩

/-- Noting the store changes nothing but the history. -/
theorem Safe.note (hw : w.Fine) (hstore : ∀ s, (event s).store? = some s)
    (hsensible : (event w.machine.store).Sensible) : Safe (Run.note config event) w (fun _ w' =>
      w'.machine = { w.machine with history := w'.machine.history }) := by
  unfold Run.note
  split
  · have hquiet : (event w.machine.store).line? = none ∧ (event w.machine.store).step? = none := by
      have hsome := hstore w.machine.store
      cases hevent : event w.machine.store with
      | printed line => rw [hevent] at hsome; cases hsome
      | recorded step => rw [hevent] at hsome; cases hsome
      | passed s => exact ⟨rfl, rfl⟩
      | called depth ref arguments s => exact ⟨rfl, rfl⟩
    refine ⟨w.owner, ⟨id, fun _ => rfl, fun _ _ => rfl, List.prefix_refl _, List.suffix_cons _ _, rfl,
        fun _ => rfl⟩,
      ⟨⟨hw.cells, hw.closures, hw.steps⟩, fun hsilent => ?_⟩, fun hsilent => ?_, rfl⟩
    · have hjournal := hw.journal hsilent
      refine ⟨?_, ?_, hjournal.copyable, fun s hs => ?_, hjournal.remembers⟩
      · rw [exec_modify]
        simpa [hquiet.2] using hjournal.recorded
      · rw [exec_modify]
        cases hevent : event w.machine.store with
        | recorded step => rw [hevent] at hquiet; cases hquiet.2
        | _ => exact hjournal.faithful
      · obtain rfl := Option.some.inj ((hstore w.machine.store).symm.trans hs)
        exact ⟨hsensible, World.Later.rfl.preserves hw.toSound hsilent, hjournal.remembers⟩
    · rw [exec_modify]
      simpa [Machine.InSync, hquiet.1] using hw.inSync hsilent
  · exact Upholds.pure hw rfl

theorem Safe.note_pass (hw : w.Fine) :
    Safe (Run.note config .passed) w (fun _ w' =>
      w'.machine = { w.machine with history := w'.machine.history }) :=
  Safe.note hw (fun _ => rfl) trivial

/-- A call is noted. -/
theorem Safe.note_call (hw : w.Fine) (href : w.Live (.function ref))
    (harguments : ∀ v ∈ arguments, w.Live v) :
    Safe (Run.note config (.called depth ref arguments)) w (fun _ w' =>
      w'.machine = { w.machine with history := w'.machine.history }) :=
  Safe.note hw (fun _ => rfl)
    ⟨hw.toSeparate.valid, href.knows, fun v hv => (harguments v hv).knows⟩

/-- What the last step shows: the scope and the output as they are, or nothing if there is no step
and nothing to show. -/
def Machine.Shows (m : Machine) (env : Env) : Prop :=
  match m.steps.back? with
  | some step => Alike m.store env m.store step.bindings ∧ step.output = m.output
  | none => env = .empty ∧ m.output = .empty

/-- The machine `m'` has one step more than `m`, and the step shows `env`. -/
def Machine.Adds (m : Machine) (env : Env) (output : Output) (m' : Machine) : Prop :=
  ∃ step, m' = { m with
      store := m'.store
      steps := m.steps.push step
      errors := m'.errors
      history := .recorded step :: m.history } ∧
    step.output = output ∧ Alike m'.store env m'.store step.bindings

/-- A new step with the output of its time shows the machine as it is. -/
theorem Machine.Adds.shows {m m' : Machine} (h : m.Adds env m.output m') :
    m'.Shows env := by
  obtain ⟨step, hmachine, houtput, halike⟩ := h
  have hback : m'.steps.back? = some step := by
    rw [hmachine]
    exact Array.back?_push
  have hsame : m'.output = m.output := by
    rw [hmachine]
  unfold Machine.Shows
  rw [hback]
  exact ⟨halike, houtput.trans hsame.symm⟩

/-- The steps stay separate if the values of one more belong to it. -/
theorem World.Separate.push (hw : w.Separate) (hrecording : w.silent = false)
    (hstep : ∀ v ∈ step.held, w.Holds (.step w.machine.steps.size) v) (i : Nat) (old : Step)
    (h : (w.machine.steps.push step)[i]? = some old) : ∀ v ∈ old.held, w.Holds (.step i) v := by
  rw [Array.getElem?_push] at h
  split at h
  · next hi =>
    cases h
    rw [hi]
    exact hstep
  · exact hw.steps hrecording i old h

/-- Adding a step keeps everything separate.  If it fails, only the store has grown. -/
theorem World.Separate.addStep (hw : w.Separate) (hrecording : w.silent = false) (line : Nat)
    (output : Output) (henv : ∀ v ∈ env.values, w.machine.store.Knows v)
    (haction : ∀ v ∈ action.given, w.machine.store.Knows v) :
    ∃ w' result, exec (addStep line action env output) w.machine = (result, w'.machine) ∧
      w.Later w' ∧ w'.Separate ∧
      match result with
      | .ok _ => w.machine.Adds env output w'.machine ∧
        ∀ step, w'.machine.steps = w.machine.steps.push step → w'.machine.store.Copyable step.bindings
      | .error _ => w'.machine = { w.machine with store := w'.machine.store } := by
  have h₁ := hw.snap (.step w.machine.steps.size) (copiesTo_copyEnv henv)
  unfold Walkthrough.addStep
  rw [exec_bind, exec_snapshot]
  cases hbindings : (w.machine.store.snapshot fun copy => copyEnv copy env).1 with
  | error failure => exact ⟨_, _, rfl, h₁.later, h₁.separate, rfl⟩
  | ok bindings =>
    have haction₁ : ∀ v ∈ action.given,
        (w.snap (.step w.machine.steps.size) fun copy => copyEnv copy env).machine.store.Knows v :=
      fun v hv n hn => h₁.later.has (haction v hv n hn)
    have h₂ := h₁.separate.snap (.step w.machine.steps.size) (copiesTo_action haction₁)
    dsimp only
    rw [exec_bind, exec_snapshot]
    cases haction' : ((w.machine.store.snapshot fun copy => copyEnv copy env).2.snapshot
        fun copy => action.mapM copy).1 with
    | error failure => exact ⟨_, _, rfl, h₁.later.trans h₂.later, h₂.separate, rfl⟩
    | ok action' =>
      have hlater := h₁.later.trans h₂.later
      refine ⟨⟨_, _, w.silent⟩, _, rfl, ⟨hlater.has, hlater.owner, hlater.frozen, ?_,
          List.suffix_cons _ _, rfl, ?_⟩,
        ⟨h₂.separate.cells, h₂.separate.closures,
          fun _ => h₂.separate.push hrecording ?_⟩, ⟨_, rfl, rfl, ?_⟩, ?_⟩
      · simp
      · rw [hrecording]
        exact nofun
      · intro v hv
        rcases List.mem_append.mp hv with hv | hv
        · exact h₂.later.holds (h₁.env_holds hbindings henv v hv)
        · exact h₂.action_holds haction' v hv
      · exact (h₁.alike hbindings).congr (fun n hn => ⟨h₂.later.has hn, h₂.kept hn⟩)
          (fun n hn => ⟨h₂.later.has hn, h₂.kept hn⟩)
      · intro step hsteps
        obtain rfl := (Array.push_inj_right.mp hsteps)
        have hholds := h₁.env_holds hbindings henv
        exact (h₁.copyable hbindings).of_kept h₁.separate.valid (fun v hv => (hholds v hv).knows)
          (h₂.later.kept h₁.separate hrecording (o := .step _) nofun nofun hholds)

/-- Recording adds a step that shows the scope. -/
theorem Safe.addStep {line : Nat} (hw : w.Fine) (hrecording : w.silent = false)
    (henv : ∀ v ∈ env.values, w.machine.store.Knows v)
    (haction : ∀ v ∈ action.given, w.machine.store.Knows v) :
    Safe (addStep line action env w.machine.output) w (fun _ w' => w'.machine.Shows env) := by
  obtain ⟨w', result, hexec, hlater, hseparate, hend⟩ :=
    hw.addStep hrecording line w.machine.output henv haction
  refine ⟨w'.owner, ?_⟩
  rw [hexec, ← hlater.silent]
  cases result with
  | error failure =>
    have hsteps : w'.machine.steps = w.machine.steps := by rw [hend]
    have hhistory : w'.machine.history = w.machine.history := by rw [hend]
    refine ⟨hlater, ⟨hseparate, hw.journal_later hlater hsteps hhistory⟩, fun _ _ => ?_⟩
    rw [hend]
    exact hw.inSync hrecording
  | ok _ =>
    obtain ⟨⟨step, hmachine, houtput, halike⟩, hcopyable⟩ := hend
    have hjournal := hw.journal hrecording
    have hsteps : w'.machine.steps = w.machine.steps.push step := by rw [hmachine]
    have hhistory : w'.machine.history = .recorded step :: w.machine.history := by rw [hmachine]
    refine ⟨hlater, ⟨hseparate, fun _ => ⟨?_, ?_, ?_, ?_⟩⟩, fun _ => ?_, ?_⟩
    · rw [hhistory, hsteps]
      simp [Event.step?, hjournal.recorded]
    · rw [hhistory]
      exact ⟨houtput ▸ hw.inSync hrecording, hjournal.faithful⟩
    · intro i old hold
      rw [hsteps, Array.getElem?_push] at hold
      split at hold
      · cases hold
        exact hcopyable step hsteps
      · exact hw.copyable_later hlater hrecording hold
    · rw [hhistory]
      exact ⟨nofun, hjournal.remembers.later (hlater.preserves hw.toSound hrecording)
        (List.suffix_refl _)⟩
    · rw [hmachine]
      exact hw.inSync hrecording
    · exact Machine.Adds.shows ⟨step, hmachine, houtput, halike⟩

end

/-! ## What live values lead to -/

theorem World.Separate.live_elements (hw : w.Separate) (h : w.Live (.list ref)) :
    ∀ v ∈ w.machine.store.list ref, w.Live v := by
  intro v hv
  have hlive : w.owner (.list ref) = .live := ((h _ rfl).2 trivial).resolve_left nofun
  have := hw.cells (.list ref) v (by simpa [Store.cell, Cell.values] using hv)
  rwa [hlive] at this

/-- Both the keys and the values of a live dictionary are live. -/
theorem World.Separate.live_held (hw : w.Separate) (h : w.Live (.dict ref)) :
    ∀ v ∈ (w.machine.store.dict ref).held, w.Live v := by
  intro v hv
  have hlive : w.owner (.dict ref) = .live := ((h _ rfl).2 trivial).resolve_left nofun
  have := hw.cells (.dict ref) v hv
  rwa [hlive] at this

theorem World.Separate.live_entries (hw : w.Separate) (h : w.Live (.dict ref)) :
    ∀ v ∈ (w.machine.store.dict ref).values, w.Live v :=
  fun v hv => hw.live_held h v (Dict.mem_held.mpr (.inr hv))

theorem World.Separate.live_keys (hw : w.Separate) (h : w.Live (.dict ref)) :
    ∀ key ∈ (w.machine.store.dict ref).keys, w.Live (.scalar key.spelling) :=
  fun key hkey => hw.live_held h _ (Dict.mem_held.mpr (.inl ⟨key, hkey, rfl⟩))

/-- The bindings that a function starts from exist. -/
theorem World.Separate.closure_known (hw : w.Separate) (ref : Nat) :
    ∀ v ∈ (w.machine.store.function ref).closure.values, w.machine.store.Knows v :=
  fun v hv => (hw.cells (.function ref) v hv).knows

end Walkthrough
