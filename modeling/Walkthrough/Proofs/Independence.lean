import Walkthrough.Proofs.Recording

/-!
# Independence of snapshots

What a step shows is never changed by what is executed later, and it shares no list or dictionary
with the live scope or with another step.

In a separate world this is a matter of owners.  All that is reached from the values of a step
belongs to the step, or to a function once the way goes through one (`reach_owner`,
`reach_fixed`); such nodes are fixed, and owners differ from step to step.
-/

namespace Walkthrough

/-! ## What an owner reaches -/

/-- All containers that are reached from the values of an owner, and not through functions, belong to
that owner. -/
theorem World.Separate.reach_owner {w : World} (hw : w.Separate) (ho : o ≠ .outside)
    (hroots : ∀ v ∈ roots, w.Holds o v) (h : w.machine.store.Reach false roots n) :
    n.IsContainer → w.owner n = o := by
  refine h.induct_node (fun n => n.IsContainer → w.owner n = o) ?_ ?_
  · intro v hv k hk hcontainer
    exact ((hroots v hv k hk).2 hcontainer).resolve_left ho
  · intro k howner hthrough v hv l hl hcontainer
    have hk : k.IsContainer := hthrough.resolve_left nofun
    have hv' := hw.cells k v hv
    rw [howner hk] at hv'
    exact ((hv' l hl).2 hcontainer).resolve_left ho

/-! ## Independence -/

/-- No list or dictionary is reached from both groups of values without going through a function. -/
def Store.Apart (s : Store) (xs ys : List Value) : Prop :=
  ∀ n, n.IsContainer → s.Reach false xs n → ¬ s.Reach false ys n

/-- The steps of a machine are apart from the live values and from each other. -/
def Machine.Independent (m : Machine) (live : List Value) : Prop :=
  (∀ (i : Nat) (step : Step), m.steps[i]? = some step → m.store.Apart step.held live) ∧
  ∀ (i j : Nat) (step other : Step), i ≠ j → m.steps[i]? = some step → m.steps[j]? = some other →
    m.store.Apart step.held other.held

/-- Every step of `m` is a step of `m'`, and nothing that is reached from it has changed. -/
def Machine.Keeps (m m' : Machine) : Prop :=
  ∀ (i : Nat) (step : Step), m.steps[i]? = some step → m'.steps[i]? = some step ∧
    ∀ n, m.store.Reach true step.held n → m'.store.cell n = m.store.cell n

/-- What belongs to two owners is apart. -/
theorem World.Separate.apart {w : World} (hw : w.Separate) (hxs : ∀ v ∈ xs, w.Holds o v)
    (hys : ∀ v ∈ ys, w.Holds o' v) (ho : o ≠ .outside) (ho' : o' ≠ .outside) (hne : o ≠ o') :
    w.machine.store.Apart xs ys := by
  intro n hcontainer hx hy
  have hn := hw.reach_owner ho hxs hx hcontainer
  have hn' := hw.reach_owner ho' hys hy hcontainer
  exact hne (hn.symm.trans hn')

theorem World.Separate.independent {w : World} (hw : w.Separate) (hrecording : w.silent = false)
    (hlive : ∀ v ∈ live, w.Live v) : w.machine.Independent live := by
  constructor
  · intro i step hstep
    exact hw.apart (hw.steps hrecording i step hstep) hlive nofun nofun nofun
  · intro i j step other hne hstep hother
    refine hw.apart (hw.steps hrecording i step hstep) (hw.steps hrecording j other hother) nofun
      nofun ?_
    intro h
    cases h
    exact hne rfl

theorem World.Later.keeps {w w' : World} (h : w.Later w') (hw : w.Separate)
    (hrecording : w.silent = false) : w.machine.Keeps w'.machine := by
  intro i step hstep
  constructor
  · obtain ⟨later, hsteps⟩ := h.steps
    rw [← Array.getElem?_toList] at hstep ⊢
    obtain ⟨hi, _⟩ := List.getElem?_eq_some_iff.mp hstep
    rw [← hsteps, List.getElem?_append_left hi, hstep]
  · intro n hreach
    exact (h.kept_step hw hrecording hstep n hreach).2

/-- Snapshots are independent: at every moment the steps are apart from the live values and from each
other, they are still there at every later moment and at the end, and nothing that is reached from
them has changed by then.  The closing step of a truncated trace is apart as well. -/
theorem snapshots_independent (config : Config) (source : String) :
    (∀ task m, Moment config (programOf config source) task m →
      m.Independent (task.env.values ++ task.values) ∧
      m.Keeps (exec (runProgram config (programOf config source)) .start).2 ∧
      ∀ task' m', Relation.ReflTransGen (Enters (Frame.top config)) (task, m) (task', m') →
        m.Keeps m') ∧
    (∀ progress m, exec (runBlock (Frame.top config) (programOf config source) .empty) .start =
      (.ok progress, m) → m.Independent progress.env.values) ∧
    (exec (runProgram config (programOf config source)) .start).2.Independent [] := by
  refine ⟨?_, ?_, ?_⟩
  · intro task m hmoment
    obtain ⟨w, w', rfl, hgood, hm', hlater, hsound, hrecording, _⟩ := hmoment.worlds
    obtain ⟨w'', hm'', hlater', _⟩ := runProgram_world hsound.toSeparate hrecording hm'
    have hrecording' : w.silent = false := hlater.silent.symm.trans hrecording
    refine ⟨hgood.fine.independent hrecording' ?_, ?_, ?_⟩
    · intro v hv
      rcases List.mem_append.mp hv with hv | hv
      · exact hgood.tracks.live v hv
      · exact hgood.values v hv
    · rw [← hm'']
      exact (hlater.trans hlater').keeps hgood.fine.toSeparate hrecording'
    · intro task' m' henters
      obtain ⟨w₁, rfl, hleads⟩ := leadsTo_of_enters (Frame.top_call_safe config) henters hgood
      exact hleads.later.keeps hgood.fine.toSeparate hrecording'
  · intro progress m hblock
    obtain ⟨w, hm, hsound, hrecording, hleaves⟩ := runBlock_world config (programOf config source)
    rw [hblock] at hm hleaves
    subst hm
    exact hsound.independent hrecording (hleaves progress rfl).1.live
  · obtain ⟨w, hm, hsound, hrecording, _⟩ := runBlock_world config (programOf config source)
    obtain ⟨w', hm', hlater, hseparate⟩ := runProgram_world hsound.toSeparate hrecording hm
    rw [← hm']
    exact hseparate.independent (hlater.silent.trans hrecording) nofun

theorem snapshots_independent_sharing :
    (exec (runProgram .usual (programOf .usual sharingProgram)) .start).2.steps.size = 3 ∧
      (exec (runProgram .usual (programOf .usual sharingProgram)) .start).2.Independent [] := by
  obtain ⟨trace, htrace, _, hsize⟩ := sharingProgram_trace
  obtain ⟨m, hrun, hsteps, _⟩ := Trace.ofSource_eq_ok htrace
  refine ⟨?_, (snapshots_independent .usual sharingProgram).2.2⟩
  rw [hrun, ← hsteps]
  exact hsize

end Walkthrough
