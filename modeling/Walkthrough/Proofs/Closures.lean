import Mathlib.Data.List.Pairwise
import Walkthrough.Proofs.Lockstep

/-!
# Closures are by value

The bindings that a function has from its definition never change.  So it does not matter when a
function is called: with the same primitive arguments, at the same depth, two calls in one run return
values that are alike and print the same lines, or fail in the same way, unless a budget is used up.

That nothing changes is what the journal of a run with notes tells (`Remembers`).  That this makes
calls do the same is an instance of simulation: `Follows` compares two runs from linked stores and
gives up as soon as one of them has used up a budget.
-/

namespace Walkthrough

open Source

variable {m : Machine} {now s t : Store}

/-! ## Runs that follow each other -/

/-- A budget was used up. -/
def Spent {α : Type} : Except Failure α → Prop
  | .error (.budget _) => True
  | _ => False

/-- On the ways from `m` to `m'` and from `n` to `n'` the same lines were printed. -/
def PrintedAlike (m n m' n' : Machine) : Prop :=
  ∃ lines, m'.output.lines = m.output.lines ++ lines ∧ n'.output.lines = n.output.lines ++ lines

/-- Two runs from `m` and `n` end alike: both return, or both fail in the same way, and either way
their stores are linked and they have printed the same lines. -/
inductive EndsAlike {α β : Type} (P : Renaming → α → β → Prop) (ρ : Renaming) (m n : Machine) :
    Except Failure α × Machine → Except Failure β × Machine → Prop where
  | returned {ρ' : Renaming} {a : α} {b : β} {m' n' : Machine} : ρ.Within ρ' →
      ρ'.Links m'.store n'.store → PrintedAlike m n m' n' → P ρ' a b →
      EndsAlike P ρ m n (.ok a, m') (.ok b, n')
  | failed {ρ' : Renaming} {failure : Failure} {m' n' : Machine} : ρ.Within ρ' →
      ρ'.Links m'.store n'.store → PrintedAlike m n m' n' → failure.IsPlain →
      EndsAlike P ρ m n (.error failure, m') (.error failure, n')

/-- From linked stores two runs end alike, unless one of them uses up a budget. -/
def Follows {α β : Type} (ρ : Renaming) (x : Run α) (y : Run β) (P : Renaming → α → β → Prop) :
    Prop :=
  ∀ m n, ρ.Links m.store n.store →
    Spent (exec x m).1 ∨ Spent (exec y n).1 ∨ EndsAlike P ρ m n (exec x m) (exec y n)

theorem PrintedAlike.refl (m n : Machine) : PrintedAlike m n m n := ⟨[], by simp, by simp⟩

theorem PrintedAlike.trans (h : PrintedAlike m n m' n') (h' : PrintedAlike m' n' m'' n'') :
    PrintedAlike m n m'' n'' := by
  obtain ⟨lines, hm, hn⟩ := h
  obtain ⟨lines', hm', hn'⟩ := h'
  refine ⟨lines ++ lines', ?_, ?_⟩
  · rw [hm', hm, List.append_assoc]
  · rw [hn', hn, List.append_assoc]

theorem Machine.after_lines (m : Machine) (store : Store) (lines : List String) :
    (m.after store lines).output.lines = m.output.lines ++ lines.reverse :=
  List.reverse_append

section

variable {α β γ δ : Type}

/-- The two runs started earlier. -/
theorem EndsAlike.since (h : EndsAlike P ρ' m' n' p q) (hρ : ρ.Within ρ')
    (hprinted : PrintedAlike m n m' n') : EndsAlike P ρ m n p q := by
  cases h with
  | returned hwithin hlinks hprinted' hab =>
    exact .returned (hρ.trans hwithin) hlinks (hprinted.trans hprinted') hab
  | failed hwithin hlinks hprinted' hplain =>
    exact .failed (hρ.trans hwithin) hlinks (hprinted.trans hprinted') hplain

theorem Spent.eq_error (h : Spent r) : ∃ cause, r = .error (.budget cause) := by
  cases r with
  | ok _ => exact h.elim
  | error failure =>
    cases failure with
    | budget cause => exact ⟨cause, rfl⟩
    | _ => exact h.elim

/-- What is spent stays spent. -/
theorem Spent.bind (h : Spent (exec x m).1) : Spent (exec (x >>= f) m).1 := by
  obtain ⟨cause, hcause⟩ := h.eq_error
  rw [exec_bind_error (Prod.ext hcause rfl)]
  trivial

theorem Follows.mirrors (h : Mirrors ρ x y P) : Follows ρ x y P := by
  intro m n hmn
  obtain ⟨ρ', hρ, hlinks, ⟨_, lines, hx, hy⟩, hagree⟩ := h m n hmn
  have hprinted : PrintedAlike m n (exec x m).2 (exec y n).2 :=
    ⟨lines.reverse, (congrArg (·.output.lines) hx).trans (m.after_lines _ lines),
      (congrArg (·.output.lines) hy).trans (n.after_lines _ lines)⟩
  refine .inr (.inr ?_)
  generalize exec x m = p at hlinks hprinted hagree ⊢
  generalize exec y n = q at hlinks hprinted hagree ⊢
  obtain ⟨r, m'⟩ := p
  obtain ⟨r', n'⟩ := q
  cases hagree with
  | ok hab => exact .returned hρ hlinks hprinted hab
  | error hplain => exact .failed hρ hlinks hprinted hplain.isPlain

theorem Follows.bind (hx : Follows ρ x y P)
    (hf : ∀ ρ' a b, ρ.Within ρ' → P ρ' a b → Follows ρ' (f a) (g b) Q) :
    Follows ρ (x >>= f) (y >>= g) Q := by
  intro m n hmn
  rcases hx m n hmn with hspent | hspent | hends
  · exact .inl hspent.bind
  · exact .inr (.inl hspent.bind)
  · generalize hxm : exec x m = p at hends
    generalize hyn : exec y n = q at hends
    cases hends with
    | returned hρ hlinks hprinted hab =>
      rw [exec_bind_ok hxm, exec_bind_ok hyn]
      rcases hf _ _ _ hρ hab _ _ hlinks with hspent | hspent | hends
      · exact .inl hspent
      · exact .inr (.inl hspent)
      · exact .inr (.inr (hends.since hρ hprinted))
    | failed hρ hlinks hprinted hplain =>
      rw [exec_bind_error hxm, exec_bind_error hyn]
      exact .inr (.inr (.failed hρ hlinks hprinted hplain))

/-- An error is handled on both sides, and any other failure takes back the same on both. -/
theorem Follows.handle (hx : Follows ρ x y P)
    (hhandler : ∀ ρ' cause, ρ.Within ρ' → Follows ρ' (h cause) (k cause) P) (hx' : Handles rolls x h x')
    (hy' : Handles rolls y k y') : Follows ρ x' y' P := by
  intro m n hmn
  have hends := hx m n hmn
  rw [hx' m, hy' n]
  generalize exec x m = p at hends ⊢
  generalize exec y n = q at hends ⊢
  obtain ⟨r, m'⟩ := p
  obtain ⟨r', n'⟩ := q
  rcases hends with hspent | hspent | hends
  · obtain ⟨cause, rfl⟩ : ∃ cause, r = .error (.budget cause) := hspent.eq_error
    exact .inl trivial
  · obtain ⟨cause, rfl⟩ : ∃ cause, r' = .error (.budget cause) := hspent.eq_error
    exact .inr (.inl trivial)
  · cases hends with
    | returned hρ hlinks hprinted hab => exact .inr (.inr (.returned hρ hlinks hprinted hab))
    | @failed ρ' failure _ _ hρ hlinks hprinted hplain =>
      cases failure with
      | error cause =>
        rcases hhandler ρ' cause hρ m' n' hlinks with hspent | hspent | hends
        · exact .inl hspent
        · exact .inr (.inl hspent)
        · exact .inr (.inr (hends.since hρ hprinted))
      | budget cause => exact hplain.elim
      | _ =>
        refine .inr (.inr ?_)
        cases rolls with
        | true => exact .failed hρ hlinks (.refl m n) trivial
        | false => exact .failed hρ hlinks hprinted trivial

/-- Two runs end alike if they leave the stores and the outputs as they are. -/
theorem EndsAlike.quiet (hmn : ρ.Links m.store n.store) (hstore : m'.store = m.store)
    (houtput : m'.output = m.output) (hstore' : n'.store = n.store)
    (houtput' : n'.output = n.output) :
    EndsAlike (fun _ (_ _ : Unit) => True) ρ m n (.ok (), m') (.ok (), n') := by
  refine .returned .rfl ?_ ⟨[], ?_, ?_⟩ trivial
  · rw [hstore, hstore']
    exact hmn
  · rw [houtput, List.append_nil]
  · rw [houtput', List.append_nil]

/-- Counting and taking notes is nothing that the other run could miss. -/
theorem Follows.quiet {x y : Run Unit}
    (hx : ∀ m, ∃ m', exec x m = (.ok (), m') ∧ m'.store = m.store ∧ m'.output = m.output)
    (hy : ∀ m, ∃ m', exec y m = (.ok (), m') ∧ m'.store = m.store ∧ m'.output = m.output) :
    Follows ρ x y fun _ _ _ => True := by
  intro m n hmn
  obtain ⟨m', hxm, hstore, houtput⟩ := hx m
  obtain ⟨n', hyn, hstore', houtput'⟩ := hy n
  rw [hxm, hyn]
  exact .inr (.inr (.quiet hmn hstore houtput hstore' houtput'))

theorem Follows.call : Follows ρ countCall countCall fun _ _ _ => True :=
  .quiet (fun m => ⟨_, exec_modify m _, rfl, rfl⟩) fun m => ⟨_, exec_modify m _, rfl, rfl⟩

theorem Follows.iteration : Follows ρ countIteration countIteration fun _ _ _ => True :=
  .quiet (fun m => ⟨_, exec_modify m _, rfl, rfl⟩) fun m => ⟨_, exec_modify m _, rfl, rfl⟩

theorem exec_note_quiet (config : Config) (event : Store → Event) (m : Machine) :
    ∃ m', exec (Run.note config event) m = (.ok (), m') ∧ m'.store = m.store ∧
      m'.output = m.output := by
  refine ⟨_, exec_note m config event, ?_, ?_⟩ <;> rw [Machine.noted_eq]

theorem Follows.note (config : Config) (event event' : Store → Event) :
    Follows ρ (Run.note config event) (Run.note config event') fun _ _ _ => True :=
  .quiet (exec_note_quiet config event) (exec_note_quiet config event')

/-- Either the budget of statements is used up, or counting goes unnoticed. -/
theorem exec_countStatement_quiet (config : Config) (m : Machine) :
    Spent (exec (countStatement config) m).1 ∨
      ∃ m', exec (countStatement config) m = (.ok (), m') ∧ m'.store = m.store ∧
        m'.output = m.output := by
  rw [exec_countStatement]
  split
  · exact .inl trivial
  · refine .inr ⟨_, rfl, ?_, ?_⟩ <;> rw [Machine.counted, Machine.noted_eq]

theorem Follows.statement (config : Config) :
    Follows ρ (countStatement config) (countStatement config) fun _ _ _ => True := by
  intro m n hmn
  rcases exec_countStatement_quiet config m with hspent | ⟨m', hx, hstore, houtput⟩
  · exact .inl hspent
  rcases exec_countStatement_quiet config n with hspent | ⟨n', hy, hstore', houtput'⟩
  · exact .inr (.inl hspent)
  rw [hx, hy]
  exact .inr (.inr (.quiet hmn hstore houtput hstore' houtput'))

end

/-- Runs from linked stores follow each other. -/
def Judgement.follows (config : Config) : Judgement config config where
  rel ρ x y P := ρ.terms = .strict → Follows ρ x y P
  mirrors h _ := .mirrors h
  bind hx hf hterms := (hx hterms).bind fun ρ' a b hρ hab => hf ρ' a b hρ hab (hρ.terms.trans hterms)
  handle hx hhandler hx' hy' hterms :=
    (hx hterms).handle (fun ρ' cause hρ => hhandler ρ' cause hρ (hρ.terms.trans hterms)) hx' hy'
  remainder ha hb hterms :=
    .mirrors (BinaryOp.apply_mirrors .mod (fun _ _ => hterms ▸ id) ha hb)
  define definition body hblock henv hterms :=
    .mirrors (bindFunction_mirrors (hterms ▸ id) definition body hblock henv)
  enter hab hfg hvs hterms := .mirrors (startingScope_mirrors (hterms ▸ id) hab hfg hvs)
  call _ := .call
  iteration _ := .iteration
  statement _ := .statement config
  passed _ := .note config _ _
  called _ _ _ _ := .note config _ _
  iterations := config.iterations_refl
  callDepth := config.callDepth_refl

theorem Judgement.follows_sameBlocks (config : Config) : (Judgement.follows config).SameBlocks :=
  fun h hterms => h (by rw [hterms]; rfl) hterms

/-! ## Closures do not change -/

/-- The functions of the first store, and all that they lead to, are the same in the second. -/
def Store.KeepsFunctions (s t : Store) : Prop :=
  ∀ ref, s.Has (.function ref) → s.Kept t [.function ref]

/-- The stores that were noted in the course of a run, in order, and the one at its end. -/
def Machine.stores (m : Machine) : List Store :=
  m.journal.filterMap Event.store? ++ [m.store]

theorem Remembers.keepsFunctions (h : Remembers history now) :
    ∀ s ∈ history.filterMap Event.store?, s.KeepsFunctions now := by
  intro s hs
  obtain ⟨event, hevent, hstore⟩ := List.mem_filterMap.mp hs
  obtain ⟨later, earlier, rfl⟩ := List.append_of_mem hevent
  exact (h.preserves hstore).2.functions

theorem Remembers.pairwise (h : Remembers history now) :
    (history.filterMap Event.store?).Pairwise fun later earlier => earlier.KeepsFunctions later := by
  induction history with
  | nil => exact .nil
  | cons event earlier ih =>
    cases hstore : event.store? with
    | none =>
      rw [List.filterMap_cons_none hstore]
      exact ih h.2
    | some s =>
      rw [List.filterMap_cons_some hstore]
      obtain ⟨_, _, hremembers⟩ := h.1 s hstore
      exact .cons hremembers.keepsFunctions (ih h.2)

/-- From each store to every later one all functions are kept. -/
theorem Remembers.stores (h : Remembers m.history m.store) :
    m.stores.Pairwise Store.KeepsFunctions := by
  rw [Machine.stores, Machine.journal, List.filterMap_reverse]
  refine List.pairwise_append.mpr ⟨List.pairwise_reverse.mpr h.pairwise, List.pairwise_singleton _ _, ?_⟩
  intro s hs t ht
  obtain rfl := List.mem_singleton.mp ht
  exact h.keepsFunctions s (List.mem_reverse.mp hs)

/-- The run of a program that takes notes. -/
def notedRun (config : Config) (source : String) : Machine :=
  (exec (runProgram { config with notes := true } (programOf config source)) .start).2

/-- What was noted is remembered to the end, also if the trace had to be closed. -/
theorem notedRun_remembers (config : Config) (source : String) :
    Remembers (notedRun config source).history (notedRun config source).store := by
  obtain ⟨w, hm, hsound, hrecording, _⟩ :=
    runBlock_world { config with notes := true } (programOf config source)
  have hremembers := (hsound.journal hrecording).remembers
  rw [notedRun, exec_runProgram]
  split
  · next heq =>
    rw [heq] at hm
    exact hm ▸ hremembers
  · next cause m heq =>
    rw [heq] at hm
    subst hm
    obtain ⟨w', result, hexec, hlater, _, hend⟩ := hsound.closeTrace hrecording cause
    have hlast := hremembers.later (hlater.preserves hsound hrecording) (List.suffix_refl _)
    rw [exec_bind, hexec]
    cases result with
    | error failure =>
      have hhistory : w'.machine.history = w.machine.history := by rw [hend]
      rw [hhistory]
      exact hlast
    | ok _ =>
      obtain ⟨closing, hmachine, _⟩ := hend
      have hhistory : w'.machine.history = .recorded closing :: w.machine.history := by rw [hmachine]
      change Remembers w'.machine.history w'.machine.store
      rw [hhistory]
      exact ⟨nofun, hlast⟩
  · next heq =>
    rw [heq] at hm
    exact hm ▸ hremembers

/-! ## Calls do the same -/

/-- Whether a value has no parts and no identity that counts. -/
def Value.IsPrimitive : Value → Prop
  | .scalar _ => True
  | _ => False

/-- Primitive values lead nowhere. -/
theorem Store.Kept.append_primitives (hkept : s.Kept t roots) (hprimitive : ∀ v ∈ values, v.IsPrimitive)
    (hknows : ∀ v ∈ values, t.Knows v) : s.Kept t (values ++ roots) := by
  have hcases {n : Node} (hn : s.Reach true (values ++ roots) n) :
      s.Reach true roots n ∨ t.Has n ∧ ∃ mark, n = .mark mark := by
    refine hn.induct_node (fun n => s.Reach true roots n ∨ t.Has n ∧ ∃ mark, n = .mark mark) ?_ ?_
    · intro v hv k hk
      rcases List.mem_append.mp hv with hv | hv
      · have hhas := hknows v hv k hk
        cases v with
        | scalar x =>
          obtain ⟨mark, _, rfl⟩ := Value.node?_scalar hk
          exact .inr ⟨hhas, mark, rfl⟩
        | _ => exact (hprimitive _ hv).elim
      · exact .inl (.root hv hk)
    · rintro k (hk | ⟨_, mark, rfl⟩) _ v hv l hl
      · exact .inl (hk.step (.inl rfl) hv hl)
      · cases hv
  intro n hn
  rcases hcases hn with hn | ⟨hhas, mark, rfl⟩
  · exact hkept n hn
  · exact ⟨fun _ => hhas, rfl⟩

/-- A function that both stores have is the same in both. -/
def Store.Shares (ref : Nat) (s t : Store) : Prop :=
  s.Valid → t.Valid → s.Knows (.function ref) → t.Knows (.function ref) →
    s.Kept t [.function ref] ∧ t.Kept s [.function ref]

instance (ref : Nat) : Std.Symm (Store.Shares ref) where
  symm _ _ h ht hs htref hsref := (h hs ht hsref htref).symm

theorem Store.KeepsFunctions.shares (h : s.KeepsFunctions t) (ref : Nat) :
    Store.Shares ref t s := by
  intro _ hs _ hsref
  have hkept := h ref (hsref _ rfl)
  have hroots : ∀ v ∈ [Value.function ref], s.Knows v := by
    intro v hv
    obtain rfl := List.mem_singleton.mp hv
    exact hsref
  exact ⟨Store.Kept.between hs hroots hkept (.refl _ _), hkept⟩

/-- Any two stores of one run share their functions, whichever was first. -/
theorem Remembers.shares (h : Remembers history now) (hs : s ∈ history.filterMap Event.store?)
    (ht : t ∈ history.filterMap Event.store?) (ref : Nat) :
    Store.Shares ref s t :=
  List.Pairwise.forall_of_forall (fun _ _ _ _ _ _ => ⟨.refl _ _, .refl _ _⟩)
    (h.pairwise.imp fun hts => hts.shares ref) hs ht

theorem Remembers.sensible (h : Remembers history now) (hevent : event ∈ history)
    (hs : event.store? = some s) : event.Sensible := by
  obtain ⟨later, earlier, rfl⟩ := List.append_of_mem hevent
  exact (h.preserves hs).1

/-- Two calls of a function with the same primitive arguments, at the same depth in one run. -/
theorem Remembers.calls_follow (h : Remembers history now) {depth ref : Nat}
    (hs : .called depth ref arguments s ∈ history) (ht : .called depth ref arguments t ∈ history)
    (hprimitive : ∀ v ∈ arguments, v.IsPrimitive) (config : Config) (room : Nat) {n : Machine}
    (hm : m.store = s) (hn : n.store = t) :
    ∃ ρ : Renaming, ρ.Links m.store n.store ∧ Follows ρ (callFunction config room depth ref arguments)
      (callFunction config room depth ref arguments) Value.Like := by
  subst hm hn
  obtain ⟨hsvalid, hsref, hsknows⟩ := h.sensible hs rfl
  obtain ⟨htvalid, htref, htknows⟩ := h.sensible ht rfl
  have hshares := h.shares (List.mem_filterMap.mpr ⟨_, hs, rfl⟩)
    (List.mem_filterMap.mpr ⟨_, ht, rfl⟩) ref
  have hkept := (hshares hsvalid htvalid hsref htref).1.append_primitives hprimitive htknows
  have hroots : ∀ v ∈ arguments ++ [Value.function ref], m.store.Knows v := by
    intro v hv
    rcases List.mem_append.mp hv with hv | hv
    · exact hsknows v hv
    · obtain rfl := List.mem_singleton.mp hv
      exact hsref
  have hfixes {v : Value} (hv : v ∈ arguments ++ [Value.function ref]) (k : Node)
      (hk : v.node? = some k) :
      (Renaming.on (m.store.Reach true (arguments ++ [Value.function ref]))).Fixes k :=
    Renaming.on_fixes (.root hv hk)
  refine ⟨_, hkept.links hsvalid hroots, ?_⟩
  refine (Judgement.follows config).function (Judgement.follows_sameBlocks config) room depth ?_ ?_ rfl
  · exact hfixes (List.mem_append_right _ (List.mem_singleton_self _)) _ rfl
  · exact List.forall₂_same.mpr fun v hv => .self (hfixes (List.mem_append_left _ hv))

/-- A program with a function that changes its copy of a list, which changes outside as well between
two calls. -/
def capturingProgram : String :=
  "xs = [1]\ndef f(n):\n    xs.append(n)\n    print(len(xs))\n    return xs\n" ++
    "a = f(2)\nxs.append(5)\nb = f(2)"

/-- The call that was noted, if the event is that. -/
def Event.call? : Event → Option (Nat × Nat × List Value × Store)
  | .called depth ref arguments store => some (depth, ref, arguments, store)
  | _ => none

theorem Event.mem_of_call? {journal : List Event}
    (h : (depth, ref, arguments, store) ∈ journal.filterMap Event.call?) :
    .called depth ref arguments store ∈ journal := by
  obtain ⟨event, hevent, hcall⟩ := List.mem_filterMap.mp h
  cases event with
  | called => cases hcall; exact hevent
  | _ => cases hcall

theorem not_spent_of_isOk (h : r.isOk = true) : ¬ Spent r := by
  cases r with
  | ok _ => exact id
  | error _ => cases h

end Walkthrough
