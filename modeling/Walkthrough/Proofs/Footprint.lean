import Walkthrough.Proofs.Execution

/-!
# What evaluation may change

Evaluation gets hold of a list or dictionary that exists already only through the scope, and a call
only through its arguments.  Functions are no way in: a body starts from copies of the bindings at
the definition.  So nothing changes but what the scope, or the arguments, lead to
(`evaluation_footprint`).

This is the judgement of `Walkthrough.Proofs.Ownership` in a silent world that is made for the
occasion: what the scope leads to is live, and all else belongs to nobody.
-/

namespace Walkthrough

/-- What evaluation meets: calls of functions while others are under way, or no calls at all. -/
inductive Context.Proper : Context → Prop where
  | calling (maxIterations : Int) (config : Config) (room depth : Nat) :
      Context.Proper ⟨maxIterations, callFunction config room depth⟩
  | withoutCalls (maxIterations : Int) : Context.Proper (.withoutCalls maxIterations)

theorem Context.Proper.callSafe {context : Context} (h : context.Proper) : CallSafe context.call := by
  cases h with
  | calling maxIterations config room depth => exact callFunction_safe config room depth
  | withoutCalls maxIterations =>
    intro ref arguments w hw _ _
    exact Safe.store_bind (Safe.fail hw)

/-- From `m` to `m'` nothing went away, and nothing changed but lists and dictionaries that some
values lead to without entering functions. -/
def Machine.ChangesOnly (m : Machine) (roots : List Value) (m' : Machine) : Prop :=
  ∀ n, m.store.Has n → m'.store.Has n ∧
    (m'.store.cell n = m.store.cell n ∨ n.IsContainer ∧ m.store.Reach false roots n)

/-- The silent world in which all that some values lead to is live, and all else is outside. -/
noncomputable def World.around (m : Machine) (roots : List Value) : World where
  owner n := open Classical in
    if n.IsContainer ∧ m.store.Reach false roots n then .live else .outside
  machine := m
  silent := true

theorem World.around_owner (h : n.IsContainer) (hn : m.store.Reach false roots n) :
    (World.around m roots).owner n = .live :=
  if_pos ⟨h, hn⟩

theorem World.around_live (hroots : ∀ v ∈ roots, m.store.Knows v) :
    ∀ v ∈ roots, (World.around m roots).Live v :=
  fun v hv n hn => ⟨hroots v hv n hn, fun hc => .inr (World.around_owner hc (.root hv hn))⟩

theorem World.around_fine (hm : m.store.Valid) (roots : List Value) :
    (World.around m roots).Fine where
  cells n v hv k hk := by
    refine ⟨hm n v hv k hk, fun hc => ?_⟩
    -- What a live node holds is reached as well; one that is outside may hold anything.
    by_cases hn : n.IsContainer ∧ m.store.Reach false roots n
    · rw [World.around_owner hn.1 hn.2]
      exact .inr (World.around_owner hc (hn.2.step (.inr hn.1) hv hk))
    · exact .inl (if_neg hn)
  closures := nofun
  steps := nofun
  journal := nofun
  inSync := nofun

/-- A computation that is safe in such a world changes only what the values lead to. -/
theorem Upholds.changesOnly (h : Upholds settles x (.around m roots) post) :
    m.ChangesOnly roots (exec x m).2 := by
  obtain ⟨owner, hlater, _, _⟩ := h
  intro n hn
  refine ⟨hlater.has hn, ?_⟩
  by_cases hreach : n.IsContainer ∧ m.store.Reach false roots n
  · exact .inr hreach
  · left
    refine hlater.frozen hn ?_
    have howner : (World.around m roots).owner n = .outside := if_neg hreach
    rw [howner]
    exact nofun

theorem callFunction_changesOnly {m : Machine} (hm : m.store.Valid) (config : Config) (room depth : Nat)
    (href : m.store.Has (.function ref)) (harguments : ∀ v ∈ arguments, m.store.Knows v) :
    m.ChangesOnly arguments (exec (callFunction config room depth ref arguments) m).2 := by
  refine Upholds.changesOnly (callFunction_safe config room depth ref arguments _
    (World.around_fine hm _) ?_ (World.around_live harguments))
  rintro n ⟨⟩
  exact ⟨href, False.elim⟩

/-- The expression of a text is evaluated in a copy of the scope, so nothing at all changes. -/
theorem evaluateText_changesOnly {m : Machine} (hm : m.store.Valid) (config : Config)
    (henv : ∀ v ∈ env.values, m.store.Knows v) (text : String) :
    m.ChangesOnly [] (exec (evaluateText config env text) m).2 := by
  have hw : (World.around m []).Fine := World.around_fine hm []
  have hsafe : Safe (evaluateText config env text) (.around m []) LiveResult := by
    refine (Safe.snapshot_env .live hw henv).bind ?_
    rintro scope w' hw' _ ⟨hscope, _⟩
    exact Reading.evaluate_safe (Frame.top_call_safe config) hw' hscope (Reading.ofText text)
  exact hsafe.changesOnly

/-- The frame of evaluation.  Of all lists and dictionaries that exist, evaluation changes only those
that the scope leads to without entering functions, and a call only those that its arguments lead to;
a call also leaves all bindings of its caller as they are.  The evaluation of a text changes nothing
that exists.  All this holds whether they succeed or fail. -/
theorem evaluation_footprint (m : Machine) (hm : m.store.Valid) :
    (∀ context env expr, context.Proper → (∀ v ∈ env.values, m.store.Knows v) →
      m.ChangesOnly env.values (exec (evaluate context env expr) m).2) ∧
    (∀ config room depth ref arguments, m.store.Has (.function ref) →
      (∀ v ∈ arguments, m.store.Knows v) →
      m.ChangesOnly arguments (exec (callFunction config room depth ref arguments) m).2) ∧
    (∀ context inFunction env function text reading,
      Yields (Statement.execute context inFunction env (.call function text reading))
        fun effect => effect.env = env) ∧
    ∀ config env text, (∀ v ∈ env.values, m.store.Knows v) → ∀ n, m.store.Has n →
      (exec (evaluateText config env text) m).2.store.cell n = m.store.cell n := by
  refine ⟨?_, ?_, ?_, ?_⟩
  · intro context env expr hcontext henv
    exact Upholds.changesOnly <| evaluate_safe hcontext.callSafe (World.around_fine hm _)
      (World.around_live henv) expr
  · intro config room depth ref arguments href harguments
    exact callFunction_changesOnly hm config room depth href harguments
  · intro context inFunction env function text reading
    have hleaves := Statement.perform_leaves context inFunction env (.call function text reading) trivial
    intro m' effect m'' hexec
    rcases attempt_yields hleaves m' effect m'' hexec with h | ⟨cause, rfl⟩
    · exact h.2
    · rfl
  · intro config env text henv n hn
    rcases (evaluateText_changesOnly hm config henv text n hn).2 with h | ⟨_, h⟩
    · exact h
    · exact absurd h Store.not_reach_nil

/-- A machine with two lists, the first of which holds the second, and a third one. -/
def nestedMachine : Machine :=
  { Machine.start with store := ⟨#[#[.list 1], #[.int 5], #[.int 7]], #[], #[], 0⟩ }

theorem nestedMachine_valid : nestedMachine.store.Valid := by
  intro n v hv
  cases n with
  | list ref =>
    match ref with
    | 0 =>
      obtain rfl : v = .list 1 := List.mem_singleton.mp hv
      rintro _ ⟨⟩
      exact (by decide : 1 < 3)
    | 1 =>
      obtain rfl : v = .int 5 := List.mem_singleton.mp hv
      exact Store.knows_scalar _ rfl
    | 2 =>
      obtain rfl : v = .int 7 := List.mem_singleton.mp hv
      exact Store.knows_scalar _ rfl
    | _ + 3 => cases hv
  | dict ref => cases hv
  | function ref => cases hv
  | mark mark => cases hv

theorem evaluation_footprint_nested :
    let env : Env := ⟨[("x", .list 0)]⟩
    let expr := Expr.method (.subscript (.name "x" .unknown) (.const (.int 0) .unknown) .unknown)
      "append" [.const (.int 6) .unknown] .unknown
    let m' := (exec (evaluate (.withoutCalls 10) env expr) nestedMachine).2
    nestedMachine.store.Valid ∧ m'.store.list 1 = #[.int 5, .int 6] ∧
      nestedMachine.ChangesOnly env.values m' := by
  refine ⟨nestedMachine_valid, by decide +kernel, ?_⟩
  refine (evaluation_footprint nestedMachine nestedMachine_valid).1 _ _ _ (.withoutCalls 10) ?_
  intro v hv
  obtain rfl : v = .list 0 := List.mem_singleton.mp hv
  rintro _ ⟨⟩
  exact (by decide : 0 < 3)

end Walkthrough
