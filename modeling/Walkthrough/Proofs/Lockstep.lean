import Walkthrough.Proofs.Recording

/-!
# Runs in lockstep

If everything stands for itself, two related runs do literally the same.  `Lockstep` compares runs
from machines that differ in their histories and in the blocks of their functions at most, so the
configurations may differ in whether they take notes: `Trace.ofSource_notes` says that notes change
no trace.

A `Monitor` watches the first of the two runs: it says something about the machine that a run starts
from, the failure that ends it if there is one, and the machine that it leaves.  Whatever holds of
the single things that the interpreter does to a machine, and is kept when they are put together,
holds of every run.
-/

namespace Walkthrough

open Source

variable {env env' : Env} {m n : Machine} {s t : Store} {action : Action}

/-! ## Everything stands for itself -/

section

variable {terms : Terms}

theorem Renaming.same_fixes (n : Node) : (Renaming.same terms).Fixes n := by
  cases n <;> exact rfl

theorem Value.like_refl (v : Value) : v.Like (.same terms) v :=
  .self fun n _ => Renaming.same_fixes n

theorem valuesLike_refl (vs : List Value) : ValuesLike (.same terms) vs vs :=
  List.forall₂_same.mpr fun v _ => v.like_refl

theorem envLike_refl (env : Env) : EnvLike (.same terms) env env :=
  List.forall₂_same.mpr fun entry _ => ⟨rfl, entry.2.like_refl⟩

theorem dictLike_refl (d : Dict) : DictLike (.same terms) d d :=
  List.forall₂_same.mpr fun entry _ =>
    ⟨.self fun n _ => Renaming.same_fixes n, entry.2.like_refl⟩

theorem Renaming.Links.refl (s : Store) : Renaming.identity.Links s s where
  lists := .identity _
  dicts := .identity _
  functions := .identity _
  marks := .identity _
  list := by
    rintro a _ rfl
    exact valuesLike_refl _
  dict := by
    rintro a _ rfl
    exact dictLike_refl _
  function := by
    rintro a _ rfl
    exact ⟨rfl, rfl, rfl, rfl, fun _ => envLike_refl _, fun _ => trivial⟩

theorem forall₂_eq_of (h : List.Forall₂ R l l') (hR : ∀ a b, R a b → a = b) : l = l' := by
  rw [← List.forall₂_eq_eq_eq]
  exact h.imp hR

theorem Scalar.Like.eq {x y : Scalar} (h : x.Like (.same terms) y) : x = y := by
  cases h with
  | nan h => exact congrArg Scalar.nan h
  | _ => rfl

theorem Value.Like.eq {v w : Value} (h : v.Like (.same terms) w) : v = w := by
  cases h with
  | scalar h => rw [h.eq]
  | complex re im => rfl
  | list h => exact congrArg Value.list h
  | dict h => exact congrArg Value.dict h
  | function h => exact congrArg Value.function h

theorem valuesLike_eq {vs ws : List Value} (h : ValuesLike (.same terms) vs ws) : vs = ws :=
  forall₂_eq_of h fun _ _ h => h.eq

theorem entriesLike_eq {xs ys : List (String × Value)}
    (h : List.Forall₂ (EntryLike Eq (.same terms)) xs ys) : xs = ys :=
  forall₂_eq_of h fun _ _ h => Prod.ext h.1 h.2.eq

theorem envLike_eq (h : EnvLike (.same terms) env env') : env = env' :=
  congrArg Table.mk (entriesLike_eq h)

theorem dictLike_eq {d d' : Dict} (h : DictLike (.same terms) d d') : d = d' := by
  refine congrArg Table.mk (forall₂_eq_of h fun a b h => Prod.ext ?_ h.2.eq)
  exact congrArg Key.mk (Scalar.Like.eq h.1)

theorem Function.Like.eq {f g : Function} (h : f.Like .identity g) : f = g := by
  obtain ⟨hname, hparameters, hbody, hblock, hclosure, _⟩ := h
  have hclosure := envLike_eq (hclosure id)
  cases f
  cases g
  cases hname
  cases hparameters
  cases hbody
  cases hblock
  cases hclosure
  rfl

theorem Action.Like.eq {a b : Action} (h : a.Like (.same terms) b) : a = b := by
  cases h with
  | assign name source h => rw [h.eq]
  | reassign name source h hold => rw [h.eq, hold.eq]
  | augment name op h hold hright => rw [h.eq, hold.eq, hright.eq]
  | setItem kind name summary hkey h hold => rw [hkey.eq, h.eq, hold.eq]
  | operate kind name operation summary hvs h hold hresult =>
    rw [valuesLike_eq hvs, h.eq, hold.eq, hresult.eq]
  | print text h => rw [valuesLike_eq h]
  | call name hvs h => rw [valuesLike_eq hvs, h.eq]
  | loopIteration target index total h => rw [h.eq]
  | condition word text result h => rw [entriesLike_eq h]
  | _ => rfl

/-- Two stores have given out equally many identities. -/
theorem OneToOne.size_eq {m n : Nat} (h : OneToOne Eq m n) : m = n := by
  have := h.fresh (rfl : m = m)
  omega

theorem array_eq_of_getD {α : Type} {xs ys : Array α} {default : α} (hsize : xs.size = ys.size)
    (h : ∀ i : Nat, xs[i]?.getD default = ys[i]?.getD default) : xs = ys := by
  refine Array.ext hsize fun i hi hi' => ?_
  simpa [hi, hi'] using h i

/-- Stores in which everything stands for itself differ in their functions at most. -/
theorem Renaming.Links.eq_with (h : (Renaming.same terms).Links s t) :
    s = { t with functions := s.functions } := by
  have hlists : s.lists = t.lists :=
    array_eq_of_getD h.lists.size_eq fun i => Array.toList_inj.mp (valuesLike_eq (h.list rfl))
  have hdicts : s.dicts = t.dicts :=
    array_eq_of_getD h.dicts.size_eq fun i => dictLike_eq (h.dict rfl)
  have hmarks : s.marks = t.marks := h.marks.size_eq
  rw [← hlists, ← hdicts, ← hmarks]

theorem Renaming.Links.eq (h : Renaming.identity.Links s t) : s = t := by
  have hfunctions : s.functions = t.functions :=
    array_eq_of_getD h.functions.size_eq fun i => (h.function rfl).eq
  rw [h.eq_with, hfunctions]

/-- A renaming that links two stores cannot say more than that everything stands for itself. -/
theorem Renaming.Within.eq_same (h : (Renaming.same terms).Within ρ) (hst : ρ.Links s t) :
    ρ = .same terms := by
  have hsame {r : Nat → Nat → Prop} {m n : Nat} (hr : OneToOne r m n) (hself : ∀ a, r a a) :
      r = Eq := by
    funext a b
    refine propext ⟨fun hab => hr.functional (hself a) hab, ?_⟩
    rintro rfl
    exact hself a
  have hlist := hsame hst.lists fun a => h.list (Eq.refl a)
  have hdict := hsame hst.dicts fun a => h.dict (Eq.refl a)
  have hfunction := hsame hst.functions fun a => h.function (Eq.refl a)
  have hmark := hsame hst.marks fun a => h.mark (Eq.refl a)
  have hseen : ρ.seen = fun _ => True := funext fun f => eq_true (h.seen trivial)
  have hterms := h.terms
  cases ρ
  cases hlist
  cases hdict
  cases hfunction
  cases hmark
  cases hseen
  cases hterms
  rfl

end

/-- From equal stores, two runs that mirror each other make the same changes and print the same
lines. -/
theorem Mirrors.moves (h : Mirrors .identity x y P) (hmn : m.store = n.store) :
    ∃ store lines, (exec x m).2 = m.after store lines ∧ (exec y n).2 = n.after store lines ∧
      Agrees (P .identity) (exec x m).1 (exec y n).1 := by
  have hlinks : Renaming.identity.Links m.store n.store := hmn ▸ .refl m.store
  obtain ⟨ρ, hρ, hends, ⟨_, lines, hx, hy⟩, hagree⟩ := h m n hlinks
  obtain rfl := hρ.eq_same hends
  refine ⟨(exec x m).2.store, lines, hx, ?_, hagree⟩
  rw [Renaming.Links.eq hends]
  exact hy

/-! ## Monitors -/

/-- The failure of a result. -/
def failure? {ε α : Type} : Except ε α → Option ε
  | .ok _ => none
  | .error failure => some failure

/-- What may be said about every run: about the machine that it starts from, the failure that ends
it if there is one, and the machine that it leaves. -/
structure Monitor (config : Config) where
  holds : Machine → Option Failure → Machine → Prop
  moves (m : Machine) (store : Store) (lines : List String) {failure? : Option Failure}
    (h : ∀ failure, failure? = some failure → failure.Arises) :
    holds m failure? (m.after store lines)
  trans {m m' m'' : Machine} {failure? : Option Failure} :
    holds m none m' → holds m' failure? m'' → holds m failure? m''
  /-- An error is handled, or becomes another error. -/
  settle {m m' : Machine} {cause : EvalError} (cause? : Option EvalError) :
    holds m (some (.error cause)) m' → holds m (cause?.map .error) m'
  /-- A failure that is no error takes back what a statement printed. -/
  rollBack {m m' : Machine} {failure : Failure} : ¬ failure.IsError → holds m (some failure) m' →
    holds m (some failure) { m' with output := m.output }
  statement (m : Machine) : holds m (failure? (exec (countStatement config) m).1)
    (exec (countStatement config) m).2
  tally (m : Machine) (calls iterations : Nat) :
    holds m none { m with tally.calls := calls, tally.iterations := iterations }
  note (m : Machine) (event : Store → Event) : holds m none (m.noted config event)

/-- The monitor that says nothing. -/
def Monitor.idle (config : Config) : Monitor config where
  holds _ _ _ := True
  moves _ _ _ _ _ := trivial
  trans _ _ := trivial
  settle _ _ := trivial
  rollBack _ _ := trivial
  statement _ := trivial
  tally _ _ _ := trivial
  note _ _ := trivial

/-- The monitor holds of a run. -/
def Monitor.Watches {config : Config} (M : Monitor config) {α : Type} (x : Run α) (m : Machine) :
    Prop :=
  M.holds m (failure? (exec x m).1) (exec x m).2

/-! ## Lockstep -/

/-- Two machines that differ in their histories only. -/
def Machine.Beside (m n : Machine) : Prop := n = { m with history := n.history }

/-- Two machines that differ in their histories, and in the blocks of their functions as far as
`terms` allows it. -/
structure Machine.Alike (terms : Terms) (m n : Machine) : Prop where
  links : (Renaming.same terms).Links m.store n.store
  rest : n = { m with store := n.store, history := n.history }

theorem Machine.Alike.refl (m : Machine) : m.Alike .strict m :=
  ⟨.refl m.store, rfl⟩

theorem Machine.Alike.beside (h : m.Alike .strict n) : m.Beside n := by
  have hstore : m.store = n.store := h.links.eq
  have hrest := h.rest
  rw [← hstore] at hrest
  exact hrest

theorem Machine.noted_eq (m : Machine) (config : Config) (event : Store → Event) :
    m.noted config event = { m with history := (m.noted config event).history } := by
  unfold Machine.noted
  split <;> rfl

theorem Machine.Alike.noted (h : m.Alike terms n) (config config' : Config)
    (event event' : Store → Event) : (m.noted config event).Alike terms (n.noted config' event') := by
  have hm := m.noted_eq config event
  have hn := n.noted_eq config' event'
  refine ⟨?_, ?_⟩
  · rw [hm, hn]
    exact h.links
  · rw [hn, hm, h.rest]

/-- By what two runs are compared: what is said about the first, the blocks that their functions may
have, and the failures with which the first may stop before the second. -/
structure Watch (config : Config) where
  monitor : Monitor config
  terms : Terms
  strict : ¬ terms.loose
  stops : Failure → Prop
  aborts {failure : Failure} : stops failure → ¬ failure.IsError

/-- Two runs that do literally the same. -/
def Monitor.watch {config : Config} (M : Monitor config) : Watch config :=
  ⟨M, .strict, id, fun _ => False, False.elim⟩

/-- Nothing is said about the first run, and it does not stop. -/
def Watch.quiet {config : Config} (W : Watch config) : Watch config :=
  { W with monitor := .idle config, stops := fun _ => False, aborts := False.elim }

/-- How two runs from machines that are alike end, the first from `m`. -/
inductive Watch.Ends {config : Config} (W : Watch config) {α β : Type} (R : α → β → Prop)
    (m : Machine) : Except Failure α × Machine → Except Failure β × Machine → Prop where
  | ok {a : α} {b : β} {m' n' : Machine} : m'.Alike W.terms n' → R a b →
      W.monitor.holds m none m' → W.Ends R m (.ok a, m') (.ok b, n')
  | error {failure : Failure} {m' n' : Machine} : m'.Alike W.terms n' →
      W.monitor.holds m (some failure) m' → W.Ends R m (.error failure, m') (.error failure, n')
  | stopped {failure : Failure} {m' : Machine} {e : Except Failure β × Machine} :
      W.stops failure → W.monitor.holds m (some failure) m' → W.Ends R m (.error failure, m') e

theorem Watch.Ends.quiet_of {config : Config} {W : Watch config} {α β : Type} {R : α → β → Prop}
    {e : Except Failure α × Machine} {e' : Except Failure β × Machine} (h : W.quiet.Ends R m e e')
    (n : Machine) : W.quiet.Ends R n e e' := by
  cases h with
  | ok halike hab _ => exact .ok halike hab trivial
  | error halike _ => exact .error halike trivial
  | stopped hstops _ => exact hstops.elim

/-- From machines that are alike, two runs go to such machines and their results agree, unless the
first stops; and the monitor holds of it. -/
def Lockstep {config : Config} (W : Watch config) {α β : Type} (x : Run α) (y : Run β)
    (R : α → β → Prop) : Prop :=
  ∀ m n, m.Alike W.terms n → W.Ends R m (exec x m) (exec y n)

section

variable {config : Config} {W : Watch config} {α β γ δ : Type}

/-- What a monitor says about a run that is in lockstep with itself. -/
theorem Lockstep.watches {M : Monitor config} {R : α → α → Prop} (h : Lockstep M.watch x x R)
    (m : Machine) : M.Watches x m := by
  have hends := h m m (.refl m)
  rw [Monitor.Watches]
  generalize exec x m = e at hends ⊢
  cases hends with
  | ok _ _ hholds => exact hholds
  | error _ hholds => exact hholds
  | stopped _ hholds => exact hholds

/-- What a monitor says may be proved apart. -/
theorem Lockstep.watched (h : Lockstep W.quiet x y R)
    (hM : ∀ m, W.monitor.Watches x m) : Lockstep W x y R := by
  intro m n hmn
  have hends := h m n hmn
  have hholds := hM m
  rw [Monitor.Watches] at hholds
  generalize exec x m = e at hends hholds ⊢
  generalize exec y n = e' at hends ⊢
  cases hends with
  | ok halike hab _ => exact .ok halike hab hholds
  | error halike _ => exact .error halike hholds
  | stopped hstops _ => exact hstops.elim

theorem Lockstep.mirrors (h : Mirrors (.same W.terms) x y P) : Lockstep W x y (P (.same W.terms)) := by
  intro m n hmn
  obtain ⟨ρ, hρ, hends, ⟨_, lines, hx, hy⟩, hagree⟩ := h m n hmn.links
  obtain rfl := hρ.eq_same hends
  have hx : (exec x m).2 = m.after (exec x m).2.store lines := hx
  have halike : (exec x m).2.Alike W.terms (exec y n).2 := by
    refine ⟨hends, ?_⟩
    rw [hx, hy, hmn.rest]
    rfl
  have hholds {failure? : Option Failure} (h : ∀ failure, failure? = some failure → failure.Arises) :
      W.monitor.holds m failure? (exec x m).2 := by
    rw [hx]
    exact W.monitor.moves m _ lines h
  clear hx hy hends
  generalize exec x m = e at halike hagree hholds ⊢
  generalize exec y n = e' at halike hagree ⊢
  obtain ⟨r, m'⟩ := e
  obtain ⟨r', n'⟩ := e'
  cases hagree with
  | ok hab => exact .ok halike hab (hholds nofun)
  | error hplain =>
    refine .error halike (hholds fun failure hfailure => ?_)
    cases hfailure
    exact hplain

/-- The first run started earlier. -/
theorem Watch.Ends.after (h : W.Ends R m' e e') (hholds : W.monitor.holds m none m') :
    W.Ends R m e e' := by
  cases h with
  | ok halike hab hholds' => exact .ok halike hab (W.monitor.trans hholds hholds')
  | error halike hholds' => exact .error halike (W.monitor.trans hholds hholds')
  | stopped hstops hholds' => exact .stopped hstops (W.monitor.trans hholds hholds')

theorem Lockstep.bind (hx : Lockstep W x y R) (hf : ∀ a b, R a b → Lockstep W (f a) (g b) Q) :
    Lockstep W (x >>= f) (y >>= g) Q := by
  intro m n hmn
  have hends := hx m n hmn
  rw [exec_bind, exec_bind]
  generalize exec x m = e at hends ⊢
  generalize exec y n = e' at hends ⊢
  cases hends with
  | ok halike hab hholds => exact (hf _ _ hab _ _ halike).after hholds
  | error halike hholds => exact .error halike hholds
  | stopped hstops hholds => exact .stopped hstops hholds

theorem Lockstep.handle (hx : Lockstep W x y R) (hhandler : ∀ cause, Lockstep W (h cause) (k cause) R)
    (hx' : Handles rolls x h x') (hy' : Handles rolls y k y') : Lockstep W x' y' R := by
  intro m n hmn
  have hends := hx m n hmn
  rw [hx' m, hy' n]
  generalize exec x m = e at hends ⊢
  generalize exec y n = e' at hends ⊢
  cases hends with
  | ok halike hab hholds => exact .ok halike hab hholds
  | @error failure m' n' halike hholds =>
    have hrolled : { m' with output := m.output }.Alike W.terms { n' with output := n.output } := by
      refine ⟨halike.links, ?_⟩
      rw [halike.rest, hmn.rest]
    have habort (h : ¬ failure.IsError) := W.monitor.rollBack h hholds
    cases failure with
    | error cause => exact (hhandler cause m' n' halike).after (W.monitor.settle none hholds)
    | _ =>
      cases rolls with
      | true => exact .error hrolled (habort id)
      | false => exact .error halike hholds
  | @stopped failure m' _ hstops hholds =>
    have hrolled := W.monitor.rollBack (W.aborts hstops) hholds
    cases failure with
    | error cause => exact absurd trivial (W.aborts hstops)
    | _ =>
      cases rolls with
      | true => exact .stopped hstops hrolled
      | false => exact .stopped hstops hholds

theorem Lockstep.tally (change : Tally → Tally)
    (hM : ∀ m : Machine, W.monitor.holds m none { m with tally := change m.tally }) :
    Lockstep W (modify fun m => { m with tally := change m.tally })
      (modify fun m => { m with tally := change m.tally }) fun _ _ => True := by
  intro m n hmn
  refine .ok ⟨hmn.links, ?_⟩ trivial (hM m)
  rw [hmn.rest]

theorem Lockstep.note (config' : Config) (event event' : Store → Event) :
    Lockstep W (Run.note config event) (Run.note config' event') fun _ _ => True := by
  intro m n hmn
  rw [exec_note, exec_note]
  exact .ok (hmn.noted config config' event event') trivial (W.monitor.note m event)

theorem Lockstep.statement (config' : Config) (h : config'.maxStatements = config.maxStatements) :
    Lockstep W (countStatement config) (countStatement config') fun _ _ => True := by
  intro m n hmn
  have hstart : { m with tally.statements := m.tally.statements + 1 }.Alike W.terms
      { n with tally.statements := n.tally.statements + 1 } := by
    refine ⟨hmn.links, ?_⟩
    rw [hmn.rest]
  have hcounted : (m.counted config).Alike W.terms (n.counted config') :=
    hstart.noted config config' .passed .passed
  have hstatements : (n.counted config').tally.statements = (m.counted config).tally.statements := by
    rw [hcounted.rest]
  have hholds := W.monitor.statement m
  rw [exec_countStatement] at hholds
  rw [exec_countStatement, exec_countStatement, hstatements, h]
  split
  · next hspent =>
    rw [if_pos hspent] at hholds
    exact .error hcounted hholds
  · next hspent =>
    rw [if_neg hspent] at hholds
    exact .ok hcounted trivial hholds

end

/-- Runs in lockstep, under the renaming in which every identity stands for itself. -/
def Judgement.beside {config config' : Config} (W : Watch config)
    (hstatements : config'.maxStatements = config.maxStatements)
    (hiterations : config.maxIterations = config'.maxIterations)
    (hdepth : config.maxCallDepth = config'.maxCallDepth) : Judgement config config' where
  rel ρ x y P := ρ = .same W.terms → Lockstep W x y (P (.same W.terms))
  mirrors := by
    rintro α β _ x y P h rfl
    exact .mirrors h
  bind := by
    rintro α β γ δ _ x y f g P Q hx hf rfl
    exact (hx rfl).bind fun a b hab => hf _ a b .rfl hab rfl
  handle := by
    rintro α β _ rolls x x' y y' h k P hx hhandler hx' hy' rfl
    exact (hx rfl).handle (fun cause => hhandler _ cause .rfl rfl) hx' hy'
  remainder := by
    rintro _ a a' b b' ha hb rfl
    exact .mirrors (BinaryOp.apply_mirrors .mod (fun _ _ => W.strict) ha hb)
  define := by
    rintro _ block block' env env' definition body hblock henv rfl
    exact .mirrors (bindFunction_mirrors W.strict definition body hblock henv)
  enter := by
    rintro _ a b f g vs ws hab hfg hvs rfl
    exact .mirrors (startingScope_mirrors W.strict hab hfg hvs)
  call _ := .tally (fun t => { t with calls := t.calls + 1 }) fun m => W.monitor.tally m _ _
  iteration _ :=
    .tally (fun t => { t with iterations := t.iterations + 1 }) fun m => W.monitor.tally m _ _
  statement _ := .statement _ hstatements
  passed _ := .note _ _ _
  called _ _ _ _ := .note _ _ _
  iterations := hiterations
  callDepth := hdepth

/-- The same run with notes and without. -/
def Judgement.lockstep {config : Config} (M : Monitor config) (notes : Bool) :
    Judgement config { config with notes } :=
  .beside M.watch rfl config.iterations_refl config.callDepth_refl

theorem Judgement.lockstep_sameBlocks (M : Monitor config) (notes : Bool) :
    (Judgement.lockstep M notes).SameBlocks := by
  rintro α β ρ x y P h rfl
  exact h rfl rfl

/-! ## Recording -/

theorem Action.mapM_failsAs (hf : ∀ v, FailsAs p (f v)) (action : Action) :
    FailsAs p (action.mapM f) := by
  rw [Action.mapM_eq]
  exact (FailsAs.mapM hf _).bind fun _ => .pure _

theorem Copying.Twins.refl (t : Std.TreeMap Nat Nat) : Copying.Twins Eq t t where
  copies := by
    rintro a _ rfl
    cases t[a]? with
    | some b => exact .some rfl
    | none => exact .none
  left {a _} _ := ⟨a, rfl⟩
  right {b _} _ := ⟨b, rfl⟩

theorem Copying.Linked.refl (c : Copying) : Copying.Linked Eq Eq .identity c c where
  contents := (Renaming.Links.refl c.store).toContents
  lists := .refl c.lists
  dicts := .refl c.dicts
  function := rfl
  mark := rfl

theorem copyValue_failsAs (depth : Nat) (v : Value) :
    FailsAs (· = Failure.tooDeep) (copyValue depth v) := by
  intro c failure c' h
  obtain ⟨_, _, _, _, hagree⟩ := copyValue_parallel depth v.like_refl c c (.refl c)
  rw [h] at hagree
  cases hagree with
  | error hdeep => exact hdeep

theorem copyEnv_failsAs (env : Env) :
    FailsAs (· = Failure.tooDeep) (copyEnv (copyValue nestingLimit) env) :=
  (FailsAs.mapM (fun _ => (copyValue_failsAs _ _).bind fun _ => .pure _) _).bind fun _ => .pure _

theorem snapshot_failsAs {α : Type} {p : Failure → Prop} {copying : (Value → CopyM Value) → CopyM α}
    (h : FailsAs p (copying (copyValue nestingLimit))) {store store' : Store} {failure : Failure}
    (hfailed : store.snapshot copying = (.error failure, store')) : p failure := by
  have hresult : (exec (copying (copyValue nestingLimit)) ⟨store, ∅, ∅⟩).1 = .error failure :=
    congrArg Prod.fst hfailed
  exact h _ failure _ (Prod.ext hresult rfl)

/-- What a step is made of: copies of its bindings and of its action, if they can be copied.  They
depend on nothing but the store. -/
def stepParts (store : Store) (action : Action) (env : Env) : Except Failure (Env × Action) × Store :=
  match store.snapshot fun copy => copyEnv copy env with
  | (.error failure, store) => (.error failure, store)
  | (.ok bindings, store) =>
    match store.snapshot fun copy => action.mapM copy with
    | (.error failure, store) => (.error failure, store)
    | (.ok action, store) => (.ok (bindings, action), store)

/-- The machine with one step more. -/
def Machine.withStep (m : Machine) (store : Store) (step : Step) : Machine :=
  { m with
    store
    steps := m.steps.push step
    errors := if step.action.isError then m.errors + 1 else m.errors
    history := .recorded step :: m.history }

theorem exec_addStep (line : Nat) (action : Action) (env : Env) (output : Output) (m : Machine) :
    exec (addStep line action env output) m =
      match stepParts m.store action env with
      | (.error failure, store) => (.error failure, { m with store })
      | (.ok (bindings, action), store) =>
        (.ok (), m.withStep store { index := m.steps.size, line, action, bindings, output }) := by
  unfold addStep stepParts
  rw [exec_bind, exec_snapshot]
  rcases m.store.snapshot fun copy => copyEnv copy env with ⟨failure | bindings, store⟩
  · rfl
  dsimp only
  rw [exec_bind, exec_snapshot]
  rcases store.snapshot fun copy => action.mapM copy with ⟨failure | action', store'⟩ <;> rfl

/-- Copies cannot be made only if values nest too deeply. -/
theorem stepParts_failsAs {store store' : Store} {failure : Failure}
    (h : stepParts store action env = (.error failure, store')) : failure = .tooDeep := by
  have haction := Action.mapM_failsAs (copyValue_failsAs nestingLimit) action
  unfold stepParts at h
  split at h
  · next failure' store₁ heq =>
    cases h
    exact snapshot_failsAs (p := (· = .tooDeep)) (copyEnv_failsAs env) heq
  · next bindings store₁ _ =>
    split at h
    · next failure' store₂ heq =>
      cases h
      exact snapshot_failsAs (p := (· = .tooDeep)) haction heq
    · cases h

/-! ## Notes -/

variable {config : Config} {M : Monitor config} {notes : Bool}

/-- Recording on a whole program: first a note, then the budget is asked, then the step is added. -/
theorem exec_record_top (config : Config) (line : Line) (action : Action) (env : Env)
    (m : Machine) :
    exec ((Frame.top config).record line action env) m =
      if m.steps.size ≥ config.maxSteps then
        (.error (.budget (.step config.maxSteps)), m.noted config .passed)
      else exec (addStep line.index action env m.output) (m.noted config .passed) := by
  have hsteps : (m.noted config .passed).steps = m.steps := by rw [Machine.noted_eq]
  have houtput : (m.noted config .passed).output = m.output := by rw [Machine.noted_eq]
  unfold Frame.record Frame.top
  simp only [Bool.false_eq_true, if_false]
  rw [exec_bind_ok (exec_note m config .passed), exec_bind_ok (exec_get _), hsteps]
  split
  · rfl
  · rw [exec_bind_ok (exec_get _), houtput]

/-- Both record steps with the same copies. -/
theorem Lockstep.addStep (W : Watch config) (line : Nat) {action' : Action}
    (haction : action.Like (.same W.terms) action') (henv : EnvLike (.same W.terms) env env')
    (output : Output) :
    Lockstep W.quiet (Walkthrough.addStep line action env output)
      (Walkthrough.addStep line action' env' output) fun _ _ => True := by
  refine (Lockstep.mirrors (W := W.quiet) (Mirrors.copyEnv henv)).bind fun bindings bindings' hbindings => ?_
  have hcopy : Mirrors (.same W.terms) (Run.snapshot fun copy => action.mapM copy)
      (Run.snapshot fun copy => action'.mapM copy) Action.Like :=
    Mirrors.snapshot (Action.mapM_parallel nestingLimit haction)
  refine (Lockstep.mirrors (W := W.quiet) hcopy).bind fun copied copied' hcopied => ?_
  rw [envLike_eq hbindings, hcopied.eq]
  intro m n hmn
  refine .ok ⟨hmn.links, ?_⟩ trivial trivial
  rw [hmn.rest]

/-- Recording is in lockstep if the monitor allows for it. -/
theorem Lockstep.record {W : Watch config} (config' : Config)
    (hsteps : config'.maxSteps = config.maxSteps) (line : Line) {action' : Action}
    (haction : action.Like (.same W.terms) action') (henv : EnvLike (.same W.terms) env env')
    (hM : ∀ m, W.monitor.Watches ((Frame.top config).record line action env) m) :
    Lockstep W ((Frame.top config).record line action env)
      ((Frame.top config').record line action' env') fun _ _ => True := by
  refine Lockstep.watched (fun m n hmn => ?_) hM
  have hnoted := hmn.noted config config' .passed .passed
  have hsize : n.steps = m.steps := by rw [hmn.rest]
  have houtput : n.output = m.output := by rw [hmn.rest]
  rw [exec_record_top, exec_record_top, hsize, houtput, hsteps]
  split
  · exact .error hnoted trivial
  · exact (Lockstep.addStep W line.index haction henv m.output _ _ hnoted).quiet_of m

/-- Blocks of a whole program are in lockstep if the monitor allows for recording on their lines. -/
theorem Judgement.Frames.top {p : Line → Prop}
    (hM : ∀ line action env m, p line → M.Watches ((Frame.top config).record line action env) m) :
    (Judgement.lockstep M notes).Frames p (Frame.top config) (Frame.top { config with notes }) where
  config := rfl
  config' := rfl
  inFunction := rfl
  call hab hvs :=
    (Judgement.lockstep M notes).function (Judgement.lockstep_sameBlocks M notes) callLimit 0 hab hvs
  record := by
    rintro _ line action action' env env' hline haction henv rfl
    refine .record { config with notes } ?_ line haction henv fun m => hM line action env m hline
    rfl

/-- Runs what a program does; the result says whether a budget was used up. -/
def untilSpent (program : Run Progress) : Run Bool :=
  tryCatch (do let _ ← program; return false) fun
    | .budget cause => do closeTrace cause; return true
    | failure => throw failure

/-- Two programs in lockstep, of which the first did not stop, leave machines that are alike. -/
theorem Lockstep.untilSpent (hx : Lockstep W x y R) (hmn : m.Alike W.terms n)
    (hruns : ∀ failure, W.stops failure → (exec x m).1 ≠ .error failure) : (exec (untilSpent x) m).1
    = (exec (untilSpent y) n).1 ∧ (exec (untilSpent x) m).2.Alike W.terms (exec (untilSpent y) n).2 := by
  have hends := hx m n hmn
  rw [Walkthrough.untilSpent, Walkthrough.untilSpent, exec_tryCatch, exec_tryCatch, exec_bind,
    exec_bind]
  generalize exec x m = e at hends hruns ⊢
  generalize exec y n = e' at hends ⊢
  cases hends with
  | ok halike _ _ => exact ⟨rfl, halike⟩
  | stopped hstops _ => exact absurd rfl (hruns _ hstops)
  | @error failure m' n' halike _ =>
    cases failure with
    | budget cause =>
      have hsteps : n'.steps = m'.steps := by rw [halike.rest]
      have hbindings : n'.shownBindings = m'.shownBindings := by
        rw [Machine.shownBindings, Machine.shownBindings, hsteps]
      have houtput : n'.shownOutput = m'.shownOutput := by
        rw [Machine.shownOutput, Machine.shownOutput, hsteps]
      have hclose := Lockstep.addStep W ((m'.steps.back?.map (·.line)).getD 0)
        (.error cause.message) (envLike_refl m'.shownBindings) m'.shownOutput m' n' halike
      dsimp only
      rw [exec_bind, exec_bind, exec_closeTrace, exec_closeTrace, hsteps, hbindings, houtput]
      generalize exec (Walkthrough.addStep _ _ _ _) m' = e at hclose ⊢
      generalize exec (Walkthrough.addStep _ _ _ _) n' = e' at hclose ⊢
      cases hclose with
      | ok halike _ _ => exact ⟨rfl, halike⟩
      | error halike _ => exact ⟨rfl, halike⟩
      | stopped hstops _ => exact hstops.elim
    | _ => exact ⟨rfl, halike⟩

/-- A program with notes does what it does without them. -/
theorem runProgram_notes (config : Config) (notes : Bool) (program : List Item) :
    (exec (runProgram config program) .start).1 =
        (exec (runProgram { config with notes } program) .start).1 ∧
      (exec (runProgram config program) .start).2.Beside
        (exec (runProgram { config with notes } program) .start).2 := by
  have hframes : (Judgement.lockstep (.idle config) notes).Frames (fun _ => True) _ _ :=
    .top fun _ _ _ _ _ => trivial
  have hblock := hframes.block (Judgement.lockstep_sameBlocks _ notes) program
    (fun _ _ => trivial) .identity .empty .empty (envLike_refl .empty) rfl
  have hends := hblock.untilSpent (Machine.Alike.refl .start) fun _ hstops => hstops.elim
  exact ⟨hends.1, hends.2.beside⟩

/-- The trace that a machine holds at the end of a run. -/
def Machine.trace (m : Machine) (source : String) (truncated : Bool) : Trace where
  lines := Line.all source
  steps := m.steps
  errors := m.errors
  tally := m.tally
  truncated
  store := m.store

theorem Trace.ofSource_run (config : Config) (source : String) :
    Trace.ofSource config source =
      match exec (runProgram config (programOf config source)) .start with
      | (.ok truncated, m) => .ok (m.trace source truncated)
      | (.error .tooDeep, _) => .error .tooDeep
      | (.error failure, _) => .error (.stopped failure) := rfl

/-- Every trace is what a machine holds at the end. -/
theorem Trace.ofSource_eq (h : Trace.ofSource config source = .ok trace) :
    ∃ m, exec (runProgram config (programOf config source)) .start = (.ok trace.truncated, m) ∧
      trace = m.trace source trace.truncated := by
  rw [Trace.ofSource_run] at h
  split at h
  · next truncated m heq =>
    cases h
    exact ⟨m, heq, rfl⟩
  · cases h
  · cases h

/-- Notes change no trace. -/
theorem Trace.ofSource_notes (config : Config) (notes : Bool) (source : String) :
    Trace.ofSource { config with notes } source = Trace.ofSource config source := by
  obtain ⟨hresult, hbeside⟩ := runProgram_notes config notes (programOf config source)
  have hprogram : programOf { config with notes } source = programOf config source := rfl
  rw [Trace.ofSource_run, Trace.ofSource_run, hprogram]
  generalize exec (runProgram config _) .start = x at hresult hbeside ⊢
  generalize exec (runProgram { config with notes } _) .start = y at hresult hbeside ⊢
  obtain ⟨r, m⟩ := x
  obtain ⟨r', n⟩ := y
  obtain rfl : r = r' := hresult
  have hn : n = { m with history := n.history } := hbeside
  rw [hn]
  cases r with
  | ok truncated => rfl
  | error failure => cases failure <;> rfl

end Walkthrough
