import Mathlib.Data.List.Forall2
import Walkthrough.Trace.Basic

/-!
# Equations of runs

A run is a function of the machine that it starts from.  `exec` applies it, and the equations below
say what each way to build a run does with the machine: later proofs rewrite with them and do not
look at the layers of the monad.  Copying has a state of its own and operators have their own
failures, so the equations are stated for all computations of that shape.
-/

namespace Walkthrough

/-- What a computation gives from a state: its result, and the state that it leaves. -/
def exec {ε σ α : Type} (x : ExceptT ε (StateM σ) α) (s : σ) : Except ε α × σ :=
  x.run.run s

section

variable {ε σ α β : Type} (x : ExceptT ε (StateM σ) α) (f : α → ExceptT ε (StateM σ) β) (s : σ)

@[simp]
theorem exec_pure (a : α) : exec (pure a : ExceptT ε (StateM σ) α) s = (.ok a, s) := rfl

@[simp]
theorem exec_throw (failure : ε) :
    exec (throw failure : ExceptT ε (StateM σ) α) s = (.error failure, s) := rfl

@[simp]
theorem exec_get : exec (get : ExceptT ε (StateM σ) σ) s = (.ok s, s) := rfl

@[simp]
theorem exec_modify (g : σ → σ) : exec (modify g : ExceptT ε (StateM σ) Unit) s = (.ok (), g s) :=
  rfl

theorem exec_bind :
    exec (x >>= f) s =
      match exec x s with
      | (.ok a, s') => exec (f a) s'
      | (.error failure, s') => (.error failure, s') := by
  change (match x.run.run s with
    | (r, s') => (ExceptT.bindCont f r).run s') = _
  rw [exec]
  rcases x.run.run s with ⟨_ | _, s'⟩ <;> rfl

theorem exec_tryCatch (handler : ε → ExceptT ε (StateM σ) α) :
    exec (tryCatch x handler) s =
      match exec x s with
      | (.ok a, s') => (.ok a, s')
      | (.error failure, s') => exec (handler failure) s' := by
  change ((ExceptT.tryCatch x handler).run.run s) = _
  rw [ExceptT.tryCatch, exec]
  rcases h : x.run.run s with ⟨_ | _, s'⟩ <;> simp [ExceptT.run, ExceptT.mk, exec] at h ⊢ <;>
    rw [h] <;> rfl

theorem exec_adapt (g : ε → ε') :
    exec (ExceptT.adapt g x) s = ((exec x s).1.mapError g, (exec x s).2) := rfl

variable {x f s}

/-- A computation that goes on after a first part has succeeded. -/
theorem exec_bind_ok (h : exec x s = (.ok a, s')) : exec (x >>= f) s = exec (f a) s' := by
  rw [exec_bind, h]

/-- A computation whose first part has failed. -/
theorem exec_bind_error {failure : ε} (h : exec x s = (.error failure, s')) :
    exec (x >>= f) s = (.error failure, s') := by
  rw [exec_bind, h]

/-- A computation that succeeded went through all its parts. -/
theorem exec_bind_eq_ok (h : exec (x >>= f) s = (.ok b, s'')) :
    ∃ a s', exec x s = (.ok a, s') ∧ exec (f a) s' = (.ok b, s'') := by
  rw [exec_bind] at h
  rcases hx : exec x s with ⟨_ | a, s'⟩
  · simp [hx] at h
  · exact ⟨a, s', rfl, by simpa [hx] using h⟩

end

/-! ## Failures -/

/-- A computation fails only as `p` says. -/
def FailsAs {ε σ α : Type} (p : ε → Prop) (x : ExceptT ε (StateM σ) α) : Prop :=
  ∀ s failure s', exec x s = (.error failure, s') → p failure

section

variable {ε σ α β : Type} {p : ε → Prop}

theorem FailsAs.pure (a : α) : FailsAs p (pure a : ExceptT ε (StateM σ) α) := by
  rintro s failure s' ⟨⟩

theorem FailsAs.throw {failure : ε} (h : p failure) :
    FailsAs p (throw failure : ExceptT ε (StateM σ) α) := by
  rintro s _ s' ⟨⟩
  exact h

theorem FailsAs.get : FailsAs p (get : ExceptT ε (StateM σ) σ) := by
  rintro s failure s' ⟨⟩

theorem FailsAs.bind (hx : FailsAs p x) (hf : ∀ a, FailsAs p (f a)) : FailsAs p (x >>= f) := by
  intro s failure s' h
  rcases hxs : exec x s with ⟨failure' | a, s₁⟩
  · rw [exec_bind_error hxs] at h
    cases h
    exact hx s _ _ hxs
  · rw [exec_bind_ok hxs] at h
    exact hf a s₁ failure s' h

theorem FailsAs.mapM (hf : ∀ a, FailsAs p (f a)) (l : List α) : FailsAs p (l.mapM f) := by
  induction l with
  | nil => exact .pure _
  | cons a l ih =>
    rw [List.mapM_cons]
    exact (hf a).bind fun _ => ih.bind fun _ => .pure _

end

/-! ## Plain results -/

section

variable {ε α β : Type} {result : Except ε α}

/-- A result that was computed in two parts. -/
theorem except_bind_eq_ok (h : (result >>= f) = .ok b) : ∃ a, result = .ok a ∧ f a = .ok b := by
  cases result with
  | error failure => cases h
  | ok a => exact ⟨a, rfl, h⟩

/-- A failure in one of two parts. -/
theorem except_bind_eq_error {f : α → Except ε β} {failure : ε}
    (h : (result >>= f) = .error failure) :
    result = .error failure ∨ ∃ a, result = .ok a ∧ f a = .error failure := by
  cases result with
  | error failure' => exact .inl (by cases h; rfl)
  | ok a => exact .inr ⟨a, rfl, h⟩

/-- What is made of a result cannot fail. -/
theorem except_bind_pure_eq_error {f : α → β} {failure : ε}
    (h : (result >>= fun a => pure (f a)) = .error failure) : result = .error failure := by
  rcases except_bind_eq_error h with h | ⟨a, _, h⟩
  · exact h
  · cases h

/-- A result fails only as `p` says. -/
def ErrsAs (p : ε → Prop) (result : Except ε α) : Prop :=
  ∀ failure, result = .error failure → p failure

theorem ErrsAs.pure {p : ε → Prop} (a : α) : ErrsAs p (pure a : Except ε α) := by
  rintro failure ⟨⟩

theorem ErrsAs.throw {p : ε → Prop} {failure : ε} (h : p failure) :
    ErrsAs p (throw failure : Except ε α) := by
  rintro _ ⟨⟩
  exact h

theorem ErrsAs.bind {p : ε → Prop} {f : α → Except ε β} (h : ErrsAs p result)
    (hf : ∀ a, ErrsAs p (f a)) : ErrsAs p (result >>= f) := by
  intro failure hfailure
  rcases except_bind_eq_error hfailure with hfailure | ⟨a, _, hfailure⟩
  · exact h failure hfailure
  · exact hf a failure hfailure

end

/-! ## The machine -/

section

variable {α β : Type} (m : Machine)

@[simp]
theorem exec_ofExcept (result : Except Failure α) : exec (Run.ofExcept result) m = (result, m) := by
  cases result <;> rfl

@[simp]
theorem exec_store : exec Run.store m = (.ok m.store, m) := rfl

@[simp]
theorem exec_look (f : Store → Except Failure α) : exec (Run.look f) m = (f m.store, m) := by
  rw [Run.look, exec_bind_ok (exec_store m), exec_ofExcept]

@[simp]
theorem exec_alter (f : Store → α × Store) :
    exec (Run.alter f) m = (.ok (f m.store).1, { m with store := (f m.store).2 }) := rfl

@[simp]
theorem exec_snapshot (copying : (Value → CopyM Value) → CopyM α) :
    exec (Run.snapshot copying) m =
      ((m.store.snapshot copying).1, { m with store := (m.store.snapshot copying).2 }) := by
  rw [Run.snapshot, exec_bind_ok (exec_alter m _), exec_ofExcept]

/-- The machine with what is noted of it. -/
def Machine.noted (m : Machine) (config : Config) (event : Store → Event) : Machine :=
  if config.notes then { m with history := event m.store :: m.history } else m

@[simp]
theorem exec_note (config : Config) (event : Store → Event) :
    exec (Run.note config event) m = (.ok (), m.noted config event) := by
  unfold Run.note Machine.noted
  split <;> rfl

/-- The machine after one more statement has been counted. -/
def Machine.counted (m : Machine) (config : Config) : Machine :=
  { m with tally.statements := m.tally.statements + 1 }.noted config .passed

theorem exec_countStatement (config : Config) :
    exec (countStatement config) m =
      (if (m.counted config).tally.statements > config.maxStatements then
        .error (.budget (.statement config.maxStatements)) else .ok (), m.counted config) := by
  rw [countStatement, exec_bind_ok (exec_modify m _), exec_bind_ok (exec_note _ config .passed),
    exec_bind_ok (exec_get _)]
  change exec (if (m.counted config).tally.statements > config.maxStatements then
    throw (Failure.budget (.statement config.maxStatements)) else pure ()) (m.counted config) = _
  split <;> rfl

/-! ## Handling failures -/

/-- A statement is attempted: its error becomes its effect, and any other failure takes back what it
printed. -/
theorem exec_attempt (env : Env) (statement : Run (Effect α)) :
    exec (attempt env statement) m =
      match exec statement m with
      | (.ok effect, m') => (.ok effect, m')
      | (.error (.error cause), m') => (.ok (.failed env cause), m')
      | (.error failure, m') => (.error failure, { m' with output := m.output }) := by
  rw [attempt, exec_bind_ok (exec_get m), exec_tryCatch]
  rcases exec statement m with ⟨failure | effect, m'⟩
  · cases failure <;> rfl
  · rfl

/-- Handles errors, and no other failures. -/
def onError (handler : EvalError → Run α) : Failure → Run α
  | .error cause => handler cause
  | failure => throw failure

/-- `z` runs `x` and handles its errors by `h`.  It passes on any other failure, which takes back what
was printed if `rolls` says so. -/
def Handles (rolls : Bool) (x : Run α) (h : EvalError → Run α) (z : Run α) : Prop :=
  ∀ m, exec z m = match exec x m with
    | (.ok a, m') => (.ok a, m')
    | (.error (.error cause), m') => exec (h cause) m'
    | (.error failure, m') =>
      (.error failure, if rolls then { m' with output := m.output } else m')

theorem attempt_handles (env : Env) (x : Run (Effect α)) :
    Handles true x (fun cause => pure (.failed env cause)) (attempt env x) := by
  intro m
  rw [exec_attempt]
  rcases exec x m with ⟨failure | effect, m'⟩
  · cases failure <;> rfl
  · rfl

theorem onError_handles (x : Run α) (h : EvalError → Run α) :
    Handles false x h (tryCatch x (onError h)) := by
  intro m
  rw [exec_tryCatch]
  rcases exec x m with ⟨failure | a, m'⟩
  · cases failure <;> rfl
  · rfl

theorem failureInside_handles (name : String) (x : Run α) :
    Handles false x (fun cause => throw (failureInside name (.error cause)))
      (tryCatch x fun failure => throw (failureInside name failure)) := by
  intro m
  rw [exec_tryCatch]
  rcases exec x m with ⟨failure | a, m'⟩
  · cases failure <;> rfl
  · rfl

end

/-- Elements that all have partners are related to a list of those. -/
theorem exists_forall₂ (h : ∀ a ∈ l, ∃ b, R a b) : ∃ l', List.Forall₂ R l l' := by
  induction l with
  | nil => exact ⟨[], .nil⟩
  | cons a l ih =>
    obtain ⟨b, hab⟩ := h a (by simp)
    obtain ⟨l', hl⟩ := ih fun a ha => h a (by simp [ha])
    exact ⟨b :: l', .cons hab hl⟩

theorem mapM_eq_ok {α β ε : Type} {f : α → Except ε β} {l : List α} {l' : List β}
    (h : List.Forall₂ (fun a b => f a = .ok b) l l') : l.mapM f = .ok l' := by
  induction h with
  | nil => rfl
  | cons ha _ ih =>
    rw [List.mapM_cons, ha, ih]
    rfl

theorem exists_ok_of_any {α ε : Type} {result : Except ε α} {p : α → Bool}
    (h : result.toOption.any p = true) : ∃ a, result = .ok a ∧ p a = true := by
  cases result with
  | error => cases h
  | ok a => exact ⟨a, rfl, h⟩

end Walkthrough
