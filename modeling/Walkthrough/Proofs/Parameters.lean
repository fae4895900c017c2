import Walkthrough.Proofs.Sameness

/-!
# Parameters

The scope in which the body of a function starts has three layers: a copy of what was bound where the
function was defined, the function itself, and the arguments.  A parameter that has an argument
denotes it.  One that has none hides nothing: its name means what it meant at the definition, or the
function if that is its name, and only behind both layers is it unbound
(`startingScope_parameters`).
-/

namespace Walkthrough

/-! ## Layers -/

section

variable {κ υ : Type} [BEq κ] [LawfulBEq κ] (t : Table κ υ) {names : List κ}

theorem Table.get?_insertMany_of_not_mem (h : name ∉ names) (values : List υ) :
    (t.insertMany (names.zip values)).get? name = t.get? name := by
  induction names generalizing t values with
  | nil => rfl
  | cons first names ih =>
    rw [List.mem_cons, not_or] at h
    cases values with
    | nil => rfl
    | cons value values =>
      refine (ih _ h.2 values).trans ?_
      rw [Table.get?_insert, beq_eq_false_iff_ne.mpr (Ne.symm h.1)]
      rfl

/-- Of names that are all different, each has the value that stands where it does; behind the last
value the table shows through. -/
theorem Table.get?_insertMany_zip (hnodup : names.Nodup) {i : Nat} (hname : names[i]? = some name)
    (values : List υ) :
    (t.insertMany (names.zip values)).get? name = values[i]?.or (t.get? name) := by
  induction names generalizing t i values with
  | nil => cases hname
  | cons first names ih =>
    rw [List.nodup_cons] at hnodup
    cases values with
    | nil => rfl
    | cons value values =>
      cases i with
      | zero =>
        obtain rfl : first = name := Option.some.inj hname
        exact (Table.get?_insertMany_of_not_mem _ hnodup.1 values).trans (t.get?_insert_self _ _)
      | succ i =>
        refine (ih _ hnodup.2 hname values).trans ?_
        have hne : first ≠ name := fun heq => hnodup.1 (heq ▸ List.mem_of_getElem? hname)
        rw [Table.get?_insert, beq_eq_false_iff_ne.mpr hne]
        rfl

end

/-! ## Where a body starts -/

/-- What goes wrong when a name is read that is not bound. -/
def unboundError (name : String) : EvalError :=
  if (Builtin.ofName? name).isSome then .onlyCalled name else .undefined name

theorem exec_evaluate_unbound (h : scope.get? name = none) (context : Context) (span : Span)
    (m : Machine) :
    exec (evaluate context scope (.name name span)) m = (.error (.error (unboundError name)), m) := by
  rw [evaluate, nameValue, Table.contains_eq_isSome, h, unboundError]
  cases (Builtin.ofName? name).isSome with
  | true => rfl
  | false =>
    rw [lookUp, h]
    rfl

variable {m m' : Machine} {ref : Nat} {function : Function} {arguments : List Value} {scope : Env}

/-- The copy of the closure, the function and the arguments, one over the other. -/
theorem startingScope_layers (hm : m.store.Valid)
    (hclosure : ∀ v ∈ function.closure.values, m.store.Knows v)
    (h : exec (startingScope ref function arguments) m = (.ok scope, m')) :
    ∃ r closure, Correspondence m.store m'.store r ∧ Table.Matches r function.closure closure ∧
      scope = (if closure.contains function.name then closure
        else closure.insert function.name (.function ref)).insertMany
          (function.parameters.zip arguments) := by
  obtain ⟨_, hspec⟩ := Store.snapshot_spec hm (copiesTo_copyEnv hclosure)
  rw [startingScope] at h
  obtain ⟨closure, m₁, hcopy, h⟩ := exec_bind_eq_ok h
  rw [exec_snapshot] at hcopy
  obtain ⟨hclosure, rfl⟩ := Prod.mk.inj hcopy
  obtain ⟨r, hr, _, hmatch⟩ := hspec closure hclosure
  cases h
  exact ⟨r, closure, hr, hmatch, rfl⟩

/-- The function is behind its closure. -/
theorem get?_withItself (closure : Env) (self name : String) (ref : Nat) :
    (if closure.contains self then closure else closure.insert self (.function ref)).get? name =
      (closure.get? name).or (if self = name then some (.function ref) else none) := by
  rw [Table.contains_eq_isSome]
  by_cases hself : self = name
  · subst hself
    cases hfound : closure.get? self <;> simp [hfound, Table.get?_insert_self]
  · cases (closure.get? self).isSome <;> simp [Table.get?_insert, hself]

theorem startingScope_failsAs (ref : Nat) (function : Function) (arguments : List Value) :
    FailsAs (· = Failure.tooDeep) (startingScope ref function arguments) := by
  refine FailsAs.bind ?_ fun _ => .pure _
  intro m failure m' h
  rw [exec_snapshot] at h
  exact snapshot_failsAs (p := (· = .tooDeep)) (copyEnv_failsAs function.closure)
     (Prod.ext (Prod.mk.inj h).1 rfl)

/-- Where a body starts, a parameter that was passed an argument denotes it.  One that was passed none
still means what was bound to its name at the definition, and the function if nothing was and the
function has that name.  Otherwise it is unbound: reading it fails. -/
theorem startingScope_parameters (hm : m.store.Valid)
    (hclosure : ∀ v ∈ function.closure.values, m.store.Knows v) (hnodup : function.parameters.Nodup) :
    (∀ failure m', exec (startingScope ref function arguments) m = (.error failure, m') →
      failure = .tooDeep) ∧
    ∀ scope m', exec (startingScope ref function arguments) m = (.ok scope, m') →
      ∃ r, Correspondence m.store m'.store r ∧
        ∀ i name, function.parameters[i]? = some name →
          (∀ argument, arguments[i]? = some argument → scope.get? name = some argument) ∧
          (arguments.length ≤ i →
            (∀ value, function.closure.get? name = some value →
              ∃ copy, scope.get? name = some copy ∧ value.Matches r copy) ∧
            (function.closure.get? name = none → name = function.name →
              scope.get? name = some (.function ref)) ∧
            (function.closure.get? name = none → name ≠ function.name →
              ∀ context span m, exec (evaluate context scope (.name name span)) m =
                (.error (.error (unboundError name)), m))) := by
  refine ⟨startingScope_failsAs ref function arguments m, fun scope m' h => ?_⟩
  obtain ⟨r, closure, hr, hmatch, rfl⟩ := startingScope_layers hm hclosure h
  refine ⟨r, hr, fun i name hname => ?_⟩
  have hcopy := hmatch.get? name
  have hscope := Table.get?_insertMany_zip (if closure.contains function.name then closure
    else closure.insert function.name (.function ref)) hnodup hname arguments
  rw [get?_withItself] at hscope
  generalize (Table.insertMany _ _ : Env) = scope at hscope ⊢
  refine ⟨fun argument hargument => by rw [hscope, hargument]; rfl, fun hmissing => ?_⟩
  rw [List.getElem?_eq_none hmissing, Option.none_or] at hscope
  generalize function.closure.get? name = found at hcopy ⊢
  generalize closure.get? name = found' at hcopy hscope
  cases hcopy with
  | some hvalue =>
    rw [Option.some_or] at hscope
    refine ⟨fun value heq => ⟨_, hscope, Option.some.inj heq ▸ hvalue⟩, nofun, nofun⟩
  | none =>
    rw [Option.none_or] at hscope
    refine ⟨nofun, fun _ hname => ?_, fun _ hname => ?_⟩
    · rw [hscope, if_pos hname.symm]
    · rw [if_neg (Ne.symm hname)] at hscope
      exact exec_evaluate_unbound hscope

/-- A function that was defined where `x` was bound, with parameters of all kinds. -/
def partlyCalled : Function where
  name := "f"
  parameters := ["a", "x", "f", "y", "len"]
  body := []
  block := []
  closure := ⟨[("x", .int 1)]⟩

theorem startingScope_parameters_partlyCalled :
    partlyCalled.parameters.Nodup ∧
    ∃ scope m, exec (startingScope 0 partlyCalled [.int 5]) Machine.start = (.ok scope, m) ∧
      scope.get? "a" = some (.int 5) ∧ scope.get? "x" = some (.int 1) ∧
      scope.get? "f" = some (.function 0) ∧
      (exec (evaluate (.withoutCalls 10) scope (.name "y" .unknown)) m).1 =
        .error (.error (.undefined "y")) ∧
      (exec (evaluate (.withoutCalls 10) scope (.name "len" .unknown)) m).1 =
        .error (.error (.onlyCalled "len")) := by
  have hvalid : Machine.start.store.Valid := by
    intro n v hv
    cases n <;> cases hv
  have hknows : ∀ v ∈ partlyCalled.closure.values, Machine.start.store.Knows v := by
    intro v hv
    obtain rfl : v = .int 1 := List.mem_singleton.mp hv
    exact Store.knows_scalar _ rfl
  have hnodup : partlyCalled.parameters.Nodup := by decide
  have hok : (exec (startingScope 0 partlyCalled [.int 5]) Machine.start).1.isOk = true := by
    decide
  rcases hstart : exec (startingScope 0 partlyCalled [.int 5]) Machine.start with
    ⟨failure | scope, m⟩
  · rw [hstart] at hok
    cases hok
  obtain ⟨r, _, hscope⟩ := (startingScope_parameters hvalid hknows hnodup).2 scope m hstart
  obtain ⟨copy, hcopy, hmatch⟩ := ((hscope 1 "x" rfl).2 (by decide)).1 (.int 1) (by decide)
  cases hmatch
  have hself := ((hscope 2 "f" rfl).2 (by decide)).2.1 (by decide) rfl
  have hy := ((hscope 3 "y" rfl).2 (by decide)).2.2 (by decide) (by decide)
  have hlen := ((hscope 4 "len" rfl).2 (by decide)).2.2 (by decide) (by decide)
  refine ⟨hnodup, scope, m, rfl, (hscope 0 "a" rfl).1 _ rfl, hcopy, hself, ?_, ?_⟩
  · exact congrArg Prod.fst (hy ..)
  · exact congrArg Prod.fst (hlen ..)

/-- A parameter without an argument shows the variable of the same name. -/
theorem missing_parameter_bound :
    ∃ trace, Trace.ofSource Config.usual "x = 1\ndef f(x):\n    return x\ny = f()" = .ok trace ∧
      trace.errors = 0 ∧ (trace.steps.back?.bind (·.bindings.get? "y")) = some (.int 1) := by
  have htrace : (Trace.ofSource Config.usual "x = 1\ndef f(x):\n    return x\ny = f()").toOption.any
      (fun trace => trace.errors == 0 &&
        (trace.steps.back?.bind (·.bindings.get? "y")) == some (.int 1)) = true := by
    decide +kernel
  obtain ⟨trace, htrace, hp⟩ := Trace.exists_ofSource _ htrace
  rw [Bool.and_eq_true, beq_iff_eq, beq_iff_eq] at hp
  exact ⟨trace, htrace, hp⟩

end Walkthrough
