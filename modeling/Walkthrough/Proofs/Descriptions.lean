import Walkthrough.Proofs.Parameters
import Walkthrough.Proofs.Resilience
import Walkthrough.Proofs.Unfolding
import Walkthrough.Trace.Listing

/-!
# Steps in words

What a step says about itself in a few words is put together from its details.  A description that has
nothing but the details finds in them all that it needs (`Action.described`), because no detail that was
asked for replaces one of the action (`Trace.keepsDetails`).  The words can be written whenever the
values can (`listing_of_plain_values`).
-/

namespace Walkthrough

open Source

variable {action : Action} {m : Machine} {env : Env} {s : Store} {v : Value}

/-! ## Words from details -/

def Detail.value? : Detail → Option Value
  | .value x => some x
  | _ => none

def Detail.text? : Detail → Option String
  | .value (.str x) => some x
  | _ => none

def Detail.int? : Detail → Option Int
  | .value (.int x) => some x
  | _ => none

def Detail.bool? : Detail → Option Bool
  | .value (.bool x) => some x
  | _ => none

def Detail.values? : Detail → Option (List Value)
  | .values xs => some xs
  | _ => none

def Detail.names? : Detail → Option (List String)
  | .names xs => some xs
  | _ => none

/-- The words for an action with this name, if the details that they need are there and are of the right
kinds. -/
def describeDetails (s : Store) (details : Table String Detail) (action : String) :
    Option (Except Failure String) :=
  let value (key : String) := (details.get? key).bind Detail.value?
  let text (key : String) := (details.get? key).bind Detail.text?
  match action with
  | "assign" => do
    let name ← text "variable"
    let value ← value "value"
    return do return s!"{name} = " ++ (← value.repr s)
  | "reassign" => do
    let name ← text "variable"
    let new ← value "value"
    let old ← value "old_value"
    return do return s!"{name} = " ++ (← new.repr s) ++ " (was " ++ (← old.repr s) ++ ")"
  | "augmented_assign" => do
    let name ← text "variable"
    let sign ← text "operator"
    let right ← value "right_value"
    let new ← value "value"
    return do return s!"{name} {sign} " ++ (← right.repr s) ++ " → " ++ (← new.repr s)
  | "list_operation" | "dict_operation" => return .ok (← text "operation_result")
  | "print" => return .ok (← text "output_text")
  | "function_definition" => do
    let name ← text "function_name"
    let parameters := ", ".intercalate (← (details.get? "params").bind Detail.names?)
    return .ok s!"def {name}({parameters})"
  | "function_call" => do
    let name ← text "function_name"
    let arguments ← (details.get? "args").bind Detail.values?
    let result ← value "return_value"
    return do
      let arguments := ", ".intercalate (← arguments.mapM fun value => value.repr s)
      return s!"{name}({arguments}) → " ++ (← result.repr s)
  | "for_loop_start" => do
    let target ← text "iter_var"
    let iterable ← text "iterable"
    return .ok s!"for {target} in {iterable}"
  | "for_loop_iteration" => do
    let target ← text "iter_var"
    let value ← value "current_value"
    let index ← (details.get? "iteration_index").bind Detail.int?
    let total ← (details.get? "total_iterations").bind Detail.int?
    return do return s!"{target} = " ++ (← value.repr s) ++ s!" ({index + 1}/{total})"
  | "for_loop_end" => return .ok ("end for " ++ (← text "iter_var"))
  | "if_statement" | "while_loop_start" => do
    let condition ← text "condition"
    let result ← (details.get? "condition_result").bind Detail.bool?
    return .ok (condition ++ " → " ++ if result then "True" else "False")
  | "execute" => return .ok (← text "code")
  | "error" => return .ok (← text "error")
  | _ => none

/-- The further details of a condition replace none of its own. -/
def Action.KeepsDetails : Action → Prop
  | .condition _ _ _ extra => ∀ key ∈ extra.map (·.1), key = "iteration"
  | _ => True

/-- The details are enough. -/
theorem Action.described (s : Store) (h : action.KeepsDetails) :
    describeDetails s action.details action.name = some (action.describe s) := by
  cases action with
  | condition word text result extra =>
    have hget {key : String} (hkey : key ≠ "iteration") :
        (Action.condition word text result extra).details.get? key =
          (⟨[("condition", .text text), ("condition_result", .value (.bool result))]⟩ :
            Table String Detail).get? key := by
      have hmany (t : Table String Detail) := Table.get?_insertMany_of_not_mem t
        (fun hmem => hkey (h key hmem)) (extra.map fun entry => Detail.value entry.2)
      simp only [List.zip_map'] at hmany
      exact hmany _
    cases word <;>
      simp only [Action.name, describeDetails, hget (by decide : "condition" ≠ "iteration"),
        hget (by decide : "condition_result" ≠ "iteration")] <;> rfl
  | augment name op value old right =>
    have hsign : name ++ " " ++ (op.symbol ++ "=") ++ " " = name ++ " " ++ op.symbol ++ "= " := by
      simp only [String.append_assoc]
      rfl
    exact congrArg (fun words => some (do
      return words ++ (← right.repr s) ++ " → " ++ (← value.repr s) : Except Failure String)) hsign
  | setItem kind | operate kind => cases kind <;> rfl
  | _ => rfl

/-! ## Steps of a trace -/

theorem Action.KeepsDetails.refill (h : action.KeepsDetails) (values : List Value) :
    (action.refill values).KeepsDetails := by
  unfold Action.refill
  split <;> (try split) <;> try trivial
  exact fun key hkey => h key (List.mem_map.mpr (by
    obtain ⟨⟨_, value⟩, hentry, rfl⟩ := List.mem_map.mp hkey
    exact List.mem_map.mp (List.of_mem_zip hentry).1))

/-- All steps up to now keep their details. -/
def Machine.KeepsDetails (m : Machine) : Prop :=
  ∀ step ∈ m.steps, step.action.KeepsDetails

theorem Machine.KeepsDetails.addStep (hm : m.KeepsDetails) (line : Nat) (haction : action.KeepsDetails)
    (env : Env) (output : Output) :
    (exec (addStep line action env output) m).2.KeepsDetails := by
  rw [exec_addStep]
  rcases hparts : stepParts m.store action env with ⟨failure | ⟨bindings, copied⟩, store⟩
  · exact hm
  · obtain ⟨values, rfl⟩ := stepParts_refill hparts
    intro step hstep
    rcases Array.mem_push.mp hstep with hstep | rfl
    · exact hm step hstep
    · exact haction.refill values

theorem Machine.KeepsDetails.record (hm : m.KeepsDetails) (config : Config) (line : Line)
    (haction : action.KeepsDetails) (env : Env) :
    (exec ((Frame.top config).record line action env) m).2.KeepsDetails := by
  have hnoted : (m.noted config .passed).KeepsDetails := by
    rw [Machine.noted_eq]
    exact hm
  rw [exec_record_top]
  split
  · exact hnoted
  · exact hnoted.addStep line.index haction env m.output

/-- An effect whose action, if it has one, keeps its details. -/
def Effect.KeepsDetails {α : Type} (effect : Effect α) : Prop :=
  ∀ action, effect.action = some action → action.KeepsDetails

theorem Effect.keepsDetails_done {α : Type} {result : α} (h : action.KeepsDetails) :
    (Effect.done action env result).KeepsDetails := by
  rintro _ ⟨⟩
  exact h

theorem Statement.Gives.keepsDetails {statement : Statement} {effect : Effect (Option Value)}
    (h : statement.Gives inFunction env m m' effect) : effect.KeepsDetails := by
  induction h with
  | operateOtherwise _ ih | printOtherwise _ ih => exact ih
  | pass | ret =>
    intro action haction
    cases haction
  | guard => exact Effect.keepsDetails_done (by exact List.forall_mem_nil _)
  | _ => exact Effect.keepsDetails_done (by trivial)

theorem Condition.check_keepsDetails {context : Context} {extra : List (String × Value)}
    (condition : Condition) (h : ∀ key ∈ extra.map (·.1), key = "iteration") :
    Yields (condition.check context extra env) Effect.KeepsDetails := by
  unfold Condition.check
  split
  · exact Yields.bind fun _ => Yields.bind fun _ => Yields.pure (Effect.keepsDetails_done h)
  · exact Yields.fail

/-- What a line records keeps its details. -/
theorem Task.Begins.keepsDetails {task : Task} {code : Run (Effect α)} (h : task.Begins frame line code)
    : Yields (attempt task.env code) Effect.KeepsDetails := by
  have hcode : Yields code Effect.KeepsDetails := by
    cases h with
    | simple => exact fun _ _ _ h => (Statement.perform_gives _ h).keepsDetails
    | loop =>
      exact Yields.bind fun _ => Yields.bind fun _ => Yields.pure (Effect.keepsDetails_done trivial)
    | @define _ definition =>
      unfold bindFunction
      split
      · exact Yields.fail
      · exact Yields.bind fun _ => Yields.bind fun _ => Yields.pure (Effect.keepsDetails_done trivial)
    | branch => exact Condition.check_keepsDetails _ (List.forall_mem_nil _)
    | repeating => exact Condition.check_keepsDetails _ (List.forall_mem_singleton.mpr rfl)
    | refusal => exact Yields.fail
  refine (attempt_yields hcode).mono ?_
  rintro effect (h | ⟨cause, rfl⟩)
  · exact h
  · rintro _ ⟨⟩
    trivial

def Course.ofDetails (config : Config) : Course (Frame.top config) fun _ _ => True where
  rel x m := m.KeepsDetails → (exec x m).2.KeepsDetails
  pure a m h := h
  bind {_ _ x _ m} hx hf hm := by
    rw [exec_bind]
    have hx := hx hm
    rcases hexec : exec x m with ⟨failure | a, m₁⟩
    · rwa [hexec] at hx
    · rw [hexec] at hx
      exact hf a m₁ hexec hx
  count m h := by
    rw [exec_countStatement, Machine.counted, Machine.noted_eq]
    exact h
  iteration m h := h
  turn {action} line env m haction hm := hm.record config line (by cases action <;> trivial) env
  code {_ _ _ _ m} _ h hm := by
    rw [Machine.KeepsDetails, Task.attempt_steps _ _ h]
    exact hm
  commit {_ line _ _ m m₁ effect} _ h heffect hm := by
    cases haction : effect.action with
    | some action =>
      rw [exec_commit_top haction]
      exact hm.record config line (h.keepsDetails m effect m₁ heffect action haction) effect.env
    | none =>
      rw [Frame.commit, haction]
      cases hresult : effect.result <;> exact hm
  enters _ _ := trivial

theorem Trace.keepsDetails (h : Trace.ofSource config source = .ok trace) :
    ∀ step ∈ trace.steps, step.action.KeepsDetails := by
  obtain ⟨m, hrun, hsteps, _⟩ := Trace.ofSource_eq_ok h
  have hstart : Machine.start.KeepsDetails := fun step hstep => absurd hstep (Array.not_mem_empty step)
  have hblock := ((Course.ofDetails config).block rfl (programOf config source) .empty .start trivial).1
    hstart
  rw [hsteps]
  cases htruncated : trace.truncated with
  | false =>
    rw [htruncated] at hrun
    obtain ⟨progress, hprogress⟩ := runBlock_of_untruncated hrun
    rwa [hprogress] at hblock
  | true =>
    rw [htruncated] at hrun
    obtain ⟨cause, m', hprogress, hclose⟩ := runBlock_of_truncated hrun
    rw [hprogress] at hblock
    rw [exec_closeTrace] at hclose
    obtain rfl := congrArg Prod.snd hclose
    exact hblock.addStep _ (by trivial) _ _

/-! ## Values that can be written -/

/-- A number that is written with a limited number of digits, or no number. -/
def Scalar.IsShort : Scalar → Prop
  | .int value => value.natAbs < Number.unwritable
  | _ => True

/-- A value that programs can write, as far as itself and the keys in it are concerned. -/
def Value.IsPlain (s : Store) : Value → Prop
  | .scalar x => x.IsShort
  | .dict ref => ∀ key ∈ (s.dict ref).keys, key.spelling.IsShort
  | .complex .. => False
  | .list _ | .function _ => True

/-- All that a value leads to is plain, and it does not nest too deeply. -/
structure Store.Shows (s : Store) (v : Value) : Prop where
  plain {x : Value} : Relation.ReflTransGen s.Holds v x → x.IsPlain s
  nests : s.unfold nestsWithin [] v nestingLimit

section

variable {ε α β : Type}

/-- A computation that does not fail. -/
def Returns (x : Except ε α) : Prop :=
  ∃ a, x = .ok a

theorem Returns.pure (a : α) : Returns (pure a : Except ε α) :=
  ⟨a, rfl⟩

theorem Returns.bind (hx : Returns x) (hf : ∀ a, Returns (f a)) : Returns (x >>= f) := by
  obtain ⟨a, rfl⟩ := hx
  exact hf a

theorem Returns.mapM {f : α → Except ε β} {l : List α} (h : ∀ a ∈ l, Returns (f a)) :
    Returns (l.mapM f) := by
  induction l with
  | nil => exact .pure _
  | cons a l ih =>
    obtain ⟨ha, hl⟩ := List.forall_mem_cons.mp h
    rw [List.mapM_cons]
    exact ha.bind fun _ => (ih hl).bind fun _ => .pure _

end

theorem Scalar.IsShort.returns {scalar : Scalar} (h : scalar.IsShort) : Returns (ofFault scalar.show) := by
  cases scalar with
  | int value =>
    have hshort : value.natAbs < Number.unwritable := h
    rw [Scalar.show, Number.intText, if_pos hshort]
    exact .pure _
  | bool value => cases value <;> exact .pure _
  | _ => exact .pure _

theorem Store.unfold_text_returns {outer : List Value}
    (h : ∀ x, Relation.ReflTransGen s.Holds v x → x.IsPlain s) :
    Returns (s.unfold (textWriting s) outer v) := by
  induction outer, v using Store.unfold.induct s with
  | case1 outer v hv hmem =>
    rw [Store.unfold_eq, if_pos hv, if_pos hmem]
    exact .pure _
  | case2 outer v hv hmem ih =>
    rw [Store.unfold_eq, if_pos hv, if_neg hmem]
    have hparts : ∀ x ∈ s.parts v, Returns (s.unfold (textWriting s) (v :: outer) x) :=
      fun x hx => ih ⟨x, hx⟩ fun y hy => h y (.head hx hy)
    cases v with
    | list ref =>
      refine Returns.bind (.mapM fun text htext => ?_) fun _ => .pure _
      obtain ⟨x, hx, rfl⟩ := List.mem_map.mp htext
      exact hparts x hx
    | dict ref =>
      refine Returns.bind (.mapM fun entry hentry => ?_) fun _ => .pure _
      rw [Store.parts, zip_values] at hentry
      obtain ⟨⟨key, x⟩, hmem, rfl⟩ := List.mem_map.mp hentry
      have hkey : key.spelling.IsShort := h _ .refl key (List.mem_map_of_mem hmem)
      exact hkey.returns.bind fun _ => (hparts x (List.mem_map_of_mem hmem)).bind fun _ => .pure _
    | _ => cases hv
  | case3 outer v hv =>
    rw [Store.unfold_eq, if_neg hv]
    have hplain := h v .refl
    cases v with
    | scalar x => exact Scalar.IsShort.returns hplain
    | complex re im => exact absurd hplain id
    | list | dict => exact absurd rfl hv
    | function ref => exact .pure _

theorem Store.Shows.repr_returns (h : s.Shows v) : Returns (v.repr s) := by
  rw [Value.repr, (textWriting_bounds s).eq_unfold h.nests]
  exact Store.unfold_text_returns fun _ => h.plain

theorem Action.describe_returns (h : ∀ v ∈ action.held, s.Shows v) :
    Returns (action.describe s) := by
  simp only [Action.held, Action.details, Table.values] at h
  cases action with
  | assign name value source | loopIteration target value index total =>
    exact (h value (by simp [Detail.held])).repr_returns.bind fun _ => .pure _
  | reassign name value source old =>
    exact (h value (by simp [Detail.held])).repr_returns.bind fun _ =>
      (h old (by simp [Detail.held])).repr_returns.bind fun _ => .pure _
  | augment name op value old right =>
    exact (h right (by simp [Detail.held])).repr_returns.bind fun _ =>
      (h value (by simp [Detail.held])).repr_returns.bind fun _ => .pure _
  | call name arguments result =>
    exact Returns.bind (.mapM fun v hv => (h v (by simp [Detail.held, hv])).repr_returns) fun _ =>
      (h result (by simp [Detail.held])).repr_returns.bind fun _ => .pure _
  | _ => exact .pure _

theorem shows_str (s : Store) (h : v.kind = "str") : s.Shows v := by
  cases v with
  | scalar scalar =>
    cases scalar with
    | str text =>
      refine ⟨fun hx => ?_, by rw [Store.unfold_eq]; trivial⟩
      rcases hx.cases_head with rfl | ⟨_, hpart, _⟩
      · trivial
      · cases hpart
    | _ => simp [Value.kind, Scalar.typeName] at h
  | _ => simp [Value.kind] at h

end Walkthrough
