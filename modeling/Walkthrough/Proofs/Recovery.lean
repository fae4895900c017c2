import Mathlib.Data.Option.Basic
import Walkthrough.Proofs.Lockstep

/-!
# Recovery from errors

An error ends a statement and nothing else: it becomes an action of its own, the bindings are those
that the statement found, and what was printed until then stays.  A statement that succeeds leaves
the bindings that it found but for its target.

That the output only grows is what a monitor says about every run that goes on or ends with an
error.  That nothing but assignments and definitions has a target takes a look at the text: one that
ends with a bracket is no definition, whatever its names mean.
-/

namespace Walkthrough

open Source Text

variable {text : String} {statement : Statement}

/-! ## Texts without a target -/

/-- What is found is a closing bracket. -/
theorem closing?_closer (h : closing? position depth marked = some found) :
    position ≤ found ∧ ∃ entry, marked[found - position]? = some entry ∧ isCloser entry.1 = true := by
  induction marked generalizing position depth with
  | nil => cases h
  | cons entry rest ih =>
    rw [closing?] at h
    split at h
    · next hcloses =>
      cases h
      simp only [Bool.and_eq_true] at hcloses
      exact ⟨Nat.le_refl _, entry, by simp, hcloses.1.2⟩
    · obtain ⟨hle, other, hother, hcloser⟩ := ih h
      refine ⟨by omega, other, ?_, hcloser⟩
      rw [show found - position = found - (position + 1) + 1 by omega, List.getElem?_cons_succ]
      exact hother

/-- A text that ends with the parenthesis that closes one in it. -/
theorem getLast?_of_opensWholeRest (h : opensWholeRest text rest = true) :
    ∃ c, text.toList.getLast? = some c ∧ isCloser c = true := by
  rw [opensWholeRest, Bool.and_eq_true, beq_iff_eq, beq_iff_eq] at h
  obtain ⟨hle, entry, hentry, hcloser⟩ := closing?_closer h.2
  refine ⟨entry.1, ?_, hcloser⟩
  rw [List.getElem?_drop, Nat.add_sub_cancel' hle] at hentry
  rw [List.getLast?_eq_getElem?, String.length_toList, ← scan_map_fst .code text.toList,
    List.getElem?_map, hentry]
  rfl

theorem suffix_of_leadingName? {text name : List Char} (h : leadingName? text = some (name, rest)) :
    rest <:+ text := by
  cases text with
  | nil => cases h
  | cons c text =>
    rw [leadingName?] at h
    split at h
    · cases h
      exact (List.dropWhile_suffix _).trans (List.suffix_cons _ _)
    · cases h

theorem suffix_of_afterWord? {word : String} {text : List Char} (h : afterWord? word text = some rest) :
    rest <:+ text := by
  unfold afterWord? at h
  split at h
  · split at h
    · next c rest' hdrop =>
      split at h
      · cases h
        have hrest : c :: rest' <:+ text := hdrop ▸ List.drop_suffix _ _
        exact (List.dropWhile_suffix _).trans ((List.suffix_cons _ _).trans hrest)
      · cases h
    · cases h
  · cases h

/-- A line of code that has the form of a header. -/
def EndsInColon (code : String) : Prop :=
  code.toList.getLast? = some ':'

theorem Definition.endsInColon (h : Definition.ofHeader? text = some definition) : EndsInColon text := by
  obtain ⟨rest₁, h₁, h⟩ := Option.bind_eq_some_iff.mp h
  obtain ⟨⟨name, rest₂⟩, h₂, h⟩ := Option.bind_eq_some_iff.mp h
  have hsuffix : rest₂ <:+ text.toList :=
    (suffix_of_leadingName? h₂).trans (suffix_of_afterWord? h₁)
  dsimp only at h
  split at h
  · next rest₃ h₃ =>
    split at h
    · next rest₄ h₄ =>
      obtain ⟨_, hguard, _⟩ := Option.bind_eq_some_iff.mp h
      have hcolon : rest₄.dropWhile isBlank = [':'] := by
        simpa [guard] using hguard
      have h₃' : rest₃ <:+ text.toList :=
        (List.suffix_cons '(' rest₃).trans ((h₃ ▸ List.dropWhile_suffix _).trans hsuffix)
      have h₄' : rest₄ <:+ text.toList :=
        (List.suffix_cons ')' rest₄).trans ((h₄ ▸ List.dropWhile_suffix _).trans h₃')
      have hlast : [':'] <:+ text.toList := (hcolon ▸ List.dropWhile_suffix _).trans h₄'
      obtain ⟨front, hfront⟩ := hlast
      rw [EndsInColon, ← hfront, List.getLast?_concat]
    · cases h
  · cases h

/-- A text that ends with a bracket is no header. -/
theorem not_endsInColon (h : opensWholeRest text rest = true) : ¬ EndsInColon text := by
  obtain ⟨c, hlast, hcloser⟩ := getLast?_of_opensWholeRest h
  intro hcolon
  rw [EndsInColon, hlast] at hcolon
  cases hcolon
  cases hcloser

theorem opensWholeRest_of_calledName? (h : calledName? text = some name) :
    ∃ rest, opensWholeRest text rest = true := by
  obtain ⟨⟨_, rest⟩, _, h⟩ := Option.bind_eq_some_iff.mp h
  obtain ⟨_, hguard, _⟩ := Option.bind_eq_some_iff.mp h
  exact ⟨_, by simpa [guard] using hguard⟩

theorem opensWholeRest_of_operationOf? (h : operationOf? text = some names) :
    ∃ rest, opensWholeRest text rest = true := by
  obtain ⟨⟨_, rest⟩, _, h⟩ := Option.bind_eq_some_iff.mp h
  dsimp only at h
  split at h
  · obtain ⟨⟨_, rest⟩, _, h⟩ := Option.bind_eq_some_iff.mp h
    obtain ⟨_, hguard, _⟩ := Option.bind_eq_some_iff.mp h
    exact ⟨_, by simpa [guard] using hguard⟩
  · cases h

/-! ## The forms of a line -/

/-- What a line may be that assigns nothing and does not depend on bindings. -/
inductive PlainForm (text : String) : Statement → Prop where
  | define (definition : Definition) : EndsInColon text → PlainForm text (.define definition)
  | call (function : String) (reading : Reading) : PlainForm text (.call function text reading)
  | loop {header : Loop} : EndsInColon text → Loop.ofHeader? text = some header →
      PlainForm text (.loop header)
  | guard {header : Guard} : Guard.ofHeader? text = some header → PlainForm text (.guard header)
  | pass : EndsInColon text → PlainForm text .pass
  | ret (value : Option Reading) : PlainForm text (.ret value)
  | other (reading : Reading) : PlainForm text (.other text reading)

/-- What a line may be that assigns nothing: a plain form, or a call of `print` first. -/
inductive PrintForm (text : String) : Statement → Prop where
  | plain {s : Statement} : PlainForm text s → PrintForm text s
  | print {s : Statement} {t : List Char} (reading : Reading) : opensWholeRest text t = true →
      PlainForm text s → PrintForm text (.print reading s)

inductive Statement.Form (text : String) : Statement → Prop where
  | empty : text.isEmpty = true → Form text .pass
  | assign (name source : String) (value : Reading) (isLiteral : Bool) :
      Form text (.assign name source value isLiteral)
  | setItem (name : String) (key value : Reading) : Form text (.setItem name key value)
  | augment (name : String) (op : BinaryOp) (value : Reading) : Form text (.augment name op value)
  | operate {s : Statement} {t : List Char} (name operation : String) (reading : Reading) :
      opensWholeRest text t = true → PrintForm text s → Form text (.operate name operation reading s)
  | otherwise {s : Statement} : PrintForm text s → Form text s

theorem plainStatement_form (text : String) : PlainForm text (plainStatement text) := by
  unfold plainStatement
  dsimp only
  split
  · next statement h =>
    rw [Option.orElse_eq_some, Option.orElse_eq_some, Option.orElse_eq_some] at h
    rcases h with h | ⟨_, h | ⟨_, h | ⟨_, h⟩⟩⟩
    · obtain ⟨definition, hdefinition, rfl⟩ := Option.map_eq_some_iff.mp h
      exact .define definition (Definition.endsInColon hdefinition)
    · obtain ⟨name, _, h⟩ := Option.bind_eq_some_iff.mp h
      obtain ⟨_, _, ⟨⟩⟩ := Option.bind_eq_some_iff.mp h
      exact .call name _
    · obtain ⟨_, hguard, h⟩ := Option.bind_eq_some_iff.mp h
      have hcolon : EndsInColon text := by simpa [guard, EndsInColon] using hguard
      split at h
      · next hloop =>
        cases h
        exact .loop hcolon hloop
      · next hheader =>
        cases h
        split
        · exact .pass hcolon
        · exact .guard hheader
      · cases h
        exact .pass hcolon
    · obtain ⟨_, _, ⟨⟩⟩ := Option.bind_eq_some_iff.mp h
      exact .ret _
  · exact .other _

theorem printOrPlain_form (text : String) : PrintForm text (printOrPlain text) := by
  have hplain := plainStatement_form text
  unfold printOrPlain
  split
  · next hprint =>
    obtain ⟨rest, hrest⟩ := opensWholeRest_of_calledName? (beq_iff_eq.mp hprint)
    split
    · exact .print _ hrest hplain
    · exact .plain hplain
    · exact .print _ hrest hplain
  · exact .plain hplain

theorem Statement.ofCode_form (text : String) : Form text (ofCode text) := by
  unfold ofCode
  split
  · next hempty => exact .empty hempty
  · split
    · next statement h =>
      rw [Option.orElse_eq_some, Option.orElse_eq_some] at h
      rcases h with h | ⟨_, h | ⟨_, h⟩⟩
      · obtain ⟨_, _, h⟩ := Option.bind_eq_some_iff.mp h
        obtain ⟨_, _, ⟨⟩⟩ := Option.bind_eq_some_iff.mp h
        exact .assign ..
      · obtain ⟨_, _, h⟩ := Option.bind_eq_some_iff.mp h
        obtain ⟨_, _, h⟩ := Option.bind_eq_some_iff.mp h
        obtain ⟨_, _, h⟩ := Option.bind_eq_some_iff.mp h
        obtain ⟨_, _, ⟨⟩⟩ := Option.bind_eq_some_iff.mp h
        exact .setItem ..
      · obtain ⟨_, _, h⟩ := Option.bind_eq_some_iff.mp h
        obtain ⟨_, _, ⟨⟩⟩ := Option.bind_eq_some_iff.mp h
        exact .augment ..
    · split
      · next h =>
        obtain ⟨rest, hrest⟩ := opensWholeRest_of_operationOf? h
        exact .operate _ _ _ hrest (printOrPlain_form text)
      · exact .otherwise (printOrPlain_form text)

theorem PlainForm.sober (h : PlainForm text statement) : statement.Sober := by
  cases h <;> trivial

/-- A call binds nothing, whatever is called. -/
theorem PlainForm.bindsNothing (h : PlainForm text statement) (hcall : opensWholeRest text rest = true) :
    statement.target? = none ∧ statement.Sober := by
  cases h with
  | define _ hcolon => exact absurd hcolon (not_endsInColon hcall)
  | _ => exact ⟨rfl, trivial⟩

/-- Whatever a line may mean otherwise binds no name. -/
theorem Statement.ofCode_sober (text : String) : (Statement.ofCode text).Sober := by
  have hform := Statement.ofCode_form text
  generalize Statement.ofCode text = statement at hform ⊢
  cases hform with
  | operate _ _ _ hcall h =>
    cases h with
    | plain h => exact h.bindsNothing hcall
    | print _ _ h => exact ⟨rfl, h.bindsNothing hcall⟩
  | otherwise h =>
    cases h with
    | plain h => exact h.sober
    | print _ hcall h => exact h.bindsNothing hcall
  | _ => trivial

/-! ## The output -/

/-- As long as a run goes on, and when it ends with an error, its output has only grown. -/
def Monitor.output (config : Config) : Monitor config where
  holds m failure? m' := (∀ failure, failure? = some failure → failure.IsError) →
    m.output.latestFirst <:+ m'.output.latestFirst
  moves m store lines _ _ _ := List.suffix_append lines m.output.latestFirst
  trans h h' herror := (h nofun).trans (h' herror)
  settle cause? h _ := h (by rintro _ ⟨⟩; trivial)
  rollBack habort _ herror := absurd (herror _ rfl) habort
  statement m _ := by
    have houtput : (m.counted config).output = m.output := by
      rw [Machine.counted, Machine.noted_eq]
    rw [exec_countStatement]
    exact houtput ▸ List.suffix_refl _
  tally m _ _ _ := List.suffix_refl _
  note m event _ := by
    have houtput : (m.noted config event).output = m.output := by rw [Machine.noted_eq]
    exact houtput ▸ List.suffix_refl _

/-- Calls in a frame are in lockstep with themselves. -/
theorem Monitor.calls (M : Monitor config) (inFunction : Bool) (room depth : Nat) :
    (Judgement.lockstep M config.notes).Calls
      (Frame.context { config, inFunction, call := callFunction config room depth })
      (Frame.context { config, inFunction, call := callFunction config room depth }) where
  iterations := rfl
  call hab hvs := (Judgement.lockstep M config.notes).function
    (Judgement.lockstep_sameBlocks M config.notes) room depth hab hvs

/-! ## Recovery -/

/-- How a statement ends that found the bindings `env` and the machine `m`.  It never ends with an
error, and until now the output has only grown.  An error is its whole effect: it becomes one action
and leaves the bindings that were found.  Without an error, all bindings are left but for that of the
target. -/
def RecoversWith {α : Type} (target : Option String) (env : Env) (m : Machine) :
    Except Failure (Effect α) × Machine → Prop
  | (.ok effect, m') =>
    m.output.latestFirst <:+ m'.output.latestFirst ∧
      match effect.result with
      | .error cause => effect.action = some (.error cause.message) ∧ effect.env = env
      | .ok _ => Env.DiffersIn target env effect.env
  | (.error failure, _) => ¬ failure.IsError

/-- No error leaves an attempt. -/
theorem attempt_aborts {α : Type} {env : Env} {statement : Run (Effect α)} {m m' : Machine}
    {failure : Failure} (h : exec (attempt env statement) m = (.error failure, m')) :
    ¬ failure.IsError := by
  rw [exec_attempt] at h
  split at h
  · cases h
  · cases h
  · next hne _ =>
    cases h
    intro herror
    cases failure with
    | error cause => exact hne cause rfl
    | _ => exact herror

theorem attempt_recovers {config : Config} {α : Type} {target : Option String} {env : Env}
    {statement : Run (Effect α)} {R : Effect α → Effect α → Prop}
    (hlockstep : Lockstep (Monitor.output config).watch (attempt env statement) (attempt env statement) R)
    (hleaves : Yields statement (Effect.Leaves target env)) (m : Machine) :
    RecoversWith target env m (exec (attempt env statement) m) := by
  have hgrown : (∀ failure, failure? (exec (attempt env statement) m).1 = some failure →
      failure.IsError) → _ := hlockstep.watches m
  have hyields : ∀ effect m', exec (attempt env statement) m = (.ok effect, m') → _ :=
    attempt_yields hleaves m
  rcases hexec : exec (attempt env statement) m with ⟨failure | effect, m'⟩
  · exact attempt_aborts hexec
  · rw [hexec] at hgrown
    refine ⟨hgrown nofun, ?_⟩
    rcases hyields effect m' hexec with ⟨⟨value, hvalue⟩, henv⟩ | ⟨cause, rfl⟩
    · rw [hvalue]
      exact henv
    · exact ⟨rfl, rfl⟩

/-- Per-line recovery is atomic: this holds of every line of code, in every frame, scope and machine,
for whatever part of the interpreter executes the line. -/
theorem recovery_atomic (config : Config) (inFunction : Bool) (room depth : Nat) (env : Env)
    (m : Machine) (text : String) :
    let context := Frame.context { config, inFunction, call := callFunction config room depth }
    RecoversWith (Statement.ofCode text).target? env m
      (exec ((Statement.ofCode text).execute context inFunction env) m) ∧
    (∀ body block, RecoversWith ((Definition.ofHeader? text).map (·.name)) env m
      (exec (executeDefinition text (Definition.ofHeader? text) body block env) m)) ∧
    (∀ body, RecoversWith none env m
      (exec (startLoop context text (Loop.ofHeader? text) body env) m)) ∧
    (∀ extra, RecoversWith none env m
      (exec ((Condition.ofText text).test context extra env) m)) := by
  intro context
  have hcalls := (Monitor.output config).calls inFunction room depth
  refine ⟨?_, ?_, ?_, ?_⟩
  · refine attempt_recovers (hcalls.execute (envLike_refl env) inFunction _ rfl) ?_ m
    exact Statement.perform_leaves context inFunction env _ (Statement.ofCode_sober text)
  · intro body block
    refine attempt_recovers ((Judgement.lockstep (.output config) config.notes).definition
      (envLike_refl env) text _ body (show Renaming.identity.terms.block block block from rfl) rfl) ?_ m
    cases Definition.ofHeader? text with
    | some definition =>
      refine (bindFunction_yields definition body block env).mono ?_
      rintro _ ⟨parameters, function, rfl⟩
      exact Effect.leaves_insert ..
    | none => exact Yields.fail
  · intro body
    refine attempt_recovers (hcalls.loop (envLike_refl env) text _ body rfl) ?_ m
    split
    · refine (loopValues_yields context _ body env).mono ?_
      rintro _ ⟨elements, rfl⟩
      exact ⟨⟨_, rfl⟩, rfl⟩
    · exact Yields.fail
  · intro extra
    have hextra : List.Forall₂ (EntryLike Eq .identity) extra extra :=
      List.forall₂_same.mpr fun entry _ => ⟨rfl, entry.2.like_refl⟩
    refine attempt_recovers (hcalls.test (envLike_refl env) hextra (.ofText text) rfl) ?_ m
    split
    · refine (testGuard_yields context _ extra env).mono ?_
      rintro _ ⟨result, rfl⟩
      exact ⟨⟨_, rfl⟩, rfl⟩
    · exact Yields.fail

end Walkthrough
