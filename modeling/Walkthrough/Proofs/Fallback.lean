import Walkthrough.Proofs.Recording

/-!
# Literals that are kept as text

If the right side of an assignment cannot be evaluated, the text decides what becomes of the line: one
that is taken for a list or a dictionary is kept as it is written, and any other is an error
(`assignment_fallback`).  A text is taken for one if it begins with a brace, or with a bracket and does
not have the shape of a comprehension.  The shape is found by a search for the first `for`; it could be
found by any other one (`looksLikeComprehension_iff`).
-/

namespace Walkthrough

open Text Source

/-! ## Words in a text -/

/-- Whether a text ends in the middle of a word; for the empty one `inside` says so. -/
def endsInside (inside : Bool) (text : List Char) : Bool :=
  (text.getLast?.map isWord).getD inside

/-- A word stands in a text between `before` and `behind`, and is no part of a longer word. -/
structure StandsAlone (word : String) (inside : Bool) (text before behind : List Char) : Prop where
  text_eq : text = before ++ (word.toList ++ behind)
  left : endsInside inside before = false
  right : (behind.head?.map isWord).getD false = false

variable {c : Char} {text before behind : List Char}

theorem endsInside_append (inside : Bool) (text : List Char) (c : Char) (rest : List Char) :
    endsInside inside (text ++ c :: rest) = endsInside (isWord c) rest := by
  rw [endsInside, endsInside, List.getLast?_append, List.getLast?_cons]
  cases rest.getLast? <;> rfl

theorem wordHere_iff :
    wordHere word inside text = true ↔ ∃ behind, StandsAlone word inside text [] behind := by
  rw [wordHere, Bool.and_eq_true, Bool.and_eq_true, Bool.not_eq_true', Bool.not_eq_true',
    List.isPrefixOf_iff_prefix]
  constructor
  · rintro ⟨⟨hinside, behind, rfl⟩, hright⟩
    rw [← String.length_toList, List.drop_left] at hright
    exact ⟨behind, rfl, hinside, hright⟩
  · rintro ⟨behind, rfl, hinside, hright⟩
    rw [List.nil_append, ← String.length_toList, List.drop_left]
    exact ⟨⟨hinside, behind, rfl⟩, hright⟩

/-- What is found stands alone. -/
theorem standsAlone_of_afterFirst? (h : afterFirst? word inside text = some behind) :
    ∃ before, StandsAlone word inside text before behind := by
  induction text generalizing inside with
  | nil => cases h
  | cons c rest ih =>
    rw [afterFirst?] at h
    split at h
    · next hhere =>
      obtain ⟨behind', hstands⟩ := wordHere_iff.mp hhere
      have htext := hstands.text_eq
      rw [htext, List.nil_append, ← String.length_toList, List.drop_left] at h
      cases h
      exact ⟨[], hstands⟩
    · obtain ⟨before, hstands⟩ := ih h
      refine ⟨c :: before, ?_, ?_, hstands.right⟩
      · rw [hstands.text_eq]
        rfl
      · exact (endsInside_append inside [] c before).trans hstands.left

/-- A word that stands alone is found, or one before it is. -/
theorem StandsAlone.afterFirst? (h : StandsAlone word inside text before behind)
    (hword : word.toList ≠ []) :
    ∃ skipped, Walkthrough.afterFirst? word inside text = some (skipped ++ behind) := by
  induction before generalizing inside text with
  | nil =>
    have hhere := wordHere_iff.mpr ⟨behind, h⟩
    obtain ⟨c, rest, hcons⟩ := List.exists_cons_of_ne_nil hword
    have htext : text = c :: (rest ++ behind) := by
      rw [h.text_eq, hcons]
      rfl
    refine ⟨[], ?_⟩
    rw [htext] at hhere ⊢
    rw [Walkthrough.afterFirst?, if_pos hhere, ← List.cons_append, ← hcons, ← String.length_toList,
      List.drop_left]
    rfl
  | cons c before ih =>
    rw [h.text_eq, List.cons_append, Walkthrough.afterFirst?]
    split
    · refine ⟨(c :: (before ++ word.toList)).drop word.length, ?_⟩
      rw [← List.drop_append_of_le_length (by simp [← String.length_toList]; omega)]
      simp
    · exact ih ⟨rfl, (endsInside_append inside [] c before).symm.trans h.left, h.right⟩

/-! ## The shape of a comprehension -/

/-- Brackets around the word `for` and, behind it but not at once, the word `in`. -/
def ComprehensionShape (text : List Char) : Prop :=
  ∃ inner before c behind between rest, text = '[' :: (inner ++ [']']) ∧
    StandsAlone "for" false inner before (c :: behind) ∧
    StandsAlone "in" (isWord c) behind between rest

/-- It does not matter which `for` is looked at: the first one has the most behind it. -/
theorem looksLikeComprehension_iff : looksLikeComprehension text = true ↔ ComprehensionShape text := by
  unfold looksLikeComprehension
  constructor
  · intro h
    split at h
    · next rest =>
      rw [Bool.and_eq_true, beq_iff_eq, List.getLast?_eq_some_iff] at h
      obtain ⟨⟨inner, rfl⟩, h⟩ := h
      rw [List.dropLast_concat] at h
      split at h
      · next c behind hfor =>
        obtain ⟨before, hfor⟩ := standsAlone_of_afterFirst? hfor
        obtain ⟨rest, hin⟩ := Option.isSome_iff_exists.mp h
        obtain ⟨between, hin⟩ := standsAlone_of_afterFirst? hin
        exact ⟨inner, before, c, behind, between, rest, rfl, hfor, hin⟩
      · cases h
    · cases h
  · rintro ⟨inner, before, c, behind, between, rest, rfl, hfor, hin⟩
    obtain ⟨skipped, hfirst⟩ := hfor.afterFirst? (by decide)
    simp only [List.getLast?_concat, List.dropLast_concat, beq_self_eq_true, Bool.true_and, hfirst]
    cases skipped with
    | nil =>
      obtain ⟨skipped, hfound⟩ := hin.afterFirst? (by decide)
      simp [hfound]
    | cons d skipped =>
      have hin' : StandsAlone "in" (isWord d) (skipped ++ c :: behind) (skipped ++ c :: between) rest := by
        refine ⟨?_, ?_, hin.right⟩
        · simp [hin.text_eq]
        · rw [endsInside_append]
          exact hin.left
      obtain ⟨skipped', hfound⟩ := hin'.afterFirst? (by decide)
      simp [hfound]

/-- Whether a text is kept as it is written if it cannot be evaluated. -/
def KeptAsText (text : String) : Prop :=
  (∃ rest, text.toList = '{' :: rest) ∨
    (∃ rest, text.toList = '[' :: rest) ∧ ¬ ComprehensionShape text.toList

theorem looksLikeLiteral_iff (text : String) : looksLikeLiteral text = true ↔ KeptAsText text := by
  rw [looksLikeLiteral, KeptAsText, ← looksLikeComprehension_iff]
  split <;> simp_all

/-! ## Assignments -/

/-- A line `name = source`. -/
def IsAssignment (line name source : String) : Prop :=
  ∃ rest, leadingName? line.toList = some (name.toList, rest) ∧ afterEquals? rest = some source

theorem IsAssignment.ofCode {line name source : String} (h : IsAssignment line name source) :
    Statement.ofCode line =
      .assign name source (Reading.ofText source) (looksLikeLiteral source) := by
  obtain ⟨rest, hname, hsource⟩ := h
  have hassign : assignOf? line =
      some (.assign name source (Reading.ofText source) (looksLikeLiteral source)) := by
    simp [assignOf?, hname, hsource]
  have hline : line.isEmpty = false := by
    rw [Bool.eq_false_iff]
    intro hempty
    rw [String.isEmpty_iff.mp hempty] at hname
    cases hname
  rw [Statement.ofCode, hline, hassign]
  rfl

/-- If the right side of an assignment cannot be evaluated, its text is bound as it is written in case
it is taken for a list or a dictionary.  Any other line is an error and changes no binding. -/
theorem assignment_fallback {line name source : String} (hline : IsAssignment line name source)
    {context : Context} {env : Env} {m m' : Machine} {cause : EvalError}
    (hcause : exec ((Reading.ofText source).evaluate context env) m = (.error (.error cause), m'))
    (inFunction : Bool) :
    (KeptAsText source → ∃ action,
      exec ((Statement.ofCode line).execute context inFunction env) m =
        (.ok (.done action (env.insert name (.str source)) none), m') ∧
      action = match env.get? name with
        | some old => .reassign name (.str source) source old
        | none => .assign name (.str source) source) ∧
    (¬ KeptAsText source →
      exec ((Statement.ofCode line).execute context inFunction env) m = (.ok (.failed env cause), m')) := by
  rw [hline.ofCode, Statement.execute, ← looksLikeLiteral_iff, exec_attempt, Statement.perform]
  have hvalue := exec_tryCatch ((Reading.ofText source).evaluate context env) m
  rw [hcause] at hvalue
  cases looksLikeLiteral source with
  | true =>
    refine ⟨fun _ => ⟨_, ?_, rfl⟩, fun h => absurd rfl h⟩
    rw [exec_bind_ok (hvalue _)]
    rfl
  | false =>
    refine ⟨by simp, fun _ => ?_⟩
    rw [exec_bind_error (hvalue _)]

theorem exec_of_fst (h : (exec x m).1 = result) : exec x m = (result, (exec x m).2) :=
  Prod.ext h rfl

/-- An index beyond the end leaves the text, and an unknown name between brackets that happen to hold
the words of a comprehension is an error. -/
theorem assignment_fallback_brackets :
    let run (line : String) :=
      (exec ((Statement.ofCode line).execute (.withoutCalls 10) false .empty) Machine.start).1
    run "x = [1][5]" = .ok (.done (.assign "x" (.str "[1][5]") "[1][5]")
      (Table.empty.insert "x" (.str "[1][5]")) none) ∧
    run "x = ['for a in b', y]" = .ok (.failed .empty (.undefined "y")) := by
  have hindex : IsAssignment "x = [1][5]" "x" "[1][5]" := ⟨_, rfl, rfl⟩
  have hindex' : (exec ((Reading.ofText "[1][5]").evaluate (.withoutCalls 10) .empty)
      Machine.start).1 = .error (.error (.indexRange "list")) := by
    decide +kernel
  have hwords : IsAssignment "x = ['for a in b', y]" "x" "['for a in b', y]" := ⟨_, rfl, rfl⟩
  have hwords' : (exec ((Reading.ofText "['for a in b', y]").evaluate (.withoutCalls 10) .empty)
      Machine.start).1 = .error (.error (.undefined "y")) := by
    decide +kernel
  constructor
  · obtain ⟨action, hrun, rfl⟩ := (assignment_fallback hindex (exec_of_fst hindex') false).1
      ((looksLikeLiteral_iff _).mp (by decide +kernel))
    exact congrArg Prod.fst hrun
  · have hrun := (assignment_fallback hwords (exec_of_fst hwords') false).2
      (mt (looksLikeLiteral_iff _).mpr (by decide +kernel))
    exact congrArg Prod.fst hrun

/-- Whether an expression is a list or dictionary literal. -/
def Expr.isLiteral : Expr → Bool
  | .list .. | .dict .. => true
  | _ => false

/-- A list literal that holds the words of a comprehension in a text is not kept, and an index that is
no literal is. -/
theorem literal_refused_and_index_kept :
    (Reading.ofText "['for a in b', y]").toOption.map Expr.isLiteral = some true ∧
    (∃ trace, Trace.ofSource Config.usual "x = ['for a in b', y]" = .ok trace ∧ trace.errors = 1 ∧
      trace.steps.toList.map (·.bindings.get? "x") = [none]) ∧
    (Reading.ofText "[1][5]").toOption.map Expr.isLiteral = some false ∧
    ∃ trace, Trace.ofSource Config.usual "x = [1][5]" = .ok trace ∧ trace.errors = 0 ∧
      trace.steps.toList.map (·.bindings.get? "x") = [some (.str "[1][5]")] := by
  have hrefused : (Trace.ofSource Config.usual "x = ['for a in b', y]").toOption.any (fun trace =>
      trace.errors == 1 && trace.steps.toList.map (·.bindings.get? "x") == [none]) = true := by
    decide +kernel
  have hkept : (Trace.ofSource Config.usual "x = [1][5]").toOption.any (fun trace =>
      trace.errors == 0 && trace.steps.toList.map (·.bindings.get? "x") ==
        [some (.str "[1][5]")]) = true := by
    decide +kernel
  obtain ⟨trace, htrace, hp⟩ := Trace.exists_ofSource _ hrefused
  obtain ⟨trace', htrace', hp'⟩ := Trace.exists_ofSource _ hkept
  rw [Bool.and_eq_true, beq_iff_eq, beq_iff_eq] at hp hp'
  exact ⟨by decide +kernel, ⟨trace, htrace, hp⟩, by decide +kernel, trace', htrace', hp'⟩

end Walkthrough
