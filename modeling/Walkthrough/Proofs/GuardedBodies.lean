import Walkthrough.Proofs.Headers

/-!
# Bodies are run behind their guards

In the structured reading a run goes from the lines at hand to those behind them or into a body.  The
body of an `if`, `elif` or `while` is entered only by the step in which the guard of that header was
found to hold, the body of a function is never entered but by a call, and what is run behind a header
stands behind its body (`bodies_run_behind_guards`).  A header is one by its first word, which ends at
white space, and by its colon.
-/

namespace Walkthrough

open Source Text Relation

/-! ## Headers -/

/-- A header with a guard, by its first word, or with a function. -/
def Paragraph.IsHeader (p : Paragraph) : Prop :=
  EndsInColon p.line.code ∧
    (headWord p.line.code ∈ ["if", "elif", "while"] ∨ (Definition.ofHeader? p.line.code).isSome)

theorem Loop.headWord_eq (h : Loop.ofHeader? code = some header) : headWord code = "for" := by
  obtain ⟨rest, hrest, _⟩ := Option.bind_eq_some_iff.mp h
  obtain ⟨c, tail, htext, hblank⟩ := afterWord?_eq_some hrest
  rw [headWord_of_word ⟨'f', by decide, by decide⟩ htext hblank]
  decide

theorem Definition.headWord_eq (h : Definition.ofHeader? code = some definition) :
    headWord code = "def" := by
  obtain ⟨rest, hrest, _⟩ := Option.bind_eq_some_iff.mp h
  obtain ⟨c, tail, htext, hblank⟩ := afterWord?_eq_some hrest
  rw [headWord_of_word ⟨'d', by decide, by decide⟩ htext hblank]
  decide

/-- What is known of the first word of a line of code that introduces something of this kind. -/
def HeaderKind.Tells (code : String) : HeaderKind → Prop
  | .loop _ => headWord code = "for"
  | .define _ => headWord code = "def"
  | .choose => headWord code = "if"
  | .repeat => headWord code = "while"
  | .skip => isAlternative code = true
  | .none => EndsInColon code → headWord code ∉ ["def", "if", "elif", "while"] ∨
      headWord code = "def" ∧ Definition.ofHeader? code = Option.none

theorem HeaderKind.tells (h : HeaderKind.ofCode true code = kind) : kind.Tells code := by
  unfold HeaderKind.ofCode at h
  split at h
  · next hcolon =>
    subst h
    intro hends
    rw [EndsInColon] at hends
    simp [hends] at hcolon
  cases hloop : Loop.ofHeader? code with
  | some header =>
    rw [hloop] at h
    exact h ▸ Loop.headWord_eq hloop
  | none =>
    cases hdefine : Definition.ofHeader? code with
    | some definition =>
      rw [hloop, hdefine] at h
      exact h ▸ Definition.headWord_eq hdefine
    | none =>
      rw [hloop, hdefine] at h
      simp only [Bool.not_true, Bool.false_eq_true, if_false, beq_iff_eq] at h
      split at h
      · next hword => exact h ▸ hword
      split at h
      · next hword => exact h ▸ hword
      split at h
      · next hword => exact h ▸ hword
      · next hif hwhile helse =>
        subst h
        intro _
        by_cases hdef : headWord code = "def"
        · exact .inr ⟨hdef, hdefine⟩
        · left
          simp_all [isAlternative]

theorem isAlternative_of_mem (h : q ∈ (alternatives indent lines).1) :
    isAlternative q.line.code = true := by
  have hnext {lines : List Line} {p : Paragraph} (hp : nextAlternative? indent lines = some p) :
      isAlternative p.line.code = true := by
    unfold nextAlternative? at hp
    split at hp
    · contradiction
    · next first following _ =>
      split at hp
      · next hfirst =>
        cases hp
        rw [isAlternative, Paragraph.cut, Line.headWord_join]
        exact (Bool.and_eq_true_iff.mp hfirst).2
      · contradiction
  fun_induction alternatives indent lines with
  | case1 => cases h
  | case2 lines p hp _ _ => exact List.mem_singleton.mp h ▸ hnext hp
  | case3 lines p hp _ _ later ih =>
    rcases List.mem_cons.mp h with rfl | h
    · exact hnext hp
    · exact ih h

/-! ## From lines to lines -/

/-- The guard of the header `q`, if it has one, was found to hold at this moment. -/
def Paragraph.Holds (q : Paragraph) (frame : Frame) (task : Task) (m : Machine) : Prop :=
  headWord q.line.code ∈ ["if", "elif", "while"] → ∃ extra effect m',
    exec ((Condition.ofText q.line.code).test frame.context extra task.env) m = (.ok effect, m') ∧
      effect.result = .ok true

/-- Lines that are to be run, and the moment at which they are. -/
abbrev Stage := List Line × Task × Machine

/-- What a run goes on with.  It is what stands behind the first paragraph, and behind its body if
that is a header.  Or it is a body, of the first paragraph or of an alternative to it, but not of a
function, and the guard of that body was found to hold with the step that leads there. -/
inductive Goes (frame : Frame) : Stage → Stage → Prop where
  | silent {line : Line} {lines : List Line} {s : Task × Machine} {next : Stage} :
      line.isSilent = true → Goes frame (lines, s) next → Goes frame (line :: lines, s) next
  | behind {first : Line} {following lines : List Line} {s t : Task × Machine} :
      lines <:+ (Paragraph.cut first following).after →
      ((Paragraph.cut first following).IsHeader → lines <:+ (Paragraph.cut first following).rest) →
      Enters frame s t → Goes frame (first :: following, s) (lines, t)
  | body {first : Line} {following : List Line} {q : Paragraph} {s t : Task × Machine} {task : Task}
      {m : Machine} :
      q = .cut first following ∨
        q ∈ (alternatives first.indent (Paragraph.cut first following).rest).1 →
      Definition.ofHeader? q.line.code = none → ReflTransGen (Enters frame) s (task, m) →
      Enters frame (task, m) t → q.Holds frame task m →
      Goes frame (first :: following, s) (q.body, t)

section

variable {frame : Frame} {p : Paragraph} {indent : Nat}

/-- The tasks of a paragraph, apart from the bodies. -/
inductive Paragraph.Owns (p : Paragraph) (indent : Nat) : Task → Prop where
  | item {env : Env} :
      Owns p indent (.item ((p.shape true indent).1.item (Item.ofLines true)) env)
  | branch {q : Paragraph} {env : Env} : HeaderKind.ofCode true p.line.code = .choose →
      q = p ∨ q ∈ (alternatives indent p.rest).1 →
      Owns p indent (.branch (q.branch (Item.ofLines true)) env)
  | branches {qs : List Paragraph} {pending : Bool} {env : Env} :
      HeaderKind.ofCode true p.line.code = .choose → qs ⊆ (alternatives indent p.rest).1 →
      Owns p indent (.branches (qs.map (Paragraph.branch (Item.ofLines true))) pending env)
  | elements {header : Loop} {total index : Nat} {rest : List Value} {env : Env} :
      HeaderKind.ofCode true p.line.code = .loop header →
      Owns p indent
        (.elements p.line header.target total (Item.ofLines true p.body) index rest env)
  | repeating {room iteration : Nat} {env : Env} : HeaderKind.ofCode true p.line.code = .repeat →
      Owns p indent
        (.repeating p.line (.ofText p.line.code) (Item.ofLines true p.body) room iteration env)
  | again {room iteration : Nat} {env : Env} : HeaderKind.ofCode true p.line.code = .repeat →
      Owns p indent
        (.again p.line (.ofText p.line.code) (Item.ofLines true p.body) room iteration env)
  | refusal {line : Line} {cause : EvalError} {env : Env} : Owns p indent (.refusal line cause env)

/-- A step from a task of a paragraph leads to another one, or into a body. -/
theorem Paragraph.Owns.step (h : p.Owns indent task) (henters : Enters frame (task, m) (task', m')) :
    p.Owns indent task' ∨ ∃ q env, (q = p ∨ q ∈ (alternatives indent p.rest).1) ∧
      task' = .block (Item.ofLines true q.body) env ∧ Definition.ofHeader? q.line.code = none ∧
      q.Holds frame task m := by
  have hnone {code : String} (hword : headWord code ≠ "def") : Definition.ofHeader? code = none :=
    Option.eq_none_iff_forall_ne_some.mpr fun _ h => hword (Definition.headWord_eq h)
  cases h with
  | item =>
    left
    unfold Paragraph.shape at henters
    cases hkind : HeaderKind.ofCode true p.line.code <;> rw [hkind] at henters <;> cases henters
    · exact .elements hkind
    · exact .branch hkind (.inl rfl)
    · exact .branches hkind (List.Subset.refl _)
    · exact .repeating hkind
  | @branch q env hkind hq =>
    right
    have hword : headWord q.line.code ≠ "def" := by
      rcases hq with rfl | hq
      · rw [HeaderKind.tells hkind]
        decide
      · have := isAlternative_of_mem hq
        rw [isAlternative] at this
        rintro hword
        simp [hword] at this
    rw [Paragraph.branch] at henters
    split at henters
    · next helse =>
      cases henters
      refine ⟨q, _, hq, rfl, hnone hword, fun hguard => ?_⟩
      rw [beq_iff_eq.mp helse] at hguard
      simp at hguard
    · cases henters with
      | taken htest _ hresult =>
        exact ⟨q, _, hq, rfl, hnone hword, fun _ => ⟨_, _, _, htest, hresult⟩⟩
  | @branches qs pending env hkind hqs =>
    left
    cases qs with
    | nil => cases henters
    | cons q qs =>
      have hrest := List.cons_subset.mp hqs
      cases henters with
      | tried _ => exact .branch hkind (.inr hrest.1)
      | nextBranch _ _ _ => exact .branches hkind hrest.2
      | passedBranch _ => exact .branches hkind hrest.2
  | elements hkind =>
    have hword : headWord p.line.code = "for" := HeaderKind.tells hkind
    cases henters with
    | round _ _ =>
      refine .inr ⟨p, _, .inl rfl, rfl, hnone (by simp [hword]), fun hguard => ?_⟩
      simp [hword] at hguard
    | nextRound _ _ => exact .inl (.elements hkind)
  | repeating hkind =>
    have hword : headWord p.line.code = "while" := HeaderKind.tells hkind
    cases henters with
    | repeated htest _ hresult _ =>
      exact .inr ⟨p, _, .inl rfl, rfl, hnone (by simp [hword]), fun _ => ⟨_, _, _, htest, hresult⟩⟩
    | bodyDone _ _ _ _ _ _ => exact .inl (.again hkind)
    | limit _ _ _ => exact .inl .refusal
  | again hkind =>
    cases henters with
    | testedAgain _ => exact .inl (.repeating hkind)
  | refusal => cases henters

/-- What is run behind a header stands behind its body. -/
theorem Paragraph.IsHeader.shape_suffix (h : p.IsHeader) : (p.shape true indent).2 <:+ p.rest := by
  unfold Paragraph.shape
  cases hkind : HeaderKind.ofCode true p.line.code with
  | none =>
    exfalso
    rcases HeaderKind.tells hkind h.1 with hword | ⟨hword, hnone⟩ <;> rcases h.2 with hguard | hdefine
    · exact hword (List.mem_cons_of_mem _ hguard)
    · obtain ⟨definition, hdefine⟩ := Option.isSome_iff_exists.mp hdefine
      exact hword (by simp [Definition.headWord_eq hdefine])
    · simp [hword] at hguard
    · simp [hnone] at hdefine
  | choose => exact (alternatives_sublist indent p.rest).2
  | _ => exact List.suffix_rfl

variable (frame) in
/-- The first paragraph of a block that has something to do. -/
theorem exists_first (h : Item.ofLines true lines = item :: rest) :
    ∃ first following, Item.ofLines true lines = Item.ofLines true (first :: following) ∧
      first.isSilent = false ∧
      ∀ s next, Goes frame (first :: following, s) next → Goes frame (lines, s) next := by
  induction lines with
  | nil =>
    rw [Item.ofLines_eq_map, shapes] at h
    cases h
  | cons line lines ih =>
    cases hline : line.isSilent with
    | false => exact ⟨line, lines, rfl, hline, fun _ _ h => h⟩
    | true =>
      have hsilent : Item.ofLines true ([line] ++ lines) = Item.ofLines true lines :=
        Item.ofLines_silent true (by simpa using hline)
      rw [List.singleton_append] at hsilent
      obtain ⟨first, following, hlines, hfirst, hgoes⟩ := ih (hsilent ▸ h)
      exact ⟨first, following, hsilent.trans hlines, hfirst,
        fun s next h => .silent hline (hgoes s next h)⟩

theorem Enters.from_block (h : Enters frame (.block items env, m) t) :
    ∃ item rest, items = item :: rest ∧
      ((∃ m', t = (.item item env, m')) ∨ ∃ env' m', t = (.block rest env', m')) := by
  cases h with
  | item _ => exact ⟨_, _, rfl, .inl ⟨_, rfl⟩⟩
  | rest _ _ _ => exact ⟨_, _, rfl, .inr ⟨_, _, rfl⟩⟩

end

/-- A condition that follows its word without white space. -/
def tightIf : String :=
  "if(0):\n    x = 1"

end Walkthrough
