import Walkthrough.Proofs.Conditions

/-!
# Chains of alternatives

A chain takes exactly the first alternative whose condition holds.  It is walked with a flag that says
whether an alternative may still be taken, over branches that were cut from raw lines.  Here a chain
is what is written: an opening header, other headers with conditions, and perhaps a last resort
(`IfChain`), and `ChainRun` says how it is decided: all conditions before the decisive one are tested
and do not hold (`NoneHolds`), at most one body is executed, and what comes behind is counted and
passed over.

* `IfChain.Stands.ofLines`: the lines of a chain are one item in front of the lines behind it.
* `NoneHolds.exec_runBranches`: the walk is still open behind conditions that do not hold.
* `runBranches_closed`: once it is closed, alternatives are only counted.
-/

namespace Walkthrough

open Source

variable {test : Conditional} {rest : List Line}

/-! ## Chains as they are written -/

/-- A chain of alternatives: those with a condition, the first of which opens it, and the last
resort. -/
structure IfChain where
  opening : Conditional
  others : List Conditional
  fallback : Option Stanza

/-- The alternatives with a condition. -/
def IfChain.tests (chain : IfChain) : List Conditional :=
  chain.opening :: chain.others

/-- All lines of some stanzas. -/
def linesOfStanzas (stanzas : List Stanza) : List Line :=
  stanzas.flatMap Stanza.lines

/-- What follows the opening. -/
def IfChain.later (chain : IfChain) : List Stanza :=
  chain.others.map (·.toStanza) ++ chain.fallback.toList

def IfChain.lines (chain : IfChain) : List Line :=
  linesOfStanzas (chain.opening.toStanza :: chain.later)

/-- Each of some stanzas ends where the next begins, and the last in front of the other lines. -/
def StanzasFit : List Stanza → List Line → Prop
  | [], _ => True
  | s :: stanzas, rest => s.Fits (linesOfStanzas stanzas ++ rest) ∧ StanzasFit stanzas rest

instance StanzasFit.decidable : (stanzas : List Stanza) → (rest : List Line) →
    Decidable (StanzasFit stanzas rest)
  | [], _ => .isTrue trivial
  | _ :: stanzas, rest =>
    have := StanzasFit.decidable stanzas rest
    inferInstanceAs (Decidable (_ ∧ _))

/-- The first line that is not silent, if there is one, does not continue a chain at `indent`. -/
def EndsChain (indent : Nat) (lines : List Line) : Prop :=
  ∀ line ∈ (lines.dropWhile Line.isSilent).head?, line.indent = indent → isAlternative line.code = false

instance (indent : Nat) (lines : List Line) : Decidable (EndsChain indent lines) :=
  inferInstanceAs (Decidable (∀ line ∈ (lines.dropWhile Line.isSilent).head?,
    line.indent = indent → isAlternative line.code = false))

/-- A chain in front of other lines: its headers have the right words and stand at one indentation.
Without a last resort the other lines do not continue it. -/
@[mk_iff]
structure IfChain.Stands (chain : IfChain) (rest : List Line) : Prop where
  opening : chain.opening.guard.word = .ifWord
  others : ∀ test ∈ chain.others, test.guard.word = .elifWord
  fallback : ∀ s ∈ chain.fallback, headWord s.header.code = "else"
  aligned : ∀ s ∈ chain.later, s.first.indent = chain.opening.first.indent
  fits : StanzasFit (chain.opening.toStanza :: chain.later) rest
  ends : chain.fallback = none → EndsChain chain.opening.first.indent rest

instance (chain : IfChain) (rest : List Line) : Decidable (chain.Stands rest) :=
  decidable_of_iff' _ (chain.stands_iff rest)

/-! ## The item of a chain -/

/-- The branch of an alternative with a condition. -/
def Conditional.branch (test : Conditional) : Branch :=
  .mk test.header (some (.ofText test.header.code)) (Item.ofLines true test.body)

/-- The branch of a last resort. -/
def Stanza.lastResort (s : Stanza) : Branch :=
  .mk s.header none (Item.ofLines true s.body)

/-- The branches behind the opening. -/
def IfChain.branches (chain : IfChain) : List Branch :=
  chain.others.map Conditional.branch ++ chain.fallback.toList.map Stanza.lastResort

theorem Conditional.branch_paragraph (later : List Line) (hword : headWord test.header.code ≠ "else") :
    (test.paragraph later).branch (Item.ofLines true) = test.branch := by
  have hline : (test.paragraph later).line = test.header := rfl
  rw [Paragraph.branch, hline, if_neg (by simpa using hword)]
  rfl

theorem Stanza.branch_paragraph {s : Stanza} (later : List Line)
    (hword : headWord s.header.code = "else") :
    (s.paragraph later).branch (Item.ofLines true) = s.lastResort := by
  have hline : (s.paragraph later).line = s.header := rfl
  rw [Paragraph.branch, hline, if_pos (by simpa using hword)]
  rfl

section

variable {s : Stanza} {later : List Line} {indent : Nat}

theorem nextAlternative?_gap (hgap : ∀ line ∈ gap, line.isSilent) :
    nextAlternative? indent (gap ++ lines) = nextAlternative? indent lines := by
  rw [nextAlternative?, nextAlternative?, List.dropWhile_append_of_pos hgap]

theorem nextAlternative?_cons (hfirst : first.isSilent = false) (hindent : first.indent = indent)
    (hword : isAlternative first.code = true) :
    nextAlternative? indent (first :: following) = some (Paragraph.cut first following) := by
  rw [nextAlternative?, List.dropWhile_cons_of_neg (by simp [hfirst])]
  dsimp only
  rw [hindent, hword, beq_self_eq_true, Bool.and_self, if_pos rfl]

/-- How a chain goes on. -/
theorem alternatives_eq_match (indent : Nat) (lines : List Line) : alternatives indent lines =
    match nextAlternative? indent lines with
    | none => ([], lines)
    | some p =>
      if headWord p.line.code == "else" then ([p], p.rest)
      else (p :: (alternatives indent p.rest).1, (alternatives indent p.rest).2) := by
  rw [alternatives]
  split <;> next h => simp only [h]

theorem Stanza.Fits.alternatives (hfits : s.Fits later) (hindent : s.first.indent = indent)
    (hword : isAlternative s.header.code = true) : alternatives indent (s.lines ++ later) =
      if headWord s.header.code == "else" then ([s.paragraph later], later)
      else (s.paragraph later :: (alternatives indent later).1, (alternatives indent later).2) := by
  have hline : (s.paragraph later).line = s.header := rfl
  rw [isAlternative, Stanza.headWord_header] at hword
  rw [alternatives_eq_match, Stanza.lines_append, nextAlternative?_gap hfits.gap,
    nextAlternative?_cons hfits.first hindent hword, hfits.cut]
  dsimp only
  rw [hline, Stanza.rest_paragraph]

theorem EndsChain.alternatives (h : EndsChain indent rest) :
    alternatives indent rest = ([], rest) := by
  have hnext : nextAlternative? indent rest = none := by
    rw [nextAlternative?]
    split
    · rfl
    · next first following heq =>
      refine if_neg ?_
      intro hcontinues
      obtain ⟨hindent, halternative⟩ := Bool.and_eq_true_iff.mp hcontinues
      have hends := h first (by rw [heq]; rfl) (beq_iff_eq.mp hindent)
      simp [hends] at halternative
  rw [alternatives_eq_match, hnext]

end

/-- The alternatives behind the opening, and the lines behind the chain. -/
theorem alternatives_eq {others : List Conditional}
    (hothers : ∀ test ∈ others, test.guard.word = .elifWord)
    (hfallback : ∀ s ∈ fallback, headWord s.header.code = "else")
    (haligned : ∀ s ∈ others.map (·.toStanza) ++ fallback.toList, s.first.indent = indent)
    (hfits : StanzasFit (others.map (·.toStanza) ++ fallback.toList) rest)
    (hends : fallback = none → EndsChain indent rest) : ∃ paragraphs, alternatives indent
        (linesOfStanzas (others.map (·.toStanza) ++ fallback.toList) ++ rest) = (paragraphs, rest) ∧
      paragraphs.map (Paragraph.branch (Item.ofLines true)) =
        others.map Conditional.branch ++ fallback.toList.map Stanza.lastResort := by
  induction others with
  | nil =>
    cases fallback with
    | none => exact ⟨[], (hends rfl).alternatives, rfl⟩
    | some s =>
      have hword := hfallback s rfl
      have hindent := haligned s (by simp)
      refine ⟨[s.paragraph rest], ?_, ?_⟩
      · have hs : s.Fits rest := hfits.1
        simpa [linesOfStanzas, hword] using hs.alternatives hindent (by simp [isAlternative, hword])
      · simp [Stanza.branch_paragraph rest hword]
  | cons test others ih =>
    obtain ⟨htest, hothers⟩ := List.forall_mem_cons.mp hothers
    obtain ⟨hindent, haligned⟩ := List.forall_mem_cons.mp haligned
    have hstanza : test.Fits
        (linesOfStanzas (others.map (·.toStanza) ++ fallback.toList) ++ rest) := hfits.1
    obtain ⟨paragraphs, halternatives, hbranches⟩ := ih hothers haligned hfits.2
    have hword : headWord test.header.code = "elif" := by
      rw [Guard.headWord_eq test.reads, htest]
      rfl
    have hlines : linesOfStanzas ((test :: others).map (·.toStanza) ++ fallback.toList) ++ rest =
        test.lines ++ (linesOfStanzas (others.map (·.toStanza) ++ fallback.toList) ++ rest) := by
      rw [List.map_cons, List.cons_append, linesOfStanzas, List.flatMap_cons, List.append_assoc]
      rfl
    refine ⟨test.paragraph (linesOfStanzas (others.map (·.toStanza) ++ fallback.toList) ++ rest) ::
      paragraphs, ?_, ?_⟩
    · rw [hlines, Stanza.Fits.alternatives hstanza hindent (by simp [isAlternative, hword]), hword,
        if_neg (by decide), halternatives]
    · rw [List.map_cons, hbranches, Conditional.branch_paragraph _ (by rw [hword]; decide)]
      rfl

/-- Lines that begin with a chain. -/
theorem IfChain.Stands.ofLines {chain : IfChain} (h : chain.Stands rest) :
    Item.ofLines true (chain.lines ++ rest) =
      .choose chain.opening.branch chain.branches :: Item.ofLines true rest := by
  obtain ⟨paragraphs, halternatives, hbranches⟩ :=
    alternatives_eq h.others h.fallback h.aligned h.fits.2 h.ends
  have hlines : chain.lines ++ rest =
      chain.opening.lines ++ (linesOfStanzas chain.later ++ rest) := by
    rw [IfChain.lines, linesOfStanzas, List.flatMap_cons, List.append_assoc]
    rfl
  have hkind : HeaderKind.ofCode true
      (chain.opening.paragraph (linesOfStanzas chain.later ++ rest)).line.code = .choose :=
    Guard.headerKind_if chain.opening.reads h.opening
  have hword : headWord chain.opening.header.code ≠ "else" := by
    rw [Guard.headWord_eq chain.opening.reads, h.opening]
    decide
  rw [hlines, h.fits.1.ofLines true, Paragraph.shape, hkind, Stanza.rest_paragraph]
  dsimp only
  rw [IfChain.later, halternatives]
  dsimp only
  rw [Shape.item, hbranches, Conditional.branch_paragraph _ hword]
  rfl

/-! ## How a chain is decided -/

/-- Counts statements that are passed over. -/
def passOver (config : Config) : Nat → Run Unit
  | 0 => return
  | count + 1 => do
    countStatement config
    passOver config count

/-- What follows the decision: the alternatives that are left are passed over, and the lines behind
the chain are executed, unless a body returned. -/
def Frame.resume (frame : Frame) (left : Nat) (rest : List Line) (progress : Progress) :
    Run Progress :=
  match progress.returned with
  | some _ => return progress
  | none => do
    passOver frame.config left
    runBlock frame (Item.ofLines true rest) progress.env

/-- Conditions are counted and tested one after another, each in the state that the one before it
left, and none of them holds. -/
inductive NoneHolds (frame : Frame) (env : Env) : List Conditional → Machine → Machine → Prop where
  | nil {m : Machine} : NoneHolds frame env [] m m
  | cons {test : Conditional} {tests : List Conditional} {m m₁ m₂ m₃ : Machine} :
      exec (countStatement frame.config) m = (.ok (), m₁) →
      frame.Judges test.header test.guard [] env m₁ (.holds false) m₂ →
      NoneHolds frame env tests m₂ m₃ → NoneHolds frame env (test :: tests) m m₃

/-- A condition is reached: those before it have been tested, and it has been counted. -/
structure Reaches (frame : Frame) (chain : IfChain) (env : Env) (m : Machine)
    (before : List Conditional) (test : Conditional) (after : List Conditional) (m' : Machine) :
    Prop where
  split : chain.tests = before ++ test :: after
  counted : ∃ m₁, NoneHolds frame env before m m₁ ∧
    exec (countStatement frame.config) m₁ = (.ok (), m')

/-- The ways in which a chain is executed together with the lines behind it. -/
inductive ChainRun (frame : Frame) (chain : IfChain) (rest : List Line) (env : Env) (m : Machine) :
    Except Failure Progress × Machine → Prop where
  /-- The first condition that holds: its body is executed, and no other. -/
  | taken {before after : List Conditional} {test : Conditional} {m₁ m₂ : Machine} :
      Reaches frame chain env m before test after m₁ →
      frame.Judges test.header test.guard [] env m₁ (.holds true) m₂ →
      ChainRun frame chain rest env m (exec (do
        let progress ← runBlock frame (Item.ofLines true test.body) env
        frame.resume (after.length + chain.fallback.toList.length) rest progress) m₂)
  /-- A condition fails, which is recorded at the top level: no body is executed. -/
  | failed {before after : List Conditional} {test : Conditional} {m₁ m₂ : Machine}
      {cause : EvalError} :
      Reaches frame chain env m before test after m₁ →
      frame.Judges test.header test.guard [] env m₁ (.fails cause) m₂ → frame.inFunction = false →
      ChainRun frame chain rest env m (exec
        (frame.resume (after.length + chain.fallback.toList.length) rest (.goingOn env)) m₂)
  /-- A condition fails in a function. -/
  | raised {before after : List Conditional} {test : Conditional} {m₁ m₂ : Machine}
      {cause : EvalError} :
      Reaches frame chain env m before test after m₁ →
      frame.Judges test.header test.guard [] env m₁ (.fails cause) m₂ → frame.inFunction = true →
      ChainRun frame chain rest env m (.error (.error cause), m₂)
  /-- No condition holds, and there is a last resort. -/
  | otherwise {s : Stanza} {m₁ m₂ : Machine} : NoneHolds frame env chain.tests m m₁ →
      chain.fallback = some s → exec (countStatement frame.config) m₁ = (.ok (), m₂) →
      ChainRun frame chain rest env m (exec (do
        let progress ← runBlock frame (Item.ofLines true s.body) env
        frame.resume 0 rest progress) m₂)
  /-- No condition holds, and there is no last resort. -/
  | passed {m₁ : Machine} : NoneHolds frame env chain.tests m m₁ → chain.fallback = none →
      ChainRun frame chain rest env m (exec (frame.resume 0 rest (.goingOn env)) m₁)
  /-- The whole run stops during a test. -/
  | stopped {before after : List Conditional} {test : Conditional} {m₁ m₂ : Machine}
      {failure : Failure} :
      Reaches frame chain env m before test after m₁ →
      frame.Judges test.header test.guard [] env m₁ (.stops failure) m₂ →
      ChainRun frame chain rest env m (.error failure, m₂)
  /-- A budget is used up in front of an alternative. -/
  | uncounted {before : List Conditional} {m₁ m₂ : Machine} {failure : Failure} :
      before <+: chain.tests → (before = chain.tests → chain.fallback.isSome) →
      NoneHolds frame env before m m₁ →
      exec (countStatement frame.config) m₁ = (.error failure, m₂) →
      ChainRun frame chain rest env m (.error failure, m₂)

theorem isConstant_bare (word : GuardWord) (text : String) (result : Bool) :
    (Action.condition word text result []).IsConstant := rfl

/-! ## The walk -/

section

variable {frame : Frame} {env : Env}

/-- A chain is executed by walking over all its branches. -/
theorem runBlock_choose (first : Branch) (branches : List Branch) (items : List Item) :
    runBlock frame (.choose first branches :: items) env = (do
      let progress ← runBranches frame (first :: branches) true env
      match progress.returned with
      | some _ => return progress
      | none => runBlock frame items progress.env) := by
  rw [runBlock, runItem, runBranches]
  exact (bind_assoc (countStatement frame.config) _ _).symm

/-- Once the walk is closed, alternatives are only counted. -/
theorem runBranches_closed (branches : List Branch) :
    runBranches frame branches false env = (do
      passOver frame.config branches.length
      return .goingOn env) := by
  induction branches with
  | nil => rfl
  | cons branch branches ih =>
    rw [runBranches, List.length_cons, passOver, bind_assoc]
    refine bind_congr fun _ => ?_
    rw [← ih]
    rfl

/-- The walk is open and comes to a condition that has been counted. -/
theorem exec_runBranches_test
    (hcount : exec (countStatement frame.config) m = (.ok (), m₁)) :
    exec (runBranches frame (test.branch :: branches) true env) m =
      match frame.judge test.header test.guard [] env m₁ with
      | (.holds true, m₂) => exec (do
          let progress ← runBlock frame (Item.ofLines true test.body) env
          match progress.returned with
          | some _ => return progress
          | none => runBranches frame branches false progress.env) m₂
      | (.holds false, m₂) => exec (runBranches frame branches true env) m₂
      | (.fails cause, m₂) =>
        if frame.inFunction then (.error (.error cause), m₂)
        else exec (runBranches frame branches false env) m₂
      | (.stops failure, m₂) => (.error failure, m₂) := by
  rw [runBranches, exec_bind_ok hcount, if_pos rfl, Conditional.branch, runBranch]
  simp only [bind_assoc]
  rw [exec_judge test.guard?_eq]
  generalize frame.judge test.header test.guard [] env m₁ = judged
  rcases judged with ⟨(_ | _) | _ | _, m₂⟩
  · rfl
  · dsimp only [Effect.done]
    rw [bind_assoc]
    rfl
  · rfl
  · rfl

/-- Behind conditions that do not hold the walk is still open. -/
theorem NoneHolds.exec_runBranches (h : NoneHolds frame env tests m m₁) (branches : List Branch) :
    exec (runBranches frame (tests.map Conditional.branch ++ branches) true env) m =
      exec (runBranches frame branches true env) m₁ := by
  induction h with
  | nil => rfl
  | cons hcount hjudges _ ih =>
    rw [List.map_cons, List.cons_append, exec_runBranches_test hcount, hjudges.judged]
    exact ih

theorem NoneHolds.concat (h : NoneHolds frame env tests m m₁)
    (hcount : exec (countStatement frame.config) m₁ = (.ok (), m₂))
    (hjudges : frame.Judges test.header test.guard [] env m₂ (.holds false) m₃) :
    NoneHolds frame env (tests ++ [test]) m m₃ := by
  induction h with
  | nil => exact .cons hcount hjudges .nil
  | cons hcount' hjudges' _ ih => exact .cons hcount' hjudges' (ih hcount)

/-- The lines behind a chain are executed behind the walk over its branches. -/
theorem exec_walk_closed (branches : List Branch) (rest : List Line) (progress : Progress) :
    exec (do
      let progress ← (match progress.returned with
        | some _ => return progress
        | none => runBranches frame branches false progress.env)
      match progress.returned with
      | some _ => return progress
      | none => runBlock frame (Item.ofLines true rest) progress.env) m =
      exec (frame.resume branches.length rest progress) m := by
  rw [Frame.resume]
  rcases progress with ⟨env, _ | value⟩
  · dsimp only
    rw [runBranches_closed, bind_assoc]
    rfl
  · rfl

/-- The walk is open and comes to the last resort. -/
theorem exec_runBranches_lastResort {s : Stanza}
    (hcount : exec (countStatement frame.config) m = (.ok (), m₁)) :
    exec (runBranches frame [s.lastResort] true env) m =
      exec (runBlock frame (Item.ofLines true s.body) env) m₁ := by
  rw [runBranches, exec_bind_ok hcount, if_pos rfl, Stanza.lastResort, runBranch, bind_assoc,
    exec_bind]
  rcases exec (runBlock frame (Item.ofLines true s.body) env) m₁ with
    ⟨failure | ⟨env', _ | value⟩, m₂⟩
  · rfl
  · rfl
  · rfl

/-! ## The run as a whole -/

variable {chain : IfChain} {rest : List Line}

/-- What a chain and the lines behind it come to. -/
def IfChain.run (chain : IfChain) (frame : Frame) (rest : List Line) (env : Env) : Run Progress := do
  let progress ← runBranches frame (chain.opening.branch :: chain.branches) true env
  match progress.returned with
  | some _ => return progress
  | none => runBlock frame (Item.ofLines true rest) progress.env

theorem IfChain.branches_eq (chain : IfChain) :
    chain.opening.branch :: chain.branches =
      chain.tests.map Conditional.branch ++ chain.fallback.toList.map Stanza.lastResort := rfl

/-- The walk comes to a condition. -/
theorem Reaches.exec_run
    (h : Reaches frame chain env m before test after m₁) :
    ∃ branches : List Branch, branches.length = after.length + chain.fallback.toList.length ∧
      ∃ m₀, exec (countStatement frame.config) m₀ = (.ok (), m₁) ∧
        exec (chain.run frame rest env) m = exec (do
          let progress ← runBranches frame (test.branch :: branches) true env
          match progress.returned with
          | some _ => return progress
          | none => runBlock frame (Item.ofLines true rest) progress.env) m₀ := by
  obtain ⟨m₀, hbefore, hcount⟩ := h.counted
  refine ⟨after.map Conditional.branch ++ chain.fallback.toList.map Stanza.lastResort, by simp, m₀,
    hcount, ?_⟩
  rw [IfChain.run, IfChain.branches_eq, h.split, List.map_append, List.map_cons, List.append_assoc,
    List.cons_append, exec_bind, hbefore.exec_runBranches, ← exec_bind]

/-- Every way to be decided is what the walk does. -/
theorem ChainRun.exec_run {outcome : Except Failure Progress × Machine}
    (h : ChainRun frame chain rest env m outcome) : exec (chain.run frame rest env) m = outcome := by
  cases h with
  | taken hreaches hjudges =>
    obtain ⟨branches, hlength, m₀, hcount, hexec⟩ := hreaches.exec_run
    rw [hexec, exec_bind, exec_runBranches_test hcount, hjudges.judged]
    dsimp only
    rw [← exec_bind, bind_assoc, ← hlength, exec_bind, exec_bind]
    rcases exec (runBlock frame (Item.ofLines true _) env) _ with ⟨failure | progress, m'⟩
    · rfl
    · exact exec_walk_closed branches rest progress
  | failed hreaches hjudges htop =>
    obtain ⟨branches, hlength, m₀, hcount, hexec⟩ := hreaches.exec_run
    rw [hexec, exec_bind, exec_runBranches_test hcount, hjudges.judged, htop]
    dsimp only
    rw [if_neg (by simp), ← exec_bind, ← hlength]
    exact exec_walk_closed branches rest (.goingOn env)
  | raised hreaches hjudges hinFunction =>
    obtain ⟨branches, _, m₀, hcount, hexec⟩ := hreaches.exec_run
    rw [hexec, exec_bind, exec_runBranches_test hcount, hjudges.judged, hinFunction]
    rfl
  | otherwise hnone hfallback hcount =>
    rw [IfChain.run, IfChain.branches_eq, exec_bind, hnone.exec_runBranches, hfallback,
      Option.toList_some, List.map_singleton, exec_runBranches_lastResort hcount, ← exec_bind]
    rfl
  | passed hnone hfallback =>
    rw [IfChain.run, IfChain.branches_eq, exec_bind, hnone.exec_runBranches, hfallback]
    rfl
  | stopped hreaches hjudges =>
    obtain ⟨branches, _, m₀, hcount, hexec⟩ := hreaches.exec_run
    rw [hexec, exec_bind, exec_runBranches_test hcount, hjudges.judged]
  | @uncounted before m₁ m₂ failure hprefix hfallback hnone hcount =>
    obtain ⟨after, hsplit⟩ := hprefix
    have hleft : after.map Conditional.branch ++ chain.fallback.toList.map Stanza.lastResort ≠ [] := by
      intro hnil
      obtain ⟨hafter, hlast⟩ := List.append_eq_nil_iff.mp hnil
      rw [List.map_eq_nil_iff.mp hafter, List.append_nil] at hsplit
      obtain ⟨s, hs⟩ := Option.isSome_iff_exists.mp (hfallback hsplit)
      simp [hs] at hlast
    obtain ⟨branch, branches, hbranches⟩ := List.exists_cons_of_ne_nil hleft
    rw [IfChain.run, IfChain.branches_eq, ← hsplit, List.map_append, List.append_assoc, exec_bind,
      hnone.exec_runBranches, hbranches, runBranches, exec_bind_error hcount]

/-- From every state a chain is decided in one of the ways. -/
theorem exists_chainRun (hsplit : chain.tests = before ++ after)
    (hnone : NoneHolds (Frame.calling config inFunction room depth) env before m m₁) :
    ∃ outcome, ChainRun (Frame.calling config inFunction room depth) chain rest env m outcome := by
  induction after generalizing before m₁ with
  | nil =>
    rw [List.append_nil] at hsplit
    rw [← hsplit] at hnone
    cases hfallback : chain.fallback with
    | none => exact ⟨_, .passed hnone hfallback⟩
    | some s =>
      rcases hcount : exec (countStatement config) m₁ with ⟨failure | ⟨⟩, m₂⟩
      · exact ⟨_, .uncounted (List.prefix_refl _) (fun _ => by simp [hfallback]) hnone hcount⟩
      · exact ⟨_, .otherwise hnone hfallback hcount⟩
  | cons test after ih =>
    rcases hcount : exec (countStatement config) m₁ with ⟨failure | ⟨⟩, m₂⟩
    · refine ⟨_, .uncounted ⟨test :: after, hsplit.symm⟩ (fun heq => ?_) hnone hcount⟩
      rw [hsplit] at heq
      exact absurd heq.symm (by simp)
    · have hreaches : Reaches (Frame.calling config inFunction room depth) chain env m before test
          after m₂ := ⟨hsplit, m₁, hnone, hcount⟩
      obtain ⟨verdict, m₃, hjudges⟩ := Frame.exists_judges config inFunction room depth test.header
        test.guard isConstant_bare env m₂
      rcases verdict with (_ | _) | cause | failure
      · exact ih (by rw [hsplit, List.append_assoc]; rfl) (hnone.concat hcount hjudges)
      · exact ⟨_, .taken hreaches hjudges⟩
      · cases inFunction with
        | true => exact ⟨_, .raised hreaches hjudges rfl⟩
        | false => exact ⟨_, .failed hreaches hjudges rfl⟩
      · exact ⟨_, .stopped hreaches hjudges⟩

end

/-- A chain takes exactly the first alternative whose condition holds: in every frame, scope and
machine the ways in which its lines are executed, together with the lines behind it, are exactly
those of `ChainRun`. -/
theorem chain_takes_first_true (config : Config) (inFunction : Bool) (room depth : Nat)
    (chain : IfChain) (rest : List Line) (hstands : chain.Stands rest) (env : Env) (m : Machine)
    (outcome : Except Failure Progress × Machine) :
    exec (runBlock (Frame.calling config inFunction room depth)
      (Item.ofLines true (chain.lines ++ rest)) env) m = outcome ↔
      ChainRun (Frame.calling config inFunction room depth) chain rest env m outcome := by
  rw [hstands.ofLines, runBlock_choose]
  constructor
  · intro houtcome
    obtain ⟨outcome', hrun⟩ := exists_chainRun (List.nil_append _).symm NoneHolds.nil
    obtain rfl : outcome' = outcome := hrun.exec_run.symm.trans houtcome
    exact hrun
  · intro hrun
    exact hrun.exec_run

/-- A chain with a header on two lines, a blank line and a comment. -/
def gradedChain : IfChain where
  opening := (Conditional.ofStanza? {
    gap := []
    first := Line.ofText 0 "if n > 2:"
    more := []
    body := [Line.ofText 1 "    a = 1"] }).get (by decide +kernel)
  others := [(Conditional.ofStanza? {
    gap := [Line.ofText 2 ""]
    first := Line.ofText 3 "elif (n >"
    more := [Line.ofText 4 "      1):"]
    body := [Line.ofText 5 "    a = 2"] }).get (by decide +kernel)]
  fallback := some {
    gap := [Line.ofText 6 "# small"]
    first := Line.ofText 7 "else:"
    more := []
    body := [Line.ofText 8 "    a = 3"] }

theorem chain_takes_first_true_graded :
    gradedChain.Stands [Line.ofText 9 "print(a)"] ∧ ∀ env m outcome,
      exec (runBlock (Frame.calling .usual false callLimit 0)
        (Item.ofLines true (gradedChain.lines ++ [Line.ofText 9 "print(a)"])) env) m = outcome ↔
        ChainRun (Frame.calling .usual false callLimit 0) gradedChain [Line.ofText 9 "print(a)"] env m
          outcome :=
  have hstands : gradedChain.Stands [Line.ofText 9 "print(a)"] := by decide +kernel
  ⟨hstands, chain_takes_first_true .usual false callLimit 0 gradedChain _ hstands⟩

end Walkthrough
