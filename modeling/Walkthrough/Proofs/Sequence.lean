import Walkthrough.Proofs.Alternatives
import Walkthrough.Proofs.Budget

/-!
# One part after another

The lines of a program may be cut in two where no statement, body or chain of alternatives goes on.
`Closed` follows a list of lines as they are read and asks of every statement that begins in it that
its brackets come to rest in it.

* `Closed.ofLines_append`: the tree of closed lines and others is the one tree and the other.
* `runBlock_append`: the items of two blocks are run as the first block and then, unless it returned,
  the second.
* `runs_in_sequence`: both together, and what follows for traces.
-/

namespace Walkthrough

open Source

variable {lines later : List Line} {indent : Nat}

/-! ## Statements that end -/

/-- Whether brackets that are open after `pieces` are closed, perhaps too often, on one of the
lines. -/
def settles (pieces : List String) : List Line → Bool
  | [] => false
  | line :: rest =>
    decide (balance (" ".intercalate (addPiece pieces line)) ≤ 0) ||
      settles (addPiece pieces line) rest

/-- The statement that begins on `first` does not wait for more than the following lines. -/
def Source.Line.Stops (first : Line) (following : List Line) : Prop :=
  balance first.code ≤ 0 ∨ settles [first.code] following = true

instance (first : Line) (following : List Line) : Decidable (first.Stops following) :=
  inferInstanceAs (Decidable (_ ∨ _))

theorem closePieces_of_settles (h : settles pieces lines = true) (later : List Line) :
    closePieces pieces (lines ++ later) = closePieces pieces lines := by
  induction lines generalizing pieces with
  | nil => cases h
  | cons line rest ih =>
    rw [settles, Bool.or_eq_true, decide_eq_true_iff] at h
    rw [List.cons_append, closePieces_cons, closePieces_cons]
    by_cases hopen : balance (" ".intercalate (addPiece pieces line)) > 0
    · rw [if_pos hopen, if_pos hopen, ih (h.resolve_left (by omega))]
    · rw [if_neg hopen, if_neg hopen]

theorem Source.Line.Stops.join {first : Line} (h : first.Stops following) (later : List Line) :
    first.join (following ++ later) = first.join following := by
  rw [Line.join, Line.join]
  rcases h with hclosed | hsettles
  · rw [if_pos hclosed, if_pos hclosed]
  · rw [closePieces_of_settles hsettles]

theorem Line.join_count_le (first : Line) (following : List Line) :
    (first.join following).2 ≤ following.length := by
  rcases Line.join_cases first following with hjoin | ⟨_, _, _, hpieces, hcount, _, _⟩
  · rw [hjoin]
    exact Nat.zero_le _
  · rw [hcount]
    exact (closePieces_bounds hpieces).2

/-! ## Bodies that end -/

theorem bodyLength_le (indent : Nat) (lines : List Line) : bodyLength indent lines ≤ lines.length := by
  induction lines with
  | nil => exact Nat.le_refl 0
  | cons line rest ih =>
    rw [bodyLength, List.length_cons]
    split
    · split <;> omega
    · split <;> omega

/-- A body does not go on with lines that are no deeper than its header. -/
theorem bodyLength_append_of_dedents (h : Dedents indent later) (lines : List Line) :
    bodyLength indent (lines ++ later) = bodyLength indent lines := by
  induction lines with
  | nil => exact bodyLength_eq_zero h
  | cons line rest ih => rw [List.cons_append, bodyLength, bodyLength, ih]

/-- A paragraph in front of more lines. -/
def Paragraph.before (p : Paragraph) (later : List Line) : Paragraph :=
  { p with after := p.after ++ later }

theorem Paragraph.branch_before (block : List Line → List Item) (p : Paragraph) (later : List Line) :
    (p.before later).branch block = p.branch block := rfl

theorem Paragraph.cut_append {first : Line} (hstops : first.Stops following)
    (hdedents : Dedents first.indent later) :
    Paragraph.cut first (following ++ later) = (Paragraph.cut first following).before later := by
  have hafter : (following ++ later).drop (first.join following).2 =
      following.drop (first.join following).2 ++ later :=
    List.drop_append_of_le_length (Line.join_count_le first following)
  rw [Paragraph.cut, Paragraph.cut, hstops.join, hafter, Line.indent_join,
    bodyLength_append_of_dedents hdedents, List.take_append_of_le_length (bodyLength_le _ _)]
  rfl

theorem Paragraph.rest_before_cut (first : Line) (following later : List Line) :
    ((Paragraph.cut first following).before later).rest =
      (Paragraph.cut first following).rest ++ later := by
  have hbody : (Paragraph.cut first following).body.length ≤
      (Paragraph.cut first following).after.length := by
    rw [Paragraph.cut]
    exact List.length_take_le' _ _
  exact List.drop_append_of_le_length hbody

/-! ## Closed lines -/

/-- The lines behind a paragraph. -/
def HeaderKind.next : HeaderKind → Paragraph → List Line
  | .none, p => p.after
  | _, p => p.rest

/-- Where a chain that a header opens goes on. -/
def HeaderKind.chain : HeaderKind → Nat → Option Nat
  | .choose, indent => some indent
  | _, _ => Option.none

/-- Every statement that begins while the lines are read ends among them.  A chain of alternatives
that may go on has its indentation in `chain`. -/
inductive Closed (structured : Bool) : Option Nat → List Line → Prop where
  | nil {chain : Option Nat} : Closed structured chain []
  | silent {chain : Option Nat} {line : Line} {rest : List Line} : line.isSilent = true →
      Closed structured chain rest → Closed structured chain (line :: rest)
  | alternative {first : Line} {following : List Line} : first.isSilent = false →
      headWord first.code = "elif" → first.Stops following →
      Closed structured (some first.indent) (Paragraph.cut first following).rest →
      Closed structured (some first.indent) (first :: following)
  | lastResort {first : Line} {following : List Line} : first.isSilent = false →
      headWord first.code = "else" → first.Stops following →
      Closed structured none (Paragraph.cut first following).rest →
      Closed structured (some first.indent) (first :: following)
  | statement {chain : Option Nat} {first : Line} {following : List Line} {kind : HeaderKind} :
      first.isSilent = false → (∀ indent ∈ chain, EndsChain indent (first :: following)) →
      first.Stops following →
      HeaderKind.ofCode structured (Paragraph.cut first following).line.code = kind →
      Closed structured (kind.chain first.indent) (kind.next (Paragraph.cut first following)) →
      Closed structured chain (first :: following)

/-- Whether lines are closed, as far as this takes no more than `room` steps. -/
def closedWithin (structured : Bool) : Nat → Option Nat → List Line → Bool
  | 0, _, _ => false
  | _ + 1, _, [] => true
  | room + 1, chain, first :: following =>
    let p := Paragraph.cut first following
    let kind := HeaderKind.ofCode structured p.line.code
    if first.isSilent then closedWithin structured room chain following
    else if !decide (first.Stops following) then false
    else if chain == some first.indent && headWord first.code == "elif" then
      closedWithin structured room chain p.rest
    else if chain == some first.indent && headWord first.code == "else" then
      closedWithin structured room none p.rest
    else closedWithin structured room (kind.chain first.indent) (kind.next p)

theorem Closed.of_check (room : Nat) (h : closedWithin structured room chain lines = true) :
    Closed structured chain lines := by
  fun_induction closedWithin structured room chain lines with
  | case1 => cases h
  | case2 => exact .nil
  | case3 room chain first following hsilent ih => exact .silent hsilent (ih h)
  | case4 => cases h
  | case5 room chain first following p hsilent hstops helif ih =>
    obtain ⟨hchain, hword⟩ := Bool.and_eq_true_iff.mp helif
    obtain rfl := beq_iff_eq.mp hchain
    exact .alternative (by simpa using hsilent) (beq_iff_eq.mp hword) (by simpa using hstops) (ih h)
  | case6 room chain first following p hsilent hstops helif helse ih =>
    obtain ⟨hchain, hword⟩ := Bool.and_eq_true_iff.mp helse
    obtain rfl := beq_iff_eq.mp hchain
    exact .lastResort (by simpa using hsilent) (beq_iff_eq.mp hword) (by simpa using hstops) (ih h)
  | case7 room chain first following p kind hsilent hstops helif helse ih =>
    have hfirst : first.isSilent = false := by simpa using hsilent
    refine .statement hfirst (fun indent hindent line hline hindent' => ?_) (by simpa using hstops)
      rfl (ih h)
    rw [List.dropWhile_cons_of_neg hsilent, List.head?_cons] at hline
    cases hline
    obtain rfl := Option.mem_def.mp hindent
    simp_all [isAlternative]

/-- Only in the structured way there are chains. -/
theorem HeaderKind.structured_of_chain {structured : Bool} {code : String} {kind : HeaderKind}
    (hkind : HeaderKind.ofCode structured code = kind) {indent : Nat}
    (h : (kind.chain indent).isSome = true) : structured = true := by
  cases kind with
  | choose =>
    unfold HeaderKind.ofCode at hkind
    split at hkind
    · cases hkind
    · split at hkind
      · cases hkind
      · cases hkind
      · split at hkind
        · cases hkind
        · next hmode => simpa using hmode
  | _ => cases h

theorem HeaderKind.next_sublist (kind : HeaderKind) (first : Line) (following : List Line) :
    (kind.next (Paragraph.cut first following)).Sublist following := by
  refine List.Sublist.trans ?_ (Paragraph.after_cut_suffix first following).sublist
  cases kind
  case none => exact List.Sublist.refl _
  all_goals exact (Paragraph.rest_suffix _).sublist

/-- The lines `later` go on with nothing that may be open behind the lines before them. -/
structure Apart (structured : Bool) (lines later : List Line) : Prop where
  dedents : ∀ line ∈ lines, line.isSilent = false → Dedents line.indent later
  ends : structured = true → ∀ line ∈ (later.dropWhile Line.isSilent).head?,
    isAlternative line.code = false

theorem Apart.sublist (h : Apart structured lines later) (hsublist : lines'.Sublist lines) :
    Apart structured lines' later :=
  ⟨fun line hline => h.dedents line (hsublist.subset hline), h.ends⟩

/-- Lines in front of others are read by themselves. -/
def Divides (structured : Bool) (later lines : List Line) : Prop :=
  Item.ofLines structured (lines ++ later) =
    Item.ofLines structured lines ++ Item.ofLines structured later

/-- A chain at `indent` that may go on does so in the lines in front of others only. -/
structure ChainDivides (structured : Bool) (later : List Line) (indent : Nat) (lines : List Line) :
    Prop where
  rest : (alternatives indent (lines ++ later)).2 = (alternatives indent lines).2 ++ later
  branches (block : List Line → List Item) :
    (alternatives indent (lines ++ later)).1.map (Paragraph.branch block) =
      (alternatives indent lines).1.map (Paragraph.branch block)
  divides : Divides structured later (alternatives indent lines).2

/-- The same for lines behind which a chain may go on. -/
def DividesIn (structured : Bool) (later : List Line) : Option Nat → List Line → Prop
  | none => Divides structured later
  | some indent => ChainDivides structured later indent

theorem EndsChain.append (hfirst : first.isSilent = false) (h : EndsChain indent (first :: following)) :
    EndsChain indent (first :: following ++ later) := by
  unfold EndsChain at h ⊢
  rw [List.cons_append, List.dropWhile_cons_of_neg (by simp [hfirst])]
  rwa [List.dropWhile_cons_of_neg (by simp [hfirst])] at h

/-- A chain that does not go on. -/
theorem ChainDivides.of_ends (hends : EndsChain indent lines)
    (hends' : EndsChain indent (lines ++ later)) (h : Divides structured later lines) :
    ChainDivides structured later indent lines := by
  refine ⟨?_, fun block => ?_, ?_⟩
  · rw [hends.alternatives, hends'.alternatives]
  · rw [hends.alternatives, hends'.alternatives]
  · rwa [hends.alternatives]

theorem alternatives_cons (hfirst : first.isSilent = false) (hword : isAlternative first.code = true) :
    alternatives first.indent (first :: following) =
      if headWord first.code == "else" then
        ([Paragraph.cut first following], (Paragraph.cut first following).rest)
      else (Paragraph.cut first following ::
          (alternatives first.indent (Paragraph.cut first following).rest).1,
        (alternatives first.indent (Paragraph.cut first following).rest).2) := by
  have hhead : headWord (Paragraph.cut first following).line.code = headWord first.code :=
    Line.headWord_join first following
  rw [alternatives_eq_match, nextAlternative?_cons hfirst rfl hword]
  dsimp only
  rw [hhead]

/-- If no alternative follows, none of the lines is passed. -/
theorem alternatives_eq_nil (h : (alternatives indent lines).1 = []) :
    alternatives indent lines = ([], lines) := by
  rw [alternatives_eq_match] at h ⊢
  split at h
  · rfl
  · split at h <;> cases h

theorem alternatives_silent (hline : line.isSilent = true) (rest : List Line) :
    alternatives indent (line :: rest) =
      if (alternatives indent rest).1 = [] then ([], line :: rest) else alternatives indent rest := by
  have hnext : nextAlternative? indent (line :: rest) = nextAlternative? indent rest :=
    nextAlternative?_gap (List.forall_mem_singleton.mpr hline)
  rw [alternatives_eq_match, alternatives_eq_match indent rest, hnext]
  split
  · rw [if_pos rfl]
  · split <;> exact (if_neg (by simp)).symm

theorem Divides.silent {line : Line} (hline : line.isSilent = true) {lines : List Line}
    (h : Divides structured later lines) : Divides structured later (line :: lines) := by
  have hsilent (lines : List Line) :
      Item.ofLines structured (line :: lines) = Item.ofLines structured lines :=
    @Item.ofLines_silent structured [line] lines (by simpa using hline)
  unfold Divides at h ⊢
  rw [List.cons_append, hsilent, hsilent, h]

theorem ChainDivides.silent {indent : Nat} {line : Line} (hline : line.isSilent = true)
    {lines : List Line} (h : ChainDivides structured later indent lines) :
    ChainDivides structured later indent (line :: lines) := by
  have hempty : (alternatives indent (lines ++ later)).1 = [] ↔ (alternatives indent lines).1 = [] := by
    rw [← List.map_eq_nil_iff, h.branches (Item.ofLines structured), List.map_eq_nil_iff]
  have halone := @alternatives_silent indent line hline lines
  have hboth := @alternatives_silent indent line hline (lines ++ later)
  by_cases hnone : (alternatives indent lines).1 = []
  · rw [if_pos hnone] at halone
    rw [if_pos (hempty.mpr hnone)] at hboth
    have hdivides := h.divides
    rw [alternatives_eq_nil hnone] at hdivides
    refine ⟨?_, fun block => ?_, ?_⟩
    · rw [List.cons_append, halone, hboth]
      rfl
    · rw [List.cons_append, halone, hboth]
    · rw [halone]
      exact hdivides.silent hline
  · rw [if_neg hnone] at halone
    rw [if_neg (mt hempty.mp hnone)] at hboth
    refine ⟨?_, fun block => ?_, ?_⟩
    · rw [List.cons_append, halone, hboth, h.rest]
    · rw [List.cons_append, halone, hboth, h.branches]
    · rw [halone]
      exact h.divides

theorem Divides.statement {first : Line} {following : List Line} {kind : HeaderKind}
    (hfirst : first.isSilent = false) (hstops : first.Stops following)
    (hdedents : Dedents first.indent later)
    (hkind : HeaderKind.ofCode structured (Paragraph.cut first following).line.code = kind)
    (h : DividesIn structured later (kind.chain first.indent)
      (kind.next (Paragraph.cut first following))) :
    Divides structured later (first :: following) := by
  have hcut := Paragraph.cut_append hstops hdedents
  have hrest := Paragraph.rest_before_cut first following later
  generalize hp : Paragraph.cut first following = p at hkind h hcut hrest
  have hline : (p.before later).line = p.line := rfl
  have hshape (shape : Shape) (rest : List Line) (shape' : Shape)
      (halone : p.shape structured first.indent = (shape, rest))
      (hboth : (p.before later).shape structured first.indent = (shape', rest ++ later))
      (hitem : shape'.item (Item.ofLines structured) = shape.item (Item.ofLines structured))
      (hdivides : Divides structured later rest) : Divides structured later (first :: following) := by
    unfold Divides at hdivides ⊢
    rw [List.cons_append, Item.ofLines_cons structured hfirst, Item.ofLines_cons structured hfirst,
      hcut, hp, halone, hboth, hitem, hdivides, List.cons_append]
  unfold Paragraph.shape at hshape
  rw [hline, hrest, hkind] at hshape
  cases kind with
  | choose =>
    have hchain : ChainDivides structured later first.indent p.rest := h
    refine hshape _ _ _ rfl (Prod.ext rfl hchain.rest) ?_ hchain.divides
    rw [Shape.item, Shape.item, hchain.branches, Paragraph.branch_before]
  | _ => exact hshape _ _ _ rfl rfl rfl h

theorem Divides.nil : Divides structured later [] := by
  have hnil : Item.ofLines structured [] = [] := by rw [Item.ofLines_eq_map, shapes, List.map_nil]
  rw [Divides, hnil, List.nil_append, List.nil_append]

theorem Closed.divides (h : Closed structured chain lines) (hchain : chain.isSome → structured = true)
    (hapart : Apart structured lines later) : DividesIn structured later chain lines := by
  have hcutRest (first : Line) (following : List Line) :
      (Paragraph.cut first following).rest.Sublist (first :: following) :=
    ((Paragraph.rest_suffix _).trans (Paragraph.after_cut_suffix first following)).sublist.cons _
  induction h with
  | @nil chain =>
    cases chain with
    | none => exact Divides.nil
    | some indent =>
      have hends : EndsChain indent ([] ++ later) :=
        fun line hline _ => hapart.ends (hchain rfl) line hline
      exact ChainDivides.of_ends (by simp [EndsChain]) hends Divides.nil
  | @silent chain line rest hline _ ih =>
    have hdivides := ih hchain (hapart.sublist (List.sublist_cons_self line rest))
    cases chain with
    | none => exact Divides.silent hline hdivides
    | some indent => exact ChainDivides.silent hline hdivides
  | @alternative first following hfirst hword hstops _ ih =>
    have hdivides := ih hchain (hapart.sublist (hcutRest first following))
    have hcut := Paragraph.cut_append hstops (hapart.dedents first List.mem_cons_self hfirst)
    have halternative : isAlternative first.code = true := by simp [isAlternative, hword]
    have halone := @alternatives_cons first following hfirst halternative
    have hboth := @alternatives_cons first (following ++ later) hfirst halternative
    rw [hword, if_neg (by decide)] at halone hboth
    rw [hcut, Paragraph.rest_before_cut] at hboth
    generalize Paragraph.cut first following = p at hdivides halone hboth
    refine ⟨?_, fun block => ?_, ?_⟩
    · rw [List.cons_append, halone, hboth]
      exact hdivides.rest
    · rw [List.cons_append, halone, hboth, List.map_cons, List.map_cons, hdivides.branches,
        Paragraph.branch_before]
    · rw [halone]
      exact hdivides.divides
  | @lastResort first following hfirst hword hstops _ ih =>
    have hdivides := ih (by simp) (hapart.sublist (hcutRest first following))
    have hcut := Paragraph.cut_append hstops (hapart.dedents first List.mem_cons_self hfirst)
    have halternative : isAlternative first.code = true := by simp [isAlternative, hword]
    have halone := @alternatives_cons first following hfirst halternative
    have hboth := @alternatives_cons first (following ++ later) hfirst halternative
    rw [hword, if_pos (by decide)] at halone hboth
    rw [hcut, Paragraph.rest_before_cut] at hboth
    generalize Paragraph.cut first following = p at hdivides halone hboth
    refine ⟨?_, fun block => ?_, ?_⟩
    · rw [List.cons_append, halone, hboth]
    · rw [List.cons_append, halone, hboth, List.map_singleton, List.map_singleton,
        Paragraph.branch_before]
    · rw [halone]
      exact hdivides
  | @statement chain first following kind hfirst hends hstops hkind _ ih =>
    have hdedents := hapart.dedents first List.mem_cons_self hfirst
    have hnext := (HeaderKind.next_sublist kind first following).cons first
    have hdivides : Divides structured later (first :: following) :=
      .statement hfirst hstops hdedents hkind
        (ih (HeaderKind.structured_of_chain hkind) (hapart.sublist hnext))
    cases chain with
    | none => exact hdivides
    | some indent => exact .of_ends (hends indent rfl) ((hends indent rfl).append hfirst) hdivides

/-- The tree of closed lines and others is the one tree and the other. -/
theorem Closed.ofLines_append (h : Closed structured none lines) (hapart : Apart structured lines later) :
    Item.ofLines structured (lines ++ later) =
      Item.ofLines structured lines ++ Item.ofLines structured later :=
  h.divides (by simp) hapart

/-! ## Runs -/

theorem Progress.andThen_bind (progress : Progress) (next next' : Env → Run Progress) :
    (progress.andThen next >>= fun progress => progress.andThen next') =
      progress.andThen fun env => next env >>= fun progress => progress.andThen next' := by
  unfold Progress.andThen
  cases hreturned : progress.returned with
  | some value => simp only [pure_bind, hreturned]
  | none => rfl

/-- The items of two blocks, one after the other. -/
theorem runBlock_append (frame : Frame) (items later : List Item) (env : Env) :
    runBlock frame (items ++ later) env =
      runBlock frame items env >>= fun progress => progress.andThen (runBlock frame later) := by
  induction items generalizing env with
  | nil => rw [List.nil_append, runBlock, pure_bind]; rfl
  | cons item items ih =>
    have hcons (rest : List Item) : runBlock frame (item :: rest) env =
        countStatement frame.config >>= fun _ => runItem frame item env >>= fun progress =>
          progress.andThen (runBlock frame rest) := runBlock.eq_2 ..
    rw [List.cons_append, hcons, hcons, bind_assoc]
    refine bind_congr fun _ => ?_
    rw [bind_assoc]
    refine bind_congr fun progress => ?_
    rw [Progress.andThen_bind, funext ih]

/-- Behind a block that went on to its end, what follows is entered. -/
theorem enters_append (later : List Item)  (h : exec (runBlock frame items env) m = (.ok progress, m'))
    (hend : progress.returned = none) :
    Relation.ReflTransGen (Enters frame) (.block (items ++ later) env, m) (.block later progress.env, m')
      := by
  induction items generalizing env m with
  | nil =>
    rw [runBlock, exec_pure] at h
    cases h
    exact .refl
  | cons item items ih =>
    rw [runBlock] at h
    obtain ⟨_, m₁, hcount, h⟩ := exec_bind_eq_ok h
    obtain ⟨progress₁, m₂, hitem, h⟩ := exec_bind_eq_ok h
    cases hreturned : progress₁.returned with
    | some value =>
      rw [hreturned] at h
      cases h
      rw [hreturned] at hend
      cases hend
    | none =>
      rw [hreturned] at h
      exact .head (.rest hcount hitem hreturned) (ih h)

/-! ## Traces -/

/-- One trace opens another: its lines and steps come first there, and the steps lead to the same in
the stores of both. -/
structure Trace.Opens (trace trace' : Trace) : Prop where
  lines : trace.lines <+: trace'.lines
  steps : trace.steps.toList <+: trace'.steps.toList
  graph : ∀ step ∈ trace.steps.toList, trace.store.Kept trace'.store step.held

theorem Trace.body_prefix (trace : Trace) : trace.body <+: trace.steps.toList := by
  unfold Trace.body
  split
  · exact List.dropLast_prefix _
  · exact List.prefix_refl _

section

variable {config : Config} {source beginning : String} {trace : Trace} {later : List Item}

/-- If the first part of a program runs to its end, its trace opens that of the program. -/
theorem opens_of_block_ends (hlines : Line.all beginning <+: Line.all source)
    (hprogram : programOf config source = programOf config beginning ++ later)
    (htrace : Trace.ofSource config source = .ok trace)
    (hm : exec (runBlock (Frame.top config) (programOf config beginning) .empty) .start =
      (.ok progress, m)) (hend : progress.returned = none) : (m.trace beginning false).Opens trace := by
  have hmoment : Moment config (programOf config source) (.block later progress.env) m := by
    rw [hprogram]
    exact enters_append later hm hend
  obtain ⟨w, w', rfl, hgood, hw', hlater, hsound', hrecording', _⟩ := hmoment.worlds
  have hsound := hgood.fine.toSeparate
  have hrecording : w.silent = false := hlater.silent.symm.trans hrecording'
  obtain ⟨hbody, hkept⟩ := Trace.ofSource_body htrace hsound'.toSeparate hrecording' hw'
  have hsteps : w.machine.steps.toList <+: trace.body := hbody ▸ hlater.steps
  refine ⟨?_, hsteps.trans trace.body_prefix, fun step hstep => ?_⟩
  · obtain ⟨_, _, heq⟩ := Trace.ofSource_eq htrace
    rw [heq]
    exact hlines
  · obtain ⟨i, hi⟩ := List.mem_iff_getElem?.mp hstep
    rw [Array.getElem?_toList] at hi
    exact (hlater.kept_step hsound hrecording hi).trans (hkept step (hsteps.subset hstep))

/-- If the first part of a program ends the run, the program does no more than that. -/
theorem opens_of_same_run (hlines : Line.all beginning <+: Line.all source)
    (h : exec (runBlock (Frame.top config) (programOf config source) .empty) .start =
      exec (runBlock (Frame.top config) (programOf config beginning) .empty) .start)
    (htrace : Trace.ofSource config source = .ok trace) :
    ∃ trace', Trace.ofSource config beginning = .ok trace' ∧ trace'.Opens trace := by
  obtain ⟨m, hrun, heq⟩ := Trace.ofSource_eq htrace
  rw [exec_runProgram, h, ← exec_runProgram] at hrun
  refine ⟨_, Trace.ofSource_of_run hrun, ?_⟩
  rw [heq]
  exact ⟨hlines, List.prefix_refl _, fun _ _ => .refl _ _⟩

theorem Trace.ofSource_opens (hlines : Line.all beginning <+: Line.all source)
    (hprogram : programOf config source = programOf config beginning ++ later)
    (htrace : Trace.ofSource config source = .ok trace) :
    ∃ trace', Trace.ofSource config beginning = .ok trace' ∧ trace'.Opens trace := by
  have hboth := runBlock_append (Frame.top config) (programOf config beginning) later .empty
  rw [← hprogram] at hboth
  rcases hm : exec (runBlock (Frame.top config) (programOf config beginning) .empty) .start with
    ⟨failure | progress, m⟩
  · refine opens_of_same_run hlines ?_ htrace
    rw [hboth, exec_bind_error hm, hm]
  · cases hend : progress.returned with
    | some value =>
      refine opens_of_same_run hlines ?_ htrace
      rw [hboth, exec_bind_ok hm, hm, Progress.andThen, hend]
      rfl
    | none =>
      have hrun : exec (runProgram config (programOf config beginning)) .start = (.ok false, m) := by
        rw [exec_runProgram, hm]
      exact ⟨_, Trace.ofSource_of_run hrun, opens_of_block_ends hlines hprogram htrace hm hend⟩

end

/-- Lines that are closed and others that go on with nothing of them are run one after the other,
wherever they stand.  So the trace of a program opens that of every program that goes on from it. -/
theorem runs_in_sequence (structured : Bool) (lines later : List Line)
    (hclosed : Closed structured none lines) (hapart : Apart structured lines later) :
    (∀ (frame : Frame) (env : Env),
      runBlock frame (Item.ofLines structured (lines ++ later)) env =
        runBlock frame (Item.ofLines structured lines) env >>= fun progress =>
          progress.andThen (runBlock frame (Item.ofLines structured later))) ∧
    ∀ (config : Config) (source beginning : String) (rest : List Line) (trace : Trace),
      config.structured = structured → Line.all source = Line.all beginning ++ rest →
      expandInline (Line.all beginning) = lines → expandInline rest = later →
      Trace.ofSource config source = .ok trace →
      ∃ trace', Trace.ofSource config beginning = .ok trace' ∧ trace'.Opens trace := by
  have hitems := hclosed.ofLines_append hapart
  refine ⟨fun frame env => ?_, ?_⟩
  · rw [hitems, runBlock_append]
  · rintro config source beginning rest trace rfl hsource rfl rfl htrace
    have hprogram : programOf config source =
        programOf config beginning ++ Item.ofLines config.structured (expandInline rest) := by
      rw [programOf, programOf, ← hitems, hsource, expandInline, List.flatMap_append]
      rfl
    exact Trace.ofSource_opens (hsource ▸ List.prefix_append _ _) hprogram htrace

/-- A chain, a statement over two lines and a comment, in front of a statement. -/
def openingProgram : String :=
  "x = 2\nif x > 1:\n    y = [x,\n         3]\nelse: y = 0\n# shown"

theorem runs_in_sequence_opening :
    ∃ trace trace', Trace.ofSource { Config.usual with structured := true } openingProgram = .ok trace' ∧
      Trace.ofSource { Config.usual with structured := true } (openingProgram ++ "\nprint(y)") =
        .ok trace ∧ trace'.steps.size = 3 ∧ trace.steps.size = 4 ∧ trace'.Opens trace := by
  have hclosed : Closed true none (expandInline (Line.all openingProgram)) :=
    Closed.of_check 10 (by decide +kernel)
  have hapart : Apart true (expandInline (Line.all openingProgram))
      (expandInline [Line.ofText 6 "print(y)"]) := ⟨by decide +kernel, by decide +kernel⟩
  have hlines : Line.all (openingProgram ++ "\nprint(y)") =
      Line.all openingProgram ++ [Line.ofText 6 "print(y)"] := by decide +kernel
  have hwhole : (Trace.ofSource { Config.usual with structured := true }
      (openingProgram ++ "\nprint(y)")).toOption.any (·.steps.size == 4) = true := by decide +kernel
  have hopening : (Trace.ofSource { Config.usual with structured := true }
      openingProgram).toOption.any (·.steps.size == 3) = true := by decide +kernel
  obtain ⟨trace, htrace, hsize⟩ := Trace.exists_ofSource _ hwhole
  obtain ⟨trace', htrace', hsize'⟩ := Trace.exists_ofSource _ hopening
  obtain ⟨other, hother, hopens⟩ := (runs_in_sequence true _ _ hclosed hapart).2
    { Config.usual with structured := true } _ _ _ trace rfl hlines rfl rfl htrace
  rw [htrace'] at hother
  cases hother
  exact ⟨trace, trace', htrace', htrace, beq_iff_eq.mp hsize', beq_iff_eq.mp hsize, hopens⟩

end Walkthrough
