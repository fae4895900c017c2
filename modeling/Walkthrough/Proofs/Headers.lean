import Walkthrough.Proofs.TopLevel
import Walkthrough.Proofs.WellFormed

/-!
# What the lines of a program become

A line that does not end in a colon is a statement, and a statement at the top level has something to
record (`Statement.ofCode_cases`).  So every item of a program is proper (`programOf_proper`): it is
such a statement, or it stands on a header.  The blocks of a loop stand on the lines of its body.

Only lines with code on them become items.  The text of a line has no white space at its beginning,
and no comment takes its first character away.
-/

namespace Walkthrough

open Source Text

/-! ## Statements that act -/

section

variable {text : String} {statement : Statement}

/-- What a line that is no statement with something to record may be: a header without effect, or
that of a loop. -/
def IsIdleHeader (text : String) (statement : Statement) : Prop :=
  EndsInColon text ∧ (statement = .pass ∨ (Loop.ofHeader? text).isSome)

theorem PlainForm.acts (h : PlainForm text statement) :
    statement.Acts ∨ IsIdleHeader text statement := by
  cases h with
  | loop hcolon hloop => exact .inr ⟨hcolon, .inr (by simp [hloop])⟩
  | pass hcolon => exact .inr ⟨hcolon, .inl rfl⟩
  | _ => exact .inl trivial

/-- A call is no header. -/
theorem PlainForm.acts_of_call (h : PlainForm text statement) (hcall : opensWholeRest text rest = true) :
    statement.Acts :=
  h.acts.resolve_right fun hidle => not_endsInColon hcall hidle.1

/-- What the code of a line asks for has something to record, or the line is an idle header. -/
theorem Statement.ofCode_cases (hne : text.isEmpty = false) :
    (Statement.ofCode text).Acts ∨ IsIdleHeader text (Statement.ofCode text) := by
  have hform := Statement.ofCode_form text
  generalize Statement.ofCode text = statement at hform ⊢
  cases hform with
  | empty hempty => simp [hne] at hempty
  | operate _ _ _ hcall h =>
    cases h with
    | plain h | print _ _ h => exact .inl (h.acts_of_call hcall)
  | otherwise h =>
    cases h with
    | plain h => exact h.acts
    | print _ hcall h => exact .inl (h.acts_of_call hcall)
  | _ => exact .inl trivial

/-- Only a header introduces something. -/
theorem HeaderKind.endsInColon (structured : Bool) (h : HeaderKind.ofCode structured code ≠ .none) :
    EndsInColon code := by
  by_contra hcolon
  refine h ?_
  rw [HeaderKind.ofCode, if_pos (by simpa [EndsInColon] using hcolon)]

/-- A line that introduces nothing is a statement with something to record, or passed over. -/
theorem Statement.ofCode_simple (hne : text.isEmpty = false)
    (hkind : HeaderKind.ofCode structured text = .none) : (Statement.ofCode text).Acts
    ∨ EndsInColon text ∧ Statement.ofCode text = .pass := by
  rcases Statement.ofCode_cases hne with hacts | ⟨hcolon, hpass | hloop⟩
  · exact .inl hacts
  · exact .inr ⟨hcolon, hpass⟩
  · obtain ⟨header, hheader⟩ := Option.isSome_iff_exists.mp hloop
    have hlast : text.toList.getLast? = some ':' := hcolon
    rw [HeaderKind.ofCode, if_neg (by simp [hlast]), hheader] at hkind
    cases hkind

end

/-! ## Lines with code -/

/-- A text that does not begin with white space. -/
def Solid (cs : List Char) : Prop :=
  ∀ c ∈ cs.head?, isBlank c = false

theorem Solid.of_isPrefix (h : Solid cs) (hbegin : begin <+: cs) : Solid begin := by
  intro c hc
  obtain ⟨rest, rfl⟩ := hbegin
  cases begin with
  | nil => cases hc
  | cons d begin => exact h c hc

theorem solid_dropWhile (cs : List Char) : Solid (cs.dropWhile isBlank) := by
  intro c hc
  rw [← List.find?_not_eq_head?_dropWhile] at hc
  simpa using List.find?_some hc

theorem dropEndWhile_isPrefix (p : Char → Bool) (cs : List Char) : dropEndWhile p cs <+: cs := by
  obtain ⟨dropped, heq, _⟩ := dropEndWhile_append p cs
  exact ⟨dropped, heq.symm⟩

theorem solid_strip (text : String) : Solid (strip text).toList := by
  rw [strip, String.toList_ofList, dropBothWhile]
  exact (solid_dropWhile text.toList).of_isPrefix (dropEndWhile_isPrefix _ _)

theorem stripComment_isPrefix (text : String) : (stripComment text).toList <+: text.toList := by
  unfold stripComment
  split
  · next code h =>
    rw [String.toList_ofList]
    exact (dropEndWhile_isPrefix _ _).trans (beforeComment?_isPrefix h)
  · exact List.prefix_rfl

/-- A line whose text does not begin with white space. -/
def SolidLine (line : Line) : Prop :=
  Solid line.trimmed.toList

theorem Line.solid_splitInline (h : SolidLine line) (hsplit : line.splitInline? = some (header, body)) :
    SolidLine header ∧ SolidLine body := by
  obtain ⟨_, _, hsplit⟩ := Option.bind_eq_some_iff.mp hsplit
  obtain ⟨_, _, hsplit⟩ := Option.bind_eq_some_iff.mp hsplit
  obtain ⟨colon, _, hsplit⟩ := Option.bind_eq_some_iff.mp hsplit
  obtain ⟨_, _, hsplit⟩ := Option.bind_eq_some_iff.mp hsplit
  cases hsplit
  constructor
  · rw [SolidLine, String.toList_ofList]
    exact h.of_isPrefix ((List.take_prefix _ _).trans (stripComment_isPrefix line.trimmed))
  · exact solid_strip _

theorem Line.solid_of_mem (h : line ∈ expandInline (Line.all source)) : SolidLine line := by
  obtain ⟨origin, horigin, hline⟩ := List.mem_flatMap.mp h
  have hsolid : SolidLine origin := by
    obtain ⟨index, hindex, rfl⟩ := List.mem_mapIdx.mp horigin
    exact solid_strip _
  split at hline
  · next header body hsplit =>
    obtain ⟨hheader, hbody⟩ := Line.solid_splitInline hsolid hsplit
    rcases List.mem_pair.mp hline with rfl | rfl
    · exact hheader
    · exact hbody
  · rwa [List.mem_singleton.mp hline]

/-- The code of a line that is not silent begins with the first character of the line. -/
theorem Line.code_cons (hsolid : SolidLine line) (hsilent : line.isSilent = false) :
    ∃ c rest, line.code.toList = c :: rest ∧ isBlank c = false := by
  obtain ⟨hne, hcomment⟩ := Bool.or_eq_false_iff.mp hsilent
  rw [Line.code, stripComment]
  generalize htext : line.trimmed.toList = cs
  cases cs with
  | nil =>
    rw [String.toList_eq_nil_iff] at htext
    simp [htext] at hne
  | cons c rest =>
    have hblank : isBlank c = false := hsolid c (by rw [htext]; rfl)
    have hc : c ≠ '#' := by
      intro hc
      rw [← Bool.not_eq_true, String.startsWith_string_iff, htext, hc] at hcomment
      simp at hcomment
    rw [beforeComment?, if_neg (by simp [hc])]
    cases beforeComment? (Mode.code.next c) rest with
    | none => exact ⟨c, rest, htext, hblank⟩
    | some code =>
      obtain ⟨dropped, heq, hdropped⟩ := dropEndWhile_append isBlank (c :: code)
      simp only [Option.map_some, String.toList_ofList]
      cases hkept : dropEndWhile isBlank (c :: code) with
      | nil =>
        rw [hkept, List.nil_append] at heq
        have := hdropped c (by rw [← heq]; simp)
        simp [hblank] at this
      | cons d kept =>
        rw [hkept, List.cons_append] at heq
        cases heq
        exact ⟨c, kept, rfl, hblank⟩

/-- A statement that begins on a line with code has code. -/
theorem Line.code_join_isEmpty (hsolid : SolidLine first) (hsilent : first.isSilent = false)
    (following : List Line) : (first.join following).1.code.isEmpty = false := by
  obtain ⟨c, rest, hcode, hblank⟩ := Line.code_cons hsolid hsilent
  have hword : firstWord (first.join following).1.code = firstWord first.code :=
    Line.firstWord_join first following
  by_contra hempty
  rw [Bool.not_eq_false, String.isEmpty_iff] at hempty
  rw [hempty, firstWord_eq, firstWord_eq, hcode] at hword
  have hlists := congrArg String.toList hword
  simp [leadingWord, hblank] at hlists

/-! ## Items -/

/-- The line of an alternative. -/
def Branch.line : Branch → Line
  | .mk line _ _ => line

/-- The line where an item begins. -/
def Item.line : Item → Line
  | .simple line _ | .loop line _ _ _ | .define line _ _ _ | .repeat line _ _ | .skip line => line
  | .choose first _ => first.line

mutual

/-- An item as it is read from a program: a statement with something to record, or a header.  The
block of a loop stands on the lines of its body. -/
def Item.Proper : Item → Prop
  | .simple line statement => statement.Acts ∨ EndsInColon line.code ∧ statement = .pass
  | .loop line _ body block =>
    EndsInColon line.code ∧ LinesIn (· ∈ body.map (·.index)) (Item.linesOf block) ∧
      Item.AllProper block
  | .define line _ _ _ => EndsInColon line.code
  | .choose first rest => EndsInColon first.line.code ∧ first.Proper ∧ Branch.AllProper rest
  | .repeat line _ block => EndsInColon line.code ∧ Item.AllProper block
  | .skip line => EndsInColon line.code

def Item.AllProper : List Item → Prop
  | [] => True
  | item :: rest => item.Proper ∧ Item.AllProper rest

def Branch.Proper : Branch → Prop
  | .mk _ _ block => Item.AllProper block

def Branch.AllProper : List Branch → Prop
  | [] => True
  | branch :: rest => branch.Proper ∧ Branch.AllProper rest

end

theorem Item.allProper_iff : Item.AllProper items ↔ ∀ item ∈ items, item.Proper := by
  induction items with
  | nil => simp [Item.AllProper]
  | cons item rest ih => rw [Item.AllProper, List.forall_mem_cons, ih]

theorem Branch.allProper_iff : Branch.AllProper branches ↔ ∀ branch ∈ branches, branch.Proper := by
  induction branches with
  | nil => simp [Branch.AllProper]
  | cons branch rest ih => rw [Branch.AllProper, List.forall_mem_cons, ih]

/-- An item that stands on no header is a statement with something to record. -/
theorem Item.Proper.simple {item : Item} (h : item.Proper) (hcolon : ¬ EndsInColon item.line.code) :
    ∃ line statement, item = .simple line statement ∧ statement.Acts := by
  cases item with
  | simple line statement =>
    rw [Item.Proper] at h
    exact ⟨line, statement, rfl, h.resolve_right fun hpass => hcolon hpass.1⟩
  | loop line header body block =>
    rw [Item.Proper] at h
    exact absurd h.1 hcolon
  | define line definition body block =>
    rw [Item.Proper] at h
    exact absurd h hcolon
  | choose first rest =>
    rw [Item.Proper] at h
    exact absurd h.1 hcolon
  | «repeat» line condition block =>
    rw [Item.Proper] at h
    exact absurd h.1 hcolon
  | skip line =>
    rw [Item.Proper] at h
    exact absurd h hcolon

/-! ### Items that are read -/

/-- A shape stands on a header, or on a line of code that introduces nothing. -/
inductive Shape.Stands (structured : Bool) : Shape → Prop where
  | simple {line : Line} : line.code.isEmpty = false →
      HeaderKind.ofCode structured line.code = .none → Shape.Stands structured (.simple line)
  | loop {header : Loop} {p : Paragraph} : EndsInColon p.line.code →
      Shape.Stands structured (.loop header p)
  | define {definition : Definition} {p : Paragraph} : EndsInColon p.line.code →
      Shape.Stands structured (.define definition p)
  | choose {first : Paragraph} {rest : List Paragraph} : EndsInColon first.line.code →
      Shape.Stands structured (.choose first rest)
  | repeat {p : Paragraph} : EndsInColon p.line.code → Shape.Stands structured (.repeat p)
  | skip {line : Line} : EndsInColon line.code → Shape.Stands structured (.skip line)

theorem Paragraph.shape_stands {p : Paragraph} (hcode : p.line.code.isEmpty = false)
    (structured : Bool) (indent : Nat) : (p.shape structured indent).1.Stands structured := by
  have hheader {kind : HeaderKind} (hkind : HeaderKind.ofCode structured p.line.code = kind)
      (hne : kind ≠ .none) : EndsInColon p.line.code :=
    HeaderKind.endsInColon structured (hkind ▸ hne)
  unfold Paragraph.shape
  split
  · next hkind => exact .simple hcode hkind
  · next hkind => exact .loop (hheader hkind nofun)
  · next hkind => exact .define (hheader hkind nofun)
  · next hkind => exact .repeat (hheader hkind nofun)
  · next hkind => exact .skip (hheader hkind nofun)
  · next hkind => exact .choose (hheader hkind nofun)

theorem Shape.item_proper {structured : Bool} {shape : Shape} (hstands : shape.Stands structured)
    (hblock : ∀ p ∈ shape.paragraphs, Item.AllProper (block p.body) ∧
      LinesIn (· ∈ p.body.map (·.index)) (Item.linesOf (block p.body))) : (shape.item block).Proper := by
  have hbranch {p : Paragraph} (hp : p ∈ shape.paragraphs) : (p.branch block).Proper := by
    exact (hblock p hp).1
  cases hstands with
  | simple hcode hkind =>
    exact Statement.ofCode_simple hcode hkind
  | @loop header p hcolon =>
    obtain ⟨hproper, hlines⟩ := hblock p (by simp [Shape.paragraphs])
    exact ⟨hcolon, hlines, hproper⟩
  | define hcolon =>
    exact hcolon
  | choose hcolon =>
    rw [Shape.item, Item.Proper, Branch.allProper_iff]
    refine ⟨hcolon, hbranch (by simp [Shape.paragraphs]), fun branch hmem => ?_⟩
    obtain ⟨p, hp, rfl⟩ := List.mem_map.mp hmem
    exact hbranch (by simp [Shape.paragraphs, hp])
  | @«repeat» p hcolon =>
    exact ⟨hcolon, (hblock p (by simp [Shape.paragraphs])).1⟩
  | skip hcolon =>
    exact hcolon

theorem ofDepth_proper (structured : Bool) (depth : Nat) {lines : List Line}
    (h : ∀ line ∈ lines, SolidLine line) : Item.AllProper (Item.ofDepth structured depth lines) := by
  induction depth generalizing lines with
  | zero =>
    trivial
  | succ depth ih =>
    rw [Item.ofDepth_succ, Item.allProper_iff]
    intro item hitem
    obtain ⟨shape, hshape, rfl⟩ := List.mem_map.mp hitem
    have hstands : shape.Stands structured := by
      obtain ⟨first, following, hsuffix, hsilent, heq⟩ := mem_shapes hshape
      have hsolid : SolidLine first := h first (hsuffix.subset (by simp))
      have hcode : (Paragraph.cut first following).line.code.isEmpty = false := by
        exact Line.code_join_isEmpty hsolid hsilent following
      rw [heq]
      exact Paragraph.shape_stands hcode _ _
    refine Shape.item_proper hstands fun p hp => ⟨ih ?_, ?_⟩
    · obtain ⟨first, following, hsuffix, hbody⟩ := body_sublist_of_mem_shapes hshape hp
      intro line hline
      exact h line (hsuffix.subset (List.mem_cons_of_mem _ (hbody.subset hline)))
    · exact ofDepth_in structured depth fun line hline => List.mem_map_of_mem hline

/-- The items of a program are proper. -/
theorem programOf_proper (config : Config) (source : String) :
    Item.AllProper (programOf config source) :=
  ofDepth_proper config.structured _ fun _ hline => Line.solid_of_mem hline

end Walkthrough
