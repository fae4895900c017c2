import Mathlib.Data.List.TakeWhile
import Mathlib.Tactic.Common
import Walkthrough.Block.Basic

/-!
# The layout of blocks

How the lines of a program fall into headers, the lines that continue them, and bodies.

* `Item.ofLines_cons`: the tree of a list of lines begins with the item of its first line, the blocks
  of which are trees of their bodies.  The bound on the depth in the definition plays no role.
* `bodyLength_append`: a body reaches as far as the lines are indented deeper.
* `Line.headWord_join`: a header that goes over several lines begins with the word on its first line.
* `Stanza`: a header written out with the silent lines above it, the lines that continue it and its
  body; `Stanza.Fits` says that it ends where other lines begin.
-/

namespace Walkthrough

open Text Source

variable {shape : Shape} {indent : Nat} {p : Paragraph} {structured : Bool} {cs code : List Char}

/-! ## The tree of a list of lines -/

/-- The alternative that a paragraph is, with its block. -/
def Paragraph.branch (block : List Line → List Item) (p : Paragraph) : Branch :=
  .mk p.line (if headWord p.line.code == "else" then none else some (Condition.ofText p.line.code))
    (block p.body)

/-- The item of a shape, given the blocks of its bodies. -/
def Shape.item (block : List Line → List Item) : Shape → Item
  | .simple line => .simple line (Statement.ofCode line.code)
  | .loop header p => .loop p.line header p.body (block p.body)
  | .define definition p => .define p.line definition p.body (block p.body)
  | .choose first rest => .choose (first.branch block) (rest.map (Paragraph.branch block))
  | .repeat p => .repeat p.line (Condition.ofText p.line.code) (block p.body)
  | .skip line => .skip line

/-- The paragraphs of a shape, each of which has a body. -/
def Shape.paragraphs : Shape → List Paragraph
  | .simple _ | .skip _ => []
  | .loop _ p | .define _ p | .repeat p => [p]
  | .choose first rest => first :: rest

theorem Item.ofDepth_succ (structured : Bool) (depth : Nat) (lines : List Line) :
    Item.ofDepth structured (depth + 1) lines =
      (shapes structured lines).map (Shape.item (Item.ofDepth structured depth)) := by
  refine List.map_congr_left fun shape _ => ?_
  cases shape <;> rfl

theorem Shape.item_congr (h : ∀ p ∈ shape.paragraphs, block p.body = block' p.body) :
    shape.item block = shape.item block' := by
  have hbranch {p : Paragraph} (hp : block p.body = block' p.body) :
      p.branch block = p.branch block' := by
    rw [Paragraph.branch, Paragraph.branch, hp]
  cases shape with
  | simple line => rfl
  | skip line => rfl
  | loop header p => rw [Shape.item, Shape.item, h p (by simp [Shape.paragraphs])]
  | define definition p => rw [Shape.item, Shape.item, h p (by simp [Shape.paragraphs])]
  | «repeat» p => rw [Shape.item, Shape.item, h p (by simp [Shape.paragraphs])]
  | choose first rest =>
    obtain ⟨hfirst, hrest⟩ := List.forall_mem_cons.mp h
    rw [Shape.item, Shape.item, hbranch hfirst]
    congr 1
    exact List.map_congr_left fun p hp => hbranch (hrest p hp)

/-! ### Bodies are part of the lists they stand in -/

theorem Paragraph.rest_suffix (p : Paragraph) : p.rest <:+ p.after :=
  List.drop_suffix _ _

theorem Paragraph.after_cut_suffix (first : Line) (following : List Line) :
    (Paragraph.cut first following).after <:+ following :=
  List.drop_suffix _ _

theorem Paragraph.body_cut_sublist (first : Line) (following : List Line) :
    (Paragraph.cut first following).body.Sublist following :=
  (List.take_sublist _ _).trans (List.drop_sublist _ _)

theorem nextAlternative?_sublist (h : nextAlternative? indent lines = some p) :
    p.body.Sublist lines ∧ p.rest <:+ lines := by
  unfold nextAlternative? at h
  split at h
  · contradiction
  · next first following heq =>
    have hfollowing : following <:+ lines :=
      (List.suffix_cons first following).trans (heq ▸ List.dropWhile_suffix _)
    split at h
    · cases h
      exact ⟨(Paragraph.body_cut_sublist first following).trans hfollowing.sublist,
        ((Paragraph.rest_suffix _).trans (Paragraph.after_cut_suffix first following)).trans
          hfollowing⟩
    · contradiction

theorem alternatives_sublist (indent : Nat) (lines : List Line) :
    (∀ p ∈ (alternatives indent lines).1, p.body.Sublist lines) ∧
      (alternatives indent lines).2 <:+ lines := by
  fun_induction alternatives indent lines with
  | case1 => exact ⟨List.forall_mem_nil _, List.suffix_rfl⟩
  | case2 lines p h _ _ =>
    obtain ⟨hbody, hrest⟩ := nextAlternative?_sublist h
    exact ⟨fun q hq => List.mem_singleton.mp hq ▸ hbody, hrest⟩
  | case3 lines p h _ _ later ih =>
    obtain ⟨hbody, hrest⟩ := nextAlternative?_sublist h
    refine ⟨fun q hq => ?_, ih.2.trans hrest⟩
    rcases List.mem_cons.mp hq with rfl | hq
    · exact hbody
    · exact (ih.1 q hq).trans hrest.sublist

theorem Paragraph.shape_suffix (structured : Bool) (indent : Nat) (p : Paragraph) :
    (p.shape structured indent).2 <:+ p.after := by
  unfold Paragraph.shape
  split
  · exact List.suffix_rfl
  · exact p.rest_suffix
  · exact p.rest_suffix
  · exact p.rest_suffix
  · exact p.rest_suffix
  · exact (alternatives_sublist indent p.rest).2.trans p.rest_suffix

/-- Every shape is that of a paragraph which begins on a line that is not silent. -/
theorem mem_shapes (h : shape ∈ shapes structured lines) :
    ∃ first following, first :: following <:+ lines ∧ first.isSilent = false ∧
      shape = ((Paragraph.cut first following).shape structured first.indent).1 := by
  fun_induction shapes structured lines with
  | case1 => cases h
  | case2 line rest _ ih =>
    obtain ⟨first, following, hsuffix, hfirst⟩ := ih h
    exact ⟨first, following, hsuffix.trans (List.suffix_cons _ _), hfirst⟩
  | case3 line rest hline next ih =>
    rcases List.mem_cons.mp h with heq | h
    · exact ⟨line, rest, List.suffix_rfl, by simpa using hline, heq⟩
    · have hnext : next.2 <:+ line :: rest :=
        ((Paragraph.shape_suffix structured line.indent _).trans
          (Paragraph.after_cut_suffix line rest)).trans (List.suffix_cons _ _)
      obtain ⟨first, following, hsuffix, hfirst⟩ := ih h
      exact ⟨first, following, hsuffix.trans hnext, hfirst⟩

theorem Paragraph.mem_paragraphs_shape (h : q ∈ (p.shape structured indent).1.paragraphs) :
    q = p ∨ q ∈ (alternatives indent p.rest).1 := by
  unfold Paragraph.shape at h
  split at h
  · cases h
  · exact .inl (List.mem_singleton.mp h)
  · exact .inl (List.mem_singleton.mp h)
  · exact .inl (List.mem_singleton.mp h)
  · cases h
  · exact List.mem_cons.mp h

/-- The bodies of a shape stand behind its first line. -/
theorem body_sublist_of_mem_shapes (hshape : shape ∈ shapes structured lines) (hp : p ∈ shape.paragraphs)
    : ∃ first following, first :: following <:+ lines ∧ p.body.Sublist following := by
  obtain ⟨first, following, hsuffix, _, hcut⟩ := mem_shapes hshape
  refine ⟨first, following, hsuffix, ?_⟩
  rw [hcut] at hp
  rcases Paragraph.mem_paragraphs_shape hp with heq | hp
  · rw [heq]
    exact Paragraph.body_cut_sublist first following
  · have hrest : (Paragraph.cut first following).rest <:+ following :=
      (Paragraph.rest_suffix _).trans (Paragraph.after_cut_suffix first following)
    exact ((alternatives_sublist _ _).1 p hp).trans hrest.sublist

theorem length_body_shapes (hshape : shape ∈ shapes structured lines) (hp : p ∈ shape.paragraphs) :
    p.body.length < lines.length := by
  obtain ⟨first, following, hsuffix, hbody⟩ := body_sublist_of_mem_shapes hshape hp
  have hfollowing := hsuffix.length_le
  have hshorter := hbody.length_le
  rw [List.length_cons] at hfollowing
  omega

/-- Every depth beyond the number of lines gives the same tree. -/
theorem Item.ofDepth_eq (h : lines.length < depth) (h' : lines.length < depth') :
    Item.ofDepth structured depth lines = Item.ofDepth structured depth' lines := by
  induction depth generalizing lines depth' with
  | zero => omega
  | succ depth ih =>
    cases depth' with
    | zero => omega
    | succ depth' =>
      refine List.map_congr_left fun shape hshape => Shape.item_congr fun p hp => ?_
      have hlt := length_body_shapes hshape hp
      exact ih (by omega) (by omega)

theorem Item.ofLines_eq_map (structured : Bool) (lines : List Line) :
    Item.ofLines structured lines =
      (shapes structured lines).map (Shape.item (Item.ofLines structured)) := by
  refine List.map_congr_left fun shape hshape => Shape.item_congr fun p hp => ?_
  have hlt := length_body_shapes hshape hp
  exact Item.ofDepth_eq hlt (Nat.lt_succ_self _)

/-- Silent lines at the beginning are passed over. -/
theorem Item.ofLines_silent (structured : Bool) {gap lines : List Line}
    (hgap : ∀ line ∈ gap, line.isSilent) :
    Item.ofLines structured (gap ++ lines) = Item.ofLines structured lines := by
  induction gap with
  | nil => rfl
  | cons line gap ih =>
    obtain ⟨hline, hgap⟩ := List.forall_mem_cons.mp hgap
    rw [List.cons_append, Item.ofLines_eq_map, shapes, if_pos hline, ← Item.ofLines_eq_map, ih hgap]

/-- The tree of a list of lines begins with the item of its first line. -/
theorem Item.ofLines_cons (structured : Bool) (hfirst : first.isSilent = false) :
    Item.ofLines structured (first :: following) =
      ((Paragraph.cut first following).shape structured first.indent).1.item (Item.ofLines structured) ::
        Item.ofLines structured ((Paragraph.cut first following).shape structured first.indent).2 := by
  rw [Item.ofLines_eq_map, shapes, if_neg (by simp [hfirst]), List.map_cons, ← Item.ofLines_eq_map]

/-! ## Where a body ends -/

/-- The first line that is not silent, if there is one, is no deeper than `indent`. -/
def Dedents (indent : Nat) (lines : List Line) : Prop :=
  ∀ line ∈ (lines.dropWhile Line.isSilent).head?, line.indent ≤ indent

instance (indent : Nat) (lines : List Line) : Decidable (Dedents indent lines) :=
  inferInstanceAs (Decidable (∀ line ∈ (lines.dropWhile Line.isSilent).head?, line.indent ≤ indent))

theorem bodyLength_eq_zero (h : Dedents indent lines) : bodyLength indent lines = 0 := by
  induction lines with
  | nil => rfl
  | cons line rest ih =>
    rw [bodyLength]
    by_cases hsilent : line.isSilent
    · have hrest : Dedents indent rest := by
        unfold Dedents at h
        rwa [List.dropWhile_cons_of_pos hsilent] at h
      rw [if_pos hsilent, ih hrest]
    · have hindent : line.indent ≤ indent := by
        unfold Dedents at h
        rw [List.dropWhile_cons_of_neg hsilent] at h
        exact h line rfl
      rw [if_neg hsilent, if_pos hindent]

/-- The body of a header is what is indented deeper, up to its last line of code. -/
theorem bodyLength_append (hdeeper : ∀ line ∈ body, line.isSilent ∨ indent < line.indent)
    (hlast : ∀ line ∈ body.getLast?, line.isSilent = false) (hlater : Dedents indent later) :
    bodyLength indent (body ++ later) = body.length := by
  induction body with
  | nil => exact bodyLength_eq_zero hlater
  | cons line body ih =>
    obtain ⟨hline, hdeeper⟩ := List.forall_mem_cons.mp hdeeper
    rw [List.cons_append, bodyLength]
    cases body with
    | nil =>
      have hcode : line.isSilent = false := hlast line rfl
      have hindent : indent < line.indent := hline.resolve_left (by simp [hcode])
      rw [if_neg (by simp [hcode]), if_neg (by omega), List.nil_append, bodyLength_eq_zero hlater]
      rfl
    | cons second body =>
      have hrest : bodyLength indent (second :: body ++ later) = (second :: body).length :=
        ih hdeeper (by simpa [List.getLast?_cons_cons] using hlast)
      rw [hrest]
      by_cases hsilent : line.isSilent
      · rw [if_pos hsilent]
        rfl
      · have hindent : indent < line.indent := hline.resolve_left hsilent
        rw [if_neg hsilent, if_neg (by omega)]
        rfl

/-! ## The first word of a header -/

/-- The characters up to the first white space, once that at the beginning is gone. -/
def leadingWord (cs : List Char) : List Char :=
  (cs.dropWhile isBlank).takeWhile (!isBlank ·)

theorem firstWord_eq (text : String) : firstWord text = String.ofList (leadingWord text.toList) := rfl

/-- What stands behind white space does not matter. -/
theorem leadingWord_append (hcs : ∃ c ∈ cs, isBlank c = false) (htail : ∀ c ∈ tail.head?, isBlank c) :
    leadingWord (cs ++ tail) = leadingWord cs := by
  have hrest : cs.dropWhile isBlank ≠ [] := by
    intro h
    obtain ⟨c, hc, hblank⟩ := hcs
    have := List.dropWhile_eq_nil_iff.mp h c hc
    simp [hblank] at this
  have hstop : tail.takeWhile (!isBlank ·) = [] := by
    cases tail with
    | nil => rfl
    | cons c tail => exact List.takeWhile_cons_of_neg (by simp [htail c rfl])
  rw [leadingWord, leadingWord, List.dropWhile_append, if_neg (by simpa using hrest),
    List.takeWhile_append, hstop, List.append_nil]
  split
  · next hlength => exact (List.takeWhile_prefix _).eq_of_length hlength |>.symm
  · rfl

/-- What is dropped at the end. -/
theorem dropEndWhile_append (p : Char → Bool) (cs : List Char) :
    ∃ dropped, cs = dropEndWhile p cs ++ dropped ∧ ∀ c ∈ dropped, p c := by
  induction cs with
  | nil => exact ⟨[], rfl, nofun⟩
  | cons c cs ih =>
    obtain ⟨dropped, hcs, hdropped⟩ := ih
    have hcons : dropEndWhile p (c :: cs) =
        if (dropEndWhile p cs).isEmpty && p c then [] else c :: dropEndWhile p cs := rfl
    rw [hcons]
    split
    · next h =>
      obtain ⟨hempty, hc⟩ := Bool.and_eq_true_iff.mp h
      rw [List.isEmpty_iff.mp hempty, List.nil_append] at hcs
      rw [hcs]
      exact ⟨c :: dropped, rfl, List.forall_mem_cons.mpr ⟨hc, hdropped⟩⟩
    · refine ⟨dropped, ?_, hdropped⟩
      rw [List.cons_append, ← hcs]

theorem leadingWord_dropEndWhile (hcs : ∃ c ∈ cs, isBlank c = false) :
    leadingWord (dropEndWhile isBlank cs) = leadingWord cs := by
  obtain ⟨dropped, heq, hdropped⟩ := dropEndWhile_append isBlank cs
  have hkept : ∃ c ∈ dropEndWhile isBlank cs, isBlank c = false := by
    obtain ⟨c, hc, hblank⟩ := hcs
    rw [heq] at hc
    rcases List.mem_append.mp hc with hc | hc
    · exact ⟨c, hc, hblank⟩
    · simp [hdropped c hc] at hblank
  conv_rhs => rw [heq]
  refine (leadingWord_append hkept fun c hc => hdropped c ?_).symm
  exact List.mem_of_mem_head? hc

/-! ### Comments -/

theorem beforeComment?_append (h : beforeComment? mode cs = none) (tail : List Char) :
    ∃ mode', beforeComment? mode (cs ++ tail) = (beforeComment? mode' tail).map (cs ++ ·) := by
  induction cs generalizing mode with
  | nil => exact ⟨mode, by simp⟩
  | cons c cs ih =>
    rw [beforeComment?] at h
    split at h
    · contradiction
    · next hc =>
      obtain ⟨mode', heq⟩ := ih (Option.map_eq_none_iff.mp h)
      refine ⟨mode', ?_⟩
      rw [List.cons_append, beforeComment?, if_neg hc, heq, Option.map_map]
      rfl

theorem beforeComment?_isPrefix (h : beforeComment? mode cs = some code) : code <+: cs := by
  induction cs generalizing mode code with
  | nil => cases h
  | cons c cs ih =>
    rw [beforeComment?] at h
    split at h
    · cases h
      exact List.nil_prefix
    · obtain ⟨rest, hrest, rfl⟩ := Option.map_eq_some_iff.mp h
      exact List.cons_prefix_cons.mpr ⟨rfl, ih hrest⟩

/-- Before a comment there is no other. -/
theorem beforeComment?_eq_none (h : beforeComment? mode cs = some code) (hbegin : begin <+: code) :
    beforeComment? mode begin = none := by
  induction cs generalizing mode code begin with
  | nil => cases h
  | cons c cs ih =>
    rw [beforeComment?] at h
    split at h
    · cases h
      rw [List.prefix_nil.mp hbegin, beforeComment?]
    · next hc =>
      obtain ⟨rest, hrest, rfl⟩ := Option.map_eq_some_iff.mp h
      cases begin with
      | nil => rw [beforeComment?]
      | cons d begin =>
        obtain ⟨rfl, hrest'⟩ := List.cons_prefix_cons.mp hbegin
        rw [beforeComment?, if_neg hc, ih hrest hrest', Option.map_none]

/-- Code has no comment. -/
theorem beforeComment?_stripComment (text : String) :
    beforeComment? .code (stripComment text).toList = none := by
  unfold stripComment
  split
  · next code h =>
    obtain ⟨dropped, heq, _⟩ := dropEndWhile_append isBlank code
    rw [String.toList_ofList]
    refine beforeComment?_eq_none h ?_
    conv_rhs => rw [heq]
    exact List.prefix_append _ _
  · next h => exact h

/-- The first word of code is not touched by what is written behind it. -/
theorem leadingWord_stripComment (htext : text.toList = code ++ tail)
    (hcode : beforeComment? .code code = none) (hsome : ∃ c ∈ code, isBlank c = false)
    (htail : ∀ c ∈ tail.head?, isBlank c) :
    leadingWord (stripComment text).toList = leadingWord code := by
  unfold stripComment
  split
  · next kept h =>
    obtain ⟨mode, heq⟩ := beforeComment?_append hcode tail
    rw [htext, heq] at h
    obtain ⟨begin, hbegin, rfl⟩ := Option.map_eq_some_iff.mp h
    have hhead : ∀ c ∈ begin.head?, isBlank c := by
      intro c hc
      obtain ⟨rest, rfl⟩ := List.head?_eq_some_iff.mp hc
      obtain ⟨more, hmore⟩ := beforeComment?_isPrefix hbegin
      exact htail c (by rw [← hmore]; rfl)
    rw [String.toList_ofList, leadingWord_dropEndWhile, leadingWord_append hsome hhead]
    obtain ⟨c, hc, hblank⟩ := hsome
    exact ⟨c, List.mem_append_left _ hc, hblank⟩
  · rw [htext, leadingWord_append hsome htail]

/-! ### Lines that continue a header -/

/-- White space is not read as anything else. -/
theorem weight_of_isBlank (h : isBlank c) :
    Mode.covers .code c = false ∧ Mode.next .code c = .code ∧ weight (c, false) = 0 := by
  have hne {d : Char} (hd : isBlank d = false) : (c == d) = false := by
    refine beq_eq_false_iff_ne.mpr ?_
    intro heq
    rw [heq, hd] at h
    contradiction
  have hquote : isQuote c = false := by
    simp [isQuote, hne (show isBlank '\'' = false by decide), hne (show isBlank '"' = false by decide)]
  refine ⟨hquote, by simp [Mode.next, hquote], ?_⟩
  simp [weight, isOpener, isCloser, hne (show isBlank '(' = false by decide),
    hne (show isBlank '[' = false by decide), hne (show isBlank '{' = false by decide),
    hne (show isBlank ')' = false by decide), hne (show isBlank ']' = false by decide),
    hne (show isBlank '}' = false by decide)]

theorem foldl_weight_of_isBlank (h : ∀ c ∈ cs, isBlank c) (total : Int) :
    (scan .code cs).foldl (fun total c => total + weight c) total = total := by
  induction cs with
  | nil => rfl
  | cons c cs ih =>
    obtain ⟨hc, hcs⟩ := List.forall_mem_cons.mp h
    obtain ⟨hcovers, hnext, hweight⟩ := weight_of_isBlank hc
    rw [scan, hcovers, hnext, List.foldl_cons, hweight, Int.add_zero, ih hcs]

/-- Where a bracket is open there is something to read. -/
theorem exists_not_blank_of_balance (h : ¬ balance text ≤ 0) : ∃ c ∈ text.toList, isBlank c = false := by
  by_contra hblank
  push Not at hblank
  have hzero : balance text = 0 :=
    foldl_weight_of_isBlank (fun c hc => by simpa using hblank c hc) 0
  omega

/-- The pieces of code after one more line. -/
def addPiece (pieces : List String) (line : Line) : List String :=
  if line.code.isEmpty then pieces else pieces ++ [line.code]

theorem closePieces_cons (pieces : List String) (line : Line) (rest : List Line) :
    closePieces pieces (line :: rest) =
      if balance (" ".intercalate (addPiece pieces line)) > 0 then
        (closePieces (addPiece pieces line) rest).map fun (all, count) => (all, count + 1)
      else if balance (" ".intercalate (addPiece pieces line)) == 0 then
        some (addPiece pieces line, 1)
      else none := rfl

theorem closePieces_bounds (h : closePieces pieces lines = some (all, count)) :
    pieces <+: all ∧ count ≤ lines.length := by
  induction lines generalizing pieces all count with
  | nil => cases h
  | cons line lines ih =>
    have hmore : pieces <+: addPiece pieces line := by
      unfold addPiece
      split
      · exact List.prefix_refl _
      · exact List.prefix_append _ _
    rw [closePieces_cons] at h
    split at h
    · obtain ⟨⟨all', count'⟩, hrest, heq⟩ := Option.map_eq_some_iff.mp h
      cases heq
      exact ⟨hmore.trans (ih hrest).1, Nat.succ_le_succ (ih hrest).2⟩
    · split at h
      · cases h
        exact ⟨hmore, Nat.succ_le_succ (Nat.zero_le _)⟩
      · cases h

/-- Pieces that are joined begin with the first, and white space stands behind it. -/
theorem intercalate_cons (first : String) (more : List String) :
    ∃ tail, (" ".intercalate (first :: more)).toList = first.toList ++ tail ∧
      ∀ c ∈ tail.head?, isBlank c := by
  cases more with
  | nil => exact ⟨[], by simp, nofun⟩
  | cons second more =>
    refine ⟨' ' :: (" ".intercalate (second :: more)).toList, ?_, ?_⟩
    · rw [String.intercalate_cons_cons, String.toList_append, String.toList_append]
      simp
    · intro c hc
      cases hc
      decide

/-- A line stands alone, or pieces of code are joined to it. -/
theorem Line.join_cases (first : Line) (following : List Line) :
    first.join following = (first, 0) ∨
      ∃ pieces count, ¬ balance first.code ≤ 0 ∧
        closePieces [first.code] following = some (pieces, count) ∧
        (first.join following).2 = count ∧ (first.join following).1.indent = first.indent ∧
        (first.join following).1.trimmed = " ".intercalate pieces := by
  unfold Line.join
  split
  · exact .inl rfl
  · next hopen =>
    split
    · exact .inl rfl
    · next pieces count hpieces => exact .inr ⟨pieces, count, hopen, hpieces, rfl, rfl, rfl⟩

/-- A statement that goes over several lines begins with the word on its first line. -/
theorem Line.firstWord_join (first : Line) (following : List Line) :
    firstWord (first.join following).1.code = firstWord first.code := by
  rcases Line.join_cases first following with hjoin | ⟨pieces, count, hopen, hpieces, _, _, htrimmed⟩
  · rw [hjoin]
  · obtain ⟨more, rfl⟩ := (closePieces_bounds hpieces).1
    obtain ⟨tail, htext, htail⟩ := intercalate_cons first.code more
    have hcode : beforeComment? .code first.code.toList = none :=
      beforeComment?_stripComment first.trimmed
    rw [firstWord_eq, firstWord_eq, Line.code, htrimmed, List.singleton_append,
      leadingWord_stripComment htext hcode (exists_not_blank_of_balance hopen) htail]

theorem Line.headWord_join (first : Line) (following : List Line) :
    headWord (first.join following).1.code = headWord first.code := by
  rw [headWord, headWord, Line.firstWord_join]

theorem Line.indent_join (first : Line) (following : List Line) :
    (first.join following).1.indent = first.indent := by
  rcases Line.join_cases first following with hjoin | ⟨_, _, _, _, _, hindent, _⟩
  · rw [hjoin]
  · exact hindent

/-- The lines that close a statement are all that matter to it. -/
theorem closePieces_append (h : closePieces pieces lines = some (all, count)) :
    closePieces pieces (lines.take count) = some (all, count) := by
  induction lines generalizing pieces all count with
  | nil => cases h
  | cons line lines ih =>
    rw [closePieces_cons] at h
    split at h
    · next hopen =>
      obtain ⟨⟨all', count'⟩, hrest, heq⟩ := Option.map_eq_some_iff.mp h
      cases heq
      rw [List.take_succ_cons, closePieces_cons, if_pos hopen, ih hrest]
      rfl
    · next hclosed =>
      split at h
      · next hzero =>
        cases h
        rw [List.take_succ_cons, closePieces_cons, if_neg hclosed, if_pos hzero]
      · cases h

theorem Line.join_take (first : Line) (following : List Line) :
    first.join (following.take (first.join following).2) = first.join following := by
  rcases Line.join_cases first following with hjoin | ⟨pieces, count, hopen, hpieces, hcount, _, _⟩
  · rw [hjoin, List.take_zero, Line.join]
    split <;> rfl
  · rw [hcount, Line.join, Line.join, if_neg hopen, if_neg hopen, closePieces_append hpieces, hpieces]

/-! ## Stanzas -/

/-- A header as it is written: the silent lines above it, its first line, the lines that continue it,
and its body. -/
structure Stanza where
  gap : List Line
  first : Line
  more : List Line
  body : List Line

/-- All lines of a stanza. -/
def Stanza.lines (s : Stanza) : List Line :=
  s.gap ++ s.first :: (s.more ++ s.body)

/-- The header on one line. -/
def Stanza.header (s : Stanza) : Line :=
  (s.first.join s.more).1

/-- A stanza in front of other lines: its header goes just over the lines that continue it, and its
body ends where the other lines begin. -/
@[mk_iff]
structure Stanza.Fits (s : Stanza) (later : List Line) : Prop where
  gap : ∀ line ∈ s.gap, line.isSilent
  first : s.first.isSilent = false
  continues : (s.first.join (s.more ++ (s.body ++ later))).2 = s.more.length
  deeper : ∀ line ∈ s.body, line.isSilent ∨ s.first.indent < line.indent
  ends : ∀ line ∈ s.body.getLast?, line.isSilent = false
  later : Dedents s.first.indent later

instance (s : Stanza) (later : List Line) : Decidable (s.Fits later) :=
  decidable_of_iff' _ (s.fits_iff later)

/-- The paragraph that a stanza is. -/
def Stanza.paragraph (s : Stanza) (later : List Line) : Paragraph where
  line := s.header
  after := s.body ++ later
  body := s.body

section

variable {s : Stanza} {later : List Line}

theorem Stanza.headWord_header : headWord s.header.code = headWord s.first.code :=
  Line.headWord_join _ _

theorem Stanza.Fits.cut (h : s.Fits later) :
    Paragraph.cut s.first (s.more ++ (s.body ++ later)) = s.paragraph later := by
  have hjoin : s.first.join (s.more ++ (s.body ++ later)) = s.first.join s.more := by
    have htake := Line.join_take s.first (s.more ++ (s.body ++ later))
    rwa [h.continues, List.take_left, eq_comm] at htake
  have hcount : (s.first.join s.more).2 = s.more.length := by
    rw [← hjoin, h.continues]
  have hbody : bodyLength s.first.indent (s.body ++ later) = s.body.length :=
    bodyLength_append h.deeper h.ends h.later
  rw [Paragraph.cut, hjoin, hcount, List.drop_left, Line.indent_join, hbody, List.take_left]
  rfl

theorem Stanza.rest_paragraph : (s.paragraph later).rest = later :=
  List.drop_left

theorem Stanza.lines_append :
    s.lines ++ later = s.gap ++ s.first :: (s.more ++ (s.body ++ later)) := by
  simp [Stanza.lines]

/-- The tree of lines that begin with a stanza begins with the item of the stanza. -/
theorem Stanza.Fits.ofLines (h : s.Fits later) (structured : Bool) :
    Item.ofLines structured (s.lines ++ later) =
      ((s.paragraph later).shape structured s.first.indent).1.item (Item.ofLines structured) ::
        Item.ofLines structured ((s.paragraph later).shape structured s.first.indent).2 := by
  rw [Stanza.lines_append, Item.ofLines_silent structured h.gap, Item.ofLines_cons structured h.first,
    h.cut]

end

end Walkthrough
