import Mathlib
import Walkthrough.Proofs.Layout

/-!
# Ranges of lines and brackets

Where a statement ends that goes over several lines, where the body of a header ends, and where a bracket
is closed.  Every such place is the only one that a plain condition allows.

* `join_exact`: a statement goes on to the first line at which no bracket is open any more.
* `isBody_iff`: a body is the longest one that is indented deeper, up to its last line of code.
* `brackets_matched`: a bracket is closed where the depth in front of it is reached again.
-/

namespace Walkthrough.Source

/-! ## Statements over several lines -/

/-- The code on some lines, without the lines that have none. -/
def codePieces (lines : List Line) : List String :=
  (lines.map Line.code).filter (!·.isEmpty)

/-- The depth behind some codePieces of code and the next `n` lines. -/
def depthAfter (before : List String) (lines : List Line) (n : Nat) : Int :=
  balance (" ".intercalate (before ++ codePieces (lines.take n)))

/-- The first of some lines, counted from one, behind which no bracket is open. -/
structure Closes (before : List String) (lines : List Line) (n : Nat) : Prop where
  pos : 0 < n
  within : n ≤ lines.length
  closed : depthAfter before lines n ≤ 0
  first : ∀ k, 0 < k → k < n → 0 < depthAfter before lines k

theorem Closes.unique (hm : Closes before lines m)
    (hn : Closes before lines n) : m = n := by
  rcases Nat.lt_trichotomy m n with hlt | heq | hlt
  · exact absurd hm.closed (Int.not_le.mpr (hn.first m hm.pos hlt))
  · exact heq
  · exact absurd hn.closed (Int.not_le.mpr (hm.first n hn.pos hlt))

theorem addPiece_eq (before : List String) (line : Line) :
    addPiece before line = before ++ codePieces [line] := by
  unfold addPiece codePieces
  split <;> simp_all

theorem codePieces_cons (line : Line) (lines : List Line) :
    codePieces (line :: lines) = codePieces [line] ++ codePieces lines := by
  rw [codePieces, codePieces, codePieces, ← List.filter_append, ← List.map_append, List.singleton_append]

theorem depthAfter_succ (before : List String) (line : Line) (lines : List Line) (n : Nat) :
    depthAfter before (line :: lines) (n + 1) = depthAfter (addPiece before line) lines n := by
  rw [depthAfter, depthAfter, List.take_succ_cons, codePieces_cons, addPiece_eq, List.append_assoc]

/-- Lines are taken up to the first one behind which no bracket is open. -/
theorem closePieces_cases (before : List String) (lines : List Line) :
    (closePieces before lines = none ∧ ∀ n, 0 < n → n ≤ lines.length → 0 < depthAfter before lines n) ∨
      ∃ n, Closes before lines n ∧ closePieces before lines =
        if depthAfter before lines n = 0 then some (before ++ codePieces (lines.take n), n) else none := by
  induction lines generalizing before with
  | nil => exact .inl ⟨rfl, fun n hn hle => absurd hn (Nat.not_lt.mpr hle)⟩
  | cons line lines ih =>
    have hfirst : depthAfter before (line :: lines) 1 = balance (" ".intercalate (addPiece before line)) := by
      rw [depthAfter_succ, depthAfter, List.take_zero]
      simp [codePieces]
    rw [closePieces_cons, ← hfirst]
    by_cases hopen : 0 < depthAfter before (line :: lines) 1
    · rw [if_pos hopen]
      -- The lines behind the first one are decided with its piece added.
      have hopens {m : Nat} (h : ∀ k, 0 < k → k < m → 0 < depthAfter (addPiece before line) lines k) :
          ∀ k, 0 < k → k < m + 1 → 0 < depthAfter before (line :: lines) k := by
        intro k hk hlt
        obtain rfl | ⟨k, rfl, hpos⟩ : k = 1 ∨ ∃ j, k = j + 1 ∧ 0 < j :=
          (Nat.eq_or_lt_of_le hk).imp Eq.symm fun h => ⟨k - 1, by omega, by omega⟩
        · exact hopen
        · rw [depthAfter_succ]
          exact h k hpos (by omega)
      rcases ih (addPiece before line) with ⟨hnone, hall⟩ | ⟨n, hn, hsome⟩
      · refine .inl ⟨by rw [hnone]; rfl, fun k hk hle => ?_⟩
        exact hopens (fun j hj hlt => hall j hj (Nat.le_of_lt_succ hlt)) k hk (Nat.lt_succ_of_le hle)
      · refine .inr ⟨n + 1, ⟨by omega, Nat.succ_le_succ hn.within, ?_, hopens hn.first⟩, ?_⟩
        · rw [depthAfter_succ]
          exact hn.closed
        · rw [hsome, depthAfter_succ, List.take_succ_cons, codePieces_cons, ← List.append_assoc, ← addPiece_eq]
          split <;> rfl
    · refine .inr ⟨1, ⟨Nat.one_pos, by simp, Int.not_lt.mp hopen, fun k hk hlt => by omega⟩, ?_⟩
      rw [if_neg hopen, addPiece_eq]
      simp

/-- The statement that begins on a line, with its code on one line. -/
def Line.withCode (first : Line) (code : String) : Line :=
  { first with text := String.ofList (first.text.toList.take first.indent) ++ code, trimmed := code }

/-- A statement goes on to the first line behind which no bracket is open, if one is open behind its first
line and the brackets come out even; else it stands alone. -/
theorem join_exact (first : Line) (following : List Line) :
    let b := depthAfter (codePieces [first]) following
    let joined := first.join following
    ((b 0 ≤ 0 ∨ (∀ n, 0 < n → n ≤ following.length → 0 < b n) ∨
        ∃ n, Closes (codePieces [first]) following n ∧ b n < 0) → joined = (first, 0)) ∧
      (∀ n, 0 < b 0 → Closes (codePieces [first]) following n → b n = 0 →
        joined = (first.withCode (" ".intercalate (codePieces (first :: following.take n))), n)) ∧
      joined.2 ≤ following.length ∧ ∀ k < joined.2, 0 < b k := by
  intro b joined
  have hstart : b 0 = balance first.code := by
    by_cases hempty : first.code.isEmpty
    · simp [b, depthAfter, codePieces, String.isEmpty_iff.mp hempty]
    · simp [b, depthAfter, codePieces, hempty]
  have halone (h : joined = (first, 0)) : joined.2 ≤ following.length ∧ ∀ k < joined.2, 0 < b k := by
    rw [h]
    exact ⟨Nat.zero_le _, nofun⟩
  by_cases hopen : 0 < b 0
  · have hpieces : codePieces [first] = [first.code] := by
      have hne : ¬first.code.isEmpty := fun hempty => by
        simp [hstart, String.isEmpty_iff.mp hempty, balance, scan] at hopen
      simp [codePieces, hne]
    have hjoin : joined = _ := if_neg (by omega)
    rcases closePieces_cases (codePieces [first]) following with ⟨hnone, hall⟩ | ⟨n, hn, hsome⟩
    · rw [← hpieces, hnone] at hjoin
      refine ⟨fun _ => hjoin, fun n _ hn heven => ?_, halone hjoin⟩
      exact absurd (hall n hn.pos hn.within) (by simp only [b] at heven; omega)
    · rw [← hpieces, hsome] at hjoin
      by_cases heven : b n = 0
      · rw [if_pos heven, ← codePieces_cons] at hjoin
        refine ⟨fun h => ?_, fun m _ hm _ => by rw [hm.unique hn]; exact hjoin, ?_⟩
        · rcases h with h | h | ⟨m, hm, hneg⟩
          · omega
          · exact absurd (h n hn.pos hn.within) (by omega)
          · rw [hm.unique hn] at hneg
            omega
        · rw [hjoin]
          refine ⟨hn.within, fun k hk => ?_⟩
          rcases Nat.eq_zero_or_pos k with rfl | hpos
          · exact hopen
          · exact hn.first k hpos hk
      · rw [if_neg heven] at hjoin
        refine ⟨fun _ => hjoin, fun m _ hm hzero => ?_, halone hjoin⟩
        rw [hm.unique hn] at hzero
        exact absurd hzero heven
  · have hjoin : joined = (first, 0) := if_pos (by omega)
    exact ⟨fun _ => hjoin, fun n h => absurd h hopen, halone hjoin⟩

/-! ## Bodies -/

/-- The first `count` of the lines behind a header are its body: what stands there is indented deeper than
`indent` or silent, it ends with code, and what follows is no deeper. -/
structure IsBody (indent : Nat) (lines : List Line) (count : Nat) : Prop where
  within : count ≤ lines.length
  deeper : ∀ line ∈ lines.take count, line.isSilent ∨ indent < line.indent
  last : ∀ line ∈ (lines.take count).getLast?, line.isSilent = false
  ends : Dedents indent (lines.drop count)

theorem exists_isBody (indent : Nat) (lines : List Line) : ∃ count, IsBody indent lines count := by
  induction lines with
  | nil => exact ⟨0, by simp, by simp, by simp, by simp [Dedents]⟩
  | cons line lines ih =>
    obtain ⟨count, hwithin, hdeeper, hlast, hends⟩ := ih
    by_cases hend : line.isSilent = false ∧ line.indent ≤ indent
    · exact ⟨0, by simp, by simp, by simp, by simp [Dedents, hend]⟩
    · have hmore : (count = 0 → line.isSilent = false) → IsBody indent (line :: lines) (count + 1) := by
        intro hcode
        refine ⟨Nat.succ_le_succ hwithin, ?_, fun x hx => ?_, hends⟩
        · exact List.forall_mem_cons.mpr ⟨by grind, hdeeper⟩
        · grind
      cases count with
      | zero =>
        by_cases hsilent : line.isSilent
        · exact ⟨0, by simp, by simp, by simp, by simpa [Dedents, hsilent] using hends⟩
        · exact ⟨1, hmore fun _ => by simpa using hsilent⟩
      | succ count => exact ⟨_, hmore (by simp)⟩

theorem IsBody.eq_bodyLength (h : IsBody indent lines count) :
    count = bodyLength indent lines := by
  have hlength := bodyLength_append h.deeper h.last h.ends
  rw [List.take_append_drop, List.length_take_of_le h.within] at hlength
  exact hlength.symm

/-- Lines that are no deeper add nothing to a body in front of them. -/
theorem bodyLength_append_of_dedents (h : Dedents indent later)
    (lines : List Line) : bodyLength indent (lines ++ later) = bodyLength indent lines := by
  induction lines with
  | nil => exact bodyLength_eq_zero h
  | cons line lines ih => rw [List.cons_append, bodyLength, bodyLength, ih]

/-- A body is what meets the conditions on it, and nothing else does.  A body inside it, of a header that is
no less deep, ends where it ends at the latest, whether or not the lines behind it are seen. -/
theorem isBody_iff (indent : Nat) (lines : List Line) :
    let length := bodyLength indent lines
    (∀ count, IsBody indent lines count ↔ count = length) ∧
      ∀ header < length, ∀ depth, indent ≤ depth →
        header + 1 + bodyLength depth (lines.drop (header + 1)) ≤ length ∧
        bodyLength depth ((lines.take length).drop (header + 1)) =
          bodyLength depth (lines.drop (header + 1)) := by
  intro length
  have hbody : IsBody indent lines length := by
    obtain ⟨count, hcount⟩ := exists_isBody indent lines
    have heq : count = length := hcount.eq_bodyLength
    exact heq ▸ hcount
  refine ⟨fun count => ⟨fun h => h.eq_bodyLength, fun h => h ▸ hbody⟩, fun header hlt depth hdepth => ?_⟩
  have hends : Dedents depth (lines.drop length) := fun line hline => (hbody.ends line hline).trans hdepth
  have hsplit : lines.drop (header + 1) = (lines.take length).drop (header + 1) ++ lines.drop length := by
    rw [← List.drop_append_of_le_length, List.take_append_drop]
    rw [List.length_take_of_le hbody.within]
    exact hlt
  obtain ⟨count, hcount⟩ := exists_isBody depth ((lines.take length).drop (header + 1))
  have hle := hcount.within
  rw [List.length_drop, List.length_take_of_le hbody.within, hcount.eq_bodyLength] at hle
  rw [hsplit, bodyLength_append_of_dedents hends]
  exact ⟨by omega, rfl⟩

/-! ## Brackets -/

/-- The depth behind the first `n` characters of a text, of which it is known whether they belong to a
literal. -/
def depthBehind (marked : List (Char × Bool)) (n : Nat) : Int :=
  ((marked.take n).map weight).sum

@[simp] theorem depthBehind_zero (marked : List (Char × Bool)) : depthBehind marked 0 = 0 := rfl

@[simp] theorem depthBehind_succ (c : Char × Bool) (marked : List (Char × Bool)) (n : Nat) :
    depthBehind (c :: marked) (n + 1) = weight c + depthBehind marked n := rfl

theorem depthBehind_add (marked : List (Char × Bool)) (m n : Nat) :
    depthBehind marked (m + n) = depthBehind marked m + depthBehind (marked.drop m) n := by
  rw [depthBehind, List.take_add, List.map_append, List.sum_append, depthBehind, depthBehind]

theorem weight_cases (c : Char) (quoted : Bool) :
    weight (c, quoted) = -1 ∧ (!quoted && isCloser c) = true ∨ 0 ≤ weight (c, quoted) := by
  cases quoted <;> grind [weight]

/-- A bracket is closed at the first place behind which the depth is zero again. -/
theorem closing?_cases (hdepth : 0 < depth) (position : Nat) (marked : List (Char × Bool)) :
    (closing? position depth marked = none ∧ ∀ n ≤ marked.length, 0 < depth + depthBehind marked n) ∨
      ∃ n < marked.length, closing? position depth marked = some (position + n) ∧
        depth + depthBehind marked (n + 1) = 0 ∧ ∀ k ≤ n, 0 < depth + depthBehind marked k := by
  induction marked generalizing depth position with
  | nil => exact .inl ⟨rfl, by simpa using hdepth⟩
  | cons c marked ih =>
    obtain ⟨c, quoted⟩ := c
    have hweight := weight_cases c quoted
    rw [closing?]
    by_cases hzero : depth + weight (c, quoted) = 0
    · have hcloser : (!quoted && isCloser c) = true := by
        rcases hweight with h | h
        · exact h.2
        · omega
      refine .inr ⟨0, by simp, ?_, by simpa using hzero, by simpa using hdepth⟩
      rw [hcloser, hzero]
      rfl
    · have hdepths {m : Nat} (h : ∀ n ≤ m, 0 < depth + weight (c, quoted) + depthBehind marked n) :
          ∀ n ≤ m + 1, 0 < depth + depthBehind ((c, quoted) :: marked) n := by
        intro n hn
        cases n with
        | zero => simpa using hdepth
        | succ n =>
          have := h n (by omega)
          rw [depthBehind_succ]
          omega
      rw [if_neg (by simp [hzero])]
      rcases ih (show 0 < depth + weight (c, quoted) by omega) (position + 1) with
        ⟨hnone, hall⟩ | ⟨n, hn, hsome, hend, hall⟩
      · exact .inl ⟨hnone, hdepths hall⟩
      · refine .inr ⟨n + 1, by simpa using hn, by rw [hsome]; congr 1; omega, ?_, hdepths hall⟩
        rw [depthBehind_succ]
        omega

/-- What is found outside brackets has depth zero in front of it and is no bracket. -/
theorem topLevel?_some
    (h : topLevel? wanted position depth marked = some found) :
    ∃ n, found = position + n ∧ depth + depthBehind marked n = 0 ∧
      ∀ c ∈ marked[n]?, isOpener c.1 = false := by
  induction marked generalizing position depth with
  | nil => cases h
  | cons c marked ih =>
    obtain ⟨c, quoted⟩ := c
    rw [topLevel?] at h
    split at h
    · next hfound =>
      cases h
      simp only [Bool.and_eq_true, Bool.not_eq_true', beq_iff_eq] at hfound
      exact ⟨0, rfl, by simpa using hfound.2, by simpa using hfound.1.1.1.2⟩
    · obtain ⟨n, rfl, hdepth, hc⟩ := ih h
      refine ⟨n + 1, by omega, ?_, hc⟩
      rw [depthBehind_succ]
      omega

/-- The depth in front of a position: brackets opened less brackets closed, outside literals. -/
def depthBefore (text : String) (position : Nat) : Int :=
  balance (String.ofList (text.toList.take position))

theorem scan_take (mode : Mode) (text : List Char) (n : Nat) :
    scan mode (text.take n) = (scan mode text).take n := by
  induction text generalizing mode n with
  | nil => simp [scan]
  | cons c text ih => cases n <;> simp [scan, ih]

theorem depthBefore_eq (text : String) : depthBefore text = depthBehind (scan .code text.toList) := by
  funext n
  rw [depthBefore, balance, String.toList_ofList, scan_take, depthBehind, List.sum_eq_foldl, List.foldl_map]

section

variable {text : String} {i : Nat} {c : Char}

/-- The bracket that is opened at `i` is closed where the depth in front of it is reached again. -/
theorem findMatching?_cases (hopen : isOpener c) (hi : (scan .code text.toList)[i]? = some (c, false)) :
    (findMatching? text i = none ∧
      ∀ k, i < k → k ≤ text.length → depthBefore text i < depthBefore text k) ∨
    ∃ j < text.length, i < j ∧ findMatching? text i = some j ∧ depthBefore text (j + 1) = depthBefore text i ∧
      ∀ k, i < k → k ≤ j → depthBefore text i < depthBefore text k := by
  let behind := (scan .code text.toList).drop (i + 1)
  obtain ⟨hlt, hget⟩ := List.getElem?_eq_some_iff.mp hi
  have hdrop : (scan .code text.toList).drop i = (c, false) :: behind := by
    rw [List.drop_eq_getElem_cons hlt, hget]
  have hstart : findMatching? text i = closing? (i + 1) 1 behind := by
    have hcloser : isCloser c = false := by grind [isOpener, isCloser]
    rw [findMatching?, hdrop, closing?]
    simp [weight, hopen, hcloser]
  have hdepth (n : Nat) : depthBefore text (i + 1 + n) = depthBefore text i + (1 + depthBehind behind n) := by
    rw [depthBefore_eq, Nat.add_assoc, depthBehind_add, hdrop, Nat.add_comm 1, depthBehind_succ]
    simp [weight, hopen]
  have hdepths {m : Nat} (h : ∀ n ≤ m, 0 < 1 + depthBehind behind n) (k : Nat) (hk : i < k)
      (hle : k ≤ i + 1 + m) : depthBefore text i < depthBefore text k := by
    have hpos := h (k - (i + 1)) (by omega)
    rw [show k = i + 1 + (k - (i + 1)) by omega, hdepth]
    omega
  have hlength : behind.length = text.length - (i + 1) := by
    rw [List.length_drop, ← List.length_map, scan_map_fst, String.length_toList]
  rw [hstart]
  rcases closing?_cases Int.one_pos (i + 1) behind with ⟨hnone, hall⟩ | ⟨n, hn, hsome, hend, hall⟩
  · exact .inl ⟨hnone, fun k hk hle => hdepths hall k hk (by omega)⟩
  · refine .inr ⟨i + 1 + n, by omega, by omega, hsome, ?_, hdepths hall⟩
    rw [Nat.add_assoc _ n, hdepth, hend, Int.add_zero]

/-- A bracket is closed by the first character behind which the depth is as it was in front of the bracket.
The ranges of two brackets do not cross, and nothing in a range is found outside brackets. -/
theorem brackets_matched (hopen : isOpener c) (hi : (scan .code text.toList)[i]? = some (c, false)) :
    let even := fun j => depthBefore text (j + 1) = depthBefore text i
    (∀ j, findMatching? text i = some j ↔
      i < j ∧ j < text.length ∧ even j ∧ ∀ k, i < k → k < j → ¬even k) ∧
    (findMatching? text i = none ↔ ∀ j, i < j → j < text.length → ¬even j) ∧
    ∀ j, findMatching? text i = some j →
      (∀ k, i ≤ k → k < j → depthBefore text i < depthBefore text (k + 1)) ∧
      (∀ i' j' c', isOpener c' → (scan .code text.toList)[i']? = some (c', false) →
        findMatching? text i' = some j' → i < i' → j < i' ∨ j' < j) ∧
      ∀ wanted found, depthBefore text i = 0 → findTopLevel? wanted text = some found →
        found < i ∨ j < found := by
  rcases findMatching?_cases hopen hi with ⟨hnone, hall⟩ | ⟨j, hj, hlt, hsome, hend, hall⟩
  · have hodd (k : Nat) (hk : i < k) (hle : k < text.length) :=
      Int.ne_of_gt (hall (k + 1) (Nat.lt_succ_of_lt hk) hle)
    rw [hnone]
    exact ⟨fun j => ⟨nofun, fun h => absurd h.2.2.1 (hodd j h.1 h.2.1)⟩, by simpa using hodd, nofun⟩
  · rw [hsome]
    refine ⟨fun j' => ⟨?_, ?_⟩, ⟨nofun, fun h => absurd hend (h j hlt hj)⟩, ?_⟩
    · rintro ⟨⟩
      exact ⟨hlt, hj, hend, fun k hk hlt => Int.ne_of_gt (hall (k + 1) (by omega) hlt)⟩
    · rintro ⟨hlt', _, heven, hodd⟩
      rcases Nat.lt_trichotomy j j' with h | rfl | h
      · exact absurd hend (hodd j hlt h)
      · rfl
      · exact absurd heven (Int.ne_of_gt (hall (j' + 1) (by omega) h))
    rintro _ ⟨⟩
    refine ⟨fun k hk hlt => hall (k + 1) (by omega) hlt, fun i' j' c' hopen' hi' hsome' hlt' => ?_,
      fun wanted found hzero hfound => ?_⟩
    · rcases findMatching?_cases hopen' hi' with ⟨hnone, -⟩ | ⟨_, -, -, hsome'', hend', hall'⟩
      · simp [hnone] at hsome'
      · cases hsome'.symm.trans hsome''
        by_contra hcross
        have hinner := hall i' hlt' (by omega)
        rcases Nat.eq_or_lt_of_le (show j ≤ j' by omega) with rfl | hlt
        · omega
        · have := hall' (j + 1) (by omega) hlt
          omega
    · obtain ⟨n, rfl, hdepth, hc⟩ := topLevel?_some hfound
      rw [← depthBefore_eq] at hdepth
      by_contra hinside
      rcases Nat.eq_or_lt_of_le (show i ≤ n by omega) with rfl | hlt
      · simp [hc _ hi] at hopen
      · have := hall n hlt (by omega)
        omega

/-- The outer bracket of a call is closed behind the inner one and behind a quoted bracket. -/
theorem brackets_matched_call :
    depthBefore "f(')', g(x))" 12 = depthBefore "f(')', g(x))" 1 ∧
      ∀ k, 1 < k → k < 11 → depthBefore "f(')', g(x))" (k + 1) ≠ depthBefore "f(')', g(x))" 1 := by
  have h := @brackets_matched "f(')', g(x))" 1 '(' (by decide) (by decide)
  exact ((h.1 11).mp (by decide)).2.2

end

end Walkthrough.Source
