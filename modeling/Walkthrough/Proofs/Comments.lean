import Walkthrough.Proofs.WholeText

/-!
# Comments

A comment behind a phrase is stripped, and nothing else is, whatever the literals of the phrase hold.
Literals between three quotes are no phrases: the scan takes them for three literals, and may find a
comment in one (`stripComment_cuts_literal`).
-/

namespace Walkthrough.Written

open Source Text

/-- The comment sign is the first that the scan shows outside of literals. -/
theorem beforeComment?_eq_scan (mode : Mode) (s : List Char) :
    beforeComment? mode s = if ('#', false) ∈ scan mode s then
      some (((scan mode s).takeWhile (· != ('#', false))).map Prod.fst) else none := by
  induction s generalizing mode with
  | nil => rfl
  | cons c s ih =>
    rw [beforeComment?, scan, ih]
    by_cases hc : c = '#' ∧ mode.covers c = false
    · obtain ⟨rfl, hcovers⟩ := hc
      simp [hcovers]
    · have hne : (c, mode.covers c) ≠ ('#', false) := by simpa using hc
      have hgoesOn : (c == '#' && !mode.covers c) = false := by simpa using hc
      simp only [hgoesOn, Bool.false_eq_true, if_false, List.mem_cons, hne.symm, false_or]
      split <;> simp [hne]

/-- Code is kept, and a comment behind it is not. -/
theorem Weighs.stripComment (hs : Weighs s w) (hend : EndsSolidly s)
    (hblanks : ∀ c ∈ blanks, isBlank c) (comment : List Char) :
    Source.stripComment (String.ofList s) = String.ofList s ∧
      Source.stripComment (String.ofList (s ++ blanks ++ '#' :: comment)) = String.ofList s := by
  have hcode : beforeComment? .code s = none := by rw [beforeComment?_eq_scan, if_neg hs.comment]
  refine ⟨by rw [Source.stripComment, String.toList_ofList, hcode], ?_⟩
  have hall := hs.append (balanced_plain fun c hc => isFlat_of (by decide) (hblanks c hc))
  have hsign : scan .code ('#' :: comment) = ('#', false) :: scan .code comment := rfl
  have hbefore : beforeComment? .code (s ++ blanks ++ '#' :: comment) = some (s ++ blanks) := by
    rw [beforeComment?_eq_scan, hall.scan_append, hsign, if_pos (by simp),
      List.takeWhile_append_of_pos, List.takeWhile_cons_of_neg (by simp), List.append_nil, scan_map_fst]
    intro mark hmark
    rw [bne_iff_ne]
    rintro rfl
    exact hall.comment hmark
  rw [Source.stripComment, String.toList_ofList, hbefore]
  exact congrArg String.ofList (hend.dropEndWhile hblanks)

end Walkthrough.Written
