import Mathlib.Algebra.Order.Floor.Ring
import Mathlib.Data.Rat.Floor
import Mathlib.Tactic.Linarith
import Walkthrough.Value.Access

/-!
# Slices and indexes

A slice takes the elements at `a`, `a + step`, `a + 2 * step` and so on, as long as they come before
its end, and all of them are there (`slices_exact`).  The number of steps before the end is the one
fact behind this: the `count`-th position lies before the end exactly if `count` is less than the
quotient of the distance and the step.
-/

namespace Walkthrough

/-! ## What a slice is -/

/-- What a list or a text consists of; the characters of a text are texts. -/
inductive Store.Sequence (s : Store) : Value → List Value → Prop where
  | list (ref : Nat) : s.Sequence (.list ref) (s.list ref).toList
  | text (text : String) : s.Sequence (.str text) (text.toList.map fun c => .str c.toString)

def SlicePart.values : SlicePart → List Value
  | .elements xs => xs.toList
  | .text t => t.toList.map fun c => .str c.toString

/-- The position that a bound means: one below zero counts from the end, and one that the step cannot
come to is moved to the nearest that it can. -/
def normalBound (length : Nat) (step bound : Int) : Int :=
  let bound := if bound < 0 then bound + length else bound
  if 0 < step then max 0 (min bound length) else max (-1) (min bound (length - 1))

/-- The position that a slice begins at. -/
def normalStart (length : Nat) (step : Int) (start : Option Int) : Int :=
  start.elim (if 0 < step then 0 else length - 1) (normalBound length step)

/-- The position that a slice ends before. -/
def normalStop (length : Nat) (step : Int) (stop : Option Int) : Int :=
  stop.elim (if 0 < step then length else -1) (normalBound length step)

/-- The elements from the position `a` on, in steps, before the position `b`. -/
structure IsSlice {α : Type} (xs : List α) (a b step : Int) (ys : List α) : Prop where
  length : (ys.length : Int) = max 0 ⌈((b - a : Int) : ℚ) / step⌉
  inside : ∀ j < ys.length, 0 ≤ a + j * step ∧ a + j * step < xs.length
  element : ∀ j < ys.length, ys[j]? = xs[(a + j * step).toNat]?

section

variable {α : Type}

/-! ## Counting steps -/

theorem lt_sliceCount_iff (hstep : step ≠ 0) (j : Nat) :
    j < sliceCount a b step ↔ if step < 0 then b < a + j * step else a + j * step < b := by
  rw [sliceCount]
  split
  · rw [Int.lt_toNat, ← Int.add_one_le_iff, Int.le_ediv_iff_mul_le (by omega)]
    constructor <;> intro h <;> linarith
  · rw [Int.lt_toNat, ← Int.add_one_le_iff, Int.le_ediv_iff_mul_le (by omega)]
    constructor <;> intro h <;> linarith

theorem sliceCount_eq (hstep : step ≠ 0) :
    (sliceCount a b step : Int) = max 0 ⌈((b - a : Int) : ℚ) / step⌉ := by
  have hcount (j : Nat) : j < sliceCount a b step ↔ (j : Int) < ⌈((b - a : Int) : ℚ) / step⌉ := by
    have hcast : ((j : Int) : ℚ) * step = ((j * step : Int) : ℚ) := by push_cast; rfl
    rw [lt_sliceCount_iff hstep, Int.lt_ceil]
    split
    · next hneg =>
      rw [lt_div_iff_of_neg (by exact_mod_cast hneg), hcast, Int.cast_lt]
      constructor <;> intro h <;> linarith
    · rw [lt_div_iff₀ (by exact_mod_cast (by omega : 0 < step)), hcast, Int.cast_lt]
      constructor <;> intro h <;> linarith
  have hlast := hcount (sliceCount a b step)
  have hbefore := hcount (sliceCount a b step - 1)
  omega

theorem sliceBounds_eq (start stop : Option Int) (hstep : step ≠ 0) :
    sliceBounds n start stop step = (normalStart n step start, normalStop n step stop) := by
  rw [sliceBounds, normalStart, normalStop, Prod.mk.injEq]
  constructor
  · cases start <;> simp only [Option.map, Option.getD, Option.elim, normalBound] <;> split_ifs <;> omega
  · cases stop <;> simp only [Option.map, Option.getD, Option.elim, normalBound] <;> split_ifs <;> omega

/-- If a function is defined everywhere on a range, its values stand in order. -/
theorem filterMap_range (f : Nat → Option α) (count : Nat) (h : ∀ j < count, (f j).isSome) :
    ((List.range count).filterMap f).length = count ∧
      ∀ j < count, ((List.range count).filterMap f)[j]? = f j := by
  induction count with
  | zero => exact ⟨rfl, nofun⟩
  | succ count ih =>
    obtain ⟨x, hx⟩ := Option.isSome_iff_exists.mp (h count (Nat.lt_succ_self count))
    obtain ⟨hlength, helement⟩ := ih fun j hj => h j (by omega)
    rw [List.range_succ, List.filterMap_append, List.filterMap_cons_some hx, List.filterMap_nil]
    refine ⟨by rw [List.length_append, hlength]; rfl, fun j hj => ?_⟩
    by_cases hj' : j < count
    · rw [List.getElem?_append_left (by omega), helement j hj']
    · obtain rfl : j = count := by omega
      rw [List.getElem?_append_right (by omega), hlength, Nat.sub_self, hx]
      rfl

theorem normalStart_bound (n : Nat) (start : Option Int) (hstep : step ≠ 0) :
    if step < 0 then normalStart n step start < n else 0 ≤ normalStart n step start := by
  cases start <;> simp only [normalStart, Option.elim, normalBound] <;> split_ifs <;> omega

theorem normalStop_bound (n : Nat) (step : Int) (stop : Option Int) :
    if step < 0 then -1 ≤ normalStop n step stop else normalStop n step stop ≤ n := by
  cases stop <;> simp only [normalStop, Option.elim, normalBound] <;> split_ifs <;> omega

theorem sliceElements_isSlice (elements : Array α) (start stop : Option Int) (hstep : step ≠ 0) :
    IsSlice elements.toList (normalStart elements.size step start)
      (normalStop elements.size step stop) step (sliceElements elements start stop step) := by
  have hstart := normalStart_bound elements.size start hstep
  have hstop := normalStop_bound elements.size step stop
  rw [sliceElements, sliceBounds_eq start stop hstep]
  generalize normalStart elements.size step start = a at hstart
  generalize normalStop elements.size step stop = b at hstop
  have hinside (j : Nat) (hj : j < sliceCount a b step) :
      0 ≤ a + j * step ∧ a + j * step < elements.toList.length := by
    rw [lt_sliceCount_iff hstep] at hj
    rw [Array.length_toList]
    by_cases hneg : step < 0
    · rw [if_pos hneg] at hj hstart hstop
      have hback : j * step ≤ 0 := mul_nonpos_of_nonneg_of_nonpos (Int.natCast_nonneg j) hneg.le
      omega
    · rw [if_neg hneg] at hj hstart hstop
      have hon : 0 ≤ j * step := mul_nonneg (Int.natCast_nonneg j) (by omega)
      omega
  obtain ⟨hlength, helement⟩ := filterMap_range
    (fun count => elements[(a + Int.ofNat count * step).toNat]?) (sliceCount a b step) fun j hj => by
      obtain ⟨hlow, hhigh⟩ := hinside j hj
      rw [Array.length_toList] at hhigh
      rw [Option.isSome_iff_ne_none, Ne, Array.getElem?_eq_none_iff, Nat.not_le]
      exact (Int.toNat_lt hlow).mpr hhigh
  refine ⟨?_, ?_, fun j hj => ?_⟩
  · rw [hlength, sliceCount_eq hstep]
  · rwa [hlength]
  · rw [hlength] at hj
    rw [helement j hj, Array.getElem?_toList]
    rfl

/-- Elements can be seen through a function before or after a slice is taken. -/
theorem IsSlice.map (h : IsSlice xs a b step ys) (f : α → β) :
    IsSlice (xs.map f) a b step (ys.map f) := by
  refine ⟨?_, ?_, ?_⟩
  · rw [List.length_map, h.length]
  · simpa using h.inside
  · intro j hj
    rw [List.length_map] at hj
    rw [List.getElem?_map, List.getElem?_map, h.element j hj]

/-! ## Particular slices -/

/-- A slice without gaps is a segment. -/
theorem IsSlice.eq_segment (h : IsSlice xs a b 1 ys) (ha : 0 ≤ a) :
    ys = (xs.drop a.toNat).take (b - a).toNat := by
  have hlength := h.length
  rw [Int.cast_one, div_one, Int.ceil_intCast] at hlength
  refine List.ext_getElem? fun j => ?_
  rw [List.getElem?_take, List.getElem?_drop]
  split
  · rw [h.element j (by omega)]
    congr 1
    omega
  · exact List.getElem?_eq_none (by omega)

theorem IsSlice.eq_reverse (h : IsSlice xs (xs.length - 1) (-1) (-1) ys) : ys = xs.reverse := by
  have hlength := h.length
  rw [show ((-1 - (xs.length - 1 : Int) : Int) : ℚ) / ((-1 : Int) : ℚ) = ((xs.length : Int) : ℚ) by
    push_cast; ring, Int.ceil_intCast] at hlength
  refine List.ext_getElem? fun j => ?_
  by_cases hj : j < xs.length
  · rw [h.element j (by omega), List.getElem?_reverse hj]
    congr 1
    omega
  · rw [List.getElem?_eq_none (by omega), List.getElem?_eq_none (by rw [List.length_reverse]; omega)]

end

/-! ## Slices and indexes of values -/

/-- A slice of a list or a text is a slice of what it consists of. -/
theorem Store.Sequence.slice (h : s.Sequence object xs) (start stop step : Value)
    (hstart : sliceBound start = .ok first) (hstop : sliceBound stop = .ok last)
    (hstep : sliceBound step = .ok count) (hcount : count.getD 1 ≠ 0) :
    ∃ part, sliceOf s object start stop step = .ok part ∧
      IsSlice xs (normalStart xs.length (count.getD 1) first) (normalStop xs.length (count.getD 1) last)
        (count.getD 1) part.values := by
  have hnonzero : ¬ (count.getD 1 == 0) := by simpa using hcount
  cases h with
  | list ref =>
    refine ⟨.elements (sliceElements (s.list ref) first last (count.getD 1)).toArray, ?_, ?_⟩
    · simp only [sliceOf, hstart, hstop, hstep, bind, Except.bind, if_neg hnonzero]
      rfl
    · rw [Array.length_toList]
      exact sliceElements_isSlice (s.list ref) first last hcount
  | text text =>
    refine ⟨.text (String.ofList (sliceElements text.toList.toArray first last (count.getD 1))), ?_, ?_⟩
    · simp only [sliceOf, hstart, hstop, hstep, bind, Except.bind, if_neg hnonzero]
      rfl
    · rw [SlicePart.values, String.toList_ofList, List.length_map]
      exact (sliceElements_isSlice text.toList.toArray first last hcount).map _

/-- The position that an index means. -/
def normalIndex (length : Nat) (i : Int) : Int :=
  if i < 0 then i + length else i

theorem indexPosition?_eq (n : Nat) (i : Int) :
    indexPosition? n i = if -n ≤ i ∧ i < n then some (normalIndex n i).toNat else none := by
  simp only [indexPosition?, normalIndex, Bool.and_eq_true, decide_eq_true_eq, Int.ofNat_eq_natCast]
  split_ifs <;> first | rfl | omega

section

variable {α : Type} (elements : Array α) (type rangeName : String) {i : Int}

theorem subscriptSequence_inside (hi : -elements.toList.length ≤ i ∧ i < elements.toList.length)
    (hx : elements.toList[(normalIndex elements.toList.length i).toNat]? = some x) :
    subscriptSequence elements type rangeName (.int i) = .ok x := by
  rw [Array.getElem?_toList] at hx
  simp only [subscriptSequence, Value.asInt?, indexPosition?_eq, ← Array.length_toList, if_pos hi,
    Option.bind_some, hx]
  rfl

theorem subscriptSequence_outside
    (hi : ¬ (-elements.toList.length ≤ i ∧ i < elements.toList.length)) :
    subscriptSequence elements type rangeName (.int i) = .error (.error (.indexRange rangeName)) := by
  simp only [subscriptSequence, Value.asInt?, indexPosition?_eq, ← Array.length_toList, if_neg hi]
  rfl

end

/-- An index gives the element at its position, and there is none behind either end. -/
theorem Store.Sequence.subscript (h : s.Sequence object xs) (i : Int) :
    if -xs.length ≤ i ∧ i < xs.length then
      ∃ v, subscript s object (.int i) = .ok v ∧ xs[(normalIndex xs.length i).toNat]? = some v
    else ∃ cause, subscript s object (.int i) = .error (.error cause) := by
  split
  · next hi =>
    have hplace : (normalIndex xs.length i).toNat < xs.length := by
      rw [normalIndex]
      split <;> omega
    cases h with
    | list ref =>
      have hx := List.getElem?_eq_getElem hplace
      exact ⟨_, subscriptSequence_inside _ "list" _ hi hx, hx⟩
    | text text =>
      rw [List.length_map] at hi hplace ⊢
      have hx := List.getElem?_eq_getElem hplace
      refine ⟨_, ?_, by rw [List.getElem?_map, hx, Option.map_some]⟩
      rw [Walkthrough.subscript, subscriptSequence_inside text.toList.toArray _ _ hi hx]
      rfl
  · next hi =>
    refine ⟨.indexRange (if object.kind = "list" then "list" else "string"), ?_⟩
    cases h with
    | list ref => exact subscriptSequence_outside _ "list" _ hi
    | text text =>
      rw [List.length_map] at hi
      rw [Walkthrough.subscript, subscriptSequence_outside text.toList.toArray _ _ hi]
      rfl

/-- The first part of a sequence and the rest of it. -/
theorem IsSlice.append (h : IsSlice xs 0 (normalBound xs.length 1 k) 1 ys)
    (h' : IsSlice xs (normalBound xs.length 1 k) xs.length 1 zs) : ys ++ zs = xs := by
  have hlow : 0 ≤ normalBound xs.length 1 k := normalStart_bound _ (some k) Int.one_ne_zero
  have hhigh : normalBound xs.length 1 k ≤ xs.length :=
    normalStop_bound _ 1 (some k)
  rw [h.eq_segment (by decide), h'.eq_segment hlow, Int.sub_zero, Int.toNat_zero, List.drop_zero,
    List.take_of_length_le (l := xs.drop _) (by rw [List.length_drop]; omega), List.take_append_drop]

theorem slices_exact (s : Store) (object : Value) (xs : List Value) (h : s.Sequence object xs) :
    (∀ (start stop step : Value) (first last count : Option Int), sliceBound start = .ok first →
      sliceBound stop = .ok last → sliceBound step = .ok count → count.getD 1 ≠ 0 →
      ∃ part, sliceOf s object start stop step = .ok part ∧
        IsSlice xs (normalStart xs.length (count.getD 1) first)
          (normalStop xs.length (count.getD 1) last) (count.getD 1) part.values) ∧
    (∀ k : Int, ∃ before behind, sliceOf s object .none (.int k) .none = .ok before ∧
      sliceOf s object (.int k) .none .none = .ok behind ∧ before.values ++ behind.values = xs) ∧
    (∃ part, sliceOf s object .none .none (.int (-1)) = .ok part ∧ part.values = xs.reverse) ∧
    ∀ i : Int,
      if -xs.length ≤ i ∧ i < xs.length then
        ∃ v part, subscript s object (.int i) = .ok v ∧ part.values = [v] ∧
          sliceOf s object (.int (normalIndex xs.length i)) (.int (normalIndex xs.length i + 1)) .none =
            .ok part
      else ∃ cause, subscript s object (.int i) = .error (.error cause) := by
  refine ⟨fun _ _ _ _ _ _ h₁ h₂ h₃ hcount => h.slice _ _ _ h₁ h₂ h₃ hcount, fun k => ?_, ?_, fun i => ?_⟩
  · obtain ⟨before, hbefore, hslice⟩ := h.slice .none (.int k) .none rfl rfl rfl (by decide)
    obtain ⟨behind, hbehind, hslice'⟩ := h.slice (.int k) .none .none rfl rfl rfl (by decide)
    exact ⟨before, behind, hbefore, hbehind, hslice.append hslice'⟩
  · obtain ⟨part, hpart, hslice⟩ := h.slice .none .none (.int (-1)) rfl rfl rfl (by decide)
    exact ⟨part, hpart, hslice.eq_reverse⟩
  · have hsubscript := h.subscript i
    split
    · next hi =>
      rw [if_pos hi] at hsubscript
      obtain ⟨v, hv, hplace⟩ := hsubscript
      obtain ⟨part, hpart, hslice⟩ := h.slice (.int (normalIndex xs.length i))
        (.int (normalIndex xs.length i + 1)) .none rfl rfl rfl (by decide)
      have hindex : 0 ≤ normalIndex xs.length i ∧ normalIndex xs.length i < xs.length := by
        rw [normalIndex]
        split <;> omega
      have hstart : normalStart xs.length 1 (some (normalIndex xs.length i)) = normalIndex xs.length i := by
        simp only [normalStart, Option.elim, normalBound]
        split_ifs <;> omega
      have hstop : normalStop xs.length 1 (some (normalIndex xs.length i + 1)) =
          normalIndex xs.length i + 1 := by
        simp only [normalStop, Option.elim, normalBound]
        split_ifs <;> omega
      refine ⟨v, part, hv, ?_, hpart⟩
      rw [Option.getD_none, hstart, hstop] at hslice
      rw [hslice.eq_segment hindex.1, add_sub_cancel_left, Int.toNat_one,
        List.take_one, List.head?_drop, hplace]
      rfl
    · next hi => rwa [if_neg hi] at hsubscript

theorem slices_exact_word :
    Store.empty.Sequence (.str "step") [.str "s", .str "t", .str "e", .str "p"] ∧
      ∃ part, sliceOf .empty (.str "step") (.int (-2)) .none (.int (-2)) = .ok part ∧
        IsSlice [.str "s", .str "t", .str "e", .str "p"] 2 (-1) (-2) part.values := by
  have h : Store.empty.Sequence (.str "step") [.str "s", .str "t", .str "e", .str "p"] := .text "step"
  exact ⟨h, (slices_exact _ _ _ h).1 (.int (-2)) .none (.int (-2)) (some (-2)) none (some (-2)) rfl rfl rfl
    (by decide)⟩

end Walkthrough
