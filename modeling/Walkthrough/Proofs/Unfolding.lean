import Mathlib.Data.Finset.Card
import Mathlib.Logic.Relation
import Walkthrough.Proofs.Run
import Walkthrough.Value.Export

/-!
# Values written out

A value is written out by walking through everything that it leads to.  The walk goes into a container
each time it comes to it, unless it is inside of that container already; so it always ends
(`Store.unfold`).  The text of a value and its export are two ways to write down the same walk
(`rendering_cuts_exactly`).
-/

namespace Walkthrough

variable {s : Store} {v x : Value} {outer : List Value} {count : Nat}

/-! ## The walk -/

def Value.isContainer : Value → Bool
  | .list _ | .dict _ => true
  | _ => false

/-- The elements of a list or the values of a dictionary. -/
def Store.parts (s : Store) : Value → List Value
  | .list ref => (s.list ref).toList
  | .dict ref => (s.dict ref).values
  | _ => []

def Store.containers (s : Store) : Finset Value :=
  (Finset.range s.lists.size).image .list ∪ (Finset.range s.dicts.size).image .dict

theorem Store.mem_containers (h : x ∈ s.parts v) : v ∈ s.containers := by
  rw [containers, Finset.mem_union]
  cases v with
  | list ref =>
    refine .inl (Finset.mem_image_of_mem _ (Finset.mem_range.mpr (Nat.lt_of_not_le fun href => ?_)))
    rw [parts, Store.list, Array.getElem?_eq_none href] at h
    cases h
  | dict ref =>
    refine .inr (Finset.mem_image_of_mem _ (Finset.mem_range.mpr (Nat.lt_of_not_le fun href => ?_)))
    rw [parts, Store.dict, Array.getElem?_eq_none href] at h
    cases h
  | _ => cases h

/-- Going into a container leaves fewer to go into. -/
theorem Store.fewer_outside (h : x ∈ s.parts v) (houter : v ∉ outer) :
    (s.containers \ (v :: outer).toFinset).card < (s.containers \ outer.toFinset).card := by
  rw [List.toFinset_cons, Finset.sdiff_insert]
  exact Finset.card_erase_lt_of_mem
    (Finset.mem_sdiff.mpr ⟨mem_containers h, by rwa [List.mem_toFinset]⟩)

/-- How the parts of a walk are written down. -/
structure Writing (β : Type) where
  leaf : Value → β
  /-- A container inside itself. -/
  cut : Value → β
  node : Value → List β → β

/-- A value written out; `outer` holds the containers that it is inside of. -/
def Store.unfold {β : Type} (s : Store) (w : Writing β) (outer : List Value) (v : Value) : β :=
  if v.isContainer then
    if v ∈ outer then w.cut v
    else w.node v ((s.parts v).attach.map fun x => s.unfold w (v :: outer) x.1)
  else w.leaf v
termination_by (s.containers \ outer.toFinset).card
decreasing_by exact Store.fewer_outside x.2 ‹_›

theorem Store.unfold_eq (s : Store) (w : Writing β) (outer : List Value) (v : Value) :
    s.unfold w outer v = if v.isContainer then
        if v ∈ outer then w.cut v else w.node v ((s.parts v).map (s.unfold w (v :: outer)))
      else w.leaf v := by
  rw [Store.unfold, List.attach_map_val]

/-! ## Texts and documents -/

/-- Whether containers nest at most so deeply. -/
def nestsWithin : Writing (Nat → Prop) where
  leaf _ _ := True
  cut _ _ := True
  node _ parts depth := ∃ d, depth = d + 1 ∧ ∀ part ∈ parts, part d

def cutText : Value → String
  | .dict _ => "\x7b...\x7d"
  | _ => "[...]"

/-- The text of a value. -/
def textWriting (s : Store) : Writing (Except Failure String) where
  leaf v := render .plain s 0 [] v
  cut v := .ok (cutText v)
  node v parts :=
    match v with
    | .dict ref => do
      let texts ← ((s.dict ref).keys.zip parts).mapM fun (key, part) => do
        let key ← ofFault key.spelling.show
        return key ++ ": " ++ (← part)
      return "\x7b" ++ ", ".intercalate texts ++ "\x7d"
    | _ => do return "[" ++ ", ".intercalate (← parts.mapM id) ++ "]"

/-- The export of a value. -/
def documentWriting (s : Store) : Writing (Except Failure Json) where
  leaf v := jsonOfValue s 0 [] v
  cut v := .ok (.str (cutText v))
  node v parts :=
    match v with
    | .dict ref => do
      let entries ← ((s.dict ref).keys.zip parts).mapM fun (key, part) => do
        let name ← Value.text s (.scalar key.spelling)
        return (name, ← part)
      return .ofTable (Table.ofList entries)
    | _ => do return .list (← parts.mapM id)

section

variable {β : Type} {s : Store} {w : Writing (Except Failure β)}
  {walk : Nat → List Value → Value → Except Failure β}

/-- A walk that goes no deeper than a given depth. -/
structure Writing.Bounds (s : Store) (w : Writing (Except Failure β))
    (walk : Nat → List Value → Value → Except Failure β) : Prop where
  leaf (depth : Nat) (outer : List Value) {v : Value} : v.isContainer = false →
    walk depth outer v = w.leaf v
  cut (depth : Nat) {outer : List Value} {v : Value} : v.isContainer → v ∈ outer →
    walk depth outer v = w.cut v
  node (depth : Nat) {outer : List Value} {v : Value} : v.isContainer → v ∉ outer →
    walk (depth + 1) outer v = w.node v ((s.parts v).map (walk depth (v :: outer)))

theorem Writing.Bounds.eq_unfold (h : w.Bounds s walk) (hdepth : s.unfold nestsWithin outer v depth) :
    walk depth outer v = s.unfold w outer v := by
  induction outer, v using Store.unfold.induct s generalizing depth with
  | case1 outer v hv hmem => rw [Store.unfold_eq, if_pos hv, if_pos hmem, h.cut _ hv hmem]
  | case2 outer v hv hmem ih =>
    rw [Store.unfold_eq, if_pos hv, if_neg hmem] at hdepth ⊢
    obtain ⟨depth, rfl, hparts⟩ := hdepth
    rw [h.node _ hv hmem,
      List.map_congr_left fun x hx => ih ⟨x, hx⟩ (hparts _ (List.mem_map_of_mem hx))]
  | case3 outer v hv => rw [Store.unfold_eq, if_neg hv, h.leaf _ _ (Bool.eq_false_of_not_eq_true hv)]

end

theorem zip_values (d : Dict) (f : Value → γ) :
    d.keys.zip (d.values.map f) = d.entries.map fun entry => (entry.1, f entry.2) := by
  rw [Table.keys, Table.values, List.map_map, List.zip_map']
  rfl

theorem textWriting_bounds (s : Store) : (textWriting s).Bounds s (render .plain s) where
  leaf depth outer v hv := by
    cases v with
    | list | dict => cases hv
    | _ => cases depth <;> rfl
  cut depth outer v hv hmem := by
    have hcontains : outer.contains v := by simpa using hmem
    cases v with
    | list | dict => cases depth <;> rw [render, if_pos hcontains] <;> rfl
    | _ => cases hv
  node depth outer v hv hmem := by
    have hcontains : ¬ outer.contains v := by simpa using hmem
    cases v with
    | list ref =>
      simp only [render, if_neg hcontains, textWriting, Store.parts, List.mapM_map]
      rfl
    | dict ref =>
      simp only [render, if_neg hcontains, textWriting, Store.parts, zip_values, List.mapM_map]
      rfl
    | _ => cases hv

theorem documentWriting_bounds (s : Store) : (documentWriting s).Bounds s (jsonOfValue s) where
  leaf depth outer v hv := by
    cases v with
    | list | dict => cases hv
    | _ => cases depth <;> rfl
  cut depth outer v hv hmem := by
    have hcontains : outer.contains v := by simpa using hmem
    cases v with
    | list | dict => cases depth <;> rw [jsonOfValue, if_pos hcontains] <;> rfl
    | _ => cases hv
  node depth outer v hv hmem := by
    have hcontains : ¬ outer.contains v := by simpa using hmem
    cases v with
    | list ref =>
      simp only [jsonOfValue, if_neg hcontains, documentWriting, Store.parts, List.mapM_map]
      rfl
    | dict ref =>
      simp only [jsonOfValue, if_neg hcontains, documentWriting, Store.parts, zip_values, List.mapM_map]
      rfl
    | _ => cases hv

/-! ## Values without cycles -/

/-- The first value is a container that holds the second. -/
def Store.Holds (s : Store) (v x : Value) : Prop := x ∈ s.parts v

/-- Nothing that a value leads to leads to itself. -/
def Store.Acyclic (s : Store) (v : Value) : Prop :=
  ∀ x, Relation.ReflTransGen s.Holds v x → ¬ Relation.TransGen s.Holds x x

/-- A value written out in full, part by part. -/
inductive Store.Plainly {β : Type} (s : Store) (w : Writing β) : Value → β → Prop where
  | leaf {v : Value} : v.isContainer = false → s.Plainly w v (w.leaf v)
  | node {v : Value} {parts : List β} : v.isContainer → List.Forall₂ (s.Plainly w) (s.parts v) parts →
      s.Plainly w v (w.node v parts)

/-- The walk meets only containers that it is not inside of. -/
theorem Store.Acyclic.plainly (h : s.Acyclic root) (w : Writing β)
    (hroot : Relation.ReflTransGen s.Holds root v) (houter : ∀ x ∈ outer, Relation.TransGen s.Holds x v) :
    s.Plainly w v (s.unfold w outer v) := by
  induction outer, v using Store.unfold.induct s with
  | case1 outer v hv hmem => exact absurd (houter v hmem) (h v hroot)
  | case2 outer v hv hmem ih =>
    rw [Store.unfold_eq, if_pos hv, if_neg hmem]
    refine .node hv (List.forall₂_map_right_iff.mpr (List.forall₂_same.mpr fun x hx => ?_))
    refine ih ⟨x, hx⟩ (hroot.tail hx) fun y hy => ?_
    rcases List.mem_cons.mp hy with rfl | hy
    · exact .single hx
    · exact (houter y hy).tail hx
  | case3 outer v hv =>
    rw [Store.unfold_eq, if_neg hv]
    exact .leaf (Bool.eq_false_of_not_eq_true hv)

/-! ## Markers -/

/-- From a value one comes to another by the positions of parts, through the containers `passed`
besides those that the value is inside of. -/
inductive Store.Trail (s : Store) : List Value → Value → List Nat → List Value → Value → Prop where
  | here {outer : List Value} {v : Value} : s.Trail outer v [] outer v
  | step {outer passed : List Value} {v x y : Value} {i : Nat} {path : List Nat} : v ∉ outer →
      (s.parts v)[i]? = some x → s.Trail (v :: outer) x path passed y →
      s.Trail outer v (i :: path) passed y

/-- The containers inside themselves that are cut, by their positions. -/
def markers : Writing (List Nat → Option Value) where
  leaf _ _ := none
  cut v path := if path = [] then some v else none
  node _ parts path := path.head?.bind fun i => parts[i]?.bind fun part => part path.tail

/-- A container is cut where it is one of those that it is inside of, and only there. -/
theorem Store.unfold_markers : s.unfold markers outer v path = some x ↔
      ∃ passed, s.Trail outer v path passed x ∧ x.isContainer ∧ x ∈ passed := by
  induction outer, v using Store.unfold.induct s generalizing path with
  | case1 outer v hv hmem =>
    rw [Store.unfold_eq, if_pos hv, if_pos hmem]
    constructor
    · intro h
      change (if path = [] then some v else none) = some x at h
      split at h
      · next hpath =>
        cases h
        exact ⟨outer, hpath ▸ .here, hv, hmem⟩
      · cases h
    · rintro ⟨passed, htrail, hx, _⟩
      cases htrail with
      | here => rfl
      | step hout _ _ => exact absurd hmem hout
  | case2 outer v hv hmem ih =>
    rw [Store.unfold_eq, if_pos hv, if_neg hmem]
    cases path with
    | nil =>
      refine ⟨nofun, ?_⟩
      rintro ⟨_, ⟨⟩, _, hx⟩
      exact absurd hx hmem
    | cons i path =>
      change ((s.parts v).map (s.unfold markers (v :: outer)))[i]?.bind (· path) = some x ↔ _
      rw [List.getElem?_map]
      constructor
      · intro h
        obtain ⟨part, hpart, h⟩ := Option.bind_eq_some_iff.mp h
        obtain ⟨y, hy, rfl⟩ := Option.map_eq_some_iff.mp hpart
        obtain ⟨passed, htrail, hx⟩ := (ih ⟨y, List.mem_of_getElem? hy⟩).mp h
        exact ⟨passed, .step hmem hy htrail, hx⟩
      · rintro ⟨passed, htrail, hx⟩
        cases htrail with
        | @step _ _ _ y _ _ _ _ hy htrail =>
          rw [hy]
          exact (ih ⟨y, List.mem_of_getElem? hy⟩).mpr ⟨passed, htrail, hx⟩
  | case3 outer v hv =>
    rw [Store.unfold_eq, if_neg hv]
    refine ⟨nofun, ?_⟩
    rintro ⟨passed, htrail, hx, _⟩
    cases htrail with
    | here => exact absurd hx hv
    | step _ hy _ =>
      cases v with
      | list | dict => exact absurd rfl hv
      | _ => cases hy

/-- A list with itself as its second element, beside a list that is there twice. -/
def tangledStore : Store :=
  ⟨#[#[.list 1, .list 0, .list 1], #[.int 5]], #[], #[], 0⟩

/-- Lists inside each other: each but the first has the one before it as its only element. -/
def nestedLists (count : Nat) : Store :=
  ⟨(Array.range count).map fun i => if i = 0 then #[] else #[.list (i - 1)], #[], #[], 0⟩

theorem nestedLists_list (h : ref + 1 < count) : (nestedLists count).list (ref + 1) = #[.list ref] := by
  simp [nestedLists, Store.list, h]

theorem nestedLists_holds (h : (nestedLists count).Holds v x) :
    ∃ i, v = .list (i + 1) ∧ x = .list i := by
  cases v with
  | list ref =>
    cases ref with
    | zero => cases count <;> simp [Store.Holds, Store.parts, Store.list, nestedLists] at h
    | succ ref =>
      by_cases href : ref + 1 < count
      · rw [Store.Holds, Store.parts, nestedLists_list href] at h
        exact ⟨ref, rfl, List.mem_singleton.mp h⟩
      · simp [Store.Holds, Store.parts, Store.list, nestedLists, href] at h
  | _ => cases h

/-- Where what is inside has a smaller rank, nothing is inside itself. -/
theorem Store.acyclic_of_rank (rank : Value → Nat) (h : ∀ v x, s.Holds v x → rank x < rank v) (v : Value) :
    s.Acyclic v := by
  intro x _ hcycle
  have hless : Relation.TransGen (· > ·) (rank x) (rank x) := hcycle.lift rank h
  rw [Relation.transGen_eq_self] at hless
  exact Nat.lt_irrefl _ hless

def Value.listRank : Value → Nat
  | .list i => i
  | _ => 0

/-- Further inside, the lists have smaller numbers. -/
theorem nestedLists_acyclic (count : Nat) : ∀ v, (nestedLists count).Acyclic v := by
  refine Store.acyclic_of_rank Value.listRank fun v x h => ?_
  obtain ⟨i, rfl, rfl⟩ := nestedLists_holds h
  exact Nat.lt_succ_self i

theorem render_nestedLists (depth : Nat) : ∀ (ref : Nat) (outer : List Value), depth ≤ ref →
    ref < count → (∀ i ≤ ref, .list i ∉ outer) →
    render .plain (nestedLists count) depth outer (.list ref) = .error .tooDeep := by
  induction depth with
  | zero =>
    intro ref outer _ _ houter
    rw [render, if_neg (by simpa using houter ref Nat.le.refl)]
  | succ depth ih =>
    intro ref outer hdepth hcount houter
    obtain ⟨ref, rfl⟩ : ∃ k, ref = k + 1 := ⟨ref - 1, by omega⟩
    rw [render, if_neg (by simpa using houter (ref + 1) Nat.le.refl), nestedLists_list hcount]
    have hinner := ih ref (.list (ref + 1) :: outer) (by omega) (by omega) fun i hi => by
      rw [List.mem_cons, not_or, Value.list.injEq]
      exact ⟨by omega, houter i (by omega)⟩
    simp only [List.mapM_cons, hinner]
    rfl

end Walkthrough
