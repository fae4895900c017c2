import Walkthrough.Proofs.Graph
import Walkthrough.Proofs.Run

/-!
# What a snapshot is

A snapshot changes no node of the store that it is taken from.  It adds copies: each is the copy of
one container, holds copies only, and matches what it was copied from.  `Copying.Inv` is the
invariant of the walk that makes the copies; containers whose copies are still being filled are
pending.  The walk fails only where too many containers stand one inside the other.
-/

namespace Walkthrough

variable {x : Scalar} {c : Copying} {s : Store} {pending : Node → Prop} {old new : Node}
  {r : Node → Node → Prop} {v : Value} {action : Action}

/-- Whether the node of a value, if it has one, exists. -/
def Store.Knows (s : Store) (v : Value) : Prop :=
  ∀ n, v.node? = some n → s.Has n

/-- The only scalars with a node are those with a mark. -/
theorem Value.node?_scalar (h : (Value.scalar x).node? = some n) :
    ∃ mark, x = .nan mark ∧ n = .mark mark := by
  cases x <;> cases h
  exact ⟨_, rfl, rfl⟩

theorem Value.node?_scalar_eq_none (hx : x.isNan = false) :
    (Value.scalar x).node? = Option.none := by
  cases x <;> first | rfl | cases hx

theorem Store.knows_scalar (s : Store) (hx : x.isNan = false) :
    s.Knows (.scalar x) := by
  intro n hn
  rw [Value.node?_scalar_eq_none hx] at hn
  cases hn

/-- Every value that some node holds refers to a node that exists. -/
def Store.Valid (s : Store) : Prop :=
  ∀ n, ∀ v ∈ (s.cell n).values, s.Knows v

/-! ## The invariant of copying -/

/-- Which new container stands for which old one. -/
def Copying.Maps (c : Copying) : Node → Node → Prop
  | .list a, .list b => c.lists[a]? = some b
  | .dict a, .dict b => c.dicts[a]? = some b
  | _, _ => False

/-- The state of a walk that copies from `s`, while the copies of the `pending` containers are not
filled yet. -/
structure Copying.Inv (s : Store) (pending : Node → Prop) (c : Copying) : Prop where
  functions : c.store.functions = s.functions
  marks : c.store.marks = s.marks
  grown {n : Node} : s.Has n → c.store.Has n
  kept {n : Node} : s.Has n → c.store.cell n = s.cell n
  source {a b : Node} : c.Maps a b → s.Has a
  fresh {a b : Node} : c.Maps a b → ¬ s.Has b ∧ c.store.Has b
  injective {a a' b : Node} : c.Maps a b → c.Maps a' b → a = a'
  blank {a b : Node} : c.Maps a b → pending a → (c.store.cell b).values = []
  filled {a b : Node} : c.Maps a b → ¬ pending a → (s.cell a).Matches c.Maps (c.store.cell b)
  copies {n : Node} : c.store.Has n → ¬ s.Has n → ∃ a, c.Maps a n
  begun {a : Node} : pending a → ∃ b, c.Maps a b

theorem Copying.Maps.functional (h : c.Maps a b) (h' : c.Maps a b') : b = b' := by
  cases a <;> cases b <;> cases b' <;> simp_all [Copying.Maps]

/-- Before anything is copied. -/
theorem Copying.Inv.start (s : Store) : Copying.Inv s (fun _ => False) ⟨s, ∅, ∅⟩ := by
  have none_maps : ∀ a b, ¬ Copying.Maps ⟨s, ∅, ∅⟩ a b := by
    intro a b h
    cases a <;> cases b <;> simp [Copying.Maps] at h
  exact {
    functions := rfl
    marks := rfl
    grown := id
    kept := fun _ => rfl
    source := fun h => absurd h (none_maps _ _)
    fresh := fun h => absurd h (none_maps _ _)
    injective := fun h => absurd h (none_maps _ _)
    blank := fun h => absurd h (none_maps _ _)
    filled := fun h => absurd h (none_maps _ _)
    copies := fun h hn => absurd h hn
    begun := False.elim }

/-- The new empty container `new` stands for the container `old` from now on. -/
structure Copying.Begins (c c' : Copying) (old new : Node) : Prop where
  unmapped {b : Node} : ¬ c.Maps old b
  absent : ¬ c.store.Has new
  functions : c'.store.functions = c.store.functions
  marks : c'.store.marks = c.store.marks
  has {n : Node} : c'.store.Has n ↔ c.store.Has n ∨ n = new
  cell (n : Node) : c'.store.cell n = c.store.cell n
  maps {a b : Node} : c'.Maps a b ↔ c.Maps a b ∨ a = old ∧ b = new

theorem Copying.Inv.begin (hc : c.Inv s pending) (h : c.Begins c' old new) (hold : s.Has old) :
    c'.Inv s (fun n => n = old ∨ pending n) := by
  refine { functions := h.functions.trans hc.functions, marks := h.marks.trans hc.marks,
           grown := fun hn => h.has.mpr (.inl (hc.grown hn)), kept := ?_, source := ?_, fresh := ?_,
           injective := ?_, blank := ?_, filled := ?_, copies := ?_, begun := ?_ }
  · intro n hn
    rw [h.cell, hc.kept hn]
  · intro a b hab
    rcases h.maps.mp hab with hab | ⟨rfl, rfl⟩
    · exact hc.source hab
    · exact hold
  · intro a b hab
    rcases h.maps.mp hab with hab | ⟨rfl, rfl⟩
    · exact ⟨(hc.fresh hab).1, h.has.mpr (.inl (hc.fresh hab).2)⟩
    · exact ⟨fun hs => h.absent (hc.grown hs), h.has.mpr (.inr rfl)⟩
  · intro a a' b hab hab'
    rcases h.maps.mp hab with hab | ⟨rfl, rfl⟩ <;> rcases h.maps.mp hab' with hab' | ⟨rfl, hb⟩
    · exact hc.injective hab hab'
    · exact absurd (hb ▸ (hc.fresh hab).2) h.absent
    · exact absurd (hc.fresh hab').2 h.absent
    · rfl
  · intro a b hab hp
    rw [h.cell]
    rcases h.maps.mp hab with hab | ⟨rfl, rfl⟩
    · rcases hp with rfl | hp
      · exact absurd hab h.unmapped
      · exact hc.blank hab hp
    · exact Store.cell_values_of_not_has h.absent
  · intro a b hab hp
    rcases h.maps.mp hab with hab | ⟨rfl, rfl⟩
    · rw [h.cell]
      exact (hc.filled hab fun hpa => hp (.inr hpa)).imp fun x y hxy => h.maps.mpr (.inl hxy)
    · exact absurd (.inl rfl) hp
  · intro n hn hs
    rcases h.has.mp hn with hn | rfl
    · exact (hc.copies hn hs).imp fun a ha => h.maps.mpr (.inl ha)
    · exact ⟨old, h.maps.mpr (.inr ⟨rfl, rfl⟩)⟩
  · intro a ha
    rcases ha with rfl | ha
    · exact ⟨new, h.maps.mpr (.inr ⟨rfl, rfl⟩)⟩
    · exact (hc.begun ha).imp fun b hb => h.maps.mpr (.inl hb)

/-- The container `new` holds `cell` from now on. -/
structure Copying.Fills (c c' : Copying) (new : Node) (cell : Cell) : Prop where
  functions : c'.store.functions = c.store.functions
  marks : c'.store.marks = c.store.marks
  has {n : Node} : c'.store.Has n ↔ c.store.Has n
  cell (n : Node) : c'.store.cell n = if n = new then cell else c.store.cell n
  maps : c'.Maps = c.Maps

/-- The copy `new` of the container `old` is filled. -/
theorem Copying.Inv.fill (hc : c.Inv s (fun n => n = old ∨ pending n)) (hpending : ¬ pending old)
    (hmap : c.Maps old new) (h : c.Fills c' new cell) (hfilled : (s.cell old).Matches c.Maps cell) :
    c'.Inv s pending := by
  have hother {a b : Node} (hab : c.Maps a b) (ha : a ≠ old) : c'.store.cell b = c.store.cell b := by
    rw [h.cell, if_neg]
    rintro rfl
    exact ha (hc.injective hab hmap)
  have hkept {n : Node} (hn : s.Has n) : c'.store.cell n = s.cell n := by
    rw [h.cell, if_neg, hc.kept hn]
    rintro rfl
    exact (hc.fresh hmap).1 hn
  refine { functions := h.functions.trans hc.functions, marks := h.marks.trans hc.marks,
           grown := fun hn => h.has.mpr (hc.grown hn), kept := hkept, source := ?_, fresh := ?_,
           injective := ?_, blank := ?_, filled := ?_, copies := ?_, begun := ?_ } <;>
    simp only [h.maps]
  · exact hc.source
  · exact fun hab => ⟨(hc.fresh hab).1, h.has.mpr (hc.fresh hab).2⟩
  · exact hc.injective
  · intro a b hab hp
    rw [hother hab fun ha => hpending (ha ▸ hp)]
    exact hc.blank hab (.inr hp)
  · intro a b hab hp
    by_cases ha : a = old
    · subst ha
      rwa [hab.functional hmap, h.cell, if_pos rfl]
    · rw [hother hab ha]
      exact hc.filled hab (by simp [ha, hp])
  · exact fun hn => hc.copies (h.has.mp hn)
  · exact fun ha => hc.begun (.inr ha)

/-! ## Nesting -/

/-- Containers of which each holds the next, the first of them being among the `roots`. -/
def Store.Path (s : Store) (roots : List Value) : List Node → Prop
  | [] => True
  | n :: rest => n.IsContainer ∧ (∃ v ∈ roots, v.node? = some n) ∧ s.Path (s.cell n).values rest

/-- No more than `depth` containers stand one inside the other, if each counts once and those that are
copied already do not count. -/
def Copying.Shallow (c : Copying) (s : Store) (roots : List Value) (depth : Nat) : Prop :=
  ∀ path, s.Path roots path → path.Nodup → (∀ n ∈ path, ∀ b, ¬ c.Maps n b) → path.length ≤ depth

section

variable {c c' : Copying} {roots roots' : List Value}

theorem Copying.Shallow.mono (h : c.Shallow s roots depth) (hmaps : ∀ a b, c.Maps a b → c'.Maps a b)
    (hroots : roots' ⊆ roots) : c'.Shallow s roots' depth := by
  intro path hpath hnodup hnew
  refine h path ?_ hnodup fun n hn b hb => hnew n hn b (hmaps n b hb)
  cases path with
  | nil => trivial
  | cons n rest =>
    obtain ⟨hcontainer, ⟨v, hv, hn⟩, hrest⟩ := hpath
    exact ⟨hcontainer, ⟨v, hroots hv, hn⟩, hrest⟩

/-- There is room for a container that is not copied yet. -/
theorem Copying.Shallow.pos (h : c.Shallow s [v] depth) (hv : v.node? = some old)
    (hcontainer : old.IsContainer) (hunmapped : ∀ b, ¬ c.Maps old b) : 0 < depth :=
  h [old] ⟨hcontainer, ⟨v, List.mem_singleton_self v, hv⟩, trivial⟩ (by simp)
    (List.forall_mem_singleton.mpr hunmapped)

/-- Inside a container that is being copied there is one level less. -/
theorem Copying.Shallow.enter (h : c.Shallow s [v] (depth + 1)) (hv : v.node? = some old)
    (hcontainer : old.IsContainer) (hbegins : c.Begins c' old new) :
    c'.Shallow s (s.cell old).values depth := by
  intro path hpath hnodup hnew
  have hold : old ∉ path := fun hmem => hnew old hmem new (hbegins.maps.mpr (.inr ⟨rfl, rfl⟩))
  refine Nat.le_of_succ_le_succ (h (old :: path) ⟨hcontainer, ⟨v, List.mem_singleton_self v, hv⟩, hpath⟩
    (List.nodup_cons.mpr ⟨hold, hnodup⟩) (List.forall_mem_cons.mpr ⟨fun b => hbegins.unmapped, ?_⟩))
  exact fun n hn b hb => hnew n hn b (hbegins.maps.mpr (.inl hb))

end

/-! ## Walks -/

/-- A part of a walk that starts with the `pending` copies unfilled: it keeps the invariant, forgets
no copy, and if it succeeds it leaves just the same copies unfilled and a result as `R` says.  It
fails only if `fails` holds. -/
def Walks {α : Type} (s : Store) (fails : Prop) (pending : Node → Prop) (x : CopyM α) (c : Copying)
    (R : (Node → Node → Prop) → α → Prop) : Prop :=
  ∃ q, (exec x c).2.Inv s q ∧ (∀ a b, c.Maps a b → (exec x c).2.Maps a b) ∧
    match (exec x c).1 with
    | .ok v => q = pending ∧ R (exec x c).2.Maps v
    | .error _ => fails

section

variable {α β : Type} {s : Store} {fails : Prop} {pending : Node → Prop} {c : Copying}

theorem Walks.pure {R : (Node → Node → Prop) → α → Prop} {v : α} (hc : c.Inv s pending)
    (h : R c.Maps v) : Walks s fails pending (pure v) c R :=
  ⟨pending, hc, fun _ _ h => h, rfl, h⟩

theorem Walks.bind {x : CopyM α} {f : α → CopyM β} {R : (Node → Node → Prop) → α → Prop}
    {T : (Node → Node → Prop) → β → Prop} (hx : Walks s fails pending x c R)
    (hf : ∀ v c', c'.Inv s pending → (∀ a b, c.Maps a b → c'.Maps a b) → R c'.Maps v →
      Walks s fails pending (f v) c' T) : Walks s fails pending (x >>= f) c T := by
  obtain ⟨q, hinv, hmaps, hend⟩ := hx
  rcases hexec : exec x c with ⟨failure | v, c'⟩
  · rw [hexec] at hinv hmaps hend
    refine ⟨q, ?_⟩
    rw [exec_bind_error hexec]
    exact ⟨hinv, hmaps, hend⟩
  · rw [hexec] at hinv hmaps hend
    obtain ⟨rfl, hR⟩ := hend
    obtain ⟨q', hinv', hmaps', hend'⟩ := hf v c' hinv hmaps hR
    refine ⟨q', ?_⟩
    rw [exec_bind_ok hexec]
    exact ⟨hinv', fun a b h => hmaps' a b (hmaps a b h), hend'⟩

/-- Copying the elements of a list one after another. -/
theorem Walks.mapM {f : α → CopyM β} {R : (Node → Node → Prop) → α → β → Prop}
    (mono : ∀ r r' a b, (∀ x y, r x y → r' x y) → R r a b → R r' a b) {l : List α}
    (hf : ∀ a ∈ l, ∀ c', c'.Inv s pending → (∀ x y, c.Maps x y → c'.Maps x y) →
      Walks s fails pending (f a) c' (R · a)) (hc : c.Inv s pending) :
    Walks s fails pending (l.mapM f) c (fun r l' => List.Forall₂ (R r) l l') := by
  induction l generalizing c with
  | nil => exact Walks.pure hc .nil
  | cons a l ih =>
    rw [List.mapM_cons]
    refine Walks.bind (hf a (by simp) c hc fun _ _ h => h) fun b c' hc' hgrow hb => ?_
    refine Walks.bind (ih (fun a ha c' hc' h => ?_) hc') fun bs c'' hc'' hmaps hbs => ?_
    · exact hf a (by simp [ha]) c' hc' fun x y hxy => h x y (hgrow x y hxy)
    · exact Walks.pure hc'' (.cons (mono _ _ _ _ hmaps hb) hbs)

theorem Walks.imp {x : CopyM α} {R T : (Node → Node → Prop) → α → Prop} (hx : Walks s fails pending x c R)
    (h : ∀ r v, R r v → T r v) : Walks s fails pending x c T := by
  obtain ⟨q, hinv, hmaps, hend⟩ := hx
  refine ⟨q, hinv, hmaps, ?_⟩
  split at hend
  · exact ⟨hend.1, h _ _ hend.2⟩
  · exact hend

theorem Walks.throw {R : (Node → Node → Prop) → α → Prop} {failure : Failure}
    (hc : c.Inv s pending) (h : fails) : Walks s fails pending (throw failure) c R :=
  ⟨pending, hc, fun _ _ h => h, h⟩

theorem Walks.get_bind (h : Walks s fails pending (f c) c R) :
    Walks s fails pending (get >>= f) c R := h

/-- Copying a container: a new one stands for it, what is in it is copied and the new one filled
with that. -/
theorem Walks.container {begin : CopyM Nat} {c₁ : Copying} {x : CopyM α} {g : α → Copying → Copying}
    {R : (Node → Node → Prop) → α → Prop} {T : (Node → Node → Prop) → β → Prop} {v : β}
    {f : Nat → CopyM β} (hc : c.Inv s pending) (hbegins : c.Begins c₁ old new)
    (hexec : exec begin c = (.ok ref, c₁))
    (hx : Walks s fails (fun n => n = old ∨ pending n) x c₁ R)
    (hf : f ref = do let e ← x; modify (g e); return v)
    (hfills : ∀ e (c : Copying), c.store.Has new → R c.Maps e → ∃ cell, c.Fills (g e c) new cell ∧ (s.cell old).Matches c.Maps cell)
    (hT : ∀ r, r old new → T r v) : Walks s fails pending (begin >>= f) c T := by
  rw [Walks, exec_bind_ok hexec, hf]
  obtain ⟨q, hinv, hgrow, hend⟩ := hx
  have hkept : ∀ a b, c.Maps a b → (exec x c₁).2.Maps a b :=
    fun a b h => hgrow a b (hbegins.maps.mpr (.inl h))
  have hmap := hgrow old new (hbegins.maps.mpr (.inr ⟨rfl, rfl⟩))
  rcases hexec : exec x c₁ with ⟨failure | e, c'⟩ <;> rw [hexec] at hinv hkept hmap hend
  · rw [exec_bind_error hexec]
    exact ⟨q, hinv, hkept, hend⟩
  · obtain ⟨rfl, hR⟩ := hend
    obtain ⟨cell, hfill, hfilled⟩ := hfills e c' (hinv.fresh hmap).2 hR
    have hpending : ¬ pending old := fun hp => hbegins.unmapped (hc.begun hp).choose_spec
    rw [exec_bind_ok hexec]
    exact ⟨pending, hinv.fill hpending hmap hfill hfilled, fun a b h => hfill.maps ▸ hkept a b h, rfl,
      hT _ (hfill.maps ▸ hmap)⟩

end

/-! ## Values -/

theorem Copying.begins_list (hunmapped : c.lists[ref]? = none) :
    c.Begins { c with
      store := c.store.reserveList.2
      lists := c.lists.insert ref c.store.reserveList.1 } (.list ref) (.list c.store.reserveList.1) where
  unmapped {b} h := by cases b <;> simp [Copying.Maps, hunmapped] at h
  absent := by simp [Store.Has, Store.reserveList]
  functions := rfl
  marks := rfl
  has := Store.has_addList
  cell := Store.cell_reserveList _
  maps {a b} := by
    cases a <;> cases b <;> simp [Copying.Maps, Std.TreeMap.getElem?_insert]
    grind

theorem Copying.begins_dict (hunmapped : c.dicts[ref]? = none) :
    c.Begins { c with
      store := c.store.reserveDict.2
      dicts := c.dicts.insert ref c.store.reserveDict.1 } (.dict ref) (.dict c.store.reserveDict.1) where
  unmapped {b} h := by cases b <;> simp [Copying.Maps, hunmapped] at h
  absent := by simp [Store.Has, Store.reserveDict]
  functions := rfl
  marks := rfl
  has := Store.has_addDict
  cell := Store.cell_reserveDict _
  maps {a b} := by
    cases a <;> cases b <;> simp [Copying.Maps, Std.TreeMap.getElem?_insert]
    grind

theorem Copying.fills_list (h : c.store.Has (.list ref)) (elements : Array Value) :
    c.Fills { c with store := c.store.modifyList ref fun _ => elements } (.list ref)
      (.list elements) where
  functions := rfl
  marks := rfl
  has := Store.has_modifyList
  cell n := by
    split
    · next hn => rw [hn, Store.cell, Store.list_modifyList, if_pos ⟨rfl, h⟩]
    · next hn => exact Store.cell_modifyList hn
  maps := by funext a b; cases a <;> cases b <;> rfl

theorem Copying.fills_dict (h : c.store.Has (.dict ref)) (entries : Dict) :
    c.Fills { c with store := c.store.modifyDict ref fun _ => entries } (.dict ref)
      (.dict entries) where
  functions := rfl
  marks := rfl
  has := Store.has_modifyDict
  cell n := by
    split
    · next hn => rw [hn, Store.cell, Store.dict_modifyDict, if_pos ⟨rfl, h⟩]
    · next hn => exact Store.cell_modifyDict hn
  maps := by funext a b; cases a <;> cases b <;> rfl

/-- A way to copy values that keeps the invariant and makes matching copies.  Values that nest no
deeper than `depth` are copied, unless `fails` holds. -/
def Copies (s : Store) (fails : Prop) (depth : Nat) (copy : Value → CopyM Value) : Prop :=
  ∀ v pending c, c.Inv s pending → s.Knows v → (¬ fails → c.Shallow s [v] depth) →
    Walks s fails pending (copy v) c (fun r v' => v.Matches r v')

section

variable {copy : Value → CopyM Value} (hcopy : Copies s fails depth copy)

include hcopy

/-- Copying one of some values, after others perhaps. -/
theorem Copies.member {roots : List Value} (hshallow : ¬ fails → c.Shallow s roots depth)
    (hgrow : ∀ a b, c.Maps a b → c'.Maps a b) (hc : c'.Inv s pending) (hv : v ∈ roots)
    (hknown : s.Knows v) : Walks s fails pending (copy v) c' (fun r v' => v.Matches r v') :=
  hcopy v pending c' hc hknown fun hfails => (hshallow hfails).mono hgrow (List.cons_subset.mpr ⟨hv, by simp⟩)

theorem Copies.values {vs : List Value} (hc : c.Inv s pending) (hknown : ∀ v ∈ vs, s.Knows v)
    (hshallow : ¬ fails → c.Shallow s vs depth) :
    Walks s fails pending (vs.mapM copy) c fun r vs' => List.Forall₂ (Value.Matches r) vs vs' :=
  Walks.mapM (R := Value.Matches) (fun _ _ _ _ hr h => h.imp hr)
    (fun v hv _ hc hgrow => hcopy.member hshallow hgrow hc hv (hknown v hv)) hc

/-- Copying all entries of a table. -/
theorem Copies.entries {κ : Type} {entries : List (κ × Value)} (hc : c.Inv s pending)
    (hknown : ∀ v ∈ entries.map (·.2), s.Knows v)
    (hshallow : ¬ fails → c.Shallow s (entries.map (·.2)) depth) :
    Walks s fails pending (entries.mapM fun (key, v) => do return (key, ← copy v)) c
      (fun r entries' => List.Forall₂ (Binding.Matches r) entries entries') := by
  refine Walks.mapM (fun r r' a b hr hab => ⟨hab.1, hab.2.imp hr⟩) (fun entry hentry c' hc' hgrow => ?_) hc
  have hv := List.mem_map_of_mem (f := (·.2)) hentry
  refine Walks.bind (hcopy.member hshallow hgrow hc' hv (hknown _ hv)) ?_
  exact fun v c' hc' _ hv => Walks.pure hc' ⟨rfl, hv⟩

end

/-- The copy of a value matches the value, whatever depth is allowed. -/
theorem copies_copyValue (hs : s.Valid) (fails : Prop) (depth : Nat) :
    Copies s fails depth (copyValue depth) := by
  induction depth using Nat.strongRecOn with | ind depth ih => ?_
  intro v pending c hc hv hshallow
  rw [copyValue.eq_def]
  cases v with
  | scalar x => exact Walks.pure hc (.scalar x)
  | complex re im => exact Walks.pure hc (.complex re im)
  | function ref => exact Walks.pure hc (.function ref)
  | list ref =>
    have hold : c.store.list ref = s.list ref := by simpa [Store.cell] using hc.kept (hv _ rfl)
    apply Walks.get_bind
    split
    · next new hnew => exact Walks.pure hc (.list hnew)
    next hnone =>
    have hbegins := Copying.begins_list hnone
    cases depth with
    | zero =>
      refine Walks.throw hc (by_contra fun hfails => ?_)
      exact Nat.lt_irrefl 0 ((hshallow hfails).pos rfl trivial fun b => hbegins.unmapped)
    | succ depth =>
      refine Walks.get_bind (Walks.container hc hbegins rfl ((ih depth (by simp)).values
        (hc.begin hbegins (hv _ rfl)) ?_ ?_) rfl (fun e c h he => ⟨_, Copying.fills_list h _, ?_⟩)
        fun r hr => .list hr)
      · rw [hold]
        exact hs (.list ref)
      · rw [hold]
        exact fun hfails => (hshallow hfails).enter rfl trivial hbegins
      · simpa [Store.cell, Cell.Matches, hold] using he
  | dict ref =>
    have hold : c.store.dict ref = s.dict ref := by simpa [Store.cell] using hc.kept (hv _ rfl)
    have hvalues : (s.dict ref).entries.map (·.2) ⊆ (s.cell (.dict ref)).values :=
      fun v hv => Dict.mem_held.mpr (.inr hv)
    apply Walks.get_bind
    split
    · next new hnew => exact Walks.pure hc (.dict hnew)
    next hnone =>
    have hbegins := Copying.begins_dict hnone
    cases depth with
    | zero =>
      refine Walks.throw hc (by_contra fun hfails => ?_)
      exact Nat.lt_irrefl 0 ((hshallow hfails).pos rfl trivial fun b => hbegins.unmapped)
    | succ depth =>
      refine Walks.get_bind (Walks.container hc hbegins rfl ((ih depth (by simp)).entries
        (hc.begin hbegins (hv _ rfl)) ?_ ?_) rfl (fun e c h he => ⟨_, Copying.fills_dict h _, ?_⟩)
        fun r hr => .dict hr)
      · rw [hold]
        exact fun v hv => hs (.dict ref) v (hvalues hv)
      · rw [hold]
        exact fun hfails => ((hshallow hfails).enter rfl trivial hbegins).mono (fun _ _ h => h) hvalues
      · rwa [hold] at he

/-! ## Whole snapshots -/

/-- A value that refers to new containers only, besides functions. -/
def Store.IsCopy (s t : Store) (v : Value) : Prop :=
  ∀ n, v.node? = some n → t.Has n ∧ (n.IsContainer → ¬ s.Has n)

/-- The store `t` is `s` with copies added: every new container refers to new ones only. -/
structure Store.Copied (s t : Store) : Prop where
  functions : t.functions = s.functions
  marks : t.marks = s.marks
  grown {n : Node} : s.Has n → t.Has n
  kept {n : Node} : s.Has n → t.cell n = s.cell n
  fresh {n : Node} : t.Has n → ¬ s.Has n → ∀ v ∈ (t.cell n).values, s.IsCopy t v

/-- The second of two matching values refers to what the relation leads to. -/
theorem Value.Matches.isCopy (hr : ∀ {a b}, r a b → ¬ s.Has b ∧ t.Has b)
    (hfunctions : t.functions = s.functions) (hmarks : t.marks = s.marks) (hv : s.Knows v)
    (h : v.Matches r v') : s.IsCopy t v' := by
  intro n hn
  cases h with
  | list h => cases hn; exact ⟨(hr h).2, fun _ => (hr h).1⟩
  | dict h => cases hn; exact ⟨(hr h).2, fun _ => (hr h).1⟩
  | scalar x =>
    obtain ⟨mark, rfl, rfl⟩ := Value.node?_scalar hn
    have hmark : s.Has (.mark mark) := hv _ rfl
    exact ⟨by simpa [Store.Has, hmarks] using hmark, False.elim⟩
  | complex re im => cases hn
  | function ref =>
    cases hn
    have href : s.Has (.function ref) := hv _ rfl
    exact ⟨by simpa [Store.Has, hfunctions] using href, False.elim⟩

theorem Table.Matches.values {κ : Type} {t u : Table κ Value} (h : Table.Matches r t u) :
    List.Forall₂ (Value.Matches r) t.values u.values := by
  rw [Table.values, Table.values, List.forall₂_map_left_iff, List.forall₂_map_right_iff]
  exact List.Forall₂.imp (fun _ _ hb => hb.2) h

/-- Matching dictionaries have the same keys and matching values. -/
theorem Table.Matches.held {t u : Dict} (h : Table.Matches r t u) :
    List.Forall₂ (Value.Matches r) t.held u.held := by
  refine List.rel_flatMap h ?_
  rintro ⟨key, v⟩ ⟨key', v'⟩ ⟨rfl, hv⟩
  exact .cons (.scalar _) (.cons hv .nil)

theorem Cell.Matches.values {x y : Cell} (h : x.Matches r y) :
    List.Forall₂ (Value.Matches r) x.values y.values := by
  cases x <;> cases y <;> simp only [Cell.Matches] at h
  · exact h
  · exact h.held

/-- Every element of the second of two related lists is related to one of the first. -/
theorem exists_of_forall₂ {α β : Type*} {R : α → β → Prop} {l : List α} {l' : List β}
    (h : List.Forall₂ R l l') {b : β} (hb : b ∈ l') : ∃ a ∈ l, R a b := by
  induction h with
  | nil => cases hb
  | cons hab _ ih =>
    rcases List.mem_cons.mp hb with rfl | hb
    · exact ⟨_, by simp, hab⟩
    · obtain ⟨a, ha, h⟩ := ih hb
      exact ⟨a, by simp [ha], h⟩

/-- Whatever copies are still unfilled, the copies refer to copies only. -/
theorem Copying.Inv.copied (hs : s.Valid) (hc : c.Inv s pending) : s.Copied c.store where
  functions := hc.functions
  marks := hc.marks
  grown := hc.grown
  kept := hc.kept
  fresh := by
    intro n hn hnew v hv
    obtain ⟨a, ha⟩ := hc.copies hn hnew
    by_cases hp : pending a
    · rw [hc.blank ha hp] at hv
      cases hv
    · obtain ⟨u, hu, huv⟩ := exists_of_forall₂ (hc.filled ha hp).values hv
      exact huv.isCopy hc.fresh hc.functions hc.marks (hs a u hu)

/-- A computation that only copies the `roots` with the given way to copy, to a result as `R` says. -/
def CopiesTo {α : Type} (s : Store) (roots : List Value) (copying : (Value → CopyM Value) → CopyM α)
    (R : (Node → Node → Prop) → α → Prop) : Prop :=
  ∀ fails depth copy pending c, Copies s fails depth copy → c.Inv s pending →
    (¬ fails → c.Shallow s roots depth) → Walks s fails pending (copying copy) c R

/-- What a snapshot does: it adds copies to the store, and if it succeeds its result is related to
what was copied by a correspondence that leads to the copies. -/
theorem Store.snapshot_spec (hs : s.Valid) (h : CopiesTo s roots copying R) :
    s.Copied (s.snapshot copying).2 ∧
      ∀ a, (s.snapshot copying).1 = .ok a → ∃ r, Correspondence s (s.snapshot copying).2 r ∧
          (∀ {a b}, r a b → ¬ s.Has b) ∧ R r a := by
  obtain ⟨q, hinv, _, hend⟩ := h True nestingLimit (copyValue nestingLimit) _ _
    (copies_copyValue hs True nestingLimit) (Copying.Inv.start s) (absurd trivial)
  refine ⟨hinv.copied hs, fun a ha => ?_⟩
  rw [show (exec (copying (copyValue nestingLimit)) ⟨s, ∅, ∅⟩).1 = .ok a from ha] at hend
  obtain ⟨rfl, hR⟩ := hend
  refine ⟨_, ?_, fun h => (hinv.fresh h).1, hR⟩
  exact {
    has := fun h => ⟨hinv.source h, (hinv.fresh h).2⟩
    functional := fun h h' => h.functional h'
    injective := hinv.injective
    cells := fun h => hinv.filled h not_false }

/-- Values whose containers do not nest too deeply can be copied. -/
theorem Store.snapshot_ok (hs : s.Valid) (h : CopiesTo s roots copying R)
    (hshallow : ∀ path, s.Path roots path → path.Nodup → path.length ≤ nestingLimit) :
    ∃ a, (s.snapshot copying).1 = .ok a := by
  obtain ⟨_, _, _, hend⟩ := h False nestingLimit (copyValue nestingLimit) _ _
    (copies_copyValue hs False nestingLimit) (Copying.Inv.start s)
    fun _ path hpath hnodup _ => hshallow path hpath hnodup
  change ∃ a, (exec (copying (copyValue nestingLimit)) ⟨s, ∅, ∅⟩).1 = .ok a
  cases hresult : (exec (copying (copyValue nestingLimit)) ⟨s, ∅, ∅⟩).1 with
  | ok a => exact ⟨a, rfl⟩
  | error failure =>
    rw [hresult] at hend
    exact hend.elim

/-- Copying a scope. -/
theorem copiesTo_copyEnv {env : Env} (henv : ∀ v ∈ env.values, s.Knows v) :
    CopiesTo s env.values (fun copy => copyEnv copy env) (fun r env' => Table.Matches r env env') :=
  fun _ _ _ _ _ hcopy hc hshallow => Walks.bind (hcopy.entries hc henv hshallow)
    fun _ _ hc' _ h => Walks.pure hc' h

/-- Copying a single value. -/
theorem copiesTo_copy (hv : s.Knows v) :
    CopiesTo s [v] (fun copy => copy v) (fun r v' => v.Matches r v') :=
  fun _ _ _ pending c hcopy hc hshallow => hcopy v pending c hc hv hshallow

/-! ## Actions -/

/-- A value that matches one that `s` knows. -/
def Store.Mirrors (s : Store) (r : Node → Node → Prop) (v' : Value) : Prop :=
  ∃ v, s.Knows v ∧ v.Matches r v'

/-- A scalar that is no unknown mark needs no copy. -/
theorem Store.mirrors_scalar (hx : x.isNan = false) : s.Mirrors r (.scalar x) :=
  ⟨.scalar x, s.knows_scalar hx, .scalar x⟩

/-- The values that an action was given, as far as they can be containers. -/
def Action.given : Action → List Value
  | .assign _ value _ => [value]
  | .reassign _ value _ old => [value, old]
  | .augment _ _ value old right => [value, old, right]
  | .setItem _ _ key container old _ => [key, container, old]
  | .operate _ _ _ arguments container old _ result => arguments ++ [container, old, result]
  | .print values _ => values
  | .call _ arguments result => arguments ++ [result]
  | .loopIteration _ value _ _ => [value]
  | .condition _ _ _ extra => extra.map (·.2)
  | _ => []

/-- The action with other values in place of those that it was given. -/
def Action.refill (action : Action) (values : List Value) : Action :=
  match action, values with
  | .assign name _ source, [value] => .assign name value source
  | .reassign name _ source _, [value, old] => .reassign name value source old
  | .augment name op _ _ _, [value, old, right] => .augment name op value old right
  | .setItem kind name _ _ _ summary, [key, container, old] =>
    .setItem kind name key container old summary
  | .operate kind name operation _ _ _ summary _, values =>
    match values.reverse with
    | result :: old :: container :: arguments =>
      .operate kind name operation arguments.reverse container old summary result
    | _ => action
  | .print _ text, values => .print values text
  | .call name _ _, values =>
    match values.reverse with
    | result :: arguments => .call name arguments.reverse result
    | [] => action
  | .loopIteration target _ index total, [value] => .loopIteration target value index total
  | .condition word text result extra, values =>
    .condition word text result ((extra.map (·.1)).zip values)
  | _, _ => action

/-- Going through an action is going through the values that it was given. -/
theorem Action.mapM_eq {m : Type → Type} [Monad m] [LawfulMonad m] (f : Value → m Value)
    (action : Action) : action.mapM f = (do return action.refill (← action.given.mapM f)) := by
  cases action with
  | condition word text result extra =>
    have hpairs : (extra.mapM fun entry => Prod.mk entry.1 <$> f entry.2) =
        (extra.map (·.1)).zip <$> extra.mapM (f ∘ (·.2)) := by
      induction extra with
      | nil => simp
      | cons entry rest ih => simp [ih]
    simp [Action.mapM, Action.given, Action.refill, hpairs]
  | _ => simp [Action.mapM, Action.given, Action.refill]

theorem exists_of_forall₂_append (h : List.Forall₂ R (l ++ l') values) :
    ∃ as bs, values = as ++ bs ∧ List.Forall₂ R l as ∧ List.Forall₂ R l' bs := by
  induction l generalizing values with
  | nil => exact ⟨[], values, rfl, .nil, h⟩
  | cons a l ih =>
    cases h with
    | cons hab h =>
      obtain ⟨as, bs, rfl, has, hbs⟩ := ih h
      exact ⟨_ :: as, bs, rfl, .cons hab has, hbs⟩

/-- The other values are what the action is given then. -/
theorem Action.given_refill (h : List.Forall₂ R action.given values) :
    (action.refill values).given = values := by
  cases action with
  | operate kind name operation arguments container old summary result =>
    obtain ⟨as, _, rfl, _, _ | ⟨_, _ | ⟨_, _ | ⟨_, _ | _⟩⟩⟩⟩ := exists_of_forall₂_append h
    simp [Action.refill, Action.given]
  | call name arguments result =>
    obtain ⟨as, _, rfl, _, _ | ⟨_, _ | _⟩⟩ := exists_of_forall₂_append h
    simp [Action.refill, Action.given]
  | condition word text result extra =>
    have hlength : extra.length = values.length := by simpa [Action.given] using h.length_eq
    simp [Action.refill, Action.given, List.map_snd_zip, hlength]
  | print values text => rfl
  | assign name value source | loopIteration target value index total =>
    rcases h with _ | ⟨_, _ | _⟩
    rfl
  | reassign name value source old =>
    rcases h with _ | ⟨_, _ | ⟨_, _ | _⟩⟩
    rfl
  | augment name op value old right | setItem kind name key container old summary =>
    rcases h with _ | ⟨_, _ | ⟨_, _ | ⟨_, _ | _⟩⟩⟩
    rfl
  | define name parameters body | loopStart target iterable body | loopEnd target | execute code
  | error message =>
    rcases h with _ | _
    rfl

/-- All else in the details of an action is texts and numbers. -/
theorem Action.mem_held (h : v ∈ action.held) :
    v ∈ action.given ∨ ∃ x, v = .scalar x ∧ x.isNan = false := by
  cases action with
  | condition word text result extra =>
    simp only [Action.held, Action.details, List.mem_flatMap] at h
    obtain ⟨detail, hdetail, hv⟩ := h
    rcases Table.mem_values_insertMany hdetail with h | h
    · right
      simp only [Table.values, Detail.text, List.map_cons, List.map_nil, List.mem_cons,
        List.not_mem_nil, or_false] at h
      rcases h with rfl | rfl
      · exact ⟨_, List.mem_singleton.mp hv, rfl⟩
      · exact ⟨_, List.mem_singleton.mp hv, rfl⟩
    · left
      simp only [List.map_map, List.mem_map] at h
      obtain ⟨entry, hentry, rfl⟩ := h
      rw [List.mem_singleton.mp hv]
      exact List.mem_map_of_mem hentry
  | _ =>
    simp only [Action.held, Action.details, Action.given, Table.values, Detail.text, Detail.count,
      Detail.held, List.map_cons, List.map_nil, List.flatMap_cons, List.flatMap_nil,
      List.cons_append, List.nil_append, List.append_nil, List.mem_cons,
      List.mem_append, List.not_mem_nil, or_false] at h ⊢
    grind [Scalar.isNan]

/-- Copying an action copies the values that it was given. -/
theorem copiesTo_refill (hgiven : ∀ v ∈ action.given, s.Knows v) :
    CopiesTo s action.given (fun copy => action.mapM copy) (fun r action' => ∃ values,
      action' = action.refill values ∧ List.Forall₂ (Value.Matches r) action.given values) := by
  intro fails depth copy pending c hcopy hc hshallow
  dsimp only
  rw [Action.mapM_eq]
  refine Walks.bind (hcopy.values hc hgiven hshallow) fun values c' hc' _ hvalues => ?_
  exact Walks.pure hc' ⟨values, rfl, hvalues⟩

/-- All that its details hold afterwards is copied. -/
theorem copiesTo_action (hgiven : ∀ v ∈ action.given, s.Knows v) :
    CopiesTo s action.given (fun copy => action.mapM copy)
      (fun r action' => ∀ v ∈ action'.held, s.Mirrors r v) := by
  intro fails depth copy pending c hcopy hc hshallow
  refine (copiesTo_refill hgiven fails depth copy pending c hcopy hc hshallow).imp ?_
  rintro r _ ⟨values, rfl, hvalues⟩ v hv
  rcases Action.mem_held hv with hv | ⟨x, rfl, hx⟩
  · rw [Action.given_refill hvalues] at hv
    obtain ⟨u, hu, hmatch⟩ := exists_of_forall₂ hvalues hv
    exact ⟨u, hgiven u hu, hmatch⟩
  · exact Store.mirrors_scalar hx

end Walkthrough
