import Walkthrough.Proofs.Lockstep

/-!
# Values that look the same

A step holds copies: its variables are copied in one go, and its details in another.  So a value that
is in both is there twice, and the two copies have different identities.  They look the same
(`Store.Same`): a one-to-one correspondence leads from all that the one reaches to all that the other
reaches.  `Looks` says this of values in two stores, at two moments of a run for instance.

* To look the same is symmetric and transitive.
* Values go on to look the same as long as what they reach is kept (`Looks.kept`).
* The values in a step look like those that were recorded (`stepParts_looks`).  Hence the element of a
  round of a loop looks the same in the variables and in the details of its step
  (`stepParts_loopIteration`).
-/

namespace Walkthrough

/-- Two values look the same: they differ in nothing but the identities of lists and dictionaries. -/
def Store.Same (s : Store) (v w : Value) : Prop :=
  ∃ r, Correspondence s s r ∧ v.Matches r w

/-- A value looks in `s` as another one does in `t`. -/
def Looks (s : Store) (v : Value) (t : Store) (w : Value) : Prop :=
  ∃ r, Correspondence s t r ∧ v.Matches r w

section

variable {s t u : Store} {r r' : Node → Node → Prop} {v w x : Value}

/-! ## An equivalence -/

theorem Value.Matches.symm (h : v.Matches r w) : w.Matches (flip r) v := by
  cases h with
  | list h => exact .list h
  | dict h => exact .dict h
  | scalar x => exact .scalar x
  | complex re im => exact .complex re im
  | function ref => exact .function ref

theorem Value.Matches.trans (h : v.Matches r w) (h' : w.Matches r' x) :
    v.Matches (Relation.Comp r r') x := by
  cases h with
  | list h =>
    cases h' with
    | list h' => exact .list ⟨_, h, h'⟩
  | dict h =>
    cases h' with
    | dict h' => exact .dict ⟨_, h, h'⟩
  | scalar x =>
    cases h'
    exact .scalar x
  | complex re im =>
    cases h'
    exact .complex re im
  | function ref =>
    cases h'
    exact .function ref

theorem Cell.Matches.symm {x y : Cell} (h : x.Matches r y) : y.Matches (flip r) x := by
  cases x <;> cases y <;> simp only [Cell.Matches] at h ⊢
  · exact List.Forall₂.flip (h.imp fun _ _ h => h.symm)
  · exact List.Forall₂.flip (List.Forall₂.imp (fun _ _ h => ⟨h.1.symm, h.2.symm⟩) h)

theorem forall₂_comp (hcomp : ∀ {a b c}, R a b → R' b c → Q a c) (h : List.Forall₂ R as bs)
    (h' : List.Forall₂ R' bs cs) : List.Forall₂ Q as cs := by
  induction h generalizing cs with
  | nil =>
    cases h'
    exact .nil
  | cons hab _ ih =>
    cases h' with
    | cons hbc h' => exact .cons (hcomp hab hbc) (ih h')

theorem Cell.Matches.trans {x y z : Cell} (h : x.Matches r y) (h' : y.Matches r' z) :
    x.Matches (Relation.Comp r r') z := by
  cases x <;> cases y <;> simp only [Cell.Matches] at h <;> cases z <;>
    simp only [Cell.Matches] at h' ⊢
  · exact forall₂_comp (fun h h' => h.trans h') h h'
  · exact forall₂_comp (fun h h' => ⟨h.1.trans h'.1, h.2.trans h'.2⟩) h h'

theorem Correspondence.symm (hr : Correspondence s t r) : Correspondence t s (flip r) :=
  ⟨fun h => (hr.has h).symm, hr.injective, hr.functional, fun h => (hr.cells h).symm⟩

theorem Looks.symm (h : Looks s v t w) : Looks t w s v := by
  obtain ⟨r, hr, hmatch⟩ := h
  exact ⟨flip r, hr.symm, hmatch.symm⟩

theorem Looks.trans (h : Looks s v t w) (h' : Looks t w u x) : Looks s v u x := by
  obtain ⟨r, hr, hmatch⟩ := h
  obtain ⟨r', hr', hmatch'⟩ := h'
  refine ⟨Relation.Comp r r', ⟨?_, ?_, ?_, ?_⟩, hmatch.trans hmatch'⟩
  · rintro a c ⟨b, hab, hbc⟩
    exact ⟨(hr.has hab).1, (hr'.has hbc).2⟩
  · rintro a c c' ⟨b, hab, hbc⟩ ⟨b', hab', hbc'⟩
    obtain rfl := hr.functional hab hab'
    exact hr'.functional hbc hbc'
  · rintro a a' c ⟨b, hab, hbc⟩ ⟨b', hab', hbc'⟩
    obtain rfl := hr'.injective hbc hbc'
    exact hr.injective hab hab'
  · rintro a c ⟨b, hab, hbc⟩
    exact (hr.cells hab).trans (hr'.cells hbc)

/-! ## As long as nothing changes -/

/-- The lists and dictionaries that a value leads to are the same in both stores. -/
def Store.Stays (s t : Store) (v : Value) : Prop :=
  ∀ n, s.Reach false [v] n → n.IsContainer → s.Has n → t.Has n ∧ t.cell n = s.cell n

theorem Store.Stays.refl (s : Store) (v : Value) : s.Stays s v :=
  fun _ _ _ hn => ⟨hn, rfl⟩

theorem Store.Kept.stays (h : s.Kept t roots) (hv : v ∈ roots) : s.Stays t v := by
  intro n hn _ hhas
  have hreach : s.Reach true roots n := by
    refine hn.entering.induct_node _ ?_ fun k hk _ u hu l hl => hk.step (.inl rfl) hu hl
    exact List.forall_mem_singleton.mpr fun k hk => .root hv hk
  exact ⟨(h n hreach).1 hhas, (h n hreach).2⟩

theorem Store.Copied.stays (h : s.Copied t) (v : Value) : s.Stays t v :=
  fun _ _ _ hn => ⟨h.grown hn, h.kept hn⟩

/-- A relation between nodes as far as some values lead to them. -/
def Between (s : Store) (vs : List Value) (t : Store) (ws : List Value) (r : Node → Node → Prop)
    (a b : Node) : Prop :=
  r a b ∧ s.Reach false vs a ∧ t.Reach false ws b

/-- Lists that are related element by element are so in a narrower way that holds between members. -/
theorem forall₂_imp_mem (h : List.Forall₂ R l l') (himp : ∀ a ∈ l, ∀ b ∈ l', R a b → Q a b) :
    List.Forall₂ Q l l' := by
  induction h with
  | nil => exact .nil
  | cons hab _ ih =>
    refine .cons (himp _ (by simp) _ (by simp) hab) (ih ?_)
    intro a ha b hb
    exact himp a (by simp [ha]) b (by simp [hb])

theorem Cell.Matches.between {x y : Cell} (h : x.Matches r y)
    (hx : ∀ a ∈ x.values, ∀ n, a.node? = some n → s.Reach false vs n)
    (hy : ∀ b ∈ y.values, ∀ n, b.node? = some n → t.Reach false ws n) :
    x.Matches (Between s vs t ws r) y := by
  have hpart {a b : Value} (ha : a ∈ x.values) (hb : b ∈ y.values) (hab : a.Matches r b) :
      a.Matches (Between s vs t ws r) b :=
    hab.imp_nodes fun n m hn hm hnm => ⟨hnm, hx a ha n hn, hy b hb m hm⟩
  cases x <;> cases y <;> simp only [Cell.Matches] at h ⊢
  · exact forall₂_imp_mem h fun a ha b hb => hpart ha hb
  · refine forall₂_imp_mem h fun entry hentry entry' hentry' hmatch => ⟨hmatch.1, ?_⟩
    exact hpart (Dict.mem_held.mpr (.inr (List.mem_map_of_mem hentry)))
      (Dict.mem_held.mpr (.inr (List.mem_map_of_mem hentry'))) hmatch.2

/-- Nodes whose cells match are lists and dictionaries. -/
theorem Cell.Matches.isContainer (h : (s.cell a).Matches r (t.cell b)) :
    a.IsContainer ∧ b.IsContainer := by
  cases a <;> cases b <;> simp [Store.cell, Cell.Matches, Node.IsContainer] at h ⊢

theorem Correspondence.between (hr : Correspondence s t r) :
    Correspondence s t (Between s vs t ws r) where
  has h := hr.has h.1
  functional h h' := hr.functional h.1 h'.1
  injective h h' := hr.injective h.1 h'.1
  cells := by
    rintro a b ⟨hab, ha, hb⟩
    obtain ⟨hcontainer, hcontainer'⟩ := (hr.cells hab).isContainer
    exact (hr.cells hab).between (fun u hu n hn => ha.step (.inr hcontainer) hu hn)
      fun u hu n hn => hb.step (.inr hcontainer') hu hn

/-- Values go on to look the same as long as all that they lead to is kept. -/
theorem Looks.kept {s' t' : Store} (h : Looks s v t w) (hs : s.Stays s' v) (ht : t.Stays t' w) :
    Looks s' v t' w := by
  obtain ⟨r, hr, hmatch⟩ := h
  have hstays {a b : Node} (h : Between s [v] t [w] r a b) :
      (s'.Has a ∧ s'.cell a = s.cell a) ∧ t'.Has b ∧ t'.cell b = t.cell b := by
    obtain ⟨hab, ha, hb⟩ := h
    obtain ⟨hcontainer, hcontainer'⟩ := (hr.cells hab).isContainer
    exact ⟨hs a ha hcontainer (hr.has hab).1, ht b hb hcontainer' (hr.has hab).2⟩
  refine ⟨Between s [v] t [w] r, ⟨?_, hr.between.functional, hr.between.injective, ?_⟩,
    hmatch.imp_nodes fun n m hn hm hnm => ⟨hnm, .root (by simp) hn, .root (by simp) hm⟩⟩
  · exact fun h => ⟨(hstays h).1.1, (hstays h).2.1⟩
  · intro a b h
    rw [(hstays h).1.2, (hstays h).2.2]
    exact hr.between.cells h

end

/-! ## Tables -/

/-- A copy of a scope binds the same names. -/
theorem Table.Matches.get? [BEq κ] (h : Table.Matches r env env') (key : κ) :
    Option.Rel (Value.Matches r) (env.get? key) (env'.get? key) := by
  obtain ⟨entries⟩ := env
  obtain ⟨entries'⟩ := env'
  change List.Forall₂ _ entries entries' at h
  simp only [Table.get?, Table.find?]
  induction h with
  | nil => exact .none
  | @cons entry entry' rest rest' hentry _ ih =>
    rw [List.find?_cons, List.find?_cons, ← hentry.1]
    cases entry.1 == key with
    | true => exact .some hentry.2
    | false => exact ih

namespace Table

variable {κ υ : Type} [BEq κ] (t : Table κ υ) (key : κ)

/-- Setting a key gives it a value and leaves the others as they are. -/
theorem get?_insert [LawfulBEq κ] (value : υ) (other : κ) :
    (t.insert key value).get? other = if key == other then some value else t.get? other := by
  rw [Table.insert, contains_eq_isSome]
  simp only [Table.get?, Table.find?, Option.isSome_map]
  split
  · next hpresent =>
    let set (entry : κ × υ) : κ × υ := if entry.1 == key then (entry.1, value) else entry
    have hkeys : ((·.1 == other) ∘ set) = (·.1 == other) := by
      funext entry
      simp only [set, Function.comp_apply]
      split <;> rfl
    rw [List.find?_map, hkeys]
    cases hfind : t.entries.find? (·.1 == other) with
    | none =>
      have hne : key ≠ other := by
        rintro rfl
        rw [hfind] at hpresent
        cases hpresent
      simp [hne]
    | some entry =>
      have hother := List.find?_some hfind
      obtain rfl := eq_of_beq hother
      rw [BEq.comm]
      cases hkey : entry.1 == key <;> simp [hkey]
  · next habsent =>
    rw [List.find?_append]
    split
    · next heq =>
      obtain rfl := eq_of_beq heq
      rw [Option.not_isSome_iff_eq_none.mp habsent]
      simp
    · next hne => simp [hne]

/-- A key that has been set has its value. -/
theorem get?_insert_self [LawfulBEq κ] (value : υ) : (t.insert key value).get? key = some value := by
  rw [get?_insert, beq_self_eq_true, if_pos rfl]

end Table

/-! ## Steps -/

section

variable {s t : Store} {action copied : Action} {env bindings : Env}

theorem Store.Copied.valid (h : s.Copied t) (hs : s.Valid) : t.Valid := by
  intro n v hv k hk
  by_cases hold : s.Has n
  · rw [h.kept hold] at hv
    exact h.grown (hs n v hv k hk)
  · by_cases hnew : t.Has n
    · exact (h.fresh hnew hold v hv k hk).1
    · rw [Store.cell_values_of_not_has hnew] at hv
      cases hv

/-- What exists leads to nothing but what exists. -/
theorem Store.Copied.has_of_reach (h : s.Copied t) (hs : s.Valid) (hroots : ∀ v ∈ roots, s.Knows v)
    (hn : t.Reach through roots n) : s.Has n := by
  refine hn.induct_node _ (fun v hv k hk => hroots v hv k hk) fun k hk _ v hv l hl => ?_
  rw [h.kept hk] at hv
  exact hs k v hv l hl

theorem Store.Copied.stays_back (h : s.Copied t) (hs : s.Valid) (hv : s.Knows v) : t.Stays s v := by
  intro n hn _ _
  have hhas := h.has_of_reach hs (List.forall_mem_singleton.mpr hv) hn
  exact ⟨hhas, (h.kept hhas).symm⟩

/-- The variables and the details of a step look like what was recorded. -/
theorem stepParts_looks (hs : s.Valid) (henv : ∀ v ∈ env.values, s.Knows v)
    (hgiven : ∀ v ∈ action.given, s.Knows v)
    (h : stepParts s action env = (.ok (bindings, copied), t)) :
    (∀ name, Option.Rel (fun v w => Looks s v t w) (env.get? name) (bindings.get? name)) ∧
    ∃ values, copied = action.refill values ∧
      List.Forall₂ (fun v w => Looks s v t w) action.given values := by
  obtain ⟨hcopied, hfirst⟩ := Store.snapshot_spec hs (copiesTo_copyEnv henv)
  unfold stepParts at h
  generalize hsnap : (s.snapshot fun copy => copyEnv copy env) = copies at h hcopied hfirst
  obtain ⟨failure | env', s₁⟩ := copies
  · cases h
  dsimp only at h hcopied hfirst
  obtain ⟨r, hr, _, hmatch⟩ := hfirst env' rfl
  have hknows : ∀ v ∈ action.given, s₁.Knows v := fun v hv n hn => hcopied.grown (hgiven v hv n hn)
  obtain ⟨hcopied', hsecond⟩ := Store.snapshot_spec (hcopied.valid hs) (copiesTo_refill hknows)
  generalize (s₁.snapshot fun copy => action.mapM copy) = copies at h hcopied' hsecond
  obtain ⟨failure | action', s₂⟩ := copies
  · cases h
  cases h
  obtain ⟨r', hr', _, values, hvalues, hgiven'⟩ := hsecond copied rfl
  refine ⟨fun name => ?_, values, hvalues, forall₂_imp_mem hgiven' fun v hv w _ hvw => ?_⟩
  · have hrel := hmatch.get? name
    generalize env.get? name = found at hrel ⊢
    generalize bindings.get? name = found' at hrel ⊢
    cases hrel with
    | some hvw => exact .some (Looks.kept ⟨r, hr, hvw⟩ (.refl s _) (hcopied'.stays _))
    | none => exact .none
  · exact Looks.kept ⟨r', hr', hvw⟩ (hcopied.stays_back hs (hgiven v hv)) (.refl t w)

/-- The two copies in the step of a round: the one in the variables looks like the one in the
details. -/
theorem stepParts_loopIteration (hs : s.Valid) (henv : ∀ v ∈ env.values, s.Knows v)
    (helement : s.Knows element) (hbound : env.get? target = some element)
    (h : stepParts s (.loopIteration target element index total) env = (.ok (bindings, copied), t)) :
    ∃ value bound, copied = .loopIteration target value index total ∧
      bindings.get? target = some bound ∧ t.Same bound value := by
  have hgiven : ∀ v ∈ (Action.loopIteration target element index total).given, s.Knows v :=
    List.forall_mem_singleton.mpr helement
  obtain ⟨hbindings, values, rfl, hvalues⟩ := stepParts_looks hs henv hgiven h
  have hfound := hbindings target
  rw [hbound] at hfound
  generalize bindings.get? target = found at hfound ⊢
  rcases hvalues with _ | ⟨hvalue, _ | _⟩
  cases hfound with
  | some hbound => exact ⟨_, _, rfl, rfl, hbound.symm.trans hvalue⟩

end

end Walkthrough
