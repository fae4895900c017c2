import Walkthrough.Proofs.Unfolding

/-!
# What an export keeps

An export names the entries of a dictionary by the texts of their keys.  Where two keys have the same
text, the later entry takes the place of the earlier one (`export_drops_entry`).  Where there are no such
keys, an export has everything that the value leads to (`Store.Exports`).
-/

namespace Walkthrough

/-- The text by which an export names the entry of a key. -/
def Store.keyText (s : Store) (key : Key) : Except Failure String :=
  Value.text s (.scalar key.spelling)

/-- Every key of a dictionary has a text, and no two have the same. -/
def Store.KeysApart (s : Store) (ref : Nat) : Prop :=
  ∃ names : List String, (s.dict ref).keys.map s.keyText = names.map .ok ∧ names.Nodup

/-- A document with everything that a value leads to: the elements of a list in their order, and the
entries of a dictionary in theirs, each under the text of its key. -/
inductive Store.Exports (s : Store) : Value → Json → Prop where
  | leaf {v : Value} {j : Json} : v.isContainer = false → jsonOfValue s 0 [] v = .ok j → s.Exports v j
  | list {ref : Nat} {parts : List Json} : List.Forall₂ s.Exports (s.list ref).toList parts →
      s.Exports (.list ref) (.list parts)
  | dict {ref : Nat} {members : List (String × Json)} :
      (s.dict ref).keys.map s.keyText = (members.map (·.1)).map .ok →
      List.Forall₂ s.Exports (s.dict ref).values (members.map (·.2)) →
      s.Exports (.dict ref) (.ofTable ⟨members⟩)

/-- New names go to the end of a table, one after the other. -/
theorem Table.insertMany_of_nodup {υ : Type} {t : Table String υ} {entries : List (String × υ)}
    (h : (t.keys ++ entries.map (·.1)).Nodup) : t.insertMany entries = ⟨t.entries ++ entries⟩ := by
  induction entries generalizing t with
  | nil => simp [Table.insertMany]
  | cons entry entries ih =>
    have hnew : t.contains entry.1 = false := by
      rw [Bool.eq_false_iff, ne_eq, Table.contains, List.any_eq_true]
      rintro ⟨old, hold, hname⟩
      exact (List.nodup_append.mp h).2.2 old.1 (List.mem_map_of_mem hold) entry.1 (by simp)
        (beq_iff_eq.mp hname)
    have hinsert : t.insert entry.1 entry.2 = ⟨t.entries ++ [entry]⟩ := by
      rw [Table.insert, hnew]
      rfl
    change (t.insert entry.1 entry.2).insertMany entries = _
    rw [hinsert, ih]
    · simp
    · simpa [Table.keys] using h

/-! ## Containers and their parts -/

theorem exports_list (h : ∀ x ∈ (s.list ref).toList, ∃ j, f x = .ok j ∧ s.Exports x j) :
    ∃ j, (documentWriting s).node (.list ref) ((s.list ref).toList.map f) = .ok j ∧
      s.Exports (.list ref) j := by
  obtain ⟨parts, hparts⟩ := exists_forall₂ h
  refine ⟨_, ?_, .list (hparts.imp fun _ _ h => h.2)⟩
  simp only [documentWriting, List.mapM_map]
  rw [show (s.list ref).toList.mapM (id ∘ f) = .ok parts from mapM_eq_ok (hparts.imp fun _ _ h => h.1)]
  rfl

/-- No entry takes the place of another if the keys are apart. -/
theorem exports_dict (hkeys : s.KeysApart ref)
    (h : ∀ x ∈ (s.dict ref).values, ∃ j, f x = .ok j ∧ s.Exports x j) :
    ∃ j, (documentWriting s).node (.dict ref) ((s.dict ref).values.map f) = .ok j ∧
      s.Exports (.dict ref) j := by
  obtain ⟨names, hnames, hnodup⟩ := hkeys
  have hentries : ∀ entry ∈ (s.dict ref).entries, ∃ member : String × Json,
      s.keyText entry.1 = .ok member.1 ∧ f entry.2 = .ok member.2 ∧ s.Exports entry.2 member.2 := by
    intro entry hentry
    have hkey : s.keyText entry.1 ∈ names.map .ok :=
      hnames ▸ List.mem_map_of_mem (List.mem_map_of_mem hentry)
    obtain ⟨name, -, hname⟩ := List.mem_map.mp hkey
    obtain ⟨j, hj⟩ := h entry.2 (List.mem_map_of_mem hentry)
    exact ⟨(name, j), hname.symm, hj⟩
  obtain ⟨members, hmembers⟩ := exists_forall₂ hentries
  have htexts : (s.dict ref).keys.map s.keyText = (members.map (·.1)).map .ok := by
    rw [Table.keys, List.map_map, List.map_map, ← List.forall₂_eq_eq_eq, List.forall₂_map_left_iff,
      List.forall₂_map_right_iff]
    exact hmembers.imp fun _ _ h => h.1
  have hsame : names = members.map (·.1) :=
    List.map_injective_iff.mpr (fun _ _ => Except.ok.inj) (hnames.symm.trans htexts)
  have hapart : Table.ofList members = ⟨members⟩ :=
    Table.insertMany_of_nodup (t := .empty) (hsame ▸ hnodup)
  refine ⟨_, ?_, .dict htexts ?_⟩
  · simp only [documentWriting, zip_values, List.mapM_map]
    rw [show _ = Except.ok members from mapM_eq_ok (hmembers.imp ?_), ← hapart]
    · rfl
    · rintro entry member ⟨hname, hpart, -⟩
      rw [Store.keyText] at hname
      simp only [Function.comp_apply, hpart, hname]
      rfl
  · exact List.forall₂_map_left_iff.mpr (List.forall₂_map_right_iff.mpr (hmembers.imp fun _ _ h => h.2.2))

theorem exports_leaf (hv : v.isContainer = false) :
    ∃ j, jsonOfValue s 0 [] v = .ok j ∧ s.Exports v j := by
  have hok : ∃ j, jsonOfValue s 0 [] v = .ok j := by
    cases v with
    | list | dict => cases hv
    | _ => exact ⟨_, rfl⟩
  exact hok.imp fun _ hj => ⟨hj, .leaf hv hj⟩

/-- A value is exported part by part. -/
theorem Store.Acyclic.exports {s : Store} (h : s.Acyclic root)
    (hkeys : ∀ ref, Relation.ReflTransGen s.Holds root (.dict ref) → s.KeysApart ref)
     (hroot : Relation.ReflTransGen s.Holds root v) (houter : ∀ x ∈ outer, Relation.TransGen s.Holds x v)
    : ∃ j, s.unfold (documentWriting s) outer v = .ok j ∧ s.Exports v j := by
  induction outer, v using Store.unfold.induct s with
  | case1 outer v hv hmem => exact absurd (houter v hmem) (h v hroot)
  | case2 outer v hv hmem ih =>
    rw [Store.unfold_eq, if_pos hv, if_neg hmem]
    have hparts : ∀ x ∈ s.parts v, ∃ j, s.unfold (documentWriting s) (v :: outer) x = .ok j ∧
        s.Exports x j := fun x hx => by
      refine ih ⟨x, hx⟩ (hroot.tail hx) fun y hy => ?_
      rcases List.mem_cons.mp hy with rfl | hy
      · exact .single hx
      · exact (houter y hy).tail hx
    cases v with
    | list ref => exact exports_list hparts
    | dict ref => exact exports_dict (hkeys ref hroot) hparts
    | _ => cases hv
  | case3 outer v hv =>
    rw [Store.unfold_eq, if_neg hv]
    exact exports_leaf (Bool.eq_false_of_not_eq_true hv)

/-- What can be exported with nothing missing: a value without cycles that does not nest too deeply, and in
which no two keys of a dictionary have the same text. -/
structure Store.Exportable (s : Store) (v : Value) : Prop where
  acyclic : s.Acyclic v
  nests : s.unfold nestsWithin [] v nestingLimit
  keysApart : ∀ ref, Relation.ReflTransGen s.Holds v (.dict ref) → s.KeysApart ref

theorem export_keeps_entries (s : Store) :
    (∀ v, s.Exportable v → ∃ j, v.toJson s = .ok j ∧ s.Exports v j) ∧
    ∀ env : Env, (∀ v ∈ env.values, s.Exportable v) → ∃ members,
      jsonOfEnv s env = .ok (.ofTable ⟨members⟩) ∧ env.keys = members.map (·.1) ∧
        List.Forall₂ s.Exports env.values (members.map (·.2)) := by
  have hvalue (v : Value) (hv : s.Exportable v) : ∃ j, v.toJson s = .ok j ∧ s.Exports v j := by
    rw [Value.toJson, (documentWriting_bounds s).eq_unfold hv.nests]
    exact hv.acyclic.exports hv.keysApart .refl (List.forall_mem_nil _)
  refine ⟨hvalue, fun env henv => ?_⟩
  have hentries : ∀ entry ∈ env.entries, ∃ member : String × Json,
      entry.1 = member.1 ∧ entry.2.toJson s = .ok member.2 ∧ s.Exports entry.2 member.2 := by
    intro entry hentry
    obtain ⟨j, hj⟩ := hvalue entry.2 (henv entry.2 (List.mem_map_of_mem hentry))
    exact ⟨(entry.1, j), rfl, hj⟩
  obtain ⟨members, hmembers⟩ := exists_forall₂ hentries
  refine ⟨members, ?_, ?_, ?_⟩
  · rw [jsonOfEnv, show _ = Except.ok members from mapM_eq_ok (hmembers.imp ?_)]
    · rfl
    · rintro entry member ⟨hname, hpart, -⟩
      simp only [hpart, hname]
      rfl
  · rw [Table.keys, ← List.forall₂_eq_eq_eq, List.forall₂_map_left_iff, List.forall₂_map_right_iff]
    exact hmembers.imp fun _ _ h => h.1
  · exact List.forall₂_map_left_iff.mpr (List.forall₂_map_right_iff.mpr (hmembers.imp fun _ _ h => h.2.2))

/-- A dictionary with a list of two elements, under keys with different texts. -/
def namedStore : Store :=
  ⟨#[#[.bool true, .none]], #[⟨[(⟨.none⟩, .list 0), (⟨.str "k"⟩, .none)]⟩], #[], 0⟩

/-- A dictionary stands above a list, and a list above everything else. -/
def Value.rank : Value → Nat
  | .dict _ => 2
  | .list _ => 1
  | _ => 0

theorem export_keeps_entries_named :
    ∃ j, (Value.dict 0).toJson namedStore = .ok j ∧ namedStore.Exports (.dict 0) j := by
  refine (export_keeps_entries namedStore).1 (.dict 0) ⟨?_, ?_, fun ref _ => ?_⟩
  · refine Store.acyclic_of_rank Value.rank (fun v x h => ?_) _
    cases v with
    | list ref =>
      cases ref <;> simp [Store.Holds, Store.parts, Store.list, namedStore] at h
      rcases h with rfl | rfl <;> decide
    | dict ref =>
      cases ref <;> simp [Store.Holds, Store.parts, Store.dict, namedStore, Table.values, Table.empty] at h
      rcases h with rfl | rfl <;> decide
    | _ => cases h
  · simp [Store.unfold_eq, nestsWithin, namedStore, Store.parts, Store.list, Store.dict, Table.values,
      Value.isContainer, nestingLimit]
  · cases ref with
    | zero => exact ⟨["None", "k"], rfl, by decide⟩
    | succ ref => exact ⟨[], rfl, List.nodup_nil⟩

/-- Two keys with the same text: one entry is missing. -/
theorem export_drops_entry :
    let s : Store := ⟨#[], #[⟨[(⟨.bool true⟩, .str "a"), (⟨.str "True"⟩, .str "b")]⟩], #[], 0⟩
    (s.dict 0).size = 2 ∧ (Value.dict 0).toJson s = .ok (.object [.mk "True" (.str "b")]) :=
  ⟨rfl, rfl⟩

end Walkthrough
