import Mathlib.Data.List.Forall2
import Walkthrough.Trace.Basic

/-!
# The graph of a store

A store is a graph: its nodes are the lists, the dictionaries and the functions, and a node leads to
the values that it holds.  A float that is not a number has an identity too, its mark; it is a node
that leads nowhere.  This module has the words in which later modules speak about that graph.

* `Store.cell` is what a node holds, and `Store.Has` says that the node exists.
* `Store.Reach` is reachability from a list of values.  It goes through functions, into the bindings
  of their definitions, only if asked to.
* `Alike` says that two scopes look the same in two stores: the same names in the same order, bound
  to graphs that differ in nothing but the identities of lists and dictionaries.
-/

namespace Walkthrough

variable {s : Store} {ref : Nat} {r r' : Node → Node → Prop}

/-! ## Values in tables -/

theorem Table.mem_values_of_get? {κ υ : Type} [BEq κ] {t : Table κ υ} {key : κ} {value : υ}
    (h : t.get? key = some value) : value ∈ t.values := by
  rw [Table.get?, Table.find?, Option.map_eq_some_iff] at h
  obtain ⟨entry, hentry, rfl⟩ := h
  exact List.mem_map_of_mem (List.mem_of_find?_eq_some hentry)

/-- Setting a key brings in no value but its own. -/
theorem Table.mem_values_insert {κ υ : Type} [BEq κ] {t : Table κ υ} {key : κ} {value v : υ}
    (h : v ∈ (t.insert key value).values) : v ∈ t.values ∨ v = value := by
  rw [Table.insert] at h
  split at h
  · obtain ⟨entry, hentry, rfl⟩ := List.mem_map.mp h
    obtain ⟨old, hold, rfl⟩ := List.mem_map.mp hentry
    split
    · exact .inr rfl
    · exact .inl (List.mem_map_of_mem hold)
  · simpa [Table.values] using h

theorem Table.mem_values_insertMany {κ υ : Type} [BEq κ] {t : Table κ υ} {entries : List (κ × υ)}
    {v : υ} (h : v ∈ (t.insertMany entries).values) : v ∈ t.values ∨ v ∈ entries.map (·.2) := by
  induction entries generalizing t with
  | nil => exact .inl h
  | cons entry entries ih =>
    rcases ih h with h | h
    · rcases Table.mem_values_insert h with h | rfl
      · exact .inl h
      · exact .inr (by simp)
    · exact .inr (by simpa using .inr (by simpa using h))

/-- All that a dictionary holds: its keys and their values. -/
def Dict.held (entries : Dict) : List Value :=
  entries.entries.flatMap fun entry => [.scalar entry.1.spelling, entry.2]

theorem Dict.mem_held {entries : Dict} :
    v ∈ entries.held ↔ (∃ key ∈ entries.keys, v = .scalar key.spelling) ∨ v ∈ entries.values := by
  simp only [Dict.held, Table.keys, Table.values, List.mem_flatMap, List.mem_map, List.mem_cons,
    List.not_mem_nil, or_false]
  constructor
  · rintro ⟨entry, hentry, rfl | rfl⟩
    · exact .inl ⟨_, ⟨entry, hentry, rfl⟩, rfl⟩
    · exact .inr ⟨entry, hentry, rfl⟩
  · rintro (⟨_, ⟨entry, hentry, rfl⟩, rfl⟩ | ⟨entry, hentry, rfl⟩)
    · exact ⟨entry, hentry, .inl rfl⟩
    · exact ⟨entry, hentry, .inr rfl⟩

/-! ## Nodes -/

/-- The identity of a list, a dictionary or a function, or the mark of a float that is not a
number. -/
inductive Node where
  | list (ref : Nat)
  | dict (ref : Nat)
  | function (ref : Nat)
  | mark (mark : Nat)
deriving DecidableEq

/-- The node that a value refers to. -/
def Value.node? : Value → Option Node
  | .list ref => some (.list ref)
  | .dict ref => some (.dict ref)
  | .function ref => some (.function ref)
  | .nan mark => some (.mark mark)
  | _ => Option.none

/-- What a node holds. -/
inductive Cell where
  | list (elements : Array Value)
  | dict (entries : Dict)
  | function (function : Function)
  /-- A mark leads nowhere. -/
  | mark

/-- The values in a cell, in order. -/
def Cell.values : Cell → List Value
  | .list elements => elements.toList
  | .dict entries => entries.held
  | .function f => f.closure.values
  | .mark => []

/-- What a store has at a node. -/
def Store.cell (s : Store) : Node → Cell
  | .list ref => .list (s.list ref)
  | .dict ref => .dict (s.dict ref)
  | .function ref => .function (s.function ref)
  | .mark _ => .mark

/-- Whether a node exists. -/
def Store.Has (s : Store) : Node → Prop
  | .list ref => ref < s.lists.size
  | .dict ref => ref < s.dicts.size
  | .function ref => ref < s.functions.size
  | .mark mark => mark < s.marks

/-- Whether a node is a list or a dictionary. -/
def Node.IsContainer : Node → Prop
  | .list _ | .dict _ => True
  | .function _ | .mark _ => False

theorem Store.cell_values_of_not_has (h : ¬ s.Has n) : (s.cell n).values = [] := by
  cases n with
  | list ref =>
    have : s.lists[ref]? = none := Array.getElem?_eq_none (Nat.not_lt.mp h)
    simp [Store.cell, Cell.values, Store.list, this]
  | dict ref =>
    have : s.dicts[ref]? = none := Array.getElem?_eq_none (Nat.not_lt.mp h)
    simp [Store.cell, Cell.values, Store.dict, this, Table.empty, Dict.held]
  | function ref =>
    have : s.functions[ref]? = none := Array.getElem?_eq_none (Nat.not_lt.mp h)
    simp [Store.cell, Cell.values, Store.function, this]
    rfl
  | mark mark => rfl

/-! ## What the operations of a store do to the graph

A node that does not exist counts as empty, so that a new empty list changes no cell. -/

theorem getD_push (xs : Array α) (x : α) (k : Nat) (default : α) : (xs.push x)[k]?.getD
    default = if k = xs.size then x else xs[k]?.getD default := by
  rw [Array.getElem?_push]
  split <;> rfl

theorem getD_modify (xs : Array α) (i : Nat) (change : α → α) (k : Nat) (default : α) :
    (xs.modify i change)[k]?.getD default =
      if k = i ∧ k < xs.size then change (xs[k]?.getD default) else xs[k]?.getD default := by
  rw [Array.getElem?_modify]
  by_cases hk : k < xs.size
  · by_cases hi : i = k
    · simp [hi, hk]
    · simp [hi, Ne.symm hi]
  · simp [hk]

theorem Store.has_addList : (s.addList elements).2.Has n ↔ s.Has n ∨ n = .list s.lists.size := by
  cases n <;> simp [Store.Has, Store.addList]; omega

theorem Store.has_addDict : (s.addDict entries).2.Has n ↔ s.Has n ∨ n = .dict s.dicts.size := by
  cases n <;> simp [Store.Has, Store.addDict]; omega

theorem Store.has_addFunction : (s.addFunction f).2.Has
    n ↔ s.Has n ∨ n = .function s.functions.size := by
  cases n <;> simp [Store.Has, Store.addFunction]; omega

theorem Store.list_addList (s : Store) (elements : Array Value) (ref : Nat) :
    (s.addList elements).2.list ref = if ref = s.lists.size then elements else s.list ref :=
  getD_push s.lists elements ref _

theorem Store.dict_addDict (s : Store) (entries : Dict) (ref : Nat) :
    (s.addDict entries).2.dict ref = if ref = s.dicts.size then entries else s.dict ref :=
  getD_push s.dicts entries ref _

theorem Store.function_addFunction (s : Store) (f : Function) (ref : Nat) :
    (s.addFunction f).2.function ref = if ref = s.functions.size then f else s.function ref :=
  getD_push s.functions f ref _

theorem Store.cell_addList (s : Store) (elements : Array Value) (n : Node) :
    (s.addList elements).2.cell n =
      if n = .list s.lists.size then .list elements else s.cell n := by
  cases n with
  | list ref =>
    simp only [Store.cell, Store.list_addList, Node.list.injEq]
    split <;> rfl
  | _ => rfl

theorem Store.cell_addDict (s : Store) (entries : Dict) (n : Node) :
    (s.addDict entries).2.cell n =
      if n = .dict s.dicts.size then .dict entries else s.cell n := by
  cases n with
  | dict ref =>
    simp only [Store.cell, Store.dict_addDict, Node.dict.injEq]
    split <;> rfl
  | _ => rfl

theorem Store.cell_addFunction (s : Store) (f : Function) (n : Node) :
    (s.addFunction f).2.cell n =
      if n = .function s.functions.size then .function f else s.cell n := by
  cases n with
  | function ref =>
    simp only [Store.cell, Store.function_addFunction, Node.function.injEq]
    split <;> rfl
  | _ => rfl

@[simp]
theorem Store.cell_reserveList (s : Store) (n : Node) : s.reserveList.2.cell n = s.cell n := by
  refine (s.cell_addList #[] n).trans (ite_eq_right_iff.mpr ?_)
  rintro rfl
  simp [Store.cell, Store.list]

@[simp]
theorem Store.cell_reserveDict (s : Store) (n : Node) : s.reserveDict.2.cell n = s.cell n := by
  refine (s.cell_addDict .empty n).trans (ite_eq_right_iff.mpr ?_)
  rintro rfl
  simp [Store.cell, Store.dict]

@[simp] theorem Store.has_modifyList : (s.modifyList ref change).Has n ↔ s.Has n := by
  cases n <;> simp [Store.Has, Store.modifyList]

@[simp] theorem Store.has_modifyDict : (s.modifyDict ref change).Has n ↔ s.Has n := by
  cases n <;> simp [Store.Has, Store.modifyDict]

theorem Store.list_modifyList (s : Store) (ref : Nat) (change : Array Value → Array Value)
    (k : Nat) : (s.modifyList ref change).list k =
      if k = ref ∧ k < s.lists.size then change (s.list k) else s.list k :=
  getD_modify s.lists ref change k _

theorem Store.dict_modifyDict (s : Store) (ref : Nat) (change : Dict → Dict) (k : Nat) :
    (s.modifyDict ref change).dict k =
      if k = ref ∧ k < s.dicts.size then change (s.dict k) else s.dict k :=
  getD_modify s.dicts ref change k _

theorem Store.cell_modifyList (h : n ≠ .list ref) : (s.modifyList ref change).cell n = s.cell n := by
  cases n with
  | list k =>
    rw [Store.cell, Store.list_modifyList, if_neg fun hk => h (by rw [hk.1])]
    rfl
  | _ => rfl

theorem Store.cell_modifyDict (h : n ≠ .dict ref) : (s.modifyDict ref change).cell n = s.cell n := by
  cases n with
  | dict k =>
    rw [Store.cell, Store.dict_modifyDict, if_neg fun hk => h (by rw [hk.1])]
    rfl
  | _ => rfl

/-! ## Reachability -/

/-- The nodes that are reached from some values.  `through` says whether functions are entered. -/
inductive Store.Reach (s : Store) (through : Bool) (roots : List Value) : Node → Prop where
  | root {v : Value} {n : Node} : v ∈ roots → v.node? = some n → Store.Reach s through roots n
  | step {n k : Node} {v : Value} : Store.Reach s through roots n →
      (through = true ∨ n.IsContainer) → v ∈ (s.cell n).values → v.node? = some k →
      Store.Reach s through roots k

/-- A property of the roots that every node passes on holds of all that is reached. -/
theorem Store.Reach.induct_node (P : Node → Prop) (h : s.Reach through roots n)
    (root : ∀ v ∈ roots, ∀ k, v.node? = some k → P k)
    (step : ∀ k, P k → (through = true ∨ k.IsContainer) → ∀ v ∈ (s.cell k).values, ∀ l, v.node? = some l → P l) :
    P n := by
  induction h with
  | root hv hn => exact root _ hv _ hn
  | step _ hthrough hv hk ih => exact step _ ih hthrough _ hv _ hk

section

variable {s t u : Store} {roots : List Value} {n : Node}

theorem Store.Reach.entering (h : s.Reach through roots n) : s.Reach true roots n := by
  induction h with
  | root hv hn => exact .root hv hn
  | step _ _ hv hk ih => exact ih.step (.inl rfl) hv hk

/-- No values lead nowhere. -/
theorem Store.not_reach_nil : ¬ s.Reach through [] n :=
  fun h => h.induct_node (fun _ => False) (List.forall_mem_nil _) fun _ hk _ _ _ _ _ => hk

/-- Some values lead to the same in both stores, also through functions. -/
def Store.Kept (s t : Store) (roots : List Value) : Prop :=
  ∀ n, s.Reach true roots n → (s.Has n → t.Has n) ∧ t.cell n = s.cell n

theorem Store.Kept.refl (s : Store) (roots : List Value) : s.Kept s roots :=
  fun _ _ => ⟨id, rfl⟩

theorem Store.Kept.reach (h : s.Kept t roots) (hn : s.Reach through roots n) :
    t.Reach through roots n := by
  induction hn with
  | root hv hn => exact .root hv hn
  | step hreach hthrough hv hk ih =>
    rw [← (h _ hreach.entering).2] at hv
    exact ih.step hthrough hv hk

theorem Store.Kept.reach_back (h : s.Kept t roots) (hn : t.Reach through roots n) :
    s.Reach through roots n := by
  induction hn with
  | root hv hn => exact .root hv hn
  | step _ hthrough hv hk ih =>
    rw [(h _ ih.entering).2] at hv
    exact ih.step hthrough hv hk

theorem Store.Kept.trans (h : s.Kept t roots) (h' : t.Kept u roots) : s.Kept u roots := by
  intro n hn
  obtain ⟨hhas, hcell⟩ := h n hn
  obtain ⟨hhas', hcell'⟩ := h' n (h.reach hn)
  exact ⟨fun hs => hhas' (hhas hs), hcell'.trans hcell⟩

end

/-- The values in a detail. -/
def Detail.held : Detail → List Value
  | .value v => [v]
  | .values vs => vs
  | _ => []

/-- The values in the details of an action. -/
def Action.held (action : Action) : List Value :=
  action.details.values.flatMap Detail.held

/-- The values that a step shows: those of the variables and those in the details. -/
def Step.held (step : Step) : List Value :=
  step.bindings.values ++ step.action.held

/-! ## Graphs that differ in identities only -/

/-- Two values that match under a relation between containers.  All other values, functions among
them, have to be the same. -/
inductive Value.Matches (r : Node → Node → Prop) : Value → Value → Prop where
  | list {a b : Nat} : r (.list a) (.list b) → Value.Matches r (.list a) (.list b)
  | dict {a b : Nat} : r (.dict a) (.dict b) → Value.Matches r (.dict a) (.dict b)
  | scalar (x : Scalar) : Value.Matches r (.scalar x) (.scalar x)
  | complex (re im : Float) : Value.Matches r (.complex re im) (.complex re im)
  | function (ref : Nat) : Value.Matches r (.function ref) (.function ref)

/-- Two bindings that match: the same name with matching values. -/
def Binding.Matches {κ : Type} (r : Node → Node → Prop) (a b : κ × Value) : Prop :=
  a.1 = b.1 ∧ a.2.Matches r b.2

/-- Two scopes or dictionaries that match, entry by entry. -/
def Table.Matches {κ : Type} (r : Node → Node → Prop) (t u : Table κ Value) : Prop :=
  List.Forall₂ (Binding.Matches r) t.entries u.entries

/-- Two cells that match. -/
def Cell.Matches (r : Node → Node → Prop) : Cell → Cell → Prop
  | .list xs, .list ys => List.Forall₂ (Value.Matches r) xs.toList ys.toList
  | .dict xs, .dict ys => Table.Matches r xs ys
  | _, _ => False

/-- A one-to-one correspondence between containers of two stores that hold the same. -/
structure Correspondence (s t : Store) (r : Node → Node → Prop) : Prop where
  has {a b : Node} : r a b → s.Has a ∧ t.Has b
  functional {a b b' : Node} : r a b → r a b' → b = b'
  injective {a a' b : Node} : r a b → r a' b → a = a'
  cells {a b : Node} : r a b → (s.cell a).Matches r (t.cell b)

/-- Two scopes look the same: the same names in the same order, bound to the same values up to the
identities of lists and dictionaries, with the same sharing and the same cycles. -/
def Alike (s : Store) (env : Env) (t : Store) (env' : Env) : Prop :=
  ∃ r, Correspondence s t r ∧ Table.Matches r env env'

/-- Only the nodes of the two values matter. -/
theorem Value.Matches.imp_nodes {v w : Value} (hvw : v.Matches r w)
    (h : ∀ a b, v.node? = some a → w.node? = some b → r a b → r' a b) : v.Matches r' w := by
  cases hvw with
  | list hr => exact .list (h _ _ rfl rfl hr)
  | dict hr => exact .dict (h _ _ rfl rfl hr)
  | scalar x => exact .scalar x
  | complex re im => exact .complex re im
  | function ref => exact .function ref

theorem Value.Matches.imp (h : ∀ a b, r a b → r' a b) {v w : Value} (hvw : v.Matches r w) :
    v.Matches r' w :=
  hvw.imp_nodes fun a b _ _ => h a b

theorem Table.Matches.imp {κ : Type} (h : ∀ a b, r a b → r' a b) {t u : Table κ Value}
    (htu : Table.Matches r t u) : Table.Matches r' t u :=
  List.Forall₂.imp (fun _ _ hb => ⟨hb.1, hb.2.imp h⟩) htu

theorem Cell.Matches.imp (h : ∀ a b, r a b → r' a b) {x y : Cell} (hxy : x.Matches r y) :
    x.Matches r' y := by
  cases x <;> cases y <;> simp only [Cell.Matches] at hxy ⊢
  · exact List.Forall₂.imp (fun _ _ hv => hv.imp h) hxy
  · exact Table.Matches.imp h hxy

/-- What two scopes look like depends on no more than the nodes that exist. -/
theorem Alike.congr (h : Alike s env t env') (hs : ∀ n, s.Has n → s'.Has n ∧ s'.cell n = s.cell n)
    (ht : ∀ n, t.Has n → t'.Has n ∧ t'.cell n = t.cell n) : Alike s' env t' env' := by
  obtain ⟨r, hr, hmatch⟩ := h
  refine ⟨r, ⟨?_, hr.functional, hr.injective, ?_⟩, hmatch⟩
  · intro a b hab
    exact ⟨(hs a (hr.has hab).1).1, (ht b (hr.has hab).2).1⟩
  · intro a b hab
    rw [(hs a (hr.has hab).1).2, (ht b (hr.has hab).2).2]
    exact hr.cells hab

end Walkthrough
