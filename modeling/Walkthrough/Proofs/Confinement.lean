import Walkthrough.Proofs.Ownership
import Walkthrough.Proofs.Simulation

/-!
# Runs keep to what is live

Whatever a run is given is live, and so is whatever it gets hold of: this is the judgement of
`Walkthrough.Proofs.Ownership` for expressions, statements and calls.  It comes from
`Walkthrough.Proofs.Simulation`.  A renaming that knows just the live nodes fits a world
(`World.Fits`); values that stand for others under it are live.  A run that does the same with what is
alike has no way to tell the nodes that are not known, so it neither changes nor returns them.

The bindings of functions are not live.  A body starts from copies of them, and a format may show
them, which is all that comes of them; so the comparison is loose about functions.
-/

namespace Walkthrough

open Source

/-! ## Scopes -/

/-- Whether all values bound in a scope are live. -/
def World.LiveEnv (w : World) (env : Env) : Prop :=
  ∀ v ∈ env.values, w.Live v

theorem World.LiveEnv.later {w w' : World} {env : Env} (h : w.LiveEnv env) (hlater : w.Later w') :
    w'.LiveEnv env :=
  hlater.holds_all h

theorem World.LiveEnv.insert {w : World} (h : w.LiveEnv env) (hv : w.Live v) :
    w.LiveEnv (env.insert name v) := by
  intro u hu
  rcases Table.mem_values_insert hu with hu | rfl
  · exact h u hu
  · exact hv

theorem World.LiveEnv.knows {w : World} (h : w.LiveEnv env) :
    ∀ v ∈ env.values, w.machine.store.Knows v :=
  fun v hv => (h v hv).knows

/-! ## Renamings that fit a world -/

/-- Nothing is asked of the bindings of functions. -/
def Terms.free : Terms := { Terms.strict with loose := True }

/-- The renaming knows what is live and nothing else, it has seen the functions that there are, and
the bindings of those that it has seen exist. -/
structure World.Fits (w : World) (ρ : Renaming) : Prop where
  knows {n : Node} : ρ.Knows n ↔ w.machine.store.Has n ∧ (n.IsContainer → w.owner n = .live)
  sees {ref : Nat} : w.machine.store.Has (.function ref) → ρ.seen (w.machine.store.function ref)
  seen {f : Function} : ρ.seen f → ∀ v ∈ f.closure.values, w.machine.store.Knows v
  terms : ρ.terms = .free
  counts : ∃ t : Store, OneToOne ρ.list w.machine.store.lists.size t.lists.size ∧
    OneToOne ρ.dict w.machine.store.dicts.size t.dicts.size ∧
    OneToOne ρ.function w.machine.store.functions.size t.functions.size ∧
    OneToOne ρ.mark w.machine.store.marks t.marks

theorem Renaming.knows_iff {ρ : Renaming} {v : Value} :
    (∀ n, v.node? = some n → ρ.Knows n) ↔ ∃ v', v.Like ρ v' := by
  constructor
  · intro h
    cases v with
    | scalar x =>
      cases x with
      | nan mark =>
        obtain ⟨mark', hmark⟩ := h (.mark mark) rfl
        exact ⟨_, .scalar (.nan hmark)⟩
      | _ => exact ⟨_, .scalar (by constructor)⟩
    | complex re im => exact ⟨_, .complex re im⟩
    | list ref =>
      obtain ⟨ref', href⟩ := h (.list ref) rfl
      exact ⟨_, .list href⟩
    | dict ref =>
      obtain ⟨ref', href⟩ := h (.dict ref) rfl
      exact ⟨_, .dict href⟩
    | function ref =>
      obtain ⟨ref', href⟩ := h (.function ref) rfl
      exact ⟨_, .function href⟩
  · rintro ⟨v', h⟩ n hn
    cases h with
    | scalar h =>
      cases h with
      | nan h => cases hn; exact ⟨_, h⟩
      | _ => cases hn
    | complex re im => cases hn
    | list h => cases hn; exact ⟨_, h⟩
    | dict h => cases hn; exact ⟨_, h⟩
    | function h => cases hn; exact ⟨_, h⟩

section

variable {w w' : World} {ρ : Renaming} {v : Value}

theorem World.Fits.live_iff (hfits : w.Fits ρ) : w.Live v ↔ ∃ v', v.Like ρ v' := by
  rw [← Renaming.knows_iff]
  refine forall₂_congr fun n _ => ?_
  rw [hfits.knows]
  exact and_congr_right fun _ => imp_congr_right fun _ => or_iff_right nofun

theorem Value.Like.live (h : v.Like ρ v') (hfits : w.Fits ρ) : w.Live v :=
  hfits.live_iff.mpr ⟨v', h⟩

/-- Of two lists that are related one by one, every element of the first has a partner. -/
theorem exists_partner (h : List.Forall₂ R l l') (ha : a ∈ l) : ∃ b, R a b := by
  obtain ⟨b, _, hab⟩ := exists_of_forall₂ h.flip ha
  exact ⟨b, hab⟩

theorem ValuesLike.live (h : ValuesLike ρ vs ws) (hfits : w.Fits ρ) : ∀ v ∈ vs, w.Live v :=
  fun _ hv => hfits.live_iff.mpr (exists_partner h hv)

theorem World.Fits.values (hfits : w.Fits ρ) (h : ∀ v ∈ vs, w.Live v) : ∃ ws, ValuesLike ρ vs ws :=
  exists_forall₂ fun v hv => hfits.live_iff.mp (h v hv)

theorem EnvLike.live (h : EnvLike ρ env env') (hfits : w.Fits ρ) : w.LiveEnv env := by
  intro v hv
  obtain ⟨entry, hentry, rfl⟩ := List.mem_map.mp hv
  obtain ⟨entry', h⟩ := exists_partner h hentry
  exact h.2.live hfits

theorem World.Fits.env (hfits : w.Fits ρ) {env : Env} (h : w.LiveEnv env) :
    ∃ env', EnvLike ρ env env' := by
  have hentry (entry : String × Value) (hentry : entry ∈ env.entries) :
      ∃ entry', EntryLike Eq ρ entry entry' := by
    obtain ⟨v', hv⟩ := hfits.live_iff.mp (h entry.2 (List.mem_map_of_mem hentry))
    exact ⟨(entry.1, v'), rfl, hv⟩
  obtain ⟨entries, hentries⟩ := exists_forall₂ hentry
  exact ⟨⟨entries⟩, hentries⟩

/-! ### A store for the other side -/

/-- An array with something at each of `n` places that suits the one that stands for it. -/
theorem OneToOne.exists_array {α : Type} {P : Nat → α → Prop} (hr : OneToOne r m n)
    (hm : ∀ {a b}, r a b → a < m) (d : α) (h : ∀ {a b}, r a b → ∃ x, P a x) :
    ∃ xs : Array α, xs.size = n ∧ ∀ {a b}, r a b → P a (xs[b]?.getD d) := by
  have hsuited (b : Nat) : ∃ x, ∀ a, r a b → P a x := by
    by_cases hb : ∃ a, r a b
    · obtain ⟨a, hab⟩ := hb
      obtain ⟨x, hx⟩ := h hab
      refine ⟨x, fun a' hab' => ?_⟩
      rwa [hr.injective hab' hab]
    · exact ⟨d, fun a hab => absurd ⟨a, hab⟩ hb⟩
  choose f hf using hsuited
  refine ⟨Array.ofFn (n := n) fun i => f i, Array.size_ofFn, fun {a b} hab => ?_⟩
  have hb : b < n := (hr.lt_iff hab).mp (hm hab)
  rw [Array.getElem?_ofFn, dif_pos hb]
  exact hf b a hab

/-- The store of a world is linked to some other by every renaming that fits. -/
theorem World.Fits.links (hfits : w.Fits ρ) (hw : w.Separate) :
    ∃ t, ρ.Links w.machine.store t := by
  obtain ⟨t, hlists, hdicts, hfunctions, hmarks⟩ := hfits.counts
  have hbound {n : Node} (hn : ρ.Knows n) : w.machine.store.Has n := (hfits.knows.mp hn).1
  have hlist {a b : Nat} (hab : ρ.list a b) :
      ∃ ys : Array Value, ValuesLike ρ (w.machine.store.list a).toList ys.toList := by
    have hlive : w.Live (.list a) := hfits.live_iff.mpr ⟨_, .list hab⟩
    have hvalues : ∀ v ∈ (w.machine.store.list a).toList, w.Live v :=
      fun v hv => hw.live_elements hlive v (Array.mem_toList_iff.mp hv)
    obtain ⟨ws, hws⟩ := hfits.values hvalues
    exact ⟨ws.toArray, hws⟩
  have hdict {a b : Nat} (hab : ρ.dict a b) : ∃ e, DictLike ρ (w.machine.store.dict a) e := by
    have hlive : w.Live (.dict a) := hfits.live_iff.mpr ⟨_, .dict hab⟩
    have hentry (entry : Key × Value) (hentry : entry ∈ (w.machine.store.dict a).entries) :
        ∃ entry', EntryLike (Key.Like ρ) ρ entry entry' := by
      obtain ⟨v', hv⟩ := hfits.live_iff.mp
        (hw.live_entries hlive entry.2 (List.mem_map_of_mem hentry))
      obtain ⟨k', hk⟩ := hfits.live_iff.mp
        (hw.live_keys hlive entry.1 (List.mem_map_of_mem hentry))
      cases hk with
      | @scalar _ spelling hk => exact ⟨(⟨spelling⟩, v'), hk, hv⟩
    obtain ⟨entries, hentries⟩ := exists_forall₂ hentry
    exact ⟨⟨entries⟩, hentries⟩
  obtain ⟨lists, hlistsSize, hlists'⟩ := hlists.exists_array
    (fun {a b} hab => hbound (n := .list a) ⟨b, hab⟩) #[] hlist
  obtain ⟨dicts, hdictsSize, hdicts'⟩ := hdicts.exists_array
    (fun {a b} hab => hbound (n := .dict a) ⟨b, hab⟩) .empty hdict
  obtain ⟨functions, hfunctionsSize, hfunctions'⟩ := hfunctions.exists_array
    (P := fun a g => w.machine.store.function a = g)
    (fun {a b} hab => hbound (n := .function a) ⟨b, hab⟩) default fun _ => ⟨_, rfl⟩
  refine ⟨⟨lists, dicts, functions, t.marks⟩, ⟨⟨?_, ?_, hlists', hdicts'⟩, ?_, hmarks, ?_⟩⟩
  · rwa [hlistsSize]
  · rwa [hdictsSize]
  · rwa [hfunctionsSize]
  · intro a b hab
    rw [show Store.function ⟨lists, dicts, functions, t.marks⟩ b = _ from (hfunctions' hab).symm]
    refine ⟨rfl, rfl, rfl, ?_, ?_, fun _ => hfits.sees (hbound (n := .function a) ⟨b, hab⟩)⟩
    · rw [hfits.terms]
      rfl
    · rw [hfits.terms]
      exact fun hstrict => absurd trivial hstrict

/-! ### Growing with the world -/

theorem OneToOne.extend {r : Nat → Nat → Prop} (hr : OneToOne r m n) (hm : ∀ {a b}, r a b → a < m)
    (hle : m ≤ m') {p : Nat → Prop} (hp : ∀ {a}, p a → a < m' ∧ ∀ b, ¬ r a b) :
    OneToOne (fun a b => r a b ∨ p a ∧ b = n + a) m' (n + m') where
  functional := by
    rintro a b b' (hab | ⟨ha, rfl⟩) (hab' | ⟨ha', rfl⟩)
    · exact hr.functional hab hab'
    · exact absurd hab ((hp ha').2 b)
    · exact absurd hab' ((hp ha).2 b')
    · rfl
  injective := by
    rintro a a' b (hab | ⟨ha, rfl⟩) (hab' | ⟨ha', hb⟩)
    · exact hr.injective hab hab'
    · have := (hr.lt_iff hab).mp (hm hab)
      omega
    · have := (hr.lt_iff hab').mp (hm hab')
      omega
    · omega
  fresh := by
    rintro a b (hab | ⟨ha, rfl⟩)
    · have := (hr.lt_iff hab).mp (hm hab)
      have := hm hab
      omega
    · have := (hp ha).1
      omega

/-- The renaming that also pairs the nodes with the property `p`, each with one that `t` has not given
out. -/
def Renaming.grown (ρ : Renaming) (t : Store) (p : Node → Prop) (seen : Function → Prop) :
    Renaming where
  list a b := ρ.list a b ∨ p (.list a) ∧ b = t.lists.size + a
  dict a b := ρ.dict a b ∨ p (.dict a) ∧ b = t.dicts.size + a
  function a b := ρ.function a b ∨ p (.function a) ∧ b = t.functions.size + a
  mark a b := ρ.mark a b ∨ p (.mark a) ∧ b = t.marks + a
  seen
  terms := ρ.terms

theorem Renaming.knows_grown {t : Store} {p : Node → Prop} {seen : Function → Prop} {n : Node} :
    (ρ.grown t p seen).Knows n ↔ ρ.Knows n ∨ p n := by
  cases n <;> simp [Renaming.Knows, Renaming.grown, exists_or]

/-- If everything is still there, at least as many identities have been given out. -/
theorem le_of_has {s t : Store} {k : Nat → Node} {count : Store → Nat}
    (hk : ∀ s i, Store.Has s (k i) ↔ i < count s) (h : ∀ {n}, s.Has n → t.Has n) :
    count s ≤ count t := by
  by_contra hlt
  have := (hk t _).mp (h ((hk s (count t)).mpr (Nat.lt_of_not_le hlt)))
  omega

/-- A renaming that fits grows to one that fits the world later on. -/
theorem World.Fits.extend (hfits : w.Fits ρ) (hlater : w.Later w') (hw' : w'.Separate) :
    ∃ ρ', ρ.Within ρ' ∧ w'.Fits ρ' := by
  obtain ⟨t, hlists, hdicts, hfunctions, hmarks⟩ := hfits.counts
  have hbound {n : Node} (hn : ρ.Knows n) : w.machine.store.Has n := (hfits.knows.mp hn).1
  have hfresh {n : Node} {q : Prop} (h : ¬ ρ.Knows n ∧ w'.machine.store.Has n ∧ q) :
      w'.machine.store.Has n ∧ ¬ ρ.Knows n := ⟨h.2.1, h.1⟩
  refine ⟨ρ.grown t (fun n => ¬ ρ.Knows n ∧ w'.machine.store.Has n ∧
      (n.IsContainer → w'.owner n = .live)) fun f => ∀ v ∈ f.closure.values,
      w'.machine.store.Knows v, ⟨.inl, .inl, .inl, .inl, ?_, rfl⟩, ?_, ?_, id, hfits.terms, ?_⟩
  · exact fun hf v hv n hn => hlater.has (hfits.seen hf v hv n hn)
  · intro n
    rw [Renaming.knows_grown]
    by_cases hn : ρ.Knows n
    · obtain ⟨hhas, hlive⟩ := hfits.knows.mp hn
      refine iff_of_true (.inl hn) ⟨hlater.has hhas, fun hc => ?_⟩
      rw [hlater.owner hhas]
      exact hlive hc
    · simp [hn]
  · exact fun {ref} _ => hw'.closure_known ref
  · refine ⟨⟨.replicate (t.lists.size + w'.machine.store.lists.size) default,
      .replicate (t.dicts.size + w'.machine.store.dicts.size) default,
      .replicate (t.functions.size + w'.machine.store.functions.size) default,
      t.marks + w'.machine.store.marks⟩, ?_, ?_, ?_, ?_⟩
    · rw [Array.size_replicate]
      exact hlists.extend (fun {a b} hab => hbound (n := .list a) ⟨b, hab⟩)
        (le_of_has (k := .list) (fun _ _ => Iff.rfl) hlater.has)
        fun h => (hfresh h).imp_right not_exists.mp
    · rw [Array.size_replicate]
      exact hdicts.extend (fun {a b} hab => hbound (n := .dict a) ⟨b, hab⟩)
        (le_of_has (k := .dict) (fun _ _ => Iff.rfl) hlater.has)
        fun h => (hfresh h).imp_right not_exists.mp
    · rw [Array.size_replicate]
      exact hfunctions.extend (fun {a b} hab => hbound (n := .function a) ⟨b, hab⟩)
        (le_of_has (k := .function) (fun _ _ => Iff.rfl) hlater.has)
        fun h => (hfresh h).imp_right not_exists.mp
    · exact hmarks.extend (fun {a b} hab => hbound (n := .mark a) ⟨b, hab⟩)
        (le_of_has (k := .mark) (fun _ _ => Iff.rfl) hlater.has)
        fun h => (hfresh h).imp_right not_exists.mp

/-- The live nodes of a world, each standing for itself. -/
def World.renaming (w : World) : Renaming where
  list a b := a = b ∧ w.Live (.list a)
  dict a b := a = b ∧ w.Live (.dict a)
  function a b := a = b ∧ w.Live (.function a)
  mark a b := a = b ∧ w.Live (.nan a)
  seen f := ∀ v ∈ f.closure.values, w.machine.store.Knows v
  terms := .free

theorem World.Separate.fits (hw : w.Separate) : w.Fits w.renaming where
  knows {n} := by
    cases n <;> simp [Renaming.Knows, World.renaming, World.Live, World.Holds, Value.node?]
  sees {ref} _ := hw.closure_known ref
  seen := id
  terms := rfl
  counts := ⟨w.machine.store, .on fun a ha => and_self_iff.mpr (ha _ rfl).1,
    .on fun a ha => and_self_iff.mpr (ha _ rfl).1, .on fun a ha => and_self_iff.mpr (ha _ rfl).1,
    .on fun a ha => and_self_iff.mpr (ha _ rfl).1⟩

end

/-! ## Confined runs -/

/-- From every world that the renaming fits a run is safe, and what it gives is as `P` says under a
wider renaming, which fits the world at its end. -/
def Confined {α : Type} (ρ : Renaming) (x : Run α) (P : Renaming → α → Prop) : Prop :=
  ∀ w, w.Fine → w.Fits ρ → Safe x w fun a w' => ∃ ρ', ρ.Within ρ' ∧ w'.Fits ρ' ∧ P ρ' a

section

variable {α β : Type} {ρ : Renaming}

/-- A run that is safe in every world that fits. -/
theorem Confined.ofSafe (h : ∀ w, w.Fine → w.Fits ρ → Safe x w Q)
    (hP : ∀ ρ' w' a, ρ.Within ρ' → w'.Fits ρ' → Q a w' → P ρ' a) : Confined ρ x P := by
  intro w hw hfits
  refine (h w hw hfits).imp fun a w' hw' hlater hQ => ?_
  obtain ⟨ρ', hρ, hfits'⟩ := hfits.extend hlater hw'.toSeparate
  exact ⟨ρ', hρ, hfits', hP ρ' w' a hρ hfits' hQ⟩

/-- A run that is safe and gives nothing. -/
theorem Confined.silent {x : Run Unit} (h : ∀ w, w.Fine → w.Fits ρ → ∃ Q, Safe x w Q) :
    Confined ρ x fun _ _ => ∃ _ : Unit, True := by
  refine Confined.ofSafe (Q := fun _ _ => True) (fun w hw hfits => ?_)
    fun _ _ _ _ _ _ => ⟨(), trivial⟩
  obtain ⟨Q, hx⟩ := h w hw hfits
  exact hx.imp fun _ _ _ _ _ => trivial

theorem Confined.bind (hx : Confined ρ x P) (hf : ∀ ρ' a, ρ.Within ρ' → P ρ' a → Confined ρ' (f a) Q) :
    Confined ρ (x >>= f) Q := by
  intro w hw hfits
  refine (hx w hw hfits).bind ?_
  rintro a w₁ hw₁ _ ⟨ρ₁, h₁, hfits₁, ha⟩
  refine (hf ρ₁ a h₁ ha w₁ hw₁ hfits₁).imp ?_
  rintro b w₂ _ _ ⟨ρ₂, h₂, hfits₂, hb⟩
  exact ⟨ρ₂, h₁.trans h₂, hfits₂, hb⟩

/-- What is known under a wider renaming is known under this one at the same time. -/
theorem Confined.widen (hρ : ρ.Within ρ') (hw : w.Fine) (hfits : w.Fits ρ') (hx : Confined ρ' x P) :
    Safe x w fun a w' => ∃ ρ'', ρ.Within ρ'' ∧ w'.Fits ρ'' ∧ P ρ'' a := by
  refine (hx w hw hfits).imp ?_
  rintro a w' _ _ ⟨ρ'', hρ', hfits', ha⟩
  exact ⟨ρ'', hρ.trans hρ', hfits', ha⟩

end

/-! ### Runs that do the same with what is alike -/

section

variable {w : World} {ρ ρ' : Renaming} {s t : Store}

/-- What a known node holds is known, unless it is a function. -/
theorem Renaming.Links.cell_known (h : ρ.Links s t) (hn : ρ.Knows n)
    (hfunction : ∀ ref, n ≠ .function ref) : ∀ v ∈ (s.cell n).values, ∃ v', v.Like ρ v' := by
  cases n with
  | list ref =>
    obtain ⟨ref', href⟩ := hn
    exact fun v hv => exists_partner (h.list href) hv
  | dict ref =>
    obtain ⟨ref', href⟩ := hn
    intro v hv
    rcases Dict.mem_held.mp hv with ⟨key, hkey, rfl⟩ | hv
    · obtain ⟨entry, hentry, rfl⟩ := List.mem_map.mp hkey
      obtain ⟨entry', hlike⟩ := exists_partner (h.dict href) hentry
      exact ⟨_, .scalar hlike.1⟩
    · obtain ⟨entry, hentry, rfl⟩ := List.mem_map.mp hv
      obtain ⟨entry', hlike⟩ := exists_partner (h.dict href) hentry
      exact ⟨_, hlike.2⟩
  | function ref => exact absurd rfl (hfunction ref)
  | mark mark => exact List.forall_mem_nil _

/-- The world after a run that compared what it knew: all that is new is live. -/
theorem World.Fits.grow (hfits : w.Fits ρ) (hw : w.Separate) (hρ : ρ.Within ρ')
    (hlinks : ρ'.Links s t) (hspares : ρ.Spares ρ' w.machine.store s) :
    (w.Later (w.grow .live s) ∧ (w.grow .live s).Separate) ∧ (w.grow .live s).Fits ρ' := by
  have hloose : ρ.terms.loose := by
    rw [hfits.terms]
    trivial
  have hfunctions : s.functions = w.machine.store.functions := hspares.functions hloose
  have hknows {n : Node} :
      ρ'.Knows n ↔ s.Has n ∧ (n.IsContainer → (w.grow .live s).owner n = .live) := by
    by_cases hn : w.machine.store.Has n
    · rw [World.grow_owner_old hn]
      refine ⟨fun h => ?_, fun h => hρ.knows (hfits.knows.mpr ⟨hn, h.2⟩)⟩
      have hknown := (hspares.known h).resolve_right fun hnew => hnew.1 hn
      exact ⟨hspares.has hn, (hfits.knows.mp hknown).2⟩
    · rw [World.grow_owner_new hn]
      refine ⟨fun h => ⟨?_, fun _ => rfl⟩, fun h => hspares.new hn h.1⟩
      rcases hspares.known h with h | h
      · exact absurd (hfits.knows.mp h).1 hn
      · exact h.2
  have hlive {v : Value} (h : ∃ v', v.Like ρ' v') : (w.grow .live s).Live v := by
    intro n hn
    obtain ⟨hhas, howner⟩ := hknows.mp (Renaming.knows_iff.mpr h n hn)
    exact ⟨hhas, fun hc => .inr (howner hc)⟩
  refine ⟨World.grow_later hw hspares.has ?_ ?_ ?_, hknows, ?_, ?_, hρ.terms.trans hfits.terms,
    t, hlinks.lists, hlinks.dicts, hlinks.functions, hlinks.marks⟩
  · intro n hn
    by_cases hknown : n.IsContainer ∧ ρ.Knows n
    · refine .inr ⟨(hfits.knows.mp hknown.2).2 hknown.1, fun v hv => hlive ?_⟩
      refine hlinks.cell_known (hρ.knows hknown.2) ?_ v hv
      rintro ref rfl
      exact hknown.1
    · exact .inl (hspares.cell hn hknown)
  · intro n hn v hv
    by_cases hnew : s.Has n
    · refine hlive (hlinks.cell_known (hspares.new hn hnew) ?_ v hv)
      rintro ref rfl
      rw [Store.Has, hfunctions] at hnew
      exact hn hnew
    · rw [Store.cell_values_of_not_has hnew] at hv
      cases hv
  · intro ref href
    rw [Store.Has, hfunctions] at href
    exact .inl href
  · intro ref href
    change s.Has (.function ref) at href
    rw [Store.Has, hfunctions] at href
    change ρ'.seen (s.function ref)
    rw [Store.function, hfunctions]
    exact hρ.seen (hfits.sees href)
  · intro f hf v hv n hn
    exact hspares.has (hfits.seen (hspares.seen hf) v hv n hn)

theorem Faithful.printed (h : Faithful history) (lines : List String) :
    Faithful (lines.map .printed ++ history) := by
  induction lines with
  | nil => exact h
  | cons line lines ih => exact ih

theorem Remembers.printed (h : Remembers history now) (lines : List String) :
    Remembers (lines.map .printed ++ history) now := by
  induction lines with
  | nil => exact h
  | cons line lines ih => exact ⟨nofun, ih⟩

/-- Printing keeps the output in step with the history. -/
theorem World.Fine.print (hw : w.Fine) (lines : List String) :
    w.Later { w with machine := w.machine.after w.machine.store lines } ∧
      World.Fine { w with machine := w.machine.after w.machine.store lines } := by
  have hstep : (lines.map Event.printed).filterMap Event.step? = [] := by
    simp [List.filterMap_map, Function.comp_def, Event.step?]
  have hline : (lines.map Event.printed).filterMap Event.line? = lines := by
    simp [List.filterMap_map, Function.comp_def, Event.line?]
  refine ⟨⟨id, fun _ => rfl, fun _ _ => rfl, List.prefix_refl _, List.suffix_append _ _, rfl,
    fun _ => rfl⟩, ⟨⟨hw.cells, hw.closures, hw.steps⟩, fun hsilent => ?_⟩, fun hsilent => ?_⟩
  · have hjournal := hw.journal hsilent
    refine ⟨?_, hjournal.faithful.printed lines, hjournal.copyable,
      hjournal.remembers.printed lines⟩
    change (lines.map Event.printed ++ w.machine.history).filterMap Event.step? = _
    rw [List.filterMap_append, hstep]
    exact hjournal.recorded
  · change lines ++ w.machine.output.latestFirst =
      (lines.map Event.printed ++ w.machine.history).filterMap Event.line?
    rw [List.filterMap_append, hline, hw.inSync hsilent]

variable {α β : Type}

theorem Confined.mirrors (h : Mirrors ρ x y P) : Confined ρ x fun ρ' a => ∃ b, P ρ' a b := by
  intro w hw hfits
  obtain ⟨t, ht⟩ := hfits.links hw.toSeparate
  obtain ⟨ρ', hρ, hlinks, ⟨hspares, lines, hm, _⟩, hagree⟩ :=
    h w.machine { w.machine with store := t } ht
  obtain ⟨⟨hlater, hseparate⟩, hfits'⟩ := hfits.grow hw.toSeparate hρ hlinks hspares
  have hgrown : (w.grow .live (exec x w.machine).2.store).Fine :=
    ⟨⟨hseparate, hw.journal_later hlater rfl rfl⟩, hw.inSync⟩
  obtain ⟨hlater', hfine⟩ := hgrown.print lines
  have hm : (exec x w.machine).2 = w.machine.after (exec x w.machine).2.store lines := hm
  refine ⟨(w.grow .live (exec x w.machine).2.store).owner, ?_⟩
  rw [hm]
  refine ⟨hlater.trans hlater', hfine.toSound, ?_⟩
  generalize (exec x w.machine).1 = result at hagree ⊢
  generalize (exec y { w.machine with store := t }).1 = result' at hagree
  cases hagree with
  | error _ => exact fun _ => hfine.inSync
  | ok hP =>
    exact ⟨hfine.inSync, ρ', hρ, ⟨hfits'.knows, hfits'.sees, hfits'.seen, hfits'.terms,
      hfits'.counts⟩, _, hP⟩

end

/-! ### Rules -/

/-- What a run gives is live. -/
abbrev LiveResult : Value → World → Prop := fun v w => w.Live v

/-- Counting a statement changes nothing but the counters and the history. -/
theorem Safe.countStatement (hw : w.Fine) (config : Config) :
    Safe (Walkthrough.countStatement config) w fun _ w' => w'.machine =
      { w.machine with tally := w'.machine.tally, history := w'.machine.history } := by
  refine (Safe.count (g := fun t => { t with statements := t.statements + 1 }) hw).bind ?_
  intro _ w₁ hw₁ h₁ hmachine₁
  refine (Safe.note_pass hw₁).bind ?_
  intro _ w₂ hw₂ h₂ hmachine₂
  refine Upholds.get_bind ?_
  split
  · exact Upholds.throw hw₂
  · refine Upholds.pure hw₂ ?_
    rw [hmachine₂, hmachine₁]

/-- A new function gets a copy of the scope to itself. -/
theorem bindFunction_safe (hw : w.Fine) {env : Env} (henv : w.LiveEnv env) (definition : Definition)
    (body : List Line) (block : List Item) :
    Safe (bindFunction definition body block env) w fun effect w' =>
      ∃ parameters v, w'.Live v ∧ effect = .done
        (.define definition.name parameters (body.map (·.index))) (env.insert definition.name v) () := by
  rw [bindFunction]
  split
  · exact Safe.fail hw
  · refine (Safe.snapshot_env (.closure w.machine.store.functions.size) hw henv.knows).bind ?_
    rintro closure w₁ hw₁ h₁ ⟨hclosure, hfunctions⟩
    rw [← hfunctions] at hclosure
    refine (Safe.addFunction hw₁ hclosure).bind fun function w₂ hw₂ h₂ hfunction => ?_
    exact Upholds.pure hw₂ ⟨_, _, hfunction, rfl⟩

/-- A body starts in a scope of its own: copies, the function itself and the arguments. -/
theorem startingScope_safe (hw : w.Fine) (href : w.Live (.function ref))
    (hclosure : ∀ v ∈ function.closure.values, w.machine.store.Knows v)
    (harguments : ∀ v ∈ arguments, w.Live v) :
    Safe (startingScope ref function arguments) w (fun scope w' => w'.LiveEnv scope) := by
  refine (Safe.snapshot_env .live hw hclosure).bind ?_
  rintro closure w₁ hw₁ h₁ ⟨hlive, _⟩
  refine Upholds.pure hw₁ ?_
  intro v hv
  rcases Table.mem_values_insertMany hv with hv | hv
  · split at hv
    · exact hlive v hv
    · rcases Table.mem_values_insert hv with hv | rfl
      · exact hlive v hv
      · exact h₁.holds href
  · obtain ⟨pair, hpair, rfl⟩ := List.mem_map.mp hv
    exact h₁.holds (harguments _ (List.of_mem_zip hpair).2)

/-- Of a format that is filled in comes a text, and nothing else happens. -/
theorem exec_fill (format : String) (b : Value) (m : Machine) :
    ∃ result, exec (BinaryOp.apply .mod (.str format) b) m = (result, m) ∧
      ∀ v, result = .ok v → ∃ text, v = .str text := by
  have hrun : ∃ result, exec (remainderValues (.str format) b) m = (result, m) ∧
      ∀ v, result = .ok v → ∃ text, v = .str text := by
    rw [remainderValues, exec_bind_ok (exec_get m)]
    split
    · refine ⟨_, rfl, ?_⟩
      rintro _ ⟨⟩
      exact ⟨_, rfl⟩
    all_goals exact ⟨_, rfl, nofun⟩
  have hrefuse : ∃ failure, exec (operandError .mod (.str format) b) m = (.error failure, m) := by
    unfold operandError
    cases (Value.str format).typeName with
    | error failure => exact ⟨_, rfl⟩
    | ok left => cases b.typeName <;> exact ⟨_, rfl⟩
  obtain ⟨result, hresult, htext⟩ := hrun
  obtain ⟨failure, hfailure⟩ := hrefuse
  unfold BinaryOp.apply
  rw [if_neg (by decide)]
  split
  · exact ⟨_, hfailure, nofun⟩
  · have hexec {k : Except OperatorTrouble Value → Run Value} :
        exec (liftM (BinaryOp.run .mod (.str format) b).run >>= k) m = exec (k result) m := by
      change exec (k (exec (remainderValues (.str format) b) m).1)
        (exec (remainderValues (.str format) b) m).2 = _
      rw [hresult]
    rw [hexec]
    cases result with
    | ok v =>
      refine ⟨_, rfl, ?_⟩
      rintro _ ⟨⟩
      exact htext v rfl
    | error trouble =>
      cases trouble with
      | mismatch => exact ⟨_, hfailure, nofun⟩
      | failure cause => exact ⟨_, rfl, nofun⟩

theorem Confined.fill (format : String) (b : Value) :
    Confined ρ (BinaryOp.apply .mod (.str format) b) fun ρ' v => ∃ v', v.Like ρ' v' := by
  refine Confined.ofSafe (Q := fun v _ => ∃ text, v = .str text) (fun w hw _ => ?_) ?_
  · obtain ⟨result, hresult, htext⟩ := exec_fill format b w.machine
    refine Upholds.congr (y := Run.ofExcept result) ?_ (Safe.ofExcept hw htext)
    rw [hresult, exec_ofExcept]
  · rintro ρ' w' _ _ _ ⟨text, rfl⟩
    exact ⟨_, Like.str text⟩

theorem Confined.remainder (ha : a.Like ρ a') (hb : b.Like ρ b') :
    Confined ρ (BinaryOp.apply .mod a b) fun ρ' v => ∃ v', v.Like ρ' v' := by
  by_cases htext : ∃ format, a = .str format
  · obtain ⟨format, rfl⟩ := htext
    exact Confined.fill format b
  · exact Confined.mirrors (BinaryOp.apply_mirrors .mod (fun _ h => absurd h htext) ha hb)

theorem Confined.define (henv : EnvLike ρ env env') (definition : Definition) (body : List Line)
    (block : List Item) : Confined ρ (bindFunction definition body block env) fun ρ' effect =>
      ∃ effect', Effect.Like (fun _ => Eq) ρ' effect effect' := by
  refine Confined.ofSafe (fun w hw hfits =>
    bindFunction_safe hw (EnvLike.live henv hfits) definition body block) ?_
  rintro ρ' w' effect hρ hfits ⟨parameters, v, hv, rfl⟩
  obtain ⟨v', hvv'⟩ := hfits.live_iff.mp hv
  exact ⟨_, .done (.define _ _ _) (envLike_insert (envLike_mono hρ henv) _ hvv') rfl⟩

theorem Confined.enter (hab : ρ.function a b) (hfg : f.Like ρ g) (hvs : ValuesLike ρ vs ws) :
    Confined ρ (startingScope a f vs) fun ρ' scope => ∃ scope', EnvLike ρ' scope scope' := by
  refine Confined.ofSafe (Q := fun scope w' => w'.LiveEnv scope) (fun w hw hfits => ?_)
    fun ρ' w' scope _ hfits hscope => hfits.env hscope
  have hloose : ρ.terms.loose := by
    rw [hfits.terms]
    trivial
  exact startingScope_safe hw ((Value.Like.function hab).live hfits) (hfits.seen (hfg.seen hloose))
    (ValuesLike.live hvs hfits)

/-- Confined runs.  All that matters of the second of two runs is that it gives something. -/
def Judgement.confined (config : Config) : Judgement config config where
  rel ρ x _ P := Confined ρ x fun ρ' a => ∃ b, P ρ' a b
  mirrors := Confined.mirrors
  bind hx hf := Confined.bind hx fun ρ' a hρ ⟨b, hab⟩ => hf ρ' a b hρ hab
  handle := by
    intro α β ρ rolls x x' y y' h k P hx hhandler hx' _ w hw hfits
    refine (hx w hw hfits).handle (fun cause w' hw' hlater => ?_) hx'
    obtain ⟨ρ', hρ, hfits'⟩ := hfits.extend hlater hw'.toSeparate
    exact (hhandler ρ' cause hρ).widen hρ hw' hfits'
  remainder := Confined.remainder
  define definition body _ henv := Confined.define henv definition body _
  enter := Confined.enter
  call := .silent fun _ hw _ =>
    ⟨_, Safe.count (g := fun t => { t with calls := t.calls + 1 }) hw⟩
  iteration := .silent fun _ hw _ =>
    ⟨_, Safe.count (g := fun t => { t with iterations := t.iterations + 1 }) hw⟩
  statement := .silent fun _ hw _ => ⟨_, Safe.countStatement hw config⟩
  passed := .silent fun _ hw _ => ⟨_, Safe.note_pass hw⟩
  called _ hab hvs := .silent fun _ hw hfits => ⟨_, Safe.note_call hw
    ((Value.Like.function hab).live hfits) (ValuesLike.live hvs hfits)⟩
  iterations := rfl
  callDepth := rfl

theorem Judgement.confined_sameBlocks (config : Config) : (Judgement.confined config).SameBlocks :=
  fun h w hw hfits => h (by rw [hfits.terms]; rfl) w hw hfits

/-! ## Calls and expressions -/

/-- Calls are safe. -/
def CallSafe (call : Nat → List Value → Run Value) : Prop :=
  ∀ ref arguments w, w.Fine → w.Live (.function ref) → (∀ v ∈ arguments, w.Live v) →
    Safe (call ref arguments) w LiveResult

theorem CallSafe.calls (h : CallSafe context.call) : (Judgement.confined .usual).Calls
    context context where
  iterations := rfl
  call hab hvs := Confined.ofSafe (fun w hw hfits => h _ _ w hw ((Value.Like.function hab).live hfits)
    (ValuesLike.live hvs hfits)) fun _ _ _ _ hfits hv => hfits.live_iff.mp hv

/-- Calls are safe, however many are under way. -/
theorem callFunction_safe (config : Config) (room depth : Nat) :
    CallSafe (callFunction config room depth) := by
  intro ref arguments w hw href harguments
  have hfits := hw.toSeparate.fits
  obtain ⟨_, hlike⟩ := hfits.live_iff.mp href
  obtain ⟨ws, hws⟩ := hfits.values harguments
  cases hlike with
  | function hab =>
    refine ((Judgement.confined config).function (Judgement.confined_sameBlocks config) room depth
      hab hws w hw hfits).imp ?_
    rintro v w' _ _ ⟨ρ', _, hfits', v', hv⟩
    exact hv.live hfits'

theorem Frame.top_call_safe (config : Config) : CallSafe (Frame.top config).call :=
  callFunction_safe config callLimit 0

/-- The value of an expression is live, whatever its parts did before. -/
theorem evaluate_safe (hcall : CallSafe context.call) (hw : w.Fine) (henv : w.LiveEnv env)
    (expr : Expr) : Safe (evaluate context env expr) w LiveResult := by
  obtain ⟨env', henv'⟩ := hw.toSeparate.fits.env henv
  refine (hcall.calls.value expr henv' w hw hw.toSeparate.fits).imp ?_
  rintro v w' _ _ ⟨ρ', _, hfits', v', hv⟩
  exact hv.live hfits'

theorem Reading.evaluate_safe (hcall : CallSafe context.call) (hw : w.Fine)
    (henv : w.LiveEnv env) (reading : Reading) :
    Safe (reading.evaluate context env) w LiveResult := by
  obtain ⟨env', henv'⟩ := hw.toSeparate.fits.env henv
  refine (hcall.calls.reading henv' reading w hw hw.toSeparate.fits).imp ?_
  rintro v w' _ _ ⟨ρ', _, hfits', v', hv⟩
  exact hv.live hfits'

end Walkthrough
