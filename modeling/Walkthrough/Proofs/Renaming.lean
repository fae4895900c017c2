import Walkthrough.Proofs.Snapshot

/-!
# Renamings

Two stores may hold the same things under different identities.  A `Renaming` says which list,
dictionary, function and mark of one store stands for which of another; `Value.Like` follows it
through values, and `Renaming.Links` says that what stands for each other holds the same.

`Parallel` compares two computations that start from states linked by a renaming.  It has rules for
the ways to build a computation, so that every part of the interpreter needs one lemma only.  What is
compared, and how closely, is a `Comparison`.

The first thing that is compared here is copying: what stands for each other is copied alike, or
nests too deeply in both stores.
-/

namespace Walkthrough

open Source

variable {ρ ρ' : Renaming} {v w : Value} {n : Node} {s s' : Store} {a b : Nat}

/-! ## Renamings -/

/-- How functions that stand for each other are compared: which blocks they may have, and whether
nothing is asked of their bindings. -/
structure Terms where
  block : List Item → List Item → Prop
  loose : Prop
  empty : block [] []

/-- Functions that stand for each other have the same blocks, and bindings that are alike. -/
def Terms.strict : Terms := ⟨Eq, False, rfl⟩

/-- Which identities of one store stand for which of another.  In a loose comparison the functions
of the first store that have been met are `seen`. -/
structure Renaming where
  list : Nat → Nat → Prop
  dict : Nat → Nat → Prop
  function : Nat → Nat → Prop
  mark : Nat → Nat → Prop
  seen : Function → Prop
  terms : Terms

/-- The renaming `ρ'` knows all pairs of `ρ`. -/
structure Renaming.Within (ρ ρ' : Renaming) : Prop where
  list {a b : Nat} : ρ.list a b → ρ'.list a b
  dict {a b : Nat} : ρ.dict a b → ρ'.dict a b
  function {a b : Nat} : ρ.function a b → ρ'.function a b
  mark {a b : Nat} : ρ.mark a b → ρ'.mark a b
  seen {f : Function} : ρ.seen f → ρ'.seen f
  terms : ρ'.terms = ρ.terms

theorem Renaming.Within.rfl : ρ.Within ρ := ⟨id, id, id, id, id, Eq.refl _⟩

theorem Renaming.Within.trans (h : ρ.Within ρ') (h' : ρ'.Within ρ'') : ρ.Within ρ'' :=
  ⟨fun hab => h'.list (h.list hab), fun hab => h'.dict (h.dict hab),
    fun hab => h'.function (h.function hab), fun hab => h'.mark (h.mark hab),
    fun hf => h'.seen (h.seen hf), h'.terms.trans h.terms⟩

/-- Every identity stands for itself. -/
def Renaming.same (terms : Terms) : Renaming := ⟨Eq, Eq, Eq, Eq, fun _ => True, terms⟩

/-- Everything stands for itself. -/
abbrev Renaming.identity : Renaming := .same .strict

def Renaming.addList (ρ : Renaming) (a b : Nat) : Renaming :=
  { ρ with list := fun x y => ρ.list x y ∨ x = a ∧ y = b }

def Renaming.addDict (ρ : Renaming) (a b : Nat) : Renaming :=
  { ρ with dict := fun x y => ρ.dict x y ∨ x = a ∧ y = b }

def Renaming.addFunction (ρ : Renaming) (a b : Nat) : Renaming :=
  { ρ with function := fun x y => ρ.function x y ∨ x = a ∧ y = b }

def Renaming.addMark (ρ : Renaming) (a b : Nat) : Renaming :=
  { ρ with mark := fun x y => ρ.mark x y ∨ x = a ∧ y = b }

theorem Renaming.within_addList (ρ : Renaming) (a b : Nat) : ρ.Within (ρ.addList a b) :=
  ⟨.inl, id, id, id, id, Eq.refl _⟩

theorem Renaming.within_addDict (ρ : Renaming) (a b : Nat) : ρ.Within (ρ.addDict a b) :=
  ⟨id, .inl, id, id, id, Eq.refl _⟩

theorem Renaming.within_addFunction (ρ : Renaming) (a b : Nat) : ρ.Within (ρ.addFunction a b) :=
  ⟨id, id, .inl, id, id, Eq.refl _⟩

theorem Renaming.within_addMark (ρ : Renaming) (a b : Nat) : ρ.Within (ρ.addMark a b) :=
  ⟨id, id, id, .inl, id, Eq.refl _⟩

/-- A relation between identities of two stores that have given out `m` and `n` of them.  Two that
are not given out yet may be related if they will be given out at the same time. -/
structure OneToOne (r : Nat → Nat → Prop) (m n : Nat) : Prop where
  functional {a b b' : Nat} : r a b → r a b' → b = b'
  injective {a a' b : Nat} : r a b → r a' b → a = a'
  fresh {a b : Nat} : r a b → a < m ∧ b < n ∨ m ≤ a ∧ a + n = b + m

theorem OneToOne.identity (m : Nat) : OneToOne Eq m m where
  functional h h' := h.symm.trans h'
  injective h h' := h.trans h'.symm
  fresh := by
    rintro a _ rfl
    omega

section

variable {r : Nat → Nat → Prop} {m n a b a' b' : Nat}

theorem OneToOne.lt_iff (h : OneToOne r m n) (hab : r a b) : a < m ↔ b < n := by
  have := h.fresh hab
  omega

theorem OneToOne.eq_iff (h : OneToOne r m n) (hab : r a b) (hab' : r a' b') : a = a' ↔ b = b' := by
  constructor
  · rintro rfl
    exact h.functional hab hab'
  · rintro rfl
    exact h.injective hab hab'

/-- The next identities on both sides. -/
theorem OneToOne.fresh_iff (h : OneToOne r m n) (hab : r a b) : a = m ↔ b = n := by
  have := h.fresh hab
  omega

theorem OneToOne.next_cases (h : OneToOne r m n) (hab : r a b ∨ a = m ∧ b = n) :
    a = m ∧ b = n ∨ a ≠ m ∧ b ≠ n ∧ r a b := by
  by_cases ha : a = m
  · exact .inl ⟨ha, hab.elim (fun hab => (h.fresh_iff hab).mp ha) And.right⟩
  · have hab := hab.resolve_right fun hnew => ha hnew.1
    exact .inr ⟨ha, fun hb => ha ((h.fresh_iff hab).mpr hb), hab⟩

/-- Both stores give out the next identity, and the two stand for each other. -/
theorem OneToOne.next (h : OneToOne r m n) :
    OneToOne (fun a b => r a b ∨ a = m ∧ b = n) (m + 1) (n + 1) where
  functional := by
    rintro a b b' (hab | ⟨rfl, rfl⟩) (hab' | ⟨ha, rfl⟩)
    · exact h.functional hab hab'
    · exact (h.fresh_iff hab).mp ha
    · exact ((h.fresh_iff hab').mp rfl).symm
    · rfl
  injective := by
    rintro a a' b (hab | ⟨rfl, rfl⟩) (hab' | ⟨rfl, hb⟩)
    · exact h.injective hab hab'
    · exact (h.fresh_iff hab).mpr hb
    · exact ((h.fresh_iff hab').mpr rfl).symm
    · rfl
  fresh := by
    rintro a b (hab | ⟨rfl, rfl⟩)
    · have := h.fresh hab
      omega
    · omega

end

/-! ## Things that are alike -/

/-- Two scalars that are the same, up to marks. -/
inductive Scalar.Like (ρ : Renaming) : Scalar → Scalar → Prop where
  | none : Scalar.Like ρ .none .none
  | bool (value : Bool) : Scalar.Like ρ (.bool value) (.bool value)
  | int (value : Int) : Scalar.Like ρ (.int value) (.int value)
  | float (value : Float) : Scalar.Like ρ (.float value) (.float value)
  | nan {a b : Nat} (h : ρ.mark a b) : Scalar.Like ρ (.nan a) (.nan b)
  | str (value : String) : Scalar.Like ρ (.str value) (.str value)

/-- Two values that are the same under a renaming. -/
inductive Value.Like (ρ : Renaming) : Value → Value → Prop where
  | scalar {x y : Scalar} (h : x.Like ρ y) : Value.Like ρ (.scalar x) (.scalar y)
  | complex (re im : Float) : Value.Like ρ (.complex re im) (.complex re im)
  | list {a b : Nat} (h : ρ.list a b) : Value.Like ρ (.list a) (.list b)
  | dict {a b : Nat} (h : ρ.dict a b) : Value.Like ρ (.dict a) (.dict b)
  | function {a b : Nat} (h : ρ.function a b) : Value.Like ρ (.function a) (.function b)

/-- Two keys that are the same under a renaming. -/
def Key.Like (ρ : Renaming) (key key' : Key) : Prop :=
  key.spelling.Like ρ key'.spelling

/-- Two lists of values that are alike one by one. -/
abbrev ValuesLike (ρ : Renaming) : List Value → List Value → Prop :=
  List.Forall₂ (Value.Like ρ)

/-- Two entries with keys as `K` says and values that are alike. -/
def EntryLike {κ : Type} (K : κ → κ → Prop) (ρ : Renaming) (a b : κ × Value) : Prop :=
  K a.1 b.1 ∧ a.2.Like ρ b.2

/-- Two tables that are alike, entry by entry. -/
def Table.Like {κ : Type} (K : κ → κ → Prop) (ρ : Renaming) (t u : Table κ Value) : Prop :=
  List.Forall₂ (EntryLike K ρ) t.entries u.entries

/-- Two scopes that are alike: the same names bound to values that are. -/
abbrev EnvLike (ρ : Renaming) (env env' : Env) : Prop := Table.Like Eq ρ env env'

/-- Two dictionaries that are alike. -/
abbrev DictLike (ρ : Renaming) (d d' : Dict) : Prop := Table.Like (Key.Like ρ) ρ d d'

/-- Two functions that compare as the terms say. -/
structure Function.Like (ρ : Renaming) (f g : Function) : Prop where
  name : f.name = g.name
  parameters : f.parameters = g.parameters
  body : f.body = g.body
  block : ρ.terms.block f.block g.block
  closure : ¬ ρ.terms.loose → EnvLike ρ f.closure g.closure
  seen : ρ.terms.loose → ρ.seen f

section

variable {ρ ρ' : Renaming} (hρ : ρ.Within ρ')

include hρ

theorem Scalar.Like.mono {x y : Scalar} (h : x.Like ρ y) : x.Like ρ' y := by
  cases h with
  | nan h => exact .nan (hρ.mark h)
  | _ => constructor

theorem Value.Like.mono (h : v.Like ρ w) : v.Like ρ' w := by
  cases h with
  | scalar h => exact .scalar (h.mono hρ)
  | complex re im => exact .complex re im
  | list h => exact .list (hρ.list h)
  | dict h => exact .dict (hρ.dict h)
  | function h => exact .function (hρ.function h)

theorem Key.Like.mono {key key' : Key} (h : key.Like ρ key') : key.Like ρ' key' :=
  Scalar.Like.mono hρ h

theorem valuesLike_mono (h : ValuesLike ρ vs ws) : ValuesLike ρ' vs ws :=
  List.Forall₂.imp (fun _ _ h => h.mono hρ) h

theorem envLike_mono (h : EnvLike ρ env env') : EnvLike ρ' env env' :=
  List.Forall₂.imp (fun _ _ h => ⟨h.1, h.2.mono hρ⟩) h

theorem dictLike_mono {d d' : Dict} (h : DictLike ρ d d') : DictLike ρ' d d' :=
  List.Forall₂.imp (fun _ _ h => ⟨h.1.mono hρ, h.2.mono hρ⟩) h

theorem Function.Like.mono {f g : Function} (h : f.Like ρ g) : f.Like ρ' g := by
  refine ⟨h.name, h.parameters, h.body, ?_, ?_, ?_⟩ <;> rw [hρ.terms]
  · exact h.block
  · exact fun hstrict => envLike_mono hρ (h.closure hstrict)
  · exact fun hloose => hρ.seen (h.seen hloose)

end

/-! ## Linked stores -/

/-- The lists and dictionaries that stand for each other hold the same. -/
structure Renaming.Contents (ρ : Renaming) (s t : Store) : Prop where
  lists : OneToOne ρ.list s.lists.size t.lists.size
  dicts : OneToOne ρ.dict s.dicts.size t.dicts.size
  list {a b : Nat} : ρ.list a b → ValuesLike ρ (s.list a).toList (t.list b).toList
  dict {a b : Nat} : ρ.dict a b → DictLike ρ (s.dict a) (t.dict b)

/-- All that stands for each other is the same. -/
structure Renaming.Links (ρ : Renaming) (s t : Store) : Prop extends ρ.Contents s t where
  functions : OneToOne ρ.function s.functions.size t.functions.size
  marks : OneToOne ρ.mark s.marks t.marks
  function {a b : Nat} : ρ.function a b → (s.function a).Like ρ (t.function b)

/-- A node stands for itself. -/
def Renaming.Fixes (ρ : Renaming) : Node → Prop
  | .list ref => ρ.list ref ref
  | .dict ref => ρ.dict ref ref
  | .function ref => ρ.function ref ref
  | .mark mark => ρ.mark mark mark

theorem Value.Like.self (h : ∀ n, v.node? = some n → ρ.Fixes n) :
    v.Like ρ v := by
  cases v with
  | scalar x =>
    refine .scalar ?_
    cases x with
    | nan mark => exact .nan (h _ rfl)
    | _ => constructor
  | complex re im => exact .complex re im
  | list ref => exact .list (h _ rfl)
  | dict ref => exact .dict (h _ rfl)
  | function ref => exact .function (h _ rfl)

theorem Key.Like.self {key : Key} (h : ∀ n, (Value.scalar key.spelling).node? = some n → ρ.Fixes n) :
    key.Like ρ key := by
  cases Value.Like.self h with
  | scalar h => exact h

/-- The nodes with a property stand for themselves. -/
def Renaming.on (p : Node → Prop) : Renaming where
  list a b := a = b ∧ p (.list a)
  dict a b := a = b ∧ p (.dict a)
  function a b := a = b ∧ p (.function a)
  mark a b := a = b ∧ p (.mark a)
  seen _ := True
  terms := .strict

theorem Renaming.on_fixes (h : p n) : (Renaming.on p).Fixes n := by
  cases n <;> exact ⟨rfl, h⟩

theorem OneToOne.on {p : Nat → Prop} {m n : Nat} (h : ∀ a, p a → a < m ∧ a < n) :
    OneToOne (fun a b => a = b ∧ p a) m n where
  functional h h' := h.1.symm.trans h'.1
  injective h h' := h.1.trans h'.1.symm
  fresh := by
    rintro a _ ⟨rfl, ha⟩
    exact .inl (h a ha)

/-- The renaming knows what stands for a node. -/
def Renaming.Knows (ρ : Renaming) : Node → Prop
  | .list a => ∃ b, ρ.list a b
  | .dict a => ∃ b, ρ.dict a b
  | .function a => ∃ b, ρ.function a b
  | .mark a => ∃ b, ρ.mark a b

theorem Renaming.Within.knows (h : ρ.Within ρ') (hn : ρ.Knows n) :
    ρ'.Knows n := by
  cases n with
  | list a => exact hn.imp fun _ => h.list
  | dict a => exact hn.imp fun _ => h.dict
  | function a => exact hn.imp fun _ => h.function
  | mark a => exact hn.imp fun _ => h.mark

/-- From `s` to `s'`, while the renaming grows, nothing goes away, only known containers change, and
the renaming comes to know just what is new.  In a loose comparison no function is made. -/
structure Renaming.Spares (ρ ρ' : Renaming) (s s' : Store) : Prop where
  has {n : Node} : s.Has n → s'.Has n
  cell {n : Node} : s.Has n → ¬ (n.IsContainer ∧ ρ.Knows n) → s'.cell n = s.cell n
  known {n : Node} : ρ'.Knows n → ρ.Knows n ∨ ¬ s.Has n ∧ s'.Has n
  new {n : Node} : ¬ s.Has n → s'.Has n → ρ'.Knows n
  functions : ρ.terms.loose → s'.functions = s.functions
  seen {f : Function} : ρ'.seen f → ρ.seen f

theorem Renaming.Spares.refl (ρ : Renaming) (s : Store) : ρ.Spares ρ s s :=
  ⟨id, fun _ _ => rfl, .inl, fun h h' => absurd h' h, fun _ => rfl, id⟩

theorem Renaming.Spares.trans (hρ : ρ.Within ρ') (hρ' : ρ'.Within ρ'') (h : ρ.Spares ρ' s s')
    (h' : ρ'.Spares ρ'' s' s'') : ρ.Spares ρ'' s s'' where
  has hn := h'.has (h.has hn)
  cell {n} hn hunknown := by
    have hunknown' : ¬ (n.IsContainer ∧ ρ'.Knows n) := fun ⟨hcontainer, hknown⟩ =>
      (h.known hknown).elim (fun hknown => hunknown ⟨hcontainer, hknown⟩) fun hnew => hnew.1 hn
    exact (h'.cell (h.has hn) hunknown').trans (h.cell hn hunknown)
  known {n} hn := by
    rcases h'.known hn with hn | ⟨hold, hnew⟩
    · exact (h.known hn).imp_right fun ⟨hold, hnew⟩ => ⟨hold, h'.has hnew⟩
    · exact .inr ⟨fun hn => hold (h.has hn), hnew⟩
  new {n} hold hnew := by
    by_cases hn : s'.Has n
    · exact hρ'.knows (h.new hold hn)
    · exact h'.new hn hnew
  functions hloose := (h'.functions (hρ.terms ▸ hloose)).trans (h.functions hloose)
  seen hf := h.seen (h'.seen hf)

/-- One node is made, and the renaming knows just that. -/
theorem Renaming.Spares.add {new : Node} (hnew : ¬ s.Has new)
    (hhas : ∀ {n}, s'.Has n ↔ s.Has n ∨ n = new) (hcell : ∀ n, n ≠ new → s'.cell n = s.cell n)
    (hknows : ∀ {n}, ρ'.Knows n ↔ ρ.Knows n ∨ n = new)
    (hfunctions : ρ.terms.loose → s'.functions = s.functions) (hseen : ∀ {f}, ρ'.seen f → ρ.seen f) :
    ρ.Spares ρ' s s' where
  has hn := hhas.mpr (.inl hn)
  cell hn _ := hcell _ (by rintro rfl; exact hnew hn)
  known {n} hn := by
    rcases hknows.mp hn with hn | rfl
    · exact .inl hn
    · exact .inr ⟨hnew, hhas.mpr (.inr rfl)⟩
  new hold hn := hknows.mpr (.inr ((hhas.mp hn).resolve_left hold))
  functions := hfunctions
  seen := hseen

/-- A known container is changed. -/
theorem Renaming.Spares.modify (hnode : node.IsContainer ∧ ρ.Knows node)
    (hhas : ∀ {n}, s'.Has n ↔ s.Has n) (hcell : ∀ n, s.Has n → n ≠ node → s'.cell n = s.cell n)
    (hfunctions : s'.functions = s.functions) : ρ.Spares ρ s s' where
  has := hhas.mpr
  cell hn hunknown := hcell _ hn (by rintro rfl; exact hunknown hnode)
  known := .inl
  new hold hn := absurd (hhas.mp hn) hold
  functions _ := hfunctions
  seen := id

theorem Renaming.knows_addList :
    (ρ.addList a b).Knows n ↔ ρ.Knows n ∨ n = .list a := by
  cases n <;> simp [Renaming.Knows, Renaming.addList, exists_or]

theorem Renaming.knows_addDict :
    (ρ.addDict a b).Knows n ↔ ρ.Knows n ∨ n = .dict a := by
  cases n <;> simp [Renaming.Knows, Renaming.addDict, exists_or]

theorem Renaming.knows_addFunction :
    (ρ.addFunction a b).Knows n ↔ ρ.Knows n ∨ n = .function a := by
  cases n <;> simp [Renaming.Knows, Renaming.addFunction, exists_or]

theorem Renaming.knows_addMark :
    (ρ.addMark a b).Knows n ↔ ρ.Knows n ∨ n = .mark a := by
  cases n <;> simp [Renaming.Knows, Renaming.addMark, exists_or]

/-! ## Comparing computations -/

/-- Two results that agree: both are values that `R` relates, or both are the same failure, and a
plain one. -/
inductive Agree {ε α β : Type} (plain : ε → Prop) (R : α → β → Prop) :
    Except ε α → Except ε β → Prop where
  | ok {a : α} {b : β} (h : R a b) : Agree plain R (.ok a) (.ok b)
  | error {failure : ε} (h : plain failure) : Agree plain R (.error failure) (.error failure)

/-- How two computations with states in `σ` are compared: under which renaming two states are
linked, what both may do to their states while the renaming grows, and which failures may happen. -/
structure Comparison (σ ε : Type) where
  linked : Renaming → σ → σ → Prop
  moves : Renaming → Renaming → σ × σ → σ × σ → Prop
  plain : ε → Prop
  refl (ρ : Renaming) (states : σ × σ) : moves ρ ρ states states
  trans {ρ ρ' ρ'' : Renaming} {states states' states'' : σ × σ} : ρ.Within ρ' → ρ'.Within ρ'' →
    moves ρ ρ' states states' → moves ρ' ρ'' states' states'' → moves ρ ρ'' states states''

/-- From linked states the two computations go to linked states and to results that agree. -/
def Parallel {σ ε α β : Type} (S : Comparison σ ε) (ρ : Renaming) (x : ExceptT ε (StateM σ) α)
    (y : ExceptT ε (StateM σ) β) (P : Renaming → α → β → Prop) : Prop :=
  ∀ s t, S.linked ρ s t → ∃ ρ', ρ.Within ρ' ∧ S.linked ρ' (exec x s).2 (exec y t).2 ∧
    S.moves ρ ρ' (s, t) ((exec x s).2, (exec y t).2) ∧ Agree S.plain (P ρ') (exec x s).1 (exec y t).1

section

variable {σ ε α β γ δ : Type} {S : Comparison σ ε} {ρ : Renaming} {P P' : Renaming → α → β → Prop}

theorem Parallel.pure {a : α} {b : β} (h : P ρ a b) : Parallel S ρ (pure a) (pure b) P :=
  fun s t hst => ⟨ρ, .rfl, hst, S.refl ρ (s, t), .ok h⟩

theorem Parallel.throw {failure : ε} (h : S.plain failure) :
    Parallel S ρ (throw failure) (throw failure) P :=
  fun s t hst => ⟨ρ, .rfl, hst, S.refl ρ (s, t), .error h⟩

theorem Parallel.bind (hx : Parallel S ρ x y P)
    (hf : ∀ ρ' a b, ρ.Within ρ' → P ρ' a b → Parallel S ρ' (f a) (g b) Q) :
    Parallel S ρ (x >>= f) (y >>= g) Q := by
  intro s t hst
  obtain ⟨ρ', hρ, hlinked, hmoves, hagree⟩ := hx s t hst
  rcases hxs : exec x s with ⟨_ | a, s'⟩ <;> rcases hyt : exec y t with ⟨_ | b, t'⟩ <;>
    rw [hxs, hyt] at hlinked hmoves hagree <;> cases hagree
  · next hplain =>
    rw [exec_bind_error hxs, exec_bind_error hyt]
    exact ⟨ρ', hρ, hlinked, hmoves, .error hplain⟩
  · next hab =>
    obtain ⟨ρ'', hρ', hlinked', hmoves', hagree'⟩ := hf ρ' a b hρ hab s' t' hlinked
    rw [exec_bind_ok hxs, exec_bind_ok hyt]
    exact ⟨ρ'', hρ.trans hρ', hlinked', S.trans hρ hρ' hmoves hmoves', hagree'⟩

/-- Only what the computations do with their states counts. -/
theorem Parallel.congr (hx : ∀ s, exec x s = exec x' s) (hy : ∀ t, exec y t = exec y' t)
    (h : Parallel S ρ x' y' P) : Parallel S ρ x y P := by
  intro s t hst
  rw [hx, hy]
  exact h s t hst

/-- Both look at their states. -/
theorem Parallel.get_bind {f : σ → ExceptT ε (StateM σ) γ} {g : σ → ExceptT ε (StateM σ) δ}
    (h : ∀ s t, S.linked ρ s t → Parallel S ρ (f s) (g t) Q) :
    Parallel S ρ (get >>= f) (get >>= g) Q := by
  intro s t hst
  rw [exec_bind_ok (exec_get s), exec_bind_ok (exec_get t)]
  exact h s t hst s t hst

/-- Going through two lists that are alike. -/
theorem Parallel.mapM {A : Renaming → α → β → Prop} {f : α → ExceptT ε (StateM σ) γ}
    {g : β → ExceptT ε (StateM σ) δ} {l : List α} {l' : List β}
    (hA : ∀ {ρ ρ' : Renaming} {a b}, ρ.Within ρ' → A ρ a b → A ρ' a b)
    (hQ : ∀ {ρ ρ' : Renaming} {c d}, ρ.Within ρ' → Q ρ c d → Q ρ' c d)
    (hf : ∀ ρ' a b, ρ.Within ρ' → A ρ' a b → Parallel S ρ' (f a) (g b) Q)
    (hl : List.Forall₂ (A ρ) l l') :
    Parallel S ρ (l.mapM f) (l'.mapM g) (fun ρ' => List.Forall₂ (Q ρ')) := by
  induction l generalizing ρ l' with
  | nil =>
    cases hl
    exact Parallel.pure .nil
  | cons a l ih =>
    cases hl with
    | @cons _ b _ l' hab hl =>
    rw [List.mapM_cons, List.mapM_cons]
    refine (hf ρ a b .rfl hab).bind fun ρ₁ c d h₁ hcd => ?_
    have hrest := ih (fun ρ' a b h => hf ρ' a b (h₁.trans h)) (hl.imp fun _ _ h => hA h₁ h)
    refine hrest.bind fun ρ₂ cs ds h₂ hcds => ?_
    exact Parallel.pure (.cons (hQ h₂ hcd) hcds)

/-- Folding over two lists that are alike: one step keeps the accumulated values related. -/
theorem Parallel.foldlM {A : Renaming → α → β → Prop} {f : γ → α → ExceptT ε (StateM σ) γ}
    {g : δ → β → ExceptT ε (StateM σ) δ} {l : List α} {l' : List β} {c : γ} {d : δ}
    (hA : ∀ {ρ ρ' : Renaming} {a b}, ρ.Within ρ' → A ρ a b → A ρ' a b)
    (hf : ∀ ρ' a b c d, ρ.Within ρ' → A ρ' a b → Q ρ' c d → Parallel S ρ' (f c a) (g d b) Q)
    (hl : List.Forall₂ (A ρ) l l') (hcd : Q ρ c d) :
    Parallel S ρ (l.foldlM f c) (l'.foldlM g d) Q := by
  induction l generalizing ρ l' c d with
  | nil =>
    cases hl
    exact Parallel.pure hcd
  | cons a l ih =>
    cases hl with
    | @cons _ b _ l' hab hl =>
    refine (hf ρ a b c d .rfl hab hcd).bind fun ρ₁ c' d' h₁ hcd' => ?_
    exact ih (fun ρ' a b c d h => hf ρ' a b c d (h₁.trans h)) (hl.imp fun _ _ h => hA h₁ h) hcd'

end

/-! ## Changes of linked stores -/

section

variable {ρ : Renaming} {s t : Store}

theorem Renaming.Spares.modifyList (hab : ρ.list a b) (change : Array Value → Array Value) :
    ρ.Spares ρ s (s.modifyList a change) := by
  have hnode : (Node.list a).IsContainer ∧ ρ.Knows (.list a) := ⟨trivial, b, hab⟩
  exact .modify hnode Store.has_modifyList (fun _ _ hne => Store.cell_modifyList hne) rfl

theorem Renaming.Spares.modifyDict (hab : ρ.dict a b) (change : Dict → Dict) :
    ρ.Spares ρ s (s.modifyDict a change) := by
  have hnode : (Node.dict a).IsContainer ∧ ρ.Knows (.dict a) := ⟨trivial, b, hab⟩
  exact .modify hnode Store.has_modifyDict (fun _ _ hne => Store.cell_modifyDict hne) rfl

/-- Both stores get a new list. -/
theorem Renaming.Contents.addList (h : ρ.Contents s t) (hxs : ValuesLike ρ xs.toList ys.toList) :
    (ρ.addList s.lists.size t.lists.size).Contents (s.addList xs).2 (t.addList ys).2 where
  lists := by
    rw [Store.addList, Store.addList, Array.size_push, Array.size_push]
    exact h.lists.next
  dicts := h.dicts
  list hab := by
    rw [Store.list_addList, Store.list_addList]
    rcases h.lists.next_cases hab with ⟨rfl, rfl⟩ | ⟨ha, hb, hab⟩
    · rw [if_pos rfl, if_pos rfl]
      exact valuesLike_mono (ρ.within_addList _ _) hxs
    · rw [if_neg ha, if_neg hb]
      exact valuesLike_mono (ρ.within_addList _ _) (h.list hab)
  dict hab := dictLike_mono (ρ.within_addList _ _) (h.dict hab)

/-- Both stores get a new dictionary. -/
theorem Renaming.Contents.addDict (h : ρ.Contents s t) (hde : DictLike ρ d e) :
    (ρ.addDict s.dicts.size t.dicts.size).Contents (s.addDict d).2 (t.addDict e).2 where
  lists := h.lists
  dicts := by
    rw [Store.addDict, Store.addDict, Array.size_push, Array.size_push]
    exact h.dicts.next
  list hab := valuesLike_mono (ρ.within_addDict _ _) (h.list hab)
  dict hab := by
    rw [Store.dict_addDict, Store.dict_addDict]
    rcases h.dicts.next_cases hab with ⟨rfl, rfl⟩ | ⟨ha, hb, hab⟩
    · rw [if_pos rfl, if_pos rfl]
      exact dictLike_mono (ρ.within_addDict _ _) hde
    · rw [if_neg ha, if_neg hb]
      exact dictLike_mono (ρ.within_addDict _ _) (h.dict hab)

/-- Two lists that stand for each other are changed alike. -/
theorem Renaming.Contents.modifyList (h : ρ.Contents s t) (hab : ρ.list a b)
    (hfg : ValuesLike ρ (f (s.list a)).toList (g (t.list b)).toList) :
    ρ.Contents (s.modifyList a f) (t.modifyList b g) where
  lists := by simpa [Store.modifyList] using h.lists
  dicts := h.dicts
  list {k l} hkl := by
    have hsame : l = b ∧ l < t.lists.size ↔ k = a ∧ k < s.lists.size := by
      rw [h.lists.lt_iff hkl, h.lists.eq_iff hkl hab]
    rw [Store.list_modifyList, Store.list_modifyList]
    simp only [hsame]
    split
    · next hk =>
      obtain ⟨rfl, -⟩ := hk
      obtain rfl := h.lists.functional hab hkl
      exact hfg
    · exact h.list hkl
  dict := h.dict

/-- Two dictionaries that stand for each other are changed alike. -/
theorem Renaming.Contents.modifyDict (h : ρ.Contents s t) (hab : ρ.dict a b)
    (hfg : DictLike ρ (f (s.dict a)) (g (t.dict b))) :
    ρ.Contents (s.modifyDict a f) (t.modifyDict b g) where
  lists := h.lists
  dicts := by simpa [Store.modifyDict] using h.dicts
  list := h.list
  dict {k l} hkl := by
    have hsame : l = b ∧ l < t.dicts.size ↔ k = a ∧ k < s.dicts.size := by
      rw [h.dicts.lt_iff hkl, h.dicts.eq_iff hkl hab]
    rw [Store.dict_modifyDict, Store.dict_modifyDict]
    simp only [hsame]
    split
    · next hk =>
      obtain ⟨rfl, -⟩ := hk
      obtain rfl := h.dicts.functional hab hkl
      exact hfg
    · exact h.dict hkl

end

/-! ## Copying -/

/-- The copies made so far stand for each other if the originals do. -/
structure Copying.Twins (r : Nat → Nat → Prop) (t u : Std.TreeMap Nat Nat) : Prop where
  copies {a b : Nat} : r a b → Option.Rel r t[a]? u[b]?
  left {a a' : Nat} : t[a]? = some a' → ∃ b, r a b
  right {b b' : Nat} : u[b]? = some b' → ∃ a, r a b

/-- Linked states of two copyings.  Functions and marks stand for each other as they did before. -/
structure Copying.Linked (function mark : Nat → Nat → Prop) (ρ : Renaming) (c d : Copying) :
    Prop where
  contents : ρ.Contents c.store d.store
  lists : Copying.Twins ρ.list c.lists d.lists
  dicts : Copying.Twins ρ.dict c.dicts d.dicts
  function : ρ.function = function
  mark : ρ.mark = mark

/-- Copying makes no functions and no marks. -/
def Copying.Still (c c' : Copying) : Prop :=
  c'.store.functions = c.store.functions ∧ c'.store.marks = c.store.marks

theorem Copying.Still.trans {c c' c'' : Copying} (h : c.Still c') (h' : c'.Still c'') : c.Still c'' :=
  ⟨h'.1.trans h.1, h'.2.trans h.2⟩

/-- Two copyings are compared. -/
def Comparison.copying (function mark : Nat → Nat → Prop) : Comparison Copying Failure where
  linked := Copying.Linked function mark
  moves ρ ρ' states states' := ρ.Spares ρ' states.1.store states'.1.store ∧
    states.1.Still states'.1 ∧ states.2.Still states'.2
  plain failure := failure = .tooDeep
  refl ρ _ := ⟨.refl ρ _, ⟨rfl, rfl⟩, ⟨rfl, rfl⟩⟩
  trans hρ hρ' h h' := ⟨h.1.trans hρ hρ' h'.1, h.2.1.trans h'.2.1, h.2.2.trans h'.2.2⟩

section

variable {r : Nat → Nat → Prop} {t u : Std.TreeMap Nat Nat} {m n : Nat}

/-- Two that stand for each other have copies that do, or none yet. -/
theorem Copying.Twins.cases (h : Copying.Twins r t u) (hab : r a b) :
    (∃ a' b', t[a]? = some a' ∧ u[b]? = some b' ∧ r a' b') ∨ t[a]? = none ∧ u[b]? = none := by
  have hrel := h.copies hab
  generalize t[a]? = x at hrel ⊢
  generalize u[b]? = y at hrel ⊢
  cases hrel with
  | some h' => exact .inl ⟨_, _, rfl, rfl, h'⟩
  | none => exact .inr ⟨rfl, rfl⟩

/-- The next identities stand for each other. -/
theorem Copying.Twins.next (h : Copying.Twins r t u) (hr : OneToOne r m n) :
    Copying.Twins (fun a b => r a b ∨ a = m ∧ b = n) t u where
  copies := by
    have himp {x y : Option Nat} (hxy : Option.Rel r x y) :
        Option.Rel (fun a b => r a b ∨ a = m ∧ b = n) x y := by
      cases hxy with
      | some h => exact .some (.inl h)
      | none => exact .none
    rintro a b (hab | ⟨rfl, rfl⟩)
    · exact himp (h.copies hab)
    -- A copy of one of them was made before only if the two stood for each other already.
    · rcases ht : t[a]? with _ | a'
      · rcases hu : u[b]? with _ | b'
        · exact .none
        · obtain ⟨k, hk⟩ := h.right hu
          obtain rfl := (hr.fresh_iff hk).mpr rfl
          rw [← ht, ← hu]
          exact himp (h.copies hk)
      · obtain ⟨k, hk⟩ := h.left ht
        obtain rfl := (hr.fresh_iff hk).mp rfl
        rw [← ht]
        exact himp (h.copies hk)
  left ht := (h.left ht).imp fun _ => .inl
  right hu := (h.right hu).imp fun _ => .inl

/-- The copies of two that stand for each other are entered. -/
theorem Copying.Twins.insert (h : Copying.Twins r t u) (hr : OneToOne r m n) (hab : r a b)
    (hab' : r a' b') : Copying.Twins r (t.insert a a') (u.insert b b') where
  copies {k l} hkl := by
    have hsame : compare a k = .eq ↔ compare b l = .eq := by
      rw [Nat.compare_eq_eq, Nat.compare_eq_eq]
      exact hr.eq_iff hab hkl
    rw [Std.TreeMap.getElem?_insert, Std.TreeMap.getElem?_insert]
    by_cases hk : compare a k = .eq
    · rw [if_pos hk, if_pos (hsame.mp hk)]
      exact .some hab'
    · rw [if_neg hk, if_neg fun hl => hk (hsame.mpr hl)]
      exact h.copies hkl
  left {k k'} hk := by
    rw [Std.TreeMap.getElem?_insert] at hk
    split at hk
    · next heq =>
      obtain rfl := Nat.compare_eq_eq.mp heq
      exact ⟨b, hab⟩
    · exact h.left hk
  right {l l'} hl := by
    rw [Std.TreeMap.getElem?_insert] at hl
    split at hl
    · next heq =>
      obtain rfl := Nat.compare_eq_eq.mp heq
      exact ⟨a, hab⟩
    · exact h.right hl

end

section

variable {ρ : Renaming}

/-- Both copyings make a new list for two lists that stand for each other. -/
theorem beginList_parallel (hab : ρ.list a b) :
    Parallel (.copying function mark) ρ (beginList a) (beginList b)
      (fun ρ' a' b' => ρ'.list a' b') := by
  intro c d hcd
  have hnew := hcd.lists.next hcd.contents.lists
  have hspares : ρ.Spares (ρ.addList c.store.lists.size d.store.lists.size) c.store
      c.store.reserveList.2 :=
    .add (Nat.lt_irrefl _) Store.has_addList (fun n _ => c.store.cell_reserveList n)
      Renaming.knows_addList (fun _ => rfl) id
  refine ⟨_, ρ.within_addList _ _, ⟨hcd.contents.addList .nil, ?_, hcd.dicts, hcd.function, hcd.mark⟩,
    ⟨hspares, ⟨rfl, rfl⟩, rfl, rfl⟩, .ok (.inr ⟨rfl, rfl⟩)⟩
  exact hnew.insert hcd.contents.lists.next (.inl hab) (.inr ⟨rfl, rfl⟩)

theorem beginDict_parallel (hab : ρ.dict a b) :
    Parallel (.copying function mark) ρ (beginDict a) (beginDict b)
      (fun ρ' a' b' => ρ'.dict a' b') := by
  intro c d hcd
  have hnew := hcd.dicts.next hcd.contents.dicts
  have hspares : ρ.Spares (ρ.addDict c.store.dicts.size d.store.dicts.size) c.store
      c.store.reserveDict.2 :=
    .add (Nat.lt_irrefl _) Store.has_addDict (fun n _ => c.store.cell_reserveDict n)
      Renaming.knows_addDict (fun _ => rfl) id
  refine ⟨_, ρ.within_addDict _ _, ⟨hcd.contents.addDict .nil, hcd.lists, ?_, hcd.function, hcd.mark⟩,
    ⟨hspares, ⟨rfl, rfl⟩, rfl, rfl⟩, .ok (.inr ⟨rfl, rfl⟩)⟩
  exact hnew.insert hcd.contents.dicts.next (.inl hab) (.inr ⟨rfl, rfl⟩)

/-- The entries of two tables that are alike are copied alike. -/
theorem copyEntries_parallel {κ : Type} {K : Renaming → κ → κ → Prop} {copy : Value → CopyM Value}
    (hK : ∀ {ρ ρ' : Renaming} {a b}, ρ.Within ρ' → K ρ a b → K ρ' a b)
    (hcopy : ∀ {ρ v w}, v.Like ρ w →
      Parallel (.copying function mark) ρ (copy v) (copy w) Value.Like)
    {entries entries' : List (κ × Value)}
    (h : List.Forall₂ (EntryLike (K ρ) ρ) entries entries') :
    Parallel (.copying function mark) ρ (entries.mapM fun (key, v) => do return (key, ← copy v))
      (entries'.mapM fun (key, v) => do return (key, ← copy v))
      (fun ρ' => List.Forall₂ (EntryLike (K ρ') ρ')) :=
  Parallel.mapM (A := fun ρ' => EntryLike (K ρ') ρ') (fun hρ h => ⟨hK hρ h.1, h.2.mono hρ⟩)
    (fun hρ h => ⟨hK hρ h.1, h.2.mono hρ⟩)
    (fun _ _ _ _ hxy => (hcopy hxy.2).bind fun _ _ _ hρ hvw => Parallel.pure ⟨hK hρ hxy.1, hvw⟩) h

/-- What stands for each other is copied alike. -/
theorem copyValue_parallel (depth : Nat) (hvw : v.Like ρ w) :
    Parallel (.copying function mark) ρ (copyValue depth v) (copyValue depth w) Value.Like := by
  induction depth using Nat.strongRecOn generalizing ρ v w with | ind depth ih => ?_
  rw [copyValue.eq_def, copyValue.eq_def]
  cases hvw with
  | scalar h => exact Parallel.pure (.scalar h)
  | complex re im => exact Parallel.pure (.complex re im)
  | function h => exact Parallel.pure (.function h)
  | list h =>
    refine Parallel.get_bind fun c d hcd => ?_
    rcases hcd.lists.cases h with ⟨a', b', ha, hb, h'⟩ | ⟨ha, hb⟩ <;> rw [ha, hb]
    · exact Parallel.pure (.list h')
    cases depth with
    | zero => exact Parallel.throw rfl
    | succ depth =>
      refine Parallel.get_bind fun c d hcd => ?_
      refine (beginList_parallel h).bind fun ρ₁ a' b' h₁ hab' => ?_
      have helements := Parallel.mapM (S := .copying function mark) (A := Value.Like)
        (fun hρ h => h.mono hρ) (fun hρ h => h.mono hρ) (fun ρ' v w _ hvw => ih depth (by simp) hvw)
        (valuesLike_mono h₁ (hcd.contents.list h))
      refine helements.bind fun ρ₂ vs ws h₂ hvs => ?_
      refine Parallel.bind (P := fun ρ' _ _ => ρ'.list a' b') ?_ fun ρ₃ _ _ h₃ hab'' =>
        Parallel.pure (.list hab'')
      intro c d hcd
      exact ⟨ρ₂, .rfl, ⟨hcd.contents.modifyList (h₂.list hab') hvs, hcd.lists, hcd.dicts, hcd.function,
        hcd.mark⟩, ⟨.modifyList (h₂.list hab') _, ⟨rfl, rfl⟩, rfl, rfl⟩, .ok (h₂.list hab')⟩
  | dict h =>
    refine Parallel.get_bind fun c d hcd => ?_
    rcases hcd.dicts.cases h with ⟨a', b', ha, hb, h'⟩ | ⟨ha, hb⟩ <;> rw [ha, hb]
    · exact Parallel.pure (.dict h')
    cases depth with
    | zero => exact Parallel.throw rfl
    | succ depth =>
      refine Parallel.get_bind fun c d hcd => ?_
      refine (beginDict_parallel h).bind fun ρ₁ a' b' h₁ hab' => ?_
      have hentries := copyEntries_parallel (K := Key.Like) (fun hρ h => h.mono hρ)
        (ih depth (by simp)) (dictLike_mono h₁ (hcd.contents.dict h))
      refine hentries.bind fun ρ₂ xs ys h₂ hxs => ?_
      refine Parallel.bind (P := fun ρ' _ _ => ρ'.dict a' b') ?_ fun ρ₃ _ _ h₃ hab'' =>
        Parallel.pure (.dict hab'')
      intro c d hcd
      exact ⟨ρ₂, .rfl, ⟨hcd.contents.modifyDict (h₂.dict hab') hxs, hcd.lists, hcd.dicts, hcd.function,
        hcd.mark⟩, ⟨.modifyDict (h₂.dict hab') _, ⟨rfl, rfl⟩, rfl, rfl⟩, .ok (h₂.dict hab')⟩

/-- Scopes that are alike are copied alike. -/
theorem copyEnv_parallel (depth : Nat) {env env' : Env} (h : EnvLike ρ env env') :
    Parallel (.copying function mark) ρ (copyEnv (copyValue depth) env)
      (copyEnv (copyValue depth) env') EnvLike :=
  (copyEntries_parallel (K := fun _ => Eq) (fun _ h => h) (copyValue_parallel depth) h).bind
    fun _ _ _ _ hxs => Parallel.pure hxs

/-- Before anything is copied. -/
theorem Renaming.Contents.start (h : ρ.Contents s t) :
    Copying.Linked ρ.function ρ.mark ρ ⟨s, ∅, ∅⟩ ⟨t, ∅, ∅⟩ where
  contents := h
  lists := ⟨fun _ => by simp, by simp, by simp⟩
  dicts := ⟨fun _ => by simp, by simp, by simp⟩
  function := rfl
  mark := rfl

end

/-! ## What can be copied -/

/-- Whether a scope can be copied: its values do not nest too deeply. -/
def Store.Copyable (s : Store) (env : Env) : Prop :=
  ∃ env', (s.snapshot fun copy => copyEnv copy env).1 = .ok env'

section

variable {s t : Store} {env env' : Env}

theorem Store.Copyable.of_like (hρ : ρ.Contents s t) (henv : EnvLike ρ env env') (h : s.Copyable env) :
    t.Copyable env' := by
  obtain ⟨copy, hcopy⟩ := h
  obtain ⟨ρ', _, _, _, hagree⟩ := copyEnv_parallel nestingLimit henv _ _ hρ.start
  change Agree _ _ (s.snapshot fun copy => copyEnv copy env).1
    (t.snapshot fun copy => copyEnv copy env').1 at hagree
  rw [hcopy] at hagree
  generalize hresult : (t.snapshot fun copy => copyEnv copy env').1 = result at hagree
  cases hagree with
  | ok _ => exact ⟨_, hresult⟩

theorem Store.Reach.has {through : Bool} (hs : s.Valid) (hroots : ∀ v ∈ roots, s.Knows v)
    (h : s.Reach through roots n) : s.Has n :=
  h.induct_node s.Has (fun v hv k hk => hroots v hv k hk) fun k _ _ v hv l hl => hs k v hv l hl

/-- What is kept from one store to two others is the same in those. -/
theorem Store.Kept.between (hs : s.Valid) (hroots : ∀ v ∈ roots, s.Knows v) (ht : s.Kept t roots)
    (hu : s.Kept u roots) : t.Kept u roots := by
  intro n hn
  have hreach := ht.reach_back hn
  exact ⟨fun _ => (hu n hreach).1 (hreach.has hs hroots),
    (hu n hreach).2.trans (ht n hreach).2.symm⟩

/-- Stores are linked by all that is kept. -/
theorem Store.Kept.links (hs : s.Valid) (hroots : ∀ v ∈ roots, s.Knows v) (hkept : s.Kept t roots) :
    (Renaming.on (s.Reach true roots)).Links s t := by
  have hboth {n : Node} (hn : s.Reach true roots n) : s.Has n ∧ t.Has n :=
    ⟨hn.has hs hroots, (hkept n hn).1 (hn.has hs hroots)⟩
  have hfixes {k : Node} {v : Value} (hk : s.Reach true roots k) (hv : v ∈ (s.cell k).values)
      (n : Node) (hn : v.node? = some n) : (Renaming.on (s.Reach true roots)).Fixes n :=
    Renaming.on_fixes (hk.step (.inl rfl) hv hn)
  refine ⟨⟨.on fun a ha => hboth ha, .on fun a ha => hboth ha, ?_, ?_⟩, .on fun a ha => hboth ha,
    .on fun a ha => hboth ha, ?_⟩
  · rintro a _ ⟨rfl, ha⟩
    rw [Cell.list.inj (hkept (.list a) ha).2]
    exact List.forall₂_same.mpr fun v hv => .self (hfixes ha hv)
  · rintro a _ ⟨rfl, ha⟩
    rw [Cell.dict.inj (hkept (.dict a) ha).2]
    refine List.forall₂_same.mpr fun entry hentry => ⟨.self (hfixes ha ?_), .self (hfixes ha ?_)⟩
    · exact Dict.mem_held.mpr (.inl ⟨_, List.mem_map_of_mem hentry, rfl⟩)
    · exact Dict.mem_held.mpr (.inr (List.mem_map_of_mem hentry))
  · rintro a _ ⟨rfl, ha⟩
    rw [Cell.function.inj (hkept (.function a) ha).2]
    refine ⟨rfl, rfl, rfl, rfl, fun _ => List.forall₂_same.mpr fun entry hentry => ⟨rfl, .self ?_⟩,
      fun _ => trivial⟩
    exact hfixes ha (List.mem_map_of_mem hentry)

/-- A scope can still be copied if nothing that it leads to has changed. -/
theorem Store.Copyable.of_kept (hs : s.Valid) (henv : ∀ v ∈ env.values, s.Knows v)
    (hkept : s.Kept t env.values) (h : s.Copyable env) : t.Copyable env := by
  refine h.of_like (hkept.links hs henv).toContents ?_
  refine List.forall₂_same.mpr fun entry hentry => ⟨rfl, .self fun n hn => Renaming.on_fixes ?_⟩
  exact .root (List.mem_map_of_mem hentry) hn

/-- Containers stand for each other as `r` says, and all else for itself. -/
def Renaming.ofContainers (r : Node → Node → Prop) : Renaming where
  list a b := r (.list a) (.list b)
  dict a b := r (.dict a) (.dict b)
  function := Eq
  mark := Eq
  seen _ := True
  terms := .strict

theorem Value.Matches.like (h : v.Matches r w) : v.Like (.ofContainers r) w := by
  cases h with
  | list h => exact .list h
  | dict h => exact .dict h
  | scalar x =>
    refine .self fun n hn => ?_
    obtain ⟨mark, _, rfl⟩ := Value.node?_scalar hn
    exact rfl
  | complex re im => exact .complex re im
  | function ref => exact .function rfl

/-- What looks like a scope that can be copied can be copied. -/
theorem Store.Copyable.of_correspondence (hr : Correspondence s t r) (henv : Table.Matches r env env')
    (h : s.Copyable env) : t.Copyable env' := by
  refine h.of_like (ρ := .ofContainers r) ⟨⟨?_, ?_, ?_⟩, ⟨?_, ?_, ?_⟩, ?_, ?_⟩
    (List.Forall₂.imp (fun _ _ h => ⟨h.1, h.2.like⟩) henv)
  · exact fun h h' => Node.list.inj (hr.functional h h')
  · exact fun h h' => Node.list.inj (hr.injective h h')
  · exact fun h => .inl (hr.has h)
  · exact fun h h' => Node.dict.inj (hr.functional h h')
  · exact fun h h' => Node.dict.inj (hr.injective h h')
  · exact fun h => .inl (hr.has h)
  · exact fun hab => List.Forall₂.imp (fun _ _ h => h.like) (hr.cells hab)
  · intro a b hab
    refine List.Forall₂.imp ?_ (hr.cells hab)
    rintro ⟨key, v⟩ ⟨_, w⟩ ⟨rfl, hvw⟩
    cases (Value.Matches.scalar key.spelling : Value.Matches r _ _).like with
    | scalar hkey => exact ⟨hkey, hvw.like⟩

end

end Walkthrough
