import Walkthrough.Proofs.Headers
import Walkthrough.Proofs.Precedence

/-!
# Values and their literals

The text of a value is a literal: its value is made of the same scalars, in new lists and dictionaries
that nest in the same way.

A `Datum` is what a value is made of, as a tree without identities.  A value that holds a datum is not
inside itself, and it holds no functions.
-/

namespace Walkthrough

open Written (Phrase itemsText moreText ProperItems itemsHeight)

variable {s s' : Store} {scalar : Scalar}
open Text

/-! ## Data -/

inductive Datum where
  | scalar (value : Scalar)
  | list (elements : List Datum)
  /-- The keys of a dictionary and their values, in the same order. -/
  | dict (keys : List Scalar) (values : List Datum)

mutual

/-- The value consists of the datum. -/
def Datum.HeldBy (s : Store) : Datum → Value → Prop
  | .scalar scalar, v => v = .scalar scalar
  | .list data, v => ∃ ref elements, v = .list ref ∧ s.lists[ref]? = some elements ∧
    heldAll s data elements.toList
  | .dict keys data, v => ∃ ref entries, v = .dict ref ∧ s.dicts[ref]? = some entries ∧
    entries.keys.map Key.spelling = keys ∧ heldAll s data entries.values

def heldAll (s : Store) : List Datum → List Value → Prop
  | [], vs => vs = []
  | datum :: data, vs => ∃ v rest, vs = v :: rest ∧ datum.HeldBy s v ∧ heldAll s data rest

end

/-- A scalar that can be written as a number, a word or a text: no float, and no integer with too many
digits. -/
def Scalar.Writable : Scalar → Prop
  | .int value => value.natAbs < Number.unwritable
  | .float _ | .nan _ => False
  | _ => True

mutual

/-- All scalars can be written, and a dictionary has one value for each key. -/
def Datum.Writable : Datum → Prop
  | .scalar scalar => scalar.Writable
  | .list data => writableAll data
  | .dict keys data => (∀ key ∈ keys, key.Writable) ∧
    keys.Pairwise (fun key later => key.same later = false) ∧ keys.length = data.length ∧
    writableAll data

def writableAll : List Datum → Prop
  | [] => True
  | datum :: data => datum.Writable ∧ writableAll data

end

def Scalar.literal : Scalar → Phrase
  | .bool value => .bool value
  | .int (.ofNat n) => .int n
  | .int (.negSucc n) => .unary .neg (.int (n + 1))
  | .str value => .str value
  | .none | .float _ | .nan _ => .none

mutual

/-- A datum as it is written. -/
def Datum.literal : Datum → Phrase
  | .scalar scalar => scalar.literal
  | .list data => .list (literals data)
  | .dict keys data => .dict (keys.zipWith (fun key value => .mk key.literal value) (literals data))

def literals : List Datum → List Phrase
  | [] => []
  | datum :: data => datum.literal :: literals data

end

theorem length_literals (data : List Datum) : (literals data).length = data.length := by
  induction data with
  | nil => rfl
  | cons datum data ih => rw [literals, List.length_cons, List.length_cons, ih]

/-! ## What a value holds -/

mutual

/-- A value holds one datum only. -/
theorem Datum.HeldBy.unique : ∀ {datum other : Datum} {v : Value}, datum.HeldBy s v →
    other.HeldBy s v → datum = other
  | .scalar _, other, v, h, h' => by
    rw [Datum.HeldBy] at h
    cases other <;> simp_all [Datum.HeldBy]
  | .list data, other, v, h, h' => by
    rw [Datum.HeldBy] at h
    obtain ⟨ref, elements, rfl, hlist, hdata⟩ := h
    cases other with
    | list others =>
      rw [Datum.HeldBy] at h'
      obtain ⟨_, _, ⟨⟩, hlist', hothers⟩ := h'
      rw [Option.some.inj (hlist'.symm.trans hlist)] at hothers
      rw [heldAll_unique hdata hothers]
    | _ => simp [Datum.HeldBy] at h'
  | .dict keys data, other, v, h, h' => by
    rw [Datum.HeldBy] at h
    obtain ⟨ref, entries, rfl, hdict, rfl, hdata⟩ := h
    cases other with
    | dict keys' others =>
      rw [Datum.HeldBy] at h'
      obtain ⟨_, _, ⟨⟩, hdict', rfl, hothers⟩ := h'
      rw [Option.some.inj (hdict'.symm.trans hdict)] at hothers ⊢
      rw [heldAll_unique hdata hothers]
    | _ => simp [Datum.HeldBy] at h'

theorem heldAll_unique : ∀ {data others : List Datum} {vs : List Value},
    heldAll s data vs → heldAll s others vs → data = others
  | [], others, vs, h, h' => by
    rw [heldAll] at h
    cases others <;> simp_all [heldAll]
  | datum :: data, others, vs, h, h' => by
    rw [heldAll] at h
    obtain ⟨v, rest, rfl, hdatum, hdata⟩ := h
    cases others with
    | nil => simp [heldAll] at h'
    | cons other others =>
      rw [heldAll] at h'
      obtain ⟨_, _, ⟨⟩, hother, hothers⟩ := h'
      rw [hdatum.unique hother, heldAll_unique hdata hothers]

end

/-- A store with more lists and dictionaries. -/
structure Store.Grows (s s' : Store) : Prop where
  lists {ref : Nat} {elements : Array Value} : s.lists[ref]? = some elements →
    s'.lists[ref]? = some elements
  dicts {ref : Nat} {entries : Dict} : s.dicts[ref]? = some entries → s'.dicts[ref]? = some entries

theorem Store.Grows.refl (s : Store) : s.Grows s :=
  ⟨id, id⟩

theorem Store.Grows.trans (h : s.Grows s') (h' : s'.Grows s'') : s.Grows s'' :=
  ⟨fun h₁ => h'.lists (h.lists h₁), fun h₁ => h'.dicts (h.dicts h₁)⟩

theorem getElem?_push_of_some {α : Type} {xs : Array α} {i : Nat} {x : α} (h : xs[i]? = some x) (y : α) :
    (xs.push y)[i]? = some x := by
  obtain ⟨hi, hx⟩ := Array.getElem?_eq_some_iff.mp h
  rw [Array.getElem?_push_lt hi, hx]

mutual

theorem Datum.HeldBy.mono (hs : s.Grows s') : ∀ {datum : Datum} {v : Value},
    datum.HeldBy s v → datum.HeldBy s' v
  | .scalar _, v, h => by
    rw [Datum.HeldBy] at h ⊢
    exact h
  | .list _, v, h => by
    rw [Datum.HeldBy] at h ⊢
    obtain ⟨ref, elements, rfl, hlist, hdata⟩ := h
    exact ⟨ref, elements, rfl, hs.lists hlist, heldAll_mono hs hdata⟩
  | .dict _ _, v, h => by
    rw [Datum.HeldBy] at h ⊢
    obtain ⟨ref, entries, rfl, hdict, hkeys, hdata⟩ := h
    exact ⟨ref, entries, rfl, hs.dicts hdict, hkeys, heldAll_mono hs hdata⟩

theorem heldAll_mono (hs : s.Grows s') : ∀ {data : List Datum} {vs : List Value},
    heldAll s data vs → heldAll s' data vs
  | [], vs, h => by
    rw [heldAll] at h ⊢
    exact h
  | _ :: _, vs, h => by
    rw [heldAll] at h ⊢
    obtain ⟨v, rest, rfl, hdatum, hdata⟩ := h
    exact ⟨v, rest, rfl, hdatum.mono hs, heldAll_mono hs hdata⟩

end

/-! ## The text of a value -/

theorem intercalate_map (write : β → List Char) (w : β) (ws : List β) : [',', ' '].intercalate
    ((w :: ws).map write) = write w ++ moreText write ws := by
  induction ws generalizing w with
  | nil => simp [moreText]
  | cons w' ws ih =>
    rw [List.map_cons, List.map_cons, List.intercalate_cons_cons, ← List.map_cons, ih]
    simp [moreText]

/-- Texts with commas between them, in brackets. -/
theorem bracketed_map (opening closing : String) (write : β → List Char) (ws : List β) :
    opening ++ ", ".intercalate (ws.map fun w => String.ofList (write w)) ++ closing =
      String.ofList (opening.toList ++ ([',', ' '].intercalate (ws.map write) ++ closing.toList)) := by
  apply String.toList_injective
  simp [String.toList_intercalate, Function.comp_def]

theorem itemsText_eq_intercalate (phrases : List Phrase) :
    itemsText phrases = [',', ' '].intercalate (phrases.map Phrase.text) := by
  cases phrases with
  | nil => rfl
  | cons phrase phrases => rw [intercalate_map, itemsText, Written.moreItemsText_eq]

theorem entriesText_eq_intercalate (entries : List Written.Entry) :
    Written.entriesText entries = [',', ' '].intercalate (entries.map Written.Entry.text) := by
  match entries with
  | [] => rfl
  | .mk key value :: entries =>
    rw [intercalate_map, Written.entriesText, Written.moreEntriesText_eq, Written.Entry.text]
    simp

theorem Scalar.show_eq_literal (h : scalar.Writable) :
    scalar.show = .ok (String.ofList scalar.literal.text) := by
  cases scalar with
  | none => rfl
  | bool value => cases value <;> rfl
  | int value =>
    rw [Writable] at h
    rw [Scalar.show, Number.intText, if_pos h]
    cases value with
    | ofNat n => rfl
    | negSucc n =>
      rw [literal, Phrase.text, Phrase.text, String.ofList_append]
      rfl
  | str value => rw [Scalar.show, literal, Phrase.text, String.ofList_toList]
  | float _ | nan _ => exact h.elim

/-- What is inside of the values in `outer` holds a smaller datum than they do. -/
def Encloses (s : Store) (size : Nat) (outer : List Value) : Prop :=
  ∀ v ∈ outer, ∃ datum : Datum, datum.HeldBy s v ∧ size < sizeOf datum

section

variable {datum : Datum} {outer : List Value}

theorem Encloses.mono (h : Encloses s size outer) (hsize : size' ≤ size) : Encloses s size' outer := by
  intro v hv
  obtain ⟨datum, hdatum, hlt⟩ := h v hv
  exact ⟨datum, hdatum, by omega⟩

/-- So a value is not inside itself. -/
theorem Encloses.enter (h : Encloses s (sizeOf datum) outer) (hdatum : datum.HeldBy s v)
    (hsize : size < sizeOf datum) : outer.contains v = false ∧ Encloses s size (v :: outer) := by
  refine ⟨?_, List.forall_mem_cons.mpr ⟨⟨datum, hdatum, hsize⟩, h.mono (by omega)⟩⟩
  rw [List.contains_eq_mem, decide_eq_false_iff_not]
  intro hmem
  obtain ⟨other, hother, hlt⟩ := h v hmem
  rw [hdatum.unique hother] at hlt
  omega

end

theorem itemsHeight_le_of_zip (keys : List Scalar) (phrases : List Phrase)
    (h : keys.length = phrases.length) : itemsHeight phrases ≤
      Written.entriesHeight (keys.zipWith (fun key value => .mk key.literal value) phrases) := by
  induction keys generalizing phrases with
  | nil =>
    rw [List.length_eq_zero_iff.mp h.symm]
    exact Nat.zero_le _
  | cons key keys ih =>
    cases phrases with
    | nil => simp at h
    | cons phrase phrases =>
      have hrest := ih phrases (Nat.succ.inj h)
      rw [List.zipWith_cons_cons, itemsHeight, Written.entriesHeight]
      omega

/-- The texts of the entries of a dictionary, from those of its values. -/
theorem entries_texts {text : Value → Except Failure String} (entries : List (Key × Value))
    (phrases : List Phrase) (hkeys : ∀ key ∈ (entries.map (·.1)).map Key.spelling, key.Writable)
    (h : List.Forall₂ (fun v text' => text v = .ok text') (entries.map (·.2))
      (phrases.map fun phrase => String.ofList phrase.text)) :
    (entries.mapM fun entry => do
      let key ← ofFault entry.1.spelling.show
      return key ++ ": " ++ (← text entry.2)) =
    .ok ((((entries.map (·.1)).map Key.spelling).zipWith (fun key value => .mk key.literal value)
      phrases).map fun entry => String.ofList (Written.Entry.text entry)) := by
  induction entries generalizing phrases with
  | nil => rfl
  | cons entry entries ih =>
    cases phrases with
    | nil => cases h
    | cons phrase phrases =>
      obtain ⟨hvalue, hrest⟩ := List.forall₂_cons.mp h
      rw [List.map_cons, List.map_cons, List.forall_mem_cons] at hkeys
      rw [List.mapM_cons, ih phrases hkeys.2 hrest]
      simp only [Scalar.show_eq_literal hkeys.1, hvalue]
      refine congrArg Except.ok (List.cons_eq_cons.mpr ⟨?_, rfl⟩)
      exact String.toList_injective (by simp [Written.Entry.text])

mutual

/-- The text of a value is the literal of its datum, by induction on the datum. -/
theorem render_datum : ∀ (datum : Datum) {v : Value} {depth : Nat} {outer : List Value},
    datum.HeldBy s v → datum.Writable → datum.literal.height ≤ depth →
    Encloses s (sizeOf datum) outer →
    render .plain s depth outer v = .ok (String.ofList datum.literal.text)
  | .scalar scalar, v, depth, outer, h, hwritable, _, _ => by
    rw [Datum.HeldBy] at h
    rw [Datum.Writable] at hwritable
    rw [h, render.eq_def, Datum.literal]
    simp only [Scalar.show_eq_literal hwritable, ofFault]
  | .list data, v, depth, outer, h, hwritable, hdepth, houter => by
    have hsize : sizeOf data < sizeOf (Datum.list data) := by simp
    obtain ⟨hnot, hinside⟩ := houter.enter h hsize
    rw [Datum.HeldBy] at h
    obtain ⟨ref, elements, rfl, hlist, hdata⟩ := h
    rw [Datum.Writable] at hwritable
    rw [Datum.literal, Phrase.height] at hdepth
    obtain ⟨depth, rfl⟩ : ∃ rest, depth = rest + 1 := ⟨depth - 1, by omega⟩
    have htexts := render_data data hdata hwritable (Nat.le_of_succ_le_succ hdepth) hinside
    rw [render.eq_def, Datum.literal, Phrase.text]
    simp only [hnot, Store.list, hlist, Option.getD_some, mapM_eq_ok htexts, itemsText_eq_intercalate]
    exact congrArg Except.ok (bracketed_map "[" "]" Phrase.text (literals data))
  | .dict keys data, v, depth, outer, h, hwritable, hdepth, houter => by
    have hsize : sizeOf data < sizeOf (Datum.dict keys data) := by
      rw [Datum.dict.sizeOf_spec]
      omega
    obtain ⟨hnot, hinside⟩ := houter.enter h hsize
    rw [Datum.HeldBy] at h
    obtain ⟨ref, entries, rfl, hdict, rfl, hdata⟩ := h
    rw [Datum.Writable] at hwritable
    rw [Datum.literal, Phrase.height] at hdepth
    obtain ⟨depth, rfl⟩ : ∃ rest, depth = rest + 1 := ⟨depth - 1, by omega⟩
    obtain ⟨hkeys, _, hlength, hvalues⟩ := hwritable
    have hheight := itemsHeight_le_of_zip _ _ (hlength.trans (length_literals data).symm)
    have htexts := render_data data hdata hvalues
      (hheight.trans (Nat.le_of_succ_le_succ hdepth)) hinside
    rw [render.eq_def, Datum.literal, Phrase.text]
    simp only [hnot, Store.dict, hdict, Option.getD_some, entriesText_eq_intercalate]
    rw [if_neg Bool.false_ne_true]
    rw [entries_texts _ _ hkeys htexts]
    exact congrArg Except.ok (bracketed_map "\x7b" "\x7d" Written.Entry.text _)

theorem render_data : ∀ (data : List Datum) {vs : List Value} {depth : Nat}
    {outer : List Value}, heldAll s data vs → writableAll data → itemsHeight (literals data) ≤ depth →
    Encloses s (sizeOf data) outer →
    List.Forall₂ (fun v text => render .plain s depth outer v = .ok text) vs
      ((literals data).map fun phrase => String.ofList phrase.text)
  | [], vs, depth, outer, h, _, _, _ => by
    rw [heldAll] at h
    rw [h, literals]
    exact .nil
  | datum :: data, vs, depth, outer, h, hwritable, hdepth, houter => by
    rw [heldAll] at h
    obtain ⟨v, rest, rfl, hdatum, hdata⟩ := h
    rw [writableAll] at hwritable
    rw [literals, itemsHeight] at hdepth
    exact .cons (render_datum datum hdatum hwritable.1 (by omega) (houter.mono (by simp; omega)))
      (render_data data hdata hwritable.2 (by omega) (houter.mono (by simp)))

end

/-! ## The value of a literal -/

/-- The run changes nothing but that it adds to the store, and in the end the property holds. -/
def Makes {α : Type} (m : Machine) (x : Run α) (held : Store → α → Prop) : Prop :=
  ∃ a s, exec x m = (.ok a, { m with store := s }) ∧ m.store.Grows s ∧ held s a

section

variable {α β : Type}

theorem Makes.give (h : held m.store a) : Makes m (pure a) held :=
  ⟨a, m.store, rfl, .refl _, h⟩

theorem Makes.bind (h : Makes m x held)
    (hf : ∀ a s, m.store.Grows s → held s a → Makes { m with store := s } (f a) held') :
    Makes m (x >>= f) held' := by
  obtain ⟨a, s, hx, hgrows, ha⟩ := h
  obtain ⟨b, s', hy, hgrows', hb⟩ := hf a s hgrows ha
  exact ⟨b, s', (exec_bind_ok hx).trans hy, hgrows.trans hgrows', hb⟩

theorem Makes.after (hx : exec x m = (.ok a, m)) (h : Makes m (f a) held') :
    Makes m (x >>= f) held' := by
  obtain ⟨b, s, hy, hgrows, hb⟩ := h
  exact ⟨b, s, (exec_bind_ok hx).trans hy, hgrows, hb⟩

theorem newList_makes {data : List Datum} {elements : List Value}
    (h : heldAll m.store data elements) :
    Makes m (Run.newList elements.toArray) (Datum.list data).HeldBy := by
  have hgrows : m.store.Grows (m.store.addList elements.toArray).2 :=
    ⟨fun h => getElem?_push_of_some h _, id⟩
  refine ⟨_, _, exec_alter m _, hgrows, ?_⟩
  exact ⟨_, _, rfl, Array.getElem?_push_size, heldAll_mono hgrows h⟩

theorem newDict_makes {data : List Datum} {entries : Dict} (h : heldAll m.store data entries.values) :
    Makes m (Run.newDict entries) (Datum.dict (entries.keys.map Key.spelling) data).HeldBy := by
  have hgrows : m.store.Grows (m.store.addDict entries).2 :=
    ⟨id, fun h => getElem?_push_of_some h _⟩
  refine ⟨_, _, exec_alter m _, hgrows, ?_⟩
  exact ⟨_, _, rfl, Array.getElem?_push_size, rfl, heldAll_mono hgrows h⟩

end

theorem eq_const_of_bare {e : Expr} (h : e.bare = .const value .unknown) :
    ∃ span, e = .const value span := by
  cases e <;> simp_all [Expr.bare]

theorem evaluate_scalar {m : Machine} (h : e.bare = scalar.literal.expr) (hwritable : scalar.Writable) :
    exec (evaluate context env e) m = (.ok (.scalar scalar), m) := by
  match scalar with
  | .none | .bool _ | .str _ | .int (.ofNat _) =>
    obtain ⟨span, rfl⟩ := eq_const_of_bare h
    rfl
  | .int (.negSucc n) =>
    rw [Scalar.literal, Phrase.expr, Phrase.expr] at h
    cases e <;> simp only [Expr.bare, reduceCtorEq, Expr.unary.injEq] at h
    obtain ⟨rfl, h, -⟩ := h
    obtain ⟨span, rfl⟩ := eq_const_of_bare h
    rfl
  | .float _ | .nan _ => exact hwritable.elim

mutual

theorem evaluate_datum : ∀ (datum : Datum) {e : Expr} {m : Machine},
    e.bare = datum.literal.expr → datum.Writable → Makes m (evaluate context env e) datum.HeldBy
  | .scalar scalar, e, m, h, hwritable => by
    rw [Datum.literal] at h
    rw [Datum.Writable] at hwritable
    exact ⟨_, _, evaluate_scalar h hwritable, .refl _, by simp only [Datum.HeldBy]⟩
  | .list data, e, m, h, hwritable => by
    rw [Datum.literal, Phrase.expr] at h
    rw [Datum.Writable] at hwritable
    cases e <;> simp only [Expr.bare, reduceCtorEq, Expr.list.injEq] at h
    exact (evaluate_data data h.1 hwritable).bind fun vs s _ hvs => newList_makes hvs
  | .dict keys data, e, m, h, hwritable => by
    rw [Datum.literal, Phrase.expr] at h
    rw [Datum.Writable] at hwritable
    obtain ⟨hkeys, hdistinct, hlength, hdata⟩ := hwritable
    cases e <;> simp only [Expr.bare, reduceCtorEq, Expr.dict.injEq] at h
    refine (evaluate_entries data .empty h.1 hkeys hdistinct hlength hdata).bind ?_
    rintro entries s - ⟨rfl, vs, rfl, hvs⟩
    exact newDict_makes hvs

theorem evaluate_data : ∀ (data : List Datum) {es : List Expr}
    {m : Machine}, bareAll es = Written.itemExprs (literals data) → writableAll data →
    Makes m (evaluateAll context env es) (heldAll · data)
  | [], es, m, h, _ => by
    rw [literals, Written.itemExprs] at h
    cases es with
    | nil =>
      exact .give (by rw [heldAll])
    | cons _ _ => simp [bareAll] at h
  | datum :: data, es, m, h, hwritable => by
    rw [literals, Written.itemExprs] at h
    rw [writableAll] at hwritable
    cases es with
    | nil => simp [bareAll] at h
    | cons e es =>
      rw [bareAll, List.cons.injEq] at h
      refine (evaluate_datum datum h.1 hwritable.1).bind fun v s _ hv => ?_
      refine (evaluate_data data h.2 hwritable.2).bind fun vs s' hgrows hvs => .give ?_
      exact ⟨v, vs, rfl, hv.mono hgrows, hvs⟩

theorem evaluate_entries : ∀ (data : List Datum) (table : Dict)
    {keys : List Scalar} {es : List Entry} {m : Machine},
    bareEntries es = Written.entryExprs
      (keys.zipWith (fun key value => .mk key.literal value) (literals data)) →
    (∀ key ∈ keys, key.Writable) →
    (table.keys.map Key.spelling ++ keys).Pairwise (fun key later => key.same later = false) →
    keys.length = data.length → writableAll data →
    Makes m (evaluateEntries context env table es) fun s entries =>
      entries.keys.map Key.spelling = table.keys.map Key.spelling ++ keys ∧
      ∃ vs, entries.values = table.values ++ vs ∧ heldAll s data vs
  | [], table, keys, es, m, h, _, _, hlength, _ => by
    obtain rfl := List.length_eq_zero_iff.mp hlength
    rw [literals, List.zipWith_nil_left, Written.entryExprs] at h
    cases es with
    | nil =>
      exact .give ⟨by simp, [], by simp, by rw [heldAll]⟩
    | cons e _ => cases e; simp [bareEntries] at h
  | datum :: data, table, [], es, m, h, _, _, hlength, _ => by
    simp at hlength
  | datum :: data, table, key :: keys, es, m, h, hkeys, hdistinct, hlength, hwritable => by
    rw [literals, List.zipWith_cons_cons, Written.entryExprs] at h
    rw [writableAll] at hwritable
    rw [List.forall_mem_cons] at hkeys
    rcases es with _ | ⟨⟨k, e⟩, es⟩
    · simp [bareEntries] at h
    rw [bareEntries, List.cons.injEq, Entry.mk.injEq] at h
    have hnew : table.contains ⟨key⟩ = false := by
      rw [Table.contains, List.any_eq_false]
      intro entry hentry
      have hkey : entry.1.spelling ∈ table.keys.map Key.spelling :=
        List.mem_map_of_mem (List.mem_map_of_mem hentry)
      exact ne_true_of_eq_false ((List.pairwise_append.mp hdistinct).2.2 _ hkey _ List.mem_cons_self)
    have hinsert (v : Value) : table.insert ⟨key⟩ v = ⟨table.entries ++ [(⟨key⟩, v)]⟩ :=
      if_neg (ne_true_of_eq_false hnew)
    refine .after (evaluate_scalar h.1.1 hkeys.1) (.after (exec_ofExcept _ _) ?_)
    refine (evaluate_datum datum h.1.2 hwritable.1).bind fun v s _ hv => ?_
    rw [hinsert]
    obtain ⟨entries, s', hrun, hgrows, hkeys', vs, hvalues, hvs⟩ := evaluate_entries data
      ⟨table.entries ++ [(⟨key⟩, v)]⟩ h.2 hkeys.2 (by simpa [Table.keys] using hdistinct)
      (Nat.succ.inj hlength) hwritable.2
    refine ⟨entries, s', hrun, hgrows, by simpa [Table.keys] using hkeys', v :: vs,
      by simpa [Table.values] using hvalues, ?_⟩
    exact ⟨v, vs, rfl, hv.mono hgrows, hvs⟩

end

/-! ## Reading a literal -/

theorem Scalar.proper_literal (h : scalar.Writable) : scalar.literal.Proper := by
  match scalar with
  | .none | .bool _ | .str _ => trivial
  | .int (.ofNat _) => exact h
  | .int (.negSucc n) =>
    exact ⟨by simp [Phrase.level]; decide, h⟩
  | .float _ | .nan _ => exact h.elim

mutual

theorem Datum.proper_literal : ∀ (datum : Datum), datum.Writable → datum.literal.Proper
  | .scalar _, h => by
    rw [Datum.Writable] at h
    exact Scalar.proper_literal h
  | .list data, h => by
    rw [Datum.Writable] at h
    exact (Written.properItems_iff _).mpr (proper_literals data h)
  | .dict keys data, h => by
    rw [Datum.Writable] at h
    rw [Datum.literal, Phrase.Proper, Written.properEntries_iff, ← List.map_uncurry_zip_eq_zipWith]
    intro key value hmem
    obtain ⟨⟨scalar, phrase⟩, hzip, heq⟩ := List.mem_map.mp hmem
    obtain ⟨rfl, rfl⟩ := Written.Entry.mk.inj heq
    obtain ⟨hscalar, hphrase⟩ := List.of_mem_zip hzip
    exact ⟨Scalar.proper_literal (h.1 _ hscalar), proper_literals data h.2.2.2 _ hphrase⟩

theorem proper_literals : ∀ (data : List Datum), writableAll data → ∀ p ∈ literals data, p.Proper
  | [], _ => by
    exact List.forall_mem_nil _
  | datum :: data, h => by
    rw [writableAll] at h
    rw [literals, List.forall_mem_cons]
    exact ⟨datum.proper_literal h.1, proper_literals data h.2⟩

end

theorem strip_literal {datum : Datum} (h : datum.Writable) :
    strip (String.ofList datum.literal.text) = String.ofList datum.literal.text := by
  obtain ⟨c, cs, htext, hc⟩ :=
    Written.opensPlainly.cons ((datum.literal.opens (datum.proper_literal h)).plain [])
  rw [List.append_nil] at htext
  have hend := (datum.literal.endsSolidly_text (datum.proper_literal h)).dropEndWhile (List.forall_mem_nil _)
  rw [List.append_nil, htext] at hend
  rw [htext, strip, String.toList_ofList, dropBothWhile,
    List.dropWhile_cons_of_neg (by simp [Written.isBlank_of_opensPhrase hc]), hend]

theorem Datum.lead_literal (datum : Datum) : datum.literal.lead ∈ ["", "None", "True", "False"] := by
  match datum with
  | .scalar .none | .scalar (.bool true) | .scalar (.bool false) | .scalar (.int (.ofNat _))
  | .scalar (.int (.negSucc _)) | .scalar (.float _) | .scalar (.nan _) | .scalar (.str _)
  | .list _ | .dict _ _ => simp [literal, Scalar.literal, Phrase.lead]

theorem ofText_literal {datum : Datum} (h : datum.Writable)
    (hheight : datum.literal.height ≤ nestingLimit) :
    ∃ e, Reading.ofText (String.ofList datum.literal.text) = .ok e ∧ e.bare = datum.literal.expr := by
  have hsole : Written.Sole True datum.literal := by
    refine .of_lead ?_ ?_ <;> intro hlead <;> have hmem := datum.lead_literal <;>
      simp [hlead] at hmem
  rw [Reading.ofText, strip_literal h]
  rcases Written.ofText_phrase (datum.proper_literal h) (fun _ => hheight) hsole with hread | hdeep
  · exact hread.2
  · exact absurd trivial hdeep.1

/-- A list of a number and a dictionary, which has a list inside. -/
def nestedStore : Store where
  lists := #[#[.int (-3), .dict 0], #[]]
  dicts := #[⟨[(⟨.str "it's"⟩, .list 1), (⟨.int 1⟩, .bool true)]⟩]
  functions := #[]
  marks := 0

def nestedDatum : Datum :=
  .list [.scalar (.int (-3)), .dict [.str "it's", .int 1] [.list [], .scalar (.bool true)]]

end Walkthrough
