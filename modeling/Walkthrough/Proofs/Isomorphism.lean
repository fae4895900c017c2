import Walkthrough.Proofs.Sameness
import Walkthrough.Proofs.Unfolding

/-!
# Snapshots are isomorphic

The copies in a snapshot form a graph of their own that has the shape of the original one
(`IsomorphicCopy`): a one-to-one correspondence leads from just the lists and dictionaries that the
originals reach to just those that the copies reach, and these are all new.  The correspondence
respects what containers hold, so order, keys, sharing and cycles are the same.

A snapshot follows the containers into each other, so it can only be taken of values in which they do
not nest too deeply.  Each counts once, so that cycles do no harm (`snapshot_isomorphic`).
-/

namespace Walkthrough

/-- The values `ws` in `t` are copies of the values `vs` in `s`. -/
structure IsomorphicCopy (s : Store) (vs : List Value) (t : Store) (ws : List Value)
    (r : Node → Node → Prop) : Prop extends Correspondence s t r where
  roots : List.Forall₂ (Value.Matches r) vs ws
  originals {n : Node} : (∃ m, r n m) ↔ n.IsContainer ∧ s.Reach false vs n
  copies {m : Node} : (∃ n, r n m) ↔ m.IsContainer ∧ t.Reach false ws m
  fresh {n m : Node} : r n m → ¬ s.Has m

/-- What taking a snapshot of the `roots` comes to.  The values in its result are given by `held`. -/
structure Store.SnapsIsomorphically {α : Type} (s : Store) (roots : List Value)
    (copying : (Value → CopyM Value) → CopyM α) (held : α → List Value) : Prop where
  kept {n : Node} : s.Has n →
    (s.snapshot copying).2.Has n ∧ (s.snapshot copying).2.cell n = s.cell n
  copy {a : α} : (s.snapshot copying).1 = .ok a →
    ∃ r, IsomorphicCopy s roots (s.snapshot copying).2 (held a) r
  succeeds : (∀ path, s.Path roots path → path.Nodup → path.length ≤ nestingLimit) →
    ∃ a, (s.snapshot copying).1 = .ok a

section

variable {s t : Store} {r : Node → Node → Prop} {vs ws : List Value}

/-- A container among some values has its copy among the values that match them. -/
theorem exists_copy (h : List.Forall₂ (Value.Matches r) vs ws) (hv : v ∈ vs)
    (hn : v.node? = some n) (hcontainer : n.IsContainer) :
    ∃ w ∈ ws, ∃ m, w.node? = some m ∧ r n m := by
  obtain ⟨w, hw, hvw⟩ := exists_of_forall₂ h.flip hv
  refine ⟨w, hw, ?_⟩
  cases hvw with
  | list h | dict h =>
    cases hn
    exact ⟨_, rfl, h⟩
  | scalar x =>
    cases x <;> cases hn
    exact hcontainer.elim
  | complex re im => cases hn
  | function ref =>
    cases hn
    exact hcontainer.elim

/-- What the originals reach has its copy among what the copies reach: the walk along the originals is
followed step by step. -/
theorem Correspondence.reach (hr : Correspondence s t r)
    (hroots : List.Forall₂ (Value.Matches r) vs ws) (hn : s.Reach false vs n)
    (hcontainer : n.IsContainer) : ∃ m, t.Reach false ws m ∧ r n m := by
  induction hn with
  | root hv hn =>
    obtain ⟨w, hw, m, hm, hnm⟩ := exists_copy hroots hv hn hcontainer
    exact ⟨m, .root hw hm, hnm⟩
  | step _ hthrough hv hk ih =>
    obtain ⟨m, hm, hnm⟩ := ih (hthrough.resolve_left (by simp))
    have hcells := hr.cells hnm
    obtain ⟨w, hw, l, hl, hkl⟩ := exists_copy hcells.values hv hk hcontainer
    exact ⟨l, hm.step (.inr hcells.isContainer.2) hw hl, hkl⟩

/-- Between the roots and their copies nothing is left out, on either side. -/
theorem Correspondence.isomorphicCopy (hr : Correspondence s t r)
    (hroots : List.Forall₂ (Value.Matches r) vs ws) (hfresh : ∀ {n m}, r n m → ¬ s.Has m) :
    IsomorphicCopy s vs t ws (Between s vs t ws r) where
  toCorrespondence := hr.between
  roots := forall₂_imp_mem hroots fun v hv w hw hvw =>
    hvw.imp_nodes fun n m hn hm hnm => ⟨hnm, .root hv hn, .root hw hm⟩
  originals := by
    refine ⟨fun ⟨m, hnm, hn, _⟩ => ⟨(hr.cells hnm).isContainer.1, hn⟩, fun ⟨hcontainer, hn⟩ => ?_⟩
    obtain ⟨m, hm, hnm⟩ := hr.reach hroots hn hcontainer
    exact ⟨m, hnm, hn, hm⟩
  copies := by
    refine ⟨fun ⟨n, hnm, _, hm⟩ => ⟨(hr.cells hnm).isContainer.2, hm⟩, fun ⟨hcontainer, hm⟩ => ?_⟩
    have hback := (hroots.imp fun _ _ h => h.symm).flip
    obtain ⟨n, hn, hnm⟩ := hr.symm.reach hback hm hcontainer
    exact ⟨n, hnm, hn, hm⟩
  fresh h := hfresh h.1

theorem CopiesTo.snapsIsomorphically (h : CopiesTo s roots copying R) (hs : s.Valid)
    (hheld : ∀ r a, R r a → List.Forall₂ (Value.Matches r) roots (held a)) :
    s.SnapsIsomorphically roots copying held := by
  obtain ⟨hcopied, hresult⟩ := Store.snapshot_spec hs h
  refine ⟨fun hn => ⟨hcopied.grown hn, hcopied.kept hn⟩, fun ha => ?_, Store.snapshot_ok hs h⟩
  obtain ⟨r, hr, hfresh, hR⟩ := hresult _ ha
  exact ⟨_, hr.isomorphicCopy (hheld r _ hR) hfresh⟩

end

/-- Of lists inside each other that are as many as the depth allows, the innermost one is not reached. -/
theorem copyValue_chain (depth : Nat) : ∀ (ref : Nat) (c : Copying), depth ≤ ref →
    (∀ i ≤ ref, c.lists[i]? = none) → (∀ i < ref, c.store.list (i + 1) = #[.list i]) →
    ∃ c', exec (copyValue depth (.list ref)) c = (.error .tooDeep, c') := by
  have hget (f : Copying → CopyM Value) (c : Copying) : exec (get >>= f) c = exec (f c) c := rfl
  induction depth with
  | zero =>
    intro ref c _ hnone _
    rw [copyValue, hget, hnone ref Nat.le.refl]
    exact ⟨c, rfl⟩
  | succ depth ih =>
    intro ref c hdepth hnone hlist
    obtain ⟨ref, rfl⟩ : ∃ k, ref = k + 1 := ⟨ref - 1, by omega⟩
    obtain ⟨c', hinner⟩ := ih ref (exec (beginList (ref + 1)) c).2 (by omega) (fun i hi => by
      have hother : compare (ref + 1) i ≠ .eq := by simp; omega
      exact Std.TreeMap.getElem?_insert.trans (by rw [if_neg hother, hnone i (by omega)]))
      fun i hi => (Cell.list.inj (Store.cell_reserveList c.store (.list (i + 1)))).trans
        (hlist i (by omega))
    rw [copyValue, hget, hnone _ Nat.le.refl]
    dsimp only
    rw [hget, hlist ref (by omega), exec_bind_ok (show exec (beginList (ref + 1)) c = (.ok _, _) from rfl)]
    simp only [List.mapM_cons, bind_assoc]
    exact ⟨c', exec_bind_error hinner⟩

theorem Store.snapshot_chain {s : Store} (hs : ∀ i < nestingLimit, s.list (i + 1) = #[.list i]) :
    (s.snapshot fun copy => copy (.list nestingLimit)).1 = .error .tooDeep := by
  obtain ⟨c', hc'⟩ := copyValue_chain nestingLimit nestingLimit ⟨s, ∅, ∅⟩ Nat.le.refl
    (fun i _ => by simp) hs
  exact congrArg Prod.fst hc'

end Walkthrough
