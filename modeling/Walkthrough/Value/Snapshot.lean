import Std.Data.TreeMap
import Walkthrough.Run

/-!
# Snapshots

A snapshot is a copy of values that nothing done later can change.  It has new containers throughout,
related to each other as the old ones were: what was shared is shared, and what was inside itself is
inside itself.  Functions never change and are not copied.
-/

namespace Walkthrough

/-- A store with the copies made so far: which new container stands for which old one. -/
structure Copying where
  store : Store
  lists : Std.TreeMap Nat Nat
  dicts : Std.TreeMap Nat Nat

abbrev CopyM := ExceptT Failure (StateM Copying)

/-- Makes the empty list that will stand for `ref`. -/
def beginList (ref : Nat) : CopyM Nat :=
  modifyGet fun c =>
    let (new, store) := c.store.reserveList
    (new, { c with store, lists := c.lists.insert ref new })

/-- Makes the empty dictionary that will stand for `ref`. -/
def beginDict (ref : Nat) : CopyM Nat :=
  modifyGet fun c =>
    let (new, store) := c.store.reserveDict
    (new, { c with store, dicts := c.dicts.insert ref new })

def copyValue : Nat → Value → CopyM Value
  | depth, value =>
    match value with
    | .list ref => do
      match (← get).lists[ref]? with
      | some new => return .list new
      | none =>
        match depth with
        | 0 => throw .tooDeep
        | depth + 1 =>
          let old := (← get).store.list ref
          let new ← beginList ref
          let elements ← old.toList.mapM (copyValue depth)
          modify fun c => { c with store := c.store.modifyList new fun _ => elements.toArray }
          return .list new
    | .dict ref => do
      match (← get).dicts[ref]? with
      | some new => return .dict new
      | none =>
        match depth with
        | 0 => throw .tooDeep
        | depth + 1 =>
          let old := (← get).store.dict ref
          let new ← beginDict ref
          let entries ← old.entries.mapM fun (key, element) => do
            return (key, ← copyValue depth element)
          modify fun c => { c with store := c.store.modifyDict new fun _ => ⟨entries⟩ }
          return .dict new
    | other => return other

def copyEnv (copy : Value → CopyM Value) (env : Env) : CopyM Env := do
  return ⟨← env.entries.mapM fun (name, value) => do return (name, ← copy value)⟩

/-- Copies values into the store; sharing is kept among all that one snapshot copies. -/
def Store.snapshot {α : Type} (s : Store) (copying : (Value → CopyM Value) → CopyM α) :
    Except Failure α × Store :=
  let (result, c) := (copying (copyValue nestingLimit)).run.run ⟨s, ∅, ∅⟩
  (result, c.store)

/-- Copies values into the store of the machine. -/
def Run.snapshot {α : Type} (copying : (Value → CopyM Value) → CopyM α) : Run α := do
  Run.ofExcept (← Run.alter (·.snapshot copying))

end Walkthrough
