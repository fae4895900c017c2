/-!
# Tables

A table maps keys to values and keeps the order in which the keys came in.  Setting a key that is
present changes its value only: the key stays where it is and as it was first written.
-/

namespace Walkthrough

structure Table (κ υ : Type) where
  entries : List (κ × υ)
deriving Inhabited

namespace Table

variable {κ υ : Type}

def empty : Table κ υ := ⟨[]⟩

def keys (t : Table κ υ) : List κ := t.entries.map (·.1)

def values (t : Table κ υ) : List υ := t.entries.map (·.2)

def size (t : Table κ υ) : Nat := t.entries.length

/-- The table with `f` applied to every value. -/
def mapValues {ω : Type} (f : υ → ω) (t : Table κ υ) : Table κ ω :=
  ⟨t.entries.map fun (key, value) => (key, f value)⟩

variable [BEq κ]

/-- The entry of a key, with the key as it was first written. -/
def find? (t : Table κ υ) (key : κ) : Option (κ × υ) :=
  t.entries.find? (·.1 == key)

def get? (t : Table κ υ) (key : κ) : Option υ :=
  (t.find? key).map (·.2)

def contains (t : Table κ υ) (key : κ) : Bool :=
  t.entries.any (·.1 == key)

theorem contains_eq_isSome (t : Table κ υ) (key : κ) : t.contains key = (t.get? key).isSome := by
  rw [get?, Option.isSome_map, find?, List.isSome_find?]
  rfl

/-- Sets a key: in place if it is present, at the end if not. -/
def insert (t : Table κ υ) (key : κ) (value : υ) : Table κ υ :=
  if t.contains key then
    ⟨t.entries.map fun entry => if entry.1 == key then (entry.1, value) else entry⟩
  else
    ⟨t.entries ++ [(key, value)]⟩

/-- Sets the keys of a list one after another. -/
def insertMany (t : Table κ υ) (entries : List (κ × υ)) : Table κ υ :=
  entries.foldl (fun t (key, value) => t.insert key value) t

def erase (t : Table κ υ) (key : κ) : Table κ υ :=
  ⟨t.entries.filter fun entry => !(entry.1 == key)⟩

/-- The table of a list of entries, the later ones set over the earlier. -/
def ofList (entries : List (κ × υ)) : Table κ υ :=
  empty.insertMany entries

end Table

end Walkthrough
