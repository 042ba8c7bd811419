/-!
# Catalogs

A catalog is a list of named values that keeps every entry as it was written,
repeated names included.  A name stands for its first entry.
-/

namespace ProfileShell

/-- Named values in the order of their declaration. -/
structure Catalog (α : Type) where
  entries : List (String × α)
  deriving DecidableEq, Repr

namespace Catalog

variable {α : Type}

def empty : Catalog α := ⟨[]⟩

instance : Inhabited (Catalog α) := ⟨empty⟩

/-- Adds an entry at the end, whether or not its name is taken. -/
def push (catalog : Catalog α) (name : String) (value : α) : Catalog α :=
  ⟨catalog.entries ++ [(name, value)]⟩

/-- The value of the first entry of a name. -/
def get? (catalog : Catalog α) (name : String) : Option α :=
  catalog.entries.lookup name

def defines (catalog : Catalog α) (name : String) : Bool :=
  (catalog.get? name).isSome

/-- The names of all entries, in order and with repetitions. -/
def names (catalog : Catalog α) : List String :=
  catalog.entries.map Prod.fst

/-- The number of entries, repeated names included. -/
def size (catalog : Catalog α) : Nat :=
  catalog.entries.length

def isEmpty (catalog : Catalog α) : Bool :=
  catalog.entries.isEmpty

theorem entries_push (catalog : Catalog α) (name : String) (value : α) :
    (catalog.push name value).entries = catalog.entries ++ [(name, value)] := rfl

/-- A name is defined exactly when some entry has it. -/
theorem defines_iff_mem_names (catalog : Catalog α) (name : String) :
    catalog.defines name = true ↔ name ∈ catalog.names := by
  simp only [defines, get?, names]
  induction catalog.entries with
  | nil => simp
  | cons entry rest ih =>
      rw [List.lookup_cons]
      by_cases same : name = entry.1
      · simp [same]
      · have different : (name == entry.1) = false := by simpa using same
        simp [different, ih, same]

end Catalog

end ProfileShell
