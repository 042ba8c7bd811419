import ProfileShell.Environ

/-!
# Journals of environments

A journal is the list of all writes to an environment, in order.  It says what an
environment should hold without a word about how variables are stored: each name stands
where it was first written and has the value that was last written under it.
-/

namespace ProfileShell.Environ

/-- A change of an environment. -/
inductive Change where
  | set (name value : Bytes)
  /-- The bookkeeping of a session. -/
  | bookkeep (rcFile : Bytes) (profiles : List String) (expose : Bool)
  deriving DecidableEq, Repr

def Change.apply (environ : Environ) : Change → Environ
  | set name value => environ.set name value
  | bookkeep rcFile profiles expose => environ.withBookkeeping rcFile profiles expose

/-- The environment that is collected from entries and then changed. -/
def build (entries : List (Bytes × Bytes)) (changes : List Change) : Environ :=
  changes.foldl Change.apply (ofList entries)

/-- Names and values in the order in which they were written. -/
structure Journal where
  writes : List (Bytes × Bytes)
  deriving DecidableEq, Repr

namespace Journal

/-- The written names, each where it was first written. -/
def names (journal : Journal) : List Bytes :=
  (journal.writes.map Prod.fst).eraseDups

/-- The value that was last written under a name. -/
def last? (journal : Journal) (name : Bytes) : Option Bytes :=
  journal.writes.reverse.lookup name

/-- A journal with one more write. -/
def note (journal : Journal) (name value : Bytes) : Journal :=
  ⟨journal.writes ++ [(name, value)]⟩

/-- The journal after a change.  The bookkeeping always writes the profiles of the
session, ahead of those that were written last, and writes the path of the rc-file if
it is exposed or was written before. -/
def noteChange (journal : Journal) : Change → Journal
  | .set name value => journal.note name value
  | .bookkeep rcFile profiles expose =>
    let pointed :=
      if expose ∨ rcFileVariable ∈ journal.names then journal.note rcFileVariable rcFile
      else journal
    pointed.note profileVariable (profileHistory profiles (journal.last? profileVariable))

/-- The journal of an environment that is collected from entries and then changed. -/
def ofBuild (entries : List (Bytes × Bytes)) (changes : List Change) : Journal :=
  changes.foldl noteChange ⟨entries⟩

end Journal

end ProfileShell.Environ
