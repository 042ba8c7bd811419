import ProfileShell.Yaml.Source

/-!
# Folding

Inside a plain or a quoted scalar a run of gaps and line breaks is read as one
unit.  Without a break it stands for itself.  A single break is a space, and of
several breaks the first one is dropped.  A first break that is a Unicode
separator is kept, as it is content.
-/

namespace ProfileShell.Yaml

/-- A run of gaps and line breaks.  After the first break gaps count as
indentation and are dropped. -/
structure Fold where
  /-- The gaps before any break. -/
  gaps : List Char
  /-- Whether a break was read. -/
  broken : Bool
  /-- The first break, unless it was escaped. -/
  first : List Char
  /-- The breaks after it. -/
  later : List Char
  deriving DecidableEq, Repr

namespace Fold

def empty : Fold := ⟨[], false, [], []⟩

/-- The run that an escaped line break starts: the break itself is no content. -/
def escapedBreak : Fold := ⟨[], true, [], []⟩

def add (fold : Fold) (character : Char) : Fold :=
  if isBreak character then
    if fold.broken then { fold with later := fold.later ++ [character] }
    else ⟨[], true, [character], []⟩
  else if fold.broken then fold
  else { fold with gaps := fold.gaps ++ [character] }

/-- What a run stands for between two words of a scalar. -/
def text (fold : Fold) : List Char :=
  if fold.broken then
    if fold.first = ['\n'] then
      if fold.later.isEmpty then [' '] else fold.later
    else fold.first ++ fold.later
  else fold.gaps

end Fold

end ProfileShell.Yaml
