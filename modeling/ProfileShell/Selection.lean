import ProfileShell.Config
import ProfileShell.Log.Record

/-!
# Selection of profiles

Which profiles are activated, and in which order.  The profile `auto` comes first if
it is defined, and then come the requested profiles.  Every profile stands behind the
profiles that it inherits and appears once, at its first position.

The walk along `inherit` keeps the chain of profiles that are being visited.  A
profile of the chain is not entered again, and the chain does not grow beyond
`depthLimit`; both, and names that are not defined, are reported as notices.
-/

namespace ProfileShell

/-- What a selection reports. -/
inductive SelectionNotice where
  | undefined (name : String)
  /-- A profile that is being visited already. -/
  | cycle (name : String) (chain : List String)
  /-- A profile at the end of a chain that may not grow. -/
  | tooDeep (name : String) (depth : Nat)
  deriving DecidableEq, Repr

namespace SelectionNotice

def profile : SelectionNotice → String
  | undefined name => name
  | cycle name _ => name
  | tooDeep name _ => name

def record : SelectionNotice → Log.Record
  | undefined name =>
    ⟨.warn, "skipping profile", [("profile", name), ("reject", "undefined")]⟩
  | cycle name chain =>
    ⟨.warn, "inheritance cycle", [("profile", name), ("chain", " -> ".intercalate chain)]⟩
  | tooDeep name depth =>
    ⟨.warn, "inheritance too deep", [("profile", name), ("depth", toString depth)]⟩

end SelectionNotice

/-- A selection so far. -/
structure Selection where
  profiles : List String
  notices : List SelectionNotice
  deriving DecidableEq, Repr

namespace Selection

def empty : Selection := ⟨[], []⟩

def activate (selection : Selection) (name : String) : Selection :=
  { selection with profiles := selection.profiles ++ [name] }

def report (selection : Selection) (notice : SelectionNotice) : Selection :=
  { selection with notices := selection.notices ++ [notice] }

@[simp] theorem profiles_activate (selection : Selection) (name : String) :
    (selection.activate name).profiles = selection.profiles ++ [name] := rfl

@[simp] theorem notices_activate (selection : Selection) (name : String) :
    (selection.activate name).notices = selection.notices := rfl

@[simp] theorem profiles_report (selection : Selection) (notice : SelectionNotice) :
    (selection.report notice).profiles = selection.profiles := rfl

@[simp] theorem notices_report (selection : Selection) (notice : SelectionNotice) :
    (selection.report notice).notices = selection.notices ++ [notice] := rfl

/-- The profile that is activated without a request. -/
def automatic : String := "auto"

/-- The longest chain of inheritance. -/
def depthLimit : Nat := 16

/-- Visits a profile at the end of a chain that may grow by `room` more profiles. -/
def visit (profiles : Catalog ProfileDefinition) (room : Nat) (chain : List String)
    (selection : Selection) (name : String) : Selection :=
  if name ∈ selection.profiles then selection
  else match profiles.get? name with
    | none => selection.report (.undefined name)
    | some profile =>
      if name ∈ chain then selection.report (.cycle name chain)
      else match room with
        | 0 => selection.report (.tooDeep name chain.length)
        | room + 1 =>
          (profile.inherits.foldl (visit profiles room (chain ++ [name])) selection).activate
            name

/-- Visits profiles one after another, each at the start of a chain. -/
def visitAll (profiles : Catalog ProfileDefinition) (names : List String)
    (selection : Selection) : Selection :=
  names.foldl (visit profiles depthLimit []) selection

/-- The profiles to start with: the automatic one, if it is defined, and the requested
ones. -/
def roots (profiles : Catalog ProfileDefinition) (requested : List String) : List String :=
  if profiles.defines automatic then automatic :: requested else requested

end Selection

def Config.select (config : Config) (requested : List String) : Selection :=
  Selection.visitAll config.profiles (Selection.roots config.profiles requested) .empty

end ProfileShell
