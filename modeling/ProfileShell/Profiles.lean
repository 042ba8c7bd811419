import ProfileShell.Config
import ProfileShell.Log
import ProfileShell.Profiles.Fragments
import ProfileShell.Text.Listing

/-!
# Contents of profiles

The content of a profile is what a shell reads to activate it: the declarations of
its definition and behind them the files that it includes.  A name that is defined
more than once has the content of its first definition.
-/

namespace ProfileShell

/-- The contents of profiles by their names. -/
structure ProfileContents where
  entries : List (String × Bytes)
  deriving DecidableEq, Repr

namespace ProfileContents

def empty : ProfileContents := ⟨[]⟩

def get? (contents : ProfileContents) (name : String) : Option Bytes :=
  contents.entries.lookup name

def defines (contents : ProfileContents) (name : String) : Bool :=
  (contents.get? name).isSome

/-- Adds the content of a profile that has none. -/
def insert (contents : ProfileContents) (name : String) (octets : Bytes) : ProfileContents :=
  ⟨contents.entries ++ [(name, octets)]⟩

/-- The contents of a list in which the last content of a name counts. -/
def ofList (entries : List (String × Bytes)) : ProfileContents :=
  ⟨entries.reverse⟩

end ProfileContents

/-- What loading profiles reports. -/
inductive LoadNotice where
  /-- A definition of a name that was defined before. -/
  | duplicate (name : String)
  | fragment (notice : FragmentNotice)
  /-- A profile whose content is complete. -/
  | loaded (name : String) (declarations : List String) (size : Nat) (directory : Path)
  deriving DecidableEq, Repr

/-- A number of octets as a log shows it. -/
def sizeText (size : Nat) : String :=
  toString size ++ "B"

def LoadNotice.record : LoadNotice → Log.Record
  | duplicate name =>
    ⟨.warn, "skipping profile", [("profile", name), ("reject", "duplicate")]⟩
  | fragment notice => notice.record
  | loaded name declarations size directory =>
    ⟨.debug, "loaded profile",
      [ ("profile", name), ("env", Text.bracketed declarations), ("size", sizeText size),
        ("path", Path.display directory) ]⟩

namespace Profiles

/-- The directory with the files of a profile. -/
def directory (root : Path) (name : String) : Path :=
  Path.join root (Path.ofText name)

/-- The declarations of a profile, one right after another. -/
def declared (profile : ProfileDefinition) : Bytes :=
  profile.declarations.flatMap Utf8.encode

/-- The content of one definition, and what was reported. -/
def content (host : Host) (root : Path) (name : String) (profile : ProfileDefinition) :
    Bytes × List FragmentNotice :=
  let (included, notices) := Fragments.read host (directory root name) profile.includes
  (declared profile ++ included, notices)

/-- Adds the content of one definition, unless the name has a content. -/
def loadOne (host : Host) (root : Path) (contents : ProfileContents)
    (entry : String × ProfileDefinition) : ProfileContents × List LoadNotice :=
  let (name, profile) := entry
  if contents.defines name then (contents, [.duplicate name])
  else
    let (octets, notices) := content host root name profile
    (contents.insert name octets,
      notices.map .fragment
        ++ [.loaded name profile.declarations octets.length (directory root name)])

/-- The contents of all profiles of a catalog on a host that does not change. -/
def load (host : Host) (root : Path) (profiles : Catalog ProfileDefinition) :
    ProfileContents × List LoadNotice :=
  profiles.entries.foldl
    (fun (contents, notices) entry =>
      let (extended, more) := loadOne host root contents entry
      (extended, notices ++ more))
    (.empty, [])

/-- Loads one more definition and reports to a log. -/
def loadNext (log : Log) (root : Path) (state : ProfileContents × Host)
    (entry : String × ProfileDefinition) : ProfileContents × Host :=
  let (contents, host) := state
  let (extended, notices) := loadOne host root contents entry
  (extended, log.emitAll (notices.map LoadNotice.record) host)

/-- Loads all profiles of a catalog and reports to a log after each of them, so that a
file that the log writes is read with what it says by then. -/
def loadReporting (log : Log) (root : Path) (profiles : Catalog ProfileDefinition)
    (host : Host) : ProfileContents × Host :=
  profiles.entries.foldl (loadNext log root) (.empty, host)

end Profiles

end ProfileShell
