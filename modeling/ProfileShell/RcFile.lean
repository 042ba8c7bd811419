import ProfileShell.Path.Places
import ProfileShell.Profiles
import ProfileShell.Text.Literal

/-!
# Rc-files

The rc-file is the script that a started shell reads: the contents of the activated
profiles, one after another, in a temporary file.  A profile that is selected again
is written once, and a name without a content is left out.

The file is created empty and then written.  If the system refuses a content or the
flush at the end, the file is removed again.
-/

namespace ProfileShell

/-- An open file.  A write replaces what stood at its cursor and makes the file longer
where it ends; a gap before the cursor reads as zeros. -/
structure OpenFile where
  content : Bytes
  /-- Where the next write starts. -/
  cursor : Nat
  deriving DecidableEq, Repr

namespace OpenFile

def fresh : OpenFile := ⟨[], 0⟩

def seek (file : OpenFile) (position : Nat) : OpenFile :=
  { file with cursor := position }

/-- Writes at the cursor and moves it behind what was written. -/
def write (file : OpenFile) (octets : Bytes) : OpenFile :=
  let gap := List.replicate (file.cursor - file.content.length) 0
  if octets.isEmpty then file
  else
    ⟨file.content.take file.cursor ++ gap ++ octets
        ++ file.content.drop (file.cursor + octets.length),
      file.cursor + octets.length⟩

end OpenFile

/-- Why there is no rc-file. -/
inductive RcFileError where
  /-- The system refuses to create the file. -/
  | refused (path : Path) (cause : SystemError)
  /-- All names that were tried are taken. -/
  | exhausted (directory : Path)
  /-- The system refuses to write the content of a profile. -/
  | write (profile : String) (cause : SystemError)
  /-- The system refuses to flush the file. -/
  | finalize (cause : SystemError)
  deriving DecidableEq, Repr

namespace RcFileError

/-- The cause of an error. -/
def detail : RcFileError → String
  | refused path cause => cause.message ++ " at path " ++ Text.byteLiteral path
  | exhausted directory =>
    "too many temporary files exist at path " ++ Text.byteLiteral directory
  | write _ cause | finalize cause => cause.message

/-- What the program could not do. -/
def failure : RcFileError → String
  | refused _ _ | exhausted _ => "Could not create the rc-file"
  | write profile _ => "Could not write profile '" ++ profile ++ "' to the rc-file"
  | finalize _ => "Could not finalize the rc-file"

def message (error : RcFileError) : String :=
  error.failure ++ ": " ++ error.detail

end RcFileError

/-- A profile that was written. -/
structure Activation where
  profile : String
  /-- The number of octets of its content. -/
  size : Nat
  /-- Where in the file its content starts. -/
  offset : Nat
  deriving DecidableEq, Repr

def Activation.record (activation : Activation) (path : Path) : Log.Record :=
  ⟨.info, "activated profile",
    [ ("profile", activation.profile), ("size", sizeText activation.size),
      ("offset", toString activation.offset), ("path", Path.display path) ]⟩

/-- An rc-file that is being written. -/
structure RcDraft where
  file : OpenFile
  offset : Nat
  /-- The names that have been met, with or without a content. -/
  met : List String
  activations : List Activation
  deriving DecidableEq, Repr

namespace RcDraft

def empty : RcDraft := ⟨.fresh, 0, [], []⟩

/-- Writes the content of a profile, unless its name has been met or has none. -/
def add (contents : ProfileContents) (draft : RcDraft) (name : String) : RcDraft :=
  if name ∈ draft.met then draft
  else
    let met := name :: draft.met
    match contents.get? name with
    | none => { draft with met := met }
    | some octets =>
      { file := (draft.file.seek draft.offset).write octets
        offset := draft.offset + octets.length
        met := met
        activations := draft.activations ++ [⟨name, octets.length, draft.offset⟩] }

/-- Writes the contents of selected profiles, if the system takes them all. -/
def ofSelection (contents : ProfileContents) (selection : List String) : RcDraft :=
  selection.foldl (add contents) empty

/-- Why the system refuses to write the content of a profile, if it is to be written. -/
def refusal? (contents : ProfileContents) (refusals : Refusals) (draft : RcDraft)
    (name : String) : Option SystemError :=
  if name ∈ draft.met || (contents.get? name).isNone then none
  else refusals.content? draft.activations.length

/-- Writes the contents of selected profiles and flushes, up to the first refusal.  What
the system takes of a content that it refuses is not in the draft: it goes with the
file. -/
def fill (contents : ProfileContents) (refusals : Refusals) (draft : RcDraft) :
    List String → Option RcFileError × RcDraft
  | [] => (refusals.flush.map .finalize, draft)
  | name :: rest =>
    match draft.refusal? contents refusals name with
    | some cause => (some (.write name cause), draft)
    | none => fill contents refusals (draft.add contents name) rest

def profiles (draft : RcDraft) : List String :=
  draft.activations.map Activation.profile

end RcDraft

/-- An rc-file on a volume. -/
structure RcFile where
  path : Path
  place : Place
  profiles : List String
  deriving DecidableEq, Repr

namespace RcFile

/-- The start of the name of an rc-file. -/
def nameStart : Bytes := Utf8.encode "goshrc-"

/-- The permission bits of an rc-file. -/
def mode : Nat := 0o600

/-- Creates an empty file under the first name of a list that is free. -/
def createAmong (directory : Path) (host : Host) :
    List String → Except RcFileError (Path × Place × Volume)
  | [] => .error (.exhausted directory)
  | ending :: rest =>
    let path := Path.join directory (nameStart ++ Utf8.encode ending)
    match host.volume.createFile host.place path mode with
    | .ok (place, volume) => .ok (path, place, volume)
    | .error .alreadyExists => createAmong directory host rest
    | .error cause => .error (.refused path cause)

/-- Creates an rc-file without profiles. -/
def create (host : Host) : Except RcFileError (RcFile × Host) :=
  let directory := Path.temporaryDirectory host.environ host.directory
  match createAmong directory host host.temporaryEndings with
  | .error error => .error error
  | .ok (path, place, volume) => .ok (⟨path, place, []⟩, { host with volume := volume })

def remove (rcFile : RcFile) (host : Host) : Host :=
  { host with volume := host.volume.erase rcFile.place }

/-- Writes selected profiles into an rc-file that was just created.  Every profile that
was written is reported, also ahead of a refusal. -/
def fill (log : Log) (contents : ProfileContents) (selection : List String)
    (rcFile : RcFile) (host : Host) : Except RcFileError RcFile × Host :=
  let (refusal, draft) := RcDraft.empty.fill contents host.refusals selection
  let written := host.volume.overwrite rcFile.place draft.file.content
  let reported := log.emitAll (draft.activations.map (·.record rcFile.path))
    { host with volume := written }
  match refusal with
  | some error => (.error error, rcFile.remove reported)
  | none => (.ok { rcFile with profiles := draft.profiles }, reported)

/-- Writes selected profiles into a new rc-file. -/
def write (log : Log) (contents : ProfileContents) (selection : List String)
    (host : Host) : Except RcFileError RcFile × Host :=
  match create host with
  | .error error => (.error error, host)
  | .ok (rcFile, host) => fill log contents selection rcFile host

end RcFile

end ProfileShell
