import ProfileShell.Entries
import ProfileShell.Path

/-!
# Volumes

A volume is a tree of directories and files.  Every node has a place, which is the
list of names on the way from the root; a path leads to a place along the
directories of the volume.  The operations are those that the program performs, each
with the reason for which the system would refuse it.
-/

namespace ProfileShell

/-- Why the system refuses an operation. -/
inductive SystemError where
  | notFound
  | permissionDenied
  | alreadyExists
  | notDirectory
  | isDirectory
  | nameTooLong
  | noSpace
  | brokenPipe
  /-- A file that should hold text does not. -/
  | notText
  /-- A path with a NUL. -/
  | nulInPath
  /-- A program, an argument or a variable with a NUL. -/
  | nulInArgument
  deriving DecidableEq, Repr

def SystemError.message : SystemError → String
  | notFound => "No such file or directory (os error 2)"
  | permissionDenied => "Permission denied (os error 13)"
  | alreadyExists => "File exists (os error 17)"
  | notDirectory => "Not a directory (os error 20)"
  | isDirectory => "Is a directory (os error 21)"
  | nameTooLong => "File name too long (os error 36)"
  | noSpace => "No space left on device (os error 28)"
  | brokenPipe => "Broken pipe (os error 32)"
  | notText => "stream did not contain valid UTF-8"
  | nulInPath => "file name contained an unexpected NUL byte"
  | nulInArgument => "nul byte found in provided data"

/-- The names on the way from the root. -/
abbrev Place := List Bytes

/-- A node of a volume, with its permission bits. -/
inductive Node where
  | file (content : Bytes) (mode : Nat)
  | directory (mode : Nat)
  /-- A device that is always empty and forgets what is written to it. -/
  | device (mode : Nat)
  deriving DecidableEq, Repr

def Node.mode : Node → Nat
  | file _ mode => mode
  | directory mode => mode
  | device mode => mode

def Node.isDirectory : Node → Bool
  | directory _ => true
  | _ => false

/-- The nodes of a tree by their places.  The root is a directory that needs no
entry. -/
structure Volume where
  nodes : List (Place × Node)
  deriving DecidableEq, Repr

/-- Where a path leads. -/
structure Location where
  place : Place
  node : Option Node
  /-- Whether the path ends in a slash and so asks for a directory. -/
  asksDirectory : Bool
  deriving DecidableEq, Repr

namespace Volume

/-- The volume with the root alone. -/
def empty : Volume := ⟨[]⟩

def node? (volume : Volume) (place : Place) : Option Node :=
  if place.isEmpty then some (.directory 0o755) else volume.nodes.lookup place

def put (volume : Volume) (place : Place) (node : Node) : Volume :=
  ⟨writeEntry place node volume.nodes⟩

def erase (volume : Volume) (place : Place) : Volume :=
  ⟨volume.nodes.filter (·.1 != place)⟩

/-- The names in the directory at a place. -/
def names (volume : Volume) (place : Place) : List Bytes :=
  volume.nodes.filterMap fun (other, _) =>
    if other.dropLast = place then other.getLast? else none

/-- The longest name of a node, in octets. -/
def nameLimit : Nat := 255

/-- The longest path, in octets. -/
def pathLimit : Nat := 4095

/-- One name further on a way. -/
def step (volume : Volume) (place : Place) (name : Bytes) : Except SystemError Place :=
  match volume.node? place with
  | none => .error .notFound
  | some node =>
    if !node.isDirectory then .error .notDirectory
    else if name = Path.dot then .ok place
    else if name = Path.dotDot then .ok place.dropLast
    else if name.length > nameLimit then .error .nameTooLong
    else .ok (place ++ [name])

/-- The place at the end of a way.  Every place before the last has to exist. -/
def walk (volume : Volume) : Place → List Bytes → Except SystemError Place
  | place, [] => .ok place
  | place, [name] => volume.step place name
  | place, name :: rest =>
    match volume.step place name with
    | .ok next => volume.walk next rest
    | .error error => .error error

/-- Where a path leads from a directory. -/
def locate (volume : Volume) (current : Place) (path : Path) :
    Except SystemError Location :=
  if path.contains 0 then .error .nulInPath
  else if path.isEmpty then .error .notFound
  else if path.length > pathLimit then .error .nameTooLong
  else
    let start := if Path.isAbsolute path then [] else current
    match volume.walk start ((Path.pieces path).filter (!·.isEmpty)) with
    | .ok place =>
      .ok ⟨place, volume.node? place, path.getLast? == some Path.slash⟩
    | .error error => .error error

/-- The node that a path leads to. -/
def find? (volume : Volume) (current : Place) (path : Path) : Option (Place × Node) :=
  match volume.locate current path with
  | .ok ⟨place, some node, asksDirectory⟩ =>
    if asksDirectory && !node.isDirectory then none else some (place, node)
  | _ => none

def holds (volume : Volume) (current : Place) (path : Path) : Bool :=
  (volume.find? current path).isSome

def read (volume : Volume) (current : Place) (path : Path) : Except SystemError Bytes :=
  match volume.locate current path with
  | .error error => .error error
  | .ok ⟨_, none, _⟩ => .error .notFound
  | .ok ⟨_, some (.directory _), _⟩ => .error .isDirectory
  | .ok ⟨_, some (.file content _), asksDirectory⟩ =>
    if asksDirectory then .error .notDirectory else .ok content
  | .ok ⟨_, some (.device _), asksDirectory⟩ =>
    if asksDirectory then .error .notDirectory else .ok []

def readText (volume : Volume) (current : Place) (path : Path) :
    Except SystemError String :=
  match volume.read current path with
  | .error error => .error error
  | .ok content =>
    match Utf8.decode? content with
    | some text => .ok text
    | none => .error .notText

/-- Opens a file to write at its end, and creates it if need be.  Without `keep` its
content is dropped first. -/
def openToWrite (volume : Volume) (current : Place) (path : Path) (keep : Bool)
    (mode : Nat) : Except SystemError (Place × Volume) :=
  match volume.locate current path with
  | .error error => .error error
  | .ok ⟨place, node, asksDirectory⟩ =>
    if asksDirectory then .error .isDirectory
    else match node with
      | none => .ok (place, volume.put place (.file [] mode))
      | some (.directory _) => .error .isDirectory
      | some (.file content mode) =>
        .ok (place, volume.put place (.file (if keep then content else []) mode))
      | some (.device _) => .ok (place, volume)

/-- Writes at the end of an open file. -/
def append (volume : Volume) (place : Place) (octets : Bytes) : Volume :=
  match volume.node? place with
  | some (.file content mode) => volume.put place (.file (content ++ octets) mode)
  | _ => volume

/-- Replaces the content of an open file.  A file that was taken away in the meantime
leaves no trace. -/
def overwrite (volume : Volume) (place : Place) (octets : Bytes) : Volume :=
  match volume.node? place with
  | some (.file _ mode) => volume.put place (.file octets mode)
  | _ => volume

/-- Creates a file that must not be there yet. -/
def createFile (volume : Volume) (current : Place) (path : Path) (mode : Nat) :
    Except SystemError (Place × Volume) :=
  match volume.locate current path with
  | .error error => .error error
  | .ok ⟨_, some _, _⟩ => .error .alreadyExists
  | .ok ⟨place, none, asksDirectory⟩ =>
    if asksDirectory then .error .isDirectory
    else .ok (place, volume.put place (.file [] mode))

def createDirectory (volume : Volume) (current : Place) (path : Path) (mode : Nat) :
    Except SystemError Volume :=
  match volume.locate current path with
  | .error error => .error error
  | .ok ⟨_, some _, _⟩ => .error .alreadyExists
  | .ok ⟨place, none, _⟩ => .ok (volume.put place (.directory mode))

def isDirectory (volume : Volume) (current : Place) (path : Path) : Bool :=
  match volume.find? current path with
  | some (_, node) => node.isDirectory
  | none => false

/-- The directory that a path leads to. -/
def enter (volume : Volume) (current : Place) (path : Path) : Except SystemError Place :=
  match volume.locate current path with
  | .error error => .error error
  | .ok ⟨_, none, _⟩ => .error .notFound
  | .ok ⟨place, some node, _⟩ =>
    if node.isDirectory then .ok place else .error .notDirectory

/-- The program that a path leads to: a file with some permission to be executed. -/
def program (volume : Volume) (current : Place) (path : Path) : Except SystemError Place :=
  match volume.locate current path with
  | .error error => .error error
  | .ok ⟨_, none, _⟩ => .error .notFound
  | .ok ⟨place, some (.file _ mode), asksDirectory⟩ =>
    if asksDirectory then .error .notDirectory
    else if mode &&& 0o111 = 0 then .error .permissionDenied
    else .ok place
  | .ok ⟨_, some (.directory _), _⟩ => .error .permissionDenied
  | .ok ⟨_, some (.device _), asksDirectory⟩ =>
    .error (if asksDirectory then .notDirectory else .permissionDenied)

/-- Creates one directory, unless it is there. -/
def makeDirectory (volume : Volume) (current : Place) (path : Path) (mode : Nat) :
    Except SystemError Volume :=
  match volume.createDirectory current path mode with
  | .error .alreadyExists =>
    if volume.isDirectory current path then .ok volume else .error .alreadyExists
  | result => result

/-- Creates a directory along a list of paths, each of which has the next one as its
parent: the first path for which only a parent is missing is tried again once the
parent is there. -/
def makeAlong (volume : Volume) (current : Place) (mode : Nat) :
    List Path → Except SystemError Volume
  | [] => .ok volume
  | path :: parents =>
    match volume.makeDirectory current path mode with
    | .error .notFound =>
      match parents with
      | [] => .error .notFound
      | _ =>
        match volume.makeAlong current mode parents with
        | .ok grown => grown.makeDirectory current path mode
        | .error error => .error error
    | result => result

/-- A path and the paths of the directories above it, as far as it names them. -/
def ancestors : Nat → Path → List Path
  | 0, path => [path]
  | limit + 1, path =>
    match Path.parent? path with
    | some (octet :: rest) => path :: ancestors limit (octet :: rest)
    | _ => [path]

/-- Creates a directory with all directories above it. -/
def createDirectories (volume : Volume) (current : Place) (path : Path) (mode : Nat) :
    Except SystemError Volume :=
  volume.makeAlong current mode (ancestors path.length path)

end Volume

end ProfileShell
