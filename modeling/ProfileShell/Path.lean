import ProfileShell.Text.Utf8

/-!
# Paths

A path is a string of octets whose names are separated by slashes.  The operations
here work on the path alone, without a look at any file: a repeated slash and a
`.` behind another name do not count as names, and `..` is a name like another.
-/

namespace ProfileShell

/-- A path as a program writes it. -/
abbrev Path := Bytes

namespace Path

def slash : UInt8 := 0x2F

def dot : Bytes := [0x2E]

def dotDot : Bytes := [0x2E, 0x2E]

def ofText (text : String) : Path := Utf8.encode text

/-- The text of a path for a message. -/
def display (path : Path) : String := Utf8.lossy path

def isAbsolute (path : Path) : Bool :=
  path.head? == some slash

/-- The pieces between the slashes, empty ones included. -/
def pieces (path : Path) : List Bytes :=
  path.foldr
    (fun octet pieces =>
      if octet = slash then [] :: pieces
      else match pieces with
        | [] => [[octet]]
        | piece :: rest => (octet :: piece) :: rest)
    [[]]

def ofPieces : List Bytes → Path
  | [] => []
  | [piece] => piece
  | piece :: rest => piece ++ slash :: ofPieces rest

/-- Whether a piece is no name of its own. -/
def isSilent (piece : Bytes) : Bool :=
  piece.isEmpty || piece == dot

/-- A path as its start and the pieces behind it.  The start is the root, a leading
`.`, or empty. -/
def split (path : Path) : Bytes × List Bytes :=
  match path with
  | [] => ([], [])
  | first :: rest =>
    if first = slash then ([slash], pieces rest)
    else match pieces path with
      | piece :: more => if piece = dot then (dot, more) else ([], piece :: more)
      | [] => ([], [])

/-- The pieces up to the last name. -/
def dropSilentEnd (names : List Bytes) : List Bytes :=
  (names.reverse.dropWhile isSilent).reverse

/-- The path of a start and the pieces behind it. -/
def unsplit (start : Bytes) (names : List Bytes) : Path :=
  if names.isEmpty then start
  else if start = dot then start ++ slash :: ofPieces names
  else start ++ ofPieces names

/-- The path without its last name, unless it has none. -/
def parent? (path : Path) : Option Path :=
  let (start, names) := split path
  match dropSilentEnd names with
  | [] => if start = dot then some [] else none
  | name :: rest => some (unsplit start (dropSilentEnd ((name :: rest).dropLast)))

/-- The last name of a path, unless it is `..` or missing. -/
def fileName? (path : Path) : Option Bytes :=
  ((dropSilentEnd (split path).2).getLast?).filter (· != dotDot)

/-- A path inside a directory.  An absolute path stands for itself. -/
def join (directory path : Path) : Path :=
  if isAbsolute path || directory.isEmpty then path
  else if directory.getLast? = some slash then directory ++ path
  else directory ++ slash :: path

/-- A path from the root, without silent pieces.  Two slashes at the start and one
at the end are kept. -/
def absolute (current path : Path) : Path :=
  let names := (pieces path).filter (!isSilent ·)
  let start :=
    if isAbsolute path then
      if [slash, slash].isPrefixOf path && !([slash, slash, slash].isPrefixOf path) then
        [slash, slash]
      else [slash]
    else current
  let whole := names.foldl join start
  if path.getLast? = some slash then join whole [] else whole

end Path

end ProfileShell
