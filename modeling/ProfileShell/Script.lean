import ProfileShell.Host
import ProfileShell.Text.Blank
import ProfileShell.Text.Listing

/-!
# Scripts

An rc-file can be printed as a script of its own: a first line that names the shell,
a line for each exported variable, and the body.  The body is the rc-file line by
line, each line with a line feed and without a carriage return at its end; lines that
would name the shell again are left out.
-/

namespace ProfileShell.Script

def lineFeed : UInt8 := 0x0A

def carriageReturn : UInt8 := 0x0D

/-- The lines of a file.  A line feed at the end starts no further line. -/
def lines (octets : Bytes) : List Bytes :=
  octets.foldr
    (fun octet lines =>
      if octet = lineFeed then [] :: lines
      else match lines with
        | [] => [[octet]]
        | line :: rest => (octet :: line) :: rest)
    []

/-- A line without one carriage return at its end. -/
def dropCarriageReturn (line : Bytes) : Bytes :=
  if line.getLast? = some carriageReturn then line.dropLast else line

/-- The line that names a shell. -/
def shebang (shell : String) : String := "#!" ++ shell

/-- Whether a line names the shell, apart from blanks around it. -/
def namesShell (shell : String) (line : Bytes) : Bool :=
  Text.trim (Utf8.lossy line) == shebang shell

def bodyLines (shell : String) (octets : Bytes) : List Bytes :=
  ((lines octets).map dropCarriageReturn).filter (!namesShell shell ·)

def body (shell : String) (octets : Bytes) : Bytes :=
  (bodyLines shell octets).flatMap (· ++ [lineFeed])

/-- The line that exports a variable. -/
def exportLine (name value : Bytes) : String :=
  "export " ++ Utf8.lossy name ++ "=" ++ Text.Quoted.quote (Utf8.lossy value)

/-- The lines ahead of the body. -/
def header (shell : String) (exports : Option Environ) : List String :=
  shebang shell
    :: (exports.elim [] fun environ =>
      environ.entries.map fun (name, value) => exportLine name value)

/-- A script with an rc-file as its body. -/
def render (shell : String) (exports : Option Environ) (octets : Bytes) : Bytes :=
  (header shell exports).flatMap (fun line => Utf8.encode line ++ [lineFeed])
    ++ body shell octets

/-- The script of an rc-file on a host. -/
def ofFile (host : Host) (path : Path) (shell : String) (exports : Option Environ) :
    Except SystemError Bytes :=
  (host.read path).map (render shell exports)

end ProfileShell.Script
