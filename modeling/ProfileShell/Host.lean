import ProfileShell.Environ
import ProfileShell.Volume

/-!
# The host of a run

What a run can see of the machine and what it can change: the volume, the
environment and the current directory, and what was written to the standard output
and the standard error.
-/

namespace ProfileShell

/-- What the system is going to refuse to write, and why.  Whatever is not listed here is
written. -/
structure Refusals where
  /-- The contents of an rc-file, in their order in it. -/
  contents : List (Option SystemError) := []
  /-- The flush of an rc-file. -/
  flush : Option SystemError := none
  /-- A script on the standard output, which takes so many octets of it before. -/
  script : Option (Nat × SystemError) := none
  deriving DecidableEq, Repr

/-- Why the content at a position in an rc-file is refused. -/
def Refusals.content? (refusals : Refusals) (position : Nat) : Option SystemError :=
  (refusals.contents[position]?).join

/-- The machine as a run sees it. -/
structure Host where
  volume : Volume
  directory : Path
  environ : Environ
  output : Bytes
  errors : Bytes
  outputIsTerminal : Bool
  errorsIsTerminal : Bool
  /-- The log records that are kept in memory. -/
  journal : List Bytes
  /-- The endings to try, in this order, for the name of a temporary file. -/
  temporaryEndings : List String
  /-- The number of this process. -/
  process : Nat
  refusals : Refusals := {}
  deriving DecidableEq, Repr

namespace Host

def place (host : Host) : Place :=
  (Path.pieces host.directory).filter (!·.isEmpty)

def print (host : Host) (octets : Bytes) : Host :=
  { host with output := host.output ++ octets }

/-- Writes a script to the standard output, as far as the system takes it. -/
def printScript (host : Host) (octets : Bytes) : Except SystemError Unit × Host :=
  match host.refusals.script with
  | none => (.ok (), host.print octets)
  | some (taken, cause) => (.error cause, host.print (octets.take taken))

def printError (host : Host) (octets : Bytes) : Host :=
  { host with errors := host.errors ++ octets }

/-- Keeps a log record in memory. -/
def note (host : Host) (octets : Bytes) : Host :=
  { host with journal := host.journal ++ [octets] }

def read (host : Host) (path : Path) : Except SystemError Bytes :=
  host.volume.read host.place path

/-- Whether a switch of the environment is on: any value but `0` turns it on. -/
def switch? (host : Host) (name : String) : Option Bool :=
  match host.environ.valueOf? name with
  | none => none
  | some value => (Utf8.decode? value).map (· != "0")

/-- Whether text may be coloured.  `CLICOLOR_FORCE` decides if it is on, then
`NO_COLOR` if it is set, and else `CLICOLOR` for a terminal. -/
def colours (host : Host) : Bool :=
  if host.switch? "CLICOLOR_FORCE" = some true then true
  else if ((host.environ.valueOf? "NO_COLOR").bind Utf8.decode?).isSome then false
  else (host.switch? "CLICOLOR").getD true && host.outputIsTerminal

/-- Whether the text of the command line is styled on a stream.  `NO_COLOR` forbids it
unless it is empty, then `CLICOLOR_FORCE` demands it unless it is `0`, and else it
takes a terminal that knows styles and no `CLICOLOR` of `0`. -/
def styles (host : Host) (isTerminal : Bool) : Bool :=
  let zero := Utf8.encode "0"
  let differs := fun name forbidden => (host.environ.valueOf? name).map (· != forbidden)
  if (host.environ.nonEmpty? "NO_COLOR").isSome then false
  else if differs "CLICOLOR_FORCE" zero = some true then true
  else
    isTerminal && differs "CLICOLOR" zero != some false
      && (differs "TERM" (Utf8.encode "dumb") = some true
        || (host.environ.valueOf? "CLICOLOR").isSome
        || (host.environ.valueOf? "CI").isSome)

end Host

end ProfileShell
