import ProfileShell.Host
import ProfileShell.WaitStatus

/-!
# Commands

A command is a program to start, with its arguments, its environment and its working
directory.  What the program then does is not decided here: it is what a `Machine`
says.
-/

namespace ProfileShell

structure Command where
  /-- The path of the program, or its name alone. -/
  program : Bytes
  /-- The arguments, from the name under which the program runs. -/
  arguments : List Bytes
  environ : Environ
  directory : Path
  deriving DecidableEq, Repr

/-- What the program at a place does with a command: how it ends and what it leaves
behind. -/
abbrev Machine := Place → Command → Host → WaitStatus × Host

namespace Command

/-- Whether some part of a command has a NUL, which no program can be given. -/
def hasNul (command : Command) : Bool :=
  (command.program :: command.directory :: command.arguments).any (·.contains 0)
    || command.environ.entries.any fun (name, value) =>
      name.contains 0 || value.contains 0

/-- The directories that a list of paths names, from one colon to the next. -/
def searchDirectories (paths : Bytes) : List Bytes :=
  paths.foldr
    (fun octet directories =>
      if octet = 0x3A then [] :: directories
      else match directories with
        | [] => [[octet]]
        | directory :: rest => (octet :: directory) :: rest)
    [[]]

/-- The directories that are searched without an instruction. -/
def standardDirectories : Bytes := Utf8.encode "/bin:/usr/bin"

/-- Looks for a program in directories.  One that may not be executed is remembered;
other reasons give way to those of later directories. -/
def search (volume : Volume) (current : Place) (name : Bytes) (denied : Bool)
    (reason : SystemError) : List Bytes → Except SystemError Place
  | [] => .error (if denied then .permissionDenied else reason)
  | directory :: rest =>
    let path := if directory.isEmpty then name else directory ++ Path.slash :: name
    match volume.program current path with
    | .ok place => .ok place
    | .error .permissionDenied => search volume current name true .permissionDenied rest
    | .error .notFound => search volume current name denied .notFound rest
    | .error .notDirectory => search volume current name denied .notDirectory rest
    | .error other => .error other

/-- The program of a command, which is looked for from the working directory.  A name
without a slash is looked for in the directories that `PATH` lists. -/
def resolve (command : Command) (host : Host) (current : Place) :
    Except SystemError Place :=
  if command.program.isEmpty then .error .notFound
  else if command.program.contains Path.slash then
    host.volume.program current command.program
  else if command.program.length > Volume.nameLimit then .error .nameTooLong
  else
    search host.volume current command.program false .notFound
      (searchDirectories ((command.environ.valueOf? "PATH").getD standardDirectories))

/-- Starts a command and lets it run to its end. -/
def start (machine : Machine) (command : Command) (host : Host) :
    Except SystemError (WaitStatus × Host) :=
  if command.hasNul then .error .nulInArgument
  else match host.volume.enter host.place command.directory with
    | .error error => .error error
    | .ok current =>
      match command.resolve host current with
      | .error error => .error error
      | .ok place => .ok (machine place command host)

end Command

end ProfileShell
