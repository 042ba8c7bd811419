import ProfileShell.Command
import ProfileShell.Environ
import ProfileShell.Launch.Options
import ProfileShell.Script
import ProfileShell.Substitution

/-!
# Launching a shell

A launch finds the shell definition, writes the rc-file, and works out the arguments,
the environment and the working directory.  Then it prints the rc-file as a script, or
runs the shell as a child, or lets the shell take the place of this process.

The rc-file is removed on every way out but the last: a shell that has taken the place
of this process still reads it.
-/

namespace ProfileShell

/-- The definition of a shell.  Where no definition has the automatic name, it stands
for the one named after the login shell of the user. -/
def Config.resolveShell (config : Config) (name : String) (loginShell : Option Path) :
    Except LaunchError ShellDefinition :=
  match config.shells.get? name with
  | some shell => .ok shell
  | none =>
    let named :=
      if name = LaunchOptions.automaticShell then
        (loginShell.bind Path.fileName?).bind fun file =>
          config.shells.get? (Utf8.lossy file)
      else none
    match named with
    | some shell => .ok shell
    | none => .error (.undefinedShell name)

/-- A working directory of a profile that cannot be used. -/
structure DirectoryNotice where
  profile : String
  error : Path.TemplateFault
  deriving DecidableEq, Repr

def DirectoryNotice.record (notice : DirectoryNotice) : Log.Record :=
  ⟨.warn, "ignoring cwd", [("profile", notice.profile), ("error", notice.error.message)]⟩

namespace Launch

/-- The working directory that the first profile with a usable one asks for.  A
directory has to be one argument that is not empty before its path is expanded. -/
def profileDirectory (config : Config) (environ : Environ) (values : Substitution) :
    List String → Option Path × List DirectoryNotice
  | [] => (none, [])
  | name :: rest =>
    match (config.profiles.get? name).bind ProfileDefinition.directory with
    | none => profileDirectory config environ values rest
    | some template =>
      match values.expand template with
      | .single directory =>
        if directory.isEmpty then profileDirectory config environ values rest
        else match Path.expand environ directory with
          | .ok path => (some (Path.ofText path), [])
          | .error error =>
            let (found, notices) := profileDirectory config environ values rest
            (found, ⟨name, error⟩ :: notices)
      | _ => profileDirectory config environ values rest

/-- The argument template for a launch: a command counts first, then a login shell,
then an interactive one. -/
def template (shell : ShellDefinition) (options : LaunchOptions) : List String :=
  if !options.command.isEmpty then shell.templates.commandLine
  else if options.login then shell.templates.loginShell
  else if options.interactive then shell.templates.interactive
  else []

/-- The arguments of a launch.  The program goes through the same expansion as its
arguments, and empty arguments are dropped. -/
def arguments (shell : ShellDefinition) (options : LaunchOptions) (program : String)
    (values : Substitution) : List String :=
  Text.nonEmpty (values.expandAll (program :: template shell options))

end Launch

/-- Everything that is needed to start a shell. -/
structure Prepared where
  program : String
  /-- The arguments, from the name of the program. -/
  arguments : List String
  environ : Environ
  directory : Path
  profiles : List String
  rcFile : RcFile
  deriving DecidableEq, Repr

namespace Prepared

/-- Removes the rc-file. -/
def discard (prepared : Prepared) (host : Host) : Host :=
  prepared.rcFile.remove host

/-- The rc-file as a script. -/
def script (prepared : Prepared) (withExports : Bool) (host : Host) :
    Except LaunchError Bytes :=
  match Script.ofFile host prepared.rcFile.path prepared.program
      (if withExports then some prepared.environ else none) with
  | .ok octets => .ok octets
  | .error cause => .error (.generate cause)

/-- Prints the rc-file as a script and removes it. -/
def generate (withExports : Bool) (prepared : Prepared) (host : Host) :
    Except LaunchError Unit × Host :=
  match prepared.script withExports host with
  | .error error => (.error error, prepared.discard host)
  | .ok octets =>
    match host.printScript octets with
    | (.error cause, printed) => (.error (.generate cause), prepared.discard printed)
    | (.ok (), printed) => (.ok (), prepared.discard printed)

/-- The command that starts the shell.  Of the arguments the first one is the name
under which the program runs. -/
def command (prepared : Prepared) : Command :=
  let octets := prepared.arguments.map Utf8.encode
  ⟨Utf8.encode prepared.program,
    octets.head?.getD (Utf8.encode prepared.program) :: octets.tail,
    prepared.environ, prepared.directory⟩

/-- The log record of a start. -/
def startRecord (prepared : Prepared) : Log.Record :=
  ⟨.debug, "execute",
    [ ("shell", prepared.program), ("args", Text.bracketed prepared.arguments),
      ("env", Text.bracketed prepared.environ.lines),
      ("dir", Path.display prepared.directory) ]⟩

/-- The log record of a child that did not end well. -/
def endRecords (status : WaitStatus) : List Log.Record :=
  if status.isSuccess then []
  else [⟨.debug, "shell exited", [("status", status.description)]⟩]

/-- Runs the shell as a child.  The result is the code to exit with. -/
def run (machine : Machine) (log : Log) (prepared : Prepared) (host : Host) :
    Except LaunchError Nat × Host :=
  let announced := log.emit prepared.startRecord host
  match prepared.command.start machine announced with
  | .error cause => (.error (.spawn prepared.program cause), prepared.discard announced)
  | .ok (status, after) =>
    (.ok status.exitCode, prepared.discard (log.emitAll (endRecords status) after))

/-- Lets the shell take the place of this process.  The result is how the shell
ends. -/
def replace (machine : Machine) (log : Log) (prepared : Prepared) (host : Host) :
    Except LaunchError WaitStatus × Host :=
  let announced := log.emit prepared.startRecord host
  match prepared.command.start machine announced with
  | .error cause =>
    (.error (.replace prepared.program cause), prepared.discard announced)
  | .ok (status, after) => (.ok status, after)

end Prepared

namespace Launch

/-- What the tokens of a launch stand for. -/
def valuesOf (options : LaunchOptions) (program : String) (rcFile directory : Path) :
    LaunchValues :=
  { program := program
    rcFile := Path.display rcFile
    directory := Path.display directory
    command := options.command
    arguments := options.arguments }

/-- The environment that a launch starts from. -/
def baseEnviron (options : LaunchOptions) (inherited : Environ) : Environ :=
  if options.orphan then .empty else inherited

/-- Works out everything that is needed beside the rc-file. -/
def complete (log : Log) (config : Config) (shell : ShellDefinition)
    (options : LaunchOptions) (inherited : Environ) (directory : Path) (program : String)
    (rcFile : RcFile) (host : Host) : Prepared × Host :=
  let values := (valuesOf options program rcFile.path directory).substitution
  let (chosen, notices) := profileDirectory config host.environ values rcFile.profiles
  ( { program := program
      arguments := arguments shell options program values
      environ := (baseEnviron options inherited).withBookkeeping rcFile.path
        rcFile.profiles (!options.generate)
      directory := chosen.getD directory
      profiles := rcFile.profiles
      rcFile := rcFile },
    log.emitAll (notices.map DirectoryNotice.record) host )

/-- Writes the rc-file and works out everything else that is needed. -/
def prepare (log : Log) (config : Config) (contents : ProfileContents)
    (selection : List String) (shell : ShellDefinition) (options : LaunchOptions)
    (inherited : Environ) (directory : Path) (host : Host) :
    Except LaunchError Prepared × Host :=
  match Path.expand host.environ shell.program with
  | .error error => (.error (.template error), host)
  | .ok program =>
    match RcFile.write log contents selection host with
    | (.error error, host) => (.error (.rcFile error), host)
    | (.ok rcFile, host) =>
      let (prepared, host) :=
        complete log config shell options inherited directory program rcFile host
      (.ok prepared, host)

end Launch

/-- How a launch ends. -/
inductive Ending where
  /-- This process goes on and exits with a code. -/
  | exit (code : Nat)
  /-- A shell has taken the place of this process. -/
  | replaced (status : WaitStatus)
  deriving DecidableEq, Repr

/-- Launches a shell with the environment and the directory of the host.  A command
takes the place of this process; a session runs as a child. -/
def Launch.launch (machine : Machine) (log : Log) (config : Config)
    (contents : ProfileContents) (selection : List String) (options : LaunchOptions)
    (host : Host) : Except LaunchError Ending × Host :=
  match config.resolveShell options.shell (host.environ.valueOf? "SHELL") with
  | .error error => (.error error, host)
  | .ok shell =>
    match prepare log config contents selection shell options host.environ host.directory
        host with
    | (.error error, host) => (.error error, host)
    | (.ok prepared, host) =>
      if options.generate then
        match prepared.generate (!options.orphan) host with
        | (.error error, host) => (.error error, host)
        | (.ok (), host) => (.ok (.exit 0), host)
      else if options.command.isEmpty then
        match prepared.run machine log host with
        | (.error error, host) => (.error error, host)
        | (.ok code, host) => (.ok (.exit code), host)
      else
        match prepared.replace machine log host with
        | (.error error, host) => (.error error, host)
        | (.ok status, host) => (.ok (.replaced status), host)

end ProfileShell
