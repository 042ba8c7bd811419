import ProfileShell.Halt
import ProfileShell.Session

/-!
# The program

A run goes through stages: the flags, the log, the configuration and the shell.  The
first stage that fails stops the run, and no later stage leaves a trace.
-/

namespace ProfileShell

/-- Why a run stops early. -/
structure Halt where
  exit : ExitCode
  /-- The error and what it goes back to. -/
  causes : List String
  /-- The stage that failed. -/
  note : String
  deriving DecidableEq, Repr

namespace Halt

/-- A run without a log, as the flags for it are wrong. -/
def flags (causes : List String) : Halt := ⟨.invalidFlags, causes, "invalid flags"⟩

/-- A run without a configuration. -/
def initialization (causes : List String) : Halt := ⟨.cliNotStarted, causes, "initialization"⟩

/-- A run without a shell. -/
def shell (causes : List String) : Halt := ⟨.shellNotCreated, causes, "create shell"⟩

def log (message : String) (halt : Halt) (log : Log) (host : Host) : Host :=
  log.emit ⟨.error, message, [("error", ": ".intercalate halt.causes)]⟩ host

end Halt

namespace Program

/-- Launches the shell with an open log. -/
def runWithLog (machine : Machine) (log : Log) (settings : Settings) (host : Host) :
    Except Halt Ending × Host :=
  match Session.start log settings host with
  | (.error error, host) =>
    let halt := Halt.initialization error.causes
    (.error halt, halt.log "initialization failed" log host)
  | (.ok session, host) =>
    match session.createShell machine log host with
    | (.error error, host) =>
      let halt := Halt.shell (session.launchCauses error)
      (.error halt, halt.log "shell failed" log host)
    | (.ok ending, host) => (.ok ending, host)

/-- The settings of a command line, with the defaults for debug runs of a host. -/
def settings (line : CommandLine) (host : Host) : Except SettingsError Settings :=
  Settings.ofCommandLine line
    ((host.environ.valueOf? DebugDefaults.variableName).bind Utf8.decode?)

def runShell (machine : Machine) (line : CommandLine) (host : Host) :
    Except Halt Ending × Host :=
  match settings line host with
  | .error error => (.error (.flags error.causes), host)
  | .ok settings =>
    match settings.sink.open host with
    | .error error => (.error (.flags error.causes), host)
    | .ok (target, host) =>
      runWithLog machine (.new settings.format target settings.debug host) settings host

/-- Runs the program with its arguments.  What it says about itself comes ahead of
everything that could fail. -/
def run (machine : Machine) (arguments : List Bytes) (host : Host) : Ending × Host :=
  match CommandLine.parse arguments with
  | .error .help =>
    let octets := Flag.helpText.octets (host.styles host.outputIsTerminal)
    (.exit ExitCode.ok.code, host.print octets)
  | .error error =>
    let octets := error.styled.octets (host.styles host.errorsIsTerminal)
    (.exit ExitCode.flagsNotParsed.code, host.printError octets)
  | .ok line =>
    if line.version then
      (.exit ExitCode.ok.code, host.print (Utf8.encode (Release.versionLine ++ "\n")))
    else if line.changelog then
      (.exit ExitCode.ok.code, host.print (Utf8.encode Release.changelog))
    else match runShell machine line host with
      | (.ok ending, host) => (ending, host)
      | (.error halt, host) =>
        (.exit halt.exit.code, halt.exit.report halt.causes halt.note host)

end Program

end ProfileShell
