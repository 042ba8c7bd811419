import ProfileShell.Config.File
import ProfileShell.Launch
import ProfileShell.Path.Places
import ProfileShell.Profiles
import ProfileShell.Selection
import ProfileShell.Settings

/-!
# Sessions

A session has read its configuration and can launch a shell from it.
-/

namespace ProfileShell

/-- A configuration, where it was read, and what to do with it. -/
structure Session where
  settings : Settings
  configPath : Path
  config : Config
  deriving DecidableEq, Repr

namespace Session

/-- The log record of a configuration that was read. -/
def parsedRecord (file : Path) (config : Config) : Log.Record :=
  ⟨.debug, "parsed configuration",
    [("path", Path.display file), ("content", config.describe)]⟩

def startAt (log : Log) (settings : Settings) (file : Path) (host : Host) :
    Except ConfigFileError Session × Host :=
  match Config.prepareDirectory file host with
  | .error error => (.error error, host)
  | .ok host =>
    match Config.ofFile file host with
    | .error error => (.error error, host)
    | .ok config =>
      (.ok ⟨settings, file, config⟩, log.emit (parsedRecord file config) host)

def configFile (settings : Settings) (host : Host) : Path :=
  Path.configFile host.environ host.directory settings.config
    (host.environ.valueOf? Path.configVariable)

/-- Starts a session with the configuration file that the settings ask for. -/
def start (log : Log) (settings : Settings) (host : Host) :
    Except ConfigFileError Session × Host :=
  startAt log settings (configFile settings host) host

/-- The directory that holds the directories of the profiles. -/
def profileRoot (session : Session) : Path :=
  (Path.parent? session.configPath).getD Path.dot

def launchRecord (options : LaunchOptions) : Log.Record :=
  if options.command.isEmpty then ⟨.info, "running shell", []⟩
  else ⟨.info, "running command", [("command", options.command)]⟩

/-- An error of a launch and what it goes back to. -/
def launchCauses (session : Session) (error : LaunchError) : List String :=
  ("launching shell '" ++ session.settings.launch.shell ++ "'") :: error.causes

/-- The log of a launch, which tells one shell from another. -/
def launchLog (log : Log) (options : LaunchOptions) : Log :=
  log.withField "shell" options.shell

/-- What a launch takes from a configuration. -/
structure Gathered where
  contents : ProfileContents
  selection : Selection
  /-- The host behind the reports. -/
  host : Host
  deriving DecidableEq, Repr

/-- Loads the profiles below a root, selects the requested ones, and announces the
launch. -/
def gather (log : Log) (root : Path) (config : Config) (options : LaunchOptions)
    (host : Host) : Gathered :=
  let (contents, loaded) := Profiles.loadReporting log root config.profiles host
  let selection := config.select options.profiles
  let selected := log.emitAll (selection.notices.map SelectionNotice.record) loaded
  ⟨contents, selection, (launchLog log options).emit (launchRecord options) selected⟩

/-- Loads the profiles, selects the requested ones, and launches the shell. -/
def createShell (machine : Machine) (log : Log) (session : Session) (host : Host) :
    Except LaunchError Ending × Host :=
  let options := session.settings.launch
  let gathered := gather log session.profileRoot session.config options host
  Launch.launch machine (launchLog log options) session.config gathered.contents
    gathered.selection.profiles options gathered.host

end Session

end ProfileShell
