import ProfileShell.Config.Reader
import ProfileShell.Host

/-!
# The configuration file

A run reads its configuration from one file.  The directory that holds the file is
created if it is missing, so that a first run can say where it looked.
-/

namespace ProfileShell

/-- Why there is no configuration. -/
inductive ConfigFileError where
  /-- The directory of the file cannot be created. -/
  | directory (path : Path) (cause : SystemError)
  | unreadable (path : Path) (cause : SystemError)
  | malformed (path : Path) (error : Config.ParseError)
  deriving DecidableEq, Repr

namespace ConfigFileError

/-- What was being done. -/
def activity : ConfigFileError → String
  | directory _ _ => "preparing configuration directory"
  | unreadable _ _ | malformed _ _ => "loading configuration"

/-- What an error goes back to. -/
def detail : ConfigFileError → String
  | directory _ cause | unreadable _ cause => cause.message
  | malformed _ error => error.message

def message (error : ConfigFileError) : String :=
  let place := match error with
    | directory path _ => "Could not create config directory at '" ++ Path.display path
    | unreadable path _ => "Could not read configuration file '" ++ Path.display path
    | malformed path _ => "Failed to parse configuration file '" ++ Path.display path
  place ++ "': " ++ error.detail

/-- An error, what was being done, and what it goes back to. -/
def causes (error : ConfigFileError) : List String :=
  [error.activity, error.message, error.detail]

end ConfigFileError

namespace Config

/-- The permission bits of a directory that is created for the file. -/
def directoryMode : Nat := 0o700

/-- Creates the directory of a configuration file, with all directories above it, if
it is missing. -/
def prepareDirectory (file : Path) (host : Host) : Except ConfigFileError Host :=
  match Path.parent? file with
  | none | some [] => .ok host
  | some directory =>
    if host.volume.holds host.place directory then .ok host
    else match host.volume.createDirectories host.place directory directoryMode with
      | .ok volume => .ok { host with volume := volume }
      | .error cause => .error (.directory directory cause)

def ofFile (file : Path) (host : Host) : Except ConfigFileError Config :=
  match host.volume.readText host.place file with
  | .error cause => .error (.unreadable file cause)
  | .ok content =>
    match parse content with
    | .ok config => .ok config
    | .error error => .error (.malformed file error)

end Config

end ProfileShell
