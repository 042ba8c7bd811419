import ProfileShell.Environ
import ProfileShell.Path

/-!
# Well-known places

Where a user's files are, as the environment tells.
-/

namespace ProfileShell.Path

/-- The home directory as it is given. -/
def home? (environ : Environ) : Option Path :=
  environ.nonEmpty? "HOME"

/-- The home directory from the root.  Without one it is the current directory. -/
def homeDirectory (environ : Environ) (current : Path) : Path :=
  absolute current ((home? environ).getD current)

/-- The directory for configurations of all programs, which has to be absolute to
count, or else `.config` at home. -/
def configHome (environ : Environ) (current : Path) : Path :=
  match (environ.valueOf? "XDG_CONFIG_HOME").filter isAbsolute with
  | some directory => directory
  | none =>
    join ((home? environ).getD (homeDirectory environ current)) (ofText ".config")

def configDirectory (environ : Environ) (current : Path) : Path :=
  join (configHome environ current) (ofText "gosh")

/-- The configuration file to use: the one that is asked for, else the one that the
environment names, else the usual one. -/
def chooseConfigFile (explicit fromEnvironment : Option Path) (usual : Path) : Path :=
  match explicit, fromEnvironment with
  | some path, _ => path
  | none, some (octet :: rest) => octet :: rest
  | none, _ => usual

def configFile (environ : Environ) (current : Path) (explicit : Option Path)
    (fromEnvironment : Option Path) : Path :=
  chooseConfigFile explicit fromEnvironment
    (join (configDirectory environ current) (ofText "config.yml"))

/-- The variable that names a configuration file. -/
def configVariable : String := "GOSH_CONFIG"

/-- The directory for temporary files, from the root. -/
def temporaryDirectory (environ : Environ) (current : Path) : Path :=
  let directory := (environ.valueOf? "TMPDIR").getD (ofText "/tmp")
  if isAbsolute directory then directory else join current directory

end ProfileShell.Path
