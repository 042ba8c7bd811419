import ProfileShell.Catalog
import ProfileShell.Json

/-!
# Configurations

A configuration defines shells and profiles.  A shell definition says which
program to start and with which arguments; a profile is a bundle of declarations
and files for the shell to read.  `Config.describe` writes a configuration on one
line, in the same form as a configuration file may have.
-/

namespace ProfileShell

/-- The argument templates of a shell, one for each way to start it. -/
structure Templates where
  /-- For a command given as text. -/
  commandLine : List String
  interactive : List String
  loginShell : List String
  deriving DecidableEq, Repr

structure ShellDefinition where
  /-- The path template of the program. -/
  program : String
  templates : Templates
  deriving DecidableEq, Repr

/-- A profile to activate. -/
structure ProfileDefinition where
  /-- The path template of the working directory. -/
  directory : Option String
  /-- Text for the shell to read, ahead of the included files. -/
  declarations : List String
  /-- The profiles to activate right before this one. -/
  inherits : List String
  includes : List String
  deriving DecidableEq, Repr

structure Config where
  shells : Catalog ShellDefinition
  profiles : Catalog ProfileDefinition
  deriving DecidableEq, Repr

def Templates.empty : Templates := ⟨[], [], []⟩

def ProfileDefinition.empty : ProfileDefinition := ⟨none, [], [], []⟩

def Config.empty : Config := ⟨.empty, .empty⟩

/-- The parts of a template set under their names in a configuration file. -/
def Templates.toJson (templates : Templates) : Json :=
  .object
    [ ("commandline", .texts templates.commandLine),
      ("interactive", .texts templates.interactive),
      ("loginshell", .texts templates.loginShell) ]

/-- The parts of a shell definition under their names in a configuration file. -/
def ShellDefinition.toJson (shell : ShellDefinition) : Json :=
  .object [("exec", .text shell.program), ("flag", shell.templates.toJson)]

/-- The parts of a profile under their names in a configuration file. -/
def ProfileDefinition.toJson (profile : ProfileDefinition) : Json :=
  .object
    [ ("cwd", profile.directory.elim .null .text),
      ("env", .texts profile.declarations),
      ("inherit", .texts profile.inherits),
      ("include", .texts profile.includes) ]

/-- The entries of a catalog, repeated names included. -/
def Catalog.toJson {α : Type} (catalog : Catalog α) (value : α → Json) : Json :=
  .object (catalog.entries.map fun entry => (entry.1, value entry.2))

def Config.toJson (config : Config) : Json :=
  .object
    [ ("shell", config.shells.toJson ShellDefinition.toJson),
      ("profile", config.profiles.toJson ProfileDefinition.toJson) ]

/-- A configuration on one line.  A JSON writer can only fail at a key that is no text or
at a value that refuses to be written.  All keys here are texts, and a value is a text,
null, or made of such, so that writing always succeeds. -/
def Config.describe (config : Config) : String :=
  config.toJson.render

/-- What would stand for a configuration that cannot be written. -/
def Config.unwritten (cause : String) : String :=
  "<unprintable config: " ++ cause ++ ">"

/-! ## Texts

Everything that the author of a configuration file chooses to write in it, apart from the
order of the definitions.
-/

def Templates.texts (templates : Templates) : List String :=
  templates.commandLine ++ templates.interactive ++ templates.loginShell

def ShellDefinition.texts (shell : ShellDefinition) : List String :=
  shell.program :: shell.templates.texts

def ProfileDefinition.texts (profile : ProfileDefinition) : List String :=
  profile.directory.toList ++ profile.declarations ++ profile.inherits ++ profile.includes

/-- The names of a catalog and the texts of its values. -/
def Catalog.texts {α : Type} (catalog : Catalog α) (values : α → List String) : List String :=
  catalog.entries.flatMap fun entry => entry.1 :: values entry.2

namespace Config

def texts (config : Config) : List String :=
  config.shells.texts ShellDefinition.texts ++ config.profiles.texts ProfileDefinition.texts

def names (config : Config) : List String :=
  config.shells.names ++ config.profiles.names

end Config

end ProfileShell
