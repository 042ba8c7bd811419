import ProfileShell.Path.Template
import ProfileShell.RcFile

/-!
# Launch options and errors

What a launch is asked to do, and why it may fail.
-/

namespace ProfileShell

/-- What a launch is asked to do. -/
structure LaunchOptions where
  shell : String
  profiles : List String
  /-- The command to run, empty for a session. -/
  command : String
  arguments : List String
  login : Bool
  interactive : Bool
  /-- Whether to start from an empty environment. -/
  orphan : Bool
  /-- Whether to print the rc-file and start nothing. -/
  generate : Bool
  deriving DecidableEq, Repr

namespace LaunchOptions

/-- The name that stands for the shell of the user. -/
def automaticShell : String := "auto"

/-- What is asked without any option. -/
def byDefault : LaunchOptions :=
  ⟨automaticShell, [], "", [], false, true, false, false⟩

end LaunchOptions

/-- Why a launch fails. -/
inductive LaunchError where
  | undefinedShell (name : String)
  /-- The path of the program cannot be expanded. -/
  | template (error : Path.TemplateFault)
  | rcFile (error : RcFileError)
  /-- The shell does not start as a child. -/
  | spawn (program : String) (cause : SystemError)
  /-- The shell does not start in place of this process. -/
  | replace (program : String) (cause : SystemError)
  /-- The rc-file cannot be read back, or not be printed. -/
  | generate (cause : SystemError)
  deriving DecidableEq, Repr

namespace LaunchError

def message : LaunchError → String
  | undefinedShell name =>
    "Requested shell '" ++ name ++ "' is not defined in the configuration."
  | template error => error.message
  | rcFile error => error.message
  | spawn program cause => "Could not start shell '" ++ program ++ "': " ++ cause.message
  | replace program cause =>
    "Could not replace this process with '" ++ program ++ "': " ++ cause.message
  | generate cause => "Could not write the generated rc-file: " ++ cause.message

def causes (error : LaunchError) : List String :=
  error.message :: match error with
    | undefinedShell _ | template _ => []
    | rcFile error => [error.detail]
    | spawn _ cause | replace _ cause | generate cause => [cause.message]

end LaunchError

end ProfileShell
