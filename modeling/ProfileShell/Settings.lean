import ProfileShell.CommandLine
import ProfileShell.Launch.Options
import ProfileShell.Log.Format
import ProfileShell.Log.Sink

/-!
# Settings

What a command line asks for once its log flags are understood.  A debug run takes a
log format or a log sink that is not on the command line from a variable, which holds
both with a colon between them.  The variable is not looked at for what the command
line says, nor without debugging.
-/

namespace ProfileShell

/-- What a run is asked to do. -/
structure Settings where
  /-- The configuration file, if the command line names one. -/
  config : Option Path
  launch : LaunchOptions
  format : Log.Format
  sink : Log.Sink
  debug : Bool
  deriving DecidableEq, Repr

/-- A log flag that cannot be understood. -/
inductive SettingsError where
  | unknownFormat (name : String)
  /-- A log sink without a path. -/
  | emptySink
  deriving DecidableEq, Repr

namespace SettingsError

def message : SettingsError → String
  | unknownFormat name => Log.Format.unknownMessage name
  | emptySink => "Invalid log destination: " ++ Log.Sink.emptyPathMessage

def causes (error : SettingsError) : List String :=
  error.message :: match error with
    | unknownFormat _ => []
    | emptySink => [Log.Sink.emptyPathMessage]

end SettingsError

/-- What the variable for debug runs says. -/
structure DebugDefaults where
  /-- The name of a log format. -/
  format : Option String
  /-- The text of a log sink. -/
  sink : Option String
  deriving DecidableEq, Repr

namespace DebugDefaults

/-- The variable that holds the defaults. -/
def variableName : String := "GOSH_DEBUG"

/-- No default. -/
def none : DebugDefaults := ⟨.none, .none⟩

/-- A text without the blanks around it, unless nothing is left. -/
def nonBlank? (characters : List Char) : Option String :=
  let text := Text.trim (String.ofList characters)
  if text.isEmpty then .none else some text

/-- The defaults that a text says: a format up to the first colon and a sink behind
it.  Either may be blank, and without a colon there is no sink. -/
def ofText (text : String) : DebugDefaults :=
  let format := text.toList.takeWhile (· != ':')
  ⟨nonBlank? format, nonBlank? (text.toList.drop (format.length + 1))⟩

end DebugDefaults

namespace Settings

/-- The defaults that count for a command line: those of the variable in a debug run,
and else none. -/
def defaults (line : CommandLine) (debugText : Option String) : DebugDefaults :=
  if line.debug then debugText.elim .none .ofText else .none

/-- The log format of a command line.  Without a name records are written only if the
command line asks for a log at all. -/
def chosenFormat (line : CommandLine) (defaults : DebugDefaults) :
    Except SettingsError Log.Format :=
  match line.logFormat <|> defaults.format with
  | some name =>
    match Log.Format.ofName? name with
    | some format => .ok format
    | none => .error (.unknownFormat name)
  | none => .ok (if line.debug || line.logSink.isSome then .standard else .byDefault)

def chosenSink (line : CommandLine) (defaults : DebugDefaults) : Except SettingsError Log.Sink :=
  match line.logSink <|> defaults.sink with
  | some text =>
    match Log.Sink.ofText? text with
    | some sink => .ok sink
    | none => .error .emptySink
  | none => .ok .byDefault

def launchOptions (line : CommandLine) : LaunchOptions :=
  { shell := line.shell
    profiles := line.profiles
    command := line.command
    arguments := line.arguments
    login := line.login
    interactive := line.interactive
    orphan := line.orphan
    generate := line.generate }

/-- The settings of a command line and the text of the variable for debug runs. -/
def ofCommandLine (line : CommandLine) (debugText : Option String) :
    Except SettingsError Settings :=
  let defaults := defaults line debugText
  match chosenFormat line defaults with
  | .error error => .error error
  | .ok format =>
    match chosenSink line defaults with
    | .error error => .error error
    | .ok sink =>
      .ok
        { config := line.config
          launch := launchOptions line
          format := format
          sink := sink
          debug := line.debug }

end Settings

end ProfileShell
