import ProfileShell.Release
import ProfileShell.Text.Styled

/-!
# Flags

The flags of the command line: their letters, their values, and what the help says
about them.
-/

namespace ProfileShell

inductive Flag where
  | config
  | shell
  | profile
  | command
  | login
  | interactive
  | orphan
  | generate
  | logFormat
  | logSink
  | debug
  | version
  | changelog
  | help
  deriving DecidableEq, Repr

namespace Flag

open Text (Styled)

def all : List Flag :=
  [ .config, .shell, .profile, .command, .login, .interactive, .orphan, .generate,
    .logFormat, .logSink, .debug, .version, .changelog, .help ]

def letter : Flag → Char
  | config => 'f'
  | shell => 'e'
  | profile => 'p'
  | command => 'c'
  | login => 'l'
  | interactive => 'i'
  | orphan => 'u'
  | generate => 'd'
  | logFormat => 'o'
  | logSink => 'w'
  | debug => 'g'
  | version => 'v'
  | changelog => 'V'
  | help => 'h'

def ofLetter? (letter : Char) : Option Flag :=
  all.find? (·.letter == letter)

/-- Whether a flag has a value. -/
inductive Arity where
  /-- It has none. -/
  | none
  /-- It may have one behind an equals sign. -/
  | optional
  /-- It has one, in the same argument or the next one. -/
  | one
  deriving DecidableEq, Repr

/-- Whether a flag has a value. -/
def arity : Flag → Arity
  | config | shell | profile | command | logFormat | logSink => .one
  | interactive => .optional
  | login | orphan | generate | debug | version | changelog | help => .none

def isRepeatable (flag : Flag) : Bool :=
  flag = .profile

/-- The name of a value in the help. -/
def valueName : Flag → String
  | config | logSink => "PATH"
  | shell => "SHELL"
  | profile => "PROFILE"
  | command => "COMMAND"
  | logFormat => "FORMAT"
  | interactive => "INTERACTIVE"
  | login | orphan | generate | debug | version | changelog | help => ""

/-- A flag as it is typed. -/
def sign (flag : Flag) : String :=
  if flag = .help then "--help" else "-" ++ flag.letter.toString

/-- How messages show the value of a flag. -/
def valueText (flag : Flag) : String :=
  match flag.arity with
  | .none => ""
  | .optional => "[=<" ++ flag.valueName ++ ">]"
  | .one => " <" ++ flag.valueName ++ ">"

/-- A flag and its value as messages show them. -/
def usage (flag : Flag) : String :=
  flag.sign ++ flag.valueText

/-- A flag and its value in a usage line. -/
def styledUsage (flag : Flag) : Styled :=
  [(.literal, flag.sign), (.plain, flag.valueText)]

/-- The values that a flag may have, if they are few. -/
def possibleValues : Flag → List String
  | interactive => ["true", "false"]
  | _ => []

/-- The possible values of a flag as messages show them. -/
def possibleText (flag : Flag) : String :=
  if flag.possibleValues.isEmpty then ""
  else "[possible values: " ++ ", ".intercalate flag.possibleValues ++ "]"

def description : Flag → String
  | config =>
    "Configuration file (defaults to $GOSH_CONFIG, then the user config directory)"
  | shell => "Name of the shell definition to launch [default: auto]"
  | profile => "Profile to activate. May be repeated"
  | command => "Run a command instead of an interactive session [default: \"\"]"
  | login => "Start a login shell"
  | interactive =>
    "Start an interactive shell (\x60-i=false\x60 disables it) [default: true] "
      ++ possibleText .interactive
  | orphan => "Do not inherit the environment (do not export it with -d)"
  | generate => "Print the generated rc-file instead of launching the shell"
  | logFormat => "Log format: null, standard, ascii or json"
  | logSink =>
    "Log destination: \x60-\x60 stdout, \x60+\x60 stderr, \x60>path\x60 truncate, "
      ++ "\x60>>path\x60 append"
  | debug => "Enable debug logging"
  | version => "Print the version and exit"
  | changelog => "Print the changelog and exit"
  | help => "Print help"

/-- A flag as the help lists it. -/
def heading (flag : Flag) : Styled :=
  if flag = .help then [(.literal, "-h"), (.plain, ", "), (.literal, "--help")]
  else flag.styledUsage

def headingLength (flag : Flag) : Nat :=
  flag.heading.foldl (fun length piece => length + piece.2.length) 0

/-- The width of the column of flags in the help. -/
def headingWidth : Nat :=
  (all.map headingLength).foldl max 0

def helpLine (flag : Flag) : Styled :=
  let gap := headingWidth + 2 - flag.headingLength
  (.plain, "  ") :: flag.heading
    ++ [(.plain, String.ofList (List.replicate gap ' ') ++ flag.description ++ "\n")]

/-- The line that shows how to use the program after some flags, or in general. -/
def usageLine (given : List Flag) : Styled :=
  [(.heading, "Usage:"), (.plain, " "), (.literal, Release.programName), (.plain, " ")]
    ++ (if given.isEmpty then [(.plain, "[OPTIONS]")]
      else Styled.separated " " (given.map styledUsage))
    ++ [(.plain, " [ARGS]...\n")]

def helpText : Styled :=
  (.plain, "Launch a shell with an environment composed from named profiles.\n\n")
    :: usageLine []
    ++ [ (.plain, "\n"), (.heading, "Arguments:"),
      (.plain, "\n  [ARGS]...  Positional arguments handed to the shell. "
        ++ "Flags end at the first positional argument or at \x60--\x60\n\n"),
      (.heading, "Options:"), (.plain, "\n") ]
    ++ all.flatMap helpLine

end Flag

end ProfileShell
