import ProfileShell.Substitution

/-!
# Slots of a template

A template settles which arguments there will be before any value is known.  Some are
texts of their own, and the others are slots that a value is put into.
-/

namespace ProfileShell

/-- What a template holds in one place. -/
inductive Slot where
  | literal (text : String)
  | program
  | rcFile
  /-- The directory of the launch. -/
  | directory
  | command
  /-- All positional arguments. -/
  | arguments
  deriving DecidableEq, Repr

namespace Slot

def ofTokens : List (String × Slot) :=
  [ (token "EXEC", .program), (token "INIT", .rcFile), (token "CWD", .directory),
    (token "PWD", .directory), (token "CMD", .command), (token "ARGS", .arguments) ]

/-- The slots of one argument.  An argument with a token inside has none. -/
def ofArgument (argument : String) : List Slot :=
  match ofTokens.lookup argument with
  | some slot => [slot]
  | none =>
    if ofTokens.any fun entry => occursIn entry.1.toList argument.toList then []
    else [.literal argument]

/-- The slots of a template, in order. -/
def ofTemplate (template : List String) : List Slot :=
  template.flatMap ofArgument

/-- The slots that there is a value for.  Without a command its slots go. -/
def available (values : LaunchValues) (slots : List Slot) : List Slot :=
  if values.command.isEmpty then slots.filter (· != .command) else slots

/-- What is put into a slot.  Positional arguments that are empty count like others. -/
def fill (values : LaunchValues) : Slot → List String
  | literal text => [text]
  | program => [values.program]
  | rcFile => [values.rcFile]
  | directory => [values.directory]
  | command => [values.command]
  | arguments => values.arguments

end Slot

end ProfileShell
