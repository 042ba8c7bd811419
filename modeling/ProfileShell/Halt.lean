import ProfileShell.Host
import ProfileShell.Text.Paint

/-!
# Halting

A run that stops early exits with a code for the stage that stopped it and says why
on one line: the note of the stage and then the causes, from the outermost to the
first.
-/

namespace ProfileShell

/-- How a run ends. -/
inductive ExitCode where
  | ok
  | flagsNotParsed
  /-- There is no usable configuration. -/
  | cliNotStarted
  /-- The shell could not be prepared or started. -/
  | shellNotCreated
  /-- The log format or the log sink is wrong. -/
  | invalidFlags
  deriving DecidableEq, Repr

namespace ExitCode

/-- All codes in the order of their numbers. -/
def all : List ExitCode :=
  [.ok, .flagsNotParsed, .cliNotStarted, .shellNotCreated, .invalidFlags]

/-- The number that the process exits with. -/
def code : ExitCode → Nat
  | ok => 0
  | flagsNotParsed => 1
  | cliNotStarted => 2
  | shellNotCreated => 3
  | invalidFlags => 4

def name : ExitCode → String
  | ok => "Ok"
  | flagsNotParsed => "FlagsNotParsed"
  | cliNotStarted => "CliNotStarted"
  | shellNotCreated => "ShellNotCreated"
  | invalidFlags => "InvalidFlags"

def display (exit : ExitCode) : String :=
  exit.name ++ "(" ++ toString exit.code ++ ")"

/-- Why a run stopped.  A note stands before the causes; without either, nothing is
known. -/
def reason (note : String) (causes : List String) : String :=
  let chain := ": ".intercalate causes
  match causes.isEmpty, note.isEmpty with
  | false, true => chain
  | false, false => note ++ ": " ++ chain
  | true, true => "unknown error"
  | true, false => note

/-- The line that is printed at a halt.  A run that is fine halts in silence unless
there is a note, and its causes do not matter. -/
def message? (exit : ExitCode) (causes : List String) (note : String) : Option String :=
  let line := fun text => "halt(" ++ toString exit.code ++ "): " ++ text
  if exit = .ok then if note.isEmpty then none else some (line note)
  else some (line (reason note causes))

/-- Prints the line of a halt behind an empty line, in red if text may be coloured
and the run is not fine. -/
def report (exit : ExitCode) (causes : List String) (note : String) (host : Host) : Host :=
  match exit.message? causes note with
  | none => host
  | some message =>
    let shown :=
      if exit ≠ .ok && host.colours then Text.Paint.boldRed.apply message else message
    host.printError (Utf8.encode ("\n" ++ shown ++ "\n"))

end ExitCode

end ProfileShell
