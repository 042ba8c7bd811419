import ProfileShell.CommandLine.Flag
import ProfileShell.Path
import ProfileShell.Text.Similarity

/-!
# Command lines

A command line is a list of flags and then the positional arguments.  Flags are
letters behind a dash; letters without values may share a dash.  Flags end at the
first argument that is neither a flag nor the value of one, or at `--`, and nothing
behind that is read as a flag.

A value that stands in an argument of its own is given to its flag only when the
next flag or the end is reached.  Until then it is pending, so that an unknown flag
behind it is reported first.
-/

namespace ProfileShell

/-- What a command line says. -/
structure CommandLine where
  config : Option Path
  shell : String
  profiles : List String
  command : String
  login : Bool
  interactive : Bool
  orphan : Bool
  generate : Bool
  logFormat : Option String
  logSink : Option String
  debug : Bool
  version : Bool
  changelog : Bool
  arguments : List String
  deriving DecidableEq, Repr

/-- Why a command line cannot be read.  The help is asked for in the same way. -/
inductive CommandLineError where
  | help
  | unknownLetter (argument : String)
  /-- An unknown name behind two dashes, and the flags before it. -/
  | unknownName (name : String) (given : List Flag)
  | missingValue (flag : Flag)
  | badValue (flag : Flag) (value : String)
  /-- A value for a flag that has none, and the flags before it. -/
  | unwantedValue (flag : Flag) (value : String) (given : List Flag)
  | repeated (flag : Flag)
  | notText
  deriving DecidableEq, Repr

namespace CommandLineError

open Text (Styled)

/-- How similar a word has to be to suggest it, in hundredths. -/
def similarityLimit : Nat := 70

/-- The word in front of a hint. -/
def hintStart : Styled := [(.plain, "\n  "), (.valid, "tip:"), (.plain, " ")]

/-- The hint that a word is similar to a known one, if it is. -/
def similarHint? (kind shown known word : String) : Option Styled :=
  if Text.Similarity.reaches similarityLimit word.toList known.toList then
    some (hintStart
      ++ [ (.plain, "a similar " ++ kind ++ " exists: '"), (.valid, shown), (.plain, "'") ])
  else none

/-- The hint how to pass an argument that looks like a flag. -/
def escapeHint (argument : String) : Styled :=
  hintStart
    ++ [ (.plain, "to pass '"), (.invalid, argument), (.plain, "' as a value, use '"),
      (.valid, "-- " ++ argument), (.plain, "'") ]

/-- The message about an argument that is not known. -/
def unexpected (argument : String) : Styled :=
  [(.plain, "unexpected argument '"), (.invalid, argument), (.plain, "' found\n")]

/-- The message about a value that is missing. -/
def valueRequired (flag : Flag) : Styled :=
  [ (.plain, "a value is required for '"), (.invalid, flag.usage),
    (.plain, "' but none was supplied") ]

def possibleValues (flag : Flag) : Styled :=
  (.plain, "\n  [possible values: ")
    :: Styled.separated ", " (flag.possibleValues.map fun value => [(.valid, value)])
    ++ [(.plain, "]")]

/-- The message of an error and its hints. -/
def opening : CommandLineError → Styled
  | help => []
  | unknownLetter argument => unexpected argument ++ escapeHint argument
  | unknownName name _ =>
    unexpected ("--" ++ name) ++ (similarHint? "argument" "--help" "help" name).getD []
      ++ escapeHint ("--" ++ name)
  | missingValue flag => valueRequired flag
  | badValue flag value =>
    let hint? := flag.possibleValues.findSome? fun known =>
      similarHint? "value" known known value
    (if value.isEmpty then valueRequired flag
      else
        [ (.plain, "invalid value '"), (.invalid, value), (.plain, "' for '"),
          (.literal, flag.usage), (.plain, "'") ])
      ++ possibleValues flag ++ hint?.elim [] ((.plain, "\n") :: ·)
  | unwantedValue flag value _ =>
    [ (.plain, "unexpected value '"), (.invalid, value), (.plain, "' for '"),
      (.literal, flag.usage), (.plain, "' found; no more were expected") ]
  | repeated flag =>
    [ (.plain, "the argument '"), (.invalid, flag.usage),
      (.plain, "' cannot be used multiple times") ]
  | notText => [(.plain, "invalid UTF-8 was detected in one or more arguments")]

/-- The flags that the usage line of an error shows, for an error that has one. -/
def shownFlags? : CommandLineError → Option (List Flag)
  | help | missingValue _ | badValue _ _ => none
  | unknownLetter _ | repeated _ | notText => some []
  | unknownName name given =>
    some (if (similarHint? "argument" "--help" "help" name).isSome then given ++ [.help]
      else given)
  | unwantedValue flag _ given => some (given ++ [flag])

/-- The line that points to the help. -/
def closing : Styled :=
  [(.plain, "\nFor more information, try '"), (.literal, "--help"), (.plain, "'.\n")]

/-- What is printed for an error. -/
def styled (error : CommandLineError) : Styled :=
  if error = .help then Flag.helpText
  else
    [(.alarm, "error:"), (.plain, " ")] ++ error.opening ++ [(.plain, "\n")]
      ++ error.shownFlags?.elim [] (fun given => (.plain, "\n") :: Flag.usageLine given)
      ++ closing

def text (error : CommandLineError) : String :=
  error.styled.text

end CommandLineError

namespace CommandLine

def empty : CommandLine :=
  { config := none
    shell := "auto"
    profiles := []
    command := ""
    login := false
    interactive := true
    orphan := false
    generate := false
    logFormat := none
    logSink := none
    debug := false
    version := false
    changelog := false
    arguments := [] }

def decode (octets : Bytes) : Except CommandLineError String :=
  match Utf8.decode? octets with
  | some text => .ok text
  | none => .error .notText

/-- Sets what a flag says. -/
def assign (line : CommandLine) (flag : Flag) (value : Option Bytes) :
    Except CommandLineError CommandLine :=
  let octets := value.getD []
  match flag with
  | .config =>
    if octets.isEmpty then .error (.missingValue .config)
    else .ok { line with config := some octets }
  | .shell => (decode octets).map fun text => { line with shell := text }
  | .profile =>
    (decode octets).map fun text => { line with profiles := line.profiles ++ [text] }
  | .command => (decode octets).map fun text => { line with command := text }
  | .logFormat => (decode octets).map fun text => { line with logFormat := some text }
  | .logSink => (decode octets).map fun text => { line with logSink := some text }
  | .interactive =>
    match value with
    | none => .ok { line with interactive := true }
    | some octets =>
      match Utf8.decode? octets with
      | some "true" => .ok { line with interactive := true }
      | some "false" => .ok { line with interactive := false }
      | _ => .error (.badValue .interactive (Utf8.lossy octets))
  | .login => .ok { line with login := true }
  | .orphan => .ok { line with orphan := true }
  | .generate => .ok { line with generate := true }
  | .debug => .ok { line with debug := true }
  | .version => .ok { line with version := true }
  | .changelog => .ok { line with changelog := true }
  | .help => .error .help

/-- A command line that is being read. -/
structure Reader where
  line : CommandLine
  given : List Flag
  /-- A flag whose value has an argument of its own, and the value once it is met. -/
  pending : Option (Flag × Option Bytes)
  deriving DecidableEq, Repr

namespace Reader

/-- Nothing has been read. -/
def start : Reader := ⟨.empty, [], none⟩

/-- Gives a flag its value.  With an error comes the reader as it is by then. -/
def give (reader : Reader) (flag : Flag) (value : Option Bytes) :
    Reader × Option CommandLineError :=
  if flag.arity = .one && value.isNone then (reader, some (.missingValue flag))
  else if reader.given.contains flag && !flag.isRepeatable then
    ({ reader with given := reader.given.filter (· != flag) }, some (.repeated flag))
  else
    let marked :=
      if reader.given.contains flag then reader
      else { reader with given := reader.given ++ [flag] }
    match reader.line.assign flag value with
    | .ok line => ({ marked with line := line }, none)
    | .error error => (marked, some error)

/-- Gives a pending flag its value. -/
def settle (reader : Reader) : Reader × Option CommandLineError :=
  match reader.pending with
  | none => (reader, none)
  | some (flag, value) => { reader with pending := none }.give flag value

def check : Reader × Option CommandLineError → Except CommandLineError Reader
  | (reader, none) => .ok reader
  | (_, some error) => .error error

/-- Gives a flag its value after the pending one. -/
def take (reader : Reader) (flag : Flag) (value : Option Bytes) :
    Except CommandLineError Reader :=
  match check reader.settle with
  | .ok settled => check (settled.give flag value)
  | .error error => .error error

def equalsSign : UInt8 := 0x3D

/-- The first character of a text, or all of it where it is not well-formed. -/
def firstCharacter (octets : Bytes) : String :=
  match Utf8.pieces octets with
  | some character :: _ => character.toString
  | _ => Utf8.lossy octets

/-- Reads the letters behind a dash. -/
def letters (reader : Reader) : Bytes → Except CommandLineError Reader
  | [] => .ok reader
  | octet :: rest =>
    match Flag.ofLetter? (Char.ofNat octet.toNat) with
    | none => .error (.unknownLetter ("-" ++ firstCharacter (octet :: rest)))
    | some flag =>
      match flag.arity with
      | .none => (reader.take flag none).bind fun next => next.letters rest
      | .optional =>
        match rest with
        | sign :: value =>
          if sign = equalsSign then reader.take flag (some value)
          else (reader.take flag none).bind fun next => next.letters (sign :: value)
        | [] => reader.take flag none
      | .one =>
        match rest with
        | [] => (check reader.settle).map fun next => { next with pending := some (flag, none) }
        | sign :: value =>
          reader.take flag (some (if sign = equalsSign then value else sign :: value))

/-- Reads a name behind two dashes. -/
def longName (reader : Reader) (octets : Bytes) : Except CommandLineError Reader :=
  let name := octets.takeWhile (· != equalsSign)
  match Utf8.decode? name, octets.drop name.length with
  | some "help", [] => reader.take .help none
  | some "help", _ :: value =>
    .error (.unwantedValue .help (Utf8.lossy value) reader.settle.1.given)
  | _, _ => .error (.unknownName (Utf8.lossy name) reader.settle.1.given)

/-- Ends the flags at the positional arguments. -/
def finish (reader : Reader) (arguments : List Bytes) : Except CommandLineError CommandLine :=
  match check reader.settle with
  | .error error => .error error
  | .ok settled =>
    (arguments.mapM decode).map fun texts => { settled.line with arguments := texts }

def dash : UInt8 := 0x2D

/-- Reads arguments one after another. -/
def read (reader : Reader) : List Bytes → Except CommandLineError CommandLine
  | [] => reader.finish []
  | argument :: rest =>
    match argument with
    | [45, 45] => reader.finish rest
    | 45 :: 45 :: name =>
      match reader.longName name with
      | .ok next => next.read rest
      | .error error => .error error
    | 45 :: octet :: more =>
      match reader.letters (octet :: more) with
      | .ok next => next.read rest
      | .error error => .error error
    | _ =>
      match reader.pending with
      | some (flag, none) => { reader with pending := some (flag, some argument) }.read rest
      | _ => reader.finish (argument :: rest)

end Reader

/-- Reads the arguments of a program, without its name. -/
def parse (arguments : List Bytes) : Except CommandLineError CommandLine :=
  Reader.start.read arguments

end CommandLine

end ProfileShell
