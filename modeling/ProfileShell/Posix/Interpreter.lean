import ProfileShell.Command
import ProfileShell.Posix.Syntax

/-!
# A small shell

Runs scripts of simple commands with the commands that need nothing but the host.  The
standard input is empty unless it is redirected.  This is the machine on which a launch starts its
shells.
-/

namespace ProfileShell.Posix

/-- A shell between two commands. -/
structure Shell where
  host : Host
  /-- The current directory. -/
  place : Place
  /-- The name of the shell in messages. -/
  name : Bytes
  arguments : List Bytes
  environ : Environ
  status : Nat
  /-- What the standard input holds. -/
  input : Bytes
  deriving DecidableEq, Repr

/-- What a command leaves. -/
inductive Outcome where
  | goOn (shell : Shell)
  | ended (status : WaitStatus) (shell : Shell)

namespace Shell

def withStatus (shell : Shell) (status : Nat) : Shell :=
  { shell with status := status }

def print (shell : Shell) (octets : Bytes) : Shell :=
  { shell with host := shell.host.print octets }

/-- Prints a message of the shell. -/
def complain (shell : Shell) (message : String) : Shell :=
  { shell with
    host := shell.host.printError
      (shell.name ++ Utf8.encode (": 1: " ++ message ++ "\n")) }

/-- The arguments in one text. -/
def joined (shell : Shell) : Bytes :=
  [0x20].intercalate shell.arguments

/-- The value of a parameter. -/
def value? (shell : Shell) (name : List Char) : Option Bytes :=
  match name with
  | ['#'] => some (Utf8.encode (toString shell.arguments.length))
  | ['?'] => some (Utf8.encode (toString shell.status))
  | ['$'] => some (Utf8.encode (toString (shell.host.process + 1)))
  | ['*'] | ['@'] => some shell.joined
  | ['!'] | ['-'] => some []
  | _ =>
    if name.all Char.isDigit then
      match (String.ofList name).toNat? with
      | some 0 => some shell.name
      | some (position + 1) => shell.arguments[position]?
      | none => none
    else shell.environ.get? (octets name)

end Shell

/-- An octet that separates fields. -/
def isFieldSeparator (octet : UInt8) : Bool :=
  octet == 0x20 || octet == 0x09 || octet == 0x0A

/-- Fields that are being put together: the finished ones, the last one first, and the
open one. -/
structure Fields where
  finished : List Bytes
  field : Option Bytes

namespace Fields

/-- Adds octets to the open field. -/
def add (fields : Fields) (octets : Bytes) : Fields :=
  { fields with field := some (fields.field.getD [] ++ octets) }

/-- Ends the open field. -/
def finish (fields : Fields) : Fields :=
  match fields.field with
  | some field => ⟨field :: fields.finished, none⟩
  | none => fields

/-- Adds octets that are split at separators. -/
def addSplit (fields : Fields) (octets : Bytes) : Fields :=
  octets.foldl
    (fun fields octet =>
      if isFieldSeparator octet then fields.finish else fields.add [octet])
    fields

/-- Adds arguments, each a field of its own. -/
def addEach (fields : Fields) : List Bytes → Fields
  | [] => fields
  | [argument] => fields.add argument
  | argument :: rest => (fields.add argument).finish.addEach rest

def toList (fields : Fields) : List Bytes :=
  fields.finish.finished.reverse

end Fields

namespace Shell

/-- Expands one part of a word. -/
def expandPart (shell : Shell) (fields : Fields) : Part → Fields
  | .text value _ => fields.add (octets value)
  | .parameter ['@'] _ _ true => fields.addEach shell.arguments
  | .parameter name fallback orEmpty quoted =>
    let found := shell.value? name
    let value :=
      match found, fallback with
      | some value, some word => if orEmpty && value.isEmpty then octets word else value
      | none, some word => octets word
      | some value, none => value
      | none, none => []
    if quoted then fields.add value else fields.addSplit value

def expand (shell : Shell) (parts : List Part) : List Bytes :=
  (parts.foldl shell.expandPart ⟨[], none⟩).toList

/-- The value that a word gives a variable. -/
def expandValue (shell : Shell) (parts : List Part) : Bytes :=
  [0x20].intercalate (shell.expand parts)

/-- Gives variables the values of words, one after another. -/
def assignAll (shell : Shell) (assignments : List (List Char × List Part)) : Shell :=
  assignments.foldl
    (fun shell (name, value) =>
      { shell with
        environ := shell.environ.set (octets name) (shell.expandValue value) })
    shell

end Shell

/-- Reads a word as the assignment of a variable. -/
def assignment? (parts : List Part) : Option (List Char × List Part) :=
  let start := parts.takeWhile fun part =>
    match part with
    | .text _ quoted => !quoted
    | _ => false
  let text := start.flatMap fun part =>
    match part with
    | .text value _ => value
    | _ => []
  let name := text.takeWhile isNameCharacter
  match name, text.drop name.length with
  | first :: _, '=' :: value =>
    if isNameStart first then
      some (name, .text value false :: parts.drop start.length)
    else none
  | _, _ => none

/-- The octets that `echo` writes for an argument, and whether it stops there. -/
def echoEscapes : List Char → List Char × Bool
  | [] => ([], false)
  | '\\' :: 'c' :: _ => ([], true)
  | '\\' :: other :: rest =>
    let (tail, stopped) := echoEscapes rest
    let shown :=
      match other with
      | 'a' => ['\x07']
      | 'b' => ['\x08']
      | 'f' => ['\x0c']
      | 'n' => ['\n']
      | 'r' => ['\r']
      | 't' => ['\t']
      | 'v' => ['\x0b']
      | '\\' => ['\\']
      | _ => ['\\', other]
    (shown ++ tail, stopped)
  | character :: rest =>
    let (tail, stopped) := echoEscapes rest
    (character :: tail, stopped)

/-- What `echo` writes. -/
def echoed (arguments : List Bytes) : Bytes :=
  let (quiet, shown) :=
    match arguments with
    | first :: rest => if first = Utf8.encode "-n" then (true, rest) else (false, arguments)
    | [] => (false, [])
  let (text, stopped) := echoEscapes (characters ([0x20].intercalate shown))
  octets text ++ (if quiet || stopped then [] else [0x0A])

/-- Whether a condition of `test` holds, or `none` for one that is not understood. -/
def condition? (shell : Shell) (words : List Bytes) : Option Bool :=
  let node := fun path => (shell.host.volume.find? shell.place path).map Prod.snd
  match words.map (fun word => (String.ofList (characters word), word)) with
  | [] => some false
  | [(_, word)] => some !word.isEmpty
  | [("-n", _), (_, word)] => some !word.isEmpty
  | [("-z", _), (_, word)] => some word.isEmpty
  | [("-e", _), (_, path)] => some (node path).isSome
  | [("-f", _), (_, path)] =>
    some (match node path with
      | some (.file _ _) => true
      | _ => false)
  | [("-d", _), (_, path)] => some ((node path).any Node.isDirectory)
  | [("-r", _), (_, path)] | [("-w", _), (_, path)] => some (node path).isSome
  | [("-s", _), (_, path)] =>
    some (match node path with
      | some (.file content _) => !content.isEmpty
      | _ => false)
  | [("-x", _), (_, path)] => some ((node path).any fun node => node.mode &&& 0o111 != 0)
  | [("!", _), (_, word)] => some word.isEmpty
  | [(_, left), ("=", _), (_, right)] => some (left == right)
  | [(_, left), ("!=", _), (_, right)] => some (left != right)
  | _ => none

/-- The number of a signal as `kill` takes it. -/
def signal? (text : String) : Option Nat :=
  match text.toNat? with
  | some number => some number
  | none =>
    (WaitStatus.signalNames.findIdx? fun name =>
      name == text || name == "SIG" ++ text).map (· + 1)

/-- The signal and the process of a `kill`. -/
def killTarget? (arguments : List Bytes) : Option (Nat × Bytes) :=
  match arguments.map characters, arguments with
  | ['-', 's'] :: name :: _, [_, _, process] =>
    (signal? (String.ofList name)).map (·, process)
  | ('-' :: name) :: _, [_, process] => (signal? (String.ofList name)).map (·, process)
  | _, [process] => some (15, process)
  | _, _ => none

/-- The signals that do not end a process that has not asked for them: those about
children, going on, urgent data and the size of the window. -/
def harmlessSignals : List Nat := [17, 18, 23, 28]

/-- The path of a place. -/
def pathOf (place : Place) : Path :=
  if place.isEmpty then [Path.slash] else place.flatMap (Path.slash :: ·)

/-- The end of a shell with an exit code. -/
def leave (shell : Shell) (code : Nat) : Outcome :=
  .ended (.exited (UInt8.ofNat code)) shell

/-- The text of one pass over a format, and the values that are left.  A directive
without a value stands for nothing. -/
def formatOnce : List Char → List (List Char) → List Char × List (List Char)
  | [], values => ([], values)
  | '%' :: '%' :: rest, values =>
    let (text, left) := formatOnce rest values
    ('%' :: text, left)
  | '%' :: directive :: rest, values =>
    let (text, left) := formatOnce rest values.tail
    let value := values.headD (if directive = 's' then [] else ['0'])
    (value ++ text, left)
  | character :: rest, values =>
    let (text, left) := formatOnce rest values
    (character :: text, left)

/-- What `printf` writes.  The format is used again while values are left and it takes
any. -/
def formatted (limit : Nat) (format : List Char) (values : List (List Char)) : List Char :=
  let (text, left) := formatOnce (echoEscapes format).1 values
  match limit with
  | 0 => text
  | limit + 1 =>
    if left.isEmpty || left.length = values.length then text
    else text ++ formatted limit format left

/-- Prints a file, or says that it cannot be read. -/
def concatenate (shell : Shell) (path : Bytes) : Shell :=
  match shell.host.volume.read shell.place path with
  | .ok content => shell.print content
  | .error error =>
    let reason := (error.message.splitOn " (").headD ""
    { shell with
      host := shell.host.printError
        (Utf8.encode ("cat: " ++ Utf8.lossy path ++ ": " ++ reason ++ "\n"))
      status := 1 }

/-- Runs a built-in command, or gives `none` for a name that is not one. -/
def builtin? (shell : Shell) (name : String) (arguments : List Bytes) :
    Option Outcome :=
  let done := fun status => some (Outcome.goOn (shell.withStatus status))
  let number? := fun word : Bytes => (String.ofList (characters word)).toNat?
  match name with
  | ":" | "true" => done 0
  | "false" => done 1
  | "echo" => some (.goOn ((shell.print (echoed arguments)).withStatus 0))
  | "pwd" =>
    some (.goOn ((shell.print (pathOf shell.place ++ [0x0A])).withStatus 0))
  | "exit" =>
    match arguments with
    | [] => some (leave shell shell.status)
    | word :: _ =>
      match number? word with
      | some code => some (leave shell code)
      | none =>
        some (leave
          (shell.complain ("exit: Illegal number: " ++ Utf8.lossy word)) 2)
  | "kill" =>
    match killTarget? arguments with
    | some (signal, process) =>
      if number? process = some (shell.host.process + 1) then
        if signal = 0 || harmlessSignals.contains signal then done 0
        else some (.ended (.killed (UInt8.ofNat signal)) shell)
      else done 1
    | none => done 2
  | "read" =>
    let line := shell.input.takeWhile (· != 0x0A)
    let values := if arguments.isEmpty then [] else line :: arguments.tail.map fun _ => []
    let assigned := (arguments.zip values).foldl
      (fun assigned (name, value) => assigned.set name value) shell.environ
    let status := if line.length < shell.input.length then 0 else 1
    some (.goOn { shell with environ := assigned, status := status })
  | "printf" =>
    match arguments with
    | [] => done 2
    | format :: values =>
      let text := formatted values.length (characters format) (values.map characters)
      some (.goOn ((shell.print (octets text)).withStatus 0))
  | "cat" =>
    if arguments.isEmpty then
      some (.goOn ((shell.print shell.input).withStatus 0))
    else some (.goOn (arguments.foldl concatenate (shell.withStatus 0)))
  | "test" =>
    match condition? shell arguments with
    | some holds => done (if holds then 0 else 1)
    | none => done 2
  | "[" =>
    match condition? shell arguments.dropLast with
    | some holds => done (if holds then 0 else 1)
    | none => done 2
  | "shift" =>
    some (.goOn { shell with arguments := shell.arguments.drop 1, status := 0 })
  | "unset" =>
    let kept := shell.environ.entries.filter fun entry => !arguments.contains entry.1
    some (.goOn { shell with environ := ⟨kept⟩, status := 0 })
  | "export" =>
    let assigned := arguments.foldl
      (fun assigned word =>
        let name := word.takeWhile (· != 0x3D)
        if name.length < word.length then
          assigned.set name (word.drop (name.length + 1))
        else assigned)
      shell.environ
    some (.goOn { shell with environ := assigned, status := 0 })
  | "cd" =>
    match arguments with
    | path :: _ =>
      match shell.host.volume.enter shell.place path with
      | .ok place => some (.goOn { shell with place := place, status := 0 })
      | .error _ =>
        some (.goOn
          ((shell.complain ("cd: can't cd to " ++ Utf8.lossy path)).withStatus 2))
    | [] => done 0
  | _ => none

/-- Where a stream of a command goes. -/
inductive Drain where
  | output
  | errors
  | file (place : Place)
  deriving DecidableEq, Repr

def Drain.write (drain : Drain) (octets : Bytes) (host : Host) : Host :=
  match drain with
  | output => host.print octets
  | errors => host.printError octets
  | file place => { host with volume := host.volume.append place octets }

/-- Where the standard output and the standard error of a command go. -/
structure Drains where
  output : Drain
  errors : Drain
  deriving DecidableEq, Repr

namespace Drains

/-- Nothing is redirected. -/
def usual : Drains := ⟨.output, .errors⟩

/-- Sends a stream to a drain. -/
def set (drains : Drains) (stream : Nat) (drain : Drain) : Drains :=
  match stream with
  | 1 => { drains with output := drain }
  | 2 => { drains with errors := drain }
  | _ => drains

/-- The drain of a stream, if it has one. -/
def get? (drains : Drains) (stream : Nat) : Option Drain :=
  match stream with
  | 1 => some drains.output
  | 2 => some drains.errors
  | _ => none

end Drains

/-- Redirects a stream, or says why that is not possible. -/
def redirect (redirection : Redirection) (shell : Shell) (drains : Drains) :
    Except String (Shell × Drains) :=
  let target := shell.expandValue redirection.target
  let toFile := fun keep =>
    match shell.host.volume.openToWrite shell.place target keep 0o644 with
    | .ok (place, volume) =>
      .ok ({ shell with host := { shell.host with volume := volume } },
        drains.set redirection.stream (.file place))
    | .error .isDirectory =>
      .error ("cannot create " ++ Utf8.lossy target ++ ": Is a directory")
    | .error _ => .error ("cannot create " ++ Utf8.lossy target ++ ": Directory nonexistent")
  match redirection.way with
  | .output => toFile false
  | .append => toFile true
  | .input =>
    match shell.host.volume.read shell.place target with
    | .ok content => .ok ({ shell with input := content }, drains)
    | .error _ => .error ("cannot open " ++ Utf8.lossy target ++ ": No such file")
  | .duplicate =>
    match (String.ofList (characters target)).toNat?.bind drains.get? with
    | some drain => .ok (shell, drains.set redirection.stream drain)
    | none => .error (Utf8.lossy target ++ ": Bad file descriptor")

/-- Redirects streams one after another. -/
def redirectAll (redirections : List Redirection) (shell : Shell) :
    Except String (Shell × Drains) :=
  redirections.foldlM (fun (shell, drains) redirection => redirect redirection shell drains)
    (shell, Drains.usual)

namespace Outcome

def shell : Outcome → Shell
  | goOn shell => shell
  | ended _ shell => shell

/-- An outcome with another shell. -/
def withShell (outcome : Outcome) (shell : Shell) : Outcome :=
  match outcome with
  | goOn _ => .goOn shell
  | ended status _ => .ended status shell

end Outcome

/-- Runs a command whose streams are redirected. -/
def withRedirections (redirections : List Redirection) (run : Shell → Outcome)
    (shell : Shell) : Outcome :=
  match redirectAll redirections shell with
  | .error reason => .goOn ((shell.complain reason).withStatus 2)
  | .ok (opened, drains) =>
    let quiet := { opened with host := { opened.host with output := [], errors := [] } }
    let outcome := run quiet
    let written := outcome.shell.host
    let restored :=
      { written with output := shell.host.output, errors := shell.host.errors }
    outcome.withShell
      { outcome.shell with
        input := shell.input
        host := drains.errors.write written.errors
          (drains.output.write written.output restored) }

/-- The commands whose assignments outlast them. -/
def specialCommands : List String := [".", ":", "exit", "export", "shift", "unset"]

/-- Runs one command after another; `fuel` bounds how deep scripts read scripts. -/
def runSteps (fuel : Nat) (shell : Shell) : List Step → Outcome
  | [] => .goOn shell
  | step :: rest =>
    let skipped :=
      match step.after with
      | some wanted => (shell.status == 0) != wanted
      | none => false
    if skipped then runSteps fuel shell rest
    else
      let assignments := step.words.map assignment? |>.takeWhile Option.isSome |>.filterMap id
      let run : Shell → Outcome := fun shell =>
        let assigned := shell.assignAll assignments
        match (step.words.drop assignments.length).flatMap shell.expand with
        | [] => .goOn (assigned.withStatus 0)
        | name :: arguments =>
          let command := String.ofList (characters name)
          let outcome :=
            if command = "." then
              match fuel, arguments with
              | _, [] => .goOn (assigned.withStatus 0)
              | 0, _ => leave assigned 2
              | fuel + 1, path :: _ =>
                match assigned.host.volume.read assigned.place path with
                | .error _ =>
                  leave
                    (assigned.complain
                      (".: cannot open " ++ Utf8.lossy path ++ ": No such file")) 2
                | .ok script =>
                  match tokens? (characters script) with
                  | some tokens => runSteps fuel (assigned.withStatus 0) (steps tokens)
                  | none =>
                    leave (assigned.complain "Syntax error: Unterminated quoted string") 2
            else match builtin? assigned command arguments with
              | some outcome => outcome
              | none =>
                .goOn ((assigned.complain (Utf8.lossy name ++ ": not found")).withStatus 127)
          if assignments.isEmpty || specialCommands.contains command then outcome
          else outcome.withShell { outcome.shell with environ := shell.environ }
      match withRedirections step.redirections run shell with
      | .goOn shell => runSteps fuel shell rest
      | .ended status shell => .ended status shell
termination_by steps => (fuel, steps.length)

/-- How deep scripts may read scripts. -/
def nestingLimit : Nat := 100

def runScript (shell : Shell) (script : Bytes) : WaitStatus × Host :=
  match tokens? (characters script) with
  | none =>
    (.exited 2,
      (shell.complain "Syntax error: Unterminated quoted string").host)
  | some tokens =>
    match runSteps nestingLimit shell (steps tokens) with
    | .goOn shell => (.exited (UInt8.ofNat shell.status), shell.host)
    | .ended status shell => (status, shell.host)

/-- What a shell is asked to run. -/
inductive Task where
  /-- A script given as an argument, and the arguments behind it. -/
  | text (script : Bytes) (operands : List Bytes)
  /-- A file, if there is one, and its arguments. -/
  | file (operands : List Bytes)

/-- Reads the options of a shell.  An option with a `c` says that a script comes as an
argument. -/
def task (fromArgument : Bool) : List Bytes → Task
  | [] => .file []
  | word :: rest =>
    match characters word with
    | ['-', '-'] => finish rest
    | '-' :: letter :: letters => task (fromArgument || (letter :: letters).contains 'c') rest
    | _ => finish (word :: rest)
where
  /-- What is asked for behind the options. -/
  finish (operands : List Bytes) : Task :=
    if fromArgument then
      match operands with
      | script :: more => .text script more
      | [] => .file []
    else .file operands

def shell : Machine := fun _ command host =>
  let place :=
    match host.volume.enter host.place command.directory with
    | .ok place => place
    | .error _ => host.place
  let name := command.arguments.head?.getD command.program
  let shell : Shell := ⟨host, place, name, [], command.environ, 0, []⟩
  match task false command.arguments.tail with
  | .text script operands =>
    runScript
      { shell with name := operands.head?.getD name, arguments := operands.tail } script
  | .file [] => (.exited 0, host)
  | .file (path :: arguments) =>
    match host.volume.read place path with
    | .ok script => runScript { shell with name := path, arguments := arguments } script
    | .error _ =>
      (.exited 2,
        (shell.complain ("cannot open " ++ Utf8.lossy path ++ ": No such file")).host)

end ProfileShell.Posix
