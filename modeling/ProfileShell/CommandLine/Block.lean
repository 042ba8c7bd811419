import ProfileShell.CommandLine

/-!
# Command lines as they are typed

A block is one option of a command line together with its value.  A request says what a
command line should say.  There are many ways to type it, as the blocks may come in any
order; only the profiles among them keep theirs.
-/

namespace ProfileShell.CommandLine

/-- The argument behind which nothing is read as a flag. -/
def escape : Bytes := [Reader.dash, Reader.dash]

/-- One option with its value. -/
inductive Block where
  | config (path : Path)
  | shell (name : String)
  | profile (name : String)
  | command (text : String)
  | logFormat (name : String)
  | logSink (target : String)
  | interactive (choice : Bool)
  | login
  | orphan
  | generate
  | debug
  | version
  | changelog
  deriving DecidableEq, Repr

namespace Block

def flag : Block → Flag
  | config _ => .config
  | shell _ => .shell
  | profile _ => .profile
  | command _ => .command
  | logFormat _ => .logFormat
  | logSink _ => .logSink
  | interactive _ => .interactive
  | login => .login
  | orphan => .orphan
  | generate => .generate
  | debug => .debug
  | version => .version
  | changelog => .changelog

/-- The octets of the value of a block, or none if its flag has no value. -/
def octets : Block → Bytes
  | config path => path
  | shell text | profile text | command text | logFormat text | logSink text =>
    Utf8.encode text
  | interactive choice => Utf8.encode (if choice then "true" else "false")
  | login | orphan | generate | debug | version | changelog => []

def letterOctet (flag : Flag) : UInt8 := .ofNat flag.letter.toNat

/-- How a block is typed: a value is an argument of its own, unless it is optional. -/
def arguments (block : Block) : List Bytes :=
  match block.flag.arity with
  | .none => [[Reader.dash, letterOctet block.flag]]
  | .optional =>
    [Reader.dash :: letterOctet block.flag :: Reader.equalsSign :: block.octets]
  | .one => [[Reader.dash, letterOctet block.flag], block.octets]

/-- Whether a block can be typed: its value cannot be mistaken for a flag, and the path of
a configuration is not empty. -/
def IsTypable (block : Block) : Prop :=
  block ≠ .config [] ∧
    (block.octets = [Reader.dash] ∨ block.octets.head? ≠ some Reader.dash)

instance (block : Block) : Decidable block.IsTypable :=
  inferInstanceAs (Decidable (_ ∧ _))

def profile? : Block → Option String
  | profile name => some name
  | _ => none

/-- What a command line says with one block more. -/
def apply (line : CommandLine) : Block → CommandLine
  | config path => { line with config := some path }
  | shell name => { line with shell := name }
  | profile name => { line with profiles := line.profiles ++ [name] }
  | command text => { line with command := text }
  | logFormat name => { line with logFormat := some name }
  | logSink target => { line with logSink := some target }
  | interactive choice => { line with interactive := choice }
  | login => { line with login := true }
  | orphan => { line with orphan := true }
  | generate => { line with generate := true }
  | debug => { line with debug := true }
  | version => { line with version := true }
  | changelog => { line with changelog := true }

end Block

/-- What a command line should say.  An option may be left to its default. -/
structure Request where
  config : Option Path
  shell : Option String
  profiles : List String
  command : Option String
  logFormat : Option String
  logSink : Option String
  interactive : Option Bool
  login : Bool
  orphan : Bool
  generate : Bool
  debug : Bool
  version : Bool
  changelog : Bool
  arguments : List String
  deriving DecidableEq, Repr

namespace Request

/-- The command line that says what is requested, and defaults for the rest. -/
def line (request : Request) : CommandLine :=
  { config := request.config
    shell := request.shell.getD CommandLine.empty.shell
    profiles := request.profiles
    command := request.command.getD CommandLine.empty.command
    login := request.login
    interactive := request.interactive.getD CommandLine.empty.interactive
    orphan := request.orphan
    generate := request.generate
    logFormat := request.logFormat
    logSink := request.logSink
    debug := request.debug
    version := request.version
    changelog := request.changelog
    arguments := request.arguments }

/-- The block of a flag that is given at most once. -/
def block? (request : Request) : Flag → Option Block
  | .config => request.config.map .config
  | .shell => request.shell.map .shell
  | .command => request.command.map .command
  | .logFormat => request.logFormat.map .logFormat
  | .logSink => request.logSink.map .logSink
  | .interactive => request.interactive.map .interactive
  | .login => if request.login then some .login else none
  | .orphan => if request.orphan then some .orphan else none
  | .generate => if request.generate then some .generate else none
  | .debug => if request.debug then some .debug else none
  | .version => if request.version then some .version else none
  | .changelog => if request.changelog then some .changelog else none
  | .profile | .help => none

/-- The blocks of the flags that are given at most once. -/
def settings (request : Request) : List Block :=
  Flag.all.filterMap request.block?

/-- Whether blocks type a request: they are its blocks in any order, with the profiles
in the order of the request. -/
def IsTypedAs (request : Request) (blocks : List Block) : Prop :=
  blocks.Perm (request.settings ++ request.profiles.map .profile) ∧
    blocks.filterMap Block.profile? = request.profiles

instance (request : Request) (blocks : List Block) : Decidable (request.IsTypedAs blocks) :=
  inferInstanceAs (Decidable (_ ∧ _))

end Request

end ProfileShell.CommandLine
