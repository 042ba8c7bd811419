import ProfileShell.Text.Blank

/-!
# Log sinks

Where log records go, as written on the command line: `-` is the standard output
and `+` the standard error; anything else is a path, and arrows before it say
whether the file starts afresh (at most one arrow) or grows (two arrows).
-/

namespace ProfileShell.Log

/-- Where log records go. -/
inductive Sink where
  | standardOutput
  | standardError
  /-- A file, which is emptied first unless `append` is set. -/
  | file (path : String) (append : Bool)
  deriving DecidableEq, Repr

namespace Sink

/-- The sink without an instruction. -/
def byDefault : Sink := .standardError

/-- What is left after at most `limit` arrows and the blanks after each of them,
and the number of those arrows. -/
def dropArrows : Nat → List Char → List Char × Nat
  | 0, characters => (characters, 0)
  | limit + 1, '>' :: rest =>
    let (left, count) := dropArrows limit (Text.dropBlanks rest)
    (left, count + 1)
  | _ + 1, characters => (characters, 0)

/-- The sink that a text names, or `none` where no path is left. -/
def ofText? (text : String) : Option Sink :=
  let (rest, arrows) := dropArrows 2 (Text.dropBlanks text.toList)
  match Text.dropTrailingBlanks rest with
  | [] => none
  | ['-'] => some .standardOutput
  | ['+'] => some .standardError
  | path => some (.file (String.ofList path) (arrows == 2))

/-- What is said about a text without a path. -/
def emptyPathMessage : String := "log path is empty"

end Sink

end ProfileShell.Log
