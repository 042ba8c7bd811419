import ProfileShell.Text.Blank
import ProfileShell.Text.Letters
import ProfileShell.Text.Pattern

/-!
# Log formats

The forms in which log records can be written.  Each format goes by one
canonical name and by a family of other names, which a regular pattern describes.
The families do not overlap, so it does not matter which is tried first.
-/

namespace ProfileShell.Log

open Text (Pattern)

/-- How log records are written. -/
inductive Format where
  /-- Nothing is written. -/
  | null
  /-- Lines for a reader, coloured on a terminal. -/
  | standard
  /-- Quoted values behind their keys. -/
  | ascii
  | json
  deriving DecidableEq, Repr

namespace Format

/-- All formats, in the order in which a message lists them. -/
def all : List Format := [.null, .standard, .ascii, .json]

/-- The canonical name. -/
def name : Format → String
  | null => "null"
  | standard => "standard"
  | ascii => "ascii"
  | json => "json"

/-- The format without an instruction to log. -/
def byDefault : Format := .null

/-- Anything up to the end of the line. -/
def restOfLine : Pattern :=
  .many (.one (· != '\n'))

/-- `text`, `txt`. -/
def textWord : Pattern :=
  .sequence [.word "t", .maybe (.word "e"), .word "xt"]

/-- The names of a format in lower case. -/
def names : Format → Pattern
  | null =>
    .choice
      [ .seq (.maybe (.sequence [.maybe (.word "/"), .word "dev", .maybe (.word "/")]))
          (.word "null"),
        .seq (.word "no") (.maybe (.word "ne")) ]
  | ascii =>
    .choice
      [ .word "ascii",
        .seq (.maybe (.seq (.word "plain") (.maybe (.word "-")))) textWord,
        .seq (.word "plain") (.maybe (.seq (.maybe (.word "-")) textWord)) ]
  | json => .choice [.seq (.word "js") (.maybe (.word "on")), .word "jq"]
  | standard =>
    .choice
      [ .word "standard", .word "default", .seq (.word "graphic") restOfLine, .word "ansi",
        .sequence [.maybe (.word "x"), .word "term", restOfLine],
        .sequence
          [ .maybe (.seq (.maybe (.word "u")) (.word "rx")), .word "vt",
            .maybe (.seq (.maybe (.word "-")) (.oneOrMore (.one Text.isDecimalDigit))) ] ]

/-- The form in which a name is compared: without the blanks around it and in
lower case. -/
def normalForm (name : String) : List Char :=
  (Text.lowerCase (Text.trim name)).toList

def ofName? (name : String) : Option Format :=
  all.find? fun format => format.names.accepts (normalForm name)

/-- What is said about a name that is no format's. -/
def unknownMessage (name : String) : String :=
  "unknown log handler '" ++ name ++ "' (expected one of: "
    ++ ", ".intercalate (all.map Format.name) ++ ")"

end Format

end ProfileShell.Log
