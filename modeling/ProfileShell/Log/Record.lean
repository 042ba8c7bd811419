import ProfileShell.Json
import ProfileShell.Log.Format
import ProfileShell.Text.Listing
import ProfileShell.Text.Paint
import ProfileShell.Text.Terminal

/-!
# Log records

A record has a level, a message and fields.  `Record.line` is its line in each
format, and `Record.octets` is what reaches the sink: the line without anything that
would steer a terminal.
-/

namespace ProfileShell.Log

/-- How much a record matters. -/
inductive Level where
  | debug
  | info
  | warn
  | error
  deriving DecidableEq, Repr

def Level.name : Level → String
  | debug => "debug"
  | info => "info"
  | warn => "warn"
  | error => "error"

/-- The name of a level in capitals, as wide as the widest. -/
def Level.tag : Level → String
  | debug => "DEBUG"
  | info => " INFO"
  | warn => " WARN"
  | error => "ERROR"

def Level.paint : Level → Text.Paint
  | debug => .dimmed
  | info => .boldBlue
  | warn => .boldYellow
  | error => .boldRed

/-- One thing to report. -/
structure Record where
  level : Level
  message : String
  fields : List (String × String)
  deriving DecidableEq, Repr

namespace Record

/-- The width of the message column of standard lines. -/
def messageWidth : Nat := 24

def padRight (width : Nat) (text : String) : String :=
  text ++ String.ofList (List.replicate (width - text.length) ' ')

/-- The line for a reader, with `paint` for tags and keys. -/
def standardLine (record : Record) (paint : Text.Paint → String → String) : String :=
  paint record.level.paint record.level.tag ++ " " ++ padRight messageWidth record.message
    ++ String.join (record.fields.map fun (key, value) =>
      " " ++ paint .cyan key ++ "=" ++ value)

def asciiLine (record : Record) : String :=
  "level=" ++ record.level.name ++ " msg=" ++ Text.Quoted.quote record.message
    ++ String.join (record.fields.map fun (key, value) =>
      " " ++ key ++ "=" ++ Text.Quoted.quote value)

/-- Puts a field where its key belongs, in place of a field with the same key. -/
def insertField (key value : String) : List (String × String) → List (String × String)
  | [] => [(key, value)]
  | (other, current) :: rest =>
    if key < other then (key, value) :: (other, current) :: rest
    else if key = other then (key, value) :: rest
    else (other, current) :: insertField key value rest

/-- The fields in the order of their keys, with the last value of each key. -/
def sortedFields (fields : List (String × String)) : List (String × String) :=
  fields.foldl (fun sorted field => insertField field.1 field.2 sorted) []

def toJson (record : Record) : Json :=
  .object
    [ ("fields", .object ((sortedFields record.fields).map fun (key, value) =>
        (key, .text value))),
      ("level", .text record.level.name),
      ("message", .text record.message) ]

def line (format : Format) (coloured : Bool) (record : Record) : String :=
  match format with
  | .null => ""
  | .standard =>
    record.standardLine fun paint text => if coloured then paint.apply text else text
  | .ascii => record.asciiLine
  | .json => record.toJson.render

/-- What is written for a record. -/
def octets (format : Format) (coloured : Bool) (record : Record) : Bytes :=
  Text.Terminal.strip (Utf8.encode (record.line format coloured ++ "\n"))

end Record

end ProfileShell.Log
