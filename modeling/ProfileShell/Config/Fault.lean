import ProfileShell.Config.Number
import ProfileShell.Text.Literal
import ProfileShell.Yaml.Node

/-!
# What can be wrong with the data of a configuration file

A document that is well-formed YAML may still not fit the form of a
configuration.  The fault says what was found and what was expected, and, where
that is known, under which path of keys and at which position.
-/

namespace ProfileShell.Config

/-- What a node turned out to be. -/
inductive Found where
  | null
  | boolean (value : Bool)
  | integer (value : Int)
  /-- An integer that needs more than 64 bits. -/
  | wideInteger (value : Int)
  | floating (digits : String)
  | text (value : String)
  | sequence
  | mapping
  | tagged
  deriving DecidableEq, Repr

/-- How a message names what was found. -/
def Found.describe : Found → String
  | .null => "unit value"
  | .boolean true => "boolean `true`"
  | .boolean false => "boolean `false`"
  | .integer value => "integer `" ++ toString value ++ "`"
  | .wideInteger value =>
    "integer `" ++ toString value ++ "` as " ++ (if value < 0 then "i128" else "u128")
  | .floating digits => "floating point `" ++ digits ++ "`"
  | .text value => "string " ++ Text.literal value
  | .sequence => "sequence"
  | .mapping => "map"
  | .tagged => "enum"

/-- A step on the way from the root of a document to a node. -/
inductive Step where
  | key (name : String)
  | index (position : Nat)
  /-- The value of a key that was not spelled out. -/
  | hidden
  deriving DecidableEq, Repr

/-- The way to a node, last step first. -/
abbrev KeyPath := List Step

/-- The text of a path; the root has none. -/
def KeyPath.text : KeyPath → String
  | [] => ""
  | .index position :: rest => KeyPath.text rest ++ "[" ++ toString position ++ "]"
  | .key name :: rest => joined rest ++ name
  | .hidden :: rest => joined rest ++ "?"
where
  joined (rest : KeyPath) : String :=
    if rest.isEmpty then "" else KeyPath.text rest ++ "."

/-- What is wrong with a node. -/
inductive Cause where
  | mismatch (found : Found) (expected : String)
  /-- The text of a node does not fit its tag. -/
  | misfit (value : String) (expected : String)
  | missingField (name : String)
  | duplicateField (name : String)
  | excessiveRepetition
  deriving DecidableEq, Repr

def Cause.message : Cause → String
  | .mismatch found expected =>
    "invalid type: " ++ found.describe ++ ", expected " ++ expected
  | .misfit value expected =>
    "invalid value: string " ++ Text.literal value ++ ", expected " ++ expected
  | .missingField name => "missing field `" ++ name ++ "`"
  | .duplicateField name => "duplicate field `" ++ name ++ "`"
  | .excessiveRepetition => "repetition limit exceeded"

/-- A cause and, where known, its place. -/
structure Fault where
  cause : Cause
  place : Option (KeyPath × Yaml.Mark)
  deriving DecidableEq, Repr

/-- A fault whose place is not known yet. -/
def Fault.unplaced (cause : Cause) : Fault := ⟨cause, none⟩

/-- The fault with a place, unless it has one already or concerns the document as
a whole. -/
def Fault.placedAt (fault : Fault) (path : KeyPath) (mark : Yaml.Mark) : Fault :=
  if fault.place.isSome ∨ fault.cause = .excessiveRepetition then fault
  else { fault with place := some (path, mark) }

/-- The message of a fault: the path, the cause and the position.  Neither the
root nor the start of the document is mentioned. -/
def Fault.message (fault : Fault) : String :=
  match fault.place with
  | none => fault.cause.message
  | some (path, mark) =>
    let leader := if path.isEmpty then "" else KeyPath.text path ++ ": "
    let trailer :=
      if mark = .origin then ""
      else " at line " ++ toString (mark.line + 1) ++ " column " ++ toString (mark.column + 1)
    leader ++ fault.cause.message ++ trailer

end ProfileShell.Config
