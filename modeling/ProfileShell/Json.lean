import ProfileShell.Text.Literal

/-!
# JSON text

The values that configurations and log records are written as, and their compact
one-line text.  An object keeps the order and the repetitions of its fields.
-/

namespace ProfileShell

/-- A JSON value of the kinds that are written here. -/
inductive Json where
  | null
  | text (value : String)
  | list (items : List Json)
  | object (fields : List (String × Json))

namespace Json

/-- One character inside a JSON string. -/
def escape (character : Char) : List Char :=
  if character = '"' || character = '\\' then ['\\', character]
  else if character = '\x08' then ['\\', 'b']
  else if character = '\t' then ['\\', 't']
  else if character = '\n' then ['\\', 'n']
  else if character = '\x0c' then ['\\', 'f']
  else if character = '\r' then ['\\', 'r']
  else if character.toNat < 0x20 then
    ['\\', 'u', '0', '0', Nat.digitChar (character.toNat / 16),
      Nat.digitChar (character.toNat % 16)]
  else [character]

def quote (value : String) : List Char :=
  '"' :: value.toList.flatMap escape ++ ['"']

mutual

/-- The characters of a value, without white space. -/
def write : Json → List Char
  | null => ['n', 'u', 'l', 'l']
  | text value => quote value
  | list items => '[' :: writeItems items ++ [']']
  | object fields => '\x7b' :: writeFields fields ++ ['\x7d']

def writeItems : List Json → List Char
  | [] => []
  | [item] => write item
  | item :: rest => write item ++ ',' :: writeItems rest

def writeFields : List (String × Json) → List Char
  | [] => []
  | [(name, value)] => quote name ++ ':' :: write value
  | (name, value) :: rest => quote name ++ ':' :: write value ++ ',' :: writeFields rest

end

def render (value : Json) : String :=
  String.ofList value.write

def texts (values : List String) : Json :=
  .list (values.map .text)

end Json

end ProfileShell
