import ProfileShell.Text.Unprintable
import ProfileShell.Text.Utf8

/-!
# Literals

How a message shows a piece of text or a path so that its bounds and its hidden
characters can be seen: between double quotes, with the usual short escapes and
with code points in hexadecimal for everything unprintable.
-/

namespace ProfileShell.Text

def hexDigits (value : Nat) : List Char :=
  Nat.toDigits 16 value

/-- One character inside a literal. -/
def spell (character : Char) : List Char :=
  if character = '\x00' then ['\\', '0']
  else if character = '\t' then ['\\', 't']
  else if character = '\n' then ['\\', 'n']
  else if character = '\r' then ['\\', 'r']
  else if character = '"' || character = '\\' then ['\\', character]
  else if isUnprintable character then
    ['\\', 'u', '\x7b'] ++ hexDigits character.toNat ++ ['\x7d']
  else [character]

def literal (text : String) : String :=
  String.ofList (['"'] ++ text.toList.flatMap spell ++ ['"'])

/-- The octets of an ill-formed piece, two upper-case hexadecimal digits each. -/
def spellOctet (octet : UInt8) : List Char :=
  let digit := fun value => (Nat.digitChar value).toUpper
  ['\\', 'x', digit (octet.toNat / 16), digit (octet.toNat % 16)]

/-- The octets of a byte string split into characters and the octets of
ill-formed pieces.  `opened` holds the octets of the character being read. -/
def octetPieces (opened : Bytes) (pending : Option Utf8.Pending) :
    Bytes → List (Sum Char Bytes)
  | [] => [.inr opened]
  | octet :: rest =>
    match Utf8.advance pending octet with
    | ([], next) => octetPieces (opened ++ [octet]) next rest
    | ([some character], next) => .inl character :: octetPieces [] next rest
    | ([_, some character], next) =>
      .inr opened :: .inl character :: octetPieces [] next rest
    | (_, none) => .inr (opened ++ [octet]) :: octetPieces [] none rest
    | (_, some next) => .inr opened :: octetPieces [octet] (some next) rest

/-- A byte string as a literal: its text, with each octet of an ill-formed piece
in hexadecimal. -/
def byteLiteral (bytes : Bytes) : String :=
  String.ofList (['"'] ++ (octetPieces [] none bytes).flatMap
    (Sum.elim spell (·.flatMap spellOctet)) ++ ['"'])

end ProfileShell.Text
