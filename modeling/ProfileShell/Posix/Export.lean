import ProfileShell.Posix.Syntax

/-!
# Exports between double quotes

How a POSIX shell reads `export NAME="..."`.  Between double quotes a backslash quotes a
dollar sign, a backtick, a double quote, a backslash or the end of a line, and stands for
itself before anything else.  A dollar sign or a backtick that is not quoted starts an
expansion.  Every other octet stands for itself.
-/

namespace ProfileShell.Posix

/-- What an octet between double quotes means. -/
inductive Piece where
  /-- It stands for itself. -/
  | octet (value : UInt8)
  /-- It starts an expansion. -/
  | expansion (sign : UInt8)
  deriving DecidableEq, Repr

namespace DoubleQuotes

def quoteMark : UInt8 := 0x22

def backslash : UInt8 := 0x5C

def dollarSign : UInt8 := 0x24

def backtick : UInt8 := 0x60

def lineFeed : UInt8 := 0x0A

/-- Whether an octet starts an expansion. -/
def expands (octet : UInt8) : Bool :=
  octet == dollarSign || octet == backtick

/-- Whether a backslash takes the meaning of an octet away. -/
def isQuotable (octet : UInt8) : Bool :=
  expands octet || octet == quoteMark || octet == backslash

/-- Puts a piece ahead of what was read. -/
def behind (piece : Piece) : List Piece × Bytes → List Piece × Bytes
  | (pieces, rest) => (piece :: pieces, rest)

/-- Reads up to the closing quote: the pieces, and what follows the quote.  A quoted end
of a line joins two lines. -/
def read? : Bytes → Option (List Piece × Bytes)
  | [] => none
  | octet :: rest =>
    if octet = quoteMark then some ([], rest)
    else if octet = backslash then
      match rest with
      | [] => none
      | next :: more =>
        if isQuotable next then (read? more).map (behind (.octet next))
        else if next = lineFeed then read? more
        else (read? (next :: more)).map (behind (.octet backslash))
    else if expands octet then (read? rest).map (behind (.expansion octet))
    else (read? rest).map (behind (.octet octet))

end DoubleQuotes

/-- An exported variable and the pieces of its value. -/
structure Export where
  name : Bytes
  pieces : List Piece
  deriving DecidableEq, Repr

namespace Export

/-- The word that starts an export. -/
def keyword : Bytes := Utf8.encode "export "

def equalsSign : UInt8 := 0x3D

/-- Whether octets are the name of a variable. -/
def isName (octets : Bytes) : Bool :=
  match characters octets with
  | [] => false
  | first :: rest => isNameStart first && rest.all isNameCharacter

/-- Reads an export that is a line of its own, and yields what follows the line. -/
def read? (text : Bytes) : Option (Export × Bytes) :=
  if keyword.isPrefixOf text then
    let operand := text.drop keyword.length
    let name := operand.takeWhile (· != equalsSign)
    match operand.drop name.length with
    | sign :: opening :: inside =>
      if isName name ∧ sign = equalsSign ∧ opening = DoubleQuotes.quoteMark then
        match DoubleQuotes.read? inside with
        | some (pieces, ending :: tail) =>
          if ending = DoubleQuotes.lineFeed then some (⟨name, pieces⟩, tail) else none
        | _ => none
      else none
    | _ => none
  else none

end Export

end ProfileShell.Posix
