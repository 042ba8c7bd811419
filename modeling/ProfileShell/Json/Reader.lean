import ProfileShell.Json
import ProfileShell.Text.Pattern

/-!
# Reading JSON

What a JSON text says, for any text of the format and not only for those that are written
here: with white space between the signs, with numbers and truth values, and with every
form of escape in strings, of which two together may stand for one character.
-/

namespace ProfileShell.Json

/-- What a JSON text stands for.  A number is kept as it is spelled, and an object keeps the
order and the repetitions of its members. -/
inductive Value where
  | null
  | boolean (value : Bool)
  | number (spelling : String)
  | text (value : String)
  | list (items : List Value)
  | object (members : List (String × Value))

/-- What the text of a value stands for. -/
def value : Json → Value
  | .null => .null
  | .text value => .text value
  | .list items => .list (items.map value)
  | .object fields => .object (fields.map fun field => (field.1, value field.2))
decreasing_by
  · next listed =>
      have smaller := List.sizeOf_lt_of_mem listed
      simp only [Json.list.sizeOf_spec]
      omega
  · next listed =>
      have smaller := List.sizeOf_lt_of_mem listed
      simp only [Json.object.sizeOf_spec]
      rw [Prod.mk.sizeOf_spec] at smaller
      omega

/-! ## Strings -/

/-- A part of a string: a character, or a code unit of UTF-16 that is written as a number. -/
inductive Piece where
  | character (value : Char)
  | unit (value : Nat)
  deriving DecidableEq, Repr

def digitValue? (digit : Char) : Option Nat :=
  "0123456789abcdef".toList.idxOf? digit.toLower

/-- The number that hexadecimal digits spell. -/
def codeUnit? (digits : List Char) : Option Nat :=
  (digits.mapM digitValue?).map fun values => values.foldl (16 * · + ·) 0

/-- The character of an escape of one sign. -/
def shortEscape? : Char → Option Char
  | '"' => some '"'
  | '\\' => some '\\'
  | '/' => some '/'
  | 'b' => some '\x08'
  | 'f' => some '\x0c'
  | 'n' => some '\n'
  | 'r' => some '\r'
  | 't' => some '\t'
  | _ => none

/-- Puts a piece ahead of what was read. -/
def behind (piece : Piece) : List Piece × List Char → List Piece × List Char
  | (pieces, rest) => (piece :: pieces, rest)

/-- Reads the pieces of a string up to its closing quote, and yields what follows it. -/
def pieces? : List Char → Option (List Piece × List Char)
  | [] => none
  | character :: rest =>
    if character = '"' then some ([], rest)
    else if character = '\\' then
      match rest with
      | 'u' :: first :: second :: third :: fourth :: more =>
        (codeUnit? [first, second, third, fourth]).bind fun unit =>
          (pieces? more).map (behind (.unit unit))
      | sign :: more =>
        (shortEscape? sign).bind fun escaped => (pieces? more).map (behind (.character escaped))
      | [] => none
    else if character.toNat < 0x20 then none
    else (pieces? rest).map (behind (.character character))

/-- The characters of pieces.  A code unit that is none itself stands for one together with
the next one. -/
def characters? : List Piece → Option (List Char)
  | [] => some []
  | .character character :: rest => (characters? rest).map (character :: ·)
  | .unit high :: rest =>
    if high < 0xD800 ∨ 0xE000 ≤ high then (characters? rest).map (Char.ofNat high :: ·)
    else
      match rest with
      | .unit low :: others =>
        if high < 0xDC00 ∧ 0xDC00 ≤ low ∧ low < 0xE000 then
          (characters? others).map
            (Char.ofNat (0x10000 + (high - 0xD800) * 0x400 + (low - 0xDC00)) :: ·)
        else none
      | _ => none

/-- Reads a string behind its opening quote, and yields what follows it. -/
def string? (characters : List Char) : Option (String × List Char) :=
  (pieces? characters).bind fun (pieces, rest) =>
    (characters? pieces).map fun content => (String.ofList content, rest)

/-! ## Numbers -/

def numberPattern : Text.Pattern :=
  let digit := Text.Pattern.one Char.isDigit
  .sequence
    [ .maybe (.word "-"),
      .either (.word "0") (.seq (.one fun sign => sign.isDigit && sign != '0') (.many digit)),
      .maybe (.seq (.word ".") (.oneOrMore digit)),
      .maybe (.sequence
        [ .either (.word "e") (.word "E"), .maybe (.either (.word "+") (.word "-")),
          .oneOrMore digit ]) ]

/-- The signs that numbers are spelled with. -/
def isNumberSign (sign : Char) : Bool :=
  sign.isDigit || sign == '-' || sign == '+' || sign == '.' || sign == 'e' || sign == 'E'

/-! ## Values -/

def isSpace (character : Char) : Bool :=
  character == ' ' || character == '\t' || character == '\n' || character == '\r'

def dropSpace (characters : List Char) : List Char :=
  characters.dropWhile isSpace

/-- Reads at least one item up to the mark that ends them all, with a comma between every
two, and yields what follows the mark. -/
def sequence? {α : Type} (closing : Char) (item? : List Char → Option (α × List Char)) :
    Nat → List Char → Option (List α × List Char)
  | 0, _ => none
  | fuel + 1, characters =>
    (item? characters).bind fun (item, rest) =>
      match dropSpace rest with
      | [] => none
      | mark :: tail =>
        if mark = closing then some ([item], tail)
        else if mark = ',' then
          (sequence? closing item? fuel tail).map fun (items, last) => (item :: items, last)
        else none

/-- Reads items, of which there may be none. -/
def collection? {α : Type} (closing : Char) (item? : List Char → Option (α × List Char))
    (fuel : Nat) (characters : List Char) : Option (List α × List Char) :=
  match dropSpace characters with
  | [] => none
  | mark :: tail =>
    if mark = closing then some ([], tail) else sequence? closing item? fuel characters

/-- Reads a value behind a colon. -/
def assigned? (value? : List Char → Option (Value × List Char)) (characters : List Char) :
    Option (Value × List Char) :=
  match dropSpace characters with
  | ':' :: rest => value? rest
  | _ => none

/-- Reads a name and its value. -/
def member? (value? : List Char → Option (Value × List Char)) (characters : List Char) :
    Option ((String × Value) × List Char) :=
  match dropSpace characters with
  | '"' :: rest =>
    (string? rest).bind fun (name, named) =>
      (assigned? value? named).map fun (content, tail) => ((name, content), tail)
  | _ => none

/-- Reads a value, and yields what follows it. -/
def read? : Nat → List Char → Option (Value × List Char)
  | 0, _ => none
  | fuel + 1, characters =>
    match dropSpace characters with
    | 'n' :: 'u' :: 'l' :: 'l' :: rest => some (.null, rest)
    | 't' :: 'r' :: 'u' :: 'e' :: rest => some (.boolean true, rest)
    | 'f' :: 'a' :: 'l' :: 's' :: 'e' :: rest => some (.boolean false, rest)
    | '"' :: rest => (string? rest).map fun (content, tail) => (.text content, tail)
    | '[' :: rest =>
      (collection? ']' (read? fuel) fuel rest).map fun (items, tail) => (.list items, tail)
    | '\x7b' :: rest =>
      (collection? '\x7d' (member? (read? fuel)) fuel rest).map fun (members, tail) =>
        (.object members, tail)
    | other =>
      let spelling := other.takeWhile isNumberSign
      if numberPattern.accepts spelling then
        some (.number (String.ofList spelling), other.dropWhile isNumberSign)
      else none

def parse? (source : String) : Option Value :=
  (read? (source.length + 1) source.toList).bind fun (content, rest) =>
    if (dropSpace rest).isEmpty then some content else none

end ProfileShell.Json
