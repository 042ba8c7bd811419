/-!
# YAML source text

A YAML stream is read as characters with their positions.  Before anything else
is looked at, every way to end a line but the two Unicode separators becomes a
line feed, and a stream with a character that YAML forbids is refused as a
whole.
-/

namespace ProfileShell.Yaml

/-- A position: line and column, both counted from zero. -/
structure Mark where
  line : Nat
  column : Nat
  deriving DecidableEq, Repr

def Mark.origin : Mark := ⟨0, 0⟩

/-- A line break in a prepared source. -/
def isBreak (character : Char) : Bool :=
  character == '\n' || character == '\u2028' || character == '\u2029'

/-- A space or a tab. -/
def isGap (character : Char) : Bool :=
  character == ' ' || character == '\t'

def Mark.after (mark : Mark) (character : Char) : Mark :=
  if isBreak character then ⟨mark.line + 1, 0⟩ else ⟨mark.line, mark.column + 1⟩

/-- What is left of a source, and the position of its first character. -/
structure Cursor where
  rest : List Char
  mark : Mark
  deriving DecidableEq, Repr

namespace Cursor

def skip (cursor : Cursor) : Cursor :=
  match cursor.rest with
  | [] => cursor
  | character :: rest => ⟨rest, cursor.mark.after character⟩

/-- The cursor after the next few characters. -/
def skipMany : Nat → Cursor → Cursor
  | 0, cursor => cursor
  | more + 1, cursor => skipMany more cursor.skip

/-- The cursor at the first character that fails a test. -/
def skipWhile (test : Char → Bool) (cursor : Cursor) : Cursor :=
  go cursor.rest cursor.mark
where
  go : List Char → Mark → Cursor
    | [], mark => ⟨[], mark⟩
    | character :: rest, mark =>
      if test character then go rest (mark.after character)
      else ⟨character :: rest, mark⟩

end Cursor

/-- Whether a line, or all of the source, ends here. -/
def atLineEnd : List Char → Bool
  | [] => true
  | character :: _ => isBreak character

/-- Whether a word ends here: at a gap, a line break or the end of the source. -/
def atWordEnd : List Char → Bool
  | [] => true
  | character :: _ => isGap character || isBreak character

/-- Whether three dashes or three dots stand here as a word of their own.  At the
start of a line they separate documents. -/
def atDocumentMarker : List Char → Bool
  | '-' :: '-' :: '-' :: rest => atWordEnd rest
  | '.' :: '.' :: '.' :: rest => atWordEnd rest
  | _ => false

/-- The characters that a YAML stream may hold. -/
def isAllowed (character : Char) : Bool :=
  let code := character.toNat
  code == 0x09 || code == 0x0A || code == 0x0D || (0x20 ≤ code && code ≤ 0x7E)
    || code == 0x85 || (0xA0 ≤ code && code ≤ 0xD7FF)
    || (0xE000 ≤ code && code ≤ 0xFFFD) || 0x10000 ≤ code

/-- Every carriage return, line feed, pair of the two and next-line character as
one line feed. -/
def normalizeBreaks : List Char → List Char
  | [] => []
  | '\r' :: '\n' :: rest => '\n' :: normalizeBreaks rest
  | character :: rest =>
    (if character == '\r' || character == '\u0085' then '\n' else character)
      :: normalizeBreaks rest

/-- The prepared source of a text. -/
def prepare? (text : String) : Option (List Char) :=
  if text.toList.all isAllowed then some (normalizeBreaks text.toList) else none

end ProfileShell.Yaml
