import ProfileShell.Yaml.Folding

/-!
# Scalars

The three ways to write a scalar.  Each reader gets the source from its first
character on (for a quoted scalar the one after the quote, for a block scalar the
one after the indicator) and yields the text of the scalar and the cursor after
it, or nothing when the scalar is not well formed.
-/

namespace ProfileShell.Yaml

/-! ## Quoted scalars -/

/-- Where a reader of a quoted scalar stands. -/
inductive Quoting where
  | content
  /-- In a run of gaps and breaks. -/
  | fold (run : Fold)
  | escape
  /-- In a code point, with this many hexadecimal digits to come. -/
  | code (remaining : Nat) (value : Nat)
  deriving DecidableEq, Repr

def hexValue? (character : Char) : Option Nat :=
  let code := character.toNat
  if 0x30 ≤ code ∧ code ≤ 0x39 then some (code - 0x30)
  else if 0x41 ≤ code ∧ code ≤ 0x46 then some (code - 0x37)
  else if 0x61 ≤ code ∧ code ≤ 0x66 then some (code - 0x57)
  else none

/-- The character that a code point names, unless it is a surrogate or out of
range. -/
def character? (value : Nat) : Option Char :=
  if value ≤ 0x10FFFF ∧ ¬ (0xD800 ≤ value ∧ value ≤ 0xDFFF) then
    some (Char.ofNat value)
  else none

/-- What follows a backslash: a character of its own, or the number of
hexadecimal digits of a code point. -/
def escapeMeaning? : Char → Option (Sum Char Nat)
  | '0' => some (.inl '\x00')
  | 'a' => some (.inl '\x07')
  | 'b' => some (.inl '\x08')
  | 't' | '\t' => some (.inl '\t')
  | 'n' => some (.inl '\n')
  | 'v' => some (.inl '\x0b')
  | 'f' => some (.inl '\x0c')
  | 'r' => some (.inl '\r')
  | 'e' => some (.inl '\x1b')
  | ' ' => some (.inl ' ')
  | '"' => some (.inl '"')
  | '/' => some (.inl '/')
  | '\\' => some (.inl '\\')
  | 'N' => some (.inl '\u0085')
  | '_' => some (.inl '\u00a0')
  | 'L' => some (.inl '\u2028')
  | 'P' => some (.inl '\u2029')
  | 'x' => some (.inr 2)
  | 'u' => some (.inr 4)
  | 'U' => some (.inr 8)
  | _ => none

/-- The text read so far, last character first, once a pending run is over. -/
def Quoting.settle (quoting : Quoting) (reversed : List Char) : List Char :=
  match quoting with
  | .fold run => run.text.reverse ++ reversed
  | _ => reversed

/-- The rest of a double-quoted scalar.  A document marker at the start of a line
ends the document before the scalar and so is an error. -/
def doubleQuoted (quoting : Quoting) (reversed : List Char) (mark : Mark) :
    List Char → Option (List Char × Cursor)
  | [] => none
  | character :: rest =>
    let next := mark.after character
    match quoting with
    | .escape =>
      if isBreak character then
        doubleQuoted (.fold .escapedBreak) reversed next rest
      else match escapeMeaning? character with
        | none => none
        | some (.inl meaning) =>
          doubleQuoted .content (meaning :: reversed) next rest
        | some (.inr digits) => doubleQuoted (.code digits 0) reversed next rest
    | .code remaining value =>
      match hexValue? character with
      | none => none
      | some digit =>
        let value := value * 16 + digit
        if remaining ≤ 1 then
          match character? value with
          | none => none
          | some meaning => doubleQuoted .content (meaning :: reversed) next rest
        else doubleQuoted (.code (remaining - 1) value) reversed next rest
    | _ =>
      if isGap character || isBreak character then
        let fold := match quoting with
          | .fold run => run
          | _ => Fold.empty
        doubleQuoted (.fold (fold.add character)) reversed next rest
      else if mark.column = 0 ∧ atDocumentMarker (character :: rest) then none
      else
        let settled := quoting.settle reversed
        if character = '"' then some (settled.reverse, ⟨rest, next⟩)
        else if character = '\\' then doubleQuoted .escape settled next rest
        else doubleQuoted .content (character :: settled) next rest

/-- The rest of a single-quoted scalar, in which a doubled quote is a quote. -/
def singleQuoted (fold : Option Fold) (reversed : List Char) (mark : Mark) :
    List Char → Option (List Char × Cursor)
  | [] => none
  | character :: rest =>
    let next := mark.after character
    if isGap character || isBreak character then
      singleQuoted (some ((fold.getD .empty).add character)) reversed next rest
    else if mark.column = 0 ∧ atDocumentMarker (character :: rest) then none
    else
      let settled := (fold.elim [] Fold.text).reverse ++ reversed
      if character = '\'' then
        match rest with
        | '\'' :: more => singleQuoted none ('\'' :: settled) (next.after '\'') more
        | _ => some (settled.reverse, ⟨rest, next⟩)
      else singleQuoted none (character :: settled) next rest

/-! ## Plain scalars -/

/-- A flow indicator, which ends a plain scalar inside a flow collection. -/
def isFlowIndicator (character : Char) : Bool :=
  character == ',' || character == '[' || character == ']'
    || character == '\x7b' || character == '\x7d'

/-- Whether a colon inside a flow collection touches an indicator. -/
def colonTouchesIndicator : List Char → Bool
  | [] => false
  | character :: _ => isFlowIndicator character || character == '?'

/-- A plain scalar: its text, the cursor after it and after the gaps behind it,
and whether a line break is among those gaps. -/
structure Plain where
  text : List Char
  cursor : Cursor
  broken : Bool
  deriving DecidableEq, Repr

/-- The rest of a plain scalar.  In block context it ends at a line that is
indented by less than `indent`. -/
def plain (flow : Bool) (indent : Int) (fold : Option Fold)
    (reversed : List Char) (mark : Mark) : List Char → Option Plain
  | [] => some ⟨reversed.reverse, ⟨[], mark⟩, fold.elim false Fold.broken⟩
  | character :: rest =>
    let next := mark.after character
    let finish : Plain :=
      ⟨reversed.reverse, ⟨character :: rest, mark⟩, fold.elim false Fold.broken⟩
    if isGap character || isBreak character then
      let current := fold.getD .empty
      if current.broken ∧ (mark.column : Int) < indent ∧ character = '\t' then none
      else plain flow indent (some (current.add character)) reversed next rest
    else if fold.isSome ∧ ((¬ flow ∧ (mark.column : Int) < indent)
        ∨ (mark.column = 0 ∧ atDocumentMarker (character :: rest))
        ∨ character = '#') then
      some finish
    else if flow ∧ character = ':' ∧ colonTouchesIndicator rest then none
    else if (character = ':' ∧ atWordEnd rest) ∨ (flow ∧ isFlowIndicator character) then
      some finish
    else
      plain flow indent none
        (character :: ((fold.elim [] Fold.text).reverse ++ reversed)) next rest

/-! ## Block scalars -/

/-- What a block scalar does with the line breaks at its end. -/
inductive Chomping where
  | clip
  | strip
  | keep
  deriving DecidableEq, Repr

/-- The header of a block scalar: chomping and explicit indentation, in either
order, a comment, and the end of the line. -/
def blockHeader? (cursor : Cursor) : Option (Chomping × Option Nat × Cursor) :=
  let chomping? := fun (cursor : Cursor) => match cursor.rest with
    | '+' :: _ => (some Chomping.keep, cursor.skip)
    | '-' :: _ => (some Chomping.strip, cursor.skip)
    | _ => (none, cursor)
  let digit? := fun (cursor : Cursor) => match cursor.rest with
    | character :: _ =>
      if character.isDigit then (some (character.toNat - 0x30), cursor.skip)
      else (none, cursor)
    | [] => (none, cursor)
  let (before, cursor) := chomping? cursor
  let (increment, cursor) := digit? cursor
  let (chomping, cursor) := match before, increment with
    | none, some _ => chomping? cursor
    | _, _ => (before, cursor)
  let cursor := cursor.skipWhile isGap
  let cursor := match cursor.rest with
    | '#' :: _ => cursor.skipWhile (!isBreak ·)
    | _ => cursor
  if increment = some 0 ∨ ¬ atLineEnd cursor.rest then none
  else some (chomping.getD .clip, increment, cursor.skip)

/-- The state of a reader of a block scalar. -/
structure Block where
  /-- The indentation of the content, once it is known. -/
  indent : Option Nat
  /-- The widest indentation seen while it is not. -/
  widest : Nat
  /-- The break that ended the line before. -/
  leading : List Char
  /-- The breaks of the empty lines since then. -/
  trailing : List Char
  /-- Whether the line before started with a gap. -/
  indented : Bool
  /-- The text so far, last character first. -/
  reversed : List Char
  deriving DecidableEq, Repr

namespace Block

/-- The state with a line break of an empty line added. -/
def emptyLine (block : Block) (mark : Mark) (character : Char) : Block :=
  { block with
    widest := max block.widest mark.column
    trailing := block.trailing ++ [character] }

/-- The indentation of the content, decided by the widest of the lines up to the
first one with content, but at least one more than around the scalar. -/
def decideIndent (block : Block) (parent : Int) (mark : Mark) : Nat :=
  block.indent.getD
    (max (max block.widest mark.column) (max (parent + 1).toNat 1))

/-- The state at the start of a line with content.  Between two lines that start
with no gap a folded scalar reads a single break as a space. -/
def startLine (block : Block) (literal : Bool) (indent : Nat) (first : Char) : Block :=
  let joined :=
    if ¬ literal ∧ block.leading = ['\n'] ∧ ¬ block.indented ∧ ¬ isGap first then
      if block.trailing.isEmpty then [' '] else block.trailing
    else block.leading ++ block.trailing
  ⟨some indent, 0, [], [], isGap first, joined.reverse ++ block.reversed⟩

/-- The text of a finished scalar. -/
def finish (block : Block) (chomping : Chomping) : List Char :=
  block.reversed.reverse ++ match chomping with
    | .strip => []
    | .clip => block.leading
    | .keep => block.leading ++ block.trailing

end Block

/-- The rest of a block scalar.  `inLine` says that the reader is inside a line
with content, else it is in the margin before one. -/
def blockScalar (literal : Bool) (parent : Int) (chomping : Chomping)
    (inLine : Bool) (block : Block) (mark : Mark) :
    List Char → Option (List Char × Cursor)
  | [] => some (block.finish chomping, ⟨[], mark⟩)
  | character :: rest =>
    let next := mark.after character
    if inLine then
      if isBreak character then
        blockScalar literal parent chomping false
          { block with leading := [character], trailing := [] } next rest
      else
        blockScalar literal parent chomping true
          { block with reversed := character :: block.reversed } next rest
    else
      let outside := block.indent.elim true (mark.column < ·)
      if outside ∧ character = ' ' then
        blockScalar literal parent chomping false block next rest
      else if outside ∧ character = '\t' then none
      else if isBreak character then
        blockScalar literal parent chomping false
          (block.emptyLine mark character) next rest
      else
        let indent := block.decideIndent parent mark
        if mark.column = indent then
          let block := block.startLine literal indent character
          blockScalar literal parent chomping true
            { block with reversed := character :: block.reversed } next rest
        else some (block.finish chomping, ⟨character :: rest, mark⟩)

end ProfileShell.Yaml
