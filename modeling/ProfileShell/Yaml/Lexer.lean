import ProfileShell.Yaml.Token

/-!
# From characters to tokens

Two things make the tokens of YAML depend on more than the characters at hand.
Indentation opens and closes block collections, so the lexer keeps a stack of
columns.  And what is a mapping key shows only at the colon behind it, so the
lexer remembers where a key may have started, one place for each open flow
collection and one for the block around them, and puts the missing tokens there
afterwards.
-/

namespace ProfileShell.Yaml

/-- A place where a mapping key may have started. -/
structure KeyStart where
  /-- Whether nothing but a key may stand there. -/
  required : Bool
  /-- The number of tokens before it. -/
  position : Nat
  mark : Mark
  deriving DecidableEq, Repr

/-- The state of the lexer. -/
structure Lexer where
  cursor : Cursor
  /-- The tokens so far, last first, and their number. -/
  reversed : List Token
  count : Nat
  /-- The column of the innermost block collection, or -1. -/
  indent : Int
  /-- The columns of the block collections around it. -/
  indents : List Int
  /-- The possible key of the innermost flow collection or block. -/
  keyStart : Option KeyStart
  /-- Those of the collections around it, one for each open flow collection. -/
  outerKeys : List (Option KeyStart)
  /-- Whether a key may start at the cursor. -/
  keyAllowed : Bool
  deriving DecidableEq, Repr

namespace Lexer

def start (source : List Char) : Lexer :=
  ⟨⟨source, .origin⟩, [], 0, -1, [], none, [], true⟩

/-- Whether the cursor is inside a flow collection. -/
def inFlow (lexer : Lexer) : Bool :=
  !lexer.outerKeys.isEmpty

def emit (lexer : Lexer) (kind : Token.Kind) (mark finish : Mark) : Lexer :=
  { lexer with
    reversed := ⟨kind, mark, finish⟩ :: lexer.reversed
    count := lexer.count + 1 }

/-- Adds a token of no width before the token with the given number. -/
def insert (lexer : Lexer) (position : Nat) (kind : Token.Kind) (mark : Mark) : Lexer :=
  { lexer with
    reversed := lexer.reversed.insertIdx (lexer.count - position) ⟨kind, mark, mark⟩
    count := lexer.count + 1 }

/-- Forgets the possible key, which is an error where a key is required. -/
def dropKey? (lexer : Lexer) : Option Lexer :=
  match lexer.keyStart with
  | some keyStart => if keyStart.required then none else some { lexer with keyStart := none }
  | none => some lexer

/-- Remembers the cursor as a possible start of a key, if one may start there. -/
def saveKey? (lexer : Lexer) : Option Lexer :=
  if lexer.keyAllowed then
    let mark := lexer.cursor.mark
    let required := !lexer.inFlow && lexer.indent == (mark.column : Int)
    lexer.dropKey?.map fun cleared =>
      { cleared with keyStart := some ⟨required, lexer.count, mark⟩ }
  else some lexer

/-- The possible key, unless it is out of reach: a key with its colon stands on
one line and is at most 1024 characters long. -/
def reachableKey? (lexer : Lexer) : Option KeyStart :=
  lexer.keyStart.filter fun keyStart =>
    keyStart.mark.line == lexer.cursor.mark.line
      && lexer.cursor.mark.column ≤ keyStart.mark.column + 1024

/-- Opens a block collection at a column to the right of the current one, with
its start token before the token with the given number, or at the end. -/
def openBlock (lexer : Lexer) (position : Option Nat) (kind : Token.Kind)
    (mark : Mark) : Lexer :=
  if lexer.inFlow ∨ (mark.column : Int) ≤ lexer.indent then lexer
  else
    let opened := match position with
      | some position => lexer.insert position kind mark
      | none => lexer.emit kind mark mark
    { opened with
      indent := mark.column
      indents := lexer.indent :: lexer.indents }

/-- Closes the block collections to the right of a column.  The stack of columns
holds as many as are open. -/
def closeBlocks (lexer : Lexer) (column : Int) : Lexer :=
  if lexer.inFlow then lexer else go lexer lexer.indents
where
  go (lexer : Lexer) : List Int → Lexer
    | [] => lexer
    | outer :: further =>
      if lexer.indent > column then
        go { lexer.emit .blockEnd lexer.cursor.mark lexer.cursor.mark with
          indent := outer, indents := further } further
      else lexer

/-- Consumes the next few characters as one token. -/
def take (lexer : Lexer) (width : Nat) (kind : Token.Kind) : Lexer :=
  let after := lexer.cursor.skipMany width
  { lexer.emit kind lexer.cursor.mark after.mark with cursor := after }

/-- Moves to the next token, over gaps, comments and line breaks.  In block
context a tab is no gap where a key may start, and a new line lets one start.
A byte order mark may stand at the start of a line. -/
def toNextToken (inFlow keyAllowed : Bool) (comment : Bool) (mark : Mark) :
    List Char → Cursor × Bool
  | [] => (⟨[], mark⟩, keyAllowed)
  | character :: rest =>
    let next := mark.after character
    if isBreak character then
      toNextToken inFlow (keyAllowed || !inFlow) false next rest
    else if comment || character = '#' then
      toNextToken inFlow keyAllowed true next rest
    else if character = ' ' ∨ (character = '\t' ∧ (inFlow ∨ ¬ keyAllowed))
        ∨ (character = '\uFEFF' ∧ mark.column = 0) then
      toNextToken inFlow keyAllowed false next rest
    else (⟨character :: rest, mark⟩, keyAllowed)

/-- A document marker or a directive ends all blocks and any possible key. -/
def atDocumentLevel? (lexer : Lexer) : Option Lexer :=
  (lexer.closeBlocks (-1)).dropKey?.map fun cleared => { cleared with keyAllowed := false }

def openFlow? (lexer : Lexer) (kind : Token.Kind) : Option Lexer :=
  lexer.saveKey?.map fun saved =>
    { saved.take 1 kind with
      keyStart := none
      outerKeys := saved.keyStart :: saved.outerKeys
      keyAllowed := true }

/-- Closes a flow collection, if one is open. -/
def closeFlow? (lexer : Lexer) (kind : Token.Kind) : Option Lexer :=
  lexer.dropKey?.map fun cleared =>
    let closed := { cleared.take 1 kind with keyAllowed := false }
    match cleared.outerKeys with
    | [] => closed
    | outer :: further => { closed with keyStart := outer, outerKeys := further }

/-- A comma. -/
def flowEntry? (lexer : Lexer) : Option Lexer :=
  lexer.dropKey?.map fun cleared => { cleared.take 1 .flowEntry with keyAllowed := true }

/-- A dash before an entry.  Inside a flow collection it is left to the reader of
the tokens to refuse it. -/
def blockEntry? (lexer : Lexer) : Option Lexer :=
  if ¬ lexer.inFlow ∧ ¬ lexer.keyAllowed then none
  else
    (lexer.openBlock none .blockSequenceStart lexer.cursor.mark).dropKey?.map fun cleared =>
      { cleared.take 1 .blockEntry with keyAllowed := true }

/-- A question mark before a key. -/
def explicitKey? (lexer : Lexer) : Option Lexer :=
  if ¬ lexer.inFlow ∧ ¬ lexer.keyAllowed then none
  else
    (lexer.openBlock none .blockMappingStart lexer.cursor.mark).dropKey?.map fun cleared =>
      { cleared.take 1 .key with keyAllowed := !lexer.inFlow }

/-- A colon after a key.  Behind a possible key it makes it one; otherwise the key
was written with a question mark or is empty. -/
def value? (lexer : Lexer) : Option Lexer :=
  match lexer.reachableKey? with
  | some keyStart =>
    let keyed := lexer.insert keyStart.position .key keyStart.mark
    let opened := keyed.openBlock (some keyStart.position) .blockMappingStart keyStart.mark
    some { opened.take 1 .value with keyStart := none, keyAllowed := false }
  | none =>
    if ¬ lexer.inFlow ∧ ¬ lexer.keyAllowed then none
    else
      let opened := lexer.openBlock none .blockMappingStart lexer.cursor.mark
      some { opened.take 1 .value with keyAllowed := !lexer.inFlow }

/-- Adds a token that was read from the cursor up to another one. -/
def advance (lexer : Lexer) (kind : Token.Kind) (after : Cursor) (keyAllowed : Bool) :
    Lexer :=
  { lexer.emit kind lexer.cursor.mark after.mark with
    cursor := after
    keyAllowed := keyAllowed }

/-- An anchor or an alias, which may start a key. -/
def anchor? (lexer : Lexer) (kind : String → Token.Kind) : Option Lexer := do
  let saved ← lexer.saveKey?
  let (name, after) ← anchorName? saved.cursor.skip
  some (saved.advance (kind name) after false)

/-- A tag, which may start a key. -/
def tagToken? (lexer : Lexer) : Option Lexer := do
  let saved ← lexer.saveKey?
  let (handle, suffix, after) ← tag? saved.inFlow saved.cursor
  some (saved.advance (.tag handle suffix) after false)

/-- A quoted scalar, which may start a key. -/
def quoted? (lexer : Lexer) (double : Bool) : Option Lexer := do
  let saved ← lexer.saveKey?
  let inside := saved.cursor.skip
  let (text, after) ←
    if double then doubleQuoted .content [] inside.mark inside.rest
    else singleQuoted none [] inside.mark inside.rest
  some (saved.advance (.scalar false (String.ofList text)) after false)

/-- A plain scalar, which may start a key.  After it a key may start on a new
line. -/
def plain? (lexer : Lexer) : Option Lexer := do
  let saved ← lexer.saveKey?
  let scalar ←
    plain saved.inFlow (saved.indent + 1) none [] saved.cursor.mark saved.cursor.rest
  some (saved.advance (.scalar true (String.ofList scalar.text)) scalar.cursor
    scalar.broken)

/-- A block scalar, which starts no key; one may start on the line after it. -/
def block? (lexer : Lexer) (literal : Bool) : Option Lexer := do
  let cleared ← lexer.dropKey?
  let (chomping, increment, after) ← blockHeader? cleared.cursor.skip
  let indent := increment.map fun more => (max cleared.indent 0).toNat + more
  let (text, finish) ←
    blockScalar literal cleared.indent chomping false ⟨indent, 0, [], [], false, []⟩
      after.mark after.rest
  some (cleared.advance (.scalar false (String.ofList text)) finish true)

/-- The end of the source, which counts as a new line. -/
def finish? (lexer : Lexer) : Option (List Token) :=
  let mark := lexer.cursor.mark
  let last : Mark := if mark.column = 0 then mark else ⟨mark.line + 1, 0⟩
  let moved := { lexer with cursor := ⟨[], last⟩ }
  moved.atDocumentLevel?.map fun cleared => (cleared.emit .streamEnd last last).reversed.reverse

/-- Whether a plain scalar may start here. -/
def startsPlain (inFlow : Bool) : List Char → Bool
  | [] => false
  | character :: rest =>
    let indicators := ['-', '?', ':', ',', '[', ']', '\x7b', '\x7d', '#', '&', '*', '!',
      '|', '>', '\'', '"', '%', '@', '\x60']
    !(isGap character || isBreak character || indicators.contains character)
      || (character == '-' && !(rest.head?.any isGap))
      || (!inFlow && (character == '?' || character == ':') && !atWordEnd rest)

/-- Reads the token at the cursor, which stands on a character that is no gap. -/
def token? (lexer : Lexer) (character : Char) (rest : List Char) : Option Lexer :=
  let lineStart := lexer.cursor.mark.column = 0
  let inFlow := lexer.inFlow
  if lineStart ∧ character = '%' then do
    let cleared ← lexer.atDocumentLevel?
    let (kind, after) ← directive? cleared.cursor.skip
    some (cleared.advance kind after false)
  else if lineStart ∧ atDocumentMarker (character :: rest) then
    lexer.atDocumentLevel?.map (·.take 3
      (if character = '-' then .documentStart else .documentEnd))
  else if character = '[' then lexer.openFlow? .flowSequenceStart
  else if character = '\x7b' then lexer.openFlow? .flowMappingStart
  else if character = ']' then lexer.closeFlow? .flowSequenceEnd
  else if character = '\x7d' then lexer.closeFlow? .flowMappingEnd
  else if character = ',' then lexer.flowEntry?
  else if character = '-' ∧ atWordEnd rest then lexer.blockEntry?
  else if character = '?' ∧ (inFlow ∨ atWordEnd rest) then lexer.explicitKey?
  else if character = ':' ∧ (inFlow ∨ atWordEnd rest) then lexer.value?
  else if character = '*' then lexer.anchor? .alias
  else if character = '&' then lexer.anchor? .anchor
  else if character = '!' then lexer.tagToken?
  else if character = '|' ∧ ¬ inFlow then lexer.block? true
  else if character = '>' ∧ ¬ inFlow then lexer.block? false
  else if character = '\'' then lexer.quoted? false
  else if character = '"' then lexer.quoted? true
  else if startsPlain inFlow (character :: rest) then lexer.plain?
  else none

/-- The tokens from the cursor on.  Every token but the last takes a character, so
one round more than there are characters is enough. -/
def run : Nat → Lexer → Option (List Token)
  | 0, _ => none
  | rounds + 1, lexer =>
    let (cursor, keyAllowed) :=
      toNextToken lexer.inFlow lexer.keyAllowed false lexer.cursor.mark lexer.cursor.rest
    let moved := { lexer with cursor := cursor, keyAllowed := keyAllowed }
    let settled := moved.closeBlocks cursor.mark.column
    match cursor.rest with
    | [] => settled.finish?
    | character :: rest =>
      match settled.token? character rest with
      | none => none
      | some next => run rounds next

end Lexer

/-- The tokens of a prepared source, if it has only well-formed ones. -/
def tokens? (source : List Char) : Option (List Token) :=
  (Lexer.start source).run (source.length + 1)

end ProfileShell.Yaml
