import ProfileShell.Text.Utf8
import ProfileShell.Yaml.Scalar

/-!
# Tokens

The tokens of a YAML stream, and the readers of those that are neither
indicators nor scalars: anchors, tags and directives.
-/

namespace ProfileShell.Yaml

/-- The kinds of token.  Block collections have start and end tokens although
only indentation shows where they start and end. -/
inductive Token.Kind where
  | versionDirective (major minor : Nat)
  | tagDirective (handle : String) (expansion : Bytes)
  | documentStart
  | documentEnd
  | blockSequenceStart
  | blockMappingStart
  | blockEnd
  | flowSequenceStart
  | flowSequenceEnd
  | flowMappingStart
  | flowMappingEnd
  | blockEntry
  | flowEntry
  | key
  | value
  | alias (name : String)
  | anchor (name : String)
  | tag (handle : String) (suffix : Bytes)
  | scalar (plain : Bool) (text : String)
  | streamEnd
  deriving DecidableEq, Repr

/-- A token, where it starts and where it ends. -/
structure Token where
  kind : Token.Kind
  mark : Mark
  finish : Mark
  deriving DecidableEq, Repr

/-- A character of a name: an ASCII letter or digit, a dash or an underscore. -/
def isNameCharacter (character : Char) : Bool :=
  character.isAlphanum || character == '_' || character == '-'

/-- The name after an anchor or alias indicator, which must end at a gap, a line
break or one of a few indicators. -/
def anchorName? (cursor : Cursor) : Option (String × Cursor) :=
  let name := cursor.rest.takeWhile isNameCharacter
  let after := cursor.skipWhile isNameCharacter
  let ends := atWordEnd after.rest || match after.rest with
    | character :: _ => ['?', ':', ',', ']', '\x7d', '%', '@', '\x60'].contains character
    | [] => true
  if name.isEmpty ∨ ¬ ends then none else some (String.ofList name, after)

/-- A character of a tag.  Brackets and commas belong to verbatim tags and tag
directives only. -/
def isTagCharacter (verbatim : Bool) (character : Char) : Bool :=
  isNameCharacter character
    || [';', '/', '?', ':', '@', '&', '=', '+', '$', '.', '!', '~', '*', '\'', '(',
      ')'].contains character
    || (verbatim && [',', '[', ']'].contains character)

/-- How many octets follow the first octet of an escaped character. -/
def escapedFollowers? (octet : Nat) : Option Nat :=
  if octet < 0x80 then some 0
  else if octet < 0xC0 then none
  else if octet < 0xE0 then some 1
  else if octet < 0xF0 then some 2
  else if octet < 0xF8 then some 3
  else none

/-- The octets of a tag.  A percent sign escapes one octet; `owed` counts the
escaped octets that the character begun still needs. -/
def tagOctets (verbatim : Bool) (owed : Nat) (reversed : Bytes) (mark : Mark) :
    List Char → Option (Bytes × Cursor)
  | '%' :: high :: low :: rest =>
    match hexValue? high, hexValue? low with
    | some top, some bottom =>
      let octet := top * 16 + bottom
      let next := ((mark.after '%').after high).after low
      if owed = 0 then
        match escapedFollowers? octet with
        | none => none
        | some followers =>
          tagOctets verbatim followers (UInt8.ofNat octet :: reversed) next rest
      else if 0x80 ≤ octet ∧ octet < 0xC0 then
        tagOctets verbatim (owed - 1) (UInt8.ofNat octet :: reversed) next rest
      else none
    | _, _ => none
  | [] => if owed = 0 then some (reversed.reverse, ⟨[], mark⟩) else none
  | character :: rest =>
    if owed ≠ 0 ∨ character = '%' then none
    else if isTagCharacter verbatim character then
      tagOctets verbatim 0 (UInt8.ofNat character.toNat :: reversed)
        (mark.after character) rest
    else some (reversed.reverse, ⟨character :: rest, mark⟩)

/-- A tag handle: an exclamation mark, or a name between two of them.  In a tag
the second one may be missing, and what was read starts the suffix. -/
def tagHandle? (directive : Bool) (cursor : Cursor) : Option (List Char × Cursor) :=
  match cursor.rest with
  | '!' :: _ =>
    let start := cursor.skip
    let name := start.rest.takeWhile isNameCharacter
    let after := start.skipWhile isNameCharacter
    match after.rest with
    | '!' :: _ => some ('!' :: name ++ ['!'], after.skip)
    | _ => if directive ∧ ¬ name.isEmpty then none else some ('!' :: name, after)
  | _ => none

/-- A tag: its handle and its suffix.  The handle is empty for a verbatim tag and
for the lone exclamation mark. -/
def tag? (flow : Bool) (cursor : Cursor) : Option (String × Bytes × Cursor) := do
  let (handle, suffix, after) ← match cursor.rest with
    | '!' :: '<' :: _ => do
      let start := cursor.skip.skip
      let (suffix, after) ← tagOctets true 0 [] start.mark start.rest
      match suffix, after.rest with
      | [], _ => none
      | _, '>' :: _ => some ("", suffix, after.skip)
      | _, _ => none
    | _ => do
      let (handle, start) ← tagHandle? false cursor
      let (suffix, after) ← tagOctets false 0 [] start.mark start.rest
      if handle.length > 1 ∧ handle.getLast? = some '!' then
        if suffix.isEmpty then none else some (String.ofList handle, suffix, after)
      else
        let suffix := Utf8.encode (String.ofList handle.tail) ++ suffix
        if suffix.isEmpty then some ("", Utf8.encode "!", after)
        else some ("!", suffix, after)
  let separated := flow && after.rest.head? == some ','
  if atWordEnd after.rest ∨ separated then some (handle, suffix, after) else none

/-- A number of a version, of at most nine digits. -/
def versionNumber? (cursor : Cursor) : Option (Nat × Cursor) :=
  let digits := cursor.rest.takeWhile Char.isDigit
  if digits.isEmpty ∨ digits.length > 9 then none
  else
    let value := digits.foldl (fun value digit => value * 10 + (digit.toNat - 0x30)) 0
    some (value, cursor.skipWhile Char.isDigit)

/-- A directive, from the character after its percent sign to the end of its
line. -/
def directive? (cursor : Cursor) : Option (Token.Kind × Cursor) := do
  let name := cursor.rest.takeWhile isNameCharacter
  let after := cursor.skipWhile isNameCharacter
  if name.isEmpty ∨ ¬ atWordEnd after.rest then none
  let start := after.skipWhile isGap
  let (kind, after) ←
    if name = ['Y', 'A', 'M', 'L'] then do
      let (major, point) ← versionNumber? start
      if point.rest.head? ≠ some '.' then none
      let (minor, after) ← versionNumber? point.skip
      some (Token.Kind.versionDirective major minor, after)
    else if name = ['T', 'A', 'G'] then do
      let (handle, between) ← tagHandle? true start
      if ¬ (between.rest.head?.any isGap) then none
      let start := between.skipWhile isGap
      let (expansion, after) ← tagOctets true 0 [] start.mark start.rest
      if expansion.isEmpty ∨ ¬ atWordEnd after.rest then none
      some (Token.Kind.tagDirective (String.ofList handle) expansion, after)
    else none
  let after := after.skipWhile isGap
  let after := match after.rest with
    | '#' :: _ => after.skipWhile (!isBreak ·)
    | _ => after
  if atLineEnd after.rest then some (kind, after.skip) else none

end ProfileShell.Yaml
