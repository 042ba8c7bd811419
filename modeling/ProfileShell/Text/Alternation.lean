/-!
# Alternations

Several texts can be looked for at once, with one pattern that lists them.  Patterns
belong to a library, of which only this is used: how a text is written so that it
stands for itself, and which texts a pattern is found in.  A library may refuse a
pattern, for one that is too large.
-/

namespace ProfileShell

def occursIn (part : List Char) : List Char → Bool
  | [] => part.isEmpty
  | character :: rest =>
    part.isPrefixOf (character :: rest) || occursIn part rest

namespace Text

/-- What is used of a library for patterns. -/
structure PatternLibrary where
  /-- A text as the pattern that stands for it. -/
  escape : String → String
  /-- Whether a pattern describes a whole text. -/
  Matches : String → String → Prop
  /-- The search for a pattern in a text, unless the pattern is refused. -/
  compile? : String → Option (String → Bool)

namespace PatternLibrary

/-- What a library promises of texts that stand for themselves. -/
structure IsDocumented (library : PatternLibrary) : Prop where
  /-- The pattern of a text describes that text alone. -/
  matches_escape : ∀ text whole, library.Matches (library.escape text) whole ↔ whole = text
  /-- A search for one of several patterns succeeds where one of them describes a part
  of the text. -/
  search_iff : ∀ (patterns : List String) (search : String → Bool), patterns ≠ [] →
    (∀ pattern ∈ patterns, ∃ text, pattern = library.escape text) →
    library.compile? ("|".intercalate patterns) = some search →
    ∀ subject, search subject = true ↔
      ∃ pattern ∈ patterns, ∃ part, library.Matches pattern part ∧
        occursIn part.toList subject.toList = true

/-- Longer texts come first, and texts of one length in the order of their
characters. -/
def comesFirst (left right : String) : Bool :=
  right.utf8ByteSize < left.utf8ByteSize
    || (left.utf8ByteSize == right.utf8ByteSize && decide (left ≤ right))

def insert (text : String) : List String → List String
  | [] => [text]
  | other :: rest =>
    if comesFirst text other then text :: other :: rest else other :: insert text rest

def inOrder (texts : List String) : List String :=
  texts.foldr insert []

/-- The pattern of a list of texts.  The longest stands first, so that no text hides
another one that it starts. -/
def alternation (library : PatternLibrary) (texts : List String) : String :=
  "|".intercalate (inOrder (texts.map library.escape))

/-- The search for any text of a list.  Nothing is searched for without a text, and
nothing can be if the pattern is refused. -/
def searchFor? (library : PatternLibrary) (texts : List String) :
    Option (String → Bool) :=
  if texts.isEmpty then none else library.compile? (library.alternation texts)

end PatternLibrary

namespace Alternation

/-- Whether a character has a meaning of its own in a pattern. -/
def isSpecial : Char → Bool
  | '\\' | '.' | '+' | '*' | '?' | '(' | ')' | '|' | '[' | ']' | '\x7b' | '\x7d' | '^'
  | '$' | '#' | '&' | '-' | '~' => true
  | _ => false

def escapeCharacter (character : Char) : List Char :=
  if isSpecial character then ['\\', character] else [character]

/-- A text as it stands for itself. -/
def escape (text : String) : String :=
  String.ofList (text.toList.flatMap escapeCharacter)

def prepend (character : Char) : List (List Char) → List (List Char)
  | [] => [[character]]
  | text :: rest => (character :: text) :: rest

/-- The texts that a pattern lists.  Characters with another meaning than to separate
texts or to quote a character are not read. -/
def read? : List Char → Option (List (List Char))
  | [] => some [[]]
  | '|' :: rest => (read? rest).map ([] :: ·)
  | '\\' :: character :: rest =>
    if isSpecial character then (read? rest).map (prepend character) else none
  | character :: rest =>
    if isSpecial character then none else (read? rest).map (prepend character)

end Alternation

/-- A library with patterns that list texts and no others. -/
def PatternLibrary.ofTexts : PatternLibrary where
  escape := Alternation.escape
  Matches pattern text :=
    ∃ texts, Alternation.read? pattern.toList = some texts ∧ text.toList ∈ texts
  compile? pattern :=
    (Alternation.read? pattern.toList).map fun texts subject =>
      texts.any (occursIn · subject.toList)

end Text

end ProfileShell
