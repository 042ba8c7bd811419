/-!
# Regular patterns

A pattern describes a set of texts.  `Matches` says which texts those are, and
`accepts` decides it by taking the pattern apart one character at a time: what
may follow a character is again a pattern.
-/

namespace ProfileShell.Text

/-- A regular pattern over characters. -/
inductive Pattern where
  | never
  | empty
  /-- One character that passes a test. -/
  | one (test : Char → Bool)
  /-- A text of the first pattern and then one of the second. -/
  | seq (first second : Pattern)
  | either (left right : Pattern)
  | many (body : Pattern)

namespace Pattern

/-- The texts of a pattern. -/
inductive Matches : Pattern → List Char → Prop where
  | empty : Matches .empty []
  | one {test : Char → Bool} {character : Char} (passed : test character = true) :
      Matches (.one test) [character]
  | seq {first second : Pattern} {start rest : List Char}
      (starts : Matches first start) (continues : Matches second rest) :
      Matches (.seq first second) (start ++ rest)
  | left {left right : Pattern} {text : List Char} (matched : Matches left text) :
      Matches (.either left right) text
  | right {left right : Pattern} {text : List Char} (matched : Matches right text) :
      Matches (.either left right) text
  | done {body : Pattern} : Matches (.many body) []
  | again {body : Pattern} {start rest : List Char}
      (starts : Matches body start) (continues : Matches (.many body) rest) :
      Matches (.many body) (start ++ rest)

def word (text : String) : Pattern :=
  text.toList.foldr (fun character rest => .seq (.one (· == character)) rest) .empty

/-- A pattern or nothing. -/
def maybe (pattern : Pattern) : Pattern :=
  .either pattern .empty

/-- A text of one pattern of a list. -/
def choice (patterns : List Pattern) : Pattern :=
  patterns.foldr .either .never

/-- Texts of the patterns of a list, in their order. -/
def sequence (patterns : List Pattern) : Pattern :=
  patterns.foldr .seq .empty

/-- At least one text of the pattern. -/
def oneOrMore (pattern : Pattern) : Pattern :=
  .seq pattern (.many pattern)

/-- The texts of `seq first second`, described without a part that is settled. -/
def thenPattern : Pattern → Pattern → Pattern
  | never, _ => never
  | empty, second => second
  | first, second => seq first second

/-- The texts of `either left right`, described without a part that has none. -/
def orPattern : Pattern → Pattern → Pattern
  | never, right => right
  | left, never => left
  | left, right => either left right

/-- Whether the empty text belongs to a pattern. -/
def nullable : Pattern → Bool
  | never => false
  | empty => true
  | one _ => false
  | seq first second => first.nullable && second.nullable
  | either left right => left.nullable || right.nullable
  | many _ => true

/-- What may follow a character at the start of a text of the pattern.  Settled
parts are dropped at once, so that the pattern does not grow with the text. -/
def after (character : Char) : Pattern → Pattern
  | never => never
  | empty => never
  | one test => if test character then empty else never
  | seq first second =>
    if first.nullable then
      ((first.after character).thenPattern second).orPattern (second.after character)
    else (first.after character).thenPattern second
  | either left right => (left.after character).orPattern (right.after character)
  | many body => (body.after character).thenPattern (many body)

def accepts (pattern : Pattern) : List Char → Bool
  | [] => pattern.nullable
  | character :: rest => (pattern.after character).accepts rest

end Pattern

end ProfileShell.Text
