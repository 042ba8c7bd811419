import ProfileShell.Text.Utf8

/-!
# Shell words

The part of the POSIX shell language that rc-files and short commands are written in:
words with quotes and parameters, lists of simple commands with redirections, and
comments.  Text is
handled octet by octet, so a character here stands for one octet.
-/

namespace ProfileShell.Posix

/-- The characters of a byte string, one for each octet. -/
def characters (octets : Bytes) : List Char :=
  octets.map fun octet => Char.ofNat octet.toNat

/-- The octets of such characters. -/
def octets (characters : List Char) : Bytes :=
  characters.map fun character => UInt8.ofNat character.toNat

/-- A piece of a word. -/
inductive Part where
  | text (value : List Char) (quoted : Bool)
  /-- The value of a parameter.  A `fallback` counts if the parameter is unset, and if
  it is empty too where `orEmpty` is set. -/
  | parameter (name : List Char) (fallback : Option (List Char)) (orEmpty : Bool)
    (quoted : Bool)
  deriving DecidableEq, Repr

/-- What a redirection does with a stream. -/
inductive Redirect where
  | input
  /-- The stream writes a file, which is emptied first. -/
  | output
  /-- The stream writes at the end of a file. -/
  | append
  | duplicate
  deriving DecidableEq, Repr

/-- A token of a script. -/
inductive Token where
  | word (parts : List Part)
  /-- A redirection of a stream, whose target is the next word. -/
  | redirect (stream : Nat) (way : Redirect)
  | next
  /-- `&&`. -/
  | andIf
  /-- `||`. -/
  | orIf
  deriving DecidableEq, Repr

def isNameStart (character : Char) : Bool :=
  character.isAlpha || character == '_'

def isNameCharacter (character : Char) : Bool :=
  character.isAlphanum || character == '_'

/-- Whether a character is the name of a special parameter. -/
def isSpecial (character : Char) : Bool :=
  ['@', '*', '#', '?', '-', '$', '!'].contains character

/-- The name of a parameter at the start of a text: a name, a digit or a special
character, and with braces more digits. -/
def parameterName (braced : Bool) : List Char → List Char
  | [] => []
  | first :: rest =>
    if isNameStart first then first :: rest.takeWhile isNameCharacter
    else if first.isDigit then
      first :: (if braced then rest.takeWhile Char.isDigit else [])
    else if isSpecial first then [first]
    else []

/-- Reads what stands behind a dollar sign: a parameter and the rest, or `none` for a
dollar sign that stands for itself. -/
def parameter? (quoted : Bool) (text : List Char) : Option (Part × List Char) :=
  match text with
  | '\x7b' :: rest =>
    let name := parameterName true rest
    let behind := rest.drop name.length
    let inside := behind.takeWhile (· != '\x7d')
    let tail := (behind.dropWhile (· != '\x7d')).drop 1
    match name, inside with
    | [], _ => none
    | _, [] => some (.parameter name none false quoted, tail)
    | _, '-' :: word => some (.parameter name (some word) false quoted, tail)
    | _, ':' :: '-' :: word => some (.parameter name (some word) true quoted, tail)
    | _, _ => none
  | _ =>
    match parameterName false text with
    | [] => none
    | name => some (.parameter name none false quoted, text.drop name.length)

/-- How a character is quoted. -/
inductive Quoting where
  | none
  | single
  | double
  deriving DecidableEq, Repr

/-- Whether a backslash between double quotes quotes a character. -/
def isEscapable (character : Char) : Bool :=
  ['$', '\x60', '"', '\\'].contains character

/-- A lexer between two characters. -/
structure Lexer where
  /-- The tokens so far, the last one first. -/
  tokens : List Token
  /-- The parts of the open word, the last one first. -/
  word : Option (List Part)
  quoting : Quoting
  deriving DecidableEq, Repr

namespace Lexer

def start : Lexer := ⟨[], Option.none, .none⟩

/-- Adds a part to the open word. -/
def add (lexer : Lexer) (part : Part) : Lexer :=
  { lexer with word := some (part :: lexer.word.getD []) }

/-- Ends the open word, if there is one. -/
def endWord (lexer : Lexer) : Lexer :=
  match lexer.word with
  | some parts =>
    { lexer with tokens := .word parts.reverse :: lexer.tokens, word := Option.none }
  | Option.none => lexer

/-- Adds a token behind the open word. -/
def push (lexer : Lexer) (token : Token) : Lexer :=
  let ended := lexer.endWord
  { ended with tokens := token :: ended.tokens }

/-- The number of a stream that stands right ahead of a redirection. -/
def streamNumber? (lexer : Lexer) : Option Nat :=
  match lexer.word with
  | some [.text [digit] false] =>
    if digit.isDigit then some (digit.toNat - '0'.toNat) else Option.none
  | _ => Option.none

/-- Adds a redirection, of a usual stream unless there is a number ahead of it. -/
def redirect (lexer : Lexer) (usual : Nat) (way : Redirect) : Lexer :=
  match lexer.streamNumber? with
  | some stream => { lexer with word := Option.none }.push (.redirect stream way)
  | Option.none => lexer.push (.redirect usual way)

/-- Reads a dollar sign and what belongs to it. -/
def dollar (lexer : Lexer) (quoted : Bool) (rest : List Char) : Lexer × List Char :=
  match parameter? quoted rest with
  | some (part, tail) => (lexer.add part, tail)
  | Option.none => (lexer.add (.text ['$'] quoted), rest)

/-- Reads the first element of a text. -/
def step (lexer : Lexer) (first : Char) (rest : List Char) : Lexer × List Char :=
  match lexer.quoting with
  | .single =>
    if first = '\'' then ({ lexer with quoting := .none }, rest)
    else (lexer.add (.text [first] true), rest)
  | .double =>
    if first = '"' then ({ lexer with quoting := .none }, rest)
    else if first = '$' then lexer.dollar true rest
    else if first = '\\' then
      match rest with
      | '\n' :: tail => (lexer, tail)
      | other :: tail =>
        if isEscapable other then (lexer.add (.text [other] true), tail)
        else (lexer.add (.text ['\\'] true), other :: tail)
      | [] => (lexer.add (.text ['\\'] true), [])
    else (lexer.add (.text [first] true), rest)
  | .none =>
    if first = '\'' then ({ lexer.add (.text [] true) with quoting := .single }, rest)
    else if first = '"' then ({ lexer.add (.text [] true) with quoting := .double }, rest)
    else if first = '$' then lexer.dollar false rest
    else if first = '\\' then
      match rest with
      | '\n' :: tail => (lexer, tail)
      | other :: tail => (lexer.add (.text [other] true), tail)
      | [] => (lexer.add (.text ['\\'] true), [])
    else if first = ' ' || first = '\t' then (lexer.endWord, rest)
    else if first = '\n' || first = ';' then (lexer.push .next, rest)
    else if first = '#' && lexer.word.isNone then (lexer, rest.dropWhile (· != '\n'))
    else
      match first, rest with
      | '&', '&' :: tail => (lexer.push .andIf, tail)
      | '|', '|' :: tail => (lexer.push .orIf, tail)
      | '<', _ => (lexer.redirect 0 .input, rest)
      | '>', '>' :: tail => (lexer.redirect 1 .append, tail)
      | '>', '&' :: tail => (lexer.redirect 1 .duplicate, tail)
      | '>', _ => (lexer.redirect 1 .output, rest)
      | _, _ => (lexer.add (.text [first] false), rest)

/-- Reads at most `limit` elements of a text. -/
def run : Nat → Lexer → List Char → Lexer
  | 0, lexer, _ => lexer
  | _ + 1, lexer, [] => lexer
  | limit + 1, lexer, first :: rest =>
    let (next, tail) := lexer.step first rest
    run limit next tail

end Lexer

/-- The tokens of a script, unless a quote stays open. -/
def tokens? (script : List Char) : Option (List Token) :=
  let lexer := Lexer.start.run script.length script
  if lexer.quoting = .none then some lexer.endWord.tokens.reverse else none

/-- A stream of a command that goes elsewhere. -/
structure Redirection where
  stream : Nat
  way : Redirect
  target : List Part
  deriving DecidableEq, Repr

/-- A simple command and how it goes on from the one before it. -/
structure Step where
  /-- Whether the command is run after success or failure alone, if it matters. -/
  after : Option Bool
  words : List (List Part)
  redirections : List Redirection
  deriving DecidableEq, Repr

namespace Step

def empty (after : Option Bool) : Step := ⟨after, [], []⟩

/-- Adds a word, as the target of a redirection if one waits for it. -/
def addWord (step : Step) (waiting : Option (Nat × Redirect)) (parts : List Part) : Step :=
  match waiting with
  | some (stream, way) =>
    { step with redirections := step.redirections ++ [⟨stream, way, parts⟩] }
  | none => { step with words := step.words ++ [parts] }

end Step

/-- The commands of a list of tokens, from an open command on. -/
def stepsFrom (step : Step) (waiting : Option (Nat × Redirect)) : List Token → List Step
  | [] => [step]
  | .word parts :: rest => stepsFrom (step.addWord waiting parts) none rest
  | .redirect stream way :: rest => stepsFrom step (some (stream, way)) rest
  | .next :: rest => step :: stepsFrom (.empty none) none rest
  | .andIf :: rest => step :: stepsFrom (.empty (some true)) none rest
  | .orIf :: rest => step :: stepsFrom (.empty (some false)) none rest

/-- The commands of a list of tokens. -/
def steps (tokens : List Token) : List Step :=
  (stepsFrom (.empty none) none tokens).filter fun step =>
    !step.words.isEmpty || !step.redirections.isEmpty

end ProfileShell.Posix
