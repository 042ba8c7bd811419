import ProfileShell.Environ
import ProfileShell.Text.Literal
import ProfileShell.Text.NameCharacter

/-!
# Path templates

A path in a configuration may start with `~` for the home directory and may refer
to variables of the environment.  `$NAME` and `${NAME}` stand for a value,
`${NAME:-TEXT}` has a text for a variable that is unset or empty, and `$$` is a
dollar sign.  A value is not expanded again, and a `~` that comes out of a variable
stays as it is.
-/

namespace ProfileShell.Path

/-- Why a variable has no text. -/
inductive VariableFault where
  | unset
  | notText (value : Bytes)
  deriving DecidableEq, Repr

def VariableFault.message : VariableFault → String
  | unset => "environment variable not found"
  | notText value =>
    "environment variable was not valid unicode: " ++ Text.byteLiteral value

/-- A template that could not be expanded. -/
structure TemplateFault where
  template : String
  /-- The variable that was looked up. -/
  name : String
  fault : VariableFault
  deriving DecidableEq, Repr

/-- What is said about a template that could not be expanded. -/
def TemplateFault.message (error : TemplateFault) : String :=
  "Failed to expand path template '" ++ error.template ++ "': error looking key '"
    ++ error.name ++ "' up: " ++ error.fault.message

def variableText (environ : Environ) (name : String) : Except VariableFault String :=
  match environ.valueOf? name with
  | none => .error .unset
  | some value =>
    match Utf8.decode? value with
    | some text => .ok text
    | none => .error (.notText value)

/-- The home directory as text. -/
def homeText? (environ : Environ) : Option String :=
  (environ.nonEmpty? "HOME").bind Utf8.decode?

/-- Expands a `~` that stands alone or before a slash. -/
def expandHome (environ : Environ) (text : String) : String :=
  match text.toList with
  | ['~'] => (homeText? environ).getD text
  | '~' :: '/' :: rest =>
    match homeText? environ with
    | some home => home ++ String.ofList ('/' :: rest)
    | none => text
  | _ => text

/-- A piece of a template. -/
inductive TemplatePart where
  | text (characters : List Char)
  /-- `$NAME`. -/
  | plain (name : List Char)
  /-- `${NAME}`, perhaps with a text for lack of a value. -/
  | braced (name : List Char) (default : Option (List Char))
  deriving DecidableEq, Repr

/-- The inside of braces as a name and a text for lack of a value.  A name is not
empty, so that `:-` at the start belongs to the name. -/
def splitDefault (inside : List Char) : List Char × Option (List Char) :=
  let rec split : List Char → List Char → Option (List Char × List Char)
    | _, [] => none
    | name, ':' :: '-' :: rest => some (name.reverse, rest)
    | name, character :: rest => split (character :: name) rest
  match split [] inside with
  | some ([], _) | none => (inside, none)
  | some (name, default) => (name, some default)

/-- The pieces of a template.  A `${` without a closing brace is text, and so is a
`$` without a name. -/
def templateParts : List Char → List TemplatePart
  | [] => []
  | '$' :: '\x7b' :: rest =>
    match _closed : rest.dropWhile (· != '\x7d') with
    | [] => .text ['$', '\x7b'] :: templateParts rest
    | _ :: tail =>
      let (name, default) := splitDefault (rest.takeWhile (· != '\x7d'))
      .braced name default :: templateParts tail
  | '$' :: '$' :: rest => .text ['$'] :: templateParts rest
  | '$' :: rest =>
    match rest.takeWhile Text.isNameCharacter with
    | [] => .text ['$'] :: templateParts rest
    | name => .plain name :: templateParts (rest.dropWhile Text.isNameCharacter)
  | character :: rest => .text [character] :: templateParts rest
termination_by characters => characters.length
decreasing_by
  · exact Nat.lt_add_of_pos_right (by decide : 0 < 2)
  · have shorter := (List.dropWhile_suffix (l := rest) (· != '\x7d')).length_le
    rw [_closed, List.length_cons] at shorter
    exact Nat.lt_of_succ_le (Nat.le_trans shorter (Nat.le_add_right _ 2))
  · exact Nat.lt_add_of_pos_right (by decide : 0 < 2)
  · exact Nat.lt_succ_self _
  · exact Nat.lt_succ_of_le (List.dropWhile_suffix _).length_le
  · exact Nat.lt_succ_self _

/-- The text of a piece.  A variable in braces that is empty and has no other text
is left as it was written. -/
def TemplatePart.expand (environ : Environ) :
    TemplatePart → Except (String × VariableFault) (List Char)
  | text characters => .ok characters
  | plain name =>
    match variableText environ (String.ofList name) with
    | .ok value => .ok value.toList
    | .error fault => .error (String.ofList name, fault)
  | braced name default =>
    match variableText environ (String.ofList name), default with
    | .ok value, default =>
      if !value.isEmpty then .ok value.toList
      else .ok (default.getD (['$', '\x7b'] ++ name ++ ['\x7d']))
    | .error _, some default => .ok default
    | .error fault, none => .error (String.ofList name, fault)

def expandVariables (environ : Environ) (template : String) :
    Except TemplateFault String :=
  match (templateParts template.toList).mapM
      (TemplatePart.expand environ) with
  | .ok parts => .ok (String.ofList parts.flatten)
  | .error (name, fault) => .error ⟨template, name, fault⟩

/-- Expands the variables of a template and then a `~` at its start, if the template
itself starts with one. -/
def expand (environ : Environ) (template : String) : Except TemplateFault String :=
  match expandVariables environ template with
  | .ok text =>
    .ok (if template.toList.head? = some '~' then expandHome environ text else text)
  | .error fault => .error fault

end ProfileShell.Path
