import ProfileShell.Text.Alternation

/-!
# Substitution in argument templates

An argument that is exactly a token becomes what the token stands for: one
argument, several, or none.  An argument that only mentions a token is dropped, so
that no half-replaced text reaches a program.  Every other argument stays.  Each
argument is looked at once, and what replaces it is not looked at again.

The templates of a shell definition may use tokens for what is only known when the shell
is started.
-/

namespace ProfileShell

open Text (PatternLibrary)

/-- What an argument becomes. -/
inductive Replacement where
  /-- The argument is dropped. -/
  | nothing
  | single (text : String)
  | several (texts : List String)
  deriving DecidableEq, Repr

/-- The arguments that a replacement amounts to. -/
def Replacement.texts : Replacement → List String
  | nothing => []
  | single text => [text]
  | several texts => texts

/-- Tokens and what they stand for.  A token without a value is known all the
same. -/
structure Substitution where
  rules : List (String × Option Replacement)
  deriving DecidableEq, Repr

namespace Substitution

/-- The substitution of a list of rules, of which the last one of a token counts. -/
def ofList (rules : List (String × Option Replacement)) : Substitution :=
  ⟨rules.reverse⟩

def rule? (substitution : Substitution) (token : String) : Option (Option Replacement) :=
  substitution.rules.lookup token

/-- The tokens, each once. -/
def tokens (substitution : Substitution) : List String :=
  (substitution.rules.map Prod.fst).eraseDups

/-- Whether some token occurs in an argument, as a search for all of them tells.  For
lack of a search each token is looked for. -/
def recognises (search? : Option (String → Bool)) (tokens : List String)
    (argument : String) : Bool :=
  match search? with
  | some search => search argument
  | none => tokens.any fun token => occursIn token.toList argument.toList

/-- What one argument becomes, where its tokens are listed in some order. -/
def expandBy (substitution : Substitution) (search? : Option (String → Bool))
    (tokens : List String) (argument : String) : Replacement :=
  if recognises search? tokens argument then
    match substitution.rule? argument with
    | some (some replacement) => replacement
    | _ => .nothing
  else .single argument

/-- What one argument becomes. -/
def expand (substitution : Substitution) (argument : String) : Replacement :=
  substitution.expandBy (PatternLibrary.ofTexts.searchFor? substitution.tokens)
    substitution.tokens argument

def expandAll (substitution : Substitution) (arguments : List String) : List String :=
  arguments.flatMap fun argument => (substitution.expand argument).texts

end Substitution

/-- What is known when a shell is started. -/
structure LaunchValues where
  program : String
  rcFile : String
  /-- The directory of the launch. -/
  directory : String
  /-- The command to run, empty if there is none. -/
  command : String
  arguments : List String
  deriving DecidableEq, Repr

/-- The token of a key. -/
def token (key : String) : String :=
  "__GOSH_" ++ key ++ "__"

/-- The tokens and their values.  Without a command its token has no value. -/
def LaunchValues.substitution (values : LaunchValues) : Substitution :=
  .ofList
    [ (token "EXEC", some (.single values.program)),
      (token "INIT", some (.single values.rcFile)),
      (token "CWD", some (.single values.directory)),
      (token "PWD", some (.single values.directory)),
      (token "CMD",
        if values.command.isEmpty then none else some (.single values.command)),
      (token "ARGS", some (.several values.arguments)) ]

end ProfileShell
