import ProfileShell.Entries
import ProfileShell.Text.Utf8

/-!
# Environments

An environment is an ordered set of variables.  A variable keeps the position of
its first write, and a name has one value: the one written last.  Names and values
are octets, as the system does not promise text.

A shell finds the rc-file it was started with and the profiles that are active in two
variables.  When one session is started inside another, the profiles of the outer session
stay behind those of the inner one, in parentheses.
-/

namespace ProfileShell

/-- Variables in the order of their first write. -/
structure Environ where
  entries : List (Bytes × Bytes)
  deriving DecidableEq, Repr

namespace Environ

def empty : Environ := ⟨[]⟩

instance : Inhabited Environ := ⟨empty⟩

def get? (environ : Environ) (name : Bytes) : Option Bytes :=
  environ.entries.lookup name

def defines (environ : Environ) (name : Bytes) : Bool :=
  (environ.get? name).isSome

def set (environ : Environ) (name value : Bytes) : Environ :=
  ⟨writeEntry name value environ.entries⟩

/-- The environment that a list of writes leaves behind. -/
def ofList (entries : List (Bytes × Bytes)) : Environ :=
  entries.foldl (fun environ entry => environ.set entry.1 entry.2) empty

def names (environ : Environ) : List Bytes :=
  environ.entries.map Prod.fst

def size (environ : Environ) : Nat :=
  environ.entries.length

def isEmpty (environ : Environ) : Bool :=
  environ.entries.isEmpty

/-- Each variable as a name, an equals sign and its value, for a log record. -/
def lines (environ : Environ) : List String :=
  environ.entries.map fun (name, value) => Utf8.lossy name ++ "=" ++ Utf8.lossy value

/-- The value of a variable with an ASCII or other textual name. -/
def valueOf? (environ : Environ) (name : String) : Option Bytes :=
  environ.get? (Utf8.encode name)

/-- The value of a variable, unless it is unset or empty. -/
def nonEmpty? (environ : Environ) (name : String) : Option Bytes :=
  (environ.valueOf? name).filter (!·.isEmpty)

/-! ## Bookkeeping -/

/-- Holds the path of the rc-file. -/
def rcFileVariable : Bytes := Utf8.encode "GOSH_RCFILE"

/-- Holds the names of the active profiles. -/
def profileVariable : Bytes := Utf8.encode "GOSH_PROFILE"

/-- The names of the profiles, separated by commas. -/
def profileList (profiles : List String) : Bytes :=
  Utf8.encode (",".intercalate profiles)

/-- The profiles of a session, ahead of those of the session around it. -/
def profileHistory (profiles : List String) (outer : Option Bytes) : Bytes :=
  match outer with
  | none | some [] => profileList profiles
  | some previous =>
    profileList profiles ++ Utf8.encode "(" ++ previous ++ Utf8.encode ")"

/-- Adds the bookkeeping variables.  The path of the rc-file is brought up to date
where there is one already, and is added only when `expose` is set: a script that
is printed has no rc-file to point at. -/
def withBookkeeping (environ : Environ) (rcFile : Bytes) (profiles : List String)
    (expose : Bool) : Environ :=
  let pointed :=
    if expose || environ.defines rcFileVariable then environ.set rcFileVariable rcFile
    else environ
  pointed.set profileVariable (profileHistory profiles (pointed.get? profileVariable))

end Environ

end ProfileShell
