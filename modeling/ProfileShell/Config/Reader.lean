import ProfileShell.Config
import ProfileShell.Config.Fault
import ProfileShell.Text.Blank

/-!
# Reading a configuration

A document is read against the form of a configuration.  Texts are taken as they
are written, whatever type they look like.  An omitted value stands for an empty
list or mapping, unknown fields are passed over, and the first fault in document
order is the one reported.

Every alias that is followed counts against a limit that grows with the document,
so that a small document cannot stand for an enormous one.
-/

namespace ProfileShell.Config

/-- The nodes behind the anchor slots of a document and the number of aliases
that may be followed. -/
structure Anchors where
  targets : List (Nat × Yaml.Node)
  limit : Nat

/-- The anchors of a document with the given root. -/
def Anchors.ofRoot (root : Yaml.Node) : Anchors :=
  ⟨root.anchored.reverse, root.eventCount * 100⟩

/-- A reader of nodes.  Its state is the number of aliases followed so far. -/
abbrev Reading := StateT Nat (Except Fault)

/-- Places the faults of a reader that have no place yet. -/
def Reading.placing {α : Type} (path : KeyPath) (mark : Yaml.Mark) (reading : Reading α) :
    Reading α :=
  fun followed => (reading followed).mapError (·.placedAt path mark)

/-- Fails without knowing the place. -/
def Reading.fail {α : Type} (cause : Cause) : Reading α :=
  throw (Fault.unplaced cause)

/-- The type that a plain scalar without a tag looks like. -/
def plainFound (text : String) : Found :=
  let characters := text.toList
  if text.isEmpty ∨ ["null", "Null", "NULL", "~"].contains text then .null
  else if ["true", "True", "TRUE"].contains text then .boolean true
  else if ["false", "False", "FALSE"].contains text then .boolean false
  else match integer? characters with
    | some found => found
    | none =>
      if Number.isPaddedDigits characters then .text text
      else match Number.floating? text with
        | some digits => .floating digits
        | none => .text text
where
  integer? (characters : List Char) : Option Found :=
    ((Number.unsigned? (Nat.pow 2 64) characters).map fun value => Found.integer value)
    <|> ((Number.negative? (Nat.pow 2 63) characters).map fun value =>
      Found.integer (-(value : Int)))
    <|> ((Number.unsigned? (Nat.pow 2 128) characters).map fun value =>
      Found.wideInteger value)
    <|> ((Number.negative? (Nat.pow 2 127) characters).map fun value =>
      Found.wideInteger (-(value : Int)))

/-- The spellings of null. -/
def isNull (text : String) : Bool :=
  ["null", "Null", "NULL", "~"].contains text

/-- The tags with a meaning of their own. -/
def standardTag (name : String) : Bytes :=
  Utf8.encode ("tag:yaml.org,2002:" ++ name)

/-- A tag that belongs to the document and not to the YAML standard. -/
def isLocalTag (tag : Bytes) : Bool :=
  tag.head? == some 0x21

/-- The type of a scalar, or what keeps its text from fitting its tag. -/
def scalarFound (tag : Option Bytes) (plain : Bool) (text : String) :
    Except Cause Found :=
  let untagged := if plain then plainFound text else .text text
  match tag with
  | none => .ok untagged
  | some tag =>
    if tag = standardTag "bool" then
      match plainFound text with
      | .boolean value => .ok (.boolean value)
      | _ => .error (.misfit text "a boolean")
    else if tag = standardTag "int" then
      match plainFound.integer? text.toList with
      | some found => .ok found
      | none => .error (.misfit text "an integer")
    else if tag = standardTag "float" then
      match Number.floating? text with
      | some digits => .ok (.floating digits)
      | none => .error (.misfit text "a float")
    else if tag = standardTag "null" then
      if isNull text then .ok .null else .error (.misfit text "null")
    else if isLocalTag tag then .ok untagged
    else .ok (.text text)

/-- The cause to report for a node that is not what was expected. -/
def unexpected (node : Yaml.Node) (expected : String) : Cause :=
  match node with
  | .scalar _ tag _ plain text =>
    match scalarFound tag plain text with
    | .ok found => .mismatch found expected
    | .error cause => cause
  | .sequence .. => .mismatch .sequence expected
  | .mapping .. | .alias .. => .mismatch .mapping expected

/-- The node that a node stands for: itself, or the target of an alias. -/
def follow (anchors : Anchors) (node : Yaml.Node) : Reading Yaml.Node :=
  match node with
  | .alias _ slot => do
    let followed ← get
    if followed + 1 > anchors.limit then .fail .excessiveRepetition
    else
      set (followed + 1)
      pure ((anchors.targets.lookup slot).getD node)
  | _ => pure node

def readText (anchors : Anchors) (path : KeyPath) (expected : String)
    (node : Yaml.Node) : Reading String := do
  let target ← follow anchors node
  match target with
  | .scalar _ _ _ _ text => pure text
  | _ => Reading.placing path target.mark (.fail (unexpected target expected))

/-- The texts of a list, whose items are numbered from `position` on. -/
def readTextsFrom (anchors : Anchors) (path : KeyPath) (position : Nat) :
    List Yaml.Node → Reading (List String)
  | [] => pure []
  | item :: rest => do
    let text ← readText anchors (.index position :: path) "a string" item
    return text :: (← readTextsFrom anchors path (position + 1) rest)

def readTexts (anchors : Anchors) (path : KeyPath) (node : Yaml.Node) :
    Reading (List String) := do
  let target ← follow anchors node
  Reading.placing path target.mark <| match target with
    | .sequence _ _ _ items => readTextsFrom anchors path 0 items
    | .scalar _ _ _ true "" => pure []
    | _ => .fail (unexpected target "a sequence")

/-- A text or null.  The fault of a text that does not fit the null tag is placed
by the mapping around it. -/
def readOptionalText (anchors : Anchors) (path : KeyPath) (node : Yaml.Node) :
    Reading (Option String) := do
  let target ← follow anchors node
  match target with
  | .scalar _ tag _ true text =>
    match tag with
    | none => pure (if text.isEmpty ∨ isNull text then none else some text)
    | some tag =>
      if tag = standardTag "null" then
        if isNull text then pure none else .fail (.misfit text "null")
      else pure (some text)
  | _ => some <$> readText anchors path "a string" target

/-- The path of the value of a key. -/
def valuePath (path : KeyPath) (key : Yaml.Node) : KeyPath :=
  match key with
  | .scalar _ _ _ _ text => .key text :: path
  | _ => .hidden :: path

/-- Reads the fields of a mapping one after the other into a record. -/
def readFields {α : Type} (anchors : Anchors) (path : KeyPath)
    (field : String → KeyPath → Yaml.Node → α → Reading α) (record : α) :
    List (Yaml.Node × Yaml.Node) → Reading α
  | [] => pure record
  | (key, value) :: rest => do
    let name ← readText anchors path "field identifier" key
    let record ← field name (valuePath path key) value record
    readFields anchors path field record rest

/-- A record with named fields, read from a mapping. -/
def readRecord {α β : Type} (anchors : Anchors) (path : KeyPath) (expected : String)
    (field : String → KeyPath → Yaml.Node → α → Reading α) (record : α)
    (finish : α → Except Cause β) (node : Yaml.Node) : Reading β := do
  let target ← follow anchors node
  let complete := fun entries => do
    let filled ← readFields anchors path field record entries
    match finish filled with
    | .ok value => pure value
    | .error cause => Reading.fail cause
  Reading.placing path target.mark <| match target with
    | .mapping _ _ _ entries => complete entries
    | .scalar _ _ _ true "" => complete []
    | _ => .fail (unexpected target expected)

/-- Fills a field that must not be filled yet. -/
def fill {α : Type} (name : String) (filled : Option α) (reading : Reading α) :
    Reading (Option α) :=
  match filled with
  | some _ => .fail (.duplicateField name)
  | none => some <$> reading

/-- The fields of a template set, as far as they have been read. -/
structure TemplateFields where
  commandLine : Option (List String) := none
  interactive : Option (List String) := none
  loginShell : Option (List String) := none

def templateField (anchors : Anchors) (name : String) (path : KeyPath)
    (value : Yaml.Node) (fields : TemplateFields) : Reading TemplateFields := do
  match name with
  | "commandline" =>
    return { fields with
      commandLine := ← fill name fields.commandLine (readTexts anchors path value) }
  | "interactive" =>
    return { fields with
      interactive := ← fill name fields.interactive (readTexts anchors path value) }
  | "loginshell" =>
    return { fields with
      loginShell := ← fill name fields.loginShell (readTexts anchors path value) }
  | _ => return fields

def readTemplates (anchors : Anchors) (path : KeyPath) (node : Yaml.Node) :
    Reading Templates :=
  readRecord anchors path "struct ShellFlags" (templateField anchors) {}
    (fun fields => .ok ⟨fields.commandLine.getD [], fields.interactive.getD [],
      fields.loginShell.getD []⟩) node

/-- The fields of a shell definition, as far as they have been read. -/
structure ShellFields where
  program : Option String := none
  templates : Option Templates := none

def shellField (anchors : Anchors) (name : String) (path : KeyPath)
    (value : Yaml.Node) (fields : ShellFields) : Reading ShellFields := do
  match name with
  | "exec" =>
    return { fields with
      program := ← fill name fields.program (readText anchors path "a string" value) }
  | "flag" =>
    return { fields with
      templates := ← fill name fields.templates (readTemplates anchors path value) }
  | _ => return fields

/-- A shell definition, which must name its program. -/
def readShell (anchors : Anchors) (path : KeyPath) (node : Yaml.Node) :
    Reading ShellDefinition :=
  readRecord anchors path "struct ShellSpec" (shellField anchors) {}
    (fun fields => match fields.program with
      | some program => .ok ⟨program, fields.templates.getD .empty⟩
      | none => .error (.missingField "exec")) node

/-- The fields of a profile, as far as they have been read. -/
structure ProfileFields where
  directory : Option (Option String) := none
  declarations : Option (List String) := none
  inherits : Option (List String) := none
  includes : Option (List String) := none

def profileField (anchors : Anchors) (name : String) (path : KeyPath)
    (value : Yaml.Node) (fields : ProfileFields) : Reading ProfileFields := do
  match name with
  | "cwd" =>
    return { fields with
      directory := ← fill name fields.directory (readOptionalText anchors path value) }
  | "env" =>
    return { fields with
      declarations := ← fill name fields.declarations (readTexts anchors path value) }
  | "inherit" =>
    return { fields with
      inherits := ← fill name fields.inherits (readTexts anchors path value) }
  | "include" =>
    return { fields with
      includes := ← fill name fields.includes (readTexts anchors path value) }
  | _ => return fields

def readProfile (anchors : Anchors) (path : KeyPath) (node : Yaml.Node) :
    Reading ProfileDefinition :=
  readRecord anchors path "struct ProfileSpec" (profileField anchors) {}
    (fun fields => .ok ⟨fields.directory.getD none, fields.declarations.getD [],
      fields.inherits.getD [], fields.includes.getD []⟩) node

def readEntries {α : Type} (anchors : Anchors) (path : KeyPath)
    (value : KeyPath → Yaml.Node → Reading α) :
    List (Yaml.Node × Yaml.Node) → Reading (List (String × α))
  | [] => pure []
  | (key, content) :: rest => do
    let name ← readText anchors path "a string" key
    let entry ← value (valuePath path key) content
    return (name, entry) :: (← readEntries anchors path value rest)

/-- The tag of a node that is no alias. -/
def tagOf : Yaml.Node → Option Bytes
  | .scalar _ tag .. | .sequence _ tag .. | .mapping _ tag .. => tag
  | .alias .. => none

/-- A catalog, which may be null but may not have a tag of the document's own. -/
def readCatalog {α : Type} (anchors : Anchors) (path : KeyPath)
    (value : KeyPath → Yaml.Node → Reading α) (node : Yaml.Node) : Reading (Catalog α) := do
  let target ← follow anchors node
  let expected := "a mapping of names to definitions"
  Reading.placing path target.mark <|
    if (tagOf target).any (fun tag => isLocalTag tag && (Utf8.decode? tag).isSome) then
      .fail (.mismatch .tagged expected)
    else match target with
      | .mapping _ _ _ entries => do
        return ⟨← readEntries anchors path value entries⟩
      | .scalar _ tag _ plain text =>
        match scalarFound tag plain text with
        | .ok .null => pure .empty
        | .ok found => .fail (.mismatch found expected)
        | .error cause => .fail cause
      | _ => .fail (unexpected target expected)

/-- The sections of a configuration, as far as they have been read. -/
structure ConfigFields where
  shells : Option (Catalog ShellDefinition) := none
  profiles : Option (Catalog ProfileDefinition) := none

def configField (anchors : Anchors) (name : String) (path : KeyPath)
    (value : Yaml.Node) (fields : ConfigFields) : Reading ConfigFields := do
  match name with
  | "shell" =>
    return { fields with
      shells := ← fill name fields.shells
        (readCatalog anchors path (readShell anchors) value) }
  | "profile" =>
    return { fields with
      profiles := ← fill name fields.profiles
        (readCatalog anchors path (readProfile anchors) value) }
  | _ => return fields

/-- A configuration, read from the root of a document. -/
def readConfig (root : Yaml.Node) : Except Fault Config :=
  let anchors := Anchors.ofRoot root
  Prod.fst <$> (readRecord anchors [] "struct Config" (configField anchors) {}
    (fun fields => .ok ⟨fields.shells.getD .empty, fields.profiles.getD .empty⟩)
    root).run 0

/-- Why a text is no configuration. -/
inductive ParseError where
  /-- The text is not well-formed YAML of at most one document. -/
  | malformed
  | fault (found : Fault)
  deriving DecidableEq, Repr

def ParseError.message : ParseError → String
  | .malformed => "not a well-formed YAML document"
  | .fault found => found.message

/-- The configuration that a text stands for.  A blank text and a stream without
documents are empty configurations. -/
def parse (content : String) : Except ParseError Config :=
  if (Text.nonBlank? content).isNone then .ok .empty
  else match Yaml.document? content with
    | none => .error .malformed
    | some none => .ok .empty
    | some (some root) => (readConfig root).mapError .fault

end ProfileShell.Config
