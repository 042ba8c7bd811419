import ProfileShell.Config
import ProfileShell.Config.Reader
import ProfileShell.Proofs.Text.Blank
import ProfileShell.Proofs.Yaml.Nodes

/-!
# Reading a description back

The one-line description of a configuration is a configuration file, and what it says is
that configuration.
-/

namespace ProfileShell.Config

open Text (AllPrintable)
open Yaml (IsInline Mark Spells SpellsItems SpellsFields)

variable {anchors : Anchors} {path : KeyPath} {expected : String} {node : Yaml.Node} {mark : Mark}

/-! ## Values -/

theorem readText_of_spells {value : String} (spells : Spells node (.text value)) :
    readText anchors path expected node = pure value := by
  cases spells
  rfl

private theorem readTextsFrom_of_spells {nodes : List Yaml.Node} {values : List String}
    (spells : SpellsItems nodes (values.map .text)) (position : Nat) :
    readTextsFrom anchors path position nodes = pure values := by
  induction values generalizing nodes position with
  | nil =>
      cases spells
      rfl
  | cons value later ih =>
      rw [List.map_cons] at spells
      cases spells with
      | cons first others =>
          rw [readTextsFrom, readText_of_spells first, pure_bind, ih others, pure_bind]

theorem follow_sequence {nodes : List Yaml.Node} :
    follow anchors (.sequence mark none none nodes) =
      pure (.sequence mark none none nodes) := rfl

theorem follow_mapping {entries : List (Yaml.Node × Yaml.Node)} :
    follow anchors (.mapping mark none none entries) =
      pure (.mapping mark none none entries) := rfl

theorem placing_pure {α : Type} (value : α) :
    Reading.placing path mark (pure value) = pure value := rfl

theorem readTexts_of_spells {values : List String} (spells : Spells node (.texts values)) :
    readTexts anchors path node = pure values := by
  rw [Json.texts] at spells
  cases spells with
  | list mark each =>
      rw [readTexts, follow_sequence, pure_bind]
      dsimp only
      rw [readTextsFrom_of_spells each, placing_pure]

theorem readOptionalText_of_spells {value : Option String}
    (spells : Spells node (value.elim .null .text)) :
    readOptionalText anchors path node = pure value := by
  cases value with
  | none =>
      cases spells
      rfl
  | some text =>
      cases spells
      rfl

/-! ## Records -/

theorem readText_scalar {plain : Bool} {text : String} :
    readText anchors path expected (.scalar mark none none plain text) = pure text := rfl

theorem readRecord_of_read {α β : Type} {field : String → KeyPath → Yaml.Node → α → Reading α}
    {record filled : α} {finish : α → Except Cause β} {value : β}
    {entries : List (Yaml.Node × Yaml.Node)}
    (read : readFields anchors path field record entries = pure filled)
    (finished : finish filled = .ok value) :
    readRecord anchors path expected field record finish (.mapping mark none none entries) =
      pure value := by
  rw [readRecord, follow_mapping, pure_bind]
  simp only [read, pure_bind, finished, placing_pure]

theorem readTemplates_of_spells {templates : Templates} (spells : Spells node templates.toJson) :
    readTemplates anchors path node = pure templates := by
  rw [Templates.toJson] at spells
  obtain _ | _ | _ | ⟨mark, _ | ⟨commandLine, _ | ⟨interactive, _ | ⟨loginShell, _ | _⟩⟩⟩⟩ := spells
  apply readRecord_of_read
  · simp only [readFields, readText_scalar, pure_bind, templateField, fill, map_pure,
      readTexts_of_spells commandLine, readTexts_of_spells interactive,
      readTexts_of_spells loginShell]
    rfl
  · rfl

theorem readShell_of_spells {shell : ShellDefinition} (spells : Spells node shell.toJson) :
    readShell anchors path node = pure shell := by
  rw [ShellDefinition.toJson] at spells
  obtain _ | _ | _ | ⟨mark, _ | ⟨program, _ | ⟨templates, _ | _⟩⟩⟩ := spells
  apply readRecord_of_read
  · simp only [readFields, readText_scalar, pure_bind, shellField, fill, map_pure,
      readText_of_spells program, readTemplates_of_spells templates]
    rfl
  · rfl

theorem readProfile_of_spells {profile : ProfileDefinition} (spells : Spells node profile.toJson) :
    readProfile anchors path node = pure profile := by
  rw [ProfileDefinition.toJson] at spells
  obtain _ | _ | _ | ⟨mark, _ | ⟨directory, _ | ⟨declarations, _ | ⟨inherits,
    _ | ⟨includes, _ | _⟩⟩⟩⟩⟩ := spells
  apply readRecord_of_read
  · simp only [readFields, readText_scalar, pure_bind, profileField, fill, map_pure,
      readOptionalText_of_spells directory, readTexts_of_spells declarations,
      readTexts_of_spells inherits, readTexts_of_spells includes]
    rfl
  · rfl

/-! ## Catalogs -/

section Catalogs

variable {α : Type} {value : KeyPath → Yaml.Node → Reading α} {toJson : α → Json}

theorem readEntries_of_spells
    (reads : ∀ {path : KeyPath} {node : Yaml.Node} {content : α},
      Spells node (toJson content) → value path node = pure content)
    {written : List (Yaml.Node × Yaml.Node)} {entries : List (String × α)}
    (spells : SpellsFields written (entries.map fun entry => (entry.1, toJson entry.2))) :
    readEntries anchors path value written = pure entries := by
  induction entries generalizing written with
  | nil =>
      cases spells
      rfl
  | cons entry later ih =>
      rw [List.map_cons] at spells
      cases spells with
      | cons first others =>
          rw [readEntries, readText_scalar, pure_bind, reads first, pure_bind, ih others,
            pure_bind]

theorem readCatalog_of_spells
    (reads : ∀ {path : KeyPath} {node : Yaml.Node} {content : α},
      Spells node (toJson content) → value path node = pure content)
    {catalog : Catalog α} (spells : Spells node (catalog.toJson toJson)) :
    readCatalog anchors path value node = pure catalog := by
  rw [Catalog.toJson] at spells
  cases spells with
  | object mark each =>
      rw [readCatalog, follow_mapping, pure_bind]
      simp only [tagOf, Option.any_none, Bool.false_eq_true, if_false,
        readEntries_of_spells reads each, pure_bind, placing_pure]

end Catalogs

theorem readConfig_of_spells {config : Config} (spells : Spells node config.toJson) :
    readConfig node = .ok config := by
  rw [Config.toJson] at spells
  obtain _ | _ | _ | ⟨mark, _ | ⟨shells, _ | ⟨profiles, _ | _⟩⟩⟩ := spells
  rw [readConfig, readRecord_of_read]
  · rfl
  · simp only [readFields, readText_scalar, pure_bind, configField, fill, map_pure,
      readCatalog_of_spells readShell_of_spells shells,
      readCatalog_of_spells readProfile_of_spells profiles]
    rfl
  · rfl

/-! ## A whole description -/

theorem isInline_texts {values : List String} (printable : ∀ value ∈ values, AllPrintable value) :
    IsInline (.texts values) := by
  apply IsInline.list
  intro item member
  obtain ⟨value, listed, rfl⟩ := List.mem_map.mp member
  exact .text (printable value listed)

/-- Names that are short enough for keys. -/
def IsKey (name : String) : Prop :=
  AllPrintable name ∧ (Json.quote name).length ≤ 1024

instance : DecidablePred IsKey :=
  fun name => inferInstanceAs (Decidable (AllPrintable name ∧ _))

private theorem isKey_of_length {name : String} (printable : AllPrintable name)
    (short : name.length ≤ 500) : IsKey name := by
  have width := Json.length_quote_le printable
  exact ⟨printable, by omega⟩

theorem isInline_object {fields : List (String × Json)}
    (keys : ∀ name ∈ fields.map Prod.fst, IsKey name)
    (each : ∀ value ∈ fields.map Prod.snd, IsInline value) : IsInline (.object fields) := by
  apply IsInline.object
  · intro field listed
    exact (keys field.1 (List.mem_map_of_mem listed)).1
  · intro field listed
    exact (keys field.1 (List.mem_map_of_mem listed)).2
  · intro field listed
    exact each field.2 (List.mem_map_of_mem listed)

theorem isInline_templates {templates : Templates}
    (printable : ∀ text ∈ templates.texts, AllPrintable text) : IsInline templates.toJson := by
  simp only [Templates.texts, List.forall_mem_append] at printable
  obtain ⟨⟨commandLine, interactive⟩, loginShell⟩ := printable
  have keys : ∀ name ∈ ["commandline", "interactive", "loginshell"], IsKey name := by decide
  refine isInline_object keys ?_
  simp [isInline_texts commandLine, isInline_texts interactive, isInline_texts loginShell]

theorem isInline_shell {shell : ShellDefinition}
    (printable : ∀ text ∈ shell.texts, AllPrintable text) : IsInline shell.toJson := by
  obtain ⟨program, templates⟩ := List.forall_mem_cons.mp printable
  have keys : ∀ name ∈ ["exec", "flag"], IsKey name := by decide
  refine isInline_object keys ?_
  simp [IsInline.text program, isInline_templates templates]

theorem isInline_optionalText {value : Option String}
    (printable : ∀ text ∈ value.toList, AllPrintable text) :
    IsInline (value.elim .null .text) := by
  cases value with
  | none => exact .null
  | some text => exact .text (printable text List.mem_cons_self)

theorem isInline_profile {profile : ProfileDefinition}
    (printable : ∀ text ∈ profile.texts, AllPrintable text) : IsInline profile.toJson := by
  simp only [ProfileDefinition.texts, List.forall_mem_append] at printable
  obtain ⟨⟨⟨directory, declarations⟩, inherits⟩, includes⟩ := printable
  have keys : ∀ name ∈ ["cwd", "env", "inherit", "include"], IsKey name := by decide
  refine isInline_object keys ?_
  simp [isInline_optionalText directory, isInline_texts declarations, isInline_texts inherits,
    isInline_texts includes]

theorem isInline_catalog {α : Type} {catalog : Catalog α} {toJson : α → Json}
    {texts : α → List String}
    (inline : ∀ {content : α}, (∀ text ∈ texts content, AllPrintable text) →
      IsInline (toJson content))
    (printable : ∀ text ∈ catalog.texts texts, AllPrintable text)
    (short : ∀ name ∈ catalog.names, name.length ≤ 500) :
    IsInline (catalog.toJson toJson) := by
  have each : ∀ entry ∈ catalog.entries, AllPrintable entry.1 ∧ IsInline (toJson entry.2) := by
    intro entry listed
    have own : ∀ text ∈ entry.1 :: texts entry.2, AllPrintable text :=
      fun text member => printable text (List.mem_flatMap.mpr ⟨entry, listed, member⟩)
    obtain ⟨name, content⟩ := List.forall_mem_cons.mp own
    exact ⟨name, inline content⟩
  apply isInline_object
  · simp only [List.map_map, List.forall_mem_map]
    intro entry listed
    exact isKey_of_length (each entry listed).1 (short entry.1 (List.mem_map_of_mem listed))
  · simp only [List.map_map, List.forall_mem_map]
    intro entry listed
    exact (each entry listed).2

theorem isInline_config {config : Config}
    (printable : ∀ text ∈ config.texts, AllPrintable text)
    (short : ∀ name ∈ config.names, name.length ≤ 500) : IsInline config.toJson := by
  simp only [texts, List.forall_mem_append] at printable
  simp only [names, List.forall_mem_append] at short
  have keys : ∀ name ∈ ["shell", "profile"], IsKey name := by decide
  refine isInline_object keys ?_
  simp [isInline_catalog isInline_shell printable.1 short.1,
    isInline_catalog isInline_profile printable.2 short.2]

/-- A description starts with a brace and ends with one. -/
theorem toList_describe (config : Config) :
    ∃ inside, config.describe.toList = '\x7b' :: inside ++ ['\x7d'] := by
  rw [describe, toJson, Json.render, String.toList_ofList]
  exact ⟨_, by rw [Json.write]⟩

private theorem nonBlank?_describe (config : Config) :
    (Text.nonBlank? config.describe).isSome := by
  obtain ⟨inside, braces⟩ := toList_describe config
  rw [← Option.isNone_eq_false_iff]
  exact Text.isNone_nonBlank?_of_visible braces (by decide)

theorem describe_ne_unwritten (config : Config) (cause : String) :
    config.describe ≠ unwritten cause := by
  intro same
  obtain ⟨inside, braces⟩ := toList_describe config
  have spelled : unwritten cause = "<unprintable config: " ++ cause ++ ">" := rfl
  have angle : "<unprintable config: ".toList = '<' :: "unprintable config: ".toList := by decide
  rw [same, spelled, String.toList_append, String.toList_append, angle, List.cons_append,
    List.cons_append] at braces
  exact absurd (List.head_eq_of_cons_eq braces) (by decide)

/-- The description of a configuration is never the text for one that cannot be written,
and it is a configuration file that says the same. -/
theorem parse_describe (config : Config)
    (printable : ∀ text ∈ config.texts, AllPrintable text)
    (short : ∀ name ∈ config.names, name.length ≤ 500) :
    (∀ cause, config.describe ≠ unwritten cause) ∧ parse config.describe = .ok config := by
  refine ⟨describe_ne_unwritten config, ?_⟩
  obtain ⟨root, document, spells⟩ := Yaml.document?_render (isInline_config printable short)
  have filled : (Text.nonBlank? config.describe).isNone = false := by
    rw [Option.isNone_eq_false_iff]
    exact nonBlank?_describe config
  rw [parse, filled, describe, toJson, document]
  exact congrArg (Except.mapError ParseError.fault) (readConfig_of_spells spells)

/-- Repeated names, a working directory that looks like null, and texts with quotation
marks, spaces and nothing at all. -/
theorem parse_describe_repeated :
    let config : Config :=
      { shells := ⟨[("sh", ⟨"/bin/sh", ⟨["-c", "echo \"a b\""], [], []⟩⟩)]⟩
        profiles :=
          ⟨[("a", ⟨some "null", ["x  y ", ""], ["a", "a"], []⟩), ("a", ⟨none, [], [], ["\\~"]⟩)]⟩ }
    (∀ cause, config.describe ≠ unwritten cause) ∧ parse config.describe = .ok config := by
  intro config
  have printable : ∀ text ∈ config.texts, AllPrintable text := by decide
  have short : ∀ name ∈ config.names, name.length ≤ 500 := by decide
  exact parse_describe config printable short

end ProfileShell.Config
