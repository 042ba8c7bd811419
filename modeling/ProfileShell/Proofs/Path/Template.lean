import ProfileShell.Path.Template
import ProfileShell.Proofs.Text.Utf8

/-!
# What templates expand to

A template in which nothing stands for a variable or for the home directory is the path
itself.  A template that is not empty may still expand to nothing: if all of it stands
for variables that say nothing.
-/

namespace ProfileShell.Path

theorem templateParts_of_plain {characters : List Char} (plain : '$' ∉ characters) :
    templateParts characters = characters.map fun character => .text [character] := by
  induction characters with
  | nil => rw [templateParts, List.map_nil]
  | cons character rest ih =>
      obtain ⟨differs, others⟩ := not_or.mp (mt List.mem_cons.mpr plain)
      rw [List.map_cons, ← ih others, templateParts]
      · exact fun _ isDollar => absurd isDollar.symm differs
      · exact fun _ isDollar => absurd isDollar.symm differs
      · exact fun isDollar => differs isDollar.symm

private theorem mapM_expand_text (environ : Environ) (characters : List Char) :
    (characters.map fun character => TemplatePart.text [character]).mapM
        (TemplatePart.expand environ) = .ok (characters.map ([·])) := by
  induction characters with
  | nil => rfl
  | cons character rest ih =>
      rw [List.map_cons, List.mapM_cons, ih]
      rfl

/-- A path without a dollar sign is not changed, unless it starts at home. -/
theorem expand_of_plain {environ : Environ} {text : String} (plain : '$' ∉ text.toList)
    (away : text.toList.head? ≠ some '~') : expand environ text = .ok text := by
  have parts := mapM_expand_text environ text.toList
  rw [← templateParts_of_plain plain] at parts
  have together : (text.toList.map ([·])).flatten = text.toList := by
    rw [← List.flatMap_def, List.flatMap_singleton']
  unfold expand expandVariables
  rw [parts]
  dsimp only
  rw [together, String.ofList_toList, if_neg away]

/-! ## Templates that vanish -/

/-- A piece says nothing: a variable that is set to nothing, or one in braces that is set
to nothing or not at all and has the empty text in its place. -/
def TemplatePart.IsMute (environ : Environ) : TemplatePart → Prop
  | text characters => characters = []
  | plain name => variableText environ (String.ofList name) = .ok ""
  | braced name default =>
    default = some [] ∧
      ∀ value, variableText environ (String.ofList name) = .ok value → value = ""

/-- Nothing is left of a template: each of its pieces says nothing. -/
def Vanishes (environ : Environ) (template : String) : Prop :=
  ∀ part ∈ templateParts template.toList, part.IsMute environ

variable {environ : Environ}

theorem vanishes_empty (environ : Environ) : Vanishes environ "" := by
  simp [Vanishes, templateParts]

theorem TemplatePart.expand_eq_nil_iff (part : TemplatePart) :
    part.expand environ = .ok [] ↔ part.IsMute environ := by
  cases part with
  | text characters => simp [expand, IsMute]
  | plain name =>
      cases said : variableText environ (String.ofList name) <;> simp [expand, IsMute, said]
  | braced name default =>
      cases said : variableText environ (String.ofList name) with
      | error fault => cases default <;> simp [expand, IsMute, said]
      | ok value =>
          by_cases empty : value = ""
          · cases default <;> simp [expand, IsMute, said, empty]
          · simp [expand, IsMute, said, empty]

/-- Pieces say nothing together only if each of them says nothing. -/
theorem mapM_expand_flatten_iff (parts : List TemplatePart) :
    (∃ texts, parts.mapM (TemplatePart.expand environ) = .ok texts ∧ texts.flatten = []) ↔
      ∀ part ∈ parts, part.IsMute environ := by
  induction parts with
  | nil => simp [pure, Except.pure]
  | cons part rest ih =>
      rw [List.forall_mem_cons, ← ih, ← part.expand_eq_nil_iff, List.mapM_cons]
      cases part.expand environ with
      | error fault => simp [bind, Except.bind]
      | ok text =>
          cases rest.mapM (TemplatePart.expand environ) with
          | error fault => simp [bind, Except.bind]
          | ok texts => simp [bind, Except.bind, pure, Except.pure]

theorem expandVariables_eq_empty_iff (template : String) :
    expandVariables environ template = .ok "" ↔ Vanishes environ template := by
  rw [Vanishes, ← mapM_expand_flatten_iff, expandVariables]
  cases (templateParts template.toList).mapM (TemplatePart.expand environ) <;> simp

/-- The home directory is not used where it is empty. -/
theorem homeText?_ne_empty {home : String} (known : homeText? environ = some home) :
    home ≠ "" := by
  obtain ⟨octets, given, read⟩ := Option.bind_eq_some_iff.mp known
  have occupied := (Option.filter_eq_some_iff.mp given).2
  rintro rfl
  rw [← Utf8.encode_of_decode? read] at occupied
  cases occupied

theorem expandHome_eq_empty_iff (text : String) : expandHome environ text = "" ↔ text = "" := by
  unfold expandHome
  split
  next alone =>
      have occupied : text ≠ "" := by
        rintro rfl
        cases alone
      cases known : homeText? environ with
      | none => rfl
      | some home => simp [homeText?_ne_empty known, occupied]
  next rest inside =>
      have occupied : text ≠ "" := by
        rintro rfl
        cases inside
      cases homeText? environ <;> simp [occupied]
  next => rfl

/-- A template expands to nothing exactly if all of it stands for variables that say
nothing. -/
theorem expand_eq_empty_iff (template : String) :
    expand environ template = .ok "" ↔ Vanishes environ template := by
  rw [← expandVariables_eq_empty_iff, expand]
  cases expandVariables environ template with
  | error fault => simp
  | ok text =>
      by_cases atHome : template.toList.head? = some '~'
      · simp [atHome, expandHome_eq_empty_iff]
      · simp [atHome]

end ProfileShell.Path
