import ProfileShell.Entries
import ProfileShell.Environ

/-!
# Variables after a write

A write changes one variable.  The bookkeeping therefore leaves the list of profiles
as the history asks for it, whatever it does with the path of the rc-file.  Where that
path is not exposed, all other variables are as they would be if it were.
-/

namespace ProfileShell.Environ

@[simp] theorem get?_empty (name : Bytes) : empty.get? name = none := rfl

theorem get?_set (environ : Environ) (name value other : Bytes) :
    (environ.set name value).get? other =
      if other = name then some value else environ.get? other :=
  lookup_writeEntry name other value environ.entries

theorem get?_set_self (environ : Environ) (name value : Bytes) :
    (environ.set name value).get? name = some value := by
  rw [get?_set, if_pos rfl]

theorem get?_set_of_ne (environ : Environ) {name other : Bytes} (different : other ≠ name)
    (value : Bytes) : (environ.set name value).get? other = environ.get? other := by
  rw [get?_set, if_neg different]

theorem profileVariable_ne_rcFileVariable : profileVariable ≠ rcFileVariable := by decide

theorem get?_profileVariable_withBookkeeping (environ : Environ) (rcFile : Bytes)
    (profiles : List String) (expose : Bool) :
    (environ.withBookkeeping rcFile profiles expose).get? profileVariable =
      some (profileHistory profiles (environ.get? profileVariable)) := by
  have outer : (if expose || environ.defines rcFileVariable then
      environ.set rcFileVariable rcFile else environ).get? profileVariable =
        environ.get? profileVariable := by
    split
    · exact get?_set_of_ne environ profileVariable_ne_rcFileVariable rcFile
    · rfl
  rw [withBookkeeping, get?_set_self, outer]

/-- The outermost session lists its own profiles. -/
theorem get?_profileVariable_of_outermost {environ : Environ}
    (outermost : environ.get? profileVariable = none) (rcFile : Bytes)
    (profiles : List String) (expose : Bool) :
    (environ.withBookkeeping rcFile profiles expose).get? profileVariable =
      some (profileList profiles) := by
  rw [get?_profileVariable_withBookkeeping, outermost, profileHistory]

theorem defines_iff_mem_names (environ : Environ) (name : Bytes) :
    environ.defines name = true ↔ name ∈ environ.names :=
  isSome_lookup_iff_mem_keys name environ.entries

theorem names_set (environ : Environ) (name value : Bytes) :
    (environ.set name value).names =
      if name ∈ environ.names then environ.names else environ.names ++ [name] :=
  keys_writeEntry name value environ.entries

theorem nodup_names_set {environ : Environ} (distinct : environ.names.Nodup)
    (name value : Bytes) : (environ.set name value).names.Nodup :=
  nodup_keys_writeEntry distinct name value

theorem nodup_names_ofList (entries : List (Bytes × Bytes)) :
    (ofList entries).names.Nodup := by
  have fold : ∀ environ : Environ, environ.names.Nodup →
      (entries.foldl (fun environ entry => environ.set entry.1 entry.2)
        environ).names.Nodup := by
    induction entries with
    | nil => exact fun _ distinct => distinct
    | cons entry rest ih =>
        exact fun environ distinct => ih _ (nodup_names_set distinct entry.1 entry.2)
  exact fold empty List.nodup_nil

theorem get?_of_mem {environ : Environ} (distinct : environ.names.Nodup)
    {name value : Bytes} (member : (name, value) ∈ environ.entries) :
    environ.get? name = some value :=
  lookup_of_mem distinct member

theorem nodup_names_withBookkeeping {environ : Environ} (distinct : environ.names.Nodup)
    (rcFile : Bytes) (profiles : List String) (expose : Bool) :
    (environ.withBookkeeping rcFile profiles expose).names.Nodup := by
  unfold withBookkeeping
  apply nodup_names_set
  split
  · exact nodup_names_set distinct rcFileVariable rcFile
  · exact distinct

theorem get?_withBookkeeping_of_ne (environ : Environ) {name : Bytes}
    (different : name ≠ rcFileVariable) (rcFile : Bytes) (profiles : List String)
    (expose : Bool) :
    (environ.withBookkeeping rcFile profiles expose).get? name =
      if name = profileVariable then
        some (profileHistory profiles (environ.get? profileVariable))
      else environ.get? name := by
  by_cases same : name = profileVariable
  · rw [if_pos same, same, get?_profileVariable_withBookkeeping]
  · rw [if_neg same, withBookkeeping, get?_set_of_ne _ same]
    split
    · exact get?_set_of_ne environ different rcFile
    · rfl

/-- Of the variables that are exposed, only the path of the rc-file is hidden, unless it
was there before. -/
theorem names_withBookkeeping_hidden (environ : Environ) (rcFile hidden : Bytes)
    (profiles : List String) :
    (environ.withBookkeeping hidden profiles false).names =
      (environ.withBookkeeping rcFile profiles true).names.filter fun name =>
        name ≠ rcFileVariable || environ.defines rcFileVariable := by
  cases defined : environ.defines rcFileVariable with
  | true =>
      have member := (environ.defines_iff_mem_names rcFileVariable).mp defined
      rw [List.filter_eq_self.mpr (fun name _ => Bool.or_true _)]
      simp [withBookkeeping, names_set, defined, member]
  | false =>
      have missing : rcFileVariable ∉ environ.names := by
        rw [← environ.defines_iff_mem_names, defined]
        exact Bool.false_ne_true
      have kept : (environ.names.filter fun name => decide (name ≠ rcFileVariable)) =
          environ.names := by
        apply List.filter_eq_self.mpr
        intro name found
        have different : name ≠ rcFileVariable := fun same => missing (same ▸ found)
        simpa using different
      have different := profileVariable_ne_rcFileVariable
      simp only [withBookkeeping, names_set, defined, missing, Bool.or_self,
        Bool.false_eq_true, if_false, if_true, Bool.or_false,
        List.mem_append, List.mem_singleton, different, or_false]
      by_cases listed : profileVariable ∈ environ.names
      · rw [if_pos listed, if_pos listed, List.filter_append, kept]
        simp
      · rw [if_neg listed, if_neg listed, List.filter_append, List.filter_append, kept]
        simp [different]

/-- Variables that are hidden and variables that are exposed agree on every name but that
of the rc-file. -/
theorem withBookkeeping_agrees {environ : Environ} (distinct : environ.names.Nodup)
    (rcFile hidden : Bytes) (profiles : List String) :
    (environ.withBookkeeping hidden profiles false).names =
        (environ.withBookkeeping rcFile profiles true).names.filter (fun name =>
          name ≠ rcFileVariable || environ.defines rcFileVariable) ∧
      (environ.withBookkeeping hidden profiles false).names.Nodup ∧
      ∀ name value, (name, value) ∈ (environ.withBookkeeping hidden profiles false).entries →
        name ≠ rcFileVariable →
          (environ.withBookkeeping rcFile profiles true).get? name = some value := by
  have hiddenDistinct := nodup_names_withBookkeeping distinct hidden profiles false
  refine ⟨names_withBookkeeping_hidden environ rcFile hidden profiles, hiddenDistinct, ?_⟩
  intro name value member different
  have found := get?_of_mem hiddenDistinct member
  rwa [get?_withBookkeeping_of_ne _ different] at found ⊢

end ProfileShell.Environ
