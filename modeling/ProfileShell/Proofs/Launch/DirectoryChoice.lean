import ProfileShell.Proofs.Launch
import ProfileShell.Proofs.Path.Template
import ProfileShell.Proofs.Session

/-!
# Which profile decides the working directory

The directory of a profile is expanded twice: its tokens are replaced, and the text that
they leave is read as a path template.  The first profile with a text that is not empty
and can be read decides.  Whether anything is left of its text is not asked again, so the
working directory is empty if that text stands for variables that say nothing.
-/

namespace ProfileShell.Launch

/-- The text of a profile's directory with its tokens replaced, if that is one text. -/
def directoryText? (config : Config) (values : Substitution) (name : String) :
    Option String :=
  ((config.profiles.get? name).bind ProfileDefinition.directory).bind fun template =>
    match values.expand template with
    | .single text => some text
    | _ => none

/-- The path of a text, if it can be expanded. -/
def expandedPath? (environ : Environ) (text : String) : Option Path :=
  (Path.expand environ text).toOption.map Path.ofText

/-- The directory of the first profile whose directory is not empty after both
expansions. -/
def firstOccupied? (config : Config) (environ : Environ) (values : Substitution)
    (profiles : List String) : Option Path :=
  profiles.findSome? fun name =>
    ((directoryText? config values name).bind (expandedPath? environ)).filter (· ≠ [])

/-- The directory that a profile asks for: its text must not be empty, but its path
may be. -/
def askedDirectory? (config : Config) (environ : Environ) (values : Substitution)
    (name : String) : Option Path :=
  ((directoryText? config values name).filter (· ≠ "")).bind (expandedPath? environ)

variable {log : Log} {config : Config} {contents : ProfileContents}
  {selection : List String} {shell : ShellDefinition} {options : LaunchOptions}
  {inherited : Environ} {directory : Path} {host after : Host} {prepared : Prepared}
  {environ : Environ} {values : Substitution} {name : String}

/-! ## One profile -/

private theorem ofText_eq_nil_iff (text : String) : Path.ofText text = [] ↔ text = "" := by
  have nothing : Path.ofText "" = [] := rfl
  rw [← nothing]
  exact ⟨Utf8.encode_injective, congrArg Path.ofText⟩

theorem expandedPath?_eq_nil_iff (environ : Environ) (text : String) :
    expandedPath? environ text = some [] ↔ Path.Vanishes environ text := by
  rw [← Path.expand_eq_empty_iff, expandedPath?]
  cases Path.expand environ text <;> simp [Except.toOption, ofText_eq_nil_iff]

theorem askedDirectory?_eq_nil_iff :
    askedDirectory? config environ values name = some [] ↔
      ∃ text, directoryText? config values name = some text ∧ text ≠ "" ∧
        Path.Vanishes environ text := by
  simp only [askedDirectory?, Option.bind_eq_some_iff, Option.filter_eq_some_iff,
    expandedPath?_eq_nil_iff, decide_eq_true_eq, and_assoc]

/-- An empty text asks for nothing, and nothing would be left of it either. -/
theorem filter_askedDirectory? :
    (askedDirectory? config environ values name).filter (· ≠ []) =
      ((directoryText? config values name).bind (expandedPath? environ)).filter (· ≠ []) := by
  rw [askedDirectory?]
  cases directoryText? config values name with
  | none => rfl
  | some text =>
      by_cases empty : text = ""
      · have vanishes : expandedPath? environ "" = some [] :=
          (expandedPath?_eq_nil_iff environ "").mpr (Path.vanishes_empty environ)
        simp [empty, vanishes, Option.filter_some]
      · simp [empty, Option.filter_some]

/-! ## All profiles -/

theorem profileDirectory_eq (config : Config) (environ : Environ) (values : Substitution)
    (profiles : List String) :
    (profileDirectory config environ values profiles).1 =
      profiles.findSome? (askedDirectory? config environ values) := by
  induction profiles with
  | nil => rfl
  | cons name rest ih =>
      rw [List.findSome?_cons, ← ih, askedDirectory?, directoryText?, profileDirectory]
      cases (config.profiles.get? name).bind ProfileDefinition.directory with
      | none => rfl
      | some template =>
          cases becomes : values.expand template with
          | nothing => simp [becomes]
          | several texts => simp [becomes]
          | single text =>
              by_cases empty : text = ""
              · simp [becomes, empty, Option.filter_some]
              · cases expanded : Path.expand environ text <;>
                  simp [becomes, empty, Option.filter_some, expandedPath?, expanded,
                    Except.toOption]

/-- A search that also rejects some results finds the same, unless it would have found one
of those. -/
theorem findSome?_filter {α β : Type} {search : α → Option β} {accepts : β → Bool}
    {items : List α}
    (accepted : ∀ result, items.findSome? search = some result → accepts result = true) :
    (items.findSome? fun item => (search item).filter accepts) = items.findSome? search := by
  induction items with
  | nil => rfl
  | cons item rest ih =>
      rw [List.findSome?_cons] at accepted ⊢
      rw [List.findSome?_cons]
      cases found : search item with
      | none =>
          rw [found] at accepted
          exact ih accepted
      | some result =>
          rw [found] at accepted
          rw [Option.filter_some, if_pos (accepted result rfl)]

private theorem firstOccupied?_ne_nil {profiles : List String} {path : Path}
    (found : firstOccupied? config environ values profiles = some path) : path ≠ [] := by
  obtain ⟨name, _, kept⟩ := List.exists_of_findSome?_eq_some found
  simpa using (Option.filter_eq_some_iff.mp kept).2

/-- A launch from a directory works in a directory exactly if it works in the one that it
should: that of the first activated profile whose directory is not empty after both
expansions, or else the directory it is launched from.  It has no directory exactly if
the first profile that asks for one asks by a text of which nothing is left. -/
theorem directory_occupied_of_prepare
    (success : prepare log config contents selection shell options inherited directory host =
      (.ok prepared, after))
    (occupied : directory ≠ []) :
    let values := (valuesOf options prepared.program prepared.rcFile.path directory).substitution
    (prepared.directory ≠ [] ↔
        prepared.directory =
          (firstOccupied? config host.environ values prepared.profiles).getD directory) ∧
      (prepared.directory = [] ↔
        ∃ front name back text, prepared.profiles = front ++ name :: back ∧
          (∀ earlier ∈ front, askedDirectory? config host.environ values earlier = none) ∧
          directoryText? config values name = some text ∧ text ≠ "" ∧
            Path.Vanishes host.environ text) := by
  intro values
  obtain ⟨_, _, _, _, decided⟩ := written_of_prepare success
  rw [profileDirectory_eq] at decided
  have emptied : prepared.directory = [] ↔
      prepared.profiles.findSome? (askedDirectory? config host.environ values) = some [] := by
    rw [decided]
    cases prepared.profiles.findSome? (askedDirectory? config host.environ values) with
    | none => simpa using occupied
    | some path => simp
  refine ⟨⟨?_, ?_⟩, ?_⟩
  · intro remains
    -- Where the search ends with a path that is not empty, it has passed no empty one.
    have accepted : ∀ path,
        prepared.profiles.findSome? (askedDirectory? config host.environ values) = some path →
          decide (path ≠ []) = true := by
      rintro path found
      refine decide_eq_true fun empty => remains (emptied.mpr ?_)
      rw [found, empty]
    rw [decided, firstOccupied?, ← findSome?_filter accepted]
    simp only [filter_askedDirectory?]
  · intro same
    rw [same]
    cases found : firstOccupied? config host.environ values prepared.profiles with
    | none => exact occupied
    | some path => exact firstOccupied?_ne_nil found
  · rw [emptied, List.findSome?_eq_some_iff]
    simp only [askedDirectory?_eq_nil_iff]
    constructor
    · rintro ⟨front, name, back, parted, ⟨text, asks⟩, skipped⟩
      exact ⟨front, name, back, text, parted, skipped, asks⟩
    · rintro ⟨front, name, back, text, parted, skipped, asks⟩
      exact ⟨front, name, back, parted, ⟨text, asks⟩, skipped⟩

/-- A profile that asks for one directory or none. -/
def asking (directory : Option String) : ProfileDefinition :=
  { ProfileDefinition.empty with directory := directory }

/-- What is prepared with profiles that ask for directories, and with a variable that is
set to nothing. -/
def prepareAsking (directories : List (String × Option String)) :
    Except LaunchError Prepared × Host :=
  prepare .silent
    { Config.empty with profiles := ⟨directories.map fun (name, asks) => (name, asking asks)⟩ }
    ⟨directories.map fun (name, _) => (name, [])⟩ (directories.map Prod.fst) Session.plain
    .byDefault .empty (Path.ofText "/start")
    { Session.desk with environ := .ofList [(Utf8.encode "PROJECT", [])] }

theorem directory_occupied_of_prepare_skipping :
    ∃ prepared after,
      prepareAsking [("tools", none), ("command", some (token "CMD")), ("lost", some "$LOST"),
          ("work", some "/srv$PROJECT"), ("play", some "/srv/play")] = (.ok prepared, after) ∧
        prepared.directory = Path.ofText "/srv" := by
  obtain ⟨prepared, after, success, seen⟩ := exists_of_map_eq_ok
    (by decide +kernel : (prepareAsking [("tools", none), ("command", some (token "CMD")),
        ("lost", some "$LOST"), ("work", some "/srv$PROJECT"), ("play", some "/srv/play")]).1.map
      (fun prepared => (prepared.program, prepared.rcFile.path, prepared.profiles,
        prepared.directory.isEmpty)) =
      .ok ("/bin/sh", Path.ofText "/tmp/goshrc-000000",
        ["tools", "command", "lost", "work", "play"], false))
  simp only [Prod.mk.injEq] at seen
  obtain ⟨program, path, profiles, remains⟩ := seen
  obtain ⟨decided, _⟩ := directory_occupied_of_prepare success (by decide)
  refine ⟨prepared, after, success, (decided.mp ?_).trans ?_⟩
  · simpa using remains
  · rw [program, path, profiles]
    decide +kernel

/-- A profile that asks for a directory by an empty variable leaves the shell without one,
although the launch has a directory and so has the next profile. -/
theorem prepare_empties_directory :
    Path.ofText "/start" ≠ [] ∧
      (prepareAsking [("work", some "$PROJECT"), ("play", some "/srv/play")]).1.map
          (fun prepared => (prepared.profiles, prepared.directory)) =
        .ok (["work", "play"], []) := by
  decide +kernel

end ProfileShell.Launch
