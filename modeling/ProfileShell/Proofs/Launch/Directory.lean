import ProfileShell.Proofs.Launch
import ProfileShell.Proofs.Path.Template
import ProfileShell.Proofs.Session
import ProfileShell.Proofs.Substitution.Slots
import ProfileShell.Proofs.Text.Utf8.Ascii

/-!
# The working directory of a launch

A profile may ask for the directory of the launch by a token.  The token stands for the
directory as text, and the text is then read as a path template.  So the directory is
kept where the text says all of it and nothing in it is taken for a variable.
-/

namespace ProfileShell

namespace Config

/-- The directory that the first declaring profile of a list asks for. -/
def declaredDirectory? (config : Config) (profiles : List String) : Option String :=
  profiles.findSome? fun name =>
    (config.profiles.get? name).bind ProfileDefinition.directory

end Config

namespace Launch

variable {log : Log} {config : Config} {contents : ProfileContents}
  {selection : List String} {shell : ShellDefinition} {options : LaunchOptions}
  {inherited : Environ} {directory : Path} {host after : Host} {prepared : Prepared}

/-- The first profile that declares a directory decides, if its directory can be used. -/
theorem profileDirectory_of_declared {environ : Environ} {values : Substitution}
    {profiles : List String} {template text path : String}
    (declared : config.declaredDirectory? profiles = some template)
    (becomes : values.expand template = .single text) (occupied : text ≠ "")
    (expanded : Path.expand environ text = .ok path) :
    (profileDirectory config environ values profiles).1 = some (Path.ofText path) := by
  induction profiles with
  | nil => cases declared
  | cons name rest ih =>
      unfold Config.declaredDirectory? at declared
      rw [List.findSome?_cons] at declared
      unfold profileDirectory
      cases asked : (config.profiles.get? name).bind ProfileDefinition.directory with
      | none =>
          rw [asked] at declared
          exact ih declared
      | some own =>
          rw [asked] at declared
          obtain rfl := Option.some.inj declared
          have filled : text.isEmpty = false := by
            simpa using occupied
          simp only [becomes, filled, expanded]
          rfl

private theorem expand_token_directory (values : LaunchValues) {key : String}
    (isDirectory : key = "CWD" ∨ key = "PWD") :
    values.substitution.expand (token key) = .single values.directory := by
  have own : Slot.ofTokens.lookup (token key) = some .directory := by
    rcases isDirectory with rfl | rfl <;> rfl
  exact values.expand_of_slot (token key) own

private theorem head?_display (absolute : Path.isAbsolute directory = true) :
    (Path.display directory).toList.head? = some '/' := by
  cases directory with
  | nil => cases absolute
  | cons octet rest =>
      have first : octet = Path.slash := by
        simpa [Path.isAbsolute] using absolute
      subst first
      rw [Path.display, Utf8.lossy, Utf8.pieces, Utf8.piecesFrom_cons, Utf8.advance,
        Utf8.start_of_one (by decide), String.toList_ofList]
      rfl

/-- Octets are those of the text that they show exactly if they are well-formed. -/
theorem ofText_display_eq_iff :
    Path.ofText (Path.display directory) = directory ↔
      (Utf8.decode? directory).isSome = true := by
  constructor
  · intro same
    rw [← same, Path.ofText, Utf8.decode?_encode, Option.isSome_some]
  · intro wellFormed
    obtain ⟨text, read⟩ := Option.isSome_iff_exists.mp wellFormed
    exact Utf8.encode_lossy_of_decode? read

/-- A profile that asks for the directory of the launch gets the directory that is shown
for it.  That is the directory itself exactly if its octets are a text.  A directory
with a dollar sign is another matter: its text is a template like others. -/
theorem directory_of_prepare
    (success : prepare log config contents selection shell options inherited directory host =
      (.ok prepared, after))
    (absolute : Path.isAbsolute directory = true)
    (plain : UInt8.ofNat '$'.toNat ∉ directory)
    (declared : config.declaredDirectory? prepared.profiles = some (token "CWD") ∨
      config.declaredDirectory? prepared.profiles = some (token "PWD")) :
    prepared.directory = Path.ofText (Path.display directory) ∧
      (prepared.directory = directory ↔ (Utf8.decode? directory).isSome = true) := by
  obtain ⟨_, _, _, _, decided⟩ := written_of_prepare success
  have shown : prepared.directory = Path.ofText (Path.display directory) := by
    obtain ⟨key, isDirectory, asked⟩ : ∃ key, (key = "CWD" ∨ key = "PWD") ∧
        config.declaredDirectory? prepared.profiles = some (token key) := by
      rcases declared with asked | asked
      · exact ⟨"CWD", .inl rfl, asked⟩
      · exact ⟨"PWD", .inr rfl, asked⟩
    have starts := head?_display absolute
    have occupied : Path.display directory ≠ "" := by
      intro empty
      rw [empty] at starts
      cases starts
    -- What is shown is read as a template, but it starts at the root and has no dollar sign:
    -- ill-formed octets are shown without one.
    have kept : Path.expand host.environ (Path.display directory) =
        .ok (Path.display directory) := by
      apply Path.expand_of_plain
      · exact fun dollar => plain (Utf8.mem_of_mem_lossy dollar (by decide) (by decide))
      · rw [starts]
        decide
    have becomes : (valuesOf options prepared.program prepared.rcFile.path
        directory).substitution.expand (token key) = .single (Path.display directory) :=
      expand_token_directory (valuesOf options _ _ directory) isDirectory
    rw [decided, profileDirectory_of_declared asked becomes occupied kept, Option.getD_some]
  exact ⟨shown, by rw [shown, ofText_display_eq_iff]⟩

/-- Two profiles, of which the second asks for the directory of the launch. -/
def staying : Config :=
  { Config.empty with
    profiles :=
      ⟨[ ("tools", .empty),
         ("work", { ProfileDefinition.empty with directory := some (token "CWD") }) ]⟩ }

/-- What is prepared in a directory, with a variable that its name may refer to. -/
def prepareIn (directory : Path) : Except LaunchError Prepared × Host :=
  prepare .silent staying ⟨[("tools", []), ("work", [])]⟩ ["tools", "work"] Session.plain
    .byDefault .empty directory
    { Session.desk with
      environ := Environ.ofList [(Utf8.encode "HOME", Utf8.encode "/home/me")] }

theorem directory_of_prepare_accented :
    ∃ prepared after, prepareIn (Path.ofText "/srv/~ é\"") = (.ok prepared, after) ∧
      prepared.directory = Path.ofText "/srv/~ é\"" := by
  obtain ⟨prepared, after, success, profiles⟩ := exists_of_map_eq_ok
    (by decide +kernel : (prepareIn (Path.ofText "/srv/~ é\"")).1.map Prepared.profiles =
      .ok ["tools", "work"])
  obtain ⟨_, same⟩ := directory_of_prepare success (by decide) (by decide)
    (.inl (by rw [profiles]; decide))
  exact ⟨prepared, after, success, same.mpr (by decide)⟩

/-- A profile that asks for the directory of the launch gets another one if the octets of
the directory are no text, and also if its name refers to a variable. -/
theorem prepare_changes_directory :
    staying.declaredDirectory? ["tools", "work"] = some (token "CWD") ∧
      (prepareIn [0x2F, 0xFF]).1.map (fun prepared => (prepared.profiles, prepared.directory)) =
        .ok (["tools", "work"], Path.ofText "/\uFFFD") ∧
      Path.ofText "/\uFFFD" ≠ [0x2F, 0xFF] ∧
      (prepareIn (Path.ofText "/srv/$HOME")).1.map
          (fun prepared => (prepared.profiles, prepared.directory)) =
        .ok (["tools", "work"], Path.ofText "/srv//home/me") ∧
      Path.ofText "/srv//home/me" ≠ Path.ofText "/srv/$HOME" := by
  decide +kernel

end Launch

end ProfileShell
