import ProfileShell.Proofs.Launch
import ProfileShell.Proofs.Session
import ProfileShell.Proofs.Substitution

/-!
# The arguments of a launch

A command takes the first argument for the name under which the program runs, and hands
on only those behind it.  So the program has to come first.  But it goes through the same
substitution as the template behind it, and a program that is empty or has a token inside
does not come out of it: then an argument of the template takes its place.
-/

namespace ProfileShell.Launch

variable {log : Log} {config : Config} {contents : ProfileContents}
  {selection : List String} {shell : ShellDefinition} {options : LaunchOptions}
  {inherited : Environ} {directory : Path} {host after : Host} {prepared : Prepared}

/-- A program comes out of a substitution as the one argument that it is: it is not empty
and has no token inside, or it is a token that stands for its own text. -/
inductive Survives (values : Substitution) (program : String) : Prop where
  | plain (occupied : program ≠ "") (free : ¬ values.Mentions program)
  | itself {replacement : Replacement}
      (own : values.rule? program = some (some replacement))
      (same : Text.nonEmpty replacement.texts = [program])

theorem survives_iff {values : Substitution} {program : String} :
    Text.nonEmpty (values.expand program).texts = [program] ↔ Survives values program := by
  constructor
  · intro kept
    cases own : values.rule? program with
    | some rule =>
        rw [Substitution.expand_of_rule own] at kept
        cases rule with
        | none => cases kept
        | some replacement => exact .itself own kept
    | none =>
        by_cases mentions : values.Mentions program
        · rw [Substitution.expand_of_mentions own mentions] at kept
          cases kept
        · refine .plain ?_ mentions
          rintro rfl
          rw [Substitution.expand_of_not_mentions mentions] at kept
          cases kept
  · intro survives
    cases survives with
    | plain occupied free =>
        rw [Substitution.expand_of_not_mentions free]
        simpa [Text.nonEmpty, Replacement.texts] using occupied
    | itself own same =>
        rw [Substitution.expand_of_rule own]
        exact same

theorem arguments_eq (shell : ShellDefinition) (options : LaunchOptions) (program : String)
    (values : Substitution) :
    arguments shell options program values =
      Text.nonEmpty (values.expand program).texts ++
        Text.nonEmpty (values.expandAll (template shell options)) := by
  rw [arguments, Substitution.expandAll, List.flatMap_cons, Text.nonEmpty, List.filter_append]
  rfl

/-- The program is the first argument, and the template gives the others, exactly if the
program survives the substitution.  Then a command hands on all that the template
gives. -/
theorem arguments_of_prepare
    (success : prepare log config contents selection shell options inherited directory host =
      (.ok prepared, after)) :
    let values := (valuesOf options prepared.program prepared.rcFile.path directory).substitution
    let rest := Text.nonEmpty (values.expandAll (template shell options))
    Path.expand host.environ shell.program = .ok prepared.program ∧
      prepared.arguments = Text.nonEmpty (values.expand prepared.program).texts ++ rest ∧
      (prepared.arguments = prepared.program :: rest ↔ Survives values prepared.program) ∧
      (prepared.arguments = prepared.program :: rest →
        prepared.command.arguments = (prepared.program :: rest).map Utf8.encode) := by
  intro values rest
  obtain ⟨expanded, _, _, isArguments, _⟩ := written_of_prepare success
  have parted : prepared.arguments =
      Text.nonEmpty (values.expand prepared.program).texts ++ rest := by
    rw [isArguments]
    exact arguments_eq shell options prepared.program values
  refine ⟨expanded, parted, ?_, ?_⟩
  · have front : prepared.program :: rest = [prepared.program] ++ rest := rfl
    rw [parted, front, List.append_left_inj, survives_iff]
  · intro first
    rw [Prepared.command, first]
    rfl

/-- A shell at a place, with an empty argument and some tokens in its template. -/
def shellAt (program : String) : ShellDefinition :=
  ⟨program,
    { Templates.empty with
      interactive := ["-i", "", token "CMD", token "INIT", "--in=" ++ token "CWD"] }⟩

/-- What is prepared to start an interactive shell. -/
def prepareAt (program : String) : Except LaunchError Prepared × Host :=
  prepare .silent .empty ⟨[]⟩ [] (shellAt program) .byDefault .empty (Path.ofText "/")
    Session.desk

theorem arguments_of_prepare_interactive :
    ∃ prepared after, prepareAt "/bin/sh" = (.ok prepared, after) ∧
      prepared.arguments = ["/bin/sh", "-i", "/tmp/goshrc-000000"] ∧
      prepared.command.arguments =
        ["/bin/sh", "-i", "/tmp/goshrc-000000"].map Utf8.encode := by
  obtain ⟨prepared, after, success, seen⟩ := exists_of_map_eq_ok
    (by decide +kernel : (prepareAt "/bin/sh").1.map
      (fun prepared => (prepared.program, prepared.rcFile.path)) =
        .ok ("/bin/sh", Path.ofText "/tmp/goshrc-000000"))
  obtain ⟨program, path⟩ := Prod.mk.inj seen
  obtain ⟨_, _, keeps, handsOn⟩ := arguments_of_prepare success
  rw [program, path] at keeps handsOn
  have survives : Survives (valuesOf .byDefault "/bin/sh"
      (Path.ofText "/tmp/goshrc-000000") (Path.ofText "/")).substitution "/bin/sh" :=
    .plain (by decide)
      (mt (Substitution.recognises_none_iff (Substitution.lists_tokens _)).mpr
        (by decide +kernel))
  have first := keeps.mpr survives
  have rest : Text.nonEmpty ((valuesOf .byDefault "/bin/sh"
      (Path.ofText "/tmp/goshrc-000000") (Path.ofText "/")).substitution.expandAll
        (template (shellAt "/bin/sh") .byDefault)) =
      ["-i", "/tmp/goshrc-000000"] := by decide +kernel
  exact ⟨prepared, after, success, rest ▸ first, rest ▸ handsOn first⟩

/-- A program with a token inside is dropped, and the shell runs under the name of an
argument of its template. -/
theorem prepare_drops_program :
    (prepareAt "/opt/__GOSH_CWD__/sh").1.map
        (fun prepared => (prepared.program, prepared.arguments, prepared.command.arguments)) =
      .ok ("/opt/__GOSH_CWD__/sh", ["-i", "/tmp/goshrc-000000"],
        ["-i", "/tmp/goshrc-000000"].map Utf8.encode) := by
  decide +kernel

end ProfileShell.Launch
