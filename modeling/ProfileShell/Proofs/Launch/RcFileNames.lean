import ProfileShell.Proofs.Environ.History
import ProfileShell.Proofs.Launch.Directory

/-!
# The names of the rc-file

A shell is told twice where its rc-file is: by an argument, in the place of a token, and by
a variable.  The variable holds the path octet by octet.  An argument is a text, so it
shows the path.  That is the path itself exactly if the directory for temporary files has
a name that is text.
-/

namespace ProfileShell

/-- A relative path is put behind a directory with at most a slash between them. -/
theorem Path.exists_join_eq (directory : Path) (name : String)
    (relative : isAbsolute (ofText name) = false) :
    ∃ between, (between = "" ∨ between = "/") ∧
      join directory (ofText name) = directory ++ ofText (between ++ name) := by
  unfold join
  cases isEmpty : directory.isEmpty with
  | true =>
      obtain rfl := List.isEmpty_iff.mp isEmpty
      exact ⟨"", .inl rfl, by simp⟩
  | false =>
      by_cases ends : directory.getLast? = some slash
      · exact ⟨"", .inl rfl, by simp [relative, ends]⟩
      · have slashed : ofText ("/" ++ name) = slash :: ofText name := Utf8.encode_append "/" name
        exact ⟨"/", .inr rfl, by simp [relative, ends, slashed]⟩

namespace RcFile

private theorem nameStart_append (ending : String) :
    nameStart ++ Utf8.encode ending = Path.ofText ("goshrc-" ++ ending) :=
  (Utf8.encode_append "goshrc-" ending).symm

/-- The path of an rc-file is that of its directory with an ASCII name behind it. -/
theorem exists_join_eq (directory : Path) (ending : String) :
    ∃ name, Path.join directory (nameStart ++ Utf8.encode ending) =
        directory ++ Utf8.encode name ∧
      ((Utf8.encode name).head? = some 0x67 ∨ (Utf8.encode name).head? = some 0x2F) := by
  have relative : Path.isAbsolute (Path.ofText ("goshrc-" ++ ending)) = false := by
    rw [← nameStart_append]
    rfl
  obtain ⟨between, isBetween, joined⟩ :=
    Path.exists_join_eq directory ("goshrc-" ++ ending) relative
  refine ⟨between ++ ("goshrc-" ++ ending), by rw [nameStart_append, joined, Path.ofText], ?_⟩
  rw [Utf8.encode_append, Utf8.encode_append]
  rcases isBetween with rfl | rfl
  · exact .inl rfl
  · exact .inr rfl

/-- The path of an rc-file is text exactly if that of its directory is. -/
theorem isSome_decode?_join_iff (directory : Path) (ending : String) :
    (Utf8.decode? (Path.join directory (nameStart ++ Utf8.encode ending))).isSome = true ↔
      (Utf8.decode? directory).isSome = true := by
  obtain ⟨name, joined, first⟩ := exists_join_eq directory ending
  rw [joined]
  -- The name starts with an ASCII octet, so no character of the directory goes on in it.
  apply Utf8.isSome_decode?_append_iff
  intro octet found
  rw [found, Option.some.injEq, Option.some.injEq] at first
  rcases first with rfl | rfl <;> decide

theorem join_ne_nil (directory : Path) (ending : String) :
    Path.join directory (nameStart ++ Utf8.encode ending) ≠ [] := by
  obtain ⟨name, joined, first⟩ := exists_join_eq directory ending
  rw [joined]
  rintro empty
  rw [(List.append_eq_nil_iff.mp empty).2] at first
  rcases first with first | first <;> cases first

end RcFile

namespace Launch

variable {log : Log} {config : Config} {contents : ProfileContents}
  {selection : List String} {shell : ShellDefinition} {options : LaunchOptions}
  {inherited : Environ} {directory : Path} {host after : Host} {prepared : Prepared}
  {front back : List String}

/-- The arguments around the path of an rc-file. -/
theorem arguments_of_named (values : LaunchValues) (shown : values.rcFile ≠ "")
    (named : template shell options = front ++ token "INIT" :: back) (program : String) :
    arguments shell options program values.substitution =
      Text.nonEmpty (values.substitution.expandAll (program :: front)) ++
        values.rcFile :: Text.nonEmpty (values.substitution.expandAll back) := by
  have becomes : values.substitution.expand (token "INIT") = .single values.rcFile :=
    values.expand_of_slot (token "INIT") rfl
  have behind : values.substitution.expandAll (token "INIT" :: back) =
      values.rcFile :: values.substitution.expandAll back := by
    rw [Substitution.expandAll, List.flatMap_cons, becomes]
    rfl
  have parted : values.substitution.expandAll (program :: template shell options) =
      values.substitution.expandAll (program :: front) ++
        values.rcFile :: values.substitution.expandAll back := by
    rw [named, ← behind, ← List.cons_append]
    exact List.flatMap_append
  rw [arguments, parted, Text.nonEmpty, List.filter_append, List.filter_cons_of_pos]
  · rfl
  · simpa using shown

private theorem command_arguments_of_ne_nil (occupied : prepared.arguments ≠ []) :
    prepared.command.arguments = prepared.arguments.map Utf8.encode := by
  unfold Prepared.command
  cases shape : prepared.arguments with
  | nil => exact absurd shape occupied
  | cons argument rest => rfl

/-- The rc-file is written under the path that its variable holds, in the directory for
temporary files.  A script that is printed holds it only if the variable was there
before.  Each token for the rc-file in the template becomes the text that shows the path,
and this names the rc-file exactly if the directory for temporary files is text. -/
theorem rcFileNames_of_prepare (opened : log.IsOpen host)
    (success : prepare log config contents selection shell options inherited directory host =
      (.ok prepared, after))
    (named : template shell options = front ++ token "INIT" :: back) :
    let path := prepared.rcFile.path
    let temporary := Path.temporaryDirectory host.environ host.directory
    let values := (valuesOf options prepared.program path directory).substitution
    (∃ ending ∈ host.temporaryEndings,
        path = Path.join temporary (RcFile.nameStart ++ Utf8.encode ending)) ∧
      after.read path = .ok (RcDraft.ofSelection contents selection).file.content ∧
      prepared.environ.get? Environ.rcFileVariable =
        (if options.generate &&
            !(baseEnviron options inherited).defines Environ.rcFileVariable then none
          else some path) ∧
      prepared.command.arguments =
        (Text.nonEmpty (values.expandAll (prepared.program :: front))).map Utf8.encode ++
          Path.ofText (Path.display path) ::
            (Text.nonEmpty (values.expandAll back)).map Utf8.encode ∧
      (Path.ofText (Path.display path) = path ↔ (Utf8.decode? temporary).isSome = true) := by
  intro path temporary values
  obtain ⟨_, wrote, _, isArguments, _⟩ := written_of_prepare success
  obtain ⟨_, _, environ, content⟩ := of_prepare opened success
  obtain ⟨ending, listed, isPath⟩ := RcFile.exists_ending_of_write wrote
  have occupied : prepared.rcFile.path ≠ [] := by
    rw [isPath]
    exact RcFile.join_ne_nil temporary ending
  -- Empty arguments are dropped, but some text always shows the path.
  have shown : Path.display path ≠ "" := Utf8.lossy_ne_empty occupied
  have parted := arguments_of_named
    (valuesOf options prepared.program path directory) shown named prepared.program
  rw [← isArguments] at parted
  have pointed : prepared.environ.get? Environ.rcFileVariable =
      if options.generate && !(baseEnviron options inherited).defines Environ.rcFileVariable
        then none else some path := by
    rw [environ, Environ.get?_rcFileVariable_withBookkeeping]
    cases defined : (baseEnviron options inherited).defines Environ.rcFileVariable with
    | true => simp [path]
    | false =>
        have missing := Option.isNone_iff_eq_none.mp (Option.isSome_eq_false_iff.mp defined)
        cases options.generate <;> simp [missing, path]
  refine ⟨⟨ending, listed, isPath⟩, content, pointed, ?_, ?_⟩
  · rw [command_arguments_of_ne_nil (by simp [parted]), parted, List.map_append,
      List.map_cons]
    rfl
  · rw [ofText_display_eq_iff, ← RcFile.isSome_decode?_join_iff temporary ending, ← isPath]

/-- A shell that is told where the rc-file is. -/
def sourcing : ShellDefinition :=
  ⟨"/bin/sh", { Templates.empty with interactive := ["--rcfile", token "INIT", "-i"] }⟩

/-- What is prepared with a directory for temporary files. -/
def prepareWithin (name : Bytes) : Except LaunchError Prepared × Host :=
  prepare .silent .empty ⟨[("work", Utf8.encode "W=1\n")]⟩ ["work"] sourcing .byDefault .empty
    (Path.ofText "/")
    { Session.desk with
      volume := ⟨[([name], .directory 0o777)]⟩
      environ := .ofList [(Utf8.encode "TMPDIR", Path.slash :: name)] }

theorem rcFileNames_of_prepare_accented :
    ∃ prepared after, prepareWithin (Utf8.encode "é") = (.ok prepared, after) ∧
      after.read prepared.rcFile.path = .ok (Utf8.encode "W=1\n") ∧
      prepared.environ.get? Environ.rcFileVariable = some prepared.rcFile.path ∧
      prepared.command.arguments =
        [Utf8.encode "/bin/sh", Utf8.encode "--rcfile", prepared.rcFile.path,
          Utf8.encode "-i"] := by
  have opened : ∀ host, Log.silent.IsOpen host := fun _ _ target => nomatch target
  obtain ⟨prepared, after, success, seen⟩ := exists_of_map_eq_ok
    (by decide +kernel : (prepareWithin (Utf8.encode "é")).1.map
      (fun prepared => (prepared.program, prepared.rcFile.path)) =
        .ok ("/bin/sh", Path.ofText "/é/goshrc-000000"))
  obtain ⟨program, path⟩ := Prod.mk.inj seen
  have named : template sourcing .byDefault = ["--rcfile"] ++ token "INIT" :: ["-i"] := rfl
  obtain ⟨_, content, pointed, isArguments, same⟩ :=
    rcFileNames_of_prepare (opened _) success named
  refine ⟨prepared, after, success, content.trans (by decide), pointed, ?_⟩
  rw [isArguments, same.mpr (by decide), program, path]
  decide +kernel

/-- In a directory whose name is not text, the argument names another file than the
variable. -/
theorem prepare_misnames_rcFile :
    (prepareWithin [0xFF]).1.map (fun prepared =>
        (prepared.rcFile.path, prepared.environ.get? Environ.rcFileVariable,
          prepared.command.arguments)) =
      .ok ([0x2F, 0xFF] ++ Path.ofText "/goshrc-000000",
        some ([0x2F, 0xFF] ++ Path.ofText "/goshrc-000000"),
        ["/bin/sh", "--rcfile", "/\uFFFD/goshrc-000000", "-i"].map Utf8.encode) ∧
      Path.ofText "/\uFFFD/goshrc-000000" ≠ [0x2F, 0xFF] ++ Path.ofText "/goshrc-000000" := by
  decide +kernel

end Launch

end ProfileShell
