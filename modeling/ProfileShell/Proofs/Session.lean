import ProfileShell.Proofs.Launch
import ProfileShell.Proofs.Profiles
import ProfileShell.Proofs.Selection.Invariants
import ProfileShell.Session

/-!
# From a request to a shell

Loading, selecting and writing the rc-file each have their own rule for names that
are repeated, undefined or empty.  They agree: what is prepared is the selection, no
more and no less.
-/

namespace ProfileShell.Session

variable {log : Log} {root : Path} {config : Config} {options : LaunchOptions}
  {host : Host} {shell : ShellDefinition} {program : String} {inherited : Environ}
  {directory : Path}

/-- What is prepared of what was gathered. -/
def prepare (log : Log) (root : Path) (config : Config) (options : LaunchOptions)
    (shell : ShellDefinition) (inherited : Environ) (directory : Path) (host : Host) :
    Except LaunchError Prepared × Host :=
  let gathered := gather log root config options host
  Launch.prepare (launchLog log options) config gathered.contents
    gathered.selection.profiles shell options inherited directory gathered.host

@[simp] theorem selection_gather (log : Log) (root : Path) (config : Config)
    (options : LaunchOptions) (host : Host) :
    (gather log root config options host).selection = config.select options.profiles := rfl

theorem gather_reported (log : Log) (root : Path) (config : Config)
    (options : LaunchOptions) (host : Host) :
    log.Reported host (gather log root config options host).host := by
  have loaded := Profiles.loadReporting_reported log root config.profiles host
  have selected := log.emitAll_reported
    ((config.select options.profiles).notices.map SelectionNotice.record)
    (Profiles.loadReporting log root config.profiles host).2
  have announced := (launchLog log options).emit_reported (launchRecord options)
    (log.emitAll ((config.select options.profiles).notices.map SelectionNotice.record)
      (Profiles.loadReporting log root config.profiles host).2)
  exact (loaded.trans selected).trans announced.of_withField

theorem get?_gather (log : Log) (root : Path) (config : Config) (options : LaunchOptions)
    (host : Host) (name : String) :
    (gather log root config options host).contents.get? name =
      (config.profiles.get? name).map
        (Profiles.octets (Profiles.hostAt log root config.profiles host name) root name) :=
  Profiles.get?_loadReporting log root config.profiles host name

theorem octetsOf_gather (log : Log) (root : Path) (config : Config)
    (options : LaunchOptions) (host : Host) :
    (gather log root config options host).contents.octetsOf = fun name =>
      Profiles.octetsOf (Profiles.hostAt log root config.profiles host name) root
        config.profiles name := by
  funext name
  rw [ProfileContents.octetsOf, get?_gather, Profiles.octetsOf]

theorem defines_gather (log : Log) (root : Path) (config : Config)
    (options : LaunchOptions) (host : Host) (name : String) :
    (gather log root config options host).contents.defines name =
      config.profiles.defines name := by
  rw [ProfileContents.defines, get?_gather, Option.isSome_map, Catalog.defines]

/-- Everything that is selected is written, once and in its place. -/
theorem profiles_ofSelection_gather (log : Log) (root : Path) (config : Config)
    (options : LaunchOptions) (host : Host) :
    (RcDraft.ofSelection (gather log root config options host).contents
      (config.select options.profiles).profiles).profiles =
        (config.select options.profiles).profiles := by
  apply RcDraft.profiles_ofSelection_of_nodup
  · exact Selection.select_nodup config options.profiles
  · intro name selected
    rw [defines_gather]
    exact Selection.select_defines config options.profiles name selected

/-- If the program of the shell expands and an rc-file can be written, the shell is
prepared with the selection: these are its profiles, the rc-file holds their octets one
after another, and the outermost session lists them in its environment.  The octets are
those of the first definition of each name, as its files are when it is loaded.  That is
as they are at first, unless the log writes to one of them; its file, which was opened
ahead of everything, is never the rc-file. -/
theorem prepare_selected (opened : log.IsOpen host)
    (expanded : Path.expand host.environ shell.program = .ok program)
    (outermost : inherited.get? Environ.profileVariable = none)
    (created : ∀ error,
      (prepare log root config options shell inherited directory host).1 ≠
        .error (.rcFile error)) :
    ∃ prepared after,
      prepare log root config options shell inherited directory host =
          (.ok prepared, after) ∧
        prepared.profiles = (config.select options.profiles).profiles ∧
        prepared.profiles.Nodup ∧
        after.read prepared.rcFile.path =
          .ok ((config.select options.profiles).profiles.flatMap fun name =>
            Profiles.octetsOf (Profiles.hostAt log root config.profiles host name) root
              config.profiles name) ∧
        prepared.environ.get? Environ.profileVariable =
          some (Utf8.encode (",".intercalate (config.select options.profiles).profiles)) ∧
        ∀ name, (∀ profile, config.profiles.get? name = some profile →
            ∀ file ∈ profile.includes, log.Spares host
              (Fragments.path host (Profiles.directory root name) file)) →
          Profiles.octetsOf (Profiles.hostAt log root config.profiles host name) root
              config.profiles name =
            Profiles.octetsOf host root config.profiles name := by
  have reported := gather_reported log root config options host
  have still : (launchLog log options).IsOpen (gather log root config options host).host :=
    reported.isOpen opened
  have again : Path.expand (gather log root config options host).host.environ
      shell.program = .ok program := by
    rw [reported.environ]
    exact expanded
  have written := profiles_ofSelection_gather log root config options host
  obtain ⟨prepared, after, done, _, profiles, environ, content⟩ :=
    Launch.prepare_of_created still again created
  rw [selection_gather] at profiles content
  have listed : prepared.profiles = (config.select options.profiles).profiles :=
    profiles.trans written
  refine ⟨prepared, after, done, listed, ?_, ?_, ?_, fun name => Profiles.octetsOf_hostAt⟩
  · rw [listed]
    exact Selection.select_nodup config options.profiles
  · have consistent := RcDraft.consistent_ofSelection
      (gather log root config options host).contents (config.select options.profiles).profiles
    rw [content, consistent.content, written, octetsOf_gather]
  · rw [environ, listed]
    exact Environ.get?_profileVariable_of_outermost
      (Launch.get?_baseEnviron_eq_none outermost) _ _ _

/-- A repeated profile and one of the profiles that it inherits inherit each other; it
also inherits a name that no profile has and includes a file that is not there. -/
def layered : Config :=
  { Config.empty with
    profiles :=
      ⟨[ ("work", ⟨none, ["W=1\n"], ["tools", "gone"], ["more", "none"]⟩),
         ("tools", ⟨none, ["T=1\n"], ["work"], []⟩),
         ("work", ⟨none, ["X=1\n"], [], []⟩) ]⟩ }

/-- A host with one file to include. -/
def desk : Host :=
  { volume :=
      ⟨[ ([Utf8.encode "tmp"], .directory 0o777),
         ([Utf8.encode "work"], .directory 0o755),
         ([Utf8.encode "work", Utf8.encode "more"], .file (Utf8.encode "M=1\n") 0o644) ]⟩
    directory := Path.ofText "/"
    environ := .empty
    output := []
    errors := []
    outputIsTerminal := false
    errorsIsTerminal := false
    journal := []
    temporaryEndings := ["000000"]
    process := 1 }

/-- A log that keeps what it is told. -/
def ledger : Log := ⟨.ascii, .journal, true, false, []⟩

def plain : ShellDefinition := ⟨"/bin/sh", .empty⟩

/-- Programs that do nothing. -/
def idle : Machine := fun _ _ host => (.exited 0, host)

/-- A request that names the repeated profile twice. -/
def twice : LaunchOptions :=
  { LaunchOptions.byDefault with profiles := ["work", "work"] }

theorem prepare_selected_layered :
    ∃ prepared after,
      prepare .silent (Path.ofText "/") layered twice plain .empty (Path.ofText "/") desk =
          (.ok prepared, after) ∧
        prepared.profiles = ["tools", "work"] ∧
        after.read prepared.rcFile.path = .ok (Utf8.encode "T=1\nW=1\nM=1\n") ∧
        prepared.environ.get? Environ.profileVariable = some (Utf8.encode "tools,work") := by
  have opened : Log.silent.IsOpen desk := fun _ target => nomatch target
  have expanded : Path.expand desk.environ plain.program = .ok "/bin/sh" := by
    simp [plain, Path.expand, Path.expandVariables, Path.templateParts, List.mapM_cons]
    rfl
  have quiet : (gather .silent (Path.ofText "/") layered twice desk).host = desk := by
    decide +kernel
  have writes : (RcFile.write (launchLog .silent twice)
      (gather .silent (Path.ofText "/") layered twice desk).contents
      (layered.select twice.profiles).profiles desk).1.toOption.isSome = true := by
    decide +kernel
  have created : ∀ error,
      (prepare .silent (Path.ofText "/") layered twice plain .empty (Path.ofText "/")
        desk).1 ≠ .error (.rcFile error) := by
    intro error failed
    simp only [prepare, quiet, selection_gather] at failed
    rw [(Launch.prepare_eq_rcFile_iff expanded).mp failed] at writes
    cases writes
  obtain ⟨prepared, after, done, profiles, _, content, listed, _⟩ :=
    prepare_selected opened expanded rfl created
  exact ⟨prepared, after, done, profiles, content, listed⟩

end ProfileShell.Session
