import ProfileShell.Launch
import ProfileShell.Proofs.Environ
import ProfileShell.Proofs.RcFile

/-!
# What a launch prepares

Preparing fails for a program that does not expand and for an rc-file that cannot be
created or written, and for nothing else.  What is prepared lists the profiles that were written,
and the rc-file reads as they were written.
-/

namespace ProfileShell.Launch

variable {log : Log} {config : Config} {contents : ProfileContents}
  {selection : List String} {shell : ShellDefinition} {options : LaunchOptions}
  {inherited : Environ} {directory : Path} {host : Host} {program : String}

/-- A run of which something is seen was a success. -/
theorem exists_of_map_eq_ok {ε α β γ : Type} {run : Except ε α × β} {view : α → γ} {seen : γ}
    (ends : run.1.map view = .ok seen) :
    ∃ value after, run = (.ok value, after) ∧ view value = seen := by
  obtain ⟨outcome, after⟩ := run
  cases outcome with
  | error error => cases ends
  | ok value => exact ⟨value, after, rfl, Except.ok.inj ends⟩

theorem get?_baseEnviron_eq_none {name : Bytes} (unset : inherited.get? name = none) :
    (baseEnviron options inherited).get? name = none := by
  unfold baseEnviron
  split
  · exact Environ.get?_empty name
  · exact unset

theorem complete_eq (log : Log) (config : Config) (shell : ShellDefinition)
    (options : LaunchOptions) (inherited : Environ) (directory : Path) (program : String)
    (rcFile : RcFile) (host : Host) :
    complete log config shell options inherited directory program rcFile host =
      (let values := (valuesOf options program rcFile.path directory).substitution
       let chosen := profileDirectory config host.environ values rcFile.profiles
       ( { program := program
           arguments := arguments shell options program values
           environ := (baseEnviron options inherited).withBookkeeping rcFile.path
             rcFile.profiles (!options.generate)
           directory := chosen.1.getD directory
           profiles := rcFile.profiles
           rcFile := rcFile },
         log.emitAll (chosen.2.map DirectoryNotice.record) host )) := rfl

theorem prepare_of_written {rcFile : RcFile} {written : Host}
    (expanded : Path.expand host.environ shell.program = .ok program)
    (wrote : RcFile.write log contents selection host = (.ok rcFile, written)) :
    prepare log config contents selection shell options inherited directory host =
      (let done := complete log config shell options inherited directory program rcFile written
       (.ok done.1, done.2)) := by
  unfold prepare
  simp only [expanded, wrote]

theorem prepare_eq_rcFile_iff {error : RcFileError}
    (expanded : Path.expand host.environ shell.program = .ok program) :
    (prepare log config contents selection shell options inherited directory host).1 =
        .error (.rcFile error) ↔
      (RcFile.write log contents selection host).1 = .error error := by
  rcases wrote : RcFile.write log contents selection host with ⟨cause | rcFile, written⟩
  · simp [prepare, expanded, wrote]
  · simp [prepare, expanded, wrote]

theorem prepare_of_created (opened : log.IsOpen host)
    (expanded : Path.expand host.environ shell.program = .ok program)
    (created : ∀ error, (prepare log config contents selection shell options inherited
      directory host).1 ≠ .error (.rcFile error)) :
    ∃ prepared after,
      prepare log config contents selection shell options inherited directory host =
          (.ok prepared, after) ∧
        prepared.program = program ∧
        prepared.profiles = (RcDraft.ofSelection contents selection).profiles ∧
        prepared.environ = (baseEnviron options inherited).withBookkeeping
          prepared.rcFile.path prepared.profiles (!options.generate) ∧
        after.read prepared.rcFile.path =
          .ok (RcDraft.ofSelection contents selection).file.content := by
  cases wrote : (RcFile.write log contents selection host).1 with
  | error error => exact absurd ((prepare_eq_rcFile_iff expanded).mpr wrote) (created error)
  | ok rcFile =>
      obtain ⟨volume, made, filled⟩ := RcFile.of_write wrote
      obtain ⟨written, wrote, content, spares, environ⟩ :=
        RcFile.write_of_created opened made filled
      have prepares := @prepare_of_written log config contents selection shell options
        inherited directory host program _ _ expanded wrote
      refine ⟨_, _, prepares, rfl, rfl, rfl, ?_⟩
      exact ((log.emitAll_reported _ written).read_of_spares spares).mpr content

theorem of_prepare (opened : log.IsOpen host) {prepared : Prepared} {after : Host}
    (success : prepare log config contents selection shell options inherited directory host =
      (.ok prepared, after)) :
    Path.expand host.environ shell.program = .ok prepared.program ∧
      prepared.profiles = (RcDraft.ofSelection contents selection).profiles ∧
      prepared.environ = (baseEnviron options inherited).withBookkeeping
        prepared.rcFile.path prepared.profiles (!options.generate) ∧
      after.read prepared.rcFile.path =
        .ok (RcDraft.ofSelection contents selection).file.content := by
  cases expanded : Path.expand host.environ shell.program with
  | error error => simp [prepare, expanded] at success
  | ok program =>
      have created : ∀ error, (prepare log config contents selection shell options inherited
          directory host).1 ≠ .error (.rcFile error) := by
        intro error failed
        rw [success] at failed
        cases failed
      obtain ⟨other, there, again, expandsTo, profiles, environ, content⟩ :=
        prepare_of_created opened expanded created
      rw [success] at again
      cases again
      exact ⟨by rw [expandsTo], profiles, environ, content⟩

/-- What is prepared is worked out from the program, the rc-file, and the values that the
tokens stand for. -/
theorem written_of_prepare {prepared : Prepared} {after : Host}
    (success : prepare log config contents selection shell options inherited directory host =
      (.ok prepared, after)) :
    let values := (valuesOf options prepared.program prepared.rcFile.path directory).substitution
    Path.expand host.environ shell.program = .ok prepared.program ∧
      (RcFile.write log contents selection host).1 = .ok prepared.rcFile ∧
      prepared.profiles = prepared.rcFile.profiles ∧
      prepared.arguments = arguments shell options prepared.program values ∧
      prepared.directory =
        (profileDirectory config host.environ values prepared.profiles).1.getD directory := by
  cases expanded : Path.expand host.environ shell.program with
  | error error => simp [prepare, expanded] at success
  | ok program =>
      cases wrote : RcFile.write log contents selection host with
      | mk outcome written =>
          cases outcome with
          | error error => simp [prepare, expanded, wrote] at success
          | ok rcFile =>
              have environ : written.environ = host.environ := by
                rw [← RcFile.environ_write log contents selection host, wrote]
              rw [prepare_of_written expanded wrote, complete_eq] at success
              obtain rfl := Except.ok.inj (Prod.mk.inj success).1
              dsimp only
              rw [environ]
              exact ⟨rfl, rfl, rfl, rfl, rfl⟩

end ProfileShell.Launch
