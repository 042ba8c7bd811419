import ProfileShell.Proofs.Launch
import ProfileShell.Proofs.Script
import ProfileShell.Proofs.Session

/-!
# Scripts in place of launches

A run that prints a script and a run that starts the shell prepare the same way.  They
part only where a script has no rc-file to point at and where an orphan exports
nothing, so a script says what the shell would have been given.
-/

namespace ProfileShell.Launch

variable {log : Log} {config : Config} {contents : ProfileContents}
  {selection : List String} {shell : ShellDefinition} {options : LaunchOptions}
  {host after there : Host} {launched generated : Prepared}

private theorem script_of_read {prepared : Prepared} {octets : Bytes} (withExports : Bool)
    (found : host.read prepared.rcFile.path = .ok octets) :
    prepared.script withExports host =
      .ok (Script.render prepared.program
        (if withExports then some prepared.environ else none) octets) := by
  simp [Prepared.script, Script.ofFile, found, Except.map]

/-- A script is printed as far as the standard output takes it. -/
theorem generate_of_read {prepared : Prepared} {octets : Bytes} (withExports : Bool)
    (found : host.read prepared.rcFile.path = .ok octets) :
    let script := Script.render prepared.program
      (if withExports then some prepared.environ else none) octets
    prepared.generate withExports host =
      match host.refusals.script with
      | none => (.ok (), prepared.discard (host.print script))
      | some (taken, cause) =>
        (.error (.generate cause), prepared.discard (host.print (script.take taken))) := by
  unfold Prepared.generate Host.printScript
  rw [script_of_read withExports found]
  cases host.refusals.script with
  | none => rfl
  | some refusal => rfl

private theorem isOpen_temporaryEndings (opened : log.IsOpen host) (endings : List String) :
    log.IsOpen { host with temporaryEndings := endings } := opened

/-- A script that is printed and a launch agree.  Both runs have the same inputs apart from
the names that a temporary file may get.  The script names the program of the launch on
its first line and ends with the lines of the rc-file of the launch.  Between them an
orphan exports nothing, and any other launch exports the variables of its shell, in
their order and with their values.  Only the path of the rc-file is its own, and that
is left out unless the variable was there before.  The script is printed as far as the
standard output takes it. -/
theorem launch_generate (machine : Machine) (endings : List String)
    {entries : List (Bytes × Bytes)} (collected : host.environ = .ofList entries)
    (opened : log.IsOpen host)
    (resolved : config.resolveShell options.shell (host.environ.valueOf? "SHELL") =
      .ok shell)
    (launches : prepare log config contents selection shell
      { options with generate := false } host.environ host.directory host =
        (.ok launched, after))
    (generates : prepare log config contents selection shell
      { options with generate := true } host.environ host.directory
        { host with temporaryEndings := endings } = (.ok generated, there)) :
    ∃ octets exported script,
      after.read launched.rcFile.path = .ok octets ∧
      launch machine log config contents selection { options with generate := true }
          { host with temporaryEndings := endings } =
        (match there.refusals.script with
          | none => (.ok (.exit 0), generated.discard (there.print script))
          | some (taken, cause) =>
            (.error (.generate cause), generated.discard (there.print (script.take taken)))) ∧
      script = Utf8.encode ("#!" ++ launched.program) ++ [Script.lineFeed]
        ++ (exported.flatMap fun (name, value) =>
          Utf8.encode ("export " ++ Utf8.lossy name ++ "="
            ++ Text.Quoted.quote (Utf8.lossy value)) ++ [Script.lineFeed])
        ++ (((Script.dropEmptyEnd (octets.splitOn Script.lineFeed)).map
              Script.dropCarriageReturn).filter fun line =>
            Text.trim (Utf8.lossy line) != "#!" ++ launched.program).flatMap
          (· ++ [Script.lineFeed]) ∧
      (options.orphan = true → exported = []) ∧
      (options.orphan = false →
        exported.map Prod.fst = launched.command.environ.names.filter (fun name =>
          name ≠ Environ.rcFileVariable || host.environ.defines Environ.rcFileVariable) ∧
        (exported.map Prod.fst).Nodup ∧
        ∀ name value, (name, value) ∈ exported → name ≠ Environ.rcFileVariable →
          launched.command.environ.get? name = some value) := by
  obtain ⟨expands, profiles, environ, content⟩ := of_prepare opened launches
  obtain ⟨expandsToo, sameProfiles, hidden, sameContent⟩ :=
    of_prepare (isOpen_temporaryEndings opened endings) generates
  have program : generated.program = launched.program :=
    Except.ok.inj (expandsToo.symm.trans expands)
  let octets := (RcDraft.ofSelection contents selection).file.content
  let exports := if !options.orphan then some generated.environ else none
  refine ⟨octets, exports.elim [] Environ.entries, Script.render generated.program exports octets,
    content, ?_, ?_, ?_, ?_⟩
  · unfold launch
    dsimp only
    rw [resolved]
    dsimp only
    rw [generates]
    dsimp only
    rw [if_pos rfl, generate_of_read _ sameContent]
    cases there.refusals.script with
    | none => rfl
    | some refusal => rfl
  · rw [Script.render_eq, program]
  · intro orphan
    simp [exports, orphan]
  · intro notOrphan
    have listed : exports.elim [] Environ.entries = generated.environ.entries := by
      simp [exports, notOrphan]
    have distinct : host.environ.names.Nodup := by
      rw [collected]
      exact Environ.nodup_names_ofList entries
    have started : launched.command.environ = host.environ.withBookkeeping
        launched.rcFile.path (RcDraft.ofSelection contents selection).profiles true := by
      change launched.environ = _
      rw [environ, profiles, baseEnviron, notOrphan]
      rfl
    have printed : generated.environ = host.environ.withBookkeeping
        generated.rcFile.path (RcDraft.ofSelection contents selection).profiles false := by
      rw [hidden, sameProfiles, baseEnviron, notOrphan]
      rfl
    rw [listed, started, printed]
    exact Environ.withBookkeeping_agrees distinct _ _ _

/-- A session inside another one, whose values have to be quoted. -/
def nested : Host :=
  { Session.desk with
    environ := Environ.ofList [(Utf8.encode "A", Utf8.encode "\"1\""),
      (Environ.profileVariable, Utf8.encode "outer")] }

def onlyShell : Config := { Config.empty with shells := ⟨[("auto", Session.plain)]⟩ }

/-- A profile that names the shell, and ends a line with a carriage return and another
one not at all. -/
def carried : ProfileContents :=
  ⟨[("work", Utf8.encode "#!/bin/sh\nW=1\r\n\nX=2")]⟩

/-- The rc-file of the script gets another name than that of the launch. -/
def renamed : Host := { nested with temporaryEndings := ["111111"] }

private theorem exists_of_isSome {ε α β : Type} {result : Except ε α × β}
    (found : result.1.toOption.isSome = true) :
    ∃ value after, result = (.ok value, after) := by
  obtain ⟨outcome, after⟩ := result
  cases outcome with
  | error error => cases found
  | ok value => exact ⟨value, after, rfl⟩

theorem launch_generate_nested :
    ∃ (launched : Prepared) (after printed : Host) (octets : Bytes)
        (exported : List (Bytes × Bytes)),
      prepare .silent onlyShell carried ["work"] Session.plain
          { LaunchOptions.byDefault with generate := false } nested.environ nested.directory
          nested = (.ok launched, after) ∧
        after.read launched.rcFile.path = .ok octets ∧
        exported.map Prod.fst = launched.command.environ.names.filter (fun name =>
          name ≠ Environ.rcFileVariable || nested.environ.defines Environ.rcFileVariable) ∧
        launch Session.idle .silent onlyShell carried ["work"]
          { LaunchOptions.byDefault with generate := true } renamed =
            (.ok (.exit 0), printed) ∧
        printed.output = Utf8.encode
          ("#!/bin/sh\nexport A=\"\\\"1\\\"\"\nexport GOSH_PROFILE=\"work(outer)\"\n"
            ++ "W=1\n\nX=2\n") := by
  have opened : Log.silent.IsOpen nested := fun _ target => nomatch target
  obtain ⟨launched, after, launches⟩ := exists_of_isSome
    (by decide +kernel : (prepare .silent onlyShell carried ["work"] Session.plain
      { LaunchOptions.byDefault with generate := false } nested.environ nested.directory
      nested).1.toOption.isSome = true)
  obtain ⟨generated, there, generates⟩ := exists_of_isSome
    (by decide +kernel : (prepare .silent onlyShell carried ["work"] Session.plain
      { LaunchOptions.byDefault with generate := true } nested.environ nested.directory
      renamed).1.toOption.isSome = true)
  obtain ⟨octets, exported, script, content, prints, _, _, exports⟩ :=
    launch_generate Session.idle ["111111"] rfl opened (by decide +kernel) launches generates
  obtain ⟨names, _, _⟩ := exports rfl
  obtain ⟨ending, printed, succeeds⟩ := exists_of_isSome
    (by decide +kernel : (launch Session.idle .silent onlyShell carried ["work"]
      { LaunchOptions.byDefault with generate := true } renamed).1.toOption.isSome = true)
  have whole : there.refusals.script = none := by
    cases refused : there.refusals.script with
    | none => rfl
    | some refusal =>
        unfold renamed at succeeds
        rw [refused, succeeds] at prints
        cases prints
  rw [whole] at prints
  refine ⟨launched, after, _, octets, exported, launches, content, names, prints, ?_⟩
  have output : (launch Session.idle .silent onlyShell carried ["work"]
      { LaunchOptions.byDefault with generate := true } renamed).2.output = Utf8.encode
        ("#!/bin/sh\nexport A=\"\\\"1\\\"\"\nexport GOSH_PROFILE=\"work(outer)\"\n"
          ++ "W=1\n\nX=2\n") := by decide +kernel
  unfold renamed at output
  rw [prints] at output
  exact output

end ProfileShell.Launch
