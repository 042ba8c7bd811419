import ProfileShell.Proofs.Program.Files
import ProfileShell.Proofs.WaitStatus

/-!
# Stages of a run

The first stage that stops a run decides how it ends, whatever the later ones would have
said, and they leave no trace.  A later stage is told here what the earlier ones have
found, and says nothing where they have found nothing.
-/

namespace ProfileShell

namespace Session

/-- No rc-file is created without a definition whose program expands. -/
theorem createFile_of_missing {log : Log} {session : Session} {host : Host}
    (missing : ∀ shell, session.config.resolveShell session.settings.launch.shell
        (host.environ.valueOf? "SHELL") = .ok shell →
      ∃ error, Path.expand host.environ shell.program = .error error) :
    ∃ error after, session.createFile log host = (.error error, after) := by
  have environ := (gather_reported log session.profileRoot session.config
    session.settings.launch host).environ
  unfold createFile
  dsimp only
  rw [environ]
  split
  next => exact ⟨_, _, rfl⟩
  next shell found =>
    obtain ⟨error, stuck⟩ := missing shell found
    rw [stuck]
    exact ⟨_, _, rfl⟩

end Session

/-- What may stop a run, in the order in which the run comes to it. -/
inductive Stage where
  | flags
  /-- The run only says something about the program. -/
  | about
  | log
  | configuration
  | shell
  | launch
  deriving DecidableEq, Repr

def Stage.all : List Stage := [.flags, .about, .log, .configuration, .shell, .launch]

namespace Program

/-- What the log stage finds: the settings, the log, and the host with the log open. -/
def opened? (arguments : List Bytes) (host : Host) : Option (Settings × Log × Host) :=
  match CommandLine.parse arguments with
  | .error _ => none
  | .ok line =>
    match settings line host with
    | .error _ => none
    | .ok asked =>
      match asked.sink.open host with
      | .error _ => none
      | .ok (target, opened) =>
        some (asked, .new asked.format target asked.debug opened, opened)

/-- What the configuration stage finds: the session, its log, and the host behind it. -/
def started? (arguments : List Bytes) (host : Host) : Option (Session × Log × Host) :=
  match opened? arguments host with
  | none => none
  | some (asked, log, opened) =>
    match Session.start log asked opened with
    | (.error _, _) => none
    | (.ok session, started) => some (session, log, started)

/-- How a stage stops a run, if it does. -/
def stops (machine : Machine) (arguments : List Bytes) (host : Host) : Stage → Option Ending
  | .flags =>
    match CommandLine.parse arguments with
    | .error .help => some (.exit 0)
    | .error _ => some (.exit 1)
    | .ok _ => none
  | .about =>
    match CommandLine.parse arguments with
    | .error _ => none
    | .ok line => if line.version || line.changelog then some (.exit 0) else none
  | .log =>
    match CommandLine.parse arguments with
    | .error _ => none
    | .ok _ => if (opened? arguments host).isNone then some (.exit 4) else none
  | .configuration =>
    match opened? arguments host with
    | none => none
    | some _ => if (started? arguments host).isNone then some (.exit 2) else none
  | .shell =>
    match started? arguments host with
    | none => none
    | some (session, log, started) =>
      match session.createShell machine log started with
      | (.error _, _) => some (.exit 3)
      | (.ok _, _) => none
  | .launch =>
    match started? arguments host with
    | none => none
    | some (session, log, started) =>
      match session.createShell machine log started with
      | (.error _, _) => none
      | (.ok ending, _) => some ending

variable {machine : Machine} {arguments : List Bytes} {host : Host}

theorem runShell_eq_findSome? {line : CommandLine}
    (parsed : CommandLine.parse arguments = .ok line) :
    some (concluded (runShell machine line host)).1 =
      [Stage.log, .configuration, .shell, .launch].findSome?
        (stops machine arguments host) := by
  cases understood : settings line host with
  | error error =>
      simp [runShell, concluded, stops, opened?, parsed, understood, Halt.flags,
        ExitCode.code]
  | ok asked =>
      cases opened : asked.sink.open host with
      | error error =>
          simp [runShell, concluded, stops, opened?, parsed, understood, opened, Halt.flags,
            ExitCode.code]
      | ok result =>
          obtain ⟨target, there⟩ := result
          let log := Log.new asked.format target asked.debug there
          rcases started : Session.start log asked there with ⟨error | session, after⟩
          · simp [runShell, runWithLog, concluded, stops, opened?, started?, parsed,
              understood, opened, started, log, Halt.initialization, ExitCode.code]
          · rcases made : session.createShell machine log after with ⟨error | ending, later⟩
            · simp [runShell, runWithLog, concluded, stops, opened?, started?, parsed,
                understood, opened, started, made, log, Halt.shell, ExitCode.code]
            · simp [runShell, runWithLog, concluded, stops, opened?, started?, parsed,
                understood, opened, started, made, log]

/-- The first stage that stops a run decides how it ends. -/
theorem run_eq_findSome? :
    some (run machine arguments host).1 =
      Stage.all.findSome? (stops machine arguments host) := by
  cases parsed : CommandLine.parse arguments with
  | error error =>
      cases error <;> simp [Stage.all, run, stops, parsed, ExitCode.code]
  | ok line =>
      cases version : line.version with
      | true => simp [Stage.all, run, stops, parsed, version, ExitCode.code]
      | false =>
          cases changelog : line.changelog with
          | true => simp [Stage.all, run, stops, parsed, version, changelog, ExitCode.code]
          | false =>
              have silent : Stage.all.findSome? (stops machine arguments host) =
                  [Stage.log, .configuration, .shell, .launch].findSome?
                    (stops machine arguments host) := by
                simp [Stage.all, stops, parsed, version, changelog]
              have shell : run machine arguments host =
                  concluded (runShell machine line host) := by
                simp only [run, parsed, version, changelog]
                rfl
              rw [silent, shell]
              exact runShell_eq_findSome? parsed

/-- How a launch ends that has succeeded: a script is printed, or a child has ended, or
another program has taken the place of this process. -/
def LaunchEnds (machine : Machine) (log : Log) (session : Session) (started : Host)
    (ending : Ending) : Prop :=
  ∃ prepared later, session.prepareLaunch log started = (.ok prepared, later) ∧
    if session.settings.launch.generate then ending = .exit 0
    else ∃ program,
      let host := announced log session prepared later
      let status := (machine program prepared.command host).1
      prepared.command.locate host = .ok program ∧
        ending =
          if session.settings.launch.command.isEmpty then .exit status.exitCode
          else .replaced status

theorem launchEnds_of_createShell {log : Log} {session : Session} {ending : Ending}
    {after : Host} (success : session.createShell machine log host = (.ok ending, after)) :
    LaunchEnds machine log session host ending := by
  rw [createShell_eq] at success
  rcases made : session.prepareLaunch log host with ⟨error | prepared, later⟩
  · rw [made] at success
    cases success
  · rw [made] at success
    refine ⟨prepared, later, made, ?_⟩
    unfold finishLaunch at success
    dsimp only at success
    split at success
    next generates =>
      rw [if_pos generates]
      split at success <;> cases success
      rfl
    next launches =>
      rw [if_neg launches]
      split at success <;> cases success
      next program located runs => exact ⟨program, located, (if_pos runs).symm⟩
      next program located replaces =>
        exact ⟨program, located, (if_neg (by simp [replaces])).symm⟩

theorem launchEnds_of_stops {ending : Ending}
    (launch : stops machine arguments host .launch = some ending) :
    ∃ session log started, started? arguments host = some (session, log, started) ∧
      LaunchEnds machine log session started ending := by
  unfold stops at launch
  dsimp only at launch
  split at launch
  next => cases launch
  next session log started found =>
    split at launch
    next => cases launch
    next success =>
      cases launch
      exact ⟨session, log, started, found, launchEnds_of_createShell success⟩

theorem createShell_of_located {log : Log} {session : Session} {prepared : Prepared}
    {later : Host} {program : Place}
    (made : session.prepareLaunch log host = (.ok prepared, later))
    (launches : session.settings.launch.generate = false)
    (located : prepared.command.locate (announced log session prepared later) =
      .ok program) :
    ∃ ending after, session.createShell machine log host = (.ok ending, after) := by
  rw [createShell_eq, made]
  unfold finishLaunch
  simp only [launches, located]
  cases session.settings.launch.command.isEmpty with
  | true => exact ⟨_, _, rfl⟩
  | false => exact ⟨_, _, rfl⟩

/-- The run goes on behind the flags. -/
def GoesOn (arguments : List Bytes) : Prop :=
  ∃ line, CommandLine.parse arguments = .ok line ∧
    (line.version || line.changelog) = false

/-- What a run that is left alone has found out when it comes to a phase. -/
def Knows (machine : Machine) (arguments : List Bytes) (host : Host) (state : State) : Prop :=
  match state.phase with
  | .flags given => given = arguments ∧ state.host = host
  | .settings line =>
    CommandLine.parse arguments = .ok line ∧ (line.version || line.changelog) = false ∧
      state.host = host
  | .sink asked =>
    (∃ line, CommandLine.parse arguments = .ok line ∧
      (line.version || line.changelog) = false ∧ settings line host = .ok asked) ∧
        state.host = host
  | .session log asked =>
    GoesOn arguments ∧ opened? arguments host = some (asked, log, state.host)
  | .shell log session =>
    GoesOn arguments ∧ started? arguments host = some (session, log, state.host)
  | .file log session draft =>
    GoesOn arguments ∧ ∃ started, started? arguments host = some (session, log, started) ∧
      session.createFile log started = (.ok draft, state.host)
  | .launch log session prepared =>
    GoesOn arguments ∧ ∃ started, started? arguments host = some (session, log, started) ∧
      session.prepareLaunch log started = (.ok prepared, state.host)
  | .child _ _ _ | .ended _ _ _ | .successor _ _ =>
    GoesOn arguments ∧ ∃ session log started ending after,
      started? arguments host = some (session, log, started) ∧
        session.createShell machine log started = (.ok ending, after)
  | .finished _ => True

theorem Moves.knows {state next : State} (moves : Moves machine state next)
    (known : Knows machine arguments host state) : Knows machine arguments host next := by
  cases moves with
  | helps | rejectsFlags | tells | rejectsSettings | missesSink | missesSession | missesShell
  | missesContent | missesScript | printsScript | missesProgram | reportsChild
  | endsSuccessor | rests => trivial
  | readsFlags parsed quiet =>
      obtain ⟨rfl, rfl⟩ := known
      exact ⟨parsed, quiet, rfl⟩
  | readsSettings understood =>
      obtain ⟨parsed, quiet, rfl⟩ := known
      exact ⟨⟨_, parsed, quiet, understood⟩, rfl⟩
  | opensSink opened =>
      obtain ⟨⟨line, parsed, quiet, understood⟩, rfl⟩ := known
      dsimp only at understood opened
      refine ⟨⟨line, parsed, quiet⟩, ?_⟩
      simp [opened?, parsed, understood, opened]
  | startsSession success =>
      obtain ⟨goesOn, opened⟩ := known
      refine ⟨goesOn, ?_⟩
      simp [started?, opened, success]
  | createsFile created =>
      obtain ⟨goesOn, started⟩ := known
      exact ⟨goesOn, _, started, created⟩
  | fillsFile filled =>
      obtain ⟨goesOn, started, found, created⟩ := known
      refine ⟨goesOn, started, found, ?_⟩
      rw [Session.prepareLaunch_eq, created]
      exact filled
  | startsChild launches runs located | handsOver launches replaces located =>
      obtain ⟨goesOn, started, found, made⟩ := known
      obtain ⟨ending, after, success⟩ :=
        @createShell_of_located machine _ _ _ _ _ _ made launches located
      exact ⟨goesOn, _, _, started, ending, after, found, success⟩
  | endsChild => exact known

theorem knows_alone (time : Nat) :
    Knows machine arguments host ((Course.alone machine arguments host).finds time) := by
  induction time with
  | zero => exact ⟨rfl, rfl⟩
  | succ time ih => exact ((Course.alone machine arguments host).moves time).knows ih

private theorem environ_of_opened? {asked : Settings} {log : Log} {opened : Host}
    (found : opened? arguments host = some (asked, log, opened)) :
    opened.environ = host.environ := by
  unfold opened? at found
  split at found
  next => cases found
  next =>
    split at found
    next => cases found
    next =>
      split at found
      next => cases found
      next opens =>
        cases found
        obtain ⟨volume, rfl, _⟩ := Log.Sink.of_open opens
        rfl

private theorem isSome_opened?_of_started (started : (started? arguments host).isSome = true) :
    (opened? arguments host).isSome = true := by
  unfold started? at started
  split at started
  next => cases started
  next opened => rw [opened]; rfl

theorem environ_of_started? {session : Session} {log : Log} {started : Host}
    (found : started? arguments host = some (session, log, started)) :
    started.environ = host.environ := by
  unfold started? at found
  split at found
  next => cases found
  next asked log opened opens =>
    have same : opened.environ = host.environ := environ_of_opened? opens
    split at found
    next => cases found
    next starts =>
      cases found
      rw [← same]
      exact (Session.of_start starts).1

/-- A stage up to the log stops a run before its log is open. -/
theorem not_opened_of_stops {stage : Stage} (early : stage ∈ [Stage.flags, .about, .log])
    (stopped : (stops machine arguments host stage).isSome = true) :
    ¬ (GoesOn arguments ∧ (opened? arguments host).isSome = true) := by
  rintro ⟨⟨line, parsed, quiet⟩, opened⟩
  simp only [List.mem_cons, List.not_mem_nil, or_false] at early
  rcases early with rfl | rfl | rfl
  · simp [stops, parsed] at stopped
  · simp [stops, parsed, quiet] at stopped
  · rw [Option.isSome_iff_ne_none] at opened
    simp [stops, parsed, opened] at stopped

theorem not_started_of_stops {stage : Stage}
    (early : stage ∈ [Stage.flags, .about, .log, .configuration])
    (stopped : (stops machine arguments host stage).isSome = true) :
    ¬ (GoesOn arguments ∧ (started? arguments host).isSome = true) := by
  rintro ⟨goesOn, started⟩
  by_cases last : stage = .configuration
  · subst last
    rw [Option.isSome_iff_ne_none] at started
    simp only [stops, Option.isNone_iff_eq_none, started, if_false] at stopped
    split at stopped <;> cases stopped
  · have before : stage ∈ [Stage.flags, .about, .log] := by simpa [last] using early
    exact not_opened_of_stops before stopped ⟨goesOn, isSome_opened?_of_started started⟩

theorem not_created_of_stops {stage : Stage} (early : stage ≠ .launch)
    (stopped : (stops machine arguments host stage).isSome = true) {session : Session}
    {log : Log} {started after : Host} {ending : Ending} (goesOn : GoesOn arguments)
    (found : started? arguments host = some (session, log, started)) :
    session.createShell machine log started ≠ (.ok ending, after) := by
  intro success
  by_cases last : stage = .shell
  · subst last
    simp [stops, found, success] at stopped
  · have before : stage ∈ [Stage.flags, .about, .log, .configuration] := by
      cases stage <;> simp at early last ⊢
    exact not_started_of_stops before stopped ⟨goesOn, by rw [found]; rfl⟩

theorem Moves.volume_eq {state next : State} (moves : Moves machine state next)
    (known : Knows machine arguments host state)
    (closed : ¬ (GoesOn arguments ∧ (opened? arguments host).isSome = true)) :
    next.host.volume = state.host.volume := by
  have unopened : GoesOn arguments → ∀ found, opened? arguments host ≠ some found := by
    intro goesOn found opened
    exact closed ⟨goesOn, by rw [opened]; rfl⟩
  have unstarted : GoesOn arguments → ∀ found, started? arguments host ≠ some found := by
    intro goesOn found started
    exact closed ⟨goesOn, isSome_opened?_of_started (by rw [started]; rfl)⟩
  -- Every phase behind the log knows of an open log, which there is none of.
  have later := moves.knows known
  cases moves with
  | helps | rejectsFlags | tells | readsFlags | readsSettings | rests => rfl
  | rejectsSettings | missesSink => exact ExitCode.volume_report _ _ _ _
  | opensSink => exact absurd later.2 (unopened later.1 _)
  | missesSession | startsSession => exact absurd known.2 (unopened known.1 _)
  | missesShell | createsFile => exact absurd known.2 (unstarted known.1 _)
  | missesContent | fillsFile | missesScript | printsScript | missesProgram | startsChild
  | handsOver =>
      obtain ⟨goesOn, started, found, _⟩ := known
      exact absurd found (unstarted goesOn _)
  | endsChild | reportsChild | endsSuccessor =>
      obtain ⟨goesOn, session, log, started, _, _, found, _⟩ := known
      exact absurd found (unstarted goesOn _)

/-- A run that opens no log leaves the volume alone. -/
theorem volume_alone (closed : ¬ (GoesOn arguments ∧ (opened? arguments host).isSome = true))
    (time : Nat) :
    ((Course.alone machine arguments host).finds time).host.volume = host.volume := by
  induction time with
  | zero => rfl
  | succ time ih =>
      rw [← ih]
      exact ((Course.alone machine arguments host).moves time).volume_eq
        (knows_alone time) closed

/-- A run that creates no rc-file makes no other file than that of its log. -/
theorem opensLog_of_makes {time : Nat} {place : Place}
    (uncreated : GoesOn arguments → ∀ session log started draft after,
      started? arguments host = some (session, log, started) →
        session.createFile log started ≠ (.ok draft, after))
    (makes : (Course.alone machine arguments host).Makes time place) :
    ((Course.alone machine arguments host).finds time).OpensLog place := by
  rcases (Course.alone machine arguments host).makes_cases makes with opens | rcFile
  · exact opens
  · obtain ⟨log, session, draft, _, phase, _⟩ := rcFile
    have known := @knows_alone machine arguments host (time + 1)
    unfold Knows at known
    rw [Course.phase_finds_succ, phase] at known
    obtain ⟨goesOn, started, found, created⟩ := known
    exact absurd created (uncreated goesOn session log started draft _ found)

/-- A run that creates no shell makes all its steps by itself. -/
theorem isOwn_alone
    (uncreated : GoesOn arguments → ∀ session log started ending after,
      started? arguments host = some (session, log, started) →
        session.createShell machine log started ≠ (.ok ending, after))
    (time : Nat) :
    ((Course.alone machine arguments host).finds time).phase.isOwn = true := by
  have known := @knows_alone machine arguments host time
  unfold Knows at known
  cases phase : ((Course.alone machine arguments host).finds time).phase with
  | child | successor =>
      rw [phase] at known
      obtain ⟨goesOn, session, log, started, ending, after, found, success⟩ := known
      exact absurd success (uncreated goesOn session log started ending after found)
  | _ => rfl

/-- No rc-file is created without a shell whose program expands. -/
theorem uncreated_of_missing {session : Session} {log : Log} {started : Host}
    (found : started? arguments host = some (session, log, started))
    (missing : ∀ shell, session.config.resolveShell session.settings.launch.shell
        (host.environ.valueOf? "SHELL") = .ok shell →
      ∃ error, Path.expand host.environ shell.program = .error error)
    (other : Session) (otherLog : Log) (otherStarted : Host) (draft : Draft)
    (after : Host)
    (again : started? arguments host = some (other, otherLog, otherStarted)) :
    other.createFile otherLog otherStarted ≠ (.ok draft, after) := by
  intro made
  rw [found] at again
  cases again
  rw [← environ_of_started? found] at missing
  obtain ⟨error, later, failed⟩ := Session.createFile_of_missing missing
  rw [failed] at made
  cases made

theorem run_of_ended {time : Nat} {log : Log} {prepared : Prepared} {status : WaitStatus}
    (ended : ((Course.alone machine arguments host).finds time).phase =
      .ended log prepared status) :
    (run machine arguments host).1 = .exit status.exitCode := by
  rw [← @Course.outcome_alone machine arguments host time]
  unfold outcome
  rw [ended]

end Program

end ProfileShell
