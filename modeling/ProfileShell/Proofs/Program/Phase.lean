import ProfileShell.Program
import ProfileShell.Proofs.Session

/-!
# A run step by step

Between two steps a run stands in a phase, with what it has found out so far.  The
shell is not a part of the run: while a child runs, or what has taken the place of this
process, the machine makes the step.  Others may change the host ahead of each step.
Left alone, the steps add up to the run.
-/

namespace ProfileShell

namespace Command

/-- Where the program of a command is, for a command that can be started. -/
def locate (command : Command) (host : Host) : Except SystemError Place :=
  if command.hasNul then .error .nulInArgument
  else match host.volume.enter host.place command.directory with
    | .error error => .error error
    | .ok current => command.resolve host current

theorem start_of_locate {machine : Machine} {command : Command} {host : Host} :
    command.start machine host =
      match command.locate host with
      | .error error => .error error
      | .ok place => .ok (machine place command host) := by
  unfold start locate
  split
  · rfl
  · cases host.volume.enter host.place command.directory with
    | error error => rfl
    | ok current => rfl

end Command

/-- A launch whose rc-file was created and has nothing in it yet. -/
structure Draft where
  shell : ShellDefinition
  program : String
  contents : ProfileContents
  selection : List String
  inherited : Environ
  directory : Path
  rcFile : RcFile
  deriving DecidableEq, Repr

namespace Session

/-- Prepares the shell that the settings of a session ask for. -/
def prepareLaunch (log : Log) (session : Session) (host : Host) :
    Except LaunchError Prepared × Host :=
  let options := session.settings.launch
  let gathered := gather log session.profileRoot session.config options host
  match session.config.resolveShell options.shell
      (gathered.host.environ.valueOf? "SHELL") with
  | .error error => (.error error, gathered.host)
  | .ok shell =>
    prepare log session.profileRoot session.config options shell gathered.host.environ
      gathered.host.directory host

/-- Prepares the shell up to the rc-file, which is created. -/
def createFile (log : Log) (session : Session) (host : Host) :
    Except LaunchError Draft × Host :=
  let options := session.settings.launch
  let gathered := gather log session.profileRoot session.config options host
  let host := gathered.host
  match session.config.resolveShell options.shell (host.environ.valueOf? "SHELL") with
  | .error error => (.error error, host)
  | .ok shell =>
    match Path.expand host.environ shell.program with
    | .error error => (.error (.template error), host)
    | .ok program =>
      match RcFile.create host with
      | .error error => (.error (.rcFile error), host)
      | .ok (rcFile, created) =>
        (.ok
          { shell := shell
            program := program
            contents := gathered.contents
            selection := gathered.selection.profiles
            inherited := host.environ
            directory := host.directory
            rcFile := rcFile }, created)

/-- Writes the rc-file, and prepares the rest. -/
def fillFile (log : Log) (session : Session) (draft : Draft) (host : Host) :
    Except LaunchError Prepared × Host :=
  let options := session.settings.launch
  let inner := launchLog log options
  match draft.rcFile.fill inner draft.contents draft.selection host with
  | (.error error, host) => (.error (.rcFile error), host)
  | (.ok rcFile, host) =>
    let (prepared, host) := Launch.complete inner session.config draft.shell options
      draft.inherited draft.directory draft.program rcFile host
    (.ok prepared, host)

theorem prepareLaunch_eq (log : Log) (session : Session) (host : Host) :
    session.prepareLaunch log host =
      match session.createFile log host with
      | (.error error, host) => (.error error, host)
      | (.ok draft, host) => session.fillFile log draft host := by
  unfold prepareLaunch createFile prepare Launch.prepare RcFile.write
  dsimp only
  generalize gather log session.profileRoot session.config session.settings.launch host =
    gathered
  cases session.config.resolveShell session.settings.launch.shell
      (gathered.host.environ.valueOf? "SHELL") with
  | error error => rfl
  | ok shell =>
      dsimp only
      cases Path.expand gathered.host.environ shell.program with
      | error error => rfl
      | ok program =>
          dsimp only
          cases RcFile.create gathered.host with
          | error error => rfl
          | ok created => rfl

theorem exists_of_prepareLaunch {log : Log} {session : Session} {host after : Host}
    {prepared : Prepared} (made : session.prepareLaunch log host = (.ok prepared, after)) :
    ∃ draft created, session.createFile log host = (.ok draft, created) := by
  rw [prepareLaunch_eq] at made
  split at made
  next => cases made
  next draft created drafted => exact ⟨draft, created, drafted⟩

end Session

/-- Where a run stands. -/
inductive Phase where
  | flags (arguments : List Bytes)
  | settings (line : CommandLine)
  | sink (settings : Settings)
  | session (log : Log) (settings : Settings)
  | shell (log : Log) (session : Session)
  /-- There is an rc-file with nothing in it. -/
  | file (log : Log) (session : Session) (draft : Draft)
  /-- There is an rc-file with all profiles. -/
  | launch (log : Log) (session : Session) (prepared : Prepared)
  | child (log : Log) (prepared : Prepared) (program : Place)
  | ended (log : Log) (prepared : Prepared) (status : WaitStatus)
  /-- The shell has taken the place of this process. -/
  | successor (prepared : Prepared) (program : Place)
  | finished (ending : Ending)
  deriving DecidableEq, Repr

namespace Phase

/-- How many phases are behind a run. -/
def order : Phase → Nat
  | flags _ => 0
  | settings _ => 1
  | sink _ => 2
  | session _ _ => 3
  | shell _ _ => 4
  | file _ _ _ => 5
  | launch _ _ _ => 6
  | child _ _ _ | successor _ _ => 7
  | ended _ _ _ => 8
  | finished _ => 9

/-- Whether the next step is one of the program and not one of a shell. -/
def isOwn : Phase → Bool
  | child _ _ _ | successor _ _ => false
  | _ => true

/-- Where the rc-file of a phase is. -/
def rcPlace? : Phase → Option Place
  | file _ _ draft => some draft.rcFile.place
  | launch _ _ prepared | child _ prepared _ | ended _ prepared _ | successor prepared _ =>
    some prepared.rcFile.place
  | _ => none

end Phase

namespace Program

/-- A run between two steps. -/
structure State where
  phase : Phase
  host : Host
  deriving DecidableEq, Repr

/-- A run that stops early and says why. -/
def stopped (halt : Halt) (host : Host) : State :=
  ⟨.finished (.exit halt.exit.code), halt.exit.report halt.causes halt.note host⟩

def readFlags (arguments : List Bytes) (host : Host) : State :=
  match CommandLine.parse arguments with
  | .error .help =>
    ⟨.finished (.exit ExitCode.ok.code),
      host.print (Flag.helpText.octets (host.styles host.outputIsTerminal))⟩
  | .error error =>
    ⟨.finished (.exit ExitCode.flagsNotParsed.code),
      host.printError (error.styled.octets (host.styles host.errorsIsTerminal))⟩
  | .ok line =>
    if line.version then
      ⟨.finished (.exit ExitCode.ok.code),
        host.print (Utf8.encode (Release.versionLine ++ "\n"))⟩
    else if line.changelog then
      ⟨.finished (.exit ExitCode.ok.code), host.print (Utf8.encode Release.changelog)⟩
    else ⟨.settings line, host⟩

def readSettings (line : CommandLine) (host : Host) : State :=
  match settings line host with
  | .error error => stopped (.flags error.causes) host
  | .ok settings => ⟨.sink settings, host⟩

def openSink (settings : Settings) (host : Host) : State :=
  match settings.sink.open host with
  | .error error => stopped (.flags error.causes) host
  | .ok (target, host) =>
    ⟨.session (.new settings.format target settings.debug host) settings, host⟩

def startSession (log : Log) (settings : Settings) (host : Host) : State :=
  match Session.start log settings host with
  | (.error error, host) =>
    let halt := Halt.initialization error.causes
    stopped halt (halt.log "initialization failed" log host)
  | (.ok session, host) => ⟨.shell log session, host⟩

/-- A run whose launch has failed. -/
def launchFailed (log : Log) (session : Session) (error : LaunchError) (host : Host) : State :=
  let halt := Halt.shell (session.launchCauses error)
  stopped halt (halt.log "shell failed" log host)

def createFile (log : Log) (session : Session) (host : Host) : State :=
  match session.createFile log host with
  | (.error error, host) => launchFailed log session error host
  | (.ok draft, host) => ⟨.file log session draft, host⟩

def fillFile (log : Log) (session : Session) (draft : Draft) (host : Host) : State :=
  match session.fillFile log draft host with
  | (.error error, host) => launchFailed log session error host
  | (.ok prepared, host) => ⟨.launch log session prepared, host⟩

/-- The host once the start of a shell has been reported. -/
def announced (log : Log) (session : Session) (prepared : Prepared) (host : Host) : Host :=
  (Session.launchLog log session.settings.launch).emit prepared.startRecord host

def startShell (log : Log) (session : Session) (prepared : Prepared) (host : Host) : State :=
  let options := session.settings.launch
  if options.generate then
    match prepared.generate (!options.orphan) host with
    | (.error error, host) => launchFailed log session error host
    | (.ok (), host) => ⟨.finished (.exit 0), host⟩
  else
    let host := announced log session prepared host
    match prepared.command.locate host, options.command.isEmpty with
    | .error cause, true =>
      launchFailed log session (.spawn prepared.program cause) (prepared.discard host)
    | .error cause, false =>
      launchFailed log session (.replace prepared.program cause) (prepared.discard host)
    | .ok program, true => ⟨.child (Session.launchLog log options) prepared program, host⟩
    | .ok program, false => ⟨.successor prepared program, host⟩

/-- One step of a run, or of the shell that it has started. -/
def step (machine : Machine) (state : State) : State :=
  match state.phase with
  | .flags arguments => readFlags arguments state.host
  | .settings line => readSettings line state.host
  | .sink settings => openSink settings state.host
  | .session log settings => startSession log settings state.host
  | .shell log session => createFile log session state.host
  | .file log session draft => fillFile log session draft state.host
  | .launch log session prepared => startShell log session prepared state.host
  | .child log prepared program =>
    let (status, after) := machine program prepared.command state.host
    ⟨.ended log prepared status, after⟩
  | .ended log prepared status =>
    ⟨.finished (.exit status.exitCode),
      prepared.discard (log.emitAll (Prepared.endRecords status) state.host)⟩
  | .successor prepared program =>
    let (status, after) := machine program prepared.command state.host
    ⟨.finished (.replaced status), after⟩
  | .finished _ => state

/-- A stage as the last one of a run. -/
def concluded : Except Halt Ending × Host → Ending × Host
  | (.ok ending, host) => (ending, host)
  | (.error halt, host) =>
    (.exit halt.exit.code, halt.exit.report halt.causes halt.note host)

/-- A launch as the last stage of a run. -/
def launched (log : Log) (session : Session) :
    Except LaunchError Ending × Host → Ending × Host
  | (.error error, host) =>
    let halt := Halt.shell (session.launchCauses error)
    (.exit halt.exit.code,
      halt.exit.report halt.causes halt.note (halt.log "shell failed" log host))
  | (.ok ending, host) => (ending, host)

/-- What is left of a launch once its rc-file is written. -/
def finishLaunch (machine : Machine) (log : Log) (session : Session) (prepared : Prepared)
    (host : Host) : Except LaunchError Ending × Host :=
  let options := session.settings.launch
  if options.generate then
    match prepared.generate (!options.orphan) host with
    | (.error error, host) => (.error error, host)
    | (.ok (), host) => (.ok (.exit 0), host)
  else
    let host := announced log session prepared host
    match prepared.command.locate host, options.command.isEmpty with
    | .error cause, true => (.error (.spawn prepared.program cause), prepared.discard host)
    | .error cause, false =>
      (.error (.replace prepared.program cause), prepared.discard host)
    | .ok program, true =>
      let (status, after) := machine program prepared.command host
      let inner := Session.launchLog log options
      (.ok (.exit status.exitCode),
        prepared.discard (inner.emitAll (Prepared.endRecords status) after))
    | .ok program, false =>
      let (status, after) := machine program prepared.command host
      (.ok (.replaced status), after)

/-- What is left of a launch once its rc-file is created. -/
def writeLaunch (machine : Machine) (log : Log) (session : Session) (draft : Draft)
    (host : Host) : Except LaunchError Ending × Host :=
  match session.fillFile log draft host with
  | (.error error, host) => (.error error, host)
  | (.ok prepared, host) => finishLaunch machine log session prepared host

/-- How a run goes on to its end if nobody interferes. -/
def outcome (machine : Machine) (state : State) : Ending × Host :=
  let host := state.host
  match state.phase with
  | .flags arguments => run machine arguments host
  | .settings line => concluded (runShell machine line host)
  | .sink settings =>
    match settings.sink.open host with
    | .error error => concluded (.error (.flags error.causes), host)
    | .ok (target, host) =>
      concluded
        (runWithLog machine (.new settings.format target settings.debug host) settings host)
  | .session log settings => concluded (runWithLog machine log settings host)
  | .shell log session => launched log session (session.createShell machine log host)
  | .file log session draft =>
    launched log session (writeLaunch machine log session draft host)
  | .launch log session prepared =>
    launched log session (finishLaunch machine log session prepared host)
  | .child log prepared program =>
    let (status, after) := machine program prepared.command host
    (.exit status.exitCode, prepared.discard (log.emitAll (Prepared.endRecords status) after))
  | .ended log prepared status =>
    (.exit status.exitCode, prepared.discard (log.emitAll (Prepared.endRecords status) host))
  | .successor prepared program =>
    let (status, after) := machine program prepared.command host
    (.replaced status, after)
  | .finished ending => (ending, host)

variable (machine : Machine) (host : Host) (log : Log) (session : Session)

theorem outcome_readFlags (arguments : List Bytes) :
    outcome machine (readFlags arguments host) = run machine arguments host := by
  unfold readFlags run
  cases CommandLine.parse arguments with
  | error error => cases error <;> rfl
  | ok line =>
      dsimp only
      cases line.version with
      | true => rfl
      | false =>
          cases line.changelog with
          | true => rfl
          | false => rfl

theorem outcome_readSettings (line : CommandLine) :
    outcome machine (readSettings line host) = concluded (runShell machine line host) := by
  unfold readSettings runShell
  cases settings line host with
  | error error => rfl
  | ok settings =>
      unfold outcome
      dsimp only
      cases settings.sink.open host with
      | error error => rfl
      | ok opened => rfl

theorem outcome_openSink (settings : Settings) :
    outcome machine (openSink settings host) = outcome machine ⟨.sink settings, host⟩ := by
  unfold openSink
  conv => rhs; unfold outcome
  dsimp only
  cases settings.sink.open host with
  | error error => rfl
  | ok opened => rfl

theorem outcome_startSession (settings : Settings) :
    outcome machine (startSession log settings host) =
      concluded (runWithLog machine log settings host) := by
  unfold startSession runWithLog
  rcases Session.start log settings host with ⟨error | session, after⟩
  · rfl
  · unfold outcome
    dsimp only
    rcases session.createShell machine log after with ⟨error | ending, later⟩
    · rfl
    · rfl

theorem finishLaunch_eq (prepared : Prepared) :
    finishLaunch machine log session prepared host =
      let options := session.settings.launch
      let inner := Session.launchLog log options
      if options.generate then
        match prepared.generate (!options.orphan) host with
        | (.error error, host) => (.error error, host)
        | (.ok (), host) => (.ok (.exit 0), host)
      else if options.command.isEmpty then
        match prepared.run machine inner host with
        | (.error error, host) => (.error error, host)
        | (.ok code, host) => (.ok (.exit code), host)
      else
        match prepared.replace machine inner host with
        | (.error error, host) => (.error error, host)
        | (.ok status, host) => (.ok (.replaced status), host) := by
  unfold finishLaunch Prepared.run Prepared.replace announced
  -- A child and a successor start the same way and part only once the program is found.
  simp only [Command.start_of_locate]
  generalize prepared.command.locate _ = located
  cases session.settings.launch.generate with
  | true => rfl
  | false =>
      cases session.settings.launch.command.isEmpty with
      | true =>
          cases located with
          | error cause => rfl
          | ok program => rfl
      | false =>
          cases located with
          | error cause => rfl
          | ok program => rfl

/-- Creating a shell is preparing it and then finishing the launch. -/
theorem createShell_eq :
    session.createShell machine log host =
      match session.prepareLaunch log host with
      | (.error error, host) => (.error error, host)
      | (.ok prepared, host) => finishLaunch machine log session prepared host := by
  simp only [finishLaunch_eq]
  unfold Session.createShell Launch.launch Session.prepareLaunch
  dsimp only
  cases session.config.resolveShell session.settings.launch.shell
      ((Session.gather log session.profileRoot session.config session.settings.launch
        host).host.environ.valueOf? "SHELL") with
  | error error => rfl
  | ok shell => rfl

theorem outcome_createFile :
    outcome machine (createFile log session host) =
      launched log session (session.createShell machine log host) := by
  rw [createShell_eq, Session.prepareLaunch_eq]
  unfold createFile
  rcases session.createFile log host with ⟨error | draft, after⟩
  · rfl
  · rfl

theorem outcome_fillFile (draft : Draft) :
    outcome machine (fillFile log session draft host) =
      launched log session (writeLaunch machine log session draft host) := by
  unfold fillFile writeLaunch
  rcases session.fillFile log draft host with ⟨error | prepared, after⟩
  · rfl
  · rfl

theorem outcome_startShell (prepared : Prepared) :
    outcome machine (startShell log session prepared host) =
      launched log session (finishLaunch machine log session prepared host) := by
  unfold startShell finishLaunch
  dsimp only
  split
  · rcases prepared.generate (!session.settings.launch.orphan) host with ⟨error | _, after⟩
    · rfl
    · rfl
  · split
    · rfl
    · rfl
    · rfl
    · rfl

/-- A step changes nothing about how the run ends. -/
theorem outcome_step (state : State) :
    outcome machine (step machine state) = outcome machine state := by
  obtain ⟨phase, host⟩ := state
  cases phase with
  | flags arguments => exact outcome_readFlags machine host arguments
  | settings line => exact outcome_readSettings machine host line
  | sink settings => exact outcome_openSink machine host settings
  | session log settings => exact outcome_startSession machine host log settings
  | shell log session => exact outcome_createFile machine host log session
  | file log session draft => exact outcome_fillFile machine host log session draft
  | launch log session prepared => exact outcome_startShell machine host log session prepared
  | child log prepared program => rfl
  | ended log prepared status => rfl
  | successor prepared program => rfl
  | finished ending => rfl

end Program

end ProfileShell
