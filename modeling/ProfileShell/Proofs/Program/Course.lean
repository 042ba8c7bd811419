import ProfileShell.Proofs.Program.Phase

/-!
# Courses of a run

What one step can be is listed once, with what is known when it is taken; what holds in
every phase follows from the list.  A course is a run of which each step meets what
others have done to the host in the meantime.  It is over after nine steps at most.
-/

namespace ProfileShell.Program

variable (machine : Machine) (host : Host) (log : Log) (session : Session)

/-- What one step can be. -/
inductive Moves (machine : Machine) : State → State → Prop where
  | helps {arguments : List Bytes} {host : Host} :
      CommandLine.parse arguments = .error .help →
      Moves machine ⟨.flags arguments, host⟩
        ⟨.finished (.exit ExitCode.ok.code),
          host.print (Flag.helpText.octets (host.styles host.outputIsTerminal))⟩
  | rejectsFlags {arguments : List Bytes} {host : Host} {error : CommandLineError} :
      CommandLine.parse arguments = .error error → error ≠ .help →
      Moves machine ⟨.flags arguments, host⟩
        ⟨.finished (.exit ExitCode.flagsNotParsed.code),
          host.printError (error.styled.octets (host.styles host.errorsIsTerminal))⟩
  | tells {arguments : List Bytes} {host : Host} {line : CommandLine} {octets : Bytes} :
      CommandLine.parse arguments = .ok line → (line.version || line.changelog) = true →
      Moves machine ⟨.flags arguments, host⟩
        ⟨.finished (.exit ExitCode.ok.code), host.print octets⟩
  | readsFlags {arguments : List Bytes} {host : Host} {line : CommandLine} :
      CommandLine.parse arguments = .ok line → (line.version || line.changelog) = false →
      Moves machine ⟨.flags arguments, host⟩ ⟨.settings line, host⟩
  | rejectsSettings {line : CommandLine} {host : Host} {error : SettingsError} :
      settings line host = .error error →
      Moves machine ⟨.settings line, host⟩ (stopped (.flags error.causes) host)
  | readsSettings {line : CommandLine} {host : Host} {asked : Settings} :
      settings line host = .ok asked →
      Moves machine ⟨.settings line, host⟩ ⟨.sink asked, host⟩
  | missesSink {asked : Settings} {host : Host} {error : Log.OpenError} :
      asked.sink.open host = .error error →
      Moves machine ⟨.sink asked, host⟩ (stopped (.flags error.causes) host)
  | opensSink {asked : Settings} {host opened : Host} {target : Log.Target} :
      asked.sink.open host = .ok (target, opened) →
      Moves machine ⟨.sink asked, host⟩
        ⟨.session (.new asked.format target asked.debug opened) asked, opened⟩
  | missesSession {log : Log} {asked : Settings} {host after : Host}
      {error : ConfigFileError} :
      Session.start log asked host = (.error error, after) →
      Moves machine ⟨.session log asked, host⟩
        (stopped (.initialization error.causes)
          ((Halt.initialization error.causes).log "initialization failed" log after))
  | startsSession {log : Log} {asked : Settings} {host after : Host} {session : Session} :
      Session.start log asked host = (.ok session, after) →
      Moves machine ⟨.session log asked, host⟩ ⟨.shell log session, after⟩
  | missesShell {log : Log} {session : Session} {host after : Host} {error : LaunchError} :
      session.createFile log host = (.error error, after) →
      Moves machine ⟨.shell log session, host⟩ (launchFailed log session error after)
  | createsFile {log : Log} {session : Session} {host after : Host} {draft : Draft} :
      session.createFile log host = (.ok draft, after) →
      Moves machine ⟨.shell log session, host⟩ ⟨.file log session draft, after⟩
  | missesContent {log : Log} {session : Session} {draft : Draft} {host after : Host}
      {error : LaunchError} :
      session.fillFile log draft host = (.error error, after) →
      Moves machine ⟨.file log session draft, host⟩ (launchFailed log session error after)
  | fillsFile {log : Log} {session : Session} {draft : Draft} {host after : Host}
      {prepared : Prepared} :
      session.fillFile log draft host = (.ok prepared, after) →
      Moves machine ⟨.file log session draft, host⟩ ⟨.launch log session prepared, after⟩
  | missesScript {log : Log} {session : Session} {prepared : Prepared} {host after : Host}
      {error : LaunchError} :
      session.settings.launch.generate = true →
      prepared.generate (!session.settings.launch.orphan) host = (.error error, after) →
      Moves machine ⟨.launch log session prepared, host⟩
        (launchFailed log session error after)
  | printsScript {log : Log} {session : Session} {prepared : Prepared} {host after : Host} :
      session.settings.launch.generate = true →
      prepared.generate (!session.settings.launch.orphan) host = (.ok (), after) →
      Moves machine ⟨.launch log session prepared, host⟩ ⟨.finished (.exit 0), after⟩
  | missesProgram {log : Log} {session : Session} {prepared : Prepared} {host : Host}
      {cause : SystemError} {error : LaunchError} :
      session.settings.launch.generate = false →
      prepared.command.locate (announced log session prepared host) = .error cause →
      error = .spawn prepared.program cause ∨ error = .replace prepared.program cause →
      Moves machine ⟨.launch log session prepared, host⟩
        (launchFailed log session error
          (prepared.discard (announced log session prepared host)))
  | startsChild {log : Log} {session : Session} {prepared : Prepared} {host : Host}
      {program : Place} :
      session.settings.launch.generate = false →
      session.settings.launch.command.isEmpty = true →
      prepared.command.locate (announced log session prepared host) = .ok program →
      Moves machine ⟨.launch log session prepared, host⟩
        ⟨.child (Session.launchLog log session.settings.launch) prepared program,
          announced log session prepared host⟩
  | handsOver {log : Log} {session : Session} {prepared : Prepared} {host : Host}
      {program : Place} :
      session.settings.launch.generate = false →
      session.settings.launch.command.isEmpty = false →
      prepared.command.locate (announced log session prepared host) = .ok program →
      Moves machine ⟨.launch log session prepared, host⟩
        ⟨.successor prepared program, announced log session prepared host⟩
  | endsChild {log : Log} {prepared : Prepared} {program : Place} {host after : Host}
      {status : WaitStatus} :
      machine program prepared.command host = (status, after) →
      Moves machine ⟨.child log prepared program, host⟩
        ⟨.ended log prepared status, after⟩
  | reportsChild {log : Log} {prepared : Prepared} {host : Host} {status : WaitStatus} :
      Moves machine ⟨.ended log prepared status, host⟩
        ⟨.finished (.exit status.exitCode),
          prepared.discard (log.emitAll (Prepared.endRecords status) host)⟩
  | endsSuccessor {prepared : Prepared} {program : Place} {host after : Host}
      {status : WaitStatus} :
      machine program prepared.command host = (status, after) →
      Moves machine ⟨.successor prepared program, host⟩
        ⟨.finished (.replaced status), after⟩
  | rests {ending : Ending} {host : Host} :
      Moves machine ⟨.finished ending, host⟩ ⟨.finished ending, host⟩

private theorem moves_readFlags (arguments : List Bytes) :
    Moves machine ⟨.flags arguments, host⟩ (readFlags arguments host) := by
  unfold readFlags
  split
  next parsed => exact .helps parsed
  next error different parsed => exact .rejectsFlags parsed different
  next line parsed =>
    split
    next version => exact .tells parsed (by rw [version]; rfl)
    next version =>
      split
      next changelog => exact .tells parsed (by rw [changelog, Bool.or_true])
      next changelog => exact .readsFlags parsed (by simp [version, changelog])

private theorem moves_startShell (prepared : Prepared) :
    Moves machine ⟨.launch log session prepared, host⟩
      (startShell log session prepared host) := by
  unfold startShell
  dsimp only
  split
  next generates =>
    split
    next missed => exact .missesScript generates missed
    next printed => exact .printsScript generates printed
  next launches =>
    rw [Bool.not_eq_true] at launches
    split
    next missed runs => exact .missesProgram launches missed (.inl rfl)
    next missed replaces => exact .missesProgram launches missed (.inr rfl)
    next located runs => exact .startsChild launches runs located
    next located replaces => exact .handsOver launches replaces located

theorem moves_step (state : State) : Moves machine state (step machine state) := by
  obtain ⟨phase, host⟩ := state
  cases phase with
  | flags arguments => exact moves_readFlags machine host arguments
  | settings line =>
      unfold step readSettings
      dsimp only
      split
      next rejected => exact .rejectsSettings rejected
      next read => exact .readsSettings read
  | sink asked =>
      unfold step openSink
      dsimp only
      split
      next missed => exact .missesSink missed
      next opened => exact .opensSink opened
  | session log asked =>
      unfold step startSession
      dsimp only
      split
      next missed => exact .missesSession missed
      next started => exact .startsSession started
  | shell log session =>
      unfold step createFile
      dsimp only
      split
      next missed => exact .missesShell missed
      next created => exact .createsFile created
  | file log session draft =>
      unfold step fillFile
      dsimp only
      split
      next missed => exact .missesContent missed
      next filled => exact .fillsFile filled
  | launch log session prepared => exact moves_startShell machine host log session prepared
  | child log prepared program => exact .endsChild rfl
  | ended log prepared status => exact .reportsChild
  | successor prepared program => exact .endsSuccessor rfl
  | finished ending => exact .rests

theorem Moves.order_eq {machine : Machine} {state next : State}
    (moves : Moves machine state next) :
    (∃ ending, next.phase = .finished ending) ∨
      next.phase.order = state.phase.order + 1 := by
  cases moves with
  | readsFlags | readsSettings | opensSink | startsSession | createsFile | fillsFile
  | startsChild | handsOver | endsChild => exact .inr rfl
  | _ => exact .inl ⟨_, rfl⟩

/-- A run while others change the host: ahead of each step they do what they do at its
number. -/
structure Course where
  machine : Machine
  others : Nat → Host → Host
  arguments : List Bytes
  host : Host

namespace Course

/-- A run that is left alone. -/
def alone (machine : Machine) (arguments : List Bytes) (host : Host) : Course :=
  ⟨machine, fun _ host => host, arguments, host⟩

/-- What a step finds. -/
def finds (course : Course) : Nat → State
  | 0 => ⟨.flags course.arguments, course.others 0 course.host⟩
  | time + 1 =>
    let left := step course.machine (course.finds time)
    ⟨left.phase, course.others (time + 1) left.host⟩

/-- What a step leaves behind. -/
def leaves (course : Course) (time : Nat) : State :=
  step course.machine (course.finds time)

variable (course : Course) {machine : Machine} {arguments : List Bytes} {host : Host}
  {time later : Nat} {ending : Ending}

theorem moves (time : Nat) :
    Moves course.machine (course.finds time) (course.leaves time) :=
  moves_step course.machine (course.finds time)

theorem phase_finds_succ (time : Nat) :
    (course.finds (time + 1)).phase = (course.leaves time).phase := rfl

theorem leaves_of_finished (isFinished : (course.finds time).phase = .finished ending) :
    course.leaves time = course.finds time := by
  unfold leaves step
  rw [isFinished]

theorem finished_of_le (isFinished : (course.finds time).phase = .finished ending)
    (inOrder : time ≤ later) : (course.finds later).phase = .finished ending := by
  induction later, inOrder using Nat.le_induction with
  | base => exact isFinished
  | succ later _ ih => rw [phase_finds_succ, leaves_of_finished course ih, ih]

theorem order_finds (time : Nat) :
    (∃ ending, (course.finds time).phase = .finished ending) ∨
      (course.finds time).phase.order = time := by
  induction time with
  | zero => exact .inr rfl
  | succ time ih =>
      -- The order of the phases keeps up with the steps until the run is finished.
      rcases ih with ⟨ending, isFinished⟩ | order
      · exact .inl ⟨ending, course.finished_of_le isFinished (Nat.le_succ time)⟩
      · rcases (course.moves time).order_eq with isFinished | next
        · exact .inl isFinished
        · exact .inr (by rw [phase_finds_succ, next, order])

/-- A run that is left alone stays as it is once it is over. -/
theorem alone_of_le
    (isFinished : ((alone machine arguments host).finds time).phase = .finished ending)
    (inOrder : time ≤ later) :
    (alone machine arguments host).finds later = (alone machine arguments host).finds time := by
  induction later, inOrder using Nat.le_induction with
  | base => rfl
  | succ later inOrder ih =>
      have still := (alone machine arguments host).finished_of_le isFinished inOrder
      exact (leaves_of_finished _ still).trans ih

/-- After nine steps a run is over. -/
theorem finds_nine : ∃ ending, (course.finds 9).phase = .finished ending := by
  rcases course.order_finds 9 with isFinished | order
  · exact isFinished
  · cases phase : (course.finds 9).phase with
    | finished ending => exact ⟨ending, rfl⟩
    | _ => simp [phase, Phase.order] at order

theorem outcome_alone (time : Nat) :
    outcome machine ((alone machine arguments host).finds time) =
      run machine arguments host := by
  induction time with
  | zero => rfl
  | succ time ih =>
      rw [← ih]
      exact outcome_step machine ((alone machine arguments host).finds time)

/-- The steps of a run that is left alone add up to the run. -/
theorem alone_nine :
    (alone machine arguments host).finds 9 =
      ⟨.finished (run machine arguments host).1, (run machine arguments host).2⟩ := by
  obtain ⟨ending, isFinished⟩ := (alone machine arguments host).finds_nine
  have same := @outcome_alone machine arguments host 9
  generalize (alone machine arguments host).finds 9 = last at isFinished same ⊢
  obtain ⟨phase, after⟩ := last
  cases isFinished
  rw [← same]
  rfl

end Course

end ProfileShell.Program
