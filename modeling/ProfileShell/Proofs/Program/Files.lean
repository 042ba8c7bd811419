import Mathlib.Data.Nat.Order.Lemmas
import ProfileShell.Proofs.Program.Course
import ProfileShell.Proofs.Volume.Files

/-!
# Files of a run

A run makes two files at most, the one of its log and one rc-file.  The log file is
there to stay.  The rc-file goes with the step that ends the run, be it that the system
refuses to write it or to print it, that the shell does not start, or that the shell has
ended.  Only a shell that has taken the place of this process still reads it.
-/

namespace ProfileShell

variable {log : Log} {host after : Host} {place : Place}

theorem ExitCode.volume_report (exit : ExitCode) (causes : List String) (note : String)
    (host : Host) : (exit.report causes note host).volume = host.volume := by
  unfold ExitCode.report
  split
  · rfl
  · rfl

namespace RcFile

variable {contents : ProfileContents} {selection : List String} {rcFile written : RcFile}

theorem hasFile_of_create (success : create host = .ok (rcFile, after))
    (found : after.volume.HasFile place) :
    place = rcFile.place ∨ host.volume.HasFile place := by
  obtain ⟨volume, made, _, rfl⟩ := of_create success
  obtain ⟨-, rfl⟩ := of_createAmong made
  exact found.of_put

/-- Writing an rc-file makes no file, whether it succeeds or not. -/
theorem hasFile_of_fill
    (found : (fill log contents selection rcFile host).2.volume.HasFile place) :
    host.volume.HasFile place := by
  have written : ∀ {octets : Bytes} {records : List Log.Record},
      (log.emitAll records
        { host with volume := host.volume.overwrite rcFile.place octets }).volume.HasFile
          place → host.volume.HasFile place := by
    intro octets records there
    exact (Volume.hasFile_overwrite _ _ _).mp
      (((log.emitAll_reported _ _).hasFile_iff place).mp there)
  unfold fill at found
  dsimp only at found
  split at found
  · exact written found.of_erase
  · exact written found

/-- An rc-file that the system refuses to write is taken away. -/
theorem not_hasFile_of_fill {error : RcFileError}
    (failure : fill log contents selection rcFile host = (.error error, after)) :
    ¬ after.volume.HasFile rcFile.place := by
  unfold fill at failure
  dsimp only at failure
  split at failure
  · cases failure
    exact Volume.not_hasFile_erase _ rcFile.place
  · cases failure

theorem place_of_fill
    (success : fill log contents selection rcFile host = (.ok written, after)) :
    written.place = rcFile.place := by
  unfold fill at success
  dsimp only at success
  split at success
  · cases success
  · cases success
    rfl

end RcFile

namespace Session

variable {session : Session}

/-- Starting a session makes no file, whether it succeeds or not. -/
theorem of_start {settings : Settings} {result : Except ConfigFileError Session}
    (started : start log settings host = (result, after)) :
    after.environ = host.environ ∧
      ∀ place, after.volume.HasFile place → host.volume.HasFile place := by
  unfold start startAt at started
  split at started
  next =>
    cases started
    exact ⟨rfl, fun _ => id⟩
  next success =>
    obtain ⟨volume, rfl, adds⟩ := Config.of_prepareDirectory success
    split at started
    next =>
      cases started
      exact ⟨rfl, fun _ => adds.hasFile⟩
    next config _ =>
      cases started
      have reported := log.emit_reported (parsedRecord (configFile settings host) config)
        { host with volume := volume }
      refine ⟨reported.environ, ?_⟩
      intro place found
      exact adds.hasFile ((reported.hasFile_iff place).mp found)

/-- Without an rc-file there is no new file. -/
theorem hasFile_of_createFile_error {error : LaunchError}
    (failure : session.createFile log host = (.error error, after)) :
    after.volume.HasFile place ↔ host.volume.HasFile place := by
  have gathered := (gather_reported log session.profileRoot session.config
    session.settings.launch host).hasFile_iff place
  unfold createFile at failure
  dsimp only at failure
  split at failure
  · cases failure
    exact gathered
  · split at failure
    · cases failure
      exact gathered
    · split at failure
      · cases failure
        exact gathered
      · cases failure

theorem hasFile_of_createFile {draft : Draft}
    (success : session.createFile log host = (.ok draft, after))
    (found : after.volume.HasFile place) :
    place = draft.rcFile.place ∨ host.volume.HasFile place := by
  unfold createFile at success
  dsimp only at success
  split at success
  · cases success
  · split at success
    · cases success
    · split at success
      next => cases success
      next created =>
        cases success
        rcases RcFile.hasFile_of_create created found with same | before
        · exact .inl same
        · exact .inr (((gather_reported log session.profileRoot session.config
            session.settings.launch host).hasFile_iff place).mp before)

theorem hasFile_of_fillFile {draft : Draft} {result : Except LaunchError Prepared}
    (filled : session.fillFile log draft host = (result, after))
    (found : after.volume.HasFile place) : host.volume.HasFile place := by
  unfold fillFile at filled
  dsimp only at filled
  split at filled
  next failure =>
    cases filled
    exact RcFile.hasFile_of_fill (by rwa [failure])
  next success =>
    cases filled
    rw [Launch.complete_eq, (Log.emitAll_reported _ _).hasFile_iff] at found
    exact RcFile.hasFile_of_fill (by rwa [success])

theorem not_hasFile_of_fillFile {draft : Draft} {error : LaunchError}
    (failure : session.fillFile log draft host = (.error error, after)) :
    ¬ after.volume.HasFile draft.rcFile.place := by
  unfold fillFile at failure
  dsimp only at failure
  split at failure
  next refused =>
    cases failure
    exact RcFile.not_hasFile_of_fill refused
  next => cases failure

theorem place_of_fillFile {draft : Draft} {prepared : Prepared}
    (success : session.fillFile log draft host = (.ok prepared, after)) :
    prepared.rcFile.place = draft.rcFile.place := by
  unfold fillFile at success
  dsimp only at success
  split at success
  next => cases success
  next written =>
    cases success
    exact RcFile.place_of_fill written

end Session

namespace Prepared

variable {prepared : Prepared}

theorem not_hasFile_discard (prepared : Prepared) (host : Host) :
    ¬ (prepared.discard host).volume.HasFile prepared.rcFile.place :=
  Volume.not_hasFile_erase host.volume prepared.rcFile.place

theorem hasFile_of_discard (found : (prepared.discard host).volume.HasFile place) :
    host.volume.HasFile place :=
  found.of_erase

/-- Printing a script changes nothing on the volume but that it takes the rc-file away,
whether the script can be read and printed or not. -/
theorem volume_of_generate {withExports : Bool} {result : Except LaunchError Unit}
    (printed : prepared.generate withExports host = (result, after)) :
    after.volume = (prepared.discard host).volume := by
  unfold generate Host.printScript at printed
  split at printed
  next => cases printed; rfl
  next =>
    cases refusal : host.refusals.script with
    | none =>
        rw [refusal] at printed
        cases printed
        rfl
    | some refused =>
        rw [refusal] at printed
        cases printed
        rfl

theorem hasFile_of_generate {withExports : Bool} {result : Except LaunchError Unit}
    (printed : prepared.generate withExports host = (result, after))
    (found : after.volume.HasFile place) : host.volume.HasFile place := by
  rw [volume_of_generate printed] at found
  exact hasFile_of_discard found

theorem not_hasFile_of_generate {withExports : Bool} {result : Except LaunchError Unit}
    (printed : prepared.generate withExports host = (result, after)) :
    ¬ after.volume.HasFile prepared.rcFile.place := by
  rw [volume_of_generate printed]
  exact not_hasFile_discard prepared host

end Prepared

namespace Program

variable {machine : Machine} {state next : State}

theorem hasFile_launchFailed {session : Session} {error : LaunchError} :
    (launchFailed log session error host).host.volume.HasFile place ↔
      host.volume.HasFile place := by
  unfold launchFailed stopped
  dsimp only
  rw [ExitCode.volume_report]
  exact (log.emit_reported _ host).hasFile_iff place

private theorem gone_of_launchFailed {session : Session} {error : LaunchError}
    (gone : ¬ host.volume.HasFile place) :
    ∃ code, (launchFailed log session error host).phase = .finished (.exit code) ∧
      ¬ (launchFailed log session error host).host.volume.HasFile place :=
  ⟨_, rfl, fun found => gone (hasFile_launchFailed.mp found)⟩

theorem hasFile_announced {session : Session} {prepared : Prepared} :
    (announced log session prepared host).volume.HasFile place ↔
      host.volume.HasFile place :=
  (Log.emit_reported _ host).hasFile_iff place

/-- The next step opens the log file at a place. -/
def State.OpensLog (state : State) (place : Place) : Prop :=
  ∃ settings opened, state.phase = .sink settings ∧
    settings.sink.open state.host = .ok (.file place, opened)

/-- A step of the program makes at most the log file or the rc-file. -/
theorem Moves.hasFile (moves : Moves machine state next)
    (own : state.phase.isOwn = true) (found : next.host.volume.HasFile place) :
    state.host.volume.HasFile place ∨ state.OpensLog place ∨
      ∃ log session draft, state.phase = .shell log session ∧
        next.phase = .file log session draft ∧ draft.rcFile.place = place := by
  cases moves with
  | helps | rejectsFlags | tells | readsFlags | readsSettings | rests => exact .inl found
  | rejectsSettings | missesSink =>
      left
      rwa [stopped, ExitCode.volume_report] at found
  | opensSink success =>
      obtain ⟨volume, rfl, opens⟩ := Log.Sink.of_open success
      rcases opens place found with rfl | before
      · exact .inr (.inl ⟨_, _, rfl, success⟩)
      · exact .inl before
  | missesSession failure =>
      left
      rw [stopped, ExitCode.volume_report, Halt.log,
        (Log.emit_reported _ _).hasFile_iff] at found
      exact (Session.of_start failure).2 place found
  | startsSession success => exact .inl ((Session.of_start success).2 place found)
  | missesShell failure =>
      left
      exact (Session.hasFile_of_createFile_error failure).mp
        (hasFile_launchFailed.mp found)
  | createsFile success =>
      rcases Session.hasFile_of_createFile success found with same | before
      · exact .inr (.inr ⟨_, _, _, rfl, rfl, same.symm⟩)
      · exact .inl before
  | missesContent failure =>
      exact .inl (Session.hasFile_of_fillFile failure (hasFile_launchFailed.mp found))
  | fillsFile success => exact .inl (Session.hasFile_of_fillFile success found)
  | missesScript _ failure =>
      exact .inl (Prepared.hasFile_of_generate failure (hasFile_launchFailed.mp found))
  | printsScript _ success => exact .inl (Prepared.hasFile_of_generate success found)
  | missesProgram =>
      exact .inl (hasFile_announced.mp
        (Prepared.hasFile_of_discard (hasFile_launchFailed.mp found)))
  | startsChild | handsOver => exact .inl (hasFile_announced.mp found)
  | reportsChild =>
      exact .inl (((Log.emitAll_reported _ _).hasFile_iff place).mp
        (Prepared.hasFile_of_discard found))
  -- A shell may make any file, but its steps are none of the program.
  | endsChild | endsSuccessor => cases own

/-- A run keeps its rc-file until it ends, and takes it away then. -/
theorem Moves.rcPlace (moves : Moves machine state next)
    (held : state.phase.rcPlace? = some place) :
    next.phase.rcPlace? = some place ∨
      (∃ code, next.phase = .finished (.exit code) ∧ ¬ next.host.volume.HasFile place) ∨
      ∃ status, next.phase = .finished (.replaced status) := by
  cases moves with
  | missesContent failure =>
      cases held
      exact .inr (.inl (gone_of_launchFailed (Session.not_hasFile_of_fillFile failure)))
  | fillsFile success =>
      cases held
      exact .inl (congrArg some (Session.place_of_fillFile success))
  | missesScript _ failure =>
      cases held
      exact .inr (.inl (gone_of_launchFailed (Prepared.not_hasFile_of_generate failure)))
  | printsScript _ success =>
      cases held
      exact .inr (.inl ⟨_, rfl, Prepared.not_hasFile_of_generate success⟩)
  | missesProgram =>
      cases held
      exact .inr (.inl (gone_of_launchFailed (Prepared.not_hasFile_discard _ _)))
  | reportsChild =>
      cases held
      exact .inr (.inl ⟨_, rfl, Prepared.not_hasFile_discard _ _⟩)
  | startsChild | handsOver | endsChild => exact .inl held
  | endsSuccessor => exact .inr (.inr ⟨_, rfl⟩)
  | _ => cases held

/-- Where an rc-file is at hand, it was there before or has just been created. -/
theorem Moves.rcPlace_of_next (moves : Moves machine state next)
    (held : next.phase.rcPlace? = some place) :
    state.phase.rcPlace? = some place ∨
      ∃ log session draft, state.phase = .shell log session ∧
        next.phase = .file log session draft ∧ draft.rcFile.place = place := by
  cases moves with
  | createsFile success => exact .inr ⟨_, _, _, rfl, rfl, Option.some.inj held⟩
  | fillsFile success =>
      rw [← held]
      exact .inl (congrArg some (Session.place_of_fillFile success).symm)
  | startsChild | handsOver | endsChild => exact .inl held
  | _ => cases held

/-- The next step fails although an rc-file is at hand: the system refuses a content, the
flush, the script, or to start the shell. -/
inductive State.Fails : State → LaunchError → Prop where
  | write {log : Log} {session : Session} {draft : Draft} {host : Host} {position : Nat}
      {name : String} {cause : SystemError} :
      (RcDraft.ofSelection draft.contents draft.selection).profiles[position]? = some name →
      host.refusals.content? position = some cause →
      (∀ earlier < position, host.refusals.content? earlier = none) →
      Fails ⟨.file log session draft, host⟩ (.rcFile (.write name cause))
  | finalize {log : Log} {session : Session} {draft : Draft} {host : Host}
      {cause : SystemError} :
      (∀ position < (RcDraft.ofSelection draft.contents draft.selection).profiles.length,
        host.refusals.content? position = none) →
      host.refusals.flush = some cause →
      Fails ⟨.file log session draft, host⟩ (.rcFile (.finalize cause))
  | read {log : Log} {session : Session} {prepared : Prepared} {host : Host}
      {cause : SystemError} :
      session.settings.launch.generate = true →
      host.read prepared.rcFile.path = .error cause →
      Fails ⟨.launch log session prepared, host⟩ (.generate cause)
  | print {log : Log} {session : Session} {prepared : Prepared} {host : Host}
      {octets : Bytes} {taken : Nat} {cause : SystemError} :
      session.settings.launch.generate = true →
      host.read prepared.rcFile.path = .ok octets →
      host.refusals.script = some (taken, cause) →
      Fails ⟨.launch log session prepared, host⟩ (.generate cause)
  | spawn {log : Log} {session : Session} {prepared : Prepared} {host : Host}
      {cause : SystemError} :
      session.settings.launch.generate = false →
      session.settings.launch.command.isEmpty = true →
      prepared.command.locate (announced log session prepared host) = .error cause →
      Fails ⟨.launch log session prepared, host⟩ (.spawn prepared.program cause)
  | replace {log : Log} {session : Session} {prepared : Prepared} {host : Host}
      {cause : SystemError} :
      session.settings.launch.generate = false →
      session.settings.launch.command.isEmpty = false →
      prepared.command.locate (announced log session prepared host) = .error cause →
      Fails ⟨.launch log session prepared, host⟩ (.replace prepared.program cause)

theorem fillFile_of_refused {session : Session} {draft : Draft} {error : RcFileError}
    {written : RcDraft}
    (refused : RcDraft.empty.fill draft.contents host.refusals draft.selection =
      (some error, written)) :
    ∃ after, fillFile log session draft host =
      launchFailed log session (.rcFile error) after := by
  unfold fillFile Session.fillFile RcFile.fill
  simp only [refused]
  exact ⟨_, rfl⟩

theorem startShell_of_unprinted {session : Session} {prepared : Prepared}
    {error : LaunchError} (generates : session.settings.launch.generate = true)
    (failed : (prepared.generate (!session.settings.launch.orphan) host).1 = .error error) :
    ∃ after, startShell log session prepared host = launchFailed log session error after := by
  rcases printed : prepared.generate (!session.settings.launch.orphan) host with
    ⟨outcome, after⟩
  rw [printed] at failed
  obtain rfl : outcome = .error error := failed
  refine ⟨after, ?_⟩
  unfold startShell
  simp only [generates, printed]
  rfl

/-- A step that fails with an rc-file at hand ends the run and says why. -/
theorem State.Fails.step_eq {error : LaunchError} (fails : state.Fails error) :
    (∃ log session after, step machine state = launchFailed log session error after) ∧
      ∃ place, state.phase.rcPlace? = some place := by
  cases fails with
  | @write log session draft host position name cause listed refused first =>
      obtain ⟨written, stops⟩ := RcDraft.fill_eq_write listed refused first
      exact ⟨⟨log, session, fillFile_of_refused stops⟩, _, rfl⟩
  | @finalize log session draft host cause taken refused =>
      have stops := RcDraft.fill_eq_finalize taken refused
      exact ⟨⟨log, session, fillFile_of_refused stops⟩, _, rfl⟩
  | @read log session prepared host cause generates missed =>
      refine ⟨⟨log, session, startShell_of_unprinted generates ?_⟩, _, rfl⟩
      simp [Prepared.generate, Prepared.script, Script.ofFile, missed, Except.map]
  | @print log session prepared host octets taken cause generates found refused =>
      refine ⟨⟨log, session, startShell_of_unprinted generates ?_⟩, _, rfl⟩
      simp [Prepared.generate, Prepared.script, Script.ofFile, found, Except.map,
        Host.printScript, refused]
  | @spawn log session prepared host cause launches runs missed =>
      refine ⟨⟨log, session, prepared.discard (announced log session prepared host), ?_⟩,
        _, rfl⟩
      simp [step, startShell, launches, runs, missed]
  | @replace log session prepared host cause launches replaces missed =>
      refine ⟨⟨log, session, prepared.discard (announced log session prepared host), ?_⟩,
        _, rfl⟩
      simp [step, startShell, launches, replaces, missed]

namespace Course

variable (course : Course) {arguments : List Bytes} {time later last : Nat}
  {ending : Ending}

/-- A run ends with a step. -/
def EndsAt (last : Nat) (ending : Ending) : Prop :=
  (∀ earlier, (course.finds last).phase ≠ .finished earlier) ∧
    (course.leaves last).phase = .finished ending

/-- A step is one of the program itself, and a file is new behind it. -/
def Makes (time : Nat) (place : Place) : Prop :=
  (course.finds time).phase.isOwn = true ∧
    ¬ (course.finds time).host.volume.HasFile place ∧
      (course.leaves time).host.volume.HasFile place

/-- A step creates an rc-file at a place. -/
def MakesRcFile (time : Nat) (place : Place) : Prop :=
  ∃ log session draft, (course.finds time).phase = .shell log session ∧
    (course.leaves time).phase = .file log session draft ∧
      draft.rcFile.place = place

theorem lt_nine_of_endsAt (ends : course.EndsAt last ending) : last < 9 := by
  by_contra late
  obtain ⟨earlier, isFinished⟩ := course.finds_nine
  exact ends.1 earlier (course.finished_of_le isFinished (Nat.le_of_not_lt late))

theorem exists_endsAt : ∃ last ending, course.EndsAt last ending := by
  obtain ⟨ending, isFinished⟩ := course.finds_nine
  have first : ¬ ∃ ending, (course.finds 0).phase = .finished ending := by
    rintro ⟨ending, same⟩
    cases same
  obtain ⟨last, running, ending, ends⟩ :=
    @Nat.exists_not_and_succ_of_not_zero_of_exists
      (fun time => ∃ ending, (course.finds time).phase = .finished ending) first
      ⟨9, ending, isFinished⟩
  exact ⟨last, ending, fun earlier same => running ⟨earlier, same⟩, ends⟩

theorem leaves_of_endsAt {machine : Machine} {host : Host}
    (ends : (alone machine arguments host).EndsAt last ending) :
    (alone machine arguments host).leaves last =
      ⟨.finished (run machine arguments host).1, (run machine arguments host).2⟩ := by
  have inTime : last + 1 ≤ 9 := lt_nine_of_endsAt _ ends
  rw [← alone_nine]
  exact (@alone_of_le machine arguments host (last + 1) 9 ending ends.2 inTime).symm

theorem time_of_makesRcFile (makes : course.MakesRcFile time place) : time = 4 := by
  obtain ⟨log, session, draft, phase, _, _⟩ := makes
  rcases course.order_finds time with ⟨ending, isFinished⟩ | order
  · rw [phase] at isFinished
    cases isFinished
  · rw [phase] at order
    exact order.symm

theorem rcPlace?_of_le (held : (course.finds time).phase.rcPlace? = some place)
    (inOrder : time ≤ later)
    (running : ∀ ending, (course.finds later).phase ≠ .finished ending) :
    (course.finds later).phase.rcPlace? = some place := by
  induction later, inOrder using Nat.le_induction with
  | base => exact held
  | succ later _ ih =>
      have before : ∀ ending, (course.finds later).phase ≠ .finished ending := by
        intro ending isFinished
        exact running ending (course.finished_of_le isFinished (Nat.le_succ later))
      rcases (course.moves later).rcPlace (ih before) with
        kept | ⟨code, ends, _⟩ | ⟨status, ends⟩
      · exact kept
      · exact absurd ends (running _)
      · exact absurd ends (running _)

/-- A run that ends by itself has taken its rc-file away. -/
theorem not_hasFile_of_endsAt {code : Nat} (makes : course.MakesRcFile time place)
    (ends : course.EndsAt last (.exit code)) :
    ¬ (course.leaves last).host.volume.HasFile place := by
  obtain ⟨log, session, draft, _, phase, rfl⟩ := makes
  obtain ⟨running, isFinished⟩ := ends
  have held : (course.finds (time + 1)).phase.rcPlace? = some draft.rcFile.place := by
    rw [phase_finds_succ, phase]
    rfl
  have inOrder : time + 1 ≤ last := by
    by_contra late
    have finished := @finished_of_le course (last + 1) (time + 1) _ isFinished (by omega)
    rw [finished] at held
    cases held
  rcases (course.moves last).rcPlace (course.rcPlace?_of_le held inOrder running) with
    kept | ⟨_, _, gone⟩ | ⟨status, ends⟩
  · rw [isFinished] at kept
    cases kept
  · exact gone
  · rw [isFinished] at ends
    cases ends

theorem exists_makesRcFile (held : (course.finds time).phase.rcPlace? = some place) :
    ∃ made, made < time ∧ course.MakesRcFile made place := by
  induction time with
  | zero => cases held
  | succ time ih =>
      rw [phase_finds_succ] at held
      rcases (course.moves time).rcPlace_of_next held with before | ⟨_, _, _, created⟩
      · obtain ⟨made, earlier, makes⟩ := ih before
        exact ⟨made, Nat.lt_succ_of_lt earlier, makes⟩
      · exact ⟨time, Nat.lt_succ_self time, _, _, _, created⟩

/-- A step that fails with an rc-file at hand is the last one, and takes the file away. -/
theorem discards_of_fails {error : LaunchError} (fails : (course.finds time).Fails error) :
    (∃ log session after, course.leaves time = launchFailed log session error after) ∧
      course.EndsAt time (.exit 3) ∧
      ∃ made place, made < time ∧ course.MakesRcFile made place ∧
        ¬ (course.leaves time).host.volume.HasFile place := by
  obtain ⟨⟨log, session, after, failed⟩, place, held⟩ := @fails.step_eq course.machine
  have ends : course.EndsAt time (.exit 3) := by
    constructor
    · intro ending isFinished
      rw [isFinished] at held
      cases held
    · rw [leaves, failed]
      rfl
  obtain ⟨made, earlier, makes⟩ := course.exists_makesRcFile held
  exact ⟨⟨log, session, after, failed⟩, ends, made, place, earlier, makes,
    course.not_hasFile_of_endsAt makes ends⟩

/-- A run makes its log file and one rc-file, and no other file. -/
theorem makes_cases (makes : course.Makes time place) :
    (course.finds time).OpensLog place ∨ course.MakesRcFile time place := by
  obtain ⟨own, fresh, found⟩ := makes
  rcases (course.moves time).hasFile own found with before | opens | rcFile
  · exact absurd before fresh
  · exact .inl opens
  · exact .inr rcFile

theorem makesRcFile_unique {other : Nat} {otherPlace : Place}
    (makes : course.MakesRcFile time place) (again : course.MakesRcFile other otherPlace) :
    time = other ∧ place = otherPlace := by
  have same : time = other := by
    rw [course.time_of_makesRcFile makes, course.time_of_makesRcFile again]
  subst same
  obtain ⟨_, _, draft, _, phase, rfl⟩ := makes
  obtain ⟨_, _, _, _, samePhase, rfl⟩ := again
  rw [phase] at samePhase
  cases samePhase
  exact ⟨rfl, rfl⟩

/-- Left alone, a run that ends by itself leaves no other new file than that of its log,
apart from those that the shell has made. -/
theorem hasFile_of_run {machine : Machine} {host : Host}
    (found : (run machine arguments host).2.volume.HasFile place)
    (fresh : ¬ host.volume.HasFile place) :
    (∃ status, (run machine arguments host).1 = .replaced status) ∨
      ∃ time, ¬ ((alone machine arguments host).finds time).host.volume.HasFile place ∧
        ((alone machine arguments host).leaves time).host.volume.HasFile place ∧
          (((alone machine arguments host).finds time).OpensLog place ∨
            ((alone machine arguments host).finds time).phase.isOwn = false) := by
  let course := alone machine arguments host
  have last : (course.finds 9).host.volume.HasFile place := by
    rw [alone_nine]
    exact found
  -- Nobody else changes the host, so the file is new behind one of the steps.
  obtain ⟨time, before, after⟩ := @Nat.exists_not_and_succ_of_not_zero_of_exists
    (fun time => (course.finds time).host.volume.HasFile place) fresh ⟨9, last⟩
  cases own : (course.finds time).phase.isOwn with
  | false => exact .inr ⟨time, before, after, .inr own⟩
  | true =>
      rcases course.makes_cases ⟨own, before, after⟩ with opens | makes
      · exact .inr ⟨time, before, after, .inl opens⟩
      · left
        obtain ⟨final, ending, ends⟩ := course.exists_endsAt
        have left := leaves_of_endsAt ends
        have same := ends.2
        rw [left] at same
        cases ending with
        | replaced status => exact ⟨status, Phase.finished.inj same⟩
        | exit code =>
            have gone := course.not_hasFile_of_endsAt makes ends
            rw [left] at gone
            exact absurd found gone

end Course

/-- The steps of the program make the log file that it is told to open and one rc-file, and
nothing else, whatever others do to the host in between.  Once the run has ended by itself
the rc-file is gone.  That holds as well where the rc-file is there and the system refuses
a content, the flush, the script or the shell: such a step says so, ends the run with code
three and takes the rc-file away.  So the files that are new behind a run are the log file
and those that the shell has made, unless a shell has taken the place of this process. -/
theorem run_discards_rcFile (machine : Machine) (others : Nat → Host → Host)
    (arguments : List Bytes) (host : Host) :
    (let course : Course := ⟨machine, others, arguments, host⟩
     (∃ last ending, last < 9 ∧ course.EndsAt last ending) ∧
      (∀ time place, course.Makes time place →
        (course.finds time).OpensLog place ∨ course.MakesRcFile time place) ∧
      (∀ time other place otherPlace, course.MakesRcFile time place →
        course.MakesRcFile other otherPlace → time = other ∧ place = otherPlace) ∧
      (∀ time error, (course.finds time).Fails error →
        (∃ log session after, course.leaves time = launchFailed log session error after) ∧
          course.EndsAt time (.exit 3) ∧
          ∃ made place, made < time ∧ course.MakesRcFile made place ∧
            ¬ (course.leaves time).host.volume.HasFile place) ∧
      ∀ time place last code, course.MakesRcFile time place →
        course.EndsAt last (.exit code) →
          ¬ (course.leaves last).host.volume.HasFile place) ∧
    (let course := Course.alone machine arguments host
     course.finds 9 =
        ⟨.finished (run machine arguments host).1, (run machine arguments host).2⟩ ∧
      ∀ place, (run machine arguments host).2.volume.HasFile place →
        host.volume.HasFile place ∨
          (∃ status, (run machine arguments host).1 = .replaced status) ∨
          ∃ time, ¬ (course.finds time).host.volume.HasFile place ∧
            (course.leaves time).host.volume.HasFile place ∧
              ((course.finds time).OpensLog place ∨
                (course.finds time).phase.isOwn = false)) := by
  constructor
  · intro course
    refine ⟨?_, fun _ _ => course.makes_cases, fun _ _ _ _ => course.makesRcFile_unique,
      fun _ _ => course.discards_of_fails, fun _ _ _ _ => course.not_hasFile_of_endsAt⟩
    obtain ⟨last, ending, ends⟩ := course.exists_endsAt
    exact ⟨last, ending, course.lt_nine_of_endsAt ends, ends⟩
  · intro course
    refine ⟨Course.alone_nine, ?_⟩
    intro place found
    by_cases before : host.volume.HasFile place
    · exact .inl before
    · exact .inr (Course.hasFile_of_run found before)

/-- The rc-file is there while the child runs. -/
example :
    let configuration := Node.file (Utf8.encode "shell: \x7bsh: \x7bexec: /sh\x7d\x7d\n") 0o644
    let volume := (Session.desk.volume.put [Utf8.encode "shells"] configuration).put
      [Utf8.encode "sh"] (.file [] 0o755)
    let course := Course.alone (fun _ _ host => (.exited 7, host))
      (["-f", "/shells", "-e", "sh"].map Utf8.encode) { Session.desk with volume := volume }
    let place := [Utf8.encode "tmp", RcFile.nameStart ++ Utf8.encode "000000"]
    (course.finds 7).host.volume.HasFile place ∧
      ¬ (course.finds 9).host.volume.HasFile place ∧
        (course.finds 9).phase = .finished (.exit 7) := by
  decide +kernel

/-- A content that the system has no space for takes the rc-file with it. -/
example :
    let shells := "shell: \x7bsh: \x7bexec: /sh\x7d\x7d\n"
    let profiles := "profile: \x7bauto: \x7benv: [A]\x7d\x7d\n"
    let configuration := Node.file (Utf8.encode (shells ++ profiles)) 0o644
    let volume := Session.desk.volume.put [Utf8.encode "shells"] configuration
    let host := { Session.desk with
      volume := volume, refusals := { contents := [some .noSpace] } }
    let course := Course.alone Session.idle
      (["-f", "/shells", "-e", "sh"].map Utf8.encode) host
    let place := [Utf8.encode "tmp", RcFile.nameStart ++ Utf8.encode "000000"]
    (course.finds 5).host.volume.HasFile place ∧
      ¬ (course.finds 6).host.volume.HasFile place ∧
        (course.finds 6).phase = .finished (.exit 3) := by
  decide +kernel

/-- A host with a configuration that defines another shell than the automatic one. -/
def shelf : Host :=
  { Session.desk with
    volume := Session.desk.volume.put [Utf8.encode "shells"]
      (.file (Utf8.encode "shell: \x7bsh: \x7bexec: /bin/sh\x7d\x7d\n") 0o644) }

/-- A log may be told to stay where the rc-files are, and under a name like theirs. -/
theorem run_keeps_log_among_rcFiles :
    let place := [Utf8.encode "tmp", RcFile.nameStart ++ Utf8.encode "log"]
    let arguments := ["-f", "/shells", "-w", "/tmp/goshrc-log"].map Utf8.encode
    ¬ shelf.volume.HasFile place ∧
      (run Session.idle arguments shelf).1 = .exit 3 ∧
        (run Session.idle arguments shelf).2.volume.HasFile place := by
  decide +kernel

end Program

end ProfileShell
