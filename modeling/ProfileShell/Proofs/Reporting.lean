import ProfileShell.Log
import ProfileShell.Proofs.Volume

/-!
# What reports change

A report writes to the target of its log and to nothing else.  On the volume only the
file of the log changes, and it only grows; everything that is read through another
path is read as before.
-/

namespace ProfileShell.Log

/-- Between the two hosts there were only reports to the log. -/
structure Reported (log : Log) (before after : Host) : Prop where
  directory : after.directory = before.directory
  environ : after.environ = before.environ
  node : ∀ place, after.volume.node? place = before.volume.node? place ∨
    log.target = .file place ∧ ∃ content more mode,
      before.volume.node? place = some (.file content mode) ∧
        after.volume.node? place = some (.file (content ++ more) mode)

/-- If the log writes to a file, the file is there. -/
def IsOpen (log : Log) (host : Host) : Prop :=
  ∀ place, log.target = .file place → ∃ node, host.volume.node? place = some node

/-- The path does not lead to the file of the log. -/
def Spares (log : Log) (host : Host) (path : Path) : Prop :=
  ∀ location, host.volume.locate host.place path = .ok location →
    log.target ≠ .file location.place

variable {log : Log} {before middle after host : Host} {path : Path}

namespace Reported

theorem refl (log : Log) (host : Host) : log.Reported host host :=
  ⟨rfl, rfl, fun _ => .inl rfl⟩

theorem trans (first : log.Reported before middle) (second : log.Reported middle after) :
    log.Reported before after := by
  refine ⟨second.directory.trans first.directory, second.environ.trans first.environ, ?_⟩
  intro place
  rcases first.node place with same | ⟨target, content, more, mode, held, grown⟩
  · rw [← same]
    exact second.node place
  · refine .inr ⟨target, content, ?_⟩
    rcases second.node place with same | ⟨_, longer, further, _, again, regrown⟩
    · exact ⟨more, mode, held, same.trans grown⟩
    · rw [grown] at again
      cases again
      exact ⟨more ++ further, mode, held, by rw [regrown, List.append_assoc]⟩

theorem place (reported : log.Reported before after) : after.place = before.place := by
  simp [Host.place, reported.directory]

theorem keepsDirectories (reported : log.Reported before after) :
    before.volume.KeepsDirectories after.volume := by
  intro place mode found
  rcases reported.node place with same | ⟨_, content, more, held, file, _⟩
  · rw [same, found]
  · rw [file] at found
    cases found

theorem keepsDirectories_back (reported : log.Reported before after) :
    after.volume.KeepsDirectories before.volume := by
  intro place mode found
  rcases reported.node place with same | ⟨_, content, more, held, _, file⟩
  · rw [← same, found]
  · rw [file] at found
    cases found

theorem node_of_ne (reported : log.Reported before after) {place : Place}
    (different : log.target ≠ .file place) :
    after.volume.node? place = before.volume.node? place :=
  (reported.node place).resolve_right fun changed => different changed.1

theorem isOpen (reported : log.Reported before after) (opened : log.IsOpen before) :
    log.IsOpen after := by
  intro place target
  rcases reported.node place with same | ⟨_, content, more, mode, _, file⟩
  · rw [same]
    exact opened place target
  · exact ⟨_, file⟩

theorem spares_iff (reported : log.Reported before after) :
    log.Spares after path ↔ log.Spares before path := by
  constructor
  · intro spares location located
    have later := Volume.locate_of_keeps reported.keepsDirectories located
    rw [← reported.place] at later
    exact fun target => spares _ later target
  · intro spares location located
    rw [reported.place] at located
    have earlier := Volume.locate_of_keeps reported.keepsDirectories_back located
    exact fun target => spares _ earlier target

theorem read_of_spares (reported : log.Reported before after)
    (spares : log.Spares before path) {octets : Bytes} :
    after.read path = .ok octets ↔ before.read path = .ok octets := by
  unfold Host.read
  rw [reported.place]
  constructor
  · apply Volume.read_of_keeps reported.keepsDirectories_back
    intro location located
    have back := Volume.locate_of_keeps reported.keepsDirectories_back located
    exact (reported.node_of_ne (spares _ back)).symm
  · apply Volume.read_of_keeps reported.keepsDirectories
    intro location located
    exact reported.node_of_ne (spares location located)

/-- The fields of a log do not matter, only where it writes to. -/
theorem of_withField {key value : String}
    (reported : (log.withField key value).Reported before after) :
    log.Reported before after :=
  ⟨reported.directory, reported.environ, reported.node⟩

end Reported

theorem write_reported (octets : Bytes) (host : Host) :
    log.Reported host (log.target.write octets host) := by
  cases target : log.target with
  | standardOutput => exact ⟨rfl, rfl, fun _ => .inl rfl⟩
  | standardError => exact ⟨rfl, rfl, fun _ => .inl rfl⟩
  | journal => exact ⟨rfl, rfl, fun _ => .inl rfl⟩
  | file place =>
      refine ⟨rfl, rfl, ?_⟩
      intro other
      by_cases same : other = place
      · subst other
        rcases Volume.append_cases host.volume place octets with
          unchanged | ⟨content, mode, found, grown⟩
        · exact .inl (congrArg (Volume.node? · place) unchanged)
        · have inside : place ≠ [] := by
            rintro rfl
            simp [Volume.node?] at found
          refine .inr ⟨target, content, octets, mode, found, ?_⟩
          simp only [Target.write]
          rw [grown, Volume.node?_put_self inside]
      · left
        simp only [Target.write]
        rcases Volume.append_cases host.volume place octets with
          unchanged | ⟨content, mode, _, grown⟩
        · rw [unchanged]
        · rw [grown, Volume.node?_put_of_ne same]

theorem emit_reported (record : Record) (host : Host) :
    log.Reported host (log.emit record host) := by
  unfold emit
  split
  · exact write_reported _ host
  · exact .refl log host

theorem emitAll_reported (records : List Record) (host : Host) :
    log.Reported host (log.emitAll records host) := by
  induction records generalizing host with
  | nil => exact .refl log host
  | cons record rest ih => exact (emit_reported record host).trans (ih _)

/-- One of the reports writes a record to the target of the log, behind what the earlier
reports write and ahead of what the later ones write. -/
def Writes (log : Log) (reports : List Record) (written : Record) : Prop :=
  ∃ earlier record later, reports = earlier ++ record :: later ∧
    written = log.complete record ∧
    ∀ host, log.emitAll reports host =
      log.emitAll later
        (log.target.write (written.octets log.format log.coloured) (log.emitAll earlier host))

theorem accepts_of_not_debug {record : Record} (loud : log.format ≠ .null)
    (matters : record.level ≠ .debug) : log.accepts record = true := by
  simp [accepts, loud, matters]

theorem writes_of_accepts {record : Record} {reports : List Record} (reported : record ∈ reports)
    (accepted : log.accepts record = true) : log.Writes reports (log.complete record) := by
  obtain ⟨earlier, later, rfl⟩ := List.append_of_mem reported
  refine ⟨earlier, record, later, rfl, rfl, fun host => ?_⟩
  rw [emitAll, List.foldl_append, List.foldl_cons]
  simp only [emit, accepted]
  rfl

end ProfileShell.Log
