import Mathlib.Data.Nat.Find
import ProfileShell.Proofs.Fragments
import ProfileShell.Proofs.Session

/-!
# Fragments under every schedule

The tasks that read the files of a profile share nothing but the log.  Each report
belongs to a task that has not read its file yet, so a schedule only decides the order
of the reports.  A slot is filled by the second step of its own task and by no other
step.
-/

namespace ProfileShell.Fragments

variable {source : String → Bytes × List FragmentNotice} {names : List String}
  {board : Board} {position : Nat} {schedule : List Nat} {name : String}

/-- What a task is still going to report. -/
def Task.unreported (source : String → Bytes × List FragmentNotice) :
    Task → List FragmentNotice
  | waiting name => (source name).2
  | holding _ _ => []
  | finished => []

private theorem flatMap_set_perm {α β : Type} (report : α → List β) {items : List α}
    {position : Nat} {item : α} (found : items[position]? = some item) (other : α) :
    (report item ++ (items.set position other).flatMap report).Perm
      (report other ++ items.flatMap report) := by
  obtain ⟨inside, here⟩ := List.getElem?_eq_some_iff.mp found
  let rest := items.take position ++ items.drop (position + 1)
  have before : items.Perm (item :: rest) := by
    have split : items.take position ++ item :: items.drop (position + 1) = items := by
      rw [← here, ← List.drop_eq_getElem_cons inside, List.take_append_drop]
    rw [← split]
    exact List.perm_middle
  have after : (items.set position other).Perm (other :: rest) := by
    rw [List.set_eq_take_append_cons_drop, if_pos inside]
    exact List.perm_middle
  have exchanged : (report item ++ (report other ++ rest.flatMap report)).Perm
      (report other ++ (report item ++ rest.flatMap report)) :=
    List.perm_append_comm_assoc _ _ _
  apply ((after.flatMap_right report).append_left (report item)).trans
  apply exchanged.trans
  exact (before.symm.flatMap_right report).append_left (report other)

namespace Board

theorem Tended.notices_step_perm (tended : Tended source names board) (position : Nat) :
    ((board.step source position).notices ++
        (board.step source position).tasks.flatMap (Task.unreported source)).Perm
      (board.notices ++ board.tasks.flatMap (Task.unreported source)) := by
  cases found : board.tasks[position]? with
  | none => simp [Board.step, found]
  | some task =>
      obtain ⟨name, slot, _, held, tends⟩ := tended.name_of_task found
      cases tends with
      | finished => simp [Board.step, found]
      | waiting =>
          have moved := flatMap_set_perm (Task.unreported source) found
            (.holding name (source name).1)
          simpa [Board.step, found, Task.unreported] using moved.append_left board.notices
      | holding =>
          have moved := flatMap_set_perm (Task.unreported source) found .finished
          simpa [Board.step, Board.fill, found, held, Task.unreported] using
            moved.append_left board.notices

theorem Tended.notices_run_perm (tended : Tended source names board)
    (schedule : List Nat) :
    ((board.run source schedule).notices ++
        (board.run source schedule).tasks.flatMap (Task.unreported source)).Perm
      (board.notices ++ board.tasks.flatMap (Task.unreported source)) := by
  induction schedule generalizing board with
  | nil => exact .refl _
  | cons position rest ih =>
      exact (ih (tended.step position)).trans (tended.notices_step_perm position)

theorem notices_run_start
    (twice : ∀ position < names.length, 2 ≤ schedule.count position) :
    ((start names).run source schedule).notices.Perm
      (names.flatMap fun name => (source name).2) := by
  have told := (tended_start source names).notices_run_perm schedule
  have finished : ((start names).run source schedule).isFinished = true :=
    isFinished_run_start twice
  have nothingLeft : ((start names).run source schedule).tasks.flatMap
      (Task.unreported source) = [] := by
    apply List.flatMap_eq_nil_iff.mpr
    intro task member
    have done : task = .finished := by
      simpa using List.all_eq_true.mp finished task member
    rw [done, Task.unreported]
  have everything : (start names).tasks.flatMap (Task.unreported source) =
      names.flatMap fun name => (source name).2 := by
    simp [start, List.flatMap_map, Task.unreported]
  rw [nothingLeft, List.append_nil, everything] at told
  exact told

theorem Tended.slot_eq (tended : Tended source names board)
    (named : names[position]? = some name) :
    board.slots[position]? =
      some (if board.progress? position = some 2 then some (source name).1 else none) := by
  obtain ⟨task, slot, found, held, tends⟩ := tended.each position name named
  cases tends <;> simp [progress?, found, held, Task.progress]

/-- A slot is filled as soon as its task has had two steps, and not before. -/
theorem slot_run_start (named : names[position]? = some name) (schedule : List Nat) :
    ((start names).run source schedule).slots[position]? =
      some (if 2 ≤ schedule.count position then some (source name).1 else none) := by
  have started : (start names).progress? position = some 0 := by
    simp [progress?, start, named, Task.progress]
  have progress := @progress?_run source (start names) schedule position
  rw [started, Option.map_some, Nat.zero_add] at progress
  rw [((tended_start source names).run schedule).slot_eq named, progress]
  have enough : min 2 (schedule.count position) = 2 ↔ 2 ≤ schedule.count position := by
    omega
  simp [enough]

end Board

private theorem exists_moment_of_count {count : Nat} (positive : 0 < count)
    (enough : count ≤ schedule.count position) :
    ∃ moment < schedule.length, ∀ time,
      count ≤ (schedule.take time).count position ↔ moment < time := by
  have reached : ∃ time, count ≤ (schedule.take time).count position :=
    ⟨schedule.length, by rwa [List.take_length]⟩
  have first := Nat.find_spec reached
  have late : Nat.find reached ≤ schedule.length :=
    Nat.find_min' reached (by rwa [List.take_length])
  have notAtOnce : 0 < Nat.find reached := by
    apply Nat.pos_of_ne_zero
    intro atOnce
    rw [atOnce] at first
    simp at first
    omega
  refine ⟨Nat.find reached - 1, by omega, ?_⟩
  intro time
  constructor
  · intro already
    have := Nat.find_min' reached already
    omega
  · intro later
    have longer : (schedule.take (Nat.find reached)).Sublist (schedule.take time) :=
      (List.take_prefix_take_left (by omega)).sublist
    exact first.trans (longer.count_le position)

/-- The record of a fragment that cannot be read. -/
def skipped? (host : Host) (directory : Path) (name : String) : Option Log.Record :=
  match host.read (path host directory name) with
  | .ok _ => none
  | .error cause =>
    some ⟨.warn, "skipping file",
      [ ("path", Path.display (path host directory name)), ("error", cause.message) ]⟩

private theorem record_content (host : Host) (directory : Path) (name : String) :
    (content host directory name).2.map FragmentNotice.record =
      (skipped? host directory name).toList := by
  unfold content skipped?
  cases host.read (path host directory name) <;> rfl

private theorem filledTwice_notMem_content (host : Host) (directory : Path) (name other : String) :
    .filledTwice other ∉ (content host directory name).2 := by
  unfold content
  cases host.read (path host directory name) <;> simp

/-- However the tasks take turns, all of them come to their end, and what they have read
is joined in the order of the names.  A step of a task that is done already changes
nothing.  The slot of each task is empty up to one moment of the schedule and holds
the content of its fragment from then on; it is never filled again.  Each name on the
list whose file cannot be read is reported, as often as it is on the list, and nothing
else is. -/
theorem run_interleaved (host : Host) (directory : Path) (names : List String)
    (schedule : List Nat)
    (twice : ∀ position < names.length, 2 ≤ schedule.count position) :
    let board := (Board.start names).run (content host directory) schedule
    board.isFinished = true ∧
      board.join = names.flatMap (octets host directory) ∧
      (∀ (position : Nat) (name : String), names[position]? = some name →
        ∃ moment < schedule.length, ∀ time,
          ((Board.start names).run (content host directory)
            (schedule.take time)).slots[position]? =
              some (if moment < time then some (octets host directory name) else none)) ∧
      (∀ name, .filledTwice name ∉ board.notices) ∧
      (board.notices.map FragmentNotice.record).Perm
        (names.filterMap (skipped? host directory)) := by
  have reported : ((Board.start names).run (content host directory) schedule).notices.Perm
      (names.flatMap fun name => (content host directory name).2) :=
    Board.notices_run_start twice
  refine ⟨Board.isFinished_run_start twice, ?_, ?_, ?_, ?_⟩
  · simp only [join_run twice, content_fst]
  · intro position name named
    have inside : position < names.length := (List.getElem?_eq_some_iff.mp named).1
    obtain ⟨moment, within, filled⟩ :=
      exists_moment_of_count (by decide : 0 < 2) (twice position inside)
    refine ⟨moment, within, ?_⟩
    intro time
    simp only [Board.slot_run_start named, content_fst, filled time]
  · intro name member
    obtain ⟨other, _, told⟩ := List.mem_flatMap.mp (reported.mem_iff.mp member)
    exact filledTwice_notMem_content host directory other name told
  · apply (reported.map FragmentNotice.record).trans
    rw [List.map_flatMap, List.filterMap_eq_flatMap_toList]
    simp only [record_content]
    exact .refl _

/-- The second task reads first and is the next to last to be done. -/
theorem run_interleaved_crossing :
    let source := content Session.desk (Path.ofText "/work")
    let board := (Board.start ["more", "gone", "more"]).run source [1, 0, 2, 2, 1, 0]
    (∀ position < 3, 2 ≤ [1, 0, 2, 2, 1, 0].count position) ∧
      board.join = Utf8.encode "M=1\nM=1\n" ∧
      board.notices.map FragmentNotice.record =
        [ ⟨.warn, "skipping file",
            [ ("path", "/work/gone"),
              ("error", "No such file or directory (os error 2)") ]⟩ ] := by
  have twice : ∀ position < 3, 2 ≤ [1, 0, 2, 2, 1, 0].count position := by decide
  obtain ⟨_, joined, _, _, reported⟩ :=
    run_interleaved Session.desk (Path.ofText "/work") ["more", "gone", "more"] _ twice
  refine ⟨twice, ?_, ?_⟩
  · rw [joined]
    decide +kernel
  · apply List.perm_singleton.mp
    apply reported.trans
    decide +kernel

end ProfileShell.Fragments
