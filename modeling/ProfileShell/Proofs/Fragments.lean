import Mathlib.Data.List.Basic
import ProfileShell.Profiles.Fragments

/-!
# Fragments in any order of steps

A task touches its own slot only, so at every moment each slot has come as far as its
task.  A task is done after its second step, whatever the others do; when all are done
the slots hold the contents in the order of the names.
-/

namespace ProfileShell.Fragments

variable {source : String → Bytes × List FragmentNotice} {names : List String}
  {board : Board} {position : Nat}

/-- How many steps a task has taken. -/
def Task.progress : Task → Nat
  | waiting _ => 0
  | holding _ _ => 1
  | finished => 2

/-- A task for a name and its slot have come equally far. -/
inductive Task.Tends (source : String → Bytes × List FragmentNotice) (name : String) :
    Task → Option Bytes → Prop where
  | waiting : Tends source name (.waiting name) none
  | holding : Tends source name (.holding name (source name).1) none
  | finished : Tends source name .finished (some (source name).1)

/-- Each name has a task and a slot at its own position. -/
structure Board.Tended (source : String → Bytes × List FragmentNotice)
    (names : List String) (board : Board) : Prop where
  tasks : board.tasks.length = names.length
  slots : board.slots.length = names.length
  each : ∀ (position : Nat) (name : String), names[position]? = some name →
    ∃ task slot, board.tasks[position]? = some task ∧
      board.slots[position]? = some slot ∧ Task.Tends source name task slot

namespace Board

theorem tended_start (source : String → Bytes × List FragmentNotice)
    (names : List String) : Tended source names (start names) := by
  constructor
  · simp [start]
  · simp [start]
  · intro position name found
    refine ⟨.waiting name, none, by simp [start, found], ?_, .waiting⟩
    have inside : position < names.length := (List.getElem?_eq_some_iff.mp found).1
    simp [start, inside]

theorem Tended.name_of_task (tended : Tended source names board) {task : Task}
    (found : board.tasks[position]? = some task) :
    ∃ name slot, names[position]? = some name ∧ board.slots[position]? = some slot ∧
      Task.Tends source name task slot := by
  have inside : position < names.length := by
    rw [← tended.tasks]
    exact (List.getElem?_eq_some_iff.mp found).1
  obtain ⟨other, slot, same, held, tends⟩ :=
    tended.each position names[position] (List.getElem?_eq_getElem inside)
  obtain rfl : other = task := Option.some.inj (same.symm.trans found)
  exact ⟨_, slot, List.getElem?_eq_getElem inside, held, tends⟩

theorem Tended.put (tended : Tended source names board) {name : String}
    (named : names[position]? = some name) {task : Task} {slot : Option Bytes}
    (tends : Task.Tends source name task slot) (notices : List FragmentNotice) :
    Tended source names
      ⟨board.tasks.set position task, board.slots.set position slot, notices⟩ := by
  have inside : position < names.length := (List.getElem?_eq_some_iff.mp named).1
  constructor
  · simpa using tended.tasks
  · simpa using tended.slots
  · intro other otherName otherNamed
    by_cases same : position = other
    · subst other
      obtain rfl : name = otherName := Option.some.inj (named.symm.trans otherNamed)
      refine ⟨task, slot, ?_, ?_, tends⟩
      · exact List.getElem?_set_self (tended.tasks ▸ inside)
      · exact List.getElem?_set_self (tended.slots ▸ inside)
    · simpa [List.getElem?_set_ne same] using tended.each other otherName otherNamed

/-- A step moves one task and its slot together; the slot is never filled twice. -/
theorem Tended.step (tended : Tended source names board) (position : Nat) :
    Tended source names (board.step source position) := by
  cases found : board.tasks[position]? with
  | none => simpa [Board.step, found] using tended
  | some task =>
      obtain ⟨name, slot, named, held, tends⟩ := tended.name_of_task found
      cases tends with
      | finished => simpa [Board.step, found] using tended
      | waiting =>
          have unfilled : board.slots.set position none = board.slots := by
            obtain ⟨inside, empty⟩ := List.getElem?_eq_some_iff.mp held
            rw [← empty, List.set_getElem_self]
          simpa [Board.step, found, unfilled] using
            tended.put named .holding (board.notices ++ (source name).2)
      | holding =>
          simpa [Board.step, Board.fill, found, held] using
            tended.put named .finished board.notices

theorem Tended.run (tended : Tended source names board) (schedule : List Nat) :
    Tended source names (board.run source schedule) := by
  induction schedule generalizing board with
  | nil => exact tended
  | cons position rest ih => exact ih (tended.step position)

theorem Tended.slots_of_isFinished (tended : Tended source names board)
    (finished : board.isFinished = true) :
    board.slots = names.map fun name => some (source name).1 := by
  apply List.ext_getElem?
  intro position
  cases named : names[position]? with
  | none =>
      have outside : names.length ≤ position := List.getElem?_eq_none_iff.mp named
      rw [List.getElem?_eq_none (tended.slots ▸ outside)]
      simp [named]
  | some name =>
      obtain ⟨task, slot, found, held, tends⟩ := tended.each position name named
      have done : task = .finished := by
        simpa using List.all_eq_true.mp finished task (List.mem_of_getElem? found)
      subst done
      cases tends
      simp [named, held]

theorem Tended.join_eq (tended : Tended source names board)
    (finished : board.isFinished = true) :
    board.join = names.flatMap fun name => (source name).1 := by
  unfold Board.join
  rw [tended.slots_of_isFinished finished, List.filterMap_map]
  simp [List.filterMap_eq_map', List.flatMap_def]

/-- The progress of the task at a position, if there is one. -/
def progress? (board : Board) (position : Nat) : Option Nat :=
  board.tasks[position]?.map Task.progress

theorem tasks_fill (board : Board) (position : Nat) (name : String) (octets : Bytes) :
    (board.fill position name octets).tasks = board.tasks := by
  unfold fill
  split <;> rfl

private theorem progress?_step_of_ne {moved : Nat} (different : moved ≠ position) :
    (board.step source moved).progress? position = board.progress? position := by
  unfold Board.step
  split
  next => simp [progress?, List.getElem?_set_ne different]
  next => simp [progress?, tasks_fill, List.getElem?_set_ne different]
  next => rfl

private theorem progress?_step_self (source : String → Bytes × List FragmentNotice)
    (board : Board) (position : Nat) :
    (board.step source position).progress? position =
      (board.progress? position).map fun progress => min 2 (progress + 1) := by
  cases found : board.tasks[position]? with
  | none => simp [Board.step, progress?, found]
  | some task =>
      cases task with
      | waiting name =>
          simp [Board.step, progress?, found, List.getElem?_set_self', Task.progress]
      | holding name octets =>
          simp [Board.step, progress?, found, tasks_fill, List.getElem?_set_self',
            Task.progress]
      | finished => simp [Board.step, progress?, found, Task.progress]

/-- A task has taken as many steps as the schedule has for it, up to two. -/
theorem progress?_run (schedule : List Nat) (position : Nat) :
    (board.run source schedule).progress? position =
      (board.progress? position).map fun progress =>
        min 2 (progress + schedule.count position) := by
  induction schedule generalizing board with
  | nil =>
      have bounded : ∀ task : Task, min 2 task.progress = task.progress := by
        intro task
        cases task <;> rfl
      simp [run, progress?, Function.comp_def, bounded]
  | cons moved rest ih =>
      have unfolded : board.run source (moved :: rest) =
          (board.step source moved).run source rest := rfl
      rw [unfolded, ih]
      by_cases same : moved = position
      · subst same
        rw [progress?_step_self, Option.map_map, List.count_cons_self]
        congr 1
        funext progress
        simp only [Function.comp_apply]
        omega
      · rw [progress?_step_of_ne same, List.count_cons_of_ne same]

/-- All tasks are done after a schedule in which each of them has two steps. -/
theorem isFinished_run_start {schedule : List Nat}
    (twice : ∀ position < names.length, 2 ≤ schedule.count position) :
    ((start names).run source schedule).isFinished = true := by
  have tended := (tended_start source names).run schedule
  apply List.all_eq_true.mpr
  intro task member
  obtain ⟨position, inside, found⟩ := List.getElem_of_mem member
  have short : position < names.length := tended.tasks ▸ inside
  have started : (start names).progress? position = some 0 := by
    simp [progress?, start, short, Task.progress]
  have progress := @progress?_run source (start names) schedule position
  rw [started, progress?, List.getElem?_eq_getElem inside, found] at progress
  have enough := twice position short
  cases task with
  | waiting name => simp [Task.progress] at progress; omega
  | holding name octets => simp [Task.progress] at progress; omega
  | finished => rfl

end Board

private theorem count_inTurn (count position : Nat) :
    (inTurn count).count position = if position < count then 2 else 0 := by
  induction count with
  | zero => rfl
  | succ count ih =>
      have last : inTurn (count + 1) = inTurn count ++ [count, count] := by
        simp [inTurn, List.range_succ]
      rw [last, List.count_append, ih]
      by_cases same : position = count
      · simp [same]
      · have different : count ≠ position := Ne.symm same
        have within : position < count + 1 ↔ position < count := by omega
        simp [different, within]

/-- Whatever the schedule, the contents come in the order of the names. -/
theorem join_run {schedule : List Nat}
    (twice : ∀ position < names.length, 2 ≤ schedule.count position) :
    ((Board.start names).run source schedule).join =
      names.flatMap fun name => (source name).1 :=
  ((Board.tended_start source names).run schedule).join_eq
    (Board.isFinished_run_start twice)

theorem read_fst (host : Host) (directory : Path) (names : List String) :
    (read host directory names).1 =
      names.flatMap fun name => (content host directory name).1 :=
  join_run fun position short => by simp [count_inTurn, short]

end ProfileShell.Fragments
