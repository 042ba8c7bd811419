import ProfileShell.Host
import ProfileShell.Log.Record
import ProfileShell.Path.Template

/-!
# Fragments

The files that a profile includes are read by one task each.  A task reads its file
and then puts the content into the slot at its own position; the slots are joined
when all tasks are done.  The tasks may take their steps in any order, as each touches
only its own slot, so the join does not depend on the order.
-/

namespace ProfileShell

/-- What reading fragments reports. -/
inductive FragmentNotice where
  | unreadable (path : Path) (cause : SystemError)
  /-- A slot that had a content already. -/
  | filledTwice (name : String)
  deriving DecidableEq, Repr

def FragmentNotice.record : FragmentNotice → Log.Record
  | unreadable path cause =>
    ⟨.warn, "skipping file", [("path", Path.display path), ("error", cause.message)]⟩
  | filledTwice name => ⟨.error, "fragment slot filled twice", [("file", name)]⟩

namespace Fragments

/-- The path of a fragment of a directory.  Apart from a `~` at its start the name is
taken literally. -/
def path (host : Host) (directory : Path) (name : String) : Path :=
  Path.join directory (Path.ofText (Path.expandHome host.environ name))

/-- The content of a fragment.  A file that cannot be read is empty and is reported. -/
def content (host : Host) (directory : Path) (name : String) :
    Bytes × List FragmentNotice :=
  match host.read (path host directory name) with
  | .ok octets => (octets, [])
  | .error cause => ([], [.unreadable (path host directory name) cause])

/-- How far a task is. -/
inductive Task where
  | waiting (name : String)
  | holding (name : String) (content : Bytes)
  | finished
  deriving DecidableEq, Repr

/-- The tasks, their slots, and what they reported. -/
structure Board where
  tasks : List Task
  slots : List (Option Bytes)
  notices : List FragmentNotice
  deriving DecidableEq, Repr

namespace Board

/-- The board before the first step. -/
def start (names : List String) : Board :=
  ⟨names.map .waiting, names.map fun _ => none, []⟩

/-- Fills the slot of a task. -/
def fill (board : Board) (position : Nat) (name : String) (octets : Bytes) : Board :=
  match board.slots[position]? with
  | some none => { board with slots := board.slots.set position (some octets) }
  | _ => { board with notices := board.notices ++ [.filledTwice name] }

/-- Lets the task at a position take its next step. -/
def step (source : String → Bytes × List FragmentNotice) (board : Board)
    (position : Nat) : Board :=
  match board.tasks[position]? with
  | some (.waiting name) =>
    let (octets, notices) := source name
    { board with
      tasks := board.tasks.set position (.holding name octets)
      notices := board.notices ++ notices }
  | some (.holding name octets) =>
    let filled := board.fill position name octets
    { filled with tasks := filled.tasks.set position .finished }
  | _ => board

/-- Lets tasks take steps in the order of a schedule. -/
def run (source : String → Bytes × List FragmentNotice) (schedule : List Nat)
    (board : Board) : Board :=
  schedule.foldl (step source) board

def isFinished (board : Board) : Bool :=
  board.tasks.all (· == .finished)

/-- The contents of the slots in their order. -/
def join (board : Board) : Bytes :=
  (board.slots.filterMap id).flatten

end Board

/-- The schedule in which each task takes both its steps before the next one starts. -/
def inTurn (count : Nat) : List Nat :=
  (List.range count).flatMap fun position => [position, position]

/-- The contents of fragments, one after another. -/
def read (host : Host) (directory : Path) (names : List String) :
    Bytes × List FragmentNotice :=
  let board := (Board.start names).run (content host directory) (inTurn names.length)
  (board.join, board.notices)

end Fragments

end ProfileShell
