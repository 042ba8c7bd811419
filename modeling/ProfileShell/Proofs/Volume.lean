import ProfileShell.Entries
import ProfileShell.Volume

/-!
# Lookups on a volume that changes

A path leads to the same place for as long as the directories along it stay.  What is
read through a path therefore depends only on those directories and on the node at
the end.
-/

namespace ProfileShell.Volume

variable {volume before after : Volume} {current place other : Place} {path : Path}
  {node : Node} {location : Location}

theorem node?_put_self (inside : place ≠ []) :
    (volume.put place node).node? place = some node := by
  simp [node?, put, lookup_writeEntry, inside]

theorem node?_put_of_ne (different : other ≠ place) :
    (volume.put place node).node? other = volume.node? other := by
  simp [node?, put, lookup_writeEntry, different]

theorem ne_nil_of_node?_eq_none (free : volume.node? place = none) : place ≠ [] := by
  rintro rfl
  simp [node?] at free

theorem put_put (first second : Node) :
    (volume.put place first).put place second = volume.put place second := by
  simp [put, writeEntry_writeEntry]

theorem append_cases (volume : Volume) (place : Place) (octets : Bytes) :
    volume.append place octets = volume ∨
      ∃ content mode, volume.node? place = some (.file content mode) ∧
        volume.append place octets = volume.put place (.file (content ++ octets) mode) := by
  unfold append
  split
  next content mode found => exact .inr ⟨content, mode, found, rfl⟩
  next => exact .inl rfl

/-- Every directory of the one volume is a directory of the other. -/
def KeepsDirectories (before after : Volume) : Prop :=
  ∀ place mode, before.node? place = some (.directory mode) →
    after.node? place = some (.directory mode)

theorem keepsDirectories_put (free : volume.node? place = none) (node : Node) :
    volume.KeepsDirectories (volume.put place node) := by
  intro other mode found
  have different : other ≠ place := by
    rintro rfl
    simp [free] at found
  rw [node?_put_of_ne different, found]

theorem step_of_keeps (keeps : before.KeepsDirectories after) {name : Bytes}
    (stepped : before.step place name = .ok other) :
    after.step place name = .ok other := by
  cases found : before.node? place with
  | none => simp [step, found] at stepped
  | some node =>
      cases node with
      | directory mode => simpa [step, found, keeps place mode found] using stepped
      | file content mode => simp [step, found, Node.isDirectory] at stepped
      | device mode => simp [step, found, Node.isDirectory] at stepped

private theorem walk_cons (volume : Volume) (place : Place) (name : Bytes) (rest : List Bytes) :
    volume.walk place (name :: rest) =
      match volume.step place name with
      | .ok next => volume.walk next rest
      | .error error => .error error := by
  cases stepped : volume.step place name <;> cases rest <;> simp [walk, stepped]

theorem walk_of_keeps (keeps : before.KeepsDirectories after) {names : List Bytes}
    (walked : before.walk place names = .ok other) :
    after.walk place names = .ok other := by
  induction names generalizing place with
  | nil => exact walked
  | cons name rest ih =>
      rw [walk_cons] at walked ⊢
      cases stepped : before.step place name with
      | error error => simp [stepped] at walked
      | ok next =>
          rw [step_of_keeps keeps stepped]
          exact ih (by simpa [stepped] using walked)

theorem locate_of_keeps (keeps : before.KeepsDirectories after)
    (located : before.locate current path = .ok location) :
    after.locate current path =
      .ok { location with node := after.node? location.place } := by
  unfold locate at located ⊢
  split at located
  · cases located
  split at located
  · cases located
  split at located
  · cases located
  next noNul nonempty short =>
    rw [if_neg noNul, if_neg nonempty, if_neg short]
    dsimp only at located ⊢
    split at located
    next place walked =>
      rw [walk_of_keeps keeps walked]
      cases located
      rfl
    next => cases located

theorem node_of_locate (located : volume.locate current path = .ok location) :
    location.node = volume.node? location.place := by
  have same := locate_of_keeps (fun _ _ found => found) located
  rw [located] at same
  exact congrArg Location.node (Except.ok.inj same)

/-- A file is read as before if the directories stay and so does the node at the
end. -/
theorem read_of_keeps (keeps : before.KeepsDirectories after)
    (unchanged : ∀ location, before.locate current path = .ok location →
      after.node? location.place = before.node? location.place)
    {octets : Bytes} (found : before.read current path = .ok octets) :
    after.read current path = .ok octets := by
  cases located : before.locate current path with
  | error error => simp [read, located] at found
  | ok location =>
      have again : after.locate current path = .ok location := by
        rw [locate_of_keeps keeps located, unchanged location located,
          ← node_of_locate located]
      unfold read at found ⊢
      rw [again]
      rwa [located] at found

/-- What is put at a free place is read through the path that leads there. -/
theorem read_put_file {octets : Bytes} {mode : Nat}
    (located : volume.locate current path = .ok ⟨place, none, false⟩) :
    (volume.put place (.file octets mode)).read current path = .ok octets := by
  have free : volume.node? place = none := (node_of_locate located).symm
  have again := locate_of_keeps
    (keepsDirectories_put free (.file octets mode)) located
  rw [node?_put_self (ne_nil_of_node?_eq_none free)] at again
  simp [read, again]

theorem of_createFile {mode : Nat}
    (created : volume.createFile current path mode = .ok (place, after)) :
    volume.locate current path = .ok ⟨place, none, false⟩ ∧
      after = volume.put place (.file [] mode) := by
  unfold createFile at created
  split at created
  next => cases created
  next => cases created
  next there asksDirectory located =>
    cases asksDirectory with
    | true => simp at created
    | false =>
        simp only [Bool.false_eq_true, if_false, Except.ok.injEq, Prod.mk.injEq] at created
        obtain ⟨rfl, rfl⟩ := created
        exact ⟨located, rfl⟩

end ProfileShell.Volume
