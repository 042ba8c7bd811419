import ProfileShell.Config.File
import ProfileShell.Proofs.Reporting

/-!
# Files that come and go

What has a file is told place by place.  A report creates none, nor does the directory
of a configuration; opening a log creates at most its own file.
-/

namespace ProfileShell

namespace Volume

variable {volume before middle after : Volume} {current place other : Place} {path : Path}

/-- There is a file at a place. -/
def HasFile (volume : Volume) (place : Place) : Prop :=
  ∃ content mode, volume.node? place = some (.file content mode)

instance (volume : Volume) (place : Place) : Decidable (volume.HasFile place) :=
  match found : volume.node? place with
  | some (.file content mode) => isTrue ⟨content, mode, found⟩
  | some (.directory _) | some (.device _) | none =>
    isFalse fun ⟨_, _, file⟩ => nomatch found.symm.trans file

theorem HasFile.of_node?_eq (found : after.HasFile place)
    (same : after.node? place = before.node? place) : before.HasFile place := by
  obtain ⟨content, mode, held⟩ := found
  exact ⟨content, mode, same.symm.trans held⟩

theorem HasFile.of_put {node : Node} (found : (volume.put place node).HasFile other) :
    other = place ∨ volume.HasFile other := by
  by_cases same : other = place
  · exact .inl same
  · exact .inr (found.of_node?_eq (node?_put_of_ne same))

private theorem lookup_filter_ne (nodes : List (Place × Node)) (place other : Place) :
    (nodes.filter (·.1 != place)).lookup other =
      if other = place then none else nodes.lookup other := by
  induction nodes with
  | nil => simp
  | cons entry rest ih =>
      obtain ⟨first, node⟩ := entry
      by_cases erased : first = place
      · subst first
        rw [List.filter_cons_of_neg (by simp), ih, lookup_cons_ite]
        by_cases same : other = place <;> simp [same]
      · rw [List.filter_cons_of_pos (by simpa using erased), lookup_cons_ite, lookup_cons_ite,
          ih]
        by_cases here : other = first
        · subst here
          simp [erased]
        · simp [here]

theorem not_hasFile_erase (volume : Volume) (place : Place) :
    ¬ (volume.erase place).HasFile place := by
  rintro ⟨content, mode, found⟩
  by_cases root : place = []
  · subst root
    simp [node?] at found
  · simp [node?, erase, root, lookup_filter_ne] at found

theorem HasFile.of_erase (found : (volume.erase place).HasFile other) :
    volume.HasFile other := by
  by_cases same : other = place
  · subst same
    exact absurd found (not_hasFile_erase volume other)
  · apply found.of_node?_eq
    simp [node?, erase, lookup_filter_ne, same]

theorem hasFile_overwrite (volume : Volume) (place : Place) (octets : Bytes) :
    (volume.overwrite place octets).HasFile other ↔ volume.HasFile other := by
  unfold overwrite
  split
  next content mode found =>
    have inside : place ≠ [] := by
      rintro rfl
      simp [node?] at found
    by_cases same : other = place
    · subst same
      exact ⟨fun _ => ⟨content, mode, found⟩, fun _ => ⟨octets, mode, node?_put_self inside⟩⟩
    · rw [HasFile, HasFile, node?_put_of_ne same]
  next => exact Iff.rfl

/-- What is new on the one volume are directories. -/
def AddsDirectories (before after : Volume) : Prop :=
  ∀ place, after.node? place = before.node? place ∨
    before.node? place = none ∧ ∃ mode, after.node? place = some (.directory mode)

theorem AddsDirectories.refl (volume : Volume) : volume.AddsDirectories volume :=
  fun _ => .inl rfl

theorem AddsDirectories.trans (first : before.AddsDirectories middle)
    (second : middle.AddsDirectories after) : before.AddsDirectories after := by
  intro place
  rcases second place with same | ⟨free, made⟩
  · rw [same]
    exact first place
  · rcases first place with same | ⟨_, mode, taken⟩
    · exact .inr ⟨same.symm.trans free, made⟩
    · rw [taken] at free
      cases free

theorem AddsDirectories.hasFile (adds : before.AddsDirectories after)
    (found : after.HasFile place) : before.HasFile place := by
  rcases adds place with same | ⟨_, mode, made⟩
  · exact found.of_node?_eq same
  · obtain ⟨content, held, file⟩ := found
    rw [made] at file
    cases file

theorem addsDirectories_put {mode : Nat} (free : volume.node? place = none) :
    volume.AddsDirectories (volume.put place (.directory mode)) := by
  intro other
  by_cases same : other = place
  · subst same
    exact .inr ⟨free, mode, node?_put_self (ne_nil_of_node?_eq_none free)⟩
  · exact .inl (node?_put_of_ne same)

theorem createDirectory_addsDirectories {mode : Nat}
    (made : volume.createDirectory current path mode = .ok after) :
    volume.AddsDirectories after := by
  unfold createDirectory at made
  split at made
  next => cases made
  next => cases made
  next place asksDirectory located =>
    cases made
    exact addsDirectories_put (node_of_locate located).symm

theorem makeDirectory_addsDirectories {mode : Nat}
    (made : volume.makeDirectory current path mode = .ok after) :
    volume.AddsDirectories after := by
  unfold makeDirectory at made
  split at made
  next =>
    split at made
    · cases made
      exact .refl volume
    · cases made
  next => exact createDirectory_addsDirectories made

theorem makeAlong_addsDirectories {mode : Nat} {paths : List Path}
    (made : volume.makeAlong current mode paths = .ok after) :
    volume.AddsDirectories after := by
  induction paths generalizing after with
  | nil =>
      cases made
      exact .refl volume
  | cons path parents ih =>
      unfold makeAlong at made
      split at made
      next =>
        split at made
        next => cases made
        next =>
          split at made
          next grown grew => exact (ih grew).trans (makeDirectory_addsDirectories made)
          next => cases made
      next => exact makeDirectory_addsDirectories made

/-- Opening a file makes at most this file. -/
theorem HasFile.of_openToWrite {keep : Bool} {mode : Nat}
    (opened : volume.openToWrite current path keep mode = .ok (place, after))
    (found : after.HasFile other) : other = place ∨ volume.HasFile other := by
  unfold openToWrite at opened
  split at opened
  next => cases opened
  next =>
    split at opened
    · cases opened
    · split at opened <;> cases opened
      · exact found.of_put
      · exact found.of_put
      · exact .inr found

end Volume

/-- Preparing the directory of a configuration changes nothing but the volume. -/
theorem Config.of_prepareDirectory {file : Path} {host prepared : Host}
    (success : Config.prepareDirectory file host = .ok prepared) :
    ∃ volume, prepared = { host with volume := volume } ∧
      host.volume.AddsDirectories volume := by
  unfold Config.prepareDirectory at success
  split at success
  next =>
    cases success
    exact ⟨_, rfl, .refl _⟩
  next =>
    cases success
    exact ⟨_, rfl, .refl _⟩
  next =>
    split at success
    · cases success
      exact ⟨_, rfl, .refl _⟩
    · split at success
      next volume made =>
        cases success
        exact ⟨volume, rfl, Volume.makeAlong_addsDirectories made⟩
      next => cases success

theorem Log.Reported.hasFile_iff {log : Log} {before after : Host}
    (reported : log.Reported before after) (place : Place) :
    after.volume.HasFile place ↔ before.volume.HasFile place := by
  rcases reported.node place with same | ⟨_, content, more, mode, held, grown⟩
  · rw [Volume.HasFile, Volume.HasFile, same]
  · exact ⟨fun _ => ⟨content, mode, held⟩, fun _ => ⟨content ++ more, mode, grown⟩⟩

/-- Opening a sink changes nothing but the volume, and makes at most its own file. -/
theorem Log.Sink.of_open {sink : Sink} {target : Target} {host opened : Host}
    (success : sink.open host = .ok (target, opened)) :
    ∃ volume, opened = { host with volume := volume } ∧
      ∀ place, volume.HasFile place → target = .file place ∨ host.volume.HasFile place := by
  unfold Sink.open at success
  split at success
  next =>
    cases success
    exact ⟨_, rfl, fun _ => .inr⟩
  next =>
    cases success
    exact ⟨_, rfl, fun _ => .inr⟩
  next =>
    split at success
    next there volume openedFile =>
      cases success
      refine ⟨volume, rfl, ?_⟩
      intro place found
      rcases Volume.HasFile.of_openToWrite openedFile found with rfl | before
      · exact .inl rfl
      · exact .inr before
    next => cases success

end ProfileShell
