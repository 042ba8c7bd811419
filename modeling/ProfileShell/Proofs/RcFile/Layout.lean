import ProfileShell.Proofs.RcFile
import ProfileShell.Proofs.Session

/-!
# Layout of rc-files

The contents of the profiles stand in an rc-file without gaps and without overlaps: each of
them starts where the ones ahead of it end, and the record of its activation says so.  A
name that has been met counts for nothing any more, so a selection and the same selection
without repetitions are written alike.
-/

namespace ProfileShell

namespace RcDraft

variable {contents : ProfileContents} {draft : RcDraft} {name : String}

/-! ## Repetitions -/

private theorem mem_met_add (draft : RcDraft) (name : String) :
    name ∈ (draft.add contents name).met := by
  by_cases met : name ∈ draft.met
  · rwa [add_of_met met]
  · rw [met_add met]
    exact List.mem_cons_self

private theorem met_subset_add (draft : RcDraft) (name : String) :
    draft.met ⊆ (draft.add contents name).met := by
  by_cases met : name ∈ draft.met
  · rw [add_of_met met]
    exact List.Subset.refl _
  · rw [met_add met]
    exact List.subset_cons_self _ _

private theorem foldl_add_filter_ne (met : name ∈ draft.met) (selection : List String) :
    (selection.filter fun other => !other == name).foldl (add contents) draft =
      selection.foldl (add contents) draft := by
  induction selection generalizing draft with
  | nil => rfl
  | cons other rest ih =>
      rw [List.foldl_cons]
      by_cases same : other = name
      · subst other
        rw [List.filter_cons_of_neg (by simp), add_of_met met, ih met]
      · rw [List.filter_cons_of_pos (by simpa using same), List.foldl_cons,
          ih (met_subset_add draft other met)]

theorem foldl_add_eraseDups (selection : List String) (draft : RcDraft) :
    selection.eraseDups.foldl (add contents) draft =
      selection.foldl (add contents) draft := by
  induction size : selection.length using Nat.strongRecOn generalizing selection draft with
  | ind length ih =>
      cases selection with
      | nil => rfl
      | cons name rest =>
          have shorter : (rest.filter fun other => !other == name).length < length := by
            have filtered := List.length_filter_le (fun other => !other == name) rest
            rw [List.length_cons] at size
            omega
          rw [List.eraseDups_cons, List.foldl_cons, List.foldl_cons,
            ih _ shorter _ _ rfl, foldl_add_filter_ne (mem_met_add draft name)]

/-- A selection and the same selection without repetitions are written alike. -/
theorem ofSelection_eraseDups (contents : ProfileContents) (selection : List String) :
    ofSelection contents selection.eraseDups = ofSelection contents selection :=
  foldl_add_eraseDups selection empty

/-! ## Sizes and offsets -/

/-- The sum of the sizes of profiles. -/
def extent (contents : ProfileContents) : List String → Nat
  | [] => 0
  | name :: rest => (contents.octetsOf name).length + extent contents rest

private theorem length_flatMap_octetsOf (contents : ProfileContents) (profiles : List String) :
    (profiles.flatMap contents.octetsOf).length = extent contents profiles := by
  induction profiles with
  | nil => rfl
  | cons name rest ih => rw [List.flatMap_cons, List.length_append, ih, extent]

/-- Each activation has the size of its profile, and as its offset what the profiles ahead
of it take. -/
def Measured (contents : ProfileContents) (draft : RcDraft) : Prop :=
  ∀ (position : Nat) (name : String), draft.profiles[position]? = some name →
    draft.activations[position]? =
      some ⟨name, (contents.octetsOf name).length,
        extent contents (draft.profiles.take position)⟩

theorem Consistent.offset_eq_extent (consistent : Consistent contents draft) :
    draft.offset = extent contents draft.profiles := by
  rw [consistent.offset, consistent.content, length_flatMap_octetsOf]

theorem Measured.add (measured : Measured contents draft)
    (consistent : Consistent contents draft) (name : String) :
    Measured contents (draft.add contents name) := by
  by_cases met : name ∈ draft.met
  · rwa [add_of_met met]
  · cases found : contents.get? name with
    | none => rwa [add_of_missing met found]
    | some octets =>
        have size : (contents.octetsOf name).length = octets.length := by
          rw [ProfileContents.octetsOf, found, Option.getD_some]
        have count : draft.activations.length = draft.profiles.length :=
          (length_profiles draft).symm
        have added : (draft.add contents name).activations =
            draft.activations ++ [⟨name, octets.length, draft.offset⟩] := by
          rw [add_of_found met found]
        have listed : (draft.add contents name).profiles = draft.profiles ++ [name] := by
          rw [profiles, added, List.map_append]
          rfl
        intro position other here
        rw [listed] at here ⊢
        rw [added]
        rcases Nat.lt_or_ge position draft.profiles.length with earlier | last
        · rw [List.getElem?_append_left earlier] at here
          rw [List.getElem?_append_left (count ▸ earlier),
            List.take_append_of_le_length (Nat.le_of_lt earlier)]
          exact measured position other here
        · obtain ⟨rfl, rfl⟩ : position = draft.profiles.length ∧ other = name := by
            rw [List.getElem?_append_right last, List.getElem?_singleton] at here
            split at here
            case isTrue zero => exact ⟨by omega, (Option.some.inj here).symm⟩
            case isFalse => cases here
          rw [List.take_left, ← count, List.getElem?_concat_length, size,
            consistent.offset_eq_extent]

theorem measured_ofSelection (contents : ProfileContents) (selection : List String) :
    Measured contents (ofSelection contents selection) := by
  have fold : ∀ draft, Consistent contents draft → Measured contents draft →
      Measured contents (selection.foldl (RcDraft.add contents) draft) := by
    induction selection with
    | nil => exact fun _ _ measured => measured
    | cons name rest ih =>
        exact fun draft consistent measured =>
          ih _ (consistent.add name) (measured.add consistent name)
  exact fold empty (consistent_empty contents) fun _ _ here => by cases here

end RcDraft

namespace RcFile

variable {log : Log} {host : Host} {path : Path} {place : Place} {volume : Volume}

/-- Of a selection the first of each name is written, if the name has a content and the
system takes it.  The file holds the contents of these profiles one after another, and
there is one record for each of them, in their order, with its size and with the size of
everything ahead of it as its offset.  The selection without repetitions has the same
outcome. -/
theorem write_layout (opened : log.IsOpen host)
    (created : createAmong (Path.temporaryDirectory host.environ host.directory) host
      host.temporaryEndings = .ok (path, place, volume))
    (contents : ProfileContents) (selection : List String)
    (takes : host.refusals.Takes (selection.eraseDups.filter contents.defines).length) :
    let profiles := selection.eraseDups.filter contents.defines
    let content := profiles.flatMap contents.octetsOf
    ∃ records after,
      write log contents selection host = (.ok ⟨path, place, profiles⟩, after) ∧
        after.read path = .ok content ∧
        after = log.emitAll records
          { host with volume := host.volume.put place (.file content mode) } ∧
        records.length = profiles.length ∧
        (∀ (position : Nat) (name : String), profiles[position]? = some name →
          records[position]? = some ⟨.info, "activated profile",
            [ ("profile", name),
              ("size", toString (contents.octetsOf name).length ++ "B"),
              ("offset", toString (RcDraft.extent contents (profiles.take position))),
              ("path", Path.display path) ]⟩) ∧
        write log contents selection.eraseDups host = write log contents selection host := by
  intro profiles content
  let draft := RcDraft.ofSelection contents selection
  have listed : draft.profiles = profiles := RcDraft.profiles_ofSelection contents selection
  have held : draft.file.content = content := by
    rw [(RcDraft.consistent_ofSelection contents selection).content, listed]
  have filled : RcDraft.empty.fill contents host.refusals selection = (none, draft) :=
    RcDraft.fill_of_takes (by rwa [listed])
  have again : RcDraft.empty.fill contents host.refusals selection.eraseDups =
      (none, draft) := by
    have same : RcDraft.ofSelection contents selection.eraseDups = draft :=
      RcDraft.ofSelection_eraseDups contents selection
    rw [← same]
    exact RcDraft.fill_of_takes (by rwa [same, listed])
  obtain ⟨after, wrote, read, _, _⟩ :=
    @write_of_created log contents selection host path place volume draft opened created filled
  have emitted : after = log.emitAll (draft.activations.map (·.record path))
      { host with volume := host.volume.put place (.file draft.file.content mode) } :=
    (Prod.mk.inj (wrote.symm.trans (write_eq_of_created created filled))).2
  refine ⟨draft.activations.map (·.record path), after, ?_, ?_, ?_, ?_, ?_, ?_⟩
  · rw [← listed]
    exact wrote
  · rw [← held]
    exact read
  · rw [← held]
    exact emitted
  · rw [List.length_map, ← listed, RcDraft.length_profiles]
  · intro position name here
    rw [← listed] at here ⊢
    rw [List.getElem?_map, RcDraft.measured_ofSelection contents selection position name here]
    rfl
  · rw [write_eq_of_created created filled, write_eq_of_created created again]

/-- Three profiles, one of which has nothing in it. -/
def scattered : ProfileContents :=
  .ofList [("auto", []), ("p", Utf8.encode "P=1\n"), ("q", Utf8.encode "Q=22\n")]

/-- An empty profile between two others moves nothing, and neither do a repetition and a
name that no profile has. -/
theorem write_layout_scattered :
    ∃ path place records after,
      write Session.ledger scattered ["p", "ghost", "auto", "p", "q", "ghost"] Session.desk =
          (.ok ⟨path, place, ["p", "auto", "q"]⟩, after) ∧
        after.read path = .ok (Utf8.encode "P=1\nQ=22\n") ∧
        records[2]? = some ⟨.info, "activated profile",
          [ ("profile", "q"), ("size", "5B"), ("offset", "4"), ("path", Path.display path) ]⟩ ∧
        ∃ written, after = Session.ledger.emitAll records written := by
  have opened : Session.ledger.IsOpen Session.desk := fun _ target => nomatch target
  cases created : createAmong
      (Path.temporaryDirectory Session.desk.environ Session.desk.directory) Session.desk
      Session.desk.temporaryEndings with
  | error error =>
      have free : (createAmong
          (Path.temporaryDirectory Session.desk.environ Session.desk.directory) Session.desk
          Session.desk.temporaryEndings).toOption.isSome = true := by decide
      rw [created] at free
      cases free
  | ok there =>
      obtain ⟨path, place, volume⟩ := there
      obtain ⟨records, after, wrote, read, emitted, _, each, _⟩ :=
        write_layout opened created scattered ["p", "ghost", "auto", "p", "q", "ghost"]
          (Refusals.takes_of_none _)
      exact ⟨path, place, records, after, wrote, read, each 2 "q" rfl, _, emitted⟩

end RcFile

end ProfileShell
