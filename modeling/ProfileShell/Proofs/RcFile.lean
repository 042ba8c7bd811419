import Mathlib.Data.List.Basic
import ProfileShell.Proofs.Reporting
import ProfileShell.RcFile

/-!
# Contents of rc-files

Each write starts where the content so far ends, so an rc-file is the concatenation of
what was written into it.  Written are the selected names without repetitions that have
a content.  The first content that the system refuses ends the writing, and so does a
flush that it refuses; if it refuses none of them, the rc-file is there.
-/

namespace ProfileShell

/-- The system takes so many contents of an rc-file, and the flush at its end. -/
structure Refusals.Takes (refusals : Refusals) (count : Nat) : Prop where
  content : ∀ position < count, refusals.content? position = none
  flush : refusals.flush = none

theorem Refusals.takes_of_none (count : Nat) : Refusals.Takes {} count :=
  ⟨fun _ _ => rfl, rfl⟩

theorem eraseDups_of_nodup {names : List String} (distinct : names.Nodup) :
    names.eraseDups = names := by
  induction names with
  | nil => rfl
  | cons name rest ih =>
      obtain ⟨fresh, distinctRest⟩ := List.nodup_cons.mp distinct
      have kept : (rest.filter fun other => !other == name) = rest := by
        apply List.filter_eq_self.mpr
        intro other member
        have different : other ≠ name := fun same => fresh (same ▸ member)
        simpa using different
      rw [List.eraseDups_cons, kept, ih distinctRest]

theorem OpenFile.content_write_at_end (file : OpenFile) (octets : Bytes) :
    ((file.seek file.content.length).write octets).content = file.content ++ octets := by
  cases octets with
  | nil => simp [seek, write]
  | cons octet rest => simp [seek, write]

namespace ProfileContents

/-- The octets that are written for a name; a name without a content has none. -/
def octetsOf (contents : ProfileContents) (name : String) : Bytes :=
  (contents.get? name).getD []

end ProfileContents

namespace RcDraft

variable {contents : ProfileContents} {draft : RcDraft} {name : String}

theorem add_of_met (met : name ∈ draft.met) : draft.add contents name = draft :=
  if_pos met

theorem add_of_missing (fresh : name ∉ draft.met) (missing : contents.get? name = none) :
    draft.add contents name = { draft with met := name :: draft.met } := by
  unfold add
  rw [if_neg fresh, missing]

theorem add_of_found (fresh : name ∉ draft.met) {octets : Bytes}
    (found : contents.get? name = some octets) :
    draft.add contents name =
      { file := (draft.file.seek draft.offset).write octets
        offset := draft.offset + octets.length
        met := name :: draft.met
        activations := draft.activations ++ [⟨name, octets.length, draft.offset⟩] } := by
  unfold add
  rw [if_neg fresh, found]

/-- The file holds what was written, and the next write starts at its end. -/
structure Consistent (contents : ProfileContents) (draft : RcDraft) : Prop where
  content : draft.file.content = draft.profiles.flatMap contents.octetsOf
  offset : draft.offset = draft.file.content.length

theorem consistent_empty (contents : ProfileContents) : Consistent contents empty :=
  ⟨rfl, rfl⟩

theorem Consistent.add (consistent : Consistent contents draft) (name : String) :
    Consistent contents (draft.add contents name) := by
  by_cases met : name ∈ draft.met
  · rwa [add_of_met met]
  · cases found : contents.get? name with
    | none =>
        rw [add_of_missing met found]
        exact ⟨consistent.content, consistent.offset⟩
    | some octets =>
        have written : ((draft.file.seek draft.offset).write octets).content =
            draft.file.content ++ octets := by
          rw [consistent.offset, OpenFile.content_write_at_end]
        rw [add_of_found met found]
        constructor
        · simp [profiles, written, consistent.content, ProfileContents.octetsOf, found]
        · change draft.offset + octets.length = List.length (OpenFile.content _)
          rw [written, List.length_append, consistent.offset]

theorem consistent_ofSelection (contents : ProfileContents) (selection : List String) :
    Consistent contents (ofSelection contents selection) := by
  have fold : ∀ draft, Consistent contents draft →
      Consistent contents (selection.foldl (RcDraft.add contents) draft) := by
    induction selection with
    | nil => exact fun _ consistent => consistent
    | cons name rest ih => exact fun draft consistent => ih _ (consistent.add name)
  exact fold empty (consistent_empty contents)

theorem met_add (fresh : name ∉ draft.met) :
    (draft.add contents name).met = name :: draft.met := by
  cases found : contents.get? name with
  | none => rw [add_of_missing fresh found]
  | some octets => rw [add_of_found fresh found]

theorem profiles_add (fresh : name ∉ draft.met) :
    (draft.add contents name).profiles =
      draft.profiles ++ [name].filter contents.defines := by
  cases found : contents.get? name with
  | none =>
      rw [add_of_missing fresh found]
      simp [profiles, ProfileContents.defines, found]
  | some octets =>
      rw [add_of_found fresh found]
      simp [profiles, ProfileContents.defines, found]

theorem profiles_foldl_add (selection : List String) (draft : RcDraft) :
    (selection.foldl (add contents) draft).profiles =
      draft.profiles ++
        (selection.filter (· ∉ draft.met)).eraseDups.filter contents.defines := by
  induction selection generalizing draft with
  | nil => simp
  | cons name rest ih =>
      rw [List.foldl_cons, ih]
      by_cases met : name ∈ draft.met
      · simp [add_of_met met, met]
      · have unmet : rest.filter (· ∉ (draft.add contents name).met) =
            (rest.filter (· ∉ draft.met)).filter fun other => !other == name := by
          rw [met_add met, List.filter_filter]
          congr 1
          funext other
          by_cases same : other = name <;> simp [same]
        have kept : (name :: rest).filter (· ∉ draft.met) =
            name :: rest.filter (· ∉ draft.met) :=
          List.filter_cons_of_pos (by simpa using met)
        rw [unmet, kept, profiles_add met, List.eraseDups_cons, List.append_assoc]
        cases defined : contents.defines name <;> simp [defined]

/-- The profiles of an rc-file are the selected names that have a content, each at its
first position. -/
theorem profiles_ofSelection (contents : ProfileContents) (selection : List String) :
    (ofSelection contents selection).profiles =
      selection.eraseDups.filter contents.defines := by
  have written := @profiles_foldl_add contents selection empty
  simpa [ofSelection, empty, profiles] using written

/-- Nothing is dropped from a selection without repetitions all of which has a
content. -/
theorem profiles_ofSelection_of_nodup {selection : List String} (distinct : selection.Nodup)
    (defined : ∀ name ∈ selection, contents.defines name = true) :
    (ofSelection contents selection).profiles = selection := by
  rw [profiles_ofSelection, eraseDups_of_nodup distinct]
  exact List.filter_eq_self.mpr defined

/-! ## Refusals -/

variable {refusals : Refusals} {selection : List String} {position : Nat}
  {activation : Activation} {cause : SystemError}

theorem length_profiles (draft : RcDraft) :
    draft.profiles.length = draft.activations.length := List.length_map _

/-- A name is passed over, or its content is the next one to be taken or refused. -/
theorem refusal?_cases (contents : ProfileContents) (refusals : Refusals) (draft : RcDraft)
    (name : String) :
    (draft.refusal? contents refusals name = none ∧
        (draft.add contents name).activations = draft.activations) ∨
      ∃ size, draft.refusal? contents refusals name =
          refusals.content? draft.activations.length ∧
        (draft.add contents name).activations =
          draft.activations ++ [⟨name, size, draft.offset⟩] := by
  by_cases met : name ∈ draft.met
  · left
    simp [refusal?, met, add_of_met met]
  · cases found : contents.get? name with
    | none =>
        left
        simp [refusal?, found, add_of_missing met found]
    | some octets =>
        right
        refine ⟨octets.length, ?_, ?_⟩
        · simp [refusal?, met, found]
        · rw [add_of_found met found]

private theorem prefix_foldl_add (selection : List String) (draft : RcDraft) :
    draft.activations <+: (selection.foldl (add contents) draft).activations := by
  induction selection generalizing draft with
  | nil => exact List.prefix_refl _
  | cons name rest ih =>
      apply List.IsPrefix.trans _ (ih (draft.add contents name))
      rcases refusal?_cases contents {} draft name with ⟨_, same⟩ | ⟨_, _, added⟩
      · exact same ▸ List.prefix_refl draft.activations
      · rw [added]
        exact List.prefix_append _ _

/-- Contents that the system takes are written, and only the flush is left. -/
theorem fill_of_taken (taken : ∀ position, draft.activations.length ≤ position →
      position < (selection.foldl (add contents) draft).activations.length →
        refusals.content? position = none) :
    draft.fill contents refusals selection =
      (refusals.flush.map .finalize, selection.foldl (add contents) draft) := by
  induction selection generalizing draft with
  | nil => rfl
  | cons name rest ih =>
      have later := (@prefix_foldl_add contents rest (draft.add contents name)).length_le
      unfold fill
      rcases refusal?_cases contents refusals draft name with
        ⟨quiet, same⟩ | ⟨size, asked, added⟩
      · rw [quiet]
        exact ih (by rwa [same])
      · rw [added, List.length_append, List.length_singleton] at later
        rw [asked, taken _ (Nat.le_refl _) (Nat.lt_of_succ_le later)]
        apply ih
        intro position behind
        rw [added, List.length_append] at behind
        exact taken position (by omega)

/-- The first content that the system refuses ends the writing. -/
theorem fill_of_refused (behind : draft.activations.length ≤ position)
    (listed : (selection.foldl (add contents) draft).activations[position]? = some activation)
    (refused : refusals.content? position = some cause)
    (first : ∀ earlier, draft.activations.length ≤ earlier → earlier < position →
      refusals.content? earlier = none) :
    ∃ written, draft.fill contents refusals selection =
        (some (.write activation.profile cause), written) ∧
      written.activations =
        (selection.foldl (add contents) draft).activations.take position := by
  induction selection generalizing draft with
  | nil =>
      rw [List.foldl_nil, List.getElem?_eq_none behind] at listed
      cases listed
  | cons name rest ih =>
      rw [List.foldl_cons] at listed ⊢
      unfold fill
      rcases refusal?_cases contents refusals draft name with
        ⟨quiet, same⟩ | ⟨size, asked, added⟩
      · rw [quiet]
        exact ih (by rwa [same]) listed (by rwa [same])
      · rw [asked]
        rcases Nat.eq_or_lt_of_le behind with here | later
        · -- What is written later does not change what stands at the position.
          obtain ⟨more, grown⟩ := @prefix_foldl_add contents rest (draft.add contents name)
          rw [← grown, added, List.append_assoc, ← here] at listed ⊢
          rw [List.getElem?_append_right (Nat.le_refl _), Nat.sub_self] at listed
          cases listed
          rw [here, refused, ← here, List.take_left]
          exact ⟨draft, rfl, rfl⟩
        · rw [first _ (Nat.le_refl _) later]
          have count : (draft.add contents name).activations.length =
              draft.activations.length + 1 := by
            rw [added, List.length_append, List.length_singleton]
          apply ih _ listed
          · intro earlier past
            exact first earlier (by omega)
          · omega

theorem of_fill {written : RcDraft}
    (success : draft.fill contents refusals selection = (none, written)) :
    written = selection.foldl (add contents) draft := by
  induction selection generalizing draft with
  | nil => exact (Prod.mk.inj success).2.symm
  | cons name rest ih =>
      unfold fill at success
      split at success
      next => cases success
      next => exact ih success

theorem fill_of_takes
    (takes : refusals.Takes (ofSelection contents selection).profiles.length) :
    empty.fill contents refusals selection = (none, ofSelection contents selection) := by
  have taken := @fill_of_taken contents empty refusals selection
  rw [taken, takes.flush]
  · rfl
  · intro position _ before
    exact takes.content position (by rwa [length_profiles])

theorem fill_eq_write {name : String}
    (listed : (ofSelection contents selection).profiles[position]? = some name)
    (refused : refusals.content? position = some cause)
    (first : ∀ earlier < position, refusals.content? earlier = none) :
    ∃ written, empty.fill contents refusals selection =
      (some (.write name cause), written) := by
  rw [profiles, List.getElem?_map, Option.map_eq_some_iff] at listed
  obtain ⟨activation, there, rfl⟩ := listed
  obtain ⟨written, stops, _⟩ := fill_of_refused (Nat.zero_le position) there refused
    fun earlier _ => first earlier
  exact ⟨written, stops⟩

theorem fill_eq_finalize
    (taken : ∀ position < (ofSelection contents selection).profiles.length,
      refusals.content? position = none)
    (refused : refusals.flush = some cause) :
    empty.fill contents refusals selection =
      (some (.finalize cause), ofSelection contents selection) := by
  have written := @fill_of_taken contents empty refusals selection
  rw [written, refused]
  · rfl
  · intro position _ before
    exact taken position (by rwa [length_profiles])

end RcDraft

namespace RcFile

variable {log : Log} {contents : ProfileContents} {selection : List String}
  {host : Host} {path : Path} {place : Place} {volume : Volume} {draft : RcDraft}

theorem of_createAmong {directory : Path} {endings : List String}
    (created : createAmong directory host endings = .ok (path, place, volume)) :
    host.volume.locate host.place path = .ok ⟨place, none, false⟩ ∧
      volume = host.volume.put place (.file [] mode) := by
  induction endings with
  | nil => cases created
  | cons ending rest ih =>
      unfold createAmong at created
      dsimp only at created
      split at created
      next there grown success =>
        cases created
        exact Volume.of_createFile success
      next => exact ih created
      next => cases created

theorem exists_ending_of_createAmong {directory : Path} {endings : List String}
    (created : createAmong directory host endings = .ok (path, place, volume)) :
    ∃ ending ∈ endings, path = Path.join directory (nameStart ++ Utf8.encode ending) := by
  induction endings with
  | nil => cases created
  | cons ending rest ih =>
      unfold createAmong at created
      dsimp only at created
      split at created
      next =>
        cases created
        exact ⟨ending, List.mem_cons_self, rfl⟩
      next =>
        obtain ⟨found, listed, named⟩ := ih created
        exact ⟨found, List.mem_cons_of_mem ending listed, named⟩
      next => cases created

theorem of_create {blank : RcFile} {created : Host}
    (success : create host = .ok (blank, created)) :
    ∃ volume, createAmong (Path.temporaryDirectory host.environ host.directory) host
        host.temporaryEndings = .ok (blank.path, blank.place, volume) ∧
      blank.profiles = [] ∧ created = { host with volume := volume } := by
  unfold create at success
  dsimp only at success
  split at success
  next => cases success
  next made =>
    cases success
    exact ⟨_, made, rfl, rfl⟩

private theorem create_of_created (created : createAmong
      (Path.temporaryDirectory host.environ host.directory) host host.temporaryEndings =
        .ok (path, place, volume)) :
    create host = .ok (⟨path, place, []⟩, { host with volume := volume }) := by
  unfold create
  simp only [created]

/-- What is written into a file that is there and empty. -/
theorem fill_of_put (free : host.volume.node? place = none)
    (filled : RcDraft.empty.fill contents host.refusals selection = (none, draft)) :
    fill log contents selection ⟨path, place, []⟩
        { host with volume := host.volume.put place (.file [] mode) } =
      (.ok ⟨path, place, draft.profiles⟩,
        log.emitAll (draft.activations.map (·.record path))
          { host with volume := host.volume.put place (.file draft.file.content mode) }) := by
  unfold fill
  simp only [filled, Volume.overwrite,
    Volume.node?_put_self (Volume.ne_nil_of_node?_eq_none free), Volume.put_put]

private theorem node?_of_createAmong {directory : Path} {endings : List String}
    (created : createAmong directory host endings = .ok (path, place, volume)) :
    host.volume.node? place = none :=
  (Volume.node_of_locate (of_createAmong created).1).symm

theorem write_eq_of_created
    (created : createAmong (Path.temporaryDirectory host.environ host.directory) host
      host.temporaryEndings = .ok (path, place, volume))
    (filled : RcDraft.empty.fill contents host.refusals selection = (none, draft)) :
    write log contents selection host =
      (.ok ⟨path, place, draft.profiles⟩,
        log.emitAll (draft.activations.map (·.record path))
          { host with volume := host.volume.put place (.file draft.file.content mode) }) := by
  obtain ⟨-, rfl⟩ := of_createAmong created
  unfold write
  rw [create_of_created created]
  exact fill_of_put (node?_of_createAmong created) filled

/-- A file that was written had been created, and nothing of it was refused. -/
theorem of_write {rcFile : RcFile} (wrote : (write log contents selection host).1 = .ok rcFile) :
    ∃ volume,
      createAmong (Path.temporaryDirectory host.environ host.directory) host
          host.temporaryEndings = .ok (rcFile.path, rcFile.place, volume) ∧
        RcDraft.empty.fill contents host.refusals selection =
          (none, RcDraft.ofSelection contents selection) := by
  unfold write at wrote
  split at wrote
  next => cases wrote
  next blank there made =>
    obtain ⟨volume, created, _, rfl⟩ := of_create made
    unfold fill at wrote
    dsimp only at wrote
    rcases filled : RcDraft.empty.fill contents host.refusals selection with
      ⟨refusal | error, draft⟩
    · rw [filled] at wrote
      obtain rfl := Except.ok.inj wrote
      obtain rfl := RcDraft.of_fill filled
      exact ⟨volume, created, rfl⟩
    · rw [filled] at wrote
      cases wrote

theorem exists_ending_of_write {rcFile : RcFile}
    (wrote : (write log contents selection host).1 = .ok rcFile) :
    ∃ ending ∈ host.temporaryEndings, rcFile.path = Path.join
      (Path.temporaryDirectory host.environ host.directory)
        (nameStart ++ Utf8.encode ending) := by
  obtain ⟨volume, created, _⟩ := of_write wrote
  exact exists_ending_of_createAmong created

theorem environ_fill (log : Log) (contents : ProfileContents) (selection : List String)
    (rcFile : RcFile) (host : Host) :
    (fill log contents selection rcFile host).2.environ = host.environ := by
  unfold fill
  dsimp only
  split
  · exact (log.emitAll_reported _ _).environ
  · exact (log.emitAll_reported _ _).environ

theorem environ_write (log : Log) (contents : ProfileContents) (selection : List String)
    (host : Host) : (write log contents selection host).2.environ = host.environ := by
  unfold write
  split
  next => rfl
  next made =>
    obtain ⟨volume, _, _, rfl⟩ := of_create made
    exact environ_fill _ _ _ _ _

/-- An rc-file that is written as a whole is read back as written: the log, whose own file
is another one, reports the activations without touching it. -/
theorem write_of_created (opened : log.IsOpen host)
    (created : createAmong (Path.temporaryDirectory host.environ host.directory) host
      host.temporaryEndings = .ok (path, place, volume))
    (filled : RcDraft.empty.fill contents host.refusals selection = (none, draft)) :
    ∃ after, write log contents selection host = (.ok ⟨path, place, draft.profiles⟩, after) ∧
      after.read path = .ok draft.file.content ∧
      log.Spares after path ∧ after.environ = host.environ := by
  have located := (of_createAmong created).1
  let written : Host := { host with
    volume := host.volume.put place (.file draft.file.content mode) }
  have reported := log.emitAll_reported (draft.activations.map (·.record path)) written
  have free : host.volume.node? place = none := node?_of_createAmong created
  have spares : log.Spares written path := by
    intro location again target
    have same := Volume.locate_of_keeps
      (Volume.keepsDirectories_put free (.file draft.file.content mode)) located
    obtain rfl := Except.ok.inj (again.symm.trans same)
    obtain ⟨node, found⟩ := opened place target
    simp [free] at found
  refine ⟨log.emitAll (draft.activations.map (·.record path)) written,
    write_eq_of_created created filled, ?_, ?_, ?_⟩
  · exact (reported.read_of_spares spares).mpr (Volume.read_put_file located)
  · exact reported.spares_iff.mpr spares
  · exact reported.environ

end RcFile

end ProfileShell
