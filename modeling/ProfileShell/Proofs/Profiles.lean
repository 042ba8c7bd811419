import Mathlib.Data.List.TakeWhile
import ProfileShell.Entries
import ProfileShell.Profiles
import ProfileShell.Proofs.Fragments
import ProfileShell.Proofs.Reporting

/-!
# Loaded contents

Loading gives a name the content of its first definition: the declarations, and behind
them the included files as they are when the turn of that definition comes.  What a
log has written by then makes a difference only where a profile includes the file of
the log.
-/

namespace ProfileShell

/-- The octets of a fragment; a file that cannot be read has none. -/
def Fragments.octets (host : Host) (directory : Path) (name : String) : Bytes :=
  match host.read (path host directory name) with
  | .ok octets => octets
  | .error _ => []

theorem Fragments.content_fst (host : Host) (directory : Path) (name : String) :
    (content host directory name).1 = octets host directory name := by
  unfold content octets
  cases host.read (path host directory name) <;> rfl

/-- A fragment has the octets that it had before a report, unless it is the file of the
log. -/
theorem Fragments.octets_of_reported {log : Log} {before after : Host} {directory : Path}
    {name : String} (reported : log.Reported before after)
    (spares : log.Spares before (path before directory name)) :
    octets after directory name = octets before directory name := by
  have same : path after directory name = path before directory name := by
    simp [path, reported.environ]
  have readable : ∀ held, after.read (path before directory name) = .ok held ↔
      before.read (path before directory name) = .ok held :=
    fun _ => reported.read_of_spares spares
  unfold octets
  rw [same]
  cases earlier : before.read (path before directory name) with
  | ok held => rw [(readable held).mpr earlier]
  | error cause =>
      cases later : after.read (path before directory name) with
      | ok held => simp [(readable held).mp later] at earlier
      | error other => rfl

namespace ProfileContents

theorem get?_insert (contents : ProfileContents) (name other : String) (octets : Bytes) :
    (contents.insert name octets).get? other =
      (contents.get? other).or (if other = name then some octets else none) := by
  simp only [get?, insert, List.lookup_append, lookup_cons_ite, List.lookup_nil]

end ProfileContents

namespace Profiles

/-- The octets of one definition of a profile: its declarations, then the files that it
includes, each one right after another. -/
def octets (host : Host) (root : Path) (name : String) (profile : ProfileDefinition) :
    Bytes :=
  declared profile ++ profile.includes.flatMap (Fragments.octets host (directory root name))

/-- The octets of a name: those of its first definition. -/
def octetsOf (host : Host) (root : Path) (profiles : Catalog ProfileDefinition)
    (name : String) : Bytes :=
  ((profiles.get? name).map (octets host root name)).getD []

variable {log : Log} {root : Path} {name : String} {profile : ProfileDefinition}
  {before after : Host} {state : ProfileContents × Host}
  {entries : List (String × ProfileDefinition)}

theorem content_fst (host : Host) (root : Path) (name : String)
    (profile : ProfileDefinition) :
    (content host root name profile).1 = octets host root name profile := by
  simp [content, octets, Fragments.read_fst, Fragments.content_fst]

theorem get?_loadNext (entry : String × ProfileDefinition) :
    (loadNext log root state entry).1.get? name =
      (state.1.get? name).or
        (if name = entry.1 then some (octets state.2 root entry.1 entry.2) else none) := by
  obtain ⟨contents, host⟩ := state
  obtain ⟨first, profile⟩ := entry
  cases defined : contents.defines first with
  | true =>
      have kept : (loadNext log root (contents, host) (first, profile)).1 = contents := by
        simp [loadNext, loadOne, defined]
      rw [kept]
      by_cases same : name = first
      · obtain ⟨held, found⟩ := Option.isSome_iff_exists.mp defined
        simp [same, found]
      · simp [same]
  | false =>
      have extended : (loadNext log root (contents, host) (first, profile)).1 =
          contents.insert first (octets host root first profile) := by
        simp [loadNext, loadOne, defined, content_fst]
      rw [extended, ProfileContents.get?_insert]

theorem loadNext_reported (state : ProfileContents × Host)
    (entry : String × ProfileDefinition) :
    log.Reported state.2 (loadNext log root state entry).2 :=
  Log.emitAll_reported _ _

theorem foldl_loadNext_reported (entries : List (String × ProfileDefinition))
    (state : ProfileContents × Host) :
    log.Reported state.2 (entries.foldl (loadNext log root) state).2 := by
  induction entries generalizing state with
  | nil => exact .refl log state.2
  | cons entry rest ih => exact (loadNext_reported state entry).trans (ih _)

private theorem get?_foldl_of_some {held : Bytes} (found : state.1.get? name = some held) :
    (entries.foldl (loadNext log root) state).1.get? name = some held := by
  induction entries generalizing state with
  | nil => exact found
  | cons entry rest ih => exact ih (by rw [get?_loadNext, found, Option.some_or])

private theorem get?_foldl_of_none (missing : state.1.get? name = none) :
    (entries.foldl (loadNext log root) state).1.get? name =
      (entries.lookup name).map
        (octets ((entries.takeWhile (·.1 != name)).foldl (loadNext log root) state).2
          root name) := by
  induction entries generalizing state with
  | nil => exact missing
  | cons entry rest ih =>
      obtain ⟨first, profile⟩ := entry
      rw [List.foldl_cons, lookup_cons_ite]
      by_cases same : name = first
      · subst first
        have loaded : (loadNext log root state (name, profile)).1.get? name =
            some (octets state.2 root name profile) := by
          simp [get?_loadNext, missing]
        simp [get?_foldl_of_some loaded]
      · have still : (loadNext log root state (first, profile)).1.get? name = none := by
          simp [get?_loadNext, missing, same]
        have ahead : ((first, profile) :: rest).takeWhile (·.1 != name) =
            (first, profile) :: rest.takeWhile (·.1 != name) :=
          List.takeWhile_cons_of_pos (bne_iff_ne.mpr (Ne.symm same))
        rw [ih still, if_neg same, ahead, List.foldl_cons]

/-- The host when the first definition of a name is loaded: everything ahead of it has
been loaded and reported. -/
def hostAt (log : Log) (root : Path) (profiles : Catalog ProfileDefinition) (host : Host)
    (name : String) : Host :=
  (loadReporting log root ⟨profiles.entries.takeWhile (·.1 != name)⟩ host).2

/-- A name has the content of its first definition, and no content if it has none. -/
theorem get?_loadReporting (log : Log) (root : Path)
    (profiles : Catalog ProfileDefinition) (host : Host) (name : String) :
    (loadReporting log root profiles host).1.get? name =
      (profiles.get? name).map (octets (hostAt log root profiles host name) root name) :=
  get?_foldl_of_none rfl

theorem loadReporting_reported (log : Log) (root : Path)
    (profiles : Catalog ProfileDefinition) (host : Host) :
    log.Reported host (loadReporting log root profiles host).2 :=
  foldl_loadNext_reported profiles.entries (.empty, host)

theorem octets_of_reported (reported : log.Reported before after)
    (spares : ∀ file ∈ profile.includes,
      log.Spares before (Fragments.path before (directory root name) file)) :
    octets after root name profile = octets before root name profile := by
  have each : ∀ file ∈ profile.includes,
      Fragments.octets after (directory root name) file =
        Fragments.octets before (directory root name) file :=
    fun file included => Fragments.octets_of_reported reported (spares file included)
  simp only [octets, List.flatMap_def, List.map_congr_left each]

/-- A profile has the octets that it had at first, unless it includes the file of the
log. -/
theorem octetsOf_hostAt {profiles : Catalog ProfileDefinition} {host : Host}
    (spares : ∀ profile, profiles.get? name = some profile → ∀ file ∈ profile.includes,
      log.Spares host (Fragments.path host (directory root name) file)) :
    octetsOf (hostAt log root profiles host name) root profiles name =
      octetsOf host root profiles name := by
  cases found : profiles.get? name with
  | none => simp [octetsOf, found]
  | some profile =>
      have reported : log.Reported host (hostAt log root profiles host name) :=
        loadReporting_reported log root _ host
      have same := octets_of_reported reported (spares profile found)
      simp [octetsOf, found, same]

end Profiles

end ProfileShell
