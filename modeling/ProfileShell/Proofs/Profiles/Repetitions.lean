import ProfileShell.Proofs.Session

/-!
# Repeated definitions

A catalog finds the first entry of a name, and the loader passes over a name that has a
content.  So both go by the first definition, whatever the later ones say: the turn of a
later definition is a warning and nothing else.  In particular it reads no file, since a
file that cannot be read would be reported.
-/

namespace ProfileShell

/-- A warning about a definition that is left out because its name has one already. -/
def Log.Record.RejectsDuplicate (record : Log.Record) : Prop :=
  record.level = .warn ∧ record.message = "skipping profile" ∧
    ("reject", "duplicate") ∈ record.fields

instance : DecidablePred Log.Record.RejectsDuplicate :=
  fun record => inferInstanceAs (Decidable (record.level = .warn ∧ _ ∧ _))

theorem LoadNotice.rejectsDuplicate_record_iff (notice : LoadNotice) :
    notice.record.RejectsDuplicate ↔ ∃ name, notice = .duplicate name := by
  cases notice with
  | duplicate name => simp [Log.Record.RejectsDuplicate, LoadNotice.record]
  | fragment notice =>
      cases notice <;>
        simp [Log.Record.RejectsDuplicate, LoadNotice.record, FragmentNotice.record]
  | loaded => simp [Log.Record.RejectsDuplicate, LoadNotice.record]

theorem Log.emitAll_append (log : Log) (first second : List Log.Record) (host : Host) :
    log.emitAll (first ++ second) host = log.emitAll second (log.emitAll first host) :=
  List.foldl_append

namespace Profiles

variable {log : Log} {root : Path} {state : ProfileContents × Host}
  {entry : String × ProfileDefinition} {entries others : List (String × ProfileDefinition)}

/-! ## One turn -/

theorem loadNext_of_defined (defined : state.1.defines entry.1 = true) :
    loadNext log root state entry =
      (state.1, log.emit (LoadNotice.duplicate entry.1).record state.2) := by
  obtain ⟨contents, host⟩ := state
  obtain ⟨name, profile⟩ := entry
  simp only at defined
  simp [loadNext, loadOne, defined, Log.emitAll]

theorem defines_loadNext (name : String) :
    (loadNext log root state entry).1.defines name =
      (state.1.defines name || name == entry.1) := by
  rw [ProfileContents.defines, get?_loadNext, Option.isSome_or, ProfileContents.defines]
  by_cases same : name = entry.1 <;> simp [same]

/-- The records of one turn. -/
def turnReports (root : Path) (state : ProfileContents × Host)
    (entry : String × ProfileDefinition) : List Log.Record :=
  (loadOne state.2 root state.1 entry).2.map LoadNotice.record

theorem countP_turnReports (root : Path) (state : ProfileContents × Host)
    (entry : String × ProfileDefinition) :
    (turnReports root state entry).countP (·.RejectsDuplicate) =
      if state.1.defines entry.1 then 1 else 0 := by
  obtain ⟨contents, host⟩ := state
  obtain ⟨name, profile⟩ := entry
  simp only [turnReports, List.countP_map]
  cases defined : contents.defines name with
  | true => simp [loadOne, defined, LoadNotice.rejectsDuplicate_record_iff]
  | false => simp [loadOne, defined, LoadNotice.rejectsDuplicate_record_iff, List.countP_eq_zero]

/-! ## Whole catalogs -/

/-- The records of all turns. -/
def reports (log : Log) (root : Path) :
    List (String × ProfileDefinition) → ProfileContents × Host → List Log.Record
  | [], _ => []
  | entry :: rest, state =>
    turnReports root state entry ++ reports log root rest (loadNext log root state entry)

theorem foldl_loadNext_snd :
    (entries.foldl (loadNext log root) state).2 =
      log.emitAll (reports log root entries state) state.2 := by
  induction entries generalizing state with
  | nil => rfl
  | cons entry rest ih =>
      rw [List.foldl_cons, ih, reports, Log.emitAll_append]
      rfl

/-- Every turn but the first one of a name is a warning, so the warnings and the names that
come new add up to the turns. -/
theorem countP_reports (entries : List (String × ProfileDefinition))
    (state : ProfileContents × Host) :
    (reports log root entries state).countP (·.RejectsDuplicate) +
        ((entries.map Prod.fst).filter (!state.1.defines ·)).eraseDups.length =
      entries.length := by
  induction entries generalizing state with
  | nil => simp [reports]
  | cons entry rest ih =>
      have later := ih (loadNext log root state entry)
      rw [reports, List.countP_append, countP_turnReports, List.map_cons, List.length_cons]
      cases defined : state.1.defines entry.1 with
      | true =>
          have kept : (loadNext log root state entry).1 = state.1 := by
            rw [loadNext_of_defined defined]
          rw [kept] at later
          rw [if_pos rfl, List.filter_cons_of_neg (by simp [defined])]
          omega
      | false =>
          have unmet : (rest.map Prod.fst).filter
                (!(loadNext log root state entry).1.defines ·) =
              ((rest.map Prod.fst).filter (!state.1.defines ·)).filter
                fun name => !name == entry.1 := by
            rw [List.filter_filter]
            congr 1
            funext name
            rw [defines_loadNext, Bool.not_or, Bool.and_comm]
          rw [unmet] at later
          rw [List.filter_cons_of_pos (by simp [defined]), List.eraseDups_cons,
            List.length_cons, if_neg Bool.false_ne_true]
          omega

/-- What a later definition says does not matter: catalogs with the same names in the same
order and the same first definitions are loaded alike. -/
theorem foldl_loadNext_congr (names : others.map Prod.fst = entries.map Prod.fst)
    (firsts : ∀ name, state.1.defines name = false →
      others.lookup name = entries.lookup name) :
    others.foldl (loadNext log root) state = entries.foldl (loadNext log root) state := by
  induction entries generalizing others state with
  | nil => rw [List.map_eq_nil_iff.mp names]
  | cons entry rest ih =>
      obtain ⟨other, more, rfl, same, sameRest⟩ := List.map_eq_cons_iff.mp names
      obtain ⟨name, profile⟩ := entry
      obtain ⟨first, definition⟩ := other
      obtain rfl : first = name := same
      have turn : loadNext log root state (first, definition) =
          loadNext log root state (first, profile) := by
        cases defined : state.1.defines first with
        | true => rw [loadNext_of_defined defined, loadNext_of_defined defined]
        | false =>
            have alike := firsts first defined
            rw [lookup_cons_ite, lookup_cons_ite, if_pos rfl, if_pos rfl] at alike
            rw [Option.some.inj alike]
      rw [List.foldl_cons, List.foldl_cons, turn]
      apply ih sameRest
      intro name undefined
      rw [defines_loadNext, Bool.or_eq_false_iff, beq_eq_false_iff_ne] at undefined
      have alike := firsts name undefined.1
      rwa [lookup_cons_ite, lookup_cons_ite, if_neg undefined.2, if_neg undefined.2] at alike

/-- A definition that is added to a catalog with its name is passed over: there is one more
warning, and that is all. -/
theorem loadReporting_push (earlier : Catalog ProfileDefinition) {name : String}
    (repeated : name ∈ earlier.names) (definition : ProfileDefinition) (host : Host) :
    loadReporting log root (earlier.push name definition) host =
      ((loadReporting log root earlier host).1,
        log.emit (LoadNotice.duplicate name).record
          (loadReporting log root earlier host).2) := by
  have defined : (loadReporting log root earlier host).1.defines name = true := by
    rw [ProfileContents.defines, get?_loadReporting, Option.isSome_map]
    exact (earlier.defines_iff_mem_names name).mpr repeated
  rw [loadReporting, Catalog.entries_push, List.foldl_append]
  exact @loadNext_of_defined log root _ (name, definition) defined

/-- A name is loaded if the catalog finds it, with the octets of the definition that the
catalog finds: its declarations and the files that it includes, as they are when its turn
comes.  That is as they are at first, unless the log writes to one of them.  What the other
definitions of the name say makes no difference, neither to what is loaded nor to what is
reported; the turn of such a definition is one warning; and there are as many of these
warnings as the catalog has entries beyond its distinct names. -/
theorem loadReporting_firstDefinitions (log : Log) (root : Path)
    (profiles : Catalog ProfileDefinition) (host : Host) :
    (∀ name, (loadReporting log root profiles host).1.get? name =
        (profiles.get? name).map fun profile =>
          declared profile ++ profile.includes.flatMap
            (Fragments.octets (hostAt log root profiles host name) (directory root name))) ∧
      (∀ name file, log.Spares host (Fragments.path host (directory root name) file) →
        Fragments.octets (hostAt log root profiles host name) (directory root name) file =
          Fragments.octets host (directory root name) file) ∧
      (∀ others : Catalog ProfileDefinition, others.names = profiles.names →
        (∀ name, others.get? name = profiles.get? name) →
        loadReporting log root others host = loadReporting log root profiles host) ∧
      (∀ name ∈ profiles.names, ∀ definition,
        loadReporting log root (profiles.push name definition) host =
          ((loadReporting log root profiles host).1,
            log.emit ⟨.warn, "skipping profile", [("profile", name), ("reject", "duplicate")]⟩
              (loadReporting log root profiles host).2)) ∧
      (loadReporting log root profiles host).2 =
        log.emitAll (reports log root profiles.entries (.empty, host)) host ∧
      (reports log root profiles.entries (.empty, host)).countP (·.RejectsDuplicate) +
        profiles.names.eraseDups.length = profiles.size := by
  refine ⟨get?_loadReporting log root profiles host, ?_, ?_, ?_, foldl_loadNext_snd, ?_⟩
  · intro name file spares
    exact Fragments.octets_of_reported (loadReporting_reported log root _ host) spares
  · intro others names firsts
    exact foldl_loadNext_congr names fun name _ => firsts name
  · intro name repeated definition
    exact loadReporting_push profiles repeated definition host
  · have counted := @countP_reports log root profiles.entries (.empty, host)
    have unmet : (profiles.entries.map Prod.fst).filter
        (!(ProfileContents.empty, host).1.defines ·) = profiles.names :=
      List.filter_eq_self.mpr fun _ _ => rfl
    rwa [unmet] at counted

/-- The repeated profile has the octets of its first definition, and a second definition of
the other one is passed over with all that it says. -/
theorem loadReporting_firstDefinitions_layered :
    let load := fun profiles =>
      loadReporting Session.ledger (Path.ofText "/") profiles Session.desk
    let catalog := Session.layered.profiles
    (load catalog).1.get? "work" = some (Utf8.encode "W=1\nM=1\n") ∧
      load (catalog.push "tools" ⟨none, ["U=1\n"], [], ["none"]⟩) =
        ((load catalog).1,
          Session.ledger.emit
            ⟨.warn, "skipping profile", [("profile", "tools"), ("reject", "duplicate")]⟩
            (load catalog).2) ∧
      (reports Session.ledger (Path.ofText "/") catalog.entries (.empty, Session.desk)).countP
        (·.RejectsDuplicate) = 1 := by
  intro load catalog
  obtain ⟨found, _, _, repeated, _, counted⟩ :=
    loadReporting_firstDefinitions Session.ledger (Path.ofText "/") catalog Session.desk
  refine ⟨?_, repeated "tools" (by decide) _, ?_⟩
  · rw [found]
    decide +kernel
  · have names : catalog.names.eraseDups.length = 2 := by decide
    have entries : catalog.size = 3 := rfl
    omega

end Profiles

end ProfileShell
