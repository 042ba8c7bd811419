import ProfileShell.Proofs.Reporting
import ProfileShell.Proofs.Selection.Completeness

/-!
# What a selection says about what it leaves out

Three kinds of notices tell why a profile was not entered.  Two of them may stand for a
profile that is missing in the end: that it is not defined, and that it came too deep.  The
third, that it inherits itself, is only ever about a profile that is selected all the same,
since the visit that was under way goes on to its end.  All notices are warnings, which
every log writes that writes at all.
-/

namespace ProfileShell

/-- A warning about a profile. -/
def Log.Record.WarnsOf (record : Log.Record) (name : String) : Prop :=
  record.level = .warn ∧ ("profile", name) ∈ record.fields

/-- The notice came about at a profile that was being visited already. -/
def SelectionNotice.IsCycle (notice : SelectionNotice) : Prop :=
  notice.record.message = "inheritance cycle"

theorem SelectionNotice.warnsOf_record (notice : SelectionNotice) :
    notice.record.WarnsOf notice.profile := by
  cases notice <;> exact ⟨rfl, List.mem_cons_self⟩

namespace Selection

variable {profiles : Catalog ProfileDefinition} {starts chain names : List String}
  {before after : Selection}

/-- The records of a selection, in order. -/
def records (selection : Selection) : List Log.Record :=
  selection.notices.map SelectionNotice.record

/-- A profile that was being visited already is activated when its own visit ends, within
the walk or behind it. -/
theorem Walk.cycle_cases (walk : Walk profiles chain names before after)
    {notice : SelectionNotice} (cycle : notice.IsCycle) (reported : notice ∈ after.notices) :
    notice ∈ before.notices ∨ notice.profile ∈ chain ∨ notice.profile ∈ after.profiles := by
  induction walk with
  | done => exact .inl reported
  | selected _ _ onward => exact onward reported
  | refused _ refuses _ onward =>
      rcases onward reported with earlier | settled
      · rw [notices_report, List.mem_append, List.mem_singleton] at earlier
        rcases earlier with old | rfl
        · exact .inl old
        · cases refuses with
          | undefined => simp [SelectionNotice.IsCycle, SelectionNotice.record] at cycle
          | cycle _ visiting => exact .inr (.inl visiting)
          | tooDeep => simp [SelectionNotice.IsCycle, SelectionNotice.record] at cycle
      · exact .inr settled
  | @entered chain rest name profile before inside after _ _ _ _ _ walked parents onward =>
      have kept : (inside.activate name).profiles ⊆ after.profiles :=
        walked.profiles_prefix.subset
      rcases onward reported with inner | settled
      · rcases parents inner with old | visiting | selected
        · exact .inl old
        · rcases List.mem_append.mp visiting with outer | own
          · exact .inr (.inl outer)
          · exact .inr (.inr (kept (by simp [List.mem_singleton.mp own])))
        · exact .inr (.inr (kept (by simp [selected])))
      · exact .inr settled

private theorem subset_roots (profiles : Catalog ProfileDefinition) (requested : List String) :
    requested ⊆ roots profiles requested := by
  unfold roots
  split
  · exact List.subset_cons_self _ _
  · exact List.Subset.refl _

section Select

variable (config : Config) (requested : List String)

/-- A requested profile is selected, or it was reported as undefined. -/
theorem select_requested {name : String} (asked : name ∈ requested) :
    name ∈ (config.select requested).profiles ∨
      .undefined name ∈ (config.select requested).notices := by
  have root := subset_roots config.profiles requested asked
  rcases (walk_select config requested).selected_or_refused name root with
    selected | ⟨notice, reported, refuses⟩
  · exact .inl selected
  · cases refuses with
    | undefined => exact .inr reported
    | cycle _ visiting => simp at visiting
    | tooDeep _ _ full => simp [depthLimit] at full

theorem mem_select_of_isCycle {notice : SelectionNotice} (cycle : notice.IsCycle)
    (reported : notice ∈ (config.select requested).notices) :
    notice.profile ∈ (config.select requested).profiles := by
  rcases (walk_select config requested).cycle_cases cycle reported with
    earlier | visiting | selected
  · simp [empty] at earlier
  · simp at visiting
  · exact selected

/-- A notice is written as a warning about its profile. -/
theorem writes_notice {log : Log} (loud : log.format ≠ .null) {notice : SelectionNotice}
    (reported : notice ∈ (config.select requested).notices) :
    log.Writes (config.select requested).records (log.complete notice.record) ∧
      (log.complete notice.record).WarnsOf notice.profile := by
  obtain ⟨warning, about⟩ := notice.warnsOf_record
  refine ⟨Log.writes_of_accepts (List.mem_map_of_mem reported) ?_, warning, ?_⟩
  · exact Log.accepts_of_not_debug loud (by simp [warning])
  · exact List.mem_append_right _ about

end Select

/-- A log that writes at all is told of everything that a selection leaves out: of a
requested profile that it is not defined, and of one that a selected profile inherits that
it is not defined or came too deep.  A profile that was found to inherit itself is not left
out. -/
theorem select_reports_omissions (config : Config) (requested : List String) (log : Log)
    (loud : log.format ≠ .null) :
    (∀ name ∈ requested, name ∉ (config.select requested).profiles →
      ∃ record, log.Writes (config.select requested).records record ∧
        record.WarnsOf name ∧ ("reject", "undefined") ∈ record.fields) ∧
      (∀ child ∈ (config.select requested).profiles,
        ∀ profile, config.profiles.get? child = some profile →
          ∀ parent ∈ profile.inherits, parent ∉ (config.select requested).profiles →
            ∃ record, log.Writes (config.select requested).records record ∧
              record.WarnsOf parent ∧ (("reject", "undefined") ∈ record.fields ∨
                record.message = "inheritance too deep")) ∧
      ∀ notice ∈ (config.select requested).notices, notice.IsCycle →
        notice.profile ∈ (config.select requested).profiles := by
  have rejects : ∀ name, ("reject", "undefined") ∈
      (log.complete (SelectionNotice.undefined name).record).fields :=
    fun name => List.mem_append_right _ (by simp [SelectionNotice.record])
  refine ⟨?_, ?_, fun notice reported cycle =>
    mem_select_of_isCycle config requested cycle reported⟩
  · intro name asked missing
    have reported := (select_requested config requested asked).resolve_left missing
    obtain ⟨written, warns⟩ := writes_notice config requested loud reported
    exact ⟨_, written, warns, rejects name⟩
  · intro child selected profile found parent inherited missing
    rcases select_accounted config requested selected found inherited with
      member | visiting | ⟨_, reported⟩ | ⟨depth, reported⟩
    · exact absurd member missing
    · simp at visiting
    · obtain ⟨written, warns⟩ := writes_notice config requested loud reported
      exact ⟨_, written, warns, .inl (rejects parent)⟩
    · obtain ⟨written, warns⟩ := writes_notice config requested loud reported
      exact ⟨_, written, warns, .inr rfl⟩

/-- A log of one field, for a part of the program that has a name. -/
def namedLog : Log := ⟨.ascii, .journal, false, false, [("part", "selection")]⟩

/-- Of a request without a definition and of an undefined parent the log is told, and the
two profiles that inherit each other are both selected. -/
theorem select_reports_omissions_entwined :
    namedLog.format ≠ .null ∧
      (∃ record, namedLog.Writes (entwined.select ["ghost", "work"]).records record ∧
        record.WarnsOf "ghost" ∧ ("reject", "undefined") ∈ record.fields) ∧
      (∃ record, namedLog.Writes (entwined.select ["ghost", "work"]).records record ∧
        record.WarnsOf "gone" ∧ (("reject", "undefined") ∈ record.fields ∨
          record.message = "inheritance too deep")) ∧
      "work" ∈ (entwined.select ["ghost", "work"]).profiles := by
  have loud : namedLog.format ≠ .null := by decide
  obtain ⟨requests, parents, cycles⟩ :=
    select_reports_omissions entwined ["ghost", "work"] namedLog loud
  refine ⟨loud, requests "ghost" (by decide) (by decide), ?_, ?_⟩
  · exact parents "tools" (by decide) _ rfl "gone" (by decide) (by decide)
  · exact cycles (.cycle "work" ["work", "tools"]) (by decide) rfl

end Selection

end ProfileShell
