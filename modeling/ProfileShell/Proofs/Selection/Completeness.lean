import ProfileShell.Proofs.Selection.Invariants

/-!
# What a selection leaves out

A name that a selected profile inherits may be missing for two reasons: it is not
defined, or every visit to it came at the end of a full chain.  Where nothing was cut
off, a selection therefore has all profiles that can be reached, and a profile stands
behind those it inherits, except where the two inherit each other.
-/

namespace ProfileShell.Selection

/-- The profile was refused at the end of a full chain. -/
def CutOff (selection : Selection) (name : String) : Prop :=
  ∃ depth, .tooDeep name depth ∈ selection.notices

/-- No warning was given that inheritance is too deep. -/
def Uncut (selection : Selection) : Prop :=
  ∀ notice ∈ selection.notices, notice.record.message ≠ "inheritance too deep"

instance (selection : Selection) : Decidable selection.Uncut :=
  inferInstanceAs (Decidable (∀ notice ∈ selection.notices, _))

/-- What has become of a name: it is selected, it is still being visited, or it was
reported as undefined or as too deep. -/
def Accounted (profiles : Catalog ProfileDefinition) (chain : List String)
    (selection : Selection) (name : String) : Prop :=
  name ∈ selection.profiles ∨ name ∈ chain ∨
    (profiles.get? name = none ∧ .undefined name ∈ selection.notices) ∨
    selection.CutOff name

/-- Every name that a selected profile inherits is accounted for. -/
def Closed (profiles : Catalog ProfileDefinition) (chain : List String)
    (selection : Selection) : Prop :=
  ∀ child ∈ selection.profiles, ∀ profile, profiles.get? child = some profile →
    ∀ parent ∈ profile.inherits, Accounted profiles chain selection parent

/-- A profile that is inherited stands before the one that inherits it, unless the
inheritance goes in a circle or was cut off. -/
def Ordered (profiles : Catalog ProfileDefinition) (selection : Selection) : Prop :=
  ∀ child ∈ selection.profiles, ∀ parent, profiles.Inherits child parent →
    Precedes selection.profiles parent child ∨ profiles.Reaches parent child ∨
      selection.CutOff parent

variable {profiles : Catalog ProfileDefinition} {starts chain names : List String}
  {before after : Selection}

theorem Precedes.append {first second : String} (precedes : Precedes names first second)
    (more : List String) : Precedes (names ++ more) first second := by
  obtain ⟨front, back, split, member⟩ := precedes
  exact ⟨front, back ++ more, by simp [split], member⟩

theorem CutOff.mono {name : String} (cut : before.CutOff name)
    (notices : before.notices ⊆ after.notices) : after.CutOff name := by
  obtain ⟨depth, reported⟩ := cut
  exact ⟨depth, notices reported⟩

theorem Uncut.not_cutOff {selection : Selection} (uncut : selection.Uncut)
    (name : String) : ¬selection.CutOff name := by
  rintro ⟨depth, reported⟩
  exact uncut _ reported rfl

namespace Accounted

variable {selection : Selection} {name parent : String}

theorem mono {longer : List String} (accounted : Accounted profiles chain before name)
    (links : chain ⊆ longer) (selected : before.profiles ⊆ after.profiles)
    (notices : before.notices ⊆ after.notices) :
    Accounted profiles longer after name := by
  rcases accounted with member | visiting | ⟨missing, reported⟩ | cut
  · exact .inl (selected member)
  · exact .inr (.inl (links visiting))
  · exact .inr (.inr (.inl ⟨missing, notices reported⟩))
  · exact .inr (.inr (.inr (cut.mono notices)))

/-- The visit of a profile ends with its activation, so a name that was left to that
visit is selected now. -/
theorem activate (accounted : Accounted profiles (chain ++ [name]) selection parent) :
    Accounted profiles chain (selection.activate name) parent := by
  rcases accounted with member | visiting | reported | cut
  · exact .inl (by simp [member])
  · rcases List.mem_append.mp visiting with earlier | last
    · exact .inr (.inl earlier)
    · exact .inl (by simp [List.mem_singleton.mp last])
  · exact .inr (.inr (.inl reported))
  · exact .inr (.inr (.inr cut))

end Accounted

namespace Closed

theorem report (closed : Closed profiles chain before) (notice : SelectionNotice) :
    Closed profiles chain (before.report notice) := by
  intro child selected profile found parent inherited
  exact (closed child selected profile found parent inherited).mono
    (List.Subset.refl _) (List.Subset.refl _) (by simp)

theorem activate {selection : Selection} {name : String} {profile : ProfileDefinition}
    (closed : Closed profiles (chain ++ [name]) selection)
    (found : profiles.get? name = some profile)
    (parents : ∀ parent ∈ profile.inherits,
      Accounted profiles (chain ++ [name]) selection parent) :
    Closed profiles chain (selection.activate name) := by
  intro child selected definition defined parent inherited
  rw [profiles_activate, List.mem_append, List.mem_singleton] at selected
  rcases selected with earlier | rfl
  · exact (closed child earlier definition defined parent inherited).activate
  · obtain rfl : profile = definition := Option.some.inj (found.symm.trans defined)
    exact (parents parent inherited).activate

end Closed

/-- Every link of a lineage reaches the last one. -/
theorem Lineage.reaches_last {name : String}
    (lineage : Lineage profiles starts (chain ++ [name])) :
    ∀ link ∈ chain ++ [name], profiles.Reaches link name := by
  refine lineage.linked.backwards_induction (profiles.Reaches · name) _ ?_ ?_
  · intro child parent inherits path
    exact .head inherits path
  · intro _
    rw [List.getLast_append_singleton]
    exact .refl

namespace Walk

theorem accounted (walk : Walk profiles chain names before after) :
    ∀ name ∈ names, Accounted profiles chain after name := by
  intro name member
  rcases walk.selected_or_refused name member with selected | ⟨notice, reported, refuses⟩
  · exact .inl selected
  · cases refuses with
    | undefined missing => exact .inr (.inr (.inl ⟨missing, reported⟩))
    | cycle _ visiting => exact .inr (.inl visiting)
    | tooDeep _ _ _ => exact .inr (.inr (.inr ⟨_, reported⟩))

theorem closed (walk : Walk profiles chain names before after)
    (invariant : Closed profiles chain before) : Closed profiles chain after := by
  induction walk with
  | done => exact invariant
  | selected _ _ onward => exact onward invariant
  | refused _ _ _ onward => exact onward (invariant.report _)
  | @entered chain rest name profile before inside after _ found _ _ walked _
      parents onward =>
      have deeper : Closed profiles (chain ++ [name]) before := by
        intro child selected definition defined parent inherited
        exact (invariant child selected definition defined parent inherited).mono
          (List.subset_append_left _ _) (List.Subset.refl _) (List.Subset.refl _)
      exact onward ((parents deeper).activate found walked.accounted)

/-- When a profile is activated, what it inherits is selected already, or lies on the
chain and so reaches the profile, or was cut off. -/
theorem ordered (walk : Walk profiles chain names before after)
    (ancestry : Lineage profiles starts chain)
    (follows : ∀ name ∈ names, Follows profiles starts chain name)
    (invariant : Ordered profiles before) : Ordered profiles after := by
  induction walk with
  | done => exact invariant
  | selected _ _ onward =>
      exact onward ancestry
        (fun name member => follows name (List.mem_cons_of_mem _ member)) invariant
  | @refused chain rest name notice before after _ _ _ onward =>
      refine onward ancestry
        (fun name member => follows name (List.mem_cons_of_mem _ member)) ?_
      intro child selected parent inherits
      exact (invariant child selected parent inherits).imp_right
        (Or.imp_right fun cut => cut.mono (by simp))
  | @entered chain rest name profile before inside after _ found outside short walked _
      parents onward =>
      have grown : Lineage profiles starts (chain ++ [name]) :=
        ancestry.grow (follows name List.mem_cons_self) (Catalog.defines_of_get? found)
          outside short
      have settled : Ordered profiles inside :=
        parents grown (fun parent member => follows_of_inherits found member) invariant
      refine onward ancestry
        (fun name member => follows name (List.mem_cons_of_mem _ member)) ?_
      intro child selected parent inherits
      rw [profiles_activate, List.mem_append, List.mem_singleton] at selected
      rcases selected with earlier | rfl
      · exact (settled child earlier parent inherits).imp_left fun precedes =>
          precedes.append _
      · obtain ⟨⟨definition, defined, inherited⟩, parentDefined⟩ := inherits
        obtain rfl : profile = definition := Option.some.inj (found.symm.trans defined)
        rcases walked.accounted parent inherited with
          member | visiting | ⟨missing, _⟩ | cut
        · exact .inl ⟨inside.profiles, [], rfl, member⟩
        · exact .inr (.inl (grown.reaches_last parent visiting))
        · simp [Catalog.defines, missing] at parentDefined
        · exact .inr (.inr cut)

end Walk

section Select

variable (config : Config) (requested : List String)

/-- What a selected profile inherits is selected as well, or it was reported. -/
theorem select_accounted {child parent : String} {profile : ProfileDefinition}
    (selected : child ∈ (config.select requested).profiles)
    (found : config.profiles.get? child = some profile) (inherited : parent ∈ profile.inherits) :
    Accounted config.profiles [] (config.select requested) parent := by
  have start : Closed config.profiles [] .empty := by simp [Closed, empty]
  exact (walk_select config requested).closed start child selected profile found parent
    inherited

/-- A selection leaves out what a selected profile inherits only where it was cut
off. -/
theorem select_closed {child parent : String}
    (selected : child ∈ (config.select requested).profiles)
    (inherits : config.profiles.Inherits child parent) :
    parent ∈ (config.select requested).profiles ∨
      (config.select requested).CutOff parent := by
  obtain ⟨⟨profile, found, inherited⟩, defined⟩ := inherits
  rcases select_accounted config requested selected found inherited with
    member | visiting | ⟨missing, _⟩ | cut
  · exact .inl member
  · simp at visiting
  · simp [Catalog.defines, missing] at defined
  · exact .inr cut

theorem select_ordered : Ordered config.profiles (config.select requested) := by
  have start : Ordered config.profiles .empty := by simp [Ordered, empty]
  exact (walk_select config requested).ordered (.nil _ (automatic :: requested))
    (fun name member => roots_subset config.profiles requested member) start

theorem mem_select_of_reaches
    (uncut : (config.select requested).Uncut) {start goal : String}
    (member : start ∈ automatic :: requested)
    (path : config.profiles.Reaches start goal)
    (defined : config.profiles.defines goal = true) :
    goal ∈ (config.select requested).profiles := by
  induction path with
  | refl => exact mem_select_of_mem_starts config requested member defined
  | tail _ inherits earlier =>
      obtain ⟨profile, found, _⟩ := inherits.1
      exact (select_closed config requested (earlier (Catalog.defines_of_get? found))
        inherits).resolve_right (uncut.not_cutOff _)

end Select

/-- Where nothing was cut off, exactly the defined profiles that can be reached from the
automatic profile or from a requested one are selected, and a selected profile stands
behind all that it inherits and that do not reach it in turn. -/
theorem select_complete (config : Config) (requested : List String)
    (uncut : (config.select requested).Uncut) :
    (∀ name, name ∈ (config.select requested).profiles ↔
      config.profiles.defines name = true ∧
        ∃ start ∈ automatic :: requested, config.profiles.Reaches start name) ∧
      ∀ child ∈ (config.select requested).profiles, ∀ parent,
        config.profiles.Inherits child parent → ¬config.profiles.Reaches parent child →
          Precedes (config.select requested).profiles parent child := by
  constructor
  · intro name
    constructor
    · intro selected
      obtain ⟨chain, lineage, last, _⟩ := select_lineage config requested name selected
      exact ⟨select_defines config requested name selected, lineage.reaches last⟩
    · rintro ⟨defined, start, member, path⟩
      exact mem_select_of_reaches config requested uncut member path defined
  · intro child selected parent inherits oneWay
    rcases select_ordered config requested child selected parent inherits with
      precedes | circle | cut
    · exact precedes
    · exact absurd circle oneWay
    · exact absurd cut (uncut.not_cutOff parent)

/-- Two profiles inherit each other and a third one, which the automatic profile
inherits as well. -/
def entwined : Config :=
  { Config.empty with
    profiles :=
      ⟨[ ("auto", { ProfileDefinition.empty with inherits := ["base"] }),
         ("work", { ProfileDefinition.empty with inherits := ["tools", "base"] }),
         ("tools", { ProfileDefinition.empty with inherits := ["base", "work", "gone"] }),
         ("base", ProfileDefinition.empty) ]⟩ }

theorem select_complete_entwined :
    (entwined.select ["work"]).Uncut ∧
      (∀ name, name ∈ (entwined.select ["work"]).profiles ↔
        entwined.profiles.defines name = true ∧
          ∃ start ∈ ["auto", "work"], entwined.profiles.Reaches start name) ∧
      Precedes (entwined.select ["work"]).profiles "base" "work" := by
  have uncut : (entwined.select ["work"]).Uncut := by decide
  obtain ⟨complete, ordered⟩ := select_complete entwined ["work"] uncut
  have inherits : entwined.profiles.Inherits "work" "base" :=
    ⟨⟨_, rfl, by decide⟩, by decide⟩
  refine ⟨uncut, complete, ordered "work" (by decide) "base" inherits ?_⟩
  intro path
  rcases path.cases_head with same | ⟨parent, ⟨⟨profile, found, inherited⟩, _⟩, _⟩
  · exact absurd same (by decide)
  · obtain rfl : ProfileDefinition.empty = profile := Option.some.inj found
    simp [ProfileDefinition.empty] at inherited

end ProfileShell.Selection
