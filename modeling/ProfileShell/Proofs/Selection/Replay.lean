import ProfileShell.Proofs.Selection.Completeness

/-!
# Selections as requests

Where no profile inherits itself, not even through others, a selection stands in an order
in which every profile comes behind all that it inherits.  Asked for in this order, each
profile finds its parents selected, so its visit adds the profile alone, and the selection
comes out as it went in.
-/

namespace ProfileShell

namespace Catalog

/-- No profile comes back to itself along inherited profiles. -/
def IsAcyclic (profiles : Catalog ProfileDefinition) : Prop :=
  ∀ name, ¬Relation.TransGen profiles.Inherits name name

variable {profiles : Catalog ProfileDefinition} {child parent : String}

theorem IsAcyclic.not_reaches (acyclic : profiles.IsAcyclic)
    (inherits : profiles.Inherits child parent) : ¬profiles.Reaches parent child :=
  fun path => acyclic child (.head' inherits path)

/-- Profiles that inherit only what ranks below them do not inherit in a circle. -/
theorem isAcyclic_of_rank (rank : String → Nat)
    (descends : ∀ entry ∈ profiles.entries, ∀ parent ∈ entry.2.inherits,
      profiles.defines parent = true → rank parent < rank entry.1) :
    profiles.IsAcyclic := by
  have step : ∀ child parent, profiles.Inherits child parent → rank parent < rank child := by
    rintro child parent ⟨⟨profile, found, inherited⟩, defined⟩
    obtain ⟨front, back, split, _⟩ := List.lookup_eq_some_iff.mp found
    exact descends (child, profile) (by simp [split]) parent inherited defined
  have below : ∀ child ancestor, Relation.TransGen profiles.Inherits child ancestor →
      rank ancestor < rank child := by
    intro child ancestor path
    induction path with
    | single inherits => exact step _ _ inherits
    | tail _ inherits earlier => exact (step _ _ inherits).trans earlier
  exact fun name circle => Nat.lt_irrefl _ (below name name circle)

end Catalog

namespace Selection

/-- Distinct defined profiles, each behind all defined profiles that it inherits. -/
structure InOrder (profiles : Catalog ProfileDefinition) (names : List String) : Prop where
  distinct : names.Nodup
  defined : ∀ name ∈ names, profiles.defines name = true
  parents : ∀ front name back, names = front ++ name :: back →
    ∀ parent, profiles.Inherits name parent → parent ∈ front

variable {profiles : Catalog ProfileDefinition} {chain names front back : List String}
  {before after : Selection}

/-- A walk over names that are selected or undefined selects nothing more. -/
theorem Walk.profiles_eq_of_selected (walk : Walk profiles chain names before after)
    (selected : ∀ name ∈ names, profiles.defines name = true → name ∈ before.profiles) :
    after.profiles = before.profiles := by
  induction walk with
  | done => rfl
  | selected _ _ onward => exact onward (List.forall_mem_cons.mp selected).2
  | refused _ _ _ onward => exact onward (List.forall_mem_cons.mp selected).2
  | entered unselected found =>
      exact absurd ((List.forall_mem_cons.mp selected).1 (Catalog.defines_of_get? found))
        unselected

private theorem eq_or_concat_prefix {reached rest : List String} {name : String}
    (done : front <+: reached) (within : reached <+: front ++ name :: rest) :
    reached = front ∨ front ++ [name] <+: reached := by
  obtain ⟨ahead, rfl⟩ := done
  rw [List.prefix_append_right_inj] at within
  cases ahead with
  | nil => exact .inl (List.append_nil front)
  | cons next more =>
      obtain ⟨rfl, _⟩ := List.cons_prefix_cons.mp within
      exact .inr ⟨more, by simp⟩

/-- A profile whose parents are selected is selected without any other. -/
theorem Walk.exists_activated {rest : List String} {name : String}
    (walk : Walk profiles [] (name :: rest) before after)
    (unselected : name ∉ before.profiles) (defined : profiles.defines name = true)
    (parents : ∀ parent, profiles.Inherits name parent → parent ∈ before.profiles) :
    ∃ between, Walk profiles [] rest between after ∧
      between.profiles = before.profiles ++ [name] := by
  cases walk with
  | selected selected _ => exact absurd selected unselected
  | refused _ refuses _ => simp [Catalog.defines, refuses.get?_eq_none] at defined
  | @entered _ _ _ profile _ inside _ _ found _ _ walked onward =>
      have unchanged : inside.profiles = before.profiles := by
        apply walked.profiles_eq_of_selected
        intro parent inherited parentDefined
        exact parents parent ⟨⟨profile, found, inherited⟩, parentDefined⟩
      exact ⟨inside.activate name, onward, by rw [profiles_activate, unchanged]⟩

/-- A walk over profiles in order selects them one by one.  What is selected when the walk
starts may reach into the profiles that it comes to. -/
theorem Walk.profiles_eq_of_inOrder (walk : Walk profiles [] back before after)
    (ordered : InOrder profiles (front ++ back)) (done : front <+: before.profiles)
    (within : before.profiles <+: front ++ back) : after.profiles = front ++ back := by
  induction back generalizing front before with
  | nil =>
      cases walk
      rw [List.append_nil] at within ⊢
      exact within.eq_of_length_le done.length_le
  | cons name rest ih =>
      have onwardOrdered : InOrder profiles ((front ++ [name]) ++ rest) := by
        simpa using ordered
      rcases eq_or_concat_prefix done within with reached | beyond
      · have fresh : name ∉ front := fun earlier =>
          (List.nodup_middle.mp ordered.distinct).notMem (List.mem_append_left _ earlier)
        have defined : profiles.defines name = true := ordered.defined name (by simp)
        obtain ⟨between, onward, activated⟩ := walk.exists_activated
          (reached ▸ fresh) defined (reached ▸ ordered.parents front name rest rfl)
        rw [reached] at activated
        rw [List.append_cons]
        refine ih onward onwardOrdered ?_ ?_
        · exact activated ▸ List.prefix_rfl
        · exact activated ▸ List.prefix_append _ _
      · have selected : name ∈ before.profiles := beyond.subset (by simp)
        rw [List.append_cons] at within ⊢
        cases walk with
        | selected _ onward => exact ih onward onwardOrdered beyond within
        | refused unselected => exact absurd selected unselected
        | entered unselected => exact absurd selected unselected

theorem select_inOrder (config : Config) (requested : List String)
    (acyclic : config.profiles.IsAcyclic) (uncut : (config.select requested).Uncut) :
    InOrder config.profiles (config.select requested).profiles := by
  refine ⟨select_nodup config requested, select_defines config requested, ?_⟩
  intro front name back split parent inherits
  have selected : name ∈ (config.select requested).profiles := by simp [split]
  rcases select_ordered config requested name selected parent inherits with
    precedes | circle | cut
  · exact precedes.mem_of_split (select_nodup config requested) split
  · exact absurd circle (acyclic.not_reaches inherits)
  · exact absurd cut (uncut.not_cutOff parent)

/-- A selection that was not cut off selects itself, in the same order, if profiles do not
inherit each other in a circle. -/
theorem select_replays (config : Config) (requested : List String)
    (acyclic : config.profiles.IsAcyclic) (uncut : (config.select requested).Uncut) :
    (config.select (config.select requested).profiles).profiles =
      (config.select requested).profiles := by
  have ordered : InOrder config.profiles ([] ++ (config.select requested).profiles) :=
    select_inOrder config requested acyclic uncut
  cases defined : config.profiles.defines automatic with
  | true =>
      -- Both runs start with the visit of the automatic profile.
      have first := walk_requested config requested defined
      have second := walk_requested config (config.select requested).profiles defined
      exact second.profiles_eq_of_inOrder ordered List.nil_prefix
        first.profiles_prefix
  | false =>
      have second := walk_select config (config.select requested).profiles
      rw [roots, defined, if_neg Bool.false_ne_true] at second
      exact second.profiles_eq_of_inOrder ordered List.nil_prefix
        List.nil_prefix

/-- The automatic profile inherits one that stands behind it in the file, two requests
share a parent, and some names are not defined. -/
def tiered : Config :=
  { Config.empty with
    profiles :=
      ⟨[ ("auto", { ProfileDefinition.empty with inherits := ["base"] }),
         ("work", { ProfileDefinition.empty with inherits := ["tools", "gone", "base"] }),
         ("play", { ProfileDefinition.empty with inherits := ["tools"] }),
         ("tools", { ProfileDefinition.empty with inherits := ["base"] }),
         ("base", ProfileDefinition.empty) ]⟩ }

/-- How many profiles stand between a profile and the ones without parents. -/
def tier (name : String) : Nat :=
  if name = "base" then 0 else if name = "tools" then 1 else 2

theorem select_replays_tiered :
    tiered.profiles.IsAcyclic ∧ (tiered.select ["play", "nowhere", "work"]).Uncut ∧
      (tiered.select ["play", "nowhere", "work"]).profiles =
        ["base", "auto", "tools", "play", "work"] ∧
      (tiered.select ["base", "auto", "tools", "play", "work"]).profiles =
        ["base", "auto", "tools", "play", "work"] := by
  have acyclic : tiered.profiles.IsAcyclic :=
    Catalog.isAcyclic_of_rank tier (by decide)
  have uncut : (tiered.select ["play", "nowhere", "work"]).Uncut := by decide
  have selected : (tiered.select ["play", "nowhere", "work"]).profiles =
      ["base", "auto", "tools", "play", "work"] := by decide
  refine ⟨acyclic, uncut, selected, ?_⟩
  rw [← selected]
  exact select_replays tiered ["play", "nowhere", "work"] acyclic uncut

end Selection

end ProfileShell
