import Mathlib.Data.List.Chain
import Mathlib.Logic.Relation
import ProfileShell.Selection

/-!
# The walk along inherited profiles

`Walk` describes the course of a selection by rules: which names are passed over,
which are reported, and which are entered, with the length of the chain as the only
bound.  A walk from given names has exactly one end, and `Selection.visit` finds it.
What holds of a selection is therefore shown by induction on the rules.
-/

namespace ProfileShell

namespace Catalog

/-- The first definition of `child` names `parent`, and `parent` is defined. -/
def Inherits (profiles : Catalog ProfileDefinition) (child parent : String) : Prop :=
  (∃ profile, profiles.get? child = some profile ∧ parent ∈ profile.inherits) ∧
    profiles.defines parent = true

/-- From `start` one comes to `goal` along inherited profiles, in any number of
steps. -/
def Reaches (profiles : Catalog ProfileDefinition) : String → String → Prop :=
  Relation.ReflTransGen profiles.Inherits

theorem defines_of_get? {α : Type} {catalog : Catalog α} {name : String} {value : α}
    (found : catalog.get? name = some value) : catalog.defines name = true := by
  simp [defines, found]

theorem get?_of_defines {α : Type} {catalog : Catalog α} {name : String}
    (defined : catalog.defines name = true) : ∃ value, catalog.get? name = some value := by
  simpa [defines, Option.isSome_iff_exists] using defined

end Catalog

namespace Selection

/-- A profile that is not selected yet is reported and not entered. -/
inductive Refuses (profiles : Catalog ProfileDefinition) (chain : List String)
    (name : String) : SelectionNotice → Prop where
  | undefined (missing : profiles.get? name = none) :
      Refuses profiles chain name (.undefined name)
  | cycle (defined : profiles.defines name = true) (visiting : name ∈ chain) :
      Refuses profiles chain name (.cycle name chain)
  | tooDeep (defined : profiles.defines name = true) (outside : name ∉ chain)
      (full : depthLimit ≤ chain.length) :
      Refuses profiles chain name (.tooDeep name chain.length)

/-- A walk visits names one after another at the end of a chain.  The profiles that a
profile inherits are walked before the profile is activated. -/
inductive Walk (profiles : Catalog ProfileDefinition) :
    List String → List String → Selection → Selection → Prop where
  | done {chain : List String} {selection : Selection} :
      Walk profiles chain [] selection selection
  | selected {chain rest : List String} {name : String} {before after : Selection}
      (selected : name ∈ before.profiles)
      (onward : Walk profiles chain rest before after) :
      Walk profiles chain (name :: rest) before after
  | refused {chain rest : List String} {name : String} {notice : SelectionNotice}
      {before after : Selection}
      (unselected : name ∉ before.profiles)
      (refuses : Refuses profiles chain name notice)
      (onward : Walk profiles chain rest (before.report notice) after) :
      Walk profiles chain (name :: rest) before after
  | entered {chain rest : List String} {name : String} {profile : ProfileDefinition}
      {before inside after : Selection}
      (unselected : name ∉ before.profiles)
      (found : profiles.get? name = some profile)
      (outside : name ∉ chain)
      (short : chain.length < depthLimit)
      (parents : Walk profiles (chain ++ [name]) profile.inherits before inside)
      (onward : Walk profiles chain rest (inside.activate name) after) :
      Walk profiles chain (name :: rest) before after

section Visit

variable {profiles : Catalog ProfileDefinition} {room : Nat} {chain : List String}
  {selection : Selection} {name : String}

theorem visit_of_selected (selected : name ∈ selection.profiles) :
    visit profiles room chain selection name = selection := by
  rw [visit.eq_def]
  simp [selected]

theorem visit_of_refuses {notice : SelectionNotice}
    (bound : chain.length + room = depthLimit)
    (unselected : name ∉ selection.profiles)
    (refuses : Refuses profiles chain name notice) :
    visit profiles room chain selection name = selection.report notice := by
  rw [visit.eq_def]
  cases refuses with
  | undefined missing => simp [unselected, missing]
  | cycle defined visiting =>
      obtain ⟨profile, found⟩ := Catalog.get?_of_defines defined
      simp [unselected, found, visiting]
  | tooDeep defined outside full =>
      obtain ⟨profile, found⟩ := Catalog.get?_of_defines defined
      obtain rfl : room = 0 := by omega
      simp [unselected, found, outside]

theorem visit_of_entered {profile : ProfileDefinition}
    (unselected : name ∉ selection.profiles)
    (found : profiles.get? name = some profile)
    (outside : name ∉ chain) :
    visit profiles (room + 1) chain selection name =
      (profile.inherits.foldl (visit profiles room (chain ++ [name]))
        selection).activate name := by
  rw [visit.eq_def]
  simp [unselected, found, outside]

/-- A profile that is not selected yet is either reported or entered. -/
theorem refuses_or_enters (profiles : Catalog ProfileDefinition) (chain : List String)
    (name : String) :
    (∃ notice, Refuses profiles chain name notice) ∨
      ∃ profile, profiles.get? name = some profile ∧ name ∉ chain ∧
        chain.length < depthLimit := by
  cases found : profiles.get? name with
  | none => exact .inl ⟨_, .undefined found⟩
  | some profile =>
      have defined := Catalog.defines_of_get? found
      by_cases visiting : name ∈ chain
      · exact .inl ⟨_, .cycle defined visiting⟩
      · by_cases short : chain.length < depthLimit
        · exact .inr ⟨profile, rfl, visiting, short⟩
        · exact .inl ⟨_, .tooDeep defined visiting (Nat.le_of_not_lt short)⟩

/-- There is a walk from everywhere.  The outer induction is on how far the chain may
still grow, so a walk ends whatever the profiles inherit from each other. -/
theorem walk_foldl_visit (bound : chain.length + room = depthLimit)
    (names : List String) (selection : Selection) :
    Walk profiles chain names selection
      (names.foldl (visit profiles room chain) selection) := by
  induction room using Nat.strongRecOn generalizing chain names selection with
  | _ room deeper =>
      induction names generalizing selection with
      | nil => exact .done
      | cons name rest ih =>
          rw [List.foldl_cons]
          by_cases selected : name ∈ selection.profiles
          · rw [visit_of_selected selected]
            exact .selected selected (ih selection)
          · rcases refuses_or_enters profiles chain name with
              ⟨notice, refuses⟩ | ⟨profile, found, outside, short⟩
            · rw [visit_of_refuses bound selected refuses]
              exact .refused selected refuses (ih _)
            · obtain ⟨less, rfl⟩ : ∃ less, room = less + 1 :=
                ⟨room - 1, by omega⟩
              have longer : (chain ++ [name]).length + less = depthLimit := by
                simp only [List.length_append, List.length_singleton]
                omega
              rw [visit_of_entered selected found outside]
              exact .entered selected found outside short
                (deeper less (Nat.lt_succ_self less) longer _ _) (ih _)

/-- A walk has one end. -/
theorem Walk.eq_foldl_visit {names : List String} {before after : Selection}
    (walk : Walk profiles chain names before after)
    (bound : chain.length + room = depthLimit) :
    after = names.foldl (visit profiles room chain) before := by
  induction walk generalizing room with
  | done => rfl
  | selected selected _ ih =>
      rw [List.foldl_cons, visit_of_selected selected]
      exact ih bound
  | refused unselected refuses _ ih =>
      rw [List.foldl_cons, visit_of_refuses bound unselected refuses]
      exact ih bound
  | @entered chain rest name profile before inside after unselected found outside short
      _ _ parents onward =>
      obtain ⟨less, rfl⟩ : ∃ less, room = less + 1 := ⟨room - 1, by omega⟩
      have longer : (chain ++ [name]).length + less = depthLimit := by
        simp only [List.length_append, List.length_singleton]
        omega
      rw [List.foldl_cons, visit_of_entered unselected found outside, ← parents longer]
      exact onward bound

end Visit

/-- The walk that starts without a chain ends in what `visitAll` computes, and nowhere
else. -/
theorem walk_iff_eq_visitAll {profiles : Catalog ProfileDefinition} {names : List String}
    {before after : Selection} :
    Walk profiles [] names before after ↔ after = visitAll profiles names before := by
  constructor
  · intro walk
    exact walk.eq_foldl_visit (Nat.zero_add depthLimit)
  · rintro rfl
    exact walk_foldl_visit (Nat.zero_add depthLimit) names before

theorem walk_select (config : Config) (requested : List String) :
    Walk config.profiles [] (roots config.profiles requested) .empty
      (config.select requested) :=
  walk_iff_eq_visitAll.mpr rfl

end Selection

end ProfileShell
