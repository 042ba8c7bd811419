import Mathlib.Tactic.Tauto
import ProfileShell.Proofs.Selection.Completeness

/-!
# The order of requests

The depth limit makes the order of requests matter.  A profile that is selected at the
end of a full chain is not visited again when a shorter chain comes to it, so what was
cut off behind it is left out, while a request for the same names in another order may
have selected it.  Apart from such profiles the order decides nothing.
-/

namespace ProfileShell.Selection

/-- The two selections activate the same profiles, in whatever order. -/
def SameProfiles (first second : Selection) : Prop :=
  ∀ name, name ∈ first.profiles ↔ name ∈ second.profiles

/-- What `selection` cut off and `other` has, it has all the same. -/
def KeepsUpWith (selection other : Selection) : Prop :=
  ∀ name, selection.CutOff name → name ∈ other.profiles → name ∈ selection.profiles

theorem Uncut.keepsUpWith {selection : Selection} (uncut : selection.Uncut)
    (other : Selection) : selection.KeepsUpWith other :=
  fun name cut _ => absurd cut (uncut.not_cutOff name)

/-- A selection has all that another one has which was asked for no more names, if it
keeps up with it. -/
theorem select_subset (config : Config) {first second : List String}
    (asked : second ⊆ first)
    (keeps : (config.select first).KeepsUpWith (config.select second)) :
    (config.select second).profiles ⊆ (config.select first).profiles := by
  intro name selected
  obtain ⟨chain, lineage, last, links⟩ := select_lineage config second name selected
  have linked : chain.IsChain fun child parent => config.profiles.Inherits child parent ∧
      parent ∈ (config.select second).profiles :=
    lineage.linked.imp_of_mem_imp fun child parent _ member inherits =>
      ⟨inherits, links parent member⟩
  -- Along the lineage each profile is selected by both, the first one as a start.
  refine linked.induction (· ∈ (config.select first).profiles) chain ?_ ?_ name
    (List.mem_of_getLast? last)
  · rintro child parent ⟨inherits, member⟩ earlier
    rcases select_closed config first earlier inherits with found | cut
    · exact found
    · exact keeps parent cut member
  · intro nonempty
    have head : chain.head nonempty ∈ automatic :: second :=
      lineage.starting _ (List.head?_eq_some_head nonempty)
    exact mem_select_of_mem_starts config first
      (List.cons_subset_cons automatic asked head)
      (lineage.defined _ (List.head_mem nonempty))

/-- Two requests for the same names activate the same profiles exactly if neither of
them leaves out, as too deep, a profile that the other one activates; in particular if
neither of them warns. -/
theorem select_sameProfiles_iff (config : Config) {first second : List String}
    (same : ∀ name, name ∈ first ↔ name ∈ second) :
    ((config.select first).SameProfiles (config.select second) ↔
        (config.select first).KeepsUpWith (config.select second) ∧
          (config.select second).KeepsUpWith (config.select first)) ∧
      ((config.select first).Uncut → (config.select second).Uncut →
        (config.select first).SameProfiles (config.select second)) := by
  have agree : (config.select first).KeepsUpWith (config.select second) →
      (config.select second).KeepsUpWith (config.select first) →
        (config.select first).SameProfiles (config.select second) := by
    intro firstKeeps secondKeeps name
    constructor
    · exact fun member =>
        select_subset config (fun asked => (same asked).mp) secondKeeps member
    · exact fun member =>
        select_subset config (fun asked => (same asked).mpr) firstKeeps member
  refine ⟨⟨?_, fun keeps => agree keeps.1 keeps.2⟩, ?_⟩
  · intro equal
    exact ⟨fun name _ => (equal name).mpr, fun name _ => (equal name).mp⟩
  · intro firstUncut secondUncut
    exact agree (firstUncut.keepsUpWith _) (secondUncut.keepsUpWith _)

theorem select_sameProfiles_entwined :
    (∀ name, name ∈ ["tools", "work", "tools"] ↔ name ∈ ["work", "tools"]) ∧
      (entwined.select ["tools", "work", "tools"]).SameProfiles
        (entwined.select ["work", "tools"]) := by
  have same : ∀ name, name ∈ ["tools", "work", "tools"] ↔ name ∈ ["work", "tools"] := by
    intro name
    simp only [List.mem_cons, List.not_mem_nil, or_false]
    tauto
  exact ⟨same, (select_sameProfiles_iff entwined same).2 (by decide) (by decide)⟩

/-- Profiles each of which inherits the next one. -/
def row : List String → List (String × ProfileDefinition)
  | [] => []
  | [name] => [(name, .empty)]
  | name :: parent :: rest =>
    (name, { ProfileDefinition.empty with inherits := [parent] }) :: row (parent :: rest)

/-- A row of one profile more than the depth limit. -/
def longRow : Config :=
  { Config.empty with
    profiles := ⟨row ["a", "b", "c", "d", "e", "f", "g", "h", "i", "j", "k", "l", "m",
      "n", "o", "p", "q"]⟩ }

/-- The end of a long row is selected if its second profile is asked for ahead of its
first one, and is left out if the first one comes first. -/
theorem select_depends_on_order :
    ¬∀ (config : Config) (first second : List String),
      (∀ name, name ∈ first ↔ name ∈ second) →
        (config.select first).SameProfiles (config.select second) := by
  intro independent
  have same : ∀ name, name ∈ ["a", "b"] ↔ name ∈ ["b", "a"] := by
    intro name
    simp [or_comm]
  have selected : "q" ∈ (longRow.select ["b", "a"]).profiles := by decide
  have missing : "q" ∉ (longRow.select ["a", "b"]).profiles := by decide
  exact missing ((independent longRow ["a", "b"] ["b", "a"] same "q").mpr selected)

end ProfileShell.Selection
