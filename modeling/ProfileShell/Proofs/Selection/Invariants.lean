import Mathlib.Data.List.Nodup
import ProfileShell.Proofs.Selection.Walk

/-!
# Invariants of a selection

A walk adds profiles at the end and never one of the chain that it is in, so a
selection repeats no name.  What it adds ends a lineage: a bounded chain of distinct
defined profiles from one of the names that the walk started with, each inherited by
the one before it.
-/

namespace ProfileShell.Selection

/-- `first` stands somewhere before `second` in a list of names. -/
def Precedes (names : List String) (first second : String) : Prop :=
  ∃ front back, names = front ++ second :: back ∧ first ∈ front

/-- A chain of distinct defined profiles within the depth limit.  It begins with one of
the starts, and each profile inherits the next one. -/
structure Lineage (profiles : Catalog ProfileDefinition) (starts chain : List String) :
    Prop where
  linked : chain.IsChain profiles.Inherits
  distinct : chain.Nodup
  defined : ∀ name ∈ chain, profiles.defines name = true
  bounded : chain.length ≤ depthLimit
  starting : ∀ name ∈ chain.head?, name ∈ starts

/-- A name that a walk may come to at the end of a chain: a start, or one that the last
profile of the chain inherits. -/
def Follows (profiles : Catalog ProfileDefinition) (starts chain : List String)
    (name : String) : Prop :=
  match chain.getLast? with
  | none => name ∈ starts
  | some last => ∃ profile, profiles.get? last = some profile ∧ name ∈ profile.inherits

variable {profiles : Catalog ProfileDefinition} {starts chain names : List String}
  {before after : Selection}

/-- Among distinct names the ones before a name are those in front of it. -/
theorem Precedes.mem_of_split {first second : String} {front back : List String}
    (precedes : Precedes names first second) (distinct : names.Nodup)
    (split : names = front ++ second :: back) : first ∈ front := by
  obtain ⟨earlier, later, shape, member⟩ := precedes
  rw [shape, List.nodup_middle, List.nodup_cons, List.mem_append, not_or] at distinct
  have same : front = earlier :=
    ((List.append_cons_inj_of_notMem distinct.1.1 distinct.1.2).mp
      (shape.symm.trans split)).1.symm
  rwa [same]

theorem follows_of_inherits {name parent : String} {profile : ProfileDefinition}
    (found : profiles.get? name = some profile) (inherited : parent ∈ profile.inherits) :
    Follows profiles starts (chain ++ [name]) parent := by
  simp [Follows, found, inherited]

namespace Lineage

theorem nil (profiles : Catalog ProfileDefinition) (starts : List String) :
    Lineage profiles starts [] := by
  constructor <;> simp

theorem grow {name : String} (lineage : Lineage profiles starts chain)
    (follows : Follows profiles starts chain name)
    (defined : profiles.defines name = true)
    (outside : name ∉ chain) (short : chain.length < depthLimit) :
    Lineage profiles starts (chain ++ [name]) := by
  constructor
  · apply lineage.linked.append (.singleton name)
    intro last isLast next isNext
    obtain rfl : name = next := by simpa using isNext
    have inherited : ∃ profile, profiles.get? last = some profile ∧
        name ∈ profile.inherits := by
      simpa [Follows, Option.mem_def.mp isLast] using follows
    exact ⟨inherited, defined⟩
  · simpa using lineage.distinct.concat outside
  · intro other member
    rcases List.mem_append.mp member with old | new
    · exact lineage.defined other old
    · rw [List.mem_singleton.mp new]
      exact defined
  · simp only [List.length_append, List.length_singleton]
    omega
  · intro first isFirst
    cases chain with
    | nil =>
        obtain rfl : name = first := by simpa using isFirst
        exact follows
    | cons head tail => exact lineage.starting first isFirst

/-- The last profile of a lineage can be reached from a start. -/
theorem reaches {name : String} (lineage : Lineage profiles starts chain)
    (last : chain.getLast? = some name) :
    ∃ start ∈ starts, profiles.Reaches start name := by
  have nonempty : chain ≠ [] := by
    rintro rfl
    simp at last
  refine ⟨chain.head nonempty, ?_, ?_⟩
  · exact lineage.starting _ (List.head?_eq_some_head nonempty)
  · have path := List.relationReflTransGen_of_exists_isChain chain lineage.linked nonempty
    have atEnd : chain.getLast nonempty = name := by
      simpa [List.getLast?_eq_some_getLast nonempty] using last
    rwa [atEnd] at path

end Lineage

namespace Walk

theorem profiles_prefix (walk : Walk profiles chain names before after) :
    before.profiles <+: after.profiles := by
  induction walk with
  | done => exact List.prefix_rfl
  | selected _ _ onward => exact onward
  | refused _ _ _ onward => exact onward
  | entered _ _ _ _ _ _ parents onward =>
      exact parents.trans ((List.prefix_append _ _).trans onward)

theorem notices_prefix (walk : Walk profiles chain names before after) :
    before.notices <+: after.notices := by
  induction walk with
  | done => exact List.prefix_rfl
  | selected _ _ onward => exact onward
  | refused _ _ _ onward => exact (List.prefix_append _ _).trans onward
  | entered _ _ _ _ _ _ parents onward => exact parents.trans onward

/-- The profiles that are being visited are left to their own visits. -/
theorem mem_of_mem_chain (walk : Walk profiles chain names before after) :
    ∀ name ∈ chain, name ∈ after.profiles → name ∈ before.profiles := by
  induction walk with
  | done => exact fun _ _ selected => selected
  | selected _ _ onward => exact onward
  | refused _ _ _ onward => exact onward
  | @entered chain rest entry profile before inside after _ _ outside _ _ _ parents onward =>
      intro name visiting selected
      have activated := onward name visiting selected
      rw [profiles_activate, List.mem_append, List.mem_singleton] at activated
      rcases activated with earlier | rfl
      · exact parents name (List.mem_append_left _ visiting) earlier
      · exact absurd visiting outside

/-- Membership is not asked again after the parents of a profile have been walked; the
profile stays unselected until then because it is in the chain of that walk. -/
theorem nodup (walk : Walk profiles chain names before after)
    (distinct : before.profiles.Nodup) : after.profiles.Nodup := by
  induction walk with
  | done => exact distinct
  | selected _ _ onward => exact onward distinct
  | refused _ _ _ onward => exact onward distinct
  | @entered chain rest name profile before inside after unselected _ _ _ walked _
      parents onward =>
      have fresh : name ∉ inside.profiles := fun selected =>
        unselected (walked.mem_of_mem_chain name (by simp) selected)
      apply onward
      simpa using (parents distinct).concat fresh

/-- Every profile that a walk adds ends a lineage that prolongs the chain, and the walk
adds all of the links. -/
theorem lineage (walk : Walk profiles chain names before after)
    (ancestry : Lineage profiles starts chain)
    (follows : ∀ name ∈ names, Follows profiles starts chain name) :
    ∀ name ∈ after.profiles, name ∈ before.profiles ∨
      ∃ links, Lineage profiles starts (chain ++ links) ∧
        (chain ++ links).getLast? = some name ∧
        ∀ link ∈ links, link ∈ after.profiles := by
  induction walk with
  | done => exact fun _ selected => .inl selected
  | selected _ _ onward =>
      exact onward ancestry fun name member => follows name (List.mem_cons_of_mem _ member)
  | refused _ _ _ onward =>
      exact onward ancestry fun name member => follows name (List.mem_cons_of_mem _ member)
  | @entered chain rest entry profile before inside after _ found outside short
      _ walked parents onward =>
      have grown : Lineage profiles starts (chain ++ [entry]) :=
        ancestry.grow (follows entry List.mem_cons_self) (Catalog.defines_of_get? found)
          outside short
      have kept : ∀ name ∈ (inside.activate entry).profiles, name ∈ after.profiles :=
        fun name member => walked.profiles_prefix.subset member
      intro name selected
      rcases onward ancestry
          (fun name member => follows name (List.mem_cons_of_mem _ member)) name selected with
        activated | added
      · rw [profiles_activate, List.mem_append, List.mem_singleton] at activated
        rcases activated with earlier | rfl
        · rcases parents grown
              (fun parent member => follows_of_inherits found member) name earlier with
            old | ⟨links, lineage, last, added⟩
          · exact .inl old
          · right
            refine ⟨entry :: links, by simpa using lineage, by simpa using last, ?_⟩
            intro link member
            rcases List.mem_cons.mp member with rfl | later
            · exact kept link (by simp)
            · exact kept link (by simp [added link later])
        · exact .inr ⟨[name], grown, by simp, by simpa using kept name (by simp)⟩
      · exact .inr added

/-- A visited name is selected in the end, unless it was refused at the end of the
chain. -/
theorem selected_or_refused (walk : Walk profiles chain names before after) :
    ∀ name ∈ names, name ∈ after.profiles ∨
      ∃ notice ∈ after.notices, Refuses profiles chain name notice := by
  induction walk with
  | done => simp
  | selected selected walked onward =>
      intro name member
      rcases List.mem_cons.mp member with rfl | later
      · exact .inl (walked.profiles_prefix.subset selected)
      · exact onward name later
  | refused _ refuses walked onward =>
      intro name member
      rcases List.mem_cons.mp member with rfl | later
      · exact .inr ⟨_, walked.notices_prefix.subset (by simp), refuses⟩
      · exact onward name later
  | entered _ _ _ _ _ walked _ onward =>
      intro name member
      rcases List.mem_cons.mp member with rfl | later
      · exact .inl (walked.profiles_prefix.subset (by simp))
      · exact onward name later

end Walk

/-- Only an undefined name is refused where no profile is being visited. -/
theorem Refuses.get?_eq_none {name : String} {notice : SelectionNotice}
    (refuses : Refuses profiles [] name notice) : profiles.get? name = none := by
  cases refuses with
  | undefined missing => exact missing
  | cycle _ visiting => simp at visiting
  | tooDeep _ _ full => simp [depthLimit] at full

theorem Walk.mem_of_defines (walk : Walk profiles [] names before after) {name : String}
    (member : name ∈ names) (defined : profiles.defines name = true) :
    name ∈ after.profiles := by
  rcases walk.selected_or_refused name member with selected | ⟨notice, _, refuses⟩
  · exact selected
  · simp [Catalog.defines, refuses.get?_eq_none] at defined

private theorem mem_roots {requested : List String} {start : String}
    (member : start ∈ automatic :: requested)
    (defined : profiles.defines start = true) : start ∈ roots profiles requested := by
  unfold roots
  rcases List.mem_cons.mp member with rfl | asked
  · simp [defined]
  · split
    · exact member
    · exact asked

theorem roots_subset (profiles : Catalog ProfileDefinition) (requested : List String) :
    roots profiles requested ⊆ automatic :: requested := by
  unfold roots
  split
  · exact List.Subset.refl _
  · exact List.subset_cons_self _ _

section Select

variable (config : Config) (requested : List String)

theorem select_nodup : (config.select requested).profiles.Nodup :=
  (walk_select config requested).nodup List.nodup_nil

theorem mem_select_of_mem_starts {start : String}
    (member : start ∈ automatic :: requested)
    (defined : config.profiles.defines start = true) :
    start ∈ (config.select requested).profiles :=
  (walk_select config requested).mem_of_defines (mem_roots member defined) defined

/-- A selected profile ends a lineage of selected profiles. -/
theorem select_lineage : ∀ name ∈ (config.select requested).profiles,
    ∃ chain, Lineage config.profiles (automatic :: requested) chain ∧
      chain.getLast? = some name ∧
      ∀ link ∈ chain, link ∈ (config.select requested).profiles := by
  intro name selected
  have follows : ∀ start ∈ roots config.profiles requested,
      Follows config.profiles (automatic :: requested) [] start :=
    fun start member => roots_subset config.profiles requested member
  rcases (walk_select config requested).lineage (.nil _ _) follows name selected with
    earlier | added
  · simp [empty] at earlier
  · exact added

theorem select_defines : ∀ name ∈ (config.select requested).profiles,
    config.profiles.defines name = true := by
  intro name selected
  obtain ⟨chain, lineage, last, _⟩ := select_lineage config requested name selected
  exact lineage.defined name (List.mem_of_getLast? last)

/-- The requested profiles are visited after the automatic one, if that is defined. -/
theorem walk_requested (defined : config.profiles.defines automatic = true) :
    Walk config.profiles [] requested (visitAll config.profiles [automatic] .empty)
      (config.select requested) := by
  apply walk_iff_eq_visitAll.mpr
  simp [Config.select, roots, defined, visitAll]

/-- If the automatic profile is defined, the selection begins with what its own visit
selects. -/
theorem select_automatic (defined : config.profiles.defines automatic = true) :
    ∃ inherited back, (config.select requested).profiles = inherited ++ automatic :: back ∧
      ∀ name ∈ inherited, config.profiles.Reaches automatic name := by
  have onward := walk_requested config requested defined
  have walk : Walk config.profiles [] [automatic] .empty
      (visitAll config.profiles [automatic] .empty) := walk_iff_eq_visitAll.mpr rfl
  generalize visitAll config.profiles [automatic] .empty = first at onward walk
  have reached : ∀ name ∈ first.profiles, config.profiles.Reaches automatic name := by
    intro name selected
    have follows : ∀ start ∈ [automatic],
        Follows config.profiles [automatic] [] start := fun start member => member
    rcases walk.lineage (.nil _ _) follows name selected with
      earlier | ⟨links, lineage, last, _⟩
    · simp [empty] at earlier
    · obtain ⟨start, single, path⟩ := lineage.reaches last
      rwa [List.mem_singleton.mp single] at path
  obtain ⟨inherited, shape⟩ : ∃ inherited, first.profiles = inherited ++ [automatic] := by
    cases walk with
    | selected selected _ => simp [empty] at selected
    | refused _ refuses _ =>
        simp [Catalog.defines, refuses.get?_eq_none] at defined
    | @entered _ _ _ _ _ inside _ _ _ _ _ _ rest =>
        refine ⟨inside.profiles, ?_⟩
        rw [walk_iff_eq_visitAll.mp rest]
        rfl
  obtain ⟨back, whole⟩ := onward.profiles_prefix
  refine ⟨inherited, back, by rw [← whole, shape]; simp, ?_⟩
  intro name member
  exact reached name (by simp [shape, member])

theorem reaches_of_precedes_automatic {name : String}
    (precedes : Precedes (config.select requested).profiles name automatic) :
    config.profiles.Reaches automatic name := by
  have selected : automatic ∈ (config.select requested).profiles := by
    obtain ⟨front, back, split, _⟩ := precedes
    simp [split]
  obtain ⟨inherited, others, shape, reached⟩ :=
    select_automatic config requested (select_defines config requested _ selected)
  exact reached name (precedes.mem_of_split (select_nodup config requested) shape)

end Select

/-- The walk that the rules describe ends, for whatever the profiles inherit from each
other, and ends in the selection alone.  The selection repeats no name and has defined
names only; the automatic profile and the requested ones are in it if they are defined;
every profile in it ends a lineage that begins with one of those; and what stands before
the automatic profile is inherited by it. -/
theorem select_invariants (config : Config) (requested : List String) :
    (∀ selection, Walk config.profiles [] (roots config.profiles requested) .empty
        selection ↔ selection = config.select requested) ∧
      (config.select requested).profiles.Nodup ∧
      (∀ name ∈ (config.select requested).profiles,
        config.profiles.defines name = true) ∧
      (config.profiles.defines automatic = true →
        automatic ∈ (config.select requested).profiles) ∧
      (∀ name ∈ requested, config.profiles.defines name = true →
        name ∈ (config.select requested).profiles) ∧
      (∀ name ∈ (config.select requested).profiles, ∃ chain,
        Lineage config.profiles (automatic :: requested) chain ∧
          chain.getLast? = some name) ∧
      (∀ name, Precedes (config.select requested).profiles name automatic →
        config.profiles.Reaches automatic name) := by
  refine ⟨fun selection => walk_iff_eq_visitAll, select_nodup config requested,
    select_defines config requested, ?_, ?_, ?_, ?_⟩
  · intro defined
    exact mem_select_of_mem_starts config requested List.mem_cons_self defined
  · intro name asked defined
    exact mem_select_of_mem_starts config requested (List.mem_cons_of_mem _ asked) defined
  · intro name selected
    obtain ⟨chain, lineage, last, _⟩ := select_lineage config requested name selected
    exact ⟨chain, lineage, last⟩
  · intro name precedes
    exact reaches_of_precedes_automatic config requested precedes

end ProfileShell.Selection
