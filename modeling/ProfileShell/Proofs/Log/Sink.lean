import ProfileShell.Log.Sink
import ProfileShell.Proofs.Text.Blank

/-!
# Arrows ahead of a path

What a text for a log sink says, told by its form: blanks, at most two arrows with blanks
behind each of them, and what is left of the text without the blanks at its end.  A third
arrow belongs to the path.  So whether a file is emptied or grows is told for every text.
-/

namespace ProfileShell.Log.Sink

open Text (AllBlank IsTrimmed dropBlanks dropTrailingBlanks isBlank)

variable {arrows limit : Nat} {core text blanks : List Char}

/-- A text behind some arrows, with blanks around it and ahead of each arrow. -/
inductive Behind : Nat → List Char → List Char → Prop where
  | bare {before core after : List Char} (blankBefore : AllBlank before)
      (blankAfter : AllBlank after) : Behind 0 core (before ++ core ++ after)
  | arrow {arrows : Nat} {before core rest : List Char} (blank : AllBlank before)
      (behind : Behind arrows core rest) : Behind (arrows + 1) core (before ++ '>' :: rest)

/-! ## Taking the arrows away -/

/-- What a text consists of if no more arrows than a limit count. -/
structure Divides (limit : Nat) (text : List Char) (core : List Char) (arrows : Nat) : Prop where
  behind : Behind arrows core text
  few : arrows ≤ limit
  trimmed : IsTrimmed core
  /-- An arrow that is left is one too many. -/
  settled : core.head? = some '>' → arrows = limit

/-- What is left of a text, and the number of its arrows. -/
def divide (limit : Nat) (text : List Char) : List Char × Nat :=
  let (rest, arrows) := dropArrows limit (dropBlanks text)
  (dropTrailingBlanks rest, arrows)

private theorem divide_of_nil (nothing : dropBlanks text = []) : divide limit text = ([], 0) := by
  rw [divide, nothing]
  cases limit <;> rfl

private theorem divide_of_arrow {rest : List Char} (found : dropBlanks text = '>' :: rest) :
    divide (limit + 1) text = ((divide limit rest).1, (divide limit rest).2 + 1) := by
  rw [divide, found]
  rfl

private theorem divide_of_visible {character : Char} {rest : List Char}
    (found : dropBlanks text = character :: rest) (settled : character = '>' → limit = 0) :
    divide limit text = (dropTrailingBlanks (character :: rest), 0) := by
  rw [divide, found]
  cases limit with
  | zero => rfl
  | succ limit =>
      rw [dropArrows]
      intro more same
      exact absurd (settled (List.head_eq_of_cons_eq same)) (Nat.succ_ne_zero limit)

theorem Divides.divide_eq (divides : Divides limit text core arrows) :
    divide limit text = (core, arrows) := by
  obtain ⟨behind, few, trimmed, settled⟩ := divides
  induction behind generalizing limit with
  | @bare before core after blankBefore blankAfter =>
      have behindBlanks : dropBlanks (before ++ core ++ after) = dropBlanks (core ++ after) := by
        rw [List.append_assoc, Text.dropBlanks_append blankBefore]
      cases core with
      | nil =>
          apply divide_of_nil
          rw [behindBlanks, List.nil_append, ← List.append_nil after,
            Text.dropBlanks_append blankAfter]
          rfl
      | cons character rest =>
          have visible : isBlank character = false := trimmed.first character rfl
          rw [List.cons_append, Text.dropBlanks_cons visible] at behindBlanks
          rw [divide_of_visible behindBlanks, ← List.cons_append,
            Text.dropTrailingBlanks_append blankAfter,
            Text.dropTrailingBlanks_eq_self trimmed.last]
          rintro rfl
          exact (settled rfl).symm
  | @arrow arrows before core rest blank behind ih =>
      obtain ⟨limit, rfl⟩ := Nat.exists_eq_add_of_le' (Nat.one_le_of_lt few)
      have found : dropBlanks (before ++ '>' :: rest) = '>' :: rest := by
        rw [Text.dropBlanks_append blank, Text.dropBlanks_cons (by decide)]
      have inner : divide limit rest = (core, arrows) := by
        apply ih (Nat.le_of_succ_le_succ few) trimmed
        intro isArrow
        exact Nat.succ.inj (settled isArrow)
      rw [divide_of_arrow found, inner]

private theorem divides_of_nil (nothing : dropBlanks text = []) : Divides limit text [] 0 := by
  obtain ⟨before, blank, split⟩ := Text.exists_blanks_dropBlanks text
  rw [nothing] at split
  have behind : Behind 0 [] (before ++ [] ++ []) := .bare blank Text.allBlank_nil
  rw [List.append_nil, ← split] at behind
  exact ⟨behind, Nat.zero_le limit, ⟨nofun, nofun⟩, nofun⟩

private theorem divides_of_arrow {rest : List Char} (found : dropBlanks text = '>' :: rest)
    (divides : Divides limit rest core arrows) : Divides (limit + 1) text core (arrows + 1) := by
  obtain ⟨before, blank, split⟩ := Text.exists_blanks_dropBlanks text
  rw [found] at split
  refine ⟨?_, Nat.succ_le_succ divides.few, divides.trimmed, ?_⟩
  · rw [split]
    exact .arrow blank divides.behind
  · intro isArrow
    rw [divides.settled isArrow]

private theorem divides_of_visible {character : Char} {rest : List Char}
    (found : dropBlanks text = character :: rest) (settled : character = '>' → limit = 0) :
    Divides limit text (dropTrailingBlanks (character :: rest)) 0 := by
  have first : (dropBlanks text).head? = some character := by rw [found, List.head?_cons]
  have visible := Text.notBlank_of_head?_dropBlanks first
  have kept := Text.dropTrailingBlanks_cons visible rest
  obtain ⟨before, blank, split⟩ := Text.exists_blanks_dropBlanks text
  obtain ⟨after, blankAfter, splitRest⟩ :=
    Text.exists_dropTrailingBlanks_blanks (character :: rest)
  refine ⟨?_, Nat.zero_le limit, ⟨?_, ?_⟩, ?_⟩
  · rw [split, found]
    conv => rhs; rw [splitRest, ← List.append_assoc]
    exact .bare blank blankAfter
  · rw [kept]
    rintro _ ⟨⟩
    exact visible
  · intro last isLast
    exact Text.notBlank_of_getLast?_dropTrailingBlanks isLast
  · rw [kept]
    intro isArrow
    exact (settled (Option.some.inj isArrow)).symm

theorem divides_divide (limit : Nat) (text : List Char) :
    Divides limit text (divide limit text).1 (divide limit text).2 := by
  induction limit generalizing text with
  | zero =>
      cases found : dropBlanks text with
      | nil =>
          rw [divide_of_nil found]
          exact divides_of_nil found
      | cons character rest =>
          rw [divide_of_visible found fun _ => rfl]
          exact divides_of_visible found fun _ => rfl
  | succ limit ih =>
      cases found : dropBlanks text with
      | nil =>
          rw [divide_of_nil found]
          exact divides_of_nil found
      | cons character rest =>
          by_cases isArrow : character = '>'
          · subst isArrow
            rw [divide_of_arrow found]
            exact divides_of_arrow found (ih rest)
          · have settled : character = '>' → limit + 1 = 0 := fun same => absurd same isArrow
            rw [divide_of_visible found settled]
            exact divides_of_visible found settled

/-! ## The sink -/

/-- The sink that the text behind some arrows names. -/
def named? (arrows : Nat) : List Char → Option Sink
  | [] => none
  | ['-'] => some .standardOutput
  | ['+'] => some .standardError
  | path => some (.file (String.ofList path) (arrows == 2))

theorem ofText?_eq_named? (text : String) :
    ofText? text = named? (divide 2 text.toList).2 (divide 2 text.toList).1 := rfl

theorem ofText?_eq_iff (text : String) (sink : Option Sink) :
    ofText? text = sink ↔
      ∃ core arrows, Divides 2 text.toList core arrows ∧ named? arrows core = sink := by
  rw [ofText?_eq_named?]
  constructor
  · intro same
    exact ⟨_, _, divides_divide 2 text.toList, same⟩
  · rintro ⟨core, arrows, divides, same⟩
    rw [divides.divide_eq]
    exact same

theorem named?_eq_none_iff : named? arrows core = none ↔ core = [] := by
  unfold named?
  split <;> simp_all

theorem named?_eq_output_iff : named? arrows core = some .standardOutput ↔ core = ['-'] := by
  unfold named?
  split <;> simp_all

theorem named?_eq_error_iff : named? arrows core = some .standardError ↔ core = ['+'] := by
  unfold named?
  split <;> simp_all

/-- Whether a text is a path, and neither nothing nor the name of a standard stream. -/
structure IsPath (path : List Char) : Prop where
  trimmed : IsTrimmed path
  nonempty : path ≠ []
  notOutput : path ≠ ['-']
  notError : path ≠ ['+']

theorem named?_eq_file_iff {path : String} {append : Bool} (trimmed : IsTrimmed core) :
    named? arrows core = some (.file path append) ↔
      core = path.toList ∧ IsPath core ∧ (arrows == 2) = append := by
  have spelled : String.ofList core = path ↔ core = path.toList := by
    constructor
    · rintro rfl
      rw [String.toList_ofList]
    · rintro rfl
      rw [String.ofList_toList]
  constructor
  · intro same
    unfold named? at same
    split at same
    case h_1 | h_2 | h_3 => cases same
    case h_4 nonempty notOutput notError =>
      simp only [Option.some.injEq, file.injEq, spelled] at same
      exact ⟨same.1, ⟨trimmed, nonempty, notOutput, notError⟩, same.2⟩
  · rintro ⟨same, ⟨_, nonempty, notOutput, notError⟩, grows⟩
    unfold named?
    split
    case h_1 => exact absurd rfl nonempty
    case h_2 => exact absurd rfl notOutput
    case h_3 => exact absurd rfl notError
    case h_4 => rw [spelled.mpr same, grows]

theorem ofText?_of_behind {text : String} (behind : Behind arrows core text.toList)
    (few : arrows ≤ 2) (trimmed : IsTrimmed core) (settled : core.head? = some '>' → arrows = 2) :
    ofText? text = named? arrows core := by
  rw [ofText?_eq_iff]
  exact ⟨core, arrows, ⟨behind, few, trimmed, settled⟩, rfl⟩

theorem ofText?_eq_file_iff (text path : String) (append : Bool) :
    ofText? text = some (.file path append) ↔
      IsPath path.toList ∧ ∃ arrows ≤ 2, Behind arrows path.toList text.toList ∧
        (path.toList.head? = some '>' → arrows = 2) ∧ (arrows == 2) = append := by
  constructor
  · rw [ofText?_eq_iff]
    rintro ⟨core, arrows, ⟨behind, few, trimmed, settled⟩, same⟩
    obtain ⟨rfl, isPath, grows⟩ := (named?_eq_file_iff trimmed).mp same
    exact ⟨isPath, arrows, few, behind, settled, grows⟩
  · rintro ⟨isPath, arrows, few, behind, settled, grows⟩
    rw [ofText?_of_behind behind few isPath.trimmed settled]
    exact (named?_eq_file_iff isPath.trimmed).mpr ⟨rfl, isPath, grows⟩

/-- A text without a path of its own, behind at most two arrows. -/
theorem ofText?_eq_iff_of_fixed {fixed : List Char} {sink : Option Sink}
    (named : ∀ {arrows core}, named? arrows core = sink ↔ core = fixed)
    (trimmed : IsTrimmed fixed) (noArrow : fixed.head? ≠ some '>') (text : String) :
    ofText? text = sink ↔ ∃ arrows ≤ 2, Behind arrows fixed text.toList := by
  constructor
  · rw [ofText?_eq_iff]
    rintro ⟨core, arrows, ⟨behind, few, _, _⟩, same⟩
    obtain rfl := named.mp same
    exact ⟨arrows, few, behind⟩
  · rintro ⟨arrows, few, behind⟩
    rw [ofText?_of_behind behind few trimmed fun isArrow => absurd isArrow noArrow]
    exact named.mpr rfl

private theorem isTrimmed_singleton {character : Char} (visible : isBlank character = false) :
    IsTrimmed [character] := by
  constructor
  · rintro _ ⟨⟩
    exact visible
  · rintro _ ⟨⟩
    exact visible

/-- A path without an arrow or behind one arrow is a file that is emptied, and a path behind
two arrows is a file that grows; only there the path itself may start with an arrow.  A dash
or a plus sign behind at most two arrows is a standard stream, and arrows alone name
nothing. -/
theorem ofText?_grammar (text : String) :
    (∀ path, ofText? text = some (.file path false) ↔
        IsPath path.toList ∧ path.toList.head? ≠ some '>' ∧
          (Behind 0 path.toList text.toList ∨ Behind 1 path.toList text.toList)) ∧
      (∀ path, ofText? text = some (.file path true) ↔
        IsPath path.toList ∧ Behind 2 path.toList text.toList) ∧
      (ofText? text = some .standardOutput ↔ ∃ arrows ≤ 2, Behind arrows ['-'] text.toList) ∧
      (ofText? text = some .standardError ↔ ∃ arrows ≤ 2, Behind arrows ['+'] text.toList) ∧
      (ofText? text = none ↔ ∃ arrows ≤ 2, Behind arrows [] text.toList) := by
  refine ⟨?_, ?_, ?_, ?_, ?_⟩
  · intro path
    rw [ofText?_eq_file_iff]
    constructor
    · rintro ⟨isPath, arrows, few, behind, settled, emptied⟩
      have fewer : arrows ≠ 2 := by simpa using emptied
      refine ⟨isPath, fun isArrow => fewer (settled isArrow), ?_⟩
      have less : arrows = 0 ∨ arrows = 1 := by omega
      rcases less with rfl | rfl
      · exact .inl behind
      · exact .inr behind
    · rintro ⟨isPath, noArrow, behind | behind⟩
      · exact ⟨isPath, 0, by decide, behind, fun isArrow => absurd isArrow noArrow, rfl⟩
      · exact ⟨isPath, 1, by decide, behind, fun isArrow => absurd isArrow noArrow, rfl⟩
  · intro path
    rw [ofText?_eq_file_iff]
    constructor
    · rintro ⟨isPath, arrows, few, behind, _, grows⟩
      obtain rfl : arrows = 2 := by simpa using grows
      exact ⟨isPath, behind⟩
    · rintro ⟨isPath, behind⟩
      exact ⟨isPath, 2, Nat.le_refl 2, behind, fun _ => rfl, rfl⟩
  · apply ofText?_eq_iff_of_fixed named?_eq_output_iff (isTrimmed_singleton (by decide))
    decide
  · apply ofText?_eq_iff_of_fixed named?_eq_error_iff (isTrimmed_singleton (by decide))
    decide
  · exact ofText?_eq_iff_of_fixed named?_eq_none_iff ⟨nofun, nofun⟩ nofun text

example : ofText? " > >> log" = some (.file "> log" true) := by decide

end ProfileShell.Log.Sink
