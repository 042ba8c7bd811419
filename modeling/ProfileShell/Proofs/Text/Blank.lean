import ProfileShell.Text.Blank

/-!
# Trimmed text

What trimming takes away at either end is blank, what it leaves has no blank there, and
blanks that are put around a text change nothing.
-/

namespace ProfileShell.Text

variable {characters blanks : List Char} {character : Char}

def AllBlank (characters : List Char) : Prop :=
  ∀ character ∈ characters, isBlank character = true

/-- Whether a text has no blank at either end. -/
structure IsTrimmed (characters : List Char) : Prop where
  first : ∀ character, characters.head? = some character → isBlank character = false
  last : ∀ character, characters.getLast? = some character → isBlank character = false

theorem allBlank_nil : AllBlank [] := nofun

/-! ## Leading blanks -/

theorem dropBlanks_append (blank : AllBlank blanks) (rest : List Char) :
    dropBlanks (blanks ++ rest) = dropBlanks rest :=
  List.dropWhile_append_of_pos blank

theorem dropBlanks_cons (visible : isBlank character = false) (rest : List Char) :
    dropBlanks (character :: rest) = character :: rest :=
  List.dropWhile_cons_of_neg (by simp [visible])

theorem exists_blanks_dropBlanks (characters : List Char) :
    ∃ blanks, AllBlank blanks ∧ characters = blanks ++ dropBlanks characters := by
  refine ⟨characters.takeWhile isBlank, ?_, List.takeWhile_append_dropWhile.symm⟩
  exact List.all_eq_true.mp List.all_takeWhile

theorem notBlank_of_head?_dropBlanks
    (first : (dropBlanks characters).head? = some character) : isBlank character = false := by
  have visible := List.head?_dropWhile_not isBlank characters
  rw [dropBlanks] at first
  rwa [first] at visible

/-! ## Trailing blanks -/

theorem dropTrailingBlanks_append (blank : AllBlank blanks) (text : List Char) :
    dropTrailingBlanks (text ++ blanks) = dropTrailingBlanks text := by
  have backwards : AllBlank blanks.reverse := by
    intro character member
    exact blank character (List.mem_reverse.mp member)
  rw [dropTrailingBlanks, List.reverse_append, dropBlanks_append backwards, dropTrailingBlanks]

theorem dropTrailingBlanks_eq_self
    (last : ∀ character, characters.getLast? = some character → isBlank character = false) :
    dropTrailingBlanks characters = characters := by
  have back : ∀ character, characters.reverse.head? = some character →
      isBlank character = false := by
    rwa [List.head?_reverse]
  rw [dropTrailingBlanks, dropBlanks_eq_self back, List.reverse_reverse]

theorem exists_dropTrailingBlanks_blanks (characters : List Char) :
    ∃ blanks, AllBlank blanks ∧ characters = dropTrailingBlanks characters ++ blanks := by
  obtain ⟨blanks, blank, split⟩ := exists_blanks_dropBlanks characters.reverse
  refine ⟨blanks.reverse, ?_, ?_⟩
  · intro character member
    exact blank character (List.mem_reverse.mp member)
  · rw [dropTrailingBlanks, ← List.reverse_append, ← split, List.reverse_reverse]

theorem notBlank_of_getLast?_dropTrailingBlanks
    (last : (dropTrailingBlanks characters).getLast? = some character) :
    isBlank character = false := by
  rw [dropTrailingBlanks, List.getLast?_reverse] at last
  exact notBlank_of_head?_dropBlanks last

/-- A text that starts with a visible character keeps it. -/
theorem dropTrailingBlanks_cons (visible : isBlank character = false) (rest : List Char) :
    dropTrailingBlanks (character :: rest) = character :: dropTrailingBlanks rest := by
  obtain ⟨blanks, blank, split⟩ := exists_dropTrailingBlanks_blanks rest
  have ends : ∀ last, (character :: dropTrailingBlanks rest).getLast? = some last →
      isBlank last = false := by
    intro last isLast
    cases kept : dropTrailingBlanks rest with
    | nil =>
        rw [kept, List.getLast?_singleton] at isLast
        exact Option.some.inj isLast ▸ visible
    | cons next more =>
        rw [kept, List.getLast?_cons_cons, ← kept] at isLast
        exact notBlank_of_getLast?_dropTrailingBlanks isLast
  calc
    dropTrailingBlanks (character :: rest)
        = dropTrailingBlanks (character :: dropTrailingBlanks rest ++ blanks) := by
          rw [List.cons_append, ← split]
    _ = dropTrailingBlanks (character :: dropTrailingBlanks rest) :=
          dropTrailingBlanks_append blank _
    _ = character :: dropTrailingBlanks rest := dropTrailingBlanks_eq_self ends

theorem isNone_nonBlank?_of_visible {text : String} {rest : List Char}
    (spelled : text.toList = character :: rest) (visible : isBlank character = false) :
    (nonBlank? text).isNone = false := by
  have filled : (trim text).isEmpty = false := by
    rw [trim, trimBlanks, spelled, dropBlanks_cons visible, dropTrailingBlanks_cons visible]
    simp
  rw [nonBlank?, filled]
  rfl

end ProfileShell.Text
