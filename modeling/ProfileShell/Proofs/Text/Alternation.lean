import Mathlib.Data.Set.List
import ProfileShell.Text.Alternation

/-!
# Searching for one of several texts

An alternation of texts that stand for themselves is found exactly where one of them
occurs.  The order in which the texts stand does not matter, and neither does it
matter whether a library finds them at once or whether each is looked for.
-/

namespace ProfileShell

theorem occursIn_iff_isInfix {part text : List Char} :
    occursIn part text = true ↔ part <:+: text := by
  induction text with
  | nil => simp [occursIn]
  | cons character rest ih =>
      rw [occursIn, Bool.or_eq_true, List.isPrefixOf_iff_prefix, ih, List.infix_cons_iff]

namespace Text

namespace PatternLibrary

variable {library : PatternLibrary} {texts : List String}

private theorem mem_insert {text other : String} :
    other ∈ insert text texts ↔ other = text ∨ other ∈ texts := by
  induction texts with
  | nil => simp [insert]
  | cons first rest ih =>
      rw [insert]
      split
      · rw [List.mem_cons]
      · rw [List.mem_cons, ih, List.mem_cons, or_left_comm]

theorem mem_inOrder {text : String} : text ∈ inOrder texts ↔ text ∈ texts := by
  induction texts with
  | nil => rfl
  | cons first rest ih =>
      rw [List.mem_cons, ← ih]
      exact mem_insert

/-- The search for any text of a list succeeds exactly where some text of the list
occurs. -/
theorem search_iff_exists (documented : library.IsDocumented) {search : String → Bool}
    (found : library.searchFor? texts = some search) (subject : String) :
    search subject = true ↔ ∃ text ∈ texts, text.toList <:+: subject.toList := by
  unfold searchFor? at found
  split at found
  case isTrue => cases found
  case isFalse occupied =>
    -- Sorting changes where an escaped text stands, but not which ones there are.
    have nonempty : inOrder (texts.map library.escape) ≠ [] := by
      obtain ⟨text, member⟩ := List.exists_mem_of_ne_nil texts
        (mt List.isEmpty_iff.mpr occupied)
      exact List.ne_nil_of_mem (mem_inOrder.mpr (List.mem_map_of_mem member))
    have escaped : ∀ pattern ∈ inOrder (texts.map library.escape),
        ∃ text, pattern = library.escape text := by
      intro pattern member
      obtain ⟨text, -, isEscaped⟩ := List.mem_map.mp (mem_inOrder.mp member)
      exact ⟨text, isEscaped.symm⟩
    rw [documented.search_iff _ search nonempty escaped found subject]
    simp only [mem_inOrder, List.mem_map, exists_exists_and_eq_and,
      documented.matches_escape, exists_eq_left, occursIn_iff_isInfix]

end PatternLibrary

namespace Alternation

private theorem read?_bar (rest : List Char) :
    read? ('|' :: rest) = (read? rest).map ([] :: ·) := by
  rw [read?]

theorem read?_escapeCharacter (character : Char) (rest : List Char) :
    read? (escapeCharacter character ++ rest) = (read? rest).map (prepend character) := by
  unfold escapeCharacter
  by_cases special : isSpecial character = true
  · rw [if_pos special, List.cons_append, List.cons_append, List.nil_append, read?,
      if_pos special]
  · rw [if_neg special, List.cons_append, List.nil_append, read?]
    · exact if_neg special
    · rintro rfl
      exact special rfl
    · rintro _ _ rfl -
      exact special rfl

theorem read?_flatMap_escapeCharacter (text rest : List Char) :
    read? (text.flatMap escapeCharacter ++ rest) =
      (read? rest).map fun texts => text.foldr prepend texts := by
  induction text with
  | nil => simp
  | cons character others ih =>
      rw [List.flatMap_cons, List.append_assoc, read?_escapeCharacter, ih, Option.map_map]
      rfl

private theorem foldr_prepend (text : List Char) (texts : List (List Char)) :
    text.foldr prepend ([] :: texts) = text :: texts := by
  induction text with
  | nil => rfl
  | cons character others ih => rw [List.foldr_cons, ih, prepend]

theorem read?_escape (text : String) : read? (escape text).toList = some [text.toList] := by
  have read := read?_flatMap_escapeCharacter text.toList []
  rw [List.append_nil, read?, Option.map_some, foldr_prepend] at read
  rwa [escape, String.toList_ofList]

/-- Texts that stand for themselves are read back from the pattern that lists them. -/
theorem read?_intercalate {texts : List String} (nonempty : texts ≠ []) :
    read? ("|".intercalate (texts.map escape)).toList = some (texts.map String.toList) := by
  have separator : "|".toList = ['|'] := rfl
  rw [String.toList_intercalate, separator]
  induction texts with
  | nil => exact absurd rfl nonempty
  | cons text rest ih =>
      cases rest with
      | nil => simpa [List.intercalate] using read?_escape text
      | cons next others =>
          have later := ih (List.cons_ne_nil next others)
          rw [List.map_cons, List.map_cons, List.map_cons, List.map_cons,
            List.intercalate_cons_cons, escape, String.toList_ofList, List.append_assoc,
            read?_flatMap_escapeCharacter]
          rw [List.map_cons, List.map_cons] at later
          rw [List.cons_append, List.nil_append, read?_bar, later, Option.map_some,
            Option.map_some, foldr_prepend]
          rfl

end Alternation

namespace PatternLibrary

theorem ofTexts_matches_escape (text whole : String) :
    ofTexts.Matches (ofTexts.escape text) whole ↔ whole = text := by
  constructor
  · rintro ⟨texts, read, member⟩
    cases (Alternation.read?_escape text).symm.trans read
    exact String.toList_inj.mp (List.mem_singleton.mp member)
  · rintro rfl
    exact ⟨_, Alternation.read?_escape whole, List.mem_singleton_self _⟩

/-- Patterns that list texts keep what a library promises. -/
theorem isDocumented_ofTexts : ofTexts.IsDocumented where
  matches_escape := ofTexts_matches_escape
  search_iff patterns search nonempty escaped compiled subject := by
    obtain ⟨texts, rfl⟩ : patterns ∈ Set.range (List.map ofTexts.escape) := by
      rw [Set.range_list_map]
      intro pattern member
      obtain ⟨text, isEscaped⟩ := escaped pattern member
      exact ⟨text, isEscaped.symm⟩
    have compiles : ofTexts.compile? ("|".intercalate (texts.map ofTexts.escape)) =
        some fun subject => (texts.map String.toList).any (occursIn · subject.toList) := by
      have listed := Alternation.read?_intercalate (List.map_eq_nil_iff.not.mp nonempty)
      change Option.map _ (Alternation.read? _) = _
      exact congrArg _ listed
    obtain rfl := Option.some.inj (compiles.symm.trans compiled)
    simp only [List.any_map, List.any_eq_true, Function.comp_apply, List.mem_map,
      exists_exists_and_eq_and, ofTexts_matches_escape, exists_eq_left]

end PatternLibrary

end Text

end ProfileShell
