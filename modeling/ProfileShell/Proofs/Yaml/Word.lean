import ProfileShell.Proofs.Yaml.Quotation

/-!
# Plain words are read as they are written

A plain word is a text that a YAML file may hold without quotation marks wherever a scalar
may stand.  Many words look like numbers, truth values or null.

The reader of a plain scalar takes every character of a word, and it stops at whatever may
stand behind one: an indicator of a flow collection, the colon behind a key, or a line that
is indented less.
-/

namespace ProfileShell.Yaml

open Text (IsPrintable)

/-- A character that a plain word may start with. -/
def startsWord (character : Char) : Bool :=
  character.isAlphanum || ['_', '/', '~', '.'].contains character

/-- A character that a plain word may have behind its first one. -/
def continuesWord (character : Char) : Bool :=
  startsWord character || ['=', '+', '-'].contains character

/-- Whether a text is a plain word. -/
def isWord : List Char → Bool
  | [] => false
  | first :: rest => startsWord first && rest.all continuesWord

variable {character : Char} {text rest : List Char} {level : Int} {mark : Mark} {flow : Bool}

/-! ## Characters -/

theorem continuesWord_of_startsWord (starts : startsWord character = true) :
    continuesWord character = true := by
  rw [continuesWord, starts, Bool.true_or]

theorem isPrintable_of_isAlphanum (alphanumeric : character.isAlphanum = true) :
    IsPrintable character := by
  unfold Char.isAlphanum Char.isAlpha Char.isUpper Char.isLower Char.isDigit at alphanumeric
  simp [UInt32.le_iff_toNat_le] at alphanumeric
  unfold IsPrintable
  omega

theorem isPrintable_of_mem {characters : List Char} (member : character ∈ characters)
    (printable : characters.all (decide <| IsPrintable ·) = true) : IsPrintable character :=
  of_decide_eq_true (List.all_eq_true.mp printable character member)

theorem isPrintable_of_continuesWord (inWord : continuesWord character = true) :
    IsPrintable character := by
  unfold continuesWord startsWord at inWord
  simp only [Bool.or_eq_true, List.contains_eq_mem, decide_eq_true_eq] at inWord
  rcases inWord with (alphanumeric | listed) | listed
  · exact isPrintable_of_isAlphanum alphanumeric
  · exact isPrintable_of_mem listed (by decide)
  · exact isPrintable_of_mem listed (by decide)

theorem ne_of_startsWord {others : List Char} (starts : startsWord character = true)
    (foreign : others.all (!startsWord ·) = true) : ∀ other ∈ others, character ≠ other := by
  rintro other listed rfl
  exact absurd (List.all_eq_true.mp foreign character listed) (by simp [starts])

private theorem ne_of_continuesWord {others : List Char} (inWord : continuesWord character = true)
    (foreign : others.all (!continuesWord ·) = true) :
    ∀ other ∈ others, character ≠ other := by
  rintro other listed rfl
  exact absurd (List.all_eq_true.mp foreign character listed) (by simp [inWord])

theorem continuesWord_of_isWord (word : isWord text = true) :
    ∀ character ∈ text, continuesWord character = true := by
  cases text with
  | nil => cases word
  | cons first later =>
      rw [isWord, Bool.and_eq_true, List.all_eq_true] at word
      exact List.forall_mem_cons.mpr ⟨continuesWord_of_startsWord word.1, word.2⟩

theorem dropWhile_continuesWord_of_atWordEnd (ends : atWordEnd rest = true) :
    rest.dropWhile continuesWord = rest := by
  cases rest with
  | nil => rfl
  | cons character later =>
      apply List.dropWhile_cons_of_neg
      simp only [atWordEnd, isGap, isBreak, Bool.or_eq_true, beq_iff_eq] at ends
      rcases ends with (rfl | rfl) | (rfl | rfl) | rfl <;> decide

/-- Three dots separate no documents unless their word ends behind them. -/
theorem atDocumentMarker_word (word : isWord text = true)
    (foreign : continuesWord character = false)
    (noGap : (isGap character || isBreak character) = false) (rest : List Char) :
    atDocumentMarker (text ++ character :: rest) = false := by
  have behind : (text ++ character :: rest).dropWhile continuesWord = character :: rest := by
    rw [List.dropWhile_append_of_pos (continuesWord_of_isWord word),
      List.dropWhile_cons_of_neg (by simp [foreign])]
  have stays {tail : List Char} (same : tail.dropWhile continuesWord = character :: rest) :
      atWordEnd tail = false := by
    cases wordEnds : atWordEnd tail with
    | false => rfl
    | true =>
        rw [dropWhile_continuesWord_of_atWordEnd wordEnds] at same
        rw [← wordEnds, same, atWordEnd, noGap]
  unfold atDocumentMarker
  split
  case h_1 tail whole | h_2 tail whole =>
    rw [whole] at behind
    exact stays behind
  case h_3 => rfl

/-- No word holds an indicator of a flow collection, which is no gap and no colon either. -/
theorem foreign_of_isFlowIndicator (indicates : isFlowIndicator character = true) :
    continuesWord character = false ∧ (isGap character || isBreak character) = false ∧
      character ≠ ':' := by
  simp only [isFlowIndicator, Bool.or_eq_true, beq_iff_eq] at indicates
  rcases indicates with (((rfl | rfl) | rfl) | rfl) | rfl <;> exact ⟨by decide, rfl, by decide⟩

/-! ## Inside a word -/

private theorem plain_character (printable : IsPrintable character) (visible : character ≠ ' ')
    (inside : isFlowIndicator character = false) (noColon : character ≠ ':') (rest : List Char) :
    plain flow level none text mark (character :: rest) =
      plain flow level none (character :: text) ⟨mark.line, mark.column + 1⟩ rest := by
  rw [plain]
  simp [isGap_of_printable printable, isBreak_of_printable printable, visible, inside, noColon,
    Mark.after_of_printable printable]

theorem plain_continuesWord (inWord : continuesWord character = true) (rest : List Char) :
    plain flow level none text mark (character :: rest) =
      plain flow level none (character :: text) ⟨mark.line, mark.column + 1⟩ rest := by
  have outside : ∀ other ∈ [' ', ':', ',', '[', ']', '\x7b', '\x7d'], character ≠ other :=
    ne_of_continuesWord inWord (by decide)
  simp only [List.forall_mem_cons] at outside
  apply plain_character (isPrintable_of_continuesWord inWord)
  · exact outside.1
  · simp [isFlowIndicator, outside]
  · exact outside.2.1

theorem plain_word (word : ∀ character ∈ text, continuesWord character = true)
    (reversed : List Char) (line column : Nat) (rest : List Char) :
    plain flow level none reversed ⟨line, column⟩ (text ++ rest) =
      plain flow level none (text.reverse ++ reversed) ⟨line, column + text.length⟩ rest := by
  induction text generalizing reversed column with
  | nil => rfl
  | cons character later ih =>
      obtain ⟨first, others⟩ := List.forall_mem_cons.mp word
      rw [List.cons_append, plain_continuesWord first, ih others, List.reverse_cons,
        List.append_assoc, List.length_cons, Nat.add_assoc column, Nat.add_comm 1]
      rfl

/-! ## Behind a word -/

theorem plain_indicator (indicates : isFlowIndicator character = true) (rest : List Char) :
    plain true level none text mark (character :: rest) =
      some ⟨text.reverse, ⟨character :: rest, mark⟩, false⟩ := by
  obtain ⟨_, noGap, noColon⟩ := foreign_of_isFlowIndicator indicates
  rw [plain]
  simp [noGap, noColon, indicates]

theorem plain_colon (ends : atWordEnd rest = true) :
    plain false level none text mark (':' :: rest) =
      some ⟨text.reverse, ⟨':' :: rest, mark⟩, false⟩ := by
  rw [plain]
  simp [isGap, isBreak, ends]

/-- The indentation of a line belongs to the gap ahead of it. -/
theorem plain_indentation {fold : Fold} (broken : fold.broken = true) (width line column : Nat)
    (rest : List Char) :
    plain false level (some fold) text ⟨line, column⟩ (List.replicate width ' ' ++ rest) =
      plain false level (some fold) text ⟨line, column + width⟩ rest := by
  induction width generalizing column with
  | zero => rfl
  | succ width ih =>
      have kept : fold.add ' ' = fold := by
        rw [Fold.add, if_neg (by decide), if_pos broken]
      rw [List.replicate_succ, List.cons_append, plain]
      simp only [isGap, beq_self_eq_true, Bool.true_or, if_true, Option.getD_some, kept]
      rw [if_neg (by simp), Mark.after_of_printable (by decide), ih, Nat.add_assoc column,
        Nat.add_comm 1]

theorem plain_lineFeed (rest : List Char) :
    plain flow level none text mark ('\n' :: rest) =
      plain flow level (some ⟨[], true, ['\n'], []⟩) text ⟨mark.line + 1, 0⟩ rest := by
  rw [plain]
  rfl

/-- A word ends at a line that is indented less. -/
theorem plain_nextLine {width : Nat} (printable : IsPrintable character)
    (visible : character ≠ ' ') (outside : (width : Int) < level) (rest : List Char) :
    plain false level none text mark ('\n' :: (List.replicate width ' ' ++ character :: rest)) =
      some ⟨text.reverse, ⟨character :: rest, ⟨mark.line + 1, width⟩⟩, true⟩ := by
  rw [plain_lineFeed, plain_indentation rfl, Nat.zero_add, plain]
  simp [isGap_of_printable printable, isBreak_of_printable printable, visible, outside]

/-- What may stand behind the last line of a file. -/
def IsEnding (ending : List Char) : Prop :=
  ending = [] ∨ ending = ['\n']

theorem plain_ending {ending : List Char} (isEnding : IsEnding ending) :
    ∃ (finish : Mark) (broken : Bool), plain flow level none text mark ending =
      some ⟨text.reverse, ⟨[], finish⟩, broken⟩ := by
  rcases isEnding with rfl | rfl
  · exact ⟨mark, false, rfl⟩
  · refine ⟨⟨mark.line + 1, 0⟩, true, ?_⟩
    rw [plain_lineFeed]
    rfl

end ProfileShell.Yaml
