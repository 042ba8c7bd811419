import ProfileShell.Text.Pattern

/-!
# Taking a pattern apart

Whether a text belongs to a pattern is decided one character at a time, and the decision
is right for every pattern and every text.  What the texts of a pattern start with is often
enough to tell two patterns apart; `Opens` says it, part by part.
-/

namespace ProfileShell.Text.Pattern

variable {pattern first second left right body : Pattern}
variable {text : List Char} {character : Char}

theorem not_matches_never : ¬ Matches .never text := by
  intro matched
  cases matched

theorem matches_empty_iff : Matches .empty text ↔ text = [] := by
  constructor
  · intro matched
    cases matched
    rfl
  · rintro rfl
    exact .empty

theorem matches_seq_iff :
    Matches (.seq first second) text ↔
      ∃ start rest, text = start ++ rest ∧ Matches first start ∧ Matches second rest := by
  constructor
  · intro matched
    cases matched with
    | seq starts continues => exact ⟨_, _, rfl, starts, continues⟩
  · rintro ⟨start, rest, rfl, starts, continues⟩
    exact .seq starts continues

theorem matches_either_iff :
    Matches (.either left right) text ↔ Matches left text ∨ Matches right text := by
  constructor
  · intro matched
    cases matched with
    | left matched => exact .inl matched
    | right matched => exact .inr matched
  · rintro (matched | matched)
    · exact .left matched
    · exact .right matched

/-! ## Settled parts -/

theorem matches_thenPattern_iff :
    Matches (first.thenPattern second) text ↔ Matches (.seq first second) text := by
  cases first with
  | never =>
      constructor
      · intro matched
        exact absurd matched not_matches_never
      · rw [matches_seq_iff]
        rintro ⟨_, _, _, starts, _⟩
        exact absurd starts not_matches_never
  | empty =>
      rw [thenPattern, matches_seq_iff]
      constructor
      · intro matched
        exact ⟨[], text, rfl, .empty, matched⟩
      · rintro ⟨start, rest, rfl, starts, continues⟩
        cases starts
        exact continues
  | one | seq | either | many => rfl

theorem matches_orPattern_iff :
    Matches (left.orPattern right) text ↔ Matches (.either left right) text := by
  have nothing (other : Pattern) :
      Matches other text ↔ Matches .never text ∨ Matches other text := by
    simp [not_matches_never]
  rw [matches_either_iff]
  cases left with
  | never => exact nothing right
  | empty | one | seq | either | many =>
      cases right with
      | never => exact (nothing _).trans or_comm
      | empty | one | seq | either | many => exact matches_either_iff

/-! ## One character -/

theorem nullable_iff (pattern : Pattern) : pattern.nullable = true ↔ Matches pattern [] := by
  induction pattern with
  | never => simp [nullable, not_matches_never]
  | empty => simp [nullable, matches_empty_iff]
  | one test =>
      rw [nullable]
      constructor
      · intro impossible
        cases impossible
      · intro matched
        cases matched
  | seq first second firstIH secondIH =>
      rw [nullable, Bool.and_eq_true, firstIH, secondIH, matches_seq_iff]
      constructor
      · rintro ⟨starts, continues⟩
        exact ⟨[], [], rfl, starts, continues⟩
      · rintro ⟨start, rest, split, starts, continues⟩
        obtain ⟨rfl, rfl⟩ := List.append_eq_nil_iff.mp split.symm
        exact ⟨starts, continues⟩
  | either left right leftIH rightIH =>
      rw [nullable, Bool.or_eq_true, leftIH, rightIH, matches_either_iff]
  | many body _ =>
      constructor
      · intro _
        exact .done
      · intro _
        rfl

theorem matches_one_cons_iff {test : Char → Bool} :
    Matches (.one test) (character :: text) ↔ test character = true ∧ text = [] := by
  constructor
  · intro matched
    cases matched with
    | one passed => exact ⟨passed, rfl⟩
  · rintro ⟨passed, rfl⟩
    exact .one passed

/-- The first character belongs to the first part, unless that part is empty. -/
theorem matches_seq_cons_iff :
    Matches (.seq first second) (character :: text) ↔
      (∃ start rest, text = start ++ rest ∧ Matches first (character :: start) ∧
        Matches second rest) ∨
      Matches first [] ∧ Matches second (character :: text) := by
  rw [matches_seq_iff]
  constructor
  · rintro ⟨start, rest, split, starts, continues⟩
    rcases List.cons_eq_append_iff.mp split with ⟨rfl, rfl⟩ | ⟨more, rfl, rfl⟩
    · exact .inr ⟨starts, continues⟩
    · exact .inl ⟨more, rest, rfl, starts, continues⟩
  · rintro (⟨start, rest, rfl, starts, continues⟩ | ⟨starts, continues⟩)
    · exact ⟨character :: start, rest, rfl, starts, continues⟩
    · exact ⟨[], character :: text, rfl, starts, continues⟩

/-- Empty repetitions can be left out, so some repetition starts with the first character. -/
theorem exists_of_matches_many (matched : Matches (.many body) (character :: text)) :
    ∃ start rest, text = start ++ rest ∧ Matches body (character :: start) ∧
      Matches (.many body) rest := by
  generalize repeated : Pattern.many body = pattern at matched
  generalize whole : character :: text = written at matched
  induction matched with
  | empty | one | seq | left | right => cases repeated
  | done => cases whole
  | @again _ start rest starts continues _ ih =>
      cases repeated
      rcases List.cons_eq_append_iff.mp whole with ⟨rfl, rfl⟩ | ⟨more, rfl, rfl⟩
      · exact ih rfl rfl
      · exact ⟨more, rest, rfl, starts, continues⟩

theorem matches_after_iff (character : Char) (pattern : Pattern) (text : List Char) :
    Matches (pattern.after character) text ↔ Matches pattern (character :: text) := by
  induction pattern generalizing text with
  | never =>
      rw [after]
      constructor <;> (intro matched; exact absurd matched not_matches_never)
  | empty =>
      rw [after, matches_empty_iff]
      simp [not_matches_never]
  | one test =>
      rw [after, matches_one_cons_iff]
      split
      case isTrue passed => rw [matches_empty_iff, and_iff_right passed]
      case isFalse failed => simp [failed, not_matches_never]
  | seq first second firstIH secondIH =>
      have within : Matches ((first.after character).thenPattern second) text ↔
          ∃ start rest, text = start ++ rest ∧ Matches first (character :: start) ∧
            Matches second rest := by
        rw [matches_thenPattern_iff, matches_seq_iff]
        simp only [firstIH]
      rw [after, matches_seq_cons_iff, ← nullable_iff]
      split
      case isTrue skippable =>
        rw [matches_orPattern_iff, matches_either_iff, within, secondIH,
          and_iff_right skippable]
      case isFalse visible =>
        rw [within]
        simp [visible]
  | either left right leftIH rightIH =>
      rw [after, matches_orPattern_iff, matches_either_iff, matches_either_iff, leftIH, rightIH]
  | many body ih =>
      rw [after, matches_thenPattern_iff, matches_seq_iff]
      simp only [ih]
      constructor
      · rintro ⟨start, rest, rfl, starts, continues⟩
        exact .again starts continues
      · exact exists_of_matches_many

/-- A text is accepted exactly if it belongs to the pattern. -/
theorem accepts_iff_matches (pattern : Pattern) (text : List Char) :
    pattern.accepts text = true ↔ Matches pattern text := by
  induction text generalizing pattern with
  | nil => exact nullable_iff pattern
  | cons character rest ih => rw [accepts, ih, matches_after_iff]

/-! ## Forms of a character -/

/-- No test of a pattern tells a character from its form. -/
def Ignores (form : Char → Char) : Pattern → Prop
  | never | empty => True
  | one test => ∀ character, test (form character) = test character
  | seq first second => first.Ignores form ∧ second.Ignores form
  | either left right => left.Ignores form ∧ right.Ignores form
  | many body => body.Ignores form

/-- A text whose characters have the same forms belongs to the same patterns. -/
theorem Matches.of_map_eq {form : Char → Char} {other : List Char}
    (matched : Matches pattern text) (ignores : pattern.Ignores form)
    (same : other.map form = text.map form) : Matches pattern other := by
  induction matched generalizing other with
  | empty =>
      rw [List.map_nil, List.map_eq_nil_iff] at same
      rw [same]
      exact .empty
  | @one test character passed =>
      rw [List.map_cons, List.map_nil, List.map_eq_cons_iff] at same
      obtain ⟨alike, rest, rfl, form, nothing⟩ := same
      obtain rfl := List.map_eq_nil_iff.mp nothing
      apply Matches.one
      rw [← ignores alike, form, ignores character]
      exact passed
  | seq _ _ startIH restIH =>
      rw [List.map_append, List.map_eq_append_iff] at same
      obtain ⟨start, rest, rfl, sameStart, sameRest⟩ := same
      exact .seq (startIH ignores.1 sameStart) (restIH ignores.2 sameRest)
  | left _ ih => exact .left (ih ignores.1 same)
  | right _ ih => exact .right (ih ignores.2 same)
  | done =>
      rw [List.map_nil, List.map_eq_nil_iff] at same
      rw [same]
      exact .done
  | again _ _ startIH restIH =>
      rw [List.map_append, List.map_eq_append_iff] at same
      obtain ⟨start, rest, rfl, sameStart, sameRest⟩ := same
      exact .again (startIH ignores sameStart) (restIH ignores sameRest)

theorem accepts_eq_of_map_eq {form : Char → Char} {other : List Char}
    (ignores : pattern.Ignores form) (same : other.map form = text.map form) :
    pattern.accepts other = pattern.accepts text := by
  rw [Bool.eq_iff_iff, accepts_iff_matches, accepts_iff_matches]
  constructor
  · intro matched
    exact matched.of_map_eq ignores same.symm
  · intro matched
    exact matched.of_map_eq ignores same

theorem ignores_word {form : Char → Char} {letters : String}
    (distinct : ∀ letter ∈ letters.toList, ∀ character,
      (form character == letter) = (character == letter)) :
    (word letters).Ignores form := by
  unfold word
  generalize letters.toList = spelled at distinct ⊢
  induction spelled with
  | nil => trivial
  | cons letter rest ih =>
      obtain ⟨first, others⟩ := List.forall_mem_cons.mp distinct
      exact ⟨first, ih others⟩

/-! ## What the texts of a pattern start with -/

/-- Whether each text of a pattern starts with one of some words. -/
def Opens (pattern : Pattern) (words : List (List Char)) : Prop :=
  ∀ text, Matches pattern text → ∃ word ∈ words, word <+: text

variable {words further : List (List Char)}

theorem Opens.mono (opens : Opens pattern words) (subset : words ⊆ further) :
    Opens pattern further := by
  intro text matched
  obtain ⟨word, listed, begins⟩ := opens text matched
  exact ⟨word, subset listed, begins⟩

theorem eq_of_matches_word {fixed : String} (matched : Matches (.word fixed) text) :
    text = fixed.toList := by
  unfold word at matched
  generalize fixed.toList = characters at matched ⊢
  induction characters generalizing text with
  | nil =>
      cases matched
      rfl
  | cons character rest ih =>
      obtain ⟨start, later, rfl, starts, continues⟩ := matches_seq_iff.mp matched
      cases starts with
      | one same =>
          rw [beq_iff_eq] at same
          rw [same, ih continues, List.singleton_append]

theorem opens_word (fixed : String) : Opens (.word fixed) [fixed.toList] := by
  intro text matched
  rw [eq_of_matches_word matched]
  exact ⟨_, List.mem_singleton_self _, List.prefix_rfl⟩

theorem Opens.seq (opens : Opens first words) : Opens (.seq first second) words := by
  intro text matched
  obtain ⟨start, rest, rfl, starts, _⟩ := matches_seq_iff.mp matched
  obtain ⟨word, listed, begins⟩ := opens start starts
  exact ⟨word, listed, begins.trans (List.prefix_append start rest)⟩

theorem Opens.word_seq (fixed : String) (opens : Opens second words) :
    Opens (.seq (.word fixed) second) (words.map (fixed.toList ++ ·)) := by
  intro text matched
  obtain ⟨start, rest, rfl, starts, continues⟩ := matches_seq_iff.mp matched
  obtain ⟨word, listed, begins⟩ := opens rest continues
  rw [eq_of_matches_word starts]
  exact ⟨_, List.mem_map_of_mem listed, (List.prefix_append_right_inj _).mpr begins⟩

theorem Opens.either (opensLeft : Opens left words) (opensRight : Opens right further) :
    Opens (.either left right) (words ++ further) := by
  intro text matched
  rcases matches_either_iff.mp matched with matched | matched
  · obtain ⟨word, listed, begins⟩ := opensLeft text matched
    exact ⟨word, List.mem_append_left further listed, begins⟩
  · obtain ⟨word, listed, begins⟩ := opensRight text matched
    exact ⟨word, List.mem_append_right words listed, begins⟩

/-- Behind a part that may be missing. -/
theorem Opens.maybe_seq (opens : Opens (.seq first second) words)
    (opensRest : Opens second further) :
    Opens (.seq (.maybe first) second) (words ++ further) := by
  intro text matched
  obtain ⟨start, rest, rfl, starts, continues⟩ := matches_seq_iff.mp matched
  apply (Opens.either opens opensRest) (start ++ rest)
  rw [matches_either_iff]
  rcases matches_either_iff.mp starts with present | missing
  · exact .inl (.seq present continues)
  · cases missing
    exact .inr continues

theorem opens_choice_nil : Opens (.choice []) [] := by
  intro text matched
  exact absurd matched not_matches_never

theorem Opens.choice_cons {patterns : List Pattern} (opens : Opens pattern words)
    (opensOthers : Opens (.choice patterns) further) :
    Opens (.choice (pattern :: patterns)) (words ++ further) :=
  Opens.either opens opensOthers

/-- Two words that the same text starts with agree as far as both go. -/
theorem Opens.exists_prefix (opens : Opens left words) (opensOther : Opens right further)
    (matched : Matches left text) (matchedOther : Matches right text) :
    ∃ word ∈ words, ∃ other ∈ further, word <+: other ∨ other <+: word := by
  obtain ⟨word, listed, begins⟩ := opens text matched
  obtain ⟨other, otherListed, otherBegins⟩ := opensOther text matchedOther
  exact ⟨word, listed, other, otherListed,
    List.prefix_or_prefix_of_prefix begins otherBegins⟩

end ProfileShell.Text.Pattern
