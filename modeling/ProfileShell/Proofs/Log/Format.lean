import ProfileShell.Proofs.Text.Pattern
import ProfileShell.Settings

/-!
# The names of the log formats

A name is read as the format whose pattern it belongs to, once the blanks around it are gone
and it is in lower case.  The first letters of a name already tell the formats apart: the
families of names do not overlap, and it does not matter in which order they are tried.
It does not matter either which form a capital sigma takes at the end of a word.
-/

namespace ProfileShell.Log.Format

open Text.Pattern (Matches Opens opens_word opens_choice_nil accepts_iff_matches)

variable {format other : Format} {text : List Char}

/-! ## How names start -/

/-- What the names of a format start with. -/
def openings : Format → List String
  | null => ["/", "dev", "null", "no"]
  | standard => ["standard", "default", "graphic", "ansi", "x", "term", "u", "rx", "vt"]
  | ascii => ["ascii", "plain", "text", "txt"]
  | json => ["js", "jq"]

private theorem opens_textWord : Opens textWord ["text".toList, "txt".toList] := by
  have lastLetters : Opens (.sequence [.word "xt"]) ["xt".toList] :=
    Opens.seq (opens_word "xt")
  have behindFirst : Opens (.sequence [.maybe (.word "e"), .word "xt"])
      ["ext".toList, "xt".toList] :=
    Opens.maybe_seq (Opens.word_seq "e" lastLetters) lastLetters
  exact Opens.word_seq "t" behindFirst

private theorem opens_names_null : Opens (names null) ((openings null).map String.toList) := by
  have device : Opens (.sequence [.maybe (.word "/"), .word "dev", .maybe (.word "/")])
      ["/".toList, "dev".toList] :=
    Opens.maybe_seq (Opens.seq (opens_word "/")) (Opens.seq (opens_word "dev"))
  have opens : Opens (names null) _ :=
    Opens.choice_cons (Opens.maybe_seq (Opens.seq device) (opens_word "null")) <|
    Opens.choice_cons (Opens.seq (opens_word "no")) opens_choice_nil
  exact opens.mono (by decide)

private theorem opens_names_standard :
    Opens (names standard) ((openings standard).map String.toList) := by
  have terminal : Opens (.sequence [.maybe (.word "x"), .word "term", restOfLine])
      ["x".toList, "term".toList] :=
    Opens.maybe_seq (Opens.seq (opens_word "x")) (Opens.seq (opens_word "term"))
  have emulator (number : Text.Pattern) :
      Opens (.sequence [.maybe (.seq (.maybe (.word "u")) (.word "rx")), .word "vt", number])
        ["u".toList, "rx".toList, "vt".toList] :=
    Opens.maybe_seq (Opens.seq (Opens.maybe_seq (Opens.seq (opens_word "u")) (opens_word "rx")))
      (Opens.seq (opens_word "vt"))
  have opens : Opens (names standard) _ :=
    Opens.choice_cons (opens_word "standard") <|
    Opens.choice_cons (opens_word "default") <|
    Opens.choice_cons (Opens.seq (opens_word "graphic")) <|
    Opens.choice_cons (opens_word "ansi") <|
    Opens.choice_cons terminal <|
    Opens.choice_cons (emulator _) opens_choice_nil
  exact opens.mono (by decide)

private theorem opens_names_ascii : Opens (names ascii) ((openings ascii).map String.toList) := by
  have opens : Opens (names ascii) _ :=
    Opens.choice_cons (opens_word "ascii") <|
    Opens.choice_cons
      (Opens.maybe_seq (Opens.seq (Opens.seq (opens_word "plain"))) opens_textWord) <|
    Opens.choice_cons (Opens.seq (opens_word "plain")) opens_choice_nil
  exact opens.mono (by decide)

private theorem opens_names_json : Opens (names json) ((openings json).map String.toList) := by
  have opens : Opens (names json) _ :=
    Opens.choice_cons (Opens.seq (opens_word "js")) <|
    Opens.choice_cons (opens_word "jq") opens_choice_nil
  exact opens.mono (by decide)

theorem opens_names (format : Format) :
    Opens format.names (format.openings.map String.toList) := by
  cases format with
  | null => exact opens_names_null
  | standard => exact opens_names_standard
  | ascii => exact opens_names_ascii
  | json => exact opens_names_json

/-! ## The families of names -/

private theorem openings_apart (different : format ≠ other) :
    ∀ word ∈ format.openings.map String.toList, ∀ further ∈ other.openings.map String.toList,
      ¬ word <+: further := by
  cases format <;> cases other <;> first | exact absurd rfl different | decide

theorem names_disjoint (matched : Matches format.names text)
    (otherMatched : Matches other.names text) : format = other := by
  apply Decidable.byContradiction
  intro different
  obtain ⟨word, listed, further, furtherListed, agree⟩ :=
    Opens.exists_prefix (opens_names format) (opens_names other) matched otherMatched
  rcases agree with begins | begins
  · exact openings_apart different word listed further furtherListed begins
  · exact openings_apart (Ne.symm different) further furtherListed word listed begins

/-! ## Sigmas -/

/-- The medial form of a sigma, which is one of the two small ones. -/
def medialSigma (character : Char) : Char :=
  if character = 'ς' then 'σ' else character

private theorem map_medialSigma_lowerCaseBy (isFinal : List Char → List Char → Bool)
    (ahead letters : List Char) :
    (Text.lowerCaseBy isFinal ahead letters).map medialSigma =
      (letters.flatMap Text.lowerCaseOf).map medialSigma := by
  induction letters generalizing ahead with
  | nil => rfl
  | cons letter behind ih =>
      rw [Text.lowerCaseBy, List.flatMap_cons, List.map_append, List.map_append, ih]
      congr 1
      split
      next sigma =>
        rw [Bool.and_eq_true, decide_eq_true_eq] at sigma
        rw [sigma.1]
        decide
      next => rfl

private theorem ignores_word_medialSigma {letters : String}
    (latin : letters.toList.all (fun letter => letter != 'σ' && letter != 'ς') = true) :
    (Text.Pattern.word letters).Ignores medialSigma := by
  apply Text.Pattern.ignores_word
  intro letter member character
  have other := List.all_eq_true.mp latin letter member
  rw [Bool.and_eq_true, bne_iff_ne, bne_iff_ne] at other
  obtain ⟨notMedial, notFinal⟩ := other
  unfold medialSigma
  split
  next final =>
    subst character
    rw [beq_false_of_ne (Ne.symm notMedial), beq_false_of_ne (Ne.symm notFinal)]
  next => rfl

private theorem ignores_restOfLine : restOfLine.Ignores medialSigma := by
  intro character
  unfold medialSigma
  split
  next final => rw [final]; rfl
  next => rfl

private theorem isDecimalDigit_medialSigma (character : Char) :
    Text.isDecimalDigit (medialSigma character) = Text.isDecimalDigit character := by
  unfold medialSigma
  split
  next final => rw [final]; decide
  next => rfl

theorem ignores_names (format : Format) : format.names.Ignores medialSigma := by
  cases format with
  | null =>
      simp (disch := decide) [names, Text.Pattern.Ignores, Text.Pattern.choice,
        Text.Pattern.sequence, Text.Pattern.maybe, ignores_word_medialSigma]
  | standard =>
      simp (disch := decide) [names, Text.Pattern.Ignores, Text.Pattern.choice,
        Text.Pattern.sequence, Text.Pattern.maybe, Text.Pattern.oneOrMore,
        ignores_word_medialSigma, ignores_restOfLine, isDecimalDigit_medialSigma]
  | ascii =>
      simp (disch := decide) [names, textWord, Text.Pattern.Ignores, Text.Pattern.choice,
        Text.Pattern.sequence, Text.Pattern.maybe, ignores_word_medialSigma]
  | json =>
      simp (disch := decide) [names, Text.Pattern.Ignores, Text.Pattern.choice,
        Text.Pattern.maybe, ignores_word_medialSigma]

/-- Which sigmas of a name count as the last letters of words does not matter. -/
theorem accepts_lowerCaseBy (isFinal : List Char → List Char → Bool) (format : Format)
    (name : String) :
    format.names.accepts (Text.lowerCaseBy isFinal [] (Text.trim name).toList) =
      format.names.accepts (normalForm name) := by
  apply Text.Pattern.accepts_eq_of_map_eq (ignores_names format)
  rw [map_medialSigma_lowerCaseBy, normalForm, Text.lowerCase, String.toList_ofList]

theorem mem_all (format : Format) : format ∈ all := by
  cases format <;> decide

/-- Whatever the order in which the formats are tried, the one that a name belongs to is
found. -/
theorem find?_accepts_eq_some_iff {order : List Format} (complete : ∀ format, format ∈ order)
    (text : List Char) (format : Format) :
    order.find? (fun candidate => candidate.names.accepts text) = some format ↔
      Matches format.names text := by
  constructor
  · intro found
    have accepted := List.find?_some found
    exact (accepts_iff_matches _ _).mp accepted
  · intro matched
    have accepted := (accepts_iff_matches _ _).mpr matched
    cases found : order.find? (fun candidate => candidate.names.accepts text) with
    | none =>
        have refused := List.find?_eq_none.mp found format (complete format)
        exact absurd accepted refused
    | some candidate =>
        have candidateAccepted := List.find?_some found
        rw [names_disjoint ((accepts_iff_matches _ _).mp candidateAccepted) matched]

theorem ofName?_eq_some_iff (name : String) (format : Format) :
    ofName? name = some format ↔ Matches format.names (normalForm name) :=
  find?_accepts_eq_some_iff mem_all (normalForm name) format

theorem ofName?_eq_none_iff (name : String) :
    ofName? name = none ↔ ∀ format : Format, ¬ Matches format.names (normalForm name) := by
  simp only [← ofName?_eq_some_iff]
  exact Option.eq_none_iff_forall_ne_some

end ProfileShell.Log.Format
