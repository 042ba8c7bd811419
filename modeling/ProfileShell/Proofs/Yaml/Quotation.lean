import ProfileShell.Json
import ProfileShell.Text.Unprintable
import ProfileShell.Yaml.Scalar

/-!
# Quoted text of one line

A JSON string of printable characters is a double-quoted YAML scalar of the same text.
The reader of such a scalar holds spaces back until it knows that no line break follows
them, so what it has read so far is told with the spaces that are still held back.
-/

namespace ProfileShell

open Text (IsPrintable AllPrintable)

variable {character : Char}

theorem Text.IsPrintable.ne_of_lt (printable : IsPrintable character) (other : Char)
    (control : other.toNat < 0x20) : character ≠ other := by
  rintro rfl
  exact absurd printable.1 (Nat.not_le.mpr control)

theorem Text.IsPrintable.ne_of_gt (printable : IsPrintable character) (other : Char)
    (beyond : 0x7E < other.toNat) : character ≠ other := by
  rintro rfl
  exact absurd printable.2 (Nat.not_le.mpr beyond)

namespace Json

theorem escape_of_special (special : character = '"' ∨ character = '\\') :
    escape character = ['\\', character] := by
  rcases special with rfl | rfl <;> rfl

theorem escape_of_plain (printable : IsPrintable character)
    (plain : ¬ (character = '"' ∨ character = '\\')) : escape character = [character] := by
  unfold escape
  rw [if_neg (by simpa using plain), if_neg (printable.ne_of_lt _ (by decide)),
    if_neg (printable.ne_of_lt _ (by decide)), if_neg (printable.ne_of_lt _ (by decide)),
    if_neg (printable.ne_of_lt _ (by decide)), if_neg (printable.ne_of_lt _ (by decide)),
    if_neg (Nat.not_lt.mpr printable.1)]

private theorem length_escape_le (printable : IsPrintable character) :
    (escape character).length ≤ 2 := by
  by_cases special : character = '"' ∨ character = '\\'
  · simp [escape_of_special special]
  · simp [escape_of_plain printable special]

theorem length_quote_le {value : String} (printable : AllPrintable value) :
    (quote value).length ≤ 2 * value.length + 2 := by
  have escaped : ∀ text : List Char, (∀ inside ∈ text, IsPrintable inside) →
      (text.flatMap escape).length ≤ 2 * text.length := by
    intro text
    induction text with
    | nil => simp
    | cons inside rest ih =>
        intro each
        obtain ⟨first, others⟩ := List.forall_mem_cons.mp each
        have here := length_escape_le first
        have later := ih others
        rw [List.flatMap_cons, List.length_append, List.length_cons]
        omega
  have inner := escaped value.toList printable
  rw [String.length_toList] at inner
  rw [quote, List.cons_append, List.length_cons, List.length_append, List.length_singleton]
  omega

end Json

namespace Yaml

theorem isBreak_of_printable (printable : IsPrintable character) :
    isBreak character = false := by
  have lineFeed := printable.ne_of_lt '\n' (by decide)
  have lineSeparator := printable.ne_of_gt '\u2028' (by decide)
  have paragraphSeparator := printable.ne_of_gt '\u2029' (by decide)
  simp [isBreak, lineFeed, lineSeparator, paragraphSeparator]

theorem isGap_of_printable (printable : IsPrintable character) :
    isGap character = (character == ' ') := by
  have tab := printable.ne_of_lt '\t' (by decide)
  simp [isGap, tab]

theorem Mark.after_of_printable (printable : IsPrintable character) (mark : Mark) :
    mark.after character = ⟨mark.line, mark.column + 1⟩ := by
  simp [Mark.after, isBreak_of_printable printable]

/-- Reading text of one line, with or without spaces held back. -/
def Quoting.InLine : Quoting → Prop
  | .content => True
  | .fold run => run.broken = false
  | .escape | .code _ _ => False

variable {quoting : Quoting} {reversed : List Char} {mark : Mark}

/-- A space is held back. -/
theorem doubleQuoted_space (inLine : quoting.InLine) :
    ∃ next : Quoting, next.InLine ∧
      next.settle reversed = ' ' :: quoting.settle reversed ∧
      ∀ rest, doubleQuoted quoting reversed mark (' ' :: rest) =
        doubleQuoted next reversed ⟨mark.line, mark.column + 1⟩ rest := by
  cases quoting with
  | content =>
      exact ⟨.fold ⟨[' '], false, [], []⟩, rfl, rfl, fun _ => rfl⟩
  | fold run =>
      obtain ⟨gaps, broken, first, later⟩ := run
      cases (inLine : broken = false)
      refine ⟨.fold ⟨gaps ++ [' '], false, first, later⟩, rfl, ?_, fun _ => rfl⟩
      simp [Quoting.settle, Fold.text]
  | escape => exact inLine.elim
  | code => exact inLine.elim

theorem doubleQuoted_visible (inLine : quoting.InLine) (printable : IsPrintable character)
    (visible : character ≠ ' ') (inside : mark.column ≠ 0) (rest : List Char) :
    doubleQuoted quoting reversed mark (character :: rest) =
      if character = '"' then
        some ((quoting.settle reversed).reverse, ⟨rest, ⟨mark.line, mark.column + 1⟩⟩)
      else if character = '\\' then
        doubleQuoted .escape (quoting.settle reversed) ⟨mark.line, mark.column + 1⟩ rest
      else
        doubleQuoted .content (character :: quoting.settle reversed)
          ⟨mark.line, mark.column + 1⟩ rest := by
  have noGap : (isGap character || isBreak character) = false := by
    simp [isGap_of_printable printable, isBreak_of_printable printable, visible]
  cases quoting with
  | content | fold run =>
      rw [doubleQuoted]
      simp only [noGap, inside, Mark.after_of_printable printable]
      rfl
      all_goals intros; contradiction
  | escape => exact inLine.elim
  | code => exact inLine.elim

theorem escapeMeaning?_of_special (special : character = '"' ∨ character = '\\') :
    isBreak character = false ∧ escapeMeaning? character = some (.inl character) := by
  rcases special with rfl | rfl <;> decide

/-- One character of a JSON string is read as that character. -/
theorem doubleQuoted_escape (inLine : quoting.InLine) (printable : IsPrintable character)
    (inside : mark.column ≠ 0) (reversed : List Char) :
    ∃ (next : Quoting) (read : List Char), next.InLine ∧
      next.settle read = character :: quoting.settle reversed ∧
      ∀ rest, doubleQuoted quoting reversed mark (Json.escape character ++ rest) =
        doubleQuoted next read
          ⟨mark.line, mark.column + (Json.escape character).length⟩ rest := by
  by_cases space : character = ' '
  · subst space
    obtain ⟨next, nextInLine, settled, read⟩ := doubleQuoted_space inLine
    exact ⟨next, reversed, nextInLine, settled, read⟩
  by_cases special : character = '"' ∨ character = '\\'
  · refine ⟨.content, character :: quoting.settle reversed, trivial, rfl, fun rest => ?_⟩
    obtain ⟨noBreak, meaning⟩ := escapeMeaning?_of_special special
    rw [Json.escape_of_special special, List.cons_append, List.singleton_append,
      doubleQuoted_visible inLine (by decide) (by decide) inside, if_neg (by decide),
      if_pos rfl, doubleQuoted, noBreak, meaning, Mark.after_of_printable printable]
    rfl
  · refine ⟨.content, character :: quoting.settle reversed, trivial, rfl, fun rest => ?_⟩
    rw [Json.escape_of_plain printable special, List.singleton_append,
      doubleQuoted_visible inLine printable space inside,
      if_neg fun same => special (.inl same), if_neg fun same => special (.inr same)]
    rfl

theorem doubleQuoted_flatMap_escape {text : List Char} (inLine : quoting.InLine)
    (printable : ∀ character ∈ text, IsPrintable character) (inside : mark.column ≠ 0)
    (rest : List Char) :
    doubleQuoted quoting reversed mark (text.flatMap Json.escape ++ '"' :: rest) =
      some ((quoting.settle reversed).reverse ++ text,
        ⟨rest, ⟨mark.line, mark.column + (text.flatMap Json.escape).length + 1⟩⟩) := by
  induction text generalizing quoting reversed mark with
  | nil =>
      rw [List.flatMap_nil, List.nil_append,
        doubleQuoted_visible inLine (by decide) (by decide) inside, if_pos rfl, List.append_nil]
      rfl
  | cons character others ih =>
      obtain ⟨first, later⟩ := List.forall_mem_cons.mp printable
      obtain ⟨next, read, nextInLine, settled, step⟩ :=
        doubleQuoted_escape inLine first inside reversed
      have stillInside : mark.column + (Json.escape character).length ≠ 0 := by omega
      rw [List.flatMap_cons, List.append_assoc, step, ih nextInLine later stillInside, settled,
        List.reverse_cons, List.append_assoc, List.length_append, List.singleton_append,
        Nat.add_assoc mark.column]

/-- A JSON string is a double-quoted scalar of the same text. -/
theorem doubleQuoted_quote {value : String} (printable : AllPrintable value)
    (line column : Nat) (rest : List Char) :
    ∃ body, Json.quote value ++ rest = '"' :: body ∧
      rest.length ≤ body.length ∧
      doubleQuoted .content [] ⟨line, column + 1⟩ body =
        some (value.toList, ⟨rest, ⟨line, column + (Json.quote value).length⟩⟩) := by
  refine ⟨value.toList.flatMap Json.escape ++ '"' :: rest, ?_, ?_, ?_⟩
  · simp [Json.quote]
  · simp only [List.length_append, List.length_cons]
    omega
  · have started : Quoting.InLine .content := trivial
    rw [doubleQuoted_flatMap_escape started printable (Nat.succ_ne_zero column) rest]
    have width : (Json.quote value).length = (value.toList.flatMap Json.escape).length + 2 := by
      simp [Json.quote]
    rw [width, Nat.add_assoc, Nat.add_assoc, Nat.add_comm 1]
    rfl

end Yaml

end ProfileShell
