import Mathlib.Data.List.Basic
import ProfileShell.Json.Reader
import ProfileShell.Text.Unprintable

/-!
# The text of a JSON value

What stands in the text of a value: the names and the texts that the value holds, each
character of them escaped where it has to be, and marks between them.
-/

namespace ProfileShell

open Text (IsPrintable)

/-- Lists behind one another with a separator in between. -/
def separated {α : Type} (separator : α) : List (List α) → List α
  | [] => []
  | part :: later => part ++ later.flatMap (separator :: ·)

private theorem forall_mem_separated {α : Type} {separator : α} {parts : List (List α)}
    {good : α → Prop} (atSeparator : good separator) (each : ∀ part ∈ parts, ∀ entry ∈ part, good entry) :
    ∀ entry ∈ separated separator parts, good entry := by
  intro entry member
  cases parts with
  | nil => exact absurd member List.not_mem_nil
  | cons part later =>
      rw [separated, List.mem_append, List.mem_flatMap] at member
      rcases member with here | ⟨other, listed, inside⟩
      · exact each part List.mem_cons_self entry here
      · rcases List.mem_cons.mp inside with rfl | inside
        · exact atSeparator
        · exact each other (List.mem_cons_of_mem _ listed) entry inside

namespace Json

variable {character : Char} {json : Json}

theorem writeItems_eq (items : List Json) :
    writeItems items = separated ',' (items.map write) := by
  induction items with
  | nil => rfl
  | cons item later ih =>
      cases later with
      | nil => simp [writeItems, separated]
      | cons => simp [writeItems, ih, separated]

theorem writeFields_eq (fields : List (String × Json)) :
    writeFields fields =
      separated ',' (fields.map fun field => quote field.1 ++ ':' :: field.2.write) := by
  induction fields with
  | nil => rfl
  | cons field later ih =>
      cases later with
      | nil => simp [writeFields, separated]
      | cons => simp [writeFields, ih, separated]

/-! ## Escapes -/

/-- The ways in which a character is written: by a short escape, by its number or as it is. -/
theorem escape_cases (character : Char) :
    (∃ sign, escape character = ['\\', sign] ∧ shortEscape? sign = some character) ∨
    (character.toNat < 0x20 ∧ escape character =
      ['\\', 'u', '0', '0', Nat.digitChar (character.toNat / 16),
        Nat.digitChar (character.toNat % 16)]) ∨
    (0x20 ≤ character.toNat ∧ character ≠ '"' ∧ character ≠ '\\' ∧
      escape character = [character]) := by
  by_cases short : character ∈ ['"', '\\', '\x08', '\t', '\n', '\x0c', '\r']
  · left
    simp only [List.mem_cons, List.not_mem_nil, or_false] at short
    rcases short with rfl | rfl | rfl | rfl | rfl | rfl | rfl <;> exact ⟨_, rfl, rfl⟩
  · right
    simp only [List.mem_cons, List.not_mem_nil, or_false, not_or] at short
    by_cases control : character.toNat < 0x20
    · exact .inl ⟨control, by simp [escape, short, control]⟩
    · exact .inr ⟨Nat.le_of_not_lt control, short.1, short.2.1, by simp [escape, short, control]⟩

/-! ## The characters of a value -/

theorem printable_of_shortEscape? {sign : Char} (short : shortEscape? sign = some character) :
    IsPrintable sign := by
  unfold shortEscape? at short
  split at short <;> first | decide | cases short

private theorem printable_digitChar : ∀ digit < 0x10, IsPrintable (Nat.digitChar digit) := by
  decide

/-- A word is a name or a text of a value. -/
inductive Mentions (word : String) : Json → Prop where
  | text : Mentions word (.text word)
  | item {items : List Json} {item : Json} (listed : item ∈ items)
      (inside : Mentions word item) : Mentions word (.list items)
  | name {fields : List (String × Json)} {field : String × Json} (listed : field ∈ fields)
      (named : field.1 = word) : Mentions word (.object fields)
  | field {fields : List (String × Json)} {field : String × Json} (listed : field ∈ fields)
      (inside : Mentions word field.2) : Mentions word (.object fields)

section Written

-- Besides its own characters a value is written with printable ones only.
variable {good : Char → Prop} (printable : ∀ written, IsPrintable written → good written)
include printable

theorem forall_mem_escape (itself : 0x20 ≤ character.toNat → good character) :
    ∀ written ∈ escape character, good written := by
  have backslash : good '\\' := printable _ (by decide)
  rcases escape_cases character with ⟨sign, escaped, short⟩ | ⟨control, escaped⟩ |
    ⟨visible, _, _, escaped⟩
  · have meaning := printable sign (printable_of_shortEscape? short)
    simp only [escaped, List.forall_mem_cons]
    exact ⟨backslash, meaning, List.forall_mem_nil good⟩
  · have letter : good 'u' := printable _ (by decide)
    have zero : good '0' := printable _ (by decide)
    have first := printable _ (printable_digitChar (character.toNat / 16) (by omega))
    have second := printable _ (printable_digitChar (character.toNat % 16) (by omega))
    simp only [escaped, List.forall_mem_cons]
    exact ⟨backslash, letter, zero, zero, first, second, List.forall_mem_nil good⟩
  · rw [escaped, List.forall_mem_singleton]
    exact itself visible

theorem forall_mem_quote {word : String}
    (inside : ∀ character ∈ word.toList, 0x20 ≤ character.toNat → good character) :
    ∀ written ∈ quote word, good written := by
  have mark : good '"' := printable _ (by decide)
  rw [quote, List.cons_append, List.forall_mem_cons, List.forall_mem_append,
    List.forall_mem_flatMap, List.forall_mem_singleton]
  exact ⟨mark, fun character listed =>
    forall_mem_escape printable (inside character listed), mark⟩

theorem forall_mem_collection {opening closing : Char} {parts : List (List Char)}
    (opens : IsPrintable opening) (closes : IsPrintable closing)
    (each : ∀ part ∈ parts, ∀ written ∈ part, good written) :
    ∀ written ∈ opening :: separated ',' parts ++ [closing], good written := by
  have comma : good ',' := printable _ (by decide)
  rw [List.cons_append, List.forall_mem_cons, List.forall_mem_append, List.forall_mem_singleton]
  exact ⟨printable opening opens, forall_mem_separated comma each, printable closing closes⟩

/-- What holds of printable characters, and of the characters of the names and the texts of
a value that are no control characters, holds of all that is written for the value. -/
theorem forall_mem_write (words : ∀ word, Mentions word json →
      ∀ character ∈ word.toList, 0x20 ≤ character.toNat → good character) :
    ∀ written ∈ json.write, good written := by
  induction json using value.induct with
  | case1 =>
      simp only [write, List.forall_mem_cons]
      exact ⟨printable _ (by decide), printable _ (by decide), printable _ (by decide),
        printable _ (by decide), List.forall_mem_nil good⟩
  | case2 word =>
      rw [write]
      exact forall_mem_quote printable (words word .text)
  | case3 items each =>
      rw [write, writeItems_eq]
      refine forall_mem_collection printable (by decide) (by decide) ?_
      rw [List.forall_mem_map]
      intro item listed
      exact each item listed fun word said => words word (.item listed said)
  | case4 fields each =>
      have colon : good ':' := printable _ (by decide)
      rw [write, writeFields_eq]
      refine forall_mem_collection printable (by decide) (by decide) ?_
      rw [List.forall_mem_map]
      intro field listed
      rw [List.forall_mem_append, List.forall_mem_cons]
      have name := forall_mem_quote printable (words field.1 (.name listed rfl))
      exact ⟨name, colon, each field listed fun word said => words word (.field listed said)⟩

end Written

end Json

end ProfileShell
